import Ebaz4205.Ps7Tables

/-!
# The initialisation of the processor system

A transcription of `ps7_init`, `ps7_post_config` and `ps7_debug`. They choose the
tables for the version of the silicon, and run them one after the other until one
fails.
-/

namespace Ebaz4205.Ps7Init

open DriverProgram DriverProgram.Program Ps7Interpreter Ps7Tables

set_option autoImplicit false

/-- The tables of a version of the silicon. -/
inductive Stage where
  | mio
  | pll
  | clock
  | ddr
  | peripherals
  | postConfig
  | debug
  deriving DecidableEq

inductive Silicon where
  | version1
  | version2
  | version3
  deriving DecidableEq

def pcwSiliconVersion1 : Word := 0
def pcwSiliconVersion2 : Word := 1

/-- Whatever is not one of the first two versions is taken for the third. -/
def silicon (siVer : Word) : Silicon :=
  if siVer = pcwSiliconVersion1 then .version1
  else if siVer = pcwSiliconVersion2 then .version2
  else .version3

def tables (build : Build) : Silicon → Stage → Script
  | .version1, .mio => ps7MioInitData_1_0
  | .version1, .pll => ps7PllInitData_1_0
  | .version1, .clock => ps7ClockInitData_1_0 build
  | .version1, .ddr => ps7DdrInitData_1_0
  | .version1, .peripherals => ps7PeripheralsInitData_1_0
  | .version1, .postConfig => ps7PostConfig_1_0 build
  | .version1, .debug => ps7Debug_1_0
  | .version2, .mio => ps7MioInitData_2_0
  | .version2, .pll => ps7PllInitData_2_0
  | .version2, .clock => ps7ClockInitData_2_0 build
  | .version2, .ddr => ps7DdrInitData_2_0
  | .version2, .peripherals => ps7PeripheralsInitData_2_0
  | .version2, .postConfig => ps7PostConfig_2_0 build
  | .version2, .debug => ps7Debug_2_0
  | .version3, .mio => ps7MioInitData_3_0
  | .version3, .pll => ps7PllInitData_3_0
  | .version3, .clock => ps7ClockInitData_3_0 build
  | .version3, .ddr => ps7DdrInitData_3_0
  | .version3, .peripherals => ps7PeripheralsInitData_3_0
  | .version3, .postConfig => ps7PostConfig_3_0 build
  | .version3, .debug => ps7Debug_3_0

/-- `ret = ps7_config (..)` for one table after the other, as long as `ret` is
`PS7_INIT_SUCCESS`. Each call finds something else on the stack. -/
def configStages (budget : Nat) (scripts : Stage → Script) (stack : Stage → Arguments) :
    List Stage → Ps7Program Int
  | [] => return ps7InitSuccess
  | stage :: rest => do
      let ret ← ps7Config budget (assemble (scripts stage)) (stack stage)
      if ret ≠ ps7InitSuccess then return ret else configStages budget scripts stack rest

/-- The order of the tables in `ps7_init`. -/
def initStages : List Stage := [.mio, .pll, .clock, .ddr, .peripherals]

def configured (budget : Nat) (build : Build) (stack : Stage → Arguments) (stages : List Stage) :
    Ps7Program Int := do
  let siVer ← ps7GetSiliconVersion
  configStages budget (tables build (silicon siVer)) stack stages

def ps7Init (budget : Nat) (build : Build) (stack : Stage → Arguments) : Ps7Program Int :=
  configured budget build stack initStages

def ps7PostConfig (budget : Nat) (build : Build) (stack : Stage → Arguments) : Ps7Program Int :=
  configured budget build stack [.postConfig]

def ps7Debug (budget : Nat) (build : Build) (stack : Stage → Arguments) : Ps7Program Int :=
  configured budget build stack [.debug]

end Ebaz4205.Ps7Init
