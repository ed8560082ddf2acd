import Mathlib.Algebra.GroupWithZero.Nat
import Ebaz4205.BitMask
import Ebaz4205.DriverProgram

/-!
# The interpreter of register tables

A transcription of `ps7_config` and its helpers in `ps7_init_gpl.c`, which run before
there is an operating system. A table is an array of words: an opcode with the
number of its arguments in the last nibble, then the arguments. `unsigned long` has
32 bits here.
-/

namespace Ebaz4205.Ps7Interpreter

open DriverProgram DriverProgram.Program BitMask

set_option autoImplicit false

abbrev Word := BitVec 32

/-- The accesses through volatile pointers. -/
inductive RegisterAccess where
  | load (address : Word)
  | store (address value : Word)
  deriving DecidableEq

abbrev RegisterReply : RegisterAccess → Type
  | .load _ => Word
  | .store _ _ => Unit

/-- The table of so many words that is interpreted, and the arguments of the current
instruction. -/
inductive Ps7Array where
  | configInit (length : Nat)
  | args
  deriving DecidableEq

abbrev ps7Signature : Signature where
  Call := RegisterAccess
  Reply := RegisterReply
  Region := Ps7Array
  extent
    | .configInit length => length
    | .args => 16
  Memory := Unit

abbrev Ps7Program := Program ps7Signature

/-- What `args` holds. At first that is whatever was on the stack. -/
abbrev Arguments := Fin 16 → Word

/-- So that a numeral names an element. -/
instance argsNonempty : NeZero 16 := ⟨by decide⟩

def load (address : Word) : Ps7Program Word := .call (.load address) .done

def store (address value : Word) : Ps7Program Unit := .call (.store address value) .done

section Instructions

def opcodeExit : Word := 0
def opcodeClear : Word := 1
def opcodeWrite : Word := 2
def opcodeMaskwrite : Word := 3
def opcodeMaskpoll : Word := 4
def opcodeMaskdelay : Word := 5

/-- The lines of the tables, one for each of the `EMIT_` macros. -/
inductive Instruction where
  | exit
  | clear (addr : Word)
  | write (addr val : Word)
  | maskwrite (addr mask val : Word)
  | maskpoll (addr mask : Word)
  | maskdelay (addr mask : Word)
  deriving DecidableEq

/-- The first word of an instruction. -/
def packet (opcode : Word) (numargs : Word) : Word := (opcode <<< 4) ||| numargs

/-- The `EMIT_` macros. -/
def Instruction.emit : Instruction → List Word
  | .exit => [packet opcodeExit 0]
  | .clear addr => [packet opcodeClear 1, addr]
  | .write addr val => [packet opcodeWrite 2, addr, val]
  | .maskwrite addr mask val => [packet opcodeMaskwrite 3, addr, mask, val]
  | .maskpoll addr mask => [packet opcodeMaskpoll 2, addr, mask]
  | .maskdelay addr mask => [packet opcodeMaskdelay 2, addr, mask]

abbrev Script := List Instruction

/-- The array that a list of such lines initialises. -/
def assemble : Script → List Word
  | [] => []
  | instruction :: rest => instruction.emit ++ assemble rest

end Instructions

section Delays

def scuGlobalTimerCountL32 : Word := 0xF8F00200
def scuGlobalTimerCountU32 : Word := 0xF8F00204
def scuGlobalTimerControl : Word := 0xF8F00208

def apuFreq : Word := 666666687

/-- The product is one of unsigned words. -/
def getNumberOfCyclesForDelay (delay : Word) : Word := apuFreq * delay / (2 * 1000)

/-- The timer is enabled, counts up and has no prescaler. -/
def perfStartClock : Ps7Program Unit :=
  store scuGlobalTimerControl ((1 <<< 0) ||| (1 <<< 3) ||| (0 <<< 8))

def perfDisableClock : Ps7Program Unit := store scuGlobalTimerControl 0

def perfResetClock : Ps7Program Unit := do
  perfDisableClock
  store scuGlobalTimerCountL32 0
  store scuGlobalTimerCountU32 0

def perfResetAndStartTimer : Ps7Program Unit := do
  perfResetClock
  perfStartClock

/-- The loop of a delay, which ends when the count has come so far. -/
def delayLoop (addr delay : Word) : Nat → Ps7Program Unit
  | 0 => .unfinished
  | budget + 1 => do
      let count ← load addr
      if count < delay then delayLoop addr delay budget else return ()

end Delays

section Masks

def ps7MaskPollTime : Nat := 100000000

/-- `( val & mask ) | ( old & ~mask)`. -/
def masked (old mask val : Word) : Word := (val &&& mask) ||| (old &&& ~~~mask)

def maskWrite (add mask val : Word) : Ps7Program Unit := do
  let old ← load add
  store add (masked old mask val)

/-- The loop of a poll, with so many iterations left before the counter is at
`PS7_MASK_POLL_TIME`. It tells whether a bit of the mask was seen. -/
def pollLoop (add mask : Word) : Nat → Ps7Program Bool
  | 0 => do
      let value ← load add
      return isSet value mask
  | left + 1 => do
      let value ← load add
      if isSet value mask then return true else pollLoop add mask left

def maskPoll (add mask : Word) : Ps7Program Int := do
  let seen ← pollLoop add mask ps7MaskPollTime
  return if seen then 1 else -1

def ps7GetSiliconVersion : Ps7Program Word := do
  let version ← load 0xF8007080
  return (version &&& 0xF0000000) >>> 28

end Masks

section Interpreter

def ps7InitSuccess : Int := 0
def ps7InitCorrupt : Int := 1
def ps7InitTimeout : Int := 2

/-- The loop that copies the arguments, with so many of them left, from `j` on. -/
def copyArgs (table : List Word) (ptr : Nat) : Nat → Nat → Arguments → Ps7Program Arguments
  | 0, _, args => return args
  | left + 1, j, args => do
      let slot ← index Ps7Array.args j
      let source ← index (Ps7Array.configInit table.length) (ptr + (j + 1))
      copyArgs table ptr left (j + 1) (Function.update args slot (table.get source))

/-- The `switch`: what `finish` is after it. -/
def dispatch (budget : Nat) (opcode : Word) (args : Arguments) : Ps7Program Int :=
  if opcode = opcodeExit then return ps7InitSuccess
  else if opcode = opcodeClear then do
    store (args 0) 0
    return -1
  else if opcode = opcodeWrite then do
    store (args 0) (args 1)
    return -1
  else if opcode = opcodeMaskwrite then do
    let old ← load (args 0)
    store (args 0) (masked old (args 1) (args 2))
    return -1
  else if opcode = opcodeMaskpoll then do
    let seen ← pollLoop (args 0) (args 1) ps7MaskPollTime
    return if seen then -1 else ps7InitTimeout
  else if opcode = opcodeMaskdelay then do
    perfResetAndStartTimer
    delayLoop (args 0) (getNumberOfCyclesForDelay (args 1)) budget
    return -1
  else return ps7InitCorrupt

/-- The loop, with so many iterations left. -/
def configLoop (budget : Nat) (table : List Word) : Nat → Nat → Arguments → Ps7Program Int
  | 0, _, _ => .unfinished
  | left + 1, ptr, args => do
      let here ← index (Ps7Array.configInit table.length) ptr
      let numargs := (table.get here &&& 0xF).toNat
      let opcode := table.get here >>> 4
      let args ← copyArgs table ptr numargs 0 args
      let finish ← dispatch budget opcode args
      if finish < 0 then configLoop budget table left (ptr + (numargs + 1)) args
      else return finish

/-- Each iteration reads the table further on, so there are no more of them than words.
The budget is for the delays. -/
def ps7Config (budget : Nat) (table : List Word) (stack : Arguments) : Ps7Program Int :=
  configLoop budget table (table.length + 1) 0 stack

end Interpreter

end Ebaz4205.Ps7Interpreter
