import Ebaz4205.KswfloppyModule
import Ebaz4205.PartialRuns
import Ebaz4205.PulsecapModule

/-!
# The platform as the driver core runs it

Probes and removes of the three drivers in any order. The driver core probes a
device that is not bound and removes one that is; any other event changes
nothing. A probe that returns zero binds its device to the instance it left as
driver data; when a probe fails or a remove is over, the memory of the instance is
released and its driver data cleared. A call that does not return has no next
state.
-/

namespace Ebaz4205.PlatformSystem

open DriverProgram DriverProgram.Program PartialRuns PulsecapDriver PlatformKernel AximuxDriver
open PulsecapModule KswfloppyModule

set_option autoImplicit false

/-- One driver: its memory, the devices of its class, and the instances whose
probe succeeded and which have not been removed, oldest first. -/
structure DriverState (Memory : Type) where
  memory : Memory
  devices : U32 → Option ClassDevice
  live : List Instance

inductive Action where
  | probe
  | remove
  deriving DecidableEq

structure PlatformEvent where
  action : Action
  pdev : Node
  answers : KernelAnswers

/-- The return value of the driver's function, if it was called, and the state
after it. -/
structure Served (Memory : Type) where
  code : Option Int
  driver : DriverState Memory
  shared : Shared

def Shared.release (shared : Shared) (pdev : Node) : Shared :=
  { shared with drvdata := Function.update shared.drvdata pdev none }

section OneDriver

variable {Array : Type} {length : Array → Nat} {Memory : Type}

def DriverState.Bound (driver : DriverState Memory) (pdev : Node) : Prop :=
  ∃ inst ∈ driver.live, inst.pdev = pdev

instance (driver : DriverState Memory) (pdev : Node) : Decidable (driver.Bound pdev) :=
  inferInstanceAs (Decidable (∃ inst ∈ driver.live, inst.pdev = pdev))

/-- What a function of the driver finds when it is called. -/
abbrev entry (driver : DriverState Memory) (shared : Shared) (event : PlatformEvent) :
    Machine (driverSignature Array length Memory) KernelWorld :=
  ⟨driver.memory, ⟨event.pdev, event.answers, 0, 0, driver.devices, shared⟩⟩

/-- The instance that a successful probe left as driver data. -/
def probed (pdev : Node) (shared : Shared) : List Instance :=
  (shared.drvdata pdev).toList.map fun address => ⟨pdev, address⟩

def afterProbe (driver : DriverState Memory) (pdev : Node) (code : Int)
    (machine : Machine (driverSignature Array length Memory) KernelWorld) : Served Memory :=
  if code = 0 then
    { code := some code
      driver := ⟨machine.memory, machine.world.devices,
        driver.live ++ probed pdev machine.world.shared⟩
      shared := machine.world.shared }
  else
    { code := some code
      driver := ⟨machine.memory, machine.world.devices, driver.live⟩
      shared := Shared.release machine.world.shared pdev }

def afterRemove (driver : DriverState Memory) (pdev : Node) (code : Int)
    (machine : Machine (driverSignature Array length Memory) KernelWorld) : Served Memory where
  code := some code
  driver := ⟨machine.memory, machine.world.devices,
    driver.live.filter fun inst => inst.pdev ≠ pdev⟩
  shared := Shared.release machine.world.shared pdev

/-- What a call that returned leads to. -/
def served (after : Int → Machine (driverSignature Array length Memory) KernelWorld →
      Served Memory) :
    Outcome Int × Machine (driverSignature Array length Memory) KernelWorld →
      Option (Served Memory)
  | (.returned code, machine) => some (after code machine)
  | (.undefined, _) => none
  | (.unfinished, _) => none

def serve (probe remove : Program (driverSignature Array length Memory) Int)
    (event : PlatformEvent) (driver : DriverState Memory) (shared : Shared) :
    Option (Served Memory) :=
  match event.action with
  | .probe =>
      if driver.Bound event.pdev then some ⟨none, driver, shared⟩
      else served (afterProbe driver event.pdev) (probe.exec kernel (entry driver shared event))
  | .remove =>
      if driver.Bound event.pdev then
        served (afterRemove driver event.pdev) (remove.exec kernel (entry driver shared event))
      else some ⟨none, driver, shared⟩

end OneDriver

structure PlatformState where
  aximux : DriverState AximuxModule
  pulsecap : DriverState PulsecapModuleData
  kswfloppy : DriverState KswfloppyMemory
  shared : Shared

/-- The state after the three modules have been loaded. -/
def PlatformState.initial : PlatformState where
  aximux := ⟨.initial, fun _ => none, []⟩
  pulsecap := ⟨.initial, fun _ => none, []⟩
  kswfloppy := ⟨.initial, fun _ => none, []⟩
  shared := ⟨0, fun _ => none, fun _ => none, fun _ => 0⟩

/-- `budget` bounds the loops of the floppy drive's probe. -/
def platformStep (budget : Nat) (state : PlatformState) (event : PlatformEvent) :
    Option (Option Int × PlatformState) :=
  match event.pdev.driver with
  | .aximux =>
      (serve aximuxProbe aximuxRemove event state.aximux state.shared).map fun result =>
        (result.code, { state with aximux := result.driver, shared := result.shared })
  | .pulsecap =>
      (serve eslPulsecapProbe eslPulsecapRemove event state.pulsecap state.shared).map fun result =>
        (result.code, { state with pulsecap := result.driver, shared := result.shared })
  | .kswfloppy =>
      (serve (kswfloppyProbe budget) kswfloppyRemove event state.kswfloppy state.shared).map
        fun result =>
          (result.code, { state with kswfloppy := result.driver, shared := result.shared })

/-- A kernel and a device tree that give a probe everything it asks for. -/
def obliging (width : U32) : KernelAnswers where
  allocates := fun _ => true
  ioremap := .ok ()
  irqResource := some 0
  requestIrq := .ok ()
  deviceCreate := .ok ()
  propertyU32 := fun _ => .ok width
  propertyU64 := fun _ => .ok 0
  propertyBool := fun _ => false
  property := fun name => .ok (some [0, 0, 0, if name = "mux,phandle" then 2 else 1])
  phandle := fun phandle =>
    if phandle = 1 then some ⟨.pulsecap, 0⟩ else if phandle = 2 then some ⟨.aximux, 0⟩ else none
  gpiod := fun _ => .ok ()
  readings := fun _ => 0

/-- The two devices that a floppy drive refers to there have been probed, each with an
instance of its own. -/
def othersProbed : Shared :=
  { PlatformState.initial.shared with
    next := 8
    nodeData := fun node =>
      match node.driver with
      | .pulsecap => some 6
      | .aximux => some 7
      | .kswfloppy => none }

def platform (budget : Nat) : Transducer PlatformState PlatformEvent (Option Int) where
  step := platformStep budget

end Ebaz4205.PlatformSystem
