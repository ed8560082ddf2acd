import Ebaz4205.AximuxOperations
import Ebaz4205.ResourceLedger

/-!
# From loading the multiplexer driver to unloading it

A transcription of `aximux_init` and `aximux_exit` with the probes and removes
between them. The block behind `aximux_device_data` can be gone, so each access to
one of its fields is an entry of the ledger, beside those of what the module
acquires and releases.
-/

namespace Ebaz4205.AximuxModuleLife

open DriverProgram DriverProgram.Program PartialRuns PulsecapDriver PlatformKernel AximuxDriver
open AximuxOperations PlatformSystem PlatformFrames PlatformBindings ResourceLedger

set_option autoImplicit false

inductive ModuleResource where
  | classRegistration
  | chrdevRegion
  | deviceData
  deriving DecidableEq

inductive ModuleCall where
  | classRegister
  | kzalloc
  | allocChrdevRegion (baseminor count : U32)
  | platformDriverRegister
  | unregisterChrdevRegion (major baseminor count : U32)
  | platformDriverUnregister
  | classDestroy
  | kfree (block : Address)
  | readAvailableInstances (block : Address)
  | writeAvailableInstances (block : Address) (value : U32)
  | readDevMajor (block : Address)
  | writeDevMajor (block : Address) (value : U32)

/-- `alloc_chrdev_region` hands back the major number of the region. -/
abbrev ModuleReply : ModuleCall → Type
  | .classRegister => Unit
  | .kzalloc => Option Address
  | .allocChrdevRegion _ _ => Except Errno U32
  | .platformDriverRegister => Unit
  | .unregisterChrdevRegion _ _ _ => Unit
  | .platformDriverUnregister => Unit
  | .classDestroy => Unit
  | .kfree _ => Unit
  | .readAvailableInstances _ => U32
  | .writeAvailableInstances _ _ => Unit
  | .readDevMajor _ => U32
  | .writeDevMajor _ _ => Unit

/-- The memory is the pointer `aximux_device_data`; no array is indexed. -/
abbrev moduleSignature : Signature where
  Call := ModuleCall
  Reply := ModuleReply
  Region := Unit
  extent := fun _ => 0
  Memory := Option Address

abbrev ModuleProgram := Program moduleSignature

/-- The use of `aximux_device_data`, which may be `NULL`. -/
def deviceData : ModuleProgram Address :=
  .fetch fun pointer =>
    match pointer with
    | some block => .done block
    | none => .access () 0 Fin.elim0

def moduleCall (call : ModuleCall) : ModuleProgram (ModuleReply call) :=
  .call call .done

def aximuxInit : ModuleProgram Int := do
  moduleCall .classRegister
  let block ← moduleCall .kzalloc
  modify fun _ => block
  match block with
  | none => return enomem.code
  | some block => do
      moduleCall (.writeAvailableInstances block 0)
      let devt ← moduleCall (.allocChrdevRegion 0 (BitVec.ofNat 32 aximuxMaxInstances))
      match devt with
      | .error err => return err.code
      | .ok major => do
          moduleCall (.writeDevMajor block major)
          moduleCall .platformDriverRegister
          return 0

def aximuxExit : ModuleProgram Unit := do
  let block ← deviceData
  let major ← moduleCall (.readDevMajor block)
  let count ← moduleCall (.readAvailableInstances block)
  moduleCall (.unregisterChrdevRegion major 0 count)
  moduleCall .platformDriverUnregister
  moduleCall .classDestroy
  moduleCall (.kfree block)

/-- How the kernel answers while the module is loaded. -/
structure LoadAnswers where
  kzalloc : Bool
  allocChrdevRegion : Except Errno U32

/-- The device numbers of the driver. -/
structure ChrdevRegion where
  major : U32
  baseminor : U32
  count : U32
  deriving DecidableEq

/-- The platform under this module alone. -/
structure ModuleWorld where
  answers : LoadAnswers
  removal : KernelAnswers
  region : Option ChrdevRegion
  devMajor : U32
  aximux : DriverState AximuxModule
  shared : Shared
  ledger : Ledger ModuleResource

/-- A device of the driver comes or goes. -/
structure ModuleEvent where
  action : Action
  unit : Nat
  answers : KernelAnswers

def ModuleEvent.platform (event : ModuleEvent) : PlatformEvent :=
  ⟨event.action, ⟨.aximux, event.unit⟩, event.answers⟩

namespace ModuleWorld

def note (world : ModuleWorld) (entry : LedgerEntry ModuleResource) : ModuleWorld :=
  { world with ledger := world.ledger ++ [entry] }

/-- Both functions of the driver begin with a use of `aximux_device_data`, and while
they run the block is not freed. -/
def usesOf : Option Int → Ledger ModuleResource
  | some _ => [.used .deviceData]
  | none => []

def serve (world : ModuleWorld) (event : ModuleEvent) : Option (Option Int × ModuleWorld) :=
  (PlatformSystem.serve aximuxProbe aximuxRemove event.platform world.aximux world.shared).map
    fun result => (result.code, { world with
      aximux := result.driver
      shared := result.shared
      ledger := world.ledger ++ usesOf result.code })

/-- The driver core takes these devices from the driver. -/
def removeAll (world : ModuleWorld) : List Instance → ModuleWorld
  | [] => world
  | inst :: rest =>
      match world.serve ⟨.remove, inst.pdev.unit, world.removal⟩ with
      | some (_, next) => next.removeAll rest
      | none => world.removeAll rest

/-- A region is released by the numbers it was allocated with and by no others. -/
def unregister (world : ModuleWorld) (region : ChrdevRegion) : ModuleWorld :=
  if world.region = some region then { world with region := none }.note (.released .chrdevRegion)
  else world

def allocate (world : ModuleWorld) : ModuleWorld :=
  { world with
    aximux := { world.aximux with memory := .initial }
    shared := { world.shared with next := world.shared.next + 1 } }.note (.acquired .deviceData)

def setAvailableInstances (world : ModuleWorld) (value : U32) : ModuleWorld :=
  { world with aximux := { world.aximux with
      memory := { world.aximux.memory with availableInstances := value } } }

def respond : (request : ModuleCall) → ModuleWorld → ModuleReply request × ModuleWorld
  | .classRegister, world => ((), world.note (.acquired .classRegistration))
  | .kzalloc, world =>
      if world.answers.kzalloc then (some world.shared.next, world.allocate) else (none, world)
  | .allocChrdevRegion baseminor count, world =>
      match world.answers.allocChrdevRegion with
      | .error err => (.error err, world)
      | .ok major =>
          (.ok major, { world with region := some ⟨major, baseminor, count⟩ }.note
            (.acquired .chrdevRegion))
  | .platformDriverRegister, world => ((), world)
  | .unregisterChrdevRegion major baseminor count, world =>
      ((), world.unregister ⟨major, baseminor, count⟩)
  | .platformDriverUnregister, world => ((), world.removeAll world.aximux.live)
  | .classDestroy, world => ((), world.note (.released .classRegistration))
  | .kfree _, world => ((), world.note (.released .deviceData))
  | .readAvailableInstances _, world =>
      (world.aximux.memory.availableInstances, world.note (.used .deviceData))
  | .writeAvailableInstances _ value, world =>
      ((), (world.setAvailableInstances value).note (.used .deviceData))
  | .readDevMajor _, world => (world.devMajor, world.note (.used .deviceData))
  | .writeDevMajor _ value, world =>
      ((), { world with devMajor := value }.note (.used .deviceData))

/-- Before the module is loaded. -/
def unloaded (answers : LoadAnswers) (removal : KernelAnswers) : ModuleWorld where
  answers := answers
  removal := removal
  region := none
  devMajor := 0
  aximux := PlatformState.initial.aximux
  shared := PlatformState.initial.shared
  ledger := []

end ModuleWorld

def moduleKernel : Environment moduleSignature ModuleWorld where
  respond := ModuleWorld.respond

/-- What happens to a loaded module. -/
def loadedModule : Transducer ModuleWorld ModuleEvent (Option Int) where
  step := ModuleWorld.serve

/-- A life of the module with these events: either `aximux_init` fails and there are
none, or they lead from its end to the state `idle` that `aximux_exit` finds. -/
inductive Life (answers : LoadAnswers) (removal : KernelAnswers) :
    List ModuleEvent → ModuleWorld → ModuleWorld → Prop where
  | refused {code : Int} {loaded : Machine moduleSignature ModuleWorld}
      (ran : aximuxInit.exec moduleKernel ⟨none, .unloaded answers removal⟩ =
        (.returned code, loaded))
      (failed : code ≠ 0) : Life answers removal [] loaded.world loaded.world
  | unloaded {loaded after : Machine moduleSignature ModuleWorld} {events : List ModuleEvent}
      {idle : ModuleWorld}
      (ran : aximuxInit.exec moduleKernel ⟨none, .unloaded answers removal⟩ =
        (.returned 0, loaded))
      (reached : loadedModule.Reaches loaded.world events idle)
      (exited : aximuxExit.exec moduleKernel ⟨loaded.memory, idle⟩ = (.returned (), after)) :
      Life answers removal events idle after.world

/-- Everything is given back once, and the block is used only while it is there. -/
structure Settled (ledger : Ledger ModuleResource) : Prop where
  balanced : Balanced ledger
  safe : UsedWhileHeld ledger

/-- `aximux_init` gets all it asks for. -/
def LoadAnswers.Granted (answers : LoadAnswers) : Prop :=
  answers.kzalloc = true ∧ ∃ major, answers.allocChrdevRegion = .ok major

section Loading

variable {answers : LoadAnswers} {removal : KernelAnswers}

/-- What a completed load has noted. -/
def loadLedger : Ledger ModuleResource :=
  [.acquired .classRegistration, .acquired .deviceData, .used .deviceData,
    .acquired .chrdevRegion, .used .deviceData]

/-- The numbers that `aximux_init` asks for. -/
def moduleRegion (major : U32) : ChrdevRegion := ⟨major, 0, BitVec.ofNat 32 aximuxMaxInstances⟩

def loaded (answers : LoadAnswers) (removal : KernelAnswers) (major : U32) : ModuleWorld where
  answers := answers
  removal := removal
  region := some (moduleRegion major)
  devMajor := major
  aximux := PlatformState.initial.aximux
  shared := { PlatformState.initial.shared with next := 1 }
  ledger := loadLedger

theorem exec_aximuxInit_granted (kzalloc : answers.kzalloc = true) {major : U32}
    (region : answers.allocChrdevRegion = .ok major) :
    aximuxInit.exec moduleKernel ⟨none, .unloaded answers removal⟩ =
      (.returned 0, ⟨some 0, loaded answers removal major⟩) := by
  simp only [aximuxInit, moduleCall, bind_eq, Program.bind, Program.modify, exec, moduleKernel,
    ModuleWorld.respond, ModuleWorld.unloaded, ModuleWorld.note, ModuleWorld.allocate, kzalloc,
    region, if_true, ModuleWorld.setAvailableInstances, pure_eq_done]
  rfl

/-- A load that fails keeps what it has acquired. -/
theorem exec_aximuxInit_refused (refused : ¬answers.Granted) :
    ∃ code last, aximuxInit.exec moduleKernel ⟨none, .unloaded answers removal⟩ =
      (.returned code, last) ∧ code ≠ 0 ∧ held last.world.ledger .classRegistration = 1 := by
  cases kzalloc : answers.kzalloc with
  | false =>
      refine ⟨enomem.code, ⟨none, (ModuleWorld.unloaded answers removal).note
        (.acquired .classRegistration)⟩, ?_, by decide, rfl⟩
      simp [aximuxInit, moduleCall, Program.bind, Program.modify, exec, moduleKernel,
        ModuleWorld.respond, ModuleWorld.unloaded, ModuleWorld.note, kzalloc]
  | true =>
      cases region : answers.allocChrdevRegion with
      | ok major => exact absurd ⟨kzalloc, major, region⟩ refused
      | error err =>
          refine ⟨err.code, ⟨some 0, ((((ModuleWorld.unloaded answers removal).note
            (.acquired .classRegistration)).allocate.setAvailableInstances 0).note
              (.used .deviceData))⟩, ?_, err.code_ne_zero, rfl⟩
          simp [aximuxInit, moduleCall, Program.bind, Program.modify, exec, moduleKernel,
            ModuleWorld.respond, ModuleWorld.unloaded, ModuleWorld.note, ModuleWorld.allocate,
            ModuleWorld.setAvailableInstances, PlatformState.initial, kzalloc, region]

end Loading

section Uses

/-- From one state to another the block is used and nothing is acquired or released. -/
structure OnlyUses (world next : ModuleWorld) : Prop where
  region : next.region = world.region
  devMajor : next.devMajor = world.devMajor
  ledger : ∃ uses : Ledger ModuleResource, next.ledger = world.ledger ++ uses ∧
    ∀ entry ∈ uses, entry = .used .deviceData

variable {world middle next : ModuleWorld}

theorem OnlyUses.refl (world : ModuleWorld) : OnlyUses world world :=
  ⟨rfl, rfl, [], (List.append_nil _).symm, fun _ member => absurd member List.not_mem_nil⟩

theorem OnlyUses.trans (first : OnlyUses world middle) (second : OnlyUses middle next) :
    OnlyUses world next where
  region := second.region.trans first.region
  devMajor := second.devMajor.trans first.devMajor
  ledger := by
    obtain ⟨early, same, earlyUses⟩ := first.ledger
    obtain ⟨late, sameLate, lateUses⟩ := second.ledger
    refine ⟨early ++ late, by rw [sameLate, same, List.append_assoc], ?_⟩
    intro entry member
    rcases List.mem_append.mp member with inEarly | inLate
    · exact earlyUses entry inEarly
    · exact lateUses entry inLate

theorem onlyUses_serve {event : ModuleEvent} {code : Option Int}
    (served : world.serve event = some (code, next)) : OnlyUses world next := by
  rw [ModuleWorld.serve, Option.map_eq_some_iff] at served
  obtain ⟨result, _, same⟩ := served
  rw [← (Prod.mk.inj same).2]
  refine ⟨rfl, rfl, ModuleWorld.usesOf result.code, rfl, ?_⟩
  intro entry member
  cases called : result.code with
  | none =>
      rw [called] at member
      exact absurd member List.not_mem_nil
  | some value =>
      rw [called] at member
      exact List.mem_singleton.mp member

theorem onlyUses_removeAll (live : List Instance) :
    OnlyUses world (world.removeAll live) := by
  induction live generalizing world with
  | nil => exact .refl world
  | cons inst rest ih =>
      rw [ModuleWorld.removeAll]
      cases served : world.serve ⟨.remove, inst.pdev.unit, world.removal⟩ with
      | none => exact ih
      | some answer => exact (onlyUses_serve served).trans ih

theorem onlyUses_reaches {events : List ModuleEvent}
    (reached : loadedModule.Reaches world events next) : OnlyUses world next := by
  apply Transducer.invariant_of_reaches _ (OnlyUses.refl world) reached
  intro state event code after earlier stepped
  exact earlier.trans (onlyUses_serve stepped)

end Uses

section Unloading

variable {idle : ModuleWorld} {major : U32}

theorem ledger_unregister (world : ModuleWorld) (region : ChrdevRegion) :
    (world.unregister region).ledger = world.ledger ++
      if world.region = some region then [.released .chrdevRegion] else [] := by
  rw [ModuleWorld.unregister]
  split
  · rfl
  · rw [List.append_nil]

/-- The region that `aximux_exit` asks to be released has as many numbers as there
are instances. -/
def unregistered (idle : ModuleWorld) : ModuleWorld :=
  ((idle.note (.used .deviceData)).note (.used .deviceData)).unregister
    ⟨idle.devMajor, 0, idle.aximux.memory.availableInstances⟩

def exited (idle : ModuleWorld) : ModuleWorld :=
  (((unregistered idle).removeAll (unregistered idle).aximux.live).note
    (.released .classRegistration)).note (.released .deviceData)

theorem exec_aximuxExit (block : Address) (idle : ModuleWorld) :
    aximuxExit.exec moduleKernel ⟨some block, idle⟩ =
      (.returned (), ⟨some block, exited idle⟩) := rfl

/-- What the middle of a life notes: uses, and the release of the region or not. -/
def middleLedger (uses later : Ledger ModuleResource) (released : Prop) [Decidable released] :
    Ledger ModuleResource :=
  uses ++ [.used .deviceData, .used .deviceData] ++
    (if released then [.released .chrdevRegion] else []) ++ later

theorem ledger_exited (region : idle.region = some (moduleRegion major))
    (devMajor : idle.devMajor = major) {uses : Ledger ModuleResource}
    (noted : idle.ledger = loadLedger ++ uses) :
    ∃ later : Ledger ModuleResource, (∀ entry ∈ later, entry = .used .deviceData) ∧
      (exited idle).ledger = loadLedger ++
        middleLedger uses later
          (idle.aximux.memory.availableInstances.toNat = aximuxMaxInstances) ++
            [.released .classRegistration, .released .deviceData] := by
  have removed : OnlyUses (unregistered idle)
      ((unregistered idle).removeAll (unregistered idle).aximux.live) := onlyUses_removeAll _
  obtain ⟨later, same, onlyUses⟩ := removed.ledger
  have asked : idle.region = some ⟨idle.devMajor, 0, idle.aximux.memory.availableInstances⟩ ↔
      idle.aximux.memory.availableInstances.toNat = aximuxMaxInstances := by
    rw [region, devMajor, moduleRegion, Option.some.injEq, ChrdevRegion.mk.injEq]
    constructor
    · intro numbers
      rw [← numbers.2.2]
      rfl
    · intro full
      exact ⟨rfl, rfl, BitVec.eq_of_toNat_eq full.symm⟩
  refine ⟨later, onlyUses, ?_⟩
  have front : (unregistered idle).ledger = loadLedger ++ (uses ++
      [.used .deviceData, .used .deviceData] ++
        if idle.aximux.memory.availableInstances.toNat = aximuxMaxInstances then
          [.released .chrdevRegion] else []) := by
    rw [unregistered, ledger_unregister]
    change (idle.ledger ++ _ ++ _) ++
      (if idle.region = some ⟨idle.devMajor, 0, idle.aximux.memory.availableInstances⟩ then _
        else _) = _
    by_cases full : idle.aximux.memory.availableInstances.toNat = aximuxMaxInstances
    · rw [if_pos (asked.mpr full), if_pos full, noted]
      simp only [List.append_assoc, List.cons_append, List.nil_append]
    · rw [if_neg (fun given => full (asked.mp given)), if_neg full, noted]
      simp only [List.append_assoc, List.cons_append, List.nil_append]
  change ((unregistered idle).removeAll _).ledger ++ _ ++ _ = _
  rw [same, front, middleLedger]
  simp only [List.append_assoc, List.cons_append, List.nil_append]

theorem usedWhileHeld_loadLedger : UsedWhileHeld loadLedger := by
  have begun : UsedWhileHeld ([] ++
      [.acquired .classRegistration, .acquired .deviceData] : Ledger ModuleResource) :=
    usedWhileHeld_append_unused usedWhileHeld_nil (by simp)
  have whole : UsedWhileHeld ([.acquired .classRegistration, .acquired .deviceData] ++
      [.used .deviceData, .acquired .chrdevRegion, .used .deviceData] : Ledger ModuleResource) := by
    apply usedWhileHeld_append_kept begun
    intro resource member
    cases resource with
    | deviceData => exact ⟨by decide, by simp⟩
    | classRegistration => exact absurd member (by simp)
    | chrdevRegion => exact absurd member (by simp)
  exact whole

theorem mem_middleLedger {uses later : Ledger ModuleResource} {released : Prop}
    [Decidable released] (early : ∀ entry ∈ uses, entry = .used .deviceData)
    (late : ∀ entry ∈ later, entry = .used .deviceData) {entry : LedgerEntry ModuleResource}
    (member : entry ∈ middleLedger uses later released) :
    entry = .used .deviceData ∨ entry = .released .chrdevRegion := by
  rw [middleLedger, List.mem_append, List.mem_append, List.mem_append] at member
  rcases member with ((inUses | reads) | given) | inLater
  · exact .inl (early entry inUses)
  · exact .inl (by simpa using reads)
  · split at given
    · exact .inr (List.mem_singleton.mp given)
    · exact absurd given List.not_mem_nil
  · exact .inl (late entry inLater)

/-- The block outlives its uses, and is released with the class. -/
theorem settled_iff_region {uses later : Ledger ModuleResource} {released : Prop}
    [Decidable released] (early : ∀ entry ∈ uses, entry = .used .deviceData)
    (late : ∀ entry ∈ later, entry = .used .deviceData) :
    Settled (loadLedger ++ middleLedger uses later released ++
      [.released .classRegistration, .released .deviceData]) ↔ released := by
  have early_held : ∀ resource, held uses resource = 0 := fun resource =>
    held_of_uses resource uses fun entry member => ⟨_, early entry member⟩
  have late_held : ∀ resource, held later resource = 0 := fun resource =>
    held_of_uses resource later fun entry member => ⟨_, late entry member⟩
  constructor
  · intro settled
    by_contra kept
    have level := settled.balanced .chrdevRegion
    simp [middleLedger, kept, early_held, late_held, loadLedger, LedgerEntry.change] at level
  · intro given
    constructor
    · intro resource
      cases resource <;>
        simp [middleLedger, given, early_held, late_held, loadLedger, LedgerEntry.change]
    · apply usedWhileHeld_append_unused
      · apply usedWhileHeld_append_kept usedWhileHeld_loadLedger
        intro resource member
        rcases mem_middleLedger early late member with isUse | isRelease
        · rw [LedgerEntry.used.injEq] at isUse
          rw [isUse]
          constructor
          · decide
          · intro freed
            rcases mem_middleLedger early late freed with isUse | isRelease
            · exact absurd isUse (by simp)
            · exact absurd isRelease (by simp)
        · exact absurd isRelease (by simp)
      · simp

end Unloading

section Lives

variable {answers : LoadAnswers} {removal : KernelAnswers} {events : List ModuleEvent}
  {idle final : ModuleWorld}

theorem not_settled_of_held {ledger : Ledger ModuleResource} {resource : ModuleResource}
    (kept : held ledger resource = 1) : ¬Settled ledger := by
  intro settled
  have level := settled.balanced resource
  rw [kept] at level
  exact absurd level (by decide)

/-- A life is refused and keeps the class, or it is loaded, runs and is unloaded. -/
theorem life_cases (life : Life answers removal events idle final) :
    (¬answers.Granted ∧ held final.ledger .classRegistration = 1) ∨
      (answers.Granted ∧ ∃ major, loadedModule.Reaches (loaded answers removal major) events idle ∧
        final = exited idle) := by
  by_cases granted : answers.Granted
  · right
    obtain ⟨kzalloc, major, region⟩ := granted
    refine ⟨⟨kzalloc, major, region⟩, major, ?_⟩
    cases life with
    | refused ran failed =>
        rw [exec_aximuxInit_granted kzalloc region, Prod.mk.injEq] at ran
        exact absurd (Outcome.returned.inj ran.1).symm failed
    | unloaded ran reached ended =>
        rw [exec_aximuxInit_granted kzalloc region, Prod.mk.injEq] at ran
        rw [← ran.2] at reached ended
        rw [exec_aximuxExit, Prod.mk.injEq] at ended
        exact ⟨reached, by rw [← ended.2]⟩
  · left
    obtain ⟨code, last, refused, failed, keeps⟩ :=
      @exec_aximuxInit_refused answers removal granted
    cases life with
    | refused ran _ =>
        rw [refused, Prod.mk.injEq] at ran
        rw [ran.2] at keeps
        exact ⟨granted, keeps⟩
    | unloaded ran reached ended =>
        rw [refused, Prod.mk.injEq] at ran
        exact absurd (Outcome.returned.inj ran.1) failed

/-- A load that fails keeps the class, and the region is released by the number of
instances that are left: it comes back when all its numbers are in use. -/
theorem module_life_settled_iff (life : Life answers removal events idle final) :
    Settled final.ledger ↔ answers.Granted ∧
      idle.aximux.memory.availableInstances.toNat = aximuxMaxInstances := by
  rcases life_cases life with ⟨refused, keeps⟩ | ⟨granted, major, reached, same⟩
  · constructor
    · intro settled
      exact absurd settled (not_settled_of_held keeps)
    · intro both
      exact absurd both.1 refused
  · have used := onlyUses_reaches reached
    obtain ⟨uses, noted, early⟩ := used.ledger
    obtain ⟨later, late, whole⟩ := ledger_exited used.region used.devMajor noted
    rw [same, whole, settled_iff_region early late]
    exact (and_iff_right granted).symm

/-- As many devices as the driver has numbers for. -/
def thirtyTwoProbes : List ModuleEvent := (List.range 32).map fun unit => ⟨.probe, unit, obliging 1⟩

/-- The numbers come back from a module that is unloaded with all of them in use. -/
theorem full_module_settled :
    ∃ idle final, Life ⟨true, .ok 240⟩ (obliging 1) thirtyTwoProbes idle final ∧
      Settled final.ledger := by
  have counted : (loadedModule.run (loaded ⟨true, .ok 240⟩ (obliging 1) 240) thirtyTwoProbes).map
      (fun answer => answer.2.aximux.memory.availableInstances.toNat) =
        some aximuxMaxInstances := by
    decide +kernel
  obtain ⟨⟨outputs, idle⟩, ran, full⟩ := Option.map_eq_some_iff.mp counted
  have life : Life ⟨true, .ok 240⟩ (obliging 1) thirtyTwoProbes idle (exited idle) :=
    .unloaded (exec_aximuxInit_granted rfl rfl) ⟨outputs, ran⟩ (exec_aximuxExit 0 idle)
  have granted : LoadAnswers.Granted ⟨true, .ok 240⟩ := ⟨rfl, 240, rfl⟩
  exact ⟨idle, exited idle, life, (module_life_settled_iff life).mpr ⟨granted, full⟩⟩

/-- A module that is unloaded without devices asks for no numbers to be released, and
one whose region is refused keeps its class and its block. -/
theorem module_leaves_resources :
    (∃ idle final, Life ⟨true, .ok 240⟩ (obliging 1) [] idle final ∧
      held final.ledger .chrdevRegion = 1 ∧ ¬Settled final.ledger) ∧
    ∃ final, Life ⟨true, .error enomem⟩ (obliging 1) [] final final ∧
      held final.ledger .classRegistration = 1 ∧ held final.ledger .deviceData = 1 ∧
      ¬Settled final.ledger := by
  constructor
  · have life : Life ⟨true, .ok 240⟩ (obliging 1) [] _ _ :=
      .unloaded (exec_aximuxInit_granted rfl rfl) ⟨[], rfl⟩ (exec_aximuxExit 0 _)
    exact ⟨_, _, life, rfl, not_settled_of_held (show held _ .chrdevRegion = 1 from rfl)⟩
  · have life : Life ⟨true, .error enomem⟩ (obliging 1) [] _ _ :=
      .refused (show _ = (Outcome.returned enomem.code, _) from rfl) (by decide)
    exact ⟨_, life, rfl, rfl,
      not_settled_of_held (show held _ .classRegistration = 1 from rfl)⟩

end Lives

end Ebaz4205.AximuxModuleLife
