import Ebaz4205.AximuxOperations
import Ebaz4205.KswfloppyEffects

/-!
# What a probe of the floppy drive leaves behind

A probe takes references to two device tree nodes and writes the select register
of the multiplexer before it requests the lines of the drive. The sum of the
references it takes and drops is followed through every exit, and so is the
register.
-/

namespace Ebaz4205.KswfloppyCleanup

open DriverProgram DriverProgram.Program PulsecapDriver KswfloppyDriver PlatformKernel AximuxDriver
open AximuxOperations KswfloppyModule KswfloppyEffects PlatformFrames PlatformSystem

set_option autoImplicit false

/-- What an exchange adds to the references to a node. -/
def reference (node : Node) : Exchange kswfloppySignature → Int
  | ⟨.ofFindNodeByPhandle _, found⟩ => if found = some node then 1 else 0
  | ⟨.ofNodePut dropped, _⟩ => if dropped = node then -1 else 0
  | _ => 0

/-- A probe that returns has dropped the references it took, and one that fails
leaves every select register as it found it. -/
structure CleansUp (budget : Nat) (machine : Machine kswfloppySignature KernelWorld) : Prop where
  references : ∀ code after, (kswfloppyProbe budget).exec kernel machine = (.returned code, after) →
    ∀ node, tally kernel (reference node) (kswfloppyProbe budget) machine = 0
  register : ∀ code after, (kswfloppyProbe budget).exec kernel machine = (.returned code, after) →
    code ≠ 0 → after.world.shared.select = machine.world.shared.select

/-- Where the way from a property to the driver data of a node ends. -/
inductive LookUp where
  | absent (code : Int)
  | broken
  | unprobed (node : Node)
  | taken (inst : Instance)

def cellOf : List Byte → Option U32
  | first :: second :: third :: fourth :: _ => some (first ++ second ++ third ++ fourth)
  | _ => none

def lookUp (world : KernelWorld) (name : String) : LookUp :=
  match world.answers.property name with
  | .error err => .absent err.code
  | .ok none => .broken
  | .ok (some bytes) =>
      match cellOf bytes with
      | none => .broken
      | some phandle =>
          match world.answers.phandle phandle with
          | none => .absent (-enodev)
          | some node =>
              match world.shared.nodeData node with
              | none => .unprobed node
              | some data => .taken ⟨node, data⟩

/-- One of the requests for the lines of the drive fails. -/
def LineRefused (answers : KernelAnswers) (ii count : Nat) : Prop :=
  ∃ line, ii ≤ line ∧ line < ii + count ∧ ∃ err, answers.gpiod line = .error err

/-- The register would not change if this port were set to this value. -/
def AlreadySelects (select : U32) (port : Nat) (value : Bool) : Prop :=
  (∀ bit, 8 ≤ bit → select.getLsbD bit = false) ∧ (port < 8 → select.getLsbD port = value)

/-- A probe finds each node it reaches probed, and if it is refused a line, then
the multiplexer was already set as it sets it. -/
structure NothingToUndo (world : KernelWorld) : Prop where
  pcapProbed : ∀ node, lookUp world "pcap-phandle" ≠ .unprobed node
  muxProbed : ∀ pcap node, lookUp world "pcap-phandle" = .taken pcap →
    lookUp world "mux,phandle" ≠ .unprobed node
  alreadySet : ∀ pcap mux pin, lookUp world "pcap-phandle" = .taken pcap →
    lookUp world "mux,phandle" = .taken mux → mux.pdev.driver = .aximux →
    world.answers.propertyU64 "mux,pin" = .ok pin → (pin.truncate 32).toNat < 32 →
    LineRefused world.answers 0 floppySignalDirections.length →
    AlreadySelects (world.shared.select mux.address) (pin.truncate 32).toNat
      (world.answers.propertyBool "mux,alt")

section Calls

/-- A call that neither moves a reference nor writes a select register. -/
def Harmless : KernelCall → Prop
  | .ofFindNodeByPhandle _ => False
  | .ofNodePut _ => False
  | .writeSelect _ _ => False
  | _ => True

def harmless : Effects kswfloppySignature := ⟨Harmless, fun _ => True, fun _ _ => True⟩

variable {Result : Type} {program : KswfloppyProgram Result}
  {machine : Machine kswfloppySignature KernelWorld}

/-- A call that moves no reference. -/
def Unreferenced : KernelCall → Prop
  | .ofFindNodeByPhandle _ => False
  | .ofNodePut _ => False
  | _ => True

def unreferenced : Effects kswfloppySignature := ⟨Unreferenced, fun _ => True, fun _ _ => True⟩

theorem unreferenced_of_harmless (quiet : program.Within harmless) :
    program.Within unreferenced := by
  apply within_mono quiet
  · intro asked sent
    cases asked with
    | ofFindNodeByPhandle phandle => exact sent
    | ofNodePut node => exact sent
    | _ => trivial
  · exact fun _ allowed => allowed
  · exact fun _ _ allowed => allowed

theorem tally_of_unreferenced (quiet : program.Within unreferenced) (node : Node) :
    tally kernel (reference node) program machine = 0 := by
  apply tally_of_within quiet
  intro ⟨asked, reply⟩ sent
  cases asked with
  | ofFindNodeByPhandle phandle => exact sent.elim
  | ofNodePut other => exact sent.elim
  | _ => rfl

theorem tally_of_harmless (quiet : program.Within harmless) (node : Node) :
    tally kernel (reference node) program machine = 0 :=
  tally_of_unreferenced (unreferenced_of_harmless quiet) node

theorem harmless_onDrive (inst : Address) : (onDrive inst).Within harmless where
  send := fun _ => within_kernelCall trivial
  fetch := within_field _
  update := fun _ => within_modify trivial
  locate := fun _ _ => within_element trivial

/-- What the probe does with the drive once it has its lines. -/
def tryDrive (budget : Nat) (inst : Address) : KswfloppyProgram Int := do
  deassertAll.interpret (onDrive inst)
  floppyHome.interpret (onDrive inst)
  let _dumped ← (floppyDumpTrack budget 40).interpret (onDrive inst)
  floppyHome.interpret (onDrive inst)
  return 0

theorem within_tryDrive {effects : Effects kswfloppySignature} {inst : Address}
    (driven : (onDrive inst).Within effects) (budget : Nat) :
    (tryDrive budget inst).Within effects := by
  apply within_bind (within_interpret driven _)
  intro _
  apply within_bind (within_interpret driven _)
  intro _
  apply within_bind (within_interpret driven _)
  intro _
  exact within_bind (within_interpret driven _) fun _ => within_done 0

/-- A drive that has been tried is no reason for a probe to fail. -/
theorem code_tryDrive {budget : Nat} {inst : Address} {code : Int}
    {after : Machine kswfloppySignature KernelWorld}
    (ran : (tryDrive budget inst).exec kernel machine = (.returned code, after)) : code = 0 := by
  obtain ⟨_, _, _, rest⟩ := exec_bind_returned ran
  obtain ⟨_, _, _, rest⟩ := exec_bind_returned rest
  obtain ⟨_, _, _, rest⟩ := exec_bind_returned rest
  obtain ⟨_, _, _, rest⟩ := exec_bind_returned rest
  rw [pure_eq_done, exec_done, Prod.mk.injEq, Outcome.returned.injEq] at rest
  exact rest.1.symm

end Calls

section Lines

variable {machine : Machine kswfloppySignature KernelWorld}

theorem exec_allocateGpios (ii : Nat) (flags : List GpioFlags) :
    (LineRefused machine.world.answers ii flags.length ∧
        (allocateGpios ii flags).exec kernel machine = (.returned (.error (-enodev)), machine)) ∨
      (¬LineRefused machine.world.answers ii flags.length ∧
        (allocateGpios ii flags).exec kernel machine = (.returned (.ok ()), machine)) := by
  induction flags generalizing ii with
  | nil =>
      right
      constructor
      · rintro ⟨line, first, last, _⟩
        rw [List.length_nil] at last
        omega
      · rfl
  | cons flag rest ih =>
      cases here : machine.world.answers.gpiod ii with
      | error err =>
          left
          constructor
          · exact ⟨ii, le_refl _, by rw [List.length_cons]; omega, err, here⟩
          · simp only [allocateGpios, kernelCall, bind_eq, Program.bind, exec, kernel,
              KernelWorld.respond, here, pure_eq_done]
      | ok _ =>
          have opened : (allocateGpios ii (flag :: rest)).exec kernel machine =
              (allocateGpios (ii + 1) rest).exec kernel machine := by
            simp only [allocateGpios, kernelCall, bind_eq, Program.bind, exec, kernel,
              KernelWorld.respond, here]
          rw [opened, List.length_cons]
          rcases ih (ii + 1) with ⟨refused, ran⟩ | ⟨granted, ran⟩
          · left
            obtain ⟨line, first, last, failed⟩ := refused
            exact ⟨⟨line, by omega, by omega, failed⟩, ran⟩
          · right
            constructor
            · rintro ⟨line, first, last, err, failed⟩
              by_cases own : line = ii
              · rw [own, here] at failed
                exact absurd failed (by simp)
              · exact granted ⟨line, by omega, by omega, err, failed⟩
            · exact ran

end Lines

section Nodes

variable {machine : Machine kswfloppySignature KernelWorld} {bytes : List Byte} {name : String}
  {store : Instance → KswfloppyMemory → KswfloppyMemory}

theorem exec_propertyByte {position : Nat} (inside : position < bytes.length) :
    (propertyByte bytes position).exec kernel machine =
      (.returned (bytes.get ⟨position, inside⟩), machine) := by
  simp only [propertyByte, element, bind_eq, Program.bind, exec, dif_pos inside, pure_eq_done]

theorem faults_propertyByte {position : Nat} (outside : ¬position < bytes.length)
    (memory : KswfloppyMemory) : Faults kernel (propertyByte bytes position) memory := by
  intro world
  simp only [propertyByte, element, bind_eq, Program.bind, exec, dif_neg outside]

theorem yields_propertyByte {position : Nat} (inside : position < bytes.length)
    (memory : KswfloppyMemory) :
    Yields kernel (propertyByte bytes position) memory (bytes.get ⟨position, inside⟩) memory :=
  fun world => ⟨world, exec_propertyByte inside⟩

theorem exec_readCell {cell : U32} (whole : cellOf bytes = some cell) :
    (readCell bytes).exec kernel machine = (.returned cell, machine) := by
  match bytes, whole with
  | first :: second :: third :: fourth :: rest, whole =>
      have same : first ++ second ++ third ++ fourth = cell := Option.some.inj whole
      rw [← same]
      rfl

theorem short_of_cellOf (short : cellOf bytes = none) : ¬3 < bytes.length := by
  intro long
  match bytes, short, long with
  | _ :: _ :: _ :: _ :: _, short, _ => exact absurd short (by simp [cellOf])

/-- A property of fewer than four bytes is read behind its end. -/
theorem faults_readCell (short : cellOf bytes = none) (memory : KswfloppyMemory) :
    Faults kernel (readCell bytes) memory := by
  have last := short_of_cellOf short
  by_cases first : 0 < bytes.length
  · apply faults_bind_second (yields_propertyByte first memory)
    by_cases second : 1 < bytes.length
    · apply faults_bind_second (yields_propertyByte second memory)
      by_cases third : 2 < bytes.length
      · apply faults_bind_second (yields_propertyByte third memory)
        exact faults_bind_first (faults_propertyByte last memory)
      · exact faults_bind_first (faults_propertyByte third memory)
    · exact faults_bind_first (faults_propertyByte second memory)
  · exact faults_bind_first (faults_propertyByte first memory)

/-- The driver data of the node that was found, which may be none. -/
def takeData (store : Instance → KswfloppyMemory → KswfloppyMemory) (node : Node) :
    Option Address → KswfloppyProgram (Except Int Unit)
  | none => return .error (-enodev)
  | some data => do
      modify (store ⟨node, data⟩)
      kernelCall (.ofNodePut node)
      return .ok ()

def takeNode (store : Instance → KswfloppyMemory → KswfloppyMemory) :
    Option Node → KswfloppyProgram (Except Int Unit)
  | none => return .error (-enodev)
  | some node => do
      let data ← kernelCall (.nodeData node)
      takeData store node data

/-- The rest of the way once the property has been asked for. -/
def takeProperty (store : Instance → KswfloppyMemory → KswfloppyMemory) :
    Except Errno (Option (List Byte)) → KswfloppyProgram (Except Int Unit)
  | .error err => return .error err.code
  | .ok prop => do
      let prop ← deref prop
      let phandle ← readCell prop
      let node ← kernelCall (.ofFindNodeByPhandle phandle)
      takeNode store node

theorem takeInstance_eq (name : String) (store : Instance → KswfloppyMemory → KswfloppyMemory) :
    takeInstance name store = .call (.ofGetProperty name) (takeProperty store) := by
  apply congrArg (Program.call _)
  funext prop
  cases prop with
  | error err => rfl
  | ok prop =>
      apply congrArg (Program.bind (deref prop))
      funext bytes
      apply congrArg (Program.bind (readCell bytes))
      funext phandle
      apply congrArg (Program.call _)
      funext node
      cases node with
      | none => rfl
      | some node =>
          apply congrArg (Program.call _)
          funext data
          cases data <;> rfl

theorem exec_takeInstance :
    (takeInstance name store).exec kernel machine =
      (takeProperty store (machine.world.answers.property name)).exec kernel machine := by
  rw [takeInstance_eq]
  rfl

theorem tally_takeInstance (node : Node) :
    tally kernel (reference node) (takeInstance name store) machine =
      tally kernel (reference node) (takeProperty store (machine.world.answers.property name))
        machine := by
  rw [takeInstance_eq, tally_request_bind]
  exact Int.zero_add _

section Found

variable {phandle : U32} (whole : cellOf bytes = some phandle)
include whole

theorem exec_takeProperty :
    (takeProperty store (.ok (some bytes))).exec kernel machine =
      (takeNode store (machine.world.answers.phandle phandle)).exec kernel machine := by
  change (Program.bind (readCell bytes) _).exec kernel machine = _
  rw [exec_bind, exec_readCell whole]
  rfl

theorem tally_takeProperty (node : Node) :
    tally kernel (reference node) (takeProperty store (.ok (some bytes))) machine =
      (if machine.world.answers.phandle phandle = some node then 1 else 0) +
        tally kernel (reference node)
          (takeNode store (machine.world.answers.phandle phandle)) machine := by
  change tally kernel (reference node) (Program.bind (readCell bytes) _) machine = _
  have level : tally kernel (reference node) (readCell bytes) machine = 0 :=
    tally_of_harmless (within_readCell fun _ => trivial) node
  rw [tally_bind (exec_readCell whole), level, Int.zero_add]
  exact tally_request_bind _ _

end Found

/-- What taking an instance leads to, with what it adds to the references of a node. -/
structure Takes (name : String) (store : Instance → KswfloppyMemory → KswfloppyMemory)
    (machine : Machine kswfloppySignature KernelWorld) (result : Except Int Unit)
    (memory : KswfloppyMemory) (added : Node → Int) : Prop where
  ran : (takeInstance name store).exec kernel machine =
    (.returned result, { machine with memory := memory })
  references : ∀ node, tally kernel (reference node) (takeInstance name store) machine = added node

/-- How taking an instance ends: only a node without driver data costs a reference. -/
def Ends (name : String) (store : Instance → KswfloppyMemory → KswfloppyMemory)
    (machine : Machine kswfloppySignature KernelWorld) : LookUp → Prop
  | .absent code => code ≠ 0 ∧ Takes name store machine (.error code) machine.memory fun _ => 0
  | .broken => ((takeInstance name store).exec kernel machine).1 = .undefined
  | .unprobed node =>
      Takes name store machine (.error (-enodev)) machine.memory
        fun other => if node = other then 1 else 0
  | .taken inst => Takes name store machine (.ok ()) (store inst machine.memory) fun _ => 0

theorem tally_takeNode (node other : Node) :
    tally kernel (reference other) (takeNode store (some node)) machine =
      tally kernel (reference other) (takeData store node (machine.world.shared.nodeData node))
        machine := by
  change tally kernel (reference other) (.call (.nodeData node) (takeData store node)) machine = _
  rw [tally_request_bind]
  exact Int.zero_add _

theorem tally_takeData (node other : Node) (data : Address) :
    tally kernel (reference other) (takeData store node (some data)) machine =
      if node = other then -1 else 0 := by
  have stored : (modify (store ⟨node, data⟩) : KswfloppyProgram Unit).Within harmless :=
    within_modify trivial
  change tally kernel (reference other) (Program.bind (modify (store ⟨node, data⟩)) _) machine = _
  rw [tally_bind (exec_modify kernel machine (store ⟨node, data⟩)), tally_of_harmless stored,
    Int.zero_add]
  change tally kernel (reference other) (.call (.ofNodePut node) _) _ = _
  rw [tally_request_bind]
  exact Int.add_zero _

theorem takeInstance_ends : Ends name store machine (lookUp machine.world name) := by
  have ran : (takeInstance name store).exec kernel machine = _ := exec_takeInstance
  have references : ∀ node, tally kernel (reference node) (takeInstance name store) machine = _ :=
    tally_takeInstance
  cases property : machine.world.answers.property name with
  | error err =>
      have place : lookUp machine.world name = .absent err.code := by simp only [lookUp, property]
      rw [property] at ran references
      rw [place]
      exact ⟨err.code_ne_zero, ran, references⟩
  | ok prop =>
      cases prop with
      | none =>
          have place : lookUp machine.world name = .broken := by simp only [lookUp, property]
          rw [property] at ran
          rw [place, Ends, ran]
          rfl
      | some bytes =>
          rw [property] at ran references
          cases whole : cellOf bytes with
          | none =>
              have place : lookUp machine.world name = .broken := by
                simp only [lookUp, property, whole]
              rw [place, Ends, ran]
              exact faults_bind_first (faults_readCell whole machine.memory) machine.world
          | some phandle =>
              rw [exec_takeProperty whole] at ran
              simp only [tally_takeProperty whole] at references
              cases found : machine.world.answers.phandle phandle with
              | none =>
                  have place : lookUp machine.world name = .absent (-enodev) := by
                    simp only [lookUp, property, whole, found]
                  rw [found] at ran references
                  rw [place]
                  exact ⟨by decide, ran, references⟩
              | some node =>
                  rw [found] at ran
                  simp only [found, tally_takeNode, Option.some.injEq] at references
                  have read : (takeNode store (some node)).exec kernel machine =
                    (takeData store node (machine.world.shared.nodeData node)).exec kernel
                      machine := rfl
                  rw [read] at ran
                  cases held : machine.world.shared.nodeData node with
                  | none =>
                      have place : lookUp machine.world name = .unprobed node := by
                        simp only [lookUp, property, whole, found, held]
                      rw [held] at ran
                      simp only [held] at references
                      rw [place]
                      exact ⟨ran, fun other => (references other).trans (Int.add_zero _)⟩
                  | some data =>
                      have place : lookUp machine.world name = .taken ⟨node, data⟩ := by
                        simp only [lookUp, property, whole, found, held]
                      simp only [held, tally_takeData] at references
                      rw [held] at ran
                      rw [place]
                      refine ⟨ran, fun other => (references other).trans ?_⟩
                      by_cases same : node = other
                      · rw [if_pos same, if_pos same]
                        rfl
                      · rw [if_neg same, if_neg same]
                        rfl

end Nodes

section Probe

variable {budget : Nat} {inst : Address} {machine : Machine kswfloppySignature KernelWorld}

def afterLines (budget : Nat) (inst : Address) : Except Int Unit → KswfloppyProgram Int
  | .error code => return code
  | .ok () => tryDrive budget inst

theorem startDrive_eq (budget : Nat) (inst : Address) :
    startDrive budget inst =
      (allocateGpios 0 floppySignalDirections).bind (afterLines budget inst) := by
  apply congrArg (Program.bind _)
  funext allocated
  cases allocated <;> rfl

def afterPin (budget : Nat) (inst : Address) : Except Errno (BitVec 64) → KswfloppyProgram Int
  | .error _ => return -eio
  | .ok pin => do
      modify (.edit inst fun data => { data with capturePin := pin.truncate 32 })
      let isAlt ← kernelCall (.ofPropertyReadBool "mux,alt")
      let memory ← field id
      callSetSrc (memory.instances inst).muxInst (pin.truncate 32) (if isAlt then 1 else 0)
      startDrive budget inst

theorem configureMux_eq (budget : Nat) (inst : Address) :
    configureMux budget inst = .call (.ofPropertyReadU64 "mux,pin") (afterPin budget inst) := by
  apply congrArg (Program.call _)
  funext pin
  cases pin <;> rfl

def storePcap (inst : Address) (pcap : Instance) : KswfloppyMemory → KswfloppyMemory :=
  .edit inst fun entry => { entry with pcapInst := some pcap }

def storeMux (inst : Address) (mux : Instance) : KswfloppyMemory → KswfloppyMemory :=
  .edit inst fun entry => { entry with muxInst := some mux }

def afterMux (budget : Nat) (inst : Address) : Except Int Unit → KswfloppyProgram Int
  | .error code => return code
  | .ok () => configureMux budget inst

def afterPcap (budget : Nat) (inst : Address) : Except Int Unit → KswfloppyProgram Int
  | .error code => return code
  | .ok () => (takeInstance "mux,phandle" (storeMux inst)).bind (afterMux budget inst)

def afterInstance (budget : Nat) : Option Address → KswfloppyProgram Int
  | none => return enomem.code
  | some inst => do
      modify (.edit inst fun _ => .zeroed)
      kernelCall (.platformSetDrvdata inst)
      let pcapTaken ← takeInstance "pcap-phandle" (storePcap inst)
      afterPcap budget inst pcapTaken

theorem kswfloppyProbe_eq (budget : Nat) :
    kswfloppyProbe budget = .call (.devmKzalloc .instanceData) (afterInstance budget) := by
  apply congrArg (Program.call _)
  funext allocated
  cases allocated with
  | none => rfl
  | some inst =>
      apply congrArg (Program.update _)
      apply congrArg (Program.call _)
      funext _
      apply congrArg (Program.bind (takeInstance "pcap-phandle" (storePcap inst)))
      funext pcapTaken
      cases pcapTaken with
      | error code => rfl
      | ok _ =>
          apply congrArg (Program.bind _)
          funext muxTaken
          cases muxTaken <;> rfl

end Probe

section Clean

variable {Result : Type} {select : Address → U32} {program : KswfloppyProgram Result}
  {next : Result → KswfloppyProgram Int} {value : Result} {code : Int}
  {machine middle : Machine kswfloppySignature KernelWorld}

/-- The end of a probe that began with these select registers. -/
def Clean (select : Address → U32) (program : KswfloppyProgram Int)
    (machine : Machine kswfloppySignature KernelWorld) : Prop :=
  ∀ code after, program.exec kernel machine = (.returned code, after) →
    (∀ node, tally kernel (reference node) program machine = 0) ∧
      (code ≠ 0 → after.world.shared.select = select)

theorem clean_done : Clean select (.done code) machine ↔
    (code ≠ 0 → machine.world.shared.select = select) := by
  constructor
  · intro clean
    exact (clean code machine rfl).2
  · intro same returned after ran
    rw [exec_done, Prod.mk.injEq, Outcome.returned.injEq] at ran
    rw [← ran.1, ← ran.2]
    exact ⟨fun _ => rfl, same⟩

theorem clean_of_undefined {program : KswfloppyProgram Int}
    (faulted : (program.exec kernel machine).1 = .undefined) : Clean select program machine := by
  intro returned after ran
  rw [ran] at faulted
  exact absurd faulted (by simp)

/-- What has levelled its references is as if it had not been. -/
theorem clean_bind (ran : program.exec kernel machine = (.returned value, middle))
    (level : ∀ node, tally kernel (reference node) program machine = 0) :
    Clean select (program.bind next) machine ↔ Clean select (next value) middle := by
  have same : (program.bind next).exec kernel machine = (next value).exec kernel middle := by
    rw [exec_bind, ran, continueWith_returned]
  have references : ∀ node, tally kernel (reference node) (program.bind next) machine =
      tally kernel (reference node) (next value) middle := by
    intro node
    rw [tally_bind ran, level, Int.zero_add]
  unfold Clean
  rw [same]
  simp only [references]

theorem clean_request (call : KernelCall) (next : KernelReply call → KswfloppyProgram Int)
    (quiet : Harmless call) :
    Clean select (.call call next) machine ↔
      Clean select (next (KernelWorld.respond call machine.world).1)
        { machine with world := (KernelWorld.respond call machine.world).2 } := by
  have silent : (kernelCall call : KswfloppyProgram (KernelReply call)).Within harmless :=
    within_kernelCall quiet
  exact clean_bind (exec_request kernel machine call) (tally_of_harmless silent)

theorem clean_modify (change : KswfloppyMemory → KswfloppyMemory)
    (next : Unit → KswfloppyProgram Int) :
    Clean select (Program.bind (modify change) next) machine ↔
      Clean select (next ()) { machine with memory := change machine.memory } := by
  have silent : (modify change : KswfloppyProgram Unit).Within harmless := within_modify trivial
  exact clean_bind (exec_modify kernel machine change) (tally_of_harmless silent)

end Clean

section Exits

variable {budget : Nat} {inst : Address} {mux : Instance} {select : Address → U32}
  {machine : Machine kswfloppySignature KernelWorld}

theorem selected_eq_iff {word : U32} {port : Nat} {value : Bool} :
    selected word port value = word ↔ AlreadySelects word port value := by
  constructor
  · intro same
    constructor
    · intro bit beyond
      rw [← same, getLsbD_selected, decide_eq_false (by omega), Bool.false_and]
    · intro inMask
      rw [← same, getLsbD_selected, decide_eq_true inMask, if_pos rfl, Bool.true_and]
  · intro already
    apply BitVec.eq_of_getLsbD_eq
    intro bit _
    rw [getLsbD_selected]
    by_cases inMask : bit < 8
    · rw [decide_eq_true inMask, Bool.true_and]
      by_cases own : bit = port
      · rw [if_pos own, own]
        exact (already.2 (own ▸ inMask)).symm
      · rw [if_neg own]
    · rw [already.1 bit (by omega), decide_eq_false inMask, Bool.false_and]

/-- Once the lines are granted the probe succeeds or does not return. -/
theorem clean_startDrive :
    Clean select (startDrive budget inst) machine ↔
      (LineRefused machine.world.answers 0 floppySignalDirections.length →
        machine.world.shared.select = select) := by
  have level : ∀ node, tally kernel (reference node) (allocateGpios 0 floppySignalDirections)
      machine = 0 :=
    tally_of_harmless (within_allocateGpios (fun _ _ => trivial) 0 floppySignalDirections)
  rw [startDrive_eq]
  rcases @exec_allocateGpios machine 0 floppySignalDirections with
    ⟨refused, ran⟩ | ⟨granted, ran⟩
  · rw [clean_bind ran level]
    change Clean select (.done (-enodev)) machine ↔ _
    rw [clean_done]
    constructor
    · intro same _
      exact same (by decide)
    · intro same _
      exact same refused
  · rw [clean_bind ran level]
    constructor
    · intro _ refused
      exact absurd refused granted
    · intro _ code after tried
      constructor
      · exact tally_of_harmless (within_tryDrive (harmless_onDrive inst) budget)
      · intro failed
        exact absurd (code_tryDrive tried) failed

/-- The instance of another driver is no multiplexer. -/
theorem exec_callSetSrc_mistyped (mistyped : mux.pdev.driver ≠ .aximux) (port source : U32) :
    ((callSetSrc (some mux) port source).exec kernel machine).1 = .undefined := by
  rw [callSetSrc, if_neg mistyped]
  rfl

theorem tally_aximuxSetSrc {dev : Address} (port source : U32) (node : Node) :
    tally kernel (reference node) (aximuxSetSrc (some dev) port source :
      KswfloppyProgram Unit) machine = 0 := by
  apply tally_of_unreferenced
  apply within_bind (within_kernelCall trivial)
  intro cursrc
  apply within_bind
  · exact ⟨trivial, fun _ => trivial⟩
  · intro bit
    exact within_kernelCall trivial

/-- If a line is refused, the register was before as the probe sets it. -/
def RefusalLeavesSelect (world : KernelWorld) (mux : Instance) : Prop :=
  ∀ pin, mux.pdev.driver = .aximux → world.answers.propertyU64 "mux,pin" = .ok pin →
    (pin.truncate 32).toNat < 32 → LineRefused world.answers 0 floppySignalDirections.length →
    AlreadySelects (world.shared.select mux.address) (pin.truncate 32).toNat
      (world.answers.propertyBool "mux,alt")

/-- With its multiplexer at hand the probe fails cleanly if the pin cannot be read,
and not if a line is refused after the register has changed. -/
theorem clean_configureMux (held : (machine.memory.instances inst).muxInst = some mux) :
    Clean machine.world.shared.select (configureMux budget inst) machine ↔
      RefusalLeavesSelect machine.world mux := by
  have asked : Clean machine.world.shared.select (configureMux budget inst) machine ↔
      Clean machine.world.shared.select
        (afterPin budget inst (machine.world.answers.propertyU64 "mux,pin")) machine := by
    rw [configureMux_eq]
    exact clean_request (.ofPropertyReadU64 "mux,pin") _ trivial
  rw [asked, RefusalLeavesSelect]
  cases read : machine.world.answers.propertyU64 "mux,pin" with
  | error err =>
      change Clean _ (.done (-eio)) machine ↔ _
      rw [clean_done]
      constructor
      · intro _ pin _ absent
        exact absurd absent (by simp)
      · intro _ _
        rfl
  | ok pin =>
      have reached : Clean machine.world.shared.select (afterPin budget inst (.ok pin)) machine ↔
          Clean machine.world.shared.select (Program.bind (callSetSrc (some mux) (pin.truncate 32)
            (if machine.world.answers.propertyBool "mux,alt" then 1 else 0)) fun _ =>
              startDrive budget inst) { machine with
                memory := machine.memory.edit inst fun data =>
                  { data with capturePin := pin.truncate 32 } } := by
        refine (clean_modify _ _).trans
          ((clean_request (.ofPropertyReadBool "mux,alt") _ trivial).trans ?_)
        refine (clean_bind (exec_field kernel _ id)
          (tally_of_harmless (within_field _))).trans ?_
        rw [id, KswfloppyMemory.edit_self, ← held]
        rfl
      rw [reached]
      by_cases typed : mux.pdev.driver = .aximux
      · rw [callSetSrc_aximux typed]
        by_cases inWord : (pin.truncate 32 : U32).toNat < 32
        · rw [clean_bind (exec_aximuxSetSrc _ _ _ inWord) (tally_aximuxSetSrc _ _),
            clean_startDrive]
          have setting : decide ((if machine.world.answers.propertyBool "mux,alt" = true then
              (1 : U32) else 0) ≠ 0) = machine.world.answers.propertyBool "mux,alt" := by
            cases machine.world.answers.propertyBool "mux,alt" <;> decide
          have unchanged : Function.update machine.world.shared.select mux.address
              (selected (machine.world.shared.select mux.address) (pin.truncate 32).toNat
                (machine.world.answers.propertyBool "mux,alt")) = machine.world.shared.select ↔
              AlreadySelects (machine.world.shared.select mux.address) (pin.truncate 32).toNat
                (machine.world.answers.propertyBool "mux,alt") := by
            rw [Function.update_eq_self_iff, selected_eq_iff]
          constructor
          · intro same other _ isPin _ refused
            cases isPin
            exact unchanged.mp (setting ▸ same refused)
          · intro already refused
            exact setting.symm ▸ unchanged.mpr (already pin typed rfl inWord refused)
        · constructor
          · intro _ other _ same small
            cases same
            exact absurd small inWord
          · intro _
            apply clean_of_undefined
            exact exec_bind_undefined (exec_aximuxSetSrc_undefined _ _ _ inWord) _
      · constructor
        · intro _ _ known
          exact absurd known typed
        · intro _
          exact clean_of_undefined (exec_bind_undefined (exec_callSetSrc_mistyped typed _ _) _)

/-- An instance is taken, or the probe ends: cleanly unless the node is unprobed. -/
theorem clean_takeInstance {name : String} {store : Instance → KswfloppyMemory → KswfloppyMemory}
    {next : Except Int Unit → KswfloppyProgram Int}
    (fails : ∀ code, next (.error code) = .done code) :
    Clean machine.world.shared.select ((takeInstance name store).bind next) machine ↔
      (∀ node, lookUp machine.world name ≠ .unprobed node) ∧
        ∀ inst, lookUp machine.world name = .taken inst →
          Clean machine.world.shared.select (next (.ok ()))
            { machine with memory := store inst machine.memory } := by
  have ends : Ends name store machine (lookUp machine.world name) := takeInstance_ends
  cases place : lookUp machine.world name with
  | absent code =>
      rw [place] at ends
      rw [clean_bind ends.2.ran ends.2.references, fails, clean_done]
      constructor
      · intro _
        exact ⟨by simp, by simp⟩
      · intro _ _
        rfl
  | broken =>
      rw [place] at ends
      constructor
      · intro _
        exact ⟨by simp, by simp⟩
      · intro _
        exact clean_of_undefined (exec_bind_undefined ends _)
  | unprobed node =>
      rw [place] at ends
      constructor
      · intro clean
        have ran : ((takeInstance name store).bind next).exec kernel machine =
            (.returned (-enodev), { machine with memory := machine.memory }) := by
          rw [exec_bind, ends.ran, continueWith_returned, fails]
          rfl
        have level := (clean _ _ ran).1 node
        rw [tally_bind ends.ran, ends.references, if_pos rfl, fails] at level
        change (1 : Int) + 0 = 0 at level
        exact absurd level (by decide)
      · intro probed
        exact absurd rfl (probed.1 node)
  | taken inst =>
      rw [place] at ends
      rw [clean_bind ends.ran ends.references]
      constructor
      · intro clean
        exact ⟨by simp, fun _ same => by cases same; exact clean⟩
      · intro clean
        exact clean.2 inst rfl

theorem cleansUp_iff_clean :
    CleansUp budget machine ↔
      Clean machine.world.shared.select (kswfloppyProbe budget) machine := by
  constructor
  · intro cleans code after ran
    exact ⟨cleans.references code after ran, cleans.register code after ran⟩
  · intro clean
    exact ⟨fun code after ran => (clean code after ran).1, fun code after ran =>
      (clean code after ran).2⟩

theorem clean_afterPcap :
    Clean machine.world.shared.select (afterPcap budget inst (.ok ())) machine ↔
      (∀ node, lookUp machine.world "mux,phandle" ≠ .unprobed node) ∧
        ∀ mux, lookUp machine.world "mux,phandle" = .taken mux →
          RefusalLeavesSelect machine.world mux := by
  have taking : Clean machine.world.shared.select (afterPcap budget inst (.ok ())) machine ↔ _ :=
    clean_takeInstance fun _ => rfl
  rw [taking]
  apply and_congr_right
  intro _
  apply forall_congr'
  intro mux
  apply imp_congr_right
  intro _
  apply clean_configureMux
  rw [storeMux, KswfloppyMemory.edit_self]

theorem clean_afterInstance :
    Clean machine.world.shared.select (afterInstance budget (some inst)) machine ↔
      NothingToUndo machine.world := by
  have opened : Clean machine.world.shared.select (afterInstance budget (some inst)) machine ↔
      Clean machine.world.shared.select
        ((takeInstance "pcap-phandle" (storePcap inst)).bind (afterPcap budget inst))
          ⟨machine.memory.edit inst fun _ => .zeroed, machine.world.setDrvdata inst⟩ :=
    (clean_modify _ _).trans (clean_request (.platformSetDrvdata inst) _ trivial)
  have taking : Clean machine.world.shared.select
      ((takeInstance "pcap-phandle" (storePcap inst)).bind (afterPcap budget inst))
        ⟨machine.memory.edit inst fun _ => .zeroed, machine.world.setDrvdata inst⟩ ↔ _ :=
    clean_takeInstance fun _ => rfl
  rw [opened, taking]
  constructor
  · intro ⟨probed, later⟩
    have tail : ∀ pcap, lookUp machine.world "pcap-phandle" = .taken pcap → _ :=
      fun pcap found => clean_afterPcap.mp (later pcap found)
    constructor
    · exact probed
    · intro pcap node found
      exact (tail pcap found).1 node
    · intro pcap mux pin found muxFound typed isPin inWord refused
      exact (tail pcap found).2 mux muxFound pin typed isPin inWord refused
  · intro nothing
    constructor
    · exact nothing.pcapProbed
    · intro pcap found
      apply clean_afterPcap.mpr
      constructor
      · intro node
        exact nothing.muxProbed pcap node found
      · intro mux muxFound pin typed isPin inWord refused
        exact nothing.alreadySet pcap mux pin found muxFound typed isPin inWord refused

/-- A probe cleans up exactly when it is refused its memory, or there is nothing
that it would have to undo. -/
theorem probe_cleans_up_iff (budget : Nat) (machine : Machine kswfloppySignature KernelWorld) :
    CleansUp budget machine ↔
      (machine.world.answers.allocates machine.world.allocations = true →
        NothingToUndo machine.world) := by
  have asked : Clean machine.world.shared.select (kswfloppyProbe budget) machine ↔
      Clean machine.world.shared.select (afterInstance budget
        (if machine.world.answers.allocates machine.world.allocations = true then
          some machine.world.shared.next else none))
        ⟨machine.memory, machine.world.afterAllocation
          (machine.world.answers.allocates machine.world.allocations)⟩ := by
    rw [kswfloppyProbe_eq]
    exact clean_request (.devmKzalloc .instanceData) _ trivial
  rw [cleansUp_iff_clean, asked]
  cases granted : machine.world.answers.allocates machine.world.allocations with
  | false =>
      constructor
      · intro _ impossible
        exact absurd impossible (by decide)
      · intro _
        exact clean_done.mpr fun _ => rfl
  | true =>
      have rest : Clean machine.world.shared.select
          (afterInstance budget (some machine.world.shared.next))
          ⟨machine.memory, machine.world.afterAllocation true⟩ ↔
            NothingToUndo (machine.world.afterAllocation true) := clean_afterInstance
      constructor
      · intro clean _
        have nothing := rest.mp clean
        exact ⟨nothing.pcapProbed, nothing.muxProbed, nothing.alreadySet⟩
      · intro nothing
        have known := nothing rfl
        exact rest.mpr ⟨known.pcapProbed, known.muxProbed, known.alreadySet⟩

end Exits

section Traces

/-- A drive whose multiplexer input is the other one and whose lines are refused. -/
def refusing (shared : Shared) : Machine kswfloppySignature KernelWorld :=
  entry PlatformState.initial.kswfloppy shared ⟨.probe, ⟨.kswfloppy, 0⟩, { obliging 0 with
    propertyBool := fun _ => true
    gpiod := fun _ => .error enomem }⟩

/-- A node without driver data keeps its reference, and a refused line leaves the
register of the multiplexer changed. -/
theorem failed_probes_leave_traces :
    ¬CleansUp 0 (refusing PlatformState.initial.shared) ∧ ¬CleansUp 0 (refusing othersProbed) := by
  constructor
  · intro cleans
    have level := cleans.references (-enodev) _ rfl ⟨.pulsecap, 0⟩
    exact absurd level (by decide)
  · intro cleans
    have same := cleans.register (-enodev) _ rfl (by decide)
    exact absurd (congrFun same 7) (by decide)

end Traces

end Ebaz4205.KswfloppyCleanup
