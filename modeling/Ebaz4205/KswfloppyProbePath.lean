import Ebaz4205.KswfloppyCleanup

/-!
# The way of a probe to the drive

Where the probe of the floppy drive driver ends follows from what the kernel
answers: it finds the instances of the two other drivers, or it is refused one of
them, or it reads through a pointer that leads nowhere. Only with both instances
does it come to the multiplexer, and only with every line to the drive.
-/

namespace Ebaz4205.KswfloppyProbePath

open DriverProgram DriverProgram.Program PulsecapDriver KswfloppyDriver PlatformKernel AximuxDriver
open AximuxOperations KswfloppyModule KswfloppyEffects KswfloppyCleanup PlatformFrames

set_option autoImplicit false

section Parts

def muxTaken (inst : Address) : Except Int Unit → KswfloppyProgram (Except Int Address)
  | .error code => .done (.error code)
  | .ok () => .done (.ok inst)

def pcapTaken (inst : Address) : Except Int Unit → KswfloppyProgram (Except Int Address)
  | .error code => .done (.error code)
  | .ok () => (takeInstance "mux,phandle" (storeMux inst)).bind (muxTaken inst)

def instanceAllocated : Option Address → KswfloppyProgram (Except Int Address)
  | none => .done (.error enomem.code)
  | some inst =>
      .update (.edit inst fun _ => .zeroed) (.call (.platformSetDrvdata inst) fun _ =>
        (takeInstance "pcap-phandle" (storePcap inst)).bind (pcapTaken inst))

/-- The probe up to the multiplexer: its own instance with those of the two other
drivers in it. -/
def takeInstances : KswfloppyProgram (Except Int Address) :=
  .call (.devmKzalloc .instanceData) instanceAllocated

def instancesTaken (budget : Nat) : Except Int Address → KswfloppyProgram Int
  | .error code => .done code
  | .ok inst => configureMux budget inst

theorem kswfloppyProbe_parts (budget : Nat) :
    kswfloppyProbe budget = takeInstances.bind (instancesTaken budget) := by
  rw [kswfloppyProbe_eq]
  apply congrArg (Program.call _)
  funext allocated
  cases allocated with
  | none => rfl
  | some inst =>
      apply congrArg (Program.update _)
      apply congrArg (Program.call _)
      funext _
      change Program.bind (takeInstance "pcap-phandle" (storePcap inst)) (afterPcap budget inst) =
        (Program.bind (takeInstance "pcap-phandle" (storePcap inst)) (pcapTaken inst)).bind
          (instancesTaken budget)
      rw [bind_assoc]
      apply congrArg (Program.bind _)
      funext pcapFound
      cases pcapFound with
      | error code => rfl
      | ok _ =>
          change Program.bind (takeInstance "mux,phandle" (storeMux inst)) (afterMux budget inst) =
            (Program.bind (takeInstance "mux,phandle" (storeMux inst)) (muxTaken inst)).bind
              (instancesTaken budget)
          rw [bind_assoc]
          apply congrArg (Program.bind _)
          funext muxFound
          cases muxFound <;> rfl

end Parts

section Ends

/-- How the search for the instances ends. -/
inductive Taking where
  | refused (code : Int)
  | broken
  | taken (pcap mux : Instance)

def takingMux (pcap : Instance) : LookUp → Taking
  | .absent code => .refused code
  | .broken => .broken
  | .unprobed _ => .refused (-enodev)
  | .taken mux => .taken pcap mux

def takingPcap (mux : LookUp) : LookUp → Taking
  | .absent code => .refused code
  | .broken => .broken
  | .unprobed _ => .refused (-enodev)
  | .taken pcap => takingMux pcap mux

/-- The end of the search, from what the kernel answers. -/
def taking (world : KernelWorld) : Taking :=
  if world.answers.allocates world.allocations then
    takingPcap (lookUp world "mux,phandle") (lookUp world "pcap-phandle")
  else .refused enomem.code

variable {machine : Machine kswfloppySignature KernelWorld}

/-- The memory and the kernel when both instances have been found. -/
def withInstances (machine : Machine kswfloppySignature KernelWorld) (pcap mux : Instance) :
    Machine kswfloppySignature KernelWorld where
  memory := storeMux machine.world.shared.next mux (storePcap machine.world.shared.next pcap
    (machine.memory.edit machine.world.shared.next fun _ => .zeroed))
  world := (machine.world.afterAllocation true).setDrvdata machine.world.shared.next

/-- What the search does, for each of its ends. -/
def Took (machine : Machine kswfloppySignature KernelWorld) : Taking → Prop
  | .refused code =>
      code < 0 ∧ ∃ after, takeInstances.exec kernel machine = (.returned (.error code), after)
  | .broken => (takeInstances.exec kernel machine).1 = .undefined
  | .taken pcap mux =>
      takeInstances.exec kernel machine =
        (.returned (.ok machine.world.shared.next), withInstances machine pcap mux)

theorem absent_neg {world : KernelWorld} {name : String} {code : Int}
    (absent : lookUp world name = .absent code) : code < 0 := by
  rw [lookUp] at absent
  split at absent
  · cases absent
    exact Errno.code_neg _
  · cases absent
  · split at absent
    · cases absent
    · split at absent
      · cases absent
        decide
      · split at absent <;> cases absent

theorem exec_takeInstances :
    takeInstances.exec kernel machine =
      (instanceAllocated (if machine.world.answers.allocates machine.world.allocations then
        some machine.world.shared.next else none)).exec kernel
          ⟨machine.memory, machine.world.afterAllocation
            (machine.world.answers.allocates machine.world.allocations)⟩ := rfl

/-- Where a search for an instance leads to. -/
def searched (taken : Instance → Taking) : LookUp → Taking
  | .absent code => .refused code
  | .broken => .broken
  | .unprobed _ => .refused (-enodev)
  | .taken inst => taken inst

theorem takingMux_eq (pcap : Instance) (mux : LookUp) :
    takingMux pcap mux = searched (.taken pcap) mux := by
  cases mux <;> rfl

theorem takingPcap_eq (mux pcap : LookUp) :
    takingPcap mux pcap = searched (fun inst => takingMux inst mux) pcap := by
  cases pcap <;> rfl

/-- A search ends the probe unless it finds an instance. -/
theorem took_search {name : String} {store : Instance → KswfloppyMemory → KswfloppyMemory}
    {start : Machine kswfloppySignature KernelWorld}
    {next : Except Int Unit → KswfloppyProgram (Except Int Address)} {taken : Instance → Taking}
    (fails : ∀ code, next (.error code) = .done (.error code))
    (ran : takeInstances.exec kernel machine =
      ((takeInstance name store).bind next).exec kernel start)
    (found : ∀ inst, takeInstances.exec kernel machine =
      (next (.ok ())).exec kernel { start with memory := store inst start.memory } →
        Took machine (taken inst)) :
    Took machine (searched taken (lookUp start.world name)) := by
  have ends : Ends name store start (lookUp start.world name) := takeInstance_ends
  rw [exec_bind] at ran
  cases place : lookUp start.world name with
  | absent code =>
      rw [place] at ends
      rw [ends.2.ran, continueWith_returned, fails] at ran
      exact ⟨absent_neg place, _, ran⟩
  | broken =>
      rw [place] at ends
      change (takeInstances.exec kernel machine).1 = .undefined
      rw [ran, ← exec_bind]
      exact exec_bind_undefined ends _
  | unprobed node =>
      rw [place] at ends
      rw [ends.ran, continueWith_returned, fails] at ran
      exact ⟨by decide, _, ran⟩
  | taken inst =>
      rw [place] at ends
      rw [ends.ran, continueWith_returned] at ran
      exact found inst ran

/-- The two searches are through the same tree, which taking an instance does not
change. -/
theorem takeInstances_took : Took machine (taking machine.world) := by
  have ran : takeInstances.exec kernel machine = _ := exec_takeInstances
  rw [taking]
  cases granted : machine.world.answers.allocates machine.world.allocations with
  | false =>
      rw [granted] at ran
      exact ⟨Errno.code_neg _, _, ran⟩
  | true =>
      rw [if_pos rfl, takingPcap_eq]
      rw [granted, if_pos rfl] at ran
      let inst := machine.world.shared.next
      let start : Machine kswfloppySignature KernelWorld :=
        ⟨machine.memory.edit inst fun _ => .zeroed,
          (machine.world.afterAllocation true).setDrvdata inst⟩
      apply @took_search machine "pcap-phandle" (storePcap inst) start (pcapTaken inst) _
        (fun _ => rfl) ran
      intro pcap ranPcap
      rw [takingMux_eq]
      let equipped : Machine kswfloppySignature KernelWorld :=
        { start with memory := storePcap inst pcap start.memory }
      apply @took_search machine "mux,phandle" (storeMux inst) equipped (muxTaken inst) _
        (fun _ => rfl) ranPcap
      intro mux ranMux
      exact ranMux

end Ends

section Effects

/-- A place that is reached through a pointer handed to the probe. -/
def Pointed : Place KswfloppyArray → Prop
  | .nullPointer => True
  | .array (.property _) => True
  | _ => False

/-- The calls that find the instances. -/
def Searching : KernelCall → Prop
  | .devmKzalloc _ => True
  | .platformSetDrvdata _ => True
  | .ofGetProperty _ => True
  | .ofFindNodeByPhandle _ => True
  | .nodeData _ => True
  | .ofNodePut _ => True
  | _ => False

def searching : Effects kswfloppySignature := ⟨Searching, fun _ => True, fun place _ => Pointed place⟩

theorem searching_takeInstance (name : String)
    (store : Instance → KswfloppyMemory → KswfloppyMemory) :
    (takeInstance name store).Within searching := by
  apply within_bind (within_kernelCall trivial)
  intro prop
  cases prop with
  | error err => trivial
  | ok prop =>
      apply within_bind (within_deref prop trivial)
      intro bytes
      apply within_bind (within_readCell fun _ => trivial)
      intro phandle
      apply within_bind (within_kernelCall trivial)
      intro node
      cases node with
      | none => trivial
      | some node =>
          apply within_bind (within_kernelCall trivial)
          intro data
          cases data with
          | none => trivial
          | some data =>
              apply within_bind (within_modify trivial)
              intro _
              exact within_bind (within_kernelCall trivial) fun _ => within_done _

theorem searching_takeInstances : takeInstances.Within searching := by
  constructor
  · trivial
  · intro allocated
    cases allocated with
    | none => trivial
    | some inst =>
        refine ⟨trivial, trivial, fun _ => ?_⟩
        apply within_bind (searching_takeInstance _ _)
        intro pcapFound
        cases pcapFound with
        | error code => trivial
        | ok _ =>
            apply within_bind (searching_takeInstance _ _)
            intro muxFound
            cases muxFound <;> trivial

/-- What an instance keeps of the two other drivers. -/
def handles (data : KswfloppyInstance) : Option Instance × Option Instance × U32 :=
  (data.pcapInst, data.muxInst, data.capturePin)

/-- The calls that request and use the lines of the drive. -/
def OnLines : KernelCall → Prop
  | .devmGpiodGetIndex _ _ => True
  | .gpio _ _ => True
  | _ => False

def onLines : Effects kswfloppySignature where
  sends := OnLines
  changes := fun change => ∀ memory address,
    handles ((change memory).instances address) = handles (memory.instances address)
  visits := fun place _ => place = .array .dump

theorem onLines_onDrive (inst : Address) : (onDrive inst).Within onLines where
  send := fun _ => within_kernelCall trivial
  fetch := within_field _
  update := by
    intro change
    apply within_modify
    intro memory address
    by_cases own : address = inst
    · rw [own, KswfloppyMemory.edit_self]
      rfl
    · rw [KswfloppyMemory.edit_of_ne own]
  locate := fun _ _ => within_element rfl

theorem onLines_startDrive (budget : Nat) (inst : Address) :
    (startDrive budget inst).Within onLines :=
  within_startDrive (fun _ _ => trivial) (onLines_onDrive inst) budget

/-- What the drive is not able to change. -/
structure SameHandles (before after : Machine kswfloppySignature KernelWorld) : Prop where
  instances : ∀ address,
    handles (after.memory.instances address) = handles (before.memory.instances address)
  drvdata : after.world.shared.drvdata = before.world.shared.drvdata
  select : after.world.shared.select = before.world.shared.select

theorem sameHandles_of_onLines {Result : Type} {program : KswfloppyProgram Result}
    (within : program.Within onLines) (machine : Machine kswfloppySignature KernelWorld) :
    SameHandles machine (program.exec kernel machine).2 := by
  apply exec_preserves (SameHandles machine) within
  · intro asked before sent same
    cases asked with
    | devmGpiodGetIndex index flags => exact ⟨same.instances, same.drvdata, same.select⟩
    | gpio inst operation =>
        cases operation <;> exact ⟨same.instances, same.drvdata, same.select⟩
    | _ => exact sent.elim
  · intro change before kept same
    exact ⟨fun address => (kept before.memory address).trans (same.instances address),
      same.drvdata, same.select⟩
  · exact ⟨fun _ => rfl, rfl, rfl⟩

end Effects

section Multiplexer

variable {budget : Nat} {inst : Address} {mux : Instance} {pin : BitVec 64}
  {machine : Machine kswfloppySignature KernelWorld}

/-- The pin is kept in the instance before the multiplexer is set. -/
def withPin (machine : Machine kswfloppySignature KernelWorld) (inst : Address)
    (pin : BitVec 64) : Machine kswfloppySignature KernelWorld :=
  { machine with
    memory := machine.memory.edit inst fun data => { data with capturePin := pin.truncate 32 } }

/-- The setting of the multiplexer and what follows it. -/
def setPin (budget : Nat) (inst : Address) (mux : Instance) (pin : BitVec 64) (alt : Bool) :
    KswfloppyProgram Int :=
  (callSetSrc (some mux) (pin.truncate 32) (if alt then 1 else 0)).bind fun _ =>
    startDrive budget inst

theorem exec_configureMux_unread {err : Errno}
    (unread : machine.world.answers.propertyU64 "mux,pin" = .error err) :
    (configureMux budget inst).exec kernel machine = (.returned (-eio), machine) := by
  rw [configureMux_eq]
  change (afterPin budget inst (machine.world.answers.propertyU64 "mux,pin")).exec kernel
    machine = _
  rw [unread]
  rfl

section Read

variable (held : (machine.memory.instances inst).muxInst = some mux)
  (read : machine.world.answers.propertyU64 "mux,pin" = .ok pin)
include held read

theorem exec_configureMux :
    (configureMux budget inst).exec kernel machine =
      (setPin budget inst mux pin (machine.world.answers.propertyBool "mux,alt")).exec kernel
        (withPin machine inst pin) := by
  rw [configureMux_eq]
  change (afterPin budget inst (machine.world.answers.propertyU64 "mux,pin")).exec kernel
    machine = _
  rw [read, setPin, ← held]
  change (Program.bind (callSetSrc ((machine.memory.edit inst fun data =>
    { data with capturePin := pin.truncate 32 }).instances inst).muxInst _ _) _).exec kernel _ = _
  rw [KswfloppyMemory.edit_self]
  rfl

theorem accesses_configureMux :
    (configureMux budget inst).accesses kernel machine =
      (setPin budget inst mux pin (machine.world.answers.propertyBool "mux,alt")).accesses kernel
        (withPin machine inst pin) := by
  rw [configureMux_eq]
  change (afterPin budget inst (machine.world.answers.propertyU64 "mux,pin")).accesses kernel
    machine = _
  rw [read, setPin, ← held]
  change (Program.bind (callSetSrc ((machine.memory.edit inst fun data =>
    { data with capturePin := pin.truncate 32 }).instances inst).muxInst _ _) _).accesses kernel
      _ = _
  rw [KswfloppyMemory.edit_self]
  rfl

theorem exchanges_configureMux :
    (configureMux budget inst).exchanges kernel machine =
      ⟨.ofPropertyReadU64 "mux,pin", machine.world.answers.propertyU64 "mux,pin"⟩ ::
        ⟨.ofPropertyReadBool "mux,alt", machine.world.answers.propertyBool "mux,alt"⟩ ::
          (setPin budget inst mux pin (machine.world.answers.propertyBool "mux,alt")).exchanges
            kernel (withPin machine inst pin) := by
  rw [configureMux_eq]
  apply congrArg (List.cons _)
  change (afterPin budget inst (machine.world.answers.propertyU64 "mux,pin")).exchanges kernel
    machine = _
  rw [read, setPin, ← held]
  apply congrArg (List.cons _)
  change (Program.bind (callSetSrc ((machine.memory.edit inst fun data =>
    { data with capturePin := pin.truncate 32 }).instances inst).muxInst _ _) _).exchanges kernel
      _ = _
  rw [KswfloppyMemory.edit_self]
  rfl

end Read

theorem held_withInstances (machine : Machine kswfloppySignature KernelWorld)
    (pcap mux : Instance) :
    ((withInstances machine pcap mux).memory.instances machine.world.shared.next).muxInst =
      some mux := by
  simp [withInstances, storeMux]

/-- The select register as the probe leaves it. -/
def written (machine : Machine kswfloppySignature KernelWorld) (dev : Address) (pin : BitVec 64)
    (alt : Bool) : Machine kswfloppySignature KernelWorld :=
  { machine with
    world := machine.world.writeSelect dev
      (selected (machine.world.shared.select dev) (pin.truncate 32 : U32).toNat alt) }

theorem source_ne_zero (alt : Bool) : decide ((if alt then (1 : U32) else 0) ≠ 0) = alt := by
  cases alt <;> decide

theorem exec_setPin {alt : Bool} (typed : mux.pdev.driver = .aximux)
    (inWord : (pin.truncate 32 : U32).toNat < 32) :
    (setPin budget inst mux pin alt).exec kernel machine =
      (startDrive budget inst).exec kernel (written machine mux.address pin alt) := by
  rw [setPin, callSetSrc_aximux typed, exec_bind, exec_aximuxSetSrc _ _ _ inWord,
    continueWith_returned, source_ne_zero, written]

theorem exec_startDrive_refused
    (refused : LineRefused machine.world.answers 0 floppySignalDirections.length) :
    (startDrive budget inst).exec kernel machine = (.returned (-enodev), machine) := by
  rw [startDrive_eq, exec_bind]
  rcases @exec_allocateGpios machine 0 floppySignalDirections with ⟨_, ran⟩ | ⟨granted, _⟩
  · rw [ran]
    rfl
  · exact absurd refused granted

theorem exec_startDrive
    (granted : ¬LineRefused machine.world.answers 0 floppySignalDirections.length) :
    (startDrive budget inst).exec kernel machine = (tryDrive budget inst).exec kernel machine := by
  rw [startDrive_eq, exec_bind]
  rcases @exec_allocateGpios machine 0 floppySignalDirections with ⟨refused, _⟩ | ⟨_, ran⟩
  · exact absurd refused granted
  · rw [ran, continueWith_returned, afterLines]

/-- The instance that the probe has filled in. -/
theorem handles_withPin (machine : Machine kswfloppySignature KernelWorld) (pcap mux : Instance)
    (pin : BitVec 64) :
    handles ((withPin (withInstances machine pcap mux) machine.world.shared.next
      pin).memory.instances machine.world.shared.next) =
        (some pcap, some mux, pin.truncate 32) := by
  rw [withPin, KswfloppyMemory.edit_self]
  simp [withInstances, storeMux, storePcap, handles]

end Multiplexer

section Whole

variable {budget : Nat} {pcap mux : Instance} {pin : BitVec 64} {code : Int}
  {machine : Machine kswfloppySignature KernelWorld}

/-- The machine in which the probe requests its lines. -/
def atLines (machine : Machine kswfloppySignature KernelWorld) (pcap mux : Instance)
    (pin : BitVec 64) : Machine kswfloppySignature KernelWorld :=
  written (withPin (withInstances machine pcap mux) machine.world.shared.next pin) mux.address pin
    (machine.world.answers.propertyBool "mux,alt")

theorem exec_probe_refused (place : taking machine.world = .refused code) :
    code < 0 ∧ ∃ after, (kswfloppyProbe budget).exec kernel machine = (.returned code, after) := by
  have took : Took machine (taking machine.world) := takeInstances_took
  rw [place] at took
  obtain ⟨negative, after, ran⟩ := took
  rw [kswfloppyProbe_parts, exec_bind, ran]
  exact ⟨negative, after, rfl⟩

theorem exec_probe_broken (place : taking machine.world = .broken) :
    ((kswfloppyProbe budget).exec kernel machine).1 = .undefined := by
  have took : Took machine (taking machine.world) := takeInstances_took
  rw [place] at took
  rw [kswfloppyProbe_parts]
  exact exec_bind_undefined took _

section Taken

variable (place : taking machine.world = .taken pcap mux)
include place

theorem exec_takeInstances_taken :
    takeInstances.exec kernel machine =
      (.returned (.ok machine.world.shared.next), withInstances machine pcap mux) := by
  have took : Took machine (taking machine.world) := takeInstances_took
  rw [place] at took
  exact took

theorem exec_probe_taken :
    (kswfloppyProbe budget).exec kernel machine =
      (configureMux budget machine.world.shared.next).exec kernel
        (withInstances machine pcap mux) := by
  rw [kswfloppyProbe_parts, exec_bind, exec_takeInstances_taken place]
  rfl

theorem accesses_probe_taken :
    (kswfloppyProbe budget).accesses kernel machine =
      takeInstances.accesses kernel machine ++
        (configureMux budget machine.world.shared.next).accesses kernel
          (withInstances machine pcap mux) := by
  rw [kswfloppyProbe_parts, accesses_bind, exec_takeInstances_taken place]
  rfl

theorem exec_probe_unread {err : Errno}
    (unread : machine.world.answers.propertyU64 "mux,pin" = .error err) :
    (kswfloppyProbe budget).exec kernel machine =
      (.returned (-eio), withInstances machine pcap mux) := by
  rw [exec_probe_taken place]
  exact exec_configureMux_unread unread

section Read

variable (read : machine.world.answers.propertyU64 "mux,pin" = .ok pin)
include read

theorem exec_probe_read :
    (kswfloppyProbe budget).exec kernel machine =
      (setPin budget machine.world.shared.next mux pin
        (machine.world.answers.propertyBool "mux,alt")).exec kernel
          (withPin (withInstances machine pcap mux) machine.world.shared.next pin) := by
  rw [exec_probe_taken place]
  exact exec_configureMux (held_withInstances machine pcap mux) read

/-- A multiplexer that is none ends the probe, whatever the pin. -/
theorem exec_probe_mistyped (mistyped : mux.pdev.driver ≠ .aximux) :
    ((kswfloppyProbe budget).exec kernel machine).1 = .undefined := by
  rw [exec_probe_read place read]
  exact exec_bind_undefined (exec_callSetSrc_mistyped mistyped _ _) _

/-- A pin outside the word ends the probe before it writes. -/
theorem exec_probe_shifted (outside : ¬(pin.truncate 32 : U32).toNat < 32) :
    ((kswfloppyProbe budget).exec kernel machine).1 = .undefined := by
  by_cases typed : mux.pdev.driver = .aximux
  · rw [exec_probe_read place read]
    apply exec_bind_undefined
    rw [callSetSrc_aximux typed]
    exact exec_aximuxSetSrc_undefined _ _ _ outside
  · exact exec_probe_mistyped place read typed

section Typed

variable (typed : mux.pdev.driver = .aximux)
include typed

theorem exec_probe (inWord : (pin.truncate 32 : U32).toNat < 32) :
    (kswfloppyProbe budget).exec kernel machine =
      (startDrive budget machine.world.shared.next).exec kernel
        (atLines machine pcap mux pin) := by
  rw [exec_probe_read place read, exec_setPin typed inWord, atLines]

theorem exec_probe_unequipped (inWord : (pin.truncate 32 : U32).toNat < 32)
    (refused : LineRefused machine.world.answers 0 floppySignalDirections.length) :
    (kswfloppyProbe budget).exec kernel machine =
      (.returned (-enodev), atLines machine pcap mux pin) := by
  rw [exec_probe place read typed inWord]
  exact exec_startDrive_refused refused

theorem exec_probe_equipped (inWord : (pin.truncate 32 : U32).toNat < 32)
    (granted : ¬LineRefused machine.world.answers 0 floppySignalDirections.length) :
    (kswfloppyProbe budget).exec kernel machine =
      (tryDrive budget machine.world.shared.next).exec kernel
        (atLines machine pcap mux pin) := by
  rw [exec_probe place read typed inWord]
  exact exec_startDrive granted

end Typed

end Read

end Taken

end Whole

end Ebaz4205.KswfloppyProbePath
