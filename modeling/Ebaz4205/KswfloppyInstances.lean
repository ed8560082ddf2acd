import Ebaz4205.KswfloppyEffects
import Ebaz4205.PlatformBindings

/-!
# What probe and remove of the floppy drive driver do

The probe ends in programs of unbounded length, and what it sends depends on the
instances it found; so the two functions are described by judgements instead of
equations: which instances of other drivers they take and use, and what they
leave of their own.
-/

namespace Ebaz4205.KswfloppyInstances

open DriverProgram DriverProgram.Program PulsecapDriver KswfloppyDriver PlatformKernel AximuxDriver
open KswfloppyModule KswfloppyEffects PlatformSystem PlatformFrames PlatformBindings

set_option autoImplicit false

/-- An exchange that takes an instance of another driver is with one of `owners`, and one
that uses a select register with a multiplexer of them. -/
def UsesLive (owners : Set Instance) : Exchange kswfloppySignature → Prop
  | ⟨.nodeData node, data⟩ => ∀ address, data = some address → ⟨node, address⟩ ∈ owners
  | ⟨.readSelect dev, _⟩ => ∃ inst ∈ owners, inst.pdev.driver = .aximux ∧ inst.address = dev
  | ⟨.writeSelect dev _, _⟩ => ∃ inst ∈ owners, inst.pdev.driver = .aximux ∧ inst.address = dev
  | _ => True

/-- Nothing happened to the pointers through which instances are found. -/
structure Alike (before after : Machine kswfloppySignature KernelWorld) : Prop where
  next : after.world.shared.next = before.world.shared.next
  drvdata : after.world.shared.drvdata = before.world.shared.drvdata
  nodeData : after.world.shared.nodeData = before.world.shared.nodeData
  muxInst : ∀ address,
    (after.memory.instances address).muxInst = (before.memory.instances address).muxInst

variable {owners : Set Instance} {start machine after : Machine kswfloppySignature KernelWorld}

theorem Alike.refl (machine : Machine kswfloppySignature KernelWorld) : Alike machine machine :=
  ⟨rfl, rfl, rfl, fun _ => rfl⟩

theorem Alike.trans {first second third : Machine kswfloppySignature KernelWorld}
    (start : Alike first second) (rest : Alike second third) : Alike first third where
  next := rest.next.trans start.next
  drvdata := rest.drvdata.trans start.drvdata
  nodeData := rest.nodeData.trans start.nodeData
  muxInst := fun address => (rest.muxInst address).trans (start.muxInst address)

/-- The calls that leave all those pointers alone. -/
def Quiet : KernelCall → Prop
  | .devmKzalloc _ => False
  | .platformSetDrvdata _ => False
  | .setNodeData _ => False
  | .deviceCreateWithGroups _ _ _ _ => False
  | _ => True

theorem alike_respond {call : KernelCall} (quiet : Quiet call) :
    Alike machine { machine with world := (KernelWorld.respond call machine.world).2 } := by
  cases call with
  | devmKzalloc block => exact quiet.elim
  | platformSetDrvdata data => exact quiet.elim
  | setNodeData data => exact quiet.elim
  | deviceCreateWithGroups minor drvdata groups number => exact quiet.elim
  | timer inst operation => cases operation <;> exact ⟨rfl, rfl, rfl, fun _ => rfl⟩
  | gpio inst operation => cases operation <;> exact ⟨rfl, rfl, rfl, fun _ => rfl⟩
  | _ => exact ⟨rfl, rfl, rfl, fun _ => rfl⟩

theorem edit_muxInst {inst : Address} {change : KswfloppyInstance → KswfloppyInstance}
    (same : ∀ data, (change data).muxInst = data.muxInst) (memory : KswfloppyMemory)
    (address : Address) :
    ((memory.edit inst change).instances address).muxInst =
      (memory.instances address).muxInst := by
  by_cases own : address = inst
  · rw [own, KswfloppyMemory.edit_self, same]
  · rw [KswfloppyMemory.edit_of_ne own]

section Tail

/-- What can be done once the pointers are in place: they are left alone, and no
instance is used but those of `owners`. -/
def settledEffects (owners : Set Instance) : Effects kswfloppySignature where
  sends := fun call => Quiet call ∧ ∀ reply, UsesLive owners ⟨call, reply⟩
  changes := fun change => ∀ memory address,
    ((change memory).instances address).muxInst = (memory.instances address).muxInst
  visits := fun _ _ => True

theorem settled_onDrive (inst : Address) : (onDrive inst).Within (settledEffects owners) where
  send := fun _ => within_kernelCall ⟨trivial, fun _ => trivial⟩
  fetch := within_field _
  update := fun _ => within_modify (edit_muxInst fun _ => rfl)
  locate := fun _ _ => within_element trivial

theorem settled_startDrive (budget : Nat) (inst : Address) :
    (startDrive budget inst).Within (settledEffects owners) := by
  refine within_startDrive ?_ (settled_onDrive inst) budget
  intro ii flags
  exact ⟨trivial, fun _ => trivial⟩

theorem settled_callSetSrc {mux : Instance} (live : mux ∈ owners) (port source : U32) :
    (callSetSrc (some mux) port source).Within (settledEffects owners) := by
  by_cases typed : mux.pdev.driver = .aximux
  · rw [callSetSrc_aximux typed]
    apply within_bind
    · exact within_kernelCall ⟨trivial, fun _ => ⟨mux, live, typed, rfl⟩⟩
    · intro cursrc
      apply within_bind
      · exact ⟨trivial, fun _ => trivial⟩
      · intro bit
        exact within_kernelCall ⟨trivial, fun _ => ⟨mux, live, typed, rfl⟩⟩
  · rw [callSetSrc, if_neg typed]
    exact within_deref _ trivial

theorem conducts_settled {Result : Type} {program : KswfloppyProgram Result}
    (good : Machine kswfloppySignature KernelWorld → Prop)
    (settled : program.Within (settledEffects owners))
    (stable : ∀ before after, Alike before after → good before → good after) :
    Conducts kernel (UsesLive owners) good program fun _ => good := by
  apply conducts_of_within settled
  · intro exchange sent
    exact sent.2 exchange.reply
  · intro call before sent holds
    exact stable before _ (alike_respond sent.1) holds
  · intro change before same holds
    exact stable before _ ⟨rfl, rfl, rfl, same before.memory⟩ holds

end Tail

section Probe

/-- What is kept from the beginning of a probe to its end. -/
structure Undisturbed (start machine : Machine kswfloppySignature KernelWorld) : Prop where
  nodeData : machine.world.shared.nodeData = start.world.shared.nodeData
  others : ∀ address, address ≠ start.world.shared.next →
    (machine.memory.instances address).muxInst = (start.memory.instances address).muxInst

structure Allocated (start machine : Machine kswfloppySignature KernelWorld) : Prop
    extends Undisturbed start machine where
  next : start.world.shared.next < machine.world.shared.next
  pdev : machine.world.pdev = start.world.pdev

structure Owned (start machine : Machine kswfloppySignature KernelWorld) : Prop
    extends Undisturbed start machine where
  next : start.world.shared.next < machine.world.shared.next
  drvdata : machine.world.shared.drvdata start.world.pdev = some start.world.shared.next

/-- After the allocation at the beginning. -/
def AfterAllocation (start : Machine kswfloppySignature KernelWorld) :
    Option Address → Machine kswfloppySignature KernelWorld → Prop
  | none, machine => Undisturbed start machine
  | some inst, machine => inst = start.world.shared.next ∧ Allocated start machine

/-- The new instance has its multiplexer. -/
structure Equipped (owners : Set Instance)
    (start machine : Machine kswfloppySignature KernelWorld) : Prop
    extends Owned start machine where
  mux : ∃ inst ∈ owners, (machine.memory.instances start.world.shared.next).muxInst = some inst

theorem Equipped.alike (equipped : Equipped owners start machine) (alike : Alike machine after) :
    Equipped owners start after where
  nodeData := alike.nodeData.trans equipped.nodeData
  others := fun address other => (alike.muxInst address).trans (equipped.others address other)
  next := by
    rw [alike.next]
    exact equipped.next
  drvdata := by
    rw [alike.drvdata]
    exact equipped.drvdata
  mux := by
    rw [alike.muxInst]
    exact equipped.mux

theorem others_edit {change : KswfloppyInstance → KswfloppyInstance}
    (undisturbed : Undisturbed start machine) (address : Address)
    (other : address ≠ start.world.shared.next) :
    ((machine.memory.edit start.world.shared.next change).instances address).muxInst =
      (start.memory.instances address).muxInst := by
  rw [KswfloppyMemory.edit_of_ne other]
  exact undisturbed.others address other

theorem Allocated.edit {change : KswfloppyInstance → KswfloppyInstance}
    (allocated : Allocated start machine) :
    Allocated start { machine with
      memory := machine.memory.edit start.world.shared.next change } :=
  { allocated with others := others_edit allocated.toUndisturbed }

theorem Owned.edit {change : KswfloppyInstance → KswfloppyInstance} (owned : Owned start machine) :
    Owned start { machine with
      memory := machine.memory.edit start.world.shared.next change } :=
  { owned with others := others_edit owned.toUndisturbed }

theorem conducts_devmKzalloc :
    Conducts kernel (UsesLive owners) (fun machine => machine = start)
      (kernelCall (.devmKzalloc .instanceData)) (AfterAllocation start) := by
  apply conducts_request
  · exact fun _ _ => trivial
  · rintro machine rfl
    simp only [kernel, KernelWorld.respond, KernelWorld.afterAllocation]
    cases machine.world.answers.allocates machine.world.allocations with
    | false => exact ⟨rfl, fun _ _ => rfl⟩
    | true => exact ⟨rfl, ⟨rfl, fun _ _ => rfl⟩, Nat.lt_succ_self _, rfl⟩

/-- The device that is probed has the new instance as its driver data. -/
theorem conducts_platformSetDrvdata :
    Conducts kernel (UsesLive owners) (Allocated start)
      (kernelCall (.platformSetDrvdata start.world.shared.next)) fun _ => Owned start := by
  apply conducts_request
  · exact fun _ _ => trivial
  · intro machine allocated
    refine ⟨⟨allocated.nodeData, allocated.others⟩, allocated.next, ?_⟩
    rw [← allocated.pdev]
    exact Function.update_self _ _ _

/-- A call that changes nothing on the kernel's side. -/
theorem conducts_ask {call : KernelCall} {pre : Machine kswfloppySignature KernelWorld → Prop}
    (idle : ∀ world, (KernelWorld.respond call world).2 = world)
    (sent : ∀ reply, UsesLive owners ⟨call, reply⟩) :
    Conducts kernel (UsesLive owners) pre (kernelCall call) fun _ => pre := by
  apply conducts_request
  · intro machine _
    exact sent _
  · intro machine before
    rw [show (kernel.respond call machine.world).2 = machine.world from idle machine.world]
    exact before

theorem conducts_readCell {pre : Machine kswfloppySignature KernelWorld → Prop}
    (bytes : List Byte) :
    Conducts kernel (UsesLive owners) pre (readCell bytes) fun _ => pre := by
  apply conducts_of_silent
  exact within_readCell fun _ => trivial

/-- The pointer that is stored comes from a node. -/
theorem conducts_takeInstance {name : String}
    {store : Instance → KswfloppyMemory → KswfloppyMemory}
    {pre stored : Machine kswfloppySignature KernelWorld → Prop}
    (published : ∀ machine, pre machine → ∀ node address,
      machine.world.shared.nodeData node = some address → ⟨node, address⟩ ∈ owners)
    (storing : ∀ machine, ∀ inst ∈ owners, pre machine →
      stored { machine with memory := store inst machine.memory }) :
    Conducts kernel (UsesLive owners) pre (takeInstance name store) fun result machine =>
      match result with
      | .error code => code ≠ 0 ∧ pre machine
      | .ok () => stored machine := by
  apply conducts_bind
  · exact conducts_ask (fun _ => rfl) fun _ => trivial
  intro prop
  cases prop with
  | error err => exact conducts_done _ fun machine before => ⟨err.code_ne_zero, before⟩
  | ok prop =>
      apply conducts_bind (conducts_of_silent (within_deref prop trivial))
      intro bytes
      apply conducts_bind (conducts_readCell bytes)
      intro phandle
      apply conducts_bind
      · exact conducts_ask (fun _ => rfl) fun _ => trivial
      intro node
      cases node with
      | none => exact conducts_done _ fun machine before => ⟨by decide, before⟩
      | some node =>
          have asked : Conducts kernel (UsesLive owners) pre (kernelCall (.nodeData node))
              fun data machine => machine.world.shared.nodeData node = data ∧ pre machine := by
            apply conducts_request
            · exact fun machine before => published machine before node
            · exact fun machine before => ⟨rfl, before⟩
          apply conducts_bind asked
          intro data
          cases data with
          | none => exact conducts_done _ fun machine before => ⟨by decide, before.2⟩
          | some data =>
              have live : ∀ machine : Machine kswfloppySignature KernelWorld,
                  machine.world.shared.nodeData node = some data ∧ pre machine →
                    ⟨node, data⟩ ∈ owners ∧ pre machine :=
                fun machine before => ⟨published machine before.2 node data before.1, before.2⟩
              apply conducts_of_fact live
              intro member
              have changed : Conducts kernel (UsesLive owners) pre
                  (Program.modify (store ⟨node, data⟩))
                  fun _ => stored :=
                conducts_modify fun machine before => storing machine ⟨node, data⟩ member before
              apply conducts_bind changed
              intro _
              apply conducts_bind
              · exact conducts_ask (fun _ => rfl) fun _ => trivial
              intro _
              exact conducts_done _ fun machine before => before

theorem conducts_configureMux (budget : Nat) :
    Conducts kernel (UsesLive owners) (Equipped owners start)
      (configureMux budget start.world.shared.next) fun _ => Equipped owners start := by
  apply conducts_bind
  · exact conducts_ask (fun _ => rfl) fun _ => trivial
  intro pin
  cases pin with
  | error err => exact conducts_done _ fun machine equipped => equipped
  | ok pin =>
      have pinned : (Program.modify (.edit start.world.shared.next
          fun data => { data with capturePin := pin.truncate 32 }) :
            KswfloppyProgram Unit).Within (settledEffects owners) :=
        within_modify (edit_muxInst fun _ => rfl)
      apply conducts_bind (conducts_settled _ pinned fun _ _ alike equipped => equipped.alike alike)
      intro _
      apply conducts_bind
      · exact conducts_ask (fun _ => rfl) fun _ => trivial
      intro isAlt
      have read : Conducts kernel (UsesLive owners) (Equipped owners start) (field id)
          fun memory machine => memory = machine.memory ∧ Equipped owners start machine :=
        conducts_field id fun machine equipped => ⟨rfl, equipped⟩
      apply conducts_bind read
      intro memory
      have mux : ∀ machine, memory = machine.memory ∧ Equipped owners start machine →
          (∃ inst ∈ owners, (memory.instances start.world.shared.next).muxInst = some inst) ∧
            Equipped owners start machine := by
        rintro machine ⟨rfl, equipped⟩
        exact ⟨equipped.mux, equipped⟩
      apply conducts_of_fact mux
      rintro ⟨inst, live, same⟩
      rw [same]
      apply conducts_bind (conducts_settled _ (settled_callSetSrc live _ _)
        fun _ _ alike equipped => equipped.alike alike)
      intro _
      exact conducts_settled _ (settled_startDrive budget _)
        fun _ _ alike equipped => equipped.alike alike

/-- A probe that returns zero has found its multiplexer among `owners`; however it
returns, the instances that were there keep theirs. -/
theorem conducts_kswfloppyProbe (budget : Nat)
    (published : ∀ node address, start.world.shared.nodeData node = some address →
      ⟨node, address⟩ ∈ owners) :
    Conducts kernel (UsesLive owners) (fun machine => machine = start) (kswfloppyProbe budget)
      fun code machine =>
        Undisturbed start machine ∧ (code = 0 → Equipped owners start machine) := by
  have found : ∀ machine, Undisturbed start machine → ∀ node address,
      machine.world.shared.nodeData node = some address → ⟨node, address⟩ ∈ owners := by
    intro machine undisturbed node address
    rw [undisturbed.nodeData]
    exact published node address
  apply conducts_bind conducts_devmKzalloc
  intro allocated
  cases allocated with
  | none =>
      exact conducts_done _ fun machine undisturbed =>
        ⟨undisturbed, fun success => absurd success enomem.code_ne_zero⟩
  | some inst =>
      apply conducts_of_fact fun _ before => before
      rintro rfl
      have clearing : Conducts kernel (UsesLive owners) (Allocated start)
          (Program.modify (.edit start.world.shared.next fun _ => .zeroed))
          fun _ => Allocated start :=
        conducts_modify fun _ allocated => allocated.edit
      apply conducts_bind clearing
      intro _
      apply conducts_bind conducts_platformSetDrvdata
      intro _
      apply conducts_bind (conducts_takeInstance
        (fun machine owned => found machine owned.toUndisturbed) fun _ _ _ owned => owned.edit)
      intro pcapTaken
      cases pcapTaken with
      | error code =>
          exact conducts_done _ fun machine failed =>
            ⟨failed.2.toUndisturbed, fun success => absurd success failed.1⟩
      | ok _ =>
          have equipping : ∀ machine, ∀ inst ∈ owners, Owned start machine →
              Equipped owners start { machine with
                memory := machine.memory.edit start.world.shared.next fun entry =>
                  { entry with muxInst := some inst } } := by
            intro machine inst live owned
            refine ⟨owned.edit, inst, live, ?_⟩
            rw [KswfloppyMemory.edit_self]
          apply conducts_bind (conducts_takeInstance
            (fun machine owned => found machine owned.toUndisturbed) equipping)
          intro muxTaken
          cases muxTaken with
          | error code =>
              exact conducts_done _ fun machine failed =>
                ⟨failed.2.toUndisturbed, fun success => absurd success failed.1⟩
          | ok _ =>
              apply conducts_weaken (conducts_configureMux budget)
              exact fun _ machine equipped => ⟨equipped.toUndisturbed, fun _ => equipped⟩

theorem leavesNewInstance_kswfloppyProbe (budget : Nat) :
    LeavesNewInstance (kswfloppyProbe budget) := by
  intro driver shared event machine ran
  have published : ∀ node address,
      (entry driver shared event : Machine kswfloppySignature _).world.shared.nodeData node =
        some address → (⟨node, address⟩ : Instance) ∈ Set.univ := fun _ _ _ => Set.mem_univ _
  have equipped :=
    ((conducts_kswfloppyProbe budget published).after_return _ _ _ rfl ran).2 rfl
  exact ⟨shared.next, equipped.drvdata, le_refl _, equipped.next⟩

end Probe

/-- A remove uses the multiplexer that the instance has kept. -/
theorem conducts_kswfloppyRemove {inst : Address}
    (held : start.world.shared.drvdata start.world.pdev = some inst)
    (mux : ∃ owner ∈ owners, (start.memory.instances inst).muxInst = some owner) :
    Conducts kernel (UsesLive owners) (fun machine => machine = start) kswfloppyRemove
      fun _ => Alike start := by
  have asking : Conducts kernel (UsesLive owners) (fun machine => machine = start)
      (kernelCall .platformGetDrvdata)
      fun reply machine => reply = some inst ∧ machine = start := by
    apply conducts_request
    · exact fun _ _ => trivial
    · rintro machine rfl
      exact ⟨held, rfl⟩
  apply conducts_bind asking
  intro reply
  apply conducts_of_fact fun _ before => before
  rintro rfl
  have pointing : Conducts kernel (UsesLive owners) (fun machine => machine = start)
      (deref (some inst)) fun pointer machine => pointer = inst ∧ machine = start :=
    conducts_done inst fun _ same => ⟨rfl, same⟩
  apply conducts_bind pointing
  intro pointer
  apply conducts_of_fact fun _ before => before
  rintro rfl
  have reading : Conducts kernel (UsesLive owners) (fun machine => machine = start) (field id)
      fun memory machine => memory = start.memory ∧ Alike start machine := by
    apply conducts_field
    rintro machine rfl
    exact ⟨rfl, .refl machine⟩
  apply conducts_bind reading
  intro memory
  apply conducts_of_fact fun _ before => before
  rintro rfl
  obtain ⟨owner, live, same⟩ := mux
  rw [same]
  have stable : ∀ before after, Alike before after → Alike start before → Alike start after :=
    fun before after later earlier => earlier.trans later
  apply conducts_bind (conducts_settled _ (settled_callSetSrc live _ _) stable)
  intro _
  apply conducts_bind (conducts_settled _ (within_interpret (settled_onDrive _) _) stable)
  intro _
  exact conducts_done 0 fun _ alike => alike

end Ebaz4205.KswfloppyInstances
