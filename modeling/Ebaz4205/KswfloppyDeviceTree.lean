import Ebaz4205.KswfloppyProbePath

/-!
# Probes of incomplete device trees

`of_get_property` returns `NULL` for a property that is absent, and the probe tests
what it returns with `IS_ERR`, which a null pointer passes. Neither does it ask for
the length of a property, nor whose device a node is before it uses the node's data as
a multiplexer. Every other check is one for the convention at hand.
-/

namespace Ebaz4205.KswfloppyDeviceTree

open DriverProgram DriverProgram.Program PulsecapDriver KswfloppyDriver PlatformKernel AximuxDriver
open AximuxOperations KswfloppyModule KswfloppyEffects KswfloppyCleanup KswfloppyProbePath
open PlatformFrames PlatformSystem

set_option autoImplicit false

/-- Every line of the drive has a descriptor. -/
def LinesValid (answers : KernelAnswers) : Prop :=
  ∀ line < Signal.all.length, answers.gpiod line = .ok ()

/-- What a probe that goes on needs: its instances and its lines. -/
structure Equipped (inst : Address) (machine : Machine kswfloppySignature KernelWorld) : Prop where
  pcap : (machine.memory.instances inst).pcapInst ≠ none
  mux : (machine.memory.instances inst).muxInst ≠ none
  lines : LinesValid machine.world.answers

/-- A call that uses the descriptor of a line. -/
def UsesLine : KernelCall → Prop
  | .gpio _ _ => True
  | _ => False

/-- The probe follows no pointer that leads nowhere, and leaves each property at its
end; it uses its lines only if all are valid; and whenever it has not failed, it is
equipped. A shift or a buffer that is left is not counted here. -/
structure TreatsTree (budget : Nat) (machine : Machine kswfloppySignature KernelWorld) : Prop where
  pointers : ∀ used ∈ (kswfloppyProbe budget).accesses kernel machine, Pointed used.1 →
    used.2 < Place.extent KswfloppyArray.length used.1
  lines : ∀ exchange ∈ (kswfloppyProbe budget).exchanges kernel machine,
    UsesLine exchange.request → LinesValid machine.world.answers
  settled : ∀ outcome after, (kswfloppyProbe budget).exec kernel machine = (outcome, after) →
    outcome ≠ .undefined →
    (∃ code < 0, outcome = .returned code) ∨ Equipped machine.world.shared.next after

/-- The property is there and has a cell, unless it is refused with an error. -/
def HasCell (answers : KernelAnswers) (name : String) : Prop :=
  ∀ prop, answers.property name = .ok prop → ∃ bytes, prop = some bytes ∧ 4 ≤ bytes.length

/-- The phandles that the probe comes to read are there, and the multiplexer that it
comes to set is one. -/
structure PhandlesFit (world : KernelWorld) : Prop where
  pcap : HasCell world.answers "pcap-phandle"
  mux : ∀ pcap, lookUp world "pcap-phandle" = .taken pcap → HasCell world.answers "mux,phandle"
  typed : ∀ pcap mux pin, lookUp world "pcap-phandle" = .taken pcap →
    lookUp world "mux,phandle" = .taken mux → world.answers.propertyU64 "mux,pin" = .ok pin →
    mux.pdev.driver = .aximux

section Phandles

variable {world : KernelWorld} {name : String}

theorem cellOf_eq_none_iff {bytes : List Byte} : cellOf bytes = none ↔ ¬4 ≤ bytes.length := by
  match bytes with
  | [] => simp [cellOf]
  | [_] => simp [cellOf]
  | [_, _] => simp [cellOf]
  | [_, _, _] => simp [cellOf]
  | _ :: _ :: _ :: _ :: _ => simp [cellOf]

theorem lookUp_broken_iff : lookUp world name = .broken ↔ ¬HasCell world.answers name := by
  cases property : world.answers.property name with
  | error err =>
      have cell : HasCell world.answers name := by
        intro prop same
        rw [property] at same
        cases same
      simp [lookUp, property, cell]
  | ok prop =>
      cases prop with
      | none =>
          have noCell : ¬HasCell world.answers name := by
            intro cell
            obtain ⟨bytes, same, _⟩ := cell none property
            cases same
          simp [lookUp, property, noCell]
      | some bytes =>
          have cell : HasCell world.answers name ↔ 4 ≤ bytes.length := by
            constructor
            · intro cell
              obtain ⟨others, same, long⟩ := cell _ property
              cases same
              exact long
            · intro long prop same
              rw [property] at same
              cases same
              exact ⟨bytes, rfl, long⟩
          rw [cell, ← cellOf_eq_none_iff]
          simp only [lookUp, property]
          cases cellOf bytes with
          | none => simp
          | some phandle =>
              cases found : world.answers.phandle phandle with
              | none => simp [found]
              | some node => cases held : world.shared.nodeData node <;> simp [found, held]

/-- The search follows every pointer to its end, and finds a multiplexer where the
probe will set one. -/
def SearchFits (world : KernelWorld) : Prop :=
  taking world ≠ .broken ∧ ∀ pcap mux pin, taking world = .taken pcap mux →
    world.answers.propertyU64 "mux,pin" = .ok pin → mux.pdev.driver = .aximux

theorem searchFits_iff :
    SearchFits world ↔
      (world.answers.allocates world.allocations = true → PhandlesFit world) := by
  have fit : PhandlesFit world ↔
      lookUp world "pcap-phandle" ≠ .broken ∧ ∀ pcap, lookUp world "pcap-phandle" = .taken pcap →
        lookUp world "mux,phandle" ≠ .broken ∧
          ∀ mux pin, lookUp world "mux,phandle" = .taken mux →
            world.answers.propertyU64 "mux,pin" = .ok pin → mux.pdev.driver = .aximux := by
    simp only [ne_eq, lookUp_broken_iff, not_not]
    constructor
    · intro known
      exact ⟨known.pcap, fun pcap found =>
        ⟨known.mux pcap found, fun mux pin => known.typed pcap mux pin found⟩⟩
    · intro known
      exact ⟨known.1, fun pcap found => (known.2 pcap found).1,
        fun pcap mux pin found => (known.2 pcap found).2 mux pin⟩
  rw [SearchFits, taking, fit]
  cases world.answers.allocates world.allocations with
  | false => simp
  | true =>
      simp only [if_true, true_implies]
      cases lookUp world "pcap-phandle" with
      | absent code => simp [takingPcap]
      | broken => simp [takingPcap]
      | unprobed node => simp [takingPcap]
      | taken pcap =>
          cases lookUp world "mux,phandle" with
          | absent code => simp [takingPcap, takingMux]
          | broken => simp [takingPcap, takingMux]
          | unprobed node => simp [takingPcap, takingMux]
          | taken mux =>
              simp only [takingPcap, takingMux, ne_eq, reduceCtorEq, not_false_eq_true, true_and,
                Taking.taken.injEq, LookUp.taken.injEq, and_imp, forall_eq']
              constructor
              · intro known mux' pin same
                exact known pcap mux' pin rfl same
              · rintro known _ mux' pin rfl same
                exact known mux' pin same

end Phandles

section Probe

variable {budget : Nat} {machine : Machine kswfloppySignature KernelWorld}

theorem linesValid_of_granted
    (granted : ¬LineRefused machine.world.answers 0 floppySignalDirections.length) :
    LinesValid machine.world.answers := by
  intro line bound
  cases asked : machine.world.answers.gpiod line with
  | error err =>
      have near : line < 0 + floppySignalDirections.length := by
        rw [Nat.zero_add]
        exact bound
      exact absurd ⟨line, Nat.zero_le _, near, err, asked⟩ granted
  | ok _ => rfl

/-- The multiplexer and the drive are used without following a pointer. -/
def settling : Effects kswfloppySignature :=
  ⟨fun _ => True, fun _ => True, fun place _ => ¬Pointed place⟩

theorem settling_setPin {inst : Address} {mux : Instance} {pin : BitVec 64} {alt : Bool}
    (typed : mux.pdev.driver = .aximux) : (setPin budget inst mux pin alt).Within settling := by
  rw [setPin, callSetSrc_aximux typed]
  apply within_bind
  · refine ⟨trivial, fun cursrc => ⟨fun pointed => pointed, fun bit => ?_⟩⟩
    exact ⟨trivial, fun _ => trivial⟩
  · intro _
    apply within_mono (onLines_startDrive budget inst)
    · exact fun _ _ => trivial
    · exact fun _ _ => trivial
    · intro place position dump pointed
      rw [dump] at pointed
      exact pointed

/-- With its instances the probe follows a pointer only if the multiplexer is none. -/
theorem inside_configureMux {pcap mux : Instance} :
    (∀ used ∈ (configureMux budget machine.world.shared.next).accesses kernel
        (withInstances machine pcap mux), Pointed used.1 →
          used.2 < Place.extent KswfloppyArray.length used.1) ↔
      ∀ pin, machine.world.answers.propertyU64 "mux,pin" = .ok pin →
        mux.pdev.driver = .aximux := by
  cases read : machine.world.answers.propertyU64 "mux,pin" with
  | error err =>
      rw [configureMux_eq]
      change (∀ used ∈ (afterPin budget _ (machine.world.answers.propertyU64
        "mux,pin")).accesses kernel _, _) ↔ _
      rw [read]
      apply iff_of_true
      · exact fun _ member => absurd member List.not_mem_nil
      · exact fun _ same => by cases same
  | ok pin =>
      rw [accesses_configureMux (held_withInstances machine pcap mux) read]
      by_cases typed : mux.pdev.driver = .aximux
      · apply iff_of_true
        · intro used member pointed
          exact absurd pointed (accesses_within (settling_setPin typed) member)
        · exact fun _ _ => typed
      · apply iff_of_false
        · intro inside
          have followed : (Place.nullPointer, 0) ∈ (setPin budget machine.world.shared.next mux pin
              (machine.world.answers.propertyBool "mux,alt")).accesses kernel
                (withPin (withInstances machine pcap mux) machine.world.shared.next pin) := by
            rw [setPin, accesses_bind, callSetSrc, if_neg typed]
            exact List.mem_append_left _ List.mem_cons_self
          exact absurd (inside _ followed trivial) (Nat.lt_irrefl 0)
        · exact fun known => typed (known pin rfl)

theorem inside_iff :
    (∀ used ∈ (kswfloppyProbe budget).accesses kernel machine, Pointed used.1 →
        used.2 < Place.extent KswfloppyArray.length used.1) ↔ SearchFits machine.world := by
  have took : Took machine (taking machine.world) := takeInstances_took
  have search : (∀ used ∈ takeInstances.accesses kernel machine,
      Pointed used.1 → used.2 < Place.extent KswfloppyArray.length used.1) ↔
        (takeInstances.exec kernel machine).1 ≠ .undefined := by
    rw [← accesses_inside_iff]
    exact ⟨fun inside used member => inside used member
      (accesses_within searching_takeInstances member), fun inside used member _ =>
        inside used member⟩
  rw [SearchFits, kswfloppyProbe_parts, accesses_bind]
  simp only [List.forall_mem_append]
  rw [search]
  cases place : taking machine.world with
  | refused code =>
      rw [place] at took
      obtain ⟨_, after, ran⟩ := took
      simp [ran, followedBy, instancesTaken, accesses]
  | broken =>
      rw [place] at took
      simp [show (takeInstances.exec kernel machine).1 = .undefined from took]
  | taken pcap mux =>
      rw [place] at took
      rw [show takeInstances.exec kernel machine = _ from took]
      have rest := @inside_configureMux budget machine pcap mux
      constructor
      · intro known
        refine ⟨by simp, fun _ _ pin same read => ?_⟩
        cases same
        exact rest.mp known.2 pin read
      · intro known
        exact ⟨by simp, rest.mpr fun pin read => known.2 pcap mux pin rfl read⟩

/-- The probe is not at the drive when it has come to the end of this program. -/
def LinesUnused {Result : Type} (program : KswfloppyProgram Result)
    (machine : Machine kswfloppySignature KernelWorld) : Prop :=
  ∀ exchange ∈ program.exchanges kernel machine, ¬UsesLine exchange.request

section Unused

variable {Result Other : Type} {program : KswfloppyProgram Result}
  {next : Result → KswfloppyProgram Other}

theorem linesUnused_bind (first : LinesUnused program machine)
    (second : ∀ value middle, program.exec kernel machine = (.returned value, middle) →
      LinesUnused (next value) middle) : LinesUnused (program.bind next) machine := by
  intro exchange sent
  rw [exchanges_bind] at sent
  rcases List.mem_append.mp sent with early | late
  · exact first exchange early
  · cases ran : program.exec kernel machine with
    | mk outcome middle =>
        rw [ran] at late
        cases outcome with
        | returned value => exact second value middle ran exchange late
        | undefined => cases late
        | unfinished => cases late

/-- A program that may do anything but use a line. -/
def lineless : Effects kswfloppySignature :=
  ⟨fun asked => ¬UsesLine asked, fun _ => True, fun _ _ => True⟩

theorem linesUnused_of_within (within : program.Within lineless) : LinesUnused program machine :=
  fun _ sent => exchanges_within within sent

end Unused

theorem linesUnused_takeInstances : LinesUnused takeInstances machine := by
  apply linesUnused_of_within
  apply within_mono searching_takeInstances
  · intro asked search uses
    cases asked with
    | gpio inst operation => exact search
    | _ => exact uses
  · exact fun _ _ => trivial
  · exact fun _ _ _ => trivial

/-- Without all of its lines the probe uses none. -/
theorem linesUnused_startDrive {inst : Address}
    (refused : LineRefused machine.world.answers 0 floppySignalDirections.length) :
    LinesUnused (startDrive budget inst) machine := by
  rw [startDrive_eq]
  have lineless : (allocateGpios 0 floppySignalDirections).Within lineless :=
    within_allocateGpios (fun _ _ uses => uses) 0 floppySignalDirections
  apply linesUnused_bind (linesUnused_of_within lineless)
  intro allocated middle ran
  rcases @exec_allocateGpios machine 0 floppySignalDirections with ⟨_, failed⟩ | ⟨granted, _⟩
  · rw [failed] at ran
    cases ran
    exact fun _ sent => by cases sent
  · exact absurd refused granted

theorem linesUnused_setPin {inst : Address} {mux : Instance} {pin : BitVec 64} {alt : Bool}
    (refused : LineRefused machine.world.answers 0 floppySignalDirections.length) :
    LinesUnused (setPin budget inst mux pin alt) machine := by
  apply linesUnused_bind
  · apply linesUnused_of_within
    by_cases typed : mux.pdev.driver = .aximux
    · rw [callSetSrc_aximux typed]
      refine ⟨fun uses => uses, fun cursrc => ⟨trivial, fun bit => ?_⟩⟩
      exact ⟨fun uses => uses, fun _ => trivial⟩
    · rw [callSetSrc, if_neg typed]
      exact within_deref _ trivial
  · intro _ middle ran
    apply linesUnused_startDrive
    have framed := (frames_exec (callSetSrc (some mux) (pin.truncate 32) (if alt then 1 else 0))
      machine).answers
    rw [ran] at framed
    rw [framed]
    exact refused

theorem linesUnused_configureMux {pcap mux : Instance}
    (refused : LineRefused machine.world.answers 0 floppySignalDirections.length) :
    LinesUnused (configureMux budget machine.world.shared.next)
      (withInstances machine pcap mux) := by
  cases read : machine.world.answers.propertyU64 "mux,pin" with
  | error err =>
      intro exchange sent
      rw [configureMux_eq] at sent
      change exchange ∈ _ :: (afterPin budget _ (machine.world.answers.propertyU64
        "mux,pin")).exchanges kernel _ at sent
      rw [read] at sent
      rcases List.mem_cons.mp sent with rfl | later
      · exact fun uses => uses
      · cases later
  | ok pin =>
      have last : LinesUnused (setPin budget machine.world.shared.next mux pin
          (machine.world.answers.propertyBool "mux,alt"))
            (withPin (withInstances machine pcap mux) machine.world.shared.next pin) :=
        linesUnused_setPin refused
      intro exchange sent
      rw [exchanges_configureMux (held_withInstances machine pcap mux) read] at sent
      rcases List.mem_cons.mp sent with rfl | later
      · exact fun uses => uses
      · rcases List.mem_cons.mp later with rfl | tail
        · exact fun uses => uses
        · exact last exchange tail

theorem linesUnused_kswfloppyProbe
    (refused : LineRefused machine.world.answers 0 floppySignalDirections.length) :
    LinesUnused (kswfloppyProbe budget) machine := by
  rw [kswfloppyProbe_parts]
  apply linesUnused_bind linesUnused_takeInstances
  intro found middle ran
  cases found with
  | error code =>
      intro exchange sent
      cases sent
  | ok inst =>
      cases place : taking machine.world with
      | refused code =>
          have took : Took machine (taking machine.world) := takeInstances_took
          rw [place] at took
          obtain ⟨_, after, failed⟩ := took
          rw [failed] at ran
          cases ran
      | broken =>
          have took : Took machine (taking machine.world) := takeInstances_took
          rw [place] at took
          change (takeInstances.exec kernel machine).1 = .undefined at took
          rw [ran] at took
          cases took
      | taken pcap mux =>
          rw [exec_takeInstances_taken place] at ran
          cases ran
          exact linesUnused_configureMux refused

theorem equipped_of_tried {pcap mux : Instance} {pin : BitVec 64}
    (granted : ¬LineRefused machine.world.answers 0 floppySignalDirections.length) :
    Equipped machine.world.shared.next ((tryDrive budget machine.world.shared.next).exec kernel
      (atLines machine pcap mux pin)).2 := by
  have onLine : (tryDrive budget machine.world.shared.next).Within onLines :=
    within_tryDrive (onLines_onDrive machine.world.shared.next) budget
  have same := (sameHandles_of_onLines onLine
    (atLines machine pcap mux pin)).instances machine.world.shared.next
  have held : handles ((atLines machine pcap mux pin).memory.instances
      machine.world.shared.next) = (some pcap, some mux, pin.truncate 32) :=
    handles_withPin machine pcap mux pin
  rw [held, handles, Prod.mk.injEq, Prod.mk.injEq] at same
  have answers := (frames_exec (tryDrive budget machine.world.shared.next)
    (atLines machine pcap mux pin)).answers
  constructor
  · rw [same.1]
    exact Option.some_ne_none pcap
  · rw [same.2.1]
    exact Option.some_ne_none mux
  · rw [answers]
    exact linesValid_of_granted granted

theorem settled_kswfloppyProbe {outcome : Outcome Int}
    {after : Machine kswfloppySignature KernelWorld}
    (ran : (kswfloppyProbe budget).exec kernel machine = (outcome, after))
    (defined : outcome ≠ .undefined) :
    (∃ code < 0, outcome = .returned code) ∨ Equipped machine.world.shared.next after := by
  have returned : ∀ code last, code < 0 →
      (kswfloppyProbe budget).exec kernel machine = (.returned code, last) →
        ∃ failure < 0, outcome = .returned failure := by
    intro code last negative failed
    rw [ran] at failed
    exact ⟨code, negative, (Prod.mk.inj failed).1⟩
  have undefined : ((kswfloppyProbe budget).exec kernel machine).1 ≠ .undefined := by
    rw [ran]
    exact defined
  cases place : taking machine.world with
  | refused code =>
      obtain ⟨negative, last, failed⟩ := @exec_probe_refused budget code machine place
      exact Or.inl (returned code last negative failed)
  | broken => exact absurd (exec_probe_broken place) undefined
  | taken pcap mux =>
      cases read : machine.world.answers.propertyU64 "mux,pin" with
      | error err => exact Or.inl (returned _ _ (by decide) (exec_probe_unread place read))
      | ok pin =>
          by_cases typed : mux.pdev.driver = .aximux
          · by_cases inWord : (pin.truncate 32 : U32).toNat < 32
            · by_cases refused : LineRefused machine.world.answers 0 floppySignalDirections.length
              · exact Or.inl (returned _ _ (by decide)
                  (exec_probe_unequipped place read typed inWord refused))
              · right
                have equipped := @equipped_of_tried budget machine pcap mux pin refused
                rw [← exec_probe_equipped place read typed inWord refused, ran] at equipped
                exact equipped
            · exact absurd (exec_probe_shifted place read inWord) undefined
          · exact absurd (exec_probe_mistyped place read typed) undefined

/-- A probe treats its tree well exactly if it gets no memory, or the phandles it
comes to read are there and lead to a multiplexer where it sets one. -/
theorem tree_treated_iff (budget : Nat) (machine : Machine kswfloppySignature KernelWorld) :
    TreatsTree budget machine ↔
      (machine.world.answers.allocates machine.world.allocations = true →
        PhandlesFit machine.world) := by
  rw [← searchFits_iff]
  constructor
  · intro treats
    exact inside_iff.mp treats.pointers
  · intro fits
    constructor
    · exact inside_iff.mpr fits
    · intro exchange sent uses
      by_cases refused : LineRefused machine.world.answers 0 floppySignalDirections.length
      · exact absurd uses (linesUnused_kswfloppyProbe refused exchange sent)
      · exact linesValid_of_granted refused
    · intro outcome after ran defined
      exact settled_kswfloppyProbe ran defined

end Probe

section Incomplete

/-- A tree that has everything but for this property. -/
def incomplete (bytes : Option (List Byte)) : Machine kswfloppySignature KernelWorld :=
  entry PlatformState.initial.kswfloppy othersProbed
    ⟨.probe, ⟨.kswfloppy, 0⟩, { obliging 0 with property := fun _ => .ok bytes }⟩

/-- An absent property and one of three bytes are both read; and a pulse capture that both
phandles name is used as a multiplexer. -/
theorem absent_phandle_is_read :
    ¬TreatsTree 0 (incomplete none) ∧ ¬TreatsTree 0 (incomplete (some [0, 0, 0])) ∧
      ¬TreatsTree 0 (incomplete (some [0, 0, 0, 1])) := by
  refine ⟨?_, ?_, ?_⟩
  · intro treats
    exact absurd (treats.pointers (.nullPointer, 0) (by decide) trivial) (by decide)
  · intro treats
    exact absurd (treats.pointers (.array (.property 3), 3) (by decide) trivial) (by decide)
  · intro treats
    exact absurd (treats.pointers (.nullPointer, 0) (by decide) trivial) (by decide)

end Incomplete

end Ebaz4205.KswfloppyDeviceTree
