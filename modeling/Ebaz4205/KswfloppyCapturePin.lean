import Ebaz4205.AximuxSelectBits
import Ebaz4205.KswfloppyProbePath

/-!
# The pin that the floppy drive driver selects

The probe reads a pin of 64 bits, keeps 32 of them, and hands them to another
driver as a shift. Neither side compares the pin with anything: not with the word,
not with the mask, and not with the number of inputs that the multiplexer has.
-/

namespace Ebaz4205.KswfloppyCapturePin

open DriverProgram DriverProgram.Program PartialRuns PulsecapDriver KswfloppyDriver PlatformKernel
open AximuxDriver AximuxOperations AximuxSelectBits KswfloppyModule KswfloppyCleanup
open KswfloppyEffects KswfloppyProbePath PlatformFrames PlatformSystem

set_option autoImplicit false

def selectWrite : Exchange kswfloppySignature → Option (Address × U32)
  | ⟨.writeSelect dev value, _⟩ => some (dev, value)
  | _ => none

/-- What a program writes to select registers, in order. -/
def selectWrites {Result : Type} (program : KswfloppyProgram Result)
    (machine : Machine kswfloppySignature KernelWorld) : List (Address × U32) :=
  (program.exchanges kernel machine).filterMap selectWrite

/-- Every shift of a one is by less than the width of the word. -/
def ShiftsInWord {Result : Type} (program : KswfloppyProgram Result)
    (machine : Machine kswfloppySignature KernelWorld) : Prop :=
  ∀ used ∈ program.accesses kernel machine, used.1 = .wordBit → used.2 < 32

/-- The second word is the first but for the bit of this pin. -/
def OnlyPin (before after : U32) (pin : Nat) (value : Bool) : Prop :=
  ∀ bit < 32, after.getLsbD bit = if bit = pin then value else before.getLsbD bit

/-- The probe has come to this multiplexer with this pin. -/
structure AtPin (world : KernelWorld) (pcap mux : Instance) (pin : BitVec 64) : Prop where
  taken : taking world = .taken pcap mux
  typed : mux.pdev.driver = .aximux
  read : world.answers.propertyU64 "mux,pin" = .ok pin

section Laws

variable (budget : Nat) (inputWidth : Address → U32)
  (machine : Machine kswfloppySignature KernelWorld)

/-- The probe leaves the register alone, and does not succeed. -/
structure FailsUntouched : Prop where
  untouched : selectWrites (kswfloppyProbe budget) machine = []
  fails : ∀ code after, (kswfloppyProbe budget).exec kernel machine = (.returned code, after) →
    code < 0

/-- The probe sets its pin, an input of its multiplexer, and no other. -/
def SetsPin : Prop :=
  ∃ pcap mux pin value, AtPin machine.world pcap mux pin ∧
    pin.toNat < (inputWidth mux.address).toNat ∧
    selectWrites (kswfloppyProbe budget) machine = [(mux.address, value)] ∧
    OnlyPin (machine.world.shared.select mux.address) value pin.toNat
      (machine.world.answers.propertyBool "mux,alt")

/-- What a remove finds of a device whose probe ended in `after`: its driver data, its
instance, and a register that has since been written by `aximux_set_src` alone. -/
structure Follows (dev : Address) (after later : Machine kswfloppySignature KernelWorld) :
    Prop where
  drvdata : later.world.shared.drvdata later.world.pdev = some machine.world.shared.next
  instances : later.memory.instances machine.world.shared.next =
    after.memory.instances machine.world.shared.next
  select : ∃ calls reached, InWord calls ∧ (setSrc dev).Reaches after.world calls reached ∧
    later.world.shared.select dev = reached.shared.select dev

/-- The remove clears the pin and changes no other bit of any multiplexer. -/
structure ClearsPin (dev : Address) (pin : Nat)
    (later : Machine kswfloppySignature KernelWorld) : Prop where
  shifts : ShiftsInWord kswfloppyRemove later
  cleared : ∃ gone, kswfloppyRemove.exec kernel later = (.returned 0, gone) ∧
    OnlyPin (later.world.shared.select dev) (gone.world.shared.select dev) pin false ∧
    ∀ other, other ≠ dev → gone.world.shared.select other = later.world.shared.select other

/-- A probe and the remove after it treat the pin as one bit of one register. -/
structure RespectsPin : Prop where
  shifts : ShiftsInWord (kswfloppyProbe budget) machine
  settled : FailsUntouched budget machine ∨ SetsPin budget inputWidth machine
  removed : ∀ after later pcap mux pin,
    (kswfloppyProbe budget).exec kernel machine = (.returned 0, after) →
    AtPin machine.world pcap mux pin → Follows machine mux.address after later →
    ClearsPin mux.address pin.toNat later

/-- The pin is an input of the multiplexer, is in the word, is set only below the mask,
and no other bit was set beyond the mask. -/
structure PinFits (width : U32) (pin : BitVec 64) (alt : Bool) (select : U32) : Prop where
  input : pin.toNat < width.toNat
  inWord : pin.toNat < 32
  kept : alt = true → pin.toNat < 8
  others : ∀ bit, 8 ≤ bit → bit ≠ pin.toNat → select.getLsbD bit = false

end Laws

section Words

variable {select : U32} {port : Nat} {value : Bool}

/-- The mask takes more from the register than its port. -/
theorem onlyPin_selected_iff (inWord : port < 32) :
    OnlyPin select (selected select port value) port value ↔
      (value = true → port < 8) ∧ ∀ bit, 8 ≤ bit → bit ≠ port → select.getLsbD bit = false := by
  constructor
  · intro only
    constructor
    · intro set
      have own := only port inWord
      rw [getLsbD_selected, if_pos rfl, set, Bool.and_true] at own
      exact of_decide_eq_true own
    · intro bit beyond other
      by_cases inside : bit < 32
      · have kept := only bit inside
        rw [getLsbD_selected, decide_eq_false (Nat.not_lt.mpr beyond), Bool.false_and,
          if_neg other] at kept
        exact kept.symm
      · exact BitVec.getLsbD_of_ge _ _ (Nat.not_lt.mp inside)
  · intro ⟨set, others⟩ bit _
    rw [getLsbD_selected]
    by_cases inMask : bit < 8
    · rw [decide_eq_true inMask, Bool.true_and]
    · rw [decide_eq_false inMask, Bool.false_and]
      by_cases own : bit = port
      · rw [if_pos own]
        cases value with
        | false => rfl
        | true => exact absurd (own ▸ set rfl) inMask
      · rw [if_neg own]
        exact (others bit (Nat.not_lt.mp inMask) own).symm

end Words

section Parts

variable {Result Other : Type} {program : KswfloppyProgram Result}
  {next : Result → KswfloppyProgram Other} {budget : Nat}
  {machine middle : Machine kswfloppySignature KernelWorld}

theorem selectWrites_bind {value : Result}
    (ran : program.exec kernel machine = (.returned value, middle)) :
    selectWrites (program.bind next) machine =
      selectWrites program machine ++ selectWrites (next value) middle := by
  rw [selectWrites, exchanges_bind, ran, List.filterMap_append]
  rfl

theorem selectWrites_bind_undefined
    (faulted : (program.exec kernel machine).1 = .undefined) :
    selectWrites (program.bind next) machine = selectWrites program machine := by
  rw [selectWrites, exchanges_bind, followedBy_undefined faulted, List.append_nil]
  rfl

/-- A program that may do anything but write a select register. -/
def Reading : KernelCall → Prop
  | .writeSelect _ _ => False
  | _ => True

def reading : Effects kswfloppySignature := ⟨Reading, fun _ => True, fun _ _ => True⟩

theorem selectWrites_of_within (within : program.Within reading) :
    selectWrites program machine = [] := by
  apply List.filterMap_eq_nil_iff.mpr
  intro ⟨asked, reply⟩ sent
  have read := exchanges_within within sent
  cases asked with
  | writeSelect dev value => exact read.elim
  | _ => rfl

theorem reading_takeInstances : takeInstances.Within reading := by
  apply within_mono searching_takeInstances
  · intro asked search
    cases asked with
    | writeSelect dev value => exact search
    | _ => trivial
  · exact fun _ _ => trivial
  · exact fun _ _ _ => trivial

theorem reading_of_onLines (within : program.Within onLines) : program.Within reading := by
  apply within_mono within
  · intro asked used
    cases asked with
    | writeSelect dev value => exact used
    | _ => trivial
  · exact fun _ _ => trivial
  · exact fun _ _ _ => trivial

theorem selectWrites_setSrc {dev : Address} {port source : U32} (inWord : port.toNat < 32) :
    selectWrites (aximuxSetSrc (some dev) port source) machine =
      [(dev, selected (machine.world.shared.select dev) port.toNat (source ≠ 0))] := by
  simp only [selectWrites, aximuxSetSrc, bind_eq, kernelCall, shiftedOne, Program.bind, exchanges,
    dif_pos inWord, List.filterMap_cons, selectWrite, List.filterMap_nil, selected,
    decide_eq_true_eq]
  rfl

end Parts

section Probe

variable {budget : Nat} {machine : Machine kswfloppySignature KernelWorld} {pcap mux : Instance}
  {pin : BitVec 64}

/-- A call with an instance of another driver does nothing but follow it nowhere. -/
theorem callSetSrc_mistyped (mistyped : mux.pdev.driver ≠ .aximux) (port source : U32) :
    (callSetSrc (some mux) port source).exchanges kernel machine = [] ∧
      (callSetSrc (some mux) port source).accesses kernel machine = [(.nullPointer, 0)] := by
  rw [callSetSrc, if_neg mistyped]
  exact ⟨rfl, rfl⟩

/-- A probe that does not come to its pin writes nothing. -/
theorem selectWrites_away (away : ∀ pcap mux pin, ¬AtPin machine.world pcap mux pin) :
    selectWrites (kswfloppyProbe budget) machine = [] := by
  have took : Took machine (taking machine.world) := takeInstances_took
  have search : selectWrites takeInstances machine = [] :=
    selectWrites_of_within reading_takeInstances
  rw [kswfloppyProbe_parts]
  cases place : taking machine.world with
  | refused code =>
      rw [place] at took
      obtain ⟨_, after, ran⟩ := took
      rw [selectWrites_bind ran, search]
      rfl
  | broken =>
      rw [place] at took
      rw [selectWrites_bind_undefined took, search]
  | taken pcap mux =>
      rw [selectWrites_bind (exec_takeInstances_taken place), search, List.nil_append,
        instancesTaken, selectWrites, configureMux_eq]
      cases read : machine.world.answers.propertyU64 "mux,pin" with
      | error err =>
          change List.filterMap selectWrite (_ :: (afterPin budget _
            (machine.world.answers.propertyU64 "mux,pin")).exchanges kernel _) = []
          rw [read]
          rfl
      | ok pin =>
          have mistyped : mux.pdev.driver ≠ .aximux :=
            fun typed => away pcap mux pin ⟨place, typed, read⟩
          rw [← configureMux_eq, exchanges_configureMux (held_withInstances machine pcap mux) read,
            setPin, exchanges_bind, (callSetSrc_mistyped mistyped _ _).1,
            followedBy_undefined (exec_callSetSrc_mistyped mistyped _ _)]
          rfl

theorem fails_away (away : ∀ pcap mux pin, ¬AtPin machine.world pcap mux pin) :
    ∀ code after, (kswfloppyProbe budget).exec kernel machine = (.returned code, after) →
      code < 0 := by
  intro code after ran
  cases place : taking machine.world with
  | refused other =>
      obtain ⟨negative, last, failed⟩ := @exec_probe_refused budget other machine place
      rw [failed] at ran
      cases ran
      exact negative
  | broken =>
      have faulted := @exec_probe_broken budget machine place
      rw [ran] at faulted
      cases faulted
  | taken pcap mux =>
      cases read : machine.world.answers.propertyU64 "mux,pin" with
      | error err =>
          rw [exec_probe_unread place read] at ran
          cases ran
          decide
      | ok pin =>
          have faulted := @exec_probe_mistyped budget pcap mux pin machine place read
            fun typed => away pcap mux pin ⟨place, typed, read⟩
          rw [ran] at faulted
          cases faulted

theorem selectWrites_probe (arrived : AtPin machine.world pcap mux pin) :
    selectWrites (kswfloppyProbe budget) machine =
      selectWrites (setPin budget machine.world.shared.next mux pin
        (machine.world.answers.propertyBool "mux,alt"))
          (withPin (withInstances machine pcap mux) machine.world.shared.next pin) := by
  have search : selectWrites takeInstances machine = [] :=
    selectWrites_of_within reading_takeInstances
  rw [kswfloppyProbe_parts, selectWrites_bind (exec_takeInstances_taken arrived.taken), search,
    List.nil_append, instancesTaken, selectWrites,
    exchanges_configureMux (held_withInstances machine pcap mux) arrived.read]
  rfl

theorem selectWrites_arrived (arrived : AtPin machine.world pcap mux pin)
    (inWord : (pin.truncate 32 : U32).toNat < 32) :
    selectWrites (kswfloppyProbe budget) machine =
      [(mux.address, selected (machine.world.shared.select mux.address)
        (pin.truncate 32 : U32).toNat (machine.world.answers.propertyBool "mux,alt"))] := by
  rw [selectWrites_probe arrived, setPin, callSetSrc_aximux arrived.typed,
    selectWrites_bind (exec_aximuxSetSrc _ _ _ inWord), selectWrites_setSrc inWord, source_ne_zero,
    selectWrites_of_within (reading_of_onLines (onLines_startDrive _ _)), List.append_nil]
  rfl

/-- The search for the instances shifts nothing. -/
theorem unshifted_takeInstances :
    ∀ used ∈ takeInstances.accesses kernel machine, used.1 ≠ .wordBit := by
  intro used member same
  have pointed := accesses_within searching_takeInstances member
  change Pointed used.1 at pointed
  rw [same] at pointed
  exact pointed

theorem unshifted_away (away : ∀ pcap mux pin, ¬AtPin machine.world pcap mux pin) :
    ∀ used ∈ (kswfloppyProbe budget).accesses kernel machine, used.1 ≠ .wordBit := by
  have took : Took machine (taking machine.world) := takeInstances_took
  cases place : taking machine.world with
  | refused code =>
      rw [place] at took
      obtain ⟨_, after, ran⟩ := took
      rw [kswfloppyProbe_parts, accesses_bind, ran]
      exact fun used member => unshifted_takeInstances used (List.append_nil _ ▸ member)
  | broken =>
      rw [place] at took
      rw [kswfloppyProbe_parts, accesses_bind, followedBy_undefined took, List.append_nil]
      exact unshifted_takeInstances
  | taken pcap mux =>
      rw [accesses_probe_taken place]
      cases read : machine.world.answers.propertyU64 "mux,pin" with
      | error err =>
          rw [configureMux_eq]
          change ∀ used ∈ _ ++ (afterPin budget _ (machine.world.answers.propertyU64
            "mux,pin")).accesses kernel _, _
          rw [read]
          exact fun used member => unshifted_takeInstances used (List.append_nil _ ▸ member)
      | ok pin =>
          have mistyped : mux.pdev.driver ≠ .aximux :=
            fun typed => away pcap mux pin ⟨place, typed, read⟩
          rw [accesses_configureMux (held_withInstances machine pcap mux) read, setPin,
            accesses_bind, (callSetSrc_mistyped mistyped _ _).2,
            followedBy_undefined (exec_callSetSrc_mistyped mistyped _ _), List.append_nil]
          intro used member
          rcases List.mem_append.mp member with early | late
          · exact unshifted_takeInstances used early
          · rw [List.mem_singleton.mp late]
            decide

theorem shiftsInWord_iff :
    ShiftsInWord (kswfloppyProbe budget) machine ↔
      ∀ pcap mux pin, AtPin machine.world pcap mux pin → (pin.truncate 32 : U32).toNat < 32 := by
  have tail : ∀ inst after, ∀ used ∈ (startDrive budget inst).accesses kernel after,
      used.1 ≠ .wordBit := by
    intro inst after used member same
    have dump := accesses_within (onLines_startDrive budget inst) member
    change used.1 = .array .dump at dump
    rw [same] at dump
    cases dump
  constructor
  · intro shifts pcap mux pin arrived
    apply shifts (.wordBit, (pin.truncate 32 : U32).toNat) _ rfl
    rw [accesses_probe_taken arrived.taken,
      accesses_configureMux (held_withInstances machine pcap mux) arrived.read, setPin,
      callSetSrc_aximux arrived.typed, accesses_bind, accesses_aximuxSetSrc]
    exact List.mem_append_right _ List.mem_cons_self
  · intro small used member bit
    by_cases somewhere : ∃ pcap mux pin, AtPin machine.world pcap mux pin
    · obtain ⟨pcap, mux, pin, arrived⟩ := somewhere
      have inWord := small pcap mux pin arrived
      rw [accesses_probe_taken arrived.taken,
        accesses_configureMux (held_withInstances machine pcap mux) arrived.read, setPin,
        callSetSrc_aximux arrived.typed, accesses_bind, accesses_aximuxSetSrc,
        exec_aximuxSetSrc _ _ _ inWord] at member
      rcases List.mem_append.mp member with early | late
      · exact absurd bit (unshifted_takeInstances used early)
      · rcases List.mem_cons.mp late with rfl | last
        · exact inWord
        · exact absurd bit (tail _ _ used last)
    · have away : ∀ pcap mux pin, ¬AtPin machine.world pcap mux pin :=
        fun pcap mux pin arrived => somewhere ⟨pcap, mux, pin, arrived⟩
      exact absurd bit (unshifted_away away used member)

/-- What a probe leaves that has set its pin. -/
theorem sameHandles_arrived {outcome : Outcome Int} {after : Machine kswfloppySignature KernelWorld}
    (arrived : AtPin machine.world pcap mux pin) (inWord : (pin.truncate 32 : U32).toNat < 32)
    (ran : (kswfloppyProbe budget).exec kernel machine = (outcome, after)) :
    SameHandles (atLines machine pcap mux pin) after := by
  rw [exec_probe arrived.taken arrived.read arrived.typed inWord] at ran
  have same := sameHandles_of_onLines (onLines_startDrive budget machine.world.shared.next)
    (atLines machine pcap mux pin)
  rw [ran] at same
  exact same

end Probe

section Remove

variable {machine after later : Machine kswfloppySignature KernelWorld} {inst : Address}
  {pcap mux : Instance} {pin : BitVec 64}

/-- The remove, for an instance with this multiplexer and this pin. -/
def clearPin (inst : Address) (mux : Instance) (port : U32) : KswfloppyProgram Int :=
  (callSetSrc (some mux) port 0).bind fun _ =>
    (deassertAll.interpret (onDrive inst)).bind fun _ => .done 0

section Found

variable {port : U32} (drvdata : later.world.shared.drvdata later.world.pdev = some inst)
  (held : handles (later.memory.instances inst) = (some pcap, some mux, port))
include drvdata held

theorem exec_kswfloppyRemove :
    kswfloppyRemove.exec kernel later = (clearPin inst mux port).exec kernel later := by
  rw [handles, Prod.mk.injEq, Prod.mk.injEq] at held
  rw [clearPin, ← held.2.1, ← held.2.2]
  change (Program.bind (deref (later.world.shared.drvdata later.world.pdev)) _).exec kernel
    later = _
  rw [drvdata]
  rfl

theorem accesses_kswfloppyRemove :
    kswfloppyRemove.accesses kernel later = (clearPin inst mux port).accesses kernel later := by
  rw [handles, Prod.mk.injEq, Prod.mk.injEq] at held
  rw [clearPin, ← held.2.1, ← held.2.2]
  change (Program.bind (deref (later.world.shared.drvdata later.world.pdev)) _).accesses kernel
    later = _
  rw [drvdata]
  rfl

theorem clearsPin_of_masked (typed : mux.pdev.driver = .aximux) (inWord : port.toNat < 32)
    (masked : later.world.shared.select mux.address &&& ~~~aximuxSelMask = 0) :
    ClearsPin mux.address port.toNat later := by
  constructor
  · intro used member bit
    rw [accesses_kswfloppyRemove drvdata held, clearPin, callSetSrc_aximux typed, accesses_bind,
      accesses_aximuxSetSrc, exec_aximuxSetSrc _ _ _ inWord] at member
    change used ∈ [(Place.wordBit, port.toNat)] at member
    rw [List.mem_singleton.mp member]
    exact inWord
  · rw [exec_kswfloppyRemove drvdata held, clearPin, callSetSrc_aximux typed, exec_bind,
      exec_aximuxSetSrc _ _ _ inWord]
    refine ⟨_, rfl, ?_, ?_⟩
    · change OnlyPin _ (Function.update later.world.shared.select mux.address _ mux.address) _ _
      rw [Function.update_self]
      apply (onlyPin_selected_iff inWord).mpr
      constructor
      · intro set
        cases set
      · intro bit beyond _
        exact getLsbD_of_masked masked beyond
    · intro dev other
      exact Function.update_of_ne other _ _

end Found

theorem masked_of_follows {dev : Address} (follows : Follows machine dev after later)
    (masked : after.world.shared.select dev &&& ~~~aximuxSelMask = 0) :
    later.world.shared.select dev &&& ~~~aximuxSelMask = 0 := by
  obtain ⟨calls, reached, inWord, ran, same⟩ := follows.select
  rw [same, (reaches_setSrc inWord).mp ran]
  by_cases called : calls = []
  · rw [called]
    exact masked
  · exact foldl_masked called

end Remove

section Exact

variable {budget : Nat} {inputWidth : Address → U32}
  {machine : Machine kswfloppySignature KernelWorld} {pcap mux : Instance} {pin : BitVec 64}

theorem truncate_of_narrow (narrow : pin.toNat < 2 ^ 32) :
    (pin.truncate 32 : U32).toNat = pin.toNat := by
  rw [BitVec.truncate_eq_setWidth, BitVec.toNat_setWidth]
  exact Nat.mod_eq_of_lt narrow

theorem truncate_of_small (small : pin.toNat < 32) : (pin.truncate 32 : U32).toNat = pin.toNat :=
  truncate_of_narrow (Nat.lt_trans small (by decide))

/-- There is one pin at most that a probe comes to. -/
theorem AtPin.unique {otherPcap otherMux : Instance} {other : BitVec 64}
    (arrived : AtPin machine.world pcap mux pin)
    (again : AtPin machine.world otherPcap otherMux other) : otherMux = mux ∧ other = pin := by
  have places := again.taken.symm.trans arrived.taken
  have pins := again.read.symm.trans arrived.read
  cases places
  cases pins
  exact ⟨rfl, rfl⟩

theorem pinFits_of_respects (respects : RespectsPin budget inputWidth machine)
    (arrived : AtPin machine.world pcap mux pin) :
    PinFits (inputWidth mux.address) pin (machine.world.answers.propertyBool "mux,alt")
      (machine.world.shared.select mux.address) := by
  have inWord := shiftsInWord_iff.mp respects.shifts pcap mux pin arrived
  have writes : selectWrites (kswfloppyProbe budget) machine = _ :=
    selectWrites_arrived arrived inWord
  rcases respects.settled with fails | ⟨_, otherMux, other, value, again, input, wrote, only⟩
  · rw [fails.untouched] at writes
    cases writes
  · obtain ⟨rfl, rfl⟩ := AtPin.unique arrived again
    rw [writes, List.cons.injEq, Prod.mk.injEq] at wrote
    have narrow : other.toNat < 2 ^ 32 := Nat.lt_trans input (inputWidth otherMux.address).isLt
    have same := truncate_of_narrow narrow
    rw [same] at inWord wrote
    rw [← wrote.1.2] at only
    obtain ⟨kept, others⟩ := (onlyPin_selected_iff inWord).mp only
    exact ⟨input, inWord, kept, others⟩

theorem setsPin_of_fits (arrived : AtPin machine.world pcap mux pin)
    (fits : PinFits (inputWidth mux.address) pin (machine.world.answers.propertyBool "mux,alt")
      (machine.world.shared.select mux.address)) : SetsPin budget inputWidth machine := by
  have same := truncate_of_small fits.inWord
  have writes : selectWrites (kswfloppyProbe budget) machine = _ :=
    selectWrites_arrived arrived (by rw [same]; exact fits.inWord)
  rw [same] at writes
  exact ⟨pcap, mux, pin, _, arrived, fits.input, writes,
    (onlyPin_selected_iff fits.inWord).mpr ⟨fits.kept, fits.others⟩⟩

/-- The pin is respected exactly if a probe that comes to it finds it fitting. -/
theorem pin_respected_iff (budget : Nat) (inputWidth : Address → U32)
    (machine : Machine kswfloppySignature KernelWorld) :
    RespectsPin budget inputWidth machine ↔
      ∀ pcap mux pin, AtPin machine.world pcap mux pin →
        PinFits (inputWidth mux.address) pin (machine.world.answers.propertyBool "mux,alt")
          (machine.world.shared.select mux.address) := by
  constructor
  · intro respects pcap mux pin arrived
    exact pinFits_of_respects respects arrived
  · intro fits
    constructor
    · apply shiftsInWord_iff.mpr
      intro pcap mux pin arrived
      have fitting := fits pcap mux pin arrived
      rw [truncate_of_small fitting.inWord]
      exact fitting.inWord
    · by_cases somewhere : ∃ pcap mux pin, AtPin machine.world pcap mux pin
      · obtain ⟨pcap, mux, pin, arrived⟩ := somewhere
        exact Or.inr (setsPin_of_fits arrived (fits pcap mux pin arrived))
      · have away : ∀ pcap mux pin, ¬AtPin machine.world pcap mux pin :=
          fun pcap mux pin arrived => somewhere ⟨pcap, mux, pin, arrived⟩
        exact Or.inl ⟨selectWrites_away away, fails_away away⟩
    · intro after later pcap mux pin ran arrived follows
      have fitting := fits pcap mux pin arrived
      have same := truncate_of_small fitting.inWord
      have inWord : (pin.truncate 32 : U32).toNat < 32 := by
        rw [same]
        exact fitting.inWord
      have left := sameHandles_arrived arrived inWord ran
      have held := left.instances machine.world.shared.next
      rw [show handles ((atLines machine pcap mux pin).memory.instances machine.world.shared.next) =
        (some pcap, some mux, pin.truncate 32) from handles_withPin machine pcap mux pin,
        ← follows.instances] at held
      have masked : after.world.shared.select mux.address &&& ~~~aximuxSelMask = 0 := by
        rw [left.select, atLines, written, KernelWorld.writeSelect]
        dsimp only
        rw [Function.update_self]
        exact selected_masked _ _ _
      rw [← same]
      exact clearsPin_of_masked follows.drvdata held arrived.typed inWord
        (masked_of_follows follows masked)

end Exact

section Misfits

/-- A tree whose other devices have been probed, with this pin and its alternative source. -/
def pinned (pin : BitVec 64) : Machine kswfloppySignature KernelWorld :=
  entry PlatformState.initial.kswfloppy othersProbed
    ⟨.probe, ⟨.kswfloppy, 0⟩, { obliging 0 with
      propertyU64 := fun _ => .ok pin
      propertyBool := fun _ => true
      gpiod := fun _ => .error enomem }⟩

/-- Pin 9 of a multiplexer with sixteen inputs is not selected, pin 32 is a shift out
of the word, and pin 4294967297 selects pin 1. -/
theorem misfitting_pins :
    ¬RespectsPin 0 (fun _ => 16) (pinned 9) ∧ ¬RespectsPin 0 (fun _ => 64) (pinned 32) ∧
      ¬RespectsPin 0 (fun _ => 16) (pinned 4294967297) := by
  have arrived : ∀ pin, AtPin (pinned pin).world ⟨⟨.pulsecap, 0⟩, 6⟩ ⟨⟨.aximux, 0⟩, 7⟩ pin :=
    fun _ => ⟨rfl, rfl, rfl⟩
  refine ⟨?_, ?_, ?_⟩
  · intro respects
    exact absurd ((pinFits_of_respects respects (arrived 9)).kept rfl) (by decide)
  · intro respects
    exact absurd (pinFits_of_respects respects (arrived 32)).inWord (by decide)
  · intro respects
    exact absurd (pinFits_of_respects respects (arrived 4294967297)).inWord (by decide)

end Misfits

end Ebaz4205.KswfloppyCapturePin
