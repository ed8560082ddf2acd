import Ebaz4205.Ps7Inspection
import Ebaz4205.Ps7Registers

/-!
# The order in which the hardware comes up

The memory controller is set up while it is held in reset, and let go when the
impedances are calibrated. A phase-locked loop is reset only while it is bypassed, and
the bypass is taken away when it has locked.
-/

namespace Ebaz4205.Ps7PowerUp

open DriverProgram DriverProgram.Program BitMask MaskedWrites Ps7Interpreter Ps7Scripts Ps7Tables
  Ps7Init Ps7Returns Ps7Inspection Ps7Board Ps7Registers

set_option autoImplicit false

section Memory

def ddrcControl : Word := 0xF8006000
def dciStatus : Word := 0xF8000B74
def modeStatus : Word := 0xF8006054

def dciDone : Word := 0x2000
def operatingMode : Word := 0x7

/-- The page of the memory controller. -/
def ddrc (address : Word) : Bool := address &&& 0xFFFFF000 = 0xF8006000

/-- Whether the controller is held in reset, whether the calibration was seen done, and
whether the controller was seen to work after it was let go. -/
structure DdrState where
  held : Bool
  calibrated : Bool
  running : Bool
  deriving DecidableEq

def DdrState.stored (state : DdrState) (address value : Word) : DdrState :=
  if address = ddrcControl then { state with held := !value.getLsbD 0 } else state

def DdrState.loaded (state : DdrState) (address value : Word) : DdrState where
  held := state.held
  calibrated := state.calibrated || (address == dciStatus && isSet value dciDone)
  running := state.running || (address == modeStatus && !state.held && isSet value operatingMode)

/-- What may be written to the controller, and when. -/
def DdrState.accepts (state : DdrState) (address value : Word) : Bool :=
  if address = ddrcControl then !value.getLsbD 0 || state.calibrated
  else !ddrc address || state.held

def ddrDiscipline : Discipline ps7Signature DdrState where
  permits
    | _, .load _ => True
    | state, .store address value => state.accepts address value = true
  advance
    | state, ⟨.load address, value⟩ => state.loaded address value
    | state, ⟨.store address value, _⟩ => state.stored address value

/-- The line is passed if what it stores is accepted, if it tells the one bit of the control
register that counts, and if a poll of a status waits for what the status means. -/
def inspectDdr (known : DdrState) : Instruction → Option DdrState
  | .exit => none
  | .clear addr => if known.accepts addr 0 then some (known.stored addr 0) else none
  | .write addr val => if known.accepts addr val then some (known.stored addr val) else none
  | .maskwrite addr mask val =>
      if addr ≠ dciStatus ∧ addr ≠ modeStatus ∧ (addr = ddrcControl → mask.getLsbD 0 = true) ∧
          known.accepts addr val then
        some (known.stored addr val)
      else none
  | .maskpoll addr mask =>
      if (addr = dciStatus → mask = dciDone) ∧ (addr = modeStatus → mask = operatingMode) ∧
          known.running = false then
        some (known.loaded addr mask)
      else none
  | .maskdelay _ _ => none

variable {World : Type} {env : Environment ps7Signature World} {budget : Nat}
  {known : DdrState} {addr mask val : Word}

abbrev IsDdr (known state : DdrState) (_ : Machine ps7Signature World) : Prop := state = known

theorem loaded_other (value : Word) (notDci : addr ≠ dciStatus) (notMode : addr ≠ modeStatus) :
    known.loaded addr value = known := by
  rw [DdrState.loaded, beq_false_of_ne notDci, beq_false_of_ne notMode]
  simp

theorem masked_bit (old : Word) (bit : Nat) (inMask : mask.getLsbD bit = true) :
    (masked old mask val).getLsbD bit = val.getLsbD bit := by
  rw [masked, BitVec.getLsbD_or, BitVec.getLsbD_and, BitVec.getLsbD_and, BitVec.getLsbD_not, inMask]
  simp

theorem stores_ddr (value : Word) (accepted : known.accepts addr value = true) :
    Stores env ddrDiscipline (IsDdr known) addr value (IsDdr (known.stored addr value)) := by
  rintro state machine rfl
  exact ⟨accepted, rfl⟩

/-- Only the lowest bit of the control register counts. -/
theorem ddr_masked (old : Word) (told : addr = ddrcControl → mask.getLsbD 0 = true) :
    known.accepts addr (masked old mask val) = known.accepts addr val ∧
      known.stored addr (masked old mask val) = known.stored addr val := by
  rw [DdrState.accepts, DdrState.accepts, DdrState.stored, DdrState.stored]
  by_cases control : addr = ddrcControl
  · rw [if_pos control, if_pos control, if_pos control, if_pos control,
      masked_bit old 0 (told control)]
    exact ⟨rfl, rfl⟩
  · rw [if_neg control, if_neg control, if_neg control, if_neg control]
    exact ⟨rfl, rfl⟩

theorem loads_ddr (notDci : addr ≠ dciStatus) (notMode : addr ≠ modeStatus) :
    Loads env ddrDiscipline (IsDdr known) addr fun _ => IsDdr known := by
  rintro state machine rfl
  exact ⟨trivial, loaded_other _ notDci notMode⟩

/-- What a poll sees it waits for, and what it misses tells nothing. -/
theorem polls_ddr (dci : addr = dciStatus → mask = dciDone)
    (mode : addr = modeStatus → mask = operatingMode) :
    Loads env ddrDiscipline (IsDdr known) addr fun value state machine =>
      if isSet value mask then IsDdr (known.loaded addr mask) state machine
      else IsDdr known state machine := by
  rintro state machine rfl
  refine ⟨trivial, ?_⟩
  change if isSet _ mask then state.loaded addr _ = state.loaded addr mask
    else state.loaded addr _ = state
  generalize (env.respond (.load addr) machine.world).1 = value
  by_cases isDci : addr = dciStatus
  · rw [dci isDci, isDci, DdrState.loaded, DdrState.loaded]
    cases isSet value dciDone <;> simp [dciStatus, modeStatus, dciDone, isSet]
  · by_cases isMode : addr = modeStatus
    · rw [mode isMode, isMode, DdrState.loaded, DdrState.loaded]
      cases isSet value operatingMode <;> simp [dciStatus, modeStatus, operatingMode, isSet]
    · rw [loaded_other _ isDci isMode, loaded_other _ isDci isMode, ite_self]

theorem inspectDdr_sound (line : Instruction) (later : DdrState)
    (passed : inspectDdr known line = some later) :
    Keeps env ddrDiscipline (IsDdr known) (attempt budget line) fun goesOn state machine =>
      if goesOn then IsDdr later state machine else state.running = false := by
  cases line with
  | exit => cases passed
  | clear addr =>
      obtain ⟨accepted, ⟨⟩⟩ := Option.ite_none_right_eq_some.mp passed
      exact keeps_map (keeps_store (stores_ddr 0 accepted)) fun _ _ _ => id
  | write addr val =>
      obtain ⟨accepted, ⟨⟩⟩ := Option.ite_none_right_eq_some.mp passed
      exact keeps_map (keeps_store (stores_ddr val accepted)) fun _ _ _ => id
  | maskwrite addr mask val =>
      obtain ⟨⟨notDci, notMode, told, accepted⟩, ⟨⟩⟩ := Option.ite_none_right_eq_some.mp passed
      apply keeps_map (keeps_maskWrite (loads_ddr notDci notMode) _) fun _ _ _ => id
      intro old
      obtain ⟨sameAccepts, sameStored⟩ := ddr_masked old told
      rw [← sameStored]
      exact stores_ddr (masked old mask val) (sameAccepts.trans accepted)
  | maskpoll addr mask =>
      obtain ⟨⟨dci, mode, idle⟩, ⟨⟩⟩ := Option.ite_none_right_eq_some.mp passed
      apply keeps_mono (keeps_poll (polls_ddr dci mode) fun _ _ => id) (fun _ _ => id)
      intro goesOn state machine reached
      cases goesOn with
      | true => exact reached
      | false =>
          rw [show state = known from reached]
          exact idle
  | maskdelay addr mask => cases passed

def ddrInspection (env : Environment ps7Signature World) :
    Inspection env ddrDiscipline DdrState where
  describes := IsDdr
  failed state _ := state.running = false
  inspect := inspectDdr
  no_exit _ := rfl
  sound _ _ := inspectDdr_sound
  version _ := loads_ddr (by decide) (by decide)

theorem ddr_inspected (build : Build) (silicon : Silicon) :
    (ddrInspection env).inspectStages build silicon ⟨false, false, false⟩ initStages =
      some ⟨false, true, true⟩ := by
  cases build <;> cases silicon <;> rfl

/-- In front of every hardware: nothing is written to the controller but while it is held in
reset, it is let go only when the calibration was seen done, success means that it was seen
to work, and a timeout that it was not. -/
theorem ddr_comes_up (env : Environment ps7Signature World) (budget : Nat) (build : Build)
    (stack : Stage → Arguments) (machine : Machine ps7Signature World) :
    ddrDiscipline.Follows ⟨false, false, false⟩
        ((ps7Init budget build stack).exchanges env machine) ∧
      ∃ code after, (ps7Init budget build stack).exec env machine = (.returned code, after) ∧
        (ddrInspection env).ended ⟨false, true, true⟩ code
          (ddrDiscipline.after ⟨false, false, false⟩
            ((ps7Init budget build stack).exchanges env machine)) after := by
  have keeps : Keeps env ddrDiscipline (IsDdr ⟨false, false, false⟩) (ps7Init budget build stack)
      ((ddrInspection env).ended ⟨false, true, true⟩) :=
    (ddrInspection env).keeps_configured stack (ddr_inspected build)
  obtain ⟨code, after, ran, _⟩ := (completes_configured stack initStages).returns World env machine
  exact ⟨keeps.follows _ machine rfl, code, after, ran,
    keeps.after_return _ machine code after rfl ran⟩

end Memory

section Loops

/-- A phase-locked loop: its control register, and its bit of the status. -/
inductive Pll where
  | arm
  | ddr
  | io
  deriving DecidableEq

def Pll.control : Pll → Word
  | .arm => 0xF8000100
  | .ddr => 0xF8000104
  | .io => 0xF8000108

def Pll.lockBit : Pll → Word
  | .arm => 1
  | .ddr => 2
  | .io => 4

def pllStatus : Word := 0xF800010C

def pllReset : Nat := 0
def pllBypass : Nat := 4

/-- What the control register holds, and whether the loop was seen to lock since it was last
in reset. -/
structure PllState where
  content : Word
  locked : Bool

def PllState.stored (pll : Pll) (state : PllState) (address value : Word) : PllState :=
  if address = pll.control then ⟨value, state.locked && !value.getLsbD pllReset⟩ else state

def PllState.loaded (pll : Pll) (state : PllState) (address value : Word) : PllState where
  content := state.content
  locked := state.locked ||
    (address == pllStatus && isSet value pll.lockBit && !state.content.getLsbD pllReset)

/-- The reset goes up only under the bypass, and the bypass goes down only when the loop is
out of reset and has locked. -/
def PllState.Accepts (pll : Pll) (state : PllState) (address value : Word) : Prop :=
  address = pll.control →
    (value.getLsbD pllReset = true → state.content.getLsbD pllReset = false →
      state.content.getLsbD pllBypass = true ∧ value.getLsbD pllBypass = true) ∧
    (value.getLsbD pllBypass = false → state.content.getLsbD pllBypass = true →
      value.getLsbD pllReset = false ∧ state.locked = true)

def pllDiscipline (pll : Pll) : Discipline ps7Signature PllState where
  permits
    | _, .load _ => True
    | state, .store address value => state.Accepts pll address value
  advance
    | state, ⟨.load address, value⟩ => state.loaded pll address value
    | state, ⟨.store address value, _⟩ => state.stored pll address value

/-- What is known of the two bits, and of the lock. -/
structure PllKnown where
  reset : Option Bool
  bypass : Option Bool
  locked : Bool
  deriving DecidableEq

/-- A masked write of the control register is passed if it keeps the order whatever is in
the bits that are not known. -/
def PllKnown.written (known : PllKnown) (write : MaskedWrite 32) : Option PllKnown :=
  let reset := (write.bitAt pllReset).or known.reset
  let bypass := (write.bitAt pllBypass).or known.bypass
  if (write.bitAt pllReset = some true → known.bypass = some true ∧ bypass = some true) ∧
      (write.bitAt pllBypass = some false → reset = some false ∧ known.locked = true) then
    some ⟨reset, bypass, known.locked && (reset == some false)⟩
  else none

def inspectPll (pll : Pll) (known : PllKnown) : Instruction → Option PllKnown
  | .exit => none
  | .clear addr => if addr = pll.control then none else some known
  | .write addr _ => if addr = pll.control then none else some known
  | .maskwrite addr mask val =>
      if addr = pll.control then known.written (.of mask val) else some known
  | .maskpoll addr mask =>
      some (if addr = pllStatus ∧ mask = pll.lockBit ∧ known.reset = some false then
        { known with locked := true } else known)
  | .maskdelay _ _ => none

variable {board : Board} {budget : Nat} {pll : Pll} {known : PllKnown} {addr mask val : Word}

/-- The register holds what was stored in it, and what is known is right. -/
structure Describes (board : Board) (pll : Pll) (known : PllKnown) (state : PllState)
    (machine : Machine ps7Signature board.State) : Prop where
  content : board.value machine.world pll.control = state.content
  reset : ∀ bit, known.reset = some bit → state.content.getLsbD pllReset = bit
  bypass : ∀ bit, known.bypass = some bit → state.content.getLsbD pllBypass = bit
  locked : known.locked = true → state.locked = true

/-- A load of the control register tells its content, and every load may tell of the lock. -/
theorem loads_pll (settled : board.volatile pll.control = false) :
    Loads board.environment (pllDiscipline pll) (Describes board pll known) addr
      fun value state machine =>
        Describes board pll known state machine ∧ (addr = pll.control → value = state.content) := by
  intro state machine before
  have same : ∀ accesses, board.value { machine.world with accesses := accesses } pll.control =
      board.value machine.world pll.control := by
    intro accesses
    rw [Board.value, Board.value, dif_pos settled, dif_pos settled]
  refine ⟨trivial, ⟨(same _).trans before.content, before.reset, before.bypass, ?_⟩, ?_⟩
  · intro locked
    change (state.locked || _) = true
    rw [before.locked locked, Bool.true_or]
  · rintro rfl
    exact before.content

theorem stores_pll_other (settled : board.volatile pll.control = false) (value : Word)
    (other : addr ≠ pll.control) :
    Stores board.environment (pllDiscipline pll) (Describes board pll known) addr value
      (Describes board pll known) := by
  intro state machine before
  have same : (pllDiscipline pll).advance state ⟨.store addr value, ()⟩ = state := if_neg other
  rw [same]
  refine ⟨fun here => absurd here other, ?_, before.reset, before.bypass, before.locked⟩
  rw [← before.content, Board.value, Board.value, dif_pos settled, dif_pos settled]
  exact if_neg (Ne.symm other)

/-- The bits of the register after a masked write, as far as they are known. -/
theorem known_written {write : MaskedWrite 32} {content : Word} {bit : Nat} {before : Option Bool}
    (told : ∀ value, before = some value → content.getLsbD bit = value) :
    ∀ value, (write.bitAt bit).or before = some value →
      (write • content).getLsbD bit = value := by
  intro value after
  rw [MaskedWrite.getLsbD_smul]
  cases here : write.bitAt bit with
  | some written =>
      rw [here, Option.some_or] at after
      rw [Option.getD_some]
      exact Option.some.inj after
  | none =>
      rw [here, Option.none_or] at after
      rw [Option.getD_none]
      exact told value after

theorem unwritten_bit {write : MaskedWrite 32} {content : Word} {bit : Nat} {value : Bool}
    (before : content.getLsbD bit = !value) (after : (write • content).getLsbD bit = value) :
    write.bitAt bit = some value := by
  rw [MaskedWrite.getLsbD_smul] at after
  cases here : write.bitAt bit with
  | some written =>
      rw [here, Option.getD_some] at after
      rw [after]
  | none =>
      rw [here, Option.getD_none, before] at after
      cases value <;> cases after

theorem stores_pll (settled : board.volatile pll.control = false) {later : PllKnown} (old : Word)
    (passed : known.written (.of mask val) = some later) :
    Stores board.environment (pllDiscipline pll)
      (fun state machine => Describes board pll known state machine ∧ old = state.content)
      pll.control (masked old mask val) (Describes board pll later) := by
  rintro state machine ⟨before, rfl⟩
  obtain ⟨⟨resets, releases⟩, ⟨⟩⟩ := Option.ite_none_right_eq_some.mp passed
  have reset := @known_written (.of mask val) _ _ _ before.reset
  have bypass := @known_written (.of mask val) _ _ _ before.bypass
  refine ⟨fun _ => ⟨?_, ?_⟩, ?_⟩
  · intro up down
    obtain ⟨under, still⟩ := resets (unwritten_bit down up)
    exact ⟨before.bypass true under, bypass true still⟩
  · intro down up
    obtain ⟨clear, locked⟩ := releases (unwritten_bit up down)
    exact ⟨reset false clear, before.locked locked⟩
  · have stored : (pllDiscipline pll).advance state
        ⟨.store pll.control (masked state.content mask val), ()⟩ =
          ⟨masked state.content mask val,
            state.locked && !(masked state.content mask val).getLsbD pllReset⟩ := if_pos rfl
    rw [stored]
    refine ⟨?_, reset, bypass, ?_⟩
    · rw [Board.value, dif_pos settled]
      exact if_pos rfl
    · intro both
      rw [Bool.and_eq_true, beq_iff_eq] at both
      have clear : (masked state.content mask val).getLsbD pllReset = false := reset false both.2
      rw [before.locked both.1, clear]
      rfl

/-- What a poll sees may be that the loop has locked. -/
theorem polls_pll (settled : board.volatile pll.control = false) :
    Loads board.environment (pllDiscipline pll) (Describes board pll known) addr
      fun value state machine =>
        if isSet value mask then
          Describes board pll
            (if addr = pllStatus ∧ mask = pll.lockBit ∧ known.reset = some false then
              { known with locked := true } else known) state machine
        else Describes board pll known state machine := by
  intro state machine before
  obtain ⟨allowed, described, _⟩ := @loads_pll board pll known addr settled state machine before
  refine ⟨allowed, ?_⟩
  dsimp only
  split_ifs with seen waited
  · obtain ⟨rfl, rfl, outOfReset⟩ := waited
    refine ⟨described.content, described.reset, described.bypass, fun _ => ?_⟩
    change (state.locked || (_ && isSet _ pll.lockBit && _)) = true
    rw [seen, before.reset false outOfReset, beq_self_eq_true]
    exact Bool.or_true _
  · exact described
  · exact described

theorem inspectPll_sound (settled : board.volatile pll.control = false) (line : Instruction)
    (later : PllKnown) (passed : inspectPll pll known line = some later) :
    Keeps board.environment (pllDiscipline pll) (Describes board pll known) (attempt budget line)
      fun goesOn state machine =>
        if goesOn then Describes board pll later state machine else True := by
  cases line with
  | exit => cases passed
  | clear addr =>
      obtain ⟨other, ⟨⟩⟩ := Option.ite_none_left_eq_some.mp passed
      exact keeps_map (keeps_store (stores_pll_other settled 0 other)) fun _ _ _ => id
  | write addr val =>
      obtain ⟨other, ⟨⟩⟩ := Option.ite_none_left_eq_some.mp passed
      exact keeps_map (keeps_store (stores_pll_other settled val other)) fun _ _ _ => id
  | maskwrite addr mask val =>
      apply keeps_map (keeps_maskWrite (loads_pll settled) _) fun _ _ _ => id
      intro old
      rw [inspectPll] at passed
      by_cases here : addr = pll.control
      · rw [if_pos here] at passed
        rw [here]
        apply stores_mono (stores_pll settled old passed)
        exact fun state machine both => ⟨both.1, both.2 rfl⟩
      · rw [if_neg here] at passed
        cases passed
        apply stores_mono (stores_pll_other settled _ here)
        exact fun state machine => And.left
  | maskpoll addr mask =>
      apply keeps_mono (keeps_poll (polls_pll settled) fun _ _ => id) (fun _ _ => id)
      intro goesOn state machine reached
      cases goesOn with
      | true =>
          cases passed
          exact reached
      | false => trivial
  | maskdelay addr mask => cases passed

def pllInspection (settled : board.volatile pll.control = false) :
    Inspection board.environment (pllDiscipline pll) PllKnown where
  describes := Describes board pll
  failed _ _ := True
  inspect := inspectPll pll
  no_exit _ := rfl
  sound _ _ := inspectPll_sound settled
  version _ := fun state machine before =>
    ⟨trivial, (loads_pll settled state machine before).2.1⟩

theorem pll_inspected (settled : board.volatile pll.control = false) (build : Build)
    (silicon : Silicon) :
    (pllInspection settled).inspectStages build silicon ⟨none, none, false⟩ initStages =
      some ⟨some false, some false, true⟩ := by
  cases pll <;> cases build <;> cases silicon <;> rfl

/-- On every board that keeps what is stored in the control register, a loop is reset under
its bypass only, and the bypass is taken away only from a loop that has locked. After
success the loop is in use. -/
theorem pll_comes_up (board : Board) (pll : Pll) (settled : board.volatile pll.control = false)
    (budget : Nat) (build : Build) (stack : Stage → Arguments)
    (machine : Machine ps7Signature board.State) (locked : Bool) :
    ∃ code after, (ps7Init budget build stack).exec board.environment machine =
        (.returned code, after) ∧
      (pllDiscipline pll).Follows ⟨board.value machine.world pll.control, locked⟩
          ((ps7Init budget build stack).exchanges board.environment machine) ∧
        (code = ps7InitSuccess →
          (board.value after.world pll.control).getLsbD pllReset = false ∧
            (board.value after.world pll.control).getLsbD pllBypass = false ∧
              ((pllDiscipline pll).after ⟨board.value machine.world pll.control, locked⟩
                ((ps7Init budget build stack).exchanges board.environment machine)).locked =
                  true) := by
  have keeps : Keeps board.environment (pllDiscipline pll)
      (Describes board pll ⟨none, none, false⟩) (ps7Init budget build stack)
      ((pllInspection settled).ended ⟨some false, some false, true⟩) :=
    (pllInspection settled).keeps_configured stack (pll_inspected settled build)
  have before : Describes board pll ⟨none, none, false⟩
      ⟨board.value machine.world pll.control, locked⟩ machine :=
    ⟨rfl, fun _ told => (by cases told), fun _ told => (by cases told), fun told => (by cases told)⟩
  obtain ⟨code, after, ran, _⟩ := (completes_configured stack initStages).returns _
    board.environment machine
  refine ⟨code, after, ran, keeps.follows _ machine before, ?_⟩
  intro success
  rcases keeps.after_return _ machine code after before ran with ⟨_, described⟩ | ⟨timeout, _⟩
  · rw [described.content]
    exact ⟨described.reset false rfl, described.bypass false rfl, described.locked rfl⟩
  · rw [success] at timeout
    cases timeout

theorem ready_succeeds :
    ((ps7Init 0 .uBoot fun _ _ => 0).exec ready.environment poweredOn).1 =
      .returned ps7InitSuccess := by decide +kernel

theorem arm_comes_up :
    ∃ after, (ps7Init 0 .uBoot fun _ _ => 0).exec ready.environment poweredOn =
        (.returned ps7InitSuccess, after) ∧
      (pllDiscipline .arm).Follows ⟨0, false⟩
        ((ps7Init 0 .uBoot fun _ _ => 0).exchanges ready.environment poweredOn) ∧
      (ready.value after.world Pll.arm.control).getLsbD pllReset = false ∧
        (ready.value after.world Pll.arm.control).getLsbD pllBypass = false ∧
          ((pllDiscipline .arm).after ⟨0, false⟩
            ((ps7Init 0 .uBoot fun _ _ => 0).exchanges ready.environment poweredOn)).locked =
              true := by
  obtain ⟨code, after, ran, follows, up⟩ :=
    pll_comes_up ready .arm rfl 0 .uBoot (fun _ _ => 0) poweredOn false
  have success := ready_succeeds
  rw [ran, Outcome.returned.injEq] at success
  exact ⟨after, success ▸ ran, follows, up success⟩

end Loops

end Ebaz4205.Ps7PowerUp
