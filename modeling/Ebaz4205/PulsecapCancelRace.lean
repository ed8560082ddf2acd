import Ebaz4205.PartialRuns
import Ebaz4205.ProgramSteps
import Ebaz4205.TimerDevice

/-!
# A cancel between the accesses of the interrupt handler

The handler holds a lock that `pulsecap_cancel_capture` does not take, so an action of
one can come between any two actions of the other. Both read control registers and
write them back, and a value that was read before the cancel and is written after it
brings back what the cancel has cleared. The lock keeps handler runs apart: they
follow each other.
-/

namespace Ebaz4205.PulsecapCancelRace

open BitMask DriverProgram DriverProgram.Program PartialRuns PulsecapDriver TimerDevice

set_option autoImplicit false

section Registers

abbrev Registers := TimerRegister → U32

/-- A register keeps what is written to it, but an interrupt flag that is written as 1
goes down. -/
def stored (old value : U32) : TimerRegister → U32
  | .tcsr0 => assign value tcsr0T0int (isSet old tcsr0T0int && !isSet value tcsr0T0int)
  | .tcsr1 => assign value tcsr0T0int (isSet old tcsr0T0int && !isSet value tcsr0T0int)
  | .tlr0 => value
  | .tlr1 => value

def written (registers : Registers) (reg : TimerRegister) (value : U32) : Registers :=
  Function.update registers reg (stored (registers reg) value reg)

def storage : Environment timerSignature Registers where
  respond
    | .ioread32 reg, registers => (registers reg, registers)
    | .iowrite32 value reg, registers => ((), written registers reg value)

/-- A timer puts a count into its capture register and raises its flag. -/
def captured (registers : Registers) (channel : Channel) (count : U32) : Registers :=
  Function.update (Function.update registers channel.captureRegister count)
    channel.controlRegister (registers channel.controlRegister ||| tcsr0T0int)

/-- The interrupts and the timers are disabled. -/
def Disabled (registers : Registers) : Prop :=
  ∀ channel : Channel, isSet (registers channel.controlRegister) tcsr0Enit0 = false ∧
    isSet (registers channel.controlRegister) tcsr0Ent0 = false

end Registers

section Races

/-- The register that a program is about to read or write. -/
def accessesNext : PulsecapProgram Int → Option TimerRegister
  | .call (.ioread32 reg) _ => some reg
  | .call (.iowrite32 _ reg) _ => some reg
  | _ => none

def writesNext : PulsecapProgram Int → Option TimerRegister
  | .call (.iowrite32 _ reg) _ => some reg
  | _ => none

/-- What is left of a handler run, whether it began before the cancel was over, and which
registers the cancel has written since the run last read or wrote them. -/
structure HandlerRun where
  rest : PulsecapProgram Int
  overlaps : Bool
  crossed : TimerRegister → Bool

/-- The cancel has done an action that wrote this register, if any. -/
def HandlerRun.cross (reg : Option TimerRegister) (run : HandlerRun) : HandlerRun :=
  { run with crossed := fun other => run.crossed other || decide (reg = some other) }

/-- The run has done an action and has this left. -/
def HandlerRun.next (run : HandlerRun) (left : PulsecapProgram Int) : HandlerRun :=
  { run with
    rest := left
    crossed := fun reg => run.crossed reg && decide (accessesNext run.rest ≠ some reg) }

/-- A cancel that has not begun has nothing left. -/
structure Race where
  machine : Machine timerSignature Registers
  cancel : Option (PulsecapProgram Int)
  handler : Option HandlerRun

def Race.initial (machine : Machine timerSignature Registers) : Race := ⟨machine, none, none⟩

def cancelOver : Option (PulsecapProgram Int) → Bool
  | some (.done _) => true
  | _ => false

inductive Turn where
  | cancel
  | handler
  | capture (channel : Channel) (count : U32)
  deriving DecidableEq

def Race.turnCancel (race : Race) : Option Race :=
  match race.cancel with
  | none => some { race with cancel := some (pulsecapCancelCapture .valid) }
  | some rest => (rest.advance storage race.machine).map fun next =>
      { machine := next.2
        cancel := some next.1
        handler := race.handler.map (HandlerRun.cross (writesNext rest)) }

/-- A run that has returned gives way to the next one. -/
def Race.turnHandler (race : Race) : Option Race :=
  match race.handler with
  | none =>
      some { race with handler := some ⟨timerIrqHandler, !cancelOver race.cancel, fun _ => false⟩ }
  | some ⟨.done _, _, _⟩ => some { race with handler := none }
  | some run => (run.rest.advance storage race.machine).map fun next =>
      { race with machine := next.2, handler := some (run.next next.1) }

def Race.turn (race : Race) : Turn → Option Race
  | .cancel => race.turnCancel
  | .handler => race.turnHandler
  | .capture channel count =>
      some { race with machine :=
        ⟨race.machine.memory, captured race.machine.world channel count⟩ }

/-- A cancel, any number of handler runs and the captures of the timers, in any order of
their actions. -/
def races : Transducer Race Turn Unit where
  step := fun race turn => (race.turn turn).map fun next => ((), next)

/-- An accepted cancel is over, and so is every handler run that overlapped it. -/
structure Settled (race : Race) : Prop where
  cancel : race.cancel = some (.done 0)
  handler : ∀ run, race.handler = some run → run.overlaps = false

/-- The order that the handler has to keep to: it does not write a register which the
cancel has written since the run read it, unless the cancel is about to write it again. -/
def WritesBackInTime (race : Race) : Turn → Prop
  | .handler => ∀ run ∈ race.handler, ∀ reg ∈ writesNext run.rest,
      run.crossed reg = false ∨ reg ∈ race.cancel.bind writesNext
  | _ => True

instance decidableWritesBackInTime (race : Race) :
    (turn : Turn) → Decidable (WritesBackInTime race turn)
  | .handler => inferInstanceAs (Decidable (∀ run ∈ race.handler, ∀ reg ∈ writesNext run.rest,
      run.crossed reg = false ∨ reg ∈ race.cancel.bind writesNext))
  | .cancel => isTrue trivial
  | .capture _ _ => isTrue trivial

end Races

section Turns

variable {race next : Race} {machine last : Machine timerSignature Registers}
  {rest left : PulsecapProgram Int}

/-- A turn of the cancel begins it or does its next action. -/
theorem turnCancel_cases (turned : race.turnCancel = some next) :
    (race.cancel = none ∧ next.machine = race.machine ∧ next.handler = race.handler ∧
        next.cancel = some (pulsecapCancelCapture .valid)) ∨
      ∃ rest left, race.cancel = some rest ∧ next.cancel = some left ∧
        next.handler = race.handler.map (HandlerRun.cross (writesNext rest)) ∧
          rest.advance storage race.machine = some (left, next.machine) := by
  rw [Race.turnCancel] at turned
  cases here : race.cancel with
  | none =>
      rw [here] at turned
      cases turned
      exact Or.inl ⟨rfl, rfl, rfl, rfl⟩
  | some rest =>
      rw [here] at turned
      obtain ⟨⟨left, last⟩, advanced, same⟩ := Option.map_eq_some_iff.mp turned
      cases same
      exact Or.inr ⟨rest, left, rfl, rfl, rfl, advanced⟩

theorem turnHandler_advance {run : HandlerRun} (cancel : Option (PulsecapProgram Int))
    (advanced : run.rest.advance storage machine = some (left, last)) :
    Race.turnHandler ⟨machine, cancel, some run⟩ = some ⟨last, cancel, some (run.next left)⟩ := by
  rcases run with ⟨rest, overlaps, crossed⟩
  cases rest with
  | done result => cases advanced
  | _ =>
      rw [Race.turnHandler]
      dsimp only at advanced ⊢
      rw [advanced]
      rfl

/-- A turn of the handler begins a run, ends it, or does its next action. -/
theorem turnHandler_cases (turned : race.turnHandler = some next) :
    next.cancel = race.cancel ∧
      (next.machine = race.machine ∧ (next.handler = none ∨
          ∃ overlaps, next.handler = some ⟨timerIrqHandler, overlaps, fun _ => false⟩) ∨
        ∃ run left, race.handler = some run ∧ next.handler = some (run.next left) ∧
          run.rest.advance storage race.machine = some (left, next.machine)) := by
  rcases race with ⟨machine, cancel, handler⟩
  cases handler with
  | none =>
      cases turned
      exact ⟨rfl, Or.inl ⟨rfl, Or.inr ⟨_, rfl⟩⟩⟩
  | some run =>
      cases advanced : run.rest.advance storage machine with
      | some step =>
          rcases step with ⟨left, last⟩
          rw [turnHandler_advance cancel advanced] at turned
          cases turned
          exact ⟨rfl, Or.inr ⟨run, left, rfl, rfl, advanced⟩⟩
      | none =>
          rcases run with ⟨rest, overlaps, crossed⟩
          cases rest with
          | done result =>
              cases turned
              exact ⟨rfl, Or.inl ⟨rfl, Or.inl rfl⟩⟩
          | _ =>
              rw [Race.turnHandler] at turned
              dsimp only at advanced turned
              rw [advanced] at turned
              cases turned

/-- The registers change by writes only. -/
theorem world_advance (advanced : rest.advance storage machine = some (left, last)) :
    last.world = machine.world ∨ ∃ value reg later, rest = .call (.iowrite32 value reg) later ∧
      last.world = written machine.world reg value := by
  cases rest with
  | done result => cases advanced
  | call request later =>
      cases advanced
      cases request with
      | ioread32 reg => exact Or.inl rfl
      | iowrite32 value reg => exact Or.inr ⟨value, reg, later, rfl, rfl⟩
  | fetch later =>
      cases advanced
      exact Or.inl rfl
  | update change later =>
      cases advanced
      exact Or.inl rfl
  | access region position later =>
      rw [advance] at advanced
      by_cases bound : position < timerSignature.extent region
      · rw [dif_pos bound] at advanced
        cases advanced
        exact Or.inl rfl
      · rw [dif_neg bound] at advanced
        cases advanced
  | unfinished => cases advanced

/-- What every turn preserves holds in every state of a run. -/
theorem everyState_of_turns {good : Race → Prop} {allowed : Race → Turn → Prop}
    {turns : List Turn} (begins : good race) (steps : races.EveryStep allowed race turns)
    (preserved : ∀ race turn next, good race → allowed race turn → race.turn turn = some next →
      good next) : races.EveryState good race turns := by
  apply Transducer.everyState_of_everyStep _ begins steps
  intro race turn output next holds permitted stepped
  obtain ⟨after, turned, same⟩ := Option.map_eq_some_iff.mp stepped
  cases same
  exact preserved race turn _ holds permitted turned

end Turns

section Alone

variable {machine last : Machine timerSignature Registers} {rest left : PulsecapProgram Int}

theorem reaches_cancels (count : Nat) :
    races.Reaches ⟨machine, some rest, none⟩ (List.replicate count .cancel)
        ⟨last, some left, none⟩ ↔
      rest.advances storage count machine = some (left, last) := by
  induction count generalizing machine rest with
  | zero =>
      rw [List.replicate_zero, Transducer.reaches_nil]
      constructor
      · intro same
        cases same
        rfl
      · intro same
        cases same
        rfl
  | succ count ih =>
      rw [List.replicate_succ, Transducer.reaches_cons]
      constructor
      · rintro ⟨output, next, stepped, others⟩
        obtain ⟨race, turned, same⟩ := Option.map_eq_some_iff.mp stepped
        cases same
        obtain ⟨⟨later, between⟩, advanced, same⟩ := Option.map_eq_some_iff.mp turned
        cases same
        rw [advances, advanced]
        exact ih.mp others
      · intro advanced
        obtain ⟨⟨later, between⟩, first, others⟩ := Option.bind_eq_some_iff.mp advanced
        refine ⟨(), ⟨between, some later, none⟩, ?_, ih.mpr others⟩
        change Option.map _ (Option.map _ (rest.advance storage machine)) = _
        rw [first]
        rfl

/-- With no turn of anybody else a cancel ends as it does when it is executed as a whole. -/
theorem cancel_alone {code : Int} :
    (∃ count, races.Reaches (.initial machine) (List.replicate count .cancel)
        ⟨last, some (.done code), none⟩) ↔
      (pulsecapCancelCapture .valid).exec storage machine = (.returned code, last) := by
  rw [exec_returned_iff]
  constructor
  · rintro ⟨count, reached⟩
    cases count with
    | zero =>
        cases (Transducer.reaches_nil _ _).mp reached
    | succ count =>
        obtain ⟨output, next, stepped, others⟩ := (Transducer.reaches_cons _ _ _ _).mp reached
        cases stepped
        exact ⟨count, (reaches_cancels count).mp others⟩
  · rintro ⟨count, advanced⟩
    exact ⟨count + 1, (Transducer.reaches_cons _ _ _ _).mpr
      ⟨(), _, rfl, (reaches_cancels count).mpr advanced⟩⟩

end Alone

section Writes

variable {registers : Registers} {reg other : TimerRegister} {value : U32} {bit : U32}

theorem isSet_stored (old value : U32) (reg : TimerRegister)
    (enable : bit ∈ [tcsr0Enit0, tcsr0Ent0]) :
    isSet (stored old value reg) bit = isSet value bit := by
  have flag : ∀ on, isSet (assign value tcsr0T0int on) bit = isSet value bit := by
    intro on
    cases enable with
    | head => exact isSet_assign_other value 8 6 on (by decide)
    | tail _ last =>
        rw [List.mem_singleton.mp last]
        exact isSet_assign_other value 8 7 on (by decide)
  cases reg with
  | tcsr0 => exact flag _
  | tcsr1 => exact flag _
  | tlr0 => rfl
  | tlr1 => rfl

theorem isSet_flagged (value : U32) (enable : bit ∈ [tcsr0Enit0, tcsr0Ent0]) :
    isSet (value ||| tcsr0T0int) bit = isSet value bit := by
  cases enable with
  | head => exact isSet_set_other value 8 6 (by decide)
  | tail _ last =>
      rw [List.mem_singleton.mp last]
      exact isSet_set_other value 8 7 (by decide)

theorem written_self (registers : Registers) (reg : TimerRegister) (value : U32)
    (enable : bit ∈ [tcsr0Enit0, tcsr0Ent0]) :
    isSet (written registers reg value reg) bit = isSet value bit := by
  rw [written, Function.update_self]
  exact isSet_stored _ _ _ enable

theorem written_other (apart : other ≠ reg) : written registers reg value other = registers other :=
  Function.update_of_ne apart _ _

theorem controlRegister_injective {first second : Channel}
    (same : first.controlRegister = second.controlRegister) : first = second := by
  cases first <;> cases second <;> first | rfl | cases same

theorem captureRegister_ne (channel other : Channel) :
    other.controlRegister ≠ channel.captureRegister := by
  cases channel <;> cases other <;> decide

theorem isSet_captured (registers : Registers) (channel other : Channel) (count : U32) {bit : U32}
    (enable : bit ∈ [tcsr0Enit0, tcsr0Ent0]) :
    isSet (captured registers channel count other.controlRegister) bit =
      isSet (registers other.controlRegister) bit := by
  rw [captured]
  by_cases same : other = channel
  · rw [same, Function.update_self]
    exact isSet_flagged _ enable
  · rw [Function.update_of_ne fun equal => same (controlRegister_injective equal),
      Function.update_of_ne (captureRegister_ne channel other)]

/-- What is enabled in the second of these values is enabled in the first. -/
def EnablesNoMore (before after : U32) : Prop :=
  ∀ bit ∈ [tcsr0Enit0, tcsr0Ent0], isSet after bit = true → isSet before bit = true

theorem enablesNoMore_refl (value : U32) : EnablesNoMore value value := fun _ _ => id

theorem enablesNoMore_captured (registers : Registers) (channel other : Channel) (count : U32) :
    EnablesNoMore (registers other.controlRegister)
      (captured registers channel count other.controlRegister) := by
  intro bit enable set
  exact (isSet_captured registers channel other count enable).symm.trans set

end Writes

section Cancel

/-- The updates of a cancel, in order: the timer and the bit to be cleared. -/
def cancelUpdates : List (Channel × U32) :=
  [(.rising, tcsr0Enit0), (.falling, tcsr0Enit0), (.rising, tcsr0Ent0), (.falling, tcsr0Ent0)]

/-- A cancel that has read a register and is to write it. -/
def writing (value : U32) (channel : Channel) (rest : PulsecapProgram Int) : PulsecapProgram Int :=
  .call (.iowrite32 value channel.controlRegister) fun _ => rest

/-- A cancel from one of its updates on. -/
def clearing : List (Channel × U32) → PulsecapProgram Int
  | [] => .update PulsecapData.cancelled (.done 0)
  | (channel, bit) :: rest =>
      .call (.ioread32 channel.controlRegister) fun value =>
        writing (value &&& ~~~bit) channel (clearing rest)

theorem pulsecapCancelCapture_eq :
    pulsecapCancelCapture .valid = .fetch fun memory =>
      if isSet (logicalNot memory.flags) pulsecapEnable then .done (-eio)
      else clearing cancelUpdates := rfl

/-- How far a cancel has come, and what it can rely on there: the bits that it has cleared
are clear in their registers, or in the value that it is about to write. -/
inductive ClearsUp (registers : Registers) : Option (PulsecapProgram Int) → Prop where
  | idle : ClearsUp registers none
  | begun : ClearsUp registers (some (pulsecapCancelCapture .valid))
  | refused : ClearsUp registers (some (.done (-eio)))
  | reading {before rest : List (Channel × U32)} (split : cancelUpdates = before ++ rest)
      (clear : ∀ update ∈ before, isSet (registers update.1.controlRegister) update.2 = false) :
      ClearsUp registers (some (clearing rest))
  | holding {before rest : List (Channel × U32)} {channel : Channel} {bit value : U32}
      (split : cancelUpdates = before ++ (channel, bit) :: rest)
      (clear : ∀ update ∈ before, isSet (if update.1 = channel then value
        else registers update.1.controlRegister) update.2 = false) :
      ClearsUp registers (some (writing (value &&& ~~~bit) channel (clearing rest)))
  | finished (clear : ∀ update ∈ cancelUpdates,
      isSet (registers update.1.controlRegister) update.2 = false) :
      ClearsUp registers (some (.done 0))

theorem enable_of_update : ∀ update ∈ cancelUpdates, update.2 ∈ [tcsr0Enit0, tcsr0Ent0] := by
  decide

variable {registers after : Registers} {cancel : Option (PulsecapProgram Int)}

/-- What the others do to the registers does not harm a cancel, as long as it enables
nothing more, or is going to be overwritten. -/
theorem clearsUp_mono (clears : ClearsUp registers cancel)
    (kept : ∀ channel : Channel, channel.controlRegister ∈ cancel.bind writesNext ∨
      EnablesNoMore (registers channel.controlRegister) (after channel.controlRegister)) :
    ClearsUp after cancel := by
  have stays : ∀ update ∈ cancelUpdates, EnablesNoMore (registers update.1.controlRegister)
      (after update.1.controlRegister) →
        isSet (registers update.1.controlRegister) update.2 = false →
          isSet (after update.1.controlRegister) update.2 = false := by
    intro update member noMore clear
    rw [Bool.eq_false_iff] at clear ⊢
    exact fun set => clear (noMore update.2 (enable_of_update update member) set)
  cases clears with
  | idle => exact .idle
  | begun => exact .begun
  | refused => exact .refused
  | @reading before rest split clear =>
      refine .reading split fun update member => ?_
      have inUpdates : update ∈ cancelUpdates := by
        rw [split]
        exact List.mem_append_left rest member
      apply stays update inUpdates _ (clear update member)
      apply (kept update.1).resolve_left
      intro overwrites
      cases rest with
      | nil => cases overwrites
      | cons update rest => cases overwrites
  | @holding before rest channel bit value split clear =>
      refine .holding split fun update member => ?_
      have inUpdates : update ∈ cancelUpdates := by
        rw [split]
        exact List.mem_append_left _ member
      have held := clear update member
      by_cases same : update.1 = channel
      · rw [if_pos same] at held ⊢
        exact held
      · rw [if_neg same] at held ⊢
        apply stays update inUpdates _ held
        apply (kept update.1).resolve_left
        intro overwrites
        exact same (controlRegister_injective (Option.some.inj overwrites)).symm
  | finished clear =>
      refine .finished fun update member => stays update member ?_ (clear update member)
      apply (kept update.1).resolve_left
      intro overwrites
      cases overwrites

/-- One action of the cancel. -/
theorem clearsUp_cancel {rest next : PulsecapProgram Int}
    {machine last : Machine timerSignature Registers}
    (clears : ClearsUp machine.world (some rest))
    (advanced : rest.advance storage machine = some (next, last)) :
    ClearsUp last.world (some next) := by
  cases clears with
  | begun =>
      rw [pulsecapCancelCapture_eq] at advanced
      cases advanced
      dsimp only
      by_cases idle : isSet (logicalNot machine.memory.flags) pulsecapEnable = true
      · rw [if_pos idle]
        exact .refused
      · rw [if_neg idle]
        exact .reading (List.nil_append _).symm (List.forall_mem_nil _)
  | refused => cases advanced
  | @reading before rest split clear =>
      cases rest with
      | nil =>
          cases advanced
          rw [List.append_nil] at split
          refine .finished ?_
          rw [split]
          exact clear
      | cons update rest =>
          rcases update with ⟨channel, bit⟩
          cases advanced
          refine .holding split fun update member => ?_
          by_cases same : update.1 = channel
          · rw [if_pos same]
            exact same ▸ clear update member
          · rw [if_neg same]
            exact clear update member
  | @holding before rest channel bit value split clear =>
      cases advanced
      have assembled : cancelUpdates = (before ++ [(channel, bit)]) ++ rest := by
        rw [split, List.append_assoc]
        rfl
      refine .reading assembled fun update member => ?_
      have enable : update.2 ∈ [tcsr0Enit0, tcsr0Ent0] := by
        apply enable_of_update
        rw [assembled]
        exact List.mem_append_left rest member
      rcases List.mem_append.mp member with early | here
      · have held := clear update early
        by_cases same : update.1 = channel
        · rw [if_pos same, Bool.eq_false_iff] at held
          rw [same]
          change isSet (written machine.world channel.controlRegister _ _) update.2 = false
          rw [written_self _ _ _ enable, Bool.eq_false_iff]
          exact fun set => held (isSet_of_masked set)
        · rw [if_neg same] at held
          change isSet (written machine.world channel.controlRegister _ _) update.2 = false
          rw [written_other fun equal => same (controlRegister_injective equal)]
          exact held
      · rw [List.mem_singleton.mp here] at enable ⊢
        change isSet (written machine.world channel.controlRegister _ _) bit = false
        rw [written_self _ _ _ enable]
        exact isSet_masked_off value bit
  | finished clear => cases advanced

end Cancel

section TakingBack

/-- What the program writes are control registers, and it enables nothing in them that was
not enabled when it last read or wrote them. -/
def TakesBack {Result : Type} (known : Registers) : PulsecapProgram Result → Prop
  | .done _ => True
  | .call (.ioread32 reg) next => ∀ value, TakesBack (Function.update known reg value) (next value)
  | .call (.iowrite32 value reg) next =>
      (∃ channel : Channel, channel.controlRegister = reg) ∧ EnablesNoMore (known reg) value ∧
        TakesBack (Function.update known reg value) (next ())
  | .fetch next => ∀ memory, TakesBack known (next memory)
  | .update _ next => TakesBack known next
  | .access _ _ next => ∀ slot, TakesBack known (next slot)
  | .unfinished => True

theorem takesBack_bind {Result Other : Type} {known : Registers}
    {program : PulsecapProgram Result} {next : Result → PulsecapProgram Other}
    (first : TakesBack known program) (second : ∀ later result, TakesBack later (next result)) :
    TakesBack known (program.bind next) := by
  induction program generalizing known with
  | done result => exact second known result
  | call request rest ih =>
      cases request with
      | ioread32 reg => exact fun value => ih value (first value)
      | iowrite32 value reg => exact ⟨first.1, first.2.1, ih () first.2.2⟩
  | fetch rest ih => exact fun memory => ih memory (first memory)
  | update change rest ih => exact ih first
  | access region position rest ih => exact fun slot => ih slot (first slot)
  | unfinished => trivial

theorem takesBack_if {Result : Type} {known : Registers} {condition : Prop}
    [Decidable condition] {yes no : PulsecapProgram Result} (taken : TakesBack known yes)
    (skipped : TakesBack known no) : TakesBack known (if condition then yes else no) := by
  by_cases holds : condition
  · rw [if_pos holds]
    exact taken
  · rw [if_neg holds]
    exact skipped

theorem takesBack_stopTimer (known : Registers) : TakesBack known stopTimer := by
  have update : ∀ (later : Registers) (channel : Channel), TakesBack later
      (regUpdate channel.controlRegister fun regval => regval &&& ~~~tcsr0Ent0) := by
    intro later channel value
    refine ⟨⟨channel, rfl⟩, fun bit _ set => ?_, trivial⟩
    rw [Function.update_self]
    exact isSet_of_masked set
  exact takesBack_bind (update known .rising) fun later _ => update later .falling

theorem takesBack_storeEdge (known : Registers) (edge : PulseData) :
    TakesBack known (storeEdge edge) := by
  intro edgePtr
  apply takesBack_if
  · intro drv last
    refine takesBack_if (fun slot => ?_) trivial
    exact takesBack_if trivial (takesBack_bind (takesBack_stopTimer known) fun _ _ => trivial)
  · exact takesBack_if (fun slot => trivial) trivial

theorem takesBack_clearInterruptFlags (known : Registers) :
    TakesBack known clearInterruptFlags := by
  have flagged : ∀ value : U32, EnablesNoMore value (value ||| tcsr0T0int) :=
    fun value _ enable set => (isSet_flagged value enable).symm.trans set
  intro t0State t1State
  exact ⟨⟨.rising, rfl⟩, flagged t0State, ⟨.falling, rfl⟩, flagged t1State, trivial⟩

theorem takesBack_readEdge (known : Registers) (t0State : U32) :
    TakesBack known (readEdge t0State) := by
  unfold readEdge
  apply takesBack_if
  · intro edgeCount
    trivial
  · intro edgeCount
    trivial

theorem takesBack_timerIrqHandler (known : Registers) : TakesBack known timerIrqHandler := by
  intro t0State t1State memory
  change TakesBack _ (Program.bind (whenever (captureRunning memory.flags = true)
    (Program.bind (readEdge t0State) storeEdge)) fun _ =>
      Program.bind clearInterruptFlags fun _ => .done irqHandled)
  apply takesBack_bind
  · apply takesBack_if
    · exact takesBack_bind (takesBack_readEdge _ t0State) takesBack_storeEdge
    · trivial
  · intro later _
    apply takesBack_bind (takesBack_clearInterruptFlags later)
    intro _ _
    trivial

/-- What a program knows of the control registers still holds of those that the cancel has
not written since. -/
def Known (crossed : TimerRegister → Bool) (known registers : Registers) : Prop :=
  ∀ channel : Channel, crossed channel.controlRegister = false →
    EnablesNoMore (registers channel.controlRegister) (known channel.controlRegister)

/-- An action of a program that takes back what it knows leaves one that does. -/
theorem takesBack_next {known : Registers} {run : HandlerRun} {left : PulsecapProgram Int}
    {machine last : Machine timerSignature Registers}
    (holds : Known run.crossed known machine.world) (takes : TakesBack known run.rest)
    (advanced : run.rest.advance storage machine = some (left, last)) :
    ∃ later, Known (run.next left).crossed later last.world ∧ TakesBack later left := by
  rcases run with ⟨rest, overlaps, crossed⟩
  have stays : ∀ channel : Channel, accessesNext rest ≠ some channel.controlRegister →
      (HandlerRun.next ⟨rest, overlaps, crossed⟩ left).crossed channel.controlRegister = false →
        crossed channel.controlRegister = false := by
    intro channel apart uncrossed
    exact (Bool.and_eq_false_iff.mp uncrossed).resolve_right (by simp [apart])
  cases rest with
  | done result => cases advanced
  | call request next =>
      cases advanced
      cases request with
      | ioread32 reg =>
          refine ⟨_, fun channel uncrossed => ?_, takes (machine.world reg)⟩
          by_cases same : channel.controlRegister = reg
          · rw [same, Function.update_self]
            exact enablesNoMore_refl _
          · rw [Function.update_of_ne same]
            apply holds channel (stays channel _ uncrossed)
            exact fun accessed => same (Option.some.inj accessed).symm
      | iowrite32 value reg =>
          refine ⟨_, fun channel uncrossed => ?_, takes.2.2⟩
          change EnablesNoMore (written machine.world reg value channel.controlRegister) _
          by_cases same : channel.controlRegister = reg
          · rw [same, Function.update_self]
            intro bit enable set
            rw [written_self _ _ _ enable]
            exact set
          · rw [Function.update_of_ne same, written_other same]
            apply holds channel (stays channel _ uncrossed)
            exact fun accessed => same (Option.some.inj accessed).symm
  | fetch next =>
      cases advanced
      exact ⟨known, fun channel uncrossed => holds channel (stays channel (by simp [accessesNext])
        uncrossed), takes _⟩
  | update change next =>
      cases advanced
      exact ⟨known, fun channel uncrossed => holds channel (stays channel (by simp [accessesNext])
        uncrossed), takes⟩
  | access region position next =>
      rw [advance] at advanced
      by_cases bound : position < timerSignature.extent region
      · rw [dif_pos bound] at advanced
        cases advanced
        exact ⟨known, fun channel uncrossed => holds channel (stays channel
          (by simp [accessesNext]) uncrossed), takes _⟩
      · rw [dif_neg bound] at advanced
        cases advanced
  | unfinished => cases advanced

variable {race next : Race}

/-- A handler run that is under way takes back what it knows. -/
def Race.TakesBack (race : Race) : Prop :=
  ∀ run ∈ race.handler, ∃ known, Known run.crossed known race.machine.world ∧
    PulsecapCancelRace.TakesBack known run.rest

theorem takesBack_handler (takes : race.TakesBack) (turned : race.turnHandler = some next) :
    next.TakesBack := by
  intro run under
  obtain ⟨_, ⟨_, none | ⟨overlaps, begun⟩⟩ | ⟨before, left, here, later, advanced⟩⟩ :=
    turnHandler_cases turned
  · rw [none] at under
    cases under
  · rw [begun] at under
    cases under
    exact ⟨next.machine.world, fun _ _ => enablesNoMore_refl _, takesBack_timerIrqHandler _⟩
  · rw [later] at under
    cases under
    obtain ⟨known, holds, ahead⟩ := takes before here
    exact takesBack_next holds ahead advanced

/-- The cancel takes nothing away from what a run knows but what it writes. -/
theorem takesBack_cancel (takes : race.TakesBack) (turned : race.turnCancel = some next) :
    next.TakesBack := by
  intro run under
  obtain ⟨_, sameMachine, sameHandler, _⟩ | ⟨rest, left, _, _, crossed, advanced⟩ :=
    turnCancel_cases turned
  · rw [sameHandler] at under
    rw [sameMachine]
    exact takes run under
  · rw [crossed] at under
    obtain ⟨before, here, same⟩ := Option.mem_map.mp under
    obtain ⟨known, holds, ahead⟩ := takes before here
    subst same
    refine ⟨known, fun channel uncrossed => ?_, ahead⟩
    obtain ⟨earlier, unwritten⟩ := Bool.or_eq_false_iff.mp uncrossed
    rcases world_advance advanced with unchanged | ⟨value, reg, later, writes, changed⟩
    · rw [unchanged]
      exact holds channel earlier
    · have apart : channel.controlRegister ≠ reg := by
        intro same
        rw [writes, same] at unwritten
        exact absurd unwritten (by simp [writesNext])
      rw [changed, written_other apart]
      exact holds channel earlier

theorem takesBack_turn {turn : Turn} (takes : race.TakesBack)
    (turned : race.turn turn = some next) : next.TakesBack := by
  cases turn with
  | cancel => exact takesBack_cancel takes turned
  | handler => exact takesBack_handler takes turned
  | capture channel count =>
      cases turned
      intro run under
      obtain ⟨known, holds, left⟩ := takes run under
      refine ⟨known, fun other uncrossed bit enable set => ?_, left⟩
      exact (isSet_captured _ channel other count enable).trans
        (holds other uncrossed bit enable set)

end TakingBack

section Runs

variable {race next : Race}

def Race.Clears (race : Race) : Prop := ClearsUp race.machine.world race.cancel

/-- A run that keeps to the order enables nothing, or is overwritten. -/
theorem clearsUp_handler (clears : race.Clears) (takes : race.TakesBack)
    (inTime : WritesBackInTime race .handler) (turned : race.turnHandler = some next) :
    next.Clears := by
  obtain ⟨sameCancel, ⟨sameMachine, _⟩ | ⟨run, left, here, _, advanced⟩⟩ :=
    turnHandler_cases turned
  · rw [Race.Clears, sameCancel, sameMachine]
    exact clears
  · rw [Race.Clears, sameCancel]
    rcases world_advance advanced with same | ⟨value, reg, later, writes, changed⟩
    · rw [same]
      exact clears
    · obtain ⟨known, holds, ahead⟩ := takes run here
      rw [writes] at ahead
      obtain ⟨⟨channel, target⟩, noMore, _⟩ := ahead
      have order := inTime run here reg (by rw [writes]; rfl)
      rw [changed]
      apply clearsUp_mono clears
      intro other
      by_cases same : other.controlRegister = reg
      · rcases order with uncrossed | overwritten
        · right
          intro bit enable set
          rw [same, written_self _ _ _ enable] at set
          rw [← target] at noMore uncrossed
          rw [same, ← target]
          exact holds channel uncrossed bit enable (noMore bit enable set)
        · rw [same]
          exact Or.inl overwritten
      · rw [written_other same]
        exact Or.inr (enablesNoMore_refl _)

theorem clearsUp_turn {turn : Turn} (clears : race.Clears) (takes : race.TakesBack)
    (inTime : WritesBackInTime race turn) (turned : race.turn turn = some next) :
    next.Clears := by
  cases turn with
  | cancel =>
      obtain ⟨_, sameMachine, _, begun⟩ | ⟨rest, left, here, later, _, advanced⟩ :=
        turnCancel_cases turned
      · rw [Race.Clears, begun]
        exact .begun
      · rw [Race.Clears, here] at clears
        rw [Race.Clears, later]
        exact clearsUp_cancel clears advanced
  | handler => exact clearsUp_handler clears takes inTime turned
  | capture channel count =>
      cases turned
      apply clearsUp_mono clears
      intro other
      exact Or.inr (enablesNoMore_captured _ channel other count)

/-- What a run that keeps to the order preserves. -/
structure Race.Orderly (race : Race) : Prop where
  clears : race.Clears
  takes : race.TakesBack

theorem orderly_turn {turn : Turn} (orderly : race.Orderly) (inTime : WritesBackInTime race turn)
    (turned : race.turn turn = some next) : next.Orderly where
  clears := clearsUp_turn orderly.clears orderly.takes inTime turned
  takes := takesBack_turn orderly.takes turned

/-- A cancel that is over has cleared what it is to clear. -/
theorem disabled_of_clearsUp {registers : Registers} {cancel : Option (PulsecapProgram Int)}
    (clears : ClearsUp registers cancel) (ended : cancel = some (.done 0)) :
    Disabled registers := by
  cases clears with
  | idle => cases ended
  | begun => cases ended
  | refused => cases ended
  | @reading before rest split clear =>
      cases rest with
      | nil => cases ended
      | cons update rest => cases ended
  | holding split clear => cases ended
  | finished clear =>
      intro channel
      cases channel with
      | rising =>
          exact ⟨clear (.rising, tcsr0Enit0) (by decide), clear (.rising, tcsr0Ent0) (by decide)⟩
      | falling =>
          exact ⟨clear (.falling, tcsr0Enit0) (by decide), clear (.falling, tcsr0Ent0) (by decide)⟩

/-- In every run in which the handler writes no register back that the cancel has written
since the run read it, the timers are disabled in every state in which an accepted cancel is
over and so is every handler run that overlapped it. -/
theorem cancel_disables {machine : Machine timerSignature Registers} {turns : List Turn}
    (inTime : races.EveryStep WritesBackInTime (.initial machine) turns) :
    races.EveryState (fun race => Settled race → Disabled race.machine.world) (.initial machine)
      turns := by
  have begins : (Race.initial machine).Orderly := by
    refine ⟨.idle, fun run none => ?_⟩
    cases none
  have holds : races.EveryState Race.Orderly (.initial machine) turns :=
    everyState_of_turns begins inTime fun _ _ _ => orderly_turn
  intro before rest race same reached settled
  exact disabled_of_clearsUp (holds before rest race same reached).clears settled.cancel

end Runs

section Stale

/-- A capture of two edges that has been started. -/
def startedCapture : Machine timerSignature Registers :=
  ((pulsecapStartCapture .valid 2).exec storage ⟨.zeroed, fun _ => 0⟩).2

/-- A cancel begins within one handler run and goes on within the next. That run has read
both control registers before the cancel writes them, and writes each of them back just
before the cancel writes it for the last time. -/
def overlappingTurns : List Turn :=
  List.replicate 6 .handler ++ List.replicate 2 .cancel ++ List.replicate 13 .handler ++
    List.replicate 5 .cancel ++ [.handler] ++ List.replicate 2 .cancel ++ [.handler] ++
      List.replicate 2 .cancel ++ [.handler]

theorem overlapping_cancel_disables :
    (∃ final, races.Reaches (.initial startedCapture) overlappingTurns final ∧ Settled final) ∧
      races.EveryState (fun race => Settled race → Disabled race.machine.world)
        (.initial startedCapture) overlappingTurns := by
  constructor
  · exact ⟨⟨_, some (.done 0), none⟩, ⟨_, rfl⟩, rfl, fun _ none => by cases none⟩
  · exact cancel_disables (Transducer.everyStep_of_checked (by decide))

/-- A handler run has read the control registers in order to acknowledge; then comes a whole
cancel, and then the run writes what it has read. -/
theorem late_acknowledge_enables :
    ¬races.EveryState (fun race => Settled race → Disabled race.machine.world)
      (.initial startedCapture)
      (List.replicate 8 .handler ++ List.replicate 11 .cancel ++ List.replicate 3 .handler) := by
  intro every
  have reached : races.Reaches (.initial startedCapture) (List.replicate 8 .handler ++
    List.replicate 11 .cancel ++ List.replicate 3 .handler) ⟨_, some (.done 0), none⟩ := ⟨_, rfl⟩
  have disabled := every _ [] _ (List.append_nil _).symm reached
    ⟨rfl, fun run none => by cases none⟩
  exact absurd (disabled .rising).1 (by decide)

end Stale

section Undisturbed

variable {race next : Race}

/-- No action of the cancel comes within a handler run. -/
def Undisturbed (race : Race) : Turn → Prop
  | .cancel => race.handler = none
  | _ => True

/-- The cancel has not written anything since a handler run began. -/
def Race.Uncrossed (race : Race) : Prop :=
  ∀ run ∈ race.handler, ∀ reg, run.crossed reg = false

theorem uncrossed_turn {turn : Turn} (uncrossed : race.Uncrossed)
    (undisturbed : Undisturbed race turn) (turned : race.turn turn = some next) :
    next.Uncrossed := by
  intro run under
  cases turn with
  | cancel =>
      have idle : race.handler = none := undisturbed
      obtain ⟨_, _, sameHandler, _⟩ | ⟨_, _, _, _, crossed, _⟩ := turnCancel_cases turned
      · rw [sameHandler, idle] at under
        cases under
      · rw [crossed, idle] at under
        cases under
  | handler =>
      obtain ⟨_, ⟨_, none | ⟨_, begun⟩⟩ | ⟨before, _, here, later, _⟩⟩ := turnHandler_cases turned
      · rw [none] at under
        cases under
      · rw [begun] at under
        cases under
        exact fun _ => rfl
      · rw [later] at under
        cases under
        intro reg
        exact Bool.and_eq_false_iff.mpr (Or.inl (uncrossed before here reg))
  | capture channel count =>
      cases turned
      exact uncrossed run under

/-- If the cancel took the lock, as the handler does, the order would be kept. -/
theorem inTime_of_undisturbed {machine : Machine timerSignature Registers} {turns : List Turn}
    (undisturbed : races.EveryStep Undisturbed (.initial machine) turns) :
    races.EveryStep WritesBackInTime (.initial machine) turns := by
  have begins : (Race.initial machine).Uncrossed := by
    intro run none
    cases none
  have uncrossed : races.EveryState Race.Uncrossed (.initial machine) turns :=
    everyState_of_turns begins undisturbed fun _ _ _ => uncrossed_turn
  intro before turn rest race same reached
  cases turn with
  | handler =>
      intro run here reg _
      exact Or.inl (uncrossed before (.handler :: rest) race same reached run here reg)
  | cancel => trivial
  | capture channel count => trivial

end Undisturbed

end Ebaz4205.PulsecapCancelRace
