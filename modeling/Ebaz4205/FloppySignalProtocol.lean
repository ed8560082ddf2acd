import Ebaz4205.FloppyStepCalls
import Ebaz4205.ProgramMonitors

/-!
# The order of writes to the drive lines

What the writes of any sequence of drive operations keep to: when STEP and DIR
may change, who set the direction of a pulse, and in which levels the lines are
left between operations. A monitor follows the lines through the operations,
and nothing is assumed of the sensors. The pulses of a seek are counted exactly.
-/

namespace Ebaz4205.FloppySignalProtocol

open DriverProgram DriverProgram.Program FloppyHeadTracking FloppyStepCalls KswfloppyDriver
  PulsecapDriver

set_option autoImplicit false

variable {size : Nat} {World : Type}

/-- A call of `gpiod_set_value`, or the beginning of a call of `floppy_step`. -/
inductive LineEvent where
  | set (signal : Signal) (value : Bool)
  | floppyStep (direction : StepDirection)
  deriving DecidableEq

namespace LineEvent

def observe : Exchange (markedSignature size) → Option LineEvent
  | ⟨.inner (.gpiodSetValue signal value), _⟩ => some (.set signal value)
  | ⟨.inner (.gpiodGetValue _), _⟩ => none
  | ⟨.mark direction, _⟩ => some (.floppyStep direction)

def setCall : LineEvent → Option (Signal × Bool)
  | .set signal value => some (signal, value)
  | .floppyStep _ => none

end LineEvent

/-- The calls of `gpiod_set_value` among the requests of the driver. -/
def setCall : Exchange (floppySignature size) → Option (Signal × Bool)
  | ⟨.gpiodSetValue signal value, _⟩ => some (signal, value)
  | ⟨.gpiodGetValue _, _⟩ => none

/-- The levels that the writes have brought the lines to, the direction that the
latest call of `floppy_step` was asked for, and what DIR has been set to since
that call began. A line is at no known level before its first write. -/
structure Lines where
  level : Signal → Option Bool
  requested : Option StepDirection
  aimed : Option Bool

namespace Lines

/-- Nothing is known of the lines before the first write. -/
def initial : Lines := ⟨fun _ => none, none, none⟩

def advance (lines : Lines) : LineEvent → Lines
  | .set signal value =>
      { lines with
        level := Function.update lines.level signal (some value)
        aimed := if signal = .dir then some value else lines.aimed }
  | .floppyStep direction => { lines with requested := some direction, aimed := none }

theorem level_set (lines : Lines) (signal other : Signal) (value : Bool) :
    (lines.advance (.set signal value)).level other =
      if other = signal then some value else lines.level other :=
  Function.update_apply _ _ _ _

end Lines

def linesAfter (trace : List LineEvent) : Lines := trace.foldl Lines.advance .initial

/-- What holds at every place of a trace where STEP or DIR is written. -/
structure KeepsProtocol (trace : List LineEvent) : Prop where
  selected : ∀ before after, trace = before ++ .set .step true :: after →
    (linesAfter before).level .drvsb = some true
  aimed : ∀ before after, trace = before ++ .set .step true :: after →
    ∃ direction, (linesAfter before).requested = some direction ∧
      (linesAfter before).aimed = some direction.level
  steady : ∀ before value after, trace = before ++ .set .dir value :: after →
    (linesAfter before).level .step ≠ some true
  lowered : ∀ before after, trace = before ++ .set .step true :: after →
    ∃ pulse rest, after = pulse ++ .set .step false :: rest ∧ .set .step true ∉ pulse

/-- DRVSB and MOTEB are as given, and no pulse is under way. -/
structure Rests (selected motor : Bool) (lines : Lines) : Prop where
  drvsb : lines.level .drvsb = some selected
  moteb : lines.level .moteb = some motor
  step : lines.level .step = some false

section Monitor

/-- What the protocol asks of an event in given levels. -/
structure Lines.Permits (lines : Lines) (event : LineEvent) : Prop where
  pulse : event = .set .step true →
    lines.level .step = some false ∧ lines.level .drvsb = some true ∧
      ∃ direction, lines.requested = some direction ∧ lines.aimed = some direction.level
  direction : ∀ value, event = .set .dir value → lines.level .step ≠ some true

def protocol (size : Nat) : Monitor (markedSignature size) LineEvent Lines where
  observe := LineEvent.observe
  advance := Lines.advance
  permits := Lines.Permits

def events (env : Environment (floppySignature size) World) {Result : Type}
    (program : MarkedProgram size Result) (machine : Machine (floppySignature size) World) :
    List LineEvent :=
  (program.exchanges (marked env) (withMarks machine)).filterMap LineEvent.observe

/-- Raised with nothing but lawful events to come, and low in the end: there is
a first event that lowers it, and none before it raises it again. -/
theorem lowered_of_accepts {lines : Lines} {rest : List LineEvent}
    (raised : lines.level .step = some true) (accepted : (protocol size).Accepts lines rest)
    (low : ((protocol size).after lines rest).level .step = some false) :
    ∃ pulse later, rest = pulse ++ .set .step false :: later ∧ .set .step true ∉ pulse := by
  induction rest generalizing lines with
  | nil =>
      have unchanged : lines.level .step = some false := low
      rw [raised] at unchanged
      exact absurd unchanged (by decide)
  | cons event rest ih =>
      obtain ⟨permitted, others⟩ := accepted
      by_cases lowers : event = .set .step false
      · exact ⟨[], rest, by rw [lowers]; rfl, List.not_mem_nil⟩
      · have notRaise : event ≠ .set .step true := by
          intro raises
          have down := (permitted.pulse raises).1
          rw [raised] at down
          exact absurd down (by decide)
        have still : ((protocol size).advance lines event).level .step = some true := by
          cases event with
          | set signal value =>
              by_cases same : signal = .step
              · cases value with
                | true => exact absurd (by rw [same]) notRaise
                | false => exact absurd (by rw [same]) lowers
              · exact (Lines.level_set _ _ _ _).trans ((if_neg (Ne.symm same)).trans raised)
          | floppyStep direction => exact raised
        obtain ⟨pulse, later, split, unraised⟩ := ih still others low
        refine ⟨event :: pulse, later, by rw [split]; rfl, ?_⟩
        intro member
        cases member with
        | head => exact notRaise rfl
        | tail _ inside => exact unraised inside

theorem keepsProtocol_of_accepts {trace : List LineEvent}
    (accepted : (protocol size).Accepts .initial trace)
    (low : (linesAfter trace).level .step = some false) : KeepsProtocol trace := by
  have raise : ∀ before after, trace = before ++ .set .step true :: after →
      (linesAfter before).Permits (.set .step true) := fun _ _ split =>
    Monitor.permits_of_accepts accepted split
  constructor
  · intro before after split
    exact ((raise before after split).pulse rfl).2.1
  · intro before after split
    exact ((raise before after split).pulse rfl).2.2
  · intro before value after split
    have permitted : (linesAfter before).Permits (.set .dir value) :=
      Monitor.permits_of_accepts accepted split
    exact permitted.direction value rfl
  · intro before after split
    rw [split, Monitor.accepts_append] at accepted
    have raised : ((linesAfter before).advance (.set .step true)).level .step = some true := by
      rw [Lines.level_set, if_pos rfl]
    have folded : linesAfter trace =
        (protocol size).after ((linesAfter before).advance (.set .step true)) after := by
      rw [split, linesAfter, List.foldl_append]
      rfl
    rw [folded] at low
    exact lowered_of_accepts raised accepted.2.2 low

end Monitor

section Operations

variable {env : Environment (markedSignature size) World}

/-- Inside a call of `floppy_step`, with the direction set up. -/
structure Aims (direction : StepDirection) (motor pulsing : Bool) (lines : Lines) : Prop where
  drvsb : lines.level .drvsb = some true
  moteb : lines.level .moteb = some motor
  step : lines.level .step = some pulsing
  requested : lines.requested = some direction
  aimed : lines.aimed = some direction.level

def setLine (signal : Signal) (value : Bool) : MarkedProgram size Unit :=
  .call (.inner (.gpiodSetValue signal value)) .done

variable {selected motor : Bool} {pre post : Lines → Prop}

theorem obeys_setLine {signal : Signal} {value : Bool}
    (permitted : ∀ lines, pre lines → lines.Permits (.set signal value))
    (advanced : ∀ lines, pre lines → post (lines.advance (.set signal value))) :
    Obeys env (protocol size) pre (setLine signal value) post :=
  obeys_request (fun _ => rfl) permitted advanced

theorem unasserted_of_low {lines : Lines} {signal : Signal}
    (low : lines.level signal = some false) : lines.level signal ≠ some true := by
  rw [low]
  decide

/-- Lines other than STEP may change at any time outside a pulse. -/
theorem permits_outside {lines : Lines} {signal : Signal} {value : Bool}
    (low : lines.level .step ≠ some true) (notRaise : signal ≠ .step ∨ value = false) :
    lines.Permits (.set signal value) := by
  constructor
  · intro raises
    obtain ⟨same, up⟩ := LineEvent.set.inj raises
    rcases notRaise with different | down
    · exact absurd same different
    · rw [up] at down
      exact absurd down (by decide)
  · intro _ _
    exact low

theorem obeys_select (value : Bool) :
    Obeys env (protocol size) (Rests selected motor) (setLine .drvsb value)
      (Rests value motor) := by
  apply obeys_setLine
  · intro lines rests
    exact permits_outside (unasserted_of_low rests.step) (Or.inl (by decide))
  · intro lines rests
    constructor
    · rw [Lines.level_set, if_pos rfl]
    · rw [Lines.level_set, if_neg (by decide), rests.moteb]
    · rw [Lines.level_set, if_neg (by decide), rests.step]

theorem obeys_motor (value : Bool) :
    Obeys env (protocol size) (Rests selected motor) (setLine .moteb value)
      (Rests selected value) := by
  apply obeys_setLine
  · intro lines rests
    exact permits_outside (unasserted_of_low rests.step) (Or.inl (by decide))
  · intro lines rests
    constructor
    · rw [Lines.level_set, if_neg (by decide), rests.drvsb]
    · rw [Lines.level_set, if_pos rfl]
    · rw [Lines.level_set, if_neg (by decide), rests.step]

/-- In the middle of `deassert_all`, with these lines still to be written. -/
structure Lowers (signals : List Signal) (lines : Lines) : Prop where
  unasserted : ∀ signal, lines.level signal ≠ some true
  lowered : ∀ signal, signal ∉ signals → lines.level signal = some false

theorem lowers_advance {lines : Lines} {signal : Signal} {rest : List Signal}
    (lowers : Lowers (signal :: rest) lines) :
    Lowers rest (lines.advance (.set signal false)) := by
  constructor
  · intro other
    rw [Lines.level_set]
    by_cases same : other = signal
    · rw [if_pos same]
      decide
    · rw [if_neg same]
      exact lowers.unasserted other
  · intro other written
    rw [Lines.level_set]
    by_cases same : other = signal
    · rw [if_pos same]
    · rw [if_neg same]
      exact lowers.lowered other (List.not_mem_cons_of_ne_of_not_mem same written)

theorem obeys_deassertSignals (signals : List Signal) :
    Obeys env (protocol size) (Lowers signals) (plain (deassertSignals signals))
      (Lowers []) := by
  induction signals with
  | nil => exact obeys_done ()
  | cons signal rest ih =>
      have first : Obeys env (protocol size) (Lowers (signal :: rest)) (setLine signal false)
          (Lowers rest) := by
        apply obeys_setLine
        · intro lines lowers
          exact permits_outside (lowers.unasserted .step) (Or.inr rfl)
        · intro lines lowers
          exact lowers_advance lowers
      exact obeys_bind first fun _ => ih

/-- No line is left at an unknown level: `deassert_all` writes each of them. -/
theorem obeys_deassertAll :
    Obeys env (protocol size) (fun lines => lines = .initial) (plain deassertAll)
      (Rests false false) := by
  have lowers : Obeys env (protocol size) (Lowers Signal.all) (plain deassertAll) (Lowers []) :=
    obeys_deassertSignals Signal.all
  apply obeys_strengthen (obeys_weaken lowers _)
  · intro lines begins
    rw [begins]
    constructor
    · intro signal
      exact Option.some_ne_none true |>.symm
    · intro signal missing
      exact absurd (by cases signal <;> decide) missing
  · intro lines low
    have down : ∀ signal, lines.level signal = some false :=
      fun signal => low.lowered signal List.not_mem_nil
    exact ⟨down .drvsb, down .moteb, down .step⟩

end Operations

section Steps

variable {env : Environment (markedSignature size) World} {motor pulsing : Bool}
  {direction : StepDirection}

def moveShadow (direction : StepDirection) : MarkedProgram size Unit :=
  .update (fun handler => handler.stepped direction) (.done ())

theorem plain_floppyStep (direction : StepDirection) :
    (plain (floppyStep direction) : MarkedProgram size Unit) =
      (setLine .step false).bind fun _ => (setLine .dir direction.level).bind fun _ =>
        (moveShadow direction).bind fun _ =>
          (setLine .step true).bind fun _ => setLine .step false := by
  cases direction with
  | inwards => rfl
  | outwards => rfl

/-- Before DIR is set, the call has only announced its direction. -/
structure Called (direction : StepDirection) (motor : Bool) (lines : Lines) : Prop where
  drvsb : lines.level .drvsb = some true
  moteb : lines.level .moteb = some motor
  step : lines.level .step = some false
  requested : lines.requested = some direction

def beginStep (direction : StepDirection) : MarkedProgram size Unit :=
  .call (.mark direction) .done

theorem obeys_call (direction : StepDirection) :
    Obeys env (protocol size) (Rests true motor) (beginStep direction)
      (Called direction motor) := by
  apply obeys_request (fun _ => rfl)
  · intro lines rests
    exact ⟨fun raises => LineEvent.noConfusion raises, fun _ sets => LineEvent.noConfusion sets⟩
  · intro lines rests
    exact ⟨rests.drvsb, rests.moteb, rests.step, rfl⟩

theorem obeys_lowerStep :
    Obeys env (protocol size) (Called direction motor) (setLine .step false)
      (Called direction motor) := by
  apply obeys_setLine
  · intro lines called
    exact permits_outside (unasserted_of_low called.step) (Or.inr rfl)
  · intro lines called
    constructor
    · rw [Lines.level_set, if_neg (by decide), called.drvsb]
    · rw [Lines.level_set, if_neg (by decide), called.moteb]
    · rw [Lines.level_set, if_pos rfl]
    · exact called.requested

theorem obeys_aim :
    Obeys env (protocol size) (Called direction motor) (setLine .dir direction.level)
      (Aims direction motor false) := by
  apply obeys_setLine
  · intro lines called
    exact permits_outside (unasserted_of_low called.step) (Or.inl (by decide))
  · intro lines called
    constructor
    · rw [Lines.level_set, if_neg (by decide), called.drvsb]
    · rw [Lines.level_set, if_neg (by decide), called.moteb]
    · rw [Lines.level_set, if_neg (by decide), called.step]
    · exact called.requested
    · rfl

theorem obeys_raiseStep :
    Obeys env (protocol size) (Aims direction motor false) (setLine .step true)
      (Aims direction motor true) := by
  apply obeys_setLine
  · intro lines aims
    constructor
    · intro _
      exact ⟨aims.step, aims.drvsb, direction, aims.requested, aims.aimed⟩
    · intro _ _
      exact unasserted_of_low aims.step
  · intro lines aims
    constructor
    · rw [Lines.level_set, if_neg (by decide), aims.drvsb]
    · rw [Lines.level_set, if_neg (by decide), aims.moteb]
    · rw [Lines.level_set, if_pos rfl]
    · exact aims.requested
    · exact aims.aimed

theorem obeys_endPulse :
    Obeys env (protocol size) (Aims direction motor true) (setLine .step false)
      (Rests true motor) := by
  apply obeys_setLine
  · intro lines aims
    constructor
    · intro raises
      exact absurd (LineEvent.set.inj raises).2 (by decide)
    · intro _ sets
      exact absurd (LineEvent.set.inj sets).1 (by decide)
  · intro lines aims
    constructor
    · rw [Lines.level_set, if_neg (by decide), aims.drvsb]
    · rw [Lines.level_set, if_neg (by decide), aims.moteb]
    · rw [Lines.level_set, if_pos rfl]

theorem obeys_markedStep (direction : StepDirection) :
    Obeys env (protocol size) (Rests true motor) (markedStep direction) (Rests true motor) := by
  have body : Obeys env (protocol size) (Called direction motor)
      (plain (floppyStep direction)) (Rests true motor) := by
    rw [plain_floppyStep]
    apply obeys_bind obeys_lowerStep
    intro _
    apply obeys_bind obeys_aim
    intro _
    apply obeys_bind (obeys_modify _)
    intro _
    exact obeys_bind obeys_raiseStep fun _ => obeys_endPulse
  exact obeys_bind (obeys_call direction) fun _ => body

end Steps

section Sensing

variable {env : Environment (markedSignature size) World} {Result : Type} {pre : Lines → Prop}

/-- Reading lines, changing the instance and indexing the buffer. -/
def sensing (size : Nat) : Effects (floppySignature size) where
  sends call := ∃ signal, call = .gpiodGetValue signal
  changes _ := True
  visits _ _ := True

def markedSensing (size : Nat) : Effects (markedSignature size) where
  sends call := ∃ signal, call = .inner (.gpiodGetValue signal)
  changes _ := True
  visits _ _ := True

theorem within_plain {program : FloppyProgram size Result}
    (within : program.Within (sensing size)) :
    (plain program).Within (markedSensing size) := by
  induction program with
  | done result => trivial
  | call request rest ih =>
      obtain ⟨⟨signal, same⟩, later⟩ := within
      exact ⟨⟨signal, congrArg MarkedCall.inner same⟩, fun reply => ih reply (later reply)⟩
  | fetch rest ih => exact fun memory => ih memory (within memory)
  | update change rest ih => exact ⟨trivial, ih within.2⟩
  | access region position rest ih => exact ⟨trivial, fun slot => ih slot (within.2 slot)⟩
  | unfinished => trivial

theorem obeys_of_sensing {program : FloppyProgram size Result}
    (within : program.Within (sensing size)) :
    Obeys env (protocol size) pre (plain program) pre := by
  apply obeys_of_unobserved (within_plain within)
  intro exchange sent
  obtain ⟨signal, same⟩ := sent
  obtain ⟨request, reply⟩ := exchange
  subst same
  rfl

theorem within_readSignal (signal : Signal) :
    (readSignal signal : FloppyProgram size U32).Within (sensing size) :=
  ⟨⟨signal, rfl⟩, fun _ => trivial⟩

theorem within_storeFullByte (locals : DumpLocals) :
    (storeFullByte locals : FloppyProgram size DumpLocals).Within (sensing size) :=
  within_if ⟨trivial, fun _ => ⟨trivial, trivial⟩⟩ (within_done _)

theorem within_dumpLoop (budget : Nat) (locals : DumpLocals) :
    (dumpLoop budget locals : FloppyProgram size DumpLocals).Within (sensing size) := by
  induction budget generalizing locals with
  | zero => trivial
  | succ budget ih =>
      obtain ⟨state, index, data, bufPtr, dataByte, bitCounter, wait⟩ := locals
      cases state with
      | waitIndex =>
          apply within_bind _ ih
          apply within_bind (within_readSignal .index)
          intro index
          exact within_if (within_done _) (within_done _)
      | read =>
          apply within_bind _ ih
          apply within_bind (within_readSignal .index)
          intro index
          apply within_bind (within_readSignal .rdata)
          intro data
          exact within_if (within_done _) (within_storeFullByte _)
      | done => trivial

end Sensing

section Calls

variable {env : Environment (markedSignature size) World} {selected motor : Bool}
  {pre : Lines → Prop}

theorem obeys_readSignal (signal : Signal) :
    Obeys env (protocol size) pre (plain (readSignal signal)) pre :=
  obeys_of_sensing (within_readSignal signal)

theorem obeys_homeIteration {next : MarkedProgram size Unit}
    (later : Obeys env (protocol size) (Rests true motor) next (Rests true motor)) :
    Obeys env (protocol size) (Rests true motor) (markedHomeIteration next)
      (Rests true motor) := by
  apply obeys_bind (obeys_readSignal .trk00)
  intro state
  apply obeys_if (obeys_modify _)
  exact obeys_bind (obeys_markedStep .outwards) fun _ => later

theorem obeys_homeLoop (stuckCounter : Nat) :
    Obeys env (protocol size) (Rests true motor) (markedHomeLoop stuckCounter)
      (Rests true motor) := by
  induction stuckCounter with
  | zero => exact obeys_homeIteration (obeys_done ())
  | succ stuckCounter ih => exact obeys_homeIteration ih

theorem obeys_home :
    Obeys env (protocol size) (Rests selected motor) markedHome (Rests false motor) := by
  apply obeys_bind (obeys_select true)
  intro _
  apply obeys_bind (obeys_homeLoop 100)
  intro _
  exact obeys_select false

theorem obeys_seekLoop (track : U32) (budget : Nat) :
    Obeys env (protocol size) (Rests true motor) (markedSeekLoop track budget)
      (Rests true motor) := by
  induction budget with
  | zero => exact obeys_unfinished
  | succ budget ih =>
      apply obeys_bind (obeys_field id)
      intro handler
      apply obeys_if _ (obeys_done ())
      apply obeys_if
      · exact obeys_bind (obeys_markedStep .outwards) fun _ => ih
      · exact obeys_bind (obeys_markedStep .inwards) fun _ => ih

theorem obeys_seek (budget : Nat) (track : U32) :
    Obeys env (protocol size) (Rests false motor) (markedSeek budget track)
      (Rests false motor) := by
  apply obeys_bind (obeys_field id)
  intro handler
  apply obeys_if (obeys_done ())
  apply obeys_bind (obeys_select true)
  intro _
  apply obeys_bind (obeys_seekLoop track budget)
  intro _
  exact obeys_select false

theorem obeys_dumpTrack (budget : Nat) (track : U32) :
    Obeys env (protocol size) (Rests false false) (markedDumpTrack budget track)
      (Rests false false) := by
  apply obeys_if (obeys_done _)
  apply obeys_bind (obeys_seek budget track)
  intro _
  apply obeys_bind (obeys_select true)
  intro _
  apply obeys_bind (obeys_motor true)
  intro _
  apply obeys_bind (obeys_of_sensing (within_dumpLoop budget .initial))
  intro _
  apply obeys_bind (obeys_motor false)
  intro _
  exact obeys_bind (obeys_select false) fun _ => obeys_done _

theorem obeys_op (budget : Nat) (op : FloppyOp) :
    Obeys env (protocol size) (Rests false false) (markedOp budget op) (Rests false false) := by
  cases op with
  | home => exact obeys_bind obeys_home fun _ => obeys_done _
  | seek track => exact obeys_bind (obeys_seek budget track) fun _ => obeys_done _
  | dump track => exact obeys_bind (obeys_dumpTrack budget track) fun _ => obeys_done _

theorem obeys_operations (history : List (FloppyOp × Nat)) :
    Obeys env (protocol size) (Rests false false) (markedOperations history)
      (Rests false false) := by
  induction history with
  | nil => exact obeys_done ()
  | cons entry rest ih => exact obeys_bind (obeys_op entry.2 entry.1) fun _ => ih

theorem obeys_session (history : List (FloppyOp × Nat)) :
    Obeys env (protocol size) (fun lines => lines = .initial) (markedSession history)
      (Rests false false) :=
  obeys_bind obeys_deassertAll fun _ => obeys_operations history

end Calls

section Pulses

variable {env : Environment (floppySignature size) World} {track : U32}

/-- What one call of `floppy_step` does to the lines. -/
def pulse (direction : StepDirection) : List LineEvent :=
  [.floppyStep direction, .set .step false, .set .dir direction.level, .set .step true,
    .set .step false]

/-- A number of pulses in one direction. -/
def pulses (count : Nat) (direction : StepDirection) : List LineEvent :=
  (List.replicate count (pulse direction)).flatten

theorem pulses_succ (count : Nat) (direction : StepDirection) :
    pulses (count + 1) direction = pulse direction ++ pulses count direction := rfl

theorem count_pulses (count : Nat) (direction : StepDirection) :
    ((pulses count direction).filterMap LineEvent.setCall).count (.step, true) = count := by
  induction count with
  | zero => rfl
  | succ count ih =>
      rw [pulses_succ, List.filterMap_append, List.count_append, ih]
      cases direction with
      | inwards => exact Nat.add_comm 1 count
      | outwards => exact Nat.add_comm 1 count

theorem exec_markedStep (env : Environment (floppySignature size) World)
    (direction : StepDirection) (machine : Machine (markedSignature size) World) :
    ∃ world, (markedStep direction).exec (marked env) machine =
        (.returned (), ⟨machine.memory.stepped direction, world⟩) ∧
      (protocol size).trace (marked env) (markedStep direction) machine = pulse direction := by
  cases direction with
  | inwards => exact ⟨_, rfl, rfl⟩
  | outwards => exact ⟨_, rfl, rfl⟩

theorem exec_setLine (env : Environment (floppySignature size) World) (signal : Signal)
    (value : Bool) (machine : Machine (markedSignature size) World) :
    ∃ world, (setLine signal value).exec (marked env) machine =
        (.returned (), ⟨machine.memory, world⟩) ∧
      (protocol size).trace (marked env) (setLine signal value) machine = [.set signal value] :=
  ⟨_, rfl, rfl⟩

theorem markedSeekLoop_succ (track : U32) (budget : Nat) :
    (markedSeekLoop track (budget + 1) : MarkedProgram size Unit) = .fetch fun handler =>
      if handler.curTrack ≠ track then
        (markedStep (towards track handler.curTrack)).bind fun _ => markedSeekLoop track budget
      else .done () := by
  apply congrArg (fun body => (.fetch body : MarkedProgram size Unit))
  funext handler
  by_cases below : track < handler.curTrack
  · simp [towards, below, Program.bind]
  · simp [towards, below, Program.bind]

/-- After a step that did not arrive, the next one goes the same way. -/
theorem towards_stepped {handler : KswfloppyData size} (legal : track.toNat < floppyTracks)
    (apart : handler.curTrack ≠ track)
    (still : (handler.stepped (towards track handler.curTrack)).curTrack ≠ track) :
    towards track (handler.stepped (towards track handler.curTrack)).curTrack =
      towards track handler.curTrack := by
  obtain ⟨moved, nearer⟩ := curTrack_stepped_towards legal apart
  have stillNat : (handler.stepped (towards track handler.curTrack)).curTrack.toNat ≠
      track.toNat := fun same => still (BitVec.eq_of_toNat_eq same)
  by_cases below : track < handler.curTrack
  · have outwards : towards track handler.curTrack = .outwards := if_pos below
    rw [outwards] at moved nearer stillNat ⊢
    apply if_pos
    rw [BitVec.lt_def] at below ⊢
    unfold distance at nearer
    simp only [moves] at moved nearer
    omega
  · have inwards : towards track handler.curTrack = .inwards := if_neg below
    rw [inwards] at moved nearer stillNat ⊢
    apply if_neg
    rw [BitVec.lt_def] at below ⊢
    unfold distance at nearer
    simp only [moves] at moved nearer
    omega

/-- A seek that arrives takes one pulse for each track it crosses. -/
theorem trace_seekLoop (legal : track.toNat < floppyTracks) (budget : Nat)
    {machine last : Machine (markedSignature size) World}
    (ran : (markedSeekLoop track budget).exec (marked env) machine = (.returned (), last)) :
    (protocol size).trace (marked env) (markedSeekLoop track budget) machine =
      pulses (distance machine.memory.curTrack.toNat track.toNat)
        (towards track machine.memory.curTrack) := by
  induction budget generalizing machine with
  | zero => exact absurd (Prod.mk.inj ran).1 (by simp)
  | succ budget ih =>
      rw [markedSeekLoop_succ] at ran ⊢
      rw [exec] at ran
      rw [Monitor.trace_fetch]
      by_cases arrived : machine.memory.curTrack = track
      · rw [if_neg (not_not.mpr arrived), arrived]
        rw [distance_self]
        rfl
      · rw [if_pos arrived] at ran ⊢
        obtain ⟨world, stepped, pulsed⟩ := exec_markedStep env
          (towards track machine.memory.curTrack) machine
        rw [exec_bind, stepped, continueWith_returned] at ran
        rw [trace_bind, stepped, pulsed, followedBy, ih ran]
        have nearer := (curTrack_stepped_towards legal arrived).2
        rw [← (curTrack_stepped_towards legal arrived).1] at nearer
        rw [← nearer, pulses_succ]
        by_cases still :
            (machine.memory.stepped (towards track machine.memory.curTrack)).curTrack = track
        · rw [still, distance_self]
          rfl
        · rw [towards_stepped legal arrived still]

theorem markedSeek_eq (budget : Nat) (track : U32) :
    (markedSeek budget track : MarkedProgram size Unit) = .fetch fun handler =>
      if floppyTracks - 1 < track.toNat ∨ ¬handler.homed then .done ()
      else (setLine .drvsb true).bind fun _ => (markedSeekLoop track budget).bind fun _ =>
        setLine .drvsb false := rfl

/-- The pulses of an accepted seek, and the selection around them. -/
theorem trace_markedSeek {budget : Nat} {machine last : Machine (markedSignature size) World}
    (homed : machine.memory.homed = true) (legal : track.toNat < floppyTracks)
    (ran : (markedSeek budget track).exec (marked env) machine = (.returned (), last)) :
    (protocol size).trace (marked env) (markedSeek budget track) machine =
      .set .drvsb true ::
        (pulses (distance machine.memory.curTrack.toNat track.toNat)
          (towards track machine.memory.curTrack) ++ [.set .drvsb false]) := by
  have accepted : ¬(floppyTracks - 1 < track.toNat ∨ ¬machine.memory.homed = true) := by
    rw [not_or, not_not]
    exact ⟨by omega, homed⟩
  rw [markedSeek_eq] at ran ⊢
  rw [exec, if_neg accepted] at ran
  rw [Monitor.trace_fetch, if_neg accepted]
  obtain ⟨world, selected, announced⟩ := exec_setLine env .drvsb true machine
  rw [exec_bind, selected, continueWith_returned] at ran
  obtain ⟨_, arrived, looped, _⟩ := exec_bind_returned ran
  rw [trace_bind, selected, announced, followedBy, trace_bind, looped,
    trace_seekLoop legal budget looped]
  rfl

end Pulses

section Traces

variable {Result : Type}

theorem setCall_inner (exchange : Exchange (markedSignature size)) :
    (innerExchange exchange).bind setCall =
      (LineEvent.observe exchange).bind LineEvent.setCall := by
  obtain ⟨request, reply⟩ := exchange
  cases request with
  | inner asked =>
      cases asked with
      | gpiodSetValue signal value => rfl
      | gpiodGetValue signal => rfl
  | mark direction => rfl

/-- The driver's calls of `gpiod_set_value` are the marked trace without the marks. -/
theorem setCalls_erase (env : Environment (floppySignature size) World)
    (program : MarkedProgram size Result) (machine : Machine (markedSignature size) World) :
    ((erase program).exchanges env (unmarked machine)).filterMap setCall =
      ((protocol size).trace (marked env) program machine).filterMap LineEvent.setCall := by
  unfold Monitor.trace
  rw [exchanges_erase, List.filterMap_filterMap, List.filterMap_filterMap]
  exact congrArg (List.filterMap · _) (funext setCall_inner)

theorem exec_operations_front (env : Environment (floppySignature size) World)
    (first second : List (FloppyOp × Nat)) {machine last : Machine (floppySignature size) World}
    (ran : (operations (first ++ second)).exec env machine = (.returned (), last)) :
    ∃ middle, (operations first).exec env machine = (.returned (), middle) := by
  induction first generalizing machine with
  | nil => exact ⟨machine, rfl⟩
  | cons entry rest ih =>
      obtain ⟨op, budget⟩ := entry
      change ((op.program budget).bind fun _ => operations (rest ++ second)).exec env machine = _
        at ran
      obtain ⟨_, between, opRan, later⟩ := exec_bind_returned ran
      change ∃ middle, ((op.program budget).bind fun _ => operations rest).exec env machine = _
      rw [exec_bind, opRan]
      exact ih later

theorem exec_session_front (env : Environment (floppySignature size) World)
    (first second : List (FloppyOp × Nat)) {machine last : Machine (floppySignature size) World}
    (ran : (session (first ++ second)).exec env machine = (.returned (), last)) :
    ∃ middle, (session first).exec env machine = (.returned (), middle) := by
  change (deassertAll.bind fun _ => operations (first ++ second)).exec env machine = _ at ran
  obtain ⟨_, ready, lowered, rest⟩ := exec_bind_returned ran
  change ∃ middle, (deassertAll.bind fun _ => operations first).exec env machine = _
  rw [exec_bind, lowered]
  exact exec_operations_front env first second rest

end Traces

section Sessions

variable (env : Environment (floppySignature size) World)
  (machine : Machine (floppySignature size) World)

/-- The trace of a session, with its calls of `floppy_step` marked. -/
def sessionTrace (history : List (FloppyOp × Nat)) : List LineEvent :=
  ((markedSession history).exchanges (marked env) (withMarks machine)).filterMap LineEvent.observe

/-- The calls of `gpiod_set_value` of an execution. -/
def setCalls {Result : Type} (program : FloppyProgram size Result) : List (Signal × Bool) :=
  (program.exchanges env machine).filterMap setCall

/-- What the trace of a session keeps to, at every place of it, after each of
its operations, and in each accepted seek wherever it starts. -/
structure SessionKeepsProtocol (history : List (FloppyOp × Nat)) : Prop where
  written : setCalls env machine (session history) =
    (sessionTrace env machine history).filterMap LineEvent.setCall
  keeps : KeepsProtocol (sessionTrace env machine history)
  rests : ∀ first second, history = first ++ second →
    Rests false false (linesAfter (sessionTrace env machine first))
  seeks : ∀ budget track start last,
    (floppySeek budget track).exec env start = (.returned (), last) →
    start.memory.homed = true → track.toNat < floppyTracks →
      setCalls env start (floppySeek budget track) =
          (.drvsb, true) :: ((pulses (distance start.memory.curTrack.toNat track.toNat)
            (towards track start.memory.curTrack)).filterMap LineEvent.setCall ++
              [(.drvsb, false)]) ∧
        (setCalls env start (floppySeek budget track)).count (.step, true) =
          distance start.memory.curTrack.toNat track.toNat

theorem sessionTrace_lawful {history : List (FloppyOp × Nat)}
    {last : Machine (floppySignature size) World}
    (ran : (session history).exec env machine = (.returned (), last)) :
    (protocol size).Accepts .initial (sessionTrace env machine history) ∧
      Rests false false (linesAfter (sessionTrace env machine history)) := by
  have obeys : Obeys (marked env) (protocol size) (fun lines => lines = .initial)
      (markedSession history) (Rests false false) := obeys_session history
  constructor
  · exact obeys.accepted .initial (withMarks machine) rfl
  · exact obeys.after_return .initial (withMarks machine) () _ rfl
      (exec_of_erase env (erase_markedSession history) ran)

theorem setCalls_deselect (trace : List LineEvent) :
    (trace ++ [LineEvent.set .drvsb false]).filterMap LineEvent.setCall =
      trace.filterMap LineEvent.setCall ++ [(.drvsb, false)] := List.filterMap_append

theorem setCalls_floppySeek {budget : Nat} {track : U32}
    {start last : Machine (floppySignature size) World}
    (ran : (floppySeek budget track).exec env start = (.returned (), last))
    (homed : start.memory.homed = true) (legal : track.toNat < floppyTracks) :
    setCalls env start (floppySeek budget track) =
      (.drvsb, true) :: ((pulses (distance start.memory.curTrack.toNat track.toNat)
        (towards track start.memory.curTrack)).filterMap LineEvent.setCall ++
          [(.drvsb, false)]) := by
  have erased := setCalls_erase env (markedSeek budget track) (withMarks start)
  rw [erase_markedSeek, trace_markedSeek homed legal
    (exec_of_erase env (erase_markedSeek budget track) ran)] at erased
  exact erased.trans (congrArg (List.cons (Signal.drvsb, true)) (setCalls_deselect _))

/-- Over any environment and from any instance, a session whose operations all
return keeps the protocol of the drive lines. -/
theorem session_keeps_protocol {history : List (FloppyOp × Nat)}
    {last : Machine (floppySignature size) World}
    (ran : (session history).exec env machine = (.returned (), last)) :
    SessionKeepsProtocol env machine history := by
  constructor
  · have erased := setCalls_erase env (markedSession history) (withMarks machine)
    rw [erase_markedSession] at erased
    exact erased
  · obtain ⟨accepted, rests⟩ := sessionTrace_lawful env machine ran
    exact keepsProtocol_of_accepts accepted rests.step
  · intro first second split
    rw [split] at ran
    obtain ⟨middle, returned⟩ := exec_session_front env first second ran
    exact (sessionTrace_lawful env machine returned).2
  · intro budget track start last seekRan homed legal
    have calls := setCalls_floppySeek env seekRan homed legal
    constructor
    · exact calls
    · rw [calls, List.count_cons_of_ne (by decide), List.count_append, count_pulses]
      rfl

/-- A drive that reports track 0 at once. -/
def trackZeroDrive : Environment (floppySignature 4) Unit where
  respond
    | .gpiodSetValue _ _, world => ((), world)
    | .gpiodGetValue _, world => (1, world)

theorem home_and_seek_keep_protocol :
    SessionKeepsProtocol trackZeroDrive ⟨.zeroed 4, ()⟩ [(.home, 0), (.seek 3, 4)] :=
  session_keeps_protocol trackZeroDrive ⟨.zeroed 4, ()⟩ rfl

end Sessions

end Ebaz4205.FloppySignalProtocol
