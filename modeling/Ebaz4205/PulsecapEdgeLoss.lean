import Ebaz4205.PulsecapFilterCalls

/-!
# Which edges reach the filter

The handler decides by the rising flag alone and acknowledges both channels.
An edge is therefore lost when both flags are up, or when it is latched on
either channel between the handler's look at the flag and its acknowledge; with
no flag up the handler offers an old edge. Outside these windows every latched
edge is offered once and in order.
-/

namespace Ebaz4205.PulsecapEdgeLoss

open BitMask DriverProgram DriverProgram.Program PartialRuns
open PulsecapDriver PulsecapFilterCalls PulsecapOnTimer PulsecapOperations TimerDevice
open TimerDevice.AxiTimer

set_option autoImplicit false

/-- The instance and the timer between two handler runs. -/
abbrev HandlerState := Machine timerSignature TimerWorld

/-- What one run shows: its record on the bus, and the edges that it handed to
the alternation filter. -/
structure HandlerRun where
  log : List TimerTrace
  offered : List PulseData

/-- The timer as a run finds it. -/
def opened (world : TimerWorld) (arrivals : List (List TimerEdge)) : TimerWorld :=
  { world with upcoming := arrivals, log := [] }

/-- One handler run of a running capture, with the edges that arrive before each
of its register accesses. -/
def handlerStep (state : HandlerState) (arrivals : List (List TimerEdge)) :
    Option (HandlerRun × HandlerState) :=
  if captureRunning state.memory.flags = true then
    let begins := ⟨state.memory, opened state.world arrivals⟩
    match timerIrqHandler.exec timerDevice begins with
    | (.returned _, after) => some (⟨after.world.log, filterCalls begins⟩, after)
    | _ => none
  else none

def handlerSystem : Transducer HandlerState (List (List TimerEdge)) HandlerRun where
  step := handlerStep

section Records

/-- The edge of a running capture that a latched edge is: its stamp and level. -/
def pulseOf (edge : TimerEdge) : PulseData := ⟨edge.stamp, edgeTypeOf edge.channel⟩

def offeredEdges (runs : List HandlerRun) : List PulseData := runs.flatMap HandlerRun.offered

/-- The status of a channel that a run read: its first read of the register. -/
def statusRead (channel : Channel) (log : List TimerTrace) : Option Bool :=
  log.findSome? fun
    | .status read pending => if read = channel then some pending else none
    | _ => none

/-- The run read the stamp of this latched edge and handed the edge to the filter. -/
structure Offers (latched : List TimerEdge) (run : HandlerRun) (edge : TimerEdge) (number : Nat) :
    Prop where
  latched : latched[number]? = some edge
  read : .capture edge.channel (some number) ∈ run.log
  offered : pulseOf edge ∈ run.offered

/-- A run clears a flag only if it offered the edge that the flag stood for, and
offers only edges of channels whose flags it saw. -/
structure HonestRun (latched : List TimerEdge) (run : HandlerRun) : Prop where
  cleared : ∀ channel held, .cleared channel held ∈ run.log →
    ∃ edge number, held = some number ∧ edge.channel = channel ∧ Offers latched run edge number
  flagged : ∀ pulse ∈ run.offered, ∃ channel,
    pulse.edgeType = edgeTypeOf channel ∧ statusRead channel run.log = some true

/-- The edges offered are the latched ones in order, each once, up to those
still flagged. -/
def OfferedInOrder (runs : List HandlerRun) (world : TimerWorld) : Prop :=
  ∃ count, offeredEdges runs = (world.latched.take count).map pulseOf ∧
    ∀ number, count ≤ number → number < world.latched.length →
      ∃ channel, world.timer.pending channel = true ∧ world.holds channel = some number

/-- After any number of the scheduled runs, each was honest, the edges were
offered in order, and the instance is as the filter leaves it after them. -/
def LosesNoEdge (start : HandlerState) (schedule : List (List (List TimerEdge))) : Prop :=
  ∀ before rest runs final, schedule = before ++ rest →
    handlerSystem.run start before = some (runs, final) →
      (∀ run ∈ runs, HonestRun final.world.latched run) ∧ OfferedInOrder runs final.world ∧
        FiltersTo (offeredEdges runs) start.memory final.memory

end Records

def other : Channel → Channel
  | .rising => .falling
  | .falling => .rising

section Windows

/-- The register accesses of a handler run, counted from 0: both status reads,
the capture register, then the acknowledge, which reads both control registers
and writes both. In the run that ends the capture the two read-modify-writes of
`stop_timer` come before the acknowledge. -/
def statusPosition : Channel → Nat
  | .rising => 0
  | .falling => 1

def lastWrite : Channel → Nat
  | .rising => 5
  | .falling => 6

def stopWrite : Channel → Nat
  | .rising => 4
  | .falling => 6

def lastWriteStopping : Channel → Nat
  | .rising => 9
  | .falling => 10

def ArrivesWithin (arrivals : List (List TimerEdge)) (channel : Channel) (first last : Nat) :
    Prop :=
  ∃ position, first ≤ position ∧ position ≤ last ∧
    ∃ edge ∈ arrivals.getD position [], edge.channel = channel

/-- The run finds the flag of the served channel up and that of the other down,
and no edge is latched on a channel between its status read and its last write. -/
structure Serves (state : HandlerState) (arrivals : List (List TimerEdge)) (served : Channel) :
    Prop where
  flagged : state.world.timer.pending served = true ∨
    ArrivesWithin arrivals served 0 (statusPosition served)
  otherClear : state.world.timer.pending (other served) = false
  otherQuiet : ¬ArrivesWithin arrivals (other served) 0 (lastWrite (other served))
  stopping : finishes state.memory (edgeTypeOf served) →
    ¬ArrivesWithin arrivals (other served) 0 (lastWriteStopping (other served)) ∧
      ¬ArrivesWithin arrivals served (stopWrite served + 1) (lastWriteStopping served)

def Unhurried (state : HandlerState) (arrivals : List (List TimerEdge)) : Prop :=
  ∃ served, Serves state arrivals served

theorem quiet_at {arrivals : List (List TimerEdge)} {channel : Channel} {first last : Nat}
    (quiet : ¬ArrivesWithin arrivals channel first last) {position : Nat}
    (lower : first ≤ position) (upper : position ≤ last) :
    ∀ edge ∈ arrivals.getD position [], edge.channel ≠ channel := by
  intro edge member same
  exact quiet ⟨position, lower, upper, edge, member, same⟩

theorem eq_of_ne_other {channel served : Channel} (apart : channel ≠ other served) :
    channel = served := by
  cases channel <;> cases served <;> first | rfl | exact absurd rfl apart

end Windows

section Flags

/-- `up` says for each channel which edge its flag stands for, if it is up. -/
structure Shows (world : TimerWorld) (up : Channel → Option Nat) (latched : Nat) : Prop where
  flag : ∀ channel, world.timer.pending channel = (up channel).isSome
  held : ∀ channel edge, up channel = some edge → world.holds channel = some edge ∧
    world.latched[edge]? = some ⟨channel, world.timer.capture channel⟩
  count : world.latched.length = latched

/-- The observed timer after `position` register accesses of a run. -/
structure At (arrivals : List (List TimerEdge)) (world : TimerWorld) (position : Nat)
    (up : Channel → Option Nat) (latched : Nat) (log : List TimerTrace) : Prop where
  shown : Shows world up latched
  upcoming : world.upcoming = arrivals.drop position
  log : world.log = log

variable {arrivals : List (List TimerEdge)} {world : TimerWorld} {position latched : Nat}
  {up : Channel → Option Nat} {log : List TimerTrace}

theorem latch_of_pending {edge : TimerEdge}
    (pending : world.timer.pending edge.channel = true) : world.latch edge = world :=
  if_pos pending

theorem foldl_latch_pending (edges : List TimerEdge)
    (dropped : ∀ edge ∈ edges, world.timer.pending edge.channel = true) :
    edges.foldl TimerWorld.latch world = world := by
  induction edges with
  | nil => rfl
  | cons edge rest ih =>
      rw [List.foldl_cons, latch_of_pending (dropped edge List.mem_cons_self)]
      exact ih fun later member => dropped later (List.mem_cons_of_mem _ member)

theorem pending_world_latch {edge : TimerEdge} {channel : Channel}
    (pending : channel = edge.channel ∨ world.timer.pending channel = true) :
    (world.latch edge).timer.pending channel = true := by
  by_cases already : world.timer.pending edge.channel = true
  · rw [latch_of_pending already]
    rcases pending with same | pending
    · rw [same]
      exact already
    · exact pending
  · have latches : (world.latch edge).timer = world.timer.latch edge := by
      rw [TimerWorld.latch, if_neg already]
    rw [latches]
    by_cases same : channel = edge.channel
    · rw [same]
      exact pending_latch world.timer edge
    · rw [pending_latch_other world.timer edge same]
      exact pending.resolve_left same

/-- Of the edges on one channel that find its flag down, the first is latched
and the others are dropped. -/
theorem foldl_latch_first (edges : List TimerEdge) (channel : Channel)
    (arrives : ∃ edge ∈ edges, edge.channel = channel)
    (others : ∀ edge ∈ edges, edge.channel = channel ∨ world.timer.pending edge.channel = true) :
    ∃ first : TimerEdge, first.channel = channel ∧
      edges.foldl TimerWorld.latch world = world.latch first := by
  induction edges with
  | nil =>
      obtain ⟨edge, member, _⟩ := arrives
      exact absurd member List.not_mem_nil
  | cons edge rest ih =>
      rw [List.foldl_cons]
      by_cases here : edge.channel = channel
      · have dropped : ∀ later ∈ rest, (world.latch edge).timer.pending later.channel = true := by
          intro later member
          apply pending_world_latch
          rw [here]
          exact others later (List.mem_cons_of_mem _ member)
        exact ⟨edge, here, foldl_latch_pending rest dropped⟩
      · have pending := (others edge List.mem_cons_self).resolve_left here
        rw [latch_of_pending pending]
        apply ih
        · obtain ⟨found, member, same⟩ := arrives
          rcases List.mem_cons.mp member with first | later
          · exact absurd (first ▸ same) here
          · exact ⟨found, later, same⟩
        · exact fun later member => others later (List.mem_cons_of_mem _ member)

theorem shows_latch (shown : Shows world up latched) {edge : TimerEdge}
    (clear : up edge.channel = none) :
    Shows (world.latch edge) (Function.update up edge.channel (some latched)) (latched + 1) := by
  have unflagged : ¬world.timer.pending edge.channel = true := by
    rw [shown.flag, clear]
    decide
  have latches : world.latch edge = { world with
      timer := world.timer.latch edge
      latched := world.latched ++ [edge]
      holds := Function.update world.holds edge.channel (some world.latched.length) } :=
    if_neg unflagged
  rw [latches]
  constructor
  · intro channel
    by_cases same : channel = edge.channel
    · rw [same, Function.update_self]
      exact pending_latch world.timer edge
    · rw [Function.update_of_ne same]
      exact (pending_latch_other world.timer edge same).trans (shown.flag channel)
  · intro channel number holds
    change Function.update world.holds edge.channel (some world.latched.length) channel =
        some number ∧ (world.latched ++ [edge])[number]? =
          some ⟨channel, Function.update world.timer.capture edge.channel edge.stamp channel⟩
    by_cases same : channel = edge.channel
    · rw [same, Function.update_self, ← shown.count] at holds
      rw [same, Function.update_self, Function.update_self, ← Option.some.inj holds]
      exact ⟨rfl, List.getElem?_concat_length⟩
    · rw [Function.update_of_ne same] at holds
      rw [Function.update_of_ne same, Function.update_of_ne same]
      obtain ⟨held, stamped⟩ := shown.held channel number holds
      obtain ⟨inside, _⟩ := List.getElem?_eq_some_iff.mp stamped
      exact ⟨held, (List.getElem?_append_left inside).trans stamped⟩
  · change (world.latched ++ [edge]).length = latched + 1
    rw [List.length_append, shown.count, List.length_singleton]

theorem latch_frame (world : TimerWorld) (edge : TimerEdge) :
    (world.latch edge).upcoming = world.upcoming ∧ (world.latch edge).log = world.log := by
  unfold TimerWorld.latch
  split
  · exact ⟨rfl, rfl⟩
  · exact ⟨rfl, rfl⟩

theorem latched_latch (world : TimerWorld) (edge : TimerEdge) :
    world.latched <+: (world.latch edge).latched := by
  unfold TimerWorld.latch
  split
  · exact List.prefix_rfl
  · exact List.prefix_append _ _

theorem latched_arrive (world : TimerWorld) : world.latched <+: world.arrive.latched := by
  have folded : ∀ (edges : List TimerEdge) (begun : TimerWorld),
      begun.latched <+: (edges.foldl TimerWorld.latch begun).latched := by
    intro edges
    induction edges with
    | nil => exact fun _ => List.prefix_rfl
    | cons edge rest ih => exact fun begun => (latched_latch begun edge).trans (ih _)
  exact folded _ { world with upcoming := world.upcoming.tail }

theorem arrivals_head (here : At arrivals world position up latched log) :
    world.upcoming.headD [] = arrivals.getD position [] ∧
      world.upcoming.tail = arrivals.drop (position + 1) := by
  rw [here.upcoming]
  constructor
  · rw [List.headD_eq_head?_getD, List.head?_drop, List.getD_eq_getElem?_getD]
  · rw [List.tail_drop]

/-- Edges on channels whose flag is up do nothing. -/
theorem at_arrive (here : At arrivals world position up latched log)
    (dropped : ∀ edge ∈ arrivals.getD position [], (up edge.channel).isSome = true) :
    At arrivals world.arrive (position + 1) up latched log := by
  obtain ⟨head, tail⟩ := arrivals_head here
  have still : world.arrive = { world with upcoming := world.upcoming.tail } := by
    unfold TimerWorld.arrive
    rw [head]
    apply foldl_latch_pending
    intro edge member
    exact (here.shown.flag edge.channel).trans (dropped edge member)
  rw [still]
  exact ⟨⟨here.shown.flag, here.shown.held, here.shown.count⟩, tail, here.log⟩

/-- The first edge on a channel whose flag is down is latched. -/
theorem at_arrive_latch (here : At arrivals world position up latched log) {channel : Channel}
    (clear : up channel = none)
    (arrives : ∃ edge ∈ arrivals.getD position [], edge.channel = channel)
    (others : ∀ edge ∈ arrivals.getD position [],
      edge.channel = channel ∨ (up edge.channel).isSome = true) :
    At arrivals world.arrive (position + 1) (Function.update up channel (some latched))
      (latched + 1) log := by
  obtain ⟨head, tail⟩ := arrivals_head here
  let waiting : TimerWorld := { world with upcoming := world.upcoming.tail }
  have found : ∃ first : TimerEdge, first.channel = channel ∧
      (arrivals.getD position []).foldl TimerWorld.latch waiting = waiting.latch first := by
    apply foldl_latch_first _ _ arrives
    intro edge member
    exact (others edge member).imp id fun isUp => (here.shown.flag edge.channel).trans isUp
  obtain ⟨first, same, latches⟩ := found
  have arrived : world.arrive = waiting.latch first := by
    unfold TimerWorld.arrive
    rw [head]
    exact latches
  rw [arrived, ← same]
  have shown : Shows waiting up latched := ⟨here.shown.flag, here.shown.held, here.shown.count⟩
  obtain ⟨upcoming, logs⟩ := latch_frame waiting first
  exact ⟨shows_latch shown (same ▸ clear), upcoming.trans tail, logs.trans here.log⟩

theorem at_readControl (here : At arrivals world position up latched log) (channel : Channel) :
    At arrivals (world.readControl channel).2 position up latched
      (log ++ [.status channel (up channel).isSome]) := by
  refine ⟨⟨here.shown.flag, here.shown.held, here.shown.count⟩, here.upcoming, ?_⟩
  show world.log ++ [.status channel (world.timer.pending channel)] = _
  rw [here.log, here.shown.flag]

theorem at_readCapture (here : At arrivals world position up latched log) {channel : Channel}
    {edge : Nat} (flagged : up channel = some edge) :
    At arrivals (world.readCapture channel).2 position up latched
      (log ++ [.capture channel (some edge)]) := by
  refine ⟨⟨here.shown.flag, here.shown.held, here.shown.count⟩, here.upcoming, ?_⟩
  show world.log ++ [.capture channel (world.holds channel)] = _
  rw [here.log, (here.shown.held channel edge flagged).1]

/-- What a write records that takes a flag down. -/
def clearedEntry (channel : Channel) : Option Nat → List TimerTrace
  | some edge => [.cleared channel (some edge)]
  | none => []

theorem writeControl_frame (world : TimerWorld) (channel : Channel) (value : U32) :
    (world.writeControl channel value).latched = world.latched ∧
      (world.writeControl channel value).holds = world.holds ∧
        (world.writeControl channel value).upcoming = world.upcoming ∧
          (world.writeControl channel value).timer = world.timer.writeControl channel value := by
  unfold TimerWorld.writeControl
  dsimp only
  split
  · exact ⟨rfl, rfl, rfl, rfl⟩
  · exact ⟨rfl, rfl, rfl, rfl⟩

/-- A write either takes the flag down or finds it down, if the written bit is
the flag as it is or 1. -/
theorem at_writeControl (here : At arrivals world position up latched log) (channel : Channel)
    (value : U32) (written : (up channel).isSome = true → isSet value tcsr0T0int = true) :
    At arrivals (world.writeControl channel value) position (Function.update up channel none)
      latched (log ++ clearedEntry channel (up channel)) := by
  obtain ⟨count, holds, upcoming, timer⟩ := writeControl_frame world channel value
  refine ⟨⟨?_, ?_, (congrArg List.length count).trans here.shown.count⟩,
    upcoming.trans here.upcoming, ?_⟩
  · intro asked
    rw [timer]
    by_cases same : asked = channel
    · rw [same, Function.update_self, pending_writeControl, here.shown.flag]
      cases isUp : (up channel).isSome with
      | true => rw [written isUp]; rfl
      | false => rfl
    · rw [Function.update_of_ne same, pending_writeControl_other _ _ same, here.shown.flag]
  · intro asked edge isUp
    rw [holds, count, timer]
    by_cases same : asked = channel
    · rw [same, Function.update_self] at isUp
      exact absurd isUp (by simp)
    · rw [Function.update_of_ne same] at isUp
      exact here.shown.held asked edge isUp
  · unfold TimerWorld.writeControl
    rw [here.shown.flag]
    cases isUp : up channel with
    | none =>
        rw [clearedEntry, List.append_nil]
        exact here.log
    | some edge =>
        have taken : isSet value tcsr0T0int = true := written (by rw [isUp]; rfl)
        rw [taken]
        show world.log ++ [.cleared channel (world.holds channel)] = _
        rw [here.log, (here.shown.held channel edge isUp).1]
        rfl

/-- No register access takes an edge out of the list of the latched ones. -/
theorem latched_respond (call : TimerCall) (world : TimerWorld) :
    world.latched <+: (timerDevice.respond call world).2.latched := by
  have grown := latched_arrive world
  cases call with
  | ioread32 reg => cases reg <;> exact grown
  | iowrite32 value reg =>
      cases reg with
      | tcsr0 => exact (writeControl_frame world.arrive .rising value).1 ▸ grown
      | tcsr1 => exact (writeControl_frame world.arrive .falling value).1 ▸ grown
      | tlr0 => exact grown
      | tlr1 => exact grown

theorem latched_exec {Result : Type} (program : PulsecapProgram Result) (state : HandlerState) :
    state.world.latched <+: (program.exec timerDevice state).2.world.latched := by
  apply exec_preserves (fun machine : HandlerState => state.world.latched <+: machine.world.latched)
    (within_unrestricted program)
  · intro call machine _ grown
    exact grown.trans (latched_respond call machine.world)
  · intro change machine _ grown
    exact grown
  · exact List.prefix_rfl

end Flags

section Phases

/-- Only this channel's flag is up, and stands for this edge. -/
def only (channel : Channel) (edge : Nat) : Channel → Option Nat :=
  Function.update (fun _ => none) channel (some edge)

theorem only_self (channel : Channel) (edge : Nat) : only channel edge channel = some edge :=
  Function.update_self _ _ _

theorem update_only_self (channel : Channel) (edge : Nat) :
    Function.update (only channel edge) channel none = fun _ => none := by
  rw [only, Function.update_idem]
  funext asked
  by_cases same : asked = channel
  · rw [same, Function.update_self]
  · rw [Function.update_of_ne same]

theorem update_none (up : Channel → Option Nat) (channel : Channel) (down : up channel = none) :
    Function.update up channel none = up := by
  rw [← down, Function.update_eq_self]

variable {arrivals : List (List TimerEdge)} {world : TimerWorld} {position latched edge : Nat}
  {up : Channel → Option Nat} {log : List TimerTrace} {channel : Channel}

theorem dropped_only {arriving : List TimerEdge}
    (quiet : ∀ edge ∈ arriving, edge.channel ≠ other channel) :
    ∀ arrived ∈ arriving, (only channel edge arrived.channel).isSome = true := by
  intro arrived member
  rw [eq_of_ne_other (quiet arrived member), only_self]
  rfl

theorem dropped_none {arriving : List TimerEdge}
    (quiet : ∀ edge ∈ arriving, edge.channel ≠ other channel)
    (still : ∀ edge ∈ arriving, edge.channel ≠ channel) :
    ∀ arrived ∈ arriving, ((fun _ => none : Channel → Option Nat) arrived.channel).isSome = true :=
  fun arrived member =>
    absurd (eq_of_ne_other (quiet arrived member)) (still arrived member)

/-- A read-modify-write that keeps the interrupt bit as read takes the flag down
if it was up at the read. -/
theorem at_rewritten (here : At arrivals world position up latched log) (channel : Channel)
    (change : U32 → U32)
    (keeps : ∀ value, isSet (change value) tcsr0T0int = isSet value tcsr0T0int)
    (first : ∀ edge ∈ arrivals.getD position [], (up edge.channel).isSome = true)
    (second : ∀ edge ∈ arrivals.getD (position + 1) [], (up edge.channel).isSome = true) :
    At arrivals (rewritten world channel change) (position + 2)
      (Function.update up channel none) latched
        (log ++ .status channel (up channel).isSome :: clearedEntry channel (up channel)) := by
  have arrived := at_arrive here first
  have read := at_arrive (at_readControl arrived channel) second
  have wrote := at_writeControl read channel (change (world.arrive.timer.control channel))
    fun isUp => by
      rw [keeps]
      exact (arrived.shown.flag channel).trans isUp
  rw [List.append_assoc] at wrote
  exact wrote

theorem keeps_clear_ent0 (value : U32) :
    isSet (value &&& ~~~tcsr0Ent0) tcsr0T0int = isSet value tcsr0T0int :=
  isSet_clear_other value 7 8 (by decide)

theorem written_t0int (value : U32) : isSet (value ||| tcsr0T0int) tcsr0T0int = true :=
  isSet_set value 8 (by decide)

/-- Between runs at most the rising flag is up, and stands for the first edge
that was not offered. -/
def Settled (count : Nat) (world : TimerWorld) : Prop :=
  Shows world (fun _ => none) count ∨ Shows world (only .rising count) (count + 1)

/-- The acknowledge takes both flags down; only a rising edge just before its
last write survives it. -/
theorem at_acknowledged {count : Nat} (here : At arrivals world position up count log)
    (first : ∀ edge ∈ arrivals.getD position [], (up edge.channel).isSome = true)
    (second : ∀ edge ∈ arrivals.getD (position + 1) [], (up edge.channel).isSome = true)
    (third : ∀ edge ∈ arrivals.getD (position + 2) [], (up edge.channel).isSome = true)
    (last : ∀ edge ∈ arrivals.getD (position + 3) [],
      edge.channel = .rising ∨ (up .falling).isSome = true) :
    Settled count (acknowledged world) ∧
      (acknowledged world).log =
        log ++ [.status .rising (up .rising).isSome, .status .falling (up .falling).isSome] ++
          clearedEntry .rising (up .rising) ++ clearedEntry .falling (up .falling) := by
  have readRising := at_readControl (at_arrive here first) .rising
  have readFalling := at_readControl (at_arrive readRising second) .falling
  have wroteRising := at_writeControl (at_arrive readFalling third) .rising
    (world.arrive.timer.control .rising ||| tcsr0T0int) fun _ => written_t0int _
  have fallingStays : Function.update up .rising none .falling = up .falling := rfl
  have risingDown : Function.update up .rising none .rising = none := rfl
  have others : ∀ edge ∈ arrivals.getD (position + 3) [], edge.channel = .rising ∨
      (Function.update up .rising none edge.channel).isSome = true := by
    intro edge member
    obtain ⟨channel, stamp⟩ := edge
    cases channel with
    | rising => exact Or.inl rfl
    | falling => exact Or.inr ((last _ member).resolve_left (by simp))
  by_cases arrives : ∃ edge ∈ arrivals.getD (position + 3) [], edge.channel = .rising
  · have latched := at_arrive_latch wroteRising risingDown arrives others
    have wroteFalling := at_writeControl latched .falling
      ((world.arrive.readControl .rising).2.arrive.timer.control .falling ||| tcsr0T0int)
      fun _ => written_t0int _
    have shape : Function.update (Function.update (Function.update up .rising none) .rising
        (some count)) .falling none = only .rising count := by
      funext channel
      cases channel <;> rfl
    have shown := wroteFalling.shown
    have logged : (acknowledged world).log = _ := wroteFalling.log
    rw [shape] at shown
    exact ⟨Or.inr shown, by rw [logged]; simp [List.append_assoc]⟩
  · have dropped : ∀ edge ∈ arrivals.getD (position + 3) [],
        (Function.update up .rising none edge.channel).isSome = true := by
      intro edge member
      exact (others edge member).resolve_left fun rising => arrives ⟨edge, member, rising⟩
    have wroteFalling := at_writeControl (at_arrive wroteRising dropped) .falling
      ((world.arrive.readControl .rising).2.arrive.timer.control .falling ||| tcsr0T0int)
      fun _ => written_t0int _
    have shape : Function.update (Function.update up .rising none) .falling none =
        fun _ => none := by
      funext channel
      cases channel <;> rfl
    have shown := wroteFalling.shown
    have logged : (acknowledged world).log = _ := wroteFalling.log
    rw [shape] at shown
    exact ⟨Or.inl shown, by rw [logged]; simp [List.append_assoc]⟩

end Phases

section Runs

variable {state next : HandlerState} {arrivals : List (List TimerEdge)} {served : Channel}
  {count : Nat}

def statusEntries (served : Channel) : List TimerTrace :=
  [.status .rising (decide (served = .rising)), .status .falling (decide (served = .falling))]

theorem at_opened {up : Channel → Option Nat} {latched : Nat}
    (shown : Shows state.world up latched) :
    At arrivals (opened state.world arrivals) 0 up latched [] :=
  ⟨⟨shown.flag, shown.held, shown.count⟩, rfl, rfl⟩

theorem at_offering_rising (settled : Settled count state.world)
    (serves : Serves state arrivals .rising) :
    servedChannel (opened state.world arrivals) = .rising ∧
      At arrivals (offering (opened state.world arrivals)) 3 (only .rising count) (count + 1)
        (statusEntries .rising) := by
  have quiet := fun position upper => quiet_at serves.otherQuiet (Nat.zero_le position) upper
  have arrived : At arrivals (opened state.world arrivals).arrive 1 (only .rising count)
      (count + 1) [] := by
    rcases settled with shown | shown
    · have arrives : ∃ edge ∈ arrivals.getD 0 [], edge.channel = .rising := by
        rcases serves.flagged with pending | ⟨position, _, upper, found⟩
        · rw [shown.flag] at pending
          exact absurd pending (by decide)
        · rwa [Nat.le_zero.mp upper] at found
      apply at_arrive_latch (at_opened shown) rfl arrives
      intro edge member
      exact Or.inl (eq_of_ne_other (quiet 0 (by decide) edge member))
    · exact at_arrive (at_opened shown) (dropped_only (quiet 0 (by decide)))
  have readRising := at_readControl arrived .rising
  have second := at_arrive readRising (dropped_only (quiet 1 (by decide)))
  have readFalling := at_readControl second .falling
  constructor
  · rw [servedChannel, if_pos]
    rw [arrived.shown.flag, only_self]
    rfl
  · exact at_arrive readFalling (dropped_only (quiet 2 (by decide)))

theorem at_offering_falling (settled : Settled count state.world)
    (serves : Serves state arrivals .falling) :
    servedChannel (opened state.world arrivals) = .falling ∧
      At arrivals (offering (opened state.world arrivals)) 3 (only .falling count) (count + 1)
        (statusEntries .falling) := by
  have quiet := fun position upper => quiet_at serves.otherQuiet (Nat.zero_le position) upper
  have shown : Shows state.world (fun _ => none) count := by
    rcases settled with shown | shown
    · exact shown
    · have clear := serves.otherClear
      rw [other, shown.flag, only_self] at clear
      exact absurd clear (by simp)
  have down : (opened state.world arrivals).arrive.timer.pending .rising = false ∧
      At arrivals (((opened state.world arrivals).arrive.readControl .rising).2.arrive) 2
        (only .falling count) (count + 1) [.status .rising false] := by
    by_cases early : ∃ edge ∈ arrivals.getD 0 [], edge.channel = .falling
    · have arrived := at_arrive_latch (at_opened shown) rfl early fun edge member =>
        Or.inl (eq_of_ne_other (quiet 0 (by decide) edge member))
      have read := at_readControl arrived .rising
      exact ⟨arrived.shown.flag .rising, at_arrive read (dropped_only (quiet 1 (by decide)))⟩
    · have still : ∀ edge ∈ arrivals.getD 0 [], edge.channel ≠ .falling :=
        fun edge member same => early ⟨edge, member, same⟩
      have arrived := at_arrive (at_opened shown) (dropped_none (quiet 0 (by decide)) still)
      have read := at_readControl arrived .rising
      have arrives : ∃ edge ∈ arrivals.getD 1 [], edge.channel = .falling := by
        rcases serves.flagged with pending | ⟨position, _, upper, edge, member, same⟩
        · rw [shown.flag] at pending
          exact absurd pending (by decide)
        · rcases Nat.le_one_iff_eq_zero_or_eq_one.mp upper with zero | one
          · rw [zero] at member
            exact absurd same (still edge member)
          · rw [one] at member
            exact ⟨edge, member, same⟩
      exact ⟨arrived.shown.flag .rising, at_arrive_latch read rfl arrives fun edge member =>
        Or.inl (eq_of_ne_other (quiet 1 (by decide) edge member))⟩
  obtain ⟨clear, second⟩ := down
  have readFalling := at_readControl second .falling
  constructor
  · rw [servedChannel, if_neg]
    rw [clear]
    decide
  · exact at_arrive readFalling (dropped_only (quiet 2 (by decide)))

theorem at_offering (settled : Settled count state.world) (serves : Serves state arrivals served) :
    servedChannel (opened state.world arrivals) = served ∧
      At arrivals (offering (opened state.world arrivals)) 3 (only served count) (count + 1)
        (statusEntries served) := by
  cases served with
  | rising => exact at_offering_rising settled serves
  | falling => exact at_offering_falling settled serves

/-- The record of a run that served this channel without stopping the timers. -/
def servedLog (served : Channel) (edge : Nat) : List TimerTrace :=
  statusEntries served ++ [.capture served (some edge)] ++ statusEntries served ++
    [.cleared served (some edge)]

/-- The record of the run that also stopped the timers: the flag goes down with
the first write to its register. -/
def stoppingLog (served : Channel) (edge : Nat) : List TimerTrace :=
  statusEntries served ++ [.capture served (some edge)] ++
    .status .rising (decide (served = .rising)) ::
      clearedEntry .rising (only served edge .rising) ++
    .status .falling (decide (served = .falling)) ::
      clearedEntry .falling (only served edge .falling) ++
    [.status .rising false, .status .falling false]

/-- The record of a run that served this channel: it saw the flag, read this edge
and cleared no other flag. -/
structure RecordOf (served : Channel) (number : Nat) (log : List TimerTrace) : Prop where
  flagged : statusRead served log = some true
  read : .capture served (some number) ∈ log
  cleared : ∀ channel held, .cleared channel held ∈ log → channel = served ∧ held = some number

theorem record_servedLog (served : Channel) (number : Nat) :
    RecordOf served number (servedLog served number) := by
  constructor
  · cases served <;> rfl
  · exact List.mem_append_left _ (List.mem_append_left _ (List.mem_append_right _
      (List.mem_singleton_self _)))
  · intro channel held member
    cases served <;> simp_all [servedLog, statusEntries]

theorem record_stoppingLog (served : Channel) (number : Nat) :
    RecordOf served number (stoppingLog served number) := by
  constructor
  · cases served <;> rfl
  · simp [stoppingLog]
  · intro channel held member
    cases served <;> simp_all [stoppingLog, statusEntries, clearedEntry, only]

/-- A run whose record is of the edge that it handed to the filter is honest. -/
theorem honest_of_record {latched : List TimerEdge} {run : HandlerRun} {edge : TimerEdge}
    {number : Nat} (known : latched[number]? = some edge)
    (record : RecordOf edge.channel number run.log) (offered : run.offered = [pulseOf edge]) :
    HonestRun latched run := by
  constructor
  · intro channel held member
    obtain ⟨same, number⟩ := record.cleared channel held member
    exact ⟨edge, _, number, same.symm, known, record.read,
      offered ▸ List.mem_singleton_self _⟩
  · intro pulse member
    rw [offered] at member
    rw [List.mem_singleton.mp member]
    exact ⟨edge.channel, rfl, record.flagged⟩

theorem known_later {earlier later : List TimerEdge} (grown : earlier <+: later) {number : Nat}
    {edge : TimerEdge} (known : earlier[number]? = some edge) : later[number]? = some edge := by
  obtain ⟨inside, same⟩ := List.getElem?_eq_some_iff.mp known
  exact List.getElem?_eq_some_iff.mpr
    ⟨inside.trans_le grown.length_le, (grown.getElem inside).symm.trans same⟩

/-- What is said of latched edges stays true when more edges are latched. -/
theorem honest_later {earlier later : List TimerEdge} (grown : earlier <+: later)
    {run : HandlerRun} (honest : HonestRun earlier run) : HonestRun later run := by
  constructor
  · intro channel held member
    obtain ⟨edge, number, isHeld, same, offers⟩ := honest.cleared channel held member
    exact ⟨edge, number, isHeld, same, known_later grown offers.latched, offers.read,
      offers.offered⟩
  · exact honest.flagged

/-- The timer at the end of a run: what its record is and what is left. -/
structure RunEnds (count : Nat) (log : List TimerTrace) (world : TimerWorld) : Prop where
  settled : Settled (count + 1) world
  log : world.log = log

theorem ends_acknowledged (serves : Serves state arrivals served) {world : TimerWorld}
    (here : At arrivals world 3 (only served count) (count + 1)
      (statusEntries served ++ [.capture served (some count)])) :
    RunEnds count (servedLog served count) (acknowledged world) := by
  have quiet := fun position upper => quiet_at serves.otherQuiet (Nat.zero_le position) upper
  have last : ∀ edge ∈ arrivals.getD 6 [],
      edge.channel = .rising ∨ (only served count .falling).isSome = true := by
    cases served with
    | rising => exact fun edge member => Or.inl (eq_of_ne_other (quiet 6 (by decide) edge member))
    | falling => exact fun _ _ => Or.inr rfl
  have early : ∀ position ≤ 5, position ≤ lastWrite (other served) := by
    intro position upper
    cases served with
    | rising => exact upper.trans (by decide)
    | falling => exact upper
  have ended := at_acknowledged here (dropped_only (quiet 3 (early 3 (by decide))))
    (dropped_only (quiet 4 (early 4 (by decide)))) (dropped_only (quiet 5 (early 5 (by decide))))
    last
  refine ⟨ended.1, ended.2.trans ?_⟩
  cases served <;> rfl

theorem ends_stopping_rising (serves : Serves state arrivals .rising)
    (finished : finishes state.memory (edgeTypeOf .rising)) {world : TimerWorld}
    (here : At arrivals world 3 (only .rising count) (count + 1)
      (statusEntries .rising ++ [.capture .rising (some count)])) :
    RunEnds count (stoppingLog .rising count) (acknowledged (stopped world)) := by
  obtain ⟨otherQuiet, servedQuiet⟩ := serves.stopping finished
  have quiet := fun position upper => quiet_at otherQuiet (Nat.zero_le position) upper
  have still := fun position lower upper =>
    dropped_none (quiet position (Nat.le_succ_of_le upper))
      (@quiet_at _ _ _ _ servedQuiet position lower upper)
  have first := at_rewritten here .rising _ keeps_clear_ent0
    (dropped_only (quiet 3 (by decide))) (dropped_only (quiet 4 (by decide)))
  rw [update_only_self] at first
  have second := at_rewritten first .falling _ keeps_clear_ent0
    (still 5 (by decide) (by decide)) (still 6 (by decide) (by decide))
  rw [update_none _ .falling rfl] at second
  have ended := at_acknowledged second (still 7 (by decide) (by decide))
    (still 8 (by decide) (by decide)) (still 9 (by decide) (by decide))
    fun edge member => Or.inl (eq_of_ne_other (quiet 10 (by decide) edge member))
  exact ⟨ended.1, ended.2⟩

theorem ends_stopping_falling (serves : Serves state arrivals .falling)
    (finished : finishes state.memory (edgeTypeOf .falling)) {world : TimerWorld}
    (here : At arrivals world 3 (only .falling count) (count + 1)
      (statusEntries .falling ++ [.capture .falling (some count)])) :
    RunEnds count (stoppingLog .falling count) (acknowledged (stopped world)) := by
  obtain ⟨otherQuiet, servedQuiet⟩ := serves.stopping finished
  have quiet := fun position upper => quiet_at otherQuiet (Nat.zero_le position) upper
  have still := fun position lower upper =>
    dropped_none (quiet position upper)
      (@quiet_at _ _ _ _ servedQuiet position lower (Nat.le_succ_of_le upper))
  have first := at_rewritten here .rising _ keeps_clear_ent0
    (dropped_only (quiet 3 (by decide))) (dropped_only (quiet 4 (by decide)))
  rw [update_none _ .rising rfl] at first
  have second := at_rewritten first .falling _ keeps_clear_ent0
    (dropped_only (quiet 5 (by decide))) (dropped_only (quiet 6 (by decide)))
  rw [update_only_self] at second
  have lastQuiet := @quiet_at _ _ _ _ servedQuiet 10 (by decide) (by decide)
  have ended := at_acknowledged second (still 7 (by decide) (by decide))
    (still 8 (by decide) (by decide)) (still 9 (by decide) (by decide))
    fun edge member => Or.inl (@eq_of_ne_other _ .rising (lastQuiet edge member))
  exact ⟨ended.1, ended.2⟩

theorem handlerStep_eq_some {run : HandlerRun} :
    handlerStep state arrivals = some (run, next) ↔ captureRunning state.memory.flags = true ∧
      ∃ code, timerIrqHandler.exec timerDevice ⟨state.memory, opened state.world arrivals⟩ =
        (.returned code, next) ∧
          run = ⟨next.world.log, filterCalls ⟨state.memory, opened state.world arrivals⟩⟩ := by
  unfold handlerStep
  by_cases running : captureRunning state.memory.flags = true
  · rw [if_pos running]
    dsimp only
    rcases timerIrqHandler.exec timerDevice ⟨state.memory, opened state.world arrivals⟩ with
      ⟨outcome, after⟩
    cases outcome with
    | returned code =>
        simp only [Option.some.injEq, Prod.mk.injEq]
        constructor
        · intro same
          exact ⟨running, code, ⟨rfl, same.2⟩, by rw [← same.1, same.2]⟩
        · intro known
          obtain ⟨_, _, ⟨_, sameNext⟩, sameRun⟩ := known
          exact ⟨by rw [sameRun, sameNext], sameNext⟩
    | undefined => simp
    | unfinished => simp
  · rw [if_neg running]
    simp [running]

theorem latched_after_offer {code : Int} (running : captureRunning state.memory.flags = true)
    (ran : timerIrqHandler.exec timerDevice ⟨state.memory, opened state.world arrivals⟩ =
      (.returned code, next)) :
    (offering (opened state.world arrivals)).latched <+: next.world.latched := by
  have grown := latched_exec (Program.bind (storeEdge (offeredEdge (opened state.world arrivals)))
    fun _ => Program.bind clearInterruptFlags fun _ => .done irqHandled) ⟨state.memory,
      ((offering (opened state.world arrivals)).readCapture
        (servedChannel (opened state.world arrivals))).2⟩
  rw [← exec_handler_offers _ running, ran] at grown
  exact grown

theorem latched_handlerStep {run : HandlerRun}
    (stepped : handlerStep state arrivals = some (run, next)) :
    state.world.latched <+: next.world.latched := by
  obtain ⟨_, code, ran, _⟩ := handlerStep_eq_some.mp stepped
  have grown := latched_exec timerIrqHandler ⟨state.memory, opened state.world arrivals⟩
  rw [ran] at grown
  exact grown

/-- A run that served the first edge not offered yet. -/
structure ServedRun (count : Nat) (state : HandlerState) (run : HandlerRun)
    (next : HandlerState) (edge : TimerEdge) : Prop where
  known : next.world.latched[count]? = some edge
  offered : run.offered = [pulseOf edge]
  honest : HonestRun next.world.latched run
  settled : Settled (count + 1) next.world
  filtered : FiltersTo run.offered state.memory next.memory

/-- A run in the condition offers the first edge that was not offered yet. -/
theorem handlerStep_serves {run : HandlerRun} (settled : Settled count state.world)
    (unhurried : Unhurried state arrivals)
    (stepped : handlerStep state arrivals = some (run, next)) :
    ∃ edge, ServedRun count state run next edge := by
  obtain ⟨served, serves⟩ := unhurried
  obtain ⟨running, code, ran, same⟩ := handlerStep_eq_some.mp stepped
  obtain ⟨goesOn, stops⟩ := timerIrq_effect running ran
  obtain ⟨channel, here⟩ := at_offering settled serves
  have offered := at_readCapture here (only_self served count)
  rw [channel] at goesOn stops
  obtain ⟨log, ended, record⟩ : ∃ log, RunEnds count log next.world ∧
      RecordOf served count log := by
    by_cases finished : finishes state.memory (edgeTypeOf served)
    · rw [(stops finished).2.2]
      cases served with
      | rising => exact ⟨_, ends_stopping_rising serves finished offered, record_stoppingLog _ _⟩
      | falling => exact ⟨_, ends_stopping_falling serves finished offered, record_stoppingLog _ _⟩
    · rw [(goesOn finished).2]
      exact ⟨_, ends_acknowledged serves offered, record_servedLog _ _⟩
  -- The capture register at its read holds the stamp of the edge that the flag stands for.
  have known := known_later (latched_after_offer running ran)
    (here.shown.held served count (only_self served count)).2
  have handed : run.offered = [pulseOf ⟨served,
      (offering (opened state.world arrivals)).timer.capture served⟩] := by
    rw [same, filterCalls_running running, offeredEdge, channel]
    rfl
  have recorded : RecordOf served count run.log := by
    rw [same, ended.log]
    exact record
  have filtered : FiltersTo run.offered state.memory next.memory := by
    rw [same]
    exact handler_filters running ran
  exact ⟨_, known, handed, honest_of_record known recorded handed, ended.settled, filtered⟩

/-- A run of the system in the condition. -/
structure ServedRuns (count : Nat) (state : HandlerState) (runs : List HandlerRun)
    (final : HandlerState) : Prop where
  grown : state.world.latched <+: final.world.latched
  honest : ∀ run ∈ runs, HonestRun final.world.latched run
  offered : offeredEdges runs =
    ((final.world.latched.drop count).take runs.length).map pulseOf
  settled : Settled (count + runs.length) final.world
  filtered : FiltersTo (offeredEdges runs) state.memory final.memory

theorem run_serves {schedule : List (List (List TimerEdge))} {runs : List HandlerRun}
    {final : HandlerState} (settled : Settled count state.world)
    (steps : handlerSystem.EveryStep Unhurried state schedule)
    (ran : handlerSystem.run state schedule = some (runs, final)) :
    ServedRuns count state runs final := by
  induction schedule generalizing state count runs with
  | nil =>
      simp only [Transducer.run, Option.some.injEq, Prod.mk.injEq] at ran
      rw [← ran.1, ← ran.2]
      exact ⟨List.prefix_rfl, fun _ member => absurd member List.not_mem_nil, rfl, settled, rfl⟩
  | cons arrivals rest ih =>
      rcases (Transducer.run_cons _ _ _ _ _).mp ran with
        ⟨run, middle, later, stepped, tail, same⟩
      obtain ⟨unhurried, stepsAfter⟩ := Transducer.everyStep_cons.mp steps
      obtain ⟨edge, served⟩ := handlerStep_serves settled unhurried stepped
      have others := ih served.settled (stepsAfter _ _ stepped) tail
      have known := known_later others.grown served.known
      obtain ⟨inside, there⟩ := List.getElem?_eq_some_iff.mp known
      subst same
      constructor
      · exact (latched_handlerStep stepped).trans others.grown
      · exact List.forall_mem_cons.mpr ⟨honest_later others.grown served.honest, others.honest⟩
      · rw [offeredEdges, List.flatMap_cons, served.offered, List.length_cons,
          List.drop_eq_getElem_cons inside, there, List.take_succ_cons, List.map_cons,
          ← others.offered]
        rfl
      · rw [List.length_cons, Nat.add_comm later.length 1, ← Nat.add_assoc]
        exact others.settled
      · exact filtersTo_append served.filtered others.filtered

/-- A capture that has just started: no flag is up and no edge is latched yet. -/
structure JustStarted (state : HandlerState) : Prop where
  clear : ∀ channel, state.world.timer.pending channel = false
  none : state.world.latched = []

/-- In every run of the handler in which each run finds one flag up and no edge
comes in its windows, no edge is lost, repeated, reordered or made up. -/
theorem edges_offered_of_unhurried {start : HandlerState}
    {schedule : List (List (List TimerEdge))} (started : JustStarted start)
    (unhurried : handlerSystem.EveryStep Unhurried start schedule) :
    LosesNoEdge start schedule := by
  intro before rest runs final same ran
  have settled : Settled 0 start.world :=
    Or.inl ⟨started.clear, fun _ _ impossible => absurd impossible (by simp),
      congrArg List.length started.none⟩
  have unhurriedBefore : handlerSystem.EveryStep Unhurried start before :=
    Transducer.everyStep_front (same ▸ unhurried)
  have served := run_serves settled unhurriedBefore ran
  refine ⟨served.honest, ⟨runs.length, served.offered, ?_⟩, served.filtered⟩
  intro number lower upper
  have settledFinal := served.settled
  rw [Nat.zero_add] at settledFinal
  rcases settledFinal with shown | shown
  · rw [shown.count] at upper
    omega
  · have same : number = runs.length := by
      rw [shown.count] at upper
      omega
    rw [same]
    exact ⟨.rising, by rw [shown.flag, only_self]; rfl, (shown.held _ _ (only_self _ _)).1⟩

section Examples

/-- A probed instance right after `pulsecap_start_capture(2)`. -/
def startedCapture : HandlerState :=
  (pulsecapStartCapture .valid 2 |>.exec timerDevice ⟨.zeroed, .observe .reset []⟩).2

theorem justStarted_startedCapture : JustStarted startedCapture := by
  constructor
  · intro channel
    cases channel <;> decide
  · rfl

/-- One rising edge before the handler looks. -/
theorem single_edge_offered : LosesNoEdge startedCapture [[[⟨.rising, 5⟩]]] := by
  apply edges_offered_of_unhurried justStarted_startedCapture
  intro before arrivals rest state same reached
  cases before with
  | nil =>
      obtain ⟨sameArrivals, _⟩ := List.cons.inj same
      have start := (Transducer.reaches_nil _ _).mp reached
      subst sameArrivals start
      have onlyRising : ∀ first last, ¬ArrivesWithin [[⟨.rising, 5⟩]] .falling first last := by
        intro first last arrives
        obtain ⟨position, _, _, edge, member, channel⟩ := arrives
        cases position with
        | zero =>
            rw [List.mem_singleton.mp member] at channel
            exact absurd channel (by decide)
        | succ position => exact absurd member List.not_mem_nil
      have unstarted : ¬finishes startedCapture.memory (edgeTypeOf .rising) := by
        intro finished
        exact absurd finished.1 (by decide)
      exact ⟨.rising, Or.inr ⟨0, Nat.le_refl 0, Nat.le_refl 0, _, List.mem_singleton_self _, rfl⟩,
        by decide, onlyRising _ _, fun finished => absurd finished unstarted⟩
  | cons first others => exact absurd (congrArg List.length same) (by simp)

/-- Both edges of a pulse before the handler looks: it offers the rising edge
and takes both flags down. -/
theorem short_pulse_loses_edge :
    ¬LosesNoEdge startedCapture [[[⟨.rising, 5⟩, ⟨.falling, 7⟩]]] := by
  intro loses
  have recorded : (handlerSystem.run startedCapture [[[⟨.rising, 5⟩, ⟨.falling, 7⟩]]]).map
      (fun ran => ran.1.map HandlerRun.log) = some [[.status .rising true, .status .falling true,
        .capture .rising (some 0), .status .rising true, .status .falling true,
        .cleared .rising (some 0), .cleared .falling (some 1)]] := by
    decide
  obtain ⟨⟨runs, final⟩, ran, same⟩ := Option.map_eq_some_iff.mp recorded
  obtain ⟨honest, _⟩ := loses _ [] runs final (List.append_nil _).symm ran
  obtain ⟨run, member, logged⟩ := List.mem_map.mp (same ▸ List.mem_singleton_self _)
  obtain ⟨edge, number, held, channel, offers⟩ :=
    (honest run member).cleared .falling (some 1) (by rw [logged]; decide)
  have read := offers.read
  rw [logged, channel, ← held] at read
  exact absurd read (by decide)

end Examples

end Runs

end Ebaz4205.PulsecapEdgeLoss
