import Ebaz4205.PulsecapTimerStop

/-!
# What a cancel does

The guard of `pulsecap_cancel_capture` refuses when no flag at all is set, which
is the case before the first start only. A cancelled capture keeps its own flag,
so it can be cancelled again.
-/

namespace Ebaz4205.PulsecapCancel

open BitMask DriverProgram DriverProgram.Program PartialRuns
open PulsecapCapture PulsecapDriver PulsecapOnTimer PulsecapOperations PulsecapRefinement
open PulsecapTimerStop TimerDevice TimerDevice.AxiTimer

set_option autoImplicit false

/-- The words of the stored edges, at most `count` of them. -/
def storedWords (pcap : PulsecapData) (count : Nat) : List U32 :=
  ((List.finRange pulsecapMaxCount).take (min count pcap.edgePtr.toNat)).map fun slot =>
    (pcap.storedEdges slot).edgeCount

def NoStart (events : List TimedEvent) : Prop :=
  ∀ event ∈ events, ∀ edgeCount, event.op ≠ .startCapture edgeCount

/-- The capture of this instance has been given up, and until the next start a
reader gets the edges that were stored. -/
structure GivenUp (pcap : PulsecapData) (next : TimedState) : Prop where
  idle : next.pcap.state = pulsecapStateIdle
  muted : ∀ channel, isSet (next.timer.control channel) tcsr0Enit0 = false
  reads : ∀ events later, NoStart events → timedSystem.Reaches next events later →
    ∀ (count : U32) arrivals, ∃ last,
      timedStep later ⟨.readEdges count, arrivals⟩ =
        some (⟨some (min count.toNat pcap.edgePtr.toNat : Nat), storedWords pcap count.toNat⟩, last)

/-- A cancel is refused exactly when no capture is enabled, and then changes
nothing; else it gives the capture up. -/
structure CancelLaw (state : TimedState) (arrivals : List (List TimerEdge)) : Prop where
  refused : (∃ next, timedStep state ⟨.cancelCapture, arrivals⟩ = some (⟨some (-eio), []⟩, next)) ↔
    isSet state.pcap.flags pulsecapEnable = false
  unchanged : ∀ next, timedStep state ⟨.cancelCapture, arrivals⟩ =
    some (⟨some (-eio), []⟩, next) → next = state
  accepted : isSet state.pcap.flags pulsecapEnable = true → ∃ next,
    timedStep state ⟨.cancelCapture, arrivals⟩ = some (⟨some 0, []⟩, next) ∧
      GivenUp state.pcap next

/-- Each cancel of the run is lawful, and one that follows another without a
start in between is refused. -/
structure CancelsLawful (events : List TimedEvent) : Prop where
  each : timedSystem.EveryStep
    (fun state event => event.op = .cancelCapture → CancelLaw state event.arrivals) .probed events
  second : ∀ before first middle arrivals rest,
    events = before ++ ⟨.cancelCapture, first⟩ :: middle ++ ⟨.cancelCapture, arrivals⟩ :: rest →
    NoStart middle → ∀ state,
      timedSystem.Reaches .probed (before ++ ⟨.cancelCapture, first⟩ :: middle) state →
      ∃ next, timedStep state ⟨.cancelCapture, arrivals⟩ = some (⟨some (-eio), []⟩, next)

/-- A cancel comes only when the last capture has not been cancelled yet. -/
def NotCancelledYet (state : TimedState) (event : TimedEvent) : Prop :=
  event.op = .cancelCapture → isSet state.pcap.flags pulsecapCancelled = false

section Muted

variable {timer : AxiTimer} {world : TimerWorld} {channel other : Channel}

/-- The channel raises no interrupts. -/
def Muted (timer : AxiTimer) (channel : Channel) : Prop :=
  isSet (timer.control channel) tcsr0Enit0 = false

theorem muted_latch (edge : TimerEdge) (muted : Muted world.timer channel) :
    Muted (world.latch edge).timer channel := by
  unfold TimerWorld.latch
  split
  · exact muted
  · unfold Muted
    rw [tcsr0Enit0, isSet_control_latch _ edge 6 (by decide)]
    exact muted

theorem muted_arrive (muted : Muted world.timer channel) : Muted world.arrive.timer channel := by
  have kept : ∀ (edges : List TimerEdge) (start : TimerWorld), Muted start.timer channel →
      Muted (edges.foldl TimerWorld.latch start).timer channel := by
    intro edges
    induction edges with
    | nil => exact fun start holds => holds
    | cons edge rest ih => exact fun start holds => ih _ (muted_latch edge holds)
  exact kept _ _ muted

/-- A channel stays mute unless its own control register is written otherwise. -/
theorem muted_writeControl {value : U32} (others : other ≠ channel → Muted timer other)
    (own : other = channel → isSet value tcsr0Enit0 = false) :
    Muted (timer.writeControl channel value) other := by
  unfold Muted writeControl
  by_cases same : other = channel
  · simp only [if_pos same, controlWritten]
    rw [tcsr0Ent0, tcsr0Enit0, isSet_assign_other _ 7 6 _ (by decide), tcsr0T0int,
      isSet_assign_other _ 8 6 _ (by decide)]
    exact own same
  · simp only [if_neg same, controlMirrored]
    rw [tcsr0Ent0, tcsr0Enit0, isSet_assign_other _ 7 6 _ (by decide), tcsr0Enall,
      isSet_assign_other _ 10 6 _ (by decide)]
    exact others same

/-- A change of a control register that raises no interrupt enable bit. -/
def KeepsMute (change : U32 → U32) : Prop :=
  ∀ value, isSet value tcsr0Enit0 = false → isSet (change value) tcsr0Enit0 = false

theorem keepsMute_clear_enit0 : KeepsMute fun regval => regval &&& ~~~tcsr0Enit0 :=
  fun value _ => isSet_clear value 6

theorem keepsMute_clear_ent0 : KeepsMute fun regval => regval &&& ~~~tcsr0Ent0 := by
  intro value muted
  rw [tcsr0Ent0, tcsr0Enit0, isSet_clear_other value 7 6 (by decide)]
  exact muted

theorem muted_rewritten {change : U32 → U32} (keeps : KeepsMute change)
    (muted : Muted world.timer other) : Muted (rewritten world channel change).timer other := by
  unfold rewritten
  rw [world_writeControl_timer]
  have read := muted_arrive muted
  apply muted_writeControl
  · intro _
    exact muted_arrive read
  · intro same
    exact keeps _ (same ▸ read)

theorem muted_cleared (world : TimerWorld) (channel : Channel) :
    Muted (rewritten world channel fun regval => regval &&& ~~~tcsr0Enit0).timer channel := by
  unfold rewritten
  rw [world_writeControl_timer]
  exact muted_writeControl (fun apart => absurd rfl apart) fun _ => isSet_clear _ 6

/-- The timer after `disable_interrupts`. -/
def disabled (world : TimerWorld) : TimerWorld :=
  rewritten (rewritten world .rising fun regval => regval &&& ~~~tcsr0Enit0) .falling
    fun regval => regval &&& ~~~tcsr0Enit0

theorem muted_disabled (world : TimerWorld) (channel : Channel) :
    Muted (disabled world).timer channel := by
  cases channel with
  | rising => exact muted_rewritten keepsMute_clear_enit0 (muted_cleared world .rising)
  | falling => exact muted_cleared _ .falling

theorem muted_stopped (muted : Muted world.timer channel) :
    Muted (stopped world).timer channel :=
  muted_rewritten keepsMute_clear_ent0 (muted_rewritten keepsMute_clear_ent0 muted)

end Muted

section Cancels

variable {state : TimedState} {arrivals : List (List TimerEdge)}

theorem timedStep_cancel_blank (blank : state.pcap.flags = 0) :
    timedStep state ⟨.cancelCapture, arrivals⟩ = some (⟨some (-eio), []⟩, state) := by
  have refused : isSet (logicalNot state.pcap.flags) pulsecapEnable = true := by
    rw [blank]
    decide
  have ran : (pulsecapCancelCapture .valid).exec timerDevice
      ⟨state.pcap, .observe state.timer arrivals⟩ =
        (.returned (-eio), ⟨state.pcap, .observe state.timer arrivals⟩) := by
    simp [pulsecapCancelCapture, refused]
  exact timedStep_eq_some.mpr ⟨⟨state.pcap, .observe state.timer arrivals⟩,
    by simp [TimedEvent.execution, PulsecapOp.program, exec_bind, ran], rfl⟩

theorem timedStep_cancel_used (used : state.pcap.flags ≠ 0) :
    timedStep state ⟨.cancelCapture, arrivals⟩ =
      some (⟨some 0, []⟩,
        ⟨state.pcap.cancelled, (stopped (disabled (.observe state.timer arrivals))).timer⟩) := by
  have accepted : ¬isSet (logicalNot state.pcap.flags) pulsecapEnable = true := by
    unfold pulsecapEnable
    rw [isSet_logicalNot_one _ (by decide)]
    simpa using used
  have ran : (pulsecapCancelCapture .valid).exec timerDevice
      ⟨state.pcap, .observe state.timer arrivals⟩ =
        (.returned 0, ⟨state.pcap.cancelled,
          stopped (disabled (.observe state.timer arrivals))⟩) := by
    have body : (pulsecapCancelCapture .valid).exec timerDevice
        ⟨state.pcap, .observe state.timer arrivals⟩ =
          (if isSet (logicalNot state.pcap.flags) pulsecapEnable = true then
            Program.done (-eio)
          else Program.bind disableInterrupts fun _ => Program.bind stopTimer fun _ =>
            Program.bind (modify PulsecapData.cancelled) fun _ => .done 0).exec timerDevice
              ⟨state.pcap, .observe state.timer arrivals⟩ := rfl
    rw [body, if_neg accepted]
    rfl
  exact timedStep_eq_some.mpr ⟨⟨state.pcap.cancelled,
    stopped (disabled (.observe state.timer arrivals))⟩,
    by simp [TimedEvent.execution, PulsecapOp.program, exec_bind, ran], rfl⟩

end Cancels

section Settled

variable {capture : Capture} {state next : TimedState}

/-- No capture is enabled: only a start changes this. -/
def Settled : Capture → Prop
  | .capturing _ _ => False
  | _ => True

theorem advance_settled {event : PulsecapEvent} (settled : Settled capture)
    (noStart : ∀ edgeCount, event.op ≠ .startCapture edgeCount) :
    capture.advance event = capture := by
  obtain ⟨op, readings⟩ := event
  cases capture with
  | capturing target edges => exact settled.elim
  | never =>
      cases op with
      | startCapture edgeCount => exact absurd rfl (noStart edgeCount)
      | _ => rfl
  | cancelled target edges =>
      cases op with
      | startCapture edgeCount => exact absurd rfl (noStart edgeCount)
      | _ => rfl

theorem reaches_settled {events : List TimedEvent} (settled : Settled capture)
    (represents : Represents capture state.pcap) (noStart : NoStart events)
    (reached : timedSystem.Reaches state events next) : Represents capture next.pcap := by
  induction events generalizing state with
  | nil =>
      rw [(Transducer.reaches_nil _ _).mp reached]
      exact represents
  | cons event rest ih =>
      obtain ⟨answer, middle, stepped, later⟩ := (Transducer.reaches_cons _ _ _ _).mp reached
      obtain ⟨readings, _, kept⟩ := timedStep_represents represents stepped
      rw [advance_settled settled (noStart event List.mem_cons_self)] at kept
      exact ih kept (fun other member => noStart other (List.mem_cons_of_mem _ member)) later

/-- What a cancel leaves is settled. -/
theorem settled_cancel (capture : Capture) : Settled capture.cancel := by
  cases capture <;> trivial

end Settled

section Reading

variable {capture : Capture} {pcap : PulsecapData} {edges : List PulseData}

/-- The stored words are those of the edges the slots hold. -/
theorem storedWords_eq (stores : Stores pcap edges) (bounded : edges.length ≤ pulsecapMaxCount)
    (count : Nat) : storedWords pcap count =
      (edges.take (min count pcap.edgePtr.toNat)).map PulseData.edgeCount := by
  rw [storedWords, stores.count]
  apply List.ext_getElem
  · simp only [List.length_map, List.length_take, List.length_finRange]
    omega
  · intro position left right
    simp only [List.length_map, List.length_take, List.length_finRange] at left right
    have inside : position < pulsecapMaxCount := by omega
    have held := stores.slots ⟨position, inside⟩ (by change position < _; omega)
    rw [List.getElem_map, List.getElem_map, List.getElem_take, List.getElem_take,
      List.getElem_finRange]
    have same : edges[position] = pcap.storedEdges ⟨position, inside⟩ :=
      (List.getElem?_eq_some_iff.mp held).2
    rw [same]
    rfl

theorem timedStep_of_yields {op : PulsecapOp} {state : TimedState} {answer : Answer}
    {after : PulsecapData} {arrivals : List (List TimerEdge)}
    (yielded : Yields timerDevice op.program state.pcap answer after) :
    ∃ timer, timedStep state ⟨op, arrivals⟩ = some (answer, ⟨after, timer⟩) := by
  obtain ⟨world, ran⟩ := yielded (.observe state.timer arrivals)
  exact ⟨world.timer, timedStep_eq_some.mpr ⟨⟨after, world⟩, ran, rfl⟩⟩

/-- After a cancel a reader gets the edges stored before it. -/
theorem timedStep_readEdges_cancelled {target : U32} {later : TimedState}
    (represents : Represents (.cancelled target edges) later.pcap)
    (bounded : target.toNat ≤ pulsecapMaxCount)
    (stores : Stores pcap (capturedEdges target edges)) (count : U32)
    (arrivals : List (List TimerEdge)) : ∃ last,
      timedStep later ⟨.readEdges count, arrivals⟩ =
        some (⟨some (min count.toNat pcap.edgePtr.toNat : Nat),
          storedWords pcap count.toNat⟩, last) := by
  have within : min count.toNat pcap.edgePtr.toNat ≤ (capturedEdges target edges).length := by
    rw [stores.count]
    exact Nat.min_le_right _ _
  obtain ⟨sameEdges, length⟩ := take_captured target edges _ within
  have words : (Capture.cancelled target edges).read count.toNat =
      some (storedWords pcap count.toNat) := by
    rw [storedWords_eq stores (capturedEdges_length_le target edges bounded), sameEdges,
      stores.count]
    rfl
  have counted : (storedWords pcap count.toNat).length =
      min count.toNat pcap.edgePtr.toNat := by
    rw [storedWords_eq stores (capturedEdges_length_le target edges bounded), List.length_map,
      sameEdges, length]
  have read : Yields timerDevice (PulsecapOp.readEdges count).program later.pcap
      ⟨some (readOutOf ((Capture.cancelled target edges).read count.toNat)).code,
        (readOutOf ((Capture.cancelled target edges).read count.toNat)).words⟩ later.pcap :=
    yields_bind (yields_readEdges represents count) (yields_done _ _)
  obtain ⟨timer, stepped⟩ := timedStep_of_yields read
  rw [words, readOutOf, counted] at stepped
  exact ⟨_, stepped⟩

end Reading

section Runs

variable {capture : Capture} {state : TimedState} {events : List TimedEvent}

theorem givenUp_cancelled (represents : Represents capture state.pcap)
    (enabled : isSet state.pcap.flags pulsecapEnable = true) (arrivals : List (List TimerEdge)) :
    GivenUp state.pcap
      ⟨state.pcap.cancelled, (stopped (disabled (.observe state.timer arrivals))).timer⟩ := by
  cases represents with
  | never flags _ _ =>
      rw [flags] at enabled
      exact absurd enabled (by decide)
  | cancelled marks _ _ _ =>
      rw [marks.enable] at enabled
      exact absurd enabled (by decide)
  | @capturing target edges _ marks same bounded stores _ =>
      have represented : Represents (.cancelled target edges) state.pcap.cancelled :=
        .cancelled (marks_cancelled state.pcap) same bounded ⟨stores.count, stores.slots⟩
      constructor
      · exact represents_state represented
      · intro channel
        exact muted_stopped (muted_disabled _ channel)
      · intro later last noStart reached count others
        have settled : Settled (.cancelled target edges) := trivial
        have kept := reaches_settled settled represented noStart reached
        exact timedStep_readEdges_cancelled kept bounded stores count others

/-- A refused cancel has this answer and no other state. -/
theorem cancelLaw_of_blank (blank : state.pcap.flags = 0) (arrivals : List (List TimerEdge)) :
    CancelLaw state arrivals := by
  have stepped : timedStep state ⟨.cancelCapture, arrivals⟩ = _ := timedStep_cancel_blank blank
  have off : isSet state.pcap.flags pulsecapEnable = false := by
    rw [blank]
    decide
  constructor
  · exact ⟨fun _ => off, fun _ => ⟨state, stepped⟩⟩
  · intro next same
    rw [stepped, Option.some.injEq, Prod.mk.injEq] at same
    exact same.2.symm
  · intro enabled
    rw [off] at enabled
    exact absurd enabled (by decide)

/-- With any flag set the cancel is accepted. -/
theorem not_refused_of_used (used : state.pcap.flags ≠ 0) {next : TimedState}
    {arrivals : List (List TimerEdge)} :
    timedStep state ⟨.cancelCapture, arrivals⟩ ≠ some (⟨some (-eio), []⟩, next) := by
  intro refused
  rw [timedStep_cancel_used used, Option.some.injEq, Prod.mk.injEq] at refused
  exact absurd refused.1 (by decide)

theorem used_of_isSet {flags mask : Byte} (marked : isSet flags mask = true) : flags ≠ 0 := by
  intro blank
  rw [blank, isSet_zero] at marked
  exact absurd marked (by decide)

theorem cancelLaw_of_enabled (represents : Represents capture state.pcap)
    (enabled : isSet state.pcap.flags pulsecapEnable = true)
    (arrivals : List (List TimerEdge)) : CancelLaw state arrivals := by
  have used := used_of_isSet enabled
  constructor
  · constructor
    · intro ⟨next, refused⟩
      exact absurd refused (not_refused_of_used used)
    · intro off
      rw [enabled] at off
      exact absurd off (by decide)
  · intro next refused
    exact absurd refused (not_refused_of_used used)
  · intro _
    exact ⟨_, timedStep_cancel_used used, givenUp_cancelled represents enabled arrivals⟩

/-- In a state that runs reach, a cancel is lawful unless it is a repeated one. -/
theorem cancelLaw_iff (represents : Represents capture state.pcap)
    (arrivals : List (List TimerEdge)) :
    CancelLaw state arrivals ↔ isSet state.pcap.flags pulsecapCancelled = false := by
  cases represents with
  | never flags target stores =>
      constructor
      · intro _
        rw [flags]
        decide
      · intro _
        exact cancelLaw_of_blank flags arrivals
  | capturing marks same bounded stores ended =>
      constructor
      · intro _
        exact marks.cancel
      · intro _
        exact cancelLaw_of_enabled (.capturing marks same bounded stores ended) marks.enable
          arrivals
  | cancelled marks _ _ _ =>
      constructor
      · intro law
        obtain ⟨next, refused⟩ := law.refused.mpr marks.enable
        exact absurd refused (not_refused_of_used (used_of_isSet marks.cancel))
      · intro notYet
        rw [marks.cancel] at notYet
        exact absurd notYet (by decide)

theorem probed_reaches_represents (reached : timedSystem.Reaches .probed events state) :
    ∃ capture, Represents capture state.pcap := by
  apply Transducer.invariant_of_reaches _ ⟨Capture.never, zeroed_represents⟩ reached
  intro earlier event answer next known stepped
  obtain ⟨capture, represents⟩ := known
  obtain ⟨readings, _, kept⟩ := timedStep_represents represents stepped
  exact ⟨_, kept⟩

/-- Once cancelled, and until the next start, nothing is enabled. -/
theorem settled_after_cancel {first : List (List TimerEdge)} {before middle : List TimedEvent}
    (noStart : NoStart middle)
    (reached : timedSystem.Reaches .probed (before ++ ⟨.cancelCapture, first⟩ :: middle) state) :
    ∃ capture, Settled capture ∧ Represents capture state.pcap := by
  obtain ⟨early, reachedEarly, tail⟩ := (Transducer.reaches_append _ _ _ _).mp reached
  obtain ⟨answer, next, stepped, later⟩ := (Transducer.reaches_cons _ _ _ _).mp tail
  obtain ⟨capture, represents⟩ := probed_reaches_represents reachedEarly
  obtain ⟨readings, _, kept⟩ := timedStep_represents represents stepped
  exact ⟨capture.cancel, settled_cancel capture,
    reaches_settled (settled_cancel capture) kept noStart later⟩

/-- In every run the cancels are lawful exactly when no capture is cancelled twice. -/
theorem cancels_lawful_iff (events : List TimedEvent) :
    CancelsLawful events ↔ timedSystem.EveryStep NotCancelledYet .probed events := by
  constructor
  · intro lawful before event rest state same reached isCancel
    obtain ⟨capture, represents⟩ := probed_reaches_represents reached
    exact (cancelLaw_iff represents _).mp
      (lawful.each before event rest state same reached isCancel)
  · intro notYet
    constructor
    · intro before event rest state same reached isCancel
      obtain ⟨capture, represents⟩ := probed_reaches_represents reached
      exact (cancelLaw_iff represents _).mpr (notYet before event rest state same reached isCancel)
    · intro before first middle arrivals rest same noStart state reached
      obtain ⟨capture, settled, represents⟩ := settled_after_cancel noStart reached
      have fresh := notYet _ ⟨.cancelCapture, arrivals⟩ rest state same reached rfl
      cases represents with
      | never flags _ _ => exact ⟨state, timedStep_cancel_blank flags⟩
      | capturing _ _ _ _ _ => exact settled.elim
      | cancelled marks _ _ _ =>
          rw [marks.cancel] at fresh
          exact absurd fresh (by decide)

/-- One capture, cancelled twice. -/
def cancelledTwice : List TimedEvent :=
  [⟨.startCapture 1, []⟩, ⟨.cancelCapture, []⟩, ⟨.cancelCapture, []⟩]

/-- The second cancel of a capture returns 0. -/
theorem second_cancel_accepted : ¬CancelsLawful cancelledTwice := by
  intro lawful
  have reached : ∃ state, timedSystem.Reaches .probed
      ([⟨.startCapture 1, []⟩] ++ ⟨.cancelCapture, []⟩ :: []) state ∧ state.pcap.flags ≠ 0 :=
    ⟨_, ⟨_, rfl⟩, by decide⟩
  obtain ⟨state, reaches, used⟩ := reached
  obtain ⟨next, refused⟩ := lawful.second [⟨.startCapture 1, []⟩] [] [] [] [] rfl
    (fun _ member => absurd member List.not_mem_nil) state reaches
  exact not_refused_of_used used refused

end Runs

end Ebaz4205.PulsecapCancel
