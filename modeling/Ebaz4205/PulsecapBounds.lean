import Ebaz4205.PulsecapRefinement

/-!
# Which runs stay inside the edge array

The handler stores an accepted edge before it compares with the target, and a
start accepts the length of the array itself as a target. Together these write
one element behind the array, in exactly the runs described here.
-/

namespace Ebaz4205.PulsecapBounds

open AlternatingSubsequence BitMask DriverProgram.Program PartialRuns
open PulsecapCapture PulsecapDriver PulsecapOperations PulsecapRefinement

set_option autoImplicit false

/-- Every operation of the run uses only positions inside `stored_edges`. -/
def AccessesInBounds (history : List PulsecapEvent) : Prop :=
  ∀ before event rest pcap, history = before ++ event :: rest → Reachable before pcap →
    ∀ position ∈ event.positions pcap, position < pulsecapMaxCount

/-- At some point of the run, a capture of as many edges as the array holds has
been offered more than that many acceptable edges. -/
def OverfullCapture (history : List PulsecapEvent) : Prop :=
  ∃ before rest target edges, history = before ++ rest ∧
    captureOf before = .capturing target edges ∧ target.toNat = pulsecapMaxCount ∧
      pulsecapMaxCount < (accepted edges).length

theorem positions_inside_iff (event : PulsecapEvent) (pcap : PulsecapData) :
    (∀ position ∈ event.positions pcap, position < pulsecapMaxCount) ↔
      (event.execution pcap).1 ≠ .undefined := by
  rw [PulsecapEvent.execution, ← accesses_inside_iff, PulsecapEvent.positions,
    List.forall_mem_map]

/-- The accesses of one operation leave the array exactly when the abstract
capture overflows. -/
theorem positions_inside_iff_fits {capture : Capture} {pcap : PulsecapData}
    (event : PulsecapEvent) (represents : Represents capture pcap) :
    (∀ position ∈ event.positions pcap, position < pulsecapMaxCount) ↔
      capture.overflows event = false := by
  rw [positions_inside_iff]
  constructor
  · intro defined
    by_contra overflows
    exact defined (timerIrq_overflows represents (by simpa using overflows))
  · intro fits undefined
    obtain ⟨after, stepped, _⟩ := refines_of_fits event represents fits
    unfold pulsecapStep at stepped
    rcases ran : event.execution pcap with ⟨outcome, machine⟩
    rw [ran] at undefined stepped
    rw [show outcome = .undefined from undefined] at stepped
    exact absurd stepped (by simp)

theorem captureOf_append (before : List PulsecapEvent) (event : PulsecapEvent) :
    captureOf (before ++ [event]) = (captureOf before).advance event := by
  simp [captureOf]

/-- An overflow needs the largest target: any smaller one ends the capture
before the array is full. -/
theorem overfull_of_overflows {before : List PulsecapEvent} {pcap : PulsecapData}
    {event : PulsecapEvent} (represents : Represents (captureOf before) pcap)
    (overflows : (captureOf before).overflows event = true) :
    OverfullCapture (before ++ [event]) := by
  obtain ⟨op, readings⟩ := event
  cases op with
  | timerIrq =>
      cases current : captureOf before with
      | capturing target edges =>
          rw [current] at represents overflows
          rcases represents with _ | ⟨marks, same, bounded, stores, ended⟩ | _
          simp only [Capture.overflows, Bool.and_eq_true, Bool.not_eq_true',
            decide_eq_true_eq] at overflows
          have limit : (accepted edges).length ≤ storeLimit target := by
            have incomplete := overflows.1
            rw [← Bool.not_eq_true, complete_iff] at incomplete
            exact Nat.not_lt.mp incomplete
          have grown := accepted_length_concat_le edges (deliveredEdge readings)
          have big : pulsecapMaxCount = 1024 := rfl
          refine ⟨before ++ [⟨.timerIrq, readings⟩], [], target,
            edges ++ [deliveredEdge readings], by simp, ?_, ?_, overflows.2⟩
          · rw [captureOf_append, current]
            rfl
          · unfold storeLimit at limit
            omega
      | never => simp [Capture.overflows, current] at overflows
      | cancelled target edges => simp [Capture.overflows, current] at overflows
  | _ => simp [Capture.overflows] at overflows

/-- No run reaches a state in which the largest capture is overfull. -/
theorem not_reachable_overfull {before : List PulsecapEvent} {pcap : PulsecapData} {target : U32}
    {edges : List PulseData} (current : captureOf before = .capturing target edges)
    (largest : target.toNat = pulsecapMaxCount)
    (overfull : pulsecapMaxCount < (accepted edges).length) : ¬Reachable before pcap := by
  intro reachable
  have represents := reachable_represents reachable
  rw [current] at represents
  rcases represents with _ | ⟨marks, same, bounded, stores, ended⟩ | _
  have finished : complete target edges = true := by
    have big : pulsecapMaxCount = 1024 := rfl
    rw [complete_iff, storeLimit]
    omega
  exact absurd (ended finished) (by omega)

theorem accessesInBounds_of_append {before rest : List PulsecapEvent}
    (inBounds : AccessesInBounds (before ++ rest)) : AccessesInBounds before := by
  intro first event others pcap same reachable
  exact inBounds first event (others ++ rest) pcap (by rw [same]; simp) reachable

/-- The run of an overfull capture comes to a step that leaves the array. -/
theorem overfull_leaves_bounds {history : List PulsecapEvent}
    (overfull : OverfullCapture history) : ¬AccessesInBounds history := by
  intro inBounds
  obtain ⟨before, rest, target, edges, same, current, largest, tooMany⟩ := overfull
  subst same
  have inPrefix := accessesInBounds_of_append inBounds
  rcases pulsecapSystem.reaches_or_stops .zeroed before with
    ⟨pcap, reached⟩ | ⟨first, event, others, pcap, split, reached, stops⟩
  · exact not_reachable_overfull current largest tooMany reached
  · have represents := reachable_represents reached
    have inside := inPrefix first event others pcap split reached
    rw [positions_inside_iff_fits event represents] at inside
    obtain ⟨after, stepped, _⟩ := refines_of_fits event represents inside
    have none : pulsecapStep pcap event = none := stops
    rw [stepped] at none
    exact absurd none (by simp)

/-- A run stays inside `stored_edges` exactly when no capture of
`PULSECAP_MAX_COUNT` edges is offered one edge more than that. -/
theorem stored_edges_in_bounds_iff (history : List PulsecapEvent) :
    AccessesInBounds history ↔ ¬OverfullCapture history := by
  constructor
  · intro inBounds overfull
    exact overfull_leaves_bounds overfull inBounds
  · intro fits before event rest pcap same reachable
    have represents := reachable_represents reachable
    rw [positions_inside_iff_fits event represents]
    by_contra overflows
    rcases overfull_of_overflows represents (by simpa using overflows) with
      ⟨first, others, target, edges, split, found⟩
    refine fits ⟨first, others ++ rest, target, edges, ?_, found⟩
    rw [same, ← List.append_assoc, ← split]
    simp

section Overrun

/-- Register contents that make an interrupt deliver a HIGH or a LOW edge. -/
def levelReadings (high : Bool) : Readings := fun _ reg =>
  match reg, high with
  | .tcsr0, true => tcsr0T0int
  | _, _ => 0

/-- A square wave: `count` interrupts, HIGH first. -/
def squareWave : Nat → List PulsecapEvent
  | 0 => []
  | count + 1 => squareWave count ++ [⟨.timerIrq, levelReadings (count % 2 = 0)⟩]

def fullCapture : List PulsecapEvent := [⟨.startCapture 1024, levelReadings false⟩]

/-- A capture of three edges that is cancelled after two. -/
def cancelledEarly : List PulsecapEvent :=
  [⟨.startCapture 3, levelReadings false⟩, ⟨.timerIrq, levelReadings true⟩,
    ⟨.timerIrq, levelReadings false⟩, ⟨.cancelCapture, levelReadings false⟩]

theorem deliveredEdge_level (high : Bool) :
    deliveredEdge (levelReadings high) =
      ⟨0, if high then pulsecapEdgeHigh else pulsecapEdgeLow⟩ := by
  cases high <;> decide

theorem squareWave_capture (count : Nat) :
    ∃ edges, captureOf (fullCapture ++ squareWave count) = .capturing 1024 edges ∧
      (accepted edges).length = count ∧
      ∀ last, (accepted edges).getLast? = some last →
        last.edgeType = if count % 2 = 1 then pulsecapEdgeHigh else pulsecapEdgeLow := by
  induction count with
  | zero => exact ⟨[], rfl, rfl, by simp [accepted, alternating]⟩
  | succ count ih =>
      obtain ⟨edges, current, length, ends⟩ := ih
      refine ⟨edges ++ [deliveredEdge (levelReadings (count % 2 = 0))], ?_, ?_⟩
      · rw [squareWave, ← List.append_assoc, captureOf_append, current]
        rfl
      · have grown : accepted (edges ++ [deliveredEdge (levelReadings (count % 2 = 0))]) =
            accepted edges ++ [deliveredEdge (levelReadings (count % 2 = 0))] := by
          rw [accepted_concat]
          rcases (accepted edges).eq_nil_or_concat' with empty | ⟨front, last, concat⟩
          · rw [empty] at length ⊢
            subst length
            decide
          · have lastType := ends last (by rw [concat]; simp)
            rw [concat, offer_concat, if_pos]
            rw [differentType_iff, lastType, deliveredEdge_level]
            rcases Nat.mod_two_eq_zero_or_one count with even | odd
            · simp [even, pulsecapEdgeHigh, pulsecapEdgeLow]
            · simp [odd, pulsecapEdgeHigh, pulsecapEdgeLow]
        constructor
        · rw [grown, List.length_append, length, List.length_singleton]
        · intro last isLast
          rw [grown, List.getLast?_concat, Option.some.injEq] at isLast
          rw [← isLast, deliveredEdge_level]
          rcases Nat.mod_two_eq_zero_or_one count with even | odd
          · simp [even, Nat.add_mod]
          · simp [odd, Nat.add_mod]

/-- An accepted capture of 1024 edges and a square wave of 1025: the last store
is at position 1024 of an array of 1024. -/
theorem full_capture_leaves_array : ¬AccessesInBounds (fullCapture ++ squareWave 1025) := by
  obtain ⟨edges, current, length, _⟩ := squareWave_capture 1025
  have tooMany : pulsecapMaxCount < (accepted edges).length := by
    rw [length]
    decide
  exact overfull_leaves_bounds ⟨_, [], 1024, edges, (List.append_nil _).symm, current, rfl, tooMany⟩

end Overrun

end Ebaz4205.PulsecapBounds
