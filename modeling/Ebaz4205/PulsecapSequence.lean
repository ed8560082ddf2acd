import Ebaz4205.PulsecapBounds

/-!
# What a capture records, and what a reader can learn

A capture below the size of the array records the greedy alternating
subsequence of its interrupts, and nothing a client sees afterwards depends on
what the instance did before the start.
-/

namespace Ebaz4205.PulsecapSequence

open AlternatingSubsequence PartialRuns
open PulsecapCapture PulsecapDriver PulsecapOperations PulsecapRefinement

set_option autoImplicit false

def interrupt (readings : Readings) : PulsecapEvent := ⟨.timerIrq, readings⟩

/-- The state right after an accepted start, from any instance it accepts. -/
theorem represents_started {capture : Capture} {pcap started : PulsecapData} {edgeCount : U32}
    {readings : Readings} (represents : Represents capture pcap)
    (accepted : pulsecapStep pcap ⟨.startCapture edgeCount, readings⟩ =
      some (⟨some 0, []⟩, started)) :
    Represents (.capturing edgeCount []) started := by
  have refines : Refines capture pcap ⟨.startCapture edgeCount, readings⟩ :=
    refines_startCapture represents edgeCount
  obtain ⟨after, stepped, kept⟩ := refines
  rw [accepted, Option.some.injEq, Prod.mk.injEq] at stepped
  obtain ⟨answer, sameState⟩ := stepped
  have code : capture.startCode edgeCount = 0 := by
    simpa [Capture.reply] using (congrArg Answer.value answer).symm
  have stopped : capture.state ≠ pulsecapStateRun := by
    intro running
    rw [Capture.startCode, if_pos running] at code
    exact absurd code (by decide)
  have fits : edgeCount.toNat ≤ pulsecapMaxCount := by
    by_contra tooMany
    rw [Capture.startCode, if_neg stopped, if_neg tooMany] at code
    exact absurd code (by decide)
  rw [sameState]
  simpa only [Capture.advance, start_accepted capture edgeCount stopped fits] using kept

theorem overflows_false {target : U32} (edges : List PulseData)
    (room : target.toNat < pulsecapMaxCount) (event : PulsecapEvent) :
    (Capture.capturing target edges).overflows event = false := by
  obtain ⟨op, readings⟩ := event
  cases op with
  | timerIrq =>
      cases finished : complete target edges with
      | true => simp [Capture.overflows, finished]
      | false =>
          have limit : (accepted edges).length ≤ storeLimit target := by
            have incomplete := finished
            rw [← Bool.not_eq_true, complete_iff] at incomplete
            exact Nat.not_lt.mp incomplete
          have grown := accepted_length_concat_le edges (deliveredEdge readings)
          have big : pulsecapMaxCount = 1024 := rfl
          have bounded : (accepted (edges ++ [deliveredEdge readings])).length ≤
              pulsecapMaxCount := by
            unfold storeLimit at limit
            omega
          simp [Capture.overflows, finished, bounded]
  | _ => rfl

/-- A stream of interrupts is handled up to the first that overflows. -/
theorem interrupts_reach_of_fits {target : U32} (interrupts : List Readings)
    {edges : List PulseData} {pcap : PulsecapData}
    (represents : Represents (.capturing target edges) pcap)
    (fits : ∀ first readings rest, interrupts = first ++ readings :: rest →
      (Capture.capturing target (edges ++ first.map deliveredEdge)).overflows
        ⟨.timerIrq, readings⟩ = false) :
    ∃ after, pulsecapSystem.Reaches pcap (interrupts.map interrupt) after ∧
      Represents (.capturing target (edges ++ interrupts.map deliveredEdge)) after := by
  induction interrupts generalizing edges pcap with
  | nil => exact ⟨pcap, (Transducer.reaches_nil _ _).mpr rfl, by simpa using represents⟩
  | cons readings rest ih =>
      have here := fits [] readings rest rfl
      rw [List.map_nil, List.append_nil] at here
      obtain ⟨next, stepped, kept⟩ := refines_timerIrq represents here
      have later : ∀ first others tail, rest = first ++ others :: tail →
          (Capture.capturing target
            (edges ++ [deliveredEdge readings] ++ first.map deliveredEdge)).overflows
              ⟨.timerIrq, others⟩ = false := by
        intro first others tail same
        have apart := fits (readings :: first) others tail (by rw [same]; rfl)
        simpa using apart
      obtain ⟨after, reached, last⟩ := ih kept later
      refine ⟨after, (Transducer.reaches_cons _ _ _ _).mpr ⟨_, next, stepped, reached⟩, ?_⟩
      simpa using last

/-- Below the size of the array every stream of interrupts is handled. -/
theorem interrupts_reach {target : U32} (room : target.toNat < pulsecapMaxCount)
    (interrupts : List Readings) {edges : List PulseData} {pcap : PulsecapData}
    (represents : Represents (.capturing target edges) pcap) :
    ∃ after, pulsecapSystem.Reaches pcap (interrupts.map interrupt) after ∧
      Represents (.capturing target (edges ++ interrupts.map deliveredEdge)) after :=
  interrupts_reach_of_fits interrupts represents fun _ _ _ _ => overflows_false _ room _

theorem storeLimit_positive {target : U32} (positive : 1 ≤ target.toNat) :
    storeLimit target = target.toNat := max_eq_right positive

theorem capturedEdges_length {target : U32} (edges : List PulseData)
    (positive : 1 ≤ target.toNat) :
    (capturedEdges target edges).length = min target.toNat (accepted edges).length := by
  rw [capturedEdges, List.length_take, storeLimit_positive positive]

/-- Once reading is possible, any count reads the captured edges up to it. -/
theorem read_captured {target : U32} {edges : List PulseData} {capture : Capture} (count : U32)
    (positive : 1 ≤ target.toNat)
    (ended : capture = .cancelled target edges ∨
      (capture = .capturing target edges ∧ complete target edges = true)) :
    readAnswer 1 (capture.read count.toNat) =
      ⟨some (min count.toNat (capturedEdges target edges).length : Nat),
        ((accepted edges).take (min count.toNat (capturedEdges target edges).length)).map
          PulseData.edgeCount⟩ := by
  have words : capture.read count.toNat =
      some (((accepted edges).take (min count.toNat (capturedEdges target edges).length)).map
        PulseData.edgeCount) := by
    rcases ended with cancelled | ⟨capturing, finished⟩
    · subst cancelled
      rfl
    · subst capturing
      have full : (capturedEdges target edges).length = target.toNat := by
        rw [complete_iff, storeLimit_positive positive] at finished
        rw [capturedEdges_length edges positive]
        omega
      simp [Capture.read, Capture.readable, Capture.edges, finished, full]
  have taken := take_captured target edges (min count.toNat (capturedEdges target edges).length)
    (Nat.min_le_right _ _)
  rw [words, readAnswer, List.length_map, taken.2]
  simp

section CapturedSequence

variable (edgeCount : U32) (interrupts : List Readings) (after : PulsecapData)

/-- The words that a reader of `count` edges must get from this instance when
the interrupts delivered the edges `interrupts.map deliveredEdge`. -/
def readsCaptured (pcap : PulsecapData) : Prop :=
  ∀ (count : U32) (readings : Readings),
    pulsecapStep pcap ⟨.readEdges count, readings⟩ =
      some (⟨some (min count.toNat after.edgePtr.toNat : Nat),
        ((accepted (interrupts.map deliveredEdge)).take
          (min count.toNat after.edgePtr.toNat)).map PulseData.edgeCount⟩, pcap)

/-- What holds after these interrupts of a capture of `edgeCount` edges. -/
structure RecordsAlternation : Prop where
  pointer : after.edgePtr.toNat =
    min edgeCount.toNat (accepted (interrupts.map deliveredEdge)).length
  slots : ∀ slot : Fin pulsecapMaxCount, slot.val < after.edgePtr.toNat →
    (accepted (interrupts.map deliveredEdge))[slot.val]? = some (after.storedEdges slot)
  doneRead : after.state = pulsecapStateDone → readsCaptured interrupts after after
  cancelledRead : ∀ readings, ∃ cancelled,
    pulsecapStep after ⟨.cancelCapture, readings⟩ = some (⟨some 0, []⟩, cancelled) ∧
      readsCaptured interrupts after cancelled

end CapturedSequence

theorem recordsAlternation {edgeCount : U32} {interrupts : List Readings} {after : PulsecapData}
    (positive : 1 ≤ edgeCount.toNat)
    (represents : Represents (.capturing edgeCount (interrupts.map deliveredEdge)) after) :
    RecordsAlternation edgeCount interrupts after := by
  have stores : Stores after (capturedEdges edgeCount (interrupts.map deliveredEdge)) := by
    rcases represents with _ | ⟨_, _, _, stores, _⟩ | _
    exact stores
  constructor
  · rw [stores.count, capturedEdges_length _ positive]
  · intro slot below
    rw [stores.count] at below
    have held := stores.slots slot below
    rw [capturedEdges, List.length_take] at below
    rwa [capturedEdges, List.getElem?_take_of_lt (by omega)] at held
  · intro done count readings
    have finished : complete edgeCount (interrupts.map deliveredEdge) = true := by
      rw [represents_state represents] at done
      by_contra incomplete
      simp only [Capture.state, incomplete] at done
      exact absurd done (by decide)
    rw [step_readEdges represents count, stores.count]
    exact congrArg (fun answer => some (answer, after))
      (read_captured count positive (Or.inr ⟨rfl, finished⟩))
  · intro readings
    have refines : Refines _ after ⟨.cancelCapture, readings⟩ := refines_cancelCapture represents
    obtain ⟨cancelled, stepped, kept⟩ := refines
    refine ⟨cancelled, stepped, ?_⟩
    intro count later
    rw [step_readEdges kept count, stores.count]
    exact congrArg (fun answer => some (answer, cancelled))
      (read_captured count positive (Or.inl rfl))

/-- From any reachable state, an accepted capture of `1 ≤ n < PULSECAP_MAX_COUNT`
edges records the alternating subsequence of every interrupt stream. -/
theorem capture_records_alternation {history : List PulsecapEvent} {pcap started : PulsecapData}
    {edgeCount : U32} {startReadings : Readings} (reachable : Reachable history pcap)
    (positive : 1 ≤ edgeCount.toNat) (below : edgeCount.toNat < pulsecapMaxCount)
    (accepted : pulsecapStep pcap ⟨.startCapture edgeCount, startReadings⟩ =
      some (⟨some 0, []⟩, started))
    (interrupts : List Readings) :
    ∃ after, pulsecapSystem.Reaches started (interrupts.map interrupt) after ∧
      RecordsAlternation edgeCount interrupts after := by
  have fresh := represents_started (reachable_represents reachable) accepted
  obtain ⟨after, reached, represents⟩ := interrupts_reach below interrupts fresh
  exact ⟨after, reached, recordsAlternation positive (by simpa using represents)⟩

theorem two_edge_capture_records :
    ∃ after, pulsecapSystem.Reaches (PulsecapData.zeroed.armed 2)
        (([false, true, true, false, true].map PulsecapBounds.levelReadings).map interrupt)
        after ∧
      RecordsAlternation 2
        ([false, true, true, false, true].map PulsecapBounds.levelReadings) after :=
  @capture_records_alternation [] .zeroed (PulsecapData.zeroed.armed 2) 2
    (PulsecapBounds.levelReadings false) ((Transducer.reaches_nil _ _).mpr rfl) (by decide)
    (by decide) rfl ([false, true, true, false, true].map PulsecapBounds.levelReadings)

section Isolation

/-- Without a further start the capture keeps its room. -/
def Capture.roomy : Capture → Prop
  | .capturing target _ => target.toNat < pulsecapMaxCount
  | _ => True

theorem roomy_fits {capture : Capture} (room : Capture.roomy capture) (event : PulsecapEvent) :
    capture.overflows event = false := by
  cases capture with
  | never => rcases event with ⟨_ | _, _⟩ <;> rfl
  | capturing target edges => exact overflows_false edges room event
  | cancelled target edges => rcases event with ⟨_ | _, _⟩ <;> rfl

theorem roomy_advance {capture : Capture} {event : PulsecapEvent}
    (room : Capture.roomy capture)
    (noStart : ∀ edgeCount, event.op ≠ .startCapture edgeCount) :
    Capture.roomy (capture.advance event) := by
  obtain ⟨op, readings⟩ := event
  cases op with
  | startCapture edgeCount => exact absurd rfl (noStart edgeCount)
  | timerIrq => cases capture <;> exact room
  | cancelCapture => cases capture <;> trivial
  | _ => exact room

theorem run_without_start {events : List PulsecapEvent} {capture : Capture} {pcap : PulsecapData}
    (represents : Represents capture pcap) (room : Capture.roomy capture)
    (noStart : ∀ event ∈ events, ∀ edgeCount, event.op ≠ .startCapture edgeCount) :
    ∃ answers final, pulsecapSystem.run pcap events = some (answers, final) := by
  induction events generalizing capture pcap with
  | nil => exact ⟨[], pcap, rfl⟩
  | cons event rest ih =>
      obtain ⟨next, stepped, kept⟩ := refines_of_fits event represents (roomy_fits room event)
      have later := roomy_advance room (noStart event List.mem_cons_self)
      rcases ih kept later (fun other member => noStart other (List.mem_cons_of_mem _ member)) with
        ⟨answers, final, ran⟩
      exact ⟨_, final, (Transducer.run_cons _ _ _ _ _).mpr ⟨_, next, answers, stepped, ran, rfl⟩⟩

/-- Two instances with any past answer alike from the same accepted start on,
until the next start: every returned value and every word read is the same. -/
theorem captures_do_not_leak {leftHistory rightHistory : List PulsecapEvent}
    {left right leftStarted rightStarted : PulsecapData} {edgeCount : U32}
    {leftReadings rightReadings : Readings}
    (leftReachable : Reachable leftHistory left) (rightReachable : Reachable rightHistory right)
    (below : edgeCount.toNat < pulsecapMaxCount)
    (leftAccepted : pulsecapStep left ⟨.startCapture edgeCount, leftReadings⟩ =
      some (⟨some 0, []⟩, leftStarted))
    (rightAccepted : pulsecapStep right ⟨.startCapture edgeCount, rightReadings⟩ =
      some (⟨some 0, []⟩, rightStarted))
    (events : List PulsecapEvent)
    (noStart : ∀ event ∈ events, ∀ later, event.op ≠ .startCapture later) :
    ∃ answers leftFinal rightFinal,
      pulsecapSystem.run leftStarted events = some (answers, leftFinal) ∧
        pulsecapSystem.run rightStarted events = some (answers, rightFinal) := by
  have leftFresh := represents_started (reachable_represents leftReachable) leftAccepted
  have rightFresh := represents_started (reachable_represents rightReachable) rightAccepted
  obtain ⟨answers, leftFinal, leftRan⟩ := run_without_start leftFresh below noStart
  obtain ⟨others, rightFinal, rightRan⟩ := run_without_start rightFresh below noStart
  have alike := captureSimulation.run_outputs_eq events leftFresh rightFresh
  rw [leftRan, rightRan] at alike
  have same : answers = others := by simpa using alike
  exact ⟨answers, leftFinal, rightFinal, leftRan, same ▸ rightRan⟩

/-- A fresh instance, and one that has two edges left of a capture before. -/
theorem two_edge_captures_alike :
    ∃ used started answers leftFinal rightFinal,
      Reachable PulsecapBounds.cancelledEarly used ∧
      (used.storedEdges ⟨1, by decide⟩).edgeType = pulsecapEdgeLow ∧
      pulsecapStep used ⟨.startCapture 2, PulsecapBounds.levelReadings false⟩ =
        some (⟨some 0, []⟩, started) ∧
      pulsecapSystem.run (PulsecapData.zeroed.armed 2)
          [⟨.timerIrq, PulsecapBounds.levelReadings true⟩,
            ⟨.cancelCapture, PulsecapBounds.levelReadings true⟩,
            ⟨.readEdges 7, PulsecapBounds.levelReadings true⟩] = some (answers, leftFinal) ∧
        pulsecapSystem.run started
          [⟨.timerIrq, PulsecapBounds.levelReadings true⟩,
            ⟨.cancelCapture, PulsecapBounds.levelReadings true⟩,
            ⟨.readEdges 7, PulsecapBounds.levelReadings true⟩] = some (answers, rightFinal) := by
  have reached : ∃ used started, Reachable PulsecapBounds.cancelledEarly used ∧
      (used.storedEdges ⟨1, by decide⟩).edgeType = pulsecapEdgeLow ∧
      pulsecapStep used ⟨.startCapture 2, PulsecapBounds.levelReadings false⟩ =
        some (⟨some 0, []⟩, started) := ⟨_, _, ⟨_, rfl⟩, rfl, rfl⟩
  obtain ⟨used, started, reachable, left, accepted⟩ := reached
  obtain ⟨answers, leftFinal, rightFinal, alike⟩ :=
    @captures_do_not_leak [] PulsecapBounds.cancelledEarly .zeroed used
      (PulsecapData.zeroed.armed 2) started 2 (PulsecapBounds.levelReadings false)
      (PulsecapBounds.levelReadings false) ((Transducer.reaches_nil _ _).mpr rfl) reachable
      (by decide) rfl accepted
      [⟨.timerIrq, PulsecapBounds.levelReadings true⟩,
        ⟨.cancelCapture, PulsecapBounds.levelReadings true⟩,
        ⟨.readEdges 7, PulsecapBounds.levelReadings true⟩] (by simp)
  exact ⟨used, started, answers, leftFinal, rightFinal, reachable, left, accepted, alike⟩

end Isolation

end Ebaz4205.PulsecapSequence
