import Ebaz4205.ProgramEffects
import Ebaz4205.PulsecapSequence

/-!
# When a capture is done

The handler stores an accepted edge and only then compares the pointer with the
target. Between the store of the last wanted edge and the next one the capture
still runs, and that next one is stored behind the wanted ones. Here both are
traced through every stream of interrupts.
-/

namespace Ebaz4205.PulsecapCompletion

open AlternatingSubsequence BitMask DriverProgram DriverProgram.Program PartialRuns
open PulsecapBounds PulsecapCapture PulsecapDriver PulsecapOperations PulsecapRefinement
  PulsecapSequence

set_option autoImplicit false

/-- A capture of `edgeCount` edges is done with its last one, at every point of
a stream of interrupts, and no interrupt uses a slot from `edge_target` on. -/
structure CompletesOnTime (edgeCount : U32) (started : PulsecapData)
    (interrupts : List Readings) : Prop where
  done : ∀ first rest state, interrupts = first ++ rest →
    pulsecapSystem.Reaches started (first.map interrupt) state →
    (state.state = pulsecapStateDone ↔
      edgeCount.toNat ≤ (accepted (first.map deliveredEdge)).length)
  below : ∀ first readings rest state, interrupts = first ++ readings :: rest →
    pulsecapSystem.Reaches started (first.map interrupt) state →
    ∀ position ∈ (interrupt readings).positions state, position < edgeCount.toNat

section Positions

variable {allowed : Nat → Prop} {pcap : PulsecapData} {edge : PulseData} {readings : Readings}

/-- Everything but the edge array. -/
def withoutArray : Effects timerSignature := ⟨fun _ => True, fun _ => True, fun _ _ => False⟩

theorem within_regUpdate (reg : TimerRegister) (change : U32 → U32) :
    (regUpdate reg change).Within withoutArray :=
  ⟨trivial, fun _ => ⟨trivial, fun _ => trivial⟩⟩

theorem within_stopTimer : stopTimer.Within withoutArray :=
  within_bind (within_regUpdate _ _) fun _ => within_regUpdate _ _

theorem within_acknowledge :
    (Program.bind clearInterruptFlags fun _ => .done irqHandled).Within withoutArray :=
  ⟨trivial, fun _ => ⟨trivial, fun _ => ⟨trivial, fun _ => ⟨trivial, fun _ => trivial⟩⟩⟩⟩

/-- The slots of one edge: the last stored one, and the next if the types differ. -/
theorem touches_storeEdge {World : Type} {env : Environment timerSignature World}
    (first : ¬0 < pcap.edgePtr → edge.edgeType = pulsecapEdgeHigh → allowed 0)
    (last : 0 < pcap.edgePtr → allowed (pcap.edgePtr - 1).toNat)
    (next : 0 < pcap.edgePtr → ∀ inside : (pcap.edgePtr - 1).toNat < pulsecapMaxCount,
      (pcap.storedEdges ⟨_, inside⟩).edgeType ≠ edge.edgeType → allowed pcap.edgePtr.toNat) :
    Touches env allowed (storeEdge edge) pcap := by
  apply touches_field_bind
  apply touches_if
  · intro stored
    apply touches_field_bind
    apply touches_index_bind (last stored)
    intro inside
    apply touches_if
    · intro different
      apply touches_index_bind (next stored inside different)
      intro room
      apply touches_modify_bind
      apply touches_if
      · intro _
        exact touches_modify_bind (touches_done ())
      · intro _
        have ends : (stopTimer.bind fun _ => modify fun drv : PulsecapData =>
            { drv with flags := drv.flags ||| pulsecapDone }).Within withoutArray :=
          within_bind within_stopTimer fun _ => within_modify trivial
        exact touches_of_within ends fun _ _ visited => visited
    · intro _
      exact touches_done ()
  · intro empty
    apply touches_if
    · intro high
      apply touches_index_bind (first empty high)
      intro inside
      exact touches_modify_bind (touches_modify_bind (touches_done ()))
    · intro _
      exact touches_done ()

theorem within_readEdge (status : U32) : (readEdge status).Within withoutArray :=
  within_if ⟨trivial, fun _ => trivial⟩ ⟨trivial, fun _ => trivial⟩

theorem silent_withoutArray (region : PulsecapArray) (position : Nat) :
    ¬withoutArray.visits region position := id

theorem within_answer :
    (Program.bind (Program.bind clearInterruptFlags fun _ => .done irqHandled) fun code =>
      .done (⟨some code, []⟩ : Answer)).Within withoutArray :=
  within_bind within_acknowledge fun _ => within_done _

/-- An interrupt uses the slots of one edge, if the capture runs, and no others. -/
theorem positions_interrupt
    (stored : captureRunning pcap.flags = true →
      Touches anyReadings allowed (storeEdge (deliveredEdge readings)) pcap) :
    ∀ position ∈ (interrupt readings).positions pcap, allowed position := by
  have opened : (interrupt readings).op.program.accesses anyReadings ⟨pcap, readings⟩ =
      (whenever (captureRunning pcap.flags = true)
        (Program.bind (readEdge (readings 0 .tcsr0)) storeEdge)).accesses anyReadings
          ⟨pcap, fun position => readings (position + 2)⟩ := by
    change (Program.bind
      (Program.bind (whenever (captureRunning pcap.flags = true) _) _) _).accesses anyReadings
        ⟨pcap, fun position => readings (position + 2)⟩ = _
    rw [bind_assoc]
    exact accesses_bind_left (fun _ => within_answer) silent_withoutArray _
  intro position member
  rw [PulsecapEvent.positions, List.mem_map] at member
  obtain ⟨used, accessed, same⟩ := member
  rw [← same]
  change used ∈ (interrupt readings).op.program.accesses anyReadings ⟨pcap, readings⟩ at accessed
  rw [opened, whenever] at accessed
  by_cases running : captureRunning pcap.flags = true
  · have chosen : (readEdge (readings 0 .tcsr0)).exec anyReadings
        ⟨pcap, fun position => readings (position + 2)⟩ =
          (.returned (deliveredEdge readings),
            ⟨pcap, fun position => readings (position + 3)⟩) := by
      unfold readEdge deliveredEdge
      split <;> rfl
    rw [if_pos running, accesses_bind, accesses_nil (within_readEdge _) silent_withoutArray,
      List.nil_append, chosen] at accessed
    exact stored running _ used accessed
  · rw [if_neg running] at accessed
    exact absurd accessed List.not_mem_nil

end Positions

section Streams

variable {target : U32} {edges : List PulseData} {pcap : PulsecapData}

theorem accepted_length_append_le (edges more : List PulseData) :
    (accepted edges).length ≤ (accepted (edges ++ more)).length :=
  (alternating_prefix_append isHigh differentType edges more).length_le

/-- The count of accepted edges grows by at most one an interrupt, so it takes
every value up to its last. -/
theorem exists_accepted_count {count : Nat} (interrupts : List Readings)
    (enough : count ≤ (accepted (interrupts.map deliveredEdge)).length) :
    ∃ first rest, interrupts = first ++ rest ∧
      (accepted (first.map deliveredEdge)).length = count := by
  induction interrupts using List.reverseRecOn with
  | nil =>
      have none : count = 0 := Nat.eq_zero_of_le_zero enough
      exact ⟨[], [], rfl, none.symm⟩
  | append_singleton front readings ih =>
      by_cases before : count ≤ (accepted (front.map deliveredEdge)).length
      · obtain ⟨first, rest, same, length⟩ := ih before
        exact ⟨first, rest ++ [readings], by rw [same, List.append_assoc], length⟩
      · have grown := accepted_length_concat_le (front.map deliveredEdge) (deliveredEdge readings)
        rw [List.map_append, List.map_singleton] at enough
        refine ⟨front ++ [readings], [], (List.append_nil _).symm, ?_⟩
        rw [List.map_append, List.map_singleton]
        omega

theorem advance_interrupts (target : U32) (interrupts : List Readings) :
    (interrupts.map interrupt).foldl Capture.advance (.capturing target []) =
      .capturing target (interrupts.map deliveredEdge) := by
  induction interrupts using List.reverseRecOn with
  | nil => rfl
  | append_singleton front readings ih =>
      rw [List.map_append, List.foldl_append, ih, List.map_append]
      rfl

theorem represents_interrupts {started : PulsecapData} {interrupts : List Readings}
    (fresh : Represents (.capturing target []) started)
    (reached : pulsecapSystem.Reaches started (interrupts.map interrupt) pcap) :
    Represents (.capturing target (interrupts.map deliveredEdge)) pcap := by
  have represents := captureSimulation.run_related fresh reached
  exact advance_interrupts target interrupts ▸ represents

/-- A stream that brings no more edges than wanted is handled to its end. -/
theorem wanted_interrupts_reach {started : PulsecapData} {interrupts : List Readings}
    (fresh : Represents (.capturing target []) started)
    (bounded : target.toNat ≤ pulsecapMaxCount)
    (wanted : (accepted (interrupts.map deliveredEdge)).length ≤ target.toNat) :
    ∃ after, pulsecapSystem.Reaches started (interrupts.map interrupt) after := by
  have fits : ∀ first readings rest, interrupts = first ++ readings :: rest →
      (Capture.capturing target ([] ++ first.map deliveredEdge)).overflows
        ⟨.timerIrq, readings⟩ = false := by
    intro first readings rest same
    have longer := accepted_length_append_le
      (first.map deliveredEdge ++ [deliveredEdge readings]) (rest.map deliveredEdge)
    have whole : first.map deliveredEdge ++ [deliveredEdge readings] ++ rest.map deliveredEdge =
        interrupts.map deliveredEdge := by
      rw [same]
      simp
    rw [whole] at longer
    have room : ¬pulsecapMaxCount <
        (accepted (first.map deliveredEdge ++ [deliveredEdge readings])).length := by omega
    change (!complete target ([] ++ first.map deliveredEdge) && decide (pulsecapMaxCount <
      (accepted (first.map deliveredEdge ++ [deliveredEdge readings])).length)) = false
    rw [decide_eq_false room, Bool.and_false]
  obtain ⟨after, reached, _⟩ := interrupts_reach_of_fits interrupts fresh fits
  exact ⟨after, reached⟩

/-- Each slot an interrupt uses is below the number of edges accepted with it. -/
theorem positions_below (represents : Represents (.capturing target edges) pcap)
    (positive : 1 ≤ target.toNat) (readings : Readings)
    (wanted : (accepted (edges ++ [deliveredEdge readings])).length ≤ target.toNat) :
    ∀ position ∈ (interrupt readings).positions pcap, position < target.toNat := by
  have longer := accepted_length_append_le edges [deliveredEdge readings]
  have incomplete : complete target edges = false := by
    rw [← Bool.not_eq_true, complete_iff, storeLimit_positive positive]
    omega
  rcases represents with _ | ⟨_, _, bounded, stores, _⟩ | _
  rw [capturedEdges_incomplete target edges incomplete] at stores
  have count := stores.count
  apply positions_interrupt
  intro _
  apply touches_storeEdge
  · intro _ _
    omega
  · intro stored
    rw [BitVec.lt_def] at stored
    rw [BitVec.toNat_sub_of_le (by rw [BitVec.le_def]; exact stored)]
    change pcap.edgePtr.toNat - 1 < _
    omega
  · intro stored inside different
    rcases (accepted edges).eq_nil_or_concat' with empty | ⟨front, last, concat⟩
    · rw [empty] at stores
      rw [stores_empty stores] at stored
      exact absurd stored (by decide)
    · have room : (front ++ [last]).length ≤ pulsecapMaxCount := by
        rw [← concat]
        omega
      obtain ⟨_, _, held⟩ := stores_last (concat ▸ stores) room
      rw [held] at different
      have kept : accepted (edges ++ [deliveredEdge readings]) =
          accepted edges ++ [deliveredEdge readings] := by
        rw [accepted_concat, concat, offer_concat, if_pos ((differentType_iff _ _).mpr different)]
      rw [kept, List.length_append, List.length_singleton] at wanted
      omega

end Streams

section Completion

variable {edgeCount : U32} {started : PulsecapData} {interrupts : List Readings}

theorem state_of_few {edges : List PulseData} {pcap : PulsecapData}
    (represents : Represents (.capturing edgeCount edges) pcap)
    (few : (accepted edges).length ≤ edgeCount.toNat) : pcap.state ≠ pulsecapStateDone := by
  have incomplete : ¬complete edgeCount edges = true := by
    rw [complete_iff, storeLimit]
    omega
  rw [represents_state represents, Capture.state, if_neg incomplete]
  decide

theorem completesOnTime_of_few (fresh : Represents (.capturing edgeCount []) started)
    (positive : 1 ≤ edgeCount.toNat)
    (few : (accepted (interrupts.map deliveredEdge)).length < edgeCount.toNat) :
    CompletesOnTime edgeCount started interrupts := by
  constructor
  · intro first rest state same reached
    have shorter := accepted_length_append_le (first.map deliveredEdge) (rest.map deliveredEdge)
    rw [← List.map_append, ← same] at shorter
    have running := state_of_few (represents_interrupts fresh reached) (by omega)
    constructor
    · intro done
      exact absurd done running
    · intro enough
      omega
  · intro first readings rest state same reached
    have shorter := accepted_length_append_le ((first ++ [readings]).map deliveredEdge)
      (rest.map deliveredEdge)
    rw [← List.map_append, List.append_assoc, List.singleton_append, ← same,
      List.map_append, List.map_singleton] at shorter
    exact positions_below (represents_interrupts fresh reached) positive readings (by omega)

/-- The last wanted edge leaves the capture running. -/
theorem not_completesOnTime (fresh : Represents (.capturing edgeCount []) started)
    (bounded : edgeCount.toNat ≤ pulsecapMaxCount)
    (enough : edgeCount.toNat ≤ (accepted (interrupts.map deliveredEdge)).length) :
    ¬CompletesOnTime edgeCount started interrupts := by
  intro onTime
  obtain ⟨first, rest, same, length⟩ := exists_accepted_count interrupts enough
  obtain ⟨state, reached⟩ := wanted_interrupts_reach fresh bounded (Nat.le_of_eq length)
  have done := (onTime.done first rest state same reached).mpr (Nat.le_of_eq length.symm)
  exact state_of_few (represents_interrupts fresh reached) (Nat.le_of_eq length) done

/-- From every reachable state, an accepted capture of `1 ≤ n` edges is done on
time exactly as long as fewer than `n` edges are accepted. -/
theorem completes_on_time_iff {history : List PulsecapEvent} {pcap : PulsecapData}
    {readings : Readings} (reachable : Reachable history pcap) (positive : 1 ≤ edgeCount.toNat)
    (begun : pulsecapStep pcap ⟨.startCapture edgeCount, readings⟩ =
      some (⟨some 0, []⟩, started)) (interrupts : List Readings) :
    CompletesOnTime edgeCount started interrupts ↔
      (accepted (interrupts.map deliveredEdge)).length < edgeCount.toNat := by
  have fresh := represents_started (reachable_represents reachable) begun
  have bounded : edgeCount.toNat ≤ pulsecapMaxCount := by
    rcases fresh with _ | ⟨_, _, bounded, _, _⟩ | _
    exact bounded
  constructor
  · intro onTime
    by_contra many
    exact not_completesOnTime fresh bounded (Nat.not_lt.mp many) onTime
  · exact completesOnTime_of_few fresh positive

/-- One edge of a capture of two. -/
theorem half_capture_completes_on_time :
    CompletesOnTime 2 (PulsecapData.zeroed.armed 2) [levelReadings true] ↔
      (accepted ([levelReadings true].map deliveredEdge)).length < (2 : U32).toNat :=
  @completes_on_time_iff 2 (PulsecapData.zeroed.armed 2) [] .zeroed (levelReadings false)
    ((Transducer.reaches_nil _ _).mpr rfl) (by decide) rfl [levelReadings true]

/-- A capture of one edge that gets its edge. -/
theorem single_edge_capture_not_done :
    ¬CompletesOnTime 1 (PulsecapData.zeroed.armed 1) [levelReadings true] := by
  have begun : pulsecapStep .zeroed ⟨.startCapture 1, levelReadings false⟩ =
      some (⟨some 0, []⟩, PulsecapData.zeroed.armed 1) := rfl
  exact not_completesOnTime (represents_started zeroed_represents begun) (by decide) (by decide)

end Completion

end Ebaz4205.PulsecapCompletion
