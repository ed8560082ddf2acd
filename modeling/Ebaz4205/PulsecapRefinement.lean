import Ebaz4205.PulsecapCapture

/-!
# The instance refines the abstract capture

The flags say which phase the capture is in, `edge_ptr` counts the captured
edges, and the slots below it hold them in order. Slots from `edge_ptr` on can
be stale and are deliberately unconstrained: the last store of a completed
capture goes there, and earlier captures are never wiped.
-/

namespace Ebaz4205.PulsecapRefinement

open AlternatingSubsequence BitMask DriverProgram.Program PartialRuns
open PulsecapCapture PulsecapDriver PulsecapOperations

set_option autoImplicit false

section AcceptedEdges

theorem capturedEdges_incomplete (target : U32) (edges : List PulseData)
    (incomplete : complete target edges = false) : capturedEdges target edges = accepted edges := by
  apply List.take_of_length_le
  simpa [complete] using incomplete

theorem complete_concat (target : U32) (edges : List PulseData) (edge : PulseData)
    (finished : complete target edges = true) : complete target (edges ++ [edge]) = true := by
  have longer := (accepted_prefix_concat edges edge).length_le
  simp only [complete, decide_eq_true_eq] at finished ⊢
  exact lt_of_lt_of_le finished longer

theorem capturedEdges_concat_complete (target : U32) (edges : List PulseData) (edge : PulseData)
    (finished : complete target edges = true) :
    capturedEdges target (edges ++ [edge]) = capturedEdges target edges := by
  obtain ⟨more, same⟩ := accepted_prefix_concat edges edge
  simp only [complete, decide_eq_true_eq] at finished
  rw [capturedEdges, ← same, List.take_append_of_le_length (le_of_lt finished), capturedEdges]

theorem capturedEdges_length_le (target : U32) (edges : List PulseData)
    (bounded : target.toNat ≤ pulsecapMaxCount) :
    (capturedEdges target edges).length ≤ pulsecapMaxCount := by
  have limit : storeLimit target ≤ pulsecapMaxCount := max_le (by decide) bounded
  exact (List.length_take_le _ _).trans limit

end AcceptedEdges

/-- The three flags that decide how an instance answers. -/
structure Marks (flags : Byte) (enabled done cancelled : Bool) : Prop where
  enable : isSet flags pulsecapEnable = enabled
  done : isSet flags pulsecapDone = done
  cancel : isSet flags pulsecapCancelled = cancelled

section Flags

theorem marks_armed (pcap : PulsecapData) (edgeCount : U32) :
    Marks (pcap.armed edgeCount).flags true false false := by
  constructor <;>
    simp [PulsecapData.armed, pulsecapEnable, pulsecapDone, pulsecapCancelled, pulsecapEdgesRead,
      isSet_twoPow]

theorem marks_cancelled (pcap : PulsecapData) : Marks pcap.cancelled.flags false false true := by
  constructor <;>
    simp [PulsecapData.cancelled, pulsecapEnable, pulsecapDone, pulsecapCancelled, isSet_twoPow]

theorem marks_finished {flags : Byte} {enabled done cancelled : Bool}
    (marks : Marks flags enabled done cancelled) :
    Marks (flags ||| pulsecapDone) enabled true cancelled := by
  obtain ⟨enable, _, cancel⟩ := marks
  constructor
  · simpa [pulsecapEnable, pulsecapDone, isSet_twoPow] using enable
  · simp [pulsecapDone, isSet_twoPow]
  · simpa [pulsecapCancelled, pulsecapDone, isSet_twoPow] using cancel

theorem marks_edgesRead {flags : Byte} {enabled done cancelled : Bool}
    (marks : Marks flags enabled done cancelled) :
    Marks (flags ||| pulsecapEdgesRead) enabled done cancelled := by
  obtain ⟨enable, done, cancel⟩ := marks
  constructor
  · simpa [pulsecapEnable, pulsecapEdgesRead, isSet_twoPow] using enable
  · simpa [pulsecapDone, pulsecapEdgesRead, isSet_twoPow] using done
  · simpa [pulsecapCancelled, pulsecapEdgesRead, isSet_twoPow] using cancel

theorem marks_nonzero {flags : Byte} {enabled done cancelled : Bool}
    (marks : Marks flags enabled done cancelled) (used : enabled = true ∨ cancelled = true) :
    flags ≠ 0 := by
  intro zero
  obtain ⟨enable, _, cancel⟩ := marks
  subst zero
  rcases used with isEnabled | isCancelled
  · rw [isEnabled] at enable
    exact absurd enable (by decide)
  · rw [isCancelled] at cancel
    exact absurd cancel (by decide)

end Flags

/-- `edge_ptr` counts these edges and the slots below it hold them. -/
structure Stores (pcap : PulsecapData) (edges : List PulseData) : Prop where
  count : pcap.edgePtr.toNat = edges.length
  slots : ∀ slot : Fin pulsecapMaxCount, slot.val < edges.length →
    edges[slot.val]? = some (pcap.storedEdges slot)

section Slots

variable {pcap : PulsecapData} {edges : List PulseData}

theorem stores_armed (pcap : PulsecapData) (edgeCount : U32) :
    Stores (pcap.armed edgeCount) [] :=
  ⟨rfl, fun _ bound => absurd bound (Nat.not_lt_zero _)⟩

theorem stores_next (stores : Stores pcap edges) (edge : PulseData)
    (slot : Fin pulsecapMaxCount) (place : slot.val = edges.length) :
    Stores { setEdge slot edge pcap with edgePtr := pcap.edgePtr + 1 } (edges ++ [edge]) := by
  have room : edges.length < pulsecapMaxCount := place ▸ slot.isLt
  constructor
  · have count := stores.count
    have small : pulsecapMaxCount = 1024 := rfl
    simp only [List.length_append, List.length_cons, List.length_nil, BitVec.toNat_add]
    rw [count, show (1 : BitVec 32).toNat = 1 from rfl, Nat.mod_eq_of_lt (by omega)]
  · intro other bound
    simp only [List.length_append, List.length_cons, List.length_nil] at bound
    by_cases same : other = slot
    · subst same
      simp [setEdge, place]
    · have earlier : other.val < edges.length := by
        have apart : other.val ≠ slot.val := fun equal => same (Fin.ext equal)
        omega
      rw [List.getElem?_append_left earlier, stores.slots other earlier]
      simp [setEdge, Function.update_of_ne same]

theorem stores_beyond (stores : Stores pcap edges) (edge : PulseData)
    (slot : Fin pulsecapMaxCount) (place : slot.val = edges.length) (flags : Byte) :
    Stores { setEdge slot edge pcap with flags := flags } edges := by
  constructor
  · exact stores.count
  · intro other bound
    have apart : other ≠ slot := by
      intro same
      rw [same, place] at bound
      exact Nat.lt_irrefl _ bound
    rw [stores.slots other bound]
    simp [setEdge, Function.update_of_ne apart]

theorem stores_empty (stores : Stores pcap []) : pcap.edgePtr = 0 :=
  BitVec.eq_of_toNat_eq stores.count

/-- The slot before `edge_ptr` holds the last edge. -/
theorem stores_last {front : List PulseData} {last : PulseData}
    (stores : Stores pcap (front ++ [last])) (fits : (front ++ [last]).length ≤ pulsecapMaxCount) :
    0 < pcap.edgePtr ∧ ∃ inside : (pcap.edgePtr - 1).toNat < pulsecapMaxCount,
      pcap.storedEdges ⟨_, inside⟩ = last := by
  have count := stores.count
  simp only [List.length_append, List.length_cons, List.length_nil] at count fits
  have positive : 0 < pcap.edgePtr := by
    rw [BitVec.lt_def]
    simp [count]
  have before : (pcap.edgePtr - 1).toNat = front.length := by
    rw [BitVec.toNat_sub_of_le (by rw [BitVec.le_def]; simp [count]), count]
    simp
  have inside : (pcap.edgePtr - 1).toNat < pulsecapMaxCount := by omega
  have held := stores.slots ⟨_, inside⟩ (by
    rw [List.length_append]
    exact before ▸ Nat.lt_succ_self _)
  rw [show (⟨_, inside⟩ : Fin pulsecapMaxCount).val = front.length from before,
    List.getElem?_concat_length, Option.some.injEq] at held
  exact ⟨positive, inside, held.symm⟩

end Slots

/-- The representation relation. A capture with room for the whole array never
completes: its last store would be out of bounds. -/
inductive Represents : Capture → PulsecapData → Prop where
  | never {pcap : PulsecapData} (flags : pcap.flags = 0) (target : pcap.edgeTarget = 0)
      (stores : Stores pcap []) : Represents .never pcap
  | capturing {target : U32} {edges : List PulseData} {pcap : PulsecapData}
      (marks : Marks pcap.flags true (complete target edges) false)
      (same : pcap.edgeTarget = target) (bounded : target.toNat ≤ pulsecapMaxCount)
      (stores : Stores pcap (capturedEdges target edges))
      (ended : complete target edges = true → target.toNat < pulsecapMaxCount) :
      Represents (.capturing target edges) pcap
  | cancelled {target : U32} {edges : List PulseData} {pcap : PulsecapData}
      (marks : Marks pcap.flags false false true)
      (same : pcap.edgeTarget = target) (bounded : target.toNat ≤ pulsecapMaxCount)
      (stores : Stores pcap (capturedEdges target edges)) :
      Represents (.cancelled target edges) pcap

theorem zeroed_represents : Represents .never .zeroed :=
  .never rfl rfl ⟨rfl, fun _ bound => absurd bound (Nat.not_lt_zero _)⟩

section Phases

variable {capture : Capture} {pcap : PulsecapData}

theorem represents_state (represents : Represents capture pcap) : pcap.state = capture.state := by
  unfold PulsecapData.state
  cases represents with
  | never flags _ _ =>
      rw [flags]
      rfl
  | capturing marks _ _ _ _ =>
      rw [marks.enable, marks.done]
      rfl
  | cancelled marks _ _ _ =>
      rw [marks.enable]
      rfl

theorem captureRunning_eq (pcap : PulsecapData) :
    captureRunning pcap.flags = decide (pcap.state = pulsecapStateRun) := by
  unfold captureRunning PulsecapData.state
  cases isSet pcap.flags pulsecapEnable <;> cases isSet pcap.flags pulsecapDone <;> decide

theorem start_accepted (capture : Capture) (edgeCount : U32)
    (stopped : capture.state ≠ pulsecapStateRun) (fits : edgeCount.toNat ≤ pulsecapMaxCount) :
    capture.start edgeCount = .capturing edgeCount [] := by
  cases capture with
  | never => simp [Capture.start, fits]
  | capturing target edges =>
      have finished : complete target edges = true := by
        by_contra incomplete
        exact stopped (by simp [Capture.state, incomplete])
      simp [Capture.start, finished, fits]
  | cancelled target edges => simp [Capture.start, fits]

theorem start_refused (capture : Capture) (edgeCount : U32)
    (refused : capture.state = pulsecapStateRun ∨ ¬edgeCount.toNat ≤ pulsecapMaxCount) :
    capture.start edgeCount = capture := by
  cases capture with
  | never =>
      rcases refused with running | tooMany
      · exact absurd running (by decide)
      · simp [Capture.start, tooMany]
  | capturing target edges =>
      rcases refused with running | tooMany
      · cases finished : complete target edges with
        | false => simp [Capture.start, finished]
        | true =>
            simp only [Capture.state, finished, if_true] at running
            exact absurd running (by decide)
      · simp [Capture.start, tooMany]
  | cancelled target edges =>
      rcases refused with running | tooMany
      · simp [Capture.state, pulsecapStateRun, pulsecapStateIdle] at running
      · simp [Capture.start, tooMany]

end Phases

section Steps

variable {capture : Capture} {pcap : PulsecapData} {readings : Readings}

/-- What one operation must do to keep the representation. -/
def Refines (capture : Capture) (pcap : PulsecapData) (event : PulsecapEvent) : Prop :=
  ∃ after, pulsecapStep pcap event = some (capture.reply event, after) ∧
    Represents (capture.advance event) after

theorem refines_startCapture (represents : Represents capture pcap) (edgeCount : U32) :
    Refines capture pcap ⟨.startCapture edgeCount, readings⟩ := by
  have running := captureRunning_eq pcap
  rw [represents_state represents] at running
  by_cases busy : capture.state = pulsecapStateRun
  · have same := start_refused capture edgeCount (Or.inl busy)
    rw [decide_eq_true busy] at running
    refine ⟨pcap, ?_, by simpa [Capture.advance, same] using represents⟩
    simp only [Capture.reply, Capture.startCode, if_pos busy]
    exact step_of_yields (yields_bind (yields_startCapture_busy pcap edgeCount running)
      (yields_done _ _))
  · rw [decide_eq_false busy] at running
    by_cases fits : edgeCount.toNat ≤ pulsecapMaxCount
    · have armed := start_accepted capture edgeCount busy fits
      refine ⟨pcap.armed edgeCount, ?_, ?_⟩
      · simp only [Capture.reply, Capture.startCode, if_neg busy, if_pos fits]
        exact step_of_yields (yields_bind
          (yields_startCapture_armed pcap edgeCount running (Nat.not_lt.mpr fits))
          (yields_done _ _))
      · simp only [Capture.advance, armed]
        have fresh : complete edgeCount [] = false := by simp [complete, accepted, alternating]
        exact .capturing (fresh ▸ marks_armed pcap edgeCount) rfl fits
          (by simpa [capturedEdges, accepted, alternating] using stores_armed pcap edgeCount)
          (by simp [fresh])
    · have same := start_refused capture edgeCount (Or.inr fits)
      refine ⟨pcap, ?_, by simpa [Capture.advance, same] using represents⟩
      simp only [Capture.reply, Capture.startCode, if_neg busy, if_neg fits]
      exact step_of_yields (yields_bind
        (yields_startCapture_invalid pcap edgeCount running (Nat.not_le.mp fits))
        (yields_done _ _))

theorem refines_cancelCapture (represents : Represents capture pcap) :
    Refines capture pcap ⟨.cancelCapture, readings⟩ := by
  cases represents with
  | never flags target stores =>
      exact ⟨pcap, step_of_yields (yields_bind (yields_cancelCapture_idle pcap flags)
        (yields_done _ _)), .never flags target stores⟩
  | capturing marks same bounded stores _ =>
      have used := marks_nonzero marks (Or.inl rfl)
      exact ⟨pcap.cancelled, step_of_yields (yields_bind (yields_cancelCapture pcap used)
        (yields_done _ _)), .cancelled (marks_cancelled pcap) same bounded
          ⟨stores.count, stores.slots⟩⟩
  | cancelled marks same bounded stores =>
      have used := marks_nonzero marks (Or.inr rfl)
      exact ⟨pcap.cancelled, step_of_yields (yields_bind (yields_cancelCapture pcap used)
        (yields_done _ _)), .cancelled (marks_cancelled pcap) same bounded
          ⟨stores.count, stores.slots⟩⟩

theorem refines_getState (represents : Represents capture pcap) :
    Refines capture pcap ⟨.getState, readings⟩ := by
  refine ⟨pcap, ?_, represents⟩
  simp only [Capture.reply, ← represents_state represents]
  exact step_of_yields (yields_bind (yields_if_neg (by decide) (yields_field _ _))
    (yields_done _ _))

theorem step_edgesCaptured (represents : Represents capture pcap) :
    pulsecapStep pcap ⟨.edgesCaptured, readings⟩ =
      some (capture.reply ⟨.edgesCaptured, readings⟩, pcap) := by
  cases represents with
  | never flags _ _ =>
      exact step_of_yields (yields_bind (yields_edgesCaptured_blank pcap flags) (yields_done _ _))
  | capturing marks _ _ stores _ =>
      have counted : isSet pcap.flags (pulsecapEnable ||| pulsecapCancelled) = true := by
        rw [isSet_or, marks.enable, Bool.true_or]
      simp only [Capture.reply, Capture.captured, ← stores.count]
      exact step_of_yields (yields_bind (yields_edgesCaptured_pointer pcap counted)
        (yields_done _ _))
  | cancelled marks _ _ stores =>
      have counted : isSet pcap.flags (pulsecapEnable ||| pulsecapCancelled) = true := by
        rw [isSet_or, marks.cancel, Bool.or_true]
      simp only [Capture.reply, Capture.captured, ← stores.count]
      exact step_of_yields (yields_bind (yields_edgesCaptured_pointer pcap counted)
        (yields_done _ _))

theorem refines_edgesCaptured (represents : Represents capture pcap) :
    Refines capture pcap ⟨.edgesCaptured, readings⟩ :=
  ⟨pcap, step_edgesCaptured represents, represents⟩

/-- What `pulsecap_read_edges` returns for the words it may copy. -/
def readOutOf : Option (List U32) → ReadOut
  | none => ⟨-ebusy, []⟩
  | some words => ⟨words.length, words⟩

theorem yields_copy_captured {World : Type} {env : DriverProgram.Environment timerSignature World}
    {edges : List PulseData} {limit : Nat} (stores : Stores pcap edges)
    (bounded : edges.length ≤ pulsecapMaxCount) (within : limit ≤ edges.length) :
    Yields env (copyEdges 0 limit) pcap ((edges.take limit).map PulseData.edgeCount) pcap := by
  apply yields_copyEdges
  · omega
  · rw [List.length_take, Nat.min_eq_left within]
  · intro position slot place inside
    rw [Nat.zero_add] at place
    rw [List.getElem?_take_of_lt inside, ← place]
    exact stores.slots slot (by omega)

theorem toInt_of_small (value : U32) (small : value.toNat ≤ pulsecapMaxCount) :
    value.toInt = value.toNat := by
  have bound : pulsecapMaxCount = 1024 := rfl
  rw [BitVec.toInt_eq_toNat_of_lt]
  omega

theorem take_captured (target : U32) (edges : List PulseData) (count : Nat)
    (within : count ≤ (capturedEdges target edges).length) :
    (capturedEdges target edges).take count = (accepted edges).take count ∧
      ((accepted edges).take count).length = count := by
  unfold capturedEdges at within ⊢
  rw [List.length_take] at within
  rw [List.take_take, List.length_take, Nat.min_eq_left (by omega), Nat.min_eq_left (by omega)]
  exact ⟨rfl, rfl⟩

theorem capturedEdges_length_complete (target : U32) (edges : List PulseData)
    (finished : complete target edges = true) :
    target.toNat ≤ (capturedEdges target edges).length := by
  simp only [complete, decide_eq_true_eq] at finished
  rw [capturedEdges, List.length_take, Nat.min_eq_left (le_of_lt finished)]
  exact le_max_right 1 target.toNat

/-- A copy of as many captured edges as a clamped count allows. -/
theorem readOut_of_clamp {target limit count : U32} {edges : List PulseData}
    (bounded : target.toNat ≤ pulsecapMaxCount)
    (within : limit.toNat ≤ (capturedEdges target edges).length) :
    (⟨(clamp limit count).toInt,
        ((capturedEdges target edges).take (clamp limit count).toNat).map PulseData.edgeCount⟩ :
          ReadOut) =
      readOutOf (some (((accepted edges).take (min count.toNat limit.toNat)).map
        PulseData.edgeCount)) := by
  have fits := capturedEdges_length_le target edges bounded
  have clamped := clamp_toNat limit count
  have inside : (clamp limit count).toNat ≤ (capturedEdges target edges).length := by omega
  have taken := take_captured target edges _ inside
  rw [readOutOf, List.length_map, ← clamped, taken.1, taken.2, toInt_of_small _ (by omega)]

theorem yields_readEdges {World : Type} {env : DriverProgram.Environment timerSignature World}
    (represents : Represents capture pcap) (count : U32) :
    Yields env (pulsecapReadEdges .valid count .valid) pcap
      (readOutOf (capture.read count.toNat)) pcap := by
  cases represents with
  | never flags _ _ =>
      apply yields_readEdges_busy
      · rw [flags]
        decide
      · rw [flags]
        decide
  | @capturing target edges _ marks same bounded stores _ =>
      cases finished : complete target edges with
      | false =>
          have words : (Capture.capturing target edges).read count.toNat = none := by
            simp [Capture.read, Capture.readable, finished]
          rw [words]
          apply yields_readEdges_busy
          · rw [marks.done, finished]
            decide
          · rw [marks.cancel]
            decide
      | true =>
          subst same
          have within := capturedEdges_length_complete pcap.edgeTarget edges finished
          have words : (Capture.capturing pcap.edgeTarget edges).read count.toNat =
              some (((accepted edges).take (min count.toNat pcap.edgeTarget.toNat)).map
                PulseData.edgeCount) := by
            simp [Capture.read, Capture.readable, Capture.edges, finished]
          rw [words, ← readOut_of_clamp bounded within]
          apply yields_readEdges_done
          · rw [marks.done, finished]
          · apply yields_copy_captured stores (capturedEdges_length_le _ edges bounded)
            rw [clamp_toNat]
            omega
  | @cancelled target edges _ marks same bounded stores =>
      have words : (Capture.cancelled target edges).read count.toNat =
          some (((accepted edges).take (min count.toNat pcap.edgePtr.toNat)).map
            PulseData.edgeCount) := by
        simp [Capture.read, Capture.readable, Capture.edges, stores.count]
      rw [words, ← readOut_of_clamp bounded (le_of_eq stores.count)]
      apply yields_readEdges_cancelled
      · rw [marks.done]
        decide
      · exact marks.cancel
      · apply yields_copy_captured stores (capturedEdges_length_le target edges bounded)
        rw [clamp_toNat, stores.count]
        omega

theorem step_readEdges (represents : Represents capture pcap) (count : U32) :
    pulsecapStep pcap ⟨.readEdges count, readings⟩ =
      some (readAnswer 1 (capture.read count.toNat), pcap) := by
  have yielded : pulsecapStep pcap ⟨.readEdges count, readings⟩ =
      some (⟨some (readOutOf (capture.read count.toNat)).code,
        (readOutOf (capture.read count.toNat)).words⟩, pcap) :=
    step_of_yields (yields_bind (yields_readEdges represents count) (yields_done _ _))
  rw [yielded]
  cases capture.read count.toNat with
  | none => rfl
  | some words => simp [readOutOf, readAnswer]

theorem refines_readEdges (represents : Represents capture pcap) (count : U32) :
    Refines capture pcap ⟨.readEdges count, readings⟩ :=
  ⟨pcap, step_readEdges represents count, represents⟩

theorem represents_edgesRead (represents : Represents capture pcap)
    (readable : capture.readable ≠ none) :
    Represents capture { pcap with flags := pcap.flags ||| pulsecapEdgesRead } := by
  cases represents with
  | never _ _ _ => exact absurd rfl readable
  | capturing marks same bounded stores ended =>
      exact .capturing (marks_edgesRead marks) same bounded ⟨stores.count, stores.slots⟩ ended
  | cancelled marks same bounded stores =>
      exact .cancelled (marks_edgesRead marks) same bounded ⟨stores.count, stores.slots⟩

theorem represents_target (represents : Represents capture pcap) :
    pcap.edgeTarget = capture.target := by
  cases represents with
  | never _ target _ => exact target
  | capturing _ same _ _ _ => exact same
  | cancelled _ same _ _ => exact same

/-- A capture that cannot be read leaves the instance as it is. -/
theorem step_edgeDataShow_refused (represents : Represents capture pcap)
    (unread : capture.read capture.target.toNat = none) :
    pulsecapStep pcap ⟨.edgeDataShow, readings⟩ = some (⟨some (-ebusy), []⟩, pcap) := by
  have read : Yields anyReadings (pulsecapReadEdges .valid pcap.edgeTarget .valid) pcap
      (readOutOf (capture.read pcap.edgeTarget.toNat)) pcap :=
    yields_readEdges represents pcap.edgeTarget
  rw [represents_target represents, unread, ← represents_target represents] at read
  exact step_of_yields (yields_bind (yields_edgeDataShow_refused pcap read (by decide))
    (yields_done _ _))

theorem refines_edgeDataShow (represents : Represents capture pcap) :
    Refines capture pcap ⟨.edgeDataShow, readings⟩ := by
  cases words : capture.read capture.target.toNat with
  | none =>
      refine ⟨pcap, ?_, represents⟩
      simp only [Capture.reply, words]
      exact step_edgeDataShow_refused represents words
  | some copied =>
      have read : Yields anyReadings (pulsecapReadEdges .valid pcap.edgeTarget .valid) pcap
          (readOutOf (capture.read pcap.edgeTarget.toNat)) pcap :=
        yields_readEdges represents pcap.edgeTarget
      rw [represents_target represents, words, ← represents_target represents] at read
      have readable : capture.readable ≠ none := by
        intro absent
        simp [Capture.read, absent] at words
      refine ⟨_, ?_, represents_edgesRead represents readable⟩
      simp only [Capture.reply, words]
      exact step_of_yields (yields_bind
        (yields_edgeDataShow pcap read (by simp [readOutOf])) (yields_done _ _))

end Steps

section Interrupts

variable {target : U32} {edges : List PulseData} {pcap : PulsecapData} {edge : PulseData}

theorem complete_iff (target : U32) (edges : List PulseData) :
    complete target edges = true ↔ storeLimit target < (accepted edges).length := by
  simp [complete]

/-- An edge the filter drops changes neither side. -/
theorem represents_dropped (represents : Represents (.capturing target edges) pcap)
    (dropped : accepted (edges ++ [edge]) = accepted edges) :
    Represents (.capturing target (edges ++ [edge])) pcap := by
  have sameComplete : complete target (edges ++ [edge]) = complete target edges := by
    rw [complete, dropped, complete]
  have sameCaptured : capturedEdges target (edges ++ [edge]) = capturedEdges target edges := by
    rw [capturedEdges, dropped, capturedEdges]
  rcases represents with _ | ⟨marks, same, bounded, stores, ended⟩ | _
  exact .capturing (sameComplete ▸ marks) same bounded (sameCaptured ▸ stores)
    (sameComplete ▸ ended)

/-- An accepted edge below the limit goes to the slot `edge_ptr` counts next. -/
theorem represents_next (represents : Represents (.capturing target edges) pcap)
    (slot : Fin pulsecapMaxCount) (place : slot.val = (accepted edges).length)
    (kept : accepted (edges ++ [edge]) = accepted edges ++ [edge])
    (wanted : (accepted edges).length < storeLimit target) :
    Represents (.capturing target (edges ++ [edge]))
      { setEdge slot edge pcap with edgePtr := pcap.edgePtr + 1 } := by
  rcases represents with _ | ⟨marks, same, bounded, stores, ended⟩ | _
  have before : complete target edges = false := by
    rw [← Bool.not_eq_true, complete_iff]
    omega
  have after : complete target (edges ++ [edge]) = false := by
    rw [← Bool.not_eq_true, complete_iff, kept, List.length_append, List.length_singleton]
    omega
  rw [capturedEdges_incomplete target edges before] at stores
  have next := stores_next stores edge slot place
  rw [← kept, ← capturedEdges_incomplete target (edges ++ [edge]) after] at next
  rw [before] at marks
  exact .capturing (after ▸ marks) same bounded next (by simp [after])

/-- The edge after the last wanted one is written too, and ends the capture. -/
theorem represents_finish (represents : Represents (.capturing target edges) pcap)
    (slot : Fin pulsecapMaxCount) (place : slot.val = (accepted edges).length)
    (kept : accepted (edges ++ [edge]) = accepted edges ++ [edge])
    (reached : (accepted edges).length = storeLimit target) :
    Represents (.capturing target (edges ++ [edge]))
      { setEdge slot edge pcap with flags := pcap.flags ||| pulsecapDone } := by
  rcases represents with _ | ⟨marks, same, bounded, stores, ended⟩ | _
  have before : complete target edges = false := by
    rw [← Bool.not_eq_true, complete_iff]
    omega
  have after : complete target (edges ++ [edge]) = true := by
    rw [complete_iff, kept, List.length_append, List.length_singleton]
    omega
  have captured : capturedEdges target (edges ++ [edge]) = capturedEdges target edges := by
    rw [capturedEdges_incomplete target edges before, capturedEdges, kept, ← reached,
      List.take_left]
  have beyond := stores_beyond stores edge slot
    (by rw [capturedEdges_incomplete target edges before]; exact place)
    (pcap.flags ||| pulsecapDone)
  have room : target.toNat < pulsecapMaxCount := by
    have inside := slot.isLt
    rw [place, reached] at inside
    exact lt_of_le_of_lt (le_max_right 1 _) inside
  exact .capturing (after ▸ marks_finished marks) same bounded (captured ▸ beyond) fun _ => room

theorem differentType_iff (earlier later : PulseData) :
    differentType earlier later ↔ earlier.edgeType ≠ later.edgeType := Iff.rfl

/-- The filter of the handler is one `offer`: it stores exactly when the edge
is accepted, and where the abstract capture puts it. -/
theorem storeEdge_represents {World : Type}
    {env : DriverProgram.Environment timerSignature World}
    (represents : Represents (.capturing target edges) pcap)
    (incomplete : complete target edges = false)
    (room : (accepted (edges ++ [edge])).length ≤ pulsecapMaxCount) :
    ∃ after, Yields env (storeEdge edge) pcap () after ∧
      Represents (.capturing target (edges ++ [edge])) after := by
  have offered := accepted_concat edges edge
  have limit : (accepted edges).length ≤ storeLimit target := by
    rw [← Bool.not_eq_true, complete_iff] at incomplete
    exact Nat.not_lt.mp incomplete
  have stores : Stores pcap (accepted edges) ∧ pcap.edgeTarget = target := by
    rcases represents with _ | ⟨marks, same, bounded, stores, ended⟩ | _
    exact ⟨capturedEdges_incomplete target edges incomplete ▸ stores, same⟩
  obtain ⟨stores, sameTarget⟩ := stores
  rcases (accepted edges).eq_nil_or_concat' with empty | ⟨front, last, concat⟩
  · rw [empty] at stores offered
    have pointer := stores_empty stores
    have unset : ¬0 < pcap.edgePtr := by rw [pointer]; decide
    rw [offer_nil] at offered
    by_cases high : edge.edgeType = pulsecapEdgeHigh
    · have kept : accepted (edges ++ [edge]) = accepted edges ++ [edge] := by
        rw [offered, empty, isHigh, decide_eq_true high]
        rfl
      have next := represents_next represents ⟨0, zero_slot_inside⟩ (by rw [empty]; rfl) kept
        (by rw [empty]; exact lt_max_of_lt_left Nat.zero_lt_one)
      rw [pointer] at next
      exact ⟨_, yields_storeEdge_first_high unset high, next⟩
    · have dropped : accepted (edges ++ [edge]) = accepted edges := by
        rw [offered, empty, isHigh, decide_eq_false high]
        rfl
      exact ⟨pcap, yields_storeEdge_first_low unset high, represents_dropped represents dropped⟩
  · have fits : (front ++ [last]).length ≤ pulsecapMaxCount := by
      rw [← concat]
      exact (accepted_prefix_concat edges edge).length_le.trans room
    have count := stores.count
    rw [concat] at stores
    obtain ⟨stored, inside, held⟩ := stores_last stores fits
    rw [concat, offer_concat] at offered
    by_cases same : last.edgeType = edge.edgeType
    · have dropped : accepted (edges ++ [edge]) = accepted edges := by
        rw [offered, if_neg (by simp [differentType_iff, same]), concat]
      exact ⟨pcap, yields_storeEdge_same_type stored inside (by rw [held]; exact same),
        represents_dropped represents dropped⟩
    · have kept : accepted (edges ++ [edge]) = accepted edges ++ [edge] := by
        rw [offered, if_pos ((differentType_iff _ _).mpr same), concat]
      have different : (pcap.storedEdges ⟨_, inside⟩).edgeType ≠ edge.edgeType := by
        rw [held]
        exact same
      have free : pcap.edgePtr.toNat < pulsecapMaxCount := by
        rw [kept, List.length_append, List.length_singleton] at room
        omega
      have positive : 0 < (accepted edges).length := by rw [concat]; simp
      by_cases wanted : pcap.edgePtr < pcap.edgeTarget
      · refine ⟨_, yields_storeEdge_next stored inside different free wanted, ?_⟩
        apply represents_next represents ⟨_, free⟩ count kept
        rw [BitVec.lt_def, count, sameTarget] at wanted
        exact lt_max_of_lt_right wanted
      · refine ⟨_, yields_storeEdge_finish stored inside different free wanted, ?_⟩
        apply represents_finish represents ⟨_, free⟩ count kept
        rw [BitVec.lt_def, count, sameTarget] at wanted
        have atLeast : storeLimit target ≤ (accepted edges).length :=
          max_le positive (Nat.not_lt.mp wanted)
        exact le_antisymm limit atLeast

/-- With the array full, the next accepted edge is stored behind its end. -/
theorem storeEdge_overflows {World : Type}
    {env : DriverProgram.Environment timerSignature World}
    (represents : Represents (.capturing target edges) pcap)
    (incomplete : complete target edges = false)
    (full : pulsecapMaxCount < (accepted (edges ++ [edge])).length) :
    Faults env (storeEdge edge) pcap := by
  have offered := accepted_concat edges edge
  rcases represents with _ | ⟨marks, same, bounded, stores, ended⟩ | _
  have fits := capturedEdges_length_le target edges bounded
  rw [capturedEdges_incomplete target edges incomplete] at stores fits
  have grown := accepted_length_concat_le edges edge
  have count := stores.count
  rcases (accepted edges).eq_nil_or_concat' with empty | ⟨front, last, concat⟩
  · rw [empty, List.length_nil] at grown
    have positive := zero_slot_inside
    omega
  · rw [concat] at stores fits offered
    obtain ⟨stored, inside, held⟩ := stores_last stores fits
    apply faults_storeEdge_full stored inside
    · rw [held]
      intro sameType
      rw [offer_concat, if_neg (by simp [differentType_iff, sameType])] at offered
      rw [offered] at full
      omega
    · omega

theorem refines_timerIrq {capture : Capture} {readings : Readings}
    (represents : Represents capture pcap)
    (fits : capture.overflows ⟨.timerIrq, readings⟩ = false) :
    Refines capture pcap ⟨.timerIrq, readings⟩ := by
  have running := captureRunning_eq pcap
  rw [represents_state represents] at running
  cases capture with
  | never => exact ⟨pcap, step_timerIrq_idle running, represents⟩
  | cancelled target edges => exact ⟨pcap, step_timerIrq_idle running, represents⟩
  | capturing target edges =>
      cases finished : complete target edges with
      | true =>
          have idle : captureRunning pcap.flags = false := by
            rw [running, Capture.state, finished]
            decide
          refine ⟨pcap, step_timerIrq_idle idle, ?_⟩
          rcases represents with _ | ⟨marks, same, bounded, stores, ended⟩ | _
          have still := complete_concat target edges (deliveredEdge readings) finished
          have captured :=
            capturedEdges_concat_complete target edges (deliveredEdge readings) finished
          rw [finished] at marks
          exact .capturing (still ▸ marks) same bounded (captured ▸ stores) fun _ => ended finished
      | false =>
          have active : captureRunning pcap.flags = true := by
            rw [running, Capture.state, finished]
            decide
          have room : (accepted (edges ++ [deliveredEdge readings])).length ≤ pulsecapMaxCount := by
            simpa [Capture.overflows, finished] using fits
          obtain ⟨after, yielded, kept⟩ := storeEdge_represents represents finished room
          exact ⟨after, step_timerIrq_running active yielded, kept⟩

theorem timerIrq_overflows {capture : Capture} {event : PulsecapEvent}
    (represents : Represents capture pcap) (overflows : capture.overflows event = true) :
    (event.execution pcap).1 = .undefined := by
  obtain ⟨op, readings⟩ := event
  cases op with
  | timerIrq =>
      cases capture with
      | capturing target edges =>
          simp only [Capture.overflows, Bool.and_eq_true, Bool.not_eq_true',
            decide_eq_true_eq] at overflows
          have active : captureRunning pcap.flags = true := by
            rw [captureRunning_eq, represents_state represents, Capture.state, overflows.1]
            decide
          exact execution_timerIrq_faults active
            (storeEdge_overflows represents overflows.1 overflows.2)
      | never => simp [Capture.overflows] at overflows
      | cancelled target edges => simp [Capture.overflows] at overflows
  | _ => simp [Capture.overflows] at overflows

end Interrupts

/-- Every operation that does not overflow the array does what the abstract
capture does. -/
theorem refines_of_fits {capture : Capture} {pcap : PulsecapData} (event : PulsecapEvent)
    (represents : Represents capture pcap) (fits : capture.overflows event = false) :
    Refines capture pcap event := by
  obtain ⟨op, readings⟩ := event
  cases op with
  | startCapture edgeCount => exact refines_startCapture represents edgeCount
  | timerIrq => exact refines_timerIrq represents fits
  | cancelCapture => exact refines_cancelCapture represents
  | getState => exact refines_getState represents
  | edgesCaptured => exact refines_edgesCaptured represents
  | readEdges count => exact refines_readEdges represents count
  | edgeDataShow => exact refines_edgeDataShow represents

theorem step_none_of_overflows {capture : Capture} {pcap : PulsecapData} {event : PulsecapEvent}
    (represents : Represents capture pcap) (overflows : capture.overflows event = true) :
    pulsecapStep pcap event = none := by
  have faulted := timerIrq_overflows represents overflows
  unfold pulsecapStep
  rcases ran : event.execution pcap with ⟨outcome, machine⟩
  rw [ran] at faulted
  rw [show outcome = .undefined from faulted]

/-- The abstract capture simulates the instance: it predicts every answer, and
which interrupt leaves none. -/
def captureSimulation : Transducer.Simulation pulsecapSystem Capture where
  related := Represents
  advance := Capture.advance
  answer := fun capture event =>
    if capture.overflows event then none else some (capture.reply event)
  defined := by
    intro capture pcap event represents
    cases fits : capture.overflows event with
    | true =>
        show (pulsecapStep pcap event).map Prod.fst = none
        rw [step_none_of_overflows represents fits]
        rfl
    | false =>
        obtain ⟨after, stepped, _⟩ := refines_of_fits event represents fits
        show (pulsecapStep pcap event).map Prod.fst = some (capture.reply event)
        rw [stepped]
        rfl
  preserved := by
    intro capture pcap event answer next represents stepped
    change pulsecapStep pcap event = some (answer, next) at stepped
    cases fits : capture.overflows event with
    | true =>
        rw [step_none_of_overflows represents fits] at stepped
        exact absurd stepped (by simp)
    | false =>
        obtain ⟨after, ran, kept⟩ := refines_of_fits event represents fits
        rw [ran, Option.some.injEq, Prod.mk.injEq] at stepped
        exact stepped.2 ▸ kept

theorem reachable_represents {history : List PulsecapEvent} {pcap : PulsecapData}
    (reachable : Reachable history pcap) : Represents (captureOf history) pcap :=
  captureSimulation.run_related zeroed_represents reachable

end Ebaz4205.PulsecapRefinement
