import Ebaz4205.PulsecapSequence

/-!
# Whether the two counts agree

`pulsecap_edges_captured` and `pulsecap_read_edges` count the edges of a capture
from different fields under different flags. Over the abstract capture the two
counts are compared in every phase and for every target.
-/

namespace Ebaz4205.PulsecapCounts

open PartialRuns PulsecapBounds PulsecapCapture PulsecapDriver PulsecapOperations
  PulsecapRefinement PulsecapSequence

set_option autoImplicit false

/-- The count is always defined, it is the number of edges that a reader of the
whole array gets if it gets any, and it is zero before the first capture. -/
structure CountsAgree (history : List PulsecapEvent) (pcap : PulsecapData) : Prop where
  defined : ∀ readings, ∃ captured : Int,
    pulsecapStep pcap ⟨.edgesCaptured, readings⟩ = some (⟨some captured, []⟩, pcap)
  readable : ∀ readings later count captured answer next,
    pulsecapStep pcap ⟨.edgesCaptured, readings⟩ = some (⟨some captured, []⟩, pcap) →
    pulsecapMaxCount ≤ count.toNat →
    pulsecapStep pcap ⟨.readEdges count, later⟩ = some (answer, next) →
    answer.value ≠ some (-ebusy) → answer.value = some captured
  fresh : captureOf history = .never → ∀ readings,
    pulsecapStep pcap ⟨.edgesCaptured, readings⟩ = some (⟨some 0, []⟩, pcap)

/-- A capture has been started, and it is not a completed capture of no edges. -/
def Countable : Capture → Prop
  | .never => False
  | .capturing target edges => ¬(target.toNat = 0 ∧ complete target edges = true)
  | .cancelled _ _ => True

section Answers

variable {capture : Capture} {pcap : PulsecapData}

theorem captured_of_step (represents : Represents capture pcap) {readings : Readings}
    {captured : Int}
    (stepped : pulsecapStep pcap ⟨.edgesCaptured, readings⟩ = some (⟨some captured, []⟩, pcap)) :
    capture.captured.map Int.ofNat = some captured := by
  rw [step_edgesCaptured represents, Option.some.injEq, Prod.mk.injEq] at stepped
  exact congrArg Answer.value stepped.1

/-- What a reader of the whole array is told. -/
theorem value_of_read (represents : Represents capture pcap) {readings : Readings} {count : U32}
    {answer : Answer} {next : PulsecapData}
    (stepped : pulsecapStep pcap ⟨.readEdges count, readings⟩ = some (answer, next)) :
    answer = readAnswer 1 (capture.read count.toNat) := by
  rw [step_readEdges represents, Option.some.injEq, Prod.mk.injEq] at stepped
  exact stepped.1.symm

theorem readAnswer_value (words : List U32) : (readAnswer 1 (some words)).value =
    some (words.length : Int) := by
  rw [readAnswer, Int.mul_one]

/-- The length of what a reader of the whole array gets. -/
theorem read_length {count limit : Nat} (all : pulsecapMaxCount ≤ count)
    (bounded : limit ≤ pulsecapMaxCount) (readable : capture.readable = some limit)
    (enough : limit ≤ (accepted capture.edges).length) :
    ∃ words, capture.read count = some words ∧ words.length = limit := by
  refine ⟨_, by rw [Capture.read, readable]; rfl, ?_⟩
  rw [List.length_map, List.length_take]
  omega

theorem read_completed {target : U32} {edges : List PulseData} (count : Nat)
    (bounded : target.toNat ≤ pulsecapMaxCount) (all : pulsecapMaxCount ≤ count)
    (finished : complete target edges = true) :
    ∃ words, (Capture.capturing target edges).read count = some words ∧
      words.length = target.toNat := by
  apply read_length all bounded
  · exact if_pos finished
  · rw [complete_iff, storeLimit] at finished
    change target.toNat ≤ (accepted edges).length
    omega

theorem read_cancelled {target : U32} (edges : List PulseData) (count : Nat)
    (bounded : target.toNat ≤ pulsecapMaxCount) (all : pulsecapMaxCount ≤ count) :
    ∃ words, (Capture.cancelled target edges).read count = some words ∧
      words.length = (capturedEdges target edges).length := by
  apply read_length all (capturedEdges_length_le target edges bounded) rfl
  exact List.length_take_le' _ _

theorem completed_length {target : U32} {edges : List PulseData}
    (finished : complete target edges = true) :
    (capturedEdges target edges).length = max 1 target.toNat := by
  rw [complete_iff] at finished
  rw [capturedEdges, List.length_take, Nat.min_eq_left (Nat.le_of_lt finished)]
  rfl

end Answers

section States

variable {history : List PulsecapEvent} {capture : Capture} {pcap : PulsecapData}

theorem not_countsAgree_never (represents : Represents .never pcap) :
    ¬CountsAgree history pcap := by
  intro agree
  obtain ⟨captured, stepped⟩ := agree.defined fun _ _ => 0
  exact absurd (captured_of_step represents stepped) (by simp [Capture.captured])

/-- A completed capture of no edges counts one and lets none be read. -/
theorem not_countsAgree_none {target : U32} {edges : List PulseData}
    (represents : Represents (.capturing target edges) pcap) (none : target.toNat = 0)
    (finished : complete target edges = true) : ¬CountsAgree history pcap := by
  intro agree
  have bounded : target.toNat ≤ pulsecapMaxCount := by
    rw [none]
    exact Nat.zero_le _
  obtain ⟨captured, counted⟩ := agree.defined fun _ _ => 0
  obtain ⟨words, read, length⟩ :=
    read_completed (1024 : U32).toNat bounded (by decide) finished
  have stepped : pulsecapStep pcap ⟨.readEdges 1024, fun _ _ => 0⟩ = _ :=
    step_readEdges represents 1024
  rw [read] at stepped
  have notBusy : (readAnswer 1 (some words)).value ≠ some (-ebusy) := by
    rw [readAnswer_value, length, none]
    decide
  have same := agree.readable _ _ _ _ _ _ counted (by decide) stepped notBusy
  have one := captured_of_step represents counted
  rw [readAnswer_value, length, none, ← one, Capture.captured, completed_length finished,
    none] at same
  exact absurd same (by decide)

/-- Where an answer to a reader of the whole array counts the captured edges. -/
theorem countsAgree_of_reads (represents : Represents capture pcap)
    (current : captureOf history = capture) {captured : Nat}
    (counts : capture.captured = some captured)
    (reads : ∀ count, pulsecapMaxCount ≤ count → ∀ words, capture.read count = some words →
      words.length = captured) : CountsAgree history pcap := by
  have counted : ∀ readings, pulsecapStep pcap ⟨.edgesCaptured, readings⟩ =
      some (⟨some (captured : Int), []⟩, pcap) := by
    intro readings
    rw [step_edgesCaptured represents]
    change some ((⟨capture.captured.map Int.ofNat, []⟩ : Answer), pcap) = _
    rw [counts]
    rfl
  constructor
  · intro readings
    exact ⟨captured, counted readings⟩
  · intro readings later count other answer next stepped all readStep notBusy
    have sameCount := captured_of_step represents stepped
    rw [counts] at sameCount
    have answers := value_of_read represents readStep
    rw [answers] at notBusy ⊢
    cases read : capture.read count.toNat with
    | none =>
        rw [read] at notBusy
        exact absurd rfl notBusy
    | some words =>
        rw [readAnswer_value, reads count.toNat all words read]
        exact sameCount
  · intro fresh
    rw [← current, fresh] at counts
    exact absurd counts (by simp [Capture.captured])

theorem countsAgree_of_countable (represents : Represents capture pcap)
    (current : captureOf history = capture) (countable : Countable capture) :
    CountsAgree history pcap := by
  cases represents with
  | never _ _ _ => exact countable.elim
  | @capturing target edges _ marks same bounded stores ended =>
      apply countsAgree_of_reads (.capturing marks same bounded stores ended) current rfl
      intro count all words read
      cases finished : complete target edges with
      | false =>
          rw [Capture.read, Capture.readable, if_neg (by rw [finished]; decide)] at read
          exact absurd read (by simp)
      | true =>
          obtain ⟨others, readAll, length⟩ := read_completed count bounded all finished
          rw [readAll, Option.some.injEq] at read
          have wanted : target.toNat ≠ 0 := fun none => countable ⟨none, finished⟩
          rw [← read, length, completed_length finished]
          omega
  | @cancelled target edges _ marks same bounded stores =>
      apply countsAgree_of_reads (.cancelled marks same bounded stores) current rfl
      intro count all words read
      obtain ⟨others, readAll, length⟩ := read_cancelled edges count bounded all
      rw [readAll, Option.some.injEq] at read
      rw [← read, length]

/-- In every reachable state the two counts agree exactly when a capture has been
started that is not a completed capture of no edges. -/
theorem counts_agree_iff (reachable : Reachable history pcap) :
    CountsAgree history pcap ↔ Countable (captureOf history) := by
  have represents := reachable_represents reachable
  constructor
  · intro agree
    cases current : captureOf history with
    | never =>
        rw [current] at represents
        exact absurd agree (not_countsAgree_never represents)
    | capturing target edges =>
        rw [current] at represents
        intro unusable
        exact not_countsAgree_none represents unusable.1 unusable.2 agree
    | cancelled target edges => trivial
  · exact countsAgree_of_countable represents rfl

/-- The two edges before the capture was cancelled are counted and read. -/
theorem cancelled_capture_counts_agree : ∃ pcap, Reachable cancelledEarly pcap ∧
    (captureOf cancelledEarly).captured = some 2 ∧ CountsAgree cancelledEarly pcap := by
  have reached : ∃ pcap, Reachable cancelledEarly pcap := ⟨_, _, rfl⟩
  obtain ⟨pcap, reachable⟩ := reached
  exact ⟨pcap, reachable, rfl, (counts_agree_iff reachable).mpr trivial⟩

/-- A probed instance counts nothing at all, and a capture of no edges that two
edges have completed counts one edge, of which none can be read. -/
theorem counts_disagree :
    ¬CountsAgree [] .zeroed ∧
      ∃ pcap, Reachable [⟨.startCapture 0, levelReadings false⟩,
          ⟨.timerIrq, levelReadings true⟩, ⟨.timerIrq, levelReadings false⟩] pcap ∧
        ¬CountsAgree [⟨.startCapture 0, levelReadings false⟩,
          ⟨.timerIrq, levelReadings true⟩, ⟨.timerIrq, levelReadings false⟩] pcap := by
  have reached : ∃ pcap, Reachable [⟨.startCapture 0, levelReadings false⟩,
      ⟨.timerIrq, levelReadings true⟩, ⟨.timerIrq, levelReadings false⟩] pcap := ⟨_, _, rfl⟩
  obtain ⟨pcap, reachable⟩ := reached
  have represents : Represents (.capturing 0 [deliveredEdge (levelReadings true),
      deliveredEdge (levelReadings false)]) pcap := reachable_represents reachable
  exact ⟨not_countsAgree_never zeroed_represents, pcap, reachable,
    not_countsAgree_none represents rfl (by decide)⟩

end States

end Ebaz4205.PulsecapCounts
