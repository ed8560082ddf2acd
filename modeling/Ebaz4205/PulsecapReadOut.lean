import Ebaz4205.PulsecapCounts
import Ebaz4205.WordBytes

/-!
# The read-out through sysfs

`edge_data` is a page of words. The driver writes the words of a capture into it
and returns their size in bytes; sysfs hands the page on up to that size, but not
all of it. A capture of no edges still records one, and a capture of as many
edges as the page holds is one byte too long.
-/

namespace Ebaz4205.PulsecapReadOut

open PartialRuns WordBytes PulsecapBounds PulsecapCapture PulsecapCounts PulsecapDriver
open PulsecapOperations PulsecapRefinement PulsecapSequence

set_option autoImplicit false

/-- What sysfs passes to `show`. -/
structure Page where
  bytes : List Byte
  whole : bytes.length = pageSize

/-- The bytes from the beginning of the page on, after these words were written to it. -/
def Page.filled (page : Page) (order : ByteOrder) (words : List U32) : List Byte :=
  (wordCodec order).encodeAll words ++ page.bytes.drop (sizeofEdgeCount * words.length)

/-- How many bytes sysfs hands on when `show` has returned this count. -/
def handedOn (count : Int) : Nat :=
  if pageSize ≤ count.toNat then pageSize - 1 else count.toNat

namespace Capture

/-- A capture is done or was cancelled. -/
def Over : Capture → Prop
  | .never => False
  | .capturing target edges => complete target edges = true
  | .cancelled _ _ => True

/-- The values of the recorded edges. -/
def recorded (capture : Capture) : List U32 :=
  (capturedEdges capture.target capture.edges).map PulseData.edgeCount

/-- A capture that is over has recorded no more edges than it was asked for, and fewer
than fill the page. -/
def ReadsWhole (capture : Capture) : Prop :=
  Over capture → (recorded capture).length ≤ capture.target.toNat ∧
    (recorded capture).length < pulsecapMaxCount

end Capture

/-- The driver stays inside the page, and user space gets the recorded edges of a
capture that is over. Otherwise nothing changes. -/
structure ReadsOut (order : ByteOrder) (history : List PulsecapEvent) (pcap : PulsecapData) :
    Prop where
  served : Capture.Over (captureOf history) → ∀ (page : Page) (readings : Readings),
    ∃ count words next,
      pulsecapStep pcap ⟨.edgeDataShow, readings⟩ = some (⟨some count, words⟩, next) ∧
        sizeofEdgeCount * words.length ≤ pageSize ∧
          (wordCodec order).decodeAll ((page.filled order words).take (handedOn count)) =
            (Capture.recorded (captureOf history), [])
  refused : ¬Capture.Over (captureOf history) → ∀ readings,
    pulsecapStep pcap ⟨.edgeDataShow, readings⟩ = some (⟨some (-ebusy), []⟩, pcap)

section Pages

variable {order : ByteOrder} {page : Page} {words : List U32}

theorem length_encoded (order : ByteOrder) (words : List U32) :
    ((wordCodec order).encodeAll words).length = sizeofEdgeCount * words.length := by
  rw [FixedCodec.length_encodeAll, size_wordCodec]
  rfl

/-- Fewer words than fill the page are handed on as they are. -/
theorem decode_short (short : words.length < pulsecapMaxCount) :
    (wordCodec order).decodeAll ((page.filled order words).take
      (handedOn (words.length * sizeofEdgeCount))) = (words, []) := by
  have most : pulsecapMaxCount = 1024 := rfl
  have bytes : pageSize = 4096 := rfl
  have handed : handedOn (words.length * sizeofEdgeCount) =
      ((wordCodec order).encodeAll words).length := by
    rw [length_encoded]
    unfold handedOn sizeofEdgeCount
    rw [if_neg (by omega)]
    omega
  rw [handed, Page.filled, List.take_left, ← List.append_nil ((wordCodec order).encodeAll words)]
  exact FixedCodec.decodeAll_encodeAll words (wordCodec order).positive

/-- Words that fill the page lose the last byte. -/
theorem left_full (full : words.length = pulsecapMaxCount) :
    ((wordCodec order).decodeAll ((page.filled order words).take
      (handedOn (words.length * sizeofEdgeCount)))).2.length = 3 := by
  have handed : handedOn (words.length * sizeofEdgeCount) = 4095 := by
    rw [full]
    decide
  rw [FixedCodec.length_left, size_wordCodec, handed, List.length_take, Page.filled,
    List.length_append, length_encoded, full]
  rw [Nat.min_eq_left]
  have bytes : sizeofEdgeCount * pulsecapMaxCount = 4096 := by decide
  omega

end Pages

section Words

variable {capture : Capture} {pcap : PulsecapData} {history : List PulsecapEvent}

theorem length_recorded (represents : Represents capture pcap) :
    (Capture.recorded capture).length ≤ pulsecapMaxCount := by
  rw [Capture.recorded, List.length_map]
  cases represents with
  | never _ _ _ => exact Nat.zero_le _
  | @capturing target edges _ _ _ bounded _ _ => exact capturedEdges_length_le target edges bounded
  | @cancelled target edges _ _ _ bounded _ => exact capturedEdges_length_le target edges bounded

/-- What the read-out of a capture that is over copies. -/
theorem read_over (ended : Capture.Over capture) :
    capture.read capture.target.toNat =
      some ((Capture.recorded capture).take capture.target.toNat) := by
  cases capture with
  | never => exact ended.elim
  | capturing target edges =>
      have copied : capturedEdges target edges = (accepted edges).take (storeLimit target) := rfl
      have finished : complete target edges = true := ended
      rw [Capture.read, Capture.readable, if_pos finished, Capture.recorded, ← List.map_take]
      change some (((accepted edges).take (min target.toNat target.toNat)).map _) =
        some (((capturedEdges target edges).take target.toNat).map _)
      have below : target.toNat ≤ storeLimit target := Nat.le_max_right _ _
      rw [copied, List.take_take, Nat.min_self, Nat.min_eq_left below]
  | cancelled target edges =>
      rw [Capture.read, Capture.readable, Capture.recorded, ← List.map_take]
      change some (((accepted edges).take
        (min target.toNat (capturedEdges target edges).length)).map _) =
          some (((capturedEdges target edges).take target.toNat).map _)
      rw [← (take_captured target edges _ (Nat.min_le_right _ _)).1, ← List.take_eq_take_min]

theorem read_running (running : ¬Capture.Over capture) (count : Nat) :
    capture.read count = none := by
  cases capture with
  | never => rfl
  | capturing target edges =>
      have unfinished : ¬complete target edges = true := running
      rw [Capture.read, Capture.readable, if_neg unfinished]
      rfl
  | cancelled target edges => exact absurd trivial running

theorem step_edgeDataShow (represents : Represents capture pcap) (readings : Readings) :
    ∃ next, pulsecapStep pcap ⟨.edgeDataShow, readings⟩ =
      some (readAnswer sizeofEdgeCount (capture.read capture.target.toNat), next) := by
  have refines : Refines capture pcap ⟨.edgeDataShow, readings⟩ := refines_edgeDataShow represents
  rcases refines with ⟨next, stepped, _⟩
  exact ⟨next, stepped⟩

end Words

section States

variable {order : ByteOrder} {history : List PulsecapEvent} {pcap : PulsecapData}

theorem readsWhole_of_readsOut (represents : Represents (captureOf history) pcap)
    (reads : ReadsOut order history pcap) : Capture.ReadsWhole (captureOf history) := by
  intro ended
  have page : ∃ page : Page, page.bytes = List.replicate pageSize 0 :=
    ⟨⟨_, List.length_replicate⟩, rfl⟩
  obtain ⟨page, _⟩ := page
  obtain ⟨count, words, next, stepped, _, decoded⟩ := reads.served ended page fun _ _ => 0
  obtain ⟨after, copied⟩ := step_edgeDataShow represents fun _ _ => 0
  rw [read_over ended, stepped, Option.some.injEq, Prod.mk.injEq, readAnswer, Answer.mk.injEq,
    Option.some.injEq] at copied
  obtain ⟨⟨same, taken⟩, _⟩ := copied
  rw [same, ← taken] at decoded
  have most : words.length ≤ pulsecapMaxCount := by
    rw [taken]
    exact (List.length_take_le' _ _).trans (length_recorded represents)
  by_cases full : words.length = pulsecapMaxCount
  · have left := @left_full order page words full
    rw [decoded] at left
    cases left
  · have short : words.length < pulsecapMaxCount := Nat.lt_of_le_of_ne most full
    rw [decode_short short, Prod.mk.injEq] at decoded
    rw [← decoded.1]
    refine ⟨?_, short⟩
    rw [taken]
    exact List.length_take_le _ _

theorem readsOut_of_readsWhole (represents : Represents (captureOf history) pcap)
    (whole : Capture.ReadsWhole (captureOf history)) : ReadsOut order history pcap := by
  constructor
  · intro ended page readings
    obtain ⟨wanted, short⟩ := whole ended
    obtain ⟨next, stepped⟩ := step_edgeDataShow represents readings
    rw [read_over ended, List.take_of_length_le wanted] at stepped
    refine ⟨_, _, next, stepped, ?_, decode_short short⟩
    have bytes : pageSize = sizeofEdgeCount * pulsecapMaxCount := by decide
    rw [bytes]
    exact Nat.mul_le_mul_left _ short.le
  · intro running readings
    exact step_edgeDataShow_refused represents (read_running running _)

/-- In every reachable state the read-out is right exactly if a capture that is over has
recorded no more than was asked for, and less than fills the page. -/
theorem edge_data_read_iff (order : ByteOrder) (reachable : Reachable history pcap) :
    ReadsOut order history pcap ↔ Capture.ReadsWhole (captureOf history) :=
  ⟨readsWhole_of_readsOut (reachable_represents reachable),
    readsOut_of_readsWhole (reachable_represents reachable)⟩

/-- The two edges before the capture was cancelled are read out. -/
theorem cancelled_capture_read : ∃ pcap, Reachable cancelledEarly pcap ∧
    (Capture.recorded (captureOf cancelledEarly)).length = 2 ∧
      ReadsOut .little cancelledEarly pcap := by
  have reached : ∃ pcap, Reachable cancelledEarly pcap := ⟨_, _, rfl⟩
  obtain ⟨pcap, reachable⟩ := reached
  refine ⟨pcap, reachable, rfl, (edge_data_read_iff .little reachable).mpr ?_⟩
  exact fun _ => ⟨by decide, by decide⟩

end States

section Misread

/-- Up to as many edges as the array holds, a square wave is handled. -/
theorem squareWave_reachable (count : Nat) (fits : count ≤ pulsecapMaxCount) :
    ∃ pcap, Reachable (fullCapture ++ squareWave count) pcap := by
  induction count with
  | zero => exact ⟨PulsecapData.zeroed.armed 1024, _, rfl⟩
  | succ count ih =>
      obtain ⟨pcap, reachable⟩ := ih (Nat.le_of_succ_le fits)
      obtain ⟨edges, current, length, _⟩ := squareWave_capture count
      have represents := reachable_represents reachable
      rw [current] at represents
      have grown := accepted_length_concat_le edges
        (deliveredEdge (levelReadings (count % 2 = 0)))
      have inside : (Capture.capturing 1024 edges).overflows
          ⟨.timerIrq, levelReadings (count % 2 = 0)⟩ = false := by
        apply Bool.and_eq_false_imp.mpr
        intro _
        rw [decide_eq_false_iff_not]
        change ¬pulsecapMaxCount < (accepted (edges ++
          [deliveredEdge (levelReadings (count % 2 = 0))])).length
        omega
      obtain ⟨next, stepped, _⟩ := refines_timerIrq represents inside
      refine ⟨next, ?_⟩
      rw [squareWave, ← List.append_assoc]
      apply (pulsecapSystem.reaches_append _ _ _ _).mpr
      exact ⟨pcap, reachable, (pulsecapSystem.reaches_singleton _ _ _).mpr ⟨_, stepped⟩⟩

def cancelledFullCapture : List PulsecapEvent :=
  fullCapture ++ squareWave 1024 ++ [⟨.cancelCapture, levelReadings false⟩]

theorem cancelledFullCapture_ends :
    ∃ pcap edges, Reachable cancelledFullCapture pcap ∧
      captureOf cancelledFullCapture = .cancelled 1024 edges ∧ (accepted edges).length = 1024 := by
  obtain ⟨pcap, reachable⟩ := squareWave_reachable 1024 (by decide)
  obtain ⟨edges, current, length, _⟩ := squareWave_capture 1024
  have represents := reachable_represents reachable
  have refines : Refines (captureOf (fullCapture ++ squareWave 1024)) pcap
    ⟨.cancelCapture, levelReadings false⟩ := refines_cancelCapture represents
  rcases refines with ⟨cancelled, stepped, _⟩
  refine ⟨cancelled, edges, ?_, ?_, length⟩
  · apply (pulsecapSystem.reaches_append _ _ _ _).mpr
    exact ⟨pcap, reachable, (pulsecapSystem.reaches_singleton _ _ _).mpr ⟨_, stepped⟩⟩
  · rw [cancelledFullCapture, captureOf_append, current]
    rfl

def completedEmptyCapture : List PulsecapEvent :=
  [⟨.startCapture 0, levelReadings false⟩, ⟨.timerIrq, levelReadings true⟩,
    ⟨.timerIrq, levelReadings false⟩]

/-- Of a cancelled capture of 1024 edges the last is cut, and of a completed capture of
no edges the one that was recorded is missing. -/
theorem captures_misread :
    (∃ pcap, Reachable cancelledFullCapture pcap ∧
        ∀ order, ¬ReadsOut order cancelledFullCapture pcap) ∧
      ∃ pcap, Reachable completedEmptyCapture pcap ∧
        ∀ order, ¬ReadsOut order completedEmptyCapture pcap := by
  constructor
  · obtain ⟨pcap, edges, reachable, current, length⟩ := cancelledFullCapture_ends
    refine ⟨pcap, reachable, ?_⟩
    intro order reads
    have whole := readsWhole_of_readsOut (reachable_represents reachable) reads
    rw [current] at whole
    obtain ⟨_, short⟩ := whole trivial
    rw [Capture.recorded, List.length_map] at short
    change (capturedEdges 1024 edges).length < 1024 at short
    rw [capturedEdges, List.length_take, length] at short
    exact absurd short (by decide)
  · have reached : ∃ pcap, Reachable completedEmptyCapture pcap := ⟨_, _, rfl⟩
    obtain ⟨pcap, reachable⟩ := reached
    refine ⟨pcap, reachable, ?_⟩
    intro order reads
    have whole := readsWhole_of_readsOut (reachable_represents reachable) reads
    have ended : Capture.Over (captureOf completedEmptyCapture) := by
      change complete 0 _ = true
      decide
    have wanted : 1 ≤ 0 := (whole ended).1
    exact absurd wanted (by decide)

end Misread

end Ebaz4205.PulsecapReadOut
