import Mathlib.Data.List.Destutter
import Mathlib.Data.List.DropRight

/-!
# The greedy alternating subsequence of a stream

Everything before the first opening item is dropped, and from there an item is
kept exactly when it differs from the last one kept. The same list is obtained
by offering the items one at a time to a filter that knows only what it kept.
-/

namespace Ebaz4205.AlternatingSubsequence

set_option autoImplicit false

variable {Item : Type*} (opening : Item → Bool) (differ : Item → Item → Prop)
  [DecidableRel differ]

def alternating (items : List Item) : List Item :=
  (items.dropWhile fun item => !opening item).destutter differ

/-- One step of the filter: what is kept after one more item is offered. -/
def offer (kept : List Item) (item : Item) : List Item :=
  match kept.getLast? with
  | none => if opening item then [item] else []
  | some last => if differ last item then kept ++ [item] else kept

theorem offer_nil (item : Item) :
    offer opening differ [] item = if opening item then [item] else [] := rfl

theorem offer_concat (kept : List Item) (last item : Item) :
    offer opening differ (kept ++ [last]) item =
      if differ last item then kept ++ [last] ++ [item] else kept ++ [last] := by
  simp [offer]

theorem offer_length_le (kept : List Item) (item : Item) :
    (offer opening differ kept item).length ≤ kept.length + 1 := by
  rcases kept.eq_nil_or_concat' with rfl | ⟨front, last, rfl⟩
  · rw [offer_nil]
    split <;> simp
  · rw [offer_concat]
    split <;> simp

theorem prefix_offer (kept : List Item) (item : Item) :
    kept <+: offer opening differ kept item := by
  rcases kept.eq_nil_or_concat' with rfl | ⟨front, last, rfl⟩
  · exact List.nil_prefix
  · rw [offer_concat]
    split
    · exact List.prefix_append _ _
    · exact List.prefix_rfl

theorem destutter_append_singleton (anchor item : Item) (items : List Item) :
    (items ++ [item]).destutter' differ anchor =
      offer opening differ (items.destutter' differ anchor) item := by
  induction items generalizing anchor with
  | nil =>
      rw [List.nil_append, List.destutter'_singleton, List.destutter'_nil]
      exact (offer_concat opening differ [] anchor item).symm
  | cons head rest ih =>
      rw [List.cons_append, List.destutter'_cons, List.destutter'_cons]
      split
      · rw [ih head]
        rcases (rest.destutter' differ head).eq_nil_or_concat' with empty | ⟨front, last, same⟩
        · exact absurd empty (List.destutter'_ne_nil rest differ)
        · rw [same, offer_concat, ← List.cons_append, offer_concat]
          split <;> rfl
      · exact ih anchor

/-- Offering one more item to the filter is appending it to the stream. -/
theorem alternating_append_singleton (items : List Item) (item : Item) :
    alternating opening differ (items ++ [item]) =
      offer opening differ (alternating opening differ items) item := by
  unfold alternating
  induction items with
  | nil =>
      cases starts : opening item <;>
        simp [List.dropWhile, starts, offer_nil]
  | cons head rest ih =>
      cases starts : opening head with
      | true =>
          simp only [List.cons_append, List.dropWhile_cons, starts, Bool.not_true,
            Bool.false_eq_true, if_false]
          exact destutter_append_singleton opening differ head item rest
      | false =>
          simp only [List.cons_append, List.dropWhile_cons, starts, Bool.not_false, if_true]
          exact ih

theorem alternating_prefix_append (items more : List Item) :
    alternating opening differ items <+: alternating opening differ (items ++ more) := by
  induction more using List.reverseRecOn with
  | nil =>
      simp only [List.append_nil, List.prefix_rfl]
  | append_singleton more item ih =>
      rw [← List.append_assoc, alternating_append_singleton]
      exact ih.trans (prefix_offer opening differ _ _)

end Ebaz4205.AlternatingSubsequence
