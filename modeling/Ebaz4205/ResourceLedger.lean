import Mathlib.Algebra.BigOperators.Group.List.Basic
import Mathlib.Algebra.Order.Ring.Int

/-!
# A ledger of resources

The entries of a program's life that concern what it must give back: it acquires
a resource, uses it, and releases it. A ledger is balanced when nothing is held at
its end, and safe when each use is of something held.
-/

namespace Ebaz4205.ResourceLedger

set_option autoImplicit false

inductive LedgerEntry (Resource : Type*) where
  | acquired (resource : Resource)
  | released (resource : Resource)
  | used (resource : Resource)
  deriving DecidableEq

abbrev Ledger (Resource : Type*) := List (LedgerEntry Resource)

variable {Resource : Type*} [DecidableEq Resource]

def LedgerEntry.change (resource : Resource) : LedgerEntry Resource → Int
  | .acquired other => if other = resource then 1 else 0
  | .released other => if other = resource then -1 else 0
  | .used _ => 0

/-- How often the resource has been acquired and not been released. -/
def held (ledger : Ledger Resource) (resource : Resource) : Int :=
  (ledger.map (LedgerEntry.change resource)).sum

def Balanced (ledger : Ledger Resource) : Prop := ∀ resource, held ledger resource = 0

def UsedWhileHeld (ledger : Ledger Resource) : Prop :=
  ∀ before resource rest, ledger = before ++ .used resource :: rest → 0 < held before resource

section Sums

variable (resource : Resource) (ledger more : Ledger Resource)

@[simp] theorem held_nil : held [] resource = 0 := rfl

@[simp] theorem held_cons (entry : LedgerEntry Resource) :
    held (entry :: ledger) resource = entry.change resource + held ledger resource := by
  rw [held, List.map_cons, List.sum_cons, held]

@[simp] theorem held_append :
    held (ledger ++ more) resource = held ledger resource + held more resource := by
  rw [held, List.map_append, List.sum_append, held, held]

/-- Uses move nothing. -/
theorem held_of_uses (uses : ∀ entry ∈ ledger, ∃ other, entry = .used other) :
    held ledger resource = 0 := by
  apply List.sum_eq_zero
  intro change member
  obtain ⟨entry, inLedger, same⟩ := List.mem_map.mp member
  obtain ⟨other, isUse⟩ := uses entry inLedger
  rw [← same, isUse]
  rfl

theorem held_nonneg_of_unreleased (kept : .released resource ∉ ledger) :
    0 ≤ held ledger resource := by
  induction ledger with
  | nil => exact le_refl _
  | cons entry rest ih =>
      rw [held_cons]
      have tail := ih fun member => kept (List.mem_cons_of_mem _ member)
      have head : 0 ≤ entry.change resource := by
        cases entry with
        | acquired other =>
            rw [LedgerEntry.change]
            split <;> decide
        | released other =>
            have apart : other ≠ resource := by
              intro same
              rw [same] at kept
              exact kept List.mem_cons_self
            rw [LedgerEntry.change, if_neg apart]
        | used other => exact le_refl _
      exact Int.add_nonneg head tail

end Sums

section Safety

variable {front more : Ledger Resource}

theorem usedWhileHeld_nil : UsedWhileHeld ([] : Ledger Resource) := by
  intro before resource rest same
  exact absurd same (by simp)

/-- Nothing that comes later makes an earlier use unsafe. -/
theorem usedWhileHeld_append_unused (safe : UsedWhileHeld front)
    (unused : ∀ resource, .used resource ∉ more) : UsedWhileHeld (front ++ more) := by
  intro before resource rest same
  rcases List.append_eq_append_iff.mp same with ⟨gap, _, tail⟩ | ⟨gap, head, tail⟩
  · exact absurd (by rw [tail]; simp) (unused resource)
  · cases gap with
    | nil =>
        rw [List.nil_append] at tail
        exact absurd (by rw [← tail]; exact List.mem_cons_self) (unused resource)
    | cons entry later =>
        rw [List.cons_append, List.cons.injEq] at tail
        rw [← tail.1] at head
        exact safe before resource later head

/-- What is held at some point is used safely until it is released. -/
theorem usedWhileHeld_append_kept (safe : UsedWhileHeld front)
    (kept : ∀ resource, .used resource ∈ more →
      0 < held front resource ∧ .released resource ∉ more) : UsedWhileHeld (front ++ more) := by
  intro before resource rest same
  rcases List.append_eq_append_iff.mp same with ⟨gap, middle, tail⟩ | ⟨gap, head, tail⟩
  · have member : .used resource ∈ more := by
      rw [tail]
      simp
    obtain ⟨owned, unreleased⟩ := kept resource member
    have stays := held_nonneg_of_unreleased resource gap fun released => unreleased (by
      rw [tail]
      exact List.mem_append_left _ released)
    rw [middle, held_append]
    omega
  · cases gap with
    | nil =>
        rw [List.nil_append] at tail
        rw [List.append_nil] at head
        have member : .used resource ∈ more := by
          rw [← tail]
          exact List.mem_cons_self
        rw [← head]
        exact (kept resource member).1
    | cons entry later =>
        rw [List.cons_append, List.cons.injEq] at tail
        rw [← tail.1] at head
        exact safe before resource later head

end Safety

end Ebaz4205.ResourceLedger
