import Mathlib.Data.Fintype.Basic

/-!
# Bits of a machine word under masks

Register and flag code tests `word & mask`, sets with `word | mask` and clears
with `word & ~mask`. A test is true exactly when some bit is in both words, so
facts about flag words reduce to facts about single bits.
-/

namespace Ebaz4205.BitMask

set_option autoImplicit false

variable {width : Nat}

/-- The C truth value of `word & mask`. -/
def isSet (word mask : BitVec width) : Bool := (word &&& mask) != 0

/-- The C operator `!`. -/
def logicalNot (word : BitVec width) : BitVec width :=
  if word = 0 then 1 else 0

theorem isSet_zero (mask : BitVec width) : isSet 0 mask = false := by simp [isSet]

theorem isSet_iff_shared_bit (word mask : BitVec width) :
    isSet word mask = true ↔ ∃ bit, word.getLsbD bit = true ∧ mask.getLsbD bit = true := by
  constructor
  · intro nonzero
    by_contra none
    have empty : word &&& mask = 0 := by
      apply BitVec.eq_of_getLsbD_eq
      intro bit _
      rw [BitVec.getLsbD_and, BitVec.ofNat_eq_ofNat, BitVec.getLsbD_zero]
      cases inWord : word.getLsbD bit with
      | false => rfl
      | true => simpa using fun inMask => none ⟨bit, inWord, inMask⟩
    simp [isSet, empty] at nonzero
  · rintro ⟨bit, inWord, inMask⟩
    simp only [isSet, bne_iff_ne, ne_eq]
    intro zero
    have cleared : (word &&& mask).getLsbD bit = false := by
      rw [zero, BitVec.ofNat_eq_ofNat, BitVec.getLsbD_zero]
    simp [inWord, inMask] at cleared

theorem isSet_twoPow (word : BitVec width) (bit : Nat) :
    isSet word (BitVec.twoPow width bit) = word.getLsbD bit := by
  rw [Bool.eq_iff_iff, isSet_iff_shared_bit]
  constructor
  · rintro ⟨other, inWord, inMask⟩
    simp only [BitVec.getLsbD_twoPow, Bool.and_eq_true, decide_eq_true_eq] at inMask
    rwa [inMask.2]
  · intro inWord
    have bound : bit < width := BitVec.lt_of_getLsbD inWord
    exact ⟨bit, inWord, by simp [bound]⟩

theorem isSet_or (word left right : BitVec width) :
    isSet word (left ||| right) = (isSet word left || isSet word right) := by
  rw [Bool.eq_iff_iff, Bool.or_eq_true]
  simp only [isSet_iff_shared_bit, BitVec.getLsbD_or, Bool.or_eq_true]
  constructor
  · rintro ⟨bit, inWord, inLeft | inRight⟩
    · exact Or.inl ⟨bit, inWord, inLeft⟩
    · exact Or.inr ⟨bit, inWord, inRight⟩
  · rintro (⟨bit, inWord, inLeft⟩ | ⟨bit, inWord, inRight⟩)
    · exact ⟨bit, inWord, Or.inl inLeft⟩
    · exact ⟨bit, inWord, Or.inr inRight⟩

/-- A mask takes bits away only. -/
theorem isSet_of_masked {word mask other : BitVec width}
    (set : isSet (word &&& mask) other = true) : isSet word other = true := by
  rw [isSet_iff_shared_bit] at set ⊢
  rcases set with ⟨bit, inBoth, inOther⟩
  rw [BitVec.getLsbD_and, Bool.and_eq_true] at inBoth
  exact ⟨bit, inBoth.1, inOther⟩

theorem isSet_masked_off (word mask : BitVec width) : isSet (word &&& ~~~mask) mask = false := by
  rw [Bool.eq_false_iff, Ne, isSet_iff_shared_bit]
  rintro ⟨bit, inBoth, inMask⟩
  simp [inMask] at inBoth

section SingleBits

variable (word : BitVec width) (bit other : Nat) (on : Bool)

theorem isSet_set (bound : bit < width) :
    isSet (word ||| BitVec.twoPow width bit) (BitVec.twoPow width bit) = true := by
  simp [isSet_twoPow, bound]

theorem isSet_set_other (apart : bit ≠ other) :
    isSet (word ||| BitVec.twoPow width bit) (BitVec.twoPow width other) =
      isSet word (BitVec.twoPow width other) := by
  simp [isSet_twoPow, apart]

theorem isSet_clear :
    isSet (word &&& ~~~BitVec.twoPow width bit) (BitVec.twoPow width bit) = false := by
  simp [isSet_twoPow]

theorem isSet_clear_other (apart : bit ≠ other) :
    isSet (word &&& ~~~BitVec.twoPow width bit) (BitVec.twoPow width other) =
      isSet word (BitVec.twoPow width other) := by
  rw [isSet_twoPow, isSet_twoPow, BitVec.getLsbD_and, BitVec.getLsbD_not, BitVec.getLsbD_twoPow]
  by_cases bound : other < width
  · simp [apart, bound]
  · simp [BitVec.getLsbD_of_ge word other (Nat.le_of_not_lt bound)]

/-- `word` with the bits of `mask` all set or all cleared. -/
def assign (word mask : BitVec width) (on : Bool) : BitVec width :=
  if on then word ||| mask else word &&& ~~~mask

theorem isSet_assign (bound : bit < width) :
    isSet (assign word (BitVec.twoPow width bit) on) (BitVec.twoPow width bit) = on := by
  cases on with
  | true => exact isSet_set word bit bound
  | false => exact isSet_clear word bit

theorem isSet_assign_other (apart : bit ≠ other) :
    isSet (assign word (BitVec.twoPow width bit) on) (BitVec.twoPow width other) =
      isSet word (BitVec.twoPow width other) := by
  cases on with
  | true => exact isSet_set_other word bit other apart
  | false => exact isSet_clear_other word bit other apart

end SingleBits

/-- `!word & 1` asks whether the whole word is zero, not whether bit 0 is clear. -/
theorem isSet_logicalNot_one (word : BitVec width) (positive : 0 < width) :
    isSet (logicalNot word) (BitVec.twoPow width 0) = decide (word = 0) := by
  rw [isSet_twoPow]
  unfold logicalNot
  split <;> simp_all

end Ebaz4205.BitMask
