import Mathlib.Algebra.BigOperators.Group.List.Basic
import Mathlib.Algebra.Group.Action.Defs

/-!
# Writes of some bits of a word

A masked write sets the bits of its mask and leaves the others. Masked writes
compose to masked writes, and the later one wins where both have a bit, so
writing again what was written before changes nothing. A list of masked writes to a
file of registers is, at each register, the product of those that go there.
-/

namespace Ebaz4205.MaskedWrites

set_option autoImplicit false

variable {width : Nat}

/-- The value has no bits outside the mask, so that a masked write is determined by what
it does. -/
structure MaskedWrite (width : Nat) where
  mask : BitVec width
  value : BitVec width
  inside : ∀ bit, value.getLsbD bit = true → mask.getLsbD bit = true

namespace MaskedWrite

/-- What a bit is set to, if it is. -/
def bitAt (write : MaskedWrite width) (bit : Nat) : Option Bool :=
  if write.mask.getLsbD bit then some (write.value.getLsbD bit) else none

theorem value_clear (write : MaskedWrite width) {bit : Nat}
    (outside : write.mask.getLsbD bit = false) : write.value.getLsbD bit = false := by
  apply Bool.eq_false_iff.mpr
  intro set
  rw [write.inside bit set] at outside
  cases outside

/-- The bits of a value that are in a mask. -/
def of (mask value : BitVec width) : MaskedWrite width where
  mask := mask
  value := value &&& mask
  inside := by
    intro bit set
    rw [BitVec.getLsbD_and, Bool.and_eq_true] at set
    exact set.2

/-- `later * earlier` is one after the other. -/
instance : Mul (MaskedWrite width) where
  mul later earlier :=
    { mask := later.mask ||| earlier.mask
      value := later.value ||| (earlier.value &&& ~~~later.mask)
      inside := by
        intro bit set
        rw [BitVec.getLsbD_or, BitVec.getLsbD_and, Bool.or_eq_true, Bool.and_eq_true] at set
        rw [BitVec.getLsbD_or, Bool.or_eq_true]
        exact set.imp (later.inside bit) fun both => earlier.inside bit both.1 }

instance : One (MaskedWrite width) where
  one :=
    { mask := 0
      value := 0
      inside := fun _ => id }

instance : SMul (MaskedWrite width) (BitVec width) where
  smul write word := write.value ||| (word &&& ~~~write.mask)

section Bits

variable (later earlier write : MaskedWrite width) (word mask value : BitVec width) (bit : Nat)

theorem bitAt_one : (1 : MaskedWrite width).bitAt bit = none := by
  change (if (0 : BitVec width).getLsbD bit then _ else _) = _
  rw [BitVec.ofNat_eq_ofNat, BitVec.getLsbD_zero]
  rfl

theorem bitAt_mul : (later * earlier).bitAt bit = (later.bitAt bit).or (earlier.bitAt bit) := by
  by_cases bound : bit < width
  · change (if (later.mask ||| earlier.mask).getLsbD bit then
      some ((later.value ||| (earlier.value &&& ~~~later.mask)).getLsbD bit) else none) = _
    rw [bitAt, bitAt, BitVec.getLsbD_or, BitVec.getLsbD_or, BitVec.getLsbD_and,
      BitVec.getLsbD_not, decide_eq_true bound]
    cases inMask : later.mask.getLsbD bit with
    | true => simp
    | false =>
        rw [value_clear later inMask]
        simp
  · simp [bitAt, BitVec.getLsbD_of_ge _ bit (Nat.le_of_not_lt bound)]

theorem getLsbD_smul :
    (write • word).getLsbD bit = (write.bitAt bit).getD (word.getLsbD bit) := by
  change (write.value ||| (word &&& ~~~write.mask)).getLsbD bit = _
  rw [bitAt, BitVec.getLsbD_or, BitVec.getLsbD_and, BitVec.getLsbD_not]
  cases inMask : write.mask.getLsbD bit with
  | true => simp
  | false =>
      rw [value_clear write inMask]
      by_cases bound : bit < width
      · rw [decide_eq_true bound]
        simp
      · rw [BitVec.getLsbD_of_ge word bit (Nat.le_of_not_lt bound)]
        simp

theorem bitAt_of :
    (of mask value).bitAt bit = if mask.getLsbD bit then some (value.getLsbD bit) else none := by
  change (if mask.getLsbD bit then some ((value &&& mask).getLsbD bit) else none) = _
  by_cases set : mask.getLsbD bit = true
  · rw [if_pos set, if_pos set, BitVec.getLsbD_and, set, Bool.and_true]
  · rw [if_neg set, if_neg set]

end Bits

theorem ext_bitAt {first second : MaskedWrite width}
    (same : ∀ bit, first.bitAt bit = second.bitAt bit) : first = second := by
  have masks : first.mask = second.mask := by
    apply BitVec.eq_of_getLsbD_eq
    intro bit _
    have here := same bit
    rw [bitAt, bitAt] at here
    revert here
    cases first.mask.getLsbD bit <;> cases second.mask.getLsbD bit <;> simp
  have values : first.value = second.value := by
    apply BitVec.eq_of_getLsbD_eq
    intro bit _
    have here := same bit
    rw [bitAt, bitAt, ← masks] at here
    cases inMask : first.mask.getLsbD bit with
    | true =>
        rw [inMask] at here
        exact Option.some.inj here
    | false =>
        rw [value_clear first inMask]
        rw [masks] at inMask
        rw [value_clear second inMask]
  cases first
  cases second
  cases masks
  cases values
  rfl

instance : Monoid (MaskedWrite width) where
  mul_assoc := by
    intro last later earlier
    apply ext_bitAt
    intro bit
    rw [bitAt_mul, bitAt_mul, bitAt_mul, bitAt_mul, Option.or_assoc]
  one_mul := by
    intro write
    apply ext_bitAt
    intro bit
    rw [bitAt_mul, bitAt_one, Option.none_or]
  mul_one := by
    intro write
    apply ext_bitAt
    intro bit
    rw [bitAt_mul, bitAt_one, Option.or_none]

instance : MulAction (MaskedWrite width) (BitVec width) where
  one_smul := by
    intro word
    apply BitVec.eq_of_getLsbD_eq
    intro bit _
    rw [getLsbD_smul, bitAt_one, Option.getD_none]
  mul_smul := by
    intro later earlier word
    apply BitVec.eq_of_getLsbD_eq
    intro bit _
    rw [getLsbD_smul, getLsbD_smul, getLsbD_smul, bitAt_mul, Option.getD_or]

/-- Writing again changes nothing. -/
theorem mul_self (write : MaskedWrite width) : write * write = write := by
  apply ext_bitAt
  intro bit
  rw [bitAt_mul, Option.or_self]

theorem smul_smul_self (write : MaskedWrite width) (word : BitVec width) :
    write • write • word = write • word := by
  rw [← mul_smul, mul_self]

end MaskedWrite

section Files

variable {Address : Type*} [DecidableEq Address]

abbrev FileWrite (Address : Type*) (width : Nat) := Address × MaskedWrite width

/-- What a list of writes does to one register. -/
def written : List (FileWrite Address width) → Address → MaskedWrite width
  | [], _ => 1
  | write :: rest, address => written rest address * if write.1 = address then write.2 else 1

variable (writes more : List (FileWrite Address width)) (address : Address)

theorem written_append :
    written (writes ++ more) address = written more address * written writes address := by
  induction writes with
  | nil => exact (mul_one _).symm
  | cons write rest ih => rw [List.cons_append, written, written, ih, mul_assoc]

variable {address} in
/-- Writes to other registers do not count. -/
theorem written_filter (counted : FileWrite Address width → Bool)
    (here : ∀ write, write.1 = address → counted write = true) :
    written (writes.filter counted) address = written writes address := by
  induction writes with
  | nil => rfl
  | cons write rest ih =>
      by_cases kept : counted write = true
      · rw [List.filter_cons_of_pos kept, written, written, ih]
      · rw [List.filter_cons_of_neg kept, written, ih, if_neg (mt (here write) kept), mul_one]

variable {writes address} in
theorem written_eq_one (away : ∀ write ∈ writes, write.1 ≠ address) :
    written writes address = 1 := by
  induction writes with
  | nil => rfl
  | cons write rest ih =>
      rw [List.forall_mem_cons] at away
      rw [written, ih away.2, if_neg away.1, mul_one]

end Files

end Ebaz4205.MaskedWrites
