import Mathlib.Algebra.Group.Nat.Defs
import Ebaz4205.DecimalText

/-!
# Unsigned numbers that are a text of their own

`kstrtoul` in base 10, as a kernel provides it where an `unsigned long` has no more than 64
bits: a sign in front and a line end behind are the only things a number may come with.
-/

namespace Ebaz4205.UnsignedText

open DecimalText

set_option autoImplicit false

inductive Failure where
  | range
  | invalid
  deriving DecidableEq

/-- What is read of a text as a string of C. -/
def cString (written : List Char) : List Char := written.takeWhile (· ≠ '\x00')

def withoutPlus : List Char → List Char
  | '+' :: text => text
  | text => text

/-- The number is scanned into 64 bits first, and cut off there before anything else is
looked at. -/
def kstrtoul (width : Nat) (text : List Char) : Except Failure Nat :=
  let digits := (withoutPlus text).takeWhile Char.isDigit
  let rest := (withoutPlus text).dropWhile Char.isDigit
  let value := Nat.ofDigitChars 10 digits 0
  if 2 ^ 64 ≤ value then .error .range
  else if digits = [] then .error .invalid
  else if rest ≠ [] ∧ rest ≠ ['\n'] then .error .invalid
  else if 2 ^ width ≤ value then .error .range
  else .ok value

/-- The number without its sign and its line end. -/
def SpellsUnsigned (text : List Char) (value : Nat) : Prop :=
  IsNumber text value ∨ ∃ digits, IsNumber digits value ∧ text = digits ++ ['\n']

def Spells (text : List Char) (value : Nat) : Prop :=
  SpellsUnsigned text value ∨ ∃ unsigned, SpellsUnsigned unsigned value ∧ text = '+' :: unsigned

variable {text : List Char} {value width : Nat}

theorem plus_not_digit : ('+').isDigit = false := by decide

theorem head_of_spellsUnsigned (spells : SpellsUnsigned text value) :
    ∃ digit rest, text = digit :: rest ∧ digit.isDigit = true := by
  have front : ∀ digits, IsNumber digits value → ∀ rest,
      ∃ digit later, digits ++ rest = digit :: later ∧ digit.isDigit = true := by
    intro digits number rest
    cases digits with
    | nil => exact absurd rfl number.written
    | cons digit later => exact ⟨digit, later ++ rest, rfl, number.digits digit List.mem_cons_self⟩
  rcases spells with number | ⟨digits, number, rfl⟩
  · rw [← List.append_nil text]
    exact front text number []
  · exact front digits number ['\n']

theorem withoutPlus_of_spellsUnsigned (spells : SpellsUnsigned text value) :
    withoutPlus text = text := by
  obtain ⟨digit, rest, rfl, isDigit⟩ := head_of_spellsUnsigned spells
  unfold withoutPlus
  split
  · rename_i head
    rw [(List.cons.inj head).1, plus_not_digit] at isDigit
    cases isDigit
  · rfl

theorem withoutPlus_of_spells (spells : Spells text value) :
    SpellsUnsigned (withoutPlus text) value := by
  rcases spells with unsigned | ⟨unsigned, spelled, rfl⟩
  · rw [withoutPlus_of_spellsUnsigned unsigned]
    exact unsigned
  · exact spelled

theorem spells_of_withoutPlus (spells : SpellsUnsigned (withoutPlus text) value) :
    Spells text value := by
  unfold withoutPlus at spells
  split at spells
  · rename_i rest
    exact Or.inr ⟨rest, spells, rfl⟩
  · exact Or.inl spells

/-- The digits in front are all there is, but for a line end. -/
theorem spellsUnsigned_iff : SpellsUnsigned text value ↔
    text.takeWhile Char.isDigit ≠ [] ∧
      (text.dropWhile Char.isDigit = [] ∨ text.dropWhile Char.isDigit = ['\n']) ∧
      Nat.ofDigitChars 10 (text.takeWhile Char.isDigit) 0 = value := by
  constructor
  · have split : ∀ digits rest, IsNumber digits value → (rest = [] ∨ rest = ['\n']) →
        (digits ++ rest).takeWhile Char.isDigit = digits ∧
          (digits ++ rest).dropWhile Char.isDigit = rest := by
      intro digits rest number ending
      have stops : ∀ char ∈ rest.head?, char.isDigit = false := by
        intro char member
        rcases ending with rfl | rfl
        · cases member
        · cases member
          decide
      have taken := takeWhile_number number stops
      refine ⟨taken, ?_⟩
      have whole := @List.takeWhile_append_dropWhile _ Char.isDigit (digits ++ rest)
      rw [taken] at whole
      exact List.append_cancel_left whole
    rintro (number | ⟨digits, number, rfl⟩)
    · obtain ⟨taken, dropped⟩ := split text [] number (Or.inl rfl)
      rw [List.append_nil] at taken dropped
      rw [taken, dropped]
      exact ⟨number.written, Or.inl rfl, number.spelled⟩
    · obtain ⟨taken, dropped⟩ := split digits ['\n'] number (Or.inr rfl)
      rw [taken, dropped]
      exact ⟨number.written, Or.inr rfl, number.spelled⟩
  · rintro ⟨written, ending, spelled⟩
    have number : IsNumber (text.takeWhile Char.isDigit) value :=
      ⟨written, fun char member => List.all_eq_true.mp List.all_takeWhile char member, spelled⟩
    have whole := @List.takeWhile_append_dropWhile _ Char.isDigit text
    rcases ending with nothing | lineEnd
    · rw [nothing, List.append_nil] at whole
      rw [whole] at number
      exact Or.inl number
    · rw [lineEnd] at whole
      exact Or.inr ⟨_, number, whole.symm⟩

/-- A text is read as a number exactly if it spells it and the word holds it. -/
theorem kstrtoul_eq_ok_iff (fits : width ≤ 64) :
    kstrtoul width text = .ok value ↔ Spells text value ∧ value < 2 ^ width := by
  have whole : Spells text value ↔ SpellsUnsigned (withoutPlus text) value :=
    ⟨withoutPlus_of_spells, spells_of_withoutPlus⟩
  have wide : 2 ^ width ≤ 2 ^ 64 := Nat.pow_le_pow_right (by decide) fits
  rw [whole, spellsUnsigned_iff]
  simp only [kstrtoul]
  split_ifs with huge none behind large
  · refine iff_of_false (by simp) ?_
    rintro ⟨⟨_, _, rfl⟩, small⟩
    omega
  · exact iff_of_false (by simp) fun spelled => spelled.1.1 none
  · refine iff_of_false (by simp) ?_
    rintro ⟨⟨_, nothing | lineEnd, _⟩, _⟩
    · exact behind.1 nothing
    · exact behind.2 lineEnd
  · refine iff_of_false (by simp) ?_
    rintro ⟨⟨_, _, rfl⟩, small⟩
    omega
  · constructor
    · intro same
      cases same
      refine ⟨⟨none, ?_, rfl⟩, Nat.not_le.mp large⟩
      by_contra neither
      exact behind (not_or.mp neither)
    · rintro ⟨⟨_, _, rfl⟩, _⟩
      rfl

/-- The text of a number is a string of C without its end. -/
theorem cString_toDigits (value : Nat) :
    cString (Nat.toDigits 10 value ++ ['\n']) = Nat.toDigits 10 value ++ ['\n'] := by
  rw [cString, ← List.append_nil (Nat.toDigits 10 value ++ ['\n']), List.takeWhile_append_of_pos]
  · rfl
  intro char member
  rw [decide_eq_true_eq]
  rintro rfl
  rcases List.mem_append.mp member with digit | lineEnd
  · have isDigit := (isNumber_toDigits value).digits _ digit
    exact absurd isDigit (by decide)
  · exact absurd (List.mem_singleton.mp lineEnd) (by decide)

end Ebaz4205.UnsignedText
