import Mathlib.Data.List.Basic

/-!
# Decimal numbers in text

The conversions of `sscanf` that a driver needs: literal text, and a decimal
number behind optional spaces. A number is read back from its digits whatever
comes after them, as long as that is not one more digit.
-/

namespace Ebaz4205.DecimalText

set_option autoImplicit false

/-- `isspace`, with the space that does not break lines. -/
def isSpace (char : Char) : Bool :=
  char = ' ' || ('\t' ≤ char && char ≤ '\r') || char = '\xa0'

def skipSpaces (text : List Char) : List Char := text.dropWhile isSpace

/-- The text behind a literal, if it begins with it. -/
def afterLiteral : List Char → List Char → Option (List Char)
  | [], text => some text
  | _ :: _, [] => none
  | expected :: literal, found :: text =>
      if expected = found then afterLiteral literal text else none

/-- The number that the digits in front spell, if there is a digit. -/
def scanDigits (text : List Char) : Option Nat :=
  if text.takeWhile Char.isDigit = [] then none
  else some (Nat.ofDigitChars 10 (text.takeWhile Char.isDigit) 0)

/-- `%u`, into a word of `width` bits. -/
def scanUnsigned (width : Nat) (text : List Char) : Option (BitVec width) :=
  (scanDigits (skipSpaces text)).map (BitVec.ofNat width)

/-- `%d`, into a word of `width` bits. -/
def scanSigned (width : Nat) (text : List Char) : Option (BitVec width) :=
  match skipSpaces text with
  | '-' :: digits => (scanDigits digits).map fun value => -BitVec.ofNat width value
  | digits => (scanDigits digits).map (BitVec.ofNat width)

theorem afterLiteral_append (literal text : List Char) :
    afterLiteral literal (literal ++ text) = some text := by
  induction literal with
  | nil => rfl
  | cons expected rest ih => rw [List.cons_append, afterLiteral, if_pos rfl, ih]

/-- A text that is a number and nothing else. -/
structure IsNumber (text : List Char) (value : Nat) : Prop where
  written : text ≠ []
  digits : ∀ char ∈ text, char.isDigit = true
  spelled : Nat.ofDigitChars 10 text 0 = value

theorem not_isSpace_of_isDigit {char : Char} (digit : char.isDigit = true) :
    isSpace char = false := by
  simp only [Char.isDigit, Bool.and_eq_true, decide_eq_true_eq] at digit
  have low : 48 ≤ char.val.toNat := digit.1
  have notSpace : char ≠ ' ' := by
    intro same
    rw [same] at low
    exact absurd low (by decide)
  have notBreak : ¬char ≤ '\r' := by
    intro below
    have small : char.val.toNat ≤ 13 := below
    omega
  have notHard : char ≠ '\xa0' := by
    intro same
    have high : char.val.toNat ≤ 57 := digit.2
    rw [same] at high
    exact absurd high (by decide)
  simp [isSpace, notSpace, notBreak, notHard]

section Numbers

variable {text rest : List Char} {value : Nat}

theorem takeWhile_number (number : IsNumber text value)
    (stops : ∀ char ∈ rest.head?, char.isDigit = false) :
    (text ++ rest).takeWhile Char.isDigit = text := by
  rw [List.takeWhile_append_of_pos number.digits]
  cases rest with
  | nil => exact List.append_nil _
  | cons char later => rw [List.takeWhile_cons, stops char rfl, if_neg (by decide), List.append_nil]

theorem scanDigits_number (number : IsNumber text value)
    (stops : ∀ char ∈ rest.head?, char.isDigit = false) :
    scanDigits (text ++ rest) = some value := by
  rw [scanDigits, takeWhile_number number stops, if_neg number.written, number.spelled]

theorem skipSpaces_number (number : IsNumber text value) :
    skipSpaces (text ++ rest) = text ++ rest := by
  cases text with
  | nil => exact absurd rfl number.written
  | cons digit later =>
      have isDigit := number.digits digit List.mem_cons_self
      rw [List.cons_append, skipSpaces, List.dropWhile_cons, not_isSpace_of_isDigit isDigit,
        if_neg (by decide)]

end Numbers

section RoundTrip

variable {number : Nat} {rest : List Char}

/-- The digits of a number spell it. -/
theorem isNumber_toDigits (number : Nat) : IsNumber (Nat.toDigits 10 number) number where
  written := Nat.toDigits_ne_nil
  digits := fun _ member => Nat.isDigit_of_mem_toDigits (by decide) (by decide) member
  spelled := Nat.ofDigitChars_ten_toDigits

theorem dropWhile_toDigits (stops : ∀ char ∈ rest.head?, char.isDigit = false) :
    (Nat.toDigits 10 number ++ rest).dropWhile Char.isDigit = rest := by
  have whole := @List.takeWhile_append_dropWhile _ Char.isDigit (Nat.toDigits 10 number ++ rest)
  rw [takeWhile_number (isNumber_toDigits number) stops] at whole
  exact List.append_cancel_left whole

theorem scanDigits_toDigits (stops : ∀ char ∈ rest.head?, char.isDigit = false) :
    scanDigits (Nat.toDigits 10 number ++ rest) = some number :=
  scanDigits_number (isNumber_toDigits number) stops

/-- A number is written with a digit in front, neither a space nor a sign. -/
theorem toDigits_head (number : Nat) :
    ∃ digit later, Nat.toDigits 10 number = digit :: later ∧ digit.isDigit = true := by
  cases digits : Nat.toDigits 10 number with
  | nil => exact absurd digits Nat.toDigits_ne_nil
  | cons digit later =>
      have member : digit ∈ Nat.toDigits 10 number := by
        rw [digits]
        exact List.mem_cons_self
      exact ⟨digit, later, rfl, Nat.isDigit_of_mem_toDigits (by decide) (by decide) member⟩

theorem scanSigned_toDigits (width : Nat)
    (stops : ∀ char ∈ rest.head?, char.isDigit = false) :
    scanSigned width (Nat.toDigits 10 number ++ rest) = some (BitVec.ofNat width number) := by
  obtain ⟨digit, later, same, isDigit⟩ := toDigits_head number
  have unsigned : digit ≠ '-' := by
    intro minus
    rw [minus] at isDigit
    exact absurd isDigit (by decide)
  rw [scanSigned, skipSpaces_number (isNumber_toDigits number)]
  split
  · rename_i digits head
    rw [same, List.cons_append] at head
    exact absurd (List.cons.inj head).1 unsigned
  · rw [scanDigits_toDigits stops, Option.map_some]

end RoundTrip

end Ebaz4205.DecimalText
