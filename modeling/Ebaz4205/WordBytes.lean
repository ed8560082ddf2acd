import Mathlib.Data.List.Basic

/-!
# Words as bytes

A codec of a fixed length turns each word into so many bytes. Of a sequence of
bytes it decodes as many words as are complete, and leaves the rest. What it
decodes of a whole encoded sequence is that sequence, in either byte order.
-/

namespace Ebaz4205.WordBytes

set_option autoImplicit false

structure FixedCodec (Word Byte : Type) where
  size : Nat
  positive : 0 < size
  encode : Word → List Byte
  decode : List Byte → Word
  length_encode : ∀ word, (encode word).length = size
  decode_encode : ∀ word, decode (encode word) = word

namespace FixedCodec

variable {Word Byte : Type} (codec : FixedCodec Word Byte)

def encodeAll : List Word → List Byte
  | [] => []
  | word :: rest => codec.encode word ++ encodeAll rest

/-- The complete words among the bytes, and what is left after them. -/
def decodeAll (bytes : List Byte) : List Word × List Byte :=
  if codec.size ≤ bytes.length then
    let later := decodeAll (bytes.drop codec.size)
    (codec.decode (bytes.take codec.size) :: later.1, later.2)
  else ([], bytes)
termination_by bytes.length
decreasing_by
  have positive := codec.positive
  rw [List.length_drop]
  omega

variable {codec}

theorem decodeAll_short {bytes : List Byte} (short : bytes.length < codec.size) :
    codec.decodeAll bytes = ([], bytes) := by
  rw [decodeAll, if_neg (Nat.not_le.mpr short)]

theorem decodeAll_word (word : Word) (rest : List Byte) :
    codec.decodeAll (codec.encode word ++ rest) =
      (word :: (codec.decodeAll rest).1, (codec.decodeAll rest).2) := by
  have length := codec.length_encode word
  rw [decodeAll, if_pos, List.take_left' length, List.drop_left' length, codec.decode_encode]
  rw [List.length_append, length]
  exact Nat.le_add_right _ _

theorem decodeAll_encodeAll (words : List Word) {rest : List Byte}
    (short : rest.length < codec.size) :
    codec.decodeAll (codec.encodeAll words ++ rest) = (words, rest) := by
  induction words with
  | nil => exact decodeAll_short short
  | cons word words ih => rw [encodeAll, List.append_assoc, decodeAll_word, ih]

theorem length_encodeAll (words : List Word) :
    (codec.encodeAll words).length = codec.size * words.length := by
  induction words with
  | nil => rfl
  | cons word words ih =>
      rw [encodeAll, List.length_append, ih, codec.length_encode, List.length_cons, Nat.mul_succ,
        Nat.add_comm]

/-- What is left is less than a word. -/
theorem length_left (bytes : List Byte) :
    (codec.decodeAll bytes).2.length = bytes.length % codec.size := by
  induction bytes using decodeAll.induct codec with
  | case1 bytes complete ih =>
      rw [decodeAll, if_pos complete, ih, List.length_drop, ← Nat.mod_eq_sub_mod complete]
  | case2 bytes short =>
      rw [decodeAll, if_neg short, Nat.mod_eq_of_lt (Nat.not_le.mp short)]

end FixedCodec

inductive ByteOrder where
  | little
  | big
  deriving DecidableEq

/-- The bytes of a word, the least significant one first. -/
def leastFirst (word : BitVec 32) : List (BitVec 8) :=
  [word.extractLsb' 0 8, word.extractLsb' 8 8, word.extractLsb' 16 8, word.extractLsb' 24 8]

def ofLeastFirst : List (BitVec 8) → BitVec 32
  | [first, second, third, fourth] => fourth ++ third ++ second ++ first
  | _ => 0

theorem ofLeastFirst_leastFirst (word : BitVec 32) : ofLeastFirst (leastFirst word) = word := by
  apply BitVec.eq_of_getLsbD_eq
  intro bit inside
  simp only [leastFirst, ofLeastFirst, BitVec.getLsbD_append, BitVec.getLsbD_extractLsb']
  grind

/-- The words of a machine with this byte order. -/
def wordCodec : ByteOrder → FixedCodec (BitVec 32) (BitVec 8)
  | .little =>
      { size := 4
        positive := by decide
        encode := leastFirst
        decode := ofLeastFirst
        length_encode := fun _ => rfl
        decode_encode := ofLeastFirst_leastFirst }
  | .big =>
      { size := 4
        positive := by decide
        encode := fun word => (leastFirst word).reverse
        decode := fun bytes => ofLeastFirst bytes.reverse
        length_encode := fun _ => rfl
        decode_encode := by
          intro word
          rw [List.reverse_reverse]
          exact ofLeastFirst_leastFirst word }

theorem size_wordCodec (order : ByteOrder) : (wordCodec order).size = 4 := by
  cases order <;> rfl

end Ebaz4205.WordBytes
