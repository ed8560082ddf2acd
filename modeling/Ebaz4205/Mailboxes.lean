import Mathlib.Data.Finset.Basic
import Mathlib.Logic.Function.Basic
import Mathlib.Logic.Relation

/-!
# Mail that is under way and mail that has arrived

Each slot has a box for the outcome of what was sent for it last. What was sent
arrives in any order, at times that nobody controls. A slot is collected by taking
what is in its box.
-/

namespace Ebaz4205.Mailboxes

set_option autoImplicit false

variable {Slot : Type*} [DecidableEq Slot]

@[ext] structure Mail (Slot : Type*) where
  flying : Finset Slot
  box : Slot → Option Bool

/-- What becomes of an attempt to send something: it is given up before the box was cleared,
it is refused after that, or it is sent. -/
inductive Fate where
  | givenUp
  | refused
  | sent
  deriving DecidableEq

namespace Mail

def arrive (mail : Mail Slot) (slot : Slot) (outcome : Bool) : Mail Slot :=
  ⟨mail.flying.erase slot, Function.update mail.box slot (some outcome)⟩

def clear (mail : Mail Slot) (slot : Slot) : Mail Slot :=
  { mail with box := Function.update mail.box slot none }

/-- What is sent takes the place of what was in the box. -/
def send (mail : Mail Slot) (slot : Slot) : Mail Slot :=
  ⟨insert slot mail.flying, Function.update mail.box slot none⟩

/-- Something that was under way arrives. -/
def Arrives (earlier later : Mail Slot) : Prop :=
  ∃ slot ∈ earlier.flying, ∃ outcome, later = earlier.arrive slot outcome

/-- Some mail has arrived in between. -/
def Evolves : Mail Slot → Mail Slot → Prop := Relation.ReflTransGen Arrives

variable {first second third mail : Mail Slot} {slot other : Slot} {outcome : Bool}

/-- An attempt to send something for a slot, with what becomes of it. -/
def Starts (first : Mail Slot) (slot : Slot) : Fate → Mail Slot → Prop
  | .givenUp, last => Evolves first last
  | .refused, last => Evolves (first.clear slot) last
  | .sent, last => ∃ middle, Evolves (first.clear slot) middle ∧ Evolves (middle.send slot) last

/-- The box of a slot is taken as it is found at some time. -/
def Collects (first : Mail Slot) (slot : Slot) (found : Option Bool) (last : Mail Slot) : Prop :=
  ∃ middle, Evolves first middle ∧ found = middle.box slot ∧ Evolves (middle.clear slot) last

section Collecting

/-- Nothing has been sent since the box was emptied. -/
structure Quiet (slot : Slot) (mail : Mail Slot) : Prop where
  landed : slot ∉ mail.flying
  empty : mail.box slot = none

end Collecting

end Mail

end Ebaz4205.Mailboxes
