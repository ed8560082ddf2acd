import Ebaz4205.Ps7Scripts

/-!
# How long a delay is

A delay is given in milliseconds and waits for a count of the timer. The count is
computed in words of 32 bits, which is enough for six milliseconds.
-/

namespace Ebaz4205.Ps7Delays

open DriverProgram DriverProgram.Program Ps7Interpreter Ps7Scripts

set_option autoImplicit false

variable {World : Type} {env : Environment ps7Signature World}
  {machine after : Machine ps7Signature World} {budget : Nat} {addr delay : Word}

/-- The cycles of the timer in so many milliseconds. -/
def wanted (milliseconds : Nat) : Nat := 666666687 * milliseconds / 2000

theorem toNat_cycles (milliseconds : Word) :
    (getNumberOfCyclesForDelay milliseconds).toNat =
      666666687 * milliseconds.toNat % 2 ^ 32 / 2000 := by
  rw [getNumberOfCyclesForDelay, BitVec.toNat_udiv, BitVec.toNat_mul]
  rfl

/-- The words are wide enough exactly for so long. -/
theorem wanted_le_iff (milliseconds : Word) :
    wanted milliseconds.toNat ≤ (getNumberOfCyclesForDelay milliseconds).toNat ↔
      milliseconds.toNat ≤ 6 := by
  rw [toNat_cycles, wanted]
  omega

/-- The loop ends at the first count that is not below the one it waits for. -/
theorem exchanges_delayLoop
    (ran : (delayLoop addr delay budget).exec env machine = (.returned (), after)) :
    ∃ below : List Word, ∃ count : Word,
      (delayLoop addr delay budget).exchanges env machine =
        below.map (fun early => ⟨.load addr, early⟩) ++ [⟨.load addr, count⟩] ∧
          (∀ early ∈ below, early < delay) ∧ ¬count < delay := by
  induction budget generalizing machine with
  | zero => cases ran
  | succ budget ih =>
      change Program.exec env
        (if (env.respond (.load addr) machine.world).1 < delay then _ else _) _ =
        _ at ran
      change ∃ below count, _ :: Program.exchanges env
        (if (env.respond (.load addr) machine.world).1 < delay then _ else _) _ = _ ∧ _
      by_cases early : (env.respond (.load addr) machine.world).1 < delay
      · rw [if_pos early] at ran ⊢
        obtain ⟨below, count, sent, before, reached⟩ := ih ran
        refine ⟨(env.respond (.load addr) machine.world).1 :: below, count, ?_, ?_, reached⟩
        · rw [sent]
          rfl
        · exact List.forall_mem_cons.mpr ⟨early, before⟩
      · rw [if_neg early]
        exact ⟨[], _, rfl, fun _ member => (by cases member), early⟩

/-- The last count that a delay looked at. -/
def EndsAt (addr : Word) (count : Word) (exchanges : List (Exchange ps7Signature)) : Prop :=
  ∃ front, exchanges = front ++ [⟨.load addr, count⟩]

theorem delay_endsAt {milliseconds : Word} {goesOn : Bool}
    (ran : (attempt budget (.maskdelay addr milliseconds)).exec env machine =
      (.returned goesOn, after)) :
    ∃ count, EndsAt addr count
        ((attempt budget (.maskdelay addr milliseconds)).exchanges env machine) ∧
      ¬count < getNumberOfCyclesForDelay milliseconds := by
  obtain ⟨_, started, startedRan, ran⟩ := exec_bind_returned ran
  obtain ⟨_, ended, loopRan, _⟩ := exec_bind_returned ran
  obtain ⟨below, count, sent, _, reached⟩ := exchanges_delayLoop loopRan
  refine ⟨count, ⟨perfResetAndStartTimer.exchanges env machine ++
    below.map fun early => ⟨.load addr, early⟩, ?_⟩, reached⟩
  have whole : (attempt budget (.maskdelay addr milliseconds)).exchanges env machine =
      perfResetAndStartTimer.exchanges env machine ++
        ((delayLoop addr (getNumberOfCyclesForDelay milliseconds) budget).exchanges env started ++
          []) := by
    change (perfResetAndStartTimer.bind fun _ => (delayLoop addr _ budget).bind _).exchanges env
      machine = _
    rw [exchanges_bind, startedRan, followedBy, exchanges_bind, loopRan]
    rfl
  rw [whole, sent, List.append_nil, List.append_assoc]

/-- Hardware whose timer has counted so far already. -/
def counting (count : Word) : Environment ps7Signature Unit where
  respond
    | .load _, world => (count, world)
    | .store _ _, world => ((), world)

theorem counting_ends (budget : Nat) (addr milliseconds : Word) :
    (attempt (budget + 1) (.maskdelay addr milliseconds)).exec
        (counting (getNumberOfCyclesForDelay milliseconds)) ⟨(), ()⟩ =
      (.returned true, ⟨(), ()⟩) ∧
    (attempt (budget + 1) (.maskdelay addr milliseconds)).exchanges
        (counting (getNumberOfCyclesForDelay milliseconds)) ⟨(), ()⟩ =
      perfResetAndStartTimer.exchanges (counting (getNumberOfCyclesForDelay milliseconds))
        ⟨(), ()⟩ ++
        [⟨.load addr, getNumberOfCyclesForDelay milliseconds⟩] := by
  generalize reading : getNumberOfCyclesForDelay milliseconds = count
  have waited : ∀ delay : Word, ¬delay < delay := BitVec.lt_irrefl
  constructor
  · change Program.exec _ ((if count < getNumberOfCyclesForDelay milliseconds then _ else _ :
      Ps7Program Unit).bind _) _ = _
    rw [reading, if_neg (waited count)]
    rfl
  · change _ :: _ :: _ :: _ :: _ :: Program.exchanges _
      ((if count < getNumberOfCyclesForDelay milliseconds then _ else _ : Ps7Program Unit).bind _)
        _ = _
    rw [reading, if_neg (waited count)]
    rfl

/-- A delay is never too short, whatever the timer does, exactly if it is one of at most six
milliseconds. -/
theorem delay_long_enough_iff (budget : Nat) (addr milliseconds : Word) :
    (∀ (World : Type) (env : Environment ps7Signature World)
        (machine after : Machine ps7Signature World) (goesOn : Bool),
      (attempt (budget + 1) (.maskdelay addr milliseconds)).exec env machine =
          (.returned goesOn, after) →
        ∃ count, EndsAt addr count
            ((attempt (budget + 1) (.maskdelay addr milliseconds)).exchanges env machine) ∧
          wanted milliseconds.toNat ≤ count.toNat) ↔ milliseconds.toNat ≤ 6 := by
  rw [← wanted_le_iff]
  constructor
  · intro longEnough
    obtain ⟨count, ⟨front, sent⟩, enough⟩ :=
      longEnough Unit (counting (getNumberOfCyclesForDelay milliseconds)) _ _ _
        (counting_ends budget addr milliseconds).1
    rw [(counting_ends budget addr milliseconds).2] at sent
    obtain ⟨_, same⟩ := List.append_inj' sent rfl
    cases same
    exact enough
  · intro enough World env machine after goesOn ran
    obtain ⟨count, ends, reached⟩ := delay_endsAt ran
    rw [BitVec.not_lt, BitVec.le_def] at reached
    exact ⟨count, ends, enough.trans reached⟩

end Ebaz4205.Ps7Delays
