import Ebaz4205.ProgramEquivalence

/-!
# Asking until an answer will do

A loop that repeats one request until the answer to it satisfies a condition. It returns the
first answer that does, and it returns exactly if there is one.
-/

namespace Ebaz4205.DriverProgram.Program

open DriverProgram

set_option autoImplicit false

variable {sig : Signature} {World : Type}

/-- `last` is what was answered before the loop. -/
def askUntil (call : sig.Call) (ready : sig.Reply call → Prop) [DecidablePred ready] :
    Nat → sig.Reply call → Program sig (sig.Reply call)
  | 0, _ => .unfinished
  | budget + 1, last =>
      if ready last then .done last
      else (request call).bind fun next => askUntil call ready budget next

/-- What is known after so many answers. -/
def heard (env : Environment sig World) (call : sig.Call) (last : sig.Reply call) (world : World) :
    Nat → sig.Reply call
  | 0 => last
  | count + 1 => heard env call (env.respond call world).1 (env.respond call world).2 count

def worldAfter (env : Environment sig World) (call : sig.Call) (world : World) : Nat → World
  | 0 => world
  | count + 1 => worldAfter env call (env.respond call world).2 count

section Counting

variable (env : Environment sig World) (call : sig.Call) (last : sig.Reply call) (world : World)

theorem worldAfter_add (first second : Nat) :
    worldAfter env call world (first + second) =
      worldAfter env call (worldAfter env call world first) second := by
  induction first generalizing world with
  | zero => rw [Nat.zero_add, worldAfter]
  | succ first ih =>
      rw [Nat.add_right_comm, worldAfter, worldAfter]
      exact ih _

theorem heard_add (first second : Nat) :
    heard env call last world (first + second) =
      heard env call (heard env call last world first) (worldAfter env call world first)
        second := by
  induction first generalizing last world with
  | zero => rw [Nat.zero_add, heard, worldAfter]
  | succ first ih =>
      rw [Nat.add_right_comm, heard, heard, worldAfter]
      exact ih _ _

theorem heard_succ (count : Nat) :
    heard env call last world (count + 1) =
      (env.respond call (worldAfter env call world count)).1 := by
  rw [heard_add]
  rfl

end Counting

variable {env : Environment sig World} {call : sig.Call} {ready : sig.Reply call → Prop}
  [DecidablePred ready] {last result : sig.Reply call} {machine after : Machine sig World}
  {budget count : Nat}

/-- The first answers up to the one that will do. -/
structure Heard (env : Environment sig World) (call : sig.Call) (ready : sig.Reply call → Prop)
    (last : sig.Reply call) (world : World) (count : Nat) : Prop where
  suits : ready (heard env call last world count)
  first : ∀ early < count, ¬ready (heard env call last world early)

theorem askUntil_of_heard (heardAt : Heard env call ready last machine.world count)
    (enough : count < budget) :
    (askUntil call ready budget last).exec env machine =
        (.returned (heard env call last machine.world count),
          { machine with world := worldAfter env call machine.world count }) ∧
      (askUntil call ready budget last).exchanges env machine =
        (List.range count).map fun early =>
          ⟨call, heard env call last machine.world (early + 1)⟩ := by
  induction count generalizing budget last machine with
  | zero =>
      obtain ⟨budget, rfl⟩ := Nat.exists_eq_succ_of_ne_zero enough.ne'
      have now : ready last := heardAt.suits
      rw [askUntil, if_pos now]
      exact ⟨rfl, rfl⟩
  | succ count ih =>
      obtain ⟨budget, rfl⟩ := Nat.exists_eq_succ_of_ne_zero (Nat.ne_zero_of_lt enough)
      have notYet : ¬ready last := heardAt.first 0 (Nat.succ_pos count)
      have rest : Heard env call ready (env.respond call machine.world).1
          (env.respond call machine.world).2 count :=
        ⟨heardAt.suits, fun early bound => heardAt.first (early + 1) (Nat.succ_lt_succ bound)⟩
      obtain ⟨ran, sent⟩ :=
        @ih _ { machine with world := (env.respond call machine.world).2 } budget
        rest (Nat.lt_of_succ_lt_succ enough)
      rw [askUntil, if_neg notYet]
      constructor
      · exact ran
      · rw [List.range_succ_eq_map, List.map_cons, List.map_map]
        exact congrArg (List.cons _) sent

/-- A loop that returns has heard an answer that will do. -/
theorem heard_of_returned
    (ran : (askUntil call ready budget last).exec env machine = (.returned result, after)) :
    ∃ count < budget, Heard env call ready last machine.world count := by
  induction budget generalizing last machine with
  | zero => cases ran
  | succ budget ih =>
      by_cases now : ready last
      · exact ⟨0, Nat.succ_pos budget, now, fun early bound => absurd bound (Nat.not_lt_zero early)⟩
      · rw [askUntil, if_neg now] at ran
        obtain ⟨count, enough, later⟩ :=
          @ih _ { machine with world := (env.respond call machine.world).2 } ran
        refine ⟨count + 1, Nat.succ_lt_succ enough, later.suits, ?_⟩
        intro early bound
        cases early with
        | zero => exact now
        | succ early => exact later.first early (Nat.lt_of_succ_lt_succ bound)

end Ebaz4205.DriverProgram.Program
