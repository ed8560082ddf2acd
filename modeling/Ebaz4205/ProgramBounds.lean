import Ebaz4205.ProgramEquivalence

/-!
# Programs that return in front of every environment

Some loops are bounded by the program itself. A program made of them returns after at
most so many exchanges whatever it is answered, with a result of which something is
known. A program that uses no array is never undefined.
-/

namespace Ebaz4205.DriverProgram.Program

open DriverProgram

set_option autoImplicit false

variable {sig : Signature} {Result Other : Type}

structure Completes (program : Program sig Result) (cost : Nat) (post : Result → Prop) : Prop where
  returns : ∀ (World : Type) (env : Environment sig World) (machine : Machine sig World),
    ∃ result after, program.exec env machine = (.returned result, after) ∧ post result ∧
      (program.exchanges env machine).length ≤ cost

variable {program other : Program sig Result} {next : Result → Program sig Other}
  {cost more : Nat} {post weaker : Result → Prop} {last : Other → Prop}

theorem completes_done {result : Result} (holds : post result) :
    Completes (.done result : Program sig Result) 0 post where
  returns := fun _ _ machine => ⟨result, machine, rfl, holds, le_refl 0⟩

theorem completes_request (call : sig.Call) : Completes (request call) 1 fun _ => True where
  returns := fun _ _ _ => ⟨_, _, rfl, trivial, le_refl 1⟩

theorem completes_bind (first : Completes program cost post)
    (second : ∀ result, post result → Completes (next result) more last) :
    Completes (program.bind next) (cost + more) last where
  returns := by
    intro World env machine
    obtain ⟨value, middle, firstRan, holds, few⟩ := first.returns World env machine
    obtain ⟨result, after, secondRan, reached, others⟩ :=
      (second value holds).returns World env middle
    refine ⟨result, after, ?_, reached, ?_⟩
    · rw [exec_bind, firstRan]
      exact secondRan
    · rw [exchanges_bind, firstRan, List.length_append]
      exact Nat.add_le_add few others

/-- A result that is only looked at costs nothing. -/
theorem completes_map {read : Result → Other} (first : Completes program cost post)
    (implied : ∀ result, post result → last (read result)) :
    Completes (program.bind fun result => .done (read result)) cost last :=
  completes_bind first fun result holds => completes_done (implied result holds)

theorem completes_mono (completes : Completes program cost post) (room : cost ≤ more)
    (implied : ∀ result, post result → weaker result) : Completes program more weaker where
  returns := by
    intro World env machine
    obtain ⟨result, after, ran, holds, few⟩ := completes.returns World env machine
    exact ⟨result, after, ran, implied result holds, few.trans room⟩

theorem completes_if {condition : Prop} [Decidable condition]
    (taken : condition → Completes program cost post)
    (skipped : ¬condition → Completes other cost post) :
    Completes (if condition then program else other) cost post := by
  by_cases holds : condition
  · rw [if_pos holds]
    exact taken holds
  · rw [if_neg holds]
    exact skipped holds

theorem completes_of_interchangeable (same : Interchangeable program other)
    (completes : Completes other cost post) : Completes program cost post where
  returns := by
    intro World env machine
    rw [same.exec World env machine, same.exchanges World env machine]
    exact completes.returns World env machine

/-- Without arrays there is no index that could be outside of one. -/
theorem exec_ne_undefined {World : Type} {effects : Effects sig} (within : program.Within effects)
    (nowhere : ∀ region position, ¬effects.visits region position) (env : Environment sig World)
    (machine : Machine sig World) : (program.exec env machine).1 ≠ .undefined := by
  induction program generalizing machine with
  | done result => exact fun same => by cases same
  | call request rest ih => exact ih _ (within.2 _) _
  | fetch rest ih => exact ih _ (within _) _
  | update change rest ih => exact ih within.2 _
  | access region position rest ih => exact absurd within.1 (nowhere region position)
  | unfinished => exact fun same => by cases same

end Ebaz4205.DriverProgram.Program
