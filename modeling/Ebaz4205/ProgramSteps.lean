import Ebaz4205.DriverProgram

/-!
# Programs one action at a time

Two programs that share their memory and their environment are not seen as wholes
by each other: between two actions of one there can be any number of actions of
the other. An action leaves the program that is still to be done. Without anything
in between the actions lead to where the execution of the whole program ends.
-/

namespace Ebaz4205.DriverProgram.Program

open DriverProgram

set_option autoImplicit false

variable {sig : Signature} {Result World : Type}

/-- The next action of a program, and what is left to do after it. There is none when the
program has ended, and none that leaves an array. -/
def advance (env : Environment sig World) :
    Program sig Result → Machine sig World → Option (Program sig Result × Machine sig World)
  | .done _, _ => none
  | .call request next, machine =>
      some (next (env.respond request machine.world).1,
        { machine with world := (env.respond request machine.world).2 })
  | .fetch next, machine => some (next machine.memory, machine)
  | .update change next, machine => some (next, { machine with memory := change machine.memory })
  | .access region position next, machine =>
      if bound : position < sig.extent region then some (next ⟨position, bound⟩, machine) else none
  | .unfinished, _ => none

variable {env : Environment sig World} {program rest : Program sig Result}
  {machine after : Machine sig World}

/-- What is left to do ends where the program would have ended. -/
theorem exec_advance (advanced : program.advance env machine = some (rest, after)) :
    rest.exec env after = program.exec env machine := by
  cases program with
  | done result => cases advanced
  | call request next =>
      cases advanced
      rfl
  | fetch next =>
      cases advanced
      rfl
  | update change next =>
      cases advanced
      rfl
  | access region position next =>
      rw [advance] at advanced
      by_cases bound : position < sig.extent region
      · rw [dif_pos bound] at advanced
        cases advanced
        rw [exec, dif_pos bound]
      · rw [dif_neg bound] at advanced
        cases advanced
  | unfinished => cases advanced

/-- So many actions in a row. -/
def advances (env : Environment sig World) :
    Nat → Program sig Result → Machine sig World → Option (Program sig Result × Machine sig World)
  | 0, program, machine => some (program, machine)
  | count + 1, program, machine =>
      (program.advance env machine).bind fun next => advances env count next.1 next.2

theorem exec_advances {count : Nat}
    (advanced : program.advances env count machine = some (rest, after)) :
    rest.exec env after = program.exec env machine := by
  induction count generalizing program machine with
  | zero =>
      cases advanced
      rfl
  | succ count ih =>
      obtain ⟨⟨left, next⟩, first, others⟩ := Option.bind_eq_some_iff.mp advanced
      rw [ih others, exec_advance first]

/-- A program that returns gets there by its actions. -/
theorem advances_of_exec {result : Result}
    (ran : program.exec env machine = (.returned result, after)) :
    ∃ count, program.advances env count machine = some (.done result, after) := by
  induction program generalizing machine with
  | done value =>
      rw [exec, Prod.mk.injEq, Outcome.returned.injEq] at ran
      rw [ran.1, ran.2]
      exact ⟨0, rfl⟩
  | call request next ih =>
      obtain ⟨count, reached⟩ := ih _ ran
      exact ⟨count + 1, reached⟩
  | fetch next ih =>
      obtain ⟨count, reached⟩ := ih _ ran
      exact ⟨count + 1, reached⟩
  | update change next ih =>
      obtain ⟨count, reached⟩ := ih ran
      exact ⟨count + 1, reached⟩
  | access region position next ih =>
      rw [exec] at ran
      by_cases bound : position < sig.extent region
      · rw [dif_pos bound] at ran
        obtain ⟨count, reached⟩ := ih _ ran
        refine ⟨count + 1, ?_⟩
        rw [advances, advance, dif_pos bound]
        exact reached
      · rw [dif_neg bound] at ran
        cases ran
  | unfinished => cases ran

theorem exec_returned_iff {result : Result} :
    program.exec env machine = (.returned result, after) ↔
      ∃ count, program.advances env count machine = some (.done result, after) := by
  constructor
  · exact advances_of_exec
  · rintro ⟨count, advanced⟩
    rw [← exec_advances advanced]
    rfl

end Ebaz4205.DriverProgram.Program
