import Ebaz4205.ProgramEffects

/-!
# Programs that no environment tells apart

Two programs that end alike from every machine and have the same exchanges on the
way are interchangeable, in front of and behind any other program. An access that
is inside its array is no action that an environment sees.
-/

namespace Ebaz4205.DriverProgram.Program

open DriverProgram

set_option autoImplicit false

variable {sig : Signature} {Result Other : Type}

structure Interchangeable (first second : Program sig Result) : Prop where
  exec : ∀ (World : Type) (env : Environment sig World) (machine : Machine sig World),
    first.exec env machine = second.exec env machine
  exchanges : ∀ (World : Type) (env : Environment sig World) (machine : Machine sig World),
    first.exchanges env machine = second.exchanges env machine

variable {first second third : Program sig Result}

theorem interchangeable_refl (program : Program sig Result) :
    Interchangeable program program := ⟨fun _ _ _ => rfl, fun _ _ _ => rfl⟩

theorem interchangeable_trans (front : Interchangeable first second)
    (back : Interchangeable second third) : Interchangeable first third where
  exec := fun World env machine =>
    (front.exec World env machine).trans (back.exec World env machine)
  exchanges := fun World env machine =>
    (front.exchanges World env machine).trans (back.exchanges World env machine)

theorem interchangeable_bind {next later : Result → Program sig Other}
    (front : Interchangeable first second)
    (back : ∀ result, Interchangeable (next result) (later result)) :
    Interchangeable (first.bind next) (second.bind later) where
  exec := by
    intro World env machine
    rw [exec_bind, exec_bind, front.exec World env machine]
    exact congrArg (continueWith · _) (funext fun result => funext ((back result).exec World env))
  exchanges := by
    intro World env machine
    rw [exchanges_bind, exchanges_bind, front.exchanges World env machine,
      front.exec World env machine]
    exact congrArg (_ ++ followedBy · _)
      (funext fun result => funext ((back result).exchanges World env))

theorem interchangeable_index_bind {region : sig.Region} {position : Nat}
    (bound : position < sig.extent region)
    (next : Fin (sig.extent region) → Program sig Result) :
    Interchangeable ((index region position).bind next) (next ⟨position, bound⟩) where
  exec := by
    intro World env machine
    rw [exec_index_bind, dif_pos bound]
  exchanges := by
    intro World env machine
    change (Program.access region position next).exchanges env machine = _
    rw [exchanges, dif_pos bound]

/-- An access outside its array ends both programs. -/
theorem interchangeable_outside {region other : sig.Region} {position place : Nat}
    (outside : ¬position < sig.extent region) (away : ¬place < sig.extent other)
    (next : Fin (sig.extent region) → Program sig Result)
    (later : Fin (sig.extent other) → Program sig Result) :
    Interchangeable ((index region position).bind next) ((index other place).bind later) where
  exec := by
    intro World env machine
    rw [exec_index_bind, exec_index_bind, dif_neg outside, dif_neg away]
  exchanges := by
    intro World env machine
    change (Program.access region position next).exchanges env machine =
      (Program.access other place later).exchanges env machine
    rw [exchanges, exchanges, dif_neg outside, dif_neg away]

end Ebaz4205.DriverProgram.Program
