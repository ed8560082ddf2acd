import Ebaz4205.ProgramEquivalence

/-!
# What a program sends and what it leaves

A program without loops of its own ends in one of a few ways, each with its result, the
memory it leaves and the exchanges it made. The rules collect these for an environment,
whatever state that is in.
-/

namespace Ebaz4205.DriverProgram.Program

open DriverProgram

set_option autoImplicit false

variable {sig : Signature} {Result Other World : Type}

/-- From the memory the program returns, and its result, the memory it leaves and its
exchanges are in the relation. -/
structure Traces (env : Environment sig World) (program : Program sig Result) (memory : sig.Memory)
    (ends : Result → sig.Memory → List (Exchange sig) → Prop) : Prop where
  returns : ∀ world, ∃ result after, program.exec env ⟨memory, world⟩ = (.returned result, after) ∧
    ends result after.memory (program.exchanges env ⟨memory, world⟩)

variable {env : Environment sig World} {program other : Program sig Result}
  {next : Result → Program sig Other} {memory : sig.Memory}
  {ends weaker : Result → sig.Memory → List (Exchange sig) → Prop}
  {last : Other → sig.Memory → List (Exchange sig) → Prop}

theorem traces_done {result : Result} (holds : ends result memory []) :
    Traces env (.done result) memory ends :=
  ⟨fun _ => ⟨result, _, rfl, holds⟩⟩

/-- A request, and what comes after each reply that the environment may give. -/
theorem traces_request_bind {call : sig.Call} {rest : sig.Reply call → Program sig Result}
    (replies : ∀ world, Traces env (rest (env.respond call world).1) memory
      fun result after exchanges =>
        ends result after (⟨call, (env.respond call world).1⟩ :: exchanges)) :
    Traces env ((request call).bind rest) memory ends := by
  constructor
  intro world
  obtain ⟨result, after, ran, holds⟩ := (replies world).returns (env.respond call world).2
  exact ⟨result, after, ran, holds⟩

theorem traces_field_bind {Value : Type} {read : sig.Memory → Value}
    {rest : Value → Program sig Result} (continues : Traces env (rest (read memory)) memory ends) :
    Traces env ((field read).bind rest) memory ends :=
  ⟨fun world => continues.returns world⟩

theorem traces_modify_bind {change : sig.Memory → sig.Memory} {rest : Unit → Program sig Result}
    (continues : Traces env (rest ()) (change memory) ends) :
    Traces env ((modify change).bind rest) memory ends :=
  ⟨fun world => continues.returns world⟩

theorem traces_index_bind {region : sig.Region} {position : Nat}
    {rest : Fin (sig.extent region) → Program sig Result} (inside : position < sig.extent region)
    (continues : Traces env (rest ⟨position, inside⟩) memory ends) :
    Traces env ((index region position).bind rest) memory ends := by
  constructor
  intro world
  have same := interchangeable_index_bind inside rest
  rw [same.exec World env, same.exchanges World env]
  exact continues.returns world

theorem traces_bind (first : Traces env program memory ends)
    (second : ∀ result middle exchanges, ends result middle exchanges →
      Traces env (next result) middle fun result after others =>
        last result after (exchanges ++ others)) :
    Traces env (program.bind next) memory last := by
  constructor
  intro world
  obtain ⟨value, ⟨middle, between⟩, firstRan, holds⟩ := first.returns world
  obtain ⟨result, after, secondRan, reached⟩ := (second value middle _ holds).returns between
  refine ⟨result, after, ?_, ?_⟩
  · rw [exec_bind, firstRan]
    exact secondRan
  · rw [exchanges_bind, firstRan]
    exact reached

theorem traces_mono (traces : Traces env program memory ends)
    (implied : ∀ result after exchanges, ends result after exchanges →
      weaker result after exchanges) : Traces env program memory weaker := by
  constructor
  intro world
  obtain ⟨result, after, ran, holds⟩ := traces.returns world
  exact ⟨result, after, ran, implied result _ _ holds⟩

theorem traces_if {condition : Prop} [Decidable condition]
    (taken : condition → Traces env program memory ends)
    (skipped : ¬condition → Traces env other memory ends) :
    Traces env (if condition then program else other) memory ends := by
  by_cases holds : condition
  · rw [if_pos holds]
    exact taken holds
  · rw [if_neg holds]
    exact skipped holds

end Ebaz4205.DriverProgram.Program
