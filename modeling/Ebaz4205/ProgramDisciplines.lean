import Ebaz4205.ProgramEquivalence

/-!
# Rules about what may be sent next

A discipline says which requests may come next, depending on the requests and the
replies before. That a program keeps a discipline is shown action by action, with a
condition about the state of the discipline and the machine between any two. An
environment that refuses what the discipline forbids is not told from one that does not by
a program that keeps it.
-/

namespace Ebaz4205.DriverProgram.Program

open DriverProgram

set_option autoImplicit false

variable {sig : Signature} {State Result Other World : Type}

structure Discipline (sig : Signature) (State : Type) where
  permits : State → sig.Call → Prop
  advance : State → Exchange sig → State

namespace Discipline

variable (discipline : Discipline sig State)

def Follows : State → List (Exchange sig) → Prop
  | _, [] => True
  | state, exchange :: rest =>
      discipline.permits state exchange.request ∧ Follows (discipline.advance state exchange) rest

def after (state : State) (exchanges : List (Exchange sig)) : State :=
  exchanges.foldl discipline.advance state

theorem follows_append (state : State) (first second : List (Exchange sig)) :
    discipline.Follows state (first ++ second) ↔
      discipline.Follows state first ∧
        discipline.Follows (discipline.after state first) second := by
  induction first generalizing state with
  | nil => exact (iff_of_eq (true_and _)).symm
  | cons exchange rest ih =>
      rw [List.cons_append, Follows, Follows, ih, and_assoc]
      rfl

theorem after_append (state : State) (first second : List (Exchange sig)) :
    discipline.after state (first ++ second) =
      discipline.after (discipline.after state first) second :=
  List.foldl_append

end Discipline

section Keeping

/-- From a state and a machine in `pre` the program leaves no array, follows the discipline,
and where it returns, `post` holds. -/
structure Keeps (env : Environment sig World) (discipline : Discipline sig State)
    (pre : State → Machine sig World → Prop) (program : Program sig Result)
    (post : Result → State → Machine sig World → Prop) : Prop where
  defined : ∀ state machine, pre state machine → (program.exec env machine).1 ≠ .undefined
  follows : ∀ state machine, pre state machine →
    discipline.Follows state (program.exchanges env machine)
  after_return : ∀ state machine result last, pre state machine →
    program.exec env machine = (.returned result, last) →
      post result (discipline.after state (program.exchanges env machine)) last

variable {env : Environment sig World} {discipline : Discipline sig State}
  {program other : Program sig Result} {next : Result → Program sig Other}
  {pre stronger : State → Machine sig World → Prop}
  {mid post weaker : Result → State → Machine sig World → Prop}
  {last : Other → State → Machine sig World → Prop}

theorem keeps_done {result : Result}
    (holds : ∀ state machine, pre state machine → post result state machine) :
    Keeps env discipline pre (.done result) post where
  defined := fun _ _ _ same => by cases same
  follows := fun _ _ _ => trivial
  after_return := by
    intro state machine value after before ran
    cases ran
    exact holds state machine before

theorem keeps_request {call : sig.Call} {answer : sig.Reply call → State → Machine sig World → Prop}
    (permitted : ∀ state machine, pre state machine → discipline.permits state call)
    (answered : ∀ state machine, pre state machine →
      answer (env.respond call machine.world).1
        (discipline.advance state ⟨call, (env.respond call machine.world).1⟩)
        { machine with world := (env.respond call machine.world).2 }) :
    Keeps env discipline pre (request call) answer where
  defined := fun _ _ _ same => by cases same
  follows := fun state machine before => ⟨permitted state machine before, trivial⟩
  after_return := by
    intro state machine reply after before ran
    cases ran
    exact answered state machine before

theorem keeps_bind (first : Keeps env discipline pre program mid)
    (second : ∀ result, Keeps env discipline (mid result) (next result) last) :
    Keeps env discipline pre (program.bind next) last where
  defined := by
    intro state machine before faulted
    rcases (exec_bind_undefined_iff next).mp faulted with early | ⟨value, between, firstRan, late⟩
    · exact first.defined state machine before early
    · exact (second value).defined _ between
        (first.after_return state machine value between before firstRan) late
  follows := by
    intro state machine before
    rw [exchanges_bind, Discipline.follows_append]
    refine ⟨first.follows state machine before, ?_⟩
    rcases ran : program.exec env machine with ⟨outcome, between⟩
    cases outcome with
    | returned value =>
        exact (second value).follows _ between
          (first.after_return state machine value between before ran)
    | undefined => trivial
    | unfinished => trivial
  after_return := by
    intro state machine result after before ran
    obtain ⟨value, between, firstRan, secondRan⟩ := exec_bind_returned ran
    rw [exchanges_bind, Discipline.after_append, firstRan]
    exact (second value).after_return _ between result after
      (first.after_return state machine value between before firstRan) secondRan

theorem keeps_if {condition : Prop} [Decidable condition]
    (taken : condition → Keeps env discipline pre program post)
    (skipped : ¬condition → Keeps env discipline pre other post) :
    Keeps env discipline pre (if condition then program else other) post := by
  by_cases holds : condition
  · rw [if_pos holds]
    exact taken holds
  · rw [if_neg holds]
    exact skipped holds

theorem keeps_mono (keeps : Keeps env discipline pre program post)
    (implies : ∀ state machine, stronger state machine → pre state machine)
    (implied : ∀ result state machine, post result state machine → weaker result state machine) :
    Keeps env discipline stronger program weaker where
  defined := fun state machine before => keeps.defined state machine (implies state machine before)
  follows := fun state machine before => keeps.follows state machine (implies state machine before)
  after_return := fun state machine result after before ran =>
    implied result _ after
      (keeps.after_return state machine result after (implies state machine before) ran)

/-- A result that is only looked at. -/
theorem keeps_map {read : Result → Other} (first : Keeps env discipline pre program mid)
    (implied : ∀ result state machine, mid result state machine →
      last (read result) state machine) :
    Keeps env discipline pre (program.bind fun result => .done (read result)) last :=
  keeps_bind first fun result => keeps_done (implied result)

theorem keeps_of_interchangeable (same : Interchangeable program other)
    (keeps : Keeps env discipline pre other post) : Keeps env discipline pre program post where
  defined := by
    intro state machine before
    rw [same.exec World env machine]
    exact keeps.defined state machine before
  follows := by
    intro state machine before
    rw [same.exchanges World env machine]
    exact keeps.follows state machine before
  after_return := by
    intro state machine result after before ran
    rw [same.exec World env machine] at ran
    rw [same.exchanges World env machine]
    exact keeps.after_return state machine result after before ran

end Keeping

section Enforcement

variable (discipline : Discipline sig State)
    [∀ state call, Decidable (discipline.permits state call)]
  (refuse : ∀ call : sig.Call, sig.Reply call) (env : Environment sig World)

/-- The environment that keeps account of the discipline, and refuses what it forbids. -/
def Discipline.enforced : Environment sig (World × State) where
  respond call both :=
    if discipline.permits both.2 call then
      ((env.respond call both.1).1, (env.respond call both.1).2,
        discipline.advance both.2 ⟨call, (env.respond call both.1).1⟩)
    else (refuse call, both)

variable {discipline refuse env}

theorem enforced_respond {call : sig.Call} {state : State} (world : World)
    (permitted : discipline.permits state call) :
    (discipline.enforced refuse env).respond call (world, state) =
      ((env.respond call world).1, (env.respond call world).2,
        discipline.advance state ⟨call, (env.respond call world).1⟩) := if_pos permitted

/-- Nothing is refused to a program that follows the discipline. -/
theorem exec_enforced {program : Program sig Result} {machine : Machine sig World} {state : State}
    (follows : discipline.Follows state (program.exchanges env machine)) :
    program.exec (discipline.enforced refuse env) ⟨machine.memory, machine.world, state⟩ =
      ((program.exec env machine).1, ⟨(program.exec env machine).2.memory,
        (program.exec env machine).2.world,
        discipline.after state (program.exchanges env machine)⟩) := by
  induction program generalizing machine state with
  | done result => rfl
  | call request rest ih =>
      rw [exchanges] at follows
      rw [exec, enforced_respond machine.world follows.1]
      exact ih _ follows.2
  | fetch rest ih => exact ih _ follows
  | update change rest ih => exact ih follows
  | access region position rest ih =>
      rw [exchanges] at follows
      rw [exec, exec, exchanges]
      by_cases bound : position < sig.extent region
      · rw [dif_pos bound] at follows
        rw [dif_pos bound, dif_pos bound, dif_pos bound]
        exact ih _ follows
      · rw [dif_neg bound, dif_neg bound, dif_neg bound]
        rfl
  | unfinished => rfl

end Enforcement

end Ebaz4205.DriverProgram.Program
