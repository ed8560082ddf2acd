import Mathlib.Data.List.Basic

/-!
# Processes that can be interrupted

A process reads and writes a state that outlives it. A write is atomic and can be
refused, and the process can raise an exception. It can also be interrupted in front
of any write, and then the state stays as it is.
-/

namespace Ebaz4205.InterruptedProcess

set_option autoImplicit false

inductive Process (State Raised Result : Type) where
  | done (result : Result)
  | raise (error : Raised)
  | read (next : State → Process State Raised Result)
  | write (change : State → Option State) (next : Bool → Process State Raised Result)

namespace Process

variable {State Raised Result Other : Type}

def bind (process : Process State Raised Result) (next : Result → Process State Raised Other) :
    Process State Raised Other :=
  match process with
  | .done result => next result
  | .raise error => .raise error
  | .read rest => .read fun state => (rest state).bind next
  | .write change rest => .write change fun written => (rest written).bind next

instance : Monad (Process State Raised) where
  pure := .done
  bind := bind

@[simp] theorem pure_eq_done (result : Result) :
    (pure result : Process State Raised Result) = .done result := rfl

@[simp] theorem bind_eq (process : Process State Raised Result)
    (next : Result → Process State Raised Other) : process >>= next = process.bind next := rfl

/-- The process as the handler of its own exceptions. -/
def attempt : Process State Raised Result → Process State Raised (Except Raised Result)
  | .done result => .done (.ok result)
  | .raise error => .done (.error error)
  | .read next => .read fun state => (next state).attempt
  | .write change next => .write change fun written => (next written).attempt

def forEach (body : Nat → Process State Raised Unit) : List Nat → Process State Raised Unit
  | [] => .done ()
  | item :: rest => (body item).bind fun _ => forEach body rest

def exec : Process State Raised Result → State → Except Raised Result × State
  | .done result, state => (.ok result, state)
  | .raise error, state => (.error error, state)
  | .read next, state => (next state).exec state
  | .write change next, state =>
      match change state with
      | some changed => (next true).exec changed
      | none => (next false).exec state

/-- An exception ends the whole sequence. -/
def continueWith (next : Result → Process State Raised Other) :
    Except Raised Result × State → Except Raised Other × State
  | (.ok result, state) => (next result).exec state
  | (.error error, state) => (.error error, state)

/-- The states that an interruption can leave, one for each write. -/
def passed : Process State Raised Result → State → List State
  | .done _, _ => []
  | .raise _, _ => []
  | .read next, state => (next state).passed state
  | .write change next, state =>
      state :: match change state with
        | some changed => (next true).passed changed
        | none => (next false).passed state

section Sequences

variable {process : Process State Raised Result} {next : Result → Process State Raised Other}
  {state middle after : State}

theorem exec_bind :
    (process.bind next).exec state = continueWith next (process.exec state) := by
  induction process generalizing state with
  | done value => rfl
  | raise error => rfl
  | read rest ih => exact ih state
  | write change rest ih =>
      rw [bind, exec, exec]
      cases change state with
      | some changed => exact ih true
      | none => exact ih false

theorem exec_bind_ok {result : Result} (ran : process.exec state = (.ok result, middle)) :
    (process.bind next).exec state = (next result).exec middle := by
  rw [exec_bind, ran]
  rfl

theorem exec_bind_error {error : Raised} (ran : process.exec state = (.error error, middle)) :
    (process.bind next).exec state = (.error error, middle) := by
  rw [exec_bind, ran]
  rfl

theorem exec_bind_ok_iff {last : Other} :
    (process.bind next).exec state = (.ok last, after) ↔
      ∃ result middle, process.exec state = (.ok result, middle) ∧
        (next result).exec middle = (.ok last, after) := by
  constructor
  · intro ran
    cases first : process.exec state with
    | mk ended middle =>
        cases ended with
        | ok result =>
            rw [exec_bind_ok first] at ran
            exact ⟨result, middle, rfl, ran⟩
        | error error =>
            rw [exec_bind_error first] at ran
            exact absurd (Prod.mk.inj ran).1 (by simp)
  · intro both
    obtain ⟨result, middle, first, second⟩ := both
    rw [exec_bind_ok first]
    exact second

theorem exec_then_ok_iff {first : Process State Raised Unit}
    {second : Unit → Process State Raised Other} {last : Other} :
    (first.bind second).exec state = (.ok last, after) ↔
      ∃ middle, first.exec state = (.ok (), middle) ∧
        (second ()).exec middle = (.ok last, after) := by
  rw [exec_bind_ok_iff]
  constructor
  · intro ran
    obtain ⟨_, middle, both⟩ := ran
    exact ⟨middle, both⟩
  · intro ran
    obtain ⟨middle, both⟩ := ran
    exact ⟨(), middle, both⟩

/-- An exception of a sequence comes from one of its two parts. -/
theorem exec_bind_error_iff {error : Raised} :
    (process.bind next).exec state = (.error error, after) ↔
      process.exec state = (.error error, after) ∨
        ∃ result middle, process.exec state = (.ok result, middle) ∧
          (next result).exec middle = (.error error, after) := by
  cases first : process.exec state with
  | mk ended middle =>
      cases ended with
      | ok result =>
          rw [exec_bind_ok first]
          constructor
          · intro ran
            exact .inr ⟨result, middle, rfl, ran⟩
          · rintro (raised | ⟨value, state, same, ran⟩)
            · exact absurd (Prod.mk.inj raised).1 (by simp)
            · rw [Prod.mk.injEq, Except.ok.injEq] at same
              rw [same.1, same.2]
              exact ran
      | error raised =>
          rw [exec_bind_error first]
          constructor
          · intro ran
            rw [Prod.mk.injEq, Except.error.injEq] at ran
            exact .inl (by rw [ran.1, ran.2])
          · rintro (same | ⟨value, state, same, _⟩)
            · rw [Prod.mk.injEq, Except.error.injEq] at same
              rw [same.1, same.2]
            · exact absurd (Prod.mk.inj same).1 (by simp)

theorem mem_passed_bind :
    after ∈ (process.bind next).passed state ↔ after ∈ process.passed state ∨
      ∃ result middle, process.exec state = (.ok result, middle) ∧
        after ∈ (next result).passed middle := by
  induction process generalizing state with
  | done value => simp [bind, passed, exec]
  | raise error => simp [bind, passed, exec]
  | read rest ih => exact ih state
  | write change rest ih =>
      rw [bind, passed, passed, exec]
      cases written : change state with
      | some changed => simp only [List.mem_cons, ih true, or_assoc]
      | none => simp only [List.mem_cons, ih false, or_assoc]

/-- The handler always returns, with the exception if there is one. -/
theorem exec_attempt :
    process.attempt.exec state = (.ok (process.exec state).1, (process.exec state).2) := by
  induction process generalizing state with
  | done value => rfl
  | raise error => rfl
  | read rest ih => exact ih state
  | write change rest ih =>
      rw [attempt, exec, exec]
      cases change state with
      | some changed => exact ih true
      | none => exact ih false

end Sequences

section Invariants

/-- Each write of the process keeps the invariant. -/
def Preserves (inv : State → Prop) : Process State Raised Result → Prop
  | .done _ => True
  | .raise _ => True
  | .read next => ∀ state, Preserves inv (next state)
  | .write change next =>
      (∀ state changed, inv state → change state = some changed → inv changed) ∧
        ∀ written, Preserves inv (next written)

variable {inv : State → Prop} {process : Process State Raised Result}
  {next : Result → Process State Raised Other} {state : State}

theorem preserves_bind (first : process.Preserves inv)
    (second : ∀ result, (next result).Preserves inv) : (process.bind next).Preserves inv := by
  induction process with
  | done value => exact second value
  | raise error => trivial
  | read rest ih => exact fun state => ih state (first state)
  | write change rest ih => exact ⟨first.1, fun written => ih written (first.2 written)⟩

theorem preserves_attempt (kept : process.Preserves inv) : process.attempt.Preserves inv := by
  induction process with
  | done value => trivial
  | raise error => trivial
  | read rest ih => exact fun state => ih state (kept state)
  | write change rest ih => exact ⟨kept.1, fun written => ih written (kept.2 written)⟩

theorem preserves_forEach {body : Nat → Process State Raised Unit} (items : List Nat)
    (kept : ∀ item ∈ items, (body item).Preserves inv) : (forEach body items).Preserves inv := by
  induction items with
  | nil => trivial
  | cons item rest ih =>
      apply preserves_bind (kept item List.mem_cons_self)
      intro result
      exact ih fun other member => kept other (List.mem_cons_of_mem _ member)

/-- The invariant holds however the process ends. -/
theorem inv_exec (kept : process.Preserves inv) (holds : inv state) :
    inv (process.exec state).2 := by
  induction process generalizing state with
  | done value => exact holds
  | raise error => exact holds
  | read rest ih => exact ih state (kept state) holds
  | write change rest ih =>
      rw [exec]
      cases written : change state with
      | some changed => exact ih true (kept.2 true) (kept.1 state changed holds written)
      | none => exact ih false (kept.2 false) holds

/-- An interruption leaves the invariant too. -/
theorem inv_passed (kept : process.Preserves inv) (holds : inv state) {left : State}
    (interrupted : left ∈ process.passed state) : inv left := by
  induction process generalizing state with
  | done value => exact absurd interrupted List.not_mem_nil
  | raise error => exact absurd interrupted List.not_mem_nil
  | read rest ih => exact ih state (kept state) holds interrupted
  | write change rest ih =>
      rw [passed, List.mem_cons] at interrupted
      rcases interrupted with here | later
      · rw [here]
        exact holds
      · cases written : change state with
        | some changed =>
            rw [written] at later
            exact ih true (kept.2 true) (kept.1 state changed holds written) later
        | none =>
            rw [written] at later
            exact ih false (kept.2 false) holds later

end Invariants

end Process

end Ebaz4205.InterruptedProcess
