import Mathlib.Data.Fintype.Basic

/-!
# Programs that drive hardware through requests

A program is a finite tree of atomic actions. It reads and changes a memory of
its own, sends requests to an environment it does not control, and indexes
arrays of fixed extent. An index outside the extent ends the execution as
undefined behaviour; a loop that runs out of its budget ends it as unfinished.
Nothing here fixes what the environment answers.
-/

namespace Ebaz4205.DriverProgram

set_option autoImplicit false

/-- The alphabet of one driver: its requests with the type of each reply, its
arrays with their lengths, and the memory it keeps between calls. -/
structure Signature where
  Call : Type
  Reply : Call → Type
  Region : Type
  extent : Region → Nat
  Memory : Type

/-- `access` hands its continuation a position that is known to be inside the
array, so no later step can use an index that was not checked. -/
inductive Program (sig : Signature) (Result : Type) where
  | done (result : Result)
  | call (request : sig.Call) (next : sig.Reply request → Program sig Result)
  | fetch (next : sig.Memory → Program sig Result)
  | update (change : sig.Memory → sig.Memory) (next : Program sig Result)
  | access (region : sig.Region) (position : Nat)
      (next : Fin (sig.extent region) → Program sig Result)
  | unfinished

namespace Program

variable {sig : Signature} {Result Other World : Type}

def bind (program : Program sig Result) (next : Result → Program sig Other) :
    Program sig Other :=
  match program with
  | .done result => next result
  | .call request rest => .call request fun reply => (rest reply).bind next
  | .fetch rest => .fetch fun memory => (rest memory).bind next
  | .update change rest => .update change (rest.bind next)
  | .access region position rest => .access region position fun slot => (rest slot).bind next
  | .unfinished => .unfinished

instance : Monad (Program sig) where
  pure := .done
  bind := bind

@[simp] theorem pure_eq_done (result : Result) :
    (pure result : Program sig Result) = .done result := rfl

@[simp] theorem bind_eq (program : Program sig Result) (next : Result → Program sig Other) :
    program >>= next = program.bind next := rfl

/-- Send one request and return the reply. -/
def request (call : sig.Call) : Program sig (sig.Reply call) := .call call .done

def field {Value : Type} (read : sig.Memory → Value) : Program sig Value :=
  .fetch fun memory => .done (read memory)

def modify (change : sig.Memory → sig.Memory) : Program sig Unit :=
  .update change (.done ())

def index (region : sig.Region) (position : Nat) : Program sig (Fin (sig.extent region)) :=
  .access region position .done

/-- A C `if` without `else`. -/
def whenever (condition : Prop) [Decidable condition] (body : Program sig Unit) :
    Program sig Unit :=
  if condition then body else .done ()

end Program

inductive Outcome (Result : Type) where
  | returned (result : Result)
  | undefined
  | unfinished
  deriving DecidableEq

/-- The driver's own memory beside the state of everything it talks to. -/
structure Machine (sig : Signature) (World : Type) where
  memory : sig.Memory
  world : World

structure Environment (sig : Signature) (World : Type) where
  respond : (request : sig.Call) → World → sig.Reply request × World

/-- A request with the reply that came back. -/
structure Exchange (sig : Signature) where
  request : sig.Call
  reply : sig.Reply request

namespace Program

variable {sig : Signature} {Result Other World : Type}

theorem bind_assoc {Last : Type} (program : Program sig Result)
    (next : Result → Program sig Other) (last : Other → Program sig Last) :
    (program.bind next).bind last = program.bind fun result => (next result).bind last := by
  induction program with
  | done result => rfl
  | call request rest ih => exact congrArg (Program.call request) (funext ih)
  | fetch rest ih => exact congrArg Program.fetch (funext ih)
  | update change rest ih => exact congrArg (Program.update change) ih
  | access region position rest ih => exact congrArg (Program.access region position) (funext ih)
  | unfinished => rfl

def exec (env : Environment sig World) :
    Program sig Result → Machine sig World → Outcome Result × Machine sig World
  | .done result, machine => (.returned result, machine)
  | .call request next, machine =>
      exec env (next (env.respond request machine.world).1)
        { machine with world := (env.respond request machine.world).2 }
  | .fetch next, machine => exec env (next machine.memory) machine
  | .update change next, machine =>
      exec env next { machine with memory := change machine.memory }
  | .access region position next, machine =>
      if bound : position < sig.extent region then exec env (next ⟨position, bound⟩) machine
      else (.undefined, machine)
  | .unfinished, machine => (.unfinished, machine)

/-- Every array position the execution uses, in order. The one that makes it
undefined, if any, is the last. -/
def accesses (env : Environment sig World) :
    Program sig Result → Machine sig World → List (sig.Region × Nat)
  | .done _, _ => []
  | .call request next, machine =>
      accesses env (next (env.respond request machine.world).1)
        { machine with world := (env.respond request machine.world).2 }
  | .fetch next, machine => accesses env (next machine.memory) machine
  | .update change next, machine =>
      accesses env next { machine with memory := change machine.memory }
  | .access region position next, machine =>
      (region, position) ::
        if bound : position < sig.extent region then
          accesses env (next ⟨position, bound⟩) machine
        else []
  | .unfinished, _ => []

/-- Every request the execution sends with the reply it gets, in order. -/
def exchanges (env : Environment sig World) :
    Program sig Result → Machine sig World → List (Exchange sig)
  | .done _, _ => []
  | .call request next, machine =>
      ⟨request, (env.respond request machine.world).1⟩ ::
        exchanges env (next (env.respond request machine.world).1)
          { machine with world := (env.respond request machine.world).2 }
  | .fetch next, machine => exchanges env (next machine.memory) machine
  | .update change next, machine =>
      exchanges env next { machine with memory := change machine.memory }
  | .access region position next, machine =>
      if bound : position < sig.extent region then
        exchanges env (next ⟨position, bound⟩) machine
      else []
  | .unfinished, _ => []

/-- Continue a finished execution with what follows it. -/
def continueWith (next : Result → Machine sig World → Outcome Other × Machine sig World) :
    Outcome Result × Machine sig World → Outcome Other × Machine sig World
  | (.returned result, machine) => next result machine
  | (.undefined, machine) => (.undefined, machine)
  | (.unfinished, machine) => (.unfinished, machine)

theorem exec_bind (env : Environment sig World) (program : Program sig Result)
    (next : Result → Program sig Other) (machine : Machine sig World) :
    (program.bind next).exec env machine =
      continueWith (fun result after => (next result).exec env after)
        (program.exec env machine) := by
  induction program generalizing machine with
  | done result => rfl
  | call request rest ih => exact ih _ _
  | fetch rest ih => exact ih _ _
  | update change rest ih => exact ih _
  | access region position rest ih =>
      simp only [bind, exec]
      by_cases bound : position < sig.extent region
      · simp only [dif_pos bound]
        exact ih _ _
      · simp only [dif_neg bound, continueWith]
  | unfinished => rfl

section Evaluation

variable (env : Environment sig World) (machine : Machine sig World)

@[simp] theorem exec_done (result : Result) :
    (Program.done result).exec env machine = (.returned result, machine) := rfl

@[simp] theorem exec_request (call : sig.Call) :
    (request call).exec env machine =
      (.returned (env.respond call machine.world).1,
        { machine with world := (env.respond call machine.world).2 }) := rfl

@[simp] theorem exec_field {Value : Type} (read : sig.Memory → Value) :
    (field read).exec env machine = (.returned (read machine.memory), machine) := rfl

@[simp] theorem exec_modify (change : sig.Memory → sig.Memory) :
    (modify change).exec env machine =
      (.returned (), { machine with memory := change machine.memory }) := rfl

@[simp] theorem exec_request_bind (call : sig.Call)
    (next : sig.Reply call → Program sig Result) :
    ((request call).bind next).exec env machine =
      (next (env.respond call machine.world).1).exec env
        { machine with world := (env.respond call machine.world).2 } := rfl

@[simp] theorem exec_field_bind {Value : Type} (read : sig.Memory → Value)
    (next : Value → Program sig Result) :
    ((field read).bind next).exec env machine = (next (read machine.memory)).exec env machine := rfl

@[simp] theorem exec_modify_bind (change : sig.Memory → sig.Memory)
    (next : Unit → Program sig Result) :
    ((modify change).bind next).exec env machine =
      (next ()).exec env { machine with memory := change machine.memory } := rfl

theorem exec_index (region : sig.Region) (position : Nat) :
    (index region position).exec env machine =
      if bound : position < sig.extent region then (.returned ⟨position, bound⟩, machine)
      else (.undefined, machine) := rfl

theorem exec_index_bind (region : sig.Region) (position : Nat)
    (next : Fin (sig.extent region) → Program sig Result) :
    ((index region position).bind next).exec env machine =
      if bound : position < sig.extent region then (next ⟨position, bound⟩).exec env machine
      else (.undefined, machine) := rfl

@[simp] theorem continueWith_returned
    (next : Result → Machine sig World → Outcome Other × Machine sig World) (result : Result) :
    continueWith next (.returned result, machine) = next result machine := rfl

@[simp] theorem continueWith_undefined
    (next : Result → Machine sig World → Outcome Other × Machine sig World) :
    continueWith next (.undefined, machine) = (.undefined, machine) := rfl

end Evaluation

/-- An execution that returns has returned from its first part. -/
theorem exec_bind_returned {env : Environment sig World} {program : Program sig Result}
    {next : Result → Program sig Other} {machine last : Machine sig World} {result : Other}
    (ran : (program.bind next).exec env machine = (.returned result, last)) :
    ∃ value middle, program.exec env machine = (.returned value, middle) ∧
      (next value).exec env middle = (.returned result, last) := by
  rw [exec_bind] at ran
  cases firstRan : program.exec env machine with
  | mk outcome middle =>
      rw [firstRan] at ran
      cases outcome with
      | returned value => exact ⟨value, middle, rfl, ran⟩
      | undefined => exact absurd (Prod.mk.inj ran).1 (by simp)
      | unfinished => exact absurd (Prod.mk.inj ran).1 (by simp)

/-- What follows an undefined execution is not reached. -/
theorem exec_bind_undefined {env : Environment sig World} {program : Program sig Result}
    {machine : Machine sig World} (faulted : (program.exec env machine).1 = .undefined)
    (next : Result → Program sig Other) :
    ((program.bind next).exec env machine).1 = .undefined := by
  rw [exec_bind]
  cases ran : program.exec env machine with
  | mk outcome after =>
      rw [ran] at faulted
      rw [show outcome = .undefined from faulted, continueWith_undefined]

theorem exec_bind_undefined_iff {env : Environment sig World} {program : Program sig Result}
    {machine : Machine sig World} (next : Result → Program sig Other) :
    ((program.bind next).exec env machine).1 = .undefined ↔
      (program.exec env machine).1 = .undefined ∨
        ∃ value middle, program.exec env machine = (.returned value, middle) ∧
          ((next value).exec env middle).1 = .undefined := by
  rw [exec_bind]
  cases ran : program.exec env machine with
  | mk outcome middle =>
      cases outcome with
      | returned value => simp
      | undefined => simp
      | unfinished => simp [continueWith]

end Program

end Ebaz4205.DriverProgram
