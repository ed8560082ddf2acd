import Ebaz4205.ProgramEffects

/-!
# Programs with marks

The requests of a program do not show which of them belong to one call of a part
of it. A marked program makes the same requests and leaves marks between them,
which the environment answers with nothing. Erasing the marks gives back a
program without them that runs alike and makes the same requests, so a trace
with marks is the trace of that program with places pointed out in it.
-/

namespace Ebaz4205.DriverProgram

set_option autoImplicit false

inductive MarkedCall (sig : Signature) (Mark : Type) where
  | inner (asked : sig.Call)
  | mark (mark : Mark)

abbrev MarkedReply {sig : Signature} {Mark : Type} : MarkedCall sig Mark → Type
  | .inner asked => sig.Reply asked
  | .mark _ => Unit

abbrev Signature.withMarks (sig : Signature) (Mark : Type) : Signature where
  Call := MarkedCall sig Mark
  Reply := MarkedReply
  Region := sig.Region
  extent := sig.extent
  Memory := sig.Memory

namespace Program

variable {sig : Signature} {Mark Result Other World : Type}

/-- A program in which no place is marked. -/
def withoutMarks : Handler sig (sig.withMarks Mark) where
  send asked := .call (.inner asked) .done
  fetch := .fetch .done
  update change := modify change
  locate region position := .access region position .done

def plain (program : Program sig Result) : Program (sig.withMarks Mark) Result :=
  program.interpret withoutMarks

def eraseMarks : Handler (sig.withMarks Mark) sig where
  send
    | .inner asked => .call asked .done
    | .mark _ => .done ()
  fetch := .fetch .done
  update change := modify change
  locate region position := .access region position .done

def erase (program : Program (sig.withMarks Mark) Result) : Program sig Result :=
  program.interpret eraseMarks

section Erasure

theorem erase_bind (program : Program (sig.withMarks Mark) Result)
    (next : Result → Program (sig.withMarks Mark) Other) :
    erase (program.bind next) = (erase program).bind fun result => erase (next result) := by
  induction program with
  | done result => rfl
  | call request rest ih =>
      cases request with
      | inner asked =>
          have later : (fun reply => erase ((rest reply).bind next)) = fun reply =>
              (erase (rest reply)).bind fun result => erase (next result) := funext ih
          exact congrArg (Program.call asked : _ → Program sig Other) later
      | mark mark => exact ih ()
  | fetch rest ih =>
      have later : (fun memory => erase ((rest memory).bind next)) = fun memory =>
          (erase (rest memory)).bind fun result => erase (next result) := funext ih
      exact congrArg (Program.fetch : _ → Program sig Other) later
  | update change rest ih =>
      exact congrArg (Program.update change : _ → Program sig Other) ih
  | access region position rest ih =>
      have later : (fun slot => erase ((rest slot).bind next)) = fun slot =>
          (erase (rest slot)).bind fun result => erase (next result) := funext ih
      exact congrArg (fun body => (.access region position body : Program sig Other)) later
  | unfinished => rfl

theorem erase_plain (program : Program sig Result) :
    erase (plain program : Program (sig.withMarks Mark) Result) = program := by
  induction program with
  | done result => rfl
  | call request rest ih => exact congrArg (Program.call request) (funext ih)
  | fetch rest ih => exact congrArg Program.fetch (funext ih)
  | update change rest ih => exact congrArg (Program.update change) ih
  | access region position rest ih => exact congrArg (Program.access region position) (funext ih)
  | unfinished => rfl

theorem erase_if {condition : Prop} [Decidable condition]
    (yes no : Program (sig.withMarks Mark) Result) :
    erase (if condition then yes else no) = if condition then erase yes else erase no :=
  apply_ite erase condition yes no

end Erasure

section Executions

/-- What an environment answers when it is asked through marks. -/
def marked (env : Environment sig World) : Environment (sig.withMarks Mark) World where
  respond
    | .inner asked, world => env.respond asked world
    | .mark _, world => ((), world)

def withMarks (machine : Machine sig World) : Machine (sig.withMarks Mark) World :=
  ⟨machine.memory, machine.world⟩

def unmarked (machine : Machine (sig.withMarks Mark) World) : Machine sig World :=
  ⟨machine.memory, machine.world⟩

variable (env : Environment sig World)

theorem exec_erase (program : Program (sig.withMarks Mark) Result)
    (machine : Machine (sig.withMarks Mark) World) :
    (erase program).exec env (unmarked machine) =
      ((program.exec (marked env) machine).1, unmarked (program.exec (marked env) machine).2) := by
  induction program generalizing machine with
  | done result => rfl
  | call request rest ih =>
      cases request with
      | inner asked =>
          exact ih (env.respond asked machine.world).1
            ⟨machine.memory, (env.respond asked machine.world).2⟩
      | mark mark => exact ih () machine
  | fetch rest ih => exact ih machine.memory machine
  | update change rest ih => exact ih ⟨change machine.memory, machine.world⟩
  | access region position rest ih =>
      by_cases bound : position < sig.extent region
      · have inside : (erase (.access region position rest)).exec env (unmarked machine) =
            (erase (rest ⟨position, bound⟩)).exec env (unmarked machine) := dif_pos bound
        have reached : (Program.access region position rest).exec (marked env) machine =
            (rest ⟨position, bound⟩).exec (marked env) machine := dif_pos bound
        rw [inside, reached, ih]
      · have outside : (erase (.access region position rest)).exec env (unmarked machine) =
            (.undefined, unmarked machine) := dif_neg bound
        have stopped : (Program.access region position rest).exec (marked env) machine =
            (.undefined, machine) := dif_neg bound
        rw [outside, stopped]
  | unfinished => rfl

/-- An execution without marks is one with marks. -/
theorem exec_of_erase {program : Program (sig.withMarks Mark) Result}
    {erased : Program sig Result} (erases : erase program = erased)
    {machine last : Machine sig World} {outcome : Outcome Result}
    (ran : erased.exec env machine = (outcome, last)) :
    program.exec (marked env) (withMarks machine) = (outcome, withMarks last) := by
  have same := exec_erase env program (withMarks machine)
  rw [erases] at same
  have both : (outcome, last) = ((program.exec (marked env) (withMarks machine)).1,
      unmarked (program.exec (marked env) (withMarks machine)).2) := ran.symm.trans same
  rw [Prod.mk.injEq] at both
  exact Prod.ext both.1.symm (congrArg withMarks both.2.symm)

theorem exec_plain (program : Program sig Result) (machine : Machine sig World) :
    (plain program : Program (sig.withMarks Mark) Result).exec (marked env) (withMarks machine) =
      ((program.exec env machine).1, withMarks (program.exec env machine).2) :=
  exec_of_erase env (erase_plain program) rfl

end Executions

section Traces

def innerExchange : Exchange (sig.withMarks Mark) → Option (Exchange sig)
  | ⟨.inner asked, reply⟩ => some ⟨asked, reply⟩
  | ⟨.mark _, _⟩ => none

def markLeft : Exchange (sig.withMarks Mark) → Option Mark
  | ⟨.inner _, _⟩ => none
  | ⟨.mark mark, _⟩ => some mark

variable (env : Environment sig World)

/-- The marks that an execution leaves, in order. -/
def marks (program : Program (sig.withMarks Mark) Result) (machine : Machine sig World) :
    List Mark :=
  (program.exchanges (marked env) (withMarks machine)).filterMap markLeft

theorem exchanges_erase (program : Program (sig.withMarks Mark) Result)
    (machine : Machine (sig.withMarks Mark) World) :
    (erase program).exchanges env (unmarked machine) =
      (program.exchanges (marked env) machine).filterMap innerExchange := by
  induction program generalizing machine with
  | done result => rfl
  | call request rest ih =>
      cases request with
      | inner asked =>
          have later := ih (env.respond asked machine.world).1
            ⟨machine.memory, (env.respond asked machine.world).2⟩
          exact congrArg (List.cons ⟨asked, (env.respond asked machine.world).1⟩) later
      | mark mark => exact ih () machine
  | fetch rest ih => exact ih machine.memory machine
  | update change rest ih => exact ih ⟨change machine.memory, machine.world⟩
  | access region position rest ih =>
      by_cases bound : position < sig.extent region
      · have inside : (erase (.access region position rest)).exchanges env (unmarked machine) =
            (erase (rest ⟨position, bound⟩)).exchanges env (unmarked machine) := dif_pos bound
        have reached : (Program.access region position rest).exchanges (marked env) machine =
            (rest ⟨position, bound⟩).exchanges (marked env) machine := dif_pos bound
        rw [inside, reached, ih]
      · have outside : (erase (.access region position rest)).exchanges env (unmarked machine) =
            [] := dif_neg bound
        have stopped : (Program.access region position rest).exchanges (marked env) machine = [] :=
          dif_neg bound
        rw [outside, stopped]
        rfl
  | unfinished => rfl

/-- Everything but leaving marks. -/
def unmarkedEffects (sig : Signature) (Mark : Type) : Effects (sig.withMarks Mark) where
  sends call := ∃ asked, call = MarkedCall.inner asked
  changes _ := True
  visits _ _ := True

theorem within_plain (program : Program sig Result) :
    (plain program).Within (unmarkedEffects sig Mark) := by
  apply within_interpret
  constructor
  · intro call
    exact ⟨⟨call, rfl⟩, fun _ => trivial⟩
  · intro memory
    trivial
  · intro change
    exact ⟨trivial, trivial⟩
  · intro region position
    exact ⟨trivial, fun _ => trivial⟩

theorem marks_plain_bind (program : Program sig Result)
    (next : Result → Program (sig.withMarks Mark) Other) (machine : Machine sig World) :
    marks env ((plain program).bind next) machine =
      followedBy (fun result last => marks env (next result) last) (program.exec env machine) := by
  have silent : ∀ exchange ∈ (plain program : Program (sig.withMarks Mark) Result).exchanges
      (marked env) (withMarks machine), markLeft exchange = none := by
    intro exchange sent
    obtain ⟨asked, same⟩ := exchanges_within (within_plain program) sent
    obtain ⟨request, reply⟩ := exchange
    subst same
    rfl
  unfold marks
  rw [exchanges_bind, List.filterMap_append, List.filterMap_eq_nil_iff.mpr silent,
    List.nil_append, exec_plain]
  rcases program.exec env machine with ⟨outcome, last⟩
  cases outcome with
  | returned result => rfl
  | undefined => rfl
  | unfinished => rfl

theorem marks_mark (mark : Mark) (next : Unit → Program (sig.withMarks Mark) Result)
    (machine : Machine sig World) :
    marks env (.call (.mark mark) next) machine = mark :: marks env (next ()) machine := rfl

end Traces

end Program

end Ebaz4205.DriverProgram
