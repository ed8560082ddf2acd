import Ebaz4205.ProgramEffects

/-!
# Monitors over the exchanges of a program

A monitor watches the exchanges of a program, keeps a state of its own, and says
which event it permits next. It accepts a trace when it permits each event in
the state it is in by then. The rules carry acceptance through a program, with
what is known of the monitor's state before and after each part.
-/

namespace Ebaz4205.DriverProgram.Program

open DriverProgram

set_option autoImplicit false

/-- Exchanges that are not observed leave the monitor alone. -/
structure Monitor (sig : Signature) (Event State : Type) where
  observe : Exchange sig → Option Event
  advance : State → Event → State
  permits : State → Event → Prop

variable {sig : Signature} {Event State Result Other World : Type}

namespace Monitor

variable {monitor : Monitor sig Event State}

def after (monitor : Monitor sig Event State) (state : State) (events : List Event) : State :=
  events.foldl monitor.advance state

def Accepts (monitor : Monitor sig Event State) : State → List Event → Prop
  | _, [] => True
  | state, event :: rest =>
      monitor.permits state event ∧ Accepts monitor (monitor.advance state event) rest

/-- What the monitor sees of an execution. -/
def trace (monitor : Monitor sig Event State) (env : Environment sig World)
    (program : Program sig Result) (machine : Machine sig World) : List Event :=
  (program.exchanges env machine).filterMap monitor.observe

theorem trace_fetch (monitor : Monitor sig Event State) (env : Environment sig World)
    (next : sig.Memory → Program sig Result) (machine : Machine sig World) :
    monitor.trace env (.fetch next) machine = monitor.trace env (next machine.memory) machine := rfl

theorem after_append (state : State) (first second : List Event) :
    monitor.after state (first ++ second) = monitor.after (monitor.after state first) second :=
  List.foldl_append

theorem accepts_append (state : State) (first second : List Event) :
    monitor.Accepts state (first ++ second) ↔
      monitor.Accepts state first ∧ monitor.Accepts (monitor.after state first) second := by
  induction first generalizing state with
  | nil => simp [Accepts, after]
  | cons event rest ih =>
      rw [List.cons_append, Accepts, Accepts, ih, and_assoc]
      rfl

theorem permits_of_accepts {state : State} {events before rest : List Event} {event : Event}
    (accepted : monitor.Accepts state events) (split : events = before ++ event :: rest) :
    monitor.permits (monitor.after state before) event := by
  rw [split, accepts_append] at accepted
  exact accepted.2.1

end Monitor

section Obeys

/-- From a state in `pre` the monitor accepts what the program does, and if the
program returns, the monitor is left in `post`. -/
structure Obeys (env : Environment sig World) (monitor : Monitor sig Event State)
    (pre : State → Prop) (program : Program sig Result) (post : State → Prop) : Prop where
  accepted : ∀ state machine, pre state →
    monitor.Accepts state (monitor.trace env program machine)
  after_return : ∀ state machine result last, pre state →
    program.exec env machine = (.returned result, last) →
    post (monitor.after state (monitor.trace env program machine))

variable {env : Environment sig World} {monitor : Monitor sig Event State}
  {pre mid post : State → Prop} {program : Program sig Result}
  {next : Result → Program sig Other}

theorem trace_bind (next : Result → Program sig Other) (machine : Machine sig World) :
    monitor.trace env (program.bind next) machine =
      monitor.trace env program machine ++
        followedBy (fun result last => monitor.trace env (next result) last)
          (program.exec env machine) := by
  rw [Monitor.trace, exchanges_bind, List.filterMap_append]
  rcases program.exec env machine with ⟨outcome, last⟩
  cases outcome with
  | returned result => rfl
  | undefined => rfl
  | unfinished => rfl

theorem obeys_done (result : Result) : Obeys env monitor pre (.done result) pre where
  accepted := fun _ _ _ => trivial
  after_return := fun _ _ _ _ holds _ => holds

/-- A program without observed exchanges. -/
theorem obeys_of_unobserved {effects : Effects sig} (within : program.Within effects)
    (unobserved : ∀ exchange, effects.sends exchange.request → monitor.observe exchange = none) :
    Obeys env monitor pre program pre := by
  have silent : ∀ machine, monitor.trace env program machine = [] := by
    intro machine
    apply List.filterMap_eq_nil_iff.mpr
    intro exchange sent
    exact unobserved exchange (exchanges_within within sent)
  constructor
  · intro state machine _
    rw [silent]
    trivial
  · intro state machine result last holds _
    rw [silent]
    exact holds

theorem obeys_request {call : sig.Call} {event : Event}
    (observed : ∀ reply, monitor.observe ⟨call, reply⟩ = some event)
    (permitted : ∀ state, pre state → monitor.permits state event)
    (advanced : ∀ state, pre state → post (monitor.advance state event)) :
    Obeys env monitor pre (request call) post := by
  have seen : ∀ machine, monitor.trace env (request call) machine = [event] := by
    intro machine
    exact List.filterMap_cons_some (observed _)
  constructor
  · intro state machine holds
    rw [seen]
    exact ⟨permitted state holds, trivial⟩
  · intro state machine result last holds _
    rw [seen]
    exact advanced state holds

theorem obeys_modify (change : sig.Memory → sig.Memory) :
    Obeys env monitor pre (modify change) pre where
  accepted := fun _ _ _ => trivial
  after_return := fun _ _ _ _ holds _ => holds

theorem obeys_field {Value : Type} (read : sig.Memory → Value) :
    Obeys env monitor pre (field read) pre where
  accepted := fun _ _ _ => trivial
  after_return := fun _ _ _ _ holds _ => holds

theorem obeys_unfinished : Obeys env monitor pre (.unfinished : Program sig Result) post where
  accepted := fun _ _ _ => trivial
  after_return := fun _ _ _ _ _ ran => absurd (Prod.mk.inj ran).1 (by simp)

theorem obeys_bind (first : Obeys env monitor pre program mid)
    (second : ∀ result, Obeys env monitor mid (next result) post) :
    Obeys env monitor pre (program.bind next) post := by
  constructor
  · intro state machine holds
    rw [trace_bind, Monitor.accepts_append]
    constructor
    · exact first.accepted state machine holds
    · rcases ran : program.exec env machine with ⟨outcome, between⟩
      cases outcome with
      | returned result =>
          exact (second result).accepted _ between
            (first.after_return state machine result between holds ran)
      | undefined => trivial
      | unfinished => trivial
  · intro state machine result last holds ran
    obtain ⟨value, between, firstRan, secondRan⟩ := exec_bind_returned ran
    rw [trace_bind, Monitor.after_append, firstRan]
    exact (second value).after_return _ between result last
      (first.after_return state machine value between holds firstRan) secondRan

theorem obeys_if {condition : Prop} [Decidable condition] {yes no : Program sig Result}
    (taken : Obeys env monitor pre yes post) (skipped : Obeys env monitor pre no post) :
    Obeys env monitor pre (if condition then yes else no) post := by
  by_cases holds : condition
  · rw [if_pos holds]
    exact taken
  · rw [if_neg holds]
    exact skipped

theorem obeys_strengthen {stronger : State → Prop} (obeys : Obeys env monitor pre program post)
    (implies : ∀ state, stronger state → pre state) :
    Obeys env monitor stronger program post where
  accepted := fun state machine holds => obeys.accepted state machine (implies state holds)
  after_return := fun state machine result last holds ran =>
    obeys.after_return state machine result last (implies state holds) ran

theorem obeys_weaken {weaker : State → Prop} (obeys : Obeys env monitor pre program mid)
    (implied : ∀ state, mid state → weaker state) : Obeys env monitor pre program weaker where
  accepted := obeys.accepted
  after_return := fun state machine result last holds ran =>
    implied _ (obeys.after_return state machine result last holds ran)

end Obeys

end Ebaz4205.DriverProgram.Program
