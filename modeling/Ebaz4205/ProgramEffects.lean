import Mathlib.Algebra.Order.Ring.Int
import Mathlib.Algebra.BigOperators.Group.List.Basic
import Ebaz4205.DriverProgramRules

/-!
# What a program can do at most

The effects of a program are the requests it can send, the changes it can make
to its memory and the arrays it can index, over all replies and all memories.
They bound every execution, however it ends. A program for one signature can
also be run inside a program for another, by a handler for each of its actions;
its effects are then those of the handler. Where the effects are not enough,
because what a program sends depends on what it found, there is a judgement about
its exchanges from given machines.
-/

namespace Ebaz4205.DriverProgram.Program

open DriverProgram

set_option autoImplicit false

/-- The actions that are allowed in a program. -/
structure Effects (sig : Signature) where
  sends : sig.Call → Prop
  changes : (sig.Memory → sig.Memory) → Prop
  visits : sig.Region → Nat → Prop

variable {sig inner outer : Signature} {Result Other World : Type}

def Within (effects : Effects sig) : Program sig Result → Prop
  | .done _ => True
  | .call request next => effects.sends request ∧ ∀ reply, (next reply).Within effects
  | .fetch next => ∀ memory, (next memory).Within effects
  | .update change next => effects.changes change ∧ next.Within effects
  | .access region position next =>
      effects.visits region position ∧ ∀ slot, (next slot).Within effects
  | .unfinished => True

section Construction

variable {effects : Effects sig} {program : Program sig Result}
  {next : Result → Program sig Other}

theorem within_done (result : Result) : (Program.done result : Program sig Result).Within effects :=
  trivial

theorem within_field {Value : Type} (read : sig.Memory → Value) :
    (field read).Within effects := fun _ => trivial

theorem within_modify {change : sig.Memory → sig.Memory} (allowed : effects.changes change) :
    (modify change).Within effects := ⟨allowed, trivial⟩

theorem within_bind (first : program.Within effects)
    (second : ∀ result, (next result).Within effects) : (program.bind next).Within effects := by
  induction program with
  | done result => exact second result
  | call request rest ih => exact ⟨first.1, fun reply => ih reply (first.2 reply)⟩
  | fetch rest ih => exact fun memory => ih memory (first memory)
  | update change rest ih => exact ⟨first.1, ih first.2⟩
  | access region position rest ih => exact ⟨first.1, fun slot => ih slot (first.2 slot)⟩
  | unfinished => trivial

theorem within_if {condition : Prop} [Decidable condition] {yes no : Program sig Result}
    (taken : yes.Within effects) (skipped : no.Within effects) :
    (if condition then yes else no).Within effects := by
  by_cases holds : condition
  · rw [if_pos holds]
    exact taken
  · rw [if_neg holds]
    exact skipped

/-- The effects that allow everything. -/
def Effects.unrestricted : Effects sig := ⟨fun _ => True, fun _ => True, fun _ _ => True⟩

theorem within_unrestricted (program : Program sig Result) : program.Within .unrestricted := by
  induction program with
  | done result => trivial
  | call request rest ih => exact ⟨trivial, ih⟩
  | fetch rest ih => exact ih
  | update change rest ih => exact ⟨trivial, ih⟩
  | access region position rest ih => exact ⟨trivial, ih⟩
  | unfinished => trivial

theorem within_whenever {condition : Prop} [Decidable condition] {body : Program sig Unit}
    (taken : body.Within effects) : (whenever condition body).Within effects :=
  within_if taken (within_done ())

/-- More effects allow what fewer allow. -/
theorem within_mono {wider : Effects sig} (within : program.Within effects)
    (sends : ∀ call, effects.sends call → wider.sends call)
    (changes : ∀ change, effects.changes change → wider.changes change)
    (visits : ∀ region position, effects.visits region position → wider.visits region position) :
    program.Within wider := by
  induction program with
  | done result => trivial
  | call request rest ih => exact ⟨sends request within.1, fun reply => ih reply (within.2 reply)⟩
  | fetch rest ih => exact fun memory => ih memory (within memory)
  | update change rest ih => exact ⟨changes change within.1, ih within.2⟩
  | access region position rest ih =>
      exact ⟨visits region position within.1, fun slot => ih slot (within.2 slot)⟩
  | unfinished => trivial

end Construction

section Executions

variable {env : Environment sig World} {effects : Effects sig} {program : Program sig Result}

/-- What every allowed request and change preserves holds wherever the
execution ends, undefined behaviour included. -/
theorem exec_preserves (good : Machine sig World → Prop) (within : program.Within effects)
    (answered : ∀ call machine, effects.sends call → good machine →
      good { machine with world := (env.respond call machine.world).2 })
    (changed : ∀ change machine, effects.changes change → good machine →
      good { machine with memory := change machine.memory })
    {machine : Machine sig World} (initial : good machine) :
    good (program.exec env machine).2 := by
  induction program generalizing machine with
  | done result => exact initial
  | call request rest ih =>
      exact ih _ (within.2 _) (answered request machine within.1 initial)
  | fetch rest ih => exact ih _ (within _) initial
  | update change rest ih => exact ih within.2 (changed change machine within.1 initial)
  | access region position rest ih =>
      rw [exec]
      by_cases bound : position < sig.extent region
      · rw [dif_pos bound]
        exact ih _ (within.2 _) initial
      · rw [dif_neg bound]
        exact initial
  | unfinished => exact initial

theorem exchanges_within (within : program.Within effects) {machine : Machine sig World}
    {exchange : Exchange sig} (sent : exchange ∈ program.exchanges env machine) :
    effects.sends exchange.request := by
  induction program generalizing machine with
  | done result => exact absurd sent List.not_mem_nil
  | call request rest ih =>
      cases sent with
      | head => exact within.1
      | tail _ later => exact ih _ (within.2 _) later
  | fetch rest ih => exact ih _ (within _) sent
  | update change rest ih => exact ih within.2 sent
  | access region position rest ih =>
      rw [exchanges] at sent
      by_cases bound : position < sig.extent region
      · rw [dif_pos bound] at sent
        exact ih _ (within.2 _) sent
      · rw [dif_neg bound] at sent
        exact absurd sent List.not_mem_nil
  | unfinished => exact absurd sent List.not_mem_nil

theorem accesses_within (within : program.Within effects) {machine : Machine sig World}
    {used : sig.Region × Nat} (accessed : used ∈ program.accesses env machine) :
    effects.visits used.1 used.2 := by
  induction program generalizing machine with
  | done result => exact absurd accessed List.not_mem_nil
  | call request rest ih => exact ih _ (within.2 _) accessed
  | fetch rest ih => exact ih _ (within _) accessed
  | update change rest ih => exact ih within.2 accessed
  | access region position rest ih =>
      rw [accesses] at accessed
      cases accessed with
      | head => exact within.1
      | tail _ later =>
          by_cases bound : position < sig.extent region
          · rw [dif_pos bound] at later
            exact ih _ (within.2 _) later
          · rw [dif_neg bound] at later
            exact absurd later List.not_mem_nil
  | unfinished => exact absurd accessed List.not_mem_nil

/-- What a finished execution is followed by in a list of its actions. -/
def followedBy {Action : Type} (later : Result → Machine sig World → List Action) :
    Outcome Result × Machine sig World → List Action
  | (.returned result, machine) => later result machine
  | (.undefined, _) => []
  | (.unfinished, _) => []

theorem followedBy_undefined {Action : Type} {later : Result → Machine sig World → List Action}
    {execution : Outcome Result × Machine sig World} (faulted : execution.1 = .undefined) :
    followedBy later execution = [] := by
  obtain ⟨outcome, machine⟩ := execution
  rw [show outcome = .undefined from faulted]
  rfl

theorem followedBy_nil {Action : Type} {later : Result → Machine sig World → List Action}
    (silent : ∀ result machine, later result machine = [])
    (execution : Outcome Result × Machine sig World) : followedBy later execution = [] := by
  obtain ⟨outcome, machine⟩ := execution
  cases outcome with
  | returned result => exact silent result machine
  | undefined => rfl
  | unfinished => rfl

theorem exchanges_bind (env : Environment sig World) (program : Program sig Result)
    (next : Result → Program sig Other) (machine : Machine sig World) :
    (program.bind next).exchanges env machine =
      program.exchanges env machine ++
        followedBy (fun result after => (next result).exchanges env after)
          (program.exec env machine) := by
  induction program generalizing machine with
  | done result => rfl
  | call request rest ih =>
      simp only [bind, exchanges, exec, List.cons_append]
      rw [ih]
  | fetch rest ih => exact ih _ _
  | update change rest ih => exact ih _
  | access region position rest ih =>
      simp only [bind, exchanges, exec]
      by_cases bound : position < sig.extent region
      · simp only [dif_pos bound]
        exact ih _ _
      · simp only [dif_neg bound, List.nil_append, followedBy]
  | unfinished => rfl

theorem accesses_bind (env : Environment sig World) (program : Program sig Result)
    (next : Result → Program sig Other) (machine : Machine sig World) :
    (program.bind next).accesses env machine =
      program.accesses env machine ++
        followedBy (fun result after => (next result).accesses env after)
          (program.exec env machine) := by
  induction program generalizing machine with
  | done result => rfl
  | call request rest ih => exact ih _ _
  | fetch rest ih => exact ih _ _
  | update change rest ih => exact ih _
  | access region position rest ih =>
      simp only [bind, accesses, exec, List.cons_append]
      by_cases bound : position < sig.extent region
      · simp only [dif_pos bound]
        rw [ih]
      · simp only [dif_neg bound, List.nil_append, followedBy]
  | unfinished => rfl

theorem accesses_nil (within : program.Within effects)
    (nowhere : ∀ region position, ¬effects.visits region position) (machine : Machine sig World) :
    program.accesses env machine = [] :=
  List.eq_nil_iff_forall_not_mem.mpr fun _ member => nowhere _ _ (accesses_within within member)

/-- What follows without arrays adds no access. -/
theorem accesses_bind_left {next : Result → Program sig Other} {effects : Effects sig}
    (within : ∀ result, (next result).Within effects)
    (nowhere : ∀ region position, ¬effects.visits region position) (machine : Machine sig World) :
    (program.bind next).accesses env machine = program.accesses env machine := by
  rw [accesses_bind, followedBy_nil fun _ _ => accesses_nil (within _) nowhere _, List.append_nil]

end Executions

section Tallies

/-- The sum of what each exchange of the execution weighs. -/
def tally (env : Environment sig World) (weigh : Exchange sig → Int) (program : Program sig Result)
    (machine : Machine sig World) : Int :=
  ((program.exchanges env machine).map weigh).sum

variable {env : Environment sig World} {weigh : Exchange sig → Int} {program : Program sig Result}
  {machine middle : Machine sig World} {value : Result}

theorem tally_request_bind (call : sig.Call) (next : sig.Reply call → Program sig Result) :
    tally env weigh (.call call next) machine =
      weigh ⟨call, (env.respond call machine.world).1⟩ +
        tally env weigh (next (env.respond call machine.world).1)
          { machine with world := (env.respond call machine.world).2 } := by
  rw [tally, exchanges, List.map_cons, List.sum_cons]
  rfl

theorem tally_bind (ran : program.exec env machine = (.returned value, middle))
    (next : Result → Program sig Other) :
    tally env weigh (program.bind next) machine =
      tally env weigh program machine + tally env weigh (next value) middle := by
  rw [tally, exchanges_bind, ran, List.map_append, List.sum_append]
  rfl

theorem tally_of_within {effects : Effects sig} (within : program.Within effects)
    (weightless : ∀ exchange : Exchange sig, effects.sends exchange.request → weigh exchange = 0) :
    tally env weigh program machine = 0 := by
  apply List.sum_eq_zero
  intro weight member
  obtain ⟨exchange, sent, same⟩ := List.mem_map.mp member
  rw [← same]
  exact weightless exchange (exchanges_within within sent)

end Tallies

section Touching

/-- Every position the program uses from this memory is `allowed`, whatever the
environment answers. -/
def Touches (env : Environment sig World) (allowed : Nat → Prop) (program : Program sig Result)
    (memory : sig.Memory) : Prop :=
  ∀ world, ∀ used ∈ program.accesses env ⟨memory, world⟩, allowed used.2

variable {env : Environment sig World} {allowed : Nat → Prop} {program : Program sig Result}
  {next : Result → Program sig Other} {memory : sig.Memory}

theorem touches_done (result : Result) : Touches env allowed (.done result) memory :=
  fun _ _ member => absurd member List.not_mem_nil

theorem touches_field_bind {Value : Type} {read : sig.Memory → Value}
    {later : Value → Program sig Result}
    (touches : Touches env allowed (later (read memory)) memory) :
    Touches env allowed ((field read).bind later) memory := touches

theorem touches_modify_bind {change : sig.Memory → sig.Memory} {later : Unit → Program sig Result}
    (touches : Touches env allowed (later ()) (change memory)) :
    Touches env allowed ((modify change).bind later) memory := touches

theorem touches_index_bind {region : sig.Region} {position : Nat}
    {later : Fin (sig.extent region) → Program sig Result} (here : allowed position)
    (touches : ∀ bound, Touches env allowed (later ⟨position, bound⟩) memory) :
    Touches env allowed ((index region position).bind later) memory := by
  intro world used member
  change used ∈ (Program.access region position later).accesses env ⟨memory, world⟩ at member
  rw [accesses] at member
  cases member with
  | head => exact here
  | tail _ rest =>
      by_cases bound : position < sig.extent region
      · rw [dif_pos bound] at rest
        exact touches _ world used rest
      · rw [dif_neg bound] at rest
        exact absurd rest List.not_mem_nil

theorem touches_if {condition : Prop} [Decidable condition] {yes no : Program sig Result}
    (taken : condition → Touches env allowed yes memory)
    (skipped : ¬condition → Touches env allowed no memory) :
    Touches env allowed (if condition then yes else no) memory := by
  by_cases holds : condition
  · rw [if_pos holds]
    exact taken holds
  · rw [if_neg holds]
    exact skipped holds

/-- A program without arrays touches none. -/
theorem touches_of_within {effects : Effects sig} (within : program.Within effects)
    (nowhere : ∀ region position, ¬effects.visits region position) :
    Touches env allowed program memory := by
  intro world used member
  rw [accesses_nil within nowhere] at member
  exact absurd member List.not_mem_nil

end Touching

section Conduct

/-- From a machine in `pre` the program has only `proper` exchanges, however it
ends, and if it returns, then with `post` of its result and the machine it leaves. -/
structure Conducts (env : Environment sig World) (proper : Exchange sig → Prop)
    (pre : Machine sig World → Prop) (program : Program sig Result)
    (post : Result → Machine sig World → Prop) : Prop where
  exchanged : ∀ machine, pre machine →
    ∀ exchange ∈ program.exchanges env machine, proper exchange
  after_return : ∀ machine result after, pre machine →
    program.exec env machine = (.returned result, after) → post result after

variable {env : Environment sig World} {proper : Exchange sig → Prop}
  {pre : Machine sig World → Prop} {program : Program sig Result}
  {next : Result → Program sig Other} {mid : Result → Machine sig World → Prop}
  {post : Other → Machine sig World → Prop}

theorem conducts_done (result : Result) (holds : ∀ machine, pre machine → mid result machine) :
    Conducts env proper pre (.done result) mid where
  exchanged := fun _ _ _ member => absurd member List.not_mem_nil
  after_return := by
    intro machine returned after before ran
    rw [exec_done, Prod.mk.injEq, Outcome.returned.injEq] at ran
    rw [← ran.1, ← ran.2]
    exact holds machine before

theorem conducts_request {call : sig.Call} {after : sig.Reply call → Machine sig World → Prop}
    (sent : ∀ machine, pre machine → proper ⟨call, (env.respond call machine.world).1⟩)
    (answered : ∀ machine, pre machine → after (env.respond call machine.world).1
      { machine with world := (env.respond call machine.world).2 }) :
    Conducts env proper pre (request call) after where
  exchanged := by
    intro machine before exchange member
    rw [List.mem_singleton.mp member]
    exact sent machine before
  after_return := by
    intro machine reply last before ran
    rw [exec_request, Prod.mk.injEq, Outcome.returned.injEq] at ran
    rw [← ran.1, ← ran.2]
    exact answered machine before

theorem conducts_field {Value : Type} (read : sig.Memory → Value)
    {after : Value → Machine sig World → Prop}
    (holds : ∀ machine, pre machine → after (read machine.memory) machine) :
    Conducts env proper pre (field read) after where
  exchanged := fun _ _ _ member => absurd member List.not_mem_nil
  after_return := by
    intro machine value last before ran
    rw [exec_field, Prod.mk.injEq, Outcome.returned.injEq] at ran
    rw [← ran.1, ← ran.2]
    exact holds machine before

theorem conducts_modify {change : sig.Memory → sig.Memory}
    {after : Unit → Machine sig World → Prop}
    (changed : ∀ machine, pre machine →
      after () { machine with memory := change machine.memory }) :
    Conducts env proper pre (modify change) after where
  exchanged := fun _ _ _ member => absurd member List.not_mem_nil
  after_return := by
    intro machine value last before ran
    rw [exec_modify, Prod.mk.injEq] at ran
    rw [← ran.2]
    exact changed machine before

theorem conducts_bind (first : Conducts env proper pre program mid)
    (second : ∀ result, Conducts env proper (mid result) (next result) post) :
    Conducts env proper pre (program.bind next) post where
  exchanged := by
    intro machine before exchange member
    rw [exchanges_bind] at member
    rcases List.mem_append.mp member with early | late
    · exact first.exchanged machine before exchange early
    · rcases ran : program.exec env machine with ⟨outcome, between⟩
      rw [ran] at late
      cases outcome with
      | returned result =>
          have reached := first.after_return machine result between before ran
          exact (second result).exchanged between reached exchange late
      | undefined => exact absurd late List.not_mem_nil
      | unfinished => exact absurd late List.not_mem_nil
  after_return := by
    intro machine result last before ran
    obtain ⟨value, between, firstRan, secondRan⟩ := exec_bind_returned ran
    have reached := first.after_return machine value between before firstRan
    exact (second value).after_return between result last reached secondRan

/-- A fact about the machine at the beginning can be used for the whole program. -/
theorem conducts_of_fact {fact : Prop} {before : Machine sig World → Prop}
    (holds : ∀ machine, before machine → fact ∧ pre machine)
    (conducts : fact → Conducts env proper pre program mid) :
    Conducts env proper before program mid where
  exchanged := by
    intro machine begins
    obtain ⟨known, starts⟩ := holds machine begins
    exact (conducts known).exchanged machine starts
  after_return := by
    intro machine result after begins
    obtain ⟨known, starts⟩ := holds machine begins
    exact (conducts known).after_return machine result after starts

theorem conducts_weaken {after : Result → Machine sig World → Prop}
    (conducts : Conducts env proper pre program mid)
    (weaker : ∀ result machine, mid result machine → after result machine) :
    Conducts env proper pre program after where
  exchanged := conducts.exchanged
  after_return := fun machine result last before ran =>
    weaker result last (conducts.after_return machine result last before ran)

/-- A program whose effects are all proper, and which all preserve `pre`. -/
theorem conducts_of_within {effects : Effects sig} (within : program.Within effects)
    (sent : ∀ exchange, effects.sends exchange.request → proper exchange)
    (answered : ∀ call machine, effects.sends call → pre machine →
      pre { machine with world := (env.respond call machine.world).2 })
    (changed : ∀ change machine, effects.changes change → pre machine →
      pre { machine with memory := change machine.memory }) :
    Conducts env proper pre program fun _ => pre where
  exchanged := fun _ _ exchange member => sent exchange (exchanges_within within member)
  after_return := by
    intro machine result last before ran
    have preserved := exec_preserves pre within answered changed before
    rw [ran] at preserved
    exact preserved

/-- A program that only uses arrays. -/
theorem conducts_of_silent
    (silent : program.Within ⟨fun _ => False, fun _ => False, fun _ _ => True⟩) :
    Conducts env proper pre program fun _ => pre :=
  conducts_of_within silent (fun _ sent => sent.elim) (fun _ _ sent => sent.elim)
    fun _ _ changed => changed.elim

end Conduct

section Handlers

/-- How each action of one signature is carried out by programs of another. -/
structure Handler (inner outer : Signature) where
  send : (call : inner.Call) → Program outer (inner.Reply call)
  fetch : Program outer inner.Memory
  update : (inner.Memory → inner.Memory) → Program outer Unit
  locate : (region : inner.Region) → Nat → Program outer (Fin (inner.extent region))

def interpret (handler : Handler inner outer) : Program inner Result → Program outer Result
  | .done result => .done result
  | .call request next => (handler.send request).bind fun reply => (next reply).interpret handler
  | .fetch next => handler.fetch.bind fun memory => (next memory).interpret handler
  | .update change next => (handler.update change).bind fun _ => next.interpret handler
  | .access region position next =>
      (handler.locate region position).bind fun slot => (next slot).interpret handler
  | .unfinished => .unfinished

structure Handler.Within (handler : Handler inner outer) (effects : Effects outer) : Prop where
  send : ∀ call, (handler.send call).Within effects
  fetch : handler.fetch.Within effects
  update : ∀ change, (handler.update change).Within effects
  locate : ∀ region position, (handler.locate region position).Within effects

theorem within_interpret {handler : Handler inner outer} {effects : Effects outer}
    (handled : handler.Within effects) (program : Program inner Result) :
    (program.interpret handler).Within effects := by
  induction program with
  | done result => trivial
  | call request rest ih => exact within_bind (handled.send request) ih
  | fetch rest ih => exact within_bind handled.fetch ih
  | update change rest ih => exact within_bind (handled.update change) fun _ => ih
  | access region position rest ih => exact within_bind (handled.locate region position) ih
  | unfinished => trivial

end Handlers

end Ebaz4205.DriverProgram.Program
