import Mathlib.Data.List.Induction

/-!
# Runs of a partial transducer

A transducer answers each input with an output and a next state, or has no
answer. The rules here turn facts about one step into facts about whole runs:
an invariant, a relation between the state and the inputs seen so far, and a
simulation by an abstract machine that predicts every answer.
-/

namespace Ebaz4205.PartialRuns

set_option autoImplicit false

/-- `none` is a step after which nothing is known, such as undefined behaviour. -/
structure Transducer (State Input Output : Type*) where
  step : State → Input → Option (Output × State)

namespace Transducer

variable {State Input Output Abstract : Type*}

def run (system : Transducer State Input Output) :
    State → List Input → Option (List Output × State)
  | state, [] => some ([], state)
  | state, input :: rest =>
      match system.step state input with
      | none => none
      | some (output, next) =>
          (run system next rest).map fun answer => (output :: answer.1, answer.2)

/-- The states in which a run is found between two inputs. -/
def Reaches (system : Transducer State Input Output) (start : State) (inputs : List Input)
    (final : State) : Prop :=
  ∃ outputs, system.run start inputs = some (outputs, final)

variable {system : Transducer State Input Output}

theorem run_cons (state : State) (input : Input) (rest : List Input) (outputs : List Output)
    (final : State) :
    system.run state (input :: rest) = some (outputs, final) ↔
      ∃ output next others, system.step state input = some (output, next) ∧
        system.run next rest = some (others, final) ∧ outputs = output :: others := by
  rw [run]
  constructor
  · intro ran
    cases stepped : system.step state input with
    | none => simp [stepped] at ran
    | some answer =>
        obtain ⟨output, next⟩ := answer
        simp only [stepped, Option.map_eq_some_iff, Prod.mk.injEq] at ran
        obtain ⟨⟨others, last⟩, tail, same, rfl⟩ := ran
        exact ⟨output, next, others, rfl, tail, same.symm⟩
  · rintro ⟨output, next, others, stepped, tail, rfl⟩
    simp [stepped, tail]

theorem run_append (start : State) (first second : List Input) :
    system.run start (first ++ second) =
      (system.run start first).bind fun answer =>
        (system.run answer.2 second).map fun last => (answer.1 ++ last.1, last.2) := by
  induction first generalizing start with
  | nil => simp [run]
  | cons input rest ih =>
      simp only [List.cons_append, run]
      cases system.step start input with
      | none => rfl
      | some answer =>
          dsimp only
          rw [ih]
          cases system.run answer.2 rest with
          | none => rfl
          | some middle =>
              simp only [Option.bind_some, Option.map_some, Option.map_map]
              rfl

theorem reaches_nil (start final : State) : system.Reaches start [] final ↔ final = start := by
  constructor
  · rintro ⟨outputs, ran⟩
    simp only [run, Option.some.injEq, Prod.mk.injEq] at ran
    exact ran.2.symm
  · rintro rfl
    exact ⟨[], rfl⟩

theorem reaches_unique {start first second : State} {inputs : List Input}
    (reachedFirst : system.Reaches start inputs first)
    (reachedSecond : system.Reaches start inputs second) : first = second := by
  obtain ⟨outputs, firstRan⟩ := reachedFirst
  obtain ⟨others, secondRan⟩ := reachedSecond
  exact congrArg Prod.snd (Option.some.inj (firstRan.symm.trans secondRan))

theorem reaches_append (start final : State) (first second : List Input) :
    system.Reaches start (first ++ second) final ↔
      ∃ middle, system.Reaches start first middle ∧ system.Reaches middle second final := by
  constructor
  · rintro ⟨outputs, ran⟩
    rw [run_append, Option.bind_eq_some_iff] at ran
    obtain ⟨⟨before, middle⟩, firstRan, rest⟩ := ran
    obtain ⟨⟨after, last⟩, secondRan, same⟩ := Option.map_eq_some_iff.mp rest
    have finalSame : last = final := congrArg Prod.snd same
    exact ⟨middle, ⟨before, firstRan⟩, ⟨after, by rw [← finalSame]; exact secondRan⟩⟩
  · rintro ⟨middle, ⟨before, firstRan⟩, ⟨after, secondRan⟩⟩
    exact ⟨before ++ after, by simp [run_append, firstRan, secondRan]⟩

theorem reaches_singleton (start final : State) (input : Input) :
    system.Reaches start [input] final ↔
      ∃ output, system.step start input = some (output, final) := by
  constructor
  · rintro ⟨outputs, ran⟩
    obtain ⟨output, next, others, stepped, tail, _⟩ := (run_cons _ _ _ _ _).mp ran
    have same := (reaches_nil next final).mp ⟨others, tail⟩
    exact ⟨output, by rw [same]; exact stepped⟩
  · rintro ⟨output, stepped⟩
    exact ⟨[output], by simp [run, stepped]⟩

theorem reaches_cons (start final : State) (input : Input) (rest : List Input) :
    system.Reaches start (input :: rest) final ↔
      ∃ output next, system.step start input = some (output, next) ∧
        system.Reaches next rest final := by
  rw [← List.singleton_append, reaches_append]
  simp only [reaches_singleton]
  constructor
  · rintro ⟨next, ⟨output, stepped⟩, tail⟩
    exact ⟨output, next, stepped, tail⟩
  · rintro ⟨output, next, stepped, tail⟩
    exact ⟨next, ⟨output, stepped⟩, tail⟩

/-- A run that does not come to its end has a first step without an answer. -/
theorem reaches_or_stops (system : Transducer State Input Output) (start : State)
    (inputs : List Input) :
    (∃ final, system.Reaches start inputs final) ∨
      ∃ before input rest state, inputs = before ++ input :: rest ∧
        system.Reaches start before state ∧ system.step state input = none := by
  induction inputs generalizing start with
  | nil => exact Or.inl ⟨start, (reaches_nil start start).mpr rfl⟩
  | cons input rest ih =>
      cases stepped : system.step start input with
      | none =>
          exact Or.inr ⟨[], input, rest, start, rfl, (reaches_nil start start).mpr rfl, stepped⟩
      | some answer =>
          rcases ih answer.2 with ⟨final, tail⟩ | ⟨before, failing, after, state, same, tail, stops⟩
          · exact Or.inl ⟨final, (reaches_cons _ _ _ _).mpr ⟨answer.1, answer.2, stepped, tail⟩⟩
          · refine Or.inr ⟨input :: before, failing, after, state, by rw [same]; rfl, ?_, stops⟩
            exact (reaches_cons _ _ _ _).mpr ⟨answer.1, answer.2, stepped, tail⟩

/-- Each step that the run takes is `allowed` in the state it starts from. -/
def EveryStep (system : Transducer State Input Output) (allowed : State → Input → Prop)
    (start : State) (inputs : List Input) : Prop :=
  ∀ before input rest state, inputs = before ++ input :: rest →
    system.Reaches start before state → allowed state input

/-- Each state that the run comes through is `good`. -/
def EveryState (system : Transducer State Input Output) (good : State → Prop)
    (start : State) (inputs : List Input) : Prop :=
  ∀ before rest state, inputs = before ++ rest → system.Reaches start before state → good state

section Invariants

variable {good : State → Prop} {allowed : State → Input → Prop} {start : State}
  {inputs : List Input}

theorem everyStep_front {first second : List Input}
    (steps : system.EveryStep allowed start (first ++ second)) :
    system.EveryStep allowed start first := by
  intro before input rest state same reached
  exact steps before input (rest ++ second) state (by rw [same]; simp) reached

theorem everyStep_nil : system.EveryStep allowed start [] := by
  intro before input rest state same
  exact absurd same.symm (by simp)

theorem everyStep_cons {input : Input} :
    system.EveryStep allowed start (input :: inputs) ↔
      allowed start input ∧ ∀ output next, system.step start input = some (output, next) →
        system.EveryStep allowed next inputs := by
  constructor
  · intro steps
    constructor
    · exact steps [] input inputs start rfl ((reaches_nil start start).mpr rfl)
    · intro output next stepped before later rest state same reached
      apply steps (input :: before) later rest state (by rw [same]; rfl)
      exact (reaches_cons _ _ _ _).mpr ⟨output, next, stepped, reached⟩
  · rintro ⟨first, others⟩ before later rest state same reached
    cases before with
    | nil =>
        obtain ⟨rfl, rfl⟩ := List.cons.inj same
        rw [(reaches_nil start state).mp reached]
        exact first
    | cons head front =>
        obtain ⟨rfl, sameRest⟩ := List.cons.inj same
        obtain ⟨output, next, stepped, reachedLater⟩ := (reaches_cons _ _ _ _).mp reached
        exact others output next stepped front later rest state sameRest reachedLater

/-- Whether each step of a run is allowed, by running it. -/
def checkSteps (system : Transducer State Input Output) (allowed : State → Input → Prop)
    [∀ state input, Decidable (allowed state input)] : State → List Input → Bool
  | _, [] => true
  | state, input :: rest =>
      decide (allowed state input) &&
        match system.step state input with
        | none => true
        | some (_, next) => checkSteps system allowed next rest

theorem everyStep_of_checked [∀ state input, Decidable (allowed state input)]
    (checked : system.checkSteps allowed start inputs = true) :
    system.EveryStep allowed start inputs := by
  induction inputs generalizing start with
  | nil => exact everyStep_nil
  | cons input rest ih =>
      rw [checkSteps, Bool.and_eq_true, decide_eq_true_iff] at checked
      rw [everyStep_cons]
      refine ⟨checked.1, fun output next stepped => ih ?_⟩
      have later := checked.2
      rw [stepped] at later
      exact later

theorem everyState_nil : system.EveryState good start [] ↔ good start := by
  constructor
  · intro states
    exact states [] [] start rfl ((reaches_nil start start).mpr rfl)
  · intro holds before rest state same reached
    obtain ⟨rfl, _⟩ := List.append_eq_nil_iff.mp same.symm
    rw [(reaches_nil start state).mp reached]
    exact holds

theorem everyState_cons {input : Input} :
    system.EveryState good start (input :: inputs) ↔
      good start ∧ ∀ output next, system.step start input = some (output, next) →
        system.EveryState good next inputs := by
  constructor
  · intro states
    constructor
    · exact states [] (input :: inputs) start rfl ((reaches_nil start start).mpr rfl)
    · intro output next stepped before rest state same reached
      apply states (input :: before) rest state (by rw [same]; rfl)
      exact (reaches_cons _ _ _ _).mpr ⟨output, next, stepped, reached⟩
  · rintro ⟨first, others⟩ before rest state same reached
    cases before with
    | nil =>
        rw [(reaches_nil start state).mp reached]
        exact first
    | cons head front =>
        obtain ⟨rfl, sameRest⟩ := List.cons.inj same
        obtain ⟨output, next, stepped, reachedLater⟩ := (reaches_cons _ _ _ _).mp reached
        exact others output next stepped front rest state sameRest reachedLater

/-- What holds at the start and is preserved by every allowed step holds in
every state of a run whose steps are all allowed. -/
theorem everyState_of_everyStep
    (preserved : ∀ state input output next, good state → allowed state input →
      system.step state input = some (output, next) → good next)
    (initial : good start) (steps : system.EveryStep allowed start inputs) :
    system.EveryState good start inputs := by
  induction inputs generalizing start with
  | nil =>
      rw [everyState_nil]
      exact initial
  | cons input rest ih =>
      obtain ⟨permitted, later⟩ := everyStep_cons.mp steps
      rw [everyState_cons]
      constructor
      · exact initial
      · intro output next stepped
        exact ih (preserved _ _ _ _ initial permitted stepped) (later output next stepped)

theorem invariant_of_reaches {final : State}
    (preserved : ∀ state input output next, good state →
      system.step state input = some (output, next) → good next)
    (initial : good start) (reached : system.Reaches start inputs final) : good final := by
  have everywhere : system.EveryState good start inputs :=
    everyState_of_everyStep (fun _ _ _ _ holds (_ : True) => preserved _ _ _ _ holds) initial
      fun _ _ _ _ _ _ => trivial
  exact everywhere inputs [] final (List.append_nil inputs).symm reached

/-- Where `allowed` says of every good state exactly when the next step is
`kept` and leads to a `lawful` state, it says so of whole runs. -/
theorem lawful_and_kept_iff {lawful : State → Prop} {kept : State → Input → Prop}
    (lawful_of_good : ∀ state, good state → lawful state)
    (preserved : ∀ state input output next, good state → allowed state input →
      system.step state input = some (output, next) → good next)
    (kept_of_allowed : ∀ state input, good state → allowed state input → kept state input)
    (allowed_of_kept : ∀ state input, good state → kept state input →
      (∀ output next, system.step state input = some (output, next) → lawful next) →
      allowed state input)
    (initial : good start) :
    (system.EveryState lawful start inputs ∧ system.EveryStep kept start inputs) ↔
      system.EveryStep allowed start inputs := by
  induction inputs generalizing start with
  | nil =>
      rw [everyState_nil]
      constructor
      · intro _
        exact everyStep_nil
      · intro _
        exact ⟨lawful_of_good start initial, everyStep_nil⟩
  | cons input rest ih =>
      rw [everyState_cons, everyStep_cons, everyStep_cons]
      constructor
      · rintro ⟨⟨_, states⟩, keeps, steps⟩
        have permitted : allowed start input := by
          apply allowed_of_kept start input initial keeps
          intro output next stepped
          exact (states output next stepped) [] rest next rfl ((reaches_nil next next).mpr rfl)
        constructor
        · exact permitted
        · intro output next stepped
          apply (ih (preserved _ _ _ _ initial permitted stepped)).mp
          exact ⟨states output next stepped, steps output next stepped⟩
      · rintro ⟨permitted, steps⟩
        have later : ∀ output next, system.step start input = some (output, next) →
            system.EveryState lawful next rest ∧ system.EveryStep kept next rest := by
          intro output next stepped
          exact (ih (preserved _ _ _ _ initial permitted stepped)).mpr (steps output next stepped)
        refine ⟨⟨lawful_of_good start initial, fun output next stepped => ?_⟩,
          kept_of_allowed start input initial permitted, fun output next stepped => ?_⟩
        · exact (later output next stepped).1
        · exact (later output next stepped).2

end Invariants

/-- An abstract machine that knows, for every related state, whether the next
step has an answer and which one. -/
structure Simulation (system : Transducer State Input Output) (Abstract : Type*) where
  related : Abstract → State → Prop
  advance : Abstract → Input → Abstract
  answer : Abstract → Input → Option Output
  defined : ∀ abstract state input, related abstract state →
    (system.step state input).map Prod.fst = answer abstract input
  preserved : ∀ abstract state input output next, related abstract state →
    system.step state input = some (output, next) → related (advance abstract input) next

namespace Simulation

/-- The answers an abstract state predicts for a whole run. -/
def answers (simulation : Simulation system Abstract) :
    Abstract → List Input → Option (List Output)
  | _, [] => some []
  | abstract, input :: rest =>
      match simulation.answer abstract input with
      | none => none
      | some output =>
          (answers simulation (simulation.advance abstract input) rest).map (output :: ·)

variable {simulation : Simulation system Abstract}

theorem run_related {abstract : Abstract} {start final : State} {inputs : List Input}
    (related : simulation.related abstract start) (reached : system.Reaches start inputs final) :
    simulation.related (inputs.foldl simulation.advance abstract) final := by
  induction inputs generalizing abstract start with
  | nil =>
      have same := (reaches_nil start final).mp reached
      rw [same]
      exact related
  | cons input rest ih =>
      obtain ⟨outputs, ran⟩ := reached
      obtain ⟨output, next, others, stepped, tail, _⟩ := (run_cons _ _ _ _ _).mp ran
      exact ih (simulation.preserved _ _ _ _ _ related stepped) ⟨others, tail⟩

theorem run_answers {abstract : Abstract} {start : State} (inputs : List Input)
    (related : simulation.related abstract start) :
    (system.run start inputs).map Prod.fst = simulation.answers abstract inputs := by
  induction inputs generalizing abstract start with
  | nil => rfl
  | cons input rest ih =>
      have predicted := simulation.defined abstract start input related
      simp only [run, answers]
      cases stepped : system.step start input with
      | none =>
          rw [stepped, Option.map_none] at predicted
          rw [← predicted]
          rfl
      | some answer =>
          rw [stepped, Option.map_some] at predicted
          rw [← predicted]
          have tail := ih (simulation.preserved _ _ _ _ _ related stepped)
          simp only [← tail, Option.map_map]
          rfl

/-- Two states with one abstract state cannot be told apart by any run. -/
theorem run_outputs_eq (simulation : Simulation system Abstract) {abstract : Abstract}
    {left right : State} (inputs : List Input) (leftRelated : simulation.related abstract left)
    (rightRelated : simulation.related abstract right) :
    (system.run left inputs).map Prod.fst = (system.run right inputs).map Prod.fst := by
  rw [run_answers inputs leftRelated, run_answers inputs rightRelated]

end Simulation

end Transducer

end Ebaz4205.PartialRuns
