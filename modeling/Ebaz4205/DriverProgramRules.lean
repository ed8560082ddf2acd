import Ebaz4205.DriverProgram

/-!
# Rules for executions of driver programs

Two judgements that do not mention the environment's state: a program yields a
result and a memory whatever the environment answers, or it faults on an array
index whatever the environment answers. Each program constructor has its rule.
-/

namespace Ebaz4205.DriverProgram.Program

open DriverProgram

set_option autoImplicit false

variable {sig : Signature} {Result Other World : Type}

def Yields (env : Environment sig World) (program : Program sig Result) (memory : sig.Memory)
    (result : Result) (after : sig.Memory) : Prop :=
  ∀ world, ∃ world', program.exec env ⟨memory, world⟩ = (.returned result, ⟨after, world'⟩)

def Faults (env : Environment sig World) (program : Program sig Result) (memory : sig.Memory) :
    Prop :=
  ∀ world, (program.exec env ⟨memory, world⟩).1 = .undefined

variable {env : Environment sig World} {program : Program sig Result}
  {next : Result → Program sig Other} {memory middle after : sig.Memory}
  {result : Result} {last : Other}

theorem yields_done (result : Result) (memory : sig.Memory) :
    Yields env (.done result) memory result memory := fun world => ⟨world, rfl⟩

theorem yields_field {Value : Type} (read : sig.Memory → Value) (memory : sig.Memory) :
    Yields env (field read) memory (read memory) memory := fun world => ⟨world, rfl⟩

theorem yields_modify (change : sig.Memory → sig.Memory) (memory : sig.Memory) :
    Yields env (modify change) memory () (change memory) := fun world => ⟨world, rfl⟩

theorem yields_index {region : sig.Region} {position : Nat}
    (bound : position < sig.extent region) (memory : sig.Memory) :
    Yields env (index region position) memory ⟨position, bound⟩ memory :=
  fun world => ⟨world, by rw [exec_index, dif_pos bound]⟩

theorem yields_bind (first : Yields env program memory result middle)
    (second : Yields env (next result) middle last after) :
    Yields env (program.bind next) memory last after := by
  intro world
  obtain ⟨between, firstRan⟩ := first world
  obtain ⟨final, secondRan⟩ := second between
  exact ⟨final, by rw [exec_bind, firstRan, continueWith_returned, secondRan]⟩

theorem yields_if_pos {condition : Prop} [Decidable condition] {yes no : Program sig Result}
    (holds : condition) (taken : Yields env yes memory result after) :
    Yields env (if condition then yes else no) memory result after := by
  rw [if_pos holds]
  exact taken

theorem yields_if_neg {condition : Prop} [Decidable condition] {yes no : Program sig Result}
    (fails : ¬condition) (taken : Yields env no memory result after) :
    Yields env (if condition then yes else no) memory result after := by
  rw [if_neg fails]
  exact taken

theorem faults_index {region : sig.Region} {position : Nat}
    (outside : ¬position < sig.extent region) (memory : sig.Memory) :
    Faults env (index region position) memory := by
  intro world
  rw [exec_index, dif_neg outside]

theorem faults_bind_first (first : Faults env program memory) :
    Faults env (program.bind next) memory := by
  intro world
  exact exec_bind_undefined (first world) next

theorem faults_bind_second (first : Yields env program memory result middle)
    (second : Faults env (next result) middle) : Faults env (program.bind next) memory := by
  intro world
  obtain ⟨between, firstRan⟩ := first world
  rw [exec_bind, firstRan, continueWith_returned]
  exact second between

theorem faults_if_pos {condition : Prop} [Decidable condition] {yes no : Program sig Result}
    (holds : condition) (taken : Faults env yes memory) :
    Faults env (if condition then yes else no) memory := by
  rw [if_pos holds]
  exact taken

theorem exec_eq_of_yields (yielded : Yields env program memory result after) (world : World) :
    (program.exec env ⟨memory, world⟩).1 = .returned result ∧
      (program.exec env ⟨memory, world⟩).2.memory = after := by
  obtain ⟨world', ran⟩ := yielded world
  rw [ran]
  exact ⟨rfl, rfl⟩

theorem memory_of_yields {returned : Result} {machine : Machine sig World} {world : World}
    (yielded : Yields env program memory result after)
    (ran : program.exec env ⟨memory, world⟩ = (.returned returned, machine)) :
    machine.memory = after := by
  have same := (exec_eq_of_yields yielded world).2
  rw [ran] at same
  exact same

theorem not_returned_of_faults {returned : Result} {machine : Machine sig World} {world : World}
    (faulted : Faults env program memory)
    (ran : program.exec env ⟨memory, world⟩ = (.returned returned, machine)) : False := by
  have outcome := faulted world
  rw [ran] at outcome
  exact absurd outcome (by simp)

section Ensures

/-- If the program returns from a machine in `pre`, the machine is in `post`. -/
structure Ensures (env : Environment sig World) (pre : Machine sig World → Prop)
    (program : Program sig Result) (post : Machine sig World → Prop) : Prop where
  after_return : ∀ machine result after, pre machine →
    program.exec env machine = (.returned result, after) → post after

variable {pre mid post : Machine sig World → Prop}

theorem ensures_done (result : Result) : Ensures env pre (.done result) pre := by
  constructor
  intro machine _ after holds ran
  rw [exec_done] at ran
  rw [← (Prod.mk.inj ran).2]
  exact holds

theorem ensures_request {call : sig.Call}
    (answered : ∀ machine, pre machine →
      post { machine with world := (env.respond call machine.world).2 }) :
    Ensures env pre (request call) post := by
  constructor
  intro machine _ after holds ran
  rw [exec_request] at ran
  rw [← (Prod.mk.inj ran).2]
  exact answered machine holds

theorem ensures_field {Value : Type} (read : sig.Memory → Value) :
    Ensures env pre (field read) pre := by
  constructor
  intro machine _ after holds ran
  rw [exec_field] at ran
  rw [← (Prod.mk.inj ran).2]
  exact holds

theorem ensures_modify {change : sig.Memory → sig.Memory}
    (changed : ∀ machine, pre machine → post { machine with memory := change machine.memory }) :
    Ensures env pre (modify change) post := by
  constructor
  intro machine _ after holds ran
  rw [exec_modify] at ran
  rw [← (Prod.mk.inj ran).2]
  exact changed machine holds

theorem ensures_index (region : sig.Region) (position : Nat) :
    Ensures env pre (index region position) pre := by
  constructor
  intro machine _ after holds ran
  rw [exec_index] at ran
  by_cases bound : position < sig.extent region
  · rw [dif_pos bound] at ran
    rw [← (Prod.mk.inj ran).2]
    exact holds
  · rw [dif_neg bound] at ran
    exact absurd (Prod.mk.inj ran).1 (by simp)

theorem ensures_unfinished : Ensures env pre (Program.unfinished : Program sig Result) post := by
  constructor
  intro machine _ after _ ran
  exact absurd (Prod.mk.inj ran).1 (by simp)

theorem ensures_bind (first : Ensures env pre program mid)
    (second : ∀ result, Ensures env mid (next result) post) :
    Ensures env pre (program.bind next) post := by
  constructor
  intro machine result after holds ran
  obtain ⟨value, middle, firstRan, secondRan⟩ := exec_bind_returned ran
  have between := first.after_return machine value middle holds firstRan
  exact (second value).after_return middle result after between secondRan

theorem ensures_if {condition : Prop} [Decidable condition] {yes no : Program sig Result}
    (taken : Ensures env pre yes post) (skipped : Ensures env pre no post) :
    Ensures env pre (if condition then yes else no) post := by
  by_cases holds : condition
  · rw [if_pos holds]
    exact taken
  · rw [if_neg holds]
    exact skipped

theorem ensures_whenever {condition : Prop} [Decidable condition] {body : Program sig Unit}
    (taken : Ensures env pre body pre) : Ensures env pre (whenever condition body) pre :=
  ensures_if taken (ensures_done ())

end Ensures

section Establishes

/-- From a machine in `pre` the program returns, with `post` of its result and
the machine it leaves. -/
structure Establishes (env : Environment sig World) (pre : Machine sig World → Prop)
    (program : Program sig Result) (post : Result → Machine sig World → Prop) : Prop where
  returns : ∀ machine, pre machine →
    ∃ result after, program.exec env machine = (.returned result, after) ∧ post result after

variable {pre : Machine sig World → Prop} {mid : Result → Machine sig World → Prop}
  {post : Other → Machine sig World → Prop}

theorem establishes_modify {change : sig.Memory → sig.Memory}
    {after : Unit → Machine sig World → Prop}
    (changed : ∀ machine, pre machine →
      after () { machine with memory := change machine.memory }) :
    Establishes env pre (modify change) after :=
  ⟨fun machine before => ⟨_, _, rfl, changed machine before⟩⟩

theorem establishes_bind (first : Establishes env pre program mid)
    (second : ∀ result, Establishes env (mid result) (next result) post) :
    Establishes env pre (program.bind next) post := by
  constructor
  intro machine before
  obtain ⟨value, middle, firstRan, between⟩ := first.returns machine before
  obtain ⟨result, last, secondRan, holds⟩ := (second value).returns middle between
  exact ⟨result, last, by rw [exec_bind, firstRan, continueWith_returned, secondRan], holds⟩

theorem ensures_of_establishes {reached : Machine sig World → Prop}
    (established : Establishes env pre program fun _ => reached) :
    Ensures env pre program reached := by
  constructor
  intro machine result after holds ran
  obtain ⟨value, last, returned, post⟩ := established.returns machine holds
  rw [returned] at ran
  rw [← (Prod.mk.inj ran).2]
  exact post

end Establishes

section Records

/-- The environment that keeps a record of what it was asked and of its answers. -/
def recorded (env : Environment sig World) : Environment sig (World × List (Exchange sig)) where
  respond call both :=
    ((env.respond call both.1).1, (env.respond call both.1).2,
      both.2 ++ [⟨call, (env.respond call both.1).1⟩])

end Records

/-- Undefined behaviour has one cause: an index outside its array. -/
theorem accesses_inside_iff (program : Program sig Result) (machine : Machine sig World) :
    (∀ used ∈ program.accesses env machine, used.2 < sig.extent used.1) ↔
      (program.exec env machine).1 ≠ .undefined := by
  induction program generalizing machine with
  | done result => simp [accesses, exec]
  | call request rest ih => exact ih _ _
  | fetch rest ih => exact ih _ _
  | update change rest ih => exact ih _
  | access region position rest ih =>
      by_cases bound : position < sig.extent region
      · simp only [accesses, exec, List.forall_mem_cons, bound, true_and]
        exact ih _ _
      · simp [accesses, exec, bound]
  | unfinished => simp [accesses, exec]

end Ebaz4205.DriverProgram.Program
