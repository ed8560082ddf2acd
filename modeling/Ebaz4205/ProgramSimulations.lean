import Ebaz4205.ProgramEffects

/-!
# One program in different environments

A program sees its environment through the replies only. Two environments that
give the same replies to what it can send run it alike, and so does a handler
whose actions are those of an inner environment as seen from the outer one.
-/

namespace Ebaz4205.DriverProgram.Program

open DriverProgram

set_option autoImplicit false

variable {sig inner outer : Signature} {Result Other World Inside : Type}

/-- Executions with one outcome return the same, wherever they leave the machine. -/
theorem returned_congr {First Second : Type} {first : Outcome Result × First}
    {second : Outcome Result × Second} (same : first.1 = second.1) (result : Result) :
    (∃ last, first = (.returned result, last)) ↔ ∃ last, second = (.returned result, last) := by
  rcases first with ⟨outcome, reached⟩
  rcases second with ⟨other, left⟩
  rw [show outcome = other from same]
  constructor
  · rintro ⟨_, ran⟩
    exact ⟨left, congrArg (·, left) (Prod.mk.inj ran).1⟩
  · rintro ⟨_, ran⟩
    exact ⟨reached, congrArg (·, reached) (Prod.mk.inj ran).1⟩

section Agreement

variable {effects : Effects sig} {program : Program sig Result}

/-- The two environments answer these requests alike. -/
def AgreesOn (sends : sig.Call → Prop) (first second : Environment sig World) : Prop :=
  ∀ request world, sends request → first.respond request world = second.respond request world

theorem exec_agreeing {first second : Environment sig World} (within : program.Within effects)
    (agrees : AgreesOn effects.sends first second) (machine : Machine sig World) :
    program.exec first machine = program.exec second machine := by
  induction program generalizing machine with
  | done result => rfl
  | call request rest ih =>
      rw [exec, exec, agrees request machine.world within.1]
      exact ih _ (within.2 _) _
  | fetch rest ih => exact ih _ (within _) _
  | update change rest ih => exact ih within.2 _
  | access region position rest ih =>
      rw [exec, exec]
      by_cases bound : position < sig.extent region
      · rw [dif_pos bound, dif_pos bound]
        exact ih _ (within.2 _) _
      · rw [dif_neg bound, dif_neg bound]
  | unfinished => rfl

/-- The requests change nothing, and each has one reply only. -/
def Idle (sends : sig.Call → Prop) (reply : (request : sig.Call) → sig.Reply request)
    (env : Environment sig World) : Prop :=
  ∀ request world, sends request → env.respond request world = (reply request, world)

/-- Where all requests are idle the outcome is that of the memory alone. -/
theorem exec_idle (within : program.Within effects)
    (reply : (request : sig.Call) → sig.Reply request) (memory : sig.Memory) :
    ∃ outcome after, ∀ (World : Type) (env : Environment sig World) (world : World),
      Idle effects.sends reply env → program.exec env ⟨memory, world⟩ = (outcome, ⟨after, world⟩) := by
  induction program generalizing memory with
  | done result => exact ⟨.returned result, memory, fun _ _ _ _ => rfl⟩
  | call request rest ih =>
      obtain ⟨outcome, after, ran⟩ := ih (reply request) (within.2 _) memory
      refine ⟨outcome, after, ?_⟩
      intro World env world idle
      rw [exec, idle request world within.1]
      exact ran World env world idle
  | fetch rest ih => exact ih memory (within memory) memory
  | update change rest ih => exact ih within.2 (change memory)
  | access region position rest ih =>
      by_cases bound : position < sig.extent region
      · obtain ⟨outcome, after, ran⟩ := ih ⟨position, bound⟩ (within.2 _) memory
        refine ⟨outcome, after, ?_⟩
        intro World env world idle
        rw [exec, dif_pos bound]
        exact ran World env world idle
      · refine ⟨.undefined, memory, ?_⟩
        intro World env world _
        rw [exec, dif_neg bound]
  | unfinished => exact ⟨.unfinished, memory, fun _ _ _ _ => rfl⟩

end Agreement

section Handling

theorem interpret_bind (handler : Handler inner outer) (program : Program inner Result)
    (next : Result → Program inner Other) :
    (program.bind next).interpret handler =
      (program.interpret handler).bind fun result => (next result).interpret handler := by
  induction program with
  | done result => rfl
  | call request rest ih =>
      rw [bind, interpret, interpret, bind_assoc]
      exact congrArg (Program.bind _) (funext ih)
  | fetch rest ih =>
      rw [bind, interpret, interpret, bind_assoc]
      exact congrArg (Program.bind _) (funext ih)
  | update change rest ih =>
      rw [bind, interpret, interpret, bind_assoc]
      exact congrArg (Program.bind _) (funext fun _ => ih)
  | access region position rest ih =>
      rw [bind, interpret, interpret, bind_assoc]
      exact congrArg (Program.bind _) (funext ih)
  | unfinished => rfl

/-- The run ends in this outcome, in a machine that is seen as this one. -/
def EndsAs (view : Machine outer World → Machine inner Inside) (expected : Outcome Result ×
    Machine inner Inside) (run : Outcome Result × Machine outer World) : Prop :=
  run.1 = expected.1 ∧ view run.2 = expected.2

/-- Each action of the handler is seen from inside as the action that it carries out. -/
structure Handler.Carries (handler : Handler inner outer) (env : Environment outer World)
    (inside : Environment inner Inside) (view : Machine outer World → Machine inner Inside) :
    Prop where
  send : ∀ request machine, EndsAs view ((Program.request request).exec inside (view machine))
    ((handler.send request).exec env machine)
  fetch : ∀ machine, EndsAs view ((field id).exec inside (view machine))
    (handler.fetch.exec env machine)
  update : ∀ change machine, EndsAs view ((modify change).exec inside (view machine))
    ((handler.update change).exec env machine)
  locate : ∀ region position machine,
    EndsAs view ((index region position).exec inside (view machine))
      ((handler.locate region position).exec env machine)

variable {handler : Handler inner outer} {env : Environment outer World}
  {inside : Environment inner Inside} {view : Machine outer World → Machine inner Inside}

theorem endsAs_bind {first : Program inner Result} {next : Result → Program inner Other}
    {carried : Program outer Result} {later : Result → Program outer Other}
    {machine : Machine outer World}
    (ends : EndsAs view (first.exec inside (view machine)) (carried.exec env machine))
    (continues : ∀ result middle, EndsAs view ((next result).exec inside (view middle))
      ((later result).exec env middle)) :
    EndsAs view ((first.bind next).exec inside (view machine))
      ((carried.bind later).exec env machine) := by
  rw [exec_bind, exec_bind]
  rcases expected : first.exec inside (view machine) with ⟨outcome, seen⟩
  rcases ran : carried.exec env machine with ⟨reached, middle⟩
  rw [expected, ran] at ends
  obtain ⟨same, viewed⟩ := ends
  rw [show reached = outcome from same, ← show view middle = seen from viewed]
  cases outcome with
  | returned result => exact continues result middle
  | undefined => exact ⟨rfl, rfl⟩
  | unfinished => exact ⟨rfl, rfl⟩

/-- What a handler carries out action by action it carries out as a whole. -/
theorem exec_interpret (carries : handler.Carries env inside view)
    (program : Program inner Result) (machine : Machine outer World) :
    EndsAs view (program.exec inside (view machine))
      ((program.interpret handler).exec env machine) := by
  induction program generalizing machine with
  | done result => exact ⟨rfl, rfl⟩
  | call request rest ih => exact endsAs_bind (carries.send request machine) fun reply => ih reply
  | fetch rest ih => exact endsAs_bind (carries.fetch machine) fun memory => ih memory
  | update change rest ih => exact endsAs_bind (carries.update change machine) fun _ => ih
  | access region position rest ih =>
      exact endsAs_bind (carries.locate region position machine) fun slot => ih slot
  | unfinished => exact ⟨rfl, rfl⟩

end Handling

end Ebaz4205.DriverProgram.Program
