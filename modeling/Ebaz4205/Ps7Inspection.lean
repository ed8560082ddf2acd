import Ebaz4205.ProgramDisciplines
import Ebaz4205.Ps7Returns

/-!
# Inspecting a table in advance

Whether the tables keep a discipline can be told from their lines alone, by what is
known in front of each line. An inspection that is right about one line is right
about whole tables, and so about the initialisation.
-/

namespace Ebaz4205.Ps7Inspection

open DriverProgram DriverProgram.Program BitMask Ps7Interpreter Ps7Scripts Ps7Tables Ps7Init
  Ps7Returns

set_option autoImplicit false

variable {State World Known : Type} {env : Environment ps7Signature World}
  {discipline : Discipline ps7Signature State}

section Lines

variable {pre middle missed hit : State → Machine ps7Signature World → Prop}
  {answer : Word → State → Machine ps7Signature World → Prop}

/-- What a load does to the state of the discipline and to the world. -/
def Loads (env : Environment ps7Signature World) (discipline : Discipline ps7Signature State)
    (pre : State → Machine ps7Signature World → Prop) (address : Word)
    (answer : Word → State → Machine ps7Signature World → Prop) : Prop :=
  ∀ state machine, pre state machine →
    discipline.permits state (.load address) ∧
      answer (env.respond (.load address) machine.world).1
        (discipline.advance state ⟨.load address, (env.respond (.load address) machine.world).1⟩)
        { machine with world := (env.respond (.load address) machine.world).2 }

theorem keeps_load {address : Word} (loads : Loads env discipline pre address answer) :
    Keeps env discipline pre (load address) answer :=
  keeps_request (fun state machine before => (loads state machine before).1)
    fun state machine before => (loads state machine before).2

/-- What a store does, likewise. -/
def Stores (env : Environment ps7Signature World) (discipline : Discipline ps7Signature State)
    (pre : State → Machine ps7Signature World → Prop) (address value : Word)
    (post : State → Machine ps7Signature World → Prop) : Prop :=
  ∀ state machine, pre state machine →
    discipline.permits state (.store address value) ∧
      post (discipline.advance state ⟨.store address value, ()⟩)
        { machine with world := (env.respond (.store address value) machine.world).2 }

theorem stores_mono {address value : Word} {stronger : State → Machine ps7Signature World → Prop}
    (stores : Stores env discipline pre address value hit)
    (implies : ∀ state machine, stronger state machine → pre state machine) :
    Stores env discipline stronger address value hit :=
  fun state machine before => stores state machine (implies state machine before)

theorem keeps_store {address value : Word} (stores : Stores env discipline pre address value hit) :
    Keeps env discipline pre (store address value) fun _ => hit :=
  keeps_request (fun state machine before => (stores state machine before).1)
    fun state machine before => (stores state machine before).2

theorem keeps_maskWrite {add mask val : Word} (loads : Loads env discipline pre add answer)
    (stores : ∀ old, Stores env discipline (answer old) add (masked old mask val) hit) :
    Keeps env discipline pre (maskWrite add mask val) fun _ => hit :=
  keeps_bind (keeps_load loads) fun old => keeps_store (stores old)

/-- A poll goes on as long as it misses. -/
theorem keeps_pollLoop {add mask : Word}
    (loads : Loads env discipline pre add fun value state machine =>
      if isSet value mask then hit state machine else missed state machine)
    (again : ∀ state machine, missed state machine → pre state machine) (left : Nat) :
    Keeps env discipline pre (pollLoop add mask left) fun seen state machine =>
      if seen then hit state machine else missed state machine := by
  induction left with
  | zero => exact keeps_map (keeps_load loads) fun _ _ _ => id
  | succ left ih =>
      apply keeps_bind (keeps_load loads)
      intro value
      apply keeps_if
      · intro seen
        apply keeps_done
        intro state machine reached
        rw [if_pos seen] at reached
        exact reached
      · intro unseen
        apply keeps_mono ih
        · intro state machine reached
          rw [if_neg unseen] at reached
          exact again state machine reached
        · exact fun _ _ _ => id

theorem keeps_poll {budget : Nat} {addr mask : Word}
    (loads : Loads env discipline pre addr fun value state machine =>
      if isSet value mask then hit state machine else missed state machine)
    (again : ∀ state machine, missed state machine → pre state machine) :
    Keeps env discipline pre (attempt budget (.maskpoll addr mask)) fun goesOn state machine =>
      if goesOn then hit state machine else missed state machine := by
  apply keeps_bind (keeps_map (keeps_pollLoop loads again ps7MaskPollTime) _)
  · intro verdict
    apply keeps_done
    exact fun state machine => id
  · intro seen state machine reached
    cases seen with
    | true => exact reached
    | false => exact reached

end Lines

/-- What is known in front of a line tells what is known behind it, or the line is not
passed. What is said of a failed poll is said of all of them. -/
structure Inspection (env : Environment ps7Signature World)
    (discipline : Discipline ps7Signature State) (Known : Type) where
  describes : Known → State → Machine ps7Signature World → Prop
  failed : State → Machine ps7Signature World → Prop
  inspect : Known → Instruction → Option Known
  no_exit : ∀ known, inspect known .exit = none
  sound : ∀ budget known line later, inspect known line = some later →
    Keeps env discipline (describes known) (attempt budget line) fun goesOn state machine =>
      if goesOn then describes later state machine else failed state machine
  version : ∀ known, Loads env discipline (describes known) 0xF8007080 fun _ => describes known

namespace Inspection

variable {budget : Nat} {build : Build} (inspection : Inspection env discipline Known)

def inspectAll (known : Known) (script : Script) : Option Known :=
  script.foldlM inspection.inspect known

/-- What is known at the end, however it is reached. -/
def ended (final : Known) (code : Int) (state : State) (machine : Machine ps7Signature World) :
    Prop :=
  code = ps7InitSuccess ∧ inspection.describes final state machine ∨
    code = ps7InitTimeout ∧ inspection.failed state machine

theorem keeps_perform {known final : Known} {script : Script}
    (passed : inspection.inspectAll known script = some final) :
    Keeps env discipline (inspection.describes known)
      (perform budget Ending.exits.perform script) (inspection.ended final) := by
  induction script generalizing known with
  | nil =>
      cases passed
      exact keeps_done fun state machine holds => Or.inl ⟨rfl, holds⟩
  | cons line rest ih =>
      obtain ⟨later, inspected, others⟩ := Option.bind_eq_some_iff.mp passed
      apply keeps_bind (inspection.sound budget known line later inspected)
      intro goesOn
      cases goesOn with
      | true => exact ih others
      | false =>
          apply keeps_done
          intro state machine stopped
          refine Or.inr ⟨?_, stopped⟩
          cases line with
          | exit =>
              rw [inspection.no_exit known] at inspected
              cases inspected
          | _ => rfl

/-- The tables of a version of the silicon, one after the other. -/
def inspectStages (build : Build) (silicon : Silicon) (known : Known) (stages : List Stage) :
    Option Known :=
  stages.foldlM (fun known stage => inspection.inspectAll known (lines build silicon stage)) known

theorem keeps_configStages {known final : Known} {silicon : Silicon} {stages : List Stage}
    (stack : Stage → Arguments)
    (passed : inspection.inspectStages build silicon known stages = some final) :
    Keeps env discipline (inspection.describes known)
      (configStages budget (tables build silicon) stack stages) (inspection.ended final) := by
  induction stages generalizing known with
  | nil =>
      cases passed
      exact keeps_done fun state machine holds => Or.inl ⟨rfl, holds⟩
  | cons stage rest ih =>
      obtain ⟨later, inspected, others⟩ := Option.bind_eq_some_iff.mp passed
      apply keeps_bind
      · apply keeps_of_interchangeable (config_tables budget build silicon stage (stack stage))
        exact inspection.keeps_perform inspected
      · intro ret
        apply keeps_if
        · intro failure
          apply keeps_done
          intro state machine reached
          rcases reached with ⟨success, _⟩ | timeout
          · exact absurd success failure
          · exact Or.inr timeout
        · intro success
          rw [Decidable.not_not] at success
          apply keeps_mono (ih others)
          · intro state machine reached
            rcases reached with ⟨_, holds⟩ | ⟨timeout, _⟩
            · exact holds
            · rw [success] at timeout
              cases timeout
          · exact fun _ _ _ => id

theorem keeps_version (known : Known) :
    Keeps env discipline (inspection.describes known) ps7GetSiliconVersion
      fun _ => inspection.describes known :=
  keeps_map (keeps_load (inspection.version known)) fun _ _ _ => id

/-- Tables that are passed for every version of the silicon keep the discipline. -/
theorem keeps_configured {known final : Known} {stages : List Stage} (stack : Stage → Arguments)
    (passed : ∀ silicon, inspection.inspectStages build silicon known stages = some final) :
    Keeps env discipline (inspection.describes known) (configured budget build stack stages)
      (inspection.ended final) := by
  apply keeps_bind (inspection.keeps_version known)
  intro siVer
  exact inspection.keeps_configStages stack (passed _)

end Inspection

end Ebaz4205.Ps7Inspection
