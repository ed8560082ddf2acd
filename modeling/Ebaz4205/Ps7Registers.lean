import Ebaz4205.Ps7Board
import Ebaz4205.Ps7Returns

/-!
# The registers after the initialisation

Whatever the status registers read as, the settled registers are afterwards what the
lines of the tables make of them: all lines after success, and the lines in front of
the poll that failed after a timeout. So initialising again changes nothing, and the
two builds differ in the clocks of the programmable logic and in one of its interfaces only.
-/

namespace Ebaz4205.Ps7Registers

open DriverProgram DriverProgram.Program MaskedWrites Ps7Interpreter Ps7Scripts Ps7Tables Ps7Init
  Ps7Returns Ps7Board

set_option autoImplicit false

section Runs

variable {board : Board} {budget : Nat} {build : Build}

theorem lines_ne_exit (build : Build) (silicon : Silicon) (stage : Stage) :
    ∀ line ∈ lines build silicon stage, line ≠ .exit := by
  cases build <;> cases silicon <;> cases stage <;> decide

/-- The lines of several tables. -/
def allLines (build : Build) (silicon : Silicon) (stages : List Stage) : Script :=
  stages.flatMap (lines build silicon)

theorem makesWrites_configStages (silicon : Silicon) (stack : Stage → Arguments)
    (stages : List Stage) :
    MakesWrites board (configStages budget (tables build silicon) stack stages)
      (Ends (allLines build silicon stages)) := by
  induction stages with
  | nil => exact makesWrites_done (Or.inl ⟨rfl, rfl⟩)
  | cons stage rest ih =>
      apply makesWrites_bind
      · apply makesWrites_of_interchangeable (config_tables budget build silicon stage _)
        exact makesWrites_perform (lines_ne_exit build silicon stage)
      · intro ret earlier ended
        apply makesWrites_if
        · intro failed
          apply makesWrites_done
          rw [List.append_nil]
          exact ends_cut _ ended failed
        · intro success
          rw [Decidable.not_not] at success
          rw [success] at ended
          apply makesWrites_mono ih
          intro code later finished
          exact ends_append ended finished

def versionRegister : Word := 0xF8007080

/-- The version that the initialisation takes the silicon for. -/
def siliconOf (board : Board) (state : board.State) : Silicon :=
  silicon ((board.value state versionRegister &&& 0xF0000000) >>> 28)

theorem registers_of_ran {budget : Nat} {build : Build} {stack : Stage → Arguments}
    {stages : List Stage} {board : Board} {state : board.State} {code : Int}
    {after : Machine ps7Signature board.State}
    (ran : (configured budget build stack stages).exec board.environment ⟨(), state⟩ =
      (.returned code, after)) :
    ∃ writes, after.world.registers = apply writes state.registers ∧
      Ends (allLines build (siliconOf board state) stages) code writes :=
  (makesWrites_configStages (siliconOf board state) stack stages).after_return
    ⟨(), { state with accesses := state.accesses + 1 }⟩ code after ran

/-- The settled registers after a run of some tables. -/
theorem registers_after (budget : Nat) (build : Build) (stack : Stage → Arguments)
    (stages : List Stage) (board : Board) (state : board.State) :
    ∃ code after writes,
      (configured budget build stack stages).exec board.environment ⟨(), state⟩ =
          (.returned code, after) ∧
        after.world.registers = apply writes state.registers ∧
          Ends (allLines build (siliconOf board state) stages) code writes := by
  obtain ⟨code, after, ran, _⟩ :=
    (completes_configured stack stages).returns _ board.environment ⟨(), state⟩
  obtain ⟨writes, reached, ended⟩ := registers_of_ran ran
  exact ⟨code, after, writes, ran, reached, ended⟩

theorem registers_of_success {stack : Stage → Arguments} {stages : List Stage}
    {state : board.State} {after : Machine ps7Signature board.State}
    (ran : (configured budget build stack stages).exec board.environment ⟨(), state⟩ =
      (.returned ps7InitSuccess, after)) :
    after.world.registers =
      apply (scriptWrites (allLines build (siliconOf board state) stages)) state.registers := by
  obtain ⟨writes, reached, ended⟩ := registers_of_ran ran
  rcases ended with ⟨_, rfl⟩ | ⟨failed, _⟩
  · exact reached
  · cases failed

end Runs

section Repetition

variable {board : Board} {budget : Nat} {build : Build}

/-- A board whose polls see what they wait for at once. -/
def ready : Board where
  volatile address := [0xF800010C, 0xF8000B74, 0xF8006054].contains address
  reading _ _ := BitVec.allOnes 32

def poweredOn : Machine ps7Signature ready.State := ⟨(), ⟨fun _ => 0, 0⟩⟩

theorem ran_of_outcome {Result After : Type} {run : Result × After} {result : Result}
    (outcome : run.1 = result) : run = (result, run.2) := by rw [← outcome]

def readied (build : Build) (stage : Stage) (machine : Machine ps7Signature ready.State) :
    Outcome Int × Machine ps7Signature ready.State :=
  (configured 0 build (fun _ _ => 0) [stage]).exec ready.environment machine

theorem version_unwritten (build : Build) (silicon : Silicon) (stage : Stage) :
    ∀ write ∈ scriptWrites (lines build silicon stage), write.1 ≠ versionRegister := by
  cases build <;> cases silicon <;> cases stage <;> decide

theorem version_unwritten_all (build : Build) (silicon : Silicon) (stages : List Stage) :
    written (scriptWrites (allLines build silicon stages)) versionRegister = 1 := by
  apply written_eq_one
  intro write member
  rw [scriptWrites, allLines, List.flatMap_assoc, List.mem_flatMap] at member
  obtain ⟨stage, _, member⟩ := member
  exact version_unwritten build silicon stage write member

/-- Initialising again changes no settled register. -/
theorem initialised_again {stack later : Stage → Arguments} {stages : List Stage}
    {state : board.State} {first second : Machine ps7Signature board.State}
    (settled : board.volatile versionRegister = false)
    (ran : (configured budget build stack stages).exec board.environment ⟨(), state⟩ =
      (.returned ps7InitSuccess, first))
    (again : (configured budget build later stages).exec board.environment first =
      (.returned ps7InitSuccess, second)) :
    second.world.registers = first.world.registers := by
  have reached := registers_of_success ran
  have repeated := registers_of_success again
  have same : siliconOf board first.world = siliconOf board state := by
    rw [siliconOf, siliconOf, Board.value, Board.value, dif_pos settled, dif_pos settled, reached,
      apply, version_unwritten_all, one_smul]
  rw [same] at repeated
  rw [repeated, reached]
  funext place
  rw [apply, apply, MaskedWrite.smul_smul_self]

theorem ready_again :
    (readied .uBoot .pll (readied .uBoot .pll poweredOn).2).2.world.registers =
      (readied .uBoot .pll poweredOn).2.world.registers := by
  have once : readied .uBoot .pll poweredOn =
      (.returned ps7InitSuccess, (readied .uBoot .pll poweredOn).2) :=
    ran_of_outcome (by decide +kernel)
  have twice : readied .uBoot .pll (readied .uBoot .pll poweredOn).2 =
      (.returned ps7InitSuccess, (readied .uBoot .pll (readied .uBoot .pll poweredOn).2).2) :=
    ran_of_outcome (by decide +kernel)
  exact @initialised_again ready 0 .uBoot _ _ _ poweredOn.world _ _ rfl once twice

end Repetition

section Builds

variable {board : Board} {budget : Nat}

/-- The registers where the builds differ. -/
def differing : List Word := [0xF8000170, 0xF8000180, 0xF8008000, 0xF8008014]

def shared (write : FileWrite Word 32) : Bool := !differing.contains write.1

theorem shared_writes (silicon : Silicon) (stage : Stage) :
    (scriptWrites (lines .uBoot silicon stage)).filter shared =
      (scriptWrites (lines .platformInit silicon stage)).filter shared := by
  cases silicon <;> cases stage <;> rfl

theorem shared_writes_all (silicon : Silicon) (stages : List Stage) :
    (scriptWrites (allLines .uBoot silicon stages)).filter shared =
      (scriptWrites (allLines .platformInit silicon stages)).filter shared := by
  rw [scriptWrites, scriptWrites, allLines, allLines, List.flatMap_assoc, List.flatMap_assoc,
    List.filter_flatMap, List.filter_flatMap]
  exact congrArg (List.flatMap · stages) (funext fun stage => shared_writes silicon stage)

/-- From the same registers the two builds get to the same registers, but for the
clocks of the programmable logic and one of its interfaces. -/
theorem builds_agree {stack other : Stage → Arguments} {stages : List Stage}
    {state left : board.State} {first second : Machine ps7Signature board.State}
    (version : siliconOf board state = siliconOf board left)
    (registers : state.registers = left.registers)
    (ran : (configured budget .uBoot stack stages).exec board.environment ⟨(), state⟩ =
      (.returned ps7InitSuccess, first))
    (ranOther : (configured budget .platformInit other stages).exec board.environment ⟨(), left⟩ =
      (.returned ps7InitSuccess, second))
    (place : board.Settled) (outside : place.val ∉ differing) :
    first.world.registers place = second.world.registers place := by
  rw [registers_of_success ran, registers_of_success ranOther, version, registers, apply, apply]
  have counted : ∀ write : FileWrite Word 32, write.1 = place.val → shared write = true := by
    intro write here
    rw [shared, here, List.contains_eq_mem, decide_eq_false outside]
    rfl
  rw [← written_filter _ shared counted, shared_writes_all, written_filter _ shared counted]

theorem ready_builds_agree :
    (readied .uBoot .clock poweredOn).2.world.registers ⟨0xF80001C4, rfl⟩ =
      (readied .platformInit .clock poweredOn).2.world.registers ⟨0xF80001C4, rfl⟩ := by
  have succeeds : ∀ build, readied build .clock poweredOn =
      (.returned ps7InitSuccess, (readied build .clock poweredOn).2) :=
    fun build => ran_of_outcome (by cases build <;> decide +kernel)
  exact builds_agree rfl rfl (succeeds .uBoot) (succeeds .platformInit) ⟨0xF80001C4, rfl⟩
    (by decide)

end Builds

end Ebaz4205.Ps7Registers
