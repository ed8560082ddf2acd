import Ebaz4205.DriverProgramRules
import Ebaz4205.MaskedWrites
import Ebaz4205.Ps7Scripts

/-!
# Registers that keep what is stored

Of the registers of the board some are settled: they hold what was stored last. The
others, such as counters and status registers, read as the hardware likes, and
differently each time. On such a board a line of a table is a masked write of the
settled registers.
-/

namespace Ebaz4205.Ps7Board

open DriverProgram DriverProgram.Program MaskedWrites Ps7Interpreter Ps7Scripts

set_option autoImplicit false

/-- Which registers are not settled, and what they read as at which access. -/
structure Board where
  volatile : Word → Bool
  reading : Nat → Word → Word

namespace Board

variable (board : Board)

abbrev Settled := { address : Word // board.volatile address = false }

structure State where
  registers : board.Settled → Word
  accesses : Nat

def value (state : board.State) (address : Word) : Word :=
  if settled : board.volatile address = false then state.registers ⟨address, settled⟩
  else board.reading state.accesses address

def stored (registers : board.Settled → Word) (address value : Word) : board.Settled → Word :=
  fun place => if place.val = address then value else registers place

def environment : Environment ps7Signature board.State where
  respond
    | .load address, state =>
        (board.value state address, { state with accesses := state.accesses + 1 })
    | .store address value, state =>
        ((), ⟨board.stored state.registers address value, state.accesses + 1⟩)

end Board

section Files

abbrev Writes := List (FileWrite Word 32)

/-- A whole word. -/
def wholly (val : Word) : MaskedWrite 32 := .of (BitVec.allOnes 32) val

/-- The writes of a line. Those of a delay go to the timer. -/
def lineWrites : Instruction → Writes
  | .exit => []
  | .clear addr => [(addr, wholly 0)]
  | .write addr val => [(addr, wholly val)]
  | .maskwrite addr mask val => [(addr, .of mask val)]
  | .maskpoll _ _ => []
  | .maskdelay _ _ =>
      [(scuGlobalTimerControl, wholly 0), (scuGlobalTimerCountL32, wholly 0),
        (scuGlobalTimerCountU32, wholly 0), (scuGlobalTimerControl, wholly 9)]

def scriptWrites (script : Script) : Writes := script.flatMap lineWrites

variable {board : Board}

/-- What writes make of the settled registers. -/
def apply (writes : Writes) (registers : board.Settled → Word) : board.Settled → Word :=
  fun place => written writes place.val • registers place

theorem apply_nil (registers : board.Settled → Word) : apply [] registers = registers :=
  funext fun _ => one_smul _ _

theorem apply_append (earlier later : Writes) (registers : board.Settled → Word) :
    apply (earlier ++ later) registers = apply later (apply earlier registers) := by
  funext place
  rw [apply, written_append, mul_smul]
  rfl

theorem wholly_smul (val word : Word) : wholly val • word = val := by
  apply BitVec.eq_of_getLsbD_eq
  intro bit bound
  rw [MaskedWrite.getLsbD_smul, wholly, MaskedWrite.bitAt_of, BitVec.getLsbD_allOnes,
    decide_eq_true bound]
  rfl

/-- A store of what a masked write makes of the settled register. -/
theorem stored_eq_apply (registers : board.Settled → Word) (address value : Word)
    (write : MaskedWrite 32)
    (made : ∀ settled : board.volatile address = false,
      value = write • registers ⟨address, settled⟩) :
    board.stored registers address value = apply [(address, write)] registers := by
  funext place
  rw [Board.stored, apply, written, written, one_mul]
  by_cases here : place.val = address
  · rw [if_pos here, if_pos here.symm, made (here ▸ place.property)]
    congr 2
    exact Subtype.ext here.symm
  · rw [if_neg here, if_neg (Ne.symm here), one_smul]

end Files

section Writing

variable {board : Board} {budget : Nat} {Result Other : Type}

/-- Where the program returns it has made writes to the settled registers of which this is
known. -/
structure MakesWrites (board : Board) (program : Ps7Program Result)
    (post : Result → Writes → Prop) : Prop where
  after_return : ∀ machine result after,
    program.exec board.environment machine = (.returned result, after) →
      ∃ writes, after.world.registers = apply writes machine.world.registers ∧ post result writes

variable {program other : Ps7Program Result} {next : Result → Ps7Program Other}
  {mid post weaker : Result → Writes → Prop} {last : Other → Writes → Prop}

theorem makesWrites_done {result : Result} (holds : post result []) :
    MakesWrites board (.done result) post where
  after_return := by
    intro machine value after ran
    cases ran
    exact ⟨[], (apply_nil _).symm, holds⟩

theorem makesWrites_unfinished : MakesWrites board (.unfinished : Ps7Program Result) post where
  after_return := fun _ _ _ ran => by cases ran

theorem makesWrites_load (address : Word) :
    MakesWrites board (load address) fun _ writes => writes = [] where
  after_return := by
    intro machine value after ran
    cases ran
    exact ⟨[], (apply_nil _).symm, rfl⟩

theorem makesWrites_store (address value : Word) :
    MakesWrites board (store address value) fun _ writes =>
      writes = [(address, wholly value)] where
  after_return := by
    intro machine result after ran
    cases ran
    refine ⟨_, stored_eq_apply _ address value (wholly value) ?_, rfl⟩
    exact fun _ => (wholly_smul value _).symm

theorem makesWrites_maskWrite (add mask val : Word) :
    MakesWrites board (maskWrite add mask val) fun _ writes =>
      writes = [(add, .of mask val)] where
  after_return := by
    intro machine result after ran
    cases ran
    refine ⟨_, stored_eq_apply _ add _ (.of mask val) ?_, rfl⟩
    intro settled
    rw [Board.environment]
    dsimp only
    rw [Board.value, dif_pos settled]
    rfl

theorem makesWrites_bind (first : MakesWrites board program mid)
    (second : ∀ result earlier, mid result earlier →
      MakesWrites board (next result) fun value later => last value (earlier ++ later)) :
    MakesWrites board (program.bind next) last where
  after_return := by
    intro machine result after ran
    obtain ⟨value, middle, firstRan, secondRan⟩ := exec_bind_returned ran
    obtain ⟨earlier, written, between⟩ := first.after_return machine value middle firstRan
    obtain ⟨later, reached, holds⟩ :=
      (second value earlier between).after_return middle result after secondRan
    exact ⟨earlier ++ later, by rw [reached, written, apply_append], holds⟩

theorem makesWrites_mono (makes : MakesWrites board program post)
    (implied : ∀ result writes, post result writes → weaker result writes) :
    MakesWrites board program weaker where
  after_return := by
    intro machine result after ran
    obtain ⟨writes, reached, holds⟩ := makes.after_return machine result after ran
    exact ⟨writes, reached, implied result writes holds⟩

theorem makesWrites_if {condition : Prop} [Decidable condition]
    (taken : condition → MakesWrites board program post)
    (skipped : ¬condition → MakesWrites board other post) :
    MakesWrites board (if condition then program else other) post := by
  by_cases holds : condition
  · rw [if_pos holds]
    exact taken holds
  · rw [if_neg holds]
    exact skipped holds

/-- A result that is only looked at. -/
theorem makesWrites_map {read : Result → Other} (first : MakesWrites board program mid)
    (implied : ∀ result writes, mid result writes → last (read result) writes) :
    MakesWrites board (program.bind fun result => .done (read result)) last := by
  apply makesWrites_bind first
  intro result earlier between
  apply makesWrites_done
  rw [List.append_nil]
  exact implied result earlier between

theorem makesWrites_of_interchangeable (same : Interchangeable program other)
    (makes : MakesWrites board other post) : MakesWrites board program post where
  after_return := by
    intro machine result after ran
    rw [same.exec _ _ machine] at ran
    exact makes.after_return machine result after ran

end Writing

section Lines

variable {board : Board} {budget : Nat}

theorem makesWrites_pollLoop (add mask : Word) (left : Nat) :
    MakesWrites board (pollLoop add mask left) fun _ writes => writes = [] := by
  induction left with
  | zero => exact makesWrites_map (makesWrites_load add) fun _ _ => id
  | succ left ih =>
      apply makesWrites_bind (makesWrites_load add)
      rintro value _ rfl
      apply makesWrites_if
      · exact fun _ => makesWrites_done rfl
      · exact fun _ => ih

theorem makesWrites_delayLoop (addr delay : Word) :
    MakesWrites board (delayLoop addr delay budget) fun _ writes => writes = [] := by
  induction budget with
  | zero => exact makesWrites_unfinished
  | succ budget ih =>
      apply makesWrites_bind (makesWrites_load addr)
      rintro count _ rfl
      apply makesWrites_if
      · exact fun _ => ih
      · exact fun _ => makesWrites_done rfl

theorem makesWrites_reset :
    MakesWrites board perfResetClock fun _ writes =>
      writes = [(scuGlobalTimerControl, wholly 0), (scuGlobalTimerCountL32, wholly 0),
        (scuGlobalTimerCountU32, wholly 0)] := by
  apply makesWrites_bind (makesWrites_store _ _)
  rintro _ _ rfl
  apply makesWrites_bind (makesWrites_store _ _)
  rintro _ _ rfl
  apply makesWrites_mono (makesWrites_store _ _)
  rintro _ _ rfl
  rfl

theorem makesWrites_perfResetAndStartTimer :
    MakesWrites board perfResetAndStartTimer fun _ writes =>
      writes = lineWrites (.maskdelay 0 0) := by
  apply makesWrites_bind makesWrites_reset
  rintro _ _ rfl
  apply makesWrites_mono (makesWrites_store _ _)
  rintro _ _ rfl
  rfl

theorem makesWrites_maskPoll (add mask : Word) :
    MakesWrites board (maskPoll add mask) fun _ writes => writes = [] :=
  makesWrites_map (makesWrites_pollLoop add mask _) fun _ _ => id

/-- Whatever becomes of a line, it has made its writes. -/
theorem makesWrites_attempt (line : Instruction) :
    MakesWrites board (attempt budget line) fun goesOn writes =>
      writes = lineWrites line ∧
        (goesOn = false → line = .exit ∨ ∃ addr mask, line = .maskpoll addr mask) := by
  cases line with
  | exit => exact makesWrites_done ⟨rfl, fun _ => Or.inl rfl⟩
  | clear addr =>
      exact makesWrites_map (makesWrites_store addr 0) fun _ _ same =>
        ⟨same, fun stops => by cases stops⟩
  | write addr val =>
      exact makesWrites_map (makesWrites_store addr val) fun _ _ same =>
        ⟨same, fun stops => by cases stops⟩
  | maskwrite addr mask val =>
      exact makesWrites_map (makesWrites_maskWrite addr mask val) fun _ _ same =>
        ⟨same, fun stops => by cases stops⟩
  | maskpoll addr mask =>
      exact makesWrites_map (makesWrites_maskPoll addr mask) fun _ _ same =>
        ⟨same, fun _ => Or.inr ⟨addr, mask, rfl⟩⟩
  | maskdelay addr mask =>
      apply makesWrites_bind makesWrites_perfResetAndStartTimer
      rintro _ _ rfl
      apply makesWrites_map (makesWrites_delayLoop addr _)
      rintro _ _ rfl
      exact ⟨rfl, fun stops => by cases stops⟩

/-- The lines were all carried out, or those in front of a poll that failed. -/
def Ends (script : Script) (code : Int) (writes : Writes) : Prop :=
  code = ps7InitSuccess ∧ writes = scriptWrites script ∨
    code = ps7InitTimeout ∧ ∃ front addr mask rest,
      script = front ++ .maskpoll addr mask :: rest ∧ writes = scriptWrites front

theorem ends_append {script more : Script} {code : Int} {earlier later : Writes}
    (first : Ends script ps7InitSuccess earlier) (second : Ends more code later) :
    Ends (script ++ more) code (earlier ++ later) := by
  rcases first with ⟨_, rfl⟩ | ⟨failed, _⟩
  · rcases second with ⟨success, rfl⟩ | ⟨timeout, front, addr, mask, rest, rfl, rfl⟩
    · exact Or.inl ⟨success, by rw [scriptWrites, scriptWrites, scriptWrites, List.flatMap_append]⟩
    · refine Or.inr ⟨timeout, script ++ front, addr, mask, rest, ?_, ?_⟩
      · rw [List.append_assoc]
      · rw [scriptWrites, scriptWrites, scriptWrites, List.flatMap_append]
  · cases failed

theorem ends_cut {script : Script} {code : Int} {writes : Writes} (more : Script)
    (first : Ends script code writes) (failed : code ≠ ps7InitSuccess) :
    Ends (script ++ more) code writes := by
  obtain ⟨timeout, front, addr, mask, rest, rfl, same⟩ := first.resolve_left fun ended =>
    failed ended.1
  exact Or.inr ⟨timeout, front, addr, mask, rest ++ more, by rw [List.append_assoc]; rfl, same⟩

theorem makesWrites_perform {script : Script} (goesOn : ∀ line ∈ script, line ≠ .exit) :
    MakesWrites board (perform budget Ending.exits.perform script) (Ends script) := by
  induction script with
  | nil => exact makesWrites_done (Or.inl ⟨rfl, rfl⟩)
  | cons line rest ih =>
      rw [List.forall_mem_cons] at goesOn
      apply makesWrites_bind (makesWrites_attempt line)
      rintro passed _ ⟨rfl, stops⟩
      cases passed with
      | true =>
          apply makesWrites_mono (ih goesOn.2)
          intro code writes ended
          have first : Ends [line] ps7InitSuccess (lineWrites line) :=
            Or.inl ⟨rfl, (List.append_nil _).symm⟩
          exact ends_append first ended
      | false =>
          apply makesWrites_done
          rcases stops rfl with isExit | ⟨addr, mask, rfl⟩
          · exact absurd isExit goesOn.1
          · exact Or.inr ⟨rfl, [], addr, mask, rest, rfl, rfl⟩

end Lines

end Ebaz4205.Ps7Board
