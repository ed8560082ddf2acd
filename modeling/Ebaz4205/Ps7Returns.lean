import Ebaz4205.ProgramBounds
import Ebaz4205.Ps7Init
import Ebaz4205.Ps7Scripts

/-!
# How the initialisation ends

A poll gives up by itself, a delay does not, and the tables have no delays. So the
initialisation returns in front of every hardware, and nothing but a poll can make it
fail. A table without an end is another matter: what is behind it is read.
-/

namespace Ebaz4205.Ps7Returns

open DriverProgram DriverProgram.Program BitMask Ps7Interpreter Ps7Scripts Ps7Tables Ps7Init

set_option autoImplicit false

section Bounds

variable {budget : Nat}

/-- The most accesses to registers that a line makes. -/
def bound : Instruction → Nat
  | .exit => 0
  | .clear _ => 1
  | .write _ _ => 1
  | .maskwrite _ _ _ => 2
  | .maskpoll _ _ => ps7MaskPollTime + 1
  | .maskdelay _ _ => 0

def bounds (script : Script) : Nat := (script.map bound).sum

def delays : Instruction → Bool
  | .maskdelay _ _ => true
  | _ => false

def polls : Instruction → Bool
  | .maskpoll _ _ => true
  | _ => false

theorem completes_load (address : Word) : Completes (load address) 1 fun _ => True :=
  completes_request _

theorem completes_store (address value : Word) : Completes (store address value) 1 fun _ => True :=
  completes_request _

theorem completes_maskWrite (add mask val : Word) :
    Completes (maskWrite add mask val) 2 fun _ => True :=
  completes_bind (completes_load add) fun _ _ => completes_store add _

theorem completes_pollLoop (add mask : Word) (left : Nat) :
    Completes (pollLoop add mask left) (left + 1) fun _ => True := by
  induction left with
  | zero => exact completes_map (completes_load add) fun _ _ => trivial
  | succ left ih =>
      rw [Nat.add_comm (left + 1) 1]
      apply completes_bind (completes_load add)
      intro value _
      apply completes_if
      · exact fun _ => completes_mono (completes_done trivial) (Nat.zero_le _) fun _ => id
      · exact fun _ => ih

theorem completes_maskPoll (add mask : Word) :
    Completes (maskPoll add mask) (ps7MaskPollTime + 1) fun _ => True :=
  completes_map (completes_pollLoop add mask _) fun _ _ => trivial

/-- A line that is not a delay comes to its end, and only an exit or a poll is the last. -/
theorem completes_attempt {instruction : Instruction} (timed : delays instruction = false) :
    Completes (attempt budget instruction) (bound instruction) fun goesOn =>
      goesOn = false → instruction = .exit ∨ polls instruction = true := by
  cases instruction with
  | exit => exact completes_done fun _ => Or.inl rfl
  | clear addr => exact completes_map (completes_store addr 0) fun _ _ stops => by cases stops
  | write addr val => exact completes_map (completes_store addr val) fun _ _ stops => by cases stops
  | maskwrite addr mask val =>
      exact completes_map (completes_maskWrite addr mask val) fun _ _ stops => by cases stops
  | maskpoll addr mask => exact completes_map (completes_maskPoll addr mask) fun _ _ _ => Or.inr rfl
  | maskdelay addr mask => cases timed

/-- A table without delays returns success, or a timeout if it has polls. -/
theorem completes_perform {script : Script} (timed : script.all fun line => !delays line) :
    Completes (perform budget Ending.exits.perform script) (bounds script) fun code =>
      code = ps7InitSuccess ∨ code = ps7InitTimeout ∧ script.any polls := by
  induction script with
  | nil => exact completes_done (Or.inl rfl)
  | cons instruction rest ih =>
      rw [List.all_cons, Bool.and_eq_true, Bool.not_eq_true'] at timed
      apply completes_bind (completes_attempt timed.1)
      intro goesOn stops
      cases goesOn with
      | true =>
          apply completes_mono (ih timed.2) (le_refl _)
          rintro code (success | ⟨timeout, polled⟩)
          · exact Or.inl success
          · refine Or.inr ⟨timeout, ?_⟩
            rw [List.any_cons, polled, Bool.or_true]
      | false =>
          apply completes_mono (completes_done _) (Nat.zero_le _) fun _ => id
          rcases stops rfl with isExit | isPoll
          · rw [isExit]
            exact Or.inl rfl
          · cases instruction with
            | maskpoll addr mask => exact Or.inr ⟨rfl, rfl⟩
            | _ => cases isPoll

end Bounds

section Reads

variable {budget : Nat}

/-- A program that uses no array. -/
def arrayless : Effects ps7Signature where
  sends _ := True
  changes _ := True
  visits _ _ := False

theorem within_load (address : Word) : (load address).Within arrayless :=
  ⟨trivial, fun _ => trivial⟩

theorem within_store (address value : Word) : (store address value).Within arrayless :=
  ⟨trivial, fun _ => trivial⟩

theorem within_pollLoop (add mask : Word) (left : Nat) :
    (pollLoop add mask left).Within arrayless := by
  induction left with
  | zero => exact within_bind (within_load add) fun _ => within_done _
  | succ left ih =>
      apply within_bind (within_load add)
      intro value
      exact within_if (within_done _) ih

theorem within_delayLoop (addr delay : Word) : (delayLoop addr delay budget).Within arrayless := by
  induction budget with
  | zero => trivial
  | succ budget ih =>
      apply within_bind (within_load addr)
      intro count
      exact within_if ih (within_done _)

theorem within_perfResetAndStartTimer : perfResetAndStartTimer.Within arrayless := by
  apply within_bind
  · apply within_bind (within_store _ _)
    intro _
    exact within_bind (within_store _ _) fun _ => within_store _ _
  · exact fun _ => within_store _ _

theorem within_attempt (instruction : Instruction) :
    (attempt budget instruction).Within arrayless := by
  cases instruction with
  | exit => trivial
  | clear addr => exact within_bind (within_store addr 0) fun _ => within_done _
  | write addr val => exact within_bind (within_store addr val) fun _ => within_done _
  | maskwrite addr mask val =>
      apply within_bind _ fun _ => within_done _
      exact within_bind (within_load addr) fun old => within_store addr _
  | maskpoll addr mask =>
      apply within_bind _ fun _ => within_done _
      exact within_bind (within_pollLoop addr mask _) fun _ => within_done _
  | maskdelay addr mask =>
      apply within_bind within_perfResetAndStartTimer
      intro _
      exact within_bind (within_delayLoop addr _) fun _ => within_done _

variable {World : Type} {env : Environment ps7Signature World}
    {machine : Machine ps7Signature World}

theorem attempt_ne_undefined (instruction : Instruction) :
    ((attempt budget instruction).exec env machine).1 ≠ .undefined :=
  exec_ne_undefined (within_attempt instruction) (fun _ _ => id) env machine

/-- A line that no hardware lets pass. -/
def Unpassable (instruction : Instruction) : Prop := ∃ addr, instruction = .maskpoll addr 0

/-- A poll with an empty mask waits for nothing that could come. -/
theorem completes_pollLoop_zero (add : Word) (left : Nat) :
    Completes (pollLoop add 0 left) (left + 1) fun seen => seen = false := by
  have unseen : ∀ value : Word, isSet value 0 = false := by
    intro value
    simp [isSet]
  induction left with
  | zero => exact completes_map (completes_load add) fun value _ => unseen value
  | succ left ih =>
      rw [Nat.add_comm (left + 1) 1]
      apply completes_bind (completes_load add)
      intro value _
      apply completes_if
      · exact fun seen => absurd seen (Bool.eq_false_iff.mp (unseen value))
      · exact fun _ => ih

theorem completes_attempt_unpassable (addr : Word) :
    Completes (attempt budget (.maskpoll addr 0)) (ps7MaskPollTime + 1) fun goesOn =>
      goesOn = false := by
  apply completes_map (completes_map (completes_pollLoop_zero addr ps7MaskPollTime) _) _
  · exact fun verdict => verdict = -1
  · intro seen unseen
    rw [unseen]
    rfl
  · intro verdict failed
    rw [failed]
    rfl

/-- The end is not reached past a line that lets nothing pass. -/
theorem perform_ne_undefined {script : Script} {ending : Ending}
    (reads : ((perform budget ending.perform script).exec env machine).1 = .undefined) :
    ending = .runsOff ∧ ∀ line ∈ script, ¬Unpassable line := by
  induction script generalizing machine with
  | nil =>
      cases ending with
      | runsOff => exact ⟨rfl, fun line member => by cases member⟩
      | exits => cases reads
      | corrupt => cases reads
  | cons instruction rest ih =>
      rw [perform, bind_eq, exec_bind_undefined_iff] at reads
      rcases reads with reads | ⟨goesOn, middle, ran, reads⟩
      · exact absurd reads (attempt_ne_undefined instruction)
      · cases goesOn with
        | false => cases reads
        | true =>
            obtain ⟨runsOff, passable⟩ := ih reads
            refine ⟨runsOff, List.forall_mem_cons.mpr ⟨?_, passable⟩⟩
            rintro ⟨addr, same⟩
            rw [same] at ran
            obtain ⟨result, after, stopped, fails, _⟩ :=
              (completes_attempt_unpassable addr).returns World env machine
            rw [stopped, fails] at ran
            cases ran

/-- Hardware that has all bits of all registers set. -/
def obliging : Environment ps7Signature Unit where
  respond
    | .load _, world => (BitVec.allOnes 32, world)
    | .store _ _, world => ((), world)

def bare : Machine ps7Signature Unit := ⟨(), ()⟩

theorem isSet_allOnes {mask : Word} (nonzero : mask ≠ 0) :
    isSet (BitVec.allOnes 32) mask = true := by
  rw [isSet, BitVec.allOnes_and]
  exact bne_iff_ne.mpr nonzero

theorem exec_pollLoop_obliging {add mask : Word} (nonzero : mask ≠ 0) (left : Nat) :
    (pollLoop add mask left).exec obliging bare = (.returned true, bare) := by
  cases left with
  | zero =>
      change (Outcome.returned (isSet (BitVec.allOnes 32) mask), bare) = _
      rw [isSet_allOnes nonzero]
  | succ left =>
      change Program.exec obliging (if isSet (BitVec.allOnes 32) mask then _ else _) bare = _
      rw [if_pos (isSet_allOnes nonzero)]
      rfl

theorem exec_delayLoop_obliging (addr delay : Word) :
    (delayLoop addr delay (budget + 1)).exec obliging bare = (.returned (), bare) := by
  change Program.exec obliging (if BitVec.allOnes 32 < delay then _ else _) bare = _
  rw [if_neg BitVec.not_allOnes_lt]
  rfl

theorem exec_attempt_obliging {instruction : Instruction} (goesOn : instruction ≠ .exit)
    (passable : ¬Unpassable instruction) :
    (attempt (budget + 1) instruction).exec obliging bare = (.returned true, bare) := by
  cases instruction with
  | exit => exact absurd rfl goesOn
  | clear addr => rfl
  | write addr val => rfl
  | maskwrite addr mask val => rfl
  | maskpoll addr mask =>
      have nonzero : mask ≠ 0 := fun zero => passable ⟨addr, by rw [zero]⟩
      change ((Program.bind (pollLoop addr mask ps7MaskPollTime) _).bind _).exec obliging bare = _
      rw [Program.bind_assoc, exec_bind, exec_pollLoop_obliging nonzero]
      rfl
  | maskdelay addr mask =>
      change Program.exec obliging ((delayLoop addr _ (budget + 1)).bind _) bare = _
      rw [exec_bind, exec_delayLoop_obliging]
      rfl

/-- What is behind an exit is not disassembled. -/
theorem disassemble_ne_exit (args : Arguments) (words : List Word) :
    ∀ line ∈ (disassemble args words).1, line ≠ .exit := by
  induction args, words using disassemble.induct with
  | case1 args =>
      rw [disassemble]
      exact fun line member => by cases member
  | case2 args word rest short =>
      rw [disassemble, if_pos short]
      exact fun line member => by cases member
  | case3 args word rest long held unknown =>
      rw [disassemble, if_neg long]
      dsimp only
      rw [unknown]
      exact fun line member => by cases member
  | case4 args word rest long held exits =>
      rw [disassemble, if_neg long]
      dsimp only
      rw [exits]
      exact fun line member => by cases member
  | case5 args word rest long held instruction goesOn known ih =>
      rw [disassemble, if_neg long]
      dsimp only
      rw [known]
      cases instruction with
      | exit => exact absurd rfl goesOn
      | _ => exact List.forall_mem_cons.mpr ⟨fun same => (by cases same), ih⟩

theorem exec_perform_obliging {script : Script} {ending : Ps7Program Int}
    (goesOn : ∀ line ∈ script, line ≠ .exit) (passable : ∀ line ∈ script, ¬Unpassable line) :
    (perform (budget + 1) ending script).exec obliging bare = ending.exec obliging bare := by
  induction script with
  | nil => rfl
  | cons instruction rest ih =>
      rw [List.forall_mem_cons] at goesOn passable
      rw [perform, bind_eq, exec_bind, exec_attempt_obliging goesOn.1 passable.1]
      exact ih goesOn.2 passable.2

/-- The interpreter reads behind a table in front of some hardware exactly if the words are
those of a table without an end, and no line of it waits for an empty mask. -/
theorem reads_behind_iff (budget : Nat) (table : List Word) (stack : Arguments) :
    (∃ (World : Type) (env : Environment ps7Signature World) (machine : Machine ps7Signature World),
      ((ps7Config (budget + 1) table stack).exec env machine).1 = .undefined) ↔
        (disassemble stack table).2 = .runsOff ∧
          ∀ line ∈ (disassemble stack table).1, ¬Unpassable line := by
  constructor
  · rintro ⟨World, env, machine, reads⟩
    rw [(interchangeable_config _ table stack).exec World env machine] at reads
    exact perform_ne_undefined reads
  · rintro ⟨runsOff, passable⟩
    refine ⟨Unit, obliging, bare, ?_⟩
    rw [(interchangeable_config _ table stack).exec Unit obliging bare, runsOff,
      exec_perform_obliging (disassemble_ne_exit stack table) passable]
    rfl

end Reads

section Initialisation

variable {budget : Nat} {build : Build}

/-- A table without its `EMIT_EXIT`. -/
def lines (build : Build) (silicon : Silicon) (stage : Stage) : Script :=
  (tables build silicon stage).dropLast

/-- The tables end in the only `EMIT_EXIT` that matters. -/
theorem tables_eq (build : Build) (silicon : Silicon) (stage : Stage) :
    tables build silicon stage = lines build silicon stage ++ [.exit] := by
  cases build <;> cases silicon <;> cases stage <;> rfl

theorem config_tables (budget : Nat) (build : Build) (silicon : Silicon) (stage : Stage)
    (stack : Arguments) :
    Interchangeable (ps7Config budget (assemble (tables build silicon stage)) stack)
      (perform budget Ending.exits.perform (lines build silicon stage)) := by
  have carried := config_assembled budget (lines build silicon stage) [] stack
  rw [List.append_nil, ← tables_eq] at carried
  exact carried

theorem lines_timed (build : Build) (silicon : Silicon) (stage : Stage) :
    (lines build silicon stage).all fun line => !delays line := by
  cases build <;> cases silicon <;> cases stage <;> rfl

/-- The most accesses that the table of a stage makes. -/
def stageBound : Stage → Nat
  | .mio => 142
  | .pll => 300000045
  | .clock => 24
  | .ddr => 200000164
  | .peripherals => 26
  | .postConfig => 10
  | .debug => 3

theorem bounds_lines (build : Build) (silicon : Silicon) (stage : Stage) :
    bounds (lines build silicon stage) ≤ stageBound stage := by
  cases build <;> cases silicon <;> cases stage <;> decide

def polled : Stage → Bool
  | .pll => true
  | .ddr => true
  | _ => false

theorem polls_lines (build : Build) (silicon : Silicon) (stage : Stage) :
    (lines build silicon stage).any polls = polled stage := by
  cases build <;> cases silicon <;> cases stage <;> rfl

theorem completes_config (silicon : Silicon) (stage : Stage) (stack : Arguments) :
    Completes (ps7Config budget (assemble (tables build silicon stage)) stack) (stageBound stage)
      fun code => code = ps7InitSuccess ∨ code = ps7InitTimeout ∧ polled stage := by
  apply completes_of_interchangeable (config_tables budget build silicon stage stack)
  apply completes_mono (completes_perform (lines_timed build silicon stage))
  · exact bounds_lines build silicon stage
  · intro code ended
    rw [polls_lines] at ended
    exact ended

theorem completes_configStages (silicon : Silicon) (stack : Stage → Arguments)
    (stages : List Stage) :
    Completes (configStages budget (tables build silicon) stack stages)
      (stages.map stageBound).sum fun code =>
        code = ps7InitSuccess ∨ code = ps7InitTimeout ∧ stages.any polled := by
  induction stages with
  | nil => exact completes_done (Or.inl rfl)
  | cons stage rest ih =>
      apply completes_bind (completes_config silicon stage (stack stage))
      intro ret ended
      apply completes_if
      · intro failed
        obtain ⟨timeout, polls⟩ := ended.resolve_left failed
        apply completes_mono (completes_done _) (Nat.zero_le _) fun _ => id
        refine Or.inr ⟨timeout, ?_⟩
        rw [List.any_cons, polls, Bool.true_or]
      · intro _
        apply completes_mono ih (le_refl _)
        rintro code (success | ⟨timeout, polls⟩)
        · exact Or.inl success
        · refine Or.inr ⟨timeout, ?_⟩
          rw [List.any_cons, polls, Bool.or_true]

theorem completes_siliconVersion : Completes ps7GetSiliconVersion 1 fun _ => True :=
  completes_map (completes_load 0xF8007080) fun _ _ => trivial

theorem completes_configured (stack : Stage → Arguments) (stages : List Stage) :
    Completes (configured budget build stack stages) (1 + (stages.map stageBound).sum) fun code =>
      code = ps7InitSuccess ∨ code = ps7InitTimeout ∧ stages.any polled := by
  apply completes_bind completes_siliconVersion
  intro siVer _
  exact completes_configStages (silicon siVer) stack stages

/-- In front of every hardware the initialisation returns, after at most so many accesses,
success or a timeout. What is done after it cannot fail. -/
theorem initialisation_returns (budget : Nat) (build : Build) (stack : Stage → Arguments) :
    Completes (ps7Init budget build stack) 500000402
        (fun code => code = ps7InitSuccess ∨ code = ps7InitTimeout) ∧
      Completes (ps7PostConfig budget build stack) 11 (fun code => code = ps7InitSuccess) ∧
        Completes (ps7Debug budget build stack) 4 (fun code => code = ps7InitSuccess) := by
  refine ⟨?_, ?_, ?_⟩
  · apply completes_mono (completes_configured stack initStages) (by decide)
    exact fun code ended => ended.imp_right And.left
  · apply completes_mono (completes_configured stack [.postConfig]) (by decide)
    exact fun code ended => ended.resolve_right fun timeout => by cases timeout.2
  · apply completes_mono (completes_configured stack [.debug]) (by decide)
    exact fun code ended => ended.resolve_right fun timeout => by cases timeout.2

end Initialisation

end Ebaz4205.Ps7Returns
