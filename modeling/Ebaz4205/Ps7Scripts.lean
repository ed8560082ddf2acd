import Mathlib.Data.List.Basic
import Ebaz4205.ProgramEquivalence
import Ebaz4205.Ps7Interpreter

/-!
# What a table of registers says

Each line of a table is an order to the hardware. The interpreter sees words only:
which orders they are follows from the words, and for some tables from what was on
the stack. Whatever the words are, the interpreter carries out the orders that they
are taken for, one after the other, until it stops.
-/

namespace Ebaz4205.Ps7Scripts

open DriverProgram DriverProgram.Program BitMask Ps7Interpreter

set_option autoImplicit false

section Meaning

/-- Carry out one line. It tells whether the lines behind it are carried out. -/
def attempt (budget : Nat) : Instruction → Ps7Program Bool
  | .exit => return false
  | .clear addr => do
      store addr 0
      return true
  | .write addr val => do
      store addr val
      return true
  | .maskwrite addr mask val => do
      maskWrite addr mask val
      return true
  | .maskpoll addr mask => do
      let verdict ← maskPoll addr mask
      return decide (verdict = 1)
  | .maskdelay addr mask => do
      perfResetAndStartTimer
      delayLoop addr (getNumberOfCyclesForDelay mask) budget
      return true

/-- What is returned when they are not. -/
def finish : Instruction → Int
  | .exit => ps7InitSuccess
  | _ => ps7InitTimeout

/-- One line after the other. -/
def perform (budget : Nat) (ending : Ps7Program Int) : Script → Ps7Program Int
  | [] => ending
  | instruction :: rest => do
      let goesOn ← attempt budget instruction
      if goesOn then perform budget ending rest else return finish instruction

/-- What is behind the last line of a table. -/
inductive Ending where
  | exits
  | corrupt
  | runsOff
  deriving DecidableEq

/-- Beyond a table there is nothing that could be read. -/
def Ending.perform : Ending → Ps7Program Int
  | .exits => return ps7InitSuccess
  | .corrupt => return ps7InitCorrupt
  | .runsOff => do
      let _ ← index (Ps7Array.configInit 0) 0
      return ps7InitCorrupt

end Meaning

section Disassembly

/-- `args` after these words were copied to it, from `j` on. -/
def filled : List Word → Nat → Arguments → Arguments
  | [], _, args => args
  | word :: rest, j, args =>
      filled rest (j + 1) fun slot => if slot.val = j then word else args slot

/-- The line that the `switch` takes an opcode for. -/
def instructionOf (opcode : Word) (args : Arguments) : Option Instruction :=
  if opcode = opcodeExit then some .exit
  else if opcode = opcodeClear then some (.clear (args 0))
  else if opcode = opcodeWrite then some (.write (args 0) (args 1))
  else if opcode = opcodeMaskwrite then some (.maskwrite (args 0) (args 1) (args 2))
  else if opcode = opcodeMaskpoll then some (.maskpoll (args 0) (args 1))
  else if opcode = opcodeMaskdelay then some (.maskdelay (args 0) (args 1))
  else none

/-- The lines that the words from here on are taken for. An opcode with fewer arguments
than it has keeps those of the line before. -/
def disassemble (args : Arguments) : List Word → Script × Ending
  | [] => ([], .runsOff)
  | word :: rest =>
      if rest.length < (word &&& 0xF).toNat then ([], .runsOff)
      else
        let held := filled (rest.take (word &&& 0xF).toNat) 0 args
        match instructionOf (word >>> 4) held with
        | none => ([], .corrupt)
        | some .exit => ([], .exits)
        | some instruction =>
            let later := disassemble held (rest.drop (word &&& 0xF).toNat)
            (instruction :: later.1, later.2)
termination_by words => words.length
decreasing_by
  rw [List.length_drop, List.length_cons]
  omega

end Disassembly

section Interpretation

theorem drop_cons {Value : Type} {list rest : List Value} {position : Nat} {value : Value}
    (dropped : list.drop position = value :: rest) :
    ∃ bound : position < list.length, list.get ⟨position, bound⟩ = value ∧
      list.drop (position + 1) = rest := by
  have bound : position < list.length := by
    by_contra beyond
    rw [List.drop_eq_nil_of_le (Nat.le_of_not_lt beyond)] at dropped
    cases dropped
  rw [List.drop_eq_getElem_cons bound, List.cons.injEq] at dropped
  exact ⟨bound, dropped.1, dropped.2⟩

theorem numargs_lt (word : Word) : (word &&& 0xF).toNat < 16 := by
  rw [BitVec.toNat_and]
  exact Nat.lt_of_le_of_lt Nat.and_le_right (by decide)

variable {budget : Nat} {table : List Word} {ptr : Nat}

theorem interchangeable_copyArgs {Result : Type} (left j : Nat) (args : Arguments)
    {rest : List Word} (room : j + left ≤ 16) (here : table.drop (ptr + (j + 1)) = rest)
    (whole : left ≤ rest.length)
    (next : Arguments → Ps7Program Result) :
    Interchangeable ((copyArgs table ptr left j args).bind next)
      (next (filled (rest.take left) j args)) := by
  induction left generalizing j args rest with
  | zero => exact interchangeable_refl _
  | succ left ih =>
      cases rest with
      | nil => cases whole
      | cons word rest =>
          obtain ⟨bound, got, later⟩ := drop_cons here
          have slot : j < ps7Signature.extent .args := Nat.lt_of_lt_of_le (by omega) room
          rw [copyArgs]
          simp only [bind_eq, Program.bind_assoc]
          apply interchangeable_trans (interchangeable_index_bind slot _)
          apply interchangeable_trans (interchangeable_index_bind bound _)
          have same : Function.update args ⟨j, slot⟩ (table.get ⟨ptr + (j + 1), bound⟩) =
              fun slot => if slot.val = j then word else args slot := by
            funext other
            rw [got, Function.update_apply]
            exact if_congr Fin.ext_iff rfl rfl
          rw [same, List.take_succ_cons, filled]
          exact ih (j + 1) _ (by omega) later (Nat.le_of_succ_le_succ whole)

/-- Where the table is too short, copying the arguments leaves it. -/
theorem interchangeable_copyArgs_short {Result : Type} (left j : Nat) (args : Arguments)
    {rest : List Word} (room : j + left ≤ 16) (here : table.drop (ptr + (j + 1)) = rest)
    (short : rest.length < left) (next : Arguments → Ps7Program Result)
    (later : Fin 0 → Ps7Program Result) :
    Interchangeable ((copyArgs table ptr left j args).bind next)
      ((@index ps7Signature (.configInit 0) 0).bind later) := by
  induction left generalizing j args rest with
  | zero => cases short
  | succ left ih =>
      have slot : j < ps7Signature.extent .args := Nat.lt_of_lt_of_le (by omega) room
      rw [copyArgs]
      simp only [bind_eq, Program.bind_assoc]
      apply interchangeable_trans (interchangeable_index_bind slot _)
      cases rest with
      | nil =>
          apply interchangeable_outside _ (Nat.lt_irrefl 0)
          exact Nat.not_lt.mpr (List.drop_eq_nil_iff.mp here)
      | cons word rest =>
          obtain ⟨bound, got, further⟩ := drop_cons here
          apply interchangeable_trans (interchangeable_index_bind bound _)
          exact ih (j + 1) _ (by omega) further (Nat.lt_of_succ_lt_succ short)

/-- What `finish` is after the `switch`. -/
def verdict (budget : Nat) : Option Instruction → Ps7Program Int
  | none => return ps7InitCorrupt
  | some instruction => do
      let goesOn ← attempt budget instruction
      return if goesOn then -1 else finish instruction

theorem dispatch_eq (opcode : Word) (args : Arguments) :
    dispatch budget opcode args = verdict budget (instructionOf opcode args) := by
  rw [dispatch, instructionOf]
  split_ifs
  · rfl
  · rfl
  · rfl
  · rfl
  · change (pollLoop (args 0) (args 1) ps7MaskPollTime).bind _ =
      Program.bind (Program.bind (Program.bind (pollLoop _ _ _) _) _) _
    rw [Program.bind_assoc, Program.bind_assoc]
    apply congrArg (Program.bind _)
    funext seen
    cases seen <;> rfl
  · change perfResetAndStartTimer.bind (fun _ => (delayLoop _ _ budget).bind _) =
      Program.bind (perfResetAndStartTimer.bind fun _ => (delayLoop _ _ budget).bind _) _
    rw [Program.bind_assoc]
    apply congrArg (Program.bind _)
    funext _
    rw [Program.bind_assoc]
    rfl
  · rfl

theorem finish_nonneg (instruction : Instruction) : ¬finish instruction < 0 := by
  cases instruction with
  | exit => decide
  | _ => exact (by decide : ¬ps7InitTimeout < 0)

theorem interchangeable_continued {loop rest : Ps7Program Int} (instruction : Instruction)
    (same : Interchangeable loop rest) :
    Interchangeable
      ((verdict budget (some instruction)).bind fun finish =>
        if finish < 0 then loop else return finish)
      ((attempt budget instruction).bind fun goesOn =>
        if goesOn then rest else return finish instruction) := by
  change Interchangeable (Program.bind (Program.bind (attempt budget instruction) _) _) _
  rw [Program.bind_assoc]
  apply interchangeable_bind (interchangeable_refl _)
  intro goesOn
  cases goesOn with
  | true => exact same
  | false =>
      change Interchangeable (if finish instruction < 0 then loop else _) _
      rw [if_neg (finish_nonneg instruction)]
      exact interchangeable_refl _

/-- The loop carries out the lines that it takes the words for. -/
theorem interchangeable_configLoop (left : Nat) (words : List Word) (args : Arguments)
    (here : table.drop ptr = words) (enough : words.length < left) :
    Interchangeable (configLoop budget table left ptr args)
      (perform budget (disassemble args words).2.perform (disassemble args words).1) := by
  induction left generalizing ptr words args with
  | zero => cases enough
  | succ left ih =>
      rw [configLoop]
      cases words with
      | nil =>
          rw [disassemble]
          exact interchangeable_outside (Nat.not_lt.mpr (List.drop_eq_nil_iff.mp here))
            (Nat.lt_irrefl 0) _ _
      | cons word rest =>
          obtain ⟨bound, got, later⟩ := drop_cons here
          apply interchangeable_trans (interchangeable_index_bind bound _)
          dsimp only
          rw [got, disassemble]
          have room : 0 + (word &&& 0xF).toNat ≤ 16 := by
            rw [Nat.zero_add]
            exact (numargs_lt word).le
          by_cases short : rest.length < (word &&& 0xF).toNat
          · rw [if_pos short]
            exact interchangeable_copyArgs_short _ 0 args room later short _ _
          · rw [if_neg short]
            apply interchangeable_trans
              (interchangeable_copyArgs _ 0 args room later (Nat.le_of_not_lt short) _)
            rw [dispatch_eq]
            have shorter : (rest.drop (word &&& 0xF).toNat).length < left := by
              rw [List.length_drop]
              exact Nat.lt_of_le_of_lt (Nat.sub_le _ _) (Nat.lt_of_succ_lt_succ enough)
            have further : table.drop (ptr + ((word &&& 0xF).toNat + 1)) =
                rest.drop (word &&& 0xF).toNat := by
              rw [← later, List.drop_drop]
              congr 1
              omega
            dsimp only
            generalize filled (rest.take (word &&& 0xF).toNat) 0 args = held
            cases instructionOf (word >>> 4) held with
            | none => exact interchangeable_refl _
            | some instruction =>
                cases instruction with
                | exit => exact interchangeable_refl _
                | _ => exact interchangeable_continued _ (ih _ _ further shorter)

end Interpretation

section Tables

variable {budget : Nat}

/-- Whatever the words are, the interpreter carries out the lines that it takes them for. -/
theorem interchangeable_config (budget : Nat) (table : List Word) (stack : Arguments) :
    Interchangeable (ps7Config budget table stack)
      (perform budget (disassemble stack table).2.perform (disassemble stack table).1) :=
  interchangeable_configLoop (table.length + 1) table stack rfl (Nat.lt_succ_self _)

def opcodeOf : Instruction → Word
  | .exit => opcodeExit
  | .clear _ => opcodeClear
  | .write _ _ => opcodeWrite
  | .maskwrite _ _ _ => opcodeMaskwrite
  | .maskpoll _ _ => opcodeMaskpoll
  | .maskdelay _ _ => opcodeMaskdelay

def operands : Instruction → List Word
  | .exit => []
  | .clear addr => [addr]
  | .write addr val => [addr, val]
  | .maskwrite addr mask val => [addr, mask, val]
  | .maskpoll addr mask => [addr, mask]
  | .maskdelay addr mask => [addr, mask]

theorem instructionOf_operands (instruction : Instruction) (args : Arguments) :
    instructionOf (opcodeOf instruction) (filled (operands instruction) 0 args) =
      some instruction := by
  cases instruction <;> rfl

def encodable : List (Word × Word) :=
  [(opcodeExit, 0), (opcodeClear, 1), (opcodeWrite, 2), (opcodeMaskwrite, 3), (opcodeMaskpoll, 2),
    (opcodeMaskdelay, 2)]

theorem packet_fields : ∀ fields ∈ encodable,
    (packet fields.1 fields.2 &&& 0xF) = fields.2 ∧ packet fields.1 fields.2 >>> 4 = fields.1 := by
  intro fields member
  simp only [encodable, List.mem_cons, List.not_mem_nil, or_false] at member
  rcases member with rfl | rfl | rfl | rfl | rfl | rfl <;> exact ⟨rfl, rfl⟩

/-- The first word of a line tells the opcode and how many operands follow. -/
theorem emit_eq (instruction : Instruction) :
    ∃ word, instruction.emit = word :: operands instruction ∧
      (word &&& 0xF).toNat = (operands instruction).length ∧
        word >>> 4 = opcodeOf instruction := by
  have fields :
    (opcodeOf instruction, BitVec.ofNat 32 (operands instruction).length) ∈ encodable := by
    cases instruction <;> simp [opcodeOf, operands, encodable]
  obtain ⟨numargs, opcode⟩ := packet_fields _ fields
  refine ⟨packet (opcodeOf instruction) (BitVec.ofNat 32 (operands instruction).length), ?_, ?_,
    opcode⟩
  · cases instruction <;> rfl
  · rw [numargs]
    cases instruction <;> rfl

/-- The words of a line are taken for that line. -/
theorem disassemble_emit (instruction : Instruction) (args : Arguments) (rest : List Word) :
    disassemble args (instruction.emit ++ rest) =
      match instruction with
      | .exit => ([], .exits)
      | instruction =>
          (instruction :: (disassemble (filled (operands instruction) 0 args) rest).1,
            (disassemble (filled (operands instruction) 0 args) rest).2) := by
  obtain ⟨word, emitted, numargs, opcode⟩ := emit_eq instruction
  rw [emitted, List.cons_append, disassemble, numargs, opcode, if_neg, List.take_left,
    List.drop_left]
  · dsimp only
    rw [instructionOf_operands]
    cases instruction <;> rfl
  · rw [List.length_append]
    omega

/-- What the lines of a table are assembled to is taken for these lines up to the first
exit, whatever is on the stack and behind them. -/
theorem disassemble_assemble (script : Script) (args : Arguments) (behind : List Word) :
    disassemble args (assemble (script ++ [.exit]) ++ behind) =
      (script.takeWhile (· ≠ .exit), .exits) := by
  induction script generalizing args with
  | nil =>
      change disassemble args ((Instruction.exit.emit ++ []) ++ behind) = _
      rw [List.append_assoc, disassemble_emit]
      rfl
  | cons instruction rest ih =>
      rw [List.cons_append, assemble, List.append_assoc, disassemble_emit]
      cases instruction with
      | exit => rfl
      | _ =>
          dsimp only
          rw [ih, List.takeWhile_cons_of_pos (by simp)]

theorem perform_takeWhile (script : Script) :
    perform budget Ending.exits.perform (script.takeWhile (· ≠ .exit)) =
      perform budget Ending.exits.perform script := by
  induction script with
  | nil => rfl
  | cons instruction rest ih =>
      cases instruction with
      | exit => rfl
      | _ =>
          rw [List.takeWhile_cons_of_pos (by simp), perform, perform, ih]

/-- A table that is written with the macros and has an end is carried out line by line. -/
theorem config_assembled (budget : Nat) (script : Script) (behind : List Word)
    (stack : Arguments) :
    Interchangeable (ps7Config budget (assemble (script ++ [.exit]) ++ behind) stack)
      (perform budget Ending.exits.perform script) := by
  have carried := interchangeable_config budget (assemble (script ++ [.exit]) ++ behind) stack
  rw [disassemble_assemble, perform_takeWhile] at carried
  exact carried

/-- The interpreter against its tables: it does what the lines say that it takes the words for,
and for the words of the macros these are the lines that were written. -/
theorem config_carries_out (budget : Nat) (stack : Arguments) :
    (∀ table : List Word, Interchangeable (ps7Config budget table stack)
        (perform budget (disassemble stack table).2.perform (disassemble stack table).1)) ∧
      ∀ (script : Script) (behind : List Word),
        Interchangeable (ps7Config budget (assemble (script ++ [.exit]) ++ behind) stack)
          (perform budget Ending.exits.perform script) :=
  ⟨fun table => interchangeable_config budget table stack,
    fun script behind => config_assembled budget script behind stack⟩

/-- Words that come from two lists of lines are taken for both, so the lists are the same up to
the first exit. -/
theorem tables_unambiguous (script : Script) (args : Arguments) (behind : List Word) :
    disassemble args (assemble (script ++ [.exit]) ++ behind) =
        (script.takeWhile (· ≠ .exit), .exits) ∧
      ∀ (other : Script) (rest : List Word),
        assemble (script ++ [.exit]) ++ behind = assemble (other ++ [.exit]) ++ rest →
          script.takeWhile (· ≠ .exit) = other.takeWhile (· ≠ .exit) := by
  refine ⟨disassemble_assemble script args behind, ?_⟩
  intro other rest same
  have taken := disassemble_assemble script args behind
  rw [same, disassemble_assemble] at taken
  exact (Prod.mk.inj taken).1.symm

end Tables

end Ebaz4205.Ps7Scripts
