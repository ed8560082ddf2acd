import Ebaz4205.AximuxSelectBits

/-!
# What can be written to a source file

`src_store` does not look at what `sscanf` returns. A text without a number leaves
the value at 0, a number is cut to 32 bits before its range is checked, and what
stands behind it is never seen. A text is refused for the remainder of its number
only.
-/

namespace Ebaz4205.AximuxStoredText

open DecimalText DriverProgram DriverProgram.Program PulsecapDriver PlatformKernel AximuxDriver
open AximuxOperations AximuxSourceFiles AximuxSelectBits PlatformSystem

set_option autoImplicit false

/-- The characters of a byte string. -/
def characters (written : List Byte) : List Char := written.map fun byte => .ofNat byte.toNat

/-- The whole string is a decimal number, but for a line end. -/
def IsDecimal (written : List Byte) (value : Nat) : Prop :=
  ∃ digits, IsNumber digits value ∧
    (characters written = digits ∨ characters written = digits ++ ['\n'])

/-- A number that one source can be set to. -/
def IsSource (written : List Byte) (value : Nat) : Prop :=
  IsDecimal written value ∧ value ≤ aximuxSelMask.toNat

/-- The number that the string begins with, behind blanks, leaves a remainder above
the mask. -/
def LeavesMask (written : List Byte) : Prop :=
  ∃ value, scanDigits (skipSpaces (characters written)) = some value ∧
    aximuxSelMask.toNat < value % 2 ^ 32

/-- A write of this string to the file of a port, as the driver core passes it on. -/
def storeTo (drv : Address) (port : Fin aximuxAttrsSize) (written : List Byte) :
    AximuxProgram Int :=
  srcStore (some drv) (sourceName port) (.ofList (characters written)) written.length

section Laws

variable (drv : Address) (machine : Machine aximuxSignature KernelWorld)
  (port : Fin aximuxAttrsSize) (written : List Byte)

/-- The write succeeds and the port is at this source. -/
def Sets (source : Bool) : Prop :=
  ∃ after, (storeTo drv port written).exec kernel machine =
      (.returned written.length, after) ∧
    PortReads drv after.world (.ofNat 32 port) source

/-- The write fails and leaves the select registers alone. -/
def Refuses : Prop :=
  ∃ code after, (storeTo drv port written).exec kernel machine = (.returned code, after) ∧
    code < 0 ∧ after.world.shared.select = machine.world.shared.select

/-- A number that is a source sets it; any other string is refused. -/
structure StoresNumbers : Prop where
  number : ∀ value, IsSource written value → Sets drv machine port written (value ≠ 0)
  other : (∀ value, ¬IsSource written value) → Refuses drv machine port written

end Laws

section Scanned

variable {written : List Byte} {value : Nat}

theorem scanDigits_of_isDecimal (decimal : IsDecimal written value) :
    scanDigits (skipSpaces (characters written)) = some value := by
  obtain ⟨digits, number, alone | ended⟩ := decimal
  · have scanned := @scanDigits_number digits [] value number (fun _ member => by cases member)
    rw [alone, ← List.append_nil digits, skipSpaces_number number]
    exact scanned
  · rw [ended, skipSpaces_number number]
    apply scanDigits_number number
    intro char member
    cases member
    decide

theorem scanUnsigned_of_isDecimal (decimal : IsDecimal written value) :
    scanUnsigned 32 (characters written) = some (BitVec.ofNat 32 value) := by
  rw [scanUnsigned, scanDigits_of_isDecimal decimal, Option.map_some]

theorem leavesMask_iff :
    LeavesMask written ↔ aximuxSelMask < (scanUnsigned 32 (characters written)).getD 0 := by
  rw [LeavesMask, scanUnsigned]
  cases scanDigits (skipSpaces (characters written)) with
  | none =>
      constructor
      · rintro ⟨value, scanned, _⟩
        cases scanned
      · intro above
        exact absurd above (by decide)
  | some value =>
      rw [Option.map_some, Option.getD_some, BitVec.lt_def, BitVec.toNat_ofNat]
      constructor
      · rintro ⟨other, scanned, above⟩
        cases scanned
        exact above
      · intro above
        exact ⟨value, rfl, above⟩

/-- What is a source stays one when it is cut. -/
theorem not_leavesMask_of_isSource (source : IsSource written value) : ¬LeavesMask written := by
  rintro ⟨other, scanned, above⟩
  rw [scanDigits_of_isDecimal source.1, Option.some.injEq] at scanned
  rw [← scanned] at above
  exact absurd (Nat.lt_of_lt_of_le above (Nat.mod_le _ _)) (Nat.not_lt.mpr source.2)

end Scanned

section Writes

variable {drv : Address} {machine : Machine aximuxSignature KernelWorld}
  {port : Fin aximuxAttrsSize} {written : List Byte}

theorem port_small (port : Fin aximuxAttrsSize) : (port : Nat) < 8 := port.isLt

theorem exec_storeTo (kept : ¬LeavesMask written) :
    (storeTo drv port written).exec kernel machine =
      (.returned written.length, { machine with
        world := machine.world.writeSelect drv
          (selected (machine.world.shared.select drv) port
            ((scanUnsigned 32 (characters written)).getD 0 ≠ 0)) }) := by
  have small := port_small port
  have sameText : (String.ofList (characters written)).toList = characters written :=
    String.toList_ofList
  have accepted : ¬aximuxSelMask <
      (scanUnsigned 32 (String.ofList (characters written)).toList).getD 0 := by
    rw [sameText, ← leavesMask_iff]
    exact kept
  have number : (sourcePort (sourceName port)).toNat = port := sourcePort_toNat (by omega)
  have inWord : (sourcePort (sourceName port)).toNat < 32 := by
    rw [number]
    omega
  rw [storeTo, exec_srcStore accepted inWord, sameText, number]

theorem exec_storeTo_refused (leaves : LeavesMask written) :
    (storeTo drv port written).exec kernel machine = (.returned (-einval), machine) := by
  have sameText : (String.ofList (characters written)).toList = characters written :=
    String.toList_ofList
  have above := leavesMask_iff.mp leaves
  rw [storeTo, srcStore, sameText, if_pos above, pure_eq_done, exec_done]

theorem sets_of_isSource {value : Nat} (source : IsSource written value) :
    Sets drv machine port written (value ≠ 0) := by
  have small := port_small port
  have low : value < 2 ^ 32 := Nat.lt_of_le_of_lt source.2 (by decide)
  have samePort : (BitVec.ofNat 32 (port : Nat)).toNat = port := by
    rw [BitVec.toNat_ofNat, Nat.mod_eq_of_lt (by omega)]
  have nonzero : decide (BitVec.ofNat 32 value ≠ 0) = decide (value ≠ 0) := by
    apply decide_eq_decide.mpr
    apply not_congr
    rw [← BitVec.toNat_inj, BitVec.toNat_ofNat, Nat.mod_eq_of_lt low]
    rfl
  refine ⟨_, exec_storeTo (not_leavesMask_of_isSource source), ?_⟩
  have bit := @portReads_bit drv (machine.world.writeSelect drv
    (selected (machine.world.shared.select drv) port
      ((scanUnsigned 32 (characters written)).getD 0 ≠ 0))) (.ofNat 32 port)
        (by rw [samePort]; omega)
  rw [samePort, scanUnsigned_of_isDecimal source.1, Option.getD_some, nonzero] at bit
  simp only [KernelWorld.writeSelect, Function.update_self, getLsbD_selected, decide_eq_true small,
    Bool.true_and, if_true] at bit
  rw [scanUnsigned_of_isDecimal source.1, Option.getD_some, nonzero]
  exact bit

theorem refuses_iff : Refuses drv machine port written ↔ LeavesMask written := by
  constructor
  · rintro ⟨code, after, ran, negative, _⟩
    by_contra kept
    rw [exec_storeTo kept, Prod.mk.injEq, Outcome.returned.injEq] at ran
    omega
  · intro leaves
    exact ⟨_, _, exec_storeTo_refused leaves, by decide, rfl⟩

end Writes

/-- A string is stored lawfully exactly if it is a source, or its number is one that
the cut leaves above the mask. -/
theorem numbers_stored_iff (drv : Address) (machine : Machine aximuxSignature KernelWorld)
    (port : Fin aximuxAttrsSize) (written : List Byte) :
    StoresNumbers drv machine port written ↔
      (∃ value, IsSource written value) ∨ LeavesMask written := by
  constructor
  · intro stores
    by_cases number : ∃ value, IsSource written value
    · exact Or.inl number
    · exact Or.inr (refuses_iff.mp (stores.other fun value source => number ⟨value, source⟩))
  · intro known
    constructor
    · intro value source
      exact sets_of_isSource source
    · intro none
      rcases known with ⟨value, source⟩ | leaves
      · exact absurd source (none value)
      · exact refuses_iff.mpr leaves

section Accepted

variable {written : List Byte}

theorem digit_or_end_of_isDecimal {value : Nat} (decimal : IsDecimal written value) :
    ∀ char ∈ characters written, char.isDigit = true ∨ char = '\n' := by
  obtain ⟨digits, number, alone | ended⟩ := decimal
  · intro char member
    rw [alone] at member
    exact Or.inl (number.digits char member)
  · intro char member
    rw [ended, List.mem_append, List.mem_singleton] at member
    rcases member with digit | same
    · exact Or.inl (number.digits char digit)
    · exact Or.inr same

theorem not_isDecimal_nil (value : Nat) : ¬IsDecimal [] value := by
  rintro ⟨digits, number, alone | ended⟩
  · exact number.written alone.symm
  · exact absurd (congrArg List.length ended) (by simp [characters])

/-- A multiplexer whose ports are all at their second source. -/
def secondSources : Machine aximuxSignature KernelWorld :=
  ⟨resting.memory, resting.world.writeSelect 0 aximuxSelMask⟩

/-- An empty string, `on` and `1x` are accepted, and so is 4294967297. -/
theorem stray_text_accepted :
    ¬StoresNumbers 0 secondSources ⟨0, by decide⟩ [] ∧
      ¬StoresNumbers 0 secondSources ⟨0, by decide⟩ [0x6F, 0x6E] ∧
      ¬StoresNumbers 0 secondSources ⟨0, by decide⟩ [0x31, 0x78] ∧
      ¬StoresNumbers 0 secondSources ⟨0, by decide⟩
        [0x34, 0x32, 0x39, 0x34, 0x39, 0x36, 0x37, 0x32, 0x39, 0x37] := by
  have accepted : ∀ written, (∀ value, ¬IsSource written value) → ¬LeavesMask written →
      ¬StoresNumbers 0 secondSources ⟨0, by decide⟩ written :=
    fun written none kept stores => kept (refuses_iff.mp (stores.other none))
  refine ⟨?_, ?_, ?_, ?_⟩
  · apply accepted
    · intro value source
      exact not_isDecimal_nil value source.1
    · rw [leavesMask_iff]
      decide
  · apply accepted
    · intro value source
      exact absurd (digit_or_end_of_isDecimal source.1 'o' (by decide)) (by decide)
    · rw [leavesMask_iff]
      decide
  · apply accepted
    · intro value source
      exact absurd (digit_or_end_of_isDecimal source.1 'x' (by decide)) (by decide)
    · rw [leavesMask_iff]
      decide
  · apply accepted
    · intro value source
      have scanned := scanDigits_of_isDecimal source.1
      have spelled : scanDigits (skipSpaces (characters
          [0x34, 0x32, 0x39, 0x34, 0x39, 0x36, 0x37, 0x32, 0x39, 0x37])) = some 4294967297 := by
        decide
      rw [spelled, Option.some.injEq] at scanned
      have small : value ≤ 255 := source.2
      omega
    · rw [leavesMask_iff]
      decide

end Accepted

end Ebaz4205.AximuxStoredText
