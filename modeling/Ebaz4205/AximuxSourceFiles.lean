import Ebaz4205.AximuxOperations
import Ebaz4205.PartialRuns

/-!
# The source files of a multiplexer

A file knows its port by its name alone. The name goes through a buffer of eight
characters and the port through a select register of eight bits; the width that
the probe reads from the device tree is compared with neither.
-/

namespace Ebaz4205.AximuxSourceFiles

open BitMask DecimalText DriverProgram DriverProgram.Program PartialRuns PulsecapDriver
open PlatformKernel AximuxDriver AximuxOperations PlatformSystem

set_option autoImplicit false

/-- A write of "0" or "1" to the file of one port. -/
structure FileWrite where
  port : Nat
  value : Bool

def FileWrite.text (write : FileWrite) : String := if write.value then "1" else "0"

/-- The files of one instance: a write calls `src_store`. -/
def sourceFiles (drv : Address) :
    Transducer (Machine aximuxSignature KernelWorld) FileWrite Int where
  step := fun machine write =>
    match (srcStore (some drv) (sourceName write.port) write.text write.text.length).exec kernel
      machine with
    | (.returned code, after) => some (code, after)
    | _ => none

/-- The value last written to the file of a port, or the initial one. -/
def lastWritten (port : Nat) (initial : Bool) (writes : List FileWrite) : Bool :=
  writes.foldl (fun value write => if write.port = port then write.value else value) initial

def shown (value : Bool) : String := if value then "1\n" else "0\n"

/-- The file of this port reads as this value. -/
def Reads (drv : Address) (machine : Machine aximuxSignature KernelWorld) (port : Nat)
    (value : Bool) : Prop :=
  ((srcShow (some drv) (sourceName port)).exec kernel machine).1 = .returned (shown value)

/-- The files of a multiplexer of this width have names of their own, from which
their ports can be recovered, and each keeps what is written to it. -/
structure FilesWork (width : U32) : Prop where
  distinct : ∀ port other, port < width.toNat → other < width.toNat →
    sourceName port = sourceName other → port = other
  recovered : ∀ port < width.toNat, (sourcePort (sourceName port)).toNat = port
  kept : ∀ drv (machine : Machine aximuxSignature KernelWorld) (writes : List FileWrite),
    (∀ bit, width.toNat ≤ bit → (machine.world.shared.select drv).getLsbD bit = false) →
    (∀ write ∈ writes, write.port < width.toNat) →
    ∃ after, (sourceFiles drv).Reaches machine writes after ∧
      ∀ port < width.toNat, Reads drv after port
        (lastWritten port ((machine.world.shared.select drv).getLsbD port) writes)

section Names

variable {port : Nat}

theorem sourceName_of_digit (small : port < 10) :
    (sourceName port).toList = "source".toList ++ Nat.toDigits 10 port := by
  have number : (BitVec.ofNat 32 port).toInt = port := by
    rw [BitVec.toInt_eq_toNat_of_lt] <;> rw [BitVec.toNat_ofNat, Nat.mod_eq_of_lt] <;> omega
  have digits : (toString (port : Int)).toList = Nat.toDigits 10 port := Nat.toList_repr
  rw [sourceName, String.toList_ofList, String.toList_append, number, digits,
    Nat.toDigits_of_lt_base small]
  rfl

/-- A name with one digit is read back. -/
theorem sourcePort_of_digit (small : port < 10) :
    sourcePort (sourceName port) = BitVec.ofNat 32 port := by
  have scanned : scanSigned 32 (Nat.toDigits 10 port ++ []) = some (BitVec.ofNat 32 port) :=
    scanSigned_toDigits 32 fun char member => absurd member (by simp)
  rw [List.append_nil] at scanned
  rw [sourcePort, sourceName_of_digit small, afterLiteral_append, Option.bind_some, scanned,
    Option.getD_some]

theorem sourcePort_toNat (small : port < 10) : (sourcePort (sourceName port)).toNat = port := by
  rw [sourcePort_of_digit small, BitVec.toNat_ofNat, Nat.mod_eq_of_lt]
  omega

theorem sourceName_injective {other : Nat} (small : port < 10) (otherSmall : other < 10)
    (same : sourceName port = sourceName other) : port = other := by
  rw [← sourcePort_toNat small, same, sourcePort_toNat otherSmall]

/-- The buffer holds the name of ten ports: `source10` is cut to `source1`. -/
theorem ports_recovered_iff (width : Nat) :
    (∀ port < width, (sourcePort (sourceName port)).toNat = port) ↔ width ≤ 10 := by
  constructor
  · intro recovered
    by_contra wide
    exact absurd (recovered 10 (by omega)) (by decide)
  · intro narrow port bound
    exact sourcePort_toNat (by omega)

end Names

section Register

variable {drv : Address} {machine : Machine aximuxSignature KernelWorld} {port : Nat}

theorem exec_srcStore {name buf : String} {count : Nat}
    (accepted : ¬aximuxSelMask < (scanUnsigned 32 buf.toList).getD 0)
    (inWord : (sourcePort name).toNat < 32) :
    (srcStore (some drv) name buf count).exec kernel machine =
      (.returned count, { machine with
        world := machine.world.writeSelect drv
          (selected (machine.world.shared.select drv) (sourcePort name).toNat
            ((scanUnsigned 32 buf.toList).getD 0 ≠ 0)) }) := by
  rw [srcStore, if_neg accepted, bind_eq, exec_bind, exec_aximuxSetSrc _ _ _ inWord,
    continueWith_returned, pure_eq_done, exec_done]

theorem scanUnsigned_text (write : FileWrite) :
    (scanUnsigned 32 write.text.toList).getD 0 = if write.value then 1 else 0 := by
  have zero : (scanUnsigned 32 "0".toList).getD 0 = 0 := by decide
  have one : (scanUnsigned 32 "1".toList).getD 0 = 1 := by decide
  obtain ⟨port, value⟩ := write
  cases value with
  | false => exact zero
  | true => exact one

theorem step_sourceFiles {write : FileWrite} (small : write.port < 10) :
    (sourceFiles drv).step machine write = some ((write.text.length : Int), { machine with
      world := machine.world.writeSelect drv
        (selected (machine.world.shared.select drv) write.port write.value) }) := by
  have scanned := scanUnsigned_text write
  have accepted : ¬aximuxSelMask < (scanUnsigned 32 write.text.toList).getD 0 := by
    rw [scanned]
    cases write.value <;> decide
  have value : decide ((scanUnsigned 32 write.text.toList).getD 0 ≠ 0) = write.value := by
    rw [scanned]
    cases write.value <;> decide
  have inWord : (sourcePort (sourceName write.port)).toNat < 32 := by
    rw [sourcePort_toNat small]
    omega
  have ran : (srcStore (some drv) (sourceName write.port) write.text write.text.length).exec kernel
      machine = _ := exec_srcStore accepted inWord
  rw [sourcePort_toNat small, value] at ran
  rw [sourceFiles]
  dsimp only
  rw [ran]

theorem exec_aximuxGetSrc (port : U32) (inWord : port.toNat < 32) :
    (aximuxGetSrc (some drv) port .valid).exec kernel machine =
      (.returned (some (if (machine.world.shared.select drv).getLsbD port.toNat then 1 else 0)),
        machine) := by
  simp only [aximuxGetSrc, bind_eq, kernelCall, shiftedOne, Program.bind, exec, kernel,
    KernelWorld.respond, dif_pos inWord, isSet_twoPow, pure_eq_done]
  rfl

theorem shown_injective {left right : Bool} (same : shown left = shown right) : left = right := by
  cases left <;> cases right <;> first | rfl | exact absurd same (by decide)

/-- The file of a port with one digit shows the bit of that port. -/
theorem reads_iff (small : port < 10) (value : Bool) :
    Reads drv machine port value ↔ (machine.world.shared.select drv).getLsbD port = value := by
  have inWord : (sourcePort (sourceName port)).toNat < 32 := by
    rw [sourcePort_toNat small]
    omega
  have ran : ((srcShow (some drv) (sourceName port)).exec kernel machine).1 =
      .returned (shown ((machine.world.shared.select drv).getLsbD port)) := by
    rw [srcShow, bind_eq, exec_bind, exec_aximuxGetSrc _ inWord, continueWith_returned,
      sourcePort_toNat small]
    cases (machine.world.shared.select drv).getLsbD port with
    | false => exact congrArg Outcome.returned (by decide : toString (0 : U32).toNat ++ "\n" = _)
    | true => exact congrArg Outcome.returned (by decide : toString (1 : U32).toNat ++ "\n" = _)
  rw [Reads, ran, Outcome.returned.injEq]
  constructor
  · intro same
    exact shown_injective same
  · intro same
    rw [same]

end Register

section Runs

variable {drv : Address} {width : U32} {writes : List FileWrite}

/-- Below the mask the register keeps, bit by bit, what was last written. -/
theorem writes_kept (machine : Machine aximuxSignature KernelWorld)
    (small : ∀ write ∈ writes, write.port < 10) :
    ∃ after, (sourceFiles drv).Reaches machine writes after ∧
      ∀ bit < 8, (after.world.shared.select drv).getLsbD bit =
        lastWritten bit ((machine.world.shared.select drv).getLsbD bit) writes := by
  induction writes generalizing machine with
  | nil => exact ⟨machine, (Transducer.reaches_nil _ _).mpr rfl, fun _ _ => rfl⟩
  | cons write rest ih =>
      have stepped : (sourceFiles drv).step machine write = _ :=
        step_sourceFiles (small write List.mem_cons_self)
      obtain ⟨after, reached, bits⟩ := ih { machine with
        world := machine.world.writeSelect drv
          (selected (machine.world.shared.select drv) write.port write.value) }
        fun other member => small other (List.mem_cons_of_mem _ member)
      refine ⟨after, (Transducer.reaches_cons _ _ _ _).mpr ⟨_, _, stepped, reached⟩, ?_⟩
      intro bit inMask
      rw [bits bit inMask]
      simp only [KernelWorld.writeSelect, Function.update_self, getLsbD_selected, inMask,
        decide_true, Bool.true_and, lastWritten, List.foldl_cons, eq_comm]

theorem filesWork_of_narrow (narrow : width.toNat ≤ 8) : FilesWork width where
  distinct := by
    intro port other bound otherBound same
    exact sourceName_injective (by omega) (by omega) same
  recovered := by
    intro port bound
    exact sourcePort_toNat (by omega)
  kept := by
    intro drv machine writes _ inWidth
    obtain ⟨after, reached, bits⟩ := writes_kept machine fun write member =>
      Nat.lt_trans (inWidth write member) (by omega)
    refine ⟨after, reached, ?_⟩
    intro port bound
    exact (reads_iff (by omega) _).mpr (bits port (by omega))

/-- A kernel at rest under a zeroed module. -/
def resting : Machine aximuxSignature KernelWorld :=
  entry PlatformState.initial.aximux PlatformState.initial.shared
    ⟨.probe, ⟨.aximux, 0⟩, obliging 0⟩

/-- The mask drops the port after the eighth. -/
theorem not_filesWork_of_wide (wide : 8 < width.toNat) : ¬FilesWork width := by
  intro work
  obtain ⟨after, reached, reads⟩ := work.kept 0 resting [⟨8, true⟩]
    (fun _ _ => by simp [resting, PlatformState.initial])
    (fun write member => by rw [List.mem_singleton.mp member]; exact wide)
  have stepped : (sourceFiles 0).step resting ⟨8, true⟩ = _ := step_sourceFiles (by decide)
  obtain ⟨code, ran⟩ := (Transducer.reaches_singleton _ _ _).mp reached
  rw [stepped, Option.some.injEq, Prod.mk.injEq] at ran
  have read := (reads_iff (by decide) _).mp (reads 8 wide)
  rw [← ran.2] at read
  simp only [KernelWorld.writeSelect, Function.update_self, getLsbD_selected] at read
  exact absurd read (by decide)

/-- The files of a multiplexer work exactly up to a width of eight. -/
theorem files_work_iff (width : U32) : FilesWork width ↔ width.toNat ≤ 8 := by
  constructor
  · intro work
    by_contra wide
    exact not_filesWork_of_wide (Nat.not_le.mp wide) work
  · exact filesWork_of_narrow

/-- The probe comes to fill the table for nine sources, whose files do not work. -/
theorem nine_sources_do_not_work : offeredWidth (obliging 9) = some 9 ∧ ¬FilesWork 9 :=
  ⟨rfl, not_filesWork_of_wide (by decide)⟩

end Runs

end Ebaz4205.AximuxSourceFiles
