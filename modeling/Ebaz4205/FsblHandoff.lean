import Mathlib.Tactic.IntervalCases
import Ebaz4205.FsblHooks
import Ebaz4205.ProgramBounds

/-!
# Reading a register of the configuration logic

The header of a packet and its fields, the two transfers of a read-out, and what the boot
loader gets of them. The interrupt status keeps its bits until it is cleared, so the wait
for the second transfer is over with the first.
-/

namespace Ebaz4205.FsblHandoff

open DriverProgram DriverProgram.Program FsblHooks

set_option autoImplicit false

section Packets

/-- The fields of a packet header of type 1, from the top. -/
@[ext] structure Header where
  packetType : BitVec 3
  opcode : BitVec 2
  register : BitVec 14
  reserved : BitVec 2
  wordCount : BitVec 11

def headerOf (word : U32) : Header where
  packetType := word.extractLsb' 29 3
  opcode := word.extractLsb' 27 2
  register := word.extractLsb' 13 14
  reserved := word.extractLsb' 11 2
  wordCount := word.extractLsb' 0 11

/-- The header is one of type 1 with these in its fields. -/
structure Header.Carries (header : Header) (register opCode size : U8) : Prop where
  packetType : header.packetType = 1
  opcode : header.opcode.toNat = opCode.toNat
  register : header.register.toNat = register.toNat
  reserved : header.reserved = 0
  wordCount : header.wordCount.toNat = size.toNat

variable {register opCode size : U8} {word other : U32}

theorem headerOf_injective : Function.Injective headerOf := by
  intro word other same
  have packetType := congrArg (fun header => header.packetType.toNat) same
  have opcode := congrArg (fun header => header.opcode.toNat) same
  have register := congrArg (fun header => header.register.toNat) same
  have reserved := congrArg (fun header => header.reserved.toNat) same
  have wordCount := congrArg (fun header => header.wordCount.toNat) same
  simp only [headerOf, BitVec.extractLsb'_toNat, Nat.shiftRight_eq_div_pow]
    at packetType opcode register reserved wordCount
  have bound := word.isLt
  have otherBound := other.isLt
  apply BitVec.eq_of_toNat_eq
  omega

/-- Only one word carries the fields. -/
theorem eq_of_carries (carries : (headerOf word).Carries register opCode size)
    (others : (headerOf other).Carries register opCode size) : word = other := by
  apply headerOf_injective
  apply Header.ext
  · rw [carries.packetType, others.packetType]
  · exact BitVec.eq_of_toNat_eq (carries.opcode.trans others.opcode.symm)
  · exact BitVec.eq_of_toNat_eq (carries.register.trans others.register.symm)
  · rw [carries.reserved, others.reserved]
  · exact BitVec.eq_of_toNat_eq (carries.wordCount.trans others.wordCount.symm)

/-- The header without the question whether the opcode fits. -/
def packed (register opCode size : U8) : U32 :=
  xdcType1 <<< xdcTypeShift ||| register.setWidth 32 <<< xdcRegisterShift
    ||| opCode.setWidth 32 <<< xdcOpShift ||| size.setWidth 32

/-- With an opcode of two bits the fields come out as they went in. A longer one would reach into
the type. -/
theorem headerOf_packed (small : opCode.toNat < 4) :
    headerOf (packed register opCode size) =
      ⟨1, opCode.setWidth 2, register.setWidth 14, 0, size.setWidth 11⟩ := by
  have high : ∀ position (bound : position < 8), 2 ≤ position → opCode[position] = false := by
    intro position bound above
    rw [← BitVec.getLsbD_eq_getElem]
    have wide : 2 ^ 2 ≤ 2 ^ position := Nat.pow_le_pow_right Nat.two_pos above
    exact Nat.testBit_lt_two_pow (small.trans_le wide)
  -- Bit by bit: each position of a field lies in one of the four parts, or in none.
  apply Header.ext <;>
  · apply BitVec.eq_of_getLsbD_eq
    intro position bound
    interval_cases position <;>
      simp [headerOf, packed, xdcType1, xdcTypeShift, xdcRegisterShift, xdcOpShift, high]

/-- The header carries its fields exactly if the opcode is one. -/
theorem header_carries_iff (register opCode size : U8) :
    (∃ word, xdcfgRegAddr register opCode size = some word ∧
      (headerOf word).Carries register opCode size) ↔ opCode.toNat < 4 := by
  constructor
  · rintro ⟨word, _, carries⟩
    rw [← carries.opcode]
    exact (headerOf word).opcode.isLt
  · intro small
    have inInt : opCode.toNat < 16 := by omega
    refine ⟨packed register opCode size, if_pos inInt, ?_⟩
    rw [headerOf_packed small]
    refine ⟨rfl, ?_, ?_, rfl, ?_⟩
    · exact (BitVec.toNat_setWidth 2 opCode).trans (Nat.mod_eq_of_lt small)
    · exact (BitVec.toNat_setWidth 14 register).trans
        (Nat.mod_eq_of_lt (register.isLt.trans (by decide)))
    · exact (BitVec.toNat_setWidth 11 size).trans (Nat.mod_eq_of_lt (size.isLt.trans (by decide)))

/-- A word that carries the fields is the one that the function makes of them. -/
theorem regAddr_of_carries (carries : (headerOf word).Carries register opCode size) :
    xdcfgRegAddr register opCode size = some word := by
  have small : opCode.toNat < 4 := by
    rw [← carries.opcode]
    exact (headerOf word).opcode.isLt
  obtain ⟨header, made, others⟩ := (header_carries_iff register opCode size).mpr small
  rw [made, eq_of_carries carries others]

end Packets

section Waits

variable {World : Type} {env : Environment hookSignature World} {masks : Masks} {world : World}
  {budget count : Nat} {after : Machine hookSignature World}

/-- Both bits that are waited for. -/
def Done (masks : Masks) (status : U32) : Prop :=
  Shows masks.dmaDone status ∧ Shows masks.dPDone status

instance (masks : Masks) : DecidablePred (Done masks) :=
  fun _ => inferInstanceAs (Decidable (_ ∧ _))

/-- The status that is read next, and after it so many more. -/
def statusAt (env : Environment hookSignature World) (world : World) (count : Nat) : U32 :=
  (env.respond .xdcfgIntrGetStatus (worldAfter env .xdcfgIntrGetStatus world count)).1

/-- What shows in the status stays there until it is cleared. -/
structure Sticky (env : Environment hookSignature World) (mask : U32) : Prop where
  read : ∀ world, Shows mask (statusAt env world 0) → Shows mask (statusAt env world 1)
  initiateDma : ∀ words world, Shows mask (statusAt env world 0) →
    Shows mask (statusAt env (env.respond (.xdcfgInitiateDma words)
      (env.respond .xdcfgIntrGetStatus world).2).2 0)

theorem shows_later {mask : U32} (sticky : Sticky env mask)
    (shows : Shows mask (statusAt env world count)) (more : Nat) :
    Shows mask (statusAt env world (count + more)) := by
  induction more with
  | zero => exact shows
  | succ more ih =>
      have next := sticky.read (worldAfter env .xdcfgIntrGetStatus world (count + more))
      rw [statusAt, worldAfter] at next
      have later := next ih
      rw [statusAt, ← worldAfter_add] at later
      exact later

/-- The first status with both bits is the one after so many others. -/
structure FirstDone (env : Environment hookSignature World) (masks : Masks) (world : World)
    (count : Nat) : Prop where
  done : Done masks (statusAt env world count)
  first : ∀ early < count, ¬Done masks (statusAt env world early)

/-- What the loops know after so many reads. -/
def known (env : Environment hookSignature World) (world : World) (count : Nat) : U32 :=
  @heard hookSignature World env .xdcfgIntrGetStatus (statusAt env world 0)
    (env.respond .xdcfgIntrGetStatus world).2 count

theorem known_eq (env : Environment hookSignature World) (world : World) (count : Nat) :
    known env world count = statusAt env world count := by
  cases count with
  | zero => rfl
  | succ count =>
      rw [known, heard_succ]
      rfl

/-- The wait for the one bit ends after `first` more reads, and then that for the other after
`second` more. -/
structure Waits (env : Environment hookSignature World) (masks : Masks) (world : World)
    (first second : Nat) : Prop where
  dmaDone : Shows masks.dmaDone (statusAt env world first)
  noDma : ∀ early < first, ¬Shows masks.dmaDone (statusAt env world early)
  dPDone : Shows masks.dPDone (statusAt env world (first + second))
  noDP : ∀ early < second, ¬Shows masks.dPDone (statusAt env world (first + early))

theorem firstDone_of_waits {first second : Nat} (sticky : Sticky env masks.dmaDone)
    (waits : Waits env masks world first second) : FirstDone env masks world (first + second) := by
  refine ⟨⟨shows_later sticky waits.dmaDone second, waits.dPDone⟩, ?_⟩
  intro early bound done
  by_cases before : early < first
  · exact waits.noDma early before done.1
  · obtain ⟨more, rfl⟩ := Nat.exists_eq_add_of_le (Nat.not_lt.mp before)
    exact waits.noDP more (by omega) done.2

theorem waits_of_done (done : Done masks (statusAt env world count)) :
    ∃ first second, Waits env masks world first second := by
  have someDma : ∃ first, Shows masks.dmaDone (statusAt env world first) := ⟨count, done.1⟩
  have front : Nat.find someDma ≤ count := Nat.find_min' someDma done.1
  have someDP : ∃ second, Shows masks.dPDone (statusAt env world (Nat.find someDma + second)) := by
    refine ⟨count - Nat.find someDma, ?_⟩
    rw [Nat.add_sub_cancel' front]
    exact done.2
  exact ⟨Nat.find someDma, Nat.find someDP, Nat.find_spec someDma,
    fun early bound => Nat.find_min someDma bound, Nat.find_spec someDP,
    fun early bound => Nat.find_min someDP bound⟩

/-- From the first wait on, what the second knows is read one by one. -/
theorem known_add (env : Environment hookSignature World) (world : World) (first second : Nat) :
    @heard hookSignature World env .xdcfgIntrGetStatus (statusAt env world first)
        (worldAfter env .xdcfgIntrGetStatus world (first + 1)) second =
      statusAt env world (first + second) := by
  rw [← known_eq, ← known_eq, known, known, heard_add]
  rfl

theorem heard_first {first second : Nat} (waits : Waits env masks world first second) :
    @Heard hookSignature World env .xdcfgIntrGetStatus (Shows masks.dmaDone) (statusAt env world 0)
      (worldAfter env .xdcfgIntrGetStatus world 1) first := by
  constructor
  · rw [known_add, Nat.zero_add]
    exact waits.dmaDone
  · intro early bound
    rw [known_add, Nat.zero_add]
    exact waits.noDma early bound

theorem heard_second {first second : Nat} (waits : Waits env masks world first second) :
    @Heard hookSignature World env .xdcfgIntrGetStatus (Shows masks.dPDone)
      (statusAt env world first) (worldAfter env .xdcfgIntrGetStatus world (first + 1)) second := by
  constructor
  · rw [known_add]
    exact waits.dPDone
  · intro early bound
    rw [known_add]
    exact waits.noDP early bound

theorem pollDone_of_waits {first second : Nat} (waits : Waits env masks world first second)
    (firstBudget : first < budget) (secondBudget : second < budget) :
    (pollDone masks budget).exec env ⟨(), world⟩ =
        (.returned (statusAt env world (first + second)),
          ⟨(), worldAfter env .xdcfgIntrGetStatus world (first + second + 1)⟩) ∧
      (pollDone masks budget).exchanges env ⟨(), world⟩ =
        (List.range (first + second + 1)).map fun early =>
          ⟨.xdcfgIntrGetStatus, statusAt env world early⟩ := by
  obtain ⟨firstRan, firstSent⟩ := @askUntil_of_heard hookSignature World env .xdcfgIntrGetStatus
    (Shows masks.dmaDone) _ _ ⟨(), worldAfter env .xdcfgIntrGetStatus world 1⟩ budget first
    (heard_first waits) firstBudget
  obtain ⟨secondRan, secondSent⟩ := @askUntil_of_heard hookSignature World env .xdcfgIntrGetStatus
    (Shows masks.dPDone) _ _ ⟨(), worldAfter env .xdcfgIntrGetStatus world (first + 1)⟩
      budget second
    (heard_second waits) secondBudget
  have between :
    worldAfter env .xdcfgIntrGetStatus (worldAfter env .xdcfgIntrGetStatus world 1) first =
      worldAfter env .xdcfgIntrGetStatus world (first + 1) := by
    rw [← worldAfter_add, Nat.add_comm]
  have atEnd : worldAfter env .xdcfgIntrGetStatus
      (worldAfter env .xdcfgIntrGetStatus world (first + 1)) second =
      worldAfter env .xdcfgIntrGetStatus world (first + second + 1) := by
    rw [← worldAfter_add, Nat.add_right_comm]
  simp only [known_add, Nat.zero_add, between, atEnd] at firstRan firstSent secondRan secondSent
  constructor
  · change ((pollMask masks.dmaDone budget (statusAt env world 0)).bind
      (pollMask masks.dPDone budget)).exec env ⟨(), worldAfter env .xdcfgIntrGetStatus world 1⟩ = _
    rw [exec_bind, pollMask, firstRan]
    exact secondRan
  · change _ :: ((pollMask masks.dmaDone budget (statusAt env world 0)).bind
      (pollMask masks.dPDone budget)).exchanges env
        ⟨(), worldAfter env .xdcfgIntrGetStatus world 1⟩ = _
    rw [exchanges_bind, pollMask, firstSent, firstRan, followedBy, pollMask, secondSent,
      List.range_succ_eq_map, List.range_add, List.map_cons, List.map_map, List.map_append,
      List.map_map]
    rfl

theorem waits_of_pollDone {result : U32}
    (ran : (pollDone masks budget).exec env ⟨(), world⟩ = (.returned result, after)) :
    ∃ first < budget, ∃ second < budget, Waits env masks world first second := by
  change ((pollMask masks.dmaDone budget (statusAt env world 0)).bind
    (pollMask masks.dPDone budget)).exec env
      ⟨(), worldAfter env .xdcfgIntrGetStatus world 1⟩ = _ at ran
  obtain ⟨status, middle, firstRan, secondRan⟩ := exec_bind_returned ran
  rw [pollMask] at firstRan secondRan
  obtain ⟨first, firstBudget, firstHeard⟩ := heard_of_returned firstRan
  have ranAgain := (askUntil_of_heard firstHeard firstBudget).1
  rw [firstRan, Prod.mk.injEq, Outcome.returned.injEq] at ranAgain
  obtain ⟨rfl, rfl⟩ := ranAgain
  obtain ⟨second, secondBudget, secondHeard⟩ := heard_of_returned secondRan
  have between :
    worldAfter env .xdcfgIntrGetStatus (worldAfter env .xdcfgIntrGetStatus world 1) first =
      worldAfter env .xdcfgIntrGetStatus world (first + 1) := by
    rw [← worldAfter_add, Nat.add_comm]
  have dmaDone := firstHeard.suits
  have noDma := firstHeard.first
  have dPDone := secondHeard.suits
  have noDP := secondHeard.first
  simp only [between, known_add, Nat.zero_add] at dmaDone noDma dPDone noDP
  exact ⟨first, firstBudget, second, secondBudget, dmaDone, noDma, dPDone, noDP⟩

end Waits

section ReadOut

variable {World : Type} {env : Environment hookSignature World} {masks : Masks} {world : World}

/-- The request that clears the status. -/
def clearing (masks : Masks) : HookCall :=
  .xdcfgIntrClear (masks.pcfgDone ||| masks.dPDone ||| masks.dmaDone)

def cleared (env : Environment hookSignature World) (masks : Masks) (world : World) : World :=
  (env.respond (clearing masks) world).2

def statusReg (env : Environment hookSignature World) (masks : Masks) (world : World) : U32 :=
  (env.respond .xdcfgReadStatus (cleared env masks world)).1

def transferring (env : Environment hookSignature World) (masks : Masks) (header : U32)
    (world : World) : World :=
  (env.respond (.xdcfgTransfer (readWords header))
    (env.respond .xdcfgReadStatus (cleared env masks world)).2).2

/-- The status after the second transfer was started. -/
def lastStatus (env : Environment hookSignature World) (masks : Masks) (header : U32)
    (world : World) (count : Nat) : U32 :=
  statusAt env (env.respond (.xdcfgInitiateDma desyncWords)
    (worldAfter env .xdcfgIntrGetStatus (transferring env masks header world) (count + 1))).2 0

/-- The two ends of a read-out. Behind the second transfer the status is looked at once. -/
inductive ReadsRegister (env : Environment hookSignature World) (masks : Masks) (configReg : U32)
    (world : World) : Int → List (Exchange hookSignature) → Prop where
  | full (full : Shows masks.dmaCmdQF (statusReg env masks world)) :
      ReadsRegister env masks configReg world xstFailure
        [⟨clearing masks, ()⟩, ⟨.xdcfgReadStatus, statusReg env masks world⟩]
  | read (header : U32) (count : Nat)
      (carries : (headerOf header).Carries (configReg.setWidth 8) opcodeRead 1)
      (free : ¬Shows masks.dmaCmdQF (statusReg env masks world))
      (first : FirstDone env masks (transferring env masks header world) count) :
      ReadsRegister env masks configReg world xstSuccess
        (⟨clearing masks, ()⟩ :: ⟨.xdcfgReadStatus, statusReg env masks world⟩ ::
          ⟨.xdcfgTransfer (readWords header), ()⟩ :: ((List.range (count + 1)).map (fun early =>
            ⟨.xdcfgIntrGetStatus, statusAt env (transferring env masks header world) early⟩) ++
          [⟨.xdcfgInitiateDma desyncWords, ()⟩,
            ⟨.xdcfgIntrGetStatus, lastStatus env masks header world count⟩]))

/-- What the function does when the queue has room. -/
def transfers (masks : Masks) (budget : Nat) : HookProgram Int :=
  (pollDone masks budget).bind fun _ => (hookCall (.xdcfgInitiateDma desyncWords)).bind fun _ =>
    (pollDone masks budget).bind fun _ => .done xstSuccess

theorem getConfigReg_full (budget : Nat) (configReg : U32)
    (full : Shows masks.dmaCmdQF (statusReg env masks world)) : ∃ after,
      (xdcfgGetConfigReg masks budget configReg).exec env ⟨(), world⟩ =
        (.returned xstFailure, after) ∧
      (xdcfgGetConfigReg masks budget configReg).exchanges env ⟨(), world⟩ =
        [⟨clearing masks, ()⟩, ⟨.xdcfgReadStatus, statusReg env masks world⟩] := by
  refine ⟨⟨(), (env.respond .xdcfgReadStatus (cleared env masks world)).2⟩, ?_, ?_⟩
  · change Program.exec env
      (if Shows masks.dmaCmdQF (statusReg env masks world) then _ else _) _ = _
    rw [if_pos full]
    rfl
  · change _ :: _ :: Program.exchanges env
      (if Shows masks.dmaCmdQF (statusReg env masks world) then _ else _) _ = _
    rw [if_pos full]
    rfl

theorem getConfigReg_free (budget : Nat) {configReg header : U32}
    (carries : (headerOf header).Carries (configReg.setWidth 8) opcodeRead 1)
    (free : ¬Shows masks.dmaCmdQF (statusReg env masks world)) :
    (xdcfgGetConfigReg masks budget configReg).exec env ⟨(), world⟩ =
        (transfers masks budget).exec env ⟨(), transferring env masks header world⟩ ∧
      (xdcfgGetConfigReg masks budget configReg).exchanges env ⟨(), world⟩ =
        ⟨clearing masks, ()⟩ :: ⟨.xdcfgReadStatus, statusReg env masks world⟩ ::
          ⟨.xdcfgTransfer (readWords header), ()⟩ ::
            (transfers masks budget).exchanges env ⟨(), transferring env masks header world⟩ := by
  rw [xdcfgGetConfigReg, regAddr_of_carries carries]
  constructor
  · change Program.exec env
      (if Shows masks.dmaCmdQF (statusReg env masks world) then _ else _) _ = _
    rw [if_neg free]
    rfl
  · change _ :: _ :: Program.exchanges env
      (if Shows masks.dmaCmdQF (statusReg env masks world) then _ else _) _ = _
    rw [if_neg free]
    rfl

/-- Right behind the second transfer the status is still that of the first. -/
theorem waits_again {count : Nat} {words : List U32} (sticky : Sticky env masks.dmaDone)
    (stickyDP : Sticky env masks.dPDone) (done : Done masks (statusAt env world count)) :
    Waits env masks (env.respond (.xdcfgInitiateDma words)
      (worldAfter env .xdcfgIntrGetStatus world (count + 1))).2 0 0 := by
  have next : worldAfter env .xdcfgIntrGetStatus world (count + 1) =
      (env.respond .xdcfgIntrGetStatus (worldAfter env .xdcfgIntrGetStatus world count)).2 := by
    rw [worldAfter_add]
    rfl
  rw [next]
  exact ⟨sticky.initiateDma words _ done.1, fun early bound => absurd bound (Nat.not_lt_zero early),
    stickyDP.initiateDma words _ done.2, fun early bound => absurd bound (Nat.not_lt_zero early)⟩

theorem transfers_of_waits {budget first second : Nat} (sticky : Sticky env masks.dmaDone)
    (stickyDP : Sticky env masks.dPDone) (waits : Waits env masks world first second)
    (firstBudget : first < budget) (secondBudget : second < budget) : ∃ after,
      (transfers masks budget).exec env ⟨(), world⟩ = (.returned xstSuccess, after) ∧
      (transfers masks budget).exchanges env ⟨(), world⟩ =
        (List.range (first + second + 1)).map (fun early =>
            ⟨.xdcfgIntrGetStatus, statusAt env world early⟩) ++
          [⟨.xdcfgInitiateDma desyncWords, ()⟩, ⟨.xdcfgIntrGetStatus,
            statusAt env (env.respond (.xdcfgInitiateDma desyncWords)
              (worldAfter env .xdcfgIntrGetStatus world (first + second + 1))).2 0⟩] := by
  obtain ⟨ran, sent⟩ := pollDone_of_waits waits firstBudget secondBudget
  have done := (firstDone_of_waits sticky waits).done
  have again := @waits_again _ _ _ _ _ desyncWords sticky stickyDP done
  obtain ⟨ranAgain, sentAgain⟩ := pollDone_of_waits again (Nat.zero_lt_of_lt firstBudget)
    (Nat.zero_lt_of_lt firstBudget)
  refine ⟨⟨(), worldAfter env .xdcfgIntrGetStatus (env.respond (.xdcfgInitiateDma desyncWords)
    (worldAfter env .xdcfgIntrGetStatus world (first + second + 1))).2 1⟩, ?_, ?_⟩
  · rw [transfers, exec_bind, ran]
    change Program.exec env ((pollDone masks budget).bind _) ⟨(), _⟩ = _
    rw [exec_bind, ranAgain]
    rfl
  · rw [transfers, exchanges_bind, ran, sent]
    refine congrArg (_ ++ ·) ?_
    change _ :: Program.exchanges env ((pollDone masks budget).bind _) ⟨(), _⟩ = _
    rw [exchanges_bind, ranAgain, sentAgain]
    rfl

theorem reads_of_returned {budget : Nat} {configReg : U32} {code : Int}
    {after : Machine hookSignature World} (sticky : Sticky env masks.dmaDone)
    (stickyDP : Sticky env masks.dPDone)
    (ran : (xdcfgGetConfigReg masks budget configReg).exec env ⟨(), world⟩ =
      (.returned code, after)) :
    ReadsRegister env masks configReg world code
      ((xdcfgGetConfigReg masks budget configReg).exchanges env ⟨(), world⟩) := by
  by_cases full : Shows masks.dmaCmdQF (statusReg env masks world)
  · obtain ⟨last, failed, sent⟩ := getConfigReg_full budget configReg full
    rw [ran, Prod.mk.injEq, Outcome.returned.injEq] at failed
    rw [failed.1, sent]
    exact .full full
  · obtain ⟨header, _, carries⟩ :=
      (header_carries_iff (configReg.setWidth 8) opcodeRead 1).mpr (by decide)
    obtain ⟨same, sent⟩ := getConfigReg_free budget carries full
    rw [same] at ran
    obtain ⟨status, middle, waited, _⟩ := exec_bind_returned ran
    obtain ⟨first, firstBudget, second, secondBudget, waits⟩ := waits_of_pollDone waited
    obtain ⟨last, succeeded, rest⟩ :=
      transfers_of_waits sticky stickyDP waits firstBudget secondBudget
    rw [ran, Prod.mk.injEq, Outcome.returned.injEq] at succeeded
    rw [succeeded.1, sent, rest]
    exact .read header (first + second) carries full (firstDone_of_waits sticky waits)

theorem returned_of_reads {configReg : U32} {code : Int} {log : List (Exchange hookSignature)}
    (sticky : Sticky env masks.dmaDone) (stickyDP : Sticky env masks.dPDone)
    (reads : ReadsRegister env masks configReg world code log) : ∃ budget after,
      (xdcfgGetConfigReg masks budget configReg).exec env ⟨(), world⟩ = (.returned code, after) ∧
        (xdcfgGetConfigReg masks budget configReg).exchanges env ⟨(), world⟩ = log := by
  cases reads with
  | full full =>
      obtain ⟨after, failed, sent⟩ := getConfigReg_full 0 configReg full
      exact ⟨0, after, failed, sent⟩
  | read header count carries free firstDone =>
      obtain ⟨first, second, waits⟩ := waits_of_done firstDone.done
      have same : first + second = count := by
        have other := firstDone_of_waits sticky waits
        rcases Nat.lt_trichotomy (first + second) count with early | same | late
        · exact absurd other.done (firstDone.first _ early)
        · exact same
        · exact absurd firstDone.done (other.first _ late)
      obtain ⟨after, succeeded, rest⟩ := transfers_of_waits sticky stickyDP waits
        (by omega : first < count + 1) (by omega : second < count + 1)
      obtain ⟨ran, sent⟩ := getConfigReg_free (count + 1) carries free
      refine ⟨count + 1, after, ran.trans succeeded, ?_⟩
      rw [sent, rest, same]
      rfl

/-- Where the status keeps its bits, a read-out returns exactly if the queue is full or the
first transfer gets done, and what it sends is this, with the header of a read of one word. -/
theorem register_read_iff (sticky : Sticky env masks.dmaDone) (stickyDP : Sticky env masks.dPDone)
    (configReg : U32) (world : World) (code : Int) (log : List (Exchange hookSignature)) :
    (∃ budget after,
      (xdcfgGetConfigReg masks budget configReg).exec env ⟨(), world⟩ = (.returned code, after) ∧
        (xdcfgGetConfigReg masks budget configReg).exchanges env ⟨(), world⟩ = log) ↔
      ReadsRegister env masks configReg world code log := by
  constructor
  · rintro ⟨budget, after, ran, rfl⟩
    exact reads_of_returned sticky stickyDP ran
  · exact returned_of_reads sticky stickyDP

/-- An interface with a bit each that is done with every transfer at the third read. -/
def interface : Environment hookSignature Nat where
  respond := fun request reads =>
    match request with
    | .xdcfgIntrGetStatus => (if 2 ≤ reads then 0x3000 else 0, reads + 1)
    | .xdcfgReadStatus => (0, reads)
    | .xdcfgLookupConfig => (true, reads)
    | .xdcfgCfgInitialize => ((0 : Int), reads)
    | .xdcfgSelfTest => ((0 : Int), reads)
    | .loadValueBack => (0x03722093, reads)
    | .xAxiVdmaLookupConfig => (false, reads)
    | .xAxiVdmaCfgInitialize => ((0 : Int), reads)
    | .xAxiVdmaDmaConfig _ => ((0 : Int), reads)
    | .xAxiVdmaDmaSetBufferAddr _ => ((0 : Int), reads)
    | .xAxiVdmaDmaStart => ((0 : Int), reads)
    | .xdcfgIntrClear _ | .xdcfgTransfer _ | .xdcfgInitiateDma _ | .xilPrintf _ _ => ((), reads)

def interfaceMasks : Masks := ⟨0x4, 0x1000, 0x2000, 0x80000000⟩

theorem sticky_interface (mask : U32) (nonzero : ¬Shows mask 0) : Sticky interface mask := by
  have late : ∀ reads, Shows mask (statusAt interface reads 0) → 2 ≤ reads := by
    intro reads shows
    by_contra early
    change Shows mask (if 2 ≤ reads then 0x3000 else 0) at shows
    rw [if_neg early] at shows
    exact nonzero shows
  have next : ∀ reads, Shows mask (statusAt interface reads 0) →
      Shows mask (statusAt interface (reads + 1) 0) := by
    intro reads shows
    have done := late reads shows
    change Shows mask (if 2 ≤ reads then 0x3000 else 0) at shows
    change Shows mask (if 2 ≤ reads + 1 then 0x3000 else 0)
    rw [if_pos done] at shows
    rw [if_pos (by omega)]
    exact shows
  exact ⟨next, fun _ => next⟩

theorem interface_read :
    ReadsRegister interface interfaceMasks idcode 0 xstSuccess
      ((xdcfgGetConfigReg interfaceMasks 3 idcode).exchanges interface ⟨(), 0⟩) :=
  (register_read_iff (sticky_interface 0x2000 (by decide)) (sticky_interface 0x1000 (by decide))
    idcode 0 xstSuccess _).mp ⟨3, ⟨(), 4⟩, rfl, rfl⟩

end ReadOut

section Handoff

theorem completes_hookCall (call : HookCall) : Completes (hookCall call) 1 fun _ => True :=
  @completes_request hookSignature call

theorem completes_check {condition : Prop} [Decidable condition] {rest : HookProgram Int}
    {cost : Nat} (completes : Completes rest cost fun _ => True) :
    Completes (if condition then (pure xstFailure : HookProgram Int) else rest) cost
      fun _ => True := by
  have failed : Completes (pure xstFailure : HookProgram Int) 0 fun _ => True :=
    completes_done trivial
  exact completes_if (fun _ => completes_mono failed (Nat.zero_le cost) fun _ _ => trivial)
    fun _ => completes

theorem completes_vdmaOutStart : Completes vdmaOutStart (1 + 0) fun _ => True :=
  completes_bind (completes_hookCall _) fun _ _ => completes_check (completes_done trivial)

/-- Whatever the display answers, its start comes to an end. -/
theorem completes_vdmaOutInit (baseAddress hWidth vWidth bpp : Int) :
    Completes (vdmaOutInit baseAddress hWidth vWidth bpp) (1 + (1 + (1 + (1 + (1 + 0 + 0)))))
      fun _ => True := by
  refine completes_bind (completes_hookCall _) fun found _ => completes_check ?_
  refine completes_bind (completes_hookCall _) fun status _ => completes_check ?_
  refine completes_bind (completes_hookCall _) fun configured _ => completes_check ?_
  refine completes_bind (completes_hookCall _) fun addressed _ => completes_check ?_
  refine completes_bind completes_vdmaOutStart fun started _ => ?_
  exact completes_if (fun _ => completes_done trivial) fun _ => completes_done trivial

/-- The hook reports success, and nothing else, whenever the identification returns with
whatever status; the start of the display is not asked how it went. -/
theorem handoff_returned_iff {World : Type} (env : Environment hookSignature World) (masks : Masks)
    (budget : Nat) (machine : Machine hookSignature World) (code : Int) :
    (∃ after, (teFsblHookBeforeHandoff masks budget).exec env machine = (.returned code, after)) ↔
      code = xstSuccess ∧
        ∃ status after, (teReadIdcode masks budget).exec env machine =
          (.returned status, after) := by
  have custom : ∀ middle, ∃ after,
      teFsblHookBeforeHandoffCustom.exec env middle = (.returned xstSuccess, after) := by
    intro middle
    obtain ⟨status, after, ran, _⟩ :=
      (completes_vdmaOutInit hdmiFbAddr 480 272 2).returns World env middle
    refine ⟨after, ?_⟩
    change (Program.bind _ _).exec env middle = _
    rw [exec_bind, ran]
    rfl
  constructor
  · rintro ⟨after, ran⟩
    obtain ⟨status, middle, identified, handed⟩ := exec_bind_returned ran
    obtain ⟨last, succeeded⟩ := custom middle
    rw [handed, Prod.mk.injEq, Outcome.returned.injEq] at succeeded
    exact ⟨succeeded.1, status, middle, identified⟩
  · rintro ⟨rfl, status, middle, identified⟩
    obtain ⟨last, succeeded⟩ := custom middle
    refine ⟨last, ?_⟩
    change (Program.bind _ _).exec env machine = _
    rw [exec_bind, identified]
    exact succeeded

variable {World : Type} {env : Environment hookSignature World} {masks : Masks}

/-- After the lookup of the configuration, after the initialization, and after the self test. -/
def lookedUp (env : Environment hookSignature World) (world : World) : World :=
  (env.respond .xdcfgLookupConfig world).2

def initialized (env : Environment hookSignature World) (world : World) : World :=
  (env.respond .xdcfgCfgInitialize (lookedUp env world)).2

def tested (env : Environment hookSignature World) (world : World) : World :=
  (env.respond .xdcfgSelfTest (initialized env world)).2

/-- The header of the packet that reads the identification code. -/
def idcodeHeader : U32 := 0x28018001

theorem idcodeHeader_carries :
    (headerOf idcodeHeader).Carries (idcode.setWidth 8) opcodeRead 1 :=
  ⟨rfl, rfl, rfl, rfl, rfl⟩

/-- There is a configuration, and one of the steps to the identification code fails or the
transfer that reads it gets done. -/
structure GetsOn (env : Environment hookSignature World) (masks : Masks) (world : World) :
    Prop where
  found : (env.respond .xdcfgLookupConfig world).1 = true
  ends : (env.respond .xdcfgCfgInitialize (lookedUp env world)).1 ≠ xstSuccess ∨
    (env.respond .xdcfgSelfTest (initialized env world)).1 ≠ xstSuccess ∨
    Shows masks.dmaCmdQF (statusReg env masks (tested env world)) ∨
    ∃ count, Done masks
      (statusAt env (transferring env masks idcodeHeader (tested env world)) count)

/-- What comes behind the self test. -/
def identify (masks : Masks) (budget : Nat) : HookProgram Int := do
  let status ← xdcfgGetConfigReg masks budget idcode
  if status ≠ xstSuccess then return xstFailure
  let valueBack ← hookCall .loadValueBack
  printDevice valueBack
  return xstSuccess

theorem exec_teReadIdcode (budget : Nat) (world : World) :
    (teReadIdcode masks budget).exec env ⟨(), world⟩ =
      if (!(env.respond .xdcfgLookupConfig world).1) = true then
        (.undefined, ⟨(), lookedUp env world⟩)
      else if (env.respond .xdcfgCfgInitialize (lookedUp env world)).1 ≠ xstSuccess then
        (.returned xstFailure, ⟨(), initialized env world⟩)
      else if (env.respond .xdcfgSelfTest (initialized env world)).1 ≠ xstSuccess then
        (.returned xstFailure, ⟨(), tested env world⟩)
      else (identify masks budget).exec env ⟨(), tested env world⟩ := by
  change Program.exec env
    (if (!(env.respond .xdcfgLookupConfig world).1) = true then _ else _) _ = _
  split_ifs with missing initFailed testFailed
  · rfl
  · change Program.exec env
      (if (env.respond .xdcfgCfgInitialize (lookedUp env world)).1 ≠ xstSuccess then _ else _) _ = _
    rw [if_pos initFailed]
    rfl
  · change Program.exec env
      (if (env.respond .xdcfgCfgInitialize (lookedUp env world)).1 ≠ xstSuccess then _ else _) _ = _
    rw [if_neg initFailed]
    change Program.exec env
      (if (env.respond .xdcfgSelfTest (initialized env world)).1 ≠ xstSuccess then _ else _) _ = _
    rw [if_pos testFailed]
    rfl
  · change Program.exec env
      (if (env.respond .xdcfgCfgInitialize (lookedUp env world)).1 ≠ xstSuccess then _ else _) _ = _
    rw [if_neg initFailed]
    change Program.exec env
      (if (env.respond .xdcfgSelfTest (initialized env world)).1 ≠ xstSuccess then _ else _) _ = _
    rw [if_neg testFailed]
    rfl

theorem identify_returns_iff (sticky : Sticky env masks.dmaDone)
    (stickyDP : Sticky env masks.dPDone) (world : World) :
    (∃ budget status after,
      (identify masks budget).exec env ⟨(), world⟩ = (.returned status, after)) ↔
      Shows masks.dmaCmdQF (statusReg env masks world) ∨
        ∃ count, Done masks (statusAt env (transferring env masks idcodeHeader world) count) := by
  constructor
  · rintro ⟨budget, status, after, ran⟩
    obtain ⟨code, middle, read, _⟩ := exec_bind_returned ran
    have reads := reads_of_returned sticky stickyDP read
    generalize Program.exchanges env _ _ = log at reads
    cases reads with
    | full full => exact Or.inl full
    | read header count carries free first =>
        rw [eq_of_carries carries idcodeHeader_carries] at first
        exact Or.inr ⟨count, first.done⟩
  · intro ends
    have reads : ∃ code log, ReadsRegister env masks idcode world code log := by
      by_cases full : Shows masks.dmaCmdQF (statusReg env masks world)
      · exact ⟨_, _, .full full⟩
      · obtain ⟨count, done⟩ := ends.resolve_left full
        obtain ⟨first, second, waits⟩ := waits_of_done done
        exact ⟨_, _, .read idcodeHeader (first + second) idcodeHeader_carries full
          (firstDone_of_waits sticky waits)⟩
    obtain ⟨code, log, reads⟩ := reads
    obtain ⟨budget, middle, read, _⟩ := returned_of_reads sticky stickyDP reads
    by_cases failed : code ≠ xstSuccess
    · refine ⟨budget, xstFailure, middle, ?_⟩
      change (Program.bind _ _).exec env _ = _
      rw [exec_bind, read]
      change Program.exec env (if code ≠ xstSuccess then _ else _) _ = _
      rw [if_pos failed]
      rfl
    · refine ⟨budget, xstSuccess, (((hookCall .loadValueBack).bind fun valueBack =>
        (printDevice valueBack).bind fun _ => .done xstSuccess).exec env middle).2, ?_⟩
      change (Program.bind _ _).exec env _ = _
      rw [exec_bind, read]
      change Program.exec env (if code ≠ xstSuccess then _ else _) _ = _
      rw [if_neg failed]
      rfl

/-- The hook has a code exactly if that is the one for success and the identification ends. -/
theorem handoff_identified_iff (code : Int) (world : World) :
    (∃ budget after,
      (teFsblHookBeforeHandoff masks budget).exec env ⟨(), world⟩ = (.returned code, after)) ↔
      code = xstSuccess ∧ ∃ budget status after,
        (teReadIdcode masks budget).exec env ⟨(), world⟩ = (.returned status, after) := by
  rw [← exists_and_left]
  apply exists_congr
  intro budget
  exact handoff_returned_iff env masks budget ⟨(), world⟩ code

/-- The boot loader gets past its hook exactly if the identification ends in one of these ways,
and then always with success. -/
theorem handoff_returns_iff (sticky : Sticky env masks.dmaDone) (stickyDP : Sticky env masks.dPDone)
    (world : World) (code : Int) :
    (∃ budget after,
      (teFsblHookBeforeHandoff masks budget).exec env ⟨(), world⟩ = (.returned code, after)) ↔
      code = xstSuccess ∧ GetsOn env masks world := by
  rw [handoff_identified_iff]
  apply and_congr_right
  intro _
  have identified := identify_returns_iff sticky stickyDP (tested env world)
  constructor
  · rintro ⟨budget, status, after, ran⟩
    rw [exec_teReadIdcode] at ran
    split_ifs at ran with missing initFailed testFailed
    · cases ran
    · have found : (env.respond .xdcfgLookupConfig world).1 = true := by simpa using missing
      exact ⟨found, Or.inl initFailed⟩
    · have found : (env.respond .xdcfgLookupConfig world).1 = true := by simpa using missing
      exact ⟨found, Or.inr (Or.inl testFailed)⟩
    · have found : (env.respond .xdcfgLookupConfig world).1 = true := by simpa using missing
      exact ⟨found, Or.inr (Or.inr (identified.mp ⟨budget, status, after, ran⟩))⟩
  · rintro ⟨found, ends⟩
    have present : ¬(!(env.respond .xdcfgLookupConfig world).1) = true := by
      rw [found]
      decide
    by_cases initFailed : (env.respond .xdcfgCfgInitialize (lookedUp env world)).1 ≠ xstSuccess
    · exact ⟨0, xstFailure, ⟨(), initialized env world⟩, by
        rw [exec_teReadIdcode, if_neg present, if_pos initFailed]⟩
    · by_cases testFailed : (env.respond .xdcfgSelfTest (initialized env world)).1 ≠ xstSuccess
      · exact ⟨0, xstFailure, ⟨(), tested env world⟩, by
          rw [exec_teReadIdcode, if_neg present, if_neg initFailed, if_pos testFailed]⟩
      · obtain ⟨budget, status, after, ran⟩ :=
          identified.mpr ((ends.resolve_left initFailed).resolve_left testFailed)
        refine ⟨budget, status, after, ?_⟩
        rw [exec_teReadIdcode, if_neg present, if_neg initFailed, if_neg testFailed, ran]

theorem interface_getsOn : GetsOn interface interfaceMasks 0 :=
  ⟨rfl, Or.inr (Or.inr (Or.inr ⟨2, by decide⟩))⟩

/-- The loader gets past the interface, and it is not told of a failure. -/
theorem interface_handoff :
    (∃ budget after, (teFsblHookBeforeHandoff interfaceMasks budget).exec interface ⟨(), 0⟩ =
        (.returned xstSuccess, after)) ∧
      ¬∃ budget after, (teFsblHookBeforeHandoff interfaceMasks budget).exec interface ⟨(), 0⟩ =
        (.returned xstFailure, after) := by
  have returns := @handoff_returns_iff Nat interface interfaceMasks
    (sticky_interface 0x2000 (by decide)) (sticky_interface 0x1000 (by decide)) 0
  constructor
  · exact (returns xstSuccess).mpr ⟨rfl, interface_getsOn⟩
  · intro failed
    exact absurd ((returns xstFailure).mp failed).1 (by decide)

end Handoff

end Ebaz4205.FsblHandoff
