import Ebaz4205.FloppyDumpPlacement

/-!
# When a dump ends

The loop of `floppy_dump_track` counts nothing: it goes on until INDEX has been
asserted, deasserted and asserted again, and stores what it reads meanwhile. So
the dump ends on those streams only that show one revolution which the buffer
can hold.
-/

namespace Ebaz4205.FloppyDumpEnd

open DriverProgram DriverProgram.Program FloppyHeadTracking FloppyRevolution FloppySignalProtocol
open FloppyTrackDecoding FloppyDumpPlacement KswfloppyDriver KswfloppyModule PulsecapDriver

set_option autoImplicit false

variable {size : Nat}

/-- There is an end of the revolution, and before it fewer bits than make a full byte
too many for the buffer. -/
def ShowsRevolution (samples : Nat → Sample) : Prop :=
  ∃ ends, phase samples ends = .ended ∧ (taken samples ends).length < 8 * 16001

/-- A dump of a track that there is comes to its end, and has then stopped the motor
and deselected the drive. -/
def Leaves (track : U32) (machine : SampledMachine dumpSize) : Prop :=
  track.toNat < floppyTracks → ∃ budget last before,
    (floppyDumpTrack budget track).exec (sampledDrive dumpSize) machine = (.returned 0, last) ∧
      setCalls (sampledDrive dumpSize) machine (floppyDumpTrack budget track) =
        before ++ [(.moteb, false), (.drvsb, false)]

section Loop

variable {samples : Nat → Sample} {count : Nat} {start : Fin size → Byte} {locals : DumpLocals}
  {machine : SampledMachine size}

theorem fits_of_le {later : Nat} (before : count ≤ later) (fits : Fits size samples later) :
    Fits size samples count := by
  have bytes : fullBytes samples count ≤ fullBytes samples later := fullBytes_mono before
  unfold Fits at fits ⊢
  omega

/-- The loop runs to the end of a revolution that fits, and not further. -/
theorem dumpLoop_completes (steps budget : Nat) (enough : steps < budget)
    (progress : Progress samples count start locals machine)
    (ended : phase samples (count + steps) = .ended) (fits : Fits size samples (count + steps))
    (small : size ≤ 4294967294) :
    ∃ final last, (dumpLoop budget locals).exec (sampledDrive size) machine =
      (.returned final, last) := by
  induction steps generalizing count locals machine budget with
  | zero =>
      cases budget with
      | zero => exact absurd enough (Nat.not_lt_zero _)
      | succ budget =>
          rw [dumpLoop_ended progress ended]
          exact ⟨locals, machine, rfl⟩
  | succ steps ih =>
      cases budget with
      | zero => exact absurd enough (Nat.not_lt_zero _)
      | succ budget =>
          by_cases already : phase samples count = .ended
          · rw [dumpLoop_ended progress already]
            exact ⟨locals, machine, rfl⟩
          · obtain ⟨next, after, executed, _, progressed⟩ :=
              iteration_progress progress already (fits_of_le (by omega) fits) small
            rw [dumpLoop_succ ((running_iff progress).mpr already), exec_bind, executed]
            rw [← Nat.add_assoc, Nat.add_right_comm] at ended fits
            exact ih budget (Nat.lt_of_succ_lt_succ enough) progressed ended fits

end Loop

section Dumps

variable {track : U32}

/-- The last lines that a dump writes, in front of any drive. -/
theorem setCalls_dump {World : Type} {env : Environment (floppySignature size) World}
    (legal : track.toNat < floppyTracks) {budget : Nat} {code : Int}
    {machine last : Machine (floppySignature size) World}
    (ran : (floppyDumpTrack budget track).exec env machine = (.returned code, last)) :
    ∃ before, setCalls env machine (floppyDumpTrack budget track) =
      before ++ [(.moteb, false), (.drvsb, false)] := by
  have parts : (floppyDumpTrack budget track : FloppyProgram size Int) =
      ((approach budget track).bind fun _ => dumpLoop budget .initial).bind fun locals =>
        (finishDump locals).bind fun report => .done report.1 := by
    rw [floppyDumpTrack_eq, dumpTrackReport_legal legal]
    simp only [Program.bind_assoc]
  rw [parts] at ran ⊢
  obtain ⟨locals, middle, looped, _⟩ := exec_bind_returned ran
  rw [setCalls, exchanges_bind, looped, List.filterMap_append]
  exact ⟨_, rfl⟩

theorem dump_completes (legal : track.toNat < floppyTracks) {machine : SampledMachine dumpSize}
    (shows : ShowsRevolution machine.world.coming) :
    ∃ budget code last, (floppyDumpTrack budget track).exec (sampledDrive dumpSize) machine =
      (.returned code, last) := by
  rcases shows with ⟨ends, ended, short⟩
  let budget := distance machine.memory.curTrack.toNat track.toNat + ends + 1
  obtain ⟨ready, arrived⟩ := approach_returns (sampledDrive dumpSize) legal budget machine
    (by dsimp only [budget]; omega)
  have fits : Fits dumpSize machine.world.coming ends := (fits_iff _ _).mpr short
  rw [← Nat.zero_add ends] at ended fits
  obtain ⟨final, last, looped⟩ := dumpLoop_completes ends budget (by dsimp only [budget]; omega)
    (progress_approached budget arrived) ended fits (by decide)
  refine ⟨budget, 0, last, ?_⟩
  rw [floppyDumpTrack_eq, dumpTrackReport_legal legal, Program.bind_assoc, exec_bind, arrived,
    continueWith_returned, Program.bind_assoc, exec_bind, looped]
  rfl

/-- A dump that returns for some number of iterations has seen one revolution. -/
theorem returns_iff (legal : track.toNat < floppyTracks) (machine : SampledMachine dumpSize) :
    (∃ budget code last, (floppyDumpTrack budget track).exec (sampledDrive dumpSize) machine =
      (.returned code, last)) ↔ ShowsRevolution machine.world.coming := by
  constructor
  · rintro ⟨budget, code, last, ran⟩
    obtain ⟨final, ends, _, ended, fits, _⟩ := dump_returned legal ran
    exact ⟨ends, ended, (fits_iff _ _).mp fits⟩
  · exact dump_completes legal

theorem leaves_iff (track : U32) (machine : SampledMachine dumpSize) :
    Leaves track machine ↔
      (track.toNat < floppyTracks → ShowsRevolution machine.world.coming) := by
  constructor
  · intro leaves legal
    obtain ⟨budget, last, _, ran, _⟩ := leaves legal
    exact (returns_iff legal machine).mp ⟨budget, 0, last, ran⟩
  · intro shows legal
    obtain ⟨budget, code, last, ran⟩ := dump_completes legal (shows legal)
    obtain ⟨before, calls⟩ := setCalls_dump legal ran
    rw [code_dump_legal legal ran] at ran
    exact ⟨budget, last, before, ran, calls⟩

end Dumps

end Ebaz4205.FloppyDumpEnd
