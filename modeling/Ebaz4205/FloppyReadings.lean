import Ebaz4205.FloppyDumpEnd
import Ebaz4205.ProgramSimulations

/-!
# A drive as a sequence of readings

The kernel knows nothing of samples: it gives one result for each reading of a
line, whichever line it is. An iteration of the dump takes one of them while it
waits for INDEX and two while it reads. What they show as samples decides the
dump, and with it the trial that the probe makes of its drive.
-/

namespace Ebaz4205.FloppyReadings

open DriverProgram DriverProgram.Program FloppyHeadTracking FloppyHoming FloppyRevolution
open FloppyTrackDecoding FloppyDumpEnd KswfloppyDriver KswfloppyModule PulsecapDriver

set_option autoImplicit false

variable {size : Nat}

/-- A drive that gives these results, one for each reading of a line. -/
def readingsDrive (size : Nat) : Environment (floppySignature size) (Nat → U32) where
  respond
    | .gpiodSetValue _ _, coming => ((), coming)
    | .gpiodGetValue _, coming => (coming 0, fun later => coming (later + 1))

def remaining (coming : Nat → U32) (readings : Nat) : Nat → U32 :=
  fun later => coming (readings + later)

/-- The sample that an iteration of this phase makes of the readings. -/
def sampleOf (phase : Phase) (coming : Nat → U32) : Sample :=
  match phase with
  | .reading _ => ⟨coming 0, coming 1⟩
  | _ => ⟨coming 0, 0⟩

def readingsIn : Phase → Nat
  | .reading _ => 2
  | _ => 1

/-- The phase after a number of iterations, and how many readings they took. -/
def cursor (coming : Nat → U32) : Nat → Phase × Nat
  | 0 => (.waiting, 0)
  | count + 1 =>
      let before := cursor coming count
      (before.1.next (sampleOf before.1 (remaining coming before.2)),
        before.2 + readingsIn before.1)

/-- What the readings show as samples. -/
def shown (coming : Nat → U32) (count : Nat) : Sample :=
  sampleOf (cursor coming count).1 (remaining coming (cursor coming count).2)

section Simulation

variable {coming : Nat → U32} {count : Nat} {start : Fin size → Byte} {locals : DumpLocals}
  {machine : SampledMachine size}

theorem phase_shown (coming : Nat → U32) (count : Nat) :
    phase (shown coming) count = (cursor coming count).1 := by
  induction count with
  | zero => rfl
  | succ count ih =>
      rw [phase, ih]
      rfl

theorem remaining_add (coming : Nat → U32) (first second : Nat) :
    (fun later => remaining coming first (later + second)) = remaining coming (first + second) := by
  funext later
  apply congrArg coming
  omega

/-- Nothing but the memory and its arrays. -/
def silent (size : Nat) : Effects (floppySignature size) :=
  ⟨fun _ => False, fun _ => True, fun _ _ => True⟩

def noReply : (request : GpioCall) → GpioReply request
  | .gpiodSetValue _ _ => ()
  | .gpiodGetValue _ => 0

theorem silent_readSample (locals : DumpLocals) (sample : Sample) :
    (readSample locals sample : FloppyProgram size DumpLocals).Within (silent size) := by
  apply within_if (within_done _)
  apply within_if _ (within_done _)
  exact within_bind (show (index FloppyArray.dump _).Within (silent size) from
    ⟨trivial, fun _ => trivial⟩) fun _ => ⟨trivial, trivial⟩

/-- An iteration that waits. -/
theorem exec_waiting_shown (memory : KswfloppyData size) :
    (dumpWaitIndex locals).exec (readingsDrive size) ⟨memory, coming⟩ =
      (.returned (DumpLocals.indexed locals ⟨coming 0, 0⟩),
        ⟨memory, fun later => coming (later + 1)⟩) := by
  rw [dumpWaitIndex_eq]
  rfl

/-- An iteration that reads. -/
theorem exec_reading_shown (memory : KswfloppyData size) :
    (dumpRead locals).exec (readingsDrive size) ⟨memory, coming⟩ =
      (readSample locals ⟨coming 0, coming 1⟩).exec (readingsDrive size)
        ⟨memory, fun later => coming (later + 2)⟩ := by
  rw [dumpRead_eq]
  rfl

/-- Both drives have let an iteration do the same. -/
structure Alike (first : Outcome DumpLocals × Machine (floppySignature size) (Nat → U32))
    (second : Outcome DumpLocals × SampledMachine size) (coming : Nat → U32) : Prop where
  outcome : first.1 = second.1
  memory : first.2.memory = second.2.memory
  world : first.2.world = coming

theorem iteration_shown (progress : Progress (shown coming) count start locals machine)
    (running : phase (shown coming) count ≠ .ended) :
    Alike ((iteration locals).exec (readingsDrive size)
        ⟨machine.memory, remaining coming (cursor coming count).2⟩)
      ((iteration locals).exec (sampledDrive size) machine)
      (remaining coming (cursor coming (count + 1)).2) := by
  have sample : machine.world.coming 0 = sampleOf (cursor coming count).1
      (remaining coming (cursor coming count).2) := coming_zero progress
  have state := progress.state
  rw [phase_shown] at state running
  change Alike _ _ (remaining coming ((cursor coming count).2 + readingsIn (cursor coming count).1))
  rw [iteration, state]
  cases here : (cursor coming count).1 with
  | waiting =>
      rw [here] at sample
      change Alike ((dumpWaitIndex locals).exec (readingsDrive size) _)
        ((dumpWaitIndex locals).exec (sampledDrive size) machine) _
      rw [exec_waiting_shown, exec_dumpWaitIndex, sample, remaining_add]
      exact ⟨rfl, rfl, rfl⟩
  | reading asserted =>
      rw [here] at sample
      change Alike ((dumpRead locals).exec (readingsDrive size) _)
        ((dumpRead locals).exec (sampledDrive size) machine) _
      rw [exec_reading_shown, exec_dumpRead, sample, remaining_add]
      obtain ⟨outcome, after, ran⟩ := exec_idle
        (silent_readSample locals (sampleOf (.reading asserted)
          (remaining coming (cursor coming count).2))) noReply machine.memory
      have first := ran _ (readingsDrive size)
        (remaining coming ((cursor coming count).2 + 2)) fun _ _ sent => sent.elim
      have second := ran _ (sampledDrive size) machine.world.turned fun _ _ sent => sent.elim
      rw [show (⟨remaining coming (cursor coming count).2 0, remaining coming
        (cursor coming count).2 1⟩ : Sample) = sampleOf (.reading asserted)
          (remaining coming (cursor coming count).2) from rfl, first, second]
      exact ⟨rfl, rfl, rfl⟩
  | ended => exact absurd here running

/-- The loop ends alike in front of both drives. -/
theorem dumpLoop_shown (budget : Nat)
    (progress : Progress (shown coming) count start locals machine)
    (fits : Fits size (shown coming) count) (small : size ≤ 4294967294) :
    ((dumpLoop budget locals).exec (readingsDrive size)
        ⟨machine.memory, remaining coming (cursor coming count).2⟩).1 =
      ((dumpLoop budget locals).exec (sampledDrive size) machine).1 := by
  induction budget generalizing count locals machine with
  | zero => rfl
  | succ budget ih =>
      by_cases ended : phase (shown coming) count = .ended
      · rw [dumpLoop_ended progress ended]
        rfl
      · have alike := iteration_shown progress ended
        rw [dumpLoop_succ ((running_iff progress).mpr ended), exec_bind, exec_bind]
        by_cases fitsNext : Fits size (shown coming) (count + 1)
        · obtain ⟨next, after, executed, _, progressed⟩ :=
            iteration_progress progress ended fitsNext small
          rw [executed] at alike ⊢
          rcases ran : (iteration locals).exec (readingsDrive size)
            ⟨machine.memory, remaining coming (cursor coming count).2⟩ with ⟨outcome, memory, world⟩
          rw [ran] at alike
          rw [show outcome = .returned next from alike.outcome,
            show memory = after.memory from alike.memory,
            show world = remaining coming (cursor coming (count + 1)).2 from alike.world]
          exact ih progressed fitsNext
        · have overran := iteration_overrun progress fits fitsNext
          have faulted := alike.outcome.trans overran
          rw [← exec_bind, ← exec_bind, exec_bind_undefined faulted, exec_bind_undefined overran]

end Simulation

section Dumps

variable {track : U32} {coming : Nat → U32} {memory : KswfloppyData dumpSize}

theorem idle_readingsDrive (size : Nat) :
    Idle (positioning size).sends noReply (readingsDrive size) := by
  rintro request world ⟨signal, value, same⟩
  rw [same]
  rfl

theorem idle_sampledDrive (size : Nat) :
    Idle (positioning size).sends noReply (sampledDrive size) := by
  rintro request world ⟨signal, value, same⟩
  rw [same]
  rfl

/-- A dump ends alike with the readings and with the samples that they show. -/
theorem dump_shown (legal : track.toNat < floppyTracks) (budget : Nat)
    (memory : KswfloppyData dumpSize) (coming : Nat → U32) :
    ((floppyDumpTrack budget track).exec (readingsDrive dumpSize) ⟨memory, coming⟩).1 =
      ((floppyDumpTrack budget track).exec (sampledDrive dumpSize)
        ⟨memory, ⟨⟨0, 0⟩, shown coming⟩⟩).1 := by
  obtain ⟨outcome, after, ran⟩ := exec_idle (within_approach budget) noReply memory
  have first := ran _ (readingsDrive dumpSize) coming (idle_readingsDrive dumpSize)
  have second := ran _ (sampledDrive dumpSize) ⟨⟨0, 0⟩, shown coming⟩ (idle_sampledDrive dumpSize)
  rw [floppyDumpTrack_eq, dumpTrackReport_legal legal, Program.bind_assoc, exec_bind, first,
    exec_bind, second]
  cases outcome with
  | returned _ =>
      have alike := dumpLoop_shown budget (progress_approached budget second)
        (fits_zero (shown coming)) (by decide)
      rw [show remaining coming (cursor coming 0).2 = coming from funext fun later =>
        congrArg coming (Nat.zero_add later)] at alike
      rw [continueWith_returned, continueWith_returned, Program.bind_assoc, exec_bind, exec_bind]
      rcases readings : (dumpLoop budget .initial).exec (readingsDrive dumpSize)
        ⟨after, coming⟩ with ⟨reached, _⟩
      rcases samples : (dumpLoop budget .initial).exec (sampledDrive dumpSize)
        ⟨after, ⟨⟨0, 0⟩, shown coming⟩⟩ with ⟨expected, _⟩
      rw [readings, samples] at alike
      rw [show reached = expected from alike]
      cases expected <;> rfl
  | undefined => rfl
  | unfinished => rfl

theorem dump_readings_iff (legal : track.toNat < floppyTracks) :
    (∃ budget code last, (floppyDumpTrack budget track).exec (readingsDrive dumpSize)
      ⟨memory, coming⟩ = (.returned code, last)) ↔ ShowsRevolution (shown coming) := by
  rw [← returns_iff legal ⟨memory, ⟨⟨0, 0⟩, shown coming⟩⟩]
  apply exists_congr
  intro budget
  apply exists_congr
  intro code
  exact returned_congr (dump_shown legal budget memory coming) code

end Dumps

section Trials

variable {coming : Nat → U32} {memory : KswfloppyData dumpSize}

/-- What a home asks for. -/
def homing (size : Nat) : Effects (floppySignature size) where
  sends request := (∃ signal value, request = .gpiodSetValue signal value) ∨
    request = .gpiodGetValue .trk00
  changes _ := True
  visits _ _ := True

theorem homing_setSignal (signal : Signal) (value : Bool) :
    (setSignal signal value : FloppyProgram size Unit).Within (homing size) :=
  ⟨Or.inl ⟨signal, value, rfl⟩, fun _ => trivial⟩

theorem homing_homeIteration {next : FloppyProgram size Unit} (later : next.Within (homing size)) :
    (homeIteration next).Within (homing size) := by
  refine ⟨Or.inr rfl, fun state => ?_⟩
  apply within_if (within_modify trivial)
  apply within_bind _ fun _ => later
  exact within_mono (within_floppyStep .outwards) (fun _ sent => Or.inl sent)
    (fun _ _ => trivial) fun _ _ visited => visited.elim

theorem homing_homeLoop (stuckCounter : Nat) :
    (homeLoop stuckCounter : FloppyProgram size Unit).Within (homing size) := by
  induction stuckCounter with
  | zero => exact homing_homeIteration (within_done ())
  | succ stuckCounter ih => exact homing_homeIteration ih

theorem homing_floppyHome : (floppyHome : FloppyProgram size Unit).Within (homing size) := by
  apply within_bind (homing_setSignal .drvsb true)
  intro _
  apply within_bind (homing_homeLoop 100)
  intro _
  exact homing_setSignal .drvsb false

theorem agrees_sensedDrive (size : Nat) :
    AgreesOn (homing size).sends (readingsDrive size) (sensedDrive size) := by
  intro request world sent
  rcases sent with ⟨signal, value, same⟩ | same
  · rw [same]
    rfl
  · rw [same]
    rfl

/-- A home always returns, and leaves the readings that it has not taken. -/
theorem home_readings (memory : KswfloppyData size) (coming : Nat → U32) :
    ∃ after, floppyHome.exec (readingsDrive size) ⟨memory, coming⟩ =
      (.returned (), ⟨after, remaining coming (homeReadings coming)⟩) := by
  obtain ⟨⟨after, world⟩, returned, _, _, _, _, later⟩ := floppyHome_ends ⟨memory, coming⟩
  rw [exec_agreeing homing_floppyHome (agrees_sensedDrive size), returned,
    show world = remaining coming (homeReadings coming) from later]
  exact ⟨after, rfl⟩

theorem deassertAll_readings (memory : KswfloppyData size) (coming : Nat → U32) :
    deassertAll.exec (readingsDrive size) ⟨memory, coming⟩ = (.returned (), ⟨memory, coming⟩) := rfl

/-- What the probe does with a drive. -/
def trial (budget : Nat) : FloppyProgram dumpSize Int := do
  deassertAll
  floppyHome
  let _dumped ← floppyDumpTrack budget 40
  floppyHome
  return 0

theorem trial_eq (budget : Nat) :
    trial budget = Program.bind deassertAll fun _ => Program.bind floppyHome fun _ =>
      Program.bind (floppyDumpTrack budget 40) fun _ => Program.bind floppyHome fun _ =>
        .done 0 := rfl

/-- A trial ends if the readings that its home leaves show a revolution. -/
theorem trial_returns_iff (memory : KswfloppyData dumpSize) (coming : Nat → U32) :
    (∃ budget code last, (trial budget).exec (readingsDrive dumpSize) ⟨memory, coming⟩ =
      (.returned code, last)) ↔
        ShowsRevolution (shown (remaining coming (homeReadings coming))) := by
  obtain ⟨homed, home⟩ := home_readings memory coming
  have begins : ∀ budget, (trial budget).exec (readingsDrive dumpSize) ⟨memory, coming⟩ =
      (Program.bind (floppyDumpTrack budget 40) fun _ => Program.bind floppyHome fun _ =>
        .done 0).exec (readingsDrive dumpSize)
          ⟨homed, remaining coming (homeReadings coming)⟩ := by
    intro budget
    rw [trial_eq, exec_bind, deassertAll_readings, continueWith_returned, exec_bind, home,
      continueWith_returned]
  have legal : (40 : U32).toNat < floppyTracks := by decide
  rw [← @dump_readings_iff 40 _ homed legal]
  constructor
  · rintro ⟨budget, code, last, ran⟩
    rw [begins] at ran
    obtain ⟨dumped, after, ran, _⟩ := exec_bind_returned ran
    exact ⟨budget, dumped, after, ran⟩
  · rintro ⟨budget, dumped, after, ran⟩
    obtain ⟨again, homeAgain⟩ := home_readings after.memory after.world
    refine ⟨budget, 0, ⟨again, remaining after.world (homeReadings after.world)⟩, ?_⟩
    rw [begins, exec_bind, ran, continueWith_returned, exec_bind, homeAgain]
    rfl

end Trials

end Ebaz4205.FloppyReadings
