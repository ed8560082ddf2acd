import Ebaz4205.FloppyReadings
import Ebaz4205.KswfloppyProbePath

/-!
# Whether a probe comes back from its drive

With its lines the probe homes the drive, dumps track 40 and homes it again. Both
homes end by themselves; the dump ends when the drive lets it, and nothing else
ends it. What the kernel reads from the lines is all that the probe sees of the
drive.
-/

namespace Ebaz4205.KswfloppyDriveReturn

open DriverProgram DriverProgram.Program PulsecapDriver KswfloppyDriver PlatformKernel
open KswfloppyModule KswfloppyCleanup KswfloppyProbePath PlatformSystem FloppyRevolution
open FloppyTrackDecoding FloppyHoming FloppyDumpEnd FloppyReadings

set_option autoImplicit false

/-- The drive as the probe of an instance sees it. -/
def driveView (inst : Address) (machine : Machine kswfloppySignature KernelWorld) :
    Machine (floppySignature dumpSize) (Nat → U32) where
  memory := (machine.memory.instances inst).drive
  world := remaining machine.world.answers.readings machine.world.readings

/-- There is a number of iterations within which the probe returns. -/
def ProbeEnds (machine : Machine kswfloppySignature KernelWorld) : Prop :=
  ∃ budget code after, (kswfloppyProbe budget).exec kernel machine = (.returned code, after)

/-- What the lines show the dump of a probe, after its first home. -/
def dumpShown (world : KernelWorld) : Nat → Sample :=
  let coming := remaining world.answers.readings world.readings
  shown (remaining coming (homeReadings coming))

/-- With this pin the probe stays in the word, and a drive that it comes to shows a
revolution. -/
def DriveEnds (world : KernelWorld) (pin : BitVec 64) : Prop :=
  (pin.truncate 32 : U32).toNat < 32 ∧
    (LineRefused world.answers 0 floppySignalDirections.length ∨ ShowsRevolution (dumpShown world))

/-- Nothing on the way of the probe keeps it from returning. -/
def WayEnds (world : KernelWorld) : Prop :=
  match taking world with
  | .refused _ => True
  | .broken => False
  | .taken _ mux =>
      match world.answers.propertyU64 "mux,pin" with
      | .error _ => True
      | .ok pin => mux.pdev.driver = .aximux ∧ DriveEnds world pin

section Trials

variable {inst : Address} {machine : Machine kswfloppySignature KernelWorld}

theorem remaining_succ (readings : Nat → U32) (count : Nat) :
    remaining readings (count + 1) = fun later => remaining readings count (later + 1) := by
  funext later
  apply congrArg readings
  omega

theorem carries_onDrive (inst : Address) :
    (onDrive inst).Carries kernel (readingsDrive dumpSize) (driveView inst) where
  send := by
    intro request machine
    cases request with
    | gpiodSetValue signal value => exact ⟨rfl, rfl⟩
    | gpiodGetValue signal =>
        constructor
        · rfl
        · exact congrArg (Machine.mk _) (remaining_succ _ _)
  fetch := fun _ => ⟨rfl, rfl⟩
  update := by
    intro change machine
    constructor
    · rfl
    · change driveView inst ⟨machine.memory.edit inst _, machine.world⟩ = _
      rw [driveView, KswfloppyMemory.edit_self]
      rfl
  locate := by
    intro region position machine
    change EndsAs _ ((Program.access region position .done).exec _ _)
      ((element KswfloppyArray.dump position).exec kernel machine)
    rw [element, exec, exec]
    by_cases bound : position < dumpSize
    · rw [dif_pos bound, dif_pos bound]
      exact ⟨rfl, rfl⟩
    · rw [dif_neg bound, dif_neg bound]
      exact ⟨rfl, rfl⟩

theorem tryDrive_eq (budget : Nat) (inst : Address) :
    tryDrive budget inst = (trial budget).interpret (onDrive inst) := by
  rw [trial_eq, interpret_bind, interpret_bind, interpret_bind, interpret_bind]
  rfl

/-- The probe's part with the drive ends as the trial does. -/
theorem tryDrive_returns_iff :
    (∃ budget code after, (tryDrive budget inst).exec kernel machine = (.returned code, after)) ↔
      ShowsRevolution (dumpShown machine.world) := by
  rw [dumpShown, ← trial_returns_iff (machine.memory.instances inst).drive]
  apply exists_congr
  intro budget
  apply exists_congr
  intro code
  have ends := exec_interpret (carries_onDrive inst) (trial budget) machine
  rw [← tryDrive_eq] at ends
  exact returned_congr ends.1 code

end Trials

section Probes

variable {machine : Machine kswfloppySignature KernelWorld} {pcap mux : Instance}
  {pin : BitVec 64}

theorem driveEnds_iff (place : taking machine.world = .taken pcap mux)
    (read : machine.world.answers.propertyU64 "mux,pin" = .ok pin)
    (typed : mux.pdev.driver = .aximux) : ProbeEnds machine ↔ DriveEnds machine.world pin := by
  by_cases inWord : (pin.truncate 32 : U32).toNat < 32
  · rw [DriveEnds, and_iff_right inWord]
    by_cases refused : LineRefused machine.world.answers 0 floppySignalDirections.length
    · constructor
      · intro _
        exact Or.inl refused
      · intro _
        exact ⟨0, _, _, exec_probe_unequipped place read typed inWord refused⟩
    · rw [or_iff_right refused, show dumpShown machine.world =
        dumpShown (atLines machine pcap mux pin).world from rfl,
        ← @tryDrive_returns_iff machine.world.shared.next]
      apply exists_congr
      intro budget
      rw [exec_probe_equipped place read typed inWord refused]
  · constructor
    · rintro ⟨budget, code, after, ran⟩
      have faulted : ((kswfloppyProbe budget).exec kernel machine).1 = .undefined :=
        exec_probe_shifted place read inWord
      rw [ran] at faulted
      cases faulted
    · intro ends
      exact absurd ends.1 inWord

theorem probeEnds_iff (machine : Machine kswfloppySignature KernelWorld) :
    ProbeEnds machine ↔ WayEnds machine.world := by
  rw [WayEnds]
  cases place : taking machine.world with
  | refused code =>
      obtain ⟨_, after, ran⟩ := @exec_probe_refused 0 code machine place
      exact iff_of_true ⟨0, code, after, ran⟩ trivial
  | broken =>
      apply iff_of_false
      · rintro ⟨budget, code, after, ran⟩
        have faulted : ((kswfloppyProbe budget).exec kernel machine).1 = .undefined :=
          exec_probe_broken place
        rw [ran] at faulted
        cases faulted
      · exact id
  | taken pcap mux =>
      cases read : machine.world.answers.propertyU64 "mux,pin" with
      | error err => exact iff_of_true ⟨0, _, _, exec_probe_unread place read⟩ trivial
      | ok pin =>
          by_cases typed : mux.pdev.driver = .aximux
          · exact (driveEnds_iff place read typed).trans (and_iff_right typed).symm
          · apply iff_of_false
            · rintro ⟨budget, code, after, ran⟩
              have faulted := @exec_probe_mistyped budget pcap mux pin machine place read typed
              rw [ran] at faulted
              cases faulted
            · exact fun ends => typed ends.1

/-- A dump ends exactly if its sensors show a revolution that it can hold, and a probe
exactly if its way to the drive ends, or the drive that it dumps shows such a
revolution. -/
theorem dump_and_probe_end_iff (track : U32) (drive : SampledMachine dumpSize)
    (machine : Machine kswfloppySignature KernelWorld) :
    (Leaves track drive ↔ (track.toNat < floppyTracks → ShowsRevolution drive.world.coming)) ∧
      (ProbeEnds machine ↔ WayEnds machine.world) :=
  ⟨leaves_iff track drive, probeEnds_iff machine⟩

end Probes

section Endless

theorem phase_of_low {samples : Nat → Sample} (low : ∀ count, (samples count).index = 0)
    (count : Nat) : phase samples count = .waiting := by
  induction count with
  | zero => rfl
  | succ count ih =>
      rw [phase, ih, Phase.next, low]
      rfl

/-- No disk: INDEX is never asserted. -/
def noDisk : SampledMachine dumpSize := ⟨.zeroed dumpSize, ⟨⟨0, 0⟩, fun _ => ⟨0, 0⟩⟩⟩

/-- A probe that gets all it asks for, and reads zero from every line. -/
def emptyDrive : Machine kswfloppySignature KernelWorld :=
  entry PlatformState.initial.kswfloppy othersProbed ⟨.probe, ⟨.kswfloppy, 0⟩, obliging 0⟩

/-- Without a disk neither the dump nor the probe ends, and with INDEX stuck the dump
does not either. -/
theorem endless_dumps :
    ¬Leaves 40 noDisk ∧ ¬Leaves 40 ⟨.zeroed dumpSize, stuckIndex⟩ ∧ ¬ProbeEnds emptyDrive := by
  have never : ∀ {samples : Nat → Sample}, (∀ count, (samples count).index = 0) →
      ¬ShowsRevolution samples := by
    rintro samples low ⟨ends, ended, _⟩
    rw [phase_of_low low] at ended
    cases ended
  refine ⟨?_, ?_, ?_⟩
  · intro leaves
    exact never (fun _ => rfl) ((leaves_iff 40 noDisk).mp leaves (by decide))
  · intro leaves
    obtain ⟨ends, ended, _⟩ := (leaves_iff 40 _).mp leaves (by decide)
    cases ends with
    | zero => cases ended
    | succ count =>
        rw [(taken_stuckIndex count).1] at ended
        cases ended
  · intro ends
    have place : taking emptyDrive.world =
      .taken ⟨⟨.pulsecap, 0⟩, 6⟩ ⟨⟨.aximux, 0⟩, 7⟩ := rfl
    have drive := (driveEnds_iff place rfl rfl).mp ends
    rcases drive.2 with ⟨line, _, _, err, refused⟩ | shows
    · cases refused
    · refine never ?_ shows
      intro count
      change (sampleOf _ _).index = 0
      cases (cursor _ count).1 <;> rfl

end Endless

end Ebaz4205.KswfloppyDriveReturn
