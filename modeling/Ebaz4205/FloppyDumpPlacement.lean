import Ebaz4205.FloppyHoming
import Ebaz4205.FloppyTrackDecoding

/-!
# The track that a dump is of

A seek returns nothing, whether it has moved the head or has refused to. A dump
tests the one reason for a refusal itself and not the other, so that an instance
without a home reads whatever is under the head. The sensors may read anything.
-/

namespace Ebaz4205.FloppyDumpPlacement

open DriverProgram DriverProgram.Program FloppyHeadTracking FloppyTrackDecoding KswfloppyDriver
  PartialRuns PulsecapDriver

set_option autoImplicit false

variable {size : Nat} {World : Type}

section Sampling

variable (env : Environment (floppySignature size) World)

/-- The machines in which the iterations of the loop of a dump begin. -/
def iterationStarts :
    Nat → DumpLocals → Machine (floppySignature size) World →
      List (Machine (floppySignature size) World)
  | 0, _, _ => []
  | budget + 1, locals, machine =>
      if locals.state = .done then []
      else machine :: followedBy (fun next after => iterationStarts budget next after)
        ((iteration locals).exec env machine)

/-- Those of a whole dump of a track. -/
def sampled (budget : Nat) (track : U32) (machine : Machine (floppySignature size) World) :
    List (Machine (floppySignature size) World) :=
  followedBy (fun _ ready => iterationStarts env budget .initial ready)
    ((approach budget track).exec env machine)

/-- The head is where the driver believes track `track` to be. -/
structure Placed (track : U32) (machine : Machine (floppySignature size) World) : Prop where
  homed : machine.memory.homed = true
  track : machine.memory.curTrack = track

/-- A dump that succeeds has been on its track at every iteration, and one whose head
cannot be placed fails and leaves the buffer alone. -/
structure DumpsRequested (budget : Nat) (track : U32)
    (machine : Machine (floppySignature size) World) : Prop where
  placed : ∀ last, (floppyDumpTrack budget track).exec env machine = (.returned 0, last) →
    ∀ start ∈ sampled env budget track machine, Placed track start
  refused : ¬(machine.memory.homed = true ∧ track.toNat < floppyTracks) →
    ∃ code last, (floppyDumpTrack budget track).exec env machine = (.returned code, last) ∧
      code < 0 ∧ last.memory.dump = machine.memory.dump

/-- Homes, seeks and dumps in any order, each followed for a number of iterations. -/
def floppyRuns : Transducer (Machine (floppySignature size) World) (FloppyOp × Nat)
    (Option Int) where
  step := fun machine asked =>
    match (asked.1.program asked.2).exec env machine with
    | (.returned code, after) => some (code, after)
    | _ => none

/-- What is asked of each operation: of a dump, to be of its track. -/
def OpDumpsRequested (machine : Machine (floppySignature size) World) : FloppyOp × Nat → Prop
  | (.dump track, budget) => DumpsRequested env budget track machine
  | _ => True

/-- A dump of a track that there is finds the instance homed. -/
def OpFindsHome (machine : Machine (floppySignature size) World) : FloppyOp × Nat → Prop
  | (.dump track, _) => track.toNat < floppyTracks → machine.memory.homed = true
  | _ => True

end Sampling

section Approach

variable {env : Environment (floppySignature size) World} {track : U32}
  {machine : Machine (floppySignature size) World}

def Homed (machine : Machine (floppySignature size) World) : Prop := machine.memory.homed = true

theorem ensures_line {pre : Machine (floppySignature size) World → Prop} {signal : Signal}
    {value : Bool} (kept : ∀ memory first second, pre ⟨memory, first⟩ → pre ⟨memory, second⟩) :
    Ensures env pre (setSignal signal value) pre :=
  ensures_request fun machine holds => kept machine.memory _ _ holds

theorem ensures_step (direction : StepDirection) :
    Ensures env Homed (floppyStep direction : FloppyProgram size Unit) Homed := by
  constructor
  intro machine _ after homed ran
  obtain ⟨world, stepped⟩ := exec_floppyStep env direction machine
  rw [stepped, Prod.mk.injEq] at ran
  rw [← ran.2]
  exact homed

/-- A seek loop that ends has come to its track. -/
theorem ensures_seekLoop (budget : Nat) :
    Ensures env Homed (seekLoop track budget) (Placed track) := by
  induction budget with
  | zero => exact ensures_unfinished
  | succ budget ih =>
      constructor
      intro machine result after homed ran
      rw [exec_seekLoop_succ] at ran
      by_cases apart : machine.memory.curTrack ≠ track
      · rw [if_pos apart] at ran
        exact (ensures_bind (ensures_step _) fun _ => ih).after_return _ _ _ homed ran
      · rw [if_neg apart] at ran
        rw [← (Prod.mk.inj ran).2]
        exact ⟨homed, not_not.mp apart⟩

theorem placed_line (memory : KswfloppyData size) (first second : World)
    (placed : Placed track (⟨memory, first⟩ : Machine (floppySignature size) World)) :
    Placed track (⟨memory, second⟩ : Machine (floppySignature size) World) :=
  ⟨placed.homed, placed.track⟩

theorem ensures_approach (legal : track.toNat < floppyTracks) (budget : Nat) :
    Ensures env Homed (approach budget track) (Placed track) := by
  have accepted : Ensures env Homed (acceptedSeek budget track) (Placed track) := by
    apply ensures_bind (ensures_line fun _ _ _ homed => homed)
    intro _
    apply ensures_bind (ensures_seekLoop budget)
    intro _
    exact ensures_line placed_line
  have seek : Ensures env Homed (floppySeek budget track) (Placed track) := by
    constructor
    intro machine result after homed ran
    rw [exec_floppySeek, if_pos ⟨homed, legal⟩] at ran
    exact accepted.after_return machine result after homed ran
  apply ensures_bind seek
  intro _
  apply ensures_bind (ensures_line placed_line)
  intro _
  exact ensures_line placed_line

end Approach

section Loop

variable {env : Environment (floppySignature size) World} {track : U32}
  {machine : Machine (floppySignature size) World}

/-- Reading the sensors and storing bytes. -/
def sampling (size : Nat) : Effects (floppySignature size) where
  sends _ := True
  changes change := ∀ handler, (change handler).curTrack = handler.curTrack ∧
    (change handler).flags = handler.flags
  visits _ _ := True

theorem within_iteration (locals : DumpLocals) :
    (iteration locals : FloppyProgram size DumpLocals).Within (sampling size) := by
  have read : ∀ signal, (readSignal signal : FloppyProgram size U32).Within (sampling size) :=
    fun _ => ⟨trivial, fun _ => trivial⟩
  obtain ⟨state, index, data, bufPtr, dataByte, bitCounter, wait⟩ := locals
  cases state with
  | waitIndex =>
      apply within_bind (read .index)
      intro index
      exact within_if (within_done _) (within_done _)
  | read =>
      apply within_bind (read .index)
      intro index
      apply within_bind (read .rdata)
      intro data
      apply within_if (within_done _)
      exact within_if ⟨trivial, fun _ => ⟨fun _ => ⟨rfl, rfl⟩, trivial⟩⟩ (within_done _)
  | done => trivial

theorem placed_iteration (locals : DumpLocals) (placed : Placed track machine) :
    Placed track ((iteration locals).exec env machine).2 := by
  apply exec_preserves (Placed track) (within_iteration locals)
  · intro _ before _ held
    exact ⟨held.homed, held.track⟩
  · intro change before kept held
    obtain ⟨sameTrack, sameFlags⟩ := kept before.memory
    constructor
    · change BitMask.isSet (change before.memory).flags floppyFlagHomed = true
      rw [sameFlags]
      exact held.homed
    · exact sameTrack.trans held.track
  · exact placed

theorem placed_iterationStarts (budget : Nat) (locals : DumpLocals)
    (placed : Placed track machine) :
    ∀ start ∈ iterationStarts env budget locals machine, Placed track start := by
  induction budget generalizing locals machine with
  | zero => exact List.forall_mem_nil _
  | succ budget ih =>
      rw [iterationStarts]
      by_cases done : locals.state = .done
      · rw [if_pos done]
        exact List.forall_mem_nil _
      · rw [if_neg done, List.forall_mem_cons]
        constructor
        · exact placed
        · have still := @placed_iteration _ _ env _ _ locals placed
          cases ran : (iteration locals).exec env machine with
          | mk outcome after =>
              rw [ran] at still
              cases outcome with
              | returned next => exact ih next still
              | undefined => exact List.forall_mem_nil _
              | unfinished => exact List.forall_mem_nil _

end Loop

section Dumps

variable {env : Environment (floppySignature size) World} {budget : Nat} {track : U32}
  {machine : Machine (floppySignature size) World}

theorem exec_dump_illegal (illegal : ¬track.toNat < floppyTracks) :
    (floppyDumpTrack budget track).exec env machine = (.returned (-einval), machine) := by
  have tracksIs : floppyTracks = 80 := rfl
  have refused : (floppyDumpTrack budget track : FloppyProgram size Int) = .done (-einval) :=
    if_pos (by omega)
  rw [refused]
  rfl

/-- A dump of a track that there is does not fail. -/
theorem code_dump_legal (legal : track.toNat < floppyTracks) {code : Int}
    {last : Machine (floppySignature size) World}
    (ran : (floppyDumpTrack budget track).exec env machine = (.returned code, last)) :
    code = 0 := by
  rw [floppyDumpTrack_eq, dumpTrackReport_legal legal, Program.bind_assoc] at ran
  obtain ⟨_, _, _, rest⟩ := exec_bind_returned ran
  rw [Program.bind_assoc] at rest
  obtain ⟨locals, _, _, rest⟩ := exec_bind_returned rest
  have finished : ((finishDump locals).bind fun report => .done report.1 :
      FloppyProgram size Int) = .call (.gpiodSetValue .moteb false) fun _ =>
        .call (.gpiodSetValue .drvsb false) fun _ => .done 0 := rfl
  rw [finished, exec, exec, exec_done, Prod.mk.injEq, Outcome.returned.injEq] at rest
  exact rest.1.symm

theorem not_requested_unhomed (legal : track.toNat < floppyTracks)
    (unhomed : machine.memory.homed ≠ true) : ¬DumpsRequested env budget track machine := by
  intro requested
  obtain ⟨code, last, ran, negative, _⟩ := requested.refused fun both => unhomed both.1
  have zero := code_dump_legal legal ran
  omega

theorem dumpsRequested_iff :
    DumpsRequested env budget track machine ↔
      (track.toNat < floppyTracks → machine.memory.homed = true) := by
  constructor
  · intro requested legal
    by_contra unhomed
    exact not_requested_unhomed legal unhomed requested
  · intro found
    constructor
    · intro last ran start member
      by_cases legal : track.toNat < floppyTracks
      · rw [sampled] at member
        cases arrived : (approach budget track).exec env machine with
        | mk outcome ready =>
            rw [arrived] at member
            cases outcome with
            | returned _ =>
                have placed := (@ensures_approach _ _ env _ legal budget).after_return
                  machine () ready (found legal) arrived
                exact placed_iterationStarts budget .initial placed start member
            | undefined => cases member
            | unfinished => cases member
      · rw [exec_dump_illegal legal, Prod.mk.injEq, Outcome.returned.injEq] at ran
        exact absurd ran.1 (by decide)
    · intro cannot
      by_cases legal : track.toNat < floppyTracks
      · exact absurd ⟨found legal, legal⟩ cannot
      · exact ⟨-einval, machine, exec_dump_illegal legal, by decide, rfl⟩

/-- In every run of the instance, the dumps are of their tracks exactly if those of tracks
that there are find it homed. -/
theorem dumps_requested_iff (env : Environment (floppySignature size) World) (world : World)
    (history : List (FloppyOp × Nat)) :
    (floppyRuns env).EveryStep (OpDumpsRequested env) ⟨.zeroed size, world⟩ history ↔
      (floppyRuns env).EveryStep OpFindsHome ⟨.zeroed size, world⟩ history := by
  have same : ∀ (machine : Machine (floppySignature size) World) (asked : FloppyOp × Nat),
      OpDumpsRequested env machine asked ↔ OpFindsHome machine asked := by
    intro machine ⟨op, budget⟩
    cases op with
    | home => exact Iff.rfl
    | seek track => exact Iff.rfl
    | dump track => exact dumpsRequested_iff
  constructor
  · intro steps before asked rest state split reached
    exact (same state asked).mp (steps before asked rest state split reached)
  · intro steps before asked rest state split reached
    exact (same state asked).mpr (steps before asked rest state split reached)

end Dumps

section Stuck

open FloppyRevolution KswfloppyModule

theorem exec_homeLoop_stuck (stuckCounter : Nat) (machine : SampledMachine size) :
    ∃ memory, (homeLoop stuckCounter).exec (sampledDrive size) machine =
        (.returned (), ⟨memory, machine.world⟩) ∧ memory.flags = machine.memory.flags := by
  induction stuckCounter generalizing machine with
  | zero => exact ⟨machine.memory.stepped .outwards, rfl, rfl⟩
  | succ stuckCounter ih =>
      obtain ⟨memory, ran, same⟩ := ih ⟨machine.memory.stepped .outwards, machine.world⟩
      exact ⟨memory, ran, same⟩

theorem exec_floppyHome_stuck (machine : SampledMachine size) :
    ∃ memory, floppyHome.exec (sampledDrive size) machine =
        (.returned (), ⟨memory, machine.world⟩) ∧ memory.flags = machine.memory.flags := by
  obtain ⟨memory, ran, same⟩ := exec_homeLoop_stuck 100 machine
  refine ⟨memory, ?_, same⟩
  rw [FloppyHoming.floppyHome_eq, exec]
  change ((homeLoop 100).bind _).exec (sampledDrive size) machine = _
  rw [exec_bind, ran]
  rfl

/-- A home in front of a sensor that is never asserted, and the dump that the probe then
makes. -/
theorem stuck_home_dumps :
    ¬(floppyRuns (sampledDrive dumpSize)).EveryStep (OpDumpsRequested (sampledDrive dumpSize))
      ⟨.zeroed dumpSize, shortRevolution⟩ [(.home, 0), (.dump 40, 4)] := by
  intro steps
  obtain ⟨memory, ran, same⟩ := exec_floppyHome_stuck ⟨.zeroed dumpSize, shortRevolution⟩
  have stepped : (floppyRuns (sampledDrive dumpSize)).step ⟨.zeroed dumpSize, shortRevolution⟩
      (.home, 0) = some (none, ⟨memory, shortRevolution⟩) := by
    have home : (FloppyOp.home.program 0).exec (sampledDrive dumpSize)
        ⟨.zeroed dumpSize, shortRevolution⟩ = (.returned none, ⟨memory, shortRevolution⟩) := by
      change (Program.bind floppyHome fun _ => .done none).exec _ _ = _
      rw [exec_bind, ran]
      rfl
    rw [floppyRuns]
    dsimp only
    rw [home]
  have requested : DumpsRequested (sampledDrive dumpSize) 4 40 ⟨memory, shortRevolution⟩ :=
    steps [(.home, 0)] (.dump 40, 4) [] _ rfl
      ((Transducer.reaches_singleton _ _ _).mpr ⟨none, stepped⟩)
  apply not_requested_unhomed (by decide) _ requested
  change BitMask.isSet memory.flags floppyFlagHomed ≠ true
  rw [same]
  decide

end Stuck

end Ebaz4205.FloppyDumpPlacement
