import Ebaz4205.FloppySignalProtocol

/-!
# Homing against any TRK00 sensor

The loop of `floppy_home` ends with the first reading that is not zero, or after
101 of them. What that reading was it does not ask, so an error code homes the
drive as well as a sensor does; and an instance that was homed before stays so,
also if this call got stuck.
-/

namespace Ebaz4205.FloppyHoming

open DriverProgram DriverProgram.Program FloppyHeadTracking FloppySignalProtocol KswfloppyDriver
  PulsecapDriver

set_option autoImplicit false

variable {size : Nat}

/-- A drive whose TRK00 sensor gives these results, one for each reading. -/
def sensedDrive (size : Nat) : Environment (floppySignature size) (Nat → U32) where
  respond
    | .gpiodSetValue _ _, coming => ((), coming)
    | .gpiodGetValue .trk00, coming => (coming 0, fun later => coming (later + 1))
    | .gpiodGetValue _, coming => (0, coming)

abbrev SensedMachine (size : Nat) := Machine (floppySignature size) (Nat → U32)

def trackReading : Exchange (floppySignature size) → Option U32
  | ⟨.gpiodGetValue .trk00, reading⟩ => some reading
  | _ => none

/-- The readings of TRK00 that a program takes. -/
def trackReadings {Result : Type} (program : FloppyProgram size Result)
    (machine : SensedMachine size) : List U32 :=
  (program.exchanges (sensedDrive size) machine).filterMap trackReading

/-- The calls of `gpiod_set_value` for this many steps outwards. -/
def outwardCalls (count : Nat) : List (Signal × Bool) :=
  (pulses count .outwards).filterMap LineEvent.setCall

/-- A home takes at most 101 steps, all outwards, and leaves the drive deselected; and
it is homed exactly if a reading of this call was that of an asserted line. -/
structure HomesTruly (machine last : SensedMachine size) : Prop where
  returned : floppyHome.exec (sensedDrive size) machine = (.returned (), last)
  lines : ∃ count ≤ 101, setCalls (sensedDrive size) machine floppyHome =
    (.drvsb, true) :: (outwardCalls count ++ [(.drvsb, false)])
  homed : last.memory.homed = true ↔ 1 ∈ trackReadings floppyHome machine
  track : 1 ∈ trackReadings floppyHome machine → last.memory.curTrack = 0

/-- Among the readings that a home can take, the first that is not zero is a one; or
there is none, and the instance was not homed before. -/
def SensorHonest (machine : SensedMachine size) : Prop :=
  (∃ count < 101, machine.world count = 1 ∧ ∀ earlier < count, machine.world earlier = 0) ∨
    (∀ count < 101, machine.world count = 0) ∧ machine.memory.homed = false

section Readings

/-- The steps that come before the first asserted reading of so many, and that reading. -/
def search : Nat → (Nat → U32) → Nat × Option U32
  | 0, _ => (0, none)
  | remaining + 1, coming =>
      if coming 0 ≠ 0 then (0, some (coming 0))
      else
        let found := search remaining fun later => coming (later + 1)
        (found.1 + 1, found.2)

variable {remaining : Nat} {coming : Nat → U32}

theorem search_asserted (asserted : coming 0 ≠ 0) :
    search (remaining + 1) coming = (0, some (coming 0)) := if_pos asserted

theorem search_low (low : coming 0 = 0) :
    search (remaining + 1) coming =
      ((search remaining fun later => coming (later + 1)).1 + 1,
        (search remaining fun later => coming (later + 1)).2) := if_neg (not_not.mpr low)

theorem steps_le (remaining : Nat) (coming : Nat → U32) : (search remaining coming).1 ≤ remaining := by
  induction remaining generalizing coming with
  | zero => exact Nat.le_refl 0
  | succ remaining ih =>
      by_cases low : coming 0 = 0
      · rw [search_low low]
        exact Nat.succ_le_succ (ih _)
      · rw [search_asserted low]
        exact Nat.zero_le _

theorem found_none_iff :
    (search remaining coming).2 = none ↔ ∀ count < remaining, coming count = 0 := by
  induction remaining generalizing coming with
  | zero =>
      constructor
      · intro _ count below
        exact absurd below (Nat.not_lt_zero _)
      · intro _
        rfl
  | succ remaining ih =>
      by_cases low : coming 0 = 0
      · rw [search_low low, ih]
        constructor
        · intro later count below
          cases count with
          | zero => exact low
          | succ count => exact later count (Nat.lt_of_succ_lt_succ below)
        · intro zeros count below
          exact zeros (count + 1) (Nat.succ_lt_succ below)
      · rw [search_asserted low]
        constructor
        · intro none
          cases none
        · intro zeros
          exact absurd (zeros 0 (Nat.succ_pos _)) low

theorem found_some_iff {reading : U32} :
    (search remaining coming).2 = some reading ↔
      ∃ count < remaining, coming count = reading ∧ reading ≠ 0 ∧
        ∀ earlier < count, coming earlier = 0 := by
  induction remaining generalizing coming with
  | zero =>
      constructor
      · intro found
        cases found
      · rintro ⟨count, below, _⟩
        exact absurd below (Nat.not_lt_zero _)
  | succ remaining ih =>
      by_cases low : coming 0 = 0
      · rw [search_low low, ih]
        constructor
        · rintro ⟨count, below, same, asserted, zeros⟩
          refine ⟨count + 1, Nat.succ_lt_succ below, same, asserted, ?_⟩
          intro earlier before
          cases earlier with
          | zero => exact low
          | succ earlier => exact zeros earlier (Nat.lt_of_succ_lt_succ before)
        · rintro ⟨count, below, same, asserted, zeros⟩
          cases count with
          | zero => exact absurd (same.symm.trans low) asserted
          | succ count =>
              exact ⟨count, Nat.lt_of_succ_lt_succ below, same, asserted,
                fun earlier before => zeros (earlier + 1) (Nat.succ_lt_succ before)⟩
      · rw [search_asserted low, Option.some.injEq]
        constructor
        · intro same
          refine ⟨0, Nat.succ_pos _, same, ?_, fun earlier before =>
            absurd before (Nat.not_lt_zero _)⟩
          rw [← same]
          exact low
        · rintro ⟨count, _, same, _, zeros⟩
          cases count with
          | zero => exact same
          | succ count => exact absurd (zeros 0 (Nat.succ_pos _)) low

end Readings

section Loop

variable {machine : SensedMachine size} {next : FloppyProgram size Unit}

/-- The machine after a reading, and after a reading and a step. -/
def afterReading (machine : SensedMachine size) : SensedMachine size :=
  { machine with world := fun later => machine.world (later + 1) }

def afterStep (machine : SensedMachine size) : SensedMachine size :=
  { afterReading machine with memory := machine.memory.stepped .outwards }

theorem exec_homeIteration :
    (homeIteration next).exec (sensedDrive size) machine =
      if machine.world 0 ≠ 0 then
        (.returned (), { afterReading machine with memory := machine.memory.onTrackZero })
      else next.exec (sensedDrive size) (afterStep machine) := by
  change (if machine.world 0 ≠ 0 then Program.modify KswfloppyData.onTrackZero
    else Program.bind (floppyStep .outwards) fun _ => next).exec (sensedDrive size)
      (afterReading machine) = _
  by_cases asserted : machine.world 0 ≠ 0
  · rw [if_pos asserted, if_pos asserted]
    rfl
  · rw [if_neg asserted, if_neg asserted]
    rfl

theorem exchanges_homeIteration :
    (homeIteration next).exchanges (sensedDrive size) machine =
      ⟨.gpiodGetValue .trk00, machine.world 0⟩ ::
        if machine.world 0 ≠ 0 then []
        else (floppyStep .outwards).exchanges (sensedDrive size) (afterReading machine) ++
          next.exchanges (sensedDrive size) (afterStep machine) := by
  change _ :: (if machine.world 0 ≠ 0 then Program.modify KswfloppyData.onTrackZero
    else Program.bind (floppyStep .outwards) fun _ => next).exchanges (sensedDrive size)
      (afterReading machine) = _
  by_cases asserted : machine.world 0 ≠ 0
  · rw [if_pos asserted, if_pos asserted]
    rfl
  · rw [if_neg asserted, if_neg asserted, exchanges_bind]
    rfl

/-- What the loop leaves, for the steps it took and the reading that ended it. -/
structure LoopEnds (program : FloppyProgram size Unit) (machine last : SensedMachine size)
    (steps : Nat) (found : Option U32) : Prop where
  returned : program.exec (sensedDrive size) machine = (.returned (), last)
  lines : setCalls (sensedDrive size) machine program = outwardCalls steps
  readings : trackReadings program machine = List.replicate steps 0 ++ found.toList
  homed : last.memory.homed = (found.isSome || machine.memory.homed)
  track : found ≠ none → last.memory.curTrack = 0
  coming : last.world = fun later => machine.world (steps + found.toList.length + later)

theorem loopEnds_asserted (asserted : machine.world 0 ≠ 0) :
    LoopEnds (homeIteration next) machine
      { afterReading machine with memory := machine.memory.onTrackZero } 0
      (some (machine.world 0)) where
  returned := by rw [exec_homeIteration, if_pos asserted]
  lines := by
    rw [setCalls, exchanges_homeIteration, if_pos asserted]
    rfl
  readings := by
    rw [trackReadings, exchanges_homeIteration, if_pos asserted]
    rfl
  homed := homed_onTrackZero machine.memory
  track := fun _ => rfl
  coming := by
    funext later
    exact congrArg machine.world (Nat.add_comm later 1)

theorem loopEnds_low {last : SensedMachine size} {steps : Nat} {found : Option U32}
    (low : machine.world 0 = 0) (later : LoopEnds next (afterStep machine) last steps found) :
    LoopEnds (homeIteration next) machine last (steps + 1) found where
  returned := by
    rw [exec_homeIteration, if_neg (not_not.mpr low)]
    exact later.returned
  lines := by
    have rest := later.lines
    rw [setCalls] at rest ⊢
    rw [exchanges_homeIteration, if_neg (not_not.mpr low), List.filterMap_cons,
      List.filterMap_append, rest, outwardCalls, outwardCalls, pulses_succ, List.filterMap_append]
    rfl
  readings := by
    have rest := later.readings
    rw [trackReadings] at rest ⊢
    rw [exchanges_homeIteration, if_neg (not_not.mpr low), List.filterMap_cons,
      List.filterMap_append, rest, low, List.replicate_succ, List.cons_append]
    rfl
  homed := later.homed
  track := later.track
  coming := by
    rw [later.coming]
    funext index
    apply congrArg machine.world
    omega

/-- A loop that ends without a reading has made one more step than its counter. -/
theorem homeLoop_ends (stuckCounter : Nat) (machine : SensedMachine size) :
    ∃ last, LoopEnds (homeLoop stuckCounter) machine last
      (search (stuckCounter + 1) machine.world).1 (search (stuckCounter + 1) machine.world).2 := by
  induction stuckCounter generalizing machine with
  | zero =>
      by_cases low : machine.world 0 = 0
      · rw [search_low low]
        refine ⟨afterStep machine, loopEnds_low low
          ⟨rfl, rfl, rfl, ?_, fun none => absurd rfl none, ?_⟩⟩
        · exact (Bool.false_or _).symm
        · funext later
          exact congrArg (afterStep machine).world (Nat.zero_add later).symm
      · rw [search_asserted low]
        exact ⟨_, loopEnds_asserted low⟩
  | succ stuckCounter ih =>
      by_cases low : machine.world 0 = 0
      · obtain ⟨last, ends⟩ := ih (afterStep machine)
        rw [search_low low]
        exact ⟨last, loopEnds_low low ends⟩
      · rw [search_asserted low]
        exact ⟨_, loopEnds_asserted low⟩

theorem floppyHome_eq : (floppyHome : FloppyProgram size Unit) =
    .call (.gpiodSetValue .drvsb true) fun _ =>
      (homeLoop 100).bind fun _ => .call (.gpiodSetValue .drvsb false) .done := rfl

/-- How many readings a home takes. -/
def homeReadings (coming : Nat → U32) : Nat :=
  (search 101 coming).1 + (search 101 coming).2.toList.length

theorem floppyHome_ends (machine : SensedMachine size) :
    ∃ last, floppyHome.exec (sensedDrive size) machine = (.returned (), last) ∧
      setCalls (sensedDrive size) machine floppyHome =
        (.drvsb, true) :: (outwardCalls (search 101 machine.world).1 ++ [(.drvsb, false)]) ∧
      trackReadings floppyHome machine =
        List.replicate (search 101 machine.world).1 0 ++ (search 101 machine.world).2.toList ∧
      last.memory.homed = ((search 101 machine.world).2.isSome || machine.memory.homed) ∧
      ((search 101 machine.world).2 ≠ none → last.memory.curTrack = 0) ∧
      last.world = fun later => machine.world (homeReadings machine.world + later) := by
  obtain ⟨last, ends⟩ := homeLoop_ends 100 machine
  have sent : floppyHome.exchanges (sensedDrive size) machine =
      ⟨.gpiodSetValue .drvsb true, ()⟩ :: ((homeLoop 100).exchanges (sensedDrive size) machine ++
        [⟨.gpiodSetValue .drvsb false, ()⟩]) := by
    rw [floppyHome_eq, exchanges]
    apply congrArg (List.cons _)
    change ((homeLoop 100).bind _).exchanges (sensedDrive size) machine = _
    rw [exchanges_bind, ends.returned]
    rfl
  refine ⟨last, ?_, ?_, ?_, ends.homed, ends.track, ends.coming⟩
  · rw [floppyHome_eq, exec]
    change ((homeLoop 100).bind _).exec (sensedDrive size) machine = _
    rw [exec_bind, ends.returned]
    rfl
  · have steps := ends.lines
    rw [setCalls] at steps ⊢
    rw [sent, List.filterMap_cons, List.filterMap_append, steps]
    rfl
  · have readings := ends.readings
    rw [trackReadings] at readings ⊢
    rw [sent, List.filterMap_cons, List.filterMap_append, readings]
    exact List.append_nil _

end Loop

section Homing

variable {machine : SensedMachine size}

theorem one_read_iff {steps : Nat} {found : Option U32} :
    (1 : U32) ∈ List.replicate steps 0 ++ found.toList ↔ found = some 1 := by
  rw [List.mem_append, List.mem_replicate, Option.mem_toList]
  constructor
  · rintro (⟨_, same⟩ | found)
    · exact absurd same (by decide)
    · exact found
  · exact Or.inr

theorem sensorHonest_iff :
    SensorHonest machine ↔ (search 101 machine.world).2 = some 1 ∨
      (search 101 machine.world).2 = none ∧ machine.memory.homed = false := by
  rw [found_some_iff, found_none_iff]
  apply or_congr _ Iff.rfl
  constructor
  · rintro ⟨count, below, one, zeros⟩
    exact ⟨count, below, one, by decide, zeros⟩
  · rintro ⟨count, below, one, _, zeros⟩
    exact ⟨count, below, one, zeros⟩

theorem sensorHonest_of_homesTruly {last : SensedMachine size} (truly : HomesTruly machine last) :
    SensorHonest machine := by
  obtain ⟨other, returned, _, readings, homed, _⟩ := floppyHome_ends machine
  have same := returned.symm.trans truly.returned
  rw [Prod.mk.injEq] at same
  have flag := truly.homed
  rw [readings, one_read_iff, ← same.2, homed] at flag
  rw [sensorHonest_iff]
  cases found : (search 101 machine.world).2 with
  | none =>
      rw [found] at flag
      right
      refine ⟨rfl, ?_⟩
      by_contra before
      rw [Bool.not_eq_false] at before
      rw [before] at flag
      cases flag.mp rfl
  | some reading =>
      rw [found] at flag
      exact Or.inl (flag.mp rfl)

/-- A home tells the truth exactly if its sensor is honest. -/
theorem homes_truly_iff (machine : SensedMachine size) :
    (∃ last, HomesTruly machine last) ↔ SensorHonest machine := by
  constructor
  · rintro ⟨last, truly⟩
    exact sensorHonest_of_homesTruly truly
  · intro honest
    rw [sensorHonest_iff] at honest
    obtain ⟨last, returned, lines, readings, homed, track, _⟩ := floppyHome_ends machine
    refine ⟨last, returned, ⟨_, steps_le 101 machine.world, lines⟩, ?_, ?_⟩
    · rw [readings, one_read_iff, homed]
      rcases honest with one | ⟨none, before⟩
      · rw [one]
        exact ⟨fun _ => rfl, fun _ => rfl⟩
      · rw [none, before]
        constructor
        · intro set
          cases set
        · intro one
          cases one
    · rw [readings, one_read_iff]
      intro one
      apply track
      rw [one]
      exact Option.some_ne_none 1

/-- A sensor that fails homes the drive; and an instance that was homed stays so with a
sensor that is never asserted. -/
theorem false_homing :
    (∀ last, ¬HomesTruly (⟨.zeroed 1, fun _ => -5⟩ : SensedMachine 1) last) ∧
      ∀ last, ¬HomesTruly (⟨(KswfloppyData.zeroed 1).onTrackZero, fun _ => 0⟩ :
        SensedMachine 1) last := by
  constructor
  · intro last truly
    rcases sensorHonest_of_homesTruly truly with ⟨_, _, one, _⟩ | ⟨zeros, _⟩
    · change (-5 : U32) = 1 at one
      exact absurd one (by decide)
    · exact absurd (zeros 0 (by decide)) (by decide)
  · intro last truly
    rcases sensorHonest_of_homesTruly truly with ⟨_, _, one, _⟩ | ⟨_, before⟩
    · change (0 : U32) = 1 at one
      exact absurd one (by decide)
    · exact absurd before (by decide)

end Homing

end Ebaz4205.FloppyHoming
