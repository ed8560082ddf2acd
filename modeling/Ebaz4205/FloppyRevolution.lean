import Ebaz4205.KswfloppyDriver

/-!
# The data of one revolution

What a dump is meant to read, as a function of what the sensors show and of
nothing else: from an asserted INDEX to the next one after INDEX was deasserted,
one RDATA sample for each iteration. A sensor that supplies such a stream answers
the requests of the driver.
-/

namespace Ebaz4205.FloppyRevolution

open DriverProgram KswfloppyDriver PulsecapDriver

set_option autoImplicit false

/-- What the sensors show in one iteration. -/
structure Sample where
  index : U32
  rdata : U32
  deriving DecidableEq

/-- `reading true` is a revolution in which INDEX has not been deasserted yet. -/
inductive Phase where
  | waiting
  | reading (asserted : Bool)
  | ended
  deriving DecidableEq

def Phase.next (phase : Phase) (sample : Sample) : Phase :=
  match phase with
  | .waiting => if sample.index = 0 then .waiting else .reading true
  | .reading asserted =>
      if sample.index = 0 then .reading false else if asserted then .reading true else .ended
  | .ended => .ended

/-- The samples that show a bit of the track. -/
def Phase.takes (phase : Phase) (sample : Sample) : Bool :=
  match phase with
  | .waiting => false
  | .reading asserted => asserted || sample.index == 0
  | .ended => false

variable (samples : Nat → Sample)

def phase : Nat → Phase
  | 0 => .waiting
  | count + 1 => (phase count).next (samples count)

/-- The bits of the track among the first samples. -/
def taken : Nat → List U32
  | 0 => []
  | count + 1 =>
      if (phase samples count).takes (samples count) then
        taken count ++ [(samples count).rdata]
      else taken count

def fullBytes (count : Nat) : Nat := (taken samples count).length / 8

variable {samples} {count : Nat}

theorem taken_taking (takes : (phase samples count).takes (samples count) = true) :
    taken samples (count + 1) = taken samples count ++ [(samples count).rdata] := if_pos takes

theorem taken_skipping (takes : (phase samples count).takes (samples count) = false) :
    taken samples (count + 1) = taken samples count :=
  if_neg (by rw [takes]; decide)

theorem length_taken_succ : (taken samples (count + 1)).length =
    (taken samples count).length +
      if (phase samples count).takes (samples count) then 1 else 0 := by
  cases takes : (phase samples count).takes (samples count) with
  | false => rw [taken_skipping takes, if_neg (by decide)]; rfl
  | true => rw [taken_taking takes, if_pos rfl, List.length_append, List.length_singleton]

theorem fullBytes_mono {later : Nat} (before : count ≤ later) :
    fullBytes samples count ≤ fullBytes samples later := by
  induction later, before using Nat.le_induction with
  | base => exact Nat.le_refl _
  | succ later _ ih =>
      apply Nat.le_trans ih
      apply Nat.div_le_div_right
      rw [length_taken_succ]
      exact Nat.le_add_right _ _

theorem ended_stays (ended : phase samples count = .ended) (more : Nat) :
    phase samples (count + more) = .ended ∧ taken samples (count + more) = taken samples count := by
  induction more with
  | zero => exact ⟨ended, rfl⟩
  | succ more ih =>
      obtain ⟨still, same⟩ := ih
      constructor
      · change (phase samples (count + more)).next _ = .ended
        rw [still]
        rfl
      · rw [← same]
        have skips : (phase samples (count + more)).takes (samples (count + more)) = false := by
          rw [still]
          rfl
        exact taken_skipping skips

section Sensors

variable {size : Nat}

/-- The sample of the current iteration, and the samples that are to come. -/
structure SensorStream where
  current : Sample
  coming : Nat → Sample

def SensorStream.turned (stream : SensorStream) : SensorStream :=
  ⟨stream.coming 0, fun count => stream.coming (count + 1)⟩

/-- Each iteration of the dump reads INDEX once and first, so this is where the
next sample begins. -/
def sampledDrive (size : Nat) : Environment (floppySignature size) SensorStream where
  respond
    | .gpiodSetValue _ _, stream => ((), stream)
    | .gpiodGetValue .index, stream => ((stream.coming 0).index, stream.turned)
    | .gpiodGetValue .rdata, stream => (stream.current.rdata, stream)
    | .gpiodGetValue _, stream => (0, stream)

end Sensors

end Ebaz4205.FloppyRevolution
