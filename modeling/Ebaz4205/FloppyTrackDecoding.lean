import Ebaz4205.FloppyHeadTracking
import Ebaz4205.FloppyRevolution
import Ebaz4205.KswfloppyModule
import Ebaz4205.ProgramEffects

/-!
# What a dump leaves in its buffer

The loop of the dump against a stream of samples, one invariant for an iteration
and from it whole dumps. Each full byte is stored as zero, and each takes two
positions of the buffer, so the pointer runs twice as fast as the bytes come in.
From this it follows when a dump decodes the track it has read, and on which
streams it stays inside the buffer.
-/

namespace Ebaz4205.FloppyTrackDecoding

open DriverProgram DriverProgram.Program FloppyHeadTracking FloppyRevolution KswfloppyDriver
  KswfloppyModule PulsecapDriver

set_option autoImplicit false

variable {size : Nat}

abbrev SampledMachine (size : Nat) := Machine (floppySignature size) SensorStream

section Iteration

def iteration (locals : DumpLocals) : FloppyProgram size DumpLocals :=
  match locals.state with
  | .waitIndex => dumpWaitIndex locals
  | .read => dumpRead locals
  | .done => .done locals

theorem dumpLoop_succ {locals : DumpLocals} (running : locals.state ≠ .done) (budget : Nat) :
    (dumpLoop (budget + 1) locals : FloppyProgram size DumpLocals) =
      (iteration locals).bind fun next => dumpLoop budget next := by
  obtain ⟨state, index, data, bufPtr, dataByte, bitCounter, wait⟩ := locals
  cases state with
  | waitIndex => rfl
  | read => rfl
  | done => exact absurd rfl running

/-- Zero at every second position, as far as bytes have been stored. -/
def blanked (count : Nat) (dump : Fin size → Byte) : Fin size → Byte :=
  fun slot => if slot.val % 2 = 0 ∧ slot.val < 2 * count then 0 else dump slot

theorem blanked_zero (dump : Fin size → Byte) : blanked 0 dump = dump := by
  funext slot
  apply if_neg
  omega

theorem update_blanked {count : Nat} {dump : Fin size → Byte} (bound : 2 * count < size) :
    Function.update (blanked count dump) ⟨2 * count, bound⟩ 0 = blanked (count + 1) dump := by
  funext slot
  rw [Function.update_apply]
  unfold blanked
  by_cases here : slot = ⟨2 * count, bound⟩
  · rw [if_pos here, if_pos]
    rw [here]
    dsimp only
    omega
  · rw [if_neg here]
    have elsewhere : slot.val ≠ 2 * count := fun same => here (Fin.ext same)
    apply if_congr _ rfl rfl
    omega

/-- The state of the loop in each phase of the revolution. -/
def stateOf : Phase → DumpState
  | .waiting => .waitIndex
  | .reading _ => .read
  | .ended => .done

/-- Where the loop is after a number of samples. -/
structure Progress (samples : Nat → Sample) (count : Nat) (start : Fin size → Byte)
    (locals : DumpLocals) (machine : SampledMachine size) : Prop where
  state : locals.state = stateOf (phase samples count)
  wait : ∀ asserted, phase samples count = .reading asserted →
    (locals.wait = 0 ↔ asserted = false)
  counter : locals.bitCounter.toNat = (taken samples count).length % 8
  pointer : locals.bufPtr.toNat = 2 * fullBytes samples count
  dump : machine.memory.dump = blanked (fullBytes samples count) start
  coming : machine.world.coming = fun later => samples (count + later)

/-- All the bytes that are full by now have their positions in the buffer. -/
def Fits (size : Nat) (samples : Nat → Sample) (count : Nat) : Prop :=
  2 * fullBytes samples count < size + 2

/-- The locals with a fresh sample, before the loop decides what to do with it. -/
def DumpLocals.sampled (locals : DumpLocals) (sample : Sample) : DumpLocals :=
  { locals with
    index := sample.index
    data := sample.rdata
    wait := if locals.wait ≠ 0 ∧ sample.index = 0 then 0 else locals.wait }

theorem sampled_eq (locals : DumpLocals) (sample : Sample) :
    (if locals.wait ≠ 0 ∧ sample.index = 0 then
        { locals with index := sample.index, data := sample.rdata, wait := 0 }
      else { locals with index := sample.index, data := sample.rdata }) =
      DumpLocals.sampled locals sample := by
  unfold DumpLocals.sampled
  by_cases clears : locals.wait ≠ 0 ∧ sample.index = 0
  · rw [if_pos clears, if_pos clears]
  · rw [if_neg clears, if_neg clears]

theorem wait_sampled (locals : DumpLocals) (sample : Sample) :
    (DumpLocals.sampled locals sample).wait = 0 ↔ locals.wait = 0 ∨ sample.index = 0 := by
  change (if locals.wait ≠ 0 ∧ sample.index = 0 then 0 else locals.wait) = 0 ↔ _
  by_cases clears : locals.wait ≠ 0 ∧ sample.index = 0
  · rw [if_pos clears]
    exact ⟨fun _ => Or.inr clears.2, fun _ => rfl⟩
  · rw [if_neg clears]
    constructor
    · exact Or.inl
    · intro either
      by_contra waits
      exact clears ⟨waits, either.resolve_left waits⟩

/-- What a full byte does to the locals. -/
def DumpLocals.stored (locals : DumpLocals) : DumpLocals :=
  { locals with bitCounter := 0, dataByte := 0, bufPtr := locals.bufPtr + 1 + 1 }

/-- The locals once a sample has been looked at for the first INDEX. -/
def DumpLocals.indexed (locals : DumpLocals) (sample : Sample) : DumpLocals :=
  if sample.index ≠ 0 then
    { locals with index := sample.index, state := .read, wait := 1 }
  else { locals with index := sample.index }

/-- What an iteration in `STATE_READ` comes down to for a sample. -/
def readSample (locals : DumpLocals) (sample : Sample) : FloppyProgram size DumpLocals :=
  if sample.index ≠ 0 ∧ (DumpLocals.sampled locals sample).wait = 0 then
    .done { DumpLocals.sampled locals sample with state := .done }
  else storeFullByte (DumpLocals.sampled locals sample).shiftIn

/-- A waiting iteration asks for INDEX, and goes by nothing else. -/
theorem dumpWaitIndex_eq (locals : DumpLocals) :
    (dumpWaitIndex locals : FloppyProgram size DumpLocals) =
      .call (.gpiodGetValue .index) fun index => .done (DumpLocals.indexed locals ⟨index, 0⟩) := by
  apply congrArg (Program.call _)
  funext index
  unfold DumpLocals.indexed
  by_cases asserted : index ≠ 0
  · rw [if_pos asserted]
    exact if_pos asserted
  · rw [if_neg asserted]
    exact if_neg asserted

theorem dumpRead_eq (locals : DumpLocals) :
    (dumpRead locals : FloppyProgram size DumpLocals) =
      .call (.gpiodGetValue .index) fun index =>
        .call (.gpiodGetValue .rdata) fun data => readSample locals ⟨index, data⟩ := by
  apply congrArg (Program.call _)
  funext index
  apply congrArg (Program.call _)
  funext data
  rw [readSample, ← sampled_eq]
  rfl

section Requests

variable (locals : DumpLocals) (machine : SampledMachine size)

theorem exec_dumpWaitIndex :
    (dumpWaitIndex locals).exec (sampledDrive size) machine =
      (.returned (DumpLocals.indexed locals (machine.world.coming 0)),
        { machine with world := machine.world.turned }) := by
  rw [dumpWaitIndex_eq]
  rfl

theorem accesses_dumpWaitIndex :
    (dumpWaitIndex locals).accesses (sampledDrive size) machine = [] := by
  rw [dumpWaitIndex_eq]
  rfl

theorem exec_dumpRead :
    (dumpRead locals).exec (sampledDrive size) machine =
      (readSample locals (machine.world.coming 0)).exec (sampledDrive size)
        { machine with world := machine.world.turned } := by
  rw [dumpRead_eq]
  rfl

theorem accesses_dumpRead :
    (dumpRead locals).accesses (sampledDrive size) machine =
      (readSample locals (machine.world.coming 0)).accesses (sampledDrive size)
        { machine with world := machine.world.turned } := by
  rw [dumpRead_eq]
  rfl

theorem exec_storeFullByte {locals : DumpLocals} (full : locals.bitCounter = 8)
    (bound : locals.bufPtr.toNat < size) (machine : SampledMachine size) :
    (storeFullByte locals).exec (sampledDrive size) machine =
      (.returned (DumpLocals.stored locals),
        { machine with
          memory := storeByte ⟨locals.bufPtr.toNat, bound⟩ 0 machine.memory }) ∧
      (storeFullByte locals).accesses (sampledDrive size) machine =
        [(.dump, locals.bufPtr.toNat)] := by
  unfold storeFullByte
  rw [if_pos full]
  constructor
  · exact dif_pos bound
  · exact congrArg (List.cons (FloppyArray.dump, locals.bufPtr.toNat)) (dif_pos bound)

theorem storeFullByte_faults {locals : DumpLocals} (full : locals.bitCounter = 8)
    (outside : ¬locals.bufPtr.toNat < size) (machine : SampledMachine size) :
    ((storeFullByte locals).exec (sampledDrive size) machine).1 = .undefined := by
  unfold storeFullByte
  rw [if_pos full]
  exact congrArg Prod.fst (dif_neg outside)

end Requests

end Iteration

section Steps

variable {samples : Nat → Sample} {count : Nat} {start : Fin size → Byte} {locals : DumpLocals}
  {machine : SampledMachine size}

theorem coming_zero (progress : Progress samples count start locals machine) :
    machine.world.coming 0 = samples count := by
  rw [progress.coming]
  rfl

theorem turned_coming (progress : Progress samples count start locals machine) :
    machine.world.turned.coming = fun later => samples (count + 1 + later) := by
  funext later
  change machine.world.coming (later + 1) = _
  rw [progress.coming]
  change samples (count + (later + 1)) = samples (count + 1 + later)
  rw [Nat.add_assoc, Nat.add_comm 1 later]

/-- A sample that is not a bit of the track moves nothing but the phase. -/
theorem progress_skipping {next : DumpLocals}
    (progress : Progress samples count start locals machine)
    (skips : (phase samples count).takes (samples count) = false)
    (state : next.state = stateOf (phase samples (count + 1)))
    (wait : ∀ asserted, phase samples (count + 1) = .reading asserted →
      (next.wait = 0 ↔ asserted = false))
    (counter : next.bitCounter = locals.bitCounter) (pointer : next.bufPtr = locals.bufPtr) :
    Progress samples (count + 1) start next { machine with world := machine.world.turned } := by
  have same := taken_skipping skips
  have sameBytes : fullBytes samples (count + 1) = fullBytes samples count := by
    rw [fullBytes, same, fullBytes]
  constructor
  · exact state
  · exact wait
  · rw [counter, same, progress.counter]
  · rw [pointer, sameBytes, progress.pointer]
  · rw [sameBytes]
    exact progress.dump
  · exact turned_coming progress

theorem iteration_waiting (progress : Progress samples count start locals machine)
    (waiting : phase samples count = .waiting) :
    (iteration locals).exec (sampledDrive size) machine =
        (.returned (DumpLocals.indexed locals (samples count)),
          { machine with world := machine.world.turned }) ∧
      (iteration locals).accesses (sampledDrive size) machine = [] ∧
        Progress samples (count + 1) start (DumpLocals.indexed locals (samples count))
          { machine with world := machine.world.turned } := by
  have state := progress.state
  rw [waiting] at state
  rw [iteration, state]
  refine ⟨?_, accesses_dumpWaitIndex locals machine, ?_⟩
  · rw [← coming_zero progress]
    exact exec_dumpWaitIndex locals machine
  · have next : phase samples (count + 1) =
        if (samples count).index = 0 then .waiting else .reading true := by
      rw [phase, waiting]
      rfl
    by_cases low : (samples count).index = 0
    · rw [if_pos low] at next
      apply progress_skipping progress (by rw [waiting]; rfl)
      · rw [next, DumpLocals.indexed, if_neg (not_not.mpr low)]
        exact state
      · intro asserted reading
        rw [next] at reading
        exact absurd reading (by simp)
      · rw [DumpLocals.indexed, if_neg (not_not.mpr low)]
      · rw [DumpLocals.indexed, if_neg (not_not.mpr low)]
    · rw [if_neg low] at next
      apply progress_skipping progress (by rw [waiting]; rfl)
      · rw [next, DumpLocals.indexed, if_pos low]
        rfl
      · intro asserted reading
        rw [next] at reading
        rw [DumpLocals.indexed, if_pos low, ← Phase.reading.inj reading]
        change (1 : Byte) = 0 ↔ true = false
        decide
      · rw [DumpLocals.indexed, if_pos low]
      · rw [DumpLocals.indexed, if_pos low]

theorem takes_reading {asserted : Bool} (reading : phase samples count = .reading asserted) :
    (phase samples count).takes (samples count) = false ↔
      (samples count).index ≠ 0 ∧ asserted = false := by
  rw [reading]
  change (asserted || (samples count).index == 0) = false ↔ _
  rw [Bool.or_eq_false_iff, beq_eq_false_iff_ne, and_comm]

theorem phase_reading_succ {asserted : Bool} (reading : phase samples count = .reading asserted) :
    phase samples (count + 1) =
      if (samples count).index = 0 then .reading false
      else if asserted then .reading true else .ended := by
  rw [phase, reading]
  rfl

/-- The end of the revolution as the loop sees it. -/
theorem stops_iff {asserted : Bool} (progress : Progress samples count start locals machine)
    (reading : phase samples count = .reading asserted) :
    ((samples count).index ≠ 0 ∧ (DumpLocals.sampled locals (samples count)).wait = 0) ↔
      (phase samples count).takes (samples count) = false := by
  rw [wait_sampled, progress.wait asserted reading, takes_reading reading]
  constructor
  · intro stops
    exact ⟨stops.1, stops.2.resolve_right stops.1⟩
  · intro stops
    exact ⟨stops.1, Or.inl stops.2⟩

theorem exec_iteration_reading {asserted : Bool}
    (progress : Progress samples count start locals machine)
    (reading : phase samples count = .reading asserted) :
    (iteration locals).exec (sampledDrive size) machine =
        (readSample locals (samples count)).exec (sampledDrive size)
          { machine with world := machine.world.turned } ∧
      (iteration locals).accesses (sampledDrive size) machine =
        (readSample locals (samples count)).accesses (sampledDrive size)
          { machine with world := machine.world.turned } := by
  have state := progress.state
  rw [reading] at state
  rw [iteration, state, ← coming_zero progress]
  exact ⟨exec_dumpRead locals machine, accesses_dumpRead locals machine⟩

theorem iteration_stopping {asserted : Bool}
    (progress : Progress samples count start locals machine)
    (reading : phase samples count = .reading asserted)
    (skips : (phase samples count).takes (samples count) = false) :
    (iteration locals).exec (sampledDrive size) machine =
        (.returned { DumpLocals.sampled locals (samples count) with state := .done },
          { machine with world := machine.world.turned }) ∧
      (iteration locals).accesses (sampledDrive size) machine = [] ∧
        Progress samples (count + 1) start
          { DumpLocals.sampled locals (samples count) with state := .done }
          { machine with world := machine.world.turned } := by
  obtain ⟨executed, accessed⟩ := exec_iteration_reading progress reading
  have stops := (stops_iff progress reading).mpr skips
  have ended : phase samples (count + 1) = .ended := by
    obtain ⟨high, deasserted⟩ := (takes_reading reading).mp skips
    rw [phase_reading_succ reading, if_neg high, deasserted]
    rfl
  rw [readSample, if_pos stops] at executed accessed
  refine ⟨executed, accessed, ?_⟩
  apply progress_skipping progress skips
  · rw [ended]
    rfl
  · intro again stillReading
    rw [ended] at stillReading
    exact absurd stillReading (by simp)
  · rfl
  · rfl

/-- The locals once another bit has been shifted in. -/
def DumpLocals.shifted (locals : DumpLocals) (sample : Sample) : DumpLocals :=
  (DumpLocals.sampled locals sample).shiftIn

theorem length_taking (takes : (phase samples count).takes (samples count) = true) :
    (taken samples (count + 1)).length = (taken samples count).length + 1 := by
  rw [taken_taking takes, List.length_append]
  rfl

theorem counter_shifted (progress : Progress samples count start locals machine) :
    (DumpLocals.shifted locals (samples count)).bitCounter.toNat =
      (taken samples count).length % 8 + 1 := by
  change (locals.bitCounter + 1).toNat = _
  rw [BitVec.toNat_add, progress.counter, show (1 : Byte).toNat = 1 from rfl]
  omega

/-- What the loop waits for stays in step with the phase while bits are taken. -/
theorem state_taking {asserted : Bool} (progress : Progress samples count start locals machine)
    (reading : phase samples count = .reading asserted)
    (takes : (phase samples count).takes (samples count) = true) :
    (DumpLocals.shifted locals (samples count)).state = stateOf (phase samples (count + 1)) ∧
      ∀ still, phase samples (count + 1) = .reading still →
        ((DumpLocals.shifted locals (samples count)).wait = 0 ↔ still = false) := by
  have waits := (wait_sampled locals (samples count)).trans
    (or_congr (progress.wait asserted reading) Iff.rfl)
  have state : (DumpLocals.shifted locals (samples count)).state = .read := by
    have before := progress.state
    rw [reading] at before
    exact before
  by_cases low : (samples count).index = 0
  · have next := phase_reading_succ reading
    rw [if_pos low] at next
    rw [next]
    constructor
    · exact state
    · intro still same
      rw [← Phase.reading.inj same]
      exact ⟨fun _ => rfl, fun _ => waits.mpr (Or.inr low)⟩
  · have high : asserted = true := by
      rw [reading] at takes
      change (asserted || (samples count).index == 0) = true at takes
      rw [Bool.or_eq_true, beq_iff_eq] at takes
      exact takes.resolve_right low
    have next := phase_reading_succ reading
    rw [if_neg low, high, if_pos rfl] at next
    rw [next]
    constructor
    · exact state
    · intro still same
      rw [← Phase.reading.inj same]
      rw [high] at waits
      exact waits.trans (or_iff_left low)

theorem exec_iteration_taking {asserted : Bool}
    (progress : Progress samples count start locals machine)
    (reading : phase samples count = .reading asserted)
    (takes : (phase samples count).takes (samples count) = true) :
    (iteration locals).exec (sampledDrive size) machine =
        (storeFullByte (DumpLocals.shifted locals (samples count))).exec (sampledDrive size)
          { machine with world := machine.world.turned } ∧
      (iteration locals).accesses (sampledDrive size) machine =
        (storeFullByte (DumpLocals.shifted locals (samples count))).accesses (sampledDrive size)
          { machine with world := machine.world.turned } := by
  have goesOn : ¬((samples count).index ≠ 0 ∧
      (DumpLocals.sampled locals (samples count)).wait = 0) := by
    rw [stops_iff progress reading, takes]
    decide
  obtain ⟨executed, accessed⟩ := exec_iteration_reading progress reading
  rw [readSample, if_neg goesOn] at executed accessed
  exact ⟨executed, accessed⟩

theorem iteration_shifting {asserted : Bool}
    (progress : Progress samples count start locals machine)
    (reading : phase samples count = .reading asserted)
    (takes : (phase samples count).takes (samples count) = true)
    (partly : fullBytes samples (count + 1) = fullBytes samples count) :
    (iteration locals).exec (sampledDrive size) machine =
        (.returned (DumpLocals.shifted locals (samples count)),
          { machine with world := machine.world.turned }) ∧
      (iteration locals).accesses (sampledDrive size) machine = [] ∧
        Progress samples (count + 1) start (DumpLocals.shifted locals (samples count))
          { machine with world := machine.world.turned } := by
  obtain ⟨executed, accessed⟩ := exec_iteration_taking progress reading takes
  have length := length_taking takes
  have counter := counter_shifted progress
  have room : (taken samples count).length % 8 + 1 ≠ 8 := by
    unfold fullBytes at partly
    omega
  have notFull : (DumpLocals.shifted locals (samples count)).bitCounter ≠ 8 := by
    intro full
    rw [full] at counter
    exact room counter.symm
  have unchanged : (storeFullByte (DumpLocals.shifted locals (samples count)) :
      FloppyProgram size DumpLocals) = .done (DumpLocals.shifted locals (samples count)) :=
    if_neg notFull
  rw [unchanged] at executed accessed
  obtain ⟨state, wait⟩ := state_taking progress reading takes
  refine ⟨executed, accessed, ⟨state, wait, ?_, ?_, ?_, turned_coming progress⟩⟩
  · rw [counter, length]
    unfold fullBytes at partly
    omega
  · rw [partly]
    exact progress.pointer
  · rw [partly]
    exact progress.dump

/-- The eighth bit of a byte. -/
theorem counter_full (progress : Progress samples count start locals machine)
    (takes : (phase samples count).takes (samples count) = true)
    (fills : fullBytes samples (count + 1) ≠ fullBytes samples count) :
    (DumpLocals.shifted locals (samples count)).bitCounter = 8 ∧
      (taken samples (count + 1)).length % 8 = 0 ∧
        fullBytes samples (count + 1) = fullBytes samples count + 1 := by
  have length := length_taking takes
  have counter := counter_shifted progress
  unfold fullBytes at fills ⊢
  refine ⟨?_, by omega, by omega⟩
  apply BitVec.eq_of_toNat_eq
  rw [counter, show (8 : Byte).toNat = 8 from rfl]
  omega

theorem iteration_filling {asserted : Bool} (progress : Progress samples count start locals machine)
    (reading : phase samples count = .reading asserted)
    (takes : (phase samples count).takes (samples count) = true)
    (fills : fullBytes samples (count + 1) ≠ fullBytes samples count)
    (bound : 2 * fullBytes samples count < size) (small : size ≤ 4294967294) :
    ∃ next after, (iteration locals).exec (sampledDrive size) machine = (.returned next, after) ∧
      (iteration locals).accesses (sampledDrive size) machine =
        [(.dump, 2 * fullBytes samples count)] ∧
          Progress samples (count + 1) start next after := by
  obtain ⟨executed, accessed⟩ := exec_iteration_taking progress reading takes
  obtain ⟨full, even, oneMore⟩ := counter_full progress takes fills
  obtain ⟨state, wait⟩ := state_taking progress reading takes
  have pointer : (DumpLocals.shifted locals (samples count)).bufPtr.toNat =
      2 * fullBytes samples count := progress.pointer
  have inside : (DumpLocals.shifted locals (samples count)).bufPtr.toNat < size := by
    rw [pointer]
    exact bound
  obtain ⟨stored, used⟩ := exec_storeFullByte full inside
    { machine with world := machine.world.turned }
  rw [stored] at executed
  rw [used, pointer] at accessed
  refine ⟨_, _, executed, accessed, ⟨state, wait, ?_, ?_, ?_, turned_coming progress⟩⟩
  · exact even.symm
  · change ((DumpLocals.shifted locals (samples count)).bufPtr + 1 + 1).toNat = _
    rw [BitVec.toNat_add, BitVec.toNat_add, pointer, oneMore, show (1 : U32).toNat = 1 from rfl]
    omega
  · have slot : (⟨(DumpLocals.shifted locals (samples count)).bufPtr.toNat, inside⟩ : Fin size) =
        ⟨2 * fullBytes samples count, bound⟩ := Fin.ext pointer
    change Function.update machine.memory.dump ⟨_, inside⟩ 0 = _
    rw [slot, oneMore, progress.dump, update_blanked]

theorem iteration_faults {asserted : Bool} (progress : Progress samples count start locals machine)
    (reading : phase samples count = .reading asserted)
    (takes : (phase samples count).takes (samples count) = true)
    (fills : fullBytes samples (count + 1) ≠ fullBytes samples count)
    (outside : ¬2 * fullBytes samples count < size) :
    ((iteration locals).exec (sampledDrive size) machine).1 = .undefined := by
  obtain ⟨executed, _⟩ := exec_iteration_taking progress reading takes
  have pointer : (DumpLocals.shifted locals (samples count)).bufPtr.toNat =
      2 * fullBytes samples count := progress.pointer
  rw [executed]
  apply storeFullByte_faults (counter_full progress takes fills).1
  rw [pointer]
  exact outside

theorem fullBytes_skipping (skips : (phase samples count).takes (samples count) = false) :
    fullBytes samples (count + 1) = fullBytes samples count := by
  rw [fullBytes, taken_skipping skips, fullBytes]

/-- One iteration, as long as a byte that it fills has its position in the
buffer: the loop goes on, and it has used at most that position. -/
theorem iteration_progress (progress : Progress samples count start locals machine)
    (running : phase samples count ≠ .ended) (fits : Fits size samples (count + 1))
    (small : size ≤ 4294967294) :
    ∃ next after, (iteration locals).exec (sampledDrive size) machine = (.returned next, after) ∧
      (∀ used ∈ (iteration locals).accesses (sampledDrive size) machine,
        used.2 + 2 = 2 * fullBytes samples (count + 1)) ∧
          Progress samples (count + 1) start next after := by
  cases here : phase samples count with
  | waiting =>
      obtain ⟨executed, accessed, next⟩ := iteration_waiting progress here
      refine ⟨_, _, executed, ?_, next⟩
      rw [accessed]
      exact List.forall_mem_nil _
  | reading asserted =>
      cases takes : (phase samples count).takes (samples count) with
      | false =>
          obtain ⟨executed, accessed, next⟩ := iteration_stopping progress here takes
          refine ⟨_, _, executed, ?_, next⟩
          rw [accessed]
          exact List.forall_mem_nil _
      | true =>
          by_cases partly : fullBytes samples (count + 1) = fullBytes samples count
          · obtain ⟨executed, accessed, next⟩ := iteration_shifting progress here takes partly
            refine ⟨_, _, executed, ?_, next⟩
            rw [accessed]
            exact List.forall_mem_nil _
          · have oneMore := (counter_full progress takes partly).2.2
            have bound : 2 * fullBytes samples count < size := by
              unfold Fits at fits
              omega
            obtain ⟨next, after, executed, accessed, progressed⟩ :=
              iteration_filling progress here takes partly bound small
            refine ⟨next, after, executed, ?_, progressed⟩
            rw [accessed]
            intro used member
            rw [List.mem_singleton.mp member, oneMore]
            rfl
  | ended => exact absurd here running

/-- The iteration that fills a byte without a position left for it. -/
theorem iteration_overrun (progress : Progress samples count start locals machine)
    (fitsNow : Fits size samples count) (overruns : ¬Fits size samples (count + 1)) :
    ((iteration locals).exec (sampledDrive size) machine).1 = .undefined := by
  have takes : (phase samples count).takes (samples count) = true := by
    by_contra skips
    have same := fullBytes_skipping (Bool.eq_false_iff.mpr skips)
    rw [Fits, same] at overruns
    exact overruns fitsNow
  have fills : fullBytes samples (count + 1) ≠ fullBytes samples count := by
    intro same
    rw [Fits, same] at overruns
    exact overruns fitsNow
  have oneMore := (counter_full progress takes fills).2.2
  have outside : ¬2 * fullBytes samples count < size := by
    unfold Fits at overruns
    omega
  cases here : phase samples count with
  | waiting =>
      rw [here] at takes
      exact absurd takes (by simp [Phase.takes])
  | reading asserted => exact iteration_faults progress here takes fills outside
  | ended =>
      rw [here] at takes
      exact absurd takes (by simp [Phase.takes])

end Steps

section Loops

variable {samples : Nat → Sample} {count : Nat} {start : Fin size → Byte} {locals : DumpLocals}
  {machine : SampledMachine size}

theorem running_iff (progress : Progress samples count start locals machine) :
    locals.state ≠ .done ↔ phase samples count ≠ .ended := by
  rw [progress.state]
  cases phase samples count with
  | waiting => simp [stateOf]
  | reading asserted => simp [stateOf]
  | ended => simp [stateOf]

theorem dumpLoop_ended (progress : Progress samples count start locals machine)
    (ended : phase samples count = .ended) (budget : Nat) :
    (dumpLoop (budget + 1) locals : FloppyProgram size DumpLocals) = .done locals := by
  have state := progress.state
  rw [ended] at state
  rw [dumpLoop, state]
  rfl

/-- While every full byte has its position, the loop does not leave the buffer. -/
theorem dumpLoop_inside (progress : Progress samples count start locals machine)
    (fits : ∀ later, Fits size samples later) (small : size ≤ 4294967294) (budget : Nat) :
    ((dumpLoop budget locals).exec (sampledDrive size) machine).1 ≠ .undefined := by
  induction budget generalizing count locals machine with
  | zero => simp [dumpLoop, exec]
  | succ budget ih =>
      by_cases ended : phase samples count = .ended
      · rw [dumpLoop_ended progress ended]
        simp [exec]
      · obtain ⟨next, after, executed, _, progressed⟩ :=
          iteration_progress progress ended (fits _) small
        rw [dumpLoop_succ ((running_iff progress).mpr ended), exec_bind, executed]
        exact ih progressed

/-- A byte without a position is reached, whatever came before it. -/
theorem dumpLoop_overrun (steps budget : Nat) (enough : steps < budget)
    (progress : Progress samples count start locals machine) (fits : Fits size samples count)
    (overruns : ¬Fits size samples (count + steps)) (small : size ≤ 4294967294) :
    ((dumpLoop budget locals).exec (sampledDrive size) machine).1 = .undefined := by
  induction steps generalizing count locals machine budget with
  | zero => exact absurd fits overruns
  | succ steps ih =>
      cases budget with
      | zero => exact absurd enough (Nat.not_lt_zero _)
      | succ budget =>
          have running : phase samples count ≠ .ended := by
            intro ended
            rw [Fits, fullBytes, (ended_stays ended (steps + 1)).2] at overruns
            exact overruns fits
          rw [dumpLoop_succ ((running_iff progress).mpr running)]
          by_cases fitsNext : Fits size samples (count + 1)
          · obtain ⟨next, after, executed, _, progressed⟩ :=
              iteration_progress progress running fitsNext small
            rw [exec_bind, executed]
            apply ih budget (Nat.lt_of_succ_lt_succ enough) progressed fitsNext
            rw [Nat.add_right_comm]
            exact overruns
          · exact exec_bind_undefined (iteration_overrun progress fits fitsNext) _

/-- A loop that returns has come to the end of the revolution, and has used the
positions of full bytes only. -/
theorem dumpLoop_returned (budget : Nat) (progress : Progress samples count start locals machine)
    (fits : Fits size samples count) (small : size ≤ 4294967294) {final : DumpLocals}
    {last : SampledMachine size}
    (ran : (dumpLoop budget locals).exec (sampledDrive size) machine = (.returned final, last)) :
    ∃ ends, count ≤ ends ∧ phase samples ends = .ended ∧ Fits size samples ends ∧
      Progress samples ends start final last ∧
        ∀ used ∈ (dumpLoop budget locals).accesses (sampledDrive size) machine,
          used.2 < 2 * fullBytes samples ends := by
  induction budget generalizing count locals machine with
  | zero => exact absurd (Prod.mk.inj ran).1 (by simp)
  | succ budget ih =>
      by_cases ended : phase samples count = .ended
      · rw [dumpLoop_ended progress ended] at ran ⊢
        rw [exec_done, Prod.mk.injEq, Outcome.returned.injEq] at ran
        rw [← ran.1, ← ran.2]
        exact ⟨count, Nat.le_refl count, ended, fits, progress, fun _ member =>
          absurd member List.not_mem_nil⟩
      · rw [dumpLoop_succ ((running_iff progress).mpr ended)] at ran ⊢
        have fitsNext : Fits size samples (count + 1) := by
          by_contra overruns
          have faulted := exec_bind_undefined (iteration_overrun progress fits overruns)
            fun next => dumpLoop budget next
          rw [ran] at faulted
          exact absurd faulted (by simp)
        obtain ⟨next, after, executed, accessed, progressed⟩ :=
          iteration_progress progress ended fitsNext small
        rw [exec_bind, executed, continueWith_returned] at ran
        obtain ⟨ends, later, ended, fitted, finished, used⟩ := ih progressed fitsNext ran
        refine ⟨ends, Nat.le_of_succ_le later, ended, fitted, finished, ?_⟩
        rw [accesses_bind, executed, followedBy]
        intro position member
        rcases List.mem_append.mp member with early | late
        · have below : fullBytes samples (count + 1) ≤ fullBytes samples ends :=
            fullBytes_mono later
          have here := accessed position early
          omega
        · exact used position late

end Loops

section Approach

variable {track : U32}

/-- What comes before the loop. -/
def approach (budget : Nat) (track : U32) : FloppyProgram size Unit := do
  floppySeek budget track
  floppyEn
  spinOn

/-- What comes after the loop, with the number that the driver prints. -/
def finishDump (locals : DumpLocals) : FloppyProgram size (Int × Option U32) := do
  spinOff
  floppyDis
  return (0, some locals.bufPtr)

/-- `floppy_dump_track` with the number of bytes that it reports as read. -/
def dumpTrackReport (budget : Nat) (track : U32) : FloppyProgram size (Int × Option U32) := do
  if floppyTracks - 1 < track.toNat then return (-einval, none)
  approach budget track
  let locals ← dumpLoop budget .initial
  finishDump locals

theorem floppyDumpTrack_eq (budget : Nat) (track : U32) :
    (floppyDumpTrack budget track : FloppyProgram size Int) =
      (dumpTrackReport budget track).bind fun report => .done report.1 := by
  unfold floppyDumpTrack dumpTrackReport approach
  by_cases illegal : floppyTracks - 1 < track.toNat
  · rw [if_pos illegal, if_pos illegal]
    rfl
  · rw [if_neg illegal, if_neg illegal]
    simp only [bind_eq, Program.bind_assoc]
    rfl

theorem dumpTrackReport_legal (legal : track.toNat < floppyTracks) (budget : Nat) :
    (dumpTrackReport budget track : FloppyProgram size (Int × Option U32)) =
      (approach budget track).bind fun _ => (dumpLoop budget .initial).bind finishDump :=
  if_neg (by omega)

/-- Setting lines and moving the shadow of the head. -/
def positioning (size : Nat) : Effects (floppySignature size) where
  sends call := ∃ signal value, call = .gpiodSetValue signal value
  changes change := ∀ handler, (change handler).dump = handler.dump
  visits _ _ := False

theorem within_setSignal (signal : Signal) (value : Bool) :
    (setSignal signal value : FloppyProgram size Unit).Within (positioning size) :=
  ⟨⟨signal, value, rfl⟩, fun _ => trivial⟩

theorem within_floppyStep (direction : StepDirection) :
    (floppyStep direction : FloppyProgram size Unit).Within (positioning size) := by
  apply within_bind (within_setSignal .step false)
  intro _
  have pulse : (Program.bind (setSignal .step true) fun _ => setSignal .step false :
      FloppyProgram size Unit).Within (positioning size) :=
    within_bind (within_setSignal .step true) fun _ => within_setSignal .step false
  cases direction with
  | inwards =>
      exact within_bind (within_setSignal .dir true) fun _ => ⟨fun _ => rfl, pulse⟩
  | outwards =>
      exact within_bind (within_setSignal .dir false) fun _ => ⟨fun _ => rfl, pulse⟩

theorem within_seekLoop (budget : Nat) :
    (seekLoop track budget : FloppyProgram size Unit).Within (positioning size) := by
  induction budget with
  | zero => trivial
  | succ budget ih =>
      apply within_bind (within_field id)
      intro handler
      apply within_if _ (within_done ())
      apply within_if
      · exact within_bind (within_floppyStep .outwards) fun _ => ih
      · exact within_bind (within_floppyStep .inwards) fun _ => ih

theorem within_approach (budget : Nat) :
    (approach budget track : FloppyProgram size Unit).Within (positioning size) := by
  have seek : (floppySeek budget track : FloppyProgram size Unit).Within (positioning size) := by
    apply within_bind (within_field id)
    intro handler
    apply within_if (within_done ())
    apply within_bind (within_setSignal .drvsb true)
    intro _
    apply within_bind (within_seekLoop budget)
    intro _
    exact within_setSignal .drvsb false
  apply within_bind seek
  intro _
  apply within_bind (within_setSignal .drvsb true)
  intro _
  exact within_setSignal .moteb true

/-- Nothing before the loop touches the buffer or the sensors. -/
theorem approach_keeps (track : U32) (budget : Nat) (machine : SampledMachine size) :
    (approach budget track).accesses (sampledDrive size) machine = [] ∧
      ((approach budget track).exec (sampledDrive size) machine).2.memory.dump =
          machine.memory.dump ∧
        ((approach budget track).exec (sampledDrive size) machine).2.world = machine.world := by
  constructor
  · apply List.eq_nil_iff_forall_not_mem.mpr
    intro used member
    exact accesses_within (within_approach budget) member
  · apply exec_preserves (fun reached : SampledMachine size =>
      reached.memory.dump = machine.memory.dump ∧ reached.world = machine.world)
      (within_approach budget)
    · intro call reached sent kept
      obtain ⟨signal, value, same⟩ := sent
      rw [same]
      exact kept
    · intro change reached changes kept
      exact ⟨(changes reached.memory).trans kept.1, kept.2⟩
    · exact ⟨rfl, rfl⟩

section Arrival

variable {World : Type} (env : Environment (floppySignature size) World)

theorem exec_floppyStep (direction : StepDirection)
    (machine : Machine (floppySignature size) World) :
    ∃ world, (floppyStep direction).exec env machine =
      (.returned (), ⟨machine.memory.stepped direction, world⟩) := by
  cases direction with
  | inwards => exact ⟨_, rfl⟩
  | outwards => exact ⟨_, rfl⟩

theorem seekLoop_returns (legal : track.toNat < floppyTracks) (budget : Nat)
    (machine : Machine (floppySignature size) World)
    (enough : distance machine.memory.curTrack.toNat track.toNat < budget) :
    ∃ last, (seekLoop track budget).exec env machine = (.returned (), last) := by
  induction budget generalizing machine with
  | zero => exact absurd enough (Nat.not_lt_zero _)
  | succ budget ih =>
      rw [exec_seekLoop_succ]
      by_cases apart : machine.memory.curTrack ≠ track
      · obtain ⟨moved, nearer⟩ := curTrack_stepped_towards legal apart
        obtain ⟨world, stepped⟩ :=
          exec_floppyStep env (towards track machine.memory.curTrack) machine
        rw [if_pos apart, exec_bind, stepped, continueWith_returned]
        apply ih
        change distance (machine.memory.stepped _).curTrack.toNat track.toNat < budget
        rw [moved]
        omega
      · rw [if_neg apart]
        exact ⟨machine, rfl⟩

/-- With enough iterations the drive is on its track and spinning. -/
theorem approach_returns (legal : track.toNat < floppyTracks) (budget : Nat)
    (machine : Machine (floppySignature size) World)
    (enough : distance machine.memory.curTrack.toNat track.toNat < budget) :
    ∃ last, (approach budget track).exec env machine = (.returned (), last) := by
  have seek : ∃ last, (floppySeek budget track).exec env machine = (.returned (), last) := by
    rw [exec_floppySeek]
    by_cases accepted : machine.memory.homed = true ∧ track.toNat < floppyTracks
    · rw [if_pos accepted]
      obtain ⟨last, arrived⟩ := seekLoop_returns env legal budget
        ⟨machine.memory, (env.respond (.gpiodSetValue .drvsb true) machine.world).2⟩ enough
      change ∃ last, ((seekLoop track budget).bind fun _ => setSignal .drvsb false).exec env
        ⟨machine.memory, (env.respond (.gpiodSetValue .drvsb true) machine.world).2⟩ = _
      rw [exec_bind, arrived]
      exact ⟨_, rfl⟩
    · rw [if_neg accepted]
      exact ⟨machine, rfl⟩
  obtain ⟨arrived, sought⟩ := seek
  change ∃ last, ((floppySeek budget track).bind fun _ =>
    Program.bind floppyEn fun _ => spinOn).exec env machine = _
  rw [exec_bind, sought]
  exact ⟨_, rfl⟩

end Arrival

end Approach

section Dumps

variable {track : U32}

theorem progress_initial (machine : SampledMachine size) :
    Progress machine.world.coming 0 machine.memory.dump .initial machine := by
  constructor
  · rfl
  · intro asserted reading
    exact absurd reading (by simp [phase])
  · rfl
  · rw [show fullBytes machine.world.coming 0 = 0 from Nat.zero_div 8]
    rfl
  · rw [show fullBytes machine.world.coming 0 = 0 from Nat.zero_div 8, blanked_zero]
  · funext later
    rw [Nat.zero_add]

/-- The loop after any way to approach the track. -/
theorem progress_approached (budget : Nat) {machine ready : SampledMachine size}
    {outcome : Outcome Unit}
    (ran : (approach budget track).exec (sampledDrive size) machine = (outcome, ready)) :
    Progress machine.world.coming 0 machine.memory.dump .initial ready := by
  obtain ⟨_, sameDump, sameWorld⟩ := approach_keeps track budget machine
  rw [ran] at sameDump sameWorld
  have progress := progress_initial ready
  rw [show ready.memory.dump = machine.memory.dump from sameDump,
    show ready.world = machine.world from sameWorld] at progress
  exact progress

theorem exec_finishDump (locals : DumpLocals) (machine : SampledMachine size) :
    (finishDump locals).exec (sampledDrive size) machine =
      (.returned (0, some locals.bufPtr), machine) := rfl

theorem approach_defined (budget : Nat) (machine : SampledMachine size) :
    ((approach budget track).exec (sampledDrive size) machine).1 ≠ .undefined := by
  rw [← accesses_inside_iff, (approach_keeps track budget machine).1]
  intro used member
  exact absurd member List.not_mem_nil

/-- A legal dump is undefined exactly when its loop is. -/
theorem exec_floppyDumpTrack_undefined (legal : track.toNat < floppyTracks) (budget : Nat)
    (machine : SampledMachine size) :
    ((floppyDumpTrack budget track).exec (sampledDrive size) machine).1 = .undefined ↔
      ∃ ready, (approach budget track).exec (sampledDrive size) machine = (.returned (), ready) ∧
        ((dumpLoop budget .initial).exec (sampledDrive size) ready).1 = .undefined := by
  rw [floppyDumpTrack_eq, dumpTrackReport_legal legal]
  simp only [Program.bind_assoc]
  rw [exec_bind_undefined_iff, or_iff_right (approach_defined budget machine)]
  constructor
  · intro reached
    obtain ⟨_, ready, ran, loops⟩ := reached
    rw [exec_bind_undefined_iff] at loops
    refine ⟨ready, ran, loops.resolve_right ?_⟩
    intro later
    obtain ⟨locals, after, _, faulted⟩ := later
    rw [exec_bind, exec_finishDump] at faulted
    exact absurd faulted (by simp)
  · intro reached
    obtain ⟨ready, ran, loops⟩ := reached
    exact ⟨(), ready, ran, exec_bind_undefined loops _⟩

theorem dump_illegal (illegal : ¬track.toNat < floppyTracks) (budget : Nat)
    (machine : SampledMachine size) :
    (floppyDumpTrack budget track).accesses (sampledDrive size) machine = [] := by
  have tracksIs : floppyTracks = 80 := rfl
  have refused : (floppyDumpTrack budget track : FloppyProgram size Int) = .done (-einval) :=
    if_pos (by omega)
  rw [refused]
  rfl

theorem fits_iff (samples : Nat → Sample) (count : Nat) :
    Fits dumpSize samples count ↔ (taken samples count).length < 8 * 16001 := by
  unfold Fits fullBytes dumpSize
  omega

theorem fits_zero (samples : Nat → Sample) : Fits dumpSize samples 0 :=
  (fits_iff samples 0).mpr (Nat.mul_pos (by decide) (by decide))

/-- A full byte too many is stored outside the buffer, once the dump is followed
long enough. -/
theorem dump_overruns (legal : track.toNat < floppyTracks) (handler : KswfloppyData dumpSize)
    (stream : SensorStream) {count : Nat} (overruns : ¬Fits dumpSize stream.coming count) :
    ∃ budget, ((floppyDumpTrack budget track).exec (sampledDrive dumpSize)
      ⟨handler, stream⟩).1 = .undefined := by
  let budget := distance handler.curTrack.toNat track.toNat + count + 1
  obtain ⟨ready, arrived⟩ := approach_returns (sampledDrive dumpSize) legal budget
    ⟨handler, stream⟩ (by dsimp only [budget]; omega)
  have overrunsFromStart : ¬Fits dumpSize stream.coming (0 + count) := by
    rw [Nat.zero_add]
    exact overruns
  have loops := dumpLoop_overrun count budget (by dsimp only [budget]; omega)
    (progress_approached budget arrived) (fits_zero stream.coming) overrunsFromStart (by decide)
  exact ⟨budget, (exec_floppyDumpTrack_undefined legal budget ⟨handler, stream⟩).mpr
    ⟨ready, arrived, loops⟩⟩

theorem dump_inside_of_fits (legal : track.toNat < floppyTracks) (handler : KswfloppyData dumpSize)
    (stream : SensorStream) (fits : ∀ count, Fits dumpSize stream.coming count) (budget : Nat) :
    ((floppyDumpTrack budget track).exec (sampledDrive dumpSize) ⟨handler, stream⟩).1 ≠
      .undefined := by
  intro faulted
  obtain ⟨ready, arrived, loops⟩ := (exec_floppyDumpTrack_undefined legal budget _).mp faulted
  exact dumpLoop_inside (progress_approached budget arrived) fits (by decide) budget loops

/-- A dump stays inside its buffer, however long it is followed, exactly when the
sensors show it at most 16000 full bytes. -/
theorem dump_inside_iff (track : U32) (handler : KswfloppyData dumpSize) (stream : SensorStream) :
    (∀ budget, ∀ used ∈
      (floppyDumpTrack budget track).accesses (sampledDrive dumpSize) ⟨handler, stream⟩,
        used.2 < dumpSize) ↔
      (track.toNat < floppyTracks →
        ∀ count, (taken stream.coming count).length < 8 * 16001) := by
  simp only [← fits_iff]
  constructor
  · intro inside legal count
    by_contra overruns
    obtain ⟨budget, faulted⟩ := dump_overruns legal handler stream overruns
    exact (accesses_inside_iff _ _).mp (inside budget) faulted
  · intro fits budget
    by_cases legal : track.toNat < floppyTracks
    · exact (accesses_inside_iff _ _).mpr
        (dump_inside_of_fits legal handler stream (fits legal) budget)
    · rw [dump_illegal legal]
      intro used member
      exact absurd member List.not_mem_nil

/-- INDEX stays asserted, and RDATA low. -/
def stuckIndex : SensorStream := ⟨⟨0, 0⟩, fun _ => ⟨1, 0⟩⟩

theorem taken_stuckIndex (count : Nat) :
    phase stuckIndex.coming (count + 1) = .reading true ∧
      (taken stuckIndex.coming (count + 1)).length = count := by
  induction count with
  | zero => exact ⟨rfl, rfl⟩
  | succ count ih =>
      obtain ⟨reading, length⟩ := ih
      constructor
      · rw [phase, reading]
        rfl
      · rw [length_taking (by rw [reading]; rfl), length]

/-- Such a dump of track 0 leaves the buffer. -/
theorem stuck_index_overruns :
    ¬∀ budget, ∀ used ∈
      (floppyDumpTrack budget 0).accesses (sampledDrive dumpSize) ⟨.zeroed dumpSize, stuckIndex⟩,
        used.2 < dumpSize := by
  intro inside
  have overruns : ¬Fits dumpSize stuckIndex.coming (128008 + 1) := by
    rw [fits_iff, (taken_stuckIndex 128008).2]
    decide
  have legal : (0 : U32).toNat < floppyTracks := by decide
  obtain ⟨budget, faulted⟩ := dump_overruns legal (.zeroed dumpSize) stuckIndex overruns
  exact (accesses_inside_iff _ _).mp (inside budget) faulted

/-- A dump that returns has read one revolution, reports two bytes for each full
one, and has used no position beyond what it reports. -/
theorem dump_returned (legal : track.toNat < floppyTracks) {budget : Nat} {code : Int}
    {machine last : SampledMachine dumpSize}
    (ran : (floppyDumpTrack budget track).exec (sampledDrive dumpSize) machine =
      (.returned code, last)) :
    ∃ final ends, (dumpTrackReport budget track).exec (sampledDrive dumpSize) machine =
        (.returned (0, some final.bufPtr), last) ∧
      phase machine.world.coming ends = .ended ∧ Fits dumpSize machine.world.coming ends ∧
        Progress machine.world.coming ends machine.memory.dump final last ∧
          ∀ used ∈ (floppyDumpTrack budget track).accesses (sampledDrive dumpSize) machine,
            used.2 < 2 * fullBytes machine.world.coming ends := by
  rw [floppyDumpTrack_eq] at ran ⊢
  obtain ⟨report, after, reported, coded⟩ := exec_bind_returned ran
  rw [exec_done, Prod.mk.injEq] at coded
  rw [dumpTrackReport_legal legal] at reported ⊢
  obtain ⟨_, ready, arrived, rest⟩ := exec_bind_returned reported
  obtain ⟨final, looped, loops, finished⟩ := exec_bind_returned rest
  obtain ⟨ends, _, ended, fits, progress, used⟩ := dumpLoop_returned budget
    (progress_approached budget arrived) (fits_zero machine.world.coming) (by decide) loops
  rw [exec_finishDump, Prod.mk.injEq] at finished
  rw [← coded.2, ← finished.2]
  refine ⟨final, ends, ?_, ended, fits, progress, ?_⟩
  · rw [exec_bind, arrived, continueWith_returned, exec_bind, loops, continueWith_returned,
      exec_finishDump]
  · intro position member
    apply used position
    rw [Program.bind_assoc, accesses_bind, (approach_keeps track budget machine).1, arrived,
      followedBy, Program.bind_assoc, accesses_bind, loops, followedBy,
      List.nil_append] at member
    rcases List.mem_append.mp member with early | late
    · exact early
    · exact absurd late List.not_mem_nil

/-- What it means that a dump has decoded the bits of the track: bytes with the
least significant bit first, their number, and nothing else written. -/
structure Decodes (bits : List U32) (reported : U32) (used : List (FloppyArray × Nat))
    (dump : Fin dumpSize → Byte) : Prop where
  bytes : ∀ position < bits.length / 8, ∃ inside : position < dumpSize,
    ∀ bit < 8, (dump ⟨position, inside⟩).getLsbD bit =
      (bits.getD (8 * position + bit) 0).getLsbD 0
  count : reported.toNat = bits.length / 8
  inside : ∀ stored ∈ used, stored.2 < bits.length / 8

/-- A dump that returns has decoded the track exactly when there was no full byte
to decode. -/
theorem track_decoded_iff (legal : track.toNat < floppyTracks) {budget : Nat} {code : Int}
    {machine last : SampledMachine dumpSize}
    (ran : (floppyDumpTrack budget track).exec (sampledDrive dumpSize) machine =
      (.returned code, last)) :
    ∃ reported ends, (dumpTrackReport budget track).exec (sampledDrive dumpSize) machine =
        (.returned (0, some reported), last) ∧
      phase machine.world.coming ends = .ended ∧
        (Decodes (taken machine.world.coming ends) reported
            ((floppyDumpTrack budget track).accesses (sampledDrive dumpSize) machine)
            last.memory.dump ↔
          (taken machine.world.coming ends).length < 8) := by
  obtain ⟨final, ends, executed, ended, _, progress, used⟩ := dump_returned legal ran
  refine ⟨final.bufPtr, ends, executed, ended, ?_⟩
  have pointer := progress.pointer
  unfold fullBytes at pointer used
  constructor
  · intro decodes
    have count := decodes.count
    omega
  · intro short
    constructor
    · intro position bound
      omega
    · omega
    · intro stored member
      have below := used stored member
      omega

/-- INDEX goes low for one iteration only. -/
def shortRevolution : SensorStream :=
  ⟨⟨0, 0⟩, fun count => ⟨if count = 1 then 0 else 1, 1⟩⟩

theorem short_revolution_decoded :
    ∃ last reported ends, (dumpTrackReport 4 0).exec (sampledDrive dumpSize)
        ⟨.zeroed dumpSize, shortRevolution⟩ = (.returned (0, some reported), last) ∧
      phase shortRevolution.coming ends = .ended ∧
        (Decodes (taken shortRevolution.coming ends) reported
            ((floppyDumpTrack 4 0).accesses (sampledDrive dumpSize)
              ⟨.zeroed dumpSize, shortRevolution⟩) last.memory.dump ↔
          (taken shortRevolution.coming ends).length < 8) :=
  ⟨_, @track_decoded_iff 0 (by decide) 4 0 ⟨.zeroed dumpSize, shortRevolution⟩ _ rfl⟩

/-- One full byte of ones. -/
def oneByte : SensorStream :=
  ⟨⟨0, 0⟩, fun count => ⟨if count = 0 ∨ count = 9 then 1 else 0, 1⟩⟩

theorem one_byte_not_decoded :
    phase oneByte.coming 10 = .ended ∧ taken oneByte.coming 10 = List.replicate 8 1 ∧
      ∃ last, (floppyDumpTrack 11 0).exec (sampledDrive dumpSize) ⟨.zeroed dumpSize, oneByte⟩ =
          (.returned 0, last) ∧
        (dumpTrackReport 11 0).exec (sampledDrive dumpSize) ⟨.zeroed dumpSize, oneByte⟩ =
          (.returned (0, some 2), last) ∧
        ¬Decodes (taken oneByte.coming 10) 2
          ((floppyDumpTrack 11 0).accesses (sampledDrive dumpSize) ⟨.zeroed dumpSize, oneByte⟩)
          last.memory.dump := by
  refine ⟨by decide, by decide, _, rfl, rfl, ?_⟩
  intro decodes
  have count := decodes.count
  rw [show taken oneByte.coming 10 = List.replicate 8 1 by decide] at count
  exact absurd count (by decide)

end Dumps

end Ebaz4205.FloppyTrackDecoding
