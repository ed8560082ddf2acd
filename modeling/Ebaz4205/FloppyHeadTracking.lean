import Ebaz4205.DriverProgramRules
import Ebaz4205.KswfloppyDriver
import Ebaz4205.PartialRuns

/-!
# The driver knows where the head is

Against a healthy drive the track counter of a homed instance is the position
of the head, through any sequence of homing, seeking and dumping. The invariant
is established at track 0, which homing reaches from every position it can
count down from.
-/

namespace Ebaz4205.FloppyHeadTracking

open BitMask DriverProgram DriverProgram.Program KswfloppyDriver PartialRuns PulsecapDriver

set_option autoImplicit false

/-- A drive: the position of its head, the levels of the lines, and what the
sensors other than TRK00 will read. -/
structure Drive where
  head : Nat
  asserted : Signal → Bool
  readings : Nat → Signal → U32

namespace Drive

/-- The end of a STEP pulse moves the head of a selected drive, by the DIR line. -/
def moved (drive : Drive) (signal : Signal) (value : Bool) : Nat :=
  if signal = .step ∧ value = false ∧ drive.asserted .step = true ∧ drive.asserted .drvsb = true
  then if drive.asserted .dir then drive.head + 1 else drive.head - 1
  else drive.head

def set (drive : Drive) (signal : Signal) (value : Bool) : Drive :=
  { drive with
    head := drive.moved signal value
    asserted := Function.update drive.asserted signal value }

def sense (drive : Drive) (signal : Signal) : U32 :=
  if signal = .trk00 then if drive.head = 0 then 1 else 0 else drive.readings 0 signal

end Drive

def healthyDrive (size : Nat) : Environment (floppySignature size) Drive where
  respond
    | .gpiodSetValue signal value, drive => ((), drive.set signal value)
    | .gpiodGetValue signal, drive =>
        (drive.sense signal,
          { drive with readings := fun position => drive.readings (position + 1) })

variable {size : Nat}

abbrev FloppyMachine (size : Nat) := Machine (floppySignature size) Drive

section Lines

/-- The STEP line is down, DRVSB is as given, and head and instance are known. -/
structure Rests (selected : Bool) (head : Nat) (handler : KswfloppyData size)
    (machine : FloppyMachine size) : Prop where
  step : machine.world.asserted .step = false
  drvsb : machine.world.asserted .drvsb = selected
  head : machine.world.head = head
  memory : machine.memory = handler

variable {selected : Bool} {head : Nat} {handler : KswfloppyData size}

def setSignal (signal : Signal) (value : Bool) : FloppyProgram size Unit :=
  .call (.gpiodSetValue signal value) .done

theorem establishes_setSignal {pre : FloppyMachine size → Prop}
    {post : Unit → FloppyMachine size → Prop} (signal : Signal) (value : Bool)
    (reached : ∀ machine, pre machine →
      post () ⟨machine.memory, machine.world.set signal value⟩) :
    Establishes (healthyDrive size) pre (setSignal signal value) post :=
  ⟨fun machine holds => ⟨(), _, rfl, reached machine holds⟩⟩

theorem asserted_set (drive : Drive) (signal other : Signal) (value : Bool) :
    (drive.set signal value).asserted other =
      if other = signal then value else drive.asserted other :=
  Function.update_apply _ _ _ _

theorem head_set_of_no_pulse (drive : Drive) (signal : Signal) (value : Bool)
    (noPulse : signal ≠ .step ∨ value = true ∨ drive.asserted .step = false) :
    (drive.set signal value).head = drive.head := by
  apply if_neg
  intro condition
  rcases noPulse with different | up | low
  · exact different condition.1
  · rw [up] at condition
    exact absurd condition.2.1 (by decide)
  · rw [low] at condition
    exact absurd condition.2.2.1 (by decide)

/-- Any line but STEP and DRVSB can be set without an effect on the head. -/
theorem establishes_setOther {signal : Signal} {value : Bool} (notStep : .step ≠ signal)
    (notSelect : .drvsb ≠ signal) :
    Establishes (healthyDrive size) (Rests selected head handler) (setSignal signal value)
      fun _ => Rests selected head handler := by
  apply establishes_setSignal
  intro machine rests
  constructor
  · rw [asserted_set, if_neg notStep, rests.step]
  · rw [asserted_set, if_neg notSelect, rests.drvsb]
  · rw [head_set_of_no_pulse _ _ _ (Or.inl notStep.symm), rests.head]
  · exact rests.memory

theorem establishes_select (value : Bool) :
    Establishes (healthyDrive size) (Rests selected head handler) (setSignal .drvsb value)
      fun _ => Rests value head handler := by
  apply establishes_setSignal
  intro machine rests
  constructor
  · rw [asserted_set, if_neg (by decide), rests.step]
  · rw [asserted_set, if_pos rfl]
  · rw [head_set_of_no_pulse _ _ _ (Or.inl (by decide)), rests.head]
  · exact rests.memory

theorem establishes_lowerStep :
    Establishes (healthyDrive size) (Rests selected head handler) (setSignal .step false)
      fun _ => Rests selected head handler := by
  apply establishes_setSignal
  intro machine rests
  constructor
  · rw [asserted_set, if_pos rfl]
  · rw [asserted_set, if_neg (by decide), rests.drvsb]
  · rw [head_set_of_no_pulse _ _ _ (Or.inr (Or.inr rests.step)), rests.head]
  · exact rests.memory

end Lines

section Step

variable {head : Nat} {handler : KswfloppyData size}

/-- Where a pulse in this direction takes the head. -/
def moves (direction : StepDirection) (head : Nat) : Nat :=
  match direction with
  | .inwards => head + 1
  | .outwards => head - 1

/-- A selected drive with the direction set up, before or inside a pulse. -/
structure Aims (direction : StepDirection) (pulsing : Bool) (head : Nat)
    (handler : KswfloppyData size) (machine : FloppyMachine size) : Prop where
  step : machine.world.asserted .step = pulsing
  drvsb : machine.world.asserted .drvsb = true
  dir : machine.world.asserted .dir = direction.level
  head : machine.world.head = head
  memory : machine.memory = handler

theorem establishes_aim (direction : StepDirection) :
    Establishes (healthyDrive size) (Rests true head handler) (setSignal .dir direction.level)
      fun _ => Aims direction false head handler := by
  apply establishes_setSignal
  intro machine rests
  constructor
  · rw [asserted_set, if_neg (by decide), rests.step]
  · rw [asserted_set, if_neg (by decide), rests.drvsb]
  · rw [asserted_set, if_pos rfl]
  · rw [head_set_of_no_pulse _ _ _ (Or.inl (by decide)), rests.head]
  · exact rests.memory

variable {direction : StepDirection}

theorem establishes_raiseStep :
    Establishes (healthyDrive size) (Aims direction false head handler) (setSignal .step true)
      fun _ => Aims direction true head handler := by
  apply establishes_setSignal
  intro machine aims
  constructor
  · rw [asserted_set, if_pos rfl]
  · rw [asserted_set, if_neg (by decide), aims.drvsb]
  · rw [asserted_set, if_neg (by decide), aims.dir]
  · rw [head_set_of_no_pulse _ _ _ (Or.inr (Or.inl rfl)), aims.head]
  · exact aims.memory

theorem establishes_pulse :
    Establishes (healthyDrive size) (Aims direction true head handler) (setSignal .step false)
      fun _ => Rests true (moves direction head) handler := by
  apply establishes_setSignal
  intro machine aims
  constructor
  · rw [asserted_set, if_pos rfl]
  · rw [asserted_set, if_neg (by decide), aims.drvsb]
  · have pulses : (machine.world.set .step false).head =
        if machine.world.asserted .dir then machine.world.head + 1 else machine.world.head - 1 :=
      if_pos ⟨rfl, rfl, aims.step, aims.drvsb⟩
    rw [pulses, aims.dir, aims.head]
    cases direction with
    | inwards => rfl
    | outwards => rfl
  · exact aims.memory

theorem establishes_shadow :
    Establishes (healthyDrive size) (Aims direction false head handler)
      (modify fun handler => KswfloppyData.stepped handler direction)
      fun _ => Aims direction false head (handler.stepped direction) := by
  apply establishes_modify
  intro machine aims
  exact ⟨aims.step, aims.drvsb, aims.dir, aims.head, by rw [aims.memory]⟩

/-- One call of `floppy_step` moves the head and its shadow. -/
theorem establishes_floppyStep (direction : StepDirection) :
    Establishes (healthyDrive size) (Rests true head handler) (floppyStep direction)
      fun _ => Rests true (moves direction head) (handler.stepped direction) := by
  have pulse : Establishes (healthyDrive size)
      (Aims direction false head (handler.stepped direction))
      (Program.bind (setSignal .step true) fun _ => setSignal .step false)
      fun _ => Rests true (moves direction head) (handler.stepped direction) :=
    establishes_bind establishes_raiseStep fun _ => establishes_pulse
  apply establishes_bind establishes_lowerStep
  intro _
  cases direction with
  | inwards =>
      exact establishes_bind (establishes_aim .inwards) fun _ =>
        establishes_bind establishes_shadow fun _ => pulse
  | outwards =>
      exact establishes_bind (establishes_aim .outwards) fun _ =>
        establishes_bind establishes_shadow fun _ => pulse

end Step

section Home

variable {selected : Bool} {head : Nat} {handler : KswfloppyData size}

theorem establishes_readSignal (signal : Signal) :
    Establishes (healthyDrive size) (Rests selected head handler) (readSignal signal)
      fun value machine => Rests selected head handler machine ∧
        (signal = .trk00 → value = if head = 0 then 1 else 0) := by
  constructor
  intro machine rests
  refine ⟨machine.world.sense signal, _, rfl,
    ⟨rests.step, rests.drvsb, rests.head, rests.memory⟩, ?_⟩
  intro same
  rw [Drive.sense, if_pos same, rests.head]

theorem establishes_homeIteration {next : FloppyProgram size Unit}
    (later : head ≠ 0 → Establishes (healthyDrive size)
      (Rests true (head - 1) (handler.stepped .outwards)) next
      fun _ => Rests true 0 handler.onTrackZero) :
    Establishes (healthyDrive size) (Rests true head handler) (homeIteration next)
      fun _ => Rests true 0 handler.onTrackZero := by
  apply establishes_bind (establishes_readSignal .trk00)
  intro state
  constructor
  intro machine ⟨rests, sensed⟩
  have value := sensed rfl
  by_cases atZero : head = 0
  · rw [if_pos atZero] at value
    rw [value, if_pos (by decide)]
    refine ⟨(), _, rfl, ⟨rests.step, rests.drvsb, ?_, ?_⟩⟩
    · rw [← atZero]
      exact rests.head
    · exact congrArg KswfloppyData.onTrackZero rests.memory
  · rw [if_neg atZero] at value
    rw [value, if_neg (by decide)]
    exact (establishes_bind (establishes_floppyStep .outwards) fun _ =>
      later atZero).returns machine rests

/-- Homing counts down to track 0 from any position the counter covers. -/
theorem establishes_homeLoop (stuckCounter : Nat) (covered : head ≤ stuckCounter) :
    Establishes (healthyDrive size) (Rests true head handler) (homeLoop stuckCounter)
      fun _ => Rests true 0 handler.onTrackZero := by
  induction stuckCounter generalizing head handler with
  | zero =>
      apply establishes_homeIteration
      intro notZero
      exact absurd (Nat.le_zero.mp covered) notZero
  | succ stuckCounter ih =>
      apply establishes_homeIteration
      intro notZero
      exact ih (Nat.sub_le_of_le_add covered)

theorem establishes_floppyHome (covered : head ≤ 100) :
    Establishes (healthyDrive size) (Rests selected head handler) floppyHome
      fun _ => Rests false 0 handler.onTrackZero := by
  apply establishes_bind (establishes_select true)
  intro _
  apply establishes_bind (establishes_homeLoop 100 covered)
  intro _
  exact establishes_select false

end Home

section Seek

variable {head : Nat} {handler : KswfloppyData size} {track : U32}

/-- The instance knows the position of the head, on a legal track. -/
structure Tracks (head : Nat) (handler : KswfloppyData size) : Prop where
  agrees : handler.curTrack.toNat = head
  legal : head < floppyTracks

def distance (head track : Nat) : Nat := (head - track) + (track - head)

theorem distance_self (track : Nat) : distance track track = 0 := by
  unfold distance
  omega

def towards (track curTrack : U32) : StepDirection :=
  if track < curTrack then .outwards else .inwards

/-- A step towards another legal track moves the shadow by one, from any track. -/
theorem curTrack_stepped_towards (legal : track.toNat < floppyTracks)
    (apart : handler.curTrack ≠ track) :
    (handler.stepped (towards track handler.curTrack)).curTrack.toNat =
        moves (towards track handler.curTrack) handler.curTrack.toNat ∧
      distance (moves (towards track handler.curTrack) handler.curTrack.toNat) track.toNat + 1 =
        distance handler.curTrack.toNat track.toNat := by
  have apartNat : handler.curTrack.toNat ≠ track.toNat := by
    intro same
    exact apart (BitVec.eq_of_toNat_eq same)
  have tracksIs : floppyTracks = 80 := rfl
  unfold towards distance
  by_cases below : track < handler.curTrack
  · rw [if_pos below]
    have belowNat : track.toNat < handler.curTrack.toNat := BitVec.lt_def.mp below
    have positive : (0 : U32) < handler.curTrack := by
      rw [BitVec.lt_def]
      exact Nat.zero_lt_of_lt belowNat
    have one : (1 : U32) ≤ handler.curTrack := by
      rw [BitVec.le_def]
      exact Nat.one_le_of_lt belowNat
    constructor
    · simp only [KswfloppyData.stepped, StepDirection.shadow, if_pos positive, moves]
      rw [BitVec.toNat_sub_of_le one]
      rfl
    · simp only [moves]
      omega
  · rw [if_neg below]
    have aboveNat : handler.curTrack.toNat < track.toNat := by
      rw [BitVec.lt_def] at below
      omega
    have onTrack : handler.curTrack.toNat < floppyTracks := by omega
    constructor
    · simp only [KswfloppyData.stepped, StepDirection.shadow, if_pos onTrack, moves]
      rw [BitVec.toNat_add, show (1 : U32).toNat = 1 from rfl, Nat.mod_eq_of_lt (by omega)]
    · simp only [moves]
      omega

/-- A step towards another legal track keeps the shadow in agreement. -/
theorem tracks_towards (tracks : Tracks head handler) (legal : track.toNat < floppyTracks)
    (apart : handler.curTrack ≠ track) :
    Tracks (moves (towards track handler.curTrack) head)
        (handler.stepped (towards track handler.curTrack)) ∧
      distance (moves (towards track handler.curTrack) head) track.toNat + 1 =
        distance head track.toNat := by
  obtain ⟨moved, nearer⟩ := curTrack_stepped_towards legal apart
  have onLegal := tracks.legal
  rw [tracks.agrees] at moved nearer
  have near : moves (towards track handler.curTrack) head ≤ head + 1 := by
    cases towards track handler.curTrack with
    | inwards => exact Nat.le_refl _
    | outwards => exact Nat.le_trans (Nat.sub_le head 1) (Nat.le_succ head)
  refine ⟨⟨moved, ?_⟩, nearer⟩
  unfold distance at nearer
  omega

/-- The instance after a seek: only the track has changed. -/
def KswfloppyData.onTrack (handler : KswfloppyData size) (track : U32) : KswfloppyData size :=
  { handler with curTrack := track }

theorem rests_onTrack {machine : FloppyMachine size} (tracks : Tracks head handler)
    (arrived : handler.curTrack = track) (rests : Rests true head handler machine) :
    Rests true track.toNat (KswfloppyData.onTrack handler track) machine := by
  constructor
  · exact rests.step
  · exact rests.drvsb
  · rw [rests.head, ← arrived, tracks.agrees]
  · rw [rests.memory, KswfloppyData.onTrack, ← arrived]

theorem exec_seekLoop_succ {World : Type} (env : Environment (floppySignature size) World)
    (budget : Nat) (machine : Machine (floppySignature size) World) :
    (seekLoop track (budget + 1)).exec env machine =
      (if machine.memory.curTrack ≠ track then
        Program.bind (floppyStep (towards track machine.memory.curTrack)) fun _ =>
          seekLoop track budget
      else .done ()).exec env machine := by
  by_cases same : machine.memory.curTrack = track
  · simp [seekLoop, same]
  · by_cases below : track < machine.memory.curTrack
    · simp [seekLoop, towards, same, below]
    · simp [seekLoop, towards, same, below]

/-- Given more iterations than tracks to cross, the seek arrives. -/
theorem establishes_seekLoop (tracks : Tracks head handler) (legal : track.toNat < floppyTracks)
    (budget : Nat) (enough : distance head track.toNat < budget) :
    Establishes (healthyDrive size) (Rests true head handler) (seekLoop track budget)
      fun _ => Rests true track.toNat (KswfloppyData.onTrack handler track) := by
  induction budget generalizing head handler with
  | zero => exact absurd enough (Nat.not_lt_zero _)
  | succ budget ih =>
      constructor
      intro machine rests
      rw [exec_seekLoop_succ, rests.memory]
      by_cases apart : handler.curTrack ≠ track
      · rw [if_pos apart]
        obtain ⟨nextTracks, nearer⟩ := tracks_towards tracks legal apart
        have rest := ih nextTracks (by omega)
        exact (establishes_bind (establishes_floppyStep _) fun _ => rest).returns machine rests
      · rw [if_neg apart]
        exact ⟨(), machine, rfl, rests_onTrack tracks (not_not.mp apart) rests⟩

/-- If a seek returns within any number of iterations, it has arrived. -/
theorem ensures_seekLoop (tracks : Tracks head handler) (legal : track.toNat < floppyTracks)
    (budget : Nat) :
    Ensures (healthyDrive size) (Rests true head handler) (seekLoop track budget)
      (Rests true track.toNat (KswfloppyData.onTrack handler track)) := by
  induction budget generalizing head handler with
  | zero => exact ensures_unfinished
  | succ budget ih =>
      constructor
      intro machine result after rests ran
      rw [exec_seekLoop_succ, rests.memory] at ran
      by_cases apart : handler.curTrack ≠ track
      · rw [if_pos apart] at ran
        obtain ⟨nextTracks, _⟩ := tracks_towards tracks legal apart
        have stepped : Ensures (healthyDrive size) (Rests true head handler)
            (floppyStep (towards track handler.curTrack)) _ :=
          ensures_of_establishes (establishes_floppyStep _)
        exact (ensures_bind stepped fun _ => ih nextTracks).after_return _ _ _ rests ran
      · rw [if_neg apart] at ran
        rw [← (Prod.mk.inj ran).2]
        exact rests_onTrack tracks (not_not.mp apart) rests

/-- What `floppy_seek` does once its guard has passed. -/
def acceptedSeek (budget : Nat) (track : U32) : FloppyProgram size Unit :=
  Program.bind (setSignal .drvsb true) fun _ =>
    Program.bind (seekLoop track budget) fun _ => setSignal .drvsb false

theorem exec_floppySeek {World : Type} (env : Environment (floppySignature size) World)
    (budget : Nat) (machine : Machine (floppySignature size) World) :
    (floppySeek budget track).exec env machine =
      (if machine.memory.homed = true ∧ track.toNat < floppyTracks then acceptedSeek budget track
      else .done ()).exec env machine := by
  have tracksIs : floppyTracks = 80 := rfl
  have body : (floppySeek budget track).exec env machine =
      (if floppyTracks - 1 < track.toNat ∨ ¬machine.memory.homed = true then .done ()
      else acceptedSeek budget track).exec env machine := rfl
  rw [body]
  by_cases accepted : machine.memory.homed = true ∧ track.toNat < floppyTracks
  · rw [if_pos accepted, if_neg]
    rw [not_or, not_not]
    exact ⟨by omega, accepted.1⟩
  · rw [if_neg accepted, if_pos]
    by_contra goesOn
    rw [not_or, not_not] at goesOn
    exact accepted ⟨goesOn.2, by omega⟩

theorem establishes_acceptedSeek {selected : Bool} (tracks : Tracks head handler)
    (legal : track.toNat < floppyTracks) {budget : Nat} (enough : floppyTracks ≤ budget) :
    Establishes (healthyDrive size) (Rests selected head handler) (acceptedSeek budget track)
      fun _ => Rests false track.toNat (KswfloppyData.onTrack handler track) := by
  have near : distance head track.toNat < budget := by
    have onLegal := tracks.legal
    unfold distance
    omega
  apply establishes_bind (establishes_select true)
  intro _
  apply establishes_bind (establishes_seekLoop tracks legal budget near)
  intro _
  exact establishes_select false

theorem ensures_acceptedSeek {selected : Bool} (tracks : Tracks head handler)
    (legal : track.toNat < floppyTracks) (budget : Nat) :
    Ensures (healthyDrive size) (Rests selected head handler) (acceptedSeek budget track)
      (Rests false track.toNat (KswfloppyData.onTrack handler track)) := by
  apply ensures_bind (ensures_of_establishes (establishes_select true))
  intro _
  apply ensures_bind (ensures_seekLoop tracks legal budget)
  intro _
  exact ensures_of_establishes (establishes_select false)

end Seek

section Invariant

/-- The state of instance and drive around the operations: the pulse line is
down, the head is within reach of homing, and a homed instance knows where. -/
structure Parked (selected : Bool) (machine : FloppyMachine size) : Prop where
  step : machine.world.asserted .step = false
  drvsb : machine.world.asserted .drvsb = selected
  reach : machine.world.head ≤ 100
  known : machine.memory.homed = true → Tracks machine.world.head machine.memory

variable {selected : Bool} {machine : FloppyMachine size}

theorem rests_of_parked (parked : Parked selected machine) :
    Rests selected machine.world.head machine.memory machine :=
  ⟨parked.step, parked.drvsb, rfl, rfl⟩

theorem parked_of_rests {head : Nat} {handler : KswfloppyData size}
    (rests : Rests selected head handler machine) (reach : head ≤ 100)
    (known : handler.homed = true → Tracks head handler) : Parked selected machine := by
  constructor
  · exact rests.step
  · exact rests.drvsb
  · rw [rests.head]
    exact reach
  · rw [rests.head, rests.memory]
    exact known

/-- What leaves head and instance alone keeps the invariant. -/
theorem ensures_parked {Result : Type} {before after : Bool} {program : FloppyProgram size Result}
    (kept : ∀ head handler, Ensures (healthyDrive size) (Rests before head handler) program
      (Rests after head handler)) :
    Ensures (healthyDrive size) (Parked before) program (Parked after) := by
  constructor
  intro machine result last parked ran
  have rests := (kept _ _).after_return machine result last (rests_of_parked parked) ran
  exact parked_of_rests rests parked.reach parked.known

theorem ensures_select (value : Bool) :
    Ensures (healthyDrive size) (Parked selected) (setSignal .drvsb value) (Parked value) :=
  ensures_parked fun _ _ => ensures_of_establishes (establishes_select value)

theorem ensures_motor (value : Bool) :
    Ensures (healthyDrive size) (Parked selected) (setSignal .moteb value) (Parked selected) :=
  ensures_parked fun _ _ =>
    ensures_of_establishes (establishes_setOther (by decide) (by decide))

theorem ensures_readSignal (signal : Signal) :
    Ensures (healthyDrive size) (Parked selected) (readSignal signal) (Parked selected) :=
  ensures_request fun _ parked => ⟨parked.step, parked.drvsb, parked.reach, parked.known⟩

theorem ensures_floppyHome :
    Ensures (healthyDrive size) (Parked selected) floppyHome (Parked false) := by
  constructor
  intro machine result last parked ran
  have homes : Ensures (healthyDrive size) (Rests selected machine.world.head machine.memory)
      floppyHome _ := ensures_of_establishes (establishes_floppyHome parked.reach)
  have rests := homes.after_return machine result last (rests_of_parked parked) ran
  exact parked_of_rests rests (Nat.zero_le 100) fun _ => ⟨rfl, by decide⟩

theorem ensures_floppySeek (budget : Nat) (track : U32) :
    Ensures (healthyDrive size) (Parked false) (floppySeek budget track) (Parked false) := by
  constructor
  intro machine result last parked ran
  rw [exec_floppySeek] at ran
  by_cases accepted : machine.memory.homed = true ∧ track.toNat < floppyTracks
  · rw [if_pos accepted] at ran
    have tracks := parked.known accepted.1
    have rests := (ensures_acceptedSeek tracks accepted.2 budget).after_return machine result last
      (rests_of_parked parked) ran
    have tracksIs : floppyTracks = 80 := rfl
    have legal := accepted.2
    exact parked_of_rests rests (by omega) fun _ => ⟨rfl, legal⟩
  · rw [if_neg accepted] at ran
    rw [← (Prod.mk.inj ran).2]
    exact parked

theorem ensures_storeFullByte (locals : DumpLocals) :
    Ensures (healthyDrive size) (Parked selected) (storeFullByte locals) (Parked selected) := by
  apply ensures_if _ (ensures_done _)
  apply ensures_bind (ensures_index _ _)
  intro slot
  have stored : Ensures (healthyDrive size) (Parked selected) (modify (storeByte slot 0))
      (Parked selected) :=
    ensures_modify fun _ parked =>
      ⟨parked.step, parked.drvsb, parked.reach, fun homed =>
        ⟨(parked.known homed).agrees, (parked.known homed).legal⟩⟩
  exact ensures_bind stored fun _ => ensures_done _

theorem ensures_dumpLoop (budget : Nat) (locals : DumpLocals) :
    Ensures (healthyDrive size) (Parked selected) (dumpLoop budget locals) (Parked selected) := by
  induction budget generalizing locals with
  | zero => exact ensures_unfinished
  | succ budget ih =>
      obtain ⟨state, index, data, bufPtr, dataByte, bitCounter, wait⟩ := locals
      cases state with
      | waitIndex =>
          apply ensures_bind _ ih
          apply ensures_bind (ensures_readSignal .index)
          intro index
          exact ensures_if (ensures_done _) (ensures_done _)
      | read =>
          apply ensures_bind _ ih
          apply ensures_bind (ensures_readSignal .index)
          intro index
          apply ensures_bind (ensures_readSignal .rdata)
          intro data
          exact ensures_if (ensures_done _) (ensures_storeFullByte _)
      | done => exact ensures_done _

theorem ensures_floppyDumpTrack (budget : Nat) (track : U32) :
    Ensures (healthyDrive size) (Parked false) (floppyDumpTrack budget track) (Parked false) := by
  apply ensures_if (ensures_done _)
  apply ensures_bind (ensures_floppySeek budget track)
  intro _
  apply ensures_bind (ensures_select true)
  intro _
  apply ensures_bind (ensures_motor true)
  intro _
  apply ensures_bind (ensures_dumpLoop budget .initial)
  intro _
  apply ensures_bind (ensures_motor false)
  intro _
  exact ensures_bind (ensures_select false) fun _ => ensures_done _

end Invariant

section Runs

inductive FloppyOp where
  | home
  | seek (track : U32)
  | dump (track : U32)
  deriving DecidableEq

def FloppyOp.program (budget : Nat) : FloppyOp → FloppyProgram size (Option Int)
  | .home => do
      floppyHome
      return none
  | .seek track => do
      floppySeek budget track
      return none
  | .dump track => do
      let code ← floppyDumpTrack budget track
      return some code

/-- An operation with what its sensors will read, and how many iterations its
loops are followed. -/
structure FloppyEvent where
  op : FloppyOp
  budget : Nat
  readings : Nat → Signal → U32

/-- One operation; `none` if it does not return within the budget, or leaves the
dump buffer. -/
def floppyAct (machine : FloppyMachine size) (event : FloppyEvent) :
    Option (Option Int × FloppyMachine size) :=
  match (event.op.program event.budget).exec (healthyDrive size)
      { machine with world := { machine.world with readings := event.readings } } with
  | (.returned code, after) => some (code, after)
  | _ => none

def floppySystem (size : Nat) : Transducer (FloppyMachine size) FloppyEvent (Option Int) where
  step := floppyAct

/-- A zeroed instance in front of a drive with all lines down. -/
def probedDrive (size head : Nat) : FloppyMachine size :=
  ⟨.zeroed size, ⟨head, fun _ => false, fun _ _ => 0⟩⟩

variable {machine : FloppyMachine size}

theorem parked_probedDrive {head : Nat} (reach : head ≤ 100) :
    Parked false (probedDrive size head) := by
  refine ⟨rfl, rfl, reach, ?_⟩
  intro homed
  have blank : (probedDrive size head).memory.homed = false := isSet_zero floppyFlagHomed
  rw [blank] at homed
  exact absurd homed (by decide)

theorem ensures_program (budget : Nat) (op : FloppyOp) :
    Ensures (healthyDrive size) (Parked false) (op.program budget) (Parked false) := by
  cases op with
  | home => exact ensures_bind ensures_floppyHome fun _ => ensures_done _
  | seek track => exact ensures_bind (ensures_floppySeek budget track) fun _ => ensures_done _
  | dump track => exact ensures_bind (ensures_floppyDumpTrack budget track) fun _ => ensures_done _

theorem parked_floppyAct {next : FloppyMachine size} {event : FloppyEvent} {code : Option Int}
    (parked : Parked false machine) (acted : floppyAct machine event = some (code, next)) :
    Parked false next := by
  unfold floppyAct at acted
  rcases ran : (event.op.program event.budget).exec (healthyDrive size)
    { machine with world := { machine.world with readings := event.readings } } with
    ⟨outcome, after⟩
  rw [ran] at acted
  cases outcome with
  | returned value =>
      have ready : Parked false
          { machine with world := { machine.world with readings := event.readings } } :=
        ⟨parked.step, parked.drvsb, parked.reach, parked.known⟩
      rw [← (Prod.mk.inj (Option.some.inj acted)).2]
      exact (ensures_program event.budget event.op).after_return _ _ _ ready ran
  | undefined => exact absurd acted (by simp)
  | unfinished => exact absurd acted (by simp)

variable {event : FloppyEvent}

theorem floppyAct_of_exec {after : FloppyMachine size} {code : Option Int}
    (ran : (event.op.program event.budget).exec (healthyDrive size)
      { machine with world := { machine.world with readings := event.readings } } =
        (.returned code, after)) : floppyAct machine event = some (code, after) := by
  unfold floppyAct
  rw [ran]

/-- What holds between operations, and what the next home or seek will do. -/
structure TracksHead (machine : FloppyMachine size) : Prop where
  known : machine.memory.homed = true →
    machine.memory.curTrack.toNat = machine.world.head ∧
      machine.memory.curTrack.toNat < floppyTracks
  home : ∀ budget readings, ∃ next,
    floppyAct machine ⟨.home, budget, readings⟩ = some (none, next) ∧
      next.memory.homed = true ∧ next.world.head = 0
  seek : ∀ track budget readings, floppyTracks ≤ budget → machine.memory.homed = true →
    track.toNat < floppyTracks → ∃ next,
      floppyAct machine ⟨.seek track, budget, readings⟩ = some (none, next) ∧
        next.world.head = track.toNat
  refused : ∀ track budget readings,
    ¬(machine.memory.homed = true ∧ track.toNat < floppyTracks) → ∃ next,
      floppyAct machine ⟨.seek track, budget, readings⟩ = some (none, next) ∧
        next.world.head = machine.world.head ∧
          next.memory.curTrack = machine.memory.curTrack ∧
            next.memory.flags = machine.memory.flags

theorem homed_onTrackZero (handler : KswfloppyData size) :
    handler.onTrackZero.homed = true :=
  isSet_set handler.flags 0 (by decide)

section Acts

variable {budget : Nat} {readings : Nat → Signal → U32} {next : FloppyMachine size}

theorem floppyAct_home
    (ran : floppyHome.exec (healthyDrive size)
      { machine with world := { machine.world with readings := readings } } =
        (.returned (), next)) :
    floppyAct machine ⟨.home, budget, readings⟩ = some (none, next) := by
  apply floppyAct_of_exec
  change (Program.bind floppyHome fun _ => .done none).exec _ _ = _
  rw [exec_bind, ran]
  rfl

theorem floppyAct_seek {track : U32}
    (ran : (floppySeek budget track).exec (healthyDrive size)
      { machine with world := { machine.world with readings := readings } } =
        (.returned (), next)) :
    floppyAct machine ⟨.seek track, budget, readings⟩ = some (none, next) := by
  apply floppyAct_of_exec
  change (Program.bind (floppySeek budget track) fun _ => .done none).exec _ _ = _
  rw [exec_bind, ran]
  rfl

end Acts

theorem tracksHead_of_parked (parked : Parked false machine) : TracksHead machine := by
  have ready : ∀ readings, Rests false machine.world.head machine.memory
      ({ machine with world := { machine.world with readings := readings } } :
        FloppyMachine size) :=
    fun _ => ⟨parked.step, parked.drvsb, rfl, rfl⟩
  constructor
  · intro homed
    have tracks := parked.known homed
    exact ⟨tracks.agrees, by rw [tracks.agrees]; exact tracks.legal⟩
  · intro budget readings
    rcases (establishes_floppyHome parked.reach).returns _ (ready readings) with
      ⟨_, next, ran, rests⟩
    exact ⟨next, floppyAct_home ran, by rw [rests.memory]; exact homed_onTrackZero _, rests.head⟩
  · intro track budget readings enough homed legal
    have tracks := parked.known homed
    rcases (establishes_acceptedSeek tracks legal enough).returns _ (ready readings) with
      ⟨_, next, ran, rests⟩
    refine ⟨next, floppyAct_seek ?_, rests.head⟩
    rw [exec_floppySeek, if_pos ⟨homed, legal⟩]
    exact ran
  · intro track budget readings refused
    refine ⟨{ machine with world := { machine.world with readings := readings } },
      floppyAct_seek ?_, rfl, rfl, rfl⟩
    rw [exec_floppySeek, if_neg refused, exec_done]

/-- From a zeroed instance and any position of the head up to 100, after any
sequence of operations, the driver tracks the head. -/
theorem head_tracked {head : Nat} (reach : head ≤ 100) {history : List FloppyEvent}
    (reached : (floppySystem size).Reaches (probedDrive size head) history machine) :
    TracksHead machine := by
  apply tracksHead_of_parked
  exact Transducer.invariant_of_reaches (fun _ _ _ _ parked acted => parked_floppyAct parked acted)
    (parked_probedDrive reach) reached

theorem homed_drive_tracked :
    ∃ machine, (floppySystem 4).Reaches (probedDrive 4 3) [⟨.home, 0, fun _ _ => 0⟩] machine ∧
      machine.memory.homed = true ∧ TracksHead machine := by
  have reach : 3 ≤ 100 := by decide
  rcases (tracksHead_of_parked (@parked_probedDrive 4 3 reach)).home 0 fun _ _ => 0 with
    ⟨next, acted, homed, _⟩
  have reached : (floppySystem 4).Reaches (probedDrive 4 3) [⟨.home, 0, fun _ _ => 0⟩] next :=
    (Transducer.reaches_singleton _ _ _).mpr ⟨none, acted⟩
  exact ⟨next, reached, homed, head_tracked reach reached⟩

end Runs

end Ebaz4205.FloppyHeadTracking
