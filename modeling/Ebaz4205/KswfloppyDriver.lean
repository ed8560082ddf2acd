import Ebaz4205.PulsecapDriver

/-!
# The floppy drive driver

A transcription of the drive operations of `kswfloppy.c`: the GPIO helpers, the
step, home, seek and dump functions. Loops whose end depends on the drive take a
budget of iterations. Delays and log output have no counterpart.
-/

namespace Ebaz4205.KswfloppyDriver

open DriverProgram DriverProgram.Program BitMask PulsecapDriver

set_option autoImplicit false

/-- The GPIO lines, in the order of their `_SIG_` numbers. -/
inductive Signal where
  | motea | drvsb | drvsa | moteb | dir | step | wpt | trk00 | side1 | wdate | wgate | redwc
  | index | dskchg | rdata
  deriving DecidableEq

def Signal.all : List Signal :=
  [.motea, .drvsb, .drvsa, .moteb, .dir, .step, .wpt, .trk00, .side1, .wdate, .wgate, .redwc,
    .index, .dskchg, .rdata]

inductive StepDirection where
  | inwards
  | outwards
  deriving DecidableEq

def floppyTracks : Nat := 80

def floppyFlagHomed : U32 := .twoPow 32 0

/-- `struct kswfloppy_data` without its GPIO descriptors and the handles that
only the probe uses; the size of the dump buffer is a parameter. -/
structure KswfloppyData (size : Nat) where
  curTrack : U32
  flags : U32
  dump : Fin size → Byte

def KswfloppyData.zeroed (size : Nat) : KswfloppyData size where
  curTrack := 0
  flags := 0
  dump := fun _ => 0

def KswfloppyData.homed {size : Nat} (handler : KswfloppyData size) : Bool :=
  isSet handler.flags floppyFlagHomed

inductive GpioCall where
  | gpiodSetValue (signal : Signal) (value : Bool)
  | gpiodGetValue (signal : Signal)
  deriving DecidableEq

/-- `gpiod_get_value` returns an `int`, which the driver keeps as an unsigned
value: an error code becomes a large number. -/
abbrev GpioReply : GpioCall → Type
  | .gpiodSetValue _ _ => Unit
  | .gpiodGetValue _ => U32

inductive FloppyArray where
  | dump
  deriving DecidableEq

abbrev floppySignature (size : Nat) : Signature where
  Call := GpioCall
  Reply := GpioReply
  Region := FloppyArray
  extent := fun _ => size
  Memory := KswfloppyData size

abbrev FloppyProgram (size : Nat) := Program (floppySignature size)

variable {size : Nat}

def assertSignal (signal : Signal) : FloppyProgram size Unit :=
  .call (.gpiodSetValue signal true) .done

def deassertSignal (signal : Signal) : FloppyProgram size Unit :=
  .call (.gpiodSetValue signal false) .done

def readSignal (signal : Signal) : FloppyProgram size U32 :=
  .call (.gpiodGetValue signal) .done

def deassertSignals : List Signal → FloppyProgram size Unit
  | [] => .done ()
  | signal :: rest => do
      deassertSignal signal
      deassertSignals rest

def deassertAll : FloppyProgram size Unit := deassertSignals Signal.all

def floppyEn : FloppyProgram size Unit := assertSignal .drvsb

def floppyDis : FloppyProgram size Unit := deassertSignal .drvsb

def spinOn : FloppyProgram size Unit := assertSignal .moteb

def spinOff : FloppyProgram size Unit := deassertSignal .moteb

/-- How `floppy_step` moves the shadow of the head position, saturating at both
ends. -/
def StepDirection.shadow (direction : StepDirection) (track : U32) : U32 :=
  match direction with
  | .inwards => if track.toNat < floppyTracks then track + 1 else track
  | .outwards => if 0 < track then track - 1 else track

/-- The level of the DIR line for a direction. -/
def StepDirection.level : StepDirection → Bool
  | .inwards => true
  | .outwards => false

def KswfloppyData.stepped (handler : KswfloppyData size) (direction : StepDirection) :
    KswfloppyData size :=
  { handler with curTrack := direction.shadow handler.curTrack }

def floppyStep (direction : StepDirection) : FloppyProgram size Unit := do
  deassertSignal .step
  match direction with
  | .inwards => do
      assertSignal .dir
      modify fun handler => handler.stepped .inwards
  | .outwards => do
      deassertSignal .dir
      modify fun handler => handler.stepped .outwards
  assertSignal .step
  deassertSignal .step

/-- What `floppy_home` writes when it finds the drive on track 0. -/
def KswfloppyData.onTrackZero (handler : KswfloppyData size) : KswfloppyData size :=
  { handler with curTrack := 0, flags := handler.flags ||| floppyFlagHomed }

/-- One iteration of the loop of `floppy_home`, with what follows a step. -/
def homeIteration (next : FloppyProgram size Unit) : FloppyProgram size Unit := do
  let state ← readSignal .trk00
  if state ≠ 0 then modify KswfloppyData.onTrackZero
  else do
    floppyStep .outwards
    next

/-- The counter is tested after the step, so a count of 100 allows 101 readings
and as many steps. -/
def homeLoop : Nat → FloppyProgram size Unit
  | 0 => homeIteration (.done ())
  | stuckCounter + 1 => homeIteration (homeLoop stuckCounter)

def floppyHome : FloppyProgram size Unit := do
  floppyEn
  homeLoop 100
  floppyDis

/-- The loop of `floppy_seek`. -/
def seekLoop (track : U32) : Nat → FloppyProgram size Unit
  | 0 => .unfinished
  | budget + 1 => do
      let handler ← field id
      if handler.curTrack ≠ track then do
        if track < handler.curTrack then floppyStep .outwards else floppyStep .inwards
        seekLoop track budget
      else return ()

def floppySeek (budget : Nat) (track : U32) : FloppyProgram size Unit := do
  let handler ← field id
  if floppyTracks - 1 < track.toNat ∨ ¬handler.homed then return ()
  floppyEn
  seekLoop track budget
  floppyDis

inductive DumpState where
  | waitIndex
  | read
  | done
  deriving DecidableEq

/-- The local variables of `floppy_dump_track`. -/
structure DumpLocals where
  state : DumpState
  index : U32
  data : U32
  bufPtr : U32
  dataByte : Byte
  bitCounter : Byte
  wait : Byte
  deriving DecidableEq

def DumpLocals.initial : DumpLocals := ⟨.waitIndex, 0, 0, 0, 0, 0, 0⟩

def dumpWaitIndex (locals : DumpLocals) : FloppyProgram size DumpLocals := do
  let index ← readSignal .index
  let locals := { locals with index }
  if index ≠ 0 then return { locals with state := .read, wait := 1 } else return locals

/-- One more RDATA bit, least significant first. -/
def DumpLocals.shiftIn (locals : DumpLocals) : DumpLocals :=
  { locals with
    dataByte := locals.dataByte ||| (locals.data <<< locals.bitCounter.toNat).truncate 8
    bitCounter := locals.bitCounter + 1 }

def storeByte (slot : Fin size) (byte : Byte) (handler : KswfloppyData size) :
    KswfloppyData size :=
  { handler with dump := Function.update handler.dump slot byte }

/-- A full byte is cleared before it is stored, and the pointer moves twice. -/
def storeFullByte (locals : DumpLocals) : FloppyProgram size DumpLocals :=
  if locals.bitCounter = 8 then do
    let locals := { locals with bitCounter := 0, dataByte := 0 }
    let slot ← index FloppyArray.dump locals.bufPtr.toNat
    modify (storeByte slot locals.dataByte)
    return { locals with bufPtr := locals.bufPtr + 1 + 1 }
  else return locals

def dumpRead (locals : DumpLocals) : FloppyProgram size DumpLocals := do
  let index ← readSignal .index
  let data ← readSignal .rdata
  let locals := { locals with index, data }
  let locals := if locals.wait ≠ 0 ∧ index = 0 then { locals with wait := 0 } else locals
  if index ≠ 0 ∧ locals.wait = 0 then return { locals with state := .done }
  else storeFullByte locals.shiftIn

/-- The state machine loop of `floppy_dump_track`. -/
def dumpLoop : Nat → DumpLocals → FloppyProgram size DumpLocals
  | 0, _ => .unfinished
  | budget + 1, locals =>
      match locals.state with
      | .waitIndex => do
          let next ← dumpWaitIndex locals
          dumpLoop budget next
      | .read => do
          let next ← dumpRead locals
          dumpLoop budget next
      | .done => return locals

def floppyDumpTrack (budget : Nat) (track : U32) : FloppyProgram size Int := do
  if floppyTracks - 1 < track.toNat then return -einval
  floppySeek budget track
  floppyEn
  spinOn
  let _locals ← dumpLoop budget .initial
  spinOff
  floppyDis
  return 0

end Ebaz4205.KswfloppyDriver
