import Ebaz4205.FloppyHeadTracking
import Ebaz4205.ProgramMarks

/-!
# Calls of floppy_step made visible

The requests of a drive operation do not show which of them belong to one call
of `floppy_step`. Here the operations are written once more, with a mark at the
beginning of each call that carries the requested direction. Erasing the marks
gives back the operations of the driver, so a trace with marks is the trace of
the driver with the calls pointed out in it.
-/

namespace Ebaz4205.FloppyStepCalls

open DriverProgram DriverProgram.Program FloppyHeadTracking KswfloppyDriver PulsecapDriver

set_option autoImplicit false

/-- A mark carries the direction that the call was asked for. -/
abbrev markedSignature (size : Nat) : Signature := (floppySignature size).withMarks StepDirection

abbrev MarkedProgram (size : Nat) := Program (markedSignature size)

variable {size : Nat}

section Operations

def markedStep (direction : StepDirection) : MarkedProgram size Unit :=
  .call (.mark direction) fun _ => plain (floppyStep direction)

def markedHomeIteration (next : MarkedProgram size Unit) : MarkedProgram size Unit := do
  let state ← plain (readSignal .trk00)
  if state ≠ 0 then modify KswfloppyData.onTrackZero
  else do
    markedStep .outwards
    next

def markedHomeLoop : Nat → MarkedProgram size Unit
  | 0 => markedHomeIteration (.done ())
  | stuckCounter + 1 => markedHomeIteration (markedHomeLoop stuckCounter)

def markedHome : MarkedProgram size Unit := do
  plain floppyEn
  markedHomeLoop 100
  plain floppyDis

def markedSeekLoop (track : U32) : Nat → MarkedProgram size Unit
  | 0 => .unfinished
  | budget + 1 => do
      let handler ← field id
      if handler.curTrack ≠ track then do
        if track < handler.curTrack then markedStep .outwards else markedStep .inwards
        markedSeekLoop track budget
      else return ()

def markedSeek (budget : Nat) (track : U32) : MarkedProgram size Unit := do
  let handler ← field id
  if floppyTracks - 1 < track.toNat ∨ ¬handler.homed then return ()
  plain floppyEn
  markedSeekLoop track budget
  plain floppyDis

def markedDumpTrack (budget : Nat) (track : U32) : MarkedProgram size Int := do
  if floppyTracks - 1 < track.toNat then return -einval
  markedSeek budget track
  plain floppyEn
  plain spinOn
  let _locals ← plain (dumpLoop budget .initial)
  plain spinOff
  plain floppyDis
  return 0

def markedOp (budget : Nat) : FloppyOp → MarkedProgram size (Option Int)
  | .home => do
      markedHome
      return none
  | .seek track => do
      markedSeek budget track
      return none
  | .dump track => do
      let code ← markedDumpTrack budget track
      return some code

end Operations

section Sessions

/-- Operations one after the other, each with a budget for its loops. -/
def operations : List (FloppyOp × Nat) → FloppyProgram size Unit
  | [] => .done ()
  | (op, budget) :: rest => do
      let _code ← op.program budget
      operations rest

def session (history : List (FloppyOp × Nat)) : FloppyProgram size Unit := do
  deassertAll
  operations history

def markedOperations : List (FloppyOp × Nat) → MarkedProgram size Unit
  | [] => .done ()
  | (op, budget) :: rest => do
      let _code ← markedOp budget op
      markedOperations rest

def markedSession (history : List (FloppyOp × Nat)) : MarkedProgram size Unit := do
  plain deassertAll
  markedOperations history

end Sessions

section Erasure

theorem erase_markedStep (direction : StepDirection) :
    erase (markedStep direction : MarkedProgram size Unit) = floppyStep direction :=
  erase_plain _

theorem erase_markedHomeIteration (next : MarkedProgram size Unit) :
    erase (markedHomeIteration next) = homeIteration (erase next) := by
  unfold markedHomeIteration homeIteration
  simp only [bind_eq, erase_bind, erase_plain, erase_if, erase_markedStep]
  rfl

theorem erase_markedHomeLoop (stuckCounter : Nat) :
    erase (markedHomeLoop stuckCounter : MarkedProgram size Unit) = homeLoop stuckCounter := by
  induction stuckCounter with
  | zero => exact erase_markedHomeIteration _
  | succ stuckCounter ih =>
      rw [markedHomeLoop, erase_markedHomeIteration, ih]
      rfl

theorem erase_markedHome : erase (markedHome : MarkedProgram size Unit) = floppyHome := by
  unfold markedHome floppyHome
  simp only [bind_eq, erase_bind, erase_plain, erase_markedHomeLoop]

theorem erase_markedSeekLoop (track : U32) (budget : Nat) :
    erase (markedSeekLoop track budget : MarkedProgram size Unit) = seekLoop track budget := by
  induction budget with
  | zero => rfl
  | succ budget ih =>
      unfold markedSeekLoop seekLoop
      simp only [bind_eq, erase_bind, erase_if, erase_markedStep, ih]
      rfl

theorem erase_markedSeek (budget : Nat) (track : U32) :
    erase (markedSeek budget track : MarkedProgram size Unit) = floppySeek budget track := by
  unfold markedSeek floppySeek
  simp only [bind_eq, erase_bind, erase_if, erase_plain, erase_markedSeekLoop]
  rfl

theorem erase_markedDumpTrack (budget : Nat) (track : U32) :
    erase (markedDumpTrack budget track : MarkedProgram size Int) =
      floppyDumpTrack budget track := by
  unfold markedDumpTrack floppyDumpTrack
  simp only [bind_eq, erase_bind, erase_if, erase_plain, erase_markedSeek]
  rfl

theorem erase_markedOp (budget : Nat) (op : FloppyOp) :
    erase (markedOp budget op : MarkedProgram size (Option Int)) = op.program budget := by
  cases op with
  | home =>
      simp only [markedOp, FloppyOp.program, bind_eq, erase_bind, erase_markedHome]
      rfl
  | seek track =>
      simp only [markedOp, FloppyOp.program, bind_eq, erase_bind, erase_markedSeek]
      rfl
  | dump track =>
      simp only [markedOp, FloppyOp.program, bind_eq, erase_bind, erase_markedDumpTrack]
      rfl

theorem erase_markedOperations (history : List (FloppyOp × Nat)) :
    erase (markedOperations history : MarkedProgram size Unit) = operations history := by
  induction history with
  | nil => rfl
  | cons entry rest ih =>
      simp only [markedOperations, operations, bind_eq, erase_bind, erase_markedOp, ih]

theorem erase_markedSession (history : List (FloppyOp × Nat)) :
    erase (markedSession history : MarkedProgram size Unit) = session history := by
  simp only [markedSession, session, bind_eq, erase_bind, erase_plain, erase_markedOperations]

end Erasure

end Ebaz4205.FloppyStepCalls
