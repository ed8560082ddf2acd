import Mathlib.Logic.Function.Basic
import Ebaz4205.PulsecapDriver

/-!
# The AXI timer behind the registers

Two capture channels with a control and a capture register each. An edge
latches its timestamp and raises the interrupt flag of its channel unless the
flag is still up; writing the flag as 1 takes it down. The enable-all bit is
mirrored between the control registers and turns both channels on. Edges arrive
before any register access, in any number.
-/

namespace Ebaz4205.TimerDevice

open BitMask DriverProgram PulsecapDriver

set_option autoImplicit false

/-- Rising edges are captured by timer 0, falling edges by timer 1. -/
inductive Channel where
  | rising
  | falling
  deriving DecidableEq

structure TimerEdge where
  channel : Channel
  stamp : U32
  deriving DecidableEq

structure AxiTimer where
  control : Channel → U32
  capture : Channel → U32

namespace AxiTimer

def reset : AxiTimer := ⟨fun _ => 0, fun _ => 0⟩

def pending (timer : AxiTimer) (channel : Channel) : Bool :=
  isSet (timer.control channel) tcsr0T0int

def enabled (timer : AxiTimer) (channel : Channel) : Bool :=
  isSet (timer.control channel) tcsr0Ent0

def enabledAll (timer : AxiTimer) (channel : Channel) : Bool :=
  isSet (timer.control channel) tcsr0Enall

def latch (timer : AxiTimer) (edge : TimerEdge) : AxiTimer where
  control := Function.update timer.control edge.channel
    (timer.control edge.channel ||| tcsr0T0int)
  capture := Function.update timer.capture edge.channel edge.stamp

/-- The written register takes the value as it is, except that the flag only
goes down and the enable bit goes up with the enable-all bit. -/
def controlWritten (old value : U32) : U32 :=
  assign (assign value tcsr0T0int (isSet old tcsr0T0int && !isSet value tcsr0T0int)) tcsr0Ent0
    (isSet value tcsr0Enall || isSet value tcsr0Ent0)

/-- The other control register mirrors the enable-all bit. -/
def controlMirrored (old value : U32) : U32 :=
  assign (assign old tcsr0Enall (isSet value tcsr0Enall)) tcsr0Ent0
    (isSet value tcsr0Enall || isSet old tcsr0Ent0)

def writeControl (timer : AxiTimer) (channel : Channel) (value : U32) : AxiTimer :=
  { timer with control := fun other =>
      if other = channel then controlWritten (timer.control other) value
      else controlMirrored (timer.control other) value }

def writeCapture (timer : AxiTimer) (channel : Channel) (value : U32) : AxiTimer :=
  { timer with capture := Function.update timer.capture channel value }

end AxiTimer

/-- What an observer of the bus sees, with the number of the latched edge that a
capture register holds: `none` if no edge put its value there. -/
inductive TimerTrace where
  | status (channel : Channel) (pending : Bool)
  | capture (channel : Channel) (edge : Option Nat)
  | cleared (channel : Channel) (edge : Option Nat)
  deriving DecidableEq

/-- The timer, the edges that arrive before each of the coming register
accesses, and the observer's record: every edge latched so far, in order, and
the places in that list of the edges whose stamps the capture registers hold. -/
structure TimerWorld where
  timer : AxiTimer
  upcoming : List (List TimerEdge)
  latched : List TimerEdge
  holds : Channel → Option Nat
  log : List TimerTrace

namespace TimerWorld

/-- A world whose observer starts to look. -/
def observe (timer : AxiTimer) (upcoming : List (List TimerEdge)) : TimerWorld :=
  ⟨timer, upcoming, [], fun _ => none, []⟩

def latch (world : TimerWorld) (edge : TimerEdge) : TimerWorld :=
  if world.timer.pending edge.channel then world
  else { world with
    timer := world.timer.latch edge
    latched := world.latched ++ [edge]
    holds := Function.update world.holds edge.channel (some world.latched.length) }

/-- The edges that come before the next register access. -/
def arrive (world : TimerWorld) : TimerWorld :=
  (world.upcoming.headD []).foldl latch { world with upcoming := world.upcoming.tail }

def note (world : TimerWorld) (entry : TimerTrace) : TimerWorld :=
  { world with log := world.log ++ [entry] }

def readControl (world : TimerWorld) (channel : Channel) : U32 × TimerWorld :=
  (world.timer.control channel, world.note (.status channel (world.timer.pending channel)))

def readCapture (world : TimerWorld) (channel : Channel) : U32 × TimerWorld :=
  (world.timer.capture channel, world.note (.capture channel (world.holds channel)))

def writeControl (world : TimerWorld) (channel : Channel) (value : U32) : TimerWorld :=
  let written := { world with timer := world.timer.writeControl channel value }
  if world.timer.pending channel && isSet value tcsr0T0int then
    written.note (.cleared channel (world.holds channel))
  else written

def writeCapture (world : TimerWorld) (channel : Channel) (value : U32) : TimerWorld :=
  { world with
    timer := world.timer.writeCapture channel value
    holds := Function.update world.holds channel none }

end TimerWorld

def timerDevice : Environment timerSignature TimerWorld where
  respond
    | .ioread32 .tcsr0, world => world.arrive.readControl .rising
    | .ioread32 .tcsr1, world => world.arrive.readControl .falling
    | .ioread32 .tlr0, world => world.arrive.readCapture .rising
    | .ioread32 .tlr1, world => world.arrive.readCapture .falling
    | .iowrite32 value .tcsr0, world => ((), world.arrive.writeControl .rising value)
    | .iowrite32 value .tcsr1, world => ((), world.arrive.writeControl .falling value)
    | .iowrite32 value .tlr0, world => ((), world.arrive.writeCapture .rising value)
    | .iowrite32 value .tlr1, world => ((), world.arrive.writeCapture .falling value)

def Channel.controlRegister : Channel → TimerRegister
  | .rising => .tcsr0
  | .falling => .tcsr1

def Channel.captureRegister : Channel → TimerRegister
  | .rising => .tlr0
  | .falling => .tlr1

namespace AxiTimer

section Writes

variable (timer : AxiTimer) (channel other : Channel) (value : U32)

@[simp] theorem pending_writeControl :
    (timer.writeControl channel value).pending channel =
      (timer.pending channel && !isSet value tcsr0T0int) := by
  simp only [pending, writeControl, controlWritten, if_true]
  rw [tcsr0Ent0, tcsr0T0int, isSet_assign_other _ 7 8 _ (by decide), isSet_assign _ 8 _ (by decide)]

@[simp] theorem enabled_writeControl :
    (timer.writeControl channel value).enabled channel =
      (isSet value tcsr0Enall || isSet value tcsr0Ent0) := by
  simp only [enabled, writeControl, controlWritten, if_true]
  rw [tcsr0Ent0, isSet_assign _ 7 _ (by decide)]

theorem enabledAll_writeControl :
    (timer.writeControl channel value).enabledAll other = isSet value tcsr0Enall := by
  unfold enabledAll writeControl
  by_cases same : other = channel
  · simp only [if_pos same, controlWritten]
    rw [tcsr0Ent0, tcsr0Enall, isSet_assign_other _ 7 10 _ (by decide), tcsr0T0int,
      isSet_assign_other _ 8 10 _ (by decide)]
  · simp only [if_neg same, controlMirrored]
    rw [tcsr0Ent0, tcsr0Enall, isSet_assign_other _ 7 10 _ (by decide),
      isSet_assign _ 10 _ (by decide)]

variable {channel other} (apart : other ≠ channel)
include apart

theorem pending_writeControl_other :
    (timer.writeControl channel value).pending other = timer.pending other := by
  simp only [pending, writeControl, controlMirrored, if_neg apart]
  rw [tcsr0Ent0, tcsr0T0int, isSet_assign_other _ 7 8 _ (by decide), tcsr0Enall,
    isSet_assign_other _ 10 8 _ (by decide)]

theorem enabled_writeControl_other :
    (timer.writeControl channel value).enabled other =
      (isSet value tcsr0Enall || timer.enabled other) := by
  simp only [enabled, writeControl, controlMirrored, if_neg apart]
  rw [tcsr0Ent0, isSet_assign _ 7 _ (by decide)]

end Writes

section Latches

variable (timer : AxiTimer) (edge : TimerEdge)

theorem pending_latch : (timer.latch edge).pending edge.channel = true := by
  simp only [pending, latch, Function.update_self]
  exact isSet_set _ 8 (by decide)

theorem pending_latch_other {other : Channel} (apart : other ≠ edge.channel) :
    (timer.latch edge).pending other = timer.pending other := by
  simp only [pending, latch, Function.update_of_ne apart]

theorem isSet_control_latch (bit : Nat) (apart : 8 ≠ bit) (channel : Channel) :
    isSet ((timer.latch edge).control channel) (.twoPow 32 bit) =
      isSet (timer.control channel) (.twoPow 32 bit) := by
  by_cases same : channel = edge.channel
  · subst same
    simp only [latch, Function.update_self]
    exact isSet_set_other _ 8 bit apart
  · simp only [latch, Function.update_of_ne same]

end Latches

end AxiTimer

end Ebaz4205.TimerDevice
