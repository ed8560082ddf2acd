import Ebaz4205.BitMask
import Ebaz4205.DriverProgram

/-!
# The pulse capture driver

A transcription of `pulsecap.c` up to its sysfs read-out: the two halves of the
AXI timer behind their registers, the capture state of one instance, and the
exported functions. Delays, log output and the spinlock have no counterpart:
the lock only keeps handler runs from overlapping, so here they follow each other.
-/

namespace Ebaz4205.PulsecapDriver

open DriverProgram DriverProgram.Program BitMask

set_option autoImplicit false

abbrev U32 := BitVec 32
abbrev Byte := BitVec 8

/-- The registers the driver touches; `REG_TCR0` and `REG_TCR1` are defined in
the source and never used. -/
inductive TimerRegister where
  | tcsr0 | tlr0 | tcsr1 | tlr1
  deriving DecidableEq

def tcsr0Enall : U32 := .twoPow 32 10
def tcsr0Ent0 : U32 := .twoPow 32 7
def tcsr0T0int : U32 := .twoPow 32 8
def tcsr0Enit0 : U32 := .twoPow 32 6
def tcsr0Capt0 : U32 := .twoPow 32 3
def tcsr0Mdt0 : U32 := .twoPow 32 0

def pulsecapEdgeHigh : Byte := 0x00
def pulsecapEdgeLow : Byte := 0x01

def pulsecapEnable : Byte := .twoPow 8 0
def pulsecapDone : Byte := .twoPow 8 1
def pulsecapEdgesRead : Byte := .twoPow 8 2
def pulsecapCancelled : Byte := .twoPow 8 3

def pulsecapStateIdle : Int := 0
def pulsecapStateRun : Int := 1
def pulsecapStateDone : Int := 2

/-- The error numbers the driver returns, negated, to its callers. -/
def enoent : Int := 2
def eio : Int := 5
def ebusy : Int := 16
def enodev : Int := 19
def einval : Int := 22

/-- `PAGE_SIZE` of the 32-bit ARM kernel the board runs. -/
def pageSize : Nat := 4096

def sizeofEdgeCount : Nat := 4

def pulsecapMaxCount : Nat := pageSize / sizeofEdgeCount

structure PulseData where
  edgeCount : U32
  edgeType : Byte
  deriving DecidableEq

/-- `struct pulsecap_data` without its interrupt number, register base, lock and
unused address. -/
structure PulsecapData where
  storedEdges : Fin pulsecapMaxCount → PulseData
  edgePtr : U32
  edgeTarget : U32
  flags : Byte

/-- The zeroed block that `devm_kzalloc` hands to the probe. -/
def PulsecapData.zeroed : PulsecapData where
  storedEdges := fun _ => ⟨0, 0⟩
  edgePtr := 0
  edgeTarget := 0
  flags := 0

inductive TimerCall where
  | ioread32 (reg : TimerRegister)
  | iowrite32 (value : U32) (reg : TimerRegister)
  deriving DecidableEq

abbrev TimerReply : TimerCall → Type
  | .ioread32 _ => U32
  | .iowrite32 _ _ => Unit

inductive PulsecapArray where
  | storedEdges
  deriving DecidableEq

abbrev timerSignature : Signature where
  Call := TimerCall
  Reply := TimerReply
  Region := PulsecapArray
  extent := fun _ => pulsecapMaxCount
  Memory := PulsecapData

abbrev PulsecapProgram := Program timerSignature

/-- A pointer argument that the callee compares with `NULL`. -/
inductive Pointer where
  | null
  | valid
  deriving DecidableEq

def regRead (reg : TimerRegister) : PulsecapProgram U32 :=
  .call (.ioread32 reg) .done

def regWrite (reg : TimerRegister) (value : U32) : PulsecapProgram Unit :=
  .call (.iowrite32 value reg) .done

/-- An index into `stored_edges`. -/
def edgeSlot (position : Nat) : PulsecapProgram (Fin pulsecapMaxCount) :=
  index PulsecapArray.storedEdges position

/-- One `regval = read; regval = f(regval); write` of a control register. -/
def regUpdate (reg : TimerRegister) (change : U32 → U32) : PulsecapProgram Unit := do
  let regval ← regRead reg
  regWrite reg (change regval)

def stopTimer : PulsecapProgram Unit := do
  regUpdate .tcsr0 fun regval => regval &&& ~~~tcsr0Ent0
  regUpdate .tcsr1 fun regval => regval &&& ~~~tcsr0Ent0

def disableInt0 : PulsecapProgram Unit :=
  regUpdate .tcsr0 fun regval => regval &&& ~~~tcsr0Enit0

def disableInt1 : PulsecapProgram Unit :=
  regUpdate .tcsr1 fun regval => regval &&& ~~~tcsr0Enit0

def disableInterrupts : PulsecapProgram Unit := do
  disableInt0
  disableInt1

/-- `timer_irq_handler` decides on the edge from the status of timer 0 alone;
the status of timer 1 is read and not consulted. -/
def readEdge (t0State : U32) : PulsecapProgram PulseData :=
  if isSet t0State tcsr0T0int then do
    let edgeCount ← regRead .tlr0
    return ⟨edgeCount, pulsecapEdgeHigh⟩
  else do
    let edgeCount ← regRead .tlr1
    return ⟨edgeCount, pulsecapEdgeLow⟩

def setEdge (slot : Fin pulsecapMaxCount) (edge : PulseData) (drv : PulsecapData) :
    PulsecapData :=
  { drv with storedEdges := Function.update drv.storedEdges slot edge }

/-- The part of `timer_irq_handler` that runs when `edge_ptr > 0`: the store
comes before the comparison with the target. -/
def storeLaterEdge (edge : PulseData) : PulsecapProgram Unit := do
  let drv ← field id
  let last ← edgeSlot (drv.edgePtr - 1).toNat
  whenever ((drv.storedEdges last).edgeType ≠ edge.edgeType) (do
    let slot ← edgeSlot drv.edgePtr.toNat
    modify (setEdge slot edge)
    if drv.edgePtr < drv.edgeTarget then
      modify fun drv => { drv with edgePtr := drv.edgePtr + 1 }
    else do
      stopTimer
      modify fun drv => { drv with flags := drv.flags ||| pulsecapDone })

/-- The first edge of a capture is always HIGH. -/
def storeFirstEdge (edge : PulseData) : PulsecapProgram Unit :=
  whenever (edge.edgeType = pulsecapEdgeHigh) (do
    let slot ← edgeSlot 0
    modify (setEdge slot edge)
    modify fun drv => { drv with edgePtr := 1 })

def storeEdge (edge : PulseData) : PulsecapProgram Unit := do
  let edgePtr ← field PulsecapData.edgePtr
  if 0 < edgePtr then storeLaterEdge edge else storeFirstEdge edge

/-- Both control registers are read, then both written back with the interrupt
bit set, which clears it in the hardware. -/
def clearInterruptFlags : PulsecapProgram Unit := do
  let t0State ← regRead .tcsr0
  let t1State ← regRead .tcsr1
  regWrite .tcsr0 (t0State ||| tcsr0T0int)
  regWrite .tcsr1 (t1State ||| tcsr0T0int)

def irqHandled : Int := 1

def captureRunning (flags : Byte) : Bool :=
  isSet flags pulsecapEnable && !isSet flags pulsecapDone

def timerIrqHandler : PulsecapProgram Int := do
  let t0State ← regRead .tcsr0
  let _t1State ← regRead .tcsr1
  let flags ← field PulsecapData.flags
  whenever (captureRunning flags) (do
    let edge ← readEdge t0State
    storeEdge edge)
  clearInterruptFlags
  return irqHandled

def initializeTimer : PulsecapProgram Unit := do
  regWrite .tcsr0 (tcsr0T0int ||| tcsr0Enit0 ||| tcsr0Capt0 ||| tcsr0Mdt0)
  regWrite .tcsr1 (tcsr0T0int ||| tcsr0Enit0 ||| tcsr0Capt0 ||| tcsr0Mdt0)
  regWrite .tlr0 0
  regWrite .tlr1 0

def startTimer : PulsecapProgram Unit :=
  regUpdate .tcsr0 fun regval => regval ||| tcsr0Enall

/-- What an accepted `pulsecap_start_capture` writes into the instance. -/
def PulsecapData.armed (pcap : PulsecapData) (edgeCount : U32) : PulsecapData :=
  { pcap with
    edgeTarget := edgeCount
    edgePtr := 0
    flags := (pcap.flags ||| pulsecapEnable) &&& ~~~pulsecapDone &&& ~~~pulsecapEdgesRead
      &&& ~~~pulsecapCancelled }

def pulsecapStartCapture (pcap : Pointer) (edgeCount : U32) : PulsecapProgram Int := do
  if pcap = .null then return -enoent
  let flags ← field PulsecapData.flags
  if isSet flags pulsecapEnable then
    if !isSet flags pulsecapDone then return -ebusy
  if pulsecapMaxCount < edgeCount.toNat then return -einval
  initializeTimer
  modify fun pcap => pcap.armed edgeCount
  startTimer
  return 0

/-- The last path of the source reaches the end of the function without a
`return`; its value is `none`. -/
def pulsecapEdgesCaptured (pcap : Pointer) : PulsecapProgram (Option U32) := do
  if pcap = .null then return some 0
  let pcap ← field id
  if isSet pcap.flags (pulsecapEnable ||| pulsecapCancelled) then return some pcap.edgePtr
  if isSet pcap.flags pulsecapDone then return some pcap.edgeTarget
  return none

def PulsecapData.cancelled (pcap : PulsecapData) : PulsecapData :=
  { pcap with
    flags := (pcap.flags &&& ~~~pulsecapEnable &&& ~~~pulsecapDone) ||| pulsecapCancelled }

/-- The guard is `!flags & PULSECAP_ENABLE`, where `!` binds first. -/
def pulsecapCancelCapture (pcap : Pointer) : PulsecapProgram Int := do
  if pcap = .null then return -enoent
  let flags ← field PulsecapData.flags
  if isSet (logicalNot flags) pulsecapEnable then return -eio
  disableInterrupts
  stopTimer
  modify PulsecapData.cancelled
  return 0

def PulsecapData.state (pcap : PulsecapData) : Int :=
  if isSet pcap.flags pulsecapEnable then
    if isSet pcap.flags pulsecapDone then pulsecapStateDone else pulsecapStateRun
  else pulsecapStateIdle

def pulsecapGetState (pcap : Pointer) : PulsecapProgram Int := do
  if pcap = .null then return -enoent
  field PulsecapData.state

/-- The copy loop of `pulsecap_read_edges`, from slot `ii` on: the words it
writes to `dest`, in order. -/
def copyEdges (ii : Nat) : Nat → PulsecapProgram (List U32)
  | 0 => return []
  | remaining + 1 => do
      let slot ← edgeSlot ii
      let value ← field fun pcap => (pcap.storedEdges slot).edgeCount
      let rest ← copyEdges (ii + 1) remaining
      return value :: rest

/-- The return value of a read-out with the words written from `dest` on. -/
structure ReadOut where
  code : Int
  words : List U32
  deriving DecidableEq

def pulsecapReadEdges (pcap : Pointer) (count : U32) (dest : Pointer) :
    PulsecapProgram ReadOut := do
  if pcap = .null ∨ dest = .null then return ⟨-enoent, []⟩
  let pcap ← field id
  if isSet pcap.flags pulsecapDone then do
    let count := if pcap.edgeTarget < count then pcap.edgeTarget else count
    let words ← copyEdges 0 count.toNat
    return ⟨count.toInt, words⟩
  else if isSet pcap.flags pulsecapCancelled then do
    let count := if pcap.edgePtr < count then pcap.edgePtr else count
    let words ← copyEdges 0 count.toNat
    return ⟨count.toInt, words⟩
  else return ⟨-ebusy, []⟩

def pulsecapGetMaxEdges (pcap : Pointer) : PulsecapProgram Int := do
  if pcap = .null then return -enodev
  return pulsecapMaxCount

/-- `edge_data_show` with the page of sysfs as destination. -/
def edgeDataShow : PulsecapProgram ReadOut := do
  let edgeTarget ← field PulsecapData.edgeTarget
  let readOut ← pulsecapReadEdges .valid edgeTarget .valid
  if readOut.code < 0 then return readOut
  modify fun drv => { drv with flags := drv.flags ||| pulsecapEdgesRead }
  return { readOut with code := readOut.code * sizeofEdgeCount }

end Ebaz4205.PulsecapDriver
