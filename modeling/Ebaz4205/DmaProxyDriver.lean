import Mathlib.Logic.Function.Basic
import Ebaz4205.DriverProgram

/-!
# The driver between user space and the DMA engine

A transcription of the transfer functions of `dma-proxy.c` and of its `ioctl`, for one
channel. The buffer table is mapped into user space, so a length is read as it
happens to be there, and the completions belong to the callbacks of the engine.
-/

namespace Ebaz4205.DmaProxyDriver

open DriverProgram DriverProgram.Program

set_option autoImplicit false

abbrev U32 := BitVec 32

def bufferCount : Nat := 32

abbrev BufferIndex := Fin bufferCount

section Layout

/-- `BUFFER_SIZE`. -/
def bufferSize : Nat := 128 * 1024

/-- `struct channel_buffer`: the buffer, then the status and the length, of four bytes each,
aligned to 1024 bytes. -/
def channelBufferSize : Nat := (bufferSize + 4 + 4 + 1023) / 1024 * 1024

end Layout

inductive ProxyStatus where
  | noError
  | busy
  | timeout
  | error
  deriving DecidableEq

inductive DmaStatus where
  | complete
  | inProgress
  | paused
  | error
  deriving DecidableEq

structure Scatterlist where
  dmaAddress : U32
  dmaLength : U32
  deriving DecidableEq

/-- `struct proxy_bd` without its completion. -/
structure ProxyBd where
  cookie : Int
  dmaHandle : U32
  sglist : Scatterlist

/-- The fields of `struct dma_proxy_channel` that the transfers use. `bdindex` is an `int`. -/
structure DmaProxyChannel where
  bdtable : BufferIndex → ProxyBd
  bdindex : Int

/-- A descriptor of the engine. -/
abbrev Descriptor := Nat

inductive ProxyCall where
  | copyFromUser
  | readLength (index : BufferIndex)
  | writeStatus (index : BufferIndex) (status : ProxyStatus)
  | devicePrepSlaveSg (sglist : Scatterlist)
  | initCompletion (index : BufferIndex)
  | dmaengineSubmit (descriptor : Descriptor) (callbackParam : BufferIndex)
  | dmaAsyncIssuePending
  | waitForCompletionTimeout (index : BufferIndex) (milliseconds : Nat)
  | dmaAsyncIsTxComplete (cookie : Int)

/-- `copy_from_user` leaves an index, also when it fails. -/
abbrev ProxyReply : ProxyCall → Type
  | .copyFromUser => Int
  | .readLength _ => U32
  | .writeStatus _ _ => Unit
  | .devicePrepSlaveSg _ => Option Descriptor
  | .initCompletion _ => Unit
  | .dmaengineSubmit _ _ => Int
  | .dmaAsyncIssuePending => Unit
  | .waitForCompletionTimeout _ _ => Nat
  | .dmaAsyncIsTxComplete _ => DmaStatus

inductive ProxyArray where
  | bdtable
  | bufferTable
  deriving DecidableEq

abbrev proxySignature : Signature where
  Call := ProxyCall
  Reply := ProxyReply
  Region := ProxyArray
  extent := fun _ => bufferCount
  Memory := DmaProxyChannel

abbrev ProxyProgram := Program proxySignature

def proxyCall (call : ProxyCall) : ProxyProgram (ProxyReply call) := .call call .done

/-- The element at an index that may be negative. -/
def element (array : ProxyArray) (position : Int) : ProxyProgram BufferIndex :=
  @index proxySignature array (if 0 ≤ position then position.toNat else bufferCount)

def DmaProxyChannel.setBd (channel : DmaProxyChannel) (index : BufferIndex) (bd : ProxyBd) :
    DmaProxyChannel :=
  { channel with bdtable := Function.update channel.bdtable index bd }

def setSglist (index : BufferIndex) (change : Scatterlist → Scatterlist) : ProxyProgram Unit :=
  modify fun channel => channel.setBd index
    { channel.bdtable index with sglist := change (channel.bdtable index).sglist }

/-- The list of one entry for the buffer of an index. -/
def fillSglist (bdindex : Int) (bd : BufferIndex) : ProxyProgram Scatterlist := do
  setSglist bd fun _ => ⟨0, 0⟩
  let handle ← field fun channel => (channel.bdtable bd).dmaHandle
  setSglist bd fun sglist => { sglist with dmaAddress := handle }
  let buffer ← element .bufferTable bdindex
  let length ← proxyCall (.readLength buffer)
  setSglist bd fun sglist => { sglist with dmaLength := length }
  field fun channel => (channel.bdtable bd).sglist

/-- The branch of `start_transfer` with a descriptor. -/
def submitTransfer (bd : BufferIndex) (chanDesc : Descriptor) : ProxyProgram Unit := do
  proxyCall (.initCompletion bd)
  let cookie ← proxyCall (.dmaengineSubmit chanDesc bd)
  modify fun channel => channel.setBd bd { channel.bdtable bd with cookie := cookie }
  if cookie < 0 then return () else proxyCall .dmaAsyncIssuePending

/-- Prepare, submit and issue the transfer of the current index. -/
def startTransfer : ProxyProgram Unit := do
  let bdindex ← field DmaProxyChannel.bdindex
  let bd ← element .bdtable bdindex
  let sglist ← fillSglist bdindex bd
  let chanDesc ← proxyCall (.devicePrepSlaveSg sglist)
  match chanDesc with
  | none => return ()
  | some chanDesc => submitTransfer bd chanDesc

/-- What is reported for the time that was left and the status of the transaction. -/
def reported (timeout : Nat) (status : DmaStatus) : ProxyStatus :=
  if timeout = 0 then .timeout
  else if status ≠ .complete then .error
  else .noError

def waitForTransfer : ProxyProgram Unit := do
  let bdindex ← field DmaProxyChannel.bdindex
  let buffer ← element .bufferTable bdindex
  proxyCall (.writeStatus buffer .busy)
  let bd ← element .bdtable bdindex
  let timeout ← proxyCall (.waitForCompletionTimeout bd 3000)
  let cookie ← field fun channel => (channel.bdtable bd).cookie
  let status ← proxyCall (.dmaAsyncIsTxComplete cookie)
  proxyCall (.writeStatus buffer (reported timeout status))

section Commands

/-- `_IOC`, the number of a command with an argument of four bytes. -/
def ioc (direction kind number : U32) : U32 :=
  direction <<< 30 ||| 4 <<< 16 ||| kind <<< 8 ||| number

def finishXfer : U32 := ioc 1 0x61 0x61
def startXfer : U32 := ioc 1 0x61 0x62
def xfer : U32 := ioc 2 0x61 0x63

/-- The `switch`. A command that is none of the three does nothing. -/
def command (cmd : U32) : ProxyProgram Unit :=
  if cmd = startXfer then startTransfer
  else if cmd = finishXfer then waitForTransfer
  else if cmd = xfer then do
    startTransfer
    waitForTransfer
  else return ()

def ioctl (cmd : U32) : ProxyProgram Int := do
  let bdindex ← proxyCall .copyFromUser
  modify fun channel => { channel with bdindex := bdindex }
  command cmd
  return 0

end Commands

end Ebaz4205.DmaProxyDriver
