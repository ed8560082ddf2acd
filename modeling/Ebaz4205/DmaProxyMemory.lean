import Ebaz4205.DmaProxyDriver
import Ebaz4205.PartialRuns
import Ebaz4205.ProgramDisciplines

/-!
# What a transfer of the DMA proxy touches

Everything that an `ioctl` does is for the index that it was given. Neither that index nor
the length beside the buffer is looked at before it is used, so user space decides
whether the driver stays in its tables and the engine in the buffer.
-/

namespace Ebaz4205.DmaProxyMemory

open DriverProgram DriverProgram.Program PartialRuns DmaProxyDriver

set_option autoImplicit false

variable {World : Type} {env : Environment proxySignature World}
  {machine : Machine proxySignature World} {physAddr : U32}

section Indices

def Inside (index : Int) : Prop := 0 ≤ index ∧ index < bufferCount

instance (index : Int) : Decidable (Inside index) := inferInstanceAs (Decidable (_ ∧ _))

end Indices

section Handles

/-- Where the buffer of an index is. -/
def handle (physAddr : U32) (index : BufferIndex) : U32 :=
  physAddr + BitVec.ofNat 32 (channelBufferSize * index) + 0

def Handles (physAddr : U32) (channel : DmaProxyChannel) : Prop :=
  ∀ index, (channel.bdtable index).dmaHandle = handle physAddr index

end Handles

section Transfers

/-- The index that was copied and the length that was read last, if any was. -/
structure Given where
  index : Option Int
  length : Option U32

def Given.advance (given : Given) : Exchange proxySignature → Given
  | ⟨.copyFromUser, index⟩ => { given with index := some index }
  | ⟨.readLength _, length⟩ => { given with length := some length }
  | _ => given

/-- Everything is for the index that was given, and a transfer is of its buffer and of the
length that is there. -/
def givenDiscipline (physAddr : U32) : Discipline proxySignature Given where
  permits
    | given, .copyFromUser => given.index = none
    | given, .readLength index => given.index = some (index : Int)
    | given, .writeStatus index _ => given.index = some (index : Int)
    | given, .devicePrepSlaveSg sglist =>
        ∃ (index : BufferIndex) (length : U32), given.index = some (index : Int) ∧
          given.length = some length ∧ sglist = ⟨handle physAddr index, length⟩
    | given, .initCompletion index => given.index = some (index : Int)
    | given, .dmaengineSubmit _ index => given.index = some (index : Int)
    | _, .dmaAsyncIssuePending => True
    | given, .waitForCompletionTimeout index _ => given.index = some (index : Int)
    | _, .dmaAsyncIsTxComplete _ => True
  advance := Given.advance

variable {index : Int}

variable {inside : Inside index} {sglist : Scatterlist}

end Transfers

section Runs

/-- One of the commands that transfer something. -/
def Transfers (cmd : U32) : Prop := cmd = startXfer ∨ cmd = finishXfer ∨ cmd = xfer

/-- The index that the next `ioctl` is given. -/
def nextIndex (env : Environment proxySignature World) (machine : Machine proxySignature World) :
    Int :=
  (env.respond .copyFromUser machine.world).1

/-- The machine when the command is carried out. -/
def taken (env : Environment proxySignature World) (machine : Machine proxySignature World) :
    Machine proxySignature World :=
  ⟨{ machine.memory with bdindex := nextIndex env machine },
    (env.respond .copyFromUser machine.world).2⟩

/-- What is said of an `ioctl` of a channel whose handles are set. -/
structure Placed (physAddr : U32) (env : Environment proxySignature World) (cmd : U32)
    (machine : Machine proxySignature World) : Prop where
  undefined_iff : ((ioctl cmd).exec env machine).1 = .undefined ↔
    Transfers cmd ∧ ¬Inside (nextIndex env machine)
  follows : (givenDiscipline physAddr).Follows ⟨none, none⟩ ((ioctl cmd).exchanges env machine)
  handles : ∀ result after, (ioctl cmd).exec env machine = (.returned result, after) →
    Handles physAddr after.memory

/-- A channel that serves one `ioctl` after the other. -/
def served (env : Environment proxySignature World) :
    Transducer (Machine proxySignature World) U32 Int where
  step machine cmd :=
    match (ioctl cmd).exec env machine with
    | (.returned result, after) => some (result, after)
    | _ => none

def unset : Machine proxySignature Unit := ⟨⟨fun _ => ⟨0, 0, 0, 0⟩, 0⟩, ()⟩

end Runs

section Regions

/-- The bytes of a transfer. -/
def bytes (sglist : Scatterlist) : Set Nat :=
  { byte | sglist.dmaAddress.toNat ≤ byte ∧
    byte < sglist.dmaAddress.toNat + sglist.dmaLength.toNat }

/-- The allocation is in the address space. -/
def Fits (physAddr : U32) : Prop :=
  physAddr.toNat + channelBufferSize * bufferCount ≤ 2 ^ 32

end Regions

end Ebaz4205.DmaProxyMemory
