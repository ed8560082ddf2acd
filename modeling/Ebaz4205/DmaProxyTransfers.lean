import Ebaz4205.DmaEngine
import Ebaz4205.DmaProxyMemory

/-!
# What the transfers of the DMA proxy are for

Over an engine that keeps to its laws the driver is a set of mailboxes: starting a transfer
sends something for its slot, if the engine has a descriptor and takes it, and finishing it
collects the outcome that has arrived or reports that it has not. This holds of every run
in which no slot is started while a transfer for it is under way, and none is waited for
that was never prepared.
-/

namespace Ebaz4205.DmaProxyTransfers

open DriverProgram DriverProgram.Program PartialRuns
open DmaProxyDriver DmaProxyMemory DmaEngine Mailboxes

set_option autoImplicit false

variable {World : Type} {env : Environment proxySignature World} {account : World → Account}
  {machine : Machine proxySignature World} {index : Int} {slot : BufferIndex}
  {first : Mail BufferIndex} {wanted : Prop} {asked : List (Exchange proxySignature)}

/-- What is reported for the box of a slot. -/
def verdict : Option Bool → ProxyStatus
  | none => .timeout
  | some true => .noError
  | some false => .error

section Assertions

/-- About the tables of the driver, the account of the engine and the calls so far. -/
abbrev Assertion := DmaProxyChannel → Account → List (Exchange proxySignature) → Prop

def At (account : World → Account) (assertion : Assertion)
    (machine : Machine proxySignature (World × List (Exchange proxySignature))) : Prop :=
  assertion machine.memory (account machine.world.1) machine.world.2

/-- The driver goes by its index. -/
structure Afloat (index : Int) (channel : DmaProxyChannel) (state : Account) : Prop where
  bdindex : channel.bdindex = index
  sound : Sound channel state

/-- The completion is prepared, and nothing was sent yet. -/
structure Ready (index : Int) (first : Mail BufferIndex) (slot : BufferIndex)
    (asked : List (Exchange proxySignature)) (channel : DmaProxyChannel) (state : Account)
    (log : List (Exchange proxySignature)) : Prop where
  afloat : Afloat index channel state
  evolves : Mail.Evolves (first.clear slot) (mailOf channel state)
  landed : Landed slot state
  empty : state.completions slot = some 0
  asked : log = asked

/-- The box was found so, and taken. -/
structure Collected (index : Int) (first : Mail BufferIndex) (slot : BufferIndex)
    (found : Option Bool) (asked : List (Exchange proxySignature)) (channel : DmaProxyChannel)
    (state : Account) (log : List (Exchange proxySignature)) : Prop where
  afloat : Afloat index channel state
  collects : Mail.Collects first slot found (mailOf channel state)
  settled : ∀ ok, found = some ok → state.outcome (channel.bdtable slot).cookie = some ok
  asked : log = asked

end Assertions

section Elapsing

variable {channel : DmaProxyChannel} {state later : Account}

end Elapsing

section Starting

/-- The calls of a start, and what becomes of it: without a descriptor it is given up, with a
negative cookie it is refused, and else it is sent. -/
inductive Attempt (slot : BufferIndex) : List (Exchange proxySignature) → Fate → Prop where
  | givenUp (length : U32) (sglist : Scatterlist) :
      Attempt slot [⟨.readLength slot, length⟩, ⟨.devicePrepSlaveSg sglist, none⟩] .givenUp
  | refused (length : U32) (sglist : Scatterlist) (descriptor : Descriptor) (cookie : Int)
      (negative : cookie < 0) :
      Attempt slot [⟨.readLength slot, length⟩, ⟨.devicePrepSlaveSg sglist, some descriptor⟩,
        ⟨.initCompletion slot, ()⟩, ⟨.dmaengineSubmit descriptor slot, cookie⟩] .refused
  | sent (length : U32) (sglist : Scatterlist) (descriptor : Descriptor) (cookie : Int)
      (taken : 0 ≤ cookie) :
      Attempt slot [⟨.readLength slot, length⟩, ⟨.devicePrepSlaveSg sglist, some descriptor⟩,
        ⟨.initCompletion slot, ()⟩, ⟨.dmaengineSubmit descriptor slot, cookie⟩,
        ⟨.dmaAsyncIssuePending, ()⟩] .sent

end Starting

section Collecting

/-- The calls of a wait, and what it reports in the end. -/
inductive Wait (slot : BufferIndex) : List (Exchange proxySignature) → ProxyStatus → Prop where
  | waited (left : Nat) (cookie : Int) (status : DmaStatus) :
      Wait slot [⟨.writeStatus slot .busy, ()⟩, ⟨.waitForCompletionTimeout slot 3000, left⟩,
        ⟨.dmaAsyncIsTxComplete cookie, status⟩, ⟨.writeStatus slot (reported left status), ()⟩]
        (reported left status)

/-- The wait is over, and it has reported what was found. -/
def Over (account : World → Account) (index : Int) (first : Mail BufferIndex)
    (slot : BufferIndex)
    (machine : Machine proxySignature (World × List (Exchange proxySignature))) : Prop :=
  ∃ found calls, Wait slot calls (verdict found) ∧
    At account (Collected index first slot found calls) machine

end Collecting

section Commands

def mailIn (account : World → Account) (machine : Machine proxySignature World) :
    Mail BufferIndex := mailOf machine.memory (account machine.world)

/-- The engine has a descriptor for the transfer that a command starts. -/
def Granted (env : Environment proxySignature World) (machine : Machine proxySignature World) :
    Prop :=
  ∃ sglist descriptor, ⟨.devicePrepSlaveSg sglist, some descriptor⟩ ∈
    startTransfer.exchanges env (taken env machine)

/-- What a command does to the mail, and with which calls. -/
inductive Serves (first last : Mail BufferIndex) (slot : BufferIndex) :
    U32 → List (Exchange proxySignature) → Prop where
  | started (fate : Fate) (calls : List (Exchange proxySignature))
      (attempt : Attempt slot calls fate) (starts : Mail.Starts first slot fate last) :
      Serves first last slot startXfer calls
  | finished (found : Option Bool) (calls : List (Exchange proxySignature))
      (wait : Wait slot calls (verdict found)) (collects : Mail.Collects first slot found last) :
      Serves first last slot finishXfer calls
  | exchanged (middle : Mail BufferIndex) (fate : Fate) (found : Option Bool)
      (tried waited : List (Exchange proxySignature)) (attempt : Attempt slot tried fate)
      (starts : Mail.Starts first slot fate middle) (wait : Wait slot waited (verdict found))
      (collects : Mail.Collects middle slot found last) :
      Serves first last slot xfer (tried ++ waited)

/-- The `ioctl` returns. A transfer serves the slot it was given, and any other command
leaves the mail to itself. -/
structure Refines (env : Environment proxySignature World) (account : World → Account)
    (machine : Machine proxySignature World) (cmd : U32) (after : Machine proxySignature World) :
    Prop where
  ran : (ioctl cmd).exec env machine = (.returned 0, after)
  transfers : Transfers cmd → ∃ (slot : BufferIndex) (calls : List (Exchange proxySignature)),
    (slot : Int) = nextIndex env machine ∧
      (ioctl cmd).exchanges env machine = ⟨.copyFromUser, nextIndex env machine⟩ :: calls ∧
        Serves (mailIn account machine) (mailIn account after) slot cmd calls
  others : ¬Transfers cmd →
    (ioctl cmd).exchanges env machine = [⟨.copyFromUser, nextIndex env machine⟩] ∧
      Mail.Evolves (mailIn account machine) (mailIn account after)

end Commands

section Runs

variable {start : Machine proxySignature World}

def blank : DmaProxyChannel := ⟨fun _ => ⟨0, 0, ⟨0, 0⟩⟩, 0⟩

end Runs

end Ebaz4205.DmaProxyTransfers
