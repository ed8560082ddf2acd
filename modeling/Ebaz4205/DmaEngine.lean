import Ebaz4205.DmaProxyDriver
import Ebaz4205.Mailboxes

/-!
# What the DMA proxy relies on in its engine

The engine, its callbacks and the completions of the kernel are not part of the
repository. What they do is told by an account of them: the transactions whose callback
is still to be called, the statuses that are final, and the completions. An engine is any
environment that keeps to the laws about its account. In which order transactions finish,
how long they take, whether one gets a descriptor or is refused, is not fixed.
-/

namespace Ebaz4205.DmaEngine

open DriverProgram DmaProxyDriver Mailboxes

set_option autoImplicit false

/-- A transaction has the cookie that it was given, and its callback completes the completion
of its slot. -/
structure Transaction where
  cookie : Int
  slot : BufferIndex

/-- A status that is final says whether the transaction is complete. A completion that was
never initialised is `none`, any other counts how often it was completed and not waited for. -/
structure Account where
  flying : List Transaction
  outcome : Int → Option Bool
  completions : BufferIndex → Option Nat

namespace Account

variable (account : Account)

def settle (cookie : Int) (ok : Bool) : Account :=
  { account with outcome := Function.update account.outcome cookie (some ok) }

/-- The callback of a transaction for a slot is called, and these are left. -/
def callBack (slot : BufferIndex) (left : List Transaction) : Account :=
  { account with
    flying := left
    completions := Function.update account.completions slot
      ((account.completions slot).map (· + 1)) }

def setCompletion (slot : BufferIndex) (done : Nat) : Account :=
  { account with completions := Function.update account.completions slot (some done) }

def accept (transaction : Transaction) : Account :=
  { account with flying := account.flying ++ [transaction] }

end Account

section Laws

variable {World : Type}

end Laws

section Mail

variable {channel : DmaProxyChannel} {account later : Account} {slot : BufferIndex}

/-- What the tables of the driver and the engine together are for. -/
def mailOf (channel : DmaProxyChannel) (account : Account) : Mail BufferIndex where
  flying := (account.flying.map Transaction.slot).toFinset
  box slot :=
    match account.completions slot with
    | some (_ + 1) => account.outcome (channel.bdtable slot).cookie
    | _ => none

/-- Nothing is under way for a slot. -/
def Landed (slot : BufferIndex) (account : Account) : Prop :=
  slot ∉ account.flying.map Transaction.slot

/-- No slot has more than one transaction under way, and the table holds its cookie. -/
structure Sound (channel : DmaProxyChannel) (account : Account) : Prop where
  distinct : (account.flying.map Transaction.slot).Nodup
  flying : ∀ transaction ∈ account.flying,
    (channel.bdtable transaction.slot).cookie = transaction.cookie ∧
      account.completions transaction.slot = some 0
  arrived : ∀ slot done, account.completions slot = some (done + 1) →
    done = 0 ∧ ∃ ok, account.outcome (channel.bdtable slot).cookie = some ok

/-- Nothing was started yet. -/
structure Idle (account : Account) : Prop where
  flying : account.flying = []
  completions : ∀ slot, account.completions slot = none

section Working

variable {cookie : Int} {ok : Bool}

variable {front rest : List Transaction} {transaction : Transaction}

end Working

section Calls

end Calls

end Mail

section InOrder

/-- What happens around one call of an engine that works in order: how the next transactions
finish in front of it, what user space has stored, whether the engine has a descriptor and
takes it, and how much time is left where something was waited for in time. -/
structure Moment where
  outcomes : List Bool
  index : Int
  length : U32
  descriptor : Option Descriptor
  refuses : Bool
  left : Nat

/-- Of the transactions the first `issued` ones have begun. -/
structure Engine where
  agenda : Nat → Moment
  time : Nat
  used : Nat
  issued : Nat
  account : Account

namespace Engine

variable (engine : Engine)

/-- Before any transaction. The first cookie is not used. -/
def idle (agenda : Nat → Moment) : Engine := ⟨agenda, 0, 1, 0, ⟨[], fun _ => none, fun _ => none⟩⟩

/-- The next transaction that has begun finishes. -/
def finish (ok : Bool) : Engine :=
  match engine.issued, engine.account.flying with
  | issued + 1, transaction :: rest =>
      { engine with
        issued := issued
        account := (if engine.account.outcome transaction.cookie = none
          then engine.account.settle transaction.cookie ok
          else engine.account).callBack transaction.slot rest }
  | _, _ => engine

def elapse : Engine :=
  { (engine.agenda engine.time).outcomes.foldl finish engine with time := engine.time + 1 }

/-- What is answered at this moment. -/
def serve (moment : Moment) : (call : ProxyCall) → Engine → ProxyReply call × Engine
  | .copyFromUser, engine => (moment.index, engine)
  | .readLength _, engine => (moment.length, engine)
  | .writeStatus _ _, engine => ((), engine)
  | .devicePrepSlaveSg _, engine => (moment.descriptor, engine)
  | .initCompletion slot, engine =>
      ((), { engine with account := engine.account.setCompletion slot 0 })
  | .dmaengineSubmit _ slot, engine =>
      if moment.refuses then ((-1 : Int), engine)
      else ((engine.used : Int) + 1, { engine with
        used := engine.used + 1, account := engine.account.accept ⟨engine.used + 1, slot⟩ })
  | .dmaAsyncIssuePending, engine => ((), { engine with issued := engine.account.flying.length })
  | .waitForCompletionTimeout slot _, engine =>
      match engine.account.completions slot with
      | none => (moment.left, engine)
      | some done => (if done = 0 then 0 else moment.left + 1,
          { engine with account := engine.account.setCompletion slot (done - 1) })
  | .dmaAsyncIsTxComplete cookie, engine =>
      (match engine.account.outcome cookie with
        | none => .inProgress
        | some true => .complete
        | some false => .error, engine)

end Engine

def environment : Environment proxySignature Engine where
  respond call engine := Engine.serve (engine.agenda engine.time) call engine.elapse

end InOrder

end Ebaz4205.DmaEngine
