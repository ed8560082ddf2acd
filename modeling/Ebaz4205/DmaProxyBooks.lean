import Mathlib.Algebra.BigOperators.Group.Finset.Basic
import Ebaz4205.DmaProxyBus
import Ebaz4205.ResourceLedger

/-!
# The books of the DMA proxy

What a channel takes from the kernel: the channel of the DMA engine, a device number, a
character device and a device node. A remove gives back what its probe took. A probe that
fails gives back nothing of what it had by then, and no remove follows it.
-/

namespace Ebaz4205.DmaProxyBooks

open DriverProgram PartialRuns DmaProxyProbe DmaProxyCalls DmaProxyBus ResourceLedger

set_option autoImplicit false

instance decidableEqExcept {Error Value : Type} [DecidableEq Error] [DecidableEq Value] :
    DecidableEq (Except Error Value)
  | .ok value, .ok other => decidable_of_iff (value = other) ⟨congrArg Except.ok, Except.ok.inj⟩
  | .error error, .error other =>
      decidable_of_iff (error = other) ⟨congrArg Except.error, Except.error.inj⟩
  | .ok _, .error _ => isFalse (nomatch ·)
  | .error _, .ok _ => isFalse (nomatch ·)

inductive Resource where
  | dmaChannel (channel : ChannelRef)
  | chrdevRegion (devNode : U32)
  | cdev (channel : ChannelRef)
  | device (classP : Option ClassResult) (devNode : U32)
  deriving DecidableEq

def entries : Exchange moduleSignature → Ledger Resource
  | ⟨.dmaRequestSlaveChannel ref, true⟩ => [.acquired (.dmaChannel ref)]
  | ⟨.allocChrdevRegion _, .ok devNode⟩ => [.acquired (.chrdevRegion devNode)]
  | ⟨.cdevAdd ref _, .ok _⟩ => [.acquired (.cdev ref)]
  | ⟨.deviceCreate classP devNode, .ok _⟩ => [.acquired (.device classP devNode)]
  | ⟨.deviceDestroy classP devNode, _⟩ => [.released (.device classP devNode)]
  | ⟨.cdevDel ref, _⟩ => [.released (.cdev ref)]
  | ⟨.unregisterChrdevRegion devNode, _⟩ => [.released (.chrdevRegion devNode)]
  | ⟨.deviceTerminateAll ref, _⟩ => [.used (.dmaChannel ref)]
  | ⟨.dmaReleaseChannel ref, _⟩ => [.released (.dmaChannel ref)]
  | _ => []

def books (log : Log) : Ledger Resource := log.flatMap entries

/-- The kernel granted a channel of the DMA engine. -/
def Granted (log : Log) : Prop := ∃ ref, ⟨.dmaRequestSlaveChannel ref, true⟩ ∈ log

/-- What a whole channel holds. -/
def belongings (ref : ChannelRef) (channel : ProxyChannel) : List Resource :=
  [.dmaChannel ref, .chrdevRegion channel.devNode, .cdev ref,
    .device channel.classP channel.devNode]

def holdings (pdev : Pdev) (channels : Nat → ProxyChannel) : Nat → Nat → List Resource
  | 0, _ => []
  | left + 1, place =>
      belongings ⟨pdev, place⟩ (channels place) ++ holdings pdev channels left (place + 1)

def share (module : DmaProxyModule) (pdev : Pdev) : List Resource :=
  holdings pdev (module.drvdata pdev).channels (module.drvdata pdev).channelCount.toNat 0

variable {module middle after : DmaProxyModule} {ref : ChannelRef} {pdev : Pdev} {rc : Int}
  {log others : Log} {left place : Nat} {taken more : List Resource}

section Books

@[simp] theorem books_nil : books [] = [] := rfl

@[simp] theorem books_cons (exchange : Exchange moduleSignature) (log : Log) :
    books (exchange :: log) = entries exchange ++ books log := rfl

@[simp] theorem books_append (log others : Log) :
    books (log ++ others) = books log ++ books others :=
  List.flatMap_append

/-- After the log, this much more is held. -/
def Takes (log : Log) (taken : List Resource) : Prop :=
  ∀ resource, held (books log) resource = taken.count resource

@[simp] theorem change_used (resource other : Resource) :
    LedgerEntry.change resource (.used other) = 0 := rfl

theorem change_released (resource other : Resource) :
    LedgerEntry.change resource (.released other) =
      -LedgerEntry.change resource (.acquired other) := by
  rw [LedgerEntry.change, LedgerEntry.change]
  split_ifs <;> rfl

theorem count_cons_change (resource other : Resource) (rest : List Resource) :
    ((other :: rest).count resource : Int) =
      LedgerEntry.change resource (.acquired other) + rest.count resource := by
  rw [LedgerEntry.change, List.count_cons, Nat.cast_add, add_comm]
  simp

theorem takes_append (first : Takes log taken) (second : Takes others more) :
    Takes (log ++ others) (taken ++ more) := by
  intro resource
  rw [books_append, held_append, first resource, second resource, List.count_append, Nat.cast_add]

/-- The log leaves nothing held if, and only if, nothing was granted in it. -/
structure Leaves (log : Log) (taken : List Resource) : Prop where
  takes : Takes log taken
  empty : taken = [] ↔ ¬Granted log

theorem granted_append : Granted (log ++ others) ↔ Granted log ∨ Granted others := by
  simp only [Granted, List.mem_append, exists_or]

theorem leaves_append (first : Leaves log taken) (second : Leaves others more) :
    Leaves (log ++ others) (taken ++ more) := by
  refine ⟨takes_append first.takes second.takes, ?_⟩
  rw [List.append_eq_nil_iff, first.empty, second.empty, granted_append, not_or]

theorem leaves_of_granted (takes : Takes log taken) (some : taken ≠ [])
    (granted : ⟨.dmaRequestSlaveChannel ref, true⟩ ∈ log) : Leaves log taken :=
  ⟨takes, iff_of_false some (not_not.mpr ⟨ref, granted⟩)⟩

end Books

section Probes

theorem books_of_finds {isErr : Bool} {before later : Option ClassResult}
    (finds : FindsClass ref isErr before later log) : books log = [] := by
  cases finds with
  | found classP fine => rfl
  | created address => rfl

/-- A channel of which the rest fails is back at what was granted; one that is made is whole,
also where it has no memory in the end. -/
theorem takes_inits (inits : InitsCdevice ref module rc after log) :
    Takes log (if rc = 0 then (belongings ref (after.channel ref)).tail else []) := by
  intro resource
  cases inits with
  | noRegion errno => simp [entries]
  | noCdev _ devNode errno kept classP =>
      simp [entries, change_released]
  | badClass _ devNode log kept finds =>
      have failed : error ≠ 0 := by decide
      simp [entries, books_of_finds finds, failed, change_released]
  | made _ devNode length log kept finds node classP device channelP =>
      simp [entries, books_of_finds finds, belongings, count_cons_change, node, classP]

/-- A channel that the kernel granted and that fails later is not given back. -/
theorem leaves_of_creates (creates : CreatesChannel ref module rc after log) :
    ∃ taken, Leaves log taken ∧ (rc = 0 → taken = belongings ref (after.channel ref)) := by
  cases creates with
  | refused _ kept classP =>
      refine ⟨[], ⟨fun _ => rfl, iff_of_true rfl ?_⟩, fun fine => absurd fine (by decide)⟩
      rintro ⟨other, member⟩
      cases List.mem_singleton.mp member
  | noCdevice middle _ _ log kept classP failed inits =>
      refine ⟨[.dmaChannel ref], leaves_of_granted ?_ (List.cons_ne_nil _ _) List.mem_cons_self,
        fun fine => absurd fine failed⟩
      intro resource
      have rest := takes_inits inits resource
      rw [if_neg failed] at rest
      simp [entries, rest, count_cons_change]
  | made middle _ log allocated kept classP granted inits =>
      refine ⟨belongings ref (after.channel ref),
        leaves_of_granted ?_ (List.cons_ne_nil _ _) List.mem_cons_self, fun _ => rfl⟩
      intro resource
      have rest := takes_inits inits resource
      rw [if_pos rfl] at rest
      simp [entries, rest, belongings, count_cons_change]

/-- What a loop leaves that comes to its end is what all its channels hold. -/
theorem leaves_of_createsChannels (creates : CreatesChannels pdev left place module rc after log) :
    ∃ taken, Leaves log taken ∧
      (rc = 0 → taken = holdings pdev (after.drvdata pdev).channels left place) := by
  induction creates with
  | finished place module =>
      refine ⟨[], ⟨fun _ => rfl, iff_of_true rfl ?_⟩, fun _ => rfl⟩
      rintro ⟨other, member⟩
      cases member
  | stopped left place module after rc log failed creates =>
      obtain ⟨taken, leaves, _⟩ := leaves_of_creates creates
      exact ⟨taken, leaves, fun fine => absurd fine failed⟩
  | created left place module middle after rc log others creates rest ih =>
      obtain ⟨first, leaves, whole⟩ := leaves_of_creates creates
      obtain ⟨second, later, all⟩ := ih
      refine ⟨first ++ second, leaves_append leaves later, ?_⟩
      intro fine
      rw [whole rfl, all fine, holdings]
      congr 2
      exact (channel_of_creates rest (Nat.lt_succ_self place)).symm

theorem books_of_prepares (prepares : ∀ exchange ∈ log, Prepares exchange.request) :
    books log = [] := by
  apply List.flatMap_eq_nil_iff.mpr
  rintro ⟨request, reply⟩ member
  have quiet := prepares _ member
  cases request <;> first | rfl | cases quiet

theorem leaves_of_prepares (prepares : ∀ exchange ∈ log, Prepares exchange.request) :
    Leaves log [] := by
  refine ⟨fun resource => by rw [books_of_prepares prepares]; rfl, iff_of_true rfl ?_⟩
  rintro ⟨ref, member⟩
  exact prepares _ member

theorem leaves_of_probes (probes : Probes pdev module rc after log) :
    ∃ taken, Leaves log taken ∧ (rc = 0 → taken = share after pdev) := by
  cases probes with
  | unready _ _ _ prepares apart totalCount localClassP empty =>
      refine ⟨[], leaves_of_prepares prepares, ?_⟩
      intro fine
      rw [share, Int.toNat_of_nonpos (empty fine), holdings]
  | creating middle _ count _ front others prepares apart totalCount localClassP named creates =>
      obtain ⟨taken, leaves, all⟩ := leaves_of_createsChannels creates
      refine ⟨[] ++ taken, leaves_append (leaves_of_prepares prepares) leaves, ?_⟩
      intro fine
      rw [share, count_of_creates creates, named, Int.toNat_natCast, List.nil_append]
      exact all fine

end Probes

section Removes

theorem held_exitLog (resource : Resource) (ref : ChannelRef) (channel : ProxyChannel)
    (totalCount : Int) :
    held (books (exitLog ref channel totalCount)) resource =
      -((belongings ref channel).tail.count resource : Int) := by
  rw [exitLog]
  split_ifs with last
  · simp [entries, belongings, count_cons_change, change_released]
    omega
  · simp [entries, belongings, count_cons_change, change_released]
    omega

/-- Both loops together. -/
theorem held_removes (resource : Resource) (channels : Nat → ProxyChannel) (totalCount : Int) :
    held (books (exitLogs pdev channels totalCount left place ++
        releaseLogs pdev left place)) resource =
      -((holdings pdev channels left place).count resource : Int) := by
  induction left generalizing totalCount place with
  | zero => rfl
  | succ left ih =>
      have rest := @ih (place + 1) (totalCount - 1)
      rw [books_append, held_append] at rest
      rw [exitLogs, releaseLogs, holdings, List.count_append, books_append, books_append,
        held_append, held_append, held_exitLog]
      simp [entries, belongings, count_cons_change, change_released]
      omega

end Removes

section Runs

variable {World : Type} {env : Environment moduleSignature World}
    {state next final : BusState World}
  {served : Served} {events : List BusEvent} {calls : List Served}

/-- What all bound devices hold. -/
def shares (state : BusState World) (resource : Resource) : Int :=
  ∑ pdev ∈ state.bound, ((share state.machine.memory pdev).count resource : Int)

theorem shares_apart {bound : Finset Pdev} {machine last : Machine moduleSignature World}
    (apart : ∀ other ∈ bound, last.memory.drvdata other = machine.memory.drvdata other)
    (resource : Resource) : shares ⟨last, bound⟩ resource = shares ⟨machine, bound⟩ resource := by
  apply Finset.sum_congr rfl
  intro other member
  rw [share, share, apart other member]

theorem shares_idle (idle : state.bound = ∅) (resource : Resource) : shares state resource = 0 := by
  rw [shares, idle, Finset.sum_empty]

/-- A call that failed after the kernel had granted it something. -/
def Loses (served : Served) : Prop := served.rc ≠ 0 ∧ Granted served.log

theorem change_of_serves (serves : Serves state served next) : ∃ taken : List Resource,
    (∀ resource, held (books served.log) resource + shares state resource =
      taken.count resource + shares next resource) ∧ (taken = [] ↔ ¬Loses served) := by
  obtain ⟨machine, bound⟩ := state
  cases serves with
  | probed pdev rc log last unbound probes =>
      have apart : ∀ other ∈ bound, last.memory.drvdata other = machine.memory.drvdata other :=
        fun other member => apart_of_probes probes other fun same => unbound (same ▸ member)
      obtain ⟨taken, leaves, all⟩ := leaves_of_probes probes
      by_cases fine : rc = 0
      · refine ⟨[], ?_, iff_of_true rfl fun loses => loses.1 fine⟩
        intro resource
        dsimp only
        have split : shares ⟨last, insert pdev bound⟩ resource =
            (share last.memory pdev).count resource + shares ⟨last, bound⟩ resource :=
          Finset.sum_insert unbound
        rw [leaves.takes, all fine, BusEvent.binds, if_pos fine, split, shares_apart apart,
          List.count_nil, Nat.cast_zero, zero_add]
      · refine ⟨taken, ?_, ?_⟩
        · intro resource
          dsimp only
          rw [leaves.takes, BusEvent.binds, if_neg fine, shares_apart apart]
        · rw [leaves.empty, Loses, and_iff_right fine]
  | removed pdev rc log last member removes =>
      refine ⟨[], ?_, iff_of_true rfl fun loses => loses.1 removes.rc⟩
      intro resource
      have same : ∀ other ∈ bound.erase pdev,
          last.memory.drvdata other = machine.memory.drvdata other := by
        intro other _
        rw [removes.after]
        rfl
      have split : (share machine.memory pdev).count resource +
          shares ⟨machine, bound.erase pdev⟩ resource = shares ⟨machine, bound⟩ resource :=
        Finset.add_sum_erase bound
          (fun pdev => ((share machine.memory pdev).count resource : Int)) member
      dsimp only
      rw [removes.log, held_removes, shares_apart same, ← split, share, List.count_nil,
        Nat.cast_zero, zero_add, neg_add_cancel_left]

theorem change_of_run (grants : Grants env) (wired : AllWired state)
    (ran : (bus env).run state events = some (calls, final)) : ∃ taken : List Resource,
      (∀ resource, held (books (calls.flatMap Served.log)) resource + shares state resource =
        taken.count resource + shares final resource) ∧
      (taken = [] ↔ ∀ call ∈ calls, ¬Loses call) := by
  induction events generalizing state calls with
  | nil =>
      cases ran
      refine ⟨[], fun resource => ?_, iff_of_true rfl fun call member => by cases member⟩
      rw [List.count_nil, Nat.cast_zero]
      rfl
  | cons event rest ih =>
      obtain ⟨served, next, others, stepped, later, rfl⟩ := (Transducer.run_cons _ _ _ _ _).mp ran
      have serves := serves_of_step grants wired stepped
      obtain ⟨first, firstChange, firstEmpty⟩ := change_of_serves serves
      obtain ⟨second, secondChange, secondEmpty⟩ := ih (allWired_of_serves wired serves) later
      refine ⟨first ++ second, ?_, ?_⟩
      · intro resource
        have front := firstChange resource
        have back := secondChange resource
        rw [List.flatMap_cons, books_append, held_append, List.count_append, Nat.cast_add]
        omega
      · rw [List.append_eq_nil_iff, firstEmpty, secondEmpty, List.forall_mem_cons]

/-- Once all devices are removed, the driver has given back everything it took if, and only if,
no probe failed that had been granted a channel. -/
theorem all_given_back_iff (grants : Grants env) (unbound : state.bound = ∅)
    (ran : (bus env).run state events = some (calls, final)) (idle : final.bound = ∅) :
    Balanced (books (calls.flatMap Served.log)) ↔ ∀ call ∈ calls, ¬Loses call := by
  have wired : AllWired state := by
    intro pdev member
    rw [unbound] at member
    exact absurd member (Finset.notMem_empty pdev)
  obtain ⟨taken, change, empty⟩ := change_of_run grants wired ran
  rw [← empty, List.eq_nil_iff_forall_not_mem]
  apply forall_congr'
  intro resource
  have held := change resource
  rw [shares_idle unbound, shares_idle idle, add_zero, add_zero] at held
  rw [held, Nat.cast_eq_zero, List.count_eq_zero]

/-- A kernel that has all there is to have but the second channel of the device 2, and memory
that was never written. -/
def kernel : Environment moduleSignature Nat where
  respond := fun request world =>
    match request with
    | .devmKmalloc _ => (some ⟨7, fun _ => ⟨true, none, 3, none⟩⟩, world)
    | .devmKmallocArray _ => (true, world)
    | .devmKmallocChannels _ => (some fun _ => ⟨false, none, 5, none⟩, world)
    | .readStringArrayCount _ => ((2 : Int), world)
    | .readStringArray _ => ((2 : Int), world)
    | .dmaRequestSlaveChannel ref => (decide (ref ≠ ⟨2, 1⟩), world)
    | .allocChrdevRegion _ => (.ok (BitVec.ofNat 32 world), world + 1)
    | .cdevAdd _ _ => (.ok (), world)
    | .classCreate => (.ok 1, world)
    | .deviceClassIsErr _ => (false, world)
    | .strlenName _ => ((3 : Nat), world)
    | .deviceCreate _ _ => (.ok (), world)
    | .dmamAllocCoherent _ => (true, world)
    | .classDestroy _ | .cdevDel _ | .unregisterChrdevRegion _ | .deviceDestroy _ _
    | .deviceTerminateAll _ | .dmaReleaseChannel _ => ((), world)

def booted : BusState Nat :=
  ⟨⟨⟨0, none, fun _ => ⟨9, fun _ => ⟨false, none, 0, none⟩⟩⟩, 40⟩, ∅⟩

theorem grants_kernel : Grants kernel :=
  have shortName : driverName.length + 3 < deviceNameSize := by decide
  ⟨fun _ => ⟨1, rfl⟩, fun _ _ _ => rfl, fun _ _ => shortName⟩

/-- The device 2 keeps the channel that it was granted before its probe failed. -/
theorem kernel_given_back :
    (∃ calls final,
      (bus kernel).run booted [.probe 0, .probe 1, .remove 0, .remove 1] = some (calls, final) ∧
        Balanced (books (calls.flatMap Served.log))) ∧
    ∃ calls final, (bus kernel).run booted [.probe 0, .probe 2, .remove 0] = some (calls, final) ∧
      ¬Balanced (books (calls.flatMap Served.log)) := by
  constructor
  · refine ⟨_, _, rfl, ?_⟩
    rw [@all_given_back_iff Nat kernel booted _ [.probe 0, .probe 1, .remove 0, .remove 1] _
      grants_kernel rfl rfl rfl]
    simp only [List.forall_mem_cons]
    refine ⟨?_, ?_, ?_, ?_, ?_⟩
    · exact fun loses => loses.1 rfl
    · exact fun loses => loses.1 rfl
    · exact fun loses => loses.1 rfl
    · exact fun loses => loses.1 rfl
    · exact fun call member => absurd member List.not_mem_nil
  · refine ⟨_, _, rfl, ?_⟩
    rw [@all_given_back_iff Nat kernel booted _ [.probe 0, .probe 2, .remove 0] _ grants_kernel rfl
      rfl rfl]
    intro kept
    refine kept ⟨.probe 2, -1, _⟩ (.tail _ (.head _)) ⟨by decide, ⟨2, 0⟩, ?_⟩
    exact .tail _ (.tail _ (.tail _ (.tail _ (.tail _ (.head _)))))

end Runs

end Ebaz4205.DmaProxyBooks
