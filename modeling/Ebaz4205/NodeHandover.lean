import Ebaz4205.AximuxOperations
import Ebaz4205.KswfloppyInstances
import Ebaz4205.PulsecapInstances

/-!
# Instances that are handed over through device tree nodes

A pulse capture or multiplexer driver leaves a pointer to its instance in the node
of its device, and a floppy drive takes it from there and keeps it. Nothing clears
the pointer and nothing counts the references, so the hand-over is safe only while
what was left in a node stays.
-/

namespace Ebaz4205.NodeHandover

open DriverProgram DriverProgram.Program PartialRuns PulsecapDriver PlatformKernel AximuxDriver
open PulsecapModule KswfloppyModule PlatformSystem PlatformFrames PlatformBindings
open KswfloppyInstances

set_option autoImplicit false

/-- The instances that can be handed over. -/
def owners (state : PlatformState) : Set Instance :=
  { inst | inst ∈ state.aximux.live ∨ inst ∈ state.pulsecap.live }

/-- What a node has as its data is the live instance of its device. -/
structure NodesRefer (state : PlatformState) : Prop where
  aximux : ∀ node address, node.driver = .aximux →
    state.shared.nodeData node = some address → ⟨node, address⟩ ∈ state.aximux.live
  pulsecap : ∀ node address, node.driver = .pulsecap →
    state.shared.nodeData node = some address → ⟨node, address⟩ ∈ state.pulsecap.live

/-- The next event, if it is a probe or a remove of a floppy drive, takes and uses
live instances only. -/
structure StepUsesLive (budget : Nat) (state : PlatformState) (event : PlatformEvent) : Prop where
  probe : event.action = .probe → event.pdev.driver = .kswfloppy →
    ¬state.kswfloppy.Bound event.pdev →
    ∀ exchange ∈ (kswfloppyProbe budget).exchanges kernel
      (entry state.kswfloppy state.shared event), UsesLive (owners state) exchange
  remove : event.action = .remove → event.pdev.driver = .kswfloppy →
    state.kswfloppy.Bound event.pdev →
    ∀ exchange ∈ kswfloppyRemove.exchanges kernel
      (entry state.kswfloppy state.shared event), UsesLive (owners state) exchange

def HandedOver (budget : Nat) (events : List PlatformEvent) : Prop :=
  (platform budget).EveryState NodesRefer .initial events ∧
    (platform budget).EveryStep (StepUsesLive budget) .initial events

/-- A pulse capture instance that is left in its node gets its class device, and no
instance that is left in a node is removed. -/
structure LeftForGood (state : PlatformState) (event : PlatformEvent) : Prop where
  created : event.action = .probe → event.pdev.driver = .pulsecap →
    ¬state.pulsecap.Bound event.pdev → PulsecapInstances.ReachesPublish event.answers →
    (⟨event.pdev, event.answers, 0, 0, state.pulsecap.devices, state.shared⟩ :
      KernelWorld).deviceCreate state.pulsecap.memory.instanceCount = .ok ()
  stays : event.action = .remove → ∀ inst ∈ owners state, inst.pdev ≠ event.pdev

structure Kept (state : PlatformState) : Prop where
  aximux : Bindings .aximux state.aximux state.shared
  pulsecap : Bindings .pulsecap state.pulsecap state.shared
  kswfloppy : Bindings .kswfloppy state.kswfloppy state.shared
  nodes : ∀ node address,
    state.shared.nodeData node = some address ↔ ⟨node, address⟩ ∈ owners state
  muxes : ∀ inst ∈ state.kswfloppy.live, ∃ owner ∈ owners state,
    (state.kswfloppy.memory.instances inst.address).muxInst = some owner

theorem Kept.kinds {state : PlatformState} (kept : Kept state) {inst : Instance}
    (owned : inst ∈ owners state) :
    (inst ∈ state.aximux.live ∧ inst.pdev.driver = .aximux) ∨
      (inst ∈ state.pulsecap.live ∧ inst.pdev.driver = .pulsecap) := by
  rcases owned with mux | capture
  · exact Or.inl ⟨mux, kept.aximux.kind inst mux⟩
  · exact Or.inr ⟨capture, kept.pulsecap.kind inst capture⟩

theorem nodesRefer_of_kept {state : PlatformState} (kept : Kept state) : NodesRefer state where
  aximux := by
    intro node address own data
    rcases kept.kinds ((kept.nodes node address).mp data) with ⟨live, _⟩ | ⟨_, other⟩
    · exact live
    · exact absurd (own.symm.trans other) (by decide)
  pulsecap := by
    intro node address own data
    rcases kept.kinds ((kept.nodes node address).mp data) with ⟨_, other⟩ | ⟨live, _⟩
    · exact absurd (own.symm.trans other) (by decide)
    · exact live

section Leaving

variable {Array : Type} {length : Array → Nat} {Memory : Type} {pdev : Node}
  {driver : DriverState Memory} {shared : Shared} {result : Served Memory}

/-- What an event for one of the two drivers does to the nodes: nothing, or a new
instance is left in the node of a device that had none. -/
inductive Leaves (pdev : Node) (driver : DriverState Memory) (shared : Shared)
    (result : Served Memory) : Prop where
  | none (live : result.driver.live = driver.live)
      (nodeData : result.shared.nodeData = shared.nodeData)
  | one (dev : Address) (free : ∀ inst ∈ driver.live, inst.pdev ≠ pdev)
      (live : result.driver.live = driver.live ++ [⟨pdev, dev⟩])
      (nodeData : result.shared.nodeData = Function.update shared.nodeData pdev (some dev))

theorem nodes_of_leaves {others : List Instance} (leaves : Leaves pdev driver shared result)
    (elsewhere : ∀ inst ∈ others, inst.pdev ≠ pdev)
    (nodes : ∀ node address, shared.nodeData node = some address ↔
      ⟨node, address⟩ ∈ driver.live ∨ ⟨node, address⟩ ∈ others) :
    ∀ node address, result.shared.nodeData node = some address ↔
      ⟨node, address⟩ ∈ result.driver.live ∨ ⟨node, address⟩ ∈ others := by
  intro node address
  cases leaves with
  | none live nodeData =>
      rw [live, nodeData]
      exact nodes node address
  | one dev free live nodeData =>
      rw [live, nodeData, List.mem_append, List.mem_singleton]
      by_cases own : node = pdev
      · rw [own, Function.update_self, Option.some.injEq]
        constructor
        · intro same
          exact Or.inl (Or.inr (by rw [same]))
        · rintro ((old | new) | other)
          · exact absurd rfl (free _ old)
          · exact (congrArg Instance.address new).symm
          · exact absurd rfl (elsewhere _ other)
      · have old : (⟨node, address⟩ : Instance) ≠ ⟨pdev, dev⟩ :=
          fun same => own (congrArg Instance.pdev same)
        rw [Function.update_of_ne own, nodes node address]
        simp only [old, or_false]

theorem live_of_leaves (leaves : Leaves pdev driver shared result) {inst : Instance}
    (live : inst ∈ driver.live) : inst ∈ result.driver.live := by
  cases leaves with
  | none same nodeData =>
      rw [same]
      exact live
  | one dev free grown nodeData =>
      rw [grown]
      exact List.mem_append_left _ live

theorem leaves_of_failed {machine : Machine (driverSignature Array length Memory) KernelWorld}
    {code : Int} (failed : code ≠ 0)
    (nodeData : machine.world.shared.nodeData = shared.nodeData) :
    Leaves pdev driver shared (afterProbe driver pdev code machine) := by
  rw [afterProbe, if_neg failed]
  exact .none rfl nodeData

theorem leaves_of_published
    {machine : Machine (driverSignature Array length Memory) KernelWorld} {dev : Address}
    (free : ¬driver.Bound pdev) (live : probed pdev machine.world.shared = [⟨pdev, dev⟩])
    (nodeData : machine.world.shared.nodeData =
      Function.update shared.nodeData pdev (some dev)) :
    Leaves pdev driver shared (afterProbe driver pdev 0 machine) := by
  rw [afterProbe, if_pos rfl, live]
  exact .one dev (fun inst live same => free ⟨inst, live, same⟩) rfl nodeData

end Leaving

section Preservation

variable {budget : Nat} {state next : PlatformState} {event : PlatformEvent}

theorem leaves_aximux {result : Served AximuxModule} (left : LeftForGood state event)
    (serving : Serving aximuxProbe aximuxRemove event state.aximux state.shared result) :
    Leaves event.pdev state.aximux state.shared result := by
  cases serving with
  | ignored idle => exact .none rfl rfl
  | probed code machine action free ran =>
      cases AximuxOperations.probeReturns_of_exec rfl ran with
      | early err granted devices early older returned memory kernel =>
          rw [returned]
          exact leaves_of_failed err.code_ne_zero (by rw [kernel]; rfl)
      | refused err width reaches refused returned memory kernel =>
          rw [returned]
          exact leaves_of_failed err.code_ne_zero (by rw [kernel]; rfl)
      | published width reaches created returned memory kernel =>
          rw [returned]
          apply leaves_of_published free
          · rw [kernel]
            exact AximuxOperations.probed_publishedWorld rfl
          · rw [kernel]
            rfl
  | removed code machine action bound ran =>
      obtain ⟨inst, live, same⟩ := bound
      exact absurd same (left.stays action inst (Or.inl live))

theorem leaves_pulsecap {result : Served PulsecapModuleData} (left : LeftForGood state event)
    (own : event.pdev.driver = .pulsecap)
    (serving : Serving eslPulsecapProbe eslPulsecapRemove event state.pulsecap state.shared
      result) :
    Leaves event.pdev state.pulsecap state.shared result := by
  cases serving with
  | ignored idle => exact .none rfl rfl
  | probed code machine action free ran =>
      cases PulsecapInstances.probeReturns_of_exec rfl ran with
      | early granted captures early failed memory kernel =>
          exact leaves_of_failed failed (by rw [kernel]; rfl)
      | refused err reaches refused returned memory kernel =>
          have created := left.created action own free reaches
          exact absurd (refused.symm.trans created) (by simp)
      | published slot reaches created returned memory kernel =>
          rw [returned]
          apply leaves_of_published free
          · rw [kernel]
            exact PulsecapInstances.probed_publishedWorld rfl
          · rw [kernel]
            rfl
  | removed code machine action bound ran =>
      obtain ⟨inst, live, same⟩ := bound
      exact absurd same (left.stays action inst (Or.inr live))

theorem muxes_of_leaves {live : List Instance} {memory : KswfloppyMemory}
    {before after : Set Instance}
    (muxes : ∀ inst ∈ live, ∃ owner ∈ before,
      (memory.instances inst.address).muxInst = some owner)
    (grown : before ⊆ after) :
    ∀ inst ∈ live, ∃ owner ∈ after,
      (memory.instances inst.address).muxInst = some owner := by
  intro inst member
  obtain ⟨owner, owned, same⟩ := muxes inst member
  exact ⟨owner, grown owned, same⟩

theorem elsewhere_of_kind {kind : Driver} {live : List Instance}
    (kinds : ∀ inst ∈ live, inst.pdev.driver = kind) (other : event.pdev.driver ≠ kind) :
    ∀ inst ∈ live, inst.pdev ≠ event.pdev := by
  intro inst member same
  rw [← same, kinds inst member] at other
  exact other rfl

theorem kept_aximux {result : Served AximuxModule} (kept : Kept state)
    (own : event.pdev.driver = .aximux) (left : LeftForGood state event)
    (serving : Serving aximuxProbe aximuxRemove event state.aximux state.shared result) :
    Kept { state with aximux := result.driver, shared := result.shared } := by
  have framed := sharedFrames_of_serving serving
  have leaves := leaves_aximux left serving
  constructor
  · exact kept.aximux.serve AximuxOperations.leavesNewInstance_aximuxProbe own serving
  · exact kept.pulsecap.frame (by rw [own]; decide) framed
  · exact kept.kswfloppy.frame (by rw [own]; decide) framed
  · exact nodes_of_leaves leaves
      (elsewhere_of_kind kept.pulsecap.kind (by rw [own]; decide)) kept.nodes
  · apply muxes_of_leaves kept.muxes
    rintro inst (live | live)
    · exact Or.inl (live_of_leaves leaves live)
    · exact Or.inr live

theorem kept_pulsecap {result : Served PulsecapModuleData} (kept : Kept state)
    (own : event.pdev.driver = .pulsecap) (left : LeftForGood state event)
    (serving : Serving eslPulsecapProbe eslPulsecapRemove event state.pulsecap state.shared
      result) :
    Kept { state with pulsecap := result.driver, shared := result.shared } := by
  have framed := sharedFrames_of_serving serving
  have leaves := leaves_pulsecap left own serving
  constructor
  · exact kept.aximux.frame (by rw [own]; decide) framed
  · exact kept.pulsecap.serve PulsecapInstances.leavesNewInstance_eslPulsecapProbe own serving
  · exact kept.kswfloppy.frame (by rw [own]; decide) framed
  · intro node address
    rw [nodes_of_leaves leaves
      (elsewhere_of_kind kept.aximux.kind (by rw [own]; decide))
      (fun node address => (kept.nodes node address).trans or_comm) node address]
    exact or_comm
  · apply muxes_of_leaves kept.muxes
    rintro inst (live | live)
    · exact Or.inl live
    · exact Or.inr (live_of_leaves leaves live)

/-- A floppy drive leaves nothing in a node. -/
theorem nodeData_kswfloppy {result : Served KswfloppyMemory} (kept : Kept state)
    (serving : Serving (kswfloppyProbe budget) kswfloppyRemove event state.kswfloppy
      state.shared result) :
    result.shared.nodeData = state.shared.nodeData ∧
      ∀ inst ∈ result.driver.live, ∃ owner ∈ owners state,
        (result.driver.memory.instances inst.address).muxInst = some owner := by
  cases serving with
  | ignored idle => exact ⟨rfl, kept.muxes⟩
  | probed code machine action free ran =>
      obtain ⟨undisturbed, equipped⟩ := (conducts_kswfloppyProbe budget
        fun node address => (kept.nodes node address).mp).after_return _ _ _ rfl ran
      have older : ∀ inst ∈ state.kswfloppy.live, ∃ owner ∈ owners state,
          (machine.memory.instances inst.address).muxInst = some owner := by
        intro inst live
        rw [undisturbed.others inst.address (kept.kswfloppy.older inst live).ne]
        exact kept.muxes inst live
      by_cases success : code = 0
      · have found := equipped success
        have live : probed event.pdev machine.world.shared =
            [⟨event.pdev, state.shared.next⟩] := probed_of_drvdata found.drvdata
        rw [afterProbe, if_pos success, live]
        refine ⟨undisturbed.nodeData, ?_⟩
        intro inst member
        rcases List.mem_append.mp member with old | new
        · exact older inst old
        · rw [List.mem_singleton.mp new]
          exact found.mux
      · rw [afterProbe, if_neg success]
        exact ⟨undisturbed.nodeData, older⟩
  | removed code machine action bound ran =>
      obtain ⟨inst, live, same⟩ := bound
      have held := kept.kswfloppy.held_of_pdev live same
      have alike := (conducts_kswfloppyRemove held (kept.muxes inst live)).after_return
        (entry state.kswfloppy state.shared event) _ _ rfl ran
      refine ⟨alike.nodeData, ?_⟩
      intro other member
      rw [show (afterRemove state.kswfloppy event.pdev code machine).driver.memory =
        machine.memory from rfl, alike.muxInst other.address]
      exact kept.muxes other (List.mem_filter.mp member).1

theorem kept_kswfloppy {result : Served KswfloppyMemory} (kept : Kept state)
    (own : event.pdev.driver = .kswfloppy)
    (serving : Serving (kswfloppyProbe budget) kswfloppyRemove event state.kswfloppy
      state.shared result) :
    Kept { state with kswfloppy := result.driver, shared := result.shared } := by
  have framed := sharedFrames_of_serving serving
  obtain ⟨nodeData, muxes⟩ := nodeData_kswfloppy kept serving
  constructor
  · exact kept.aximux.frame (by rw [own]; decide) framed
  · exact kept.pulsecap.frame (by rw [own]; decide) framed
  · exact kept.kswfloppy.serve (leavesNewInstance_kswfloppyProbe budget) own serving
  · intro node address
    rw [show result.shared.nodeData node = state.shared.nodeData node by rw [nodeData]]
    exact kept.nodes node address
  · exact muxes

theorem kept_step {code : Option Int} (kept : Kept state) (left : LeftForGood state event)
    (stepped : (platform budget).step state event = some (code, next)) : Kept next := by
  cases platformServing_of_step stepped with
  | aximux result kind serving returned after =>
      rw [after]
      exact kept_aximux kept kind left serving
  | pulsecap result kind serving returned after =>
      rw [after]
      exact kept_pulsecap kept kind left serving
  | kswfloppy result kind serving returned after =>
      rw [after]
      exact kept_kswfloppy kept kind serving

/-- In a kept state a floppy drive takes and uses live instances, whatever comes next. -/
theorem stepUsesLive_of_kept (kept : Kept state) : StepUsesLive budget state event where
  probe := by
    intro action own free
    exact (conducts_kswfloppyProbe budget
      fun node address => (kept.nodes node address).mp).exchanged _ rfl
  remove := by
    rintro action own ⟨inst, live, same⟩
    have held := kept.kswfloppy.held_of_pdev live same
    exact (conducts_kswfloppyRemove held (kept.muxes inst live)).exchanged
      (entry state.kswfloppy state.shared event) rfl

/-- An instance that fails to get its class device stays in its node. -/
theorem created_of_lawful (kept : Kept state)
    (lawful : ∀ code next, (platform budget).step state event = some (code, next) →
      NodesRefer next)
    (action : event.action = .probe) (own : event.pdev.driver = .pulsecap)
    (free : ¬state.pulsecap.Bound event.pdev)
    (reaches : PulsecapInstances.ReachesPublish event.answers) :
    (⟨event.pdev, event.answers, 0, 0, state.pulsecap.devices, state.shared⟩ :
      KernelWorld).deviceCreate state.pulsecap.memory.instanceCount = .ok () := by
  cases created : (⟨event.pdev, event.answers, 0, 0, state.pulsecap.devices, state.shared⟩ :
      KernelWorld).deviceCreate state.pulsecap.memory.instanceCount with
  | ok _ => rfl
  | error err =>
      have fresh : (entry state.pulsecap state.shared event :
          Machine pulsecapModuleSignature KernelWorld).world.allocations = 0 := rfl
      have ran := PulsecapInstances.exec_probe_of_reaches fresh reaches
      rw [PulsecapInstances.exec_publishInstance_refused created] at ran
      have stepped := step_pulsecap budget own (serve_probe action free ran)
      have refers := lawful _ _ stepped
      rw [afterProbe, if_neg err.code_ne_zero] at refers
      have live := refers.pulsecap event.pdev state.shared.next own (Function.update_self _ _ _)
      exact absurd (kept.pulsecap.older _ live) (lt_irrefl _)

/-- An instance that is removed stays in its node. -/
theorem stays_of_lawful (kept : Kept state)
    (lawful : ∀ code next, (platform budget).step state event = some (code, next) →
      NodesRefer next)
    (action : event.action = .remove) :
    ∀ inst ∈ owners state, inst.pdev ≠ event.pdev := by
  intro inst owned same
  have data := (kept.nodes inst.pdev inst.address).mpr owned
  rw [same] at data
  rcases kept.kinds owned with ⟨live, kind⟩ | ⟨live, kind⟩
  · rw [same] at kind
    obtain ⟨devices, stepped⟩ :=
      AximuxOperations.step_remove_aximux budget kept.aximux action kind live same
    have found := (lawful _ _ stepped).aximux event.pdev inst.address kind data
    simpa using (List.mem_filter.mp found).2
  · rw [same] at kind
    have stepped :=
      PulsecapInstances.step_remove_pulsecap budget kept.pulsecap action kind live same
    have found := (lawful _ _ stepped).pulsecap event.pdev inst.address kind data
    simpa using (List.mem_filter.mp found).2

end Preservation

theorem kept_initial : Kept .initial where
  aximux := bindings_initial _ _ _
  pulsecap := bindings_initial _ _ _
  kswfloppy := bindings_initial _ _ _
  nodes := by
    intro node address
    simp [PlatformState.initial, owners]
  muxes := fun _ member => absurd member List.not_mem_nil

/-- A probe whose class device is refused leaves its instance, which is then
released, in the node. -/
theorem refused_probe_left_in_node :
    ¬HandedOver 0
      [⟨.probe, ⟨.pulsecap, 0⟩, { obliging 0 with deviceCreate := .error enomem }⟩] := by
  rintro ⟨states, _⟩
  obtain ⟨next, stepped, data, live⟩ : ∃ next : PlatformState,
      (platform 0).step .initial
          ⟨.probe, ⟨.pulsecap, 0⟩, { obliging 0 with deviceCreate := .error enomem }⟩ =
        some (some (-12), next) ∧
      next.shared.nodeData ⟨.pulsecap, 0⟩ = some 0 ∧ next.pulsecap.live = [] :=
    ⟨_, rfl, rfl, rfl⟩
  have afterwards := (Transducer.everyState_cons.mp states).2 _ _ stepped
  have owned := (Transducer.everyState_nil.mp afterwards).pulsecap _ _ rfl data
  rw [live] at owned
  exact absurd owned List.not_mem_nil

/-- The hand-over is safe in exactly the runs in which what is left in a node stays. -/
theorem handed_over_iff (budget : Nat) (events : List PlatformEvent) :
    HandedOver budget events ↔ (platform budget).EveryStep LeftForGood .initial events :=
  Transducer.lawful_and_kept_iff
    (fun _ kept => nodesRefer_of_kept kept)
    (fun _ _ _ _ kept left stepped => kept_step kept left stepped)
    (fun _ _ kept _ => stepUsesLive_of_kept kept)
    (fun _ _ kept _ lawful => ⟨created_of_lawful kept lawful, stays_of_lawful kept lawful⟩)
    kept_initial

end Ebaz4205.NodeHandover
