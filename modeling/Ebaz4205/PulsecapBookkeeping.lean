import Ebaz4205.PulsecapInstances

/-!
# The device nodes of the pulse capture driver

An instance does not keep the minor number of its node; a remove computes one
from the counter. It is the right one when the instance that is removed is the
last that was probed.
-/

namespace Ebaz4205.PulsecapBookkeeping

open DriverProgram DriverProgram.Program PartialRuns PulsecapDriver PlatformKernel PulsecapModule
open PlatformSystem PlatformFrames PlatformBindings PulsecapInstances

set_option autoImplicit false

/-- Nodes and live instances correspond to each other one to one, and each live
instance is in exactly one of the slots that are in use. -/
structure NodesMatch (driver : DriverState PulsecapModuleData) : Prop where
  owner : ∀ minor device, driver.devices minor = some device → device.number = minor ∧
    ∃! inst, inst ∈ driver.live ∧ device.drvdata = inst.address
  node : ∀ inst ∈ driver.live,
    ∃! minor, ∃ device, driver.devices minor = some device ∧ device.drvdata = inst.address
  slot : ∀ inst ∈ driver.live, ∃! slot : Fin maxPulsecapInstances,
    slot.val < driver.memory.instanceCount.toNat ∧
      driver.memory.instances slot = some inst.address

/-- What the next event must do: a probe stays inside the table of instances, and
a remove destroys the node of the instance it is for and no other. -/
structure StepKeepsNodes (budget : Nat) (state : PlatformState) (event : PlatformEvent) :
    Prop where
  inside : event.action = .probe → event.pdev.driver = .pulsecap →
    ¬state.pulsecap.Bound event.pdev →
    ∀ used ∈ eslPulsecapProbe.accesses kernel (entry state.pulsecap state.shared event),
      used.1 = .array .instances → used.2 < maxPulsecapInstances
  destroys : event.action = .remove → event.pdev.driver = .pulsecap →
    ∀ inst ∈ state.pulsecap.live, inst.pdev = event.pdev →
      ∀ code next, (platform budget).step state event = some (code, next) →
        ∀ minor, next.pulsecap.devices minor =
          if (state.pulsecap.devices minor).map ClassDevice.drvdata = some inst.address then none
          else state.pulsecap.devices minor

def NodesKept (budget : Nat) (events : List PlatformEvent) : Prop :=
  (platform budget).EveryState (fun state => NodesMatch state.pulsecap) .initial events ∧
    (platform budget).EveryStep (StepKeepsNodes budget) .initial events

/-- A probe that gets its class device finds a free slot, and a remove is of the
instance that was probed last. -/
structure LastInFirstOut (state : PlatformState) (event : PlatformEvent) : Prop where
  room : event.action = .probe → event.pdev.driver = .pulsecap →
    ¬state.pulsecap.Bound event.pdev → ReachesPublish event.answers →
    event.answers.deviceCreate = .ok () →
    state.pulsecap.memory.instanceCount.toNat < maxPulsecapInstances
  last : event.action = .remove → event.pdev.driver = .pulsecap →
    state.pulsecap.Bound event.pdev →
    state.pulsecap.live.getLast?.map Instance.pdev = some event.pdev

/-- The counter is the number of live instances; nodes and slots follow the order
in which these were probed. -/
structure Kept (driver : DriverState PulsecapModuleData) (shared : Shared) : Prop where
  bindings : Bindings .pulsecap driver shared
  counted : driver.memory.instanceCount.toNat = driver.live.length
  room : driver.live.length ≤ maxPulsecapInstances
  nodes : ∀ minor, driver.devices minor =
    driver.live[minor.toNat]?.map fun inst => ⟨minor, inst.address⟩
  slots : ∀ slot : Fin maxPulsecapInstances, slot.val < driver.live.length →
    driver.memory.instances slot = driver.live[slot.val]?.map Instance.address

/-- Which live instance a node belongs to. -/
theorem Kept.node_iff {driver : DriverState PulsecapModuleData} {shared : Shared}
    (kept : Kept driver shared) {inst : Instance} {position : Nat}
    (here : driver.live[position]? = some inst) (minor : U32) :
    (∃ device, driver.devices minor = some device ∧ device.drvdata = inst.address) ↔
      minor.toNat = position := by
  rw [kept.nodes minor]
  constructor
  · rintro ⟨device, found, same⟩
    obtain ⟨other, there, rfl⟩ := Option.map_eq_some_iff.mp found
    exact kept.bindings.position_unique there here same
  · intro same
    rw [same, here]
    exact ⟨_, rfl, rfl⟩

theorem nodesMatch_of_kept {driver : DriverState PulsecapModuleData} {shared : Shared}
    (kept : Kept driver shared) : NodesMatch driver where
  owner := by
    intro minor device found
    rw [kept.nodes minor, Option.map_eq_some_iff] at found
    obtain ⟨inst, here, rfl⟩ := found
    have live := List.mem_of_getElem? here
    refine ⟨rfl, inst, ⟨live, rfl⟩, ?_⟩
    rintro other ⟨otherLive, same⟩
    exact kept.bindings.eq_of_address otherLive live same.symm
  node := by
    intro inst live
    obtain ⟨position, here⟩ := List.mem_iff_getElem?.mp live
    have few : driver.live.length ≤ 4 := kept.room
    have bound := (List.getElem?_eq_some_iff.mp here).1
    refine ⟨BitVec.ofNat 32 position, ?_, ?_⟩
    · apply (kept.node_iff here _).mpr
      rw [BitVec.toNat_ofNat, Nat.mod_eq_of_lt]
      omega
    · intro minor owned
      rw [← (kept.node_iff here minor).mp owned, BitVec.ofNat_toNat, BitVec.setWidth_eq]
  slot := by
    intro inst live
    obtain ⟨position, here⟩ := List.mem_iff_getElem?.mp live
    have bound := (List.getElem?_eq_some_iff.mp here).1
    refine ⟨⟨position, bound.trans_le kept.room⟩, ⟨?_, ?_⟩, ?_⟩
    · rw [kept.counted]
      exact bound
    · rw [kept.slots _ bound, here]
      rfl
    · rintro slot ⟨used, held⟩
      rw [kept.counted] at used
      rw [kept.slots slot used, Option.map_eq_some_iff] at held
      obtain ⟨other, there, same⟩ := held
      exact Fin.ext (kept.bindings.position_unique there here same)

theorem getElem?_concat_of_ne {Item : Type} {items : List Item} {item : Item} {position : Nat}
    (other : position ≠ items.length) : (items ++ [item])[position]? = items[position]? := by
  by_cases below : position < items.length
  · rw [List.getElem?_append_left below]
  · rw [List.getElem?_eq_none (not_lt.mp below), List.getElem?_eq_none]
    rw [List.length_append, List.length_singleton]
    omega

section Preservation

variable {driver : DriverState PulsecapModuleData} {shared after : Shared}

theorem kept_captures {captures : Address → PulsecapData} (kept : Kept driver shared)
    (bindings : Bindings .pulsecap
      ⟨{ driver.memory with captures }, driver.devices, driver.live⟩ after) :
    Kept ⟨{ driver.memory with captures }, driver.devices, driver.live⟩ after :=
  ⟨bindings, kept.counted, kept.room, kept.nodes, kept.slots⟩

theorem kept_published {pdev : Node} {dev : Address} (kept : Kept driver shared)
    (slot : driver.memory.instanceCount.toNat < maxPulsecapInstances)
    (bindings : Bindings .pulsecap
      ⟨published driver.memory dev ⟨driver.memory.instanceCount.toNat, slot⟩,
        Function.update driver.devices driver.memory.instanceCount
          (some ⟨driver.memory.instanceCount, dev⟩), driver.live ++ [⟨pdev, dev⟩]⟩ after) :
    Kept
      ⟨published driver.memory dev ⟨driver.memory.instanceCount.toNat, slot⟩,
        Function.update driver.devices driver.memory.instanceCount
          (some ⟨driver.memory.instanceCount, dev⟩), driver.live ++ [⟨pdev, dev⟩]⟩ after where
  bindings := bindings
  counted := by
    have counted := kept.counted
    rw [maxPulsecapInstances] at slot
    simp only [published, List.length_append, List.length_singleton]
    rw [BitVec.toNat_add, ← counted, Nat.mod_eq_of_lt]
    · rfl
    · exact (Nat.add_lt_add_right slot 1).trans (by decide)
  room := by
    rw [List.length_append, List.length_singleton, ← kept.counted]
    exact slot
  nodes := by
    intro minor
    have counted := kept.counted
    dsimp only
    by_cases new : minor = driver.memory.instanceCount
    · rw [new, Function.update_self, counted, List.getElem?_concat_length]
      rfl
    · have differ : minor.toNat ≠ driver.live.length := by
        rw [← counted]
        exact fun same => new (BitVec.eq_of_toNat_eq same)
      rw [Function.update_of_ne new, kept.nodes minor, getElem?_concat_of_ne differ]
  slots := by
    intro position used
    have counted := kept.counted
    dsimp only [published] at used ⊢
    rw [List.length_append, List.length_singleton] at used
    by_cases new : position.val = driver.live.length
    · have same : position = ⟨driver.memory.instanceCount.toNat, slot⟩ :=
        Fin.ext (new.trans counted.symm)
      rw [same, Function.update_self]
      dsimp only
      rw [counted, List.getElem?_concat_length]
      rfl
    · have below : position.val < driver.live.length := by omega
      have differ : position ≠ ⟨driver.memory.instanceCount.toNat, slot⟩ :=
        fun same => new ((congrArg Fin.val same).trans counted)
      rw [Function.update_of_ne differ, kept.slots position below, getElem?_concat_of_ne new]

/-- The last instance goes with the last node and the last slot. -/
theorem kept_removed {front : List Instance} {inst : Instance} (kept : Kept driver shared)
    (last : driver.live = front ++ [inst])
    (bindings : Bindings .pulsecap
      ⟨{ driver.memory with instanceCount := driver.memory.instanceCount - 1 },
        Function.update driver.devices (driver.memory.instanceCount - 1) none, front⟩ after) :
    Kept
      ⟨{ driver.memory with instanceCount := driver.memory.instanceCount - 1 },
        Function.update driver.devices (driver.memory.instanceCount - 1) none, front⟩ after := by
  have length : driver.live.length = front.length + 1 := by
    rw [last, List.length_append, List.length_singleton]
  have counted : (driver.memory.instanceCount - 1).toNat = front.length := by
    have before := kept.counted
    rw [BitVec.toNat_sub_of_le]
    · rw [before, length]
      rfl
    · rw [BitVec.le_def, before, length]
      exact Nat.le_add_left _ _
  constructor
  · exact bindings
  · exact counted
  · have room := kept.room
    dsimp only
    omega
  · intro minor
    dsimp only
    by_cases removed : minor = driver.memory.instanceCount - 1
    · rw [removed, Function.update_self, counted, List.getElem?_eq_none (le_refl _)]
      rfl
    · have differ : minor.toNat ≠ front.length := by
        rw [← counted]
        exact fun same => removed (BitVec.eq_of_toNat_eq same)
      rw [Function.update_of_ne removed, kept.nodes minor, last, getElem?_concat_of_ne differ]
  · intro slot used
    dsimp only at used ⊢
    rw [kept.slots slot (by omega), last, List.getElem?_append_left used]

end Preservation

/-- The number that comes next has no node. -/
theorem deviceCreate_of_kept {driver : DriverState PulsecapModuleData} {shared : Shared}
    (kept : Kept driver shared) (event : PlatformEvent) :
    (⟨event.pdev, event.answers, 0, 0, driver.devices, shared⟩ : KernelWorld).deviceCreate
      driver.memory.instanceCount = event.answers.deviceCreate := by
  rw [KernelWorld.deviceCreate, if_neg]
  dsimp only
  rw [kept.nodes, kept.counted, List.getElem?_eq_none (le_refl _)]
  simp

theorem kept_serve {state : PlatformState} {event : PlatformEvent}
    {result : Served PulsecapModuleData} (kept : Kept state.pulsecap state.shared)
    (own : event.pdev.driver = .pulsecap) (orderly : LastInFirstOut state event)
    (serving : Serving eslPulsecapProbe eslPulsecapRemove event state.pulsecap state.shared
      result) :
    Kept result.driver result.shared := by
  have bindings := kept.bindings.serve leavesNewInstance_eslPulsecapProbe own serving
  cases serving with
  | ignored idle => exact kept
  | probed code machine action free ran =>
      cases probeReturns_of_exec rfl ran with
      | early granted captures early failed memory kernel =>
          simp only [afterProbe, if_neg failed, memory, kernel] at bindings ⊢
          exact kept_captures kept bindings
      | refused err reaches refused returned memory kernel =>
          simp only [afterProbe, returned, if_neg err.code_ne_zero, memory, kernel] at bindings ⊢
          exact kept_captures kept bindings
      | published slot reaches created returned memory kernel =>
          have live : probed event.pdev machine.world.shared =
              [⟨event.pdev, state.shared.next⟩] := by
            rw [kernel]
            exact probed_publishedWorld rfl
          have devices : machine.world.devices = Function.update state.pulsecap.devices
              state.pulsecap.memory.instanceCount
              (some ⟨state.pulsecap.memory.instanceCount, state.shared.next⟩) := by
            rw [kernel]
            rfl
          simp only [afterProbe, returned, if_true, live, memory, devices] at bindings ⊢
          exact kept_published kept slot bindings
  | removed code machine action bound ran =>
      obtain ⟨inst, last, same⟩ := Option.map_eq_some_iff.mp (orderly.last action own bound)
      obtain ⟨front, split⟩ := List.getLast?_eq_some_iff.mp last
      have live : inst ∈ state.pulsecap.live := by
        rw [split]
        simp
      obtain ⟨readings, removed⟩ := exec_eslPulsecapRemove
        (entry state.pulsecap state.shared event) (kept.bindings.held_of_pdev live same)
      rw [removed, Prod.mk.injEq] at ran
      simp only [afterRemove, ← ran.2, ← same, kept.bindings.filter_last split] at bindings ⊢
      exact kept_removed kept split bindings

theorem kept_frame {driver : DriverState PulsecapModuleData} {shared after : Shared}
    {event : PlatformEvent} (kept : Kept driver shared) (other : event.pdev.driver ≠ .pulsecap)
    (framed : SharedFrames event.pdev shared after) : Kept driver after :=
  { kept with bindings := kept.bindings.frame other framed }

theorem kept_step {budget : Nat} {state next : PlatformState} {event : PlatformEvent}
    {code : Option Int} (kept : Kept state.pulsecap state.shared)
    (orderly : LastInFirstOut state event)
    (stepped : (platform budget).step state event = some (code, next)) :
    Kept next.pulsecap next.shared := by
  cases platformServing_of_step stepped with
  | aximux result kind serving returned after =>
      rw [after]
      exact kept_frame kept (by rw [kind]; decide) (sharedFrames_of_serving serving)
  | pulsecap result kind serving returned after =>
      rw [after]
      exact kept_serve kept kind orderly serving
  | kswfloppy result kind serving returned after =>
      rw [after]
      exact kept_frame kept (by rw [kind]; decide) (sharedFrames_of_serving serving)

/-- The last node, by its number and by its owner. -/
theorem Kept.last_node_iff {driver : DriverState PulsecapModuleData} {shared : Shared}
    (kept : Kept driver shared) {front : List Instance} {inst : Instance}
    (last : driver.live = front ++ [inst]) (minor : U32) :
    (driver.devices minor).map ClassDevice.drvdata = some inst.address ↔
      minor = driver.memory.instanceCount - 1 := by
  have here : driver.live[front.length]? = some inst := by
    rw [last, List.getElem?_concat_length]
  have length : driver.live.length = front.length + 1 := by
    rw [last, List.length_append, List.length_singleton]
  have counted := kept.counted
  have few : driver.live.length ≤ 4 := kept.room
  rw [Option.map_eq_some_iff, kept.node_iff here minor]
  constructor
  · intro same
    bv_omega
  · intro same
    rw [same]
    bv_omega

theorem stepKeepsNodes_of_orderly {budget : Nat} {state : PlatformState} {event : PlatformEvent}
    (kept : Kept state.pulsecap state.shared) (orderly : LastInFirstOut state event) :
    StepKeepsNodes budget state event where
  inside := by
    intro action own free used accessed table
    by_cases reaches : ReachesPublish event.answers
    · rw [accesses_probe_of_reaches rfl reaches, accesses_publishInstance,
        deviceCreate_of_kept kept] at accessed
      cases created : event.answers.deviceCreate with
      | error err =>
          rw [created] at accessed
          exact absurd accessed List.not_mem_nil
      | ok _ =>
          rw [created] at accessed
          rw [List.mem_singleton.mp accessed]
          exact orderly.room action own free reaches created
    · obtain ⟨code, captures, granted, _, _, none⟩ :=
        exec_probe_early (entry state.pulsecap state.shared event) rfl reaches
      rw [none] at accessed
      exact absurd accessed List.not_mem_nil
  destroys := by
    intro action own inst live same code next stepped minor
    have bound : state.pulsecap.Bound event.pdev := ⟨inst, live, same⟩
    obtain ⟨last, latest, sameLast⟩ := Option.map_eq_some_iff.mp (orderly.last action own bound)
    obtain ⟨front, split⟩ := List.getLast?_eq_some_iff.mp latest
    have equal : inst = last :=
      kept.bindings.eq_of_pdev live (by rw [split]; simp) (same.trans sameLast.symm)
    rw [step_remove_pulsecap budget kept.bindings action own live same, Option.some.injEq,
      Prod.mk.injEq] at stepped
    rw [← stepped.2]
    rw [← equal] at split
    by_cases this : minor = state.pulsecap.memory.instanceCount - 1
    · rw [if_pos ((kept.last_node_iff split minor).mpr this), this]
      exact Function.update_self _ _ _
    · rw [if_neg fun mapped => this ((kept.last_node_iff split minor).mp mapped)]
      exact Function.update_of_ne this _ _

theorem orderly_of_stepKeepsNodes {budget : Nat} {state : PlatformState} {event : PlatformEvent}
    (kept : Kept state.pulsecap state.shared) (keeps : StepKeepsNodes budget state event) :
    LastInFirstOut state event where
  room := by
    intro action own free reaches created
    apply keeps.inside action own free (.array .instances, _) _ rfl
    rw [accesses_probe_of_reaches rfl reaches, accesses_publishInstance,
      deviceCreate_of_kept kept, created]
    exact List.mem_singleton.mpr rfl
  last := by
    rintro action own ⟨inst, live, same⟩
    have stepped := step_remove_pulsecap budget kept.bindings action own live same
    have destroyed := keeps.destroys action own inst live same _ _ stepped
      (state.pulsecap.memory.instanceCount - 1)
    obtain ⟨front, last, split⟩ :=
      (state.pulsecap.live.eq_nil_or_concat').resolve_left (List.ne_nil_of_mem live)
    have owner := (kept.last_node_iff split (state.pulsecap.memory.instanceCount - 1)).mpr rfl
    have lastLive : last ∈ state.pulsecap.live := by
      rw [split]
      simp
    -- the node that went was that of the last instance
    have equal : last = inst := by
      apply kept.bindings.eq_of_address lastLive live
      by_contra differ
      rw [owner, if_neg fun mapped => differ (Option.some.inj mapped)] at destroyed
      have gone := (Function.update_self _ _ _).symm.trans destroyed
      rw [← gone] at owner
      exact absurd owner (by simp)
    rw [split, List.getLast?_concat, Option.map_some, equal, same]

theorem kept_initial : Kept PlatformState.initial.pulsecap PlatformState.initial.shared where
  bindings := bindings_initial _ _ _
  counted := rfl
  room := Nat.zero_le _
  nodes := fun _ => rfl
  slots := fun _ used => absurd used (Nat.not_lt_zero _)

/-- Of two instances the first is removed: the node of the second goes, and that of
the first stays and keeps its driver data. -/
theorem earlier_remove_takes_other_node :
    ¬NodesKept 0 [⟨.probe, ⟨.pulsecap, 0⟩, obliging 0⟩, ⟨.probe, ⟨.pulsecap, 1⟩, obliging 0⟩,
      ⟨.remove, ⟨.pulsecap, 0⟩, obliging 0⟩] := by
  rintro ⟨states, _⟩
  obtain ⟨first, firstStep, next, secondStep, last, lastStep, device, live⟩ :
      ∃ first : PlatformState, (platform 0).step .initial
          ⟨.probe, ⟨.pulsecap, 0⟩, obliging 0⟩ = some (some 0, first) ∧
        ∃ next, (platform 0).step first ⟨.probe, ⟨.pulsecap, 1⟩, obliging 0⟩ =
            some (some 0, next) ∧
          ∃ last, (platform 0).step next ⟨.remove, ⟨.pulsecap, 0⟩, obliging 0⟩ =
              some (some 0, last) ∧
            last.pulsecap.devices 0 = some ⟨0, 0⟩ ∧
              last.pulsecap.live = [⟨⟨.pulsecap, 1⟩, 2⟩] :=
    ⟨_, rfl, _, rfl, _, rfl, rfl, rfl⟩
  have afterFirst := (Transducer.everyState_cons.mp states).2 _ _ firstStep
  have afterNext := (Transducer.everyState_cons.mp afterFirst).2 _ _ secondStep
  have afterLast := (Transducer.everyState_cons.mp afterNext).2 _ _ lastStep
  obtain ⟨_, inst, ⟨owner, address⟩, _⟩ :=
    (Transducer.everyState_nil.mp afterLast).owner 0 _ device
  rw [live, List.mem_singleton] at owner
  rw [owner] at address
  exact absurd address (by decide)

/-- The nodes are kept in exactly the runs in which instances go in the reverse
order of their probes and no probe finds the table full. -/
theorem nodes_kept_iff (budget : Nat) (events : List PlatformEvent) :
    NodesKept budget events ↔ (platform budget).EveryStep LastInFirstOut .initial events :=
  Transducer.lawful_and_kept_iff
    (fun state (kept : Kept state.pulsecap state.shared) => nodesMatch_of_kept kept)
    (fun _ _ _ _ kept orderly stepped => kept_step kept orderly stepped)
    (fun _ _ kept orderly => stepKeepsNodes_of_orderly kept orderly)
    (fun _ _ kept keeps _ => orderly_of_stepKeepsNodes kept keeps) kept_initial

end Ebaz4205.PulsecapBookkeeping
