import Ebaz4205.PlatformFrames

/-!
# The instances of a driver and their devices

For a driver whose successful probes leave a new allocation as driver data: the
bound devices are distinct, their driver data are their instances, and no two
instances are the same. Events for the other drivers do not change that.
-/

namespace Ebaz4205.PlatformBindings

open DriverProgram DriverProgram.Program PulsecapDriver PlatformKernel PlatformSystem
open PlatformFrames

set_option autoImplicit false

variable {Array : Type} {length : Array → Nat} {Memory : Type}
  {probe remove : Program (driverSignature Array length Memory) Int}
  {kind : Driver} {driver : DriverState Memory} {shared : Shared} {event : PlatformEvent}
  {result : Served Memory}

structure Bindings (kind : Driver) (driver : DriverState Memory) (shared : Shared) : Prop where
  kind : ∀ inst ∈ driver.live, inst.pdev.driver = kind
  held : ∀ inst ∈ driver.live, shared.drvdata inst.pdev = some inst.address
  older : ∀ inst ∈ driver.live, inst.address < shared.next
  pdevs : (driver.live.map Instance.pdev).Nodup
  addresses : (driver.live.map Instance.address).Nodup

/-- A probe that returns zero leaves a block of its own as driver data. -/
def LeavesNewInstance (probe : Program (driverSignature Array length Memory) Int) : Prop :=
  ∀ driver shared event machine,
    probe.exec kernel (entry driver shared event) = (.returned 0, machine) →
      ∃ address, machine.world.shared.drvdata event.pdev = some address ∧
        shared.next ≤ address ∧ address < machine.world.shared.next

theorem bindings_initial (memory : Memory) (devices : U32 → Option ClassDevice) (shared : Shared) :
    Bindings kind ⟨memory, devices, []⟩ shared :=
  ⟨fun _ member => absurd member List.not_mem_nil, fun _ member => absurd member List.not_mem_nil,
    fun _ member => absurd member List.not_mem_nil, List.nodup_nil, List.nodup_nil⟩

/-- An event for another driver. -/
theorem Bindings.frame {after : Shared} (bindings : Bindings kind driver shared)
    (other : event.pdev.driver ≠ kind) (framed : SharedFrames event.pdev shared after) :
    Bindings kind driver after where
  kind := bindings.kind
  held := by
    intro inst member
    rw [framed.drvdata, bindings.held inst member]
    intro same
    rw [← same, bindings.kind inst member] at other
    exact other rfl
  older := fun inst member => (bindings.older inst member).trans_le framed.next
  pdevs := bindings.pdevs
  addresses := bindings.addresses

theorem Bindings.eq_of_pdev (bindings : Bindings kind driver shared) {first second : Instance}
    (firstLive : first ∈ driver.live) (secondLive : second ∈ driver.live)
    (same : first.pdev = second.pdev) : first = second :=
  List.inj_on_of_nodup_map bindings.pdevs firstLive secondLive same

theorem Bindings.held_of_pdev (bindings : Bindings kind driver shared) {inst : Instance}
    {pdev : Node} (live : inst ∈ driver.live) (same : inst.pdev = pdev) :
    shared.drvdata pdev = some inst.address := by
  rw [← same]
  exact bindings.held inst live

theorem Bindings.eq_of_address (bindings : Bindings kind driver shared) {first second : Instance}
    (firstLive : first ∈ driver.live) (secondLive : second ∈ driver.live)
    (same : first.address = second.address) : first = second :=
  List.inj_on_of_nodup_map bindings.addresses firstLive secondLive same

theorem Bindings.position_unique (bindings : Bindings kind driver shared) {first second : Nat}
    {inst other : Instance} (firstHere : driver.live[first]? = some inst)
    (secondHere : driver.live[second]? = some other) (same : inst.address = other.address) :
    first = second := by
  have bound : first < (driver.live.map Instance.address).length := by
    rw [List.length_map]
    exact (List.getElem?_eq_some_iff.mp firstHere).1
  apply (List.getElem?_inj bound bindings.addresses).mp
  rw [List.getElem?_map, List.getElem?_map, firstHere, secondHere, Option.map_some,
    Option.map_some, same]

/-- What stays after a remove is everything but the one instance of the device. -/
theorem Bindings.filter_eq_erase (bindings : Bindings kind driver shared) {inst : Instance}
    (live : inst ∈ driver.live) :
    driver.live.filter (fun other => other.pdev ≠ inst.pdev) = driver.live.erase inst := by
  rw [(List.Nodup.of_map _ bindings.pdevs).erase_eq_filter]
  apply List.filter_congr
  intro other member
  have same : other.pdev = inst.pdev ↔ other = inst :=
    ⟨bindings.eq_of_pdev member live, fun equal => by rw [equal]⟩
  simp only [ne_eq, same, bne, decide_not]
  rfl

theorem Bindings.filter_last (bindings : Bindings kind driver shared) {front : List Instance}
    {inst : Instance} (last : driver.live = front ++ [inst]) :
    driver.live.filter (fun other => other.pdev ≠ inst.pdev) = front := by
  have distinct := bindings.pdevs
  rw [last, List.map_append, List.nodup_append] at distinct
  rw [last, List.filter_append, List.filter_eq_self.mpr]
  · simp
  · intro other member
    have differ := distinct.2.2 _ (List.mem_map_of_mem member) inst.pdev (by simp)
    simpa using differ

theorem Bindings.release (bindings : Bindings kind driver shared) {memory : Memory}
    {devices : U32 → Option ClassDevice} {after : Shared} {pdev : Node} {left : List Instance}
    (framed : SharedFrames pdev shared after) (kept : left.Sublist driver.live)
    (others : ∀ inst ∈ left, inst.pdev ≠ pdev) :
    Bindings kind ⟨memory, devices, left⟩ (Shared.release after pdev) where
  kind := fun inst member => bindings.kind inst (kept.subset member)
  held := by
    intro inst member
    have data := framed.drvdata inst.pdev (others inst member)
    rw [bindings.held inst (kept.subset member)] at data
    rw [← data]
    exact Function.update_of_ne (others inst member) _ _
  older := fun inst member => (bindings.older inst (kept.subset member)).trans_le framed.next
  pdevs := (kept.map _).nodup bindings.pdevs
  addresses := (kept.map _).nodup bindings.addresses

/-- One more device is bound, to an instance of its own. -/
theorem Bindings.extend (bindings : Bindings kind driver shared) {memory : Memory}
    {devices : U32 → Option ClassDevice} {after : Shared} {pdev : Node} {address : Address}
    (framed : SharedFrames pdev shared after) (own : pdev.driver = kind)
    (others : ∀ inst ∈ driver.live, inst.pdev ≠ pdev)
    (data : after.drvdata pdev = some address) (lower : shared.next ≤ address)
    (upper : address < after.next) :
    Bindings kind ⟨memory, devices, driver.live ++ [⟨pdev, address⟩]⟩ after where
  kind := by
    rw [List.forall_mem_append, List.forall_mem_singleton]
    exact ⟨bindings.kind, own⟩
  held := by
    rw [List.forall_mem_append, List.forall_mem_singleton]
    constructor
    · intro inst old
      rw [framed.drvdata inst.pdev (others inst old)]
      exact bindings.held inst old
    · exact data
  older := by
    rw [List.forall_mem_append, List.forall_mem_singleton]
    exact ⟨fun inst old => (bindings.older inst old).trans_le framed.next, upper⟩
  pdevs := by
    rw [List.map_append, List.map_singleton]
    apply List.nodup_append.mpr
    refine ⟨bindings.pdevs, List.nodup_singleton _, ?_⟩
    intro bound old new member same
    obtain ⟨inst, live, rfl⟩ := List.mem_map.mp old
    rw [List.mem_singleton.mp member] at same
    exact others inst live same
  addresses := by
    rw [List.map_append, List.map_singleton]
    apply List.nodup_append.mpr
    refine ⟨bindings.addresses, List.nodup_singleton _, ?_⟩
    intro held old new member same
    obtain ⟨inst, live, rfl⟩ := List.mem_map.mp old
    rw [List.mem_singleton.mp member] at same
    have before := (bindings.older inst live).trans_le lower
    rw [same] at before
    exact lt_irrefl _ before

/-- An event for the driver itself. -/
theorem Bindings.serve (bindings : Bindings kind driver shared) (leaves : LeavesNewInstance probe)
    (own : event.pdev.driver = kind)
    (serving : Serving probe remove event driver shared result) :
    Bindings kind result.driver result.shared := by
  cases serving with
  | ignored idle => exact bindings
  | probed code machine action free ran =>
      have others : ∀ inst ∈ driver.live, inst.pdev ≠ event.pdev := by
        intro inst member same
        exact free ⟨inst, member, same⟩
      have callFramed := frames_exec probe (entry driver shared event)
      rw [ran] at callFramed
      have framed : SharedFrames event.pdev shared machine.world.shared :=
        ⟨callFramed.next, callFramed.drvdata, callFramed.nodeData⟩
      by_cases success : code = 0
      · subst success
        obtain ⟨address, data, lower, upper⟩ := leaves driver shared event machine ran
        simp only [afterProbe, if_true, probed_of_drvdata data]
        exact bindings.extend framed own others data lower upper
      · simp only [afterProbe, if_neg success]
        exact bindings.release framed (List.Sublist.refl _) others
  | removed code machine action bound ran =>
      have callFramed := frames_exec remove (entry driver shared event)
      rw [ran] at callFramed
      have sharedFramed : SharedFrames event.pdev shared machine.world.shared :=
        ⟨callFramed.next, callFramed.drvdata, callFramed.nodeData⟩
      apply bindings.release sharedFramed List.filter_sublist
      intro inst member
      simpa using (List.mem_filter.mp member).2

end Ebaz4205.PlatformBindings
