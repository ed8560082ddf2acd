import Ebaz4205.AximuxOperations

/-!
# The books of the multiplexer driver

One counter is the number of live instances, the next free slot and the next
minor number. The three agree as long as no probe fails after the counter was
moved and no remove has freed a number below it before the next probe.
-/

namespace Ebaz4205.AximuxBookkeeping

open DriverProgram DriverProgram.Program PartialRuns PulsecapDriver PlatformKernel AximuxDriver
open PlatformSystem PlatformFrames PlatformBindings AximuxOperations

set_option autoImplicit false

/-- The `instance_number` of an instance. -/
def number (data : AximuxModule) (inst : Instance) : U32 :=
  (data.devices inst.address).instanceNumber

structure BooksBalance (data : AximuxModule) (live : List Instance) : Prop where
  distinct : live.Pairwise fun first second => number data first ≠ number data second
  slot : ∀ inst ∈ live, ∃ inside : (number data inst).toNat < aximuxMaxInstances,
    data.driverInstances ⟨(number data inst).toNat, inside⟩ = some inst.address
  counted : data.availableInstances.toNat = live.length

/-- What the next event must leave in order: a probe stays inside the table of
instances, and one that fails changes neither the table nor the counter. -/
structure StepKeepsBooks (budget : Nat) (state : PlatformState) (event : PlatformEvent) :
    Prop where
  inside : event.action = .probe → event.pdev.driver = .aximux →
    ¬state.aximux.Bound event.pdev →
    ∀ used ∈ aximuxProbe.accesses kernel (entry state.aximux state.shared event),
      used.1 = .array .driverInstances → used.2 < aximuxMaxInstances
  unchanged : event.action = .probe → event.pdev.driver = .aximux →
    ∀ code next, (platform budget).step state event = some (some code, next) → code ≠ 0 →
      next.aximux.memory.availableInstances = state.aximux.memory.availableInstances ∧
        next.aximux.memory.driverInstances = state.aximux.memory.driverInstances

def BooksKept (budget : Nat) (events : List PlatformEvent) : Prop :=
  (platform budget).EveryState
    (fun state => BooksBalance state.aximux.memory state.aximux.live) .initial events ∧
    (platform budget).EveryStep (StepKeepsBooks budget) .initial events

/-- The attribute loop of a probe with these answers comes to its end. -/
def LoopCompletes (answers : KernelAnswers) (width : U32) : Prop :=
  width.toNat ≤ aximuxAttrsSize ∧ ∀ k < 1 + 2 * width.toNat, answers.allocates k = true

/-- A probe that takes a number finds a slot of that number; unless it then breaks
down in its loop, no live instance has the number, and its class device is created. -/
def ProbesCleanly (state : PlatformState) (event : PlatformEvent) : Prop :=
  event.action = .probe → event.pdev.driver = .aximux → ¬state.aximux.Bound event.pdev →
    ∀ width, offeredWidth event.answers = some width →
      state.aximux.memory.availableInstances.toNat < aximuxMaxInstances ∧
        (LoopCompletes event.answers width →
          (∀ inst ∈ state.aximux.live,
            number state.aximux.memory inst ≠ state.aximux.memory.availableInstances) ∧
          event.answers.deviceCreate = .ok ())

/-- With the books, the class devices belong to live instances, each of which has
one that its remove will find. -/
structure Kept (driver : DriverState AximuxModule) (shared : Shared) : Prop where
  books : BooksBalance driver.memory driver.live
  bindings : Bindings .aximux driver shared
  owned : ∀ minor, (driver.devices minor).isSome →
    ∃ inst ∈ driver.live, number driver.memory inst = minor
  proxied : ∀ inst ∈ driver.live, (driver.memory.devices inst.address).proxyDev ≠ none

theorem kept_frame {driver : DriverState AximuxModule} {shared after : Shared}
    {event : PlatformEvent} (kept : Kept driver shared) (other : event.pdev.driver ≠ .aximux)
    (framed : SharedFrames event.pdev shared after) : Kept driver after :=
  { kept with bindings := kept.bindings.frame other framed }

/-- Only instances that are not live change. -/
theorem booksBalance_devices {data : AximuxModule} {live : List Instance}
    {devices : Address → AximuxDevice} (books : BooksBalance data live)
    (same : ∀ inst ∈ live, devices inst.address = data.devices inst.address) :
    BooksBalance { data with devices } live := by
  have numbers : ∀ inst ∈ live, number { data with devices } inst = number data inst := by
    intro inst member
    exact congrArg AximuxDevice.instanceNumber (same inst member)
  constructor
  · apply books.distinct.imp_of_mem
    intro first second firstLive secondLive differ
    rw [numbers first firstLive, numbers second secondLive]
    exact differ
  · intro inst member
    simp only [numbers inst member]
    exact books.slot inst member
  · exact books.counted

section Numbers

variable {data : AximuxModule} {dev proxy : Address} {width : U32}
  {slot : Fin aximuxMaxInstances}

theorem number_published_old {inst : Instance} (older : inst.address < dev) :
    number (published data dev width slot proxy) inst = number data inst := by
  simp [number, published, registered, enrolled, AximuxModule.setDevice, older.ne]

theorem number_published_new (pdev : Node) :
    number (published data dev width slot proxy) ⟨pdev, dev⟩ = data.availableInstances := by
  simp [number, published, AximuxModule.setDevice]

end Numbers

/-- One more instance, with a number that no live instance has. -/
theorem booksBalance_published {data : AximuxModule} {live : List Instance} {dev proxy : Address}
    {width : U32} {pdev : Node} (books : BooksBalance data live)
    (slot : data.availableInstances.toNat < aximuxMaxInstances)
    (older : ∀ inst ∈ live, inst.address < dev)
    (free : ∀ inst ∈ live, number data inst ≠ data.availableInstances) :
    BooksBalance (published data dev width ⟨data.availableInstances.toNat, slot⟩ proxy)
      (live ++ [⟨pdev, dev⟩]) := by
  constructor
  · apply List.pairwise_append.mpr
    refine ⟨?_, List.pairwise_singleton _ _, ?_⟩
    · apply books.distinct.imp_of_mem
      intro first second firstLive secondLive differ
      rw [number_published_old (older first firstLive),
        number_published_old (older second secondLive)]
      exact differ
    · intro inst member new newMember
      rw [List.mem_singleton.mp newMember, number_published_new,
        number_published_old (older inst member)]
      exact free inst member
  · intro inst member
    rcases List.mem_append.mp member with old | new
    · obtain ⟨inside, held⟩ := books.slot inst old
      simp only [number_published_old (older inst old)]
      refine ⟨inside, ?_⟩
      have differ : (⟨(number data inst).toNat, inside⟩ : Fin aximuxMaxInstances) ≠
          ⟨data.availableInstances.toNat, slot⟩ := by
        intro same
        exact free inst old (BitVec.eq_of_toNat_eq (Fin.mk.inj same))
      simp [published, registered, enrolled, AximuxModule.setDevice, differ, held]
    · rw [List.mem_singleton.mp new]
      simp only [number_published_new]
      exact ⟨slot, by simp [published, registered, enrolled, AximuxModule.setDevice]⟩
  · have counted := books.counted
    simp only [published, registered, enrolled, AximuxModule.setDevice,
      writeAttributes_availableInstances, List.length_append, List.length_singleton]
    have room : data.availableInstances.toNat + 1 < 2 ^ 32 := by
      rw [aximuxMaxInstances] at slot
      omega
    rw [BitVec.toNat_add, Nat.mod_eq_of_lt (by simpa using room), counted]
    rfl

theorem booksBalance_removed {data : AximuxModule} {live : List Instance} {inst : Instance}
    (books : BooksBalance data live) (member : inst ∈ live) :
    BooksBalance { data with availableInstances := data.availableInstances - 1 }
      (live.erase inst) := by
  constructor
  · exact books.distinct.sublist List.erase_sublist
  · intro other otherLive
    exact books.slot other (List.mem_of_mem_erase otherLive)
  · have counted := books.counted
    have positive := List.length_pos_of_mem member
    rw [List.length_erase_of_mem member, BitVec.toNat_sub_of_le]
    · rw [counted]
      rfl
    · rw [BitVec.le_def, counted]
      exact positive

/-- No class device has the number of a new instance. -/
theorem deviceCreate_of_free {driver : DriverState AximuxModule} {shared : Shared}
    {event : PlatformEvent} (kept : Kept driver shared)
    (free : ∀ inst ∈ driver.live, number driver.memory inst ≠ driver.memory.availableInstances)
    (granted : event.answers.deviceCreate = .ok ()) :
    (⟨event.pdev, event.answers, 0, 0, driver.devices, shared⟩ : KernelWorld).deviceCreate
      driver.memory.availableInstances = .ok () := by
  rw [KernelWorld.deviceCreate, if_neg]
  · exact granted
  · intro taken
    obtain ⟨inst, live, same⟩ := kept.owned _ taken
    exact free inst live same

theorem loopCompletes_of_reaches {data : AximuxModule} {world : KernelWorld} {width : U32}
    (fresh : world.allocations = 0) (reaches : ReachesCreate data world width) :
    LoopCompletes world.answers width := by
  constructor
  · exact reaches.table
  · intro k bound
    have granted := reaches.grants k bound
    rw [fresh, Nat.zero_add] at granted
    exact granted

section Preservation

variable {driver : DriverState AximuxModule} {shared after : Shared}

theorem kept_early {devices : Address → AximuxDevice} (kept : Kept driver shared)
    (same : ∀ inst ∈ driver.live,
      devices inst.address = driver.memory.devices inst.address)
    (bindings : Bindings .aximux
      ⟨{ driver.memory with devices }, driver.devices, driver.live⟩ after) :
    Kept ⟨{ driver.memory with devices }, driver.devices, driver.live⟩ after where
  books := booksBalance_devices kept.books same
  bindings := bindings
  owned := by
    intro minor taken
    obtain ⟨inst, live, numbered⟩ := kept.owned minor taken
    refine ⟨inst, live, ?_⟩
    rw [← numbered]
    exact congrArg AximuxDevice.instanceNumber (same inst live)
  proxied := by
    intro inst live
    have proxied := kept.proxied inst live
    rw [← same inst live] at proxied
    exact proxied

theorem kept_published {pdev : Node} {dev proxy : Address} {width : U32}
    {device : ClassDevice} (kept : Kept driver shared)
    (slot : driver.memory.availableInstances.toNat < aximuxMaxInstances)
    (older : ∀ inst ∈ driver.live, inst.address < dev)
    (free : ∀ inst ∈ driver.live,
      number driver.memory inst ≠ driver.memory.availableInstances)
    (bindings : Bindings .aximux
      ⟨published driver.memory dev width ⟨driver.memory.availableInstances.toNat, slot⟩ proxy,
        Function.update driver.devices driver.memory.availableInstances (some device),
        driver.live ++ [⟨pdev, dev⟩]⟩ after) :
    Kept
      ⟨published driver.memory dev width ⟨driver.memory.availableInstances.toNat, slot⟩ proxy,
        Function.update driver.devices driver.memory.availableInstances (some device),
        driver.live ++ [⟨pdev, dev⟩]⟩ after where
  books := booksBalance_published kept.books slot older free
  bindings := bindings
  owned := by
    intro minor taken
    dsimp only at taken
    by_cases new : minor = driver.memory.availableInstances
    · refine ⟨⟨pdev, dev⟩, List.mem_append_right _ (List.mem_singleton.mpr rfl), ?_⟩
      simp [new, number, published, AximuxModule.setDevice]
    · rw [Function.update_of_ne new] at taken
      obtain ⟨inst, live, numbered⟩ := kept.owned minor taken
      refine ⟨inst, List.mem_append_left _ live, ?_⟩
      rw [← numbered]
      exact number_published_old (older inst live)
  proxied := by
    intro inst member
    rcases List.mem_append.mp member with old | new
    · have differ := (older inst old).ne
      have proxied := kept.proxied inst old
      simpa [published, registered, enrolled, AximuxModule.setDevice, differ] using proxied
    · rw [List.mem_singleton.mp new]
      simp [published, AximuxModule.setDevice]

theorem kept_removed {inst : Instance} (kept : Kept driver shared) (live : inst ∈ driver.live)
    (bindings : Bindings .aximux
      ⟨{ driver.memory with availableInstances := driver.memory.availableInstances - 1 },
        Function.update driver.devices (number driver.memory inst) none,
        driver.live.erase inst⟩ after) :
    Kept
      ⟨{ driver.memory with availableInstances := driver.memory.availableInstances - 1 },
        Function.update driver.devices (number driver.memory inst) none,
        driver.live.erase inst⟩ after where
  books := booksBalance_removed kept.books live
  bindings := bindings
  owned := by
    intro minor taken
    dsimp only at taken
    by_cases removed : minor = number driver.memory inst
    · rw [removed, Function.update_self] at taken
      exact absurd taken (by simp)
    · rw [Function.update_of_ne removed] at taken
      obtain ⟨other, otherLive, numbered⟩ := kept.owned minor taken
      refine ⟨other, (List.mem_erase_of_ne ?_).mpr otherLive, numbered⟩
      intro same
      rw [same] at numbered
      exact removed numbered.symm
  proxied := fun other otherLive => kept.proxied other (List.mem_of_mem_erase otherLive)

end Preservation

theorem kept_serve {state : PlatformState} {event : PlatformEvent} {result : Served AximuxModule}
    (kept : Kept state.aximux state.shared) (own : event.pdev.driver = .aximux)
    (clean : ProbesCleanly state event)
    (serving : Serving aximuxProbe aximuxRemove event state.aximux state.shared result) :
    Kept result.driver result.shared := by
  have bindings := kept.bindings.serve leavesNewInstance_aximuxProbe own serving
  cases serving with
  | ignored idle => exact kept
  | probed code machine action free ran =>
      cases probeReturns_of_exec rfl ran with
      | early err granted devices early older returned memory kernel =>
          simp only [afterProbe, returned, if_neg err.code_ne_zero, memory, kernel] at bindings ⊢
          exact kept_early kept (fun inst live => older _ (kept.bindings.older inst live)) bindings
      | refused err width reaches refused returned memory kernel =>
          obtain ⟨_, cleanly⟩ := clean action own free width reaches.offered
          obtain ⟨fresh, granted⟩ := cleanly (loopCompletes_of_reaches rfl reaches)
          have created := deviceCreate_of_free kept fresh granted
          exact absurd (refused.symm.trans created) (by simp)
      | published width reaches created returned memory kernel =>
          obtain ⟨_, cleanly⟩ := clean action own free width reaches.offered
          obtain ⟨fresh, _⟩ := cleanly (loopCompletes_of_reaches rfl reaches)
          have live : probed event.pdev machine.world.shared =
              [⟨event.pdev, state.shared.next⟩] := by
            rw [kernel]
            exact probed_publishedWorld rfl
          have devices : machine.world.devices = Function.update state.aximux.devices
              state.aximux.memory.availableInstances
              (some ⟨state.aximux.memory.availableInstances, state.shared.next⟩) := by
            rw [kernel]
            rfl
          simp only [afterProbe, returned, if_true, live, memory, devices] at bindings ⊢
          exact kept_published kept reaches.slot kept.bindings.older fresh bindings
  | removed code machine action bound ran =>
      obtain ⟨inst, live, same⟩ := bound
      rw [exec_aximuxRemove _ (kept.bindings.held_of_pdev live same),
        if_pos (kept.proxied inst live), Prod.mk.injEq] at ran
      have memory : machine.memory = { state.aximux.memory with
          availableInstances := state.aximux.memory.availableInstances - 1 } := by
        rw [← ran.2]
      have devices : machine.world.devices = Function.update state.aximux.devices
          (number state.aximux.memory inst) none := by
        rw [← ran.2]
        rfl
      simp only [afterRemove, ← same, kept.bindings.filter_eq_erase live, memory, devices]
        at bindings ⊢
      exact kept_removed kept live bindings

theorem step_of_probe_aximux (budget : Nat) {state : PlatformState} {event : PlatformEvent}
    (own : event.pdev.driver = .aximux) (action : event.action = .probe)
    (free : ¬state.aximux.Bound event.pdev) {code : Int}
    {machine : Machine aximuxSignature KernelWorld}
    (ran : aximuxProbe.exec kernel (entry state.aximux state.shared event) =
      (.returned code, machine)) :
    (platform budget).step state event =
      some (some code, { state with
        aximux := (afterProbe state.aximux event.pdev code machine).driver
        shared := (afterProbe state.aximux event.pdev code machine).shared }) := by
  rw [step_aximux budget own (serve_probe action free ran), afterProbe_code]

theorem kept_step {budget : Nat} {state next : PlatformState} {event : PlatformEvent}
    {code : Option Int} (kept : Kept state.aximux state.shared)
    (clean : ProbesCleanly state event)
    (stepped : (platform budget).step state event = some (code, next)) :
    Kept next.aximux next.shared := by
  cases platformServing_of_step stepped with
  | aximux result kind serving returned after =>
      rw [after]
      exact kept_serve kept kind clean serving
  | pulsecap result kind serving returned after =>
      rw [after]
      exact kept_frame kept (by rw [kind]; decide) (sharedFrames_of_serving serving)
  | kswfloppy result kind serving returned after =>
      rw [after]
      exact kept_frame kept (by rw [kind]; decide) (sharedFrames_of_serving serving)

theorem stepKeepsBooks_of_clean {budget : Nat} {state : PlatformState} {event : PlatformEvent}
    (kept : Kept state.aximux state.shared) (clean : ProbesCleanly state event) :
    StepKeepsBooks budget state event where
  inside := by
    intro action own free used accessed region
    cases offered : offeredWidth event.answers with
    | none =>
        rw [accesses_aximuxProbe_early rfl offered] at accessed
        exact absurd accessed List.not_mem_nil
    | some width =>
        obtain ⟨slot, _⟩ := clean action own free width offered
        rw [accesses_aximuxProbe_offered rfl offered] at accessed
        cases accessed with
        | head => exact slot
        | tail _ later =>
            rw [dif_pos slot] at later
            have elsewhere := accesses_within (within_populateAttributes 0 width.toNat) later
            rw [region] at elsewhere
            exact absurd elsewhere (by simp [loopEffects])
  unchanged := by
    intro action own code next stepped failed
    cases platformServing_of_step stepped with
    | aximux result kind serving returned after =>
        rw [after]
        cases serving with
        | ignored idle => exact absurd returned (by simp)
        | probed result machine _ free ran =>
            rw [afterProbe_code, Option.some.injEq] at returned
            rw [returned] at failed
            cases probeReturns_of_exec rfl ran with
            | early err granted devices early older same memory kernel =>
                rw [afterProbe, if_neg failed, memory]
                exact ⟨rfl, rfl⟩
            | refused err width reaches refused same memory kernel =>
                obtain ⟨_, cleanly⟩ := clean action own free width reaches.offered
                obtain ⟨fresh, granted⟩ := cleanly (loopCompletes_of_reaches rfl reaches)
                have created := deviceCreate_of_free kept fresh granted
                exact absurd (refused.symm.trans created) (by simp)
            | published width reaches created zero memory kernel => exact absurd zero failed
        | removed result machine removing bound ran =>
            exact absurd (action.symm.trans removing) (by simp)
    | pulsecap result kind serving returned after => exact absurd (own.symm.trans kind) (by simp)
    | kswfloppy result kind serving returned after => exact absurd (own.symm.trans kind) (by simp)

theorem clean_of_stepKeepsBooks {budget : Nat} {state : PlatformState} {event : PlatformEvent}
    (kept : Kept state.aximux state.shared) (keeps : StepKeepsBooks budget state event)
    (lawful : ∀ code next, (platform budget).step state event = some (code, next) →
      BooksBalance next.aximux.memory next.aximux.live) : ProbesCleanly state event := by
  intro action own free width offered
  have slot : state.aximux.memory.availableInstances.toNat < aximuxMaxInstances := by
    apply keeps.inside action own free (.array .driverInstances, _) _ rfl
    rw [accesses_aximuxProbe_offered rfl offered]
    exact List.mem_cons_self
  refine ⟨slot, fun completes => ?_⟩
  have reaches : ReachesCreate state.aximux.memory
      ⟨event.pdev, event.answers, 0, 0, state.aximux.devices, state.shared⟩ width := by
    refine ⟨offered, slot, completes.1, fun k bound => ?_⟩
    rw [Nat.zero_add]
    exact completes.2 k bound
  cases created : (⟨event.pdev, event.answers, 0, 0, state.aximux.devices, state.shared⟩ :
      KernelWorld).deviceCreate state.aximux.memory.availableInstances with
  | error err =>
      have stepped := step_of_probe_aximux budget own action free
        (exec_aximuxProbe_refused rfl reaches created)
      have unchanged := (keeps.unchanged action own _ _ stepped err.code_ne_zero).1
      simp only [afterProbe, if_neg err.code_ne_zero, registered,
        writeAttributes_availableInstances, enrolled] at unchanged
      have moved : state.aximux.memory.availableInstances + 1 =
          state.aximux.memory.availableInstances := unchanged
      bv_omega
  | ok _ =>
      have stepped := step_of_probe_aximux budget own action free
        (exec_aximuxProbe_published rfl reaches created)
      have distinct := (lawful _ _ stepped).distinct
      simp only [afterProbe, if_true] at distinct
      rw [probed_publishedWorld (by rfl), List.pairwise_append] at distinct
      constructor
      · intro inst live same
        have differ := distinct.2.2 inst live _ (List.mem_singleton.mpr rfl)
        rw [number_published_old (kept.bindings.older inst live), number_published_new] at differ
        exact differ same
      · rw [KernelWorld.deviceCreate] at created
        split at created
        · exact absurd created (by simp)
        · exact created

theorem kept_initial : Kept PlatformState.initial.aximux PlatformState.initial.shared where
  books := ⟨List.Pairwise.nil, fun _ member => absurd member List.not_mem_nil, rfl⟩
  bindings := bindings_initial _ _ _
  owned := fun _ taken => absurd taken (by simp [PlatformState.initial])
  proxied := fun _ member => absurd member List.not_mem_nil

/-- A single probe whose class device is refused: the counter says one, and there
is no instance. -/
theorem refused_probe_counted :
    ¬BooksKept 0 [⟨.probe, ⟨.aximux, 0⟩, { obliging 4 with deviceCreate := .error enomem }⟩] := by
  rintro ⟨states, _⟩
  have afterwards := (Transducer.everyState_cons.mp states).2
  obtain ⟨next, stepped, counter, live⟩ : ∃ next : PlatformState,
      (platform 0).step .initial
          ⟨.probe, ⟨.aximux, 0⟩, { obliging 4 with deviceCreate := .error enomem }⟩ =
        some (some (-12), next) ∧
      next.aximux.memory.availableInstances = 1 ∧ next.aximux.live = [] := ⟨_, rfl, rfl, rfl⟩
  have counted := (Transducer.everyState_nil.mp (afterwards _ _ stepped)).counted
  rw [counter, live] at counted
  exact absurd counted (by decide)

/-- The books are kept in exactly the runs whose probes are all clean. -/
theorem books_kept_iff (budget : Nat) (events : List PlatformEvent) :
    BooksKept budget events ↔
      (platform budget).EveryStep ProbesCleanly .initial events := by
  exact Transducer.lawful_and_kept_iff
    (fun state (kept : Kept state.aximux state.shared) => kept.books)
    (fun _ _ _ _ kept clean stepped => kept_step kept clean stepped)
    (fun _ _ kept clean => stepKeepsBooks_of_clean kept clean)
    (fun _ _ kept keeps lawful => clean_of_stepKeepsBooks kept keeps lawful) kept_initial

end Ebaz4205.AximuxBookkeeping
