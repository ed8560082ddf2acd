import Ebaz4205.AximuxOperations

/-!
# The attribute table of the multiplexer driver

All probes write the attributes of their instance into one table of eight
entries, from its beginning on, and hand the table over as a list that ends at
its first empty entry. Nothing empties an entry again. So the list of a probe is
its own exactly when there is room for the end of the list and no earlier probe
wrote further.
-/

namespace Ebaz4205.AximuxAttributes

open DriverProgram DriverProgram.Program PartialRuns PulsecapDriver PlatformKernel AximuxDriver
open PlatformSystem PlatformFrames AximuxOperations

set_option autoImplicit false

/-- The block of an attribute, if that is what the kernel was asked for. -/
def attributeBlock : Exchange aximuxSignature → Option Address
  | ⟨.devmKzalloc .deviceAttribute, reply⟩ => reply
  | _ => none

/-- The attributes that a call has made, in order. -/
def attributeBlocks (exchanges : List (Exchange aximuxSignature)) : List Address :=
  exchanges.filterMap attributeBlock

/-- A table that is a list of these attributes, with an end inside the table. -/
structure OwnAttributes (width : U32) (blocks : List Address)
    (attrs : List (Option DeviceAttribute)) : Prop where
  size : attrs.length = aximuxAttrsSize
  listed : ∃ mine : List DeviceAttribute, ∃ rest, attrs = mine.map some ++ none :: rest ∧
    mine.map DeviceAttribute.address = blocks ∧ mine.length = width.toNat

/-- The event is a call of the probe. -/
structure Probes (state : PlatformState) (event : PlatformEvent) : Prop where
  action : event.action = .probe
  own : event.pdev.driver = .aximux
  free : ¬state.aximux.Bound event.pdev

/-- What a probe must do with the table: stay inside, and hand over its own
attributes and no others. -/
structure HandsOwnAttributes (state : PlatformState) (event : PlatformEvent) : Prop where
  inside : Probes state event →
    ∀ used ∈ aximuxProbe.accesses kernel (entry state.aximux state.shared event),
      used.1 = .array .aximuxAttrs → used.2 < aximuxAttrsSize
  handed : Probes state event →
    ∀ exchange ∈ aximuxProbe.exchanges kernel (entry state.aximux state.shared event),
      ∀ minor drvdata attrs number,
        exchange.request = .deviceCreateWithGroups minor drvdata (.aximuxInstAttrGroups attrs)
          number →
        ∀ width, event.answers.propertyU32 "xlnx,input-w" = .ok width →
          OwnAttributes width
            (attributeBlocks
              (aximuxProbe.exchanges kernel (entry state.aximux state.shared event))) attrs

/-- A probe that comes as far into the loop as the table and its width allow: no
allocation fails before the last round, or the round after the last entry. -/
structure Populates (state : PlatformState) (event : PlatformEvent) (width : U32) : Prop where
  probes : Probes state event
  offered : offeredWidth event.answers = some width
  slot : state.aximux.memory.availableInstances.toNat < aximuxMaxInstances
  grants : ∀ k < 1 + 2 * min width.toNat (aximuxAttrsSize + 1), event.answers.allocates k = true

/-- Each probe that fills the table leaves room for the end of the list, and none
is narrower than one before it. -/
def WidthsAscend (budget : Nat) (events : List PlatformEvent) : Prop :=
  ∀ before event rest state, events = before ++ event :: rest →
    (platform budget).Reaches .initial before state →
    ∀ width, Populates state event width →
      width.toNat < aximuxAttrsSize ∧
        ∀ front earlier back past narrower, before = front ++ earlier :: back →
          (platform budget).Reaches .initial front past →
          Populates past earlier narrower → narrower ≤ width

section Table

theorem writeAttributes_table (data : AximuxModule) (iter : Nat) (entries : List DeviceAttribute)
    (slot : Fin aximuxAttrsSize) :
    (writeAttributes data iter entries).aximuxAttrs slot =
      if iter ≤ slot ∧ slot < iter + entries.length then entries[slot - iter]?
      else data.aximuxAttrs slot := by
  induction entries generalizing data iter with
  | nil =>
      rw [writeAttributes, if_neg]
      simp only [List.length_nil, Nat.add_zero]
      omega
  | cons entry rest ih =>
      rw [writeAttributes, ih, List.length_cons]
      rcases lt_trichotomy slot.val iter with below | here | above
      · rw [if_neg (by omega), if_neg (by omega)]
        split
        · exact Function.update_of_ne (fun same => below.ne (congrArg Fin.val same)) _ _
        · rfl
      · have inside : iter < aximuxAttrsSize := here ▸ slot.isLt
        have same : slot = ⟨iter, inside⟩ := Fin.ext here
        rw [if_neg (by omega), if_pos (by omega), dif_pos inside, same]
        simp [AximuxModule.setAttribute]
      · by_cases within : slot.val < iter + (rest.length + 1)
        · rw [if_pos (by omega), if_pos (by omega),
            show slot.val - iter = slot.val - (iter + 1) + 1 by omega, List.getElem?_cons_succ]
        · rw [if_neg (by omega), if_neg (by omega)]
          split
          · exact Function.update_of_ne (fun same => above.ne' (congrArg Fin.val same)) _ _
          · rfl

theorem createdAttributes_length (next : Address) (iter remaining : Nat) :
    (createdAttributes next iter remaining).length = remaining := by
  induction remaining generalizing next iter with
  | zero => rfl
  | succ remaining ih => rw [createdAttributes, List.length_cons, ih]

end Table

section Loop

variable {machine : Machine aximuxSignature KernelWorld} {iter remaining : Nat}

theorem exchanges_populateAttribute (grants : machine.world.Grants 2)
    (inside : iter < aximuxAttrsSize) :
    (populateAttribute iter).exchanges kernel machine =
      [⟨.devmKzalloc .deviceAttribute, some machine.world.shared.next⟩,
        ⟨.devmKzalloc .attributeName, some (machine.world.shared.next + 1)⟩] := by
  obtain ⟨first, second⟩ := KernelWorld.grants_two.mp grants
  simp only [populateAttribute, bind_eq, kernelCall, deref, element, Program.modify, Program.bind,
    exchanges, kernel, KernelWorld.respond, KernelWorld.afterAllocation, first, second, if_true,
    dif_pos inside]

theorem accesses_populateAttribute (grants : machine.world.Grants 2) :
    (populateAttribute iter).accesses kernel machine = [(.array .aximuxAttrs, iter)] := by
  obtain ⟨first, second⟩ := KernelWorld.grants_two.mp grants
  simp only [populateAttribute, bind_eq, kernelCall, deref, element, Program.modify, Program.bind,
    accesses, kernel, KernelWorld.respond, KernelWorld.afterAllocation, first, second, if_true]
  split <;> rfl

theorem accesses_populateAttribute_denied (denied : ¬machine.world.Grants 2) :
    (populateAttribute iter).accesses kernel machine = [(.nullPointer, 0)] := by
  cases first : machine.world.answers.allocates machine.world.allocations with
  | false =>
      cases second : machine.world.answers.allocates (machine.world.allocations + 1) <;>
        simp [populateAttribute, kernelCall, deref, Program.bind, accesses, kernel,
          KernelWorld.respond, KernelWorld.afterAllocation, first, second]
  | true =>
      cases second : machine.world.answers.allocates (machine.world.allocations + 1) with
      | false =>
          simp [populateAttribute, kernelCall, deref, Program.bind, accesses, kernel,
            KernelWorld.respond, KernelWorld.afterAllocation, first, second]
      | true => exact absurd (KernelWorld.grants_two.mpr ⟨first, second⟩) denied

theorem attributeBlocks_append (first second : List (Exchange aximuxSignature)) :
    attributeBlocks (first ++ second) = attributeBlocks first ++ attributeBlocks second :=
  List.filterMap_append

/-- The blocks that the loop asks for are those of the attributes it makes. -/
theorem attributeBlocks_populateAttributes (grants : machine.world.Grants (2 * remaining))
    (inside : iter + remaining ≤ aximuxAttrsSize) :
    attributeBlocks ((populateAttributes iter remaining).exchanges kernel machine) =
      (createdAttributes machine.world.shared.next iter remaining).map
        DeviceAttribute.address := by
  induction remaining generalizing iter machine with
  | zero => rfl
  | succ remaining ih =>
      rw [show 2 * (remaining + 1) = 2 + 2 * remaining by omega] at grants
      obtain ⟨front, back⟩ := KernelWorld.grants_add.mp grants
      have here : iter < aximuxAttrsSize := by omega
      rw [populateAttributes, bind_eq, exchanges_bind, exec_populateAttribute front here,
        followedBy,
        exchanges_populateAttribute front here, attributeBlocks_append, ih back (by omega)]
      rfl

/-- With memory for one attribute more than fit, the loop writes behind the table. -/
theorem accesses_populateAttributes_beyond
    (grants : machine.world.Grants (2 * (aximuxAttrsSize + 1 - iter)))
    (started : iter ≤ aximuxAttrsSize) (beyond : aximuxAttrsSize < iter + remaining) :
    (.array .aximuxAttrs, aximuxAttrsSize) ∈
      (populateAttributes iter remaining).accesses kernel machine := by
  induction remaining generalizing iter machine with
  | zero => omega
  | succ remaining ih =>
      rw [show 2 * (aximuxAttrsSize + 1 - iter) = 2 + 2 * (aximuxAttrsSize + 1 - (iter + 1)) by
        omega] at grants
      obtain ⟨front, back⟩ := KernelWorld.grants_add.mp grants
      rw [populateAttributes, bind_eq, accesses_bind, accesses_populateAttribute front]
      apply List.mem_append.mpr
      by_cases last : iter = aximuxAttrsSize
      · rw [last]
        exact Or.inl (List.mem_singleton.mpr rfl)
      · have here : iter < aximuxAttrsSize := by omega
        rw [exec_populateAttribute front here, followedBy]
        exact Or.inr (ih back here (by omega))

/-- Without it, the loop breaks down before that. -/
theorem accesses_populateAttributes_denied
    (denied : ¬machine.world.Grants (2 * (aximuxAttrsSize + 1 - iter)))
    (started : iter ≤ aximuxAttrsSize) {used : aximuxSignature.Region × Nat}
    (accessed : used ∈ (populateAttributes iter remaining).accesses kernel machine)
    (table : used.1 = .array .aximuxAttrs) : used.2 < aximuxAttrsSize := by
  induction remaining generalizing iter machine with
  | zero => exact absurd accessed List.not_mem_nil
  | succ remaining ih =>
      rw [show 2 * (aximuxAttrsSize + 1 - iter) = 2 + 2 * (aximuxAttrsSize + 1 - (iter + 1)) by
        omega, KernelWorld.grants_add] at denied
      rw [populateAttributes, bind_eq, accesses_bind] at accessed
      by_cases front : machine.world.Grants 2
      · have here : iter < aximuxAttrsSize := by
          by_contra outside
          apply denied
          refine ⟨front, fun k bound => ?_⟩
          omega
        rw [accesses_populateAttribute front, exec_populateAttribute front here, followedBy]
          at accessed
        rcases List.mem_append.mp accessed with first | later
        · rw [List.mem_singleton.mp first]
          exact here
        · exact ih (fun back => denied ⟨front, back⟩) here later
      · rw [accesses_populateAttribute_denied front, followedBy_undefined] at accessed
        · rw [List.append_nil, List.mem_singleton] at accessed
          rw [accessed] at table
          exact absurd table (by simp)
        · exact exec_populateAttribute_undefined fun both => front both.1

end Loop

section Handover

variable {machine : Machine aximuxSignature KernelWorld} {width : U32}

/-- A table whose beginning was written with `mine` is a list of just these
entries when the next position was empty. -/
theorem ownAttributes_iff {table data : Fin aximuxAttrsSize → Option DeviceAttribute}
    {mine : List DeviceAttribute} (count : mine.length = width.toNat)
    (written : ∀ slot : Fin aximuxAttrsSize,
      table slot = if slot.val < width.toNat then mine[slot.val]? else data slot) :
    OwnAttributes width (mine.map DeviceAttribute.address) (List.ofFn table) ↔
      ∃ inside : width.toNat < aximuxAttrsSize, data ⟨width.toNat, inside⟩ = none := by
  constructor
  · rintro ⟨size, own, rest, same, _, length⟩
    have inside : width.toNat < aximuxAttrsSize := by
      have total := congrArg List.length same
      simp only [List.length_ofFn, List.length_append, List.length_map, List.length_cons,
        length] at total
      omega
    have ending : (List.ofFn table)[width.toNat]? = some none := by
      rw [same, List.getElem?_append_right (by simp [length])]
      simp [length]
    rw [List.getElem?_ofFn, dif_pos inside, written, if_neg (lt_irrefl _)] at ending
    exact ⟨inside, Option.some.inj ending⟩
  · rintro ⟨inside, empty⟩
    refine ⟨List.length_ofFn, mine, (List.ofFn table).drop (width.toNat + 1), ?_, rfl, count⟩
    apply List.ext_getElem?
    intro k
    rcases lt_trichotomy k width.toNat with front | here | back
    · have bound : k < aximuxAttrsSize := by omega
      rw [List.getElem?_ofFn, dif_pos bound, written, if_pos front,
        List.getElem?_append_left (by simpa [count] using front), List.getElem?_map]
      rw [List.getElem?_eq_getElem (by rw [count]; exact front)]
      rfl
    · have bound : k < aximuxAttrsSize := by omega
      rw [List.getElem?_ofFn, dif_pos bound, written, if_neg (by simp [here]),
        List.getElem?_append_right (by simp [count, here])]
      simp only [List.length_map, count, here, Nat.sub_self, List.getElem?_cons_zero, empty]
    · rw [List.getElem?_append_right (by simp [count, back.le]), List.length_map, count,
        show k - width.toNat = k - (width.toNat + 1) + 1 by omega, List.getElem?_cons_succ,
        List.getElem?_drop, show width.toNat + 1 + (k - (width.toNat + 1)) = k by omega]

theorem exchanges_createProxy (machine : Machine aximuxSignature KernelWorld) (devno : U32)
    (dev : Address) :
    ∃ reply rest, (createProxy devno dev).exchanges kernel machine =
        ⟨.deviceCreateWithGroups devno dev
          (.aximuxInstAttrGroups (List.ofFn machine.memory.aximuxAttrs))
          (machine.memory.availableInstances - 1), reply⟩ :: rest ∧
      (rest = [] ∨ rest = [⟨.platformSetDrvdata dev, ()⟩, ⟨.setNodeData dev, ()⟩]) := by
  cases created : machine.world.deviceCreate devno with
  | error err =>
      refine ⟨.error err, [], ?_, Or.inl rfl⟩
      simp [createProxy, kernelCall, field, Program.bind, exchanges, kernel, KernelWorld.respond,
        created]
  | ok _ =>
      refine ⟨.ok machine.world.shared.next, _, ?_, Or.inr rfl⟩
      simp [createProxy, kernelCall, field, Program.modify, Program.bind, exchanges, kernel,
        KernelWorld.respond, created]

/-- What a probe has asked for before it takes a number. -/
theorem exchanges_aximuxProbe_offered (fresh : machine.world.allocations = 0)
    (offered : offeredWidth machine.world.answers = some width) :
    aximuxProbe.exchanges kernel machine =
      [⟨.devmKzalloc .instanceData, some machine.world.shared.next⟩,
        ⟨.devmIoremapResource, .ok ()⟩, ⟨.ofPropertyReadU32 "xlnx,input-w", .ok width⟩] ++
      (registerInstance machine.memory.availableInstances machine.world.shared.next).exchanges
        kernel ⟨machine.memory.setDevice machine.world.shared.next ⟨width, 0, none⟩,
          machine.world.granted 1⟩ := by
  obtain ⟨allocated, mapped, read⟩ := offeredWidth_eq_some.mp offered
  rw [← fresh] at allocated
  simp only [aximuxProbe, bind_eq, field, kernelCall, Program.modify, Program.bind, exchanges,
    kernel, KernelWorld.respond, KernelWorld.afterAllocation, allocated, mapped, read, if_true,
    AximuxModule.setDevice, Function.update_self, Function.update_idem, AximuxDevice.zeroed,
    KernelWorld.granted, List.cons_append, List.nil_append]

theorem exchanges_takeNumber (dev : Address) :
    (takeNumber dev).exchanges kernel machine = [] := by
  simp only [takeNumber, bind_eq, field, Program.modify, element, Program.bind, exchanges, id]
  split <;> rfl

/-- What a probe has asked for when its number is taken and its loop is over. -/
theorem exchanges_aximuxProbe_of_reaches (fresh : machine.world.allocations = 0)
    (reaches : ReachesCreate machine.memory machine.world width) :
    aximuxProbe.exchanges kernel machine =
      [⟨.devmKzalloc .instanceData, some machine.world.shared.next⟩,
        ⟨.devmIoremapResource, .ok ()⟩, ⟨.ofPropertyReadU32 "xlnx,input-w", .ok width⟩] ++
      ((populateAttributes 0 width.toNat).exchanges kernel
          ⟨enrolled machine.memory machine.world.shared.next width
            ⟨machine.memory.availableInstances.toNat, reaches.slot⟩, machine.world.granted 1⟩ ++
        (createProxy machine.memory.availableInstances machine.world.shared.next).exchanges kernel
          ⟨registered machine.memory machine.world.shared.next width
              ⟨machine.memory.availableInstances.toNat, reaches.slot⟩,
            machine.world.granted (1 + 2 * width.toNat)⟩) := by
  have loops := (KernelWorld.grants_add.mp reaches.grants).2
  rw [exchanges_aximuxProbe_offered fresh reaches.offered, registerInstance, bind_eq,
    exchanges_bind, exchanges_takeNumber, exec_takeNumber reaches.slot, followedBy,
    List.nil_append]
  simp only [bind_eq, field, Program.bind, exchanges, id, enrolled, Function.update_self]
  rw [exchanges_bind,
    exec_populateAttributes loops (by rw [Nat.zero_add]; exact reaches.table), followedBy,
    KernelWorld.granted_granted]
  rfl

theorem not_created_early (fresh : machine.world.allocations = 0)
    (early : offeredWidth machine.world.answers = none) {exchange : Exchange aximuxSignature}
    (sent : exchange ∈ aximuxProbe.exchanges kernel machine) (minor : U32) (drvdata : Address)
    (groups : AttributeGroups) (number : U32) :
    exchange.request ≠ .deviceCreateWithGroups minor drvdata groups number := by
  cases allocated : machine.world.answers.allocates machine.world.allocations with
  | false =>
      simp only [aximuxProbe, bind_eq, pure_eq_done, field, kernelCall, Program.bind,
        exchanges, kernel, KernelWorld.respond, allocated, Bool.false_eq_true, if_false,
        List.mem_singleton] at sent
      rw [sent]
      simp
  | true =>
      cases mapped : machine.world.answers.ioremap with
      | error err =>
          simp only [aximuxProbe, bind_eq, pure_eq_done, field, kernelCall, Program.modify,
            Program.bind, exchanges, kernel, KernelWorld.respond,
            KernelWorld.afterAllocation, allocated, mapped, if_true, List.mem_cons,
            List.not_mem_nil, or_false] at sent
          rcases sent with rfl | rfl <;> simp
      | ok _ =>
          cases read : machine.world.answers.propertyU32 "xlnx,input-w" with
          | error err =>
              simp only [aximuxProbe, bind_eq, pure_eq_done, field, kernelCall,
                Program.modify, Program.bind, exchanges, kernel, KernelWorld.respond,
                KernelWorld.afterAllocation, allocated, mapped, read, if_true, List.mem_cons,
                List.not_mem_nil, or_false] at sent
              rcases sent with rfl | rfl | rfl <;> simp
          | ok width =>
              rw [fresh] at allocated
              rw [offeredWidth_eq_some.mpr ⟨allocated, mapped, read⟩] at early
              exact absurd early (by simp)

/-- A probe that breaks down or fails before it creates its class device. -/
theorem not_created_of_not_reaches (fresh : machine.world.allocations = 0)
    (stuck : ∀ width, ¬ReachesCreate machine.memory machine.world width)
    {exchange : Exchange aximuxSignature}
    (sent : exchange ∈ aximuxProbe.exchanges kernel machine) (minor : U32) (drvdata : Address)
    (groups : AttributeGroups) (number : U32) :
    exchange.request ≠ .deviceCreateWithGroups minor drvdata groups number := by
  cases offered : offeredWidth machine.world.answers with
  | none => exact not_created_early fresh offered sent minor drvdata groups number
  | some width =>
      rw [exchanges_aximuxProbe_offered fresh offered] at sent
      rcases List.mem_append.mp sent with early | late
      · simp only [List.mem_cons, List.not_mem_nil, or_false] at early
        rcases early with rfl | rfl | rfl <;> simp
      · rw [registerInstance, bind_eq, exchanges_bind, exchanges_takeNumber, List.nil_append]
          at late
        by_cases slot : machine.memory.availableInstances.toNat < aximuxMaxInstances
        · rw [exec_takeNumber slot, followedBy] at late
          simp only [bind_eq, field, Program.bind, exchanges, id, enrolled,
            Function.update_self] at late
          rw [exchanges_bind, followedBy_undefined, List.append_nil] at late
          · obtain ⟨block, same⟩ :=
              exchanges_within (within_populateAttributes 0 width.toNat) late
            rw [same]
            simp
          · exact loop_undefined fresh offered slot (stuck width) _
        · rw [followedBy_undefined] at late
          · exact absurd late List.not_mem_nil
          · exact exec_takeNumber_undefined slot

/-- The attributes of one probe, as blocks that it asked for. -/
theorem attributeBlocks_aximuxProbe (fresh : machine.world.allocations = 0)
    (reaches : ReachesCreate machine.memory machine.world width) :
    attributeBlocks (aximuxProbe.exchanges kernel machine) =
      (createdAttributes (machine.world.shared.next + 1) 0 width.toNat).map
        DeviceAttribute.address := by
  have loops := (KernelWorld.grants_add.mp reaches.grants).2
  obtain ⟨reply, rest, creates, quiet⟩ := exchanges_createProxy
    ⟨registered machine.memory machine.world.shared.next width
        ⟨machine.memory.availableInstances.toNat, reaches.slot⟩,
      machine.world.granted (1 + 2 * width.toNat)⟩
    machine.memory.availableInstances machine.world.shared.next
  rw [exchanges_aximuxProbe_of_reaches fresh reaches, attributeBlocks_append,
    attributeBlocks_append, creates,
    attributeBlocks_populateAttributes loops (by rw [Nat.zero_add]; exact reaches.table)]
  rcases quiet with rfl | rfl <;> exact List.append_nil _

theorem registered_table (data : AximuxModule) (dev : Address) (width : U32)
    (number : Fin aximuxMaxInstances) (slot : Fin aximuxAttrsSize) :
    (registered data dev width number).aximuxAttrs slot =
      if slot.val < width.toNat then (createdAttributes (dev + 1) 0 width.toNat)[slot.val]?
      else data.aximuxAttrs slot := by
  rw [registered, writeAttributes_table, createdAttributes_length]
  simp [enrolled]

/-- The probe hands its table over once, and as it is after the loop. -/
theorem handed_of_reaches (machine : Machine aximuxSignature KernelWorld)
    (fresh : machine.world.allocations = 0)
    (reaches : ReachesCreate machine.memory machine.world width) :
    (∃ exchange ∈ aximuxProbe.exchanges kernel machine, ∃ minor drvdata number,
      exchange.request = .deviceCreateWithGroups minor drvdata (.aximuxInstAttrGroups
        (List.ofFn (registered machine.memory machine.world.shared.next width
          ⟨machine.memory.availableInstances.toNat, reaches.slot⟩).aximuxAttrs)) number) ∧
    ∀ exchange ∈ aximuxProbe.exchanges kernel machine, ∀ minor drvdata attrs number,
      exchange.request = .deviceCreateWithGroups minor drvdata (.aximuxInstAttrGroups attrs)
        number →
      attrs = List.ofFn (registered machine.memory machine.world.shared.next width
        ⟨machine.memory.availableInstances.toNat, reaches.slot⟩).aximuxAttrs := by
  obtain ⟨reply, rest, creates, quiet⟩ := exchanges_createProxy
    ⟨registered machine.memory machine.world.shared.next width
        ⟨machine.memory.availableInstances.toNat, reaches.slot⟩,
      machine.world.granted (1 + 2 * width.toNat)⟩
    machine.memory.availableInstances machine.world.shared.next
  rw [exchanges_aximuxProbe_of_reaches fresh reaches, creates]
  constructor
  · refine ⟨_, List.mem_append_right _ (List.mem_append_right _ List.mem_cons_self), ?_⟩
    exact ⟨_, _, _, rfl⟩
  · intro exchange sent minor drvdata attrs number request
    rcases List.mem_append.mp sent with early | late
    · simp only [List.mem_cons, List.not_mem_nil, or_false] at early
      rcases early with rfl | rfl | rfl <;> exact absurd request (by simp)
    · rcases List.mem_append.mp late with loop | proxy
      · obtain ⟨block, same⟩ := exchanges_within (within_populateAttributes 0 width.toNat) loop
        exact absurd (same.symm.trans request) (by simp)
      · rcases List.mem_cons.mp proxy with rfl | last
        · simp only [KernelCall.deviceCreateWithGroups.injEq,
            AttributeGroups.aximuxInstAttrGroups.injEq] at request
          exact request.2.2.1.symm
        · rcases quiet with rfl | rfl
          · exact absurd last List.not_mem_nil
          · simp only [List.mem_cons, List.not_mem_nil, or_false] at last
            rcases last with rfl | rfl <;> exact absurd request (by simp)

end Handover

/-- A probe that runs its loop to the end of the table, or its own, finds the
position after its entries inside the table and empty. -/
def FindsRoom (state : PlatformState) (event : PlatformEvent) : Prop :=
  ∀ width, Populates state event width → ∃ inside : width.toNat < aximuxAttrsSize,
    state.aximux.memory.aximuxAttrs ⟨width.toNat, inside⟩ = none

theorem reachesCreate_of_populates {state : PlatformState} {event : PlatformEvent} {width : U32}
    (populates : Populates state event width) (table : width.toNat ≤ aximuxAttrsSize) :
    ReachesCreate state.aximux.memory
      ⟨event.pdev, event.answers, 0, 0, state.aximux.devices, state.shared⟩ width := by
  refine ⟨populates.offered, populates.slot, table, fun k bound => ?_⟩
  rw [Nat.zero_add]
  apply populates.grants
  omega

theorem populates_of_reachesCreate {state : PlatformState} {event : PlatformEvent} {width : U32}
    (probes : Probes state event)
    (reaches : ReachesCreate state.aximux.memory
      ⟨event.pdev, event.answers, 0, 0, state.aximux.devices, state.shared⟩ width) :
    Populates state event width := by
  refine ⟨probes, reaches.offered, reaches.slot, fun k bound => ?_⟩
  have granted := reaches.grants k (by omega)
  rw [Nat.zero_add] at granted
  exact granted

/-- With room for the end of its list, a probe of any width stays inside the table:
one that is too wide breaks down before it leaves it. -/
theorem inside_of_room {state : PlatformState} {event : PlatformEvent}
    (room : FindsRoom state event) (probes : Probes state event)
    {used : aximuxSignature.Region × Nat}
    (accessed : used ∈ aximuxProbe.accesses kernel (entry state.aximux state.shared event))
    (table : used.1 = .array .aximuxAttrs) : used.2 < aximuxAttrsSize := by
  cases offered : offeredWidth event.answers with
  | none =>
      rw [accesses_aximuxProbe_early rfl offered] at accessed
      exact absurd accessed List.not_mem_nil
  | some width =>
      rw [accesses_aximuxProbe_offered rfl offered] at accessed
      cases accessed with
      | head => exact absurd table (by simp)
      | tail _ later =>
          by_cases slot : state.aximux.memory.availableInstances.toNat < aximuxMaxInstances
          · rw [dif_pos slot] at later
            by_cases fits : width.toNat ≤ aximuxAttrsSize
            · have bound := accesses_within (within_populateAttributes 0 width.toNat) later
              rw [table] at bound
              have below : used.2 < 0 + width.toNat := by simpa [loopEffects] using bound
              omega
            · apply accesses_populateAttributes_denied _ (Nat.zero_le _) later table
              intro grants
              have populates : Populates state event width := by
                refine ⟨probes, offered, slot, fun k bound => ?_⟩
                cases k with
                | zero => exact (offeredWidth_eq_some.mp offered).1
                | succ k =>
                    have granted : event.answers.allocates (0 + 1 + k) = true :=
                      grants k (by omega)
                    rw [show 0 + 1 + k = k + 1 by omega] at granted
                    exact granted
              obtain ⟨inside, _⟩ := room width populates
              omega
          · rw [dif_neg slot] at later
            exact absurd later List.not_mem_nil

theorem handsOwnAttributes_of_room {state : PlatformState} {event : PlatformEvent}
    (room : FindsRoom state event) : HandsOwnAttributes state event where
  inside := fun probes _ accessed table => inside_of_room room probes accessed table
  handed := by
    intro probes exchange sent minor drvdata attrs number request width read
    by_cases reached : ∃ width, ReachesCreate state.aximux.memory
        ⟨event.pdev, event.answers, 0, 0, state.aximux.devices, state.shared⟩ width
    · obtain ⟨reachedWidth, reaches⟩ := reached
      have same : reachedWidth = width := by
        have answered := (offeredWidth_eq_some.mp reaches.offered).2.2
        exact Except.ok.inj (answered.symm.trans read)
      subst same
      obtain ⟨_, only⟩ := handed_of_reaches
        (entry state.aximux state.shared event) rfl reaches
      rw [only exchange sent minor drvdata attrs number request,
        attributeBlocks_aximuxProbe rfl reaches]
      apply (ownAttributes_iff (createdAttributes_length _ _ _) (registered_table _ _ _ _)).mpr
      exact room _ (populates_of_reachesCreate probes reaches)
    · apply absurd request
      apply not_created_of_not_reaches rfl _ sent
      intro width reaches
      exact reached ⟨width, reaches⟩

theorem room_of_handsOwnAttributes {state : PlatformState} {event : PlatformEvent}
    (hands : HandsOwnAttributes state event) : FindsRoom state event := by
  intro width populates
  by_cases fits : width.toNat ≤ aximuxAttrsSize
  · have reaches := reachesCreate_of_populates populates fits
    obtain ⟨⟨exchange, sent, minor, drvdata, number, request⟩, _⟩ :=
      handed_of_reaches
        (entry state.aximux state.shared event) rfl reaches
    have own := hands.handed populates.probes exchange sent minor drvdata _ number request width
      (offeredWidth_eq_some.mp reaches.offered).2.2
    rw [attributeBlocks_aximuxProbe rfl reaches] at own
    exact (ownAttributes_iff (createdAttributes_length _ _ _) (registered_table _ _ _ _)).mp own
  · apply absurd (hands.inside populates.probes (.array .aximuxAttrs, aximuxAttrsSize) _ rfl)
      (lt_irrefl _)
    rw [accesses_aximuxProbe_offered rfl populates.offered, dif_pos populates.slot]
    apply List.mem_cons_of_mem
    apply accesses_populateAttributes_beyond _ (Nat.zero_le _) (by omega)
    intro k bound
    have granted := populates.grants (k + 1) (by omega)
    rw [show k + 1 = 0 + 1 + k by omega] at granted
    exact granted

theorem registered_isSome (data : AximuxModule) (dev : Address) (width : U32)
    (number : Fin aximuxMaxInstances) (slot : Fin aximuxAttrsSize) :
    ((registered data dev width number).aximuxAttrs slot).isSome =
      (decide (slot.val < width.toNat) || (data.aximuxAttrs slot).isSome) := by
  rw [registered_table]
  by_cases written : slot.val < width.toNat
  · rw [if_pos written, List.getElem?_eq_getElem (by rw [createdAttributes_length]; exact written)]
    simp [written]
  · simp [written]

/-- Requests, and changes that leave the table alone. -/
def removeEffects : Effects aximuxSignature where
  sends := fun _ => True
  changes := fun change => ∀ data, (change data).aximuxAttrs = data.aximuxAttrs
  visits := fun _ _ => True

theorem aximuxRemove_table (machine : Machine aximuxSignature KernelWorld) :
    (aximuxRemove.exec kernel machine).2.memory.aximuxAttrs = machine.memory.aximuxAttrs := by
  have within : aximuxRemove.Within removeEffects := by
    apply within_bind (within_kernelCall trivial)
    intro dev
    apply within_bind (within_modify fun _ => rfl)
    intro _
    apply within_bind (within_deref dev trivial)
    intro dev
    apply within_bind (within_field id)
    intro data
    apply within_bind (within_whenever (within_kernelCall trivial))
    intro _
    exact within_done 0
  apply exec_preserves (fun after : Machine aximuxSignature KernelWorld =>
    after.memory.aximuxAttrs = machine.memory.aximuxAttrs) within
  · intro call after _ same
    exact same
  · intro change after allowed same
    rw [← same]
    exact allowed after.memory
  · rfl

theorem filled_iff {state : PlatformState} {event : PlatformEvent} {width : U32}
    {slot : Fin aximuxAttrsSize} (probes : Probes state event)
    (reaches : ReachesCreate state.aximux.memory
      ⟨event.pdev, event.answers, 0, 0, state.aximux.devices, state.shared⟩ width) :
    (∃ other, Populates state event other ∧ slot.val < other.toNat) ↔
      slot.val < width.toNat := by
  constructor
  · rintro ⟨other, populates, below⟩
    have same : other = width :=
      Option.some.inj (populates.offered.symm.trans reaches.offered)
    rw [← same]
    exact below
  · intro below
    exact ⟨width, populates_of_reachesCreate probes reaches, below⟩

/-- A step writes the table up to the width of a probe that came through its loop,
and nothing else writes it. -/
theorem table_step {budget : Nat} {state next : PlatformState} {event : PlatformEvent}
    {code : Option Int} (stepped : (platform budget).step state event = some (code, next))
    (slot : Fin aximuxAttrsSize) :
    (next.aximux.memory.aximuxAttrs slot).isSome ↔
      (state.aximux.memory.aximuxAttrs slot).isSome ∨
        ∃ width, Populates state event width ∧ slot.val < width.toNat := by
  have unwritten : ¬Probes state event →
      ¬∃ width, Populates state event width ∧ slot.val < width.toNat := by
    rintro idle ⟨width, populates, _⟩
    exact idle populates.probes
  cases platformServing_of_step stepped with
  | aximux result kind serving returned after =>
      rw [after]
      cases serving with
      | ignored idle =>
          rw [or_iff_left]
          exact unwritten fun probes => probes.free (idle.mpr probes.action)
      | probed result machine action free ran =>
          rw [afterProbe_memory]
          cases probeReturns_of_exec rfl ran with
          | early err granted devices early older same memory kernel =>
              rw [memory, or_iff_left]
              rintro ⟨width, populates, _⟩
              exact absurd (early.symm.trans populates.offered) (by simp)
          | refused err width reaches refused same memory kernel =>
              rw [memory, registered_isSome, filled_iff ⟨action, kind, free⟩ reaches]
              simp [or_comm]
          | published width reaches created same memory kernel =>
              rw [memory, published, AximuxModule.setDevice, registered_isSome,
                filled_iff ⟨action, kind, free⟩ reaches]
              simp [or_comm]
      | removed result machine action bound ran =>
          have same := aximuxRemove_table (entry state.aximux state.shared event)
          rw [ran] at same
          rw [or_iff_left, ← same]
          · rfl
          · exact unwritten fun probes => absurd (probes.action.symm.trans action) (by simp)
  | pulsecap result kind serving returned after =>
      rw [after, or_iff_left]
      exact unwritten fun probes => absurd (probes.own.symm.trans kind) (by simp)
  | kswfloppy result kind serving returned after =>
      rw [after, or_iff_left]
      exact unwritten fun probes => absurd (probes.own.symm.trans kind) (by simp)

/-- An earlier event of the run was a probe that wrote the table beyond `slot`. -/
def WrittenBeyond (budget : Nat) (events : List PlatformEvent) (slot : Nat) : Prop :=
  ∃ front earlier back past width, events = front ++ earlier :: back ∧
    (platform budget).Reaches .initial front past ∧ Populates past earlier width ∧
      slot < width.toNat

theorem writtenBeyond_append {budget : Nat} {events : List PlatformEvent} {event : PlatformEvent}
    {state : PlatformState} {slot : Nat}
    (reached : (platform budget).Reaches .initial events state) :
    WrittenBeyond budget (events ++ [event]) slot ↔
      WrittenBeyond budget events slot ∨
        ∃ width, Populates state event width ∧ slot < width.toNat := by
  constructor
  · rintro ⟨front, earlier, back, past, width, same, reachedPast, populates, below⟩
    rcases List.eq_nil_or_concat back with rfl | ⟨others, last, rfl⟩
    · obtain ⟨rfl, sameEvent⟩ := List.append_inj' same rfl
      rw [(List.cons.inj sameEvent).1, Transducer.reaches_unique reached reachedPast]
      exact Or.inr ⟨width, populates, below⟩
    · rw [List.concat_eq_append, ← List.cons_append, ← List.append_assoc] at same
      obtain ⟨rfl, _⟩ := List.append_inj' same rfl
      exact Or.inl ⟨front, earlier, others, past, width, rfl, reachedPast, populates, below⟩
  · rintro (⟨front, earlier, back, past, width, rfl, reachedPast, populates, below⟩ |
      ⟨width, populates, below⟩)
    · refine ⟨front, earlier, back ++ [event], past, width, ?_, reachedPast, populates, below⟩
      rw [List.append_assoc, List.cons_append]
    · exact ⟨events, event, [], state, width, rfl, reached, populates, below⟩

/-- The entries of the table that are not empty are those that some probe of the
run has written. -/
theorem table_written_iff {budget : Nat} {events : List PlatformEvent} {state : PlatformState}
    (reached : (platform budget).Reaches .initial events state) (slot : Fin aximuxAttrsSize) :
    (state.aximux.memory.aximuxAttrs slot).isSome ↔ WrittenBeyond budget events slot := by
  induction events using List.reverseRecOn generalizing state with
  | nil =>
      rw [(Transducer.reaches_nil _ _).mp reached]
      constructor
      · intro filled
        exact absurd filled (by simp [PlatformState.initial, AximuxModule.initial])
      · rintro ⟨front, earlier, back, past, width, same, _⟩
        exact absurd same.symm (by simp)
  | append_singleton front event ih =>
      obtain ⟨middle, reachedFront, last⟩ := (Transducer.reaches_append _ _ _ _).mp reached
      obtain ⟨code, stepped⟩ := (Transducer.reaches_singleton _ _ _).mp last
      rw [table_step stepped slot, writtenBeyond_append reachedFront, ih reachedFront]

/-- A single probe of the width that the board's multiplexers have: its list has
no end inside the table. -/
theorem full_table_unterminated :
    ¬(platform 0).EveryStep HandsOwnAttributes .initial
      [⟨.probe, ⟨.aximux, 0⟩, obliging 8⟩] := by
  intro steps
  have hands := (Transducer.everyStep_cons.mp steps).1
  obtain ⟨inside, _⟩ := room_of_handsOwnAttributes hands 8
    ⟨⟨rfl, rfl, by decide⟩, rfl, by decide, fun _ _ => rfl⟩
  exact absurd inside (by decide)

/-- Every probe hands over its own attributes in exactly the runs in which the
widths ascend below the size of the table. -/
theorem own_attributes_iff (budget : Nat) (events : List PlatformEvent) :
    (platform budget).EveryStep HandsOwnAttributes .initial events ↔
      WidthsAscend budget events := by
  constructor
  · intro hands before event rest state same reached width populates
    obtain ⟨inside, empty⟩ :=
      room_of_handsOwnAttributes (hands before event rest state same reached) width populates
    refine ⟨inside, fun front earlier back past other split reachedPast filled => ?_⟩
    by_contra wider
    have written : WrittenBeyond budget before width.toNat :=
      ⟨front, earlier, back, past, other, split, reachedPast, filled,
        BitVec.lt_def.mp (BitVec.not_le.mp wider)⟩
    have some := (table_written_iff reached ⟨width.toNat, inside⟩).mpr written
    rw [empty] at some
    exact absurd some (by simp)
  · intro ascend before event rest state same reached
    apply handsOwnAttributes_of_room
    intro width populates
    obtain ⟨inside, narrower⟩ := ascend before event rest state same reached width populates
    refine ⟨inside, ?_⟩
    by_contra filled
    obtain ⟨front, earlier, back, past, other, split, reachedPast, wide, below⟩ :=
      (table_written_iff reached ⟨width.toNat, inside⟩).mp (Option.isSome_iff_ne_none.mpr filled)
    have fits := narrower front earlier back past other split reachedPast wide
    exact absurd (BitVec.le_def.mp fits) (not_le.mpr below)

end Ebaz4205.AximuxAttributes
