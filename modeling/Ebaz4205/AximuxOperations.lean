import Mathlib.Data.BitVec
import Ebaz4205.PlatformBindings

/-!
# What the multiplexer driver's functions do

The execution of the attribute loop, of the probe and of the remove, as
equations between machines: which checks a probe passes decides where it ends,
and what it has written by then.
-/

namespace Ebaz4205.AximuxOperations

open DriverProgram DriverProgram.Program PulsecapDriver PlatformKernel AximuxDriver PlatformSystem
open PlatformFrames PlatformBindings

set_option autoImplicit false

section Register

/-- What `aximux_set_src` writes to the select register. -/
def selected (select : U32) (port : Nat) (value : Bool) : U32 :=
  ((select &&& ~~~.twoPow 32 port) ||| (if value then .twoPow 32 port else 0)) &&& aximuxSelMask

theorem getLsbD_selMask (bit : Nat) : aximuxSelMask.getLsbD bit = decide (bit < 8) := by
  have mask : aximuxSelMask = BitVec.ofNat 32 (2 ^ 8 - 1) := rfl
  rw [mask, BitVec.getLsbD_ofNat, Nat.testBit_two_pow_sub_one]
  by_cases small : bit < 8
  · simp [small, Nat.lt_trans small (by decide : 8 < 32)]
  · simp [small]

/-- Below the mask the bit of the port is replaced and no other changes. -/
theorem getLsbD_selected (select : U32) (port bit : Nat) (value : Bool) :
    (selected select port value).getLsbD bit =
      (decide (bit < 8) && if bit = port then value else select.getLsbD bit) := by
  rw [selected, BitVec.getLsbD_and, getLsbD_selMask, Bool.and_comm]
  by_cases small : bit < 8
  · have inWord : bit < 32 := by omega
    by_cases same : bit = port
    · subst same
      cases value <;> simp [inWord]
    · cases value <;> simp [inWord, same]
  · simp [small]

variable {Array : Type} {length : Array → Nat} {Memory : Type}
  {machine : Machine (driverSignature Array length Memory) KernelWorld}

theorem exec_aximuxSetSrc (dev : Address) (port source : U32) (inWord : port.toNat < 32) :
    (aximuxSetSrc (some dev) port source).exec kernel machine =
      (.returned (), { machine with
        world := machine.world.writeSelect dev
          (selected (machine.world.shared.select dev) port.toNat (source ≠ 0)) }) := by
  simp only [aximuxSetSrc, bind_eq, kernelCall, shiftedOne, Program.bind, exec, kernel,
    KernelWorld.respond, dif_pos inWord, selected, decide_eq_true_eq]

theorem accesses_aximuxSetSrc (dev : Address) (port source : U32) :
    (aximuxSetSrc (some dev) port source).accesses kernel machine =
      [(.wordBit, port.toNat)] := by
  by_cases inWord : port.toNat < 32
  · simp only [aximuxSetSrc, bind_eq, kernelCall, shiftedOne, Program.bind, accesses,
      dif_pos inWord]
  · simp only [aximuxSetSrc, bind_eq, kernelCall, shiftedOne, Program.bind, accesses,
      dif_neg inWord]

/-- A shift by the width of the word or more ends the execution. -/
theorem exec_aximuxSetSrc_undefined (dev : Address) (port source : U32)
    (outside : ¬port.toNat < 32) :
    ((aximuxSetSrc (some dev) port source).exec kernel machine).1 = .undefined := by
  simp only [aximuxSetSrc, bind_eq, kernelCall, shiftedOne, Program.bind, exec, dif_neg outside]

end Register

section Loop

/-- The table after the entries have been written from position `iter` on. -/
def writeAttributes (data : AximuxModule) (iter : Nat) : List DeviceAttribute → AximuxModule
  | [] => data
  | entry :: rest =>
      writeAttributes
        (if inside : iter < aximuxAttrsSize then data.setAttribute ⟨iter, inside⟩ entry else data)
        (iter + 1) rest

/-- The attributes that the loop makes from `iter` on, when the first block it is
given is at `next`: every other block is a name. -/
def createdAttributes (next : Address) (iter : Nat) : Nat → List DeviceAttribute
  | 0 => []
  | remaining + 1 => ⟨next, sourceName iter⟩ :: createdAttributes (next + 2) (iter + 1) remaining

variable {machine : Machine aximuxSignature KernelWorld} {iter remaining : Nat}

theorem exec_populateAttribute (grants : machine.world.Grants 2)
    (inside : iter < aximuxAttrsSize) :
    (populateAttribute iter).exec kernel machine =
      (.returned (), ⟨machine.memory.setAttribute ⟨iter, inside⟩
        ⟨machine.world.shared.next, sourceName iter⟩, machine.world.granted 2⟩) := by
  obtain ⟨first, second⟩ := KernelWorld.grants_two.mp grants
  simp only [populateAttribute, bind_eq, kernelCall, deref, element, Program.modify, Program.bind,
    exec, kernel, KernelWorld.respond, KernelWorld.afterAllocation, first, second, if_true,
    dif_pos inside, KernelWorld.granted]

theorem exec_populateAttribute_undefined
    (fails : ¬(machine.world.Grants 2 ∧ iter < aximuxAttrsSize)) :
    ((populateAttribute iter).exec kernel machine).1 = .undefined := by
  cases first : machine.world.answers.allocates machine.world.allocations with
  | false =>
      cases second : machine.world.answers.allocates (machine.world.allocations + 1) <;>
        simp [populateAttribute, kernelCall, deref, Program.bind, exec, kernel,
          KernelWorld.respond, KernelWorld.afterAllocation, first, second]
  | true =>
      cases second : machine.world.answers.allocates (machine.world.allocations + 1) with
      | false =>
          simp [populateAttribute, kernelCall, deref, Program.bind, exec, kernel,
            KernelWorld.respond, KernelWorld.afterAllocation, first, second]
      | true =>
          have outside : ¬iter < aximuxAttrsSize :=
            fun inside => fails ⟨KernelWorld.grants_two.mpr ⟨first, second⟩, inside⟩
          simp [populateAttribute, kernelCall, deref, element, Program.bind, exec, kernel,
            KernelWorld.respond, KernelWorld.afterAllocation, first, second, outside]

theorem exec_populateAttributes (grants : machine.world.Grants (2 * remaining))
    (inside : iter + remaining ≤ aximuxAttrsSize) :
    (populateAttributes iter remaining).exec kernel machine =
      (.returned (), ⟨writeAttributes machine.memory iter
        (createdAttributes machine.world.shared.next iter remaining),
        machine.world.granted (2 * remaining)⟩) := by
  induction remaining generalizing iter machine with
  | zero => rfl
  | succ remaining ih =>
      rw [show 2 * (remaining + 1) = 2 + 2 * remaining by omega] at grants ⊢
      obtain ⟨front, back⟩ := KernelWorld.grants_add.mp grants
      have here : iter < aximuxAttrsSize := by omega
      rw [populateAttributes, bind_eq, exec_bind, exec_populateAttribute front here,
        continueWith_returned, ih back (by omega), KernelWorld.granted_granted]
      simp only [createdAttributes, writeAttributes, dif_pos here]
      rfl

/-- A loop that cannot be completed ends in undefined behaviour. -/
theorem exec_populateAttributes_undefined
    (fails : ¬(machine.world.Grants (2 * remaining) ∧ iter + remaining ≤ aximuxAttrsSize))
    (started : iter ≤ aximuxAttrsSize) :
    ((populateAttributes iter remaining).exec kernel machine).1 = .undefined := by
  induction remaining generalizing iter machine with
  | zero => exact absurd ⟨fun k bound => absurd bound (by omega), started⟩ fails
  | succ remaining ih =>
      rw [populateAttributes, bind_eq]
      by_cases here : machine.world.Grants 2 ∧ iter < aximuxAttrsSize
      · rw [exec_bind, exec_populateAttribute here.1 here.2, continueWith_returned]
        apply ih _ here.2
        rintro ⟨back, inside⟩
        apply fails
        rw [show 2 * (remaining + 1) = 2 + 2 * remaining by omega]
        exact ⟨KernelWorld.grants_add.mpr ⟨here.1, back⟩, by omega⟩
      · exact exec_bind_undefined (exec_populateAttribute_undefined here) _

@[simp] theorem writeAttributes_driverInstances (data : AximuxModule) (iter : Nat)
    (entries : List DeviceAttribute) :
    (writeAttributes data iter entries).driverInstances = data.driverInstances := by
  induction entries generalizing data iter with
  | nil => rfl
  | cons entry rest ih =>
      rw [writeAttributes, ih]
      split <;> rfl

@[simp] theorem writeAttributes_availableInstances (data : AximuxModule) (iter : Nat)
    (entries : List DeviceAttribute) :
    (writeAttributes data iter entries).availableInstances = data.availableInstances := by
  induction entries generalizing data iter with
  | nil => rfl
  | cons entry rest ih =>
      rw [writeAttributes, ih]
      split <;> rfl

@[simp] theorem writeAttributes_devices (data : AximuxModule) (iter : Nat)
    (entries : List DeviceAttribute) :
    (writeAttributes data iter entries).devices = data.devices := by
  induction entries generalizing data iter with
  | nil => rfl
  | cons entry rest ih =>
      rw [writeAttributes, ih]
      split <;> rfl

end Loop

section Probe

/-- The width with which a probe comes to take its number; `none` when one of the
steps before that fails. -/
def offeredWidth (answers : KernelAnswers) : Option U32 :=
  if answers.allocates 0 then
    match answers.ioremap, answers.propertyU32 "xlnx,input-w" with
    | .ok (), .ok width => some width
    | _, _ => none
  else none

theorem offeredWidth_eq_some {answers : KernelAnswers} {width : U32} :
    offeredWidth answers = some width ↔
      answers.allocates 0 = true ∧ answers.ioremap = .ok () ∧
        answers.propertyU32 "xlnx,input-w" = .ok width := by
  rw [offeredWidth]
  cases answers.allocates 0 <;> cases answers.ioremap <;>
    cases answers.propertyU32 "xlnx,input-w" <;> simp

/-- The probe comes to create its class device: there is a slot for the instance,
a slot for every attribute, and memory for both. -/
structure ReachesCreate (data : AximuxModule) (world : KernelWorld) (width : U32) : Prop where
  offered : offeredWidth world.answers = some width
  slot : data.availableInstances.toNat < aximuxMaxInstances
  table : width.toNat ≤ aximuxAttrsSize
  grants : world.Grants (1 + 2 * width.toNat)

/-- The instance at `dev` with the next number, before its attributes are made. -/
def enrolled (data : AximuxModule) (dev : Address) (width : U32)
    (slot : Fin aximuxMaxInstances) : AximuxModule where
  driverInstances := Function.update data.driverInstances slot (some dev)
  availableInstances := data.availableInstances + 1
  aximuxAttrs := data.aximuxAttrs
  devices := Function.update data.devices dev ⟨width, data.availableInstances, none⟩

/-- The attributes are allocated right after the instance. -/
def registered (data : AximuxModule) (dev : Address) (width : U32)
    (slot : Fin aximuxMaxInstances) : AximuxModule :=
  writeAttributes (enrolled data dev width slot) 0 (createdAttributes (dev + 1) 0 width.toNat)

variable {machine : Machine aximuxSignature KernelWorld} {dev : Address} {width : U32}

theorem exec_takeNumber {data : AximuxModule} {world : KernelWorld}
    (slot : data.availableInstances.toNat < aximuxMaxInstances) :
    (takeNumber dev).exec kernel ⟨data.setDevice dev ⟨width, 0, none⟩, world⟩ =
      (.returned (), ⟨enrolled data dev width ⟨data.availableInstances.toNat, slot⟩, world⟩) := by
  simp only [takeNumber, bind_eq, field, Program.modify, element, Program.bind, exec, id,
    AximuxModule.setDevice, AximuxModule.setInstance, dif_pos slot, Function.update_self,
    Function.update_idem, enrolled]

theorem exec_takeNumber_undefined
    (crowded : ¬machine.memory.availableInstances.toNat < aximuxMaxInstances) :
    ((takeNumber dev).exec kernel machine).1 = .undefined := by
  simp only [takeNumber, bind_eq, field, Program.modify, element, Program.bind, exec, id,
    AximuxModule.setDevice, dif_neg crowded]

theorem exec_createProxy_refused {devno : U32} {err : Errno}
    (refused : machine.world.deviceCreate devno = .error err) :
    (createProxy devno dev).exec kernel machine = (.returned err.code, machine) := by
  simp only [createProxy, bind_eq, field, kernelCall, Program.bind, exec, kernel, id,
    KernelWorld.respond, refused, pure_eq_done]

theorem exec_createProxy {devno : U32} (created : machine.world.deviceCreate devno = .ok ()) :
    (createProxy devno dev).exec kernel machine =
      (.returned 0,
        ⟨machine.memory.setDevice dev { machine.memory.devices dev with
            proxyDev := some machine.world.shared.next },
          ((machine.world.create devno ⟨machine.memory.availableInstances - 1, dev⟩).setDrvdata
            dev).setNodeData dev⟩) := by
  simp only [createProxy, bind_eq, field, Program.modify, kernelCall, Program.bind, exec, kernel,
    id, KernelWorld.respond, created, pure_eq_done]

theorem exec_aximuxProbe_offered (fresh : machine.world.allocations = 0)
    (offered : offeredWidth machine.world.answers = some width) :
    aximuxProbe.exec kernel machine =
      (registerInstance machine.memory.availableInstances machine.world.shared.next).exec kernel
        ⟨machine.memory.setDevice machine.world.shared.next ⟨width, 0, none⟩,
          machine.world.granted 1⟩ := by
  obtain ⟨allocated, mapped, read⟩ := offeredWidth_eq_some.mp offered
  rw [← fresh] at allocated
  simp only [aximuxProbe, bind_eq, field, kernelCall, Program.modify, Program.bind, exec, kernel,
    KernelWorld.respond, KernelWorld.afterAllocation, allocated, mapped, read, if_true,
    AximuxModule.setDevice, Function.update_self, Function.update_idem, AximuxDevice.zeroed,
    KernelWorld.granted]

/-- A probe that fails before it takes a number has at most made an instance. -/
theorem exec_aximuxProbe_early (fresh : machine.world.allocations = 0)
    (early : offeredWidth machine.world.answers = none) :
    ∃ err granted devices, aximuxProbe.exec kernel machine =
        (.returned (Errno.code err), ⟨{ machine.memory with devices },
          machine.world.afterAllocation granted⟩) ∧
      ∀ address, address < machine.world.shared.next →
        devices address = machine.memory.devices address := by
  have zeroed_elsewhere : ∀ address, address < machine.world.shared.next →
      Function.update machine.memory.devices machine.world.shared.next AximuxDevice.zeroed address =
        machine.memory.devices address := by
    intro address older
    exact Function.update_of_ne older.ne _ _
  cases allocated : machine.world.answers.allocates machine.world.allocations with
  | false =>
      refine ⟨enomem, false, machine.memory.devices, ?_, fun _ _ => rfl⟩
      simp [aximuxProbe, field, kernelCall, Program.bind, exec, kernel, KernelWorld.respond,
        allocated]
  | true =>
      cases mapped : machine.world.answers.ioremap with
      | error err =>
          refine ⟨err, true, _, ?_, zeroed_elsewhere⟩
          simp [aximuxProbe, field, kernelCall, Program.modify, Program.bind, exec, kernel,
            KernelWorld.respond, allocated, mapped, KernelWorld.afterAllocation,
            AximuxModule.setDevice]
      | ok _ =>
          cases read : machine.world.answers.propertyU32 "xlnx,input-w" with
          | error err =>
              refine ⟨err, true, _, ?_, zeroed_elsewhere⟩
              simp [aximuxProbe, field, kernelCall, Program.modify, Program.bind, exec, kernel,
                KernelWorld.respond, allocated, mapped, read, KernelWorld.afterAllocation,
                AximuxModule.setDevice]
          | ok width =>
              rw [fresh] at allocated
              rw [offeredWidth_eq_some.mpr ⟨allocated, mapped, read⟩] at early
              exact absurd early (by simp)

theorem exec_aximuxProbe_of_reaches (fresh : machine.world.allocations = 0)
    (reaches : ReachesCreate machine.memory machine.world width) :
    aximuxProbe.exec kernel machine =
      (createProxy machine.memory.availableInstances machine.world.shared.next).exec kernel
        ⟨registered machine.memory machine.world.shared.next width
            ⟨machine.memory.availableInstances.toNat, reaches.slot⟩,
          machine.world.granted (1 + 2 * width.toNat)⟩ := by
  have loops := (KernelWorld.grants_add.mp reaches.grants).2
  rw [exec_aximuxProbe_offered fresh reaches.offered, registerInstance, bind_eq, exec_bind,
    exec_takeNumber reaches.slot, continueWith_returned, bind_eq, exec_field_bind, bind_eq,
    exec_bind]
  simp only [id, enrolled, Function.update_self]
  rw [exec_populateAttributes loops (by rw [Nat.zero_add]; exact reaches.table),
    continueWith_returned, KernelWorld.granted_granted]
  rfl

/-- With a slot for the instance, it is the loop that keeps a probe from its class
device. -/
theorem loop_undefined (fresh : machine.world.allocations = 0)
    (offered : offeredWidth machine.world.answers = some width)
    (slot : machine.memory.availableInstances.toNat < aximuxMaxInstances)
    (stuck : ¬ReachesCreate machine.memory machine.world width) (memory : AximuxModule) :
    ((populateAttributes 0 width.toNat).exec kernel ⟨memory, machine.world.granted 1⟩).1 =
      .undefined := by
  apply exec_populateAttributes_undefined _ (Nat.zero_le _)
  rintro ⟨loops, table⟩
  apply stuck
  refine ⟨offered, slot, by rw [Nat.zero_add] at table; exact table, ?_⟩
  refine KernelWorld.grants_add.mpr ⟨fun k bound => ?_, loops⟩
  rw [fresh, show 0 + k = 0 by omega]
  exact (offeredWidth_eq_some.mp offered).1

/-- Too many instances, too many attributes, or no memory for one of them. -/
theorem exec_aximuxProbe_undefined (fresh : machine.world.allocations = 0)
    (offered : offeredWidth machine.world.answers = some width)
    (stuck : ¬ReachesCreate machine.memory machine.world width) :
    (aximuxProbe.exec kernel machine).1 = .undefined := by
  rw [exec_aximuxProbe_offered fresh offered, registerInstance, bind_eq]
  by_cases slot : machine.memory.availableInstances.toNat < aximuxMaxInstances
  · rw [exec_bind, exec_takeNumber slot, continueWith_returned, bind_eq, exec_field_bind, bind_eq]
    simp only [id, enrolled, Function.update_self]
    exact exec_bind_undefined (loop_undefined fresh offered slot stuck _) _
  · apply exec_bind_undefined
    exact exec_takeNumber_undefined slot

/-- The state of the module after a probe that got its class device. -/
def published (data : AximuxModule) (dev : Address) (width : U32)
    (slot : Fin aximuxMaxInstances) (proxy : Address) : AximuxModule :=
  (registered data dev width slot).setDevice dev ⟨width, data.availableInstances, some proxy⟩

/-- The kernel's side after a probe that got its class device. -/
def publishedWorld (world : KernelWorld) (minor width : U32) : KernelWorld :=
  (((world.granted (1 + 2 * width.toNat)).create minor ⟨minor, world.shared.next⟩).setDrvdata
    world.shared.next).setNodeData world.shared.next

theorem probed_publishedWorld {world : KernelWorld} {minor width : U32} {pdev : Node}
    (own : world.pdev = pdev) :
    probed pdev (publishedWorld world minor width).shared = [⟨pdev, world.shared.next⟩] := by
  apply probed_of_drvdata
  rw [← own]
  exact Function.update_self _ _ _

@[simp] theorem deviceCreate_granted (world : KernelWorld) (count : Nat) (minor : U32) :
    (world.granted count).deviceCreate minor = world.deviceCreate minor := rfl

theorem exec_aximuxProbe_refused (fresh : machine.world.allocations = 0)
    (reaches : ReachesCreate machine.memory machine.world width) {err : Errno}
    (refused : machine.world.deviceCreate machine.memory.availableInstances = .error err) :
    aximuxProbe.exec kernel machine =
      (.returned err.code,
        ⟨registered machine.memory machine.world.shared.next width
            ⟨machine.memory.availableInstances.toNat, reaches.slot⟩,
          machine.world.granted (1 + 2 * width.toNat)⟩) := by
  rw [exec_aximuxProbe_of_reaches fresh reaches, exec_createProxy_refused]
  rw [deviceCreate_granted]
  exact refused

theorem exec_aximuxProbe_published (fresh : machine.world.allocations = 0)
    (reaches : ReachesCreate machine.memory machine.world width)
    (created : machine.world.deviceCreate machine.memory.availableInstances = .ok ()) :
    aximuxProbe.exec kernel machine =
      (.returned 0,
        ⟨published machine.memory machine.world.shared.next width
            ⟨machine.memory.availableInstances.toNat, reaches.slot⟩
            (machine.world.shared.next + (1 + 2 * width.toNat)),
          publishedWorld machine.world machine.memory.availableInstances width⟩) := by
  rw [exec_aximuxProbe_of_reaches fresh reaches, exec_createProxy]
  · simp [published, publishedWorld, registered, enrolled, KernelWorld.granted]
  · rw [deviceCreate_granted]
    exact created

/-- The three ways in which a probe returns. -/
inductive ProbeReturns (data : AximuxModule) (world : KernelWorld) (code : Int)
    (after : AximuxModule) (afterWorld : KernelWorld) : Prop where
  | early (err : Errno) (granted : Bool) (devices : Address → AximuxDevice)
      (early : offeredWidth world.answers = none)
      (older : ∀ address, address < world.shared.next → devices address = data.devices address)
      (returned : code = err.code) (memory : after = { data with devices })
      (kernel : afterWorld = world.afterAllocation granted)
  | refused (err : Errno) (width : U32) (reaches : ReachesCreate data world width)
      (refused : world.deviceCreate data.availableInstances = .error err)
      (returned : code = err.code)
      (memory : after = registered data world.shared.next width
        ⟨data.availableInstances.toNat, reaches.slot⟩)
      (kernel : afterWorld = world.granted (1 + 2 * width.toNat))
  | published (width : U32) (reaches : ReachesCreate data world width)
      (created : world.deviceCreate data.availableInstances = .ok ())
      (returned : code = 0)
      (memory : after = published data world.shared.next width
        ⟨data.availableInstances.toNat, reaches.slot⟩ (world.shared.next + (1 + 2 * width.toNat)))
      (kernel : afterWorld = publishedWorld world data.availableInstances width)

theorem probeReturns_of_exec {code : Int} {after : Machine aximuxSignature KernelWorld}
    (fresh : machine.world.allocations = 0)
    (ran : aximuxProbe.exec kernel machine = (.returned code, after)) :
    ProbeReturns machine.memory machine.world code after.memory after.world := by
  cases offered : offeredWidth machine.world.answers with
  | none =>
      obtain ⟨err, granted, devices, same, older⟩ := exec_aximuxProbe_early fresh offered
      rw [same, Prod.mk.injEq, Outcome.returned.injEq] at ran
      rw [← ran.1, ← ran.2]
      exact .early err granted devices offered older rfl rfl rfl
  | some width =>
      by_cases reaches : ReachesCreate machine.memory machine.world width
      · cases created : machine.world.deviceCreate machine.memory.availableInstances with
        | error err =>
            rw [exec_aximuxProbe_refused fresh reaches created, Prod.mk.injEq,
              Outcome.returned.injEq] at ran
            rw [← ran.1, ← ran.2]
            exact .refused err width reaches created rfl rfl rfl
        | ok _ =>
            rw [exec_aximuxProbe_published fresh reaches created, Prod.mk.injEq,
              Outcome.returned.injEq] at ran
            rw [← ran.1, ← ran.2]
            exact .published width reaches created rfl rfl rfl
      · have faulted := exec_aximuxProbe_undefined fresh offered reaches
        rw [ran] at faulted
        exact absurd faulted (by simp)

theorem leavesNewInstance_aximuxProbe : LeavesNewInstance aximuxProbe := by
  intro driver shared event machine ran
  cases probeReturns_of_exec rfl ran with
  | early err granted devices early older returned memory kernel =>
      exact absurd returned.symm err.code_ne_zero
  | refused err width reaches refused returned memory kernel =>
      exact absurd returned.symm err.code_ne_zero
  | published width reaches created returned memory kernel =>
      rw [kernel]
      refine ⟨shared.next, Function.update_self _ _ _, le_refl _, ?_⟩
      exact Nat.lt_succ_of_le (Nat.le_add_right _ _)

end Probe

/-- What a remove leaves when the driver data of the device is `dev`. -/
theorem exec_aximuxRemove (machine : Machine aximuxSignature KernelWorld) {dev : Address}
    (held : machine.world.shared.drvdata machine.world.pdev = some dev) :
    aximuxRemove.exec kernel machine =
      (.returned 0,
        ⟨{ machine.memory with availableInstances := machine.memory.availableInstances - 1 },
          if (machine.memory.devices dev).proxyDev ≠ none then
            machine.world.destroy (machine.memory.devices dev).instanceNumber
          else machine.world⟩) := by
  by_cases unproxied : (machine.memory.devices dev).proxyDev = none
  · simp [aximuxRemove, kernelCall, Program.modify, field, deref, whenever, Program.bind, exec,
      kernel, KernelWorld.respond, held, unproxied]
  · simp [aximuxRemove, kernelCall, Program.modify, field, deref, whenever, Program.bind, exec,
      kernel, KernelWorld.respond, held, unproxied]

/-- The state after the remove of a live instance. -/
theorem step_remove_aximux (budget : Nat) {state : PlatformState} {event : PlatformEvent}
    {inst : Instance} (bindings : Bindings .aximux state.aximux state.shared)
    (action : event.action = .remove) (own : event.pdev.driver = .aximux)
    (live : inst ∈ state.aximux.live) (same : inst.pdev = event.pdev) :
    ∃ devices, (platform budget).step state event = some (some 0, { state with
      aximux :=
        { memory := { state.aximux.memory with
            availableInstances := state.aximux.memory.availableInstances - 1 }
          devices
          live := state.aximux.live.filter fun inst => inst.pdev ≠ event.pdev }
      shared := Shared.release state.shared event.pdev }) := by
  have removed := exec_aximuxRemove (entry state.aximux state.shared event)
    (bindings.held_of_pdev live same)
  by_cases proxied : (state.aximux.memory.devices inst.address).proxyDev ≠ none
  · rw [if_pos proxied] at removed
    exact ⟨_, step_aximux budget own (serve_remove action ⟨inst, live, same⟩ removed)⟩
  · rw [if_neg proxied] at removed
    exact ⟨_, step_aximux budget own (serve_remove action ⟨inst, live, same⟩ removed)⟩

section Accesses

variable {machine : Machine aximuxSignature KernelWorld} {width : U32}

/-- Allocations, changes of the table and uses of its positions below `bound`. -/
def loopEffects (bound : Nat) : Effects aximuxSignature where
  sends := fun call => ∃ block, call = .devmKzalloc block
  changes := fun change =>
    ∃ slot entry, change = fun data => AximuxModule.setAttribute data slot entry
  visits := fun region position =>
    region = .nullPointer ∨ region = .array .aximuxAttrs ∧ position < bound

theorem within_populateAttributes (iter remaining : Nat) :
    (populateAttributes iter remaining).Within (loopEffects (iter + remaining)) := by
  induction remaining generalizing iter with
  | zero => trivial
  | succ remaining ih =>
      apply within_bind
      · apply within_bind (within_kernelCall _)
        · intro srcAttr
          apply within_bind (within_kernelCall _)
          · intro attrName
            apply within_bind (within_deref attrName (Or.inl rfl))
            intro _
            apply within_bind (within_deref srcAttr (Or.inl rfl))
            intro srcAttr
            apply within_bind (within_element (Or.inr ⟨rfl, by omega⟩))
            intro slot
            exact within_modify ⟨slot, _, rfl⟩
          · exact ⟨_, rfl⟩
        · exact ⟨_, rfl⟩
      · intro _
        rw [show iter + (remaining + 1) = iter + 1 + remaining by omega]
        exact ih (iter + 1)

theorem accesses_createProxy (devno : U32) (dev : Address) :
    (createProxy devno dev).accesses kernel machine = [] := by
  cases created : machine.world.deviceCreate devno with
  | error err =>
      simp [createProxy, kernelCall, field, Program.bind, accesses, kernel, KernelWorld.respond,
        created]
  | ok _ =>
      simp [createProxy, kernelCall, field, Program.modify, Program.bind, accesses, kernel,
        KernelWorld.respond, created]

theorem accesses_aximuxProbe_early (fresh : machine.world.allocations = 0)
    (early : offeredWidth machine.world.answers = none) :
    aximuxProbe.accesses kernel machine = [] := by
  cases allocated : machine.world.answers.allocates machine.world.allocations with
  | false =>
      simp [aximuxProbe, field, kernelCall, Program.bind, accesses, kernel, KernelWorld.respond,
        allocated]
  | true =>
      cases mapped : machine.world.answers.ioremap with
      | error err =>
          simp [aximuxProbe, field, kernelCall, Program.modify, Program.bind, accesses, kernel,
            KernelWorld.respond, KernelWorld.afterAllocation, allocated, mapped]
      | ok _ =>
          cases read : machine.world.answers.propertyU32 "xlnx,input-w" with
          | error err =>
              simp [aximuxProbe, field, kernelCall, Program.modify, Program.bind, accesses, kernel,
                KernelWorld.respond, KernelWorld.afterAllocation, allocated, mapped, read]
          | ok width =>
              rw [fresh] at allocated
              rw [offeredWidth_eq_some.mpr ⟨allocated, mapped, read⟩] at early
              exact absurd early (by simp)

theorem accesses_takeNumber (dev : Address) :
    (takeNumber dev).accesses kernel machine =
      [(.array .driverInstances, machine.memory.availableInstances.toNat)] := by
  simp only [takeNumber, bind_eq, field, Program.modify, element, Program.bind, accesses, id,
    AximuxModule.setDevice]
  split <;> rfl

/-- A probe that takes a number uses the slot of that number and then, if there is
one, the attribute table. -/
theorem accesses_aximuxProbe_offered (fresh : machine.world.allocations = 0)
    (offered : offeredWidth machine.world.answers = some width) :
    aximuxProbe.accesses kernel machine =
      (.array .driverInstances, machine.memory.availableInstances.toNat) ::
        if slot : machine.memory.availableInstances.toNat < aximuxMaxInstances then
          (populateAttributes 0 width.toNat).accesses kernel
            ⟨enrolled machine.memory machine.world.shared.next width
              ⟨machine.memory.availableInstances.toNat, slot⟩, machine.world.granted 1⟩
        else [] := by
  obtain ⟨allocated, mapped, read⟩ := offeredWidth_eq_some.mp offered
  rw [← fresh] at allocated
  have started : aximuxProbe.accesses kernel machine =
      (registerInstance machine.memory.availableInstances machine.world.shared.next).accesses
        kernel ⟨machine.memory.setDevice machine.world.shared.next ⟨width, 0, none⟩,
          machine.world.granted 1⟩ := by
    simp only [aximuxProbe, bind_eq, field, kernelCall, Program.modify, Program.bind, accesses,
      kernel, KernelWorld.respond, KernelWorld.afterAllocation, allocated, mapped, read, if_true,
      AximuxModule.setDevice, Function.update_self, Function.update_idem, AximuxDevice.zeroed,
      KernelWorld.granted]
  rw [started, registerInstance, bind_eq, accesses_bind, accesses_takeNumber]
  by_cases slot : machine.memory.availableInstances.toNat < aximuxMaxInstances
  · rw [exec_takeNumber slot, dif_pos slot, followedBy]
    simp only [bind_eq, field, Program.bind, accesses, id, enrolled, Function.update_self]
    rw [accesses_bind, followedBy_nil fun _ _ => accesses_createProxy _ _, List.append_nil]
    rfl
  · rw [dif_neg slot, followedBy_undefined]
    · rfl
    · exact exec_takeNumber_undefined slot

end Accesses

end Ebaz4205.AximuxOperations
