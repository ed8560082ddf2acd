import Ebaz4205.PlatformBindings

/-!
# What probe and remove of the pulse capture driver do

The executions of the two functions as equations between machines, like those of
the multiplexer driver.
-/

namespace Ebaz4205.PulsecapInstances

open DriverProgram DriverProgram.Program PulsecapDriver PlatformKernel PulsecapModule
open PlatformSystem PlatformFrames PlatformBindings

set_option autoImplicit false

/-- The checks before the instance is published all succeed. -/
structure ReachesPublish (answers : KernelAnswers) : Prop where
  allocated : answers.allocates 0 = true
  mapped : answers.ioremap = .ok ()
  interrupt : ∃ irqnum, answers.irqResource = some irqnum
  requested : answers.requestIrq = .ok ()

/-- The kernel's side when the new instance is driver data and node data. -/
def offeredWorld (world : KernelWorld) : KernelWorld :=
  ((world.granted 1).setDrvdata world.shared.next).setNodeData world.shared.next

/-- The state of the module after a probe that got its class device. -/
def published (data : PulsecapModuleData) (inst : Address) (slot : Fin maxPulsecapInstances) :
    PulsecapModuleData where
  instanceCount := data.instanceCount + 1
  instances := Function.update data.instances slot (some inst)
  captures := Function.update data.captures inst .zeroed

def publishedWorld (world : KernelWorld) (minor : U32) : KernelWorld :=
  (offeredWorld world).create minor ⟨minor, world.shared.next⟩

theorem probed_publishedWorld {world : KernelWorld} {minor : U32} {pdev : Node}
    (own : world.pdev = pdev) :
    probed pdev (publishedWorld world minor).shared = [⟨pdev, world.shared.next⟩] := by
  apply probed_of_drvdata
  rw [← own]
  exact Function.update_self _ _ _

variable {machine : Machine pulsecapModuleSignature KernelWorld}

theorem exec_publishInstance {data : PulsecapModuleData} {world : KernelWorld}
    (created : world.deviceCreate data.instanceCount = .ok ())
    (slot : data.instanceCount.toNat < maxPulsecapInstances) :
    (publishInstance data.instanceCount world.shared.next).exec kernel
        ⟨data.setCapture world.shared.next .zeroed, world.granted 1⟩ =
      (.returned 0, ⟨published data world.shared.next ⟨data.instanceCount.toNat, slot⟩,
        publishedWorld world data.instanceCount⟩) := by
  have still : (offeredWorld world).deviceCreate data.instanceCount = .ok () := created
  simp only [offeredWorld] at still
  simp only [publishInstance, bind_eq, pure_eq_done, kernelCall, field, Program.modify, element,
    Program.bind, exec, kernel, KernelWorld.respond, id, PulsecapModuleData.setCapture, still,
    dif_pos slot, PulsecapModuleData.setInstance, published, publishedWorld, offeredWorld]

theorem exec_publishInstance_refused {data : PulsecapModuleData} {world : KernelWorld} {err : Errno}
    (refused : world.deviceCreate data.instanceCount = .error err) :
    (publishInstance data.instanceCount world.shared.next).exec kernel
        ⟨data.setCapture world.shared.next .zeroed, world.granted 1⟩ =
      (.returned err.code, ⟨data.setCapture world.shared.next .zeroed, offeredWorld world⟩) := by
  have still : (offeredWorld world).deviceCreate data.instanceCount = .error err := refused
  simp only [offeredWorld] at still
  simp only [publishInstance, bind_eq, pure_eq_done, kernelCall, field, Program.bind, exec, kernel,
    KernelWorld.respond, id, PulsecapModuleData.setCapture, still, offeredWorld]

/-- The class device exists by the time the slot turns out to be missing. -/
theorem exec_publishInstance_crowded {data : PulsecapModuleData} {world : KernelWorld}
    (created : world.deviceCreate data.instanceCount = .ok ())
    (crowded : ¬data.instanceCount.toNat < maxPulsecapInstances) :
    ((publishInstance data.instanceCount world.shared.next).exec kernel
        ⟨data.setCapture world.shared.next .zeroed, world.granted 1⟩).1 = .undefined := by
  have still : (offeredWorld world).deviceCreate data.instanceCount = .ok () := created
  simp only [offeredWorld] at still
  simp only [publishInstance, bind_eq, kernelCall, field, element, Program.bind, exec, kernel,
    KernelWorld.respond, id, PulsecapModuleData.setCapture, still, dif_neg crowded]

theorem exec_probe_of_reaches (fresh : machine.world.allocations = 0)
    (reaches : ReachesPublish machine.world.answers) :
    eslPulsecapProbe.exec kernel machine =
      (publishInstance machine.memory.instanceCount machine.world.shared.next).exec kernel
        ⟨machine.memory.setCapture machine.world.shared.next .zeroed, machine.world.granted 1⟩ := by
  obtain ⟨allocated, mapped, ⟨irqnum, interrupt⟩, requested⟩ := reaches
  rw [← fresh] at allocated
  simp only [eslPulsecapProbe, bind_eq, kernelCall, field, Program.modify, Program.bind, exec,
    kernel, KernelWorld.respond, KernelWorld.afterAllocation, allocated, mapped, interrupt,
    requested, if_true, PulsecapModuleData.setCapture, KernelWorld.granted]

theorem accesses_probe_of_reaches (fresh : machine.world.allocations = 0)
    (reaches : ReachesPublish machine.world.answers) :
    eslPulsecapProbe.accesses kernel machine =
      (publishInstance machine.memory.instanceCount machine.world.shared.next).accesses kernel
        ⟨machine.memory.setCapture machine.world.shared.next .zeroed, machine.world.granted 1⟩ := by
  obtain ⟨allocated, mapped, ⟨irqnum, interrupt⟩, requested⟩ := reaches
  rw [← fresh] at allocated
  simp only [eslPulsecapProbe, bind_eq, kernelCall, field, Program.modify, Program.bind, accesses,
    kernel, KernelWorld.respond, KernelWorld.afterAllocation, allocated, mapped, interrupt,
    requested, if_true, PulsecapModuleData.setCapture, KernelWorld.granted]

/-- A probe that ends before it publishes the instance has done nothing that anyone
else can see. -/
theorem exec_probe_early (machine : Machine pulsecapModuleSignature KernelWorld)
    (fresh : machine.world.allocations = 0)
    (early : ¬ReachesPublish machine.world.answers) :
    ∃ code captures granted, eslPulsecapProbe.exec kernel machine =
        (.returned code, ⟨{ machine.memory with captures },
          machine.world.afterAllocation granted⟩) ∧
      code ≠ 0 ∧ eslPulsecapProbe.accesses kernel machine = [] := by
  cases allocated : machine.world.answers.allocates machine.world.allocations with
  | false =>
      refine ⟨enomem.code, machine.memory.captures, false, ?_, enomem.code_ne_zero, ?_⟩ <;>
        simp [eslPulsecapProbe, kernelCall, field, Program.bind, exec, accesses, kernel,
          KernelWorld.respond, allocated]
  | true =>
      cases mapped : machine.world.answers.ioremap with
      | error err =>
          refine ⟨err.code, Function.update machine.memory.captures machine.world.shared.next
            .zeroed, true, ?_, err.code_ne_zero, ?_⟩ <;>
            simp [eslPulsecapProbe, kernelCall, field, Program.modify, Program.bind, exec, accesses,
              kernel, KernelWorld.respond, KernelWorld.afterAllocation, allocated, mapped,
              PulsecapModuleData.setCapture]
      | ok _ =>
          refine ⟨-eio, Function.update machine.memory.captures machine.world.shared.next
            .zeroed, true, ?_, by decide, ?_⟩ <;>
          cases interrupt : machine.world.answers.irqResource with
          | none =>
              simp [eslPulsecapProbe, kernelCall, field, Program.modify, Program.bind, exec,
                accesses, kernel, KernelWorld.respond, KernelWorld.afterAllocation, allocated,
                mapped, interrupt, PulsecapModuleData.setCapture]
          | some irqnum =>
              cases requested : machine.world.answers.requestIrq with
              | error err =>
                  simp [eslPulsecapProbe, kernelCall, field, Program.modify, Program.bind, exec,
                    accesses, kernel, KernelWorld.respond, KernelWorld.afterAllocation, allocated,
                    mapped, interrupt, requested, PulsecapModuleData.setCapture]
              | ok _ =>
                  rw [fresh] at allocated
                  exact absurd ⟨allocated, mapped, ⟨irqnum, interrupt⟩, requested⟩ early

/-- The three ways in which a probe returns. -/
inductive ProbeReturns (data : PulsecapModuleData) (world : KernelWorld) (code : Int)
    (after : PulsecapModuleData) (afterWorld : KernelWorld) : Prop where
  | early (granted : Bool) (captures : Address → PulsecapData)
      (early : ¬ReachesPublish world.answers) (failed : code ≠ 0)
      (memory : after = { data with captures })
      (kernel : afterWorld = world.afterAllocation granted)
  | refused (err : Errno) (reaches : ReachesPublish world.answers)
      (refused : world.deviceCreate data.instanceCount = .error err) (returned : code = err.code)
      (memory : after = data.setCapture world.shared.next .zeroed)
      (kernel : afterWorld = offeredWorld world)
  | published (slot : data.instanceCount.toNat < maxPulsecapInstances)
      (reaches : ReachesPublish world.answers)
      (created : world.deviceCreate data.instanceCount = .ok ()) (returned : code = 0)
      (memory : after = published data world.shared.next ⟨data.instanceCount.toNat, slot⟩)
      (kernel : afterWorld = publishedWorld world data.instanceCount)

theorem probeReturns_of_exec {code : Int} {after : Machine pulsecapModuleSignature KernelWorld}
    (fresh : machine.world.allocations = 0)
    (ran : eslPulsecapProbe.exec kernel machine = (.returned code, after)) :
    ProbeReturns machine.memory machine.world code after.memory after.world := by
  by_cases reaches : ReachesPublish machine.world.answers
  · cases created : machine.world.deviceCreate machine.memory.instanceCount with
    | error err =>
        rw [exec_probe_of_reaches fresh reaches, exec_publishInstance_refused created,
          Prod.mk.injEq, Outcome.returned.injEq] at ran
        rw [← ran.1, ← ran.2]
        exact .refused err reaches created rfl rfl rfl
    | ok _ =>
        by_cases slot : machine.memory.instanceCount.toNat < maxPulsecapInstances
        · rw [exec_probe_of_reaches fresh reaches, exec_publishInstance created slot,
            Prod.mk.injEq, Outcome.returned.injEq] at ran
          rw [← ran.1, ← ran.2]
          exact .published slot reaches created rfl rfl rfl
        · have faulted := exec_publishInstance_crowded created slot
          rw [← exec_probe_of_reaches fresh reaches, ran] at faulted
          exact absurd faulted (by simp)
  · obtain ⟨returned, captures, granted, same, failed, _⟩ := exec_probe_early machine fresh reaches
    rw [same, Prod.mk.injEq, Outcome.returned.injEq] at ran
    rw [← ran.1, ← ran.2]
    exact .early granted captures reaches failed rfl rfl

theorem leavesNewInstance_eslPulsecapProbe : LeavesNewInstance eslPulsecapProbe := by
  intro driver shared event machine ran
  cases probeReturns_of_exec rfl ran with
  | early granted captures early failed memory kernel => exact absurd rfl failed
  | refused err reaches refused returned memory kernel =>
      exact absurd returned.symm err.code_ne_zero
  | published slot reaches created returned memory kernel =>
      rw [kernel]
      refine ⟨shared.next, Function.update_self _ _ _, le_refl _, ?_⟩
      exact Nat.lt_succ_of_le (Nat.le_add_right _ _)

theorem accesses_publishInstance {data : PulsecapModuleData} {world : KernelWorld} :
    (publishInstance data.instanceCount world.shared.next).accesses kernel
        ⟨data.setCapture world.shared.next .zeroed, world.granted 1⟩ =
      match world.deviceCreate data.instanceCount with
      | .error _ => []
      | .ok () => [(.array .instances, data.instanceCount.toNat)] := by
  cases created : world.deviceCreate data.instanceCount with
  | error err =>
      have still : (offeredWorld world).deviceCreate data.instanceCount = .error err := created
      simp only [offeredWorld] at still
      simp only [publishInstance, bind_eq, pure_eq_done, kernelCall, field, Program.bind, accesses,
        kernel, KernelWorld.respond, id, PulsecapModuleData.setCapture, still]
  | ok _ =>
      have still : (offeredWorld world).deviceCreate data.instanceCount = .ok () := created
      simp only [offeredWorld] at still
      simp only [publishInstance, bind_eq, pure_eq_done, kernelCall, field, Program.modify, element,
        Program.bind, accesses, kernel, KernelWorld.respond, id, PulsecapModuleData.setCapture,
        still]
      split <;> rfl

/-- What a remove leaves when the driver data of the device is `inst`. -/
theorem exec_eslPulsecapRemove (machine : Machine pulsecapModuleSignature KernelWorld)
    {inst : Address}
    (held : machine.world.shared.drvdata machine.world.pdev = some inst) :
    ∃ readings, eslPulsecapRemove.exec kernel machine =
      (.returned 0,
        ⟨{ machine.memory with instanceCount := machine.memory.instanceCount - 1 },
          { machine.world with readings }.destroy (machine.memory.instanceCount - 1)⟩) := by
  refine ⟨machine.world.readings + 4, ?_⟩
  simp [eslPulsecapRemove, disableInterrupts, disableInt0, disableInt1, stopTimer, regUpdate,
    regRead, regWrite, interpret, onInstance, kernelCall, deref, field, Program.modify,
    Program.bind, exec, kernel, KernelWorld.respond, KernelWorld.timer, KernelWorld.afterReading,
    held]

/-- The state after the remove of a live instance. -/
theorem step_remove_pulsecap (budget : Nat) {state : PlatformState} {event : PlatformEvent}
    {inst : Instance} (bindings : Bindings .pulsecap state.pulsecap state.shared)
    (action : event.action = .remove) (own : event.pdev.driver = .pulsecap)
    (live : inst ∈ state.pulsecap.live) (same : inst.pdev = event.pdev) :
    (platform budget).step state event = some (some 0, { state with
      pulsecap :=
        { memory := { state.pulsecap.memory with
            instanceCount := state.pulsecap.memory.instanceCount - 1 }
          devices := Function.update state.pulsecap.devices
            (state.pulsecap.memory.instanceCount - 1) none
          live := state.pulsecap.live.filter fun inst => inst.pdev ≠ event.pdev }
      shared := Shared.release state.shared event.pdev }) := by
  obtain ⟨readings, removed⟩ := exec_eslPulsecapRemove
    (entry state.pulsecap state.shared event) (bindings.held_of_pdev live same)
  exact step_pulsecap budget own (serve_remove action ⟨inst, live, same⟩ removed)

end Ebaz4205.PulsecapInstances
