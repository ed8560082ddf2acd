import Ebaz4205.PlatformSystem

/-!
# What the platform leaves alone

No call of a driver touches the driver data or the node data of a device other
than its own, or takes back an address; and an event for one driver leaves the
others as they are.
-/

namespace Ebaz4205.PlatformFrames

open DriverProgram DriverProgram.Program PartialRuns PulsecapDriver PlatformKernel AximuxDriver
open PulsecapModule KswfloppyModule PlatformSystem

set_option autoImplicit false

section Effects

variable {Array : Type} {length : Array → Nat} {Memory Value : Type}
  {effects : Effects (driverSignature Array length Memory)}

theorem within_kernelCall {call : KernelCall} (allowed : effects.sends call) :
    (kernelCall call).Within effects := ⟨allowed, fun _ => trivial⟩

theorem within_deref (pointer : Option Value) (allowed : effects.visits .nullPointer 0) :
    (deref pointer).Within effects := by
  cases pointer with
  | none => exact ⟨allowed, fun slot => slot.elim0⟩
  | some value => trivial

theorem within_element {name : Array} {position : Nat}
    (allowed : effects.visits (.array name) position) : (element name position).Within effects :=
  ⟨allowed, fun _ => trivial⟩

end Effects

/-- What a call of a driver can have done to the kernel's side. -/
structure Frames (before after : KernelWorld) : Prop where
  pdev : after.pdev = before.pdev
  answers : after.answers = before.answers
  next : before.shared.next ≤ after.shared.next
  drvdata : ∀ node, node ≠ before.pdev → after.shared.drvdata node = before.shared.drvdata node
  nodeData : ∀ node, node ≠ before.pdev → after.shared.nodeData node = before.shared.nodeData node

theorem Frames.refl (world : KernelWorld) : Frames world world :=
  ⟨rfl, rfl, le_refl _, fun _ _ => rfl, fun _ _ => rfl⟩

theorem Frames.trans {first second third : KernelWorld} (start : Frames first second)
    (rest : Frames second third) : Frames first third where
  pdev := rest.pdev.trans start.pdev
  answers := rest.answers.trans start.answers
  next := start.next.trans rest.next
  drvdata := by
    intro node other
    rw [rest.drvdata node (by rw [start.pdev]; exact other), start.drvdata node other]
  nodeData := by
    intro node other
    rw [rest.nodeData node (by rw [start.pdev]; exact other), start.nodeData node other]

theorem frames_respond (call : KernelCall) (world : KernelWorld) :
    Frames world (KernelWorld.respond call world).2 := by
  cases call with
  | devmKzalloc block =>
      refine ⟨rfl, rfl, ?_, fun _ _ => rfl, fun _ _ => rfl⟩
      simp only [KernelWorld.respond, KernelWorld.afterAllocation]
      split
      · exact Nat.le_succ _
      · exact le_refl _
  | platformSetDrvdata data =>
      exact ⟨rfl, rfl, le_refl _, fun node other => Function.update_of_ne other _ _, fun _ _ => rfl⟩
  | setNodeData data =>
      exact ⟨rfl, rfl, le_refl _, fun _ _ => rfl, fun node other => Function.update_of_ne other _ _⟩
  | deviceCreateWithGroups minor drvdata groups number =>
      simp only [KernelWorld.respond]
      split
      · exact Frames.refl world
      · exact ⟨rfl, rfl, Nat.le_succ _, fun _ _ => rfl, fun _ _ => rfl⟩
  | timer inst operation =>
      cases operation <;> exact ⟨rfl, rfl, le_refl _, fun _ _ => rfl, fun _ _ => rfl⟩
  | gpio inst operation =>
      cases operation <;> exact ⟨rfl, rfl, le_refl _, fun _ _ => rfl, fun _ _ => rfl⟩
  | _ => exact ⟨rfl, rfl, le_refl _, fun _ _ => rfl, fun _ _ => rfl⟩

theorem frames_exec {Array : Type} {length : Array → Nat} {Memory Result : Type}
    (program : Program (driverSignature Array length Memory) Result)
    (machine : Machine (driverSignature Array length Memory) KernelWorld) :
    Frames machine.world (program.exec kernel machine).2.world := by
  apply exec_preserves (fun after => Frames machine.world after.world)
    (within_unrestricted program)
  · intro call after _ framed
    exact framed.trans (frames_respond call after.world)
  · intro change after _ framed
    exact framed
  · exact Frames.refl machine.world

section Service

variable {Array : Type} {length : Array → Nat} {Memory : Type}
  {probe remove : Program (driverSignature Array length Memory) Int}
  {driver : DriverState Memory} {shared : Shared} {event : PlatformEvent}
  {result : Served Memory}

theorem served_eq_some {after : Int → Machine (driverSignature Array length Memory) KernelWorld →
      Served Memory}
    {execution : Outcome Int × Machine (driverSignature Array length Memory) KernelWorld}
    (returned : served after execution = some result) :
    ∃ code machine, execution = (.returned code, machine) ∧ result = after code machine := by
  obtain ⟨outcome, machine⟩ := execution
  cases outcome with
  | returned code => exact ⟨code, machine, rfl, (Option.some.inj returned).symm⟩
  | undefined => exact absurd returned (by simp [served])
  | unfinished => exact absurd returned (by simp [served])

theorem probed_of_drvdata {pdev : Node} {address : Address}
    (data : shared.drvdata pdev = some address) : probed pdev shared = [⟨pdev, address⟩] := by
  rw [probed, data]
  rfl

theorem afterProbe_code (driver : DriverState Memory) (pdev : Node) (code : Int)
    (machine : Machine (driverSignature Array length Memory) KernelWorld) :
    (afterProbe driver pdev code machine).code = some code := by
  rw [afterProbe]
  split <;> rfl

theorem afterProbe_memory (driver : DriverState Memory) (pdev : Node) (code : Int)
    (machine : Machine (driverSignature Array length Memory) KernelWorld) :
    (afterProbe driver pdev code machine).driver.memory = machine.memory := by
  rw [afterProbe]
  split <;> rfl

/-- The three things that can happen when an event is served. -/
inductive Serving (probe remove : Program (driverSignature Array length Memory) Int)
    (event : PlatformEvent) (driver : DriverState Memory) (shared : Shared) :
    Served Memory → Prop where
  | ignored (idle : driver.Bound event.pdev ↔ event.action = .probe) :
      Serving probe remove event driver shared ⟨none, driver, shared⟩
  | probed (code : Int) (machine : Machine (driverSignature Array length Memory) KernelWorld)
      (action : event.action = .probe) (free : ¬driver.Bound event.pdev)
      (ran : probe.exec kernel (entry driver shared event) = (.returned code, machine)) :
      Serving probe remove event driver shared (afterProbe driver event.pdev code machine)
  | removed (code : Int) (machine : Machine (driverSignature Array length Memory) KernelWorld)
      (action : event.action = .remove) (bound : driver.Bound event.pdev)
      (ran : remove.exec kernel (entry driver shared event) = (.returned code, machine)) :
      Serving probe remove event driver shared (afterRemove driver event.pdev code machine)

theorem serving_of_serve (answered : serve probe remove event driver shared = some result) :
    Serving probe remove event driver shared result := by
  rw [serve] at answered
  cases action : event.action with
  | probe =>
      simp only [action] at answered
      by_cases bound : driver.Bound event.pdev
      · rw [if_pos bound] at answered
        rw [← Option.some.inj answered]
        exact .ignored (by simp [bound, action])
      · rw [if_neg bound] at answered
        obtain ⟨code, machine, ran, same⟩ := served_eq_some answered
        rw [same]
        exact .probed code machine action bound ran
  | remove =>
      simp only [action] at answered
      by_cases bound : driver.Bound event.pdev
      · rw [if_pos bound] at answered
        obtain ⟨code, machine, ran, same⟩ := served_eq_some answered
        rw [same]
        exact .removed code machine action bound ran
      · rw [if_neg bound] at answered
        rw [← Option.some.inj answered]
        exact .ignored (by simp [bound, action])

theorem serve_probe (action : event.action = .probe) (free : ¬driver.Bound event.pdev)
    {code : Int} {machine : Machine (driverSignature Array length Memory) KernelWorld}
    (ran : probe.exec kernel (entry driver shared event) = (.returned code, machine)) :
    serve probe remove event driver shared =
      some (afterProbe driver event.pdev code machine) := by
  simp only [serve, action, if_neg free, ran, served]

theorem serve_remove (action : event.action = .remove) (bound : driver.Bound event.pdev)
    {code : Int} {machine : Machine (driverSignature Array length Memory) KernelWorld}
    (ran : remove.exec kernel (entry driver shared event) = (.returned code, machine)) :
    serve probe remove event driver shared =
      some (afterRemove driver event.pdev code machine) := by
  simp only [serve, action, if_pos bound, ran, served]

/-- What serving an event can have done to the shared state. -/
structure SharedFrames (pdev : Node) (before after : Shared) : Prop where
  next : before.next ≤ after.next
  drvdata : ∀ node, node ≠ pdev → after.drvdata node = before.drvdata node
  nodeData : ∀ node, node ≠ pdev → after.nodeData node = before.nodeData node

theorem sharedFrames_of_serving (serving : Serving probe remove event driver shared result) :
    SharedFrames event.pdev shared result.shared := by
  cases serving with
  | ignored idle => exact ⟨le_refl _, fun _ _ => rfl, fun _ _ => rfl⟩
  | probed code machine action free ran =>
      have framed := frames_exec probe (entry driver shared event)
      rw [ran] at framed
      rw [afterProbe]
      split
      · exact ⟨framed.next, framed.drvdata, framed.nodeData⟩
      · refine ⟨framed.next, fun node other => ?_, framed.nodeData⟩
        exact (Function.update_of_ne other _ _).trans (framed.drvdata node other)
  | removed code machine action bound ran =>
      have framed := frames_exec remove (entry driver shared event)
      rw [ran] at framed
      refine ⟨framed.next, fun node other => ?_, framed.nodeData⟩
      exact (Function.update_of_ne other _ _).trans (framed.drvdata node other)

end Service

/-- An event is served by the driver of its device; the other two keep their state. -/
inductive PlatformServing (budget : Nat) (state : PlatformState) (event : PlatformEvent)
    (code : Option Int) (next : PlatformState) : Prop where
  | aximux (result : Served AximuxModule) (kind : event.pdev.driver = .aximux)
      (serving : Serving aximuxProbe aximuxRemove event state.aximux state.shared result)
      (returned : code = result.code)
      (after : next = { state with aximux := result.driver, shared := result.shared })
  | pulsecap (result : Served PulsecapModuleData) (kind : event.pdev.driver = .pulsecap)
      (serving : Serving eslPulsecapProbe eslPulsecapRemove event state.pulsecap state.shared
        result)
      (returned : code = result.code)
      (after : next = { state with pulsecap := result.driver, shared := result.shared })
  | kswfloppy (result : Served KswfloppyMemory) (kind : event.pdev.driver = .kswfloppy)
      (serving : Serving (kswfloppyProbe budget) kswfloppyRemove event state.kswfloppy
        state.shared result)
      (returned : code = result.code)
      (after : next = { state with kswfloppy := result.driver, shared := result.shared })

theorem platformServing_of_step {budget : Nat} {state next : PlatformState}
    {event : PlatformEvent} {code : Option Int}
    (stepped : (platform budget).step state event = some (code, next)) :
    PlatformServing budget state event code next := by
  simp only [platform, platformStep] at stepped
  cases kind : event.pdev.driver with
  | aximux =>
      simp only [kind, Option.map_eq_some_iff, Prod.mk.injEq] at stepped
      obtain ⟨result, answered, returned, after⟩ := stepped
      exact .aximux result kind (serving_of_serve answered) returned.symm after.symm
  | pulsecap =>
      simp only [kind, Option.map_eq_some_iff, Prod.mk.injEq] at stepped
      obtain ⟨result, answered, returned, after⟩ := stepped
      exact .pulsecap result kind (serving_of_serve answered) returned.symm after.symm
  | kswfloppy =>
      simp only [kind, Option.map_eq_some_iff, Prod.mk.injEq] at stepped
      obtain ⟨result, answered, returned, after⟩ := stepped
      exact .kswfloppy result kind (serving_of_serve answered) returned.symm after.symm

section Steps

variable (budget : Nat) {state : PlatformState} {event : PlatformEvent}

theorem step_aximux {result : Served AximuxModule} (own : event.pdev.driver = .aximux)
    (answered : serve aximuxProbe aximuxRemove event state.aximux state.shared = some result) :
    (platform budget).step state event =
      some (result.code, { state with aximux := result.driver, shared := result.shared }) := by
  simp only [platform, platformStep, own, answered, Option.map_some]

theorem step_pulsecap {result : Served PulsecapModuleData} (own : event.pdev.driver = .pulsecap)
    (answered : serve eslPulsecapProbe eslPulsecapRemove event state.pulsecap state.shared =
      some result) :
    (platform budget).step state event =
      some (result.code, { state with pulsecap := result.driver, shared := result.shared }) := by
  simp only [platform, platformStep, own, answered, Option.map_some]

end Steps

end Ebaz4205.PlatformFrames
