import Ebaz4205.PlatformKernel

/-!
# Probe and remove of the pulse capture driver

The life of the instances of `pulsecap.c`: the table and the counter that all of
them share, and the two functions that the driver core calls. The functions of
one instance run here on the instance that the pointer names.
-/

namespace Ebaz4205.PulsecapModule

open DriverProgram DriverProgram.Program PulsecapDriver PlatformKernel

set_option autoImplicit false

def maxPulsecapInstances : Nat := 4

/-- `struct pulsecap_module_data` without the numbers that the module reserves
for its devices, and the instances that its table points to. -/
structure PulsecapModuleData where
  instanceCount : U32
  instances : Fin maxPulsecapInstances → Option Address
  captures : Address → PulsecapData

/-- The state that `esl_pulsecap_init` leaves. -/
def PulsecapModuleData.initial : PulsecapModuleData where
  instanceCount := 0
  instances := fun _ => none
  captures := fun _ => .zeroed

inductive PulsecapModuleArray where
  | instances
  | storedEdges
  deriving DecidableEq

abbrev PulsecapModuleArray.length : PulsecapModuleArray → Nat
  | .instances => maxPulsecapInstances
  | .storedEdges => pulsecapMaxCount

abbrev pulsecapModuleSignature : Signature :=
  driverSignature PulsecapModuleArray PulsecapModuleArray.length PulsecapModuleData

abbrev PulsecapModuleProgram := Program pulsecapModuleSignature

def PulsecapModuleData.setCapture (data : PulsecapModuleData) (inst : Address)
    (capture : PulsecapData) : PulsecapModuleData :=
  { data with captures := Function.update data.captures inst capture }

def PulsecapModuleData.setInstance (data : PulsecapModuleData)
    (slot : Fin maxPulsecapInstances) (inst : Address) : PulsecapModuleData :=
  { data with instances := Function.update data.instances slot (some inst) }

/-- The functions of one instance, on the registers and the memory of `inst`. -/
def onInstance (inst : Address) : Handler timerSignature pulsecapModuleSignature where
  send := fun operation => kernelCall (.timer inst operation)
  fetch := field fun data => data.captures inst
  update := fun change => modify fun data => data.setCapture inst (change (data.captures inst))
  locate := fun _ position => element PulsecapModuleArray.storedEdges position

def eslPulsecapRemove : PulsecapModuleProgram Int := do
  let inst ← kernelCall .platformGetDrvdata
  let inst ← deref inst
  disableInterrupts.interpret (onInstance inst)
  stopTimer.interpret (onInstance inst)
  let data ← field id
  kernelCall (.deviceDestroy (data.instanceCount - 1))
  modify fun data => { data with instanceCount := data.instanceCount - 1 }
  return 0

/-- The end of the probe, with the device number `devno` computed at its
beginning. -/
def publishInstance (devno : U32) (inst : Address) : PulsecapModuleProgram Int := do
  kernelCall (.platformSetDrvdata inst)
  kernelCall (.setNodeData inst)
  let data ← field id
  let dev ← kernelCall
    (.deviceCreateWithGroups devno inst .pulsecapAttrGroups data.instanceCount)
  match dev with
  | .error err => return err.code
  | .ok _ => do
      let slot ← element .instances data.instanceCount.toNat
      modify fun data => data.setInstance slot inst
      modify fun data => { data with instanceCount := data.instanceCount + 1 }
      return 0

def eslPulsecapProbe : PulsecapModuleProgram Int := do
  let devno ← field PulsecapModuleData.instanceCount
  let allocated ← kernelCall (.devmKzalloc .instanceData)
  match allocated with
  | none => return enomem.code
  | some inst => do
      modify fun data => data.setCapture inst .zeroed
      let mapped ← kernelCall .devmIoremapResource
      match mapped with
      | .error err => return err.code
      | .ok () => do
          let res ← kernelCall .platformGetIrqResource
          match res with
          | none => return -eio
          | some irqnum => do
              let requested ← kernelCall (.devmRequestIrq irqnum)
              match requested with
              | .error _ => return -eio
              | .ok () => publishInstance devno inst

end Ebaz4205.PulsecapModule
