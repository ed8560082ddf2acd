import Ebaz4205.DecimalText
import Ebaz4205.PlatformKernel

/-!
# The signal multiplexer driver

A transcription of the probe and remove functions of `aximux.c`, of its two
exported register functions and of the sysfs files built on them. The signal names
that the probe reads from the device tree are stored nowhere, since its destination
pointers are `NULL`, and only decide on a line of log output; they have no
counterpart.
-/

namespace Ebaz4205.AximuxDriver

open BitMask DecimalText DriverProgram DriverProgram.Program PulsecapDriver PlatformKernel

set_option autoImplicit false

def aximuxMaxInstances : Nat := 32

/-- The extent of `aximux_attrs`. -/
def aximuxAttrsSize : Nat := 8

def aximuxSelMask : U32 := 0xFF

/-- `struct aximux_device` without its registers and its parent device, and
without the fields that nothing reads. -/
structure AximuxDevice where
  inputWidth : U32
  instanceNumber : U32
  proxyDev : Option Address
  deriving DecidableEq

def AximuxDevice.zeroed : AximuxDevice := ⟨0, 0, none⟩

/-- `struct aximux_instance`, of which there is one, with the static attribute
table and the instances that the table of the source points to. -/
structure AximuxModule where
  driverInstances : Fin aximuxMaxInstances → Option Address
  availableInstances : U32
  aximuxAttrs : Fin aximuxAttrsSize → Option DeviceAttribute
  devices : Address → AximuxDevice

/-- The state that `aximux_init` leaves. -/
def AximuxModule.initial : AximuxModule where
  driverInstances := fun _ => none
  availableInstances := 0
  aximuxAttrs := fun _ => none
  devices := fun _ => .zeroed

inductive AximuxArray where
  | driverInstances
  | aximuxAttrs
  deriving DecidableEq

abbrev AximuxArray.length : AximuxArray → Nat
  | .driverInstances => aximuxMaxInstances
  | .aximuxAttrs => aximuxAttrsSize

abbrev aximuxSignature : Signature :=
  driverSignature AximuxArray AximuxArray.length AximuxModule

abbrev AximuxProgram := Program aximuxSignature

def AximuxModule.setDevice (data : AximuxModule) (dev : Address) (device : AximuxDevice) :
    AximuxModule :=
  { data with devices := Function.update data.devices dev device }

def AximuxModule.setInstance (data : AximuxModule) (slot : Fin aximuxMaxInstances)
    (dev : Address) : AximuxModule :=
  { data with driverInstances := Function.update data.driverInstances slot (some dev) }

def AximuxModule.setAttribute (data : AximuxModule) (slot : Fin aximuxAttrsSize)
    (entry : DeviceAttribute) : AximuxModule :=
  { data with aximuxAttrs := Function.update data.aximuxAttrs slot (some entry) }

/-- The name that `snprintf` leaves in a buffer of eight characters. -/
def sourceName (iter : Nat) : String :=
  .ofList (("source" ++ toString (BitVec.ofNat 32 iter).toInt).toList.take 7)

/-- One iteration of the loop that fills the attribute table. Neither allocation
is checked, and both blocks are written to. -/
def populateAttribute (iter : Nat) : AximuxProgram Unit := do
  let srcAttr ← kernelCall (.devmKzalloc .deviceAttribute)
  let attrName ← kernelCall (.devmKzalloc .attributeName)
  let _attrName ← deref attrName
  let srcAttr ← deref srcAttr
  let slot ← element .aximuxAttrs iter
  modify fun data => data.setAttribute slot ⟨srcAttr, sourceName iter⟩

/-- The loop from `iter` on. -/
def populateAttributes (iter : Nat) : Nat → AximuxProgram Unit
  | 0 => return ()
  | remaining + 1 => do
      populateAttribute iter
      populateAttributes (iter + 1) remaining

/-- The instance takes the next number and the slot of that number. -/
def takeNumber (dev : Address) : AximuxProgram Unit := do
  let data ← field id
  modify fun data => data.setDevice dev
    { data.devices dev with instanceNumber := data.availableInstances }
  let slot ← element .driverInstances data.availableInstances.toNat
  modify fun data => data.setInstance slot dev
  modify fun data => { data with availableInstances := data.availableInstances + 1 }

/-- The end of the probe, with the device number `devno` computed at its
beginning. -/
def createProxy (devno : U32) (dev : Address) : AximuxProgram Int := do
  let data ← field id
  let created ← kernelCall (.deviceCreateWithGroups devno dev
    (.aximuxInstAttrGroups (List.ofFn data.aximuxAttrs)) (data.availableInstances - 1))
  match created with
  | .error err => return err.code
  | .ok bufInst => do
      modify fun data => data.setDevice dev { data.devices dev with proxyDev := some bufInst }
      kernelCall (.platformSetDrvdata dev)
      kernelCall (.setNodeData dev)
      return 0

/-- The part of the probe after the last check of the device tree. -/
def registerInstance (devno : U32) (dev : Address) : AximuxProgram Int := do
  takeNumber dev
  let data ← field id
  populateAttributes 0 (data.devices dev).inputWidth.toNat
  createProxy devno dev

def aximuxProbe : AximuxProgram Int := do
  let devno ← field AximuxModule.availableInstances
  let allocated ← kernelCall (.devmKzalloc .instanceData)
  match allocated with
  | none => return enomem.code
  | some dev => do
      modify fun data => data.setDevice dev .zeroed
      let mapped ← kernelCall .devmIoremapResource
      match mapped with
      | .error err => return err.code
      | .ok () => do
          let inputWidth ← kernelCall (.ofPropertyReadU32 "xlnx,input-w")
          match inputWidth with
          | .error err => return err.code
          | .ok value => do
              modify fun data => data.setDevice dev { data.devices dev with inputWidth := value }
              registerInstance devno dev

def aximuxRemove : AximuxProgram Int := do
  let dev ← kernelCall .platformGetDrvdata
  modify fun data => { data with availableInstances := data.availableInstances - 1 }
  let dev ← deref dev
  let data ← field id
  whenever ((data.devices dev).proxyDev ≠ none)
    (kernelCall (.deviceDestroy (data.devices dev).instanceNumber))
  return 0

/-- The exported function that another driver calls with its own copy of an
instance pointer. -/
def aximuxSetSrc {Array : Type} {length : Array → Nat} {Memory : Type} (dev : Option Address)
    (port source : U32) : Program (driverSignature Array length Memory) Unit :=
  match dev with
  | none => return ()
  | some dev => do
      let cursrc ← kernelCall (.readSelect dev)
      let bit ← shiftedOne port
      let cursrc := cursrc &&& ~~~bit
      let cursrc := cursrc ||| (if source ≠ 0 then bit else 0)
      kernelCall (.writeSelect dev (cursrc &&& aximuxSelMask))

/-- What is written to `*source`, if anything is. -/
def aximuxGetSrc (dev : Option Address) (port : U32) (source : Pointer) :
    AximuxProgram (Option U32) :=
  match dev, source with
  | some dev, .valid => do
      let select ← kernelCall (.readSelect dev)
      let bit ← shiftedOne port
      return some (if isSet select bit then 1 else 0)
  | _, _ => return none

/-- The port that `sscanf` finds in the name of an attribute; it stays 0 if the
name is not of that form. -/
def sourcePort (name : String) : U32 :=
  ((afterLiteral "source".toList name.toList).bind (scanSigned 32)).getD 0

/-- `src_store` of the attribute with this name, on the driver data `drv`. -/
def srcStore (drv : Option Address) (name buf : String) (count : Nat) : AximuxProgram Int := do
  let port := sourcePort name
  let value := (scanUnsigned 32 buf.toList).getD 0
  if aximuxSelMask < value then return -einval
  aximuxSetSrc drv port value
  return count

/-- `src_show`, with the text it prints. -/
def srcShow (drv : Option Address) (name : String) : AximuxProgram String := do
  let port := sourcePort name
  let curSrc ← aximuxGetSrc drv port .valid
  return toString (curSrc.getD 0).toNat ++ "\n"

end Ebaz4205.AximuxDriver
