import Ebaz4205.KswfloppyDriver
import Ebaz4205.ProgramEffects

/-!
# The kernel under the platform drivers

What the probe and remove functions of the three drivers ask of the kernel:
device-managed memory, resources, device tree properties and nodes, class
devices, and the registers of the hardware. How the kernel decides is given with
each call; what it keeps is memory that outlives the call. Addresses are never
handed out twice, so an address names one allocation for ever. Class devices are
told apart by their minor number: the major number belongs to the class.
-/

namespace Ebaz4205.PlatformKernel

open DriverProgram DriverProgram.Program PulsecapDriver KswfloppyDriver

set_option autoImplicit false

abbrev Address := Nat

/-- What an error pointer or a negative return value carries. -/
structure Errno where
  number : Nat
  positive : 0 < number
  deriving DecidableEq

def Errno.code (errno : Errno) : Int := -errno.number

theorem Errno.code_neg (errno : Errno) : errno.code < 0 := by
  have positive := errno.positive
  rw [Errno.code]
  omega

@[simp] theorem Errno.code_ne_zero (errno : Errno) : errno.code ≠ 0 := errno.code_neg.ne

def enomem : Errno := ⟨12, by decide⟩
def eexist : Errno := ⟨17, by decide⟩

inductive Driver where
  | aximux | pulsecap | kswfloppy
  deriving DecidableEq

/-- A device tree node whose `compatible` names one of the drivers, and with it
the platform device that the kernel made for it. -/
structure Node where
  driver : Driver
  unit : Nat
  deriving DecidableEq

/-- A device, and the instance that its driver made for it. -/
structure Instance where
  pdev : Node
  address : Address
  deriving DecidableEq

/-- The types that the drivers allocate. -/
inductive Block where
  | instanceData
  | deviceAttribute
  | attributeName
  deriving DecidableEq

structure DeviceAttribute where
  address : Address
  name : String
  deriving DecidableEq

/-- The attribute groups of the two classes. That of `pulsecap` is constant; that
of `aximux` points to a table, given here as it is when the pointer is passed. -/
inductive AttributeGroups where
  | pulsecapAttrGroups
  | aximuxInstAttrGroups (attrs : List (Option DeviceAttribute))
  deriving DecidableEq

inductive GpioFlags where
  | gpiodIn
  | gpiodOutLow
  deriving DecidableEq

inductive KernelCall where
  | devmKzalloc (block : Block)
  | devmIoremapResource
  | platformGetIrqResource
  | devmRequestIrq (irqnum : U32)
  | platformSetDrvdata (data : Address)
  | platformGetDrvdata
  | setNodeData (data : Address)
  | nodeData (node : Node)
  | ofPropertyReadU32 (name : String)
  | ofPropertyReadU64 (name : String)
  | ofPropertyReadBool (name : String)
  | ofGetProperty (name : String)
  | ofFindNodeByPhandle (phandle : U32)
  | ofNodePut (node : Node)
  | devmGpiodGetIndex (index : Nat) (flags : GpioFlags)
  | deviceCreateWithGroups (minor : U32) (drvdata : Address) (groups : AttributeGroups)
      (number : U32)
  | deviceDestroy (minor : U32)
  | timer (inst : Address) (operation : TimerCall)
  | gpio (inst : Address) (operation : GpioCall)
  | readSelect (dev : Address)
  | writeSelect (dev : Address) (value : U32)

/-- `of_get_property` returns a pointer that the driver tests with `IS_ERR`, so
it has three cases: an error pointer, `NULL`, and the bytes of the property. -/
abbrev KernelReply : KernelCall → Type
  | .devmKzalloc _ => Option Address
  | .devmIoremapResource => Except Errno Unit
  | .platformGetIrqResource => Option U32
  | .devmRequestIrq _ => Except Errno Unit
  | .platformSetDrvdata _ => Unit
  | .platformGetDrvdata => Option Address
  | .setNodeData _ => Unit
  | .nodeData _ => Option Address
  | .ofPropertyReadU32 _ => Except Errno U32
  | .ofPropertyReadU64 _ => Except Errno (BitVec 64)
  | .ofPropertyReadBool _ => Bool
  | .ofGetProperty _ => Except Errno (Option (List Byte))
  | .ofFindNodeByPhandle _ => Option Node
  | .ofNodePut _ => Unit
  | .devmGpiodGetIndex _ _ => Except Errno Unit
  | .deviceCreateWithGroups _ _ _ _ => Except Errno Address
  | .deviceDestroy _ => Unit
  | .timer _ operation => TimerReply operation
  | .gpio _ operation => GpioReply operation
  | .readSelect _ => U32
  | .writeSelect _ _ => Unit

/-- Where an access can be outside: the arrays of a driver, the object behind a
null pointer, in which no access is inside, and the bits of a word, which a shift
must not leave. -/
inductive Place (Array : Type) where
  | nullPointer
  | wordBit
  | array (name : Array)
  deriving DecidableEq

abbrev Place.extent {Array : Type} (length : Array → Nat) : Place Array → Nat
  | .nullPointer => 0
  | .wordBit => 32
  | .array name => length name

abbrev driverSignature (Array : Type) (length : Array → Nat) (Memory : Type) : Signature where
  Call := KernelCall
  Reply := KernelReply
  Region := Place Array
  extent := Place.extent length
  Memory := Memory

section Calls

variable {Array : Type} {length : Array → Nat} {Memory : Type}

/-- A call of a kernel function. -/
def kernelCall (call : KernelCall) :
    Program (driverSignature Array length Memory) (KernelReply call) :=
  .call call .done

/-- The use of a pointer that may be `NULL`. -/
def deref {Value : Type} (pointer : Option Value) :
    Program (driverSignature Array length Memory) Value :=
  match pointer with
  | some value => .done value
  | none => .access .nullPointer 0 Fin.elim0

/-- The C expression `1 << port`. -/
def shiftedOne (port : U32) : Program (driverSignature Array length Memory) U32 :=
  .access .wordBit port.toNat fun bit => .done (.twoPow 32 bit)

/-- An index into one of the driver's arrays. -/
def element (name : Array) (position : Nat) :
    Program (driverSignature Array length Memory) (Fin (length name)) :=
  .access (.array name) position .done

end Calls

/-- What the kernel decides during one call of a driver. Allocations and readings
of registers and lines are counted from the beginning of the call. -/
structure KernelAnswers where
  allocates : Nat → Bool
  ioremap : Except Errno Unit
  irqResource : Option U32
  requestIrq : Except Errno Unit
  deviceCreate : Except Errno Unit
  propertyU32 : String → Except Errno U32
  propertyU64 : String → Except Errno (BitVec 64)
  propertyBool : String → Bool
  property : String → Except Errno (Option (List Byte))
  phandle : U32 → Option Node
  gpiod : Nat → Except Errno Unit
  readings : Nat → U32

/-- A device of a class: the number in its name and its driver data. -/
structure ClassDevice where
  number : U32
  drvdata : Address
  deriving DecidableEq

/-- What outlives a call and is not the memory of one driver. -/
structure Shared where
  next : Address
  drvdata : Node → Option Address
  nodeData : Node → Option Address
  select : Address → U32

structure KernelWorld where
  pdev : Node
  answers : KernelAnswers
  allocations : Nat
  readings : Nat
  devices : U32 → Option ClassDevice
  shared : Shared

namespace KernelWorld

/-- After one more allocation has been asked for, and granted or not. -/
def afterAllocation (world : KernelWorld) (granted : Bool) : KernelWorld :=
  { world with
    allocations := world.allocations + 1
    shared := { world.shared with
      next := if granted then world.shared.next + 1 else world.shared.next } }

/-- The next `count` allocations will be granted. -/
def Grants (world : KernelWorld) (count : Nat) : Prop :=
  ∀ k < count, world.answers.allocates (world.allocations + k) = true

/-- After `count` more allocations that were all granted. -/
def granted (world : KernelWorld) (count : Nat) : KernelWorld :=
  { world with
    allocations := world.allocations + count
    shared := { world.shared with next := world.shared.next + count } }

theorem grants_add {world : KernelWorld} {first second : Nat} :
    world.Grants (first + second) ↔ world.Grants first ∧ (world.granted first).Grants second := by
  constructor
  · intro grants
    constructor
    · intro k bound
      exact grants k (by omega)
    · intro k bound
      have later := grants (first + k) (by omega)
      rw [← Nat.add_assoc] at later
      exact later
  · rintro ⟨front, back⟩ k bound
    by_cases early : k < first
    · exact front k early
    · have later := back (k - first) (by omega)
      simp only [granted] at later
      rw [show world.allocations + first + (k - first) = world.allocations + k by omega] at later
      exact later

theorem grants_two {world : KernelWorld} :
    world.Grants 2 ↔ world.answers.allocates world.allocations = true ∧
      world.answers.allocates (world.allocations + 1) = true := by
  constructor
  · intro grants
    exact ⟨grants 0 (by omega), grants 1 (by omega)⟩
  · rintro ⟨first, second⟩ k bound
    rcases Nat.lt_succ_iff_lt_or_eq.mp bound with early | rfl
    · rw [Nat.lt_one_iff.mp early]
      exact first
    · exact second

theorem granted_granted (world : KernelWorld) (first second : Nat) :
    (world.granted first).granted second = world.granted (first + second) := by
  simp only [granted, Nat.add_assoc]

def setDrvdata (world : KernelWorld) (data : Address) : KernelWorld :=
  { world with shared := { world.shared with
      drvdata := Function.update world.shared.drvdata world.pdev (some data) } }

def setNodeData (world : KernelWorld) (data : Address) : KernelWorld :=
  { world with shared := { world.shared with
      nodeData := Function.update world.shared.nodeData world.pdev (some data) } }

/-- A new device in the class; its `struct device` takes an address of its own. -/
def create (world : KernelWorld) (minor : U32) (device : ClassDevice) : KernelWorld :=
  { world with
    devices := Function.update world.devices minor (some device)
    shared := { world.shared with next := world.shared.next + 1 } }

def destroy (world : KernelWorld) (minor : U32) : KernelWorld :=
  { world with devices := Function.update world.devices minor none }

def afterReading (world : KernelWorld) : KernelWorld :=
  { world with readings := world.readings + 1 }

def nextReading (world : KernelWorld) : U32 := world.answers.readings world.readings

def writeSelect (world : KernelWorld) (dev : Address) (value : U32) : KernelWorld :=
  { world with shared := { world.shared with
      select := Function.update world.shared.select dev value } }

/-- A second device with the same number is refused, whatever else holds. -/
def deviceCreate (world : KernelWorld) (minor : U32) : Except Errno Unit :=
  if (world.devices minor).isSome then .error eexist else world.answers.deviceCreate

def timer (world : KernelWorld) : (operation : TimerCall) → TimerReply operation × KernelWorld
  | .ioread32 _ => (world.nextReading, world.afterReading)
  | .iowrite32 _ _ => ((), world)

def gpio (world : KernelWorld) : (operation : GpioCall) → GpioReply operation × KernelWorld
  | .gpiodSetValue _ _ => ((), world)
  | .gpiodGetValue _ => (world.nextReading, world.afterReading)

def respond : (request : KernelCall) → KernelWorld → KernelReply request × KernelWorld
  | .devmKzalloc _, world =>
      let granted := world.answers.allocates world.allocations
      (if granted then some world.shared.next else none, world.afterAllocation granted)
  | .devmIoremapResource, world => (world.answers.ioremap, world)
  | .platformGetIrqResource, world => (world.answers.irqResource, world)
  | .devmRequestIrq _, world => (world.answers.requestIrq, world)
  | .platformSetDrvdata data, world => ((), world.setDrvdata data)
  | .platformGetDrvdata, world => (world.shared.drvdata world.pdev, world)
  | .setNodeData data, world => ((), world.setNodeData data)
  | .nodeData node, world => (world.shared.nodeData node, world)
  | .ofPropertyReadU32 name, world => (world.answers.propertyU32 name, world)
  | .ofPropertyReadU64 name, world => (world.answers.propertyU64 name, world)
  | .ofPropertyReadBool name, world => (world.answers.propertyBool name, world)
  | .ofGetProperty name, world => (world.answers.property name, world)
  | .ofFindNodeByPhandle phandle, world => (world.answers.phandle phandle, world)
  | .ofNodePut _, world => ((), world)
  | .devmGpiodGetIndex index _, world => (world.answers.gpiod index, world)
  | .deviceCreateWithGroups minor drvdata _ number, world =>
      match world.deviceCreate minor with
      | .error err => (.error err, world)
      | .ok () => (.ok world.shared.next, world.create minor ⟨number, drvdata⟩)
  | .deviceDestroy minor, world => ((), world.destroy minor)
  | .timer _ operation, world => world.timer operation
  | .gpio _ operation, world => world.gpio operation
  | .readSelect dev, world => (world.shared.select dev, world)
  | .writeSelect dev value, world => ((), world.writeSelect dev value)

end KernelWorld

/-- The same kernel serves every driver. -/
def kernel {Array : Type} {length : Array → Nat} {Memory : Type} :
    Environment (driverSignature Array length Memory) KernelWorld where
  respond := KernelWorld.respond

end Ebaz4205.PlatformKernel
