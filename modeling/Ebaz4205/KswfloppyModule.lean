import Ebaz4205.AximuxDriver

/-!
# Probe and remove of the floppy drive driver

The two functions of `kswfloppy.c` that the driver core calls. The probe takes
the pointers to a pulse capture and a multiplexer instance from device tree
nodes, sets the multiplexer, requests the lines and tries the drive. Messages
have no counterpart.
-/

namespace Ebaz4205.KswfloppyModule

open DriverProgram DriverProgram.Program PulsecapDriver KswfloppyDriver PlatformKernel AximuxDriver

set_option autoImplicit false

def dumpSize : Nat := 32000

/-- `struct kswfloppy_data` without its GPIO descriptors. The pointers to instances of
other drivers come from device tree nodes, where they have no type; each is kept with
the device whose data it is. -/
structure KswfloppyInstance where
  drive : KswfloppyData dumpSize
  pcapInst : Option Instance
  muxInst : Option Instance
  capturePin : U32

def KswfloppyInstance.zeroed : KswfloppyInstance := ⟨.zeroed dumpSize, none, none, 0⟩

/-- The driver keeps nothing beside its instances. -/
structure KswfloppyMemory where
  instances : Address → KswfloppyInstance

def KswfloppyMemory.initial : KswfloppyMemory := ⟨fun _ => .zeroed⟩

inductive KswfloppyArray where
  | dump
  | property (bytes : Nat)
  deriving DecidableEq

abbrev KswfloppyArray.length : KswfloppyArray → Nat
  | .dump => dumpSize
  | .property bytes => bytes

abbrev kswfloppySignature : Signature :=
  driverSignature KswfloppyArray KswfloppyArray.length KswfloppyMemory

abbrev KswfloppyProgram := Program kswfloppySignature

/-- A change of the instance at one address. -/
def KswfloppyMemory.edit (inst : Address) (change : KswfloppyInstance → KswfloppyInstance)
    (memory : KswfloppyMemory) : KswfloppyMemory :=
  ⟨Function.update memory.instances inst (change (memory.instances inst))⟩

@[simp] theorem KswfloppyMemory.edit_self (memory : KswfloppyMemory) (inst : Address)
    (change : KswfloppyInstance → KswfloppyInstance) :
    (memory.edit inst change).instances inst = change (memory.instances inst) :=
  Function.update_self _ _ _

theorem KswfloppyMemory.edit_of_ne {inst address : Address} (other : address ≠ inst)
    (memory : KswfloppyMemory) (change : KswfloppyInstance → KswfloppyInstance) :
    (memory.edit inst change).instances address = memory.instances address :=
  Function.update_of_ne other _ _

/-- The drive functions, on the lines and the memory of `inst`. -/
def onDrive (inst : Address) : Handler (floppySignature dumpSize) kswfloppySignature where
  send := fun operation => kernelCall (.gpio inst operation)
  fetch := field fun memory => (memory.instances inst).drive
  update := fun change => modify (.edit inst fun data => { data with drive := change data.drive })
  locate := fun _ position => element KswfloppyArray.dump position

def propertyByte (bytes : List Byte) (position : Nat) : KswfloppyProgram Byte := do
  let inside ← element (.property bytes.length) position
  return bytes.get inside

/-- `be32_to_cpu` of the cell that a property begins with. -/
def readCell (bytes : List Byte) : KswfloppyProgram U32 := do
  let first ← propertyByte bytes 0
  let second ← propertyByte bytes 1
  let third ← propertyByte bytes 2
  let fourth ← propertyByte bytes 3
  return first ++ second ++ third ++ fourth

/-- From a property with a phandle to the driver data of the node it names. The
probe does this twice, with `store` for the field that keeps the pointer. The
reference to the node is dropped on the last path only. -/
def takeInstance (name : String) (store : Instance → KswfloppyMemory → KswfloppyMemory) :
    KswfloppyProgram (Except Int Unit) := do
  let prop ← kernelCall (.ofGetProperty name)
  match prop with
  | .error err => return .error err.code
  | .ok prop => do
      let prop ← deref prop
      let phandle ← readCell prop
      let node ← kernelCall (.ofFindNodeByPhandle phandle)
      match node with
      | none => return .error (-enodev)
      | some node => do
          let data ← kernelCall (.nodeData node)
          match data with
          | none => return .error (-enodev)
          | some data => do
              modify (store ⟨node, data⟩)
              kernelCall (.ofNodePut node)
              return .ok ()

/-- A call of `aximux_set_src`. The function goes through the register base with which
an `aximux_device` begins. The instance of another driver begins with something else, in
the pulse capture driver with an interrupt number, and there is nothing at that address. -/
def callSetSrc (mux : Option Instance) (port source : U32) : KswfloppyProgram Unit :=
  match mux with
  | none => aximuxSetSrc none port source
  | some mux =>
      if mux.pdev.driver = .aximux then aximuxSetSrc (some mux.address) port source
      else deref none

/-- `FLOPPY_SIGNAL_DIRECTIONS`. -/
def floppySignalDirections : List GpioFlags :=
  [.gpiodOutLow, .gpiodOutLow, .gpiodOutLow, .gpiodOutLow, .gpiodOutLow, .gpiodOutLow, .gpiodIn,
    .gpiodIn, .gpiodOutLow, .gpiodOutLow, .gpiodOutLow, .gpiodIn, .gpiodIn, .gpiodIn, .gpiodIn]

/-- The loop that requests the lines, from `ii` on. -/
def allocateGpios (ii : Nat) : List GpioFlags → KswfloppyProgram (Except Int Unit)
  | [] => return .ok ()
  | flags :: rest => do
      let gpio ← kernelCall (.devmGpiodGetIndex ii flags)
      match gpio with
      | .error _ => return .error (-enodev)
      | .ok () => allocateGpios (ii + 1) rest

/-- The end of the probe. What the dump returns is not looked at. -/
def startDrive (budget : Nat) (inst : Address) : KswfloppyProgram Int := do
  let allocated ← allocateGpios 0 floppySignalDirections
  match allocated with
  | .error code => return code
  | .ok () => do
      deassertAll.interpret (onDrive inst)
      floppyHome.interpret (onDrive inst)
      let _dumped ← (floppyDumpTrack budget 40).interpret (onDrive inst)
      floppyHome.interpret (onDrive inst)
      return 0

/-- The pin is a 64-bit property; both the field and the argument keep its lower
half. -/
def configureMux (budget : Nat) (inst : Address) : KswfloppyProgram Int := do
  let pin ← kernelCall (.ofPropertyReadU64 "mux,pin")
  match pin with
  | .error _ => return -eio
  | .ok pin => do
      modify (.edit inst fun data => { data with capturePin := pin.truncate 32 })
      let isAlt ← kernelCall (.ofPropertyReadBool "mux,alt")
      let memory ← field id
      callSetSrc (memory.instances inst).muxInst (pin.truncate 32) (if isAlt then 1 else 0)
      startDrive budget inst

def kswfloppyProbe (budget : Nat) : KswfloppyProgram Int := do
  let allocated ← kernelCall (.devmKzalloc .instanceData)
  match allocated with
  | none => return enomem.code
  | some inst => do
      modify (.edit inst fun _ => .zeroed)
      kernelCall (.platformSetDrvdata inst)
      let pcapTaken ← takeInstance "pcap-phandle" fun data =>
        .edit inst fun entry => { entry with pcapInst := some data }
      match pcapTaken with
      | .error code => return code
      | .ok () => do
          let muxTaken ← takeInstance "mux,phandle" fun data =>
            .edit inst fun entry => { entry with muxInst := some data }
          match muxTaken with
          | .error code => return code
          | .ok () => configureMux budget inst

def kswfloppyRemove : KswfloppyProgram Int := do
  let inst ← kernelCall .platformGetDrvdata
  let inst ← deref inst
  let memory ← field id
  callSetSrc (memory.instances inst).muxInst (memory.instances inst).capturePin 0
  deassertAll.interpret (onDrive inst)
  return 0

end Ebaz4205.KswfloppyModule
