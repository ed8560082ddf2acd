import Mathlib.Logic.Function.Basic
import Ebaz4205.PlatformKernel

/-!
# The DMA proxy from its probe to its remove

A transcription of `dma_proxy_probe` and `dma_proxy_remove` and of what they do for each
channel. The memory of a device is not cleared, so it holds what the kernel hands out. A
count of the channels and the pointer to the class outlive the devices.
-/

namespace Ebaz4205.DmaProxyProbe

open DriverProgram DriverProgram.Program PlatformKernel

set_option autoImplicit false

abbrev U32 := BitVec 32

/-- A platform device. -/
abbrev Pdev := Nat

/-- A `struct dma_proxy_channel`, by its device and its place. -/
structure ChannelRef where
  pdev : Pdev
  place : Nat
  deriving DecidableEq

/-- What `class_create` returns. -/
abbrev ClassResult := Except Errno Nat

/-- The fields of `struct dma_proxy_channel` that concern what a channel holds. -/
structure ProxyChannel where
  channelP : Bool
  classP : Option ClassResult
  devNode : U32
  proxyDeviceP : Option (Except Errno Unit)

structure DmaProxy where
  channelCount : Int
  channels : Nat → ProxyChannel

/-- What lives as long as the module, and the driver data of each device. -/
structure DmaProxyModule where
  totalCount : Int
  localClassP : Option ClassResult
  drvdata : Pdev → DmaProxy

inductive ModuleCall where
  | devmKmalloc (pdev : Pdev)
  | devmKmallocArray (pdev : Pdev)
  | devmKmallocChannels (pdev : Pdev)
  | readStringArrayCount (pdev : Pdev)
  | readStringArray (pdev : Pdev)
  | dmaRequestSlaveChannel (channel : ChannelRef)
  | allocChrdevRegion (channel : ChannelRef)
  | cdevAdd (channel : ChannelRef) (devNode : U32)
  | classCreate
  | deviceClassIsErr (pdev : Pdev)
  | strlenName (channel : ChannelRef)
  | deviceCreate (classP : Option ClassResult) (devNode : U32)
  | classDestroy (classP : Option ClassResult)
  | cdevDel (channel : ChannelRef)
  | unregisterChrdevRegion (devNode : U32)
  | dmamAllocCoherent (pdev : Pdev)
  | deviceDestroy (classP : Option ClassResult) (devNode : U32)
  | deviceTerminateAll (channel : ChannelRef)
  | dmaReleaseChannel (channel : ChannelRef)

/-- An allocation hands out what the memory happens to hold. -/
abbrev ModuleReply : ModuleCall → Type
  | .devmKmalloc _ => Option DmaProxy
  | .devmKmallocArray _ => Bool
  | .devmKmallocChannels _ => Option (Nat → ProxyChannel)
  | .readStringArrayCount _ => Int
  | .readStringArray _ => Int
  | .dmaRequestSlaveChannel _ => Bool
  | .allocChrdevRegion _ => Except Errno U32
  | .cdevAdd _ _ => Except Errno Unit
  | .classCreate => ClassResult
  | .deviceClassIsErr _ => Bool
  | .strlenName _ => Nat
  | .deviceCreate _ _ => Except Errno Unit
  | .classDestroy _ => Unit
  | .cdevDel _ => Unit
  | .unregisterChrdevRegion _ => Unit
  | .dmamAllocCoherent _ => Bool
  | .deviceDestroy _ _ => Unit
  | .deviceTerminateAll _ => Unit
  | .dmaReleaseChannel _ => Unit

/-- `"dma_proxy"`, with which `device_name` begins. -/
def driverName : String := "dma_proxy"

def deviceNameSize : Nat := 32

/-- The channels of a device are as many as it has names, so no index leaves them. The one array
is `device_name`. -/
abbrev moduleSignature : Signature where
  Call := ModuleCall
  Reply := ModuleReply
  Region := Unit
  extent := fun _ => deviceNameSize
  Memory := DmaProxyModule

abbrev ModuleProgram := Program moduleSignature

def moduleCall (call : ModuleCall) : ModuleProgram (ModuleReply call) := .call call .done

/-- `ERROR`. -/
def error : Int := -1

def DmaProxyModule.channel (module : DmaProxyModule) (ref : ChannelRef) : ProxyChannel :=
  (module.drvdata ref.pdev).channels ref.place

def DmaProxyModule.setDrvdata (module : DmaProxyModule) (pdev : Pdev) (proxy : DmaProxy) :
    DmaProxyModule :=
  { module with drvdata := Function.update module.drvdata pdev proxy }

def DmaProxyModule.setChannel (module : DmaProxyModule) (ref : ChannelRef)
    (channel : ProxyChannel) : DmaProxyModule :=
  module.setDrvdata ref.pdev
    { module.drvdata ref.pdev with
      channels := Function.update (module.drvdata ref.pdev).channels ref.place channel }

def setChannel (ref : ChannelRef) (change : ProxyChannel → ProxyChannel) : ModuleProgram Unit :=
  modify fun module => module.setChannel ref (change (module.channel ref))

section Channels

/-- `init_error2`, `init_error1`. -/
def undoCdev (ref : ChannelRef) (devNode : U32) : ModuleProgram Unit := do
  moduleCall (.cdevDel ref)
  moduleCall (.unregisterChrdevRegion devNode)

/-- The last byte that `strcat` writes into `device_name`. -/
def appendName (ref : ChannelRef) : ModuleProgram (Fin deviceNameSize) := do
  let length ← moduleCall (.strlenName ref)
  @index moduleSignature () (driverName.length + length)

/-- The device node of a channel. Where it cannot be created, `rc` is still 0. -/
def createNode (ref : ChannelRef) (devNode : U32) : ModuleProgram Int := do
  let localClassP ← field DmaProxyModule.localClassP
  setChannel ref ({ · with classP := localClassP })
  let _terminator ← appendName ref
  let device ← moduleCall (.deviceCreate localClassP devNode)
  setChannel ref ({ · with proxyDeviceP := some device })
  match device with
  | .ok _ => return 0
  | .error _ => do
      moduleCall (.classDestroy localClassP)
      undoCdev ref devNode
      return 0

/-- The class is created once. What is asked about is not what was created. -/
def cdeviceClass (ref : ChannelRef) (devNode : U32) : ModuleProgram Int := do
  let localClassP ← field DmaProxyModule.localClassP
  match localClassP with
  | some _ => createNode ref devNode
  | none => do
      let created ← moduleCall .classCreate
      modify fun module => { module with localClassP := some created }
      let isErr ← moduleCall (.deviceClassIsErr ref.pdev)
      if isErr then do
        undoCdev ref devNode
        return error
      else createNode ref devNode

def cdeviceInit (ref : ChannelRef) : ModuleProgram Int := do
  let region ← moduleCall (.allocChrdevRegion ref)
  match region with
  | .error rc => return rc.code
  | .ok devNode => do
      setChannel ref ({ · with devNode := devNode })
      let added ← moduleCall (.cdevAdd ref devNode)
      match added with
      | .error rc => do
          moduleCall (.unregisterChrdevRegion devNode)
          return rc.code
      | .ok _ => cdeviceClass ref devNode

def cdeviceExit (ref : ChannelRef) : ModuleProgram Unit := do
  let channel ← field fun module => module.channel ref
  whenever channel.proxyDeviceP.isSome (do
    moduleCall (.deviceDestroy channel.classP channel.devNode)
    let totalCount ← field DmaProxyModule.totalCount
    whenever (totalCount = 1) (moduleCall (.classDestroy channel.classP))
    moduleCall (.cdevDel ref)
    moduleCall (.unregisterChrdevRegion channel.devNode))

def createChannel (ref : ChannelRef) : ModuleProgram Int := do
  let granted ← moduleCall (.dmaRequestSlaveChannel ref)
  setChannel ref ({ · with channelP := granted })
  if !granted then return error
  else do
    let rc ← cdeviceInit ref
    if rc ≠ 0 then return rc
    else do
      let allocated ← moduleCall (.dmamAllocCoherent ref.pdev)
      if !allocated then return error
      else return 0

end Channels

section Devices

/-- The loop of `dma_proxy_probe`, with so many channels left. -/
def createChannels (pdev : Pdev) : Nat → Nat → ModuleProgram Int
  | 0, _ => return 0
  | left + 1, place => do
      let rc ← createChannel ⟨pdev, place⟩
      if rc ≠ 0 then return rc
      else do
        modify fun module => { module with totalCount := module.totalCount + 1 }
        createChannels pdev left (place + 1)

/-- The names, then the channels. -/
def probeChannels (pdev : Pdev) (channelCount : Int) : ModuleProgram Int := do
  let names ← moduleCall (.devmKmallocArray pdev)
  if !names then return enomem.code
  else do
    let rc ← moduleCall (.readStringArray pdev)
    if rc < 0 then return rc
    else do
      let block ← moduleCall (.devmKmallocChannels pdev)
      match block with
      | none => return enomem.code
      | some channels => do
          modify fun module => module.setDrvdata pdev
            { module.drvdata pdev with channels := channels }
          createChannels pdev channelCount.toNat 0

def dmaProxyProbe (pdev : Pdev) : ModuleProgram Int := do
  let block ← moduleCall (.devmKmalloc pdev)
  match block with
  | none => return enomem.code
  | some proxy => do
      modify fun module => module.setDrvdata pdev proxy
      let channelCount ← moduleCall (.readStringArrayCount pdev)
      modify fun module =>
        module.setDrvdata pdev { module.drvdata pdev with channelCount := channelCount }
      if channelCount ≤ 0 then return 0
      else probeChannels pdev channelCount

/-- The first loop of `dma_proxy_remove`. -/
def exitChannels (pdev : Pdev) : Nat → Nat → ModuleProgram Unit
  | 0, _ => return ()
  | left + 1, place => do
      let channel ← field fun module => module.channel ⟨pdev, place⟩
      whenever channel.proxyDeviceP.isSome (cdeviceExit ⟨pdev, place⟩)
      modify fun module => { module with totalCount := module.totalCount - 1 }
      exitChannels pdev left (place + 1)

/-- The second loop. -/
def releaseChannels (pdev : Pdev) : Nat → Nat → ModuleProgram Unit
  | 0, _ => return ()
  | left + 1, place => do
      let channel ← field fun module => module.channel ⟨pdev, place⟩
      whenever channel.channelP (do
        moduleCall (.deviceTerminateAll ⟨pdev, place⟩)
        moduleCall (.dmaReleaseChannel ⟨pdev, place⟩))
      releaseChannels pdev left (place + 1)

def dmaProxyRemove (pdev : Pdev) : ModuleProgram Int := do
  let channelCount ← field fun module => (module.drvdata pdev).channelCount
  exitChannels pdev channelCount.toNat 0
  releaseChannels pdev channelCount.toNat 0
  return 0

end Devices

end Ebaz4205.DmaProxyProbe
