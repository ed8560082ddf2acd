import Ebaz4205.DmaProxyProbe
import Ebaz4205.ProgramTraces

/-!
# What a probe and a remove of the DMA proxy can do

For each function its possible ends, under a kernel that creates the class and each device
node it is asked for. Where it does not, the driver takes everything back and goes on as if
it had.
-/

namespace Ebaz4205.DmaProxyCalls

open DriverProgram DriverProgram.Program PlatformKernel DmaProxyProbe

set_option autoImplicit false

abbrev Log := List (Exchange moduleSignature)

/-- The class is created, and each device node that is asked for. The names of the channels fit
behind that of the driver. -/
structure Grants {World : Type} (env : Environment moduleSignature World) : Prop where
  classCreate : ∀ world, ∃ address, (env.respond .classCreate world).1 = .ok address
  deviceCreate : ∀ classP devNode world,
    (env.respond (.deviceCreate classP devNode) world).1 = .ok ()
  shortName : ∀ ref world, driverName.length + (env.respond (.strlenName ref) world).1 <
    deviceNameSize

variable {World : Type} {env : Environment moduleSignature World}
  {module middle after : DmaProxyModule} {ref : ChannelRef}

section Frames

/-- Of the channels only this one is different, and nothing is counted. -/
structure Kept (ref : ChannelRef) (module after : DmaProxyModule) : Prop where
  totalCount : after.totalCount = module.totalCount
  counts : ∀ pdev, (after.drvdata pdev).channelCount = (module.drvdata pdev).channelCount
  channels : ∀ other, other ≠ ref → after.channel other = module.channel other

theorem kept_refl (ref : ChannelRef) (module : DmaProxyModule) : Kept ref module module :=
  ⟨rfl, fun _ => rfl, fun _ _ => rfl⟩

theorem kept_trans (first : Kept ref module middle) (second : Kept ref middle after) :
    Kept ref module after :=
  ⟨second.totalCount.trans first.totalCount,
    fun pdev => (second.counts pdev).trans (first.counts pdev),
    fun other apart => (second.channels other apart).trans (first.channels other apart)⟩

theorem kept_setChannel (ref : ChannelRef) (module : DmaProxyModule) (channel : ProxyChannel) :
    Kept ref module (module.setChannel ref channel) := by
  refine ⟨rfl, ?_, ?_⟩
  · intro pdev
    change (Function.update module.drvdata ref.pdev _ pdev).channelCount = _
    rw [Function.update_apply]
    split_ifs with here
    · rw [here]
    · rfl
  · intro other apart
    change (Function.update module.drvdata ref.pdev _ other.pdev).channels other.place = _
    rw [Function.update_apply]
    split_ifs with here
    · have away : other.place ≠ ref.place := by
        intro same
        apply apart
        cases other
        cases ref
        cases here
        cases same
        rfl
      dsimp only
      rw [Function.update_of_ne away, ← here]
      rfl
    · rfl

theorem kept_localClass (classP : Option ClassResult) :
    Kept ref module { module with localClassP := classP } :=
  ⟨rfl, fun _ => rfl, fun _ _ => rfl⟩

/-- Of the devices only this one is different. -/
def Apart (pdev : Pdev) (module after : DmaProxyModule) : Prop :=
  ∀ other, other ≠ pdev → after.drvdata other = module.drvdata other

theorem apart_of_kept (kept : Kept ref module after) : Apart ref.pdev module after := by
  intro other away
  have channels : (after.drvdata other).channels = (module.drvdata other).channels := by
    funext place
    exact kept.channels ⟨other, place⟩ fun same => away (congrArg ChannelRef.pdev same)
  have counts := kept.counts other
  generalize after.drvdata other = last at channels counts
  generalize module.drvdata other = first at channels counts
  cases last
  cases first
  cases channels
  cases counts
  rfl

theorem apart_setDrvdata (pdev : Pdev) (module : DmaProxyModule) (proxy : DmaProxy) :
    Apart pdev module (module.setDrvdata pdev proxy) := by
  intro other away
  rw [DmaProxyModule.setDrvdata]
  exact Function.update_of_ne away proxy module.drvdata

theorem drvdata_setDrvdata (pdev : Pdev) (module : DmaProxyModule) (proxy : DmaProxy) :
    (module.setDrvdata pdev proxy).drvdata pdev = proxy := by
  rw [DmaProxyModule.setDrvdata]
  exact Function.update_self pdev proxy module.drvdata

theorem apart_trans {pdev : Pdev} (first : Apart pdev module middle)
    (second : Apart pdev middle after) : Apart pdev module after :=
  fun other away => (second other away).trans (first other away)

theorem channel_setChannel (ref : ChannelRef) (module : DmaProxyModule) (channel : ProxyChannel) :
    (module.setChannel ref channel).channel ref = channel := by
  change (Function.update module.drvdata ref.pdev _ ref.pdev).channels ref.place = channel
  rw [Function.update_self]
  exact Function.update_self _ _ _

end Frames

section Channels

/-- The class is there, or it is created now. -/
inductive FindsClass (ref : ChannelRef) (isErr : Bool) :
    Option ClassResult → Option ClassResult → Log → Prop where
  | found (classP : ClassResult) (fine : isErr = false) :
      FindsClass ref isErr (some classP) (some classP) []
  | created (address : Nat) :
      FindsClass ref isErr none (some (.ok address))
        [⟨.classCreate, .ok address⟩, ⟨.deviceClassIsErr ref.pdev, isErr⟩]

/-- The ends of `cdevice_init`. -/
inductive InitsCdevice (ref : ChannelRef) (module : DmaProxyModule) :
    Int → DmaProxyModule → Log → Prop where
  | noRegion (errno : Errno) :
      InitsCdevice ref module errno.code module [⟨.allocChrdevRegion ref, .error errno⟩]
  | noCdev (after : DmaProxyModule) (devNode : U32) (errno : Errno) (kept : Kept ref module after)
      (classP : after.localClassP = module.localClassP) :
      InitsCdevice ref module errno.code after [⟨.allocChrdevRegion ref, .ok devNode⟩,
        ⟨.cdevAdd ref devNode, .error errno⟩, ⟨.unregisterChrdevRegion devNode, ()⟩]
  | badClass (after : DmaProxyModule) (devNode : U32) (log : Log) (kept : Kept ref module after)
      (finds : FindsClass ref true module.localClassP after.localClassP log) :
      InitsCdevice ref module error after (⟨.allocChrdevRegion ref, .ok devNode⟩ ::
        ⟨.cdevAdd ref devNode, .ok ()⟩ :: (log ++
          [⟨.cdevDel ref, ()⟩, ⟨.unregisterChrdevRegion devNode, ()⟩]))
  | made (after : DmaProxyModule) (devNode : U32) (length : Nat) (log : Log)
      (kept : Kept ref module after)
      (finds : FindsClass ref false module.localClassP after.localClassP log)
      (node : (after.channel ref).devNode = devNode)
      (classP : (after.channel ref).classP = after.localClassP)
      (device : (after.channel ref).proxyDeviceP = some (.ok ()))
      (channelP : (after.channel ref).channelP = (module.channel ref).channelP) :
      InitsCdevice ref module 0 after (⟨.allocChrdevRegion ref, .ok devNode⟩ ::
        ⟨.cdevAdd ref devNode, .ok ()⟩ :: (log ++ [⟨.strlenName ref, length⟩,
          ⟨.deviceCreate after.localClassP devNode, .ok ()⟩]))

/-- The node is created under the class that is there. -/
structure MakesNode (ref : ChannelRef) (devNode : U32) (module : DmaProxyModule) (rc : Int)
    (after : DmaProxyModule) (log : Log) : Prop where
  rc : rc = 0
  kept : Kept ref module after
  localClassP : after.localClassP = module.localClassP
  node : (after.channel ref).devNode = (module.channel ref).devNode
  classP : (after.channel ref).classP = after.localClassP
  device : (after.channel ref).proxyDeviceP = some (.ok ())
  channelP : (after.channel ref).channelP = (module.channel ref).channelP
  log : ∃ length,
    log = [⟨.strlenName ref, length⟩, ⟨.deviceCreate after.localClassP devNode, .ok ()⟩]

theorem traces_createNode (grants : Grants env) (ref : ChannelRef) (devNode : U32)
    (module : DmaProxyModule) :
    Traces env (createNode ref devNode) module (MakesNode ref devNode module) := by
  apply traces_field_bind
  apply traces_modify_bind
  apply traces_request_bind
  intro world
  apply traces_index_bind (grants.shortName ref world)
  apply traces_request_bind
  intro later
  rw [grants.deviceCreate]
  apply traces_modify_bind
  apply traces_done
  refine ⟨rfl, kept_trans (kept_setChannel ref module _) (kept_setChannel ref _ _), rfl, ?_, ?_, ?_,
    ?_, _, rfl⟩
  · rw [channel_setChannel, channel_setChannel]
  · rw [channel_setChannel, channel_setChannel]
    rfl
  · rw [channel_setChannel]
  · rw [channel_setChannel, channel_setChannel]

/-- The ends behind `cdev_add`. -/
inductive FindsNode (ref : ChannelRef) (devNode : U32) (module : DmaProxyModule) :
    Int → DmaProxyModule → Log → Prop where
  | badClass (after : DmaProxyModule) (log : Log) (kept : Kept ref module after)
      (finds : FindsClass ref true module.localClassP after.localClassP log) :
      FindsNode ref devNode module error after
        (log ++ [⟨.cdevDel ref, ()⟩, ⟨.unregisterChrdevRegion devNode, ()⟩])
  | made (middle after : DmaProxyModule) (log others : Log) (kept : Kept ref module middle)
      (same : middle.channel ref = module.channel ref)
      (finds : FindsClass ref false module.localClassP middle.localClassP log)
      (makes : MakesNode ref devNode middle 0 after others) :
      FindsNode ref devNode module 0 after (log ++ others)

theorem traces_cdeviceClass (grants : Grants env) (ref : ChannelRef) (devNode : U32)
    (module : DmaProxyModule) :
    Traces env (cdeviceClass ref devNode) module (FindsNode ref devNode module) := by
  apply traces_field_bind
  cases there : module.localClassP with
  | some classP =>
      apply traces_mono (traces_createNode grants ref devNode module)
      intro rc after log makes
      obtain rfl := makes.rc
      exact .made module after [] log (kept_refl ref module) rfl
        (there.symm ▸ .found classP rfl) makes
  | none =>
      apply traces_request_bind
      intro world
      obtain ⟨address, created⟩ := grants.classCreate world
      rw [created]
      apply traces_modify_bind
      apply traces_request_bind
      intro later
      generalize (env.respond (.deviceClassIsErr ref.pdev) later).1 = isErr
      have kept : Kept ref module { module with localClassP := some (.ok address) } :=
        kept_localClass (some (.ok address))
      cases isErr with
      | true =>
          apply traces_request_bind
          intro _
          apply traces_request_bind
          intro _
          apply traces_done
          exact .badClass _ [_, _] kept (there.symm ▸ .created address)
      | false =>
          apply traces_mono (traces_createNode grants ref devNode _)
          intro rc after log makes
          obtain rfl := makes.rc
          exact .made _ after [_, _] log kept rfl (there.symm ▸ .created address) makes

theorem traces_cdeviceInit (grants : Grants env) (ref : ChannelRef) (module : DmaProxyModule) :
    Traces env (cdeviceInit ref) module (InitsCdevice ref module) := by
  apply traces_request_bind
  intro world
  generalize (env.respond (.allocChrdevRegion ref) world).1 = region
  cases region with
  | error errno => exact traces_done (.noRegion errno)
  | ok devNode =>
      apply traces_modify_bind
      apply traces_request_bind
      intro later
      generalize (env.respond (.cdevAdd ref devNode) later).1 = added
      have named := kept_setChannel ref module { module.channel ref with devNode := devNode }
      cases added with
      | error errno =>
          apply traces_request_bind
          intro _
          exact traces_done (.noCdev _ devNode errno named rfl)
      | ok _ =>
          apply traces_mono (traces_cdeviceClass grants ref devNode _)
          intro rc after log finds
          cases finds with
          | badClass _ log kept finds =>
              exact .badClass after devNode log (kept_trans named kept) finds
          | made middle _ log others kept same finds makes =>
              rw [channel_setChannel] at same
              obtain ⟨length, rfl⟩ := makes.log
              rw [← makes.localClassP] at finds
              refine .made after devNode length log (kept_trans named (kept_trans kept makes.kept))
                finds ?_ makes.classP makes.device ?_
              · rw [makes.node, same]
              · rw [makes.channelP, same]

/-- The ends of `create_channel`: the kernel refuses the channel, or it was granted and
something else fails, or the whole channel is there. -/
inductive CreatesChannel (ref : ChannelRef) (module : DmaProxyModule) :
    Int → DmaProxyModule → Log → Prop where
  | refused (after : DmaProxyModule) (kept : Kept ref module after)
      (classP : after.localClassP = module.localClassP) :
      CreatesChannel ref module error after [⟨.dmaRequestSlaveChannel ref, false⟩]
  | noCdevice (middle after : DmaProxyModule) (rc : Int) (log : Log) (kept : Kept ref module middle)
      (classP : middle.localClassP = module.localClassP) (failed : rc ≠ 0)
      (inits : InitsCdevice ref middle rc after log) :
      CreatesChannel ref module rc after (⟨.dmaRequestSlaveChannel ref, true⟩ :: log)
  | made (middle after : DmaProxyModule) (log : Log) (allocated : Bool)
      (kept : Kept ref module middle) (classP : middle.localClassP = module.localClassP)
      (granted : (middle.channel ref).channelP = true)
      (inits : InitsCdevice ref middle 0 after log) :
      CreatesChannel ref module (if allocated then 0 else error) after
        (⟨.dmaRequestSlaveChannel ref, true⟩ :: (log ++ [⟨.dmamAllocCoherent ref.pdev, allocated⟩]))

theorem traces_createChannel (grants : Grants env) (ref : ChannelRef) (module : DmaProxyModule) :
    Traces env (createChannel ref) module (CreatesChannel ref module) := by
  apply traces_request_bind
  intro world
  generalize (env.respond (.dmaRequestSlaveChannel ref) world).1 = granted
  apply traces_modify_bind
  have named := kept_setChannel ref module { module.channel ref with channelP := granted }
  cases granted with
  | false => exact traces_done (.refused _ named rfl)
  | true =>
      apply traces_bind (traces_cdeviceInit grants ref _)
      intro rc after log inits
      apply traces_if
      · intro failed
        apply traces_done
        rw [List.append_nil]
        exact .noCdevice _ after rc log named rfl failed inits
      · intro fine
        rw [not_not] at fine
        rw [fine] at inits
        apply traces_request_bind
        intro later
        generalize (env.respond (.dmamAllocCoherent ref.pdev) later).1 = allocated
        have holds : CreatesChannel ref module (if allocated then 0 else error) after
            (⟨.dmaRequestSlaveChannel ref, true⟩ ::
              (log ++ [⟨.dmamAllocCoherent ref.pdev, allocated⟩])) :=
          .made _ after log allocated named rfl (by rw [channel_setChannel]) inits
        cases allocated with
        | false => exact traces_done holds
        | true => exact traces_done holds

end Channels

section Devices

variable {pdev : Pdev}

def counted (module : DmaProxyModule) : DmaProxyModule :=
  { module with totalCount := module.totalCount + 1 }

/-- The ends of the loop of a probe, which stops at the first channel that fails. -/
inductive CreatesChannels (pdev : Pdev) :
    Nat → Nat → DmaProxyModule → Int → DmaProxyModule → Log → Prop where
  | finished (place : Nat) (module : DmaProxyModule) :
      CreatesChannels pdev 0 place module 0 module []
  | stopped (left place : Nat) (module after : DmaProxyModule) (rc : Int) (log : Log)
      (failed : rc ≠ 0)
      (creates : CreatesChannel ⟨pdev, place⟩ module rc after log) :
      CreatesChannels pdev (left + 1) place module rc after log
  | created (left place : Nat) (module middle after : DmaProxyModule) (rc : Int) (log others : Log)
      (creates : CreatesChannel ⟨pdev, place⟩ module 0 middle log)
      (rest : CreatesChannels pdev left (place + 1) (counted middle) rc after others) :
      CreatesChannels pdev (left + 1) place module rc after (log ++ others)

theorem traces_createChannels (grants : Grants env) (pdev : Pdev) (left place : Nat)
    (module : DmaProxyModule) :
    Traces env (createChannels pdev left place) module
      (CreatesChannels pdev left place module) := by
  induction left generalizing place module with
  | zero => exact traces_done (.finished place module)
  | succ left ih =>
      apply traces_bind (traces_createChannel grants ⟨pdev, place⟩ module)
      intro rc middle log creates
      apply traces_if
      · intro failed
        apply traces_done
        rw [List.append_nil]
        exact .stopped left place module middle rc log failed creates
      · intro fine
        rw [not_not] at fine
        rw [fine] at creates
        apply traces_modify_bind
        apply traces_mono (ih (place + 1) (counted middle))
        intro rc after others rest
        exact .created left place module middle after rc log others creates rest

/-- A request that only prepares a device. -/
def Prepares : ModuleCall → Prop
  | .devmKmalloc _ | .devmKmallocArray _ | .devmKmallocChannels _ | .readStringArrayCount _
  | .readStringArray _ => True
  | _ => False

/-- The ends of a probe: it does not come to a channel, or it creates channels, as many as the
device names or until one fails. -/
inductive Probes (pdev : Pdev) (module : DmaProxyModule) : Int → DmaProxyModule → Log → Prop where
  | unready (after : DmaProxyModule) (rc : Int) (front : Log)
      (prepares : ∀ exchange ∈ front, Prepares exchange.request) (apart : Apart pdev module after)
      (totalCount : after.totalCount = module.totalCount)
      (localClassP : after.localClassP = module.localClassP)
      (empty : rc = 0 → (after.drvdata pdev).channelCount ≤ 0) : Probes pdev module rc after front
  | creating (middle after : DmaProxyModule) (count : Nat) (rc : Int) (front log : Log)
      (prepares : ∀ exchange ∈ front, Prepares exchange.request) (apart : Apart pdev module middle)
      (totalCount : middle.totalCount = module.totalCount)
      (localClassP : middle.localClassP = module.localClassP)
      (named : (middle.drvdata pdev).channelCount = count)
      (creates : CreatesChannels pdev count 0 middle rc after log) :
      Probes pdev module rc after (front ++ log)

theorem traces_probeChannels (grants : Grants env) (pdev : Pdev) (count : Nat) (front : Log)
    (prepares : ∀ exchange ∈ front, Prepares exchange.request) (apart : Apart pdev module middle)
    (totalCount : middle.totalCount = module.totalCount)
    (localClassP : middle.localClassP = module.localClassP)
    (named : (middle.drvdata pdev).channelCount = count) :
    Traces env (probeChannels pdev count) middle
      fun rc after log => Probes pdev module rc after (front ++ log) := by
  have unready : ∀ rc : Int, rc ≠ 0 → ∀ log : Log, (∀ exchange ∈ log, Prepares exchange.request) →
      Probes pdev module rc middle (front ++ log) := by
    intro rc failed log quiet
    exact .unready middle rc _ (List.forall_mem_append.mpr ⟨prepares, quiet⟩) apart totalCount
      localClassP fun fine => absurd fine failed
  apply traces_request_bind
  intro world
  generalize (env.respond (.devmKmallocArray pdev) world).1 = names
  cases names with
  | false => exact traces_done (unready _ enomem.code_ne_zero [_] (by simp [Prepares]))
  | true =>
      apply traces_request_bind
      intro later
      generalize (env.respond (.readStringArray pdev) later).1 = rc
      apply traces_if
      · intro failed
        exact traces_done (unready rc failed.ne [_, _] (by simp [Prepares]))
      · intro _
        apply traces_request_bind
        intro last
        generalize (env.respond (.devmKmallocChannels pdev) last).1 = block
        cases block with
        | none => exact traces_done (unready _ enomem.code_ne_zero [_, _, _] (by simp [Prepares]))
        | some channels =>
            apply traces_modify_bind
            apply traces_mono (traces_createChannels grants pdev count 0 _)
            intro code after log creates
            have held := @Probes.creating pdev module _ after count code
              (front ++ [⟨.devmKmallocArray pdev, true⟩, ⟨.readStringArray pdev, rc⟩,
                ⟨.devmKmallocChannels pdev, some channels⟩]) log
              (List.forall_mem_append.mpr ⟨prepares, by simp [Prepares]⟩)
              (apart_trans apart (apart_setDrvdata pdev middle _)) totalCount localClassP
              (by rw [drvdata_setDrvdata]; exact named) creates
            rw [List.append_assoc] at held
            exact held

theorem traces_dmaProxyProbe (grants : Grants env) (pdev : Pdev) (module : DmaProxyModule) :
    Traces env (dmaProxyProbe pdev) module (Probes pdev module) := by
  apply traces_request_bind
  intro world
  generalize (env.respond (.devmKmalloc pdev) world).1 = block
  cases block with
  | none =>
      apply traces_done
      exact .unready module enomem.code [_] (by simp [Prepares]) (fun _ _ => rfl) rfl rfl
        fun fine => absurd fine enomem.code_ne_zero
  | some proxy =>
      apply traces_modify_bind
      apply traces_request_bind
      intro later
      generalize (env.respond (.readStringArrayCount pdev) later).1 = channelCount
      apply traces_modify_bind
      have apart : Apart pdev module ((module.setDrvdata pdev proxy).setDrvdata pdev
          { (module.setDrvdata pdev proxy).drvdata pdev with channelCount := channelCount }) :=
        apart_trans (apart_setDrvdata pdev module proxy) (apart_setDrvdata pdev _ _)
      apply traces_if
      · intro empty
        apply traces_done
        refine .unready _ 0 [_, _] (by simp [Prepares]) apart rfl rfl fun _ => ?_
        rw [drvdata_setDrvdata]
        exact empty
      · intro some
        obtain ⟨count, rfl⟩ := Int.eq_ofNat_of_zero_le (Int.not_le.mp some).le
        exact traces_probeChannels grants pdev count [_, _] (by simp [Prepares]) apart rfl rfl
          (by rw [drvdata_setDrvdata])

/-- What a remove asks of a channel that a probe has made. -/
def Whole (channel : ProxyChannel) : Prop :=
  channel.channelP = true ∧ channel.proxyDeviceP.isSome = true

def exitLog (ref : ChannelRef) (channel : ProxyChannel) (totalCount : Int) : Log :=
  ⟨.deviceDestroy channel.classP channel.devNode, ()⟩ ::
    ((if totalCount = 1 then [⟨.classDestroy channel.classP, ()⟩] else []) ++
      [⟨.cdevDel ref, ()⟩, ⟨.unregisterChrdevRegion channel.devNode, ()⟩])

def exitLogs (pdev : Pdev) (channels : Nat → ProxyChannel) : Int → Nat → Nat → Log
  | _, 0, _ => []
  | totalCount, left + 1, place =>
      exitLog ⟨pdev, place⟩ (channels place) totalCount ++
        exitLogs pdev channels (totalCount - 1) left (place + 1)

def releaseLogs (pdev : Pdev) : Nat → Nat → Log
  | 0, _ => []
  | left + 1, place =>
      ⟨.deviceTerminateAll ⟨pdev, place⟩, ()⟩ :: ⟨.dmaReleaseChannel ⟨pdev, place⟩, ()⟩ ::
        releaseLogs pdev left (place + 1)

def discounted (module : DmaProxyModule) (count : Nat) : DmaProxyModule :=
  { module with totalCount := module.totalCount - count }

theorem traces_cdeviceExit (ref : ChannelRef) (module : DmaProxyModule)
    (whole : Whole (module.channel ref)) :
    Traces env (cdeviceExit ref) module fun _ after log =>
      after = module ∧ log = exitLog ref (module.channel ref) module.totalCount := by
  apply traces_field_bind
  rw [whenever, if_pos whole.2]
  apply traces_request_bind
  intro _
  apply traces_field_bind
  rw [exitLog]
  by_cases last : module.totalCount = 1
  · rw [whenever, if_pos last, if_pos last]
    apply traces_request_bind
    intro _
    apply traces_request_bind
    intro _
    apply traces_request_bind
    intro _
    exact traces_done ⟨rfl, rfl⟩
  · rw [whenever, if_neg last, if_neg last]
    apply traces_request_bind
    intro _
    apply traces_request_bind
    intro _
    exact traces_done ⟨rfl, rfl⟩

theorem traces_exitChannels (pdev : Pdev) (left place : Nat) (module : DmaProxyModule)
    (whole : ∀ later < left, Whole (module.channel ⟨pdev, place + later⟩)) :
    Traces env (exitChannels pdev left place) module fun _ after log =>
      after = discounted module left ∧
        log = exitLogs pdev (module.drvdata pdev).channels module.totalCount left place := by
  induction left generalizing place module with
  | zero =>
      apply traces_done
      rw [discounted, Nat.cast_zero, sub_zero]
      exact ⟨rfl, rfl⟩
  | succ left ih =>
      have here : Whole (module.channel ⟨pdev, place⟩) := whole 0 (Nat.succ_pos left)
      apply traces_field_bind
      rw [whenever, if_pos here.2]
      apply traces_bind (traces_cdeviceExit ⟨pdev, place⟩ module here)
      rintro _ _ _ ⟨rfl, rfl⟩
      apply traces_modify_bind
      apply traces_mono (ih (place + 1) _ ?_)
      · rintro _ _ _ ⟨rfl, rfl⟩
        constructor
        · rw [discounted, discounted, Nat.cast_succ]
          congr 1
          exact (sub_sub _ _ _).trans (congrArg _ (add_comm _ _))
        · rfl
      · intro later bound
        rw [Nat.add_right_comm]
        exact whole (later + 1) (Nat.succ_lt_succ bound)

theorem traces_releaseChannels (pdev : Pdev) (left place : Nat) (module : DmaProxyModule)
    (whole : ∀ later < left, Whole (module.channel ⟨pdev, place + later⟩)) :
    Traces env (releaseChannels pdev left place) module fun _ after log =>
      after = module ∧ log = releaseLogs pdev left place := by
  induction left generalizing place with
  | zero => exact traces_done ⟨rfl, rfl⟩
  | succ left ih =>
      have here : Whole (module.channel ⟨pdev, place⟩) := whole 0 (Nat.succ_pos left)
      apply traces_field_bind
      rw [whenever, if_pos here.1]
      apply traces_request_bind
      intro _
      apply traces_request_bind
      intro _
      apply traces_mono (ih (place + 1) ?_)
      · rintro _ _ _ ⟨rfl, rfl⟩
        exact ⟨rfl, rfl⟩
      · intro later bound
        rw [Nat.add_right_comm]
        exact whole (later + 1) (Nat.succ_lt_succ bound)

/-- The end of a remove of a device whose channels are all whole. -/
structure Removes (pdev : Pdev) (count : Nat) (module : DmaProxyModule) (rc : Int)
    (after : DmaProxyModule) (log : Log) : Prop where
  rc : rc = 0
  after : after = discounted module count
  log : log = exitLogs pdev (module.drvdata pdev).channels module.totalCount count 0 ++
    releaseLogs pdev count 0

theorem traces_dmaProxyRemove (pdev : Pdev) (module : DmaProxyModule)
    (whole : ∀ place < (module.drvdata pdev).channelCount.toNat,
      Whole (module.channel ⟨pdev, place⟩)) :
    Traces env (dmaProxyRemove pdev) module
      (Removes pdev (module.drvdata pdev).channelCount.toNat module) := by
  have fromStart : ∀ later < (module.drvdata pdev).channelCount.toNat,
      Whole (module.channel ⟨pdev, 0 + later⟩) := by
    intro later bound
    rw [Nat.zero_add]
    exact whole later bound
  apply traces_field_bind
  apply traces_bind (traces_exitChannels pdev _ 0 module fromStart)
  rintro _ _ _ ⟨rfl, rfl⟩
  apply traces_bind (traces_releaseChannels pdev _ 0 (discounted module _) fromStart)
  rintro _ _ _ ⟨rfl, rfl⟩
  apply traces_done
  rw [List.append_nil]
  exact ⟨rfl, rfl, rfl⟩

end Devices

end Ebaz4205.DmaProxyCalls
