import Mathlib.Data.Finset.Insert
import Ebaz4205.DmaProxyCalls
import Ebaz4205.PartialRuns

/-!
# The DMA proxy on the platform bus

The bus probes a device that is not bound and removes one that is; a device is bound by a
probe that returns 0. Every channel of a bound device is whole, since a probe stops at the
first that fails.
-/

namespace Ebaz4205.DmaProxyBus

open DriverProgram DriverProgram.Program PartialRuns DmaProxyProbe DmaProxyCalls

set_option autoImplicit false

inductive BusEvent where
  | probe (pdev : Pdev)
  | remove (pdev : Pdev)
  deriving DecidableEq

structure BusState (World : Type) where
  machine : Machine moduleSignature World
  bound : Finset Pdev

/-- A call of the driver: what it returned and what it asked for. -/
structure Served where
  event : BusEvent
  rc : Int
  log : Log

namespace BusEvent

def program : BusEvent → ModuleProgram Int
  | .probe pdev => dmaProxyProbe pdev
  | .remove pdev => dmaProxyRemove pdev

def Due (bound : Finset Pdev) : BusEvent → Prop
  | .probe pdev => pdev ∉ bound
  | .remove pdev => pdev ∈ bound

instance (bound : Finset Pdev) : DecidablePred (Due bound)
  | .probe pdev => inferInstanceAs (Decidable (pdev ∉ bound))
  | .remove pdev => inferInstanceAs (Decidable (pdev ∈ bound))

def binds (bound : Finset Pdev) (rc : Int) : BusEvent → Finset Pdev
  | .probe pdev => if rc = 0 then insert pdev bound else bound
  | .remove pdev => bound.erase pdev

end BusEvent

variable {World : Type}

def bus (env : Environment moduleSignature World) :
    Transducer (BusState World) BusEvent Served where
  step := fun state event =>
    if event.Due state.bound then
      match event.program.exec env state.machine with
      | (.returned rc, machine) => some
          (⟨event, rc, event.program.exchanges env state.machine⟩,
            ⟨machine, event.binds state.bound rc⟩)
      | _ => none
    else none

variable {env : Environment moduleSignature World} {module middle after : DmaProxyModule}
  {ref : ChannelRef} {pdev : Pdev} {rc : Int} {log : Log} {left place : Nat}

section Channels

theorem kept_of_inits (inits : InitsCdevice ref module rc after log) : Kept ref module after := by
  cases inits with
  | noRegion errno => exact kept_refl ref module
  | noCdev _ devNode errno kept classP => exact kept
  | badClass _ devNode log kept finds => exact kept
  | made _ devNode length log kept finds node classP device channelP => exact kept

theorem kept_of_creates (creates : CreatesChannel ref module rc after log) :
    Kept ref module after := by
  cases creates with
  | refused _ kept classP => exact kept
  | noCdevice middle _ _ log kept classP failed inits => exact kept_trans kept (kept_of_inits inits)
  | made middle _ log allocated kept classP granted inits =>
      exact kept_trans kept (kept_of_inits inits)

theorem whole_of_inits (inits : InitsCdevice ref module 0 after log)
    (granted : (module.channel ref).channelP = true) : Whole (after.channel ref) := by
  generalize fine : (0 : Int) = code at inits
  cases inits with
  | noRegion errno => exact absurd fine.symm errno.code_ne_zero
  | noCdev _ devNode errno kept classP => exact absurd fine.symm errno.code_ne_zero
  | badClass _ devNode log kept finds => exact absurd fine (by decide)
  | made _ devNode length log kept finds node classP device channelP =>
      rw [Whole, channelP, device]
      exact ⟨granted, rfl⟩

theorem whole_of_creates (creates : CreatesChannel ref module rc after log) (fine : rc = 0) :
    Whole (after.channel ref) := by
  cases creates with
  | refused _ kept classP => exact absurd fine (by decide)
  | noCdevice middle _ _ log kept classP failed inits => exact absurd fine failed
  | made middle _ log allocated kept classP granted inits => exact whole_of_inits inits granted

/-- What a channel holds stays as it is while later channels are created. -/
theorem channel_of_creates (creates : CreatesChannels pdev left place module rc after log)
    {earlier : Nat} (before : earlier < place) :
    after.channel ⟨pdev, earlier⟩ = module.channel ⟨pdev, earlier⟩ := by
  have away : ∀ place, earlier < place → ChannelRef.mk pdev earlier ≠ ⟨pdev, place⟩ := by
    intro place before same
    cases same
    exact lt_irrefl _ before
  induction creates with
  | finished place module => rfl
  | stopped left place module after rc log failed creates =>
      exact (kept_of_creates creates).channels _ (away place before)
  | created left place module middle after rc log others creates rest ih =>
      rw [ih (Nat.lt_succ_of_lt before)]
      exact (kept_of_creates creates).channels _ (away place before)

theorem count_of_creates (creates : CreatesChannels pdev left place module rc after log)
    (other : Pdev) : (after.drvdata other).channelCount = (module.drvdata other).channelCount := by
  induction creates with
  | finished place module => rfl
  | stopped left place module after rc log failed creates =>
    exact (kept_of_creates creates).counts other
  | created left place module middle after rc log others creates rest ih =>
      rw [ih]
      exact (kept_of_creates creates).counts other

theorem apart_of_creates (creates : CreatesChannels pdev left place module rc after log) :
    Apart pdev module after := by
  induction creates with
  | finished place module => exact fun _ _ => rfl
  | stopped left place module after rc log failed creates =>
    exact apart_of_kept (kept_of_creates creates)
  | created left place module middle after rc log others creates rest ih =>
      exact apart_trans (apart_of_kept (kept_of_creates creates)) ih

theorem all_whole_of_creates (creates : CreatesChannels pdev left place module rc after log)
    (fine : rc = 0) : ∀ later < left, Whole (after.channel ⟨pdev, place + later⟩) := by
  induction creates with
  | finished place module => exact fun later bound => absurd bound (Nat.not_lt_zero later)
  | stopped left place module after rc log failed creates => exact absurd fine failed
  | created left place module middle after rc log others creates rest ih =>
      intro later bound
      cases later with
      | zero =>
          rw [Nat.add_zero, channel_of_creates rest (Nat.lt_succ_self place)]
          exact (whole_of_creates creates rfl : Whole (middle.channel ⟨pdev, place⟩))
      | succ later =>
          rw [← Nat.add_assoc, Nat.add_right_comm]
          exact ih fine later (Nat.lt_of_succ_lt_succ bound)

end Channels

section Devices

/-- Every channel of the device is whole. -/
def Wired (module : DmaProxyModule) (pdev : Pdev) : Prop :=
  ∀ place < (module.drvdata pdev).channelCount.toNat, Whole (module.channel ⟨pdev, place⟩)

theorem apart_of_probes (probes : Probes pdev module rc after log) : Apart pdev module after := by
  cases probes with
  | unready _ _ _ prepares apart totalCount localClassP empty => exact apart
  | creating middle _ count _ front others prepares apart totalCount localClassP named creates =>
      exact apart_trans apart (apart_of_creates creates)

theorem wired_of_probes (probes : Probes pdev module rc after log) (fine : rc = 0) :
    Wired after pdev := by
  cases probes with
  | unready _ _ _ prepares apart totalCount localClassP empty =>
      intro place bound
      rw [Int.toNat_of_nonpos (empty fine)] at bound
      exact absurd bound (Nat.not_lt_zero place)
  | creating middle _ count _ front others prepares apart totalCount localClassP named creates =>
      intro place bound
      rw [count_of_creates creates, named, Int.toNat_natCast] at bound
      have whole := all_whole_of_creates creates fine place bound
      rw [Nat.zero_add] at whole
      exact whole

theorem wired_of_drvdata (same : after.drvdata pdev = module.drvdata pdev)
    (wired : Wired module pdev) :
    Wired after pdev := by
  intro place bound
  rw [same] at bound
  rw [DmaProxyModule.channel, same]
  exact wired place bound

end Devices

section Steps

variable {state next : BusState World} {event : BusEvent} {served : Served}

def AllWired (state : BusState World) : Prop :=
  ∀ pdev ∈ state.bound, Wired state.machine.memory pdev

/-- What a call of the driver can do. -/
inductive Serves (state : BusState World) : Served → BusState World → Prop where
  | probed (pdev : Pdev) (rc : Int) (log : Log) (machine : Machine moduleSignature World)
      (unbound : pdev ∉ state.bound)
      (probes : Probes pdev state.machine.memory rc machine.memory log) :
      Serves state ⟨.probe pdev, rc, log⟩ ⟨machine, BusEvent.binds state.bound rc (.probe pdev)⟩
  | removed (pdev : Pdev) (rc : Int) (log : Log) (machine : Machine moduleSignature World)
      (bound : pdev ∈ state.bound)
      (removes : Removes pdev (state.machine.memory.drvdata pdev).channelCount.toNat
        state.machine.memory rc machine.memory log) :
      Serves state ⟨.remove pdev, rc, log⟩ ⟨machine, state.bound.erase pdev⟩

theorem serves_of_step (grants : Grants env) (wired : AllWired state)
    (stepped : (bus env).step state event = some (served, next)) : Serves state served next := by
  rw [bus] at stepped
  dsimp only at stepped
  split_ifs at stepped with due
  obtain ⟨⟨memory, world⟩, bound⟩ := state
  cases event with
  | probe pdev =>
      obtain ⟨rc, after, ran, probes⟩ := (traces_dmaProxyProbe grants pdev memory).returns world
      rw [BusEvent.program, ran] at stepped
      cases stepped
      exact .probed pdev rc _ after due probes
  | remove pdev =>
      obtain ⟨rc, after, ran, removes⟩ :=
        (@traces_dmaProxyRemove _ env pdev memory (wired pdev due)).returns world
      rw [BusEvent.program, ran] at stepped
      cases stepped
      exact .removed pdev rc _ after due removes

theorem allWired_of_serves (wired : AllWired state) (serves : Serves state served next) :
    AllWired next := by
  cases serves with
  | probed pdev rc log machine unbound probes =>
      intro other member
      have elsewhere : ∀ other ∈ state.bound, Wired machine.memory other := by
        intro other held
        have away : other ≠ pdev := fun same => unbound (same ▸ held)
        exact wired_of_drvdata (apart_of_probes probes other away) (wired other held)
      rw [BusEvent.binds] at member
      split_ifs at member with fine
      · rcases Finset.mem_insert.mp member with rfl | held
        · exact wired_of_probes probes fine
        · exact elsewhere other held
      · exact elsewhere other member
  | removed pdev rc log machine bound removes =>
      intro other member
      have held := Finset.mem_of_mem_erase member
      dsimp only
      rw [removes.after]
      exact wired_of_drvdata rfl (wired other held)

end Steps

end Ebaz4205.DmaProxyBus
