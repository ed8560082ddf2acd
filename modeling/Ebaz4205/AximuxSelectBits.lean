import Ebaz4205.AximuxSourceFiles

/-!
# The select register as a bit for every port

Calls of `aximux_set_src` come from the sysfs files and from other drivers, each
with a memory of its own, and meet in one register. Below the mask a call replaces
the bit of its port; what stood outside the mask is lost with the first call.
-/

namespace Ebaz4205.AximuxSelectBits

open DriverProgram DriverProgram.Program PartialRuns PulsecapDriver PlatformKernel AximuxDriver
open AximuxOperations AximuxSourceFiles

set_option autoImplicit false

/-- A call of `aximux_set_src` from some driver, and what that driver keeps. -/
structure SetSrcCall where
  Array : Type
  length : Array → Nat
  Memory : Type
  memory : Memory
  port : U32
  source : U32

/-- The multiplexer at `dev`, called by any driver. -/
def setSrc (dev : Address) : Transducer KernelWorld SetSrcCall Unit where
  step := fun world asked =>
    match (aximuxSetSrc (some dev) asked.port asked.source :
        Program (driverSignature asked.Array asked.length asked.Memory) Unit).exec kernel
          ⟨asked.memory, world⟩ with
    | (.returned (), after) => some ((), after.world)
    | _ => none

/-- The last call on a port, if there was one. -/
def lastCall (port : Nat) (calls : List SetSrcCall) : Option SetSrcCall :=
  (calls.filter fun asked => asked.port.toNat = port).getLast?

/-- The source of a port: that of the last call on it, or else the initial one. -/
def portSource (initial : Bool) : Option SetSrcCall → Bool
  | none => initial
  | some asked => asked.source ≠ 0

/-- `aximux_get_src` of this port stores this value, whoever asks. -/
def PortReads (dev : Address) (world : KernelWorld) (port : U32) (value : Bool) : Prop :=
  ∀ memory, (aximuxGetSrc (some dev) port .valid).exec kernel ⟨memory, world⟩ =
    (.returned (some (if value then 1 else 0)), ⟨memory, world⟩)

def InWord (calls : List SetSrcCall) : Prop := ∀ asked ∈ calls, asked.port.toNat < 32

/-- The register of one multiplexer keeps a bit for each port below the mask, and
nothing else. -/
structure IndependentBits (dev : Address) : Prop where
  returns : ∀ world calls, InWord calls → ∃ after, (setSrc dev).Reaches world calls after
  ports : ∀ world calls after, InWord calls → (setSrc dev).Reaches world calls after →
    ∀ port : U32, port.toNat < 8 → PortReads dev after port
      (portSource ((world.shared.select dev).getLsbD port.toNat) (lastCall port.toNat calls))
  commute : ∀ world before first second rest after, InWord [first, second] →
    first.port ≠ second.port →
    ((setSrc dev).Reaches world (before ++ first :: second :: rest) after ↔
      (setSrc dev).Reaches world (before ++ second :: first :: rest) after)
  masked : ∀ world calls after, InWord calls → calls ≠ [] →
    (setSrc dev).Reaches world calls after →
    after.shared.select dev &&& ~~~aximuxSelMask = 0
  beyond : ∀ world calls after, InWord calls → calls ≠ [] →
    (setSrc dev).Reaches world calls after →
    ∀ port : U32, 8 ≤ port.toNat → port.toNat < 32 → PortReads dev after port false

section Words

variable {select : U32} {first second : Nat} {value other : Bool}

theorem selected_comm (apart : first ≠ second) :
    selected (selected select first value) second other =
      selected (selected select second other) first value := by
  apply BitVec.eq_of_getLsbD_eq
  intro bit _
  simp only [getLsbD_selected]
  by_cases own : bit = first
  · have notSecond : bit ≠ second := by
      rw [own]
      exact apart
    rw [if_neg notSecond, if_pos own, if_pos own]
    cases decide (bit < 8) <;> simp
  · rw [if_neg own, if_neg own]
    cases decide (bit < 8) <;> simp

theorem selected_masked (select : U32) (port : Nat) (value : Bool) :
    selected select port value &&& ~~~aximuxSelMask = 0 := by
  rw [selected, BitVec.and_assoc]
  simp

/-- Outside the mask nothing is left to read. -/
theorem getLsbD_of_masked (masked : select &&& ~~~aximuxSelMask = 0) {bit : Nat}
    (outside : 8 ≤ bit) : select.getLsbD bit = false := by
  by_cases inWord : bit < 32
  · have kept : (select &&& ~~~aximuxSelMask).getLsbD bit = select.getLsbD bit := by
      rw [BitVec.getLsbD_and, BitVec.getLsbD_not, getLsbD_selMask,
        decide_eq_false (Nat.not_lt.mpr outside), decide_eq_true inWord]
      simp
    rw [← kept, masked]
    exact BitVec.getLsbD_zero
  · exact BitVec.getLsbD_of_ge _ _ (Nat.not_lt.mp inWord)

end Words

section Calls

variable {dev : Address} {world after : KernelWorld} {asked : SetSrcCall}
  {calls : List SetSrcCall}

/-- What one call leaves. -/
def afterCall (dev : Address) (world : KernelWorld) (asked : SetSrcCall) : KernelWorld :=
  world.writeSelect dev
    (selected (world.shared.select dev) asked.port.toNat (asked.source ≠ 0))

@[simp] theorem afterCall_select (dev : Address) (world : KernelWorld) (asked : SetSrcCall) :
    (afterCall dev world asked).shared.select dev =
      selected (world.shared.select dev) asked.port.toNat (asked.source ≠ 0) :=
  Function.update_self _ _ _

theorem step_setSrc (inWord : asked.port.toNat < 32) :
    (setSrc dev).step world asked = some ((), afterCall dev world asked) := by
  have ran : (aximuxSetSrc (some dev) asked.port asked.source :
      Program (driverSignature asked.Array asked.length asked.Memory) Unit).exec kernel
        ⟨asked.memory, world⟩ = _ := exec_aximuxSetSrc dev asked.port asked.source inWord
  rw [setSrc]
  dsimp only
  rw [ran]
  rfl

theorem reaches_setSrc (inWord : InWord calls) :
    (setSrc dev).Reaches world calls after ↔ after = calls.foldl (afterCall dev) world := by
  induction calls generalizing world with
  | nil => exact Transducer.reaches_nil world after
  | cons asked rest ih =>
      have here := inWord asked List.mem_cons_self
      have later : InWord rest := fun other member => inWord other (List.mem_cons_of_mem _ member)
      rw [Transducer.reaches_cons, List.foldl_cons, ← ih later]
      constructor
      · rintro ⟨output, next, stepped, tail⟩
        rw [step_setSrc here, Option.some.injEq, Prod.mk.injEq] at stepped
        rw [stepped.2]
        exact tail
      · intro tail
        exact ⟨(), _, step_setSrc here, tail⟩

theorem afterCall_comm {first second : SetSrcCall} (apart : first.port ≠ second.port) :
    afterCall dev (afterCall dev world first) second =
      afterCall dev (afterCall dev world second) first := by
  have ports : first.port.toNat ≠ second.port.toNat := by
    intro same
    exact apart (BitVec.eq_of_toNat_eq same)
  simp only [afterCall, KernelWorld.writeSelect, Function.update_self, Function.update_idem,
    selected_comm ports]

theorem lastCall_append (port : Nat) (calls : List SetSrcCall) (asked : SetSrcCall) :
    lastCall port (calls ++ [asked]) =
      if asked.port.toNat = port then some asked else lastCall port calls := by
  rw [lastCall, List.filter_append]
  by_cases own : asked.port.toNat = port
  · rw [if_pos own, List.filter_cons_of_pos (by simp [own]), List.filter_nil,
      List.getLast?_concat]
  · rw [if_neg own, List.filter_cons_of_neg (by simp [own]), List.filter_nil, List.append_nil,
      lastCall]

/-- The induction is on the calls from the last one back, as the bit is that of
the last call. -/
theorem foldl_select (port : Nat) (inMask : port < 8) :
    ((calls.foldl (afterCall dev) world).shared.select dev).getLsbD port =
      portSource ((world.shared.select dev).getLsbD port) (lastCall port calls) := by
  induction calls using List.reverseRecOn with
  | nil => rfl
  | append_singleton rest asked ih =>
      rw [List.foldl_append, List.foldl_cons, List.foldl_nil, afterCall_select, getLsbD_selected,
        decide_eq_true inMask, Bool.true_and, lastCall_append]
      by_cases own : asked.port.toNat = port
      · rw [if_pos own, if_pos own.symm]
        rfl
      · rw [if_neg own, if_neg (Ne.symm own)]
        exact ih

theorem foldl_masked (called : calls ≠ []) :
    (calls.foldl (afterCall dev) world).shared.select dev &&& ~~~aximuxSelMask = 0 := by
  induction calls using List.reverseRecOn with
  | nil => exact absurd rfl called
  | append_singleton rest asked _ =>
      rw [List.foldl_append, List.foldl_cons, List.foldl_nil, afterCall_select]
      exact selected_masked _ _ _

theorem portReads_bit (world : KernelWorld) {port : U32} (inWord : port.toNat < 32) :
    PortReads dev world port ((world.shared.select dev).getLsbD port.toNat) := by
  intro memory
  exact exec_aximuxGetSrc port inWord

theorem reaches_swap {before rest : List SetSrcCall} {first second : SetSrcCall}
    (inWord : InWord [first, second]) (apart : first.port ≠ second.port) :
    (setSrc dev).Reaches world (before ++ first :: second :: rest) after ↔
      (setSrc dev).Reaches world (before ++ second :: first :: rest) after := by
  have swapped : InWord [second, first] := by
    intro asked member
    exact inWord asked (by simpa [or_comm] using member)
  have split : ∀ one other : SetSrcCall, one :: other :: rest = [one, other] ++ rest :=
    fun _ _ => rfl
  rw [Transducer.reaches_append, Transducer.reaches_append, split, split]
  apply exists_congr
  intro middle
  apply and_congr_right
  intro _
  rw [Transducer.reaches_append, Transducer.reaches_append]
  apply exists_congr
  intro final
  apply and_congr_left
  intro _
  rw [reaches_setSrc inWord, reaches_setSrc swapped, List.foldl_cons, List.foldl_cons,
    List.foldl_cons, List.foldl_cons, List.foldl_nil, List.foldl_nil, afterCall_comm apart]

end Calls

theorem ports_are_independent (dev : Address) : IndependentBits dev where
  returns := by
    intro world calls inWord
    exact ⟨_, (reaches_setSrc inWord).mpr rfl⟩
  ports := by
    intro world calls after inWord reached port inMask
    have bit := @portReads_bit dev after port (Nat.lt_trans inMask (by decide))
    rw [(reaches_setSrc inWord).mp reached] at bit ⊢
    rw [foldl_select _ inMask] at bit
    exact bit
  commute := by
    intro world before first second rest after inWord apart
    exact reaches_swap inWord apart
  masked := by
    intro world calls after inWord called reached
    rw [(reaches_setSrc inWord).mp reached]
    exact foldl_masked called
  beyond := by
    intro world calls after inWord called reached port outside bound
    have bit := @portReads_bit dev after port bound
    have masked : after.shared.select dev &&& ~~~aximuxSelMask = 0 := by
      rw [(reaches_setSrc inWord).mp reached]
      exact foldl_masked called
    rw [getLsbD_of_masked masked outside] at bit
    exact bit

end Ebaz4205.AximuxSelectBits
