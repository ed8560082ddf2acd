import Ebaz4205.DmaProxyBooks

/-!
# The class that all channels share

The first channel of all creates the class, and the remove of the last channel that is counted
destroys it. The pointer to it stays, so a later probe finds it and uses what is gone.
-/

namespace Ebaz4205.DmaProxyClass

open DriverProgram PartialRuns DmaProxyProbe DmaProxyCalls DmaProxyBus DmaProxyBooks ResourceLedger

set_option autoImplicit false

def classEntries : Exchange moduleSignature → Ledger (Option ClassResult)
  | ⟨.classCreate, .ok address⟩ => [.acquired (some (.ok address))]
  | ⟨.deviceCreate classP _, _⟩ => [.used classP]
  | ⟨.deviceDestroy classP _, _⟩ => [.used classP]
  | ⟨.classDestroy classP, _⟩ => [.released classP]
  | _ => []

def classBooks (log : Log) : Ledger (Option ClassResult) := log.flatMap classEntries

/-- A device node is asked for. -/
def Makes (log : Log) : Prop := ∃ classP devNode reply, ⟨.deviceCreate classP devNode, reply⟩ ∈ log

def Destroys (log : Log) : Prop := ∃ classP, ⟨.classDestroy classP, ()⟩ ∈ log

variable {module middle after : DmaProxyModule} {ref : ChannelRef} {pdev : Pdev} {rc : Int}
  {log others : Log} {left place nodes more : Nat} {before between later : Option ClassResult}
  {ledger rest past : Ledger (Option ClassResult)}

section Books

@[simp] theorem classBooks_nil : classBooks [] = [] := rfl

@[simp] theorem classBooks_cons (exchange : Exchange moduleSignature) (log : Log) :
    classBooks (exchange :: log) = classEntries exchange ++ classBooks log := rfl

@[simp] theorem classBooks_append (log others : Log) :
    classBooks (log ++ others) = classBooks log ++ classBooks others := List.flatMap_append

theorem makes_append : Makes (log ++ others) ↔ Makes log ∨ Makes others := by
  simp only [Makes, List.mem_append, exists_or]

theorem destroys_iff : Destroys log ↔ ∃ classP, .released classP ∈ classBooks log := by
  constructor
  · rintro ⟨classP, member⟩
    exact ⟨classP, List.mem_flatMap.mpr ⟨_, member, List.mem_singleton_self _⟩⟩
  · rintro ⟨classP, member⟩
    obtain ⟨⟨request, reply⟩, there, entry⟩ := List.mem_flatMap.mp member
    cases request with
    | classCreate => cases reply <;> simp [classEntries] at entry
    | classDestroy other => exact ⟨other, there⟩
    | _ => simp [classEntries] at entry

end Books

section Probes

/-- What a probe does with the class: nothing, or it makes it and so many nodes under it, or
it makes so many nodes under the class that is there. -/
inductive Attends : Option ClassResult → Option ClassResult → Nat → Ledger (Option ClassResult) →
    Prop where
  | untouched : Attends none none 0 []
  | born (address nodes : Nat) : Attends none (some (.ok address)) nodes
      (.acquired (some (.ok address)) :: List.replicate nodes (.used (some (.ok address))))
  | there (classP : ClassResult) (nodes : Nat) :
      Attends (some classP) (some classP) nodes (List.replicate nodes (.used (some classP)))

theorem attends_refl (classP : Option ClassResult) : Attends classP classP 0 [] := by
  cases classP with
  | none => exact .untouched
  | some classP => exact .there classP 0

theorem attends_append (first : Attends before between nodes ledger)
    (second : Attends between later more rest) :
    Attends before later (nodes + more) (ledger ++ rest) := by
  cases first with
  | untouched =>
      rw [Nat.zero_add]
      exact second
  | born address nodes =>
      cases second with
      | there classP more =>
          rw [List.cons_append, List.replicate_append_replicate]
          exact .born address (nodes + more)
  | there classP nodes =>
      cases second with
      | there classP more =>
          rw [List.replicate_append_replicate]
          exact .there classP (nodes + more)

/-- Once a node was made, the class stays what it is. -/
theorem stays_of_attends (first : Attends before between 1 ledger)
    (second : Attends between later more rest) : later = between := by
  cases first with
  | born address _ => cases second; rfl
  | there classP _ => cases second; rfl

theorem attends_of_finds {isErr : Bool} (finds : FindsClass ref isErr before later log) :
    Attends before later 0 (classBooks log) := by
  cases finds with
  | found classP fine => exact .there classP 0
  | created address => exact .born address 0

theorem some_of_finds {isErr : Bool} (finds : FindsClass ref isErr before later log) :
    ∃ classP, later = some classP := by
  cases finds with
  | found classP fine => exact ⟨classP, rfl⟩
  | created address => exact ⟨.ok address, rfl⟩

theorem unmade_of_finds {isErr : Bool} (finds : FindsClass ref isErr before later log) :
    ¬Makes log := by
  rintro ⟨classP, devNode, reply, member⟩
  cases finds with
  | found classP fine => cases member
  | created address => simp at member

/-- A device node is the last thing that can fail. -/
theorem attends_of_inits (inits : InitsCdevice ref module rc after log) :
    Attends module.localClassP after.localClassP (if rc = 0 then 1 else 0) (classBooks log) ∧
      (rc = 0 ↔ Makes log) := by
  cases inits with
  | noRegion errno =>
      rw [if_neg errno.code_ne_zero]
      refine ⟨attends_refl _, iff_of_false errno.code_ne_zero ?_⟩
      rintro ⟨classP, devNode, reply, member⟩
      simp at member
  | noCdev _ devNode errno kept classP =>
      rw [if_neg errno.code_ne_zero, classP]
      refine ⟨attends_refl _, iff_of_false errno.code_ne_zero ?_⟩
      rintro ⟨classP, devNode, reply, member⟩
      simp at member
  | badClass _ devNode log kept finds =>
      have failed : error ≠ 0 := by decide
      rw [if_neg failed]
      constructor
      · have attends := attends_append (attends_of_finds finds) (attends_refl after.localClassP)
        rw [List.append_nil] at attends
        simpa [classEntries] using attends
      · refine iff_of_false failed ?_
        rintro ⟨classP, devNode, reply, member⟩
        simp at member
        exact unmade_of_finds finds ⟨classP, devNode, reply, member⟩
  | made _ devNode length log kept finds node classP device channelP =>
      rw [if_pos rfl]
      constructor
      · obtain ⟨found, there⟩ := some_of_finds finds
        rw [there] at finds ⊢
        simpa [classEntries] using attends_append (attends_of_finds finds) (.there found 1)
      · exact iff_of_true rfl ⟨after.localClassP, devNode, .ok (), by simp⟩

theorem classP_of_inits (inits : InitsCdevice ref module 0 after log) :
    (after.channel ref).classP = after.localClassP := by
  generalize fine : (0 : Int) = code at inits
  cases inits with
  | noRegion errno => exact absurd fine.symm errno.code_ne_zero
  | noCdev _ devNode errno kept classP => exact absurd fine.symm errno.code_ne_zero
  | badClass _ devNode log kept finds => exact absurd fine (by decide)
  | made _ devNode length log kept finds node classP device channelP => exact classP

/-- What creating channels does with the class, with the nodes it makes and the channels it
counts. -/
structure Attended (pdev : Pdev) (left place : Nat) (module : DmaProxyModule) (rc : Int)
    (after : DmaProxyModule) (log : Log) (nodes made : Nat) : Prop where
  attends : Attends module.localClassP after.localClassP nodes (classBooks log)
  unmade : nodes = 0 ↔ ¬Makes log
  totalCount : after.totalCount = module.totalCount + made
  bound : made ≤ nodes
  all : rc = 0 → made = left ∧
    ∀ later < left, (after.channel ⟨pdev, place + later⟩).classP = after.localClassP

theorem attends_of_creates (creates : CreatesChannel ref module rc after log) :
    ∃ nodes, Attends module.localClassP after.localClassP nodes (classBooks log) ∧
      (nodes = 0 ↔ ¬Makes log) ∧ after.totalCount = module.totalCount ∧
      (rc = 0 → nodes = 1 ∧ (after.channel ref).classP = after.localClassP) := by
  have totalCount := (kept_of_creates creates).totalCount
  cases creates with
  | refused _ kept classP =>
      refine ⟨0, ?_, iff_of_true rfl ?_, totalCount, fun fine => absurd fine (by decide)⟩
      · rw [classP]
        exact attends_refl _
      · rintro ⟨classP, devNode, reply, member⟩
        simp at member
  | noCdevice middle _ _ log kept classP failed inits =>
      obtain ⟨attends, makes⟩ := attends_of_inits inits
      rw [if_neg failed, classP] at attends
      refine ⟨0, attends, iff_of_true rfl ?_, totalCount, fun fine => absurd fine failed⟩
      rintro ⟨classP, devNode, reply, member⟩
      simp at member
      exact failed (makes.mpr ⟨classP, devNode, reply, member⟩)
  | made middle _ log allocated kept classP granted inits =>
      obtain ⟨attends, makes⟩ := attends_of_inits inits
      rw [if_pos rfl, classP] at attends
      refine ⟨1, ?_, ?_, totalCount, fun _ => ⟨rfl, classP_of_inits inits⟩⟩
      · simpa [classEntries] using attends
      · obtain ⟨classP, devNode, reply, member⟩ := makes.mp rfl
        exact iff_of_false one_ne_zero (not_not.mpr ⟨classP, devNode, reply, by simp [member]⟩)

theorem attended_of_creates (creates : CreatesChannels pdev left place module rc after log) :
    ∃ nodes made, Attended pdev left place module rc after log nodes made := by
  induction creates with
  | finished place module =>
      refine ⟨0, 0, attends_refl _, iff_of_true rfl ?_, (add_zero _).symm, le_refl 0,
        fun _ => ⟨rfl, ?_⟩⟩
      · rintro ⟨classP, devNode, reply, member⟩
        cases member
      · exact fun later bound => absurd bound (Nat.not_lt_zero later)
  | stopped left place module after rc log failed creates =>
      obtain ⟨nodes, attends, unmade, totalCount, _⟩ := attends_of_creates creates
      refine ⟨nodes, 0, attends, unmade, ?_, Nat.zero_le nodes, fun fine => absurd fine failed⟩
      rw [totalCount, Nat.cast_zero, add_zero]
  | created left place module middle after rc log others creates rest ih =>
      obtain ⟨first, attends, unmade, totalCount, whole⟩ := attends_of_creates creates
      obtain ⟨second, made, attended⟩ := ih
      obtain ⟨one, classP⟩ := whole rfl
      refine ⟨first + second, made + 1, ?_, ?_, ?_, ?_, ?_⟩
      · rw [classBooks_append]
        exact attends_append attends attended.attends
      · rw [Nat.add_eq_zero_iff, unmade, attended.unmade, makes_append, not_or]
      · rw [attended.totalCount, counted, totalCount]
        dsimp only
        omega
      · have bound := attended.bound
        omega
      · intro fine
        obtain ⟨count, classes⟩ := attended.all fine
        refine ⟨by rw [count], ?_⟩
        intro later bound
        cases later with
        | zero =>
            rw [Nat.add_zero, channel_of_creates rest (Nat.lt_succ_self place)]
            rw [one] at attends
            exact classP.trans (stays_of_attends attends attended.attends).symm
        | succ later =>
            rw [← Nat.add_assoc, Nat.add_right_comm]
            exact classes later (Nat.lt_of_succ_lt_succ bound)

theorem attended_of_probes (probes : Probes pdev module rc after log) : ∃ nodes made,
    Attended pdev (after.drvdata pdev).channelCount.toNat 0 module rc after log nodes made := by
  have quiet : ∀ front : Log, (∀ exchange ∈ front, Prepares exchange.request) →
      classBooks front = [] ∧ ¬Makes front := by
    intro front prepares
    constructor
    · apply List.flatMap_eq_nil_iff.mpr
      rintro ⟨request, reply⟩ member
      have calm := prepares _ member
      cases request <;> first | rfl | cases calm
    · rintro ⟨classP, devNode, reply, member⟩
      exact prepares _ member
  cases probes with
  | unready _ _ _ prepares apart totalCount localClassP empty =>
      obtain ⟨silent, unmade⟩ := quiet log prepares
      refine ⟨0, 0, ?_, iff_of_true rfl unmade, ?_, le_refl 0, ?_⟩
      · rw [silent, localClassP]
        exact attends_refl _
      · rw [totalCount, Nat.cast_zero, add_zero]
      · intro fine
        rw [Int.toNat_of_nonpos (empty fine)]
        exact ⟨rfl, fun later bound => absurd bound (Nat.not_lt_zero later)⟩
  | creating middle _ count _ front others prepares apart totalCount localClassP named creates =>
      obtain ⟨silent, unmade⟩ := quiet front prepares
      obtain ⟨nodes, made, attended⟩ := attended_of_creates creates
      rw [count_of_creates creates, named, Int.toNat_natCast]
      refine ⟨nodes, made, ?_, ?_, ?_, attended.bound, attended.all⟩
      · rw [classBooks_append, silent, ← localClassP]
        exact attended.attends
      · rw [attended.unmade, makes_append, or_iff_right unmade]
      · rw [attended.totalCount, totalCount]

end Probes

section Removes

/-- The class goes with the last channel that is counted. -/
theorem classBooks_exitLogs {channels : Nat → ProxyChannel} {classP : Option ClassResult}
    {totalCount : Int} (classes : ∀ later < left, (channels (place + later)).classP = classP)
    (counted : left ≤ totalCount) :
    classBooks (exitLogs pdev channels totalCount left place) =
      List.replicate left (.used classP) ++
        if totalCount = left ∧ 0 < left then [.released classP] else [] := by
  induction left generalizing place totalCount with
  | zero => simp [exitLogs]
  | succ left ih =>
      have here : (channels place).classP = classP := classes 0 (Nat.succ_pos left)
      have others := @ih (place + 1) (totalCount - 1) (by
        intro later bound
        rw [Nat.add_right_comm]
        exact classes (later + 1) (Nat.succ_lt_succ bound)) (by omega)
      rw [exitLogs, classBooks_append, others, exitLog, here, List.replicate_succ, List.cons_append]
      by_cases last : totalCount = 1
      · have none : left = 0 := by omega
        rw [if_pos last, none, if_neg (by simp), if_pos ⟨by omega, by decide⟩]
        rfl
      · rw [if_neg last]
        have same : (totalCount - 1 = left ∧ 0 < left) ↔
            (totalCount = (left + 1 : Nat) ∧ 0 < left + 1) := by omega
        rw [if_congr same rfl rfl]
        rfl

theorem unmade_of_exits {channels : Nat → ProxyChannel} {totalCount : Int} :
    ¬Makes (exitLogs pdev channels totalCount left place ++ releaseLogs pdev left place) := by
  rw [makes_append]
  rintro (⟨classP, devNode, reply, member⟩ | ⟨classP, devNode, reply, member⟩)
  · induction left generalizing place totalCount with
    | zero => cases member
    | succ left ih =>
        rcases List.mem_append.mp member with here | later
        · rw [exitLog] at here
          split_ifs at here <;> simp at here
        · exact ih later
  · induction left generalizing place with
    | zero => cases member
    | succ left ih =>
        simp only [releaseLogs, List.mem_cons, Exchange.mk.injEq, reduceCtorEq, false_and,
          false_or] at member
        exact ih member

theorem classBooks_releaseLogs : classBooks (releaseLogs pdev left place) = [] := by
  induction left generalizing place with
  | zero => rfl
  | succ left ih =>
      rw [releaseLogs, classBooks_cons, classBooks_cons, ih]
      rfl

end Removes

section Phases

/-- Before the class is created, while it is there, and after it was destroyed. -/
inductive Phase : Option ClassResult → Int → Ledger (Option ClassResult) → Prop where
  | unborn : Phase none 0 []
  | alive (classP : ClassResult) (totalCount : Int) (past : Ledger (Option ClassResult))
      (owned : held past (some classP) = 1) (unreleased : ∀ other, .released other ∉ past)
      (safe : UsedWhileHeld past) : Phase (some classP) totalCount past
  | gone (classP : ClassResult) (past : Ledger (Option ClassResult))
      (lost : held past (some classP) = 0) (released : ∃ other, .released other ∈ past)
      (safe : UsedWhileHeld past) : Phase (some classP) 0 past

variable {totalCount : Int} {classP : Option ClassResult} {made count : Nat}

theorem held_uses (resource other : Option ClassResult) (nodes : Nat) :
    held (List.replicate nodes (.used other)) resource = 0 := by
  apply held_of_uses
  intro entry member
  exact ⟨other, List.eq_of_mem_replicate member⟩

theorem unreleased_uses (resource other : Option ClassResult) (nodes : Nat) :
    .released resource ∉ List.replicate nodes (LedgerEntry.used other) :=
  fun member => by cases List.eq_of_mem_replicate member

theorem safe_uses {resource : Option ClassResult} (safe : UsedWhileHeld past)
    (owned : held past resource = 1) (nodes : Nat) :
    UsedWhileHeld (past ++ List.replicate nodes (.used resource)) := by
  apply usedWhileHeld_append_kept safe
  intro other member
  cases List.eq_of_mem_replicate member
  refine ⟨?_, unreleased_uses _ _ _⟩
  rw [owned]
  exact zero_lt_one

theorem safe_of_phase (phase : Phase classP totalCount past) : UsedWhileHeld past := by
  cases phase with
  | unborn => exact usedWhileHeld_nil
  | alive classP _ _ owned unreleased safe => exact safe
  | gone classP _ lost released safe => exact safe

theorem phase_uses {found : ClassResult} (owned : held past (some found) = 1)
    (unreleased : ∀ other, .released other ∉ past) (safe : UsedWhileHeld past) (totalCount : Int)
    (nodes : Nat) :
    Phase (some found) totalCount (past ++ List.replicate nodes (.used (some found))) := by
  refine .alive found totalCount _ ?_ ?_ (safe_uses safe owned nodes)
  · rw [held_append, owned, held_uses, add_zero]
  · intro other member
    exact (List.mem_append.mp member).elim (unreleased other) (unreleased_uses _ _ _)

theorem phase_attends (phase : Phase before totalCount past)
    (attends : Attends before later nodes ledger) (bound : made ≤ nodes)
    (spared : (∃ other, .released other ∈ past) → nodes = 0) :
    Phase later (totalCount + made) (past ++ ledger) := by
  cases phase with
  | unborn =>
      cases attends with
      | untouched =>
          rw [Nat.le_zero.mp bound]
          exact .unborn
      | born address nodes =>
          have first :
            UsedWhileHeld [LedgerEntry.acquired (some (Except.ok address : ClassResult))] :=
            usedWhileHeld_append_unused usedWhileHeld_nil (by simp)
          exact phase_uses (by simp [LedgerEntry.change]) (by simp) first _ nodes
  | alive found _ _ owned unreleased safe =>
      cases attends with
      | there _ nodes => exact phase_uses owned unreleased safe _ nodes
  | gone found _ lost released safe =>
      cases attends with
      | there _ nodes =>
          have none := spared released
          rw [none] at bound ⊢
          rw [Nat.le_zero.mp bound, List.replicate_zero, List.append_nil]
          exact .gone found past lost released safe

theorem phase_removes (phase : Phase classP totalCount past) (bound : count ≤ totalCount) :
    Phase classP (totalCount - count) (past ++ (List.replicate count (.used classP) ++
      if totalCount = count ∧ 0 < count then [.released classP] else [])) := by
  cases phase with
  | unborn =>
      have none : count = 0 := by omega
      rw [none]
      exact .unborn
  | alive found _ _ owned unreleased safe =>
      rw [← List.append_assoc]
      split_ifs with last
      · rw [last.1, sub_self]
        refine .gone found _ ?_ ⟨some found, by simp⟩ ?_
        · simp [owned, held_uses, LedgerEntry.change]
        · exact usedWhileHeld_append_unused (safe_uses safe owned count) (by simp)
      · rw [List.append_nil]
        exact phase_uses owned unreleased safe _ count
  | gone found _ lost released safe =>
      have none : count = 0 := by omega
      rw [none]
      simpa using Phase.gone found past lost released safe

/-- The first node under a class that was destroyed uses what is gone. -/
theorem unsafe_of_attends (phase : Phase before totalCount past)
    (attends : Attends before later nodes ledger) (released : ∃ other, .released other ∈ past)
    (some : nodes ≠ 0) : ¬UsedWhileHeld (past ++ ledger ++ rest) := by
  obtain ⟨other, member⟩ := released
  cases phase with
  | unborn => cases member
  | alive found _ _ owned unreleased safe => exact absurd member (unreleased other)
  | gone found _ lost released safe =>
      cases attends with
      | there _ nodes =>
          obtain ⟨nodes, rfl⟩ := Nat.exists_eq_succ_of_ne_zero some
          intro used
          have owned := used past (.some found)
            (List.replicate nodes (.used (.some found)) ++ rest) (by
              rw [List.replicate_succ, List.append_assoc, List.cons_append])
          rw [lost] at owned
          exact lt_irrefl 0 owned

end Phases

section Runs

variable {World : Type} {env : Environment moduleSignature World}
    {state next final : BusState World}
  {served : Served} {events : List BusEvent} {calls : List Served}

def channelsOf (module : DmaProxyModule) (pdev : Pdev) : Nat :=
  (module.drvdata pdev).channelCount.toNat

/-- The channels of all bound devices. -/
def counts (state : BusState World) : Nat :=
  ∑ pdev ∈ state.bound, channelsOf state.machine.memory pdev

/-- The class and its books between two calls. A failed probe leaves channels that stay
counted. -/
structure Standing (state : BusState World) (past : Ledger (Option ClassResult)) : Prop where
  wired : AllWired state
  classed : ∀ pdev ∈ state.bound, ∀ place < channelsOf state.machine.memory pdev,
    (state.machine.memory.channel ⟨pdev, place⟩).classP = state.machine.memory.localClassP
  counted : ∃ leftover : Nat, state.machine.memory.totalCount = leftover + counts state
  phase : Phase state.machine.memory.localClassP state.machine.memory.totalCount past

theorem counts_apart {bound : Finset Pdev} {machine last : Machine moduleSignature World}
    (apart : ∀ other ∈ bound, last.memory.drvdata other = machine.memory.drvdata other) :
    counts ⟨last, bound⟩ = counts ⟨machine, bound⟩ := by
  apply Finset.sum_congr rfl
  intro other member
  rw [channelsOf, channelsOf, apart other member]

/-- The class pointer changes only while no bound device has a channel. -/
theorem uncounted_of_attends (standing : Standing state past)
    (attends : Attends state.machine.memory.localClassP later nodes ledger) :
    later = state.machine.memory.localClassP ∨ counts state = 0 := by
  obtain ⟨leftover, counted⟩ := standing.counted
  have phase := standing.phase
  generalize state.machine.memory.localClassP = before at phase attends ⊢
  generalize state.machine.memory.totalCount = totalCount at phase counted
  cases phase with
  | unborn => exact Or.inr (by omega)
  | alive found _ _ owned unreleased safe => cases attends; exact Or.inl rfl
  | gone found _ lost released safe => cases attends; exact Or.inl rfl

/-- The channels of bound devices are under the class, also after a probe of another. -/
theorem classed_of_probes {machine : Machine moduleSignature World} (standing : Standing state past)
    (attends : Attends state.machine.memory.localClassP machine.memory.localClassP nodes ledger)
    (apart : ∀ other ∈ state.bound,
      machine.memory.drvdata other = state.machine.memory.drvdata other) :
    ∀ other ∈ state.bound, ∀ place < channelsOf machine.memory other,
      (machine.memory.channel ⟨other, place⟩).classP = machine.memory.localClassP := by
  intro other member place inside
  rw [channelsOf, apart other member] at inside
  rcases uncounted_of_attends standing attends with same | none
  · rw [same, DmaProxyModule.channel, apart other member]
    exact standing.classed other member place inside
  · have empty := (Finset.sum_eq_zero_iff.mp none) other member
    rw [channelsOf] at empty
    omega

theorem standing_of_probes {machine : Machine moduleSignature World}
    (standing : Standing state past)
    (unbound : pdev ∉ state.bound) (probes : Probes pdev state.machine.memory rc machine.memory log)
    (wired : AllWired ⟨machine, BusEvent.binds state.bound rc (.probe pdev)⟩)
    (spared : (∃ other, .released other ∈ past) → ¬Makes log) :
    Standing ⟨machine, BusEvent.binds state.bound rc (.probe pdev)⟩ (past ++ classBooks log) := by
  obtain ⟨leftover, counted⟩ := standing.counted
  obtain ⟨nodes, made, attended⟩ := attended_of_probes probes
  have apart : ∀ other ∈ state.bound,
      machine.memory.drvdata other = state.machine.memory.drvdata other :=
    fun other member => apart_of_probes probes other fun same => unbound (same ▸ member)
  have phase := phase_attends standing.phase attended.attends attended.bound fun released =>
    attended.unmade.mpr (spared released)
  rw [← attended.totalCount] at phase
  have older := classed_of_probes standing attended.attends apart
  have same : counts ⟨machine, state.bound⟩ = counts state := counts_apart apart
  by_cases fine : rc = 0
  · obtain ⟨all, classes⟩ := attended.all fine
    have split : counts ⟨machine, insert pdev state.bound⟩ =
        channelsOf machine.memory pdev + counts ⟨machine, state.bound⟩ :=
      Finset.sum_insert unbound
    rw [BusEvent.binds, if_pos fine] at wired ⊢
    refine ⟨wired, ?_, ⟨leftover, ?_⟩, phase⟩
    · intro other member place inside
      rcases Finset.mem_insert.mp member with rfl | held
      · have here := classes place inside
        rw [Nat.zero_add] at here
        exact here
      · exact older other held place inside
    · rw [split, same, attended.totalCount, all, counted, channelsOf]
      push_cast
      omega
  · rw [BusEvent.binds, if_neg fine] at wired ⊢
    refine ⟨wired, older, ⟨leftover + made, ?_⟩, phase⟩
    rw [same, attended.totalCount, counted]
    push_cast
    omega

theorem standing_of_removes {machine : Machine moduleSignature World}
    (standing : Standing state past)
    (bound : pdev ∈ state.bound) (removes : Removes pdev (channelsOf state.machine.memory pdev)
      state.machine.memory rc machine.memory log)
    (wired : AllWired ⟨machine, state.bound.erase pdev⟩) :
    Standing ⟨machine, state.bound.erase pdev⟩ (past ++ classBooks log) := by
  obtain ⟨leftover, counted⟩ := standing.counted
  have after := removes.after
  have split : channelsOf state.machine.memory pdev +
      counts ⟨state.machine, state.bound.erase pdev⟩ = counts state :=
    Finset.add_sum_erase state.bound (channelsOf state.machine.memory) bound
  have inside : channelsOf state.machine.memory pdev ≤ state.machine.memory.totalCount := by omega
  have classes : ∀ later < channelsOf state.machine.memory pdev,
      ((state.machine.memory.drvdata pdev).channels (0 + later)).classP =
        state.machine.memory.localClassP := by
    intro later inside
    rw [Nat.zero_add]
    exact standing.classed pdev bound later inside
  have phase := phase_removes standing.phase inside
  rw [← @classBooks_exitLogs pdev _ 0 _ _ _ classes inside, ← List.append_nil (classBooks _),
    ← @classBooks_releaseLogs pdev _ 0, ← classBooks_append, ← removes.log] at phase
  refine ⟨wired, ?_, ⟨leftover, ?_⟩, ?_⟩
  · intro other member place inside
    dsimp only at inside ⊢
    rw [after] at inside ⊢
    exact standing.classed other (Finset.mem_of_mem_erase member) place inside
  · have same : counts ⟨machine, state.bound.erase pdev⟩ =
        counts ⟨state.machine, state.bound.erase pdev⟩ :=
      counts_apart fun other _ => by rw [after]; rfl
    rw [same]
    dsimp only
    rw [after, discounted]
    dsimp only
    omega
  · dsimp only
    rw [after]
    exact phase

/-- A call that makes no node under a destroyed class keeps the standing. -/
theorem standing_of_serves (standing : Standing state past) (serves : Serves state served next)
    (spared : (∃ other, .released other ∈ past) → ¬Makes served.log) :
    Standing next (past ++ classBooks served.log) := by
  have wired := allWired_of_serves standing.wired serves
  cases serves with
  | probed pdev rc log machine unbound probes =>
      exact standing_of_probes standing unbound probes wired spared
  | removed pdev rc log machine bound removes =>
      exact standing_of_removes standing bound removes wired

theorem unsafe_of_serves (standing : Standing state past) (serves : Serves state served next)
    (released : ∃ other, .released other ∈ past) (makes : Makes served.log) :
    ¬UsedWhileHeld (past ++ classBooks served.log ++ rest) := by
  cases serves with
  | probed pdev rc log machine unbound probes =>
      obtain ⟨nodes, made, attended⟩ := attended_of_probes probes
      exact unsafe_of_attends standing.phase attended.attends released fun none =>
        attended.unmade.mp none makes
  | removed pdev rc log machine bound removes =>
      dsimp only at makes
      rw [removes.log] at makes
      exact absurd makes unmade_of_exits

theorem forall_split_cons {Item : Type} {holds : List Item → Item → Prop} {head : Item}
    {tail : List Item} :
    (∀ front item rest, head :: tail = front ++ item :: rest → holds front item) ↔
      holds [] head ∧ ∀ front item rest, tail = front ++ item :: rest →
        holds (head :: front) item := by
  constructor
  · intro all
    refine ⟨all [] head tail rfl, ?_⟩
    intro front item rest same
    exact all (head :: front) item rest (by rw [same]; rfl)
  · rintro ⟨first, others⟩ front item rest same
    cases front with
    | nil =>
        cases same
        exact first
    | cons other front =>
        cases same
        exact others front item rest rfl

theorem used_iff_of_run (grants : Grants env) (standing : Standing state past)
    (ran : (bus env).run state events = some (calls, final)) :
    UsedWhileHeld (past ++ classBooks (calls.flatMap Served.log)) ↔
      ∀ front call rest, calls = front ++ call :: rest →
        (∃ other, .released other ∈ past ++ classBooks (front.flatMap Served.log)) →
          ¬Makes call.log := by
  induction events generalizing state past calls with
  | nil =>
      cases ran
      refine iff_of_true ?_ fun front call rest same => ?_
      · rw [List.flatMap_nil, classBooks_nil, List.append_nil]
        exact safe_of_phase standing.phase
      · exact absurd same (by simp)
  | cons event rest ih =>
      obtain ⟨served, next, others, stepped, later, rfl⟩ := (Transducer.run_cons _ _ _ _ _).mp ran
      have serves := serves_of_step grants standing.wired stepped
      rw [forall_split_cons, List.flatMap_cons, classBooks_append, ← List.append_assoc,
        List.flatMap_nil, classBooks_nil, List.append_nil]
      by_cases spared : (∃ other, .released other ∈ past) → ¬Makes served.log
      · rw [and_iff_right spared, ih (standing_of_serves standing serves spared) later]
        simp only [List.flatMap_cons, classBooks_append, List.append_assoc]
      · obtain ⟨released, makes⟩ := Classical.not_imp.mp spared
        rw [not_not] at makes
        exact iff_of_false (unsafe_of_serves standing serves released makes) fun all =>
          spared all.1

/-- From a module just loaded, the class is used only while it is there if, and only if, no
probe asks for a device node after a remove has destroyed it. -/
theorem class_used_while_there_iff (grants : Grants env) (unbound : state.bound = ∅)
    (uncounted : state.machine.memory.totalCount = 0)
    (unborn : state.machine.memory.localClassP = none)
    (ran : (bus env).run state events = some (calls, final)) :
    UsedWhileHeld (classBooks (calls.flatMap Served.log)) ↔
      ∀ front call rest, calls = front ++ call :: rest → Destroys (front.flatMap Served.log) →
        ¬Makes call.log := by
  have standing : Standing state [] := by
    refine ⟨?_, ?_, ⟨0, ?_⟩, ?_⟩
    · intro pdev member
      rw [unbound] at member
      exact absurd member (Finset.notMem_empty pdev)
    · intro pdev member
      rw [unbound] at member
      exact absurd member (Finset.notMem_empty pdev)
    · rw [uncounted, counts, unbound, Finset.sum_empty]
      rfl
    · rw [uncounted, unborn]
      exact .unborn
  have iff := used_iff_of_run grants standing ran
  simp only [List.nil_append, ← destroys_iff] at iff
  exact iff

theorem kernel_class_iff : ∃ calls final,
    (bus kernel).run booted [.probe 0, .remove 0, .probe 1] = some (calls, final) ∧
      (UsedWhileHeld (classBooks (calls.flatMap Served.log)) ↔
        ∀ front call rest, calls = front ++ call :: rest → Destroys (front.flatMap Served.log) →
          ¬Makes call.log) :=
  ⟨_, _, rfl, @class_used_while_there_iff Nat kernel booted _ [.probe 0, .remove 0, .probe 1] _
    grants_kernel rfl rfl rfl rfl⟩

end Runs

end Ebaz4205.DmaProxyClass
