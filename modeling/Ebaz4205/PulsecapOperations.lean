import Ebaz4205.DriverProgramRules
import Ebaz4205.PartialRuns
import Ebaz4205.PulsecapDriver

/-!
# Runs of one pulse capture instance

An operation is a call of an exported function, a sysfs read-out or one
interrupt. Here the registers are read as pure input: every read of every
operation may return any value. Each operation has a lemma that says what it
does to the instance whatever the registers are.
-/

namespace Ebaz4205.PulsecapOperations

open DriverProgram DriverProgram.Program BitMask PartialRuns PulsecapDriver

set_option autoImplicit false

/-- The value of every register at the successive register reads. -/
abbrev Readings := Nat → TimerRegister → U32

def anyReadings : Environment timerSignature Readings where
  respond
    | .ioread32 reg, readings => (readings 0 reg, fun position => readings (position + 1))
    | .iowrite32 _ _, readings => ((), readings)

inductive PulsecapOp where
  | startCapture (edgeCount : U32)
  | timerIrq
  | cancelCapture
  | getState
  | edgesCaptured
  | readEdges (count : U32)
  | edgeDataShow
  deriving DecidableEq

/-- What the caller gets: the returned number, if the function returns one, and
the words written to the buffer it passed. -/
structure Answer where
  value : Option Int
  words : List U32
  deriving DecidableEq

def PulsecapOp.program : PulsecapOp → PulsecapProgram Answer
  | .startCapture edgeCount => do
      let code ← pulsecapStartCapture .valid edgeCount
      return ⟨some code, []⟩
  | .timerIrq => do
      let code ← timerIrqHandler
      return ⟨some code, []⟩
  | .cancelCapture => do
      let code ← pulsecapCancelCapture .valid
      return ⟨some code, []⟩
  | .getState => do
      let code ← pulsecapGetState .valid
      return ⟨some code, []⟩
  | .edgesCaptured => do
      let edges ← pulsecapEdgesCaptured .valid
      return ⟨edges.map fun value => (value.toNat : Int), []⟩
  | .readEdges count => do
      let readOut ← pulsecapReadEdges .valid count .valid
      return ⟨some readOut.code, readOut.words⟩
  | .edgeDataShow => do
      let readOut ← PulsecapDriver.edgeDataShow
      return ⟨some readOut.code, readOut.words⟩

/-- An operation together with everything it will read from the registers. -/
structure PulsecapEvent where
  op : PulsecapOp
  readings : Readings

def PulsecapEvent.execution (event : PulsecapEvent) (pcap : PulsecapData) :
    Outcome Answer × Machine timerSignature Readings :=
  event.op.program.exec anyReadings ⟨pcap, event.readings⟩

/-- One operation; `none` when it indexes the edge array out of bounds. -/
def pulsecapStep (pcap : PulsecapData) (event : PulsecapEvent) :
    Option (Answer × PulsecapData) :=
  match event.execution pcap with
  | (.returned answer, machine) => some (answer, machine.memory)
  | _ => none

def pulsecapSystem : Transducer PulsecapData PulsecapEvent Answer where
  step := pulsecapStep

/-- The positions of `stored_edges` that an operation reads or writes. -/
def PulsecapEvent.positions (event : PulsecapEvent) (pcap : PulsecapData) : List Nat :=
  (event.op.program.accesses anyReadings ⟨pcap, event.readings⟩).map Prod.snd

/-- The states of an instance from its probe on. -/
def Reachable (history : List PulsecapEvent) (pcap : PulsecapData) : Prop :=
  pulsecapSystem.Reaches .zeroed history pcap

/-- The edge an interrupt delivers: the handler reads the status of timer 0
first and a capture register third. -/
def deliveredEdge (readings : Readings) : PulseData :=
  if isSet (readings 0 .tcsr0) tcsr0T0int then ⟨readings 2 .tlr0, pulsecapEdgeHigh⟩
  else ⟨readings 2 .tlr1, pulsecapEdgeLow⟩

/-- A reading, and then the others. -/
def readingsFrom (first : U32) (later : Readings) : Readings
  | 0 => fun _ => first
  | position + 1 => later position

/-- Whatever the timer does, some values read from its registers make the
instance do the same. -/
theorem exists_readings {World Result : Type} (env : Environment timerSignature World)
    (program : PulsecapProgram Result) (pcap : PulsecapData) (world : World) :
    ∃ readings,
      (program.exec anyReadings ⟨pcap, readings⟩).1 = (program.exec env ⟨pcap, world⟩).1 ∧
      (program.exec anyReadings ⟨pcap, readings⟩).2.memory =
        (program.exec env ⟨pcap, world⟩).2.memory := by
  induction program generalizing pcap world with
  | done result => exact ⟨fun _ _ => 0, rfl, rfl⟩
  | call request next ih =>
      cases request with
      | ioread32 reg =>
          rcases ih (env.respond (.ioread32 reg) world).1 pcap
            (env.respond (.ioread32 reg) world).2 with ⟨later, outcome, memory⟩
          exact ⟨readingsFrom (env.respond (.ioread32 reg) world).1 later, outcome, memory⟩
      | iowrite32 value reg => exact ih () pcap (env.respond (.iowrite32 value reg) world).2
  | fetch next ih => exact ih pcap pcap world
  | update change next ih => exact ih (change pcap) world
  | access region position next ih =>
      by_cases bound : position < timerSignature.extent region
      · simpa only [exec, dif_pos bound] using ih ⟨position, bound⟩ pcap world
      · exact ⟨fun _ _ => 0, by simp only [exec, dif_neg bound], by simp only [exec, dif_neg bound]⟩
  | unfinished => exact ⟨fun _ _ => 0, rfl, rfl⟩

section Effects

variable {World : Type} {env : Environment timerSignature World}

theorem yields_regUpdate (reg : TimerRegister) (change : U32 → U32) (pcap : PulsecapData) :
    Yields env (regUpdate reg change) pcap () pcap := fun _ => ⟨_, rfl⟩

theorem yields_stopTimer (pcap : PulsecapData) : Yields env stopTimer pcap () pcap :=
  yields_bind (yields_regUpdate _ _ _) (yields_regUpdate _ _ _)

theorem yields_disableInterrupts (pcap : PulsecapData) :
    Yields env disableInterrupts pcap () pcap :=
  yields_bind (yields_regUpdate _ _ _) (yields_regUpdate _ _ _)

theorem yields_clearInterruptFlags (pcap : PulsecapData) :
    Yields env clearInterruptFlags pcap () pcap := fun _ => ⟨_, rfl⟩

theorem yields_initializeTimer (pcap : PulsecapData) :
    Yields env initializeTimer pcap () pcap := fun _ => ⟨_, rfl⟩

theorem yields_startCapture_busy (pcap : PulsecapData) (edgeCount : U32)
    (running : captureRunning pcap.flags = true) :
    Yields env (pulsecapStartCapture .valid edgeCount) pcap (-ebusy) pcap := by
  obtain ⟨enabled, notDone⟩ := Bool.and_eq_true_iff.mp running
  exact yields_if_neg (by decide) (yields_bind (yields_field _ _)
    (yields_if_pos enabled (yields_if_pos notDone (yields_done _ _))))

theorem yields_startCapture_invalid (pcap : PulsecapData) (edgeCount : U32)
    (stopped : captureRunning pcap.flags = false) (tooMany : pulsecapMaxCount < edgeCount.toNat) :
    Yields env (pulsecapStartCapture .valid edgeCount) pcap (-einval) pcap := by
  refine yields_if_neg (by decide) (yields_bind (yields_field _ _) ?_)
  by_cases enabled : isSet pcap.flags pulsecapEnable = true
  · have done : ¬(!isSet pcap.flags pulsecapDone) = true := by
      simpa [captureRunning, enabled] using stopped
    exact yields_if_pos enabled (yields_if_neg done (yields_if_pos tooMany (yields_done _ _)))
  · exact yields_if_neg enabled (yields_if_pos tooMany (yields_done _ _))

theorem yields_startCapture_armed (pcap : PulsecapData) (edgeCount : U32)
    (stopped : captureRunning pcap.flags = false) (fits : ¬pulsecapMaxCount < edgeCount.toNat) :
    Yields env (pulsecapStartCapture .valid edgeCount) pcap 0 (pcap.armed edgeCount) := by
  refine yields_if_neg (by decide) (yields_bind (yields_field _ _) ?_)
  by_cases enabled : isSet pcap.flags pulsecapEnable = true
  · have done : ¬(!isSet pcap.flags pulsecapDone) = true := by
      simpa [captureRunning, enabled] using stopped
    exact yields_if_pos enabled (yields_if_neg done (yields_if_neg fits
      (yields_bind (yields_initializeTimer _) (yields_bind (yields_modify _ _)
        (yields_bind (yields_regUpdate _ _ _) (yields_done _ _))))))
  · exact yields_if_neg enabled (yields_if_neg fits
      (yields_bind (yields_initializeTimer _) (yields_bind (yields_modify _ _)
        (yields_bind (yields_regUpdate _ _ _) (yields_done _ _)))))

theorem yields_cancelCapture_idle (pcap : PulsecapData) (blank : pcap.flags = 0) :
    Yields env (pulsecapCancelCapture .valid) pcap (-eio) pcap := by
  refine yields_if_neg (by decide) (yields_bind (yields_field _ _) ?_)
  refine yields_if_pos ?_ (yields_done _ _)
  rw [blank]
  decide

theorem yields_cancelCapture (pcap : PulsecapData) (used : pcap.flags ≠ 0) :
    Yields env (pulsecapCancelCapture .valid) pcap 0 pcap.cancelled := by
  refine yields_if_neg (by decide) (yields_bind (yields_field _ _) ?_)
  refine yields_if_neg ?_ (yields_bind (yields_disableInterrupts _)
    (yields_bind (yields_stopTimer _) (yields_bind (yields_modify _ _) (yields_done _ _))))
  unfold pulsecapEnable
  rw [isSet_logicalNot_one _ (by decide)]
  simpa using used

theorem yields_edgesCaptured_pointer (pcap : PulsecapData)
    (counted : isSet pcap.flags (pulsecapEnable ||| pulsecapCancelled) = true) :
    Yields env (pulsecapEdgesCaptured .valid) pcap (some pcap.edgePtr) pcap := by
  have null : ¬Pointer.valid = .null := by decide
  exact yields_if_neg null (yields_bind (yields_field _ _)
    (yields_if_pos counted (yields_done _ _)))

theorem yields_edgesCaptured_blank (pcap : PulsecapData) (blank : pcap.flags = 0) :
    Yields env (pulsecapEdgesCaptured .valid) pcap none pcap := by
  have null : ¬Pointer.valid = .null := by decide
  have counted : ¬isSet pcap.flags (pulsecapEnable ||| pulsecapCancelled) = true := by
    rw [blank]
    decide
  have done : ¬isSet pcap.flags pulsecapDone = true := by
    rw [blank]
    decide
  exact yields_if_neg null (yields_bind (yields_field _ _)
    (yields_if_neg counted (yields_if_neg done (yields_done _ _))))

theorem yields_copyEdges (pcap : PulsecapData) (remaining ii : Nat)
    (fits : ii + remaining ≤ pulsecapMaxCount) (edges : List PulseData)
    (count : edges.length = remaining)
    (stored : ∀ position (slot : Fin pulsecapMaxCount), slot.val = ii + position →
      position < remaining → edges[position]? = some (pcap.storedEdges slot)) :
    Yields env (copyEdges ii remaining) pcap (edges.map PulseData.edgeCount) pcap := by
  induction remaining generalizing ii edges with
  | zero =>
      rw [List.eq_nil_of_length_eq_zero count]
      exact yields_done _ _
  | succ remaining ih =>
      cases edges with
      | nil => simp at count
      | cons head rest =>
          have inside : ii < pulsecapMaxCount := by omega
          have headStored : head = pcap.storedEdges ⟨ii, inside⟩ := by
            simpa using stored 0 ⟨ii, inside⟩ rfl (by omega)
          have tail := ih (ii + 1) (by omega) rest (by simpa using count)
            (by
              intro position slot place bound
              simpa using stored (position + 1) slot (by omega) (by omega))
          rw [List.map_cons, headStored]
          exact yields_bind (yields_index inside _) (yields_bind (yields_field _ _)
            (yields_bind tail (yields_done _ _)))

/-- The reader's clamp: the smaller of the requested count and the limit. -/
def clamp (limit count : U32) : U32 := if limit < count then limit else count

theorem clamp_toNat (limit count : U32) :
    (clamp limit count).toNat = min count.toNat limit.toNat := by
  unfold clamp
  split
  · rename_i below
    rw [BitVec.lt_def] at below
    omega
  · rename_i notBelow
    rw [BitVec.lt_def] at notBelow
    omega

variable {count : U32} {words : List U32}

theorem yields_readEdges_done (pcap : PulsecapData)
    (done : isSet pcap.flags pulsecapDone = true)
    (copied : Yields env (copyEdges 0 (clamp pcap.edgeTarget count).toNat) pcap words pcap) :
    Yields env (pulsecapReadEdges .valid count .valid) pcap
      ⟨(clamp pcap.edgeTarget count).toInt, words⟩ pcap := by
  have null : ¬(Pointer.valid = .null ∨ Pointer.valid = .null) := by decide
  exact yields_if_neg null (yields_bind (yields_field _ _)
    (yields_if_pos done (yields_bind copied (yields_done _ _))))

theorem yields_readEdges_cancelled (pcap : PulsecapData)
    (running : ¬isSet pcap.flags pulsecapDone = true)
    (cancelled : isSet pcap.flags pulsecapCancelled = true)
    (copied : Yields env (copyEdges 0 (clamp pcap.edgePtr count).toNat) pcap words pcap) :
    Yields env (pulsecapReadEdges .valid count .valid) pcap
      ⟨(clamp pcap.edgePtr count).toInt, words⟩ pcap := by
  have null : ¬(Pointer.valid = .null ∨ Pointer.valid = .null) := by decide
  exact yields_if_neg null (yields_bind (yields_field _ _)
    (yields_if_neg running (yields_if_pos cancelled (yields_bind copied (yields_done _ _)))))

theorem yields_readEdges_busy (pcap : PulsecapData)
    (running : ¬isSet pcap.flags pulsecapDone = true)
    (kept : ¬isSet pcap.flags pulsecapCancelled = true) :
    Yields env (pulsecapReadEdges .valid count .valid) pcap ⟨-ebusy, []⟩ pcap := by
  have null : ¬(Pointer.valid = .null ∨ Pointer.valid = .null) := by decide
  exact yields_if_neg null (yields_bind (yields_field _ _)
    (yields_if_neg running (yields_if_neg kept (yields_done _ _))))

theorem yields_edgeDataShow_refused {readOut : ReadOut} (pcap : PulsecapData)
    (read : Yields env (pulsecapReadEdges .valid pcap.edgeTarget .valid) pcap readOut pcap)
    (negative : readOut.code < 0) : Yields env edgeDataShow pcap readOut pcap :=
  yields_bind (yields_field _ _) (yields_bind read (yields_if_pos negative (yields_done _ _)))

theorem yields_edgeDataShow {readOut : ReadOut} (pcap : PulsecapData)
    (read : Yields env (pulsecapReadEdges .valid pcap.edgeTarget .valid) pcap readOut pcap)
    (counted : ¬readOut.code < 0) :
    Yields env edgeDataShow pcap { readOut with code := readOut.code * sizeofEdgeCount }
      { pcap with flags := pcap.flags ||| pulsecapEdgesRead } :=
  yields_bind (yields_field _ _) (yields_bind read (yields_if_neg counted
    (yields_bind (yields_modify _ _) (yields_done _ _))))

end Effects

section StoreEdge

variable {World : Type} {env : Environment timerSignature World} {pcap : PulsecapData}
  {edge : PulseData}

theorem zero_slot_inside : 0 < pulsecapMaxCount := by decide

theorem yields_storeEdge_first_high (empty : ¬0 < pcap.edgePtr)
    (high : edge.edgeType = pulsecapEdgeHigh) :
    Yields env (storeEdge edge) pcap ()
      { setEdge ⟨0, zero_slot_inside⟩ edge pcap with edgePtr := 1 } := by
  refine yields_bind (yields_field _ _) (yields_if_neg empty (yields_if_pos high ?_))
  refine yields_bind (yields_index zero_slot_inside _) (yields_bind (yields_modify _ _) ?_)
  exact yields_modify _ _

theorem yields_storeEdge_first_low (empty : ¬0 < pcap.edgePtr)
    (low : edge.edgeType ≠ pulsecapEdgeHigh) : Yields env (storeEdge edge) pcap () pcap :=
  yields_bind (yields_field _ _) (yields_if_neg empty (yields_if_neg low (yields_done _ _)))

theorem faults_storeEdge_beyond (stored : 0 < pcap.edgePtr)
    (outside : ¬(pcap.edgePtr - 1).toNat < pulsecapMaxCount) :
    Faults env (storeEdge edge) pcap :=
  faults_bind_second (yields_field _ _) (faults_if_pos stored
    (faults_bind_second (yields_field _ _) (faults_bind_first (faults_index outside _))))

variable (stored : 0 < pcap.edgePtr) (inside : (pcap.edgePtr - 1).toNat < pulsecapMaxCount)
include stored

theorem yields_storeEdge_same_type
    (same : (pcap.storedEdges ⟨_, inside⟩).edgeType = edge.edgeType) :
    Yields env (storeEdge edge) pcap () pcap := by
  refine yields_bind (yields_field _ _) (yields_if_pos stored (yields_bind (yields_field _ _) ?_))
  refine yields_bind (yields_index inside _) (yields_if_neg ?_ (yields_done _ _))
  exact fun different => different same

variable (different : (pcap.storedEdges ⟨_, inside⟩).edgeType ≠ edge.edgeType)
include different

theorem yields_storeEdge_next (room : pcap.edgePtr.toNat < pulsecapMaxCount)
    (wanted : pcap.edgePtr < pcap.edgeTarget) :
    Yields env (storeEdge edge) pcap ()
      { setEdge ⟨_, room⟩ edge pcap with edgePtr := pcap.edgePtr + 1 } := by
  refine yields_bind (yields_field _ _) (yields_if_pos stored (yields_bind (yields_field _ _) ?_))
  refine yields_bind (yields_index inside _) (yields_if_pos different ?_)
  refine yields_bind (yields_index room _) (yields_bind (yields_modify _ _) ?_)
  exact yields_if_pos wanted (yields_modify _ _)

theorem yields_storeEdge_finish (room : pcap.edgePtr.toNat < pulsecapMaxCount)
    (reached : ¬pcap.edgePtr < pcap.edgeTarget) :
    Yields env (storeEdge edge) pcap ()
      { setEdge ⟨_, room⟩ edge pcap with flags := pcap.flags ||| pulsecapDone } := by
  refine yields_bind (yields_field _ _) (yields_if_pos stored (yields_bind (yields_field _ _) ?_))
  refine yields_bind (yields_index inside _) (yields_if_pos different ?_)
  refine yields_bind (yields_index room _) (yields_bind (yields_modify _ _) ?_)
  exact yields_if_neg reached (yields_bind (yields_stopTimer _) (yields_modify _ _))

/-- The store comes before the comparison with the target, so a full array is
written one slot too far. -/
theorem faults_storeEdge_full (full : ¬pcap.edgePtr.toNat < pulsecapMaxCount) :
    Faults env (storeEdge edge) pcap := by
  refine faults_bind_second (yields_field _ _) (faults_if_pos stored
    (faults_bind_second (yields_field _ _) ?_))
  refine faults_bind_second (yields_index inside _) (faults_if_pos different ?_)
  exact faults_bind_first (faults_index full _)

end StoreEdge

section Interrupt

theorem yields_acknowledge {World : Type} {env : Environment timerSignature World}
    {body : PulsecapProgram Unit} {pcap after : PulsecapData}
    (ran : Yields env body pcap () after) :
    Yields env (body.bind fun _ => Program.bind clearInterruptFlags fun _ => .done irqHandled)
      pcap irqHandled after := by
  refine yields_bind ran (yields_bind (yields_clearInterruptFlags after) ?_)
  exact yields_done _ _

section StatusReads

variable {World : Type} (env : Environment timerSignature World) (world : World)

/-- What the handler keeps of its two status reads: the status of timer 0. -/
def statusReads : U32 × World :=
  let first := env.respond (.ioread32 .tcsr0) world
  (first.1, (env.respond (.ioread32 .tcsr1) first.2).2)

theorem exec_timerIrqHandler_opened (pcap : PulsecapData) :
    timerIrqHandler.exec env ⟨pcap, world⟩ =
      (Program.bind (whenever (captureRunning pcap.flags = true)
        (Program.bind (readEdge (statusReads env world).1) storeEdge)) fun _ =>
          Program.bind clearInterruptFlags fun _ => .done irqHandled).exec env
            ⟨pcap, (statusReads env world).2⟩ := rfl

/-- During a running capture the handler offers one edge to the filter and then
acknowledges. -/
theorem exec_timerIrqHandler_offers {pcap : PulsecapData} {edge : PulseData} {offered : World}
    (running : captureRunning pcap.flags = true)
    (chosen : (readEdge (statusReads env world).1).exec env ⟨pcap, (statusReads env world).2⟩ =
      (.returned edge, ⟨pcap, offered⟩)) :
    timerIrqHandler.exec env ⟨pcap, world⟩ =
      (Program.bind (storeEdge edge) fun _ =>
        Program.bind clearInterruptFlags fun _ => .done irqHandled).exec env ⟨pcap, offered⟩ := by
  rw [exec_timerIrqHandler_opened, whenever, if_pos running, exec_bind, exec_bind, chosen,
    continueWith_returned, exec_bind]

theorem exec_timerIrqHandler_idle (pcap : PulsecapData)
    (idle : captureRunning pcap.flags = false) :
    ∃ after, timerIrqHandler.exec env ⟨pcap, world⟩ = (.returned irqHandled, ⟨pcap, after⟩) := by
  rw [exec_timerIrqHandler_opened, whenever, if_neg (by simp [idle])]
  exact yields_acknowledge (yields_done () pcap) _

end StatusReads

theorem exec_timerIrqHandler_running (pcap : PulsecapData) (readings : Readings)
    (running : captureRunning pcap.flags = true) :
    timerIrqHandler.exec anyReadings ⟨pcap, readings⟩ =
      (Program.bind (storeEdge (deliveredEdge readings)) fun _ =>
        Program.bind clearInterruptFlags fun _ => .done irqHandled).exec anyReadings
          ⟨pcap, fun position => readings (position + 3)⟩ := by
  apply exec_timerIrqHandler_offers _ _ running
  change (readEdge (readings 0 .tcsr0)).exec anyReadings
    ⟨pcap, fun position => readings (position + 2)⟩ = _
  unfold readEdge deliveredEdge
  split <;> rfl

end Interrupt

section Steps

variable {pcap after : PulsecapData} {readings : Readings}

theorem step_of_yields {op : PulsecapOp} {answer : Answer}
    (yielded : Yields anyReadings op.program pcap answer after) :
    pulsecapStep pcap ⟨op, readings⟩ = some (answer, after) := by
  obtain ⟨world, ran⟩ := yielded readings
  simp only [pulsecapStep, PulsecapEvent.execution, ran]

theorem step_of_handler (ran : ∃ world, timerIrqHandler.exec anyReadings ⟨pcap, readings⟩ =
      (.returned irqHandled, ⟨after, world⟩)) :
    pulsecapStep pcap ⟨.timerIrq, readings⟩ = some (⟨some irqHandled, []⟩, after) := by
  obtain ⟨world, same⟩ := ran
  simp only [pulsecapStep, PulsecapEvent.execution, PulsecapOp.program, bind_eq, exec_bind, same,
    continueWith_returned, pure_eq_done, exec_done]

theorem step_timerIrq_idle (idle : captureRunning pcap.flags = false) :
    pulsecapStep pcap ⟨.timerIrq, readings⟩ = some (⟨some irqHandled, []⟩, pcap) :=
  step_of_handler (exec_timerIrqHandler_idle anyReadings readings pcap idle)

theorem step_timerIrq_running (running : captureRunning pcap.flags = true)
    (stored : Yields anyReadings (storeEdge (deliveredEdge readings)) pcap () after) :
    pulsecapStep pcap ⟨.timerIrq, readings⟩ = some (⟨some irqHandled, []⟩, after) := by
  apply step_of_handler
  rw [exec_timerIrqHandler_running pcap readings running]
  exact yields_acknowledge stored _

theorem execution_timerIrq_faults (running : captureRunning pcap.flags = true)
    (faulted : Faults anyReadings (storeEdge (deliveredEdge readings)) pcap) :
    (PulsecapEvent.execution ⟨.timerIrq, readings⟩ pcap).1 = .undefined := by
  have handler : (timerIrqHandler.exec anyReadings ⟨pcap, readings⟩).1 = .undefined := by
    rw [exec_timerIrqHandler_running pcap readings running]
    exact faults_bind_first faulted _
  simp only [PulsecapEvent.execution, PulsecapOp.program, bind_eq, exec_bind]
  rcases ran : timerIrqHandler.exec anyReadings ⟨pcap, readings⟩ with ⟨outcome, machine⟩
  rw [ran] at handler
  rw [show outcome = .undefined from handler, continueWith_undefined]

end Steps

end Ebaz4205.PulsecapOperations
