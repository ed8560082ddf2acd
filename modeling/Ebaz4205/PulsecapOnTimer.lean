import Ebaz4205.PulsecapRefinement
import Ebaz4205.TimerDevice

/-!
# The pulse capture driver on the AXI timer

The operations run against the timer device, with edges arriving before each
register access. Every such run is a run over arbitrary register readings, so
what is proved of those holds here; what is new is the state of the timer.
-/

namespace Ebaz4205.PulsecapOnTimer

open BitMask DriverProgram DriverProgram.Program PartialRuns
open PulsecapCapture PulsecapDriver PulsecapOperations PulsecapRefinement
open TimerDevice TimerDevice.AxiTimer

set_option autoImplicit false

/-- An operation with the edges that arrive before each of its register accesses. -/
structure TimedEvent where
  op : PulsecapOp
  arrivals : List (List TimerEdge)

/-- An instance and its timer. -/
structure TimedState where
  pcap : PulsecapData
  timer : AxiTimer

def TimedState.probed : TimedState := ⟨.zeroed, .reset⟩

def TimedEvent.execution (event : TimedEvent) (state : TimedState) :
    Outcome Answer × Machine timerSignature TimerWorld :=
  event.op.program.exec timerDevice ⟨state.pcap, .observe state.timer event.arrivals⟩

def timedStep (state : TimedState) (event : TimedEvent) : Option (Answer × TimedState) :=
  match event.execution state with
  | (.returned answer, machine) => some (answer, ⟨machine.memory, machine.world.timer⟩)
  | _ => none

def timedSystem : Transducer TimedState TimedEvent Answer where
  step := timedStep

theorem timedStep_eq_some {state next : TimedState} {event : TimedEvent} {answer : Answer} :
    timedStep state event = some (answer, next) ↔
      ∃ machine, event.execution state = (.returned answer, machine) ∧
        next = ⟨machine.memory, machine.world.timer⟩ := by
  unfold timedStep
  obtain ⟨outcome, machine⟩ := event.execution state
  cases outcome with
  | returned value =>
      simp only [Option.some.injEq, Prod.mk.injEq, Outcome.returned.injEq]
      constructor
      · intro same
        exact ⟨machine, ⟨same.1, rfl⟩, same.2.symm⟩
      · intro found
        obtain ⟨other, ⟨sameAnswer, sameMachine⟩, sameNext⟩ := found
        exact ⟨sameAnswer, by rw [sameNext, sameMachine]⟩
  | undefined => simp
  | unfinished => simp

theorem exists_readings_of_timedStep {state next : TimedState} {event : TimedEvent}
    {answer : Answer} (stepped : timedStep state event = some (answer, next)) :
    ∃ readings, pulsecapStep state.pcap ⟨event.op, readings⟩ = some (answer, next.pcap) := by
  obtain ⟨machine, ran, same⟩ := timedStep_eq_some.mp stepped
  rcases exists_readings timerDevice event.op.program state.pcap
    (.observe state.timer event.arrivals) with ⟨readings, outcome, memory⟩
  change _ = (event.execution state).1 at outcome
  change _ = (event.execution state).2.memory at memory
  rw [ran] at outcome memory
  refine ⟨readings, ?_⟩
  unfold pulsecapStep PulsecapEvent.execution
  rcases oracle : event.op.program.exec anyReadings ⟨state.pcap, readings⟩ with ⟨result, last⟩
  rw [oracle] at outcome memory
  dsimp only at outcome memory
  subst outcome
  change some (answer, last.memory) = some (answer, next.pcap)
  rw [memory, same]

/-- Every step on the timer is a step the abstract capture knows. -/
theorem timedStep_represents {capture : Capture} {state next : TimedState} {event : TimedEvent}
    {answer : Answer} (represents : Represents capture state.pcap)
    (stepped : timedStep state event = some (answer, next)) :
    ∃ readings, answer = capture.reply ⟨event.op, readings⟩ ∧
      Represents (capture.advance ⟨event.op, readings⟩) next.pcap := by
  obtain ⟨readings, ran⟩ := exists_readings_of_timedStep stepped
  refine ⟨readings, ?_, captureSimulation.preserved _ _ _ _ _ represents ran⟩
  cases fits : capture.overflows ⟨event.op, readings⟩ with
  | true =>
      rw [step_none_of_overflows represents fits] at ran
      exact absurd ran (by simp)
  | false =>
      obtain ⟨after, known, _⟩ := refines_of_fits ⟨event.op, readings⟩ represents fits
      rw [known, Option.some.injEq, Prod.mk.injEq] at ran
      exact ran.1.symm

section Executions

variable (pcap : PulsecapData) (world : TimerWorld)

/-- The timer after a read-modify-write of a control register. -/
def rewritten (channel : Channel) (change : U32 → U32) : TimerWorld :=
  (world.arrive.readControl channel).2.arrive.writeControl channel
    (change (world.arrive.timer.control channel))

theorem exec_regUpdate (channel : Channel) (change : U32 → U32) :
    (regUpdate channel.controlRegister change).exec timerDevice ⟨pcap, world⟩ =
      (.returned (), ⟨pcap, rewritten world channel change⟩) := by
  cases channel <;> rfl

def stopped : TimerWorld :=
  rewritten (rewritten world .rising fun regval => regval &&& ~~~tcsr0Ent0) .falling
    fun regval => regval &&& ~~~tcsr0Ent0

theorem exec_stopTimer :
    stopTimer.exec timerDevice ⟨pcap, world⟩ = (.returned (), ⟨pcap, stopped world⟩) := rfl

/-- The timer after both control registers were read. -/
def readBothControls : TimerWorld :=
  ((world.arrive.readControl .rising).2.arrive.readControl .falling).2

/-- The acknowledge writes back what both control registers held when it read
them, with the interrupt bits set. -/
def acknowledged : TimerWorld :=
  ((readBothControls world).arrive.writeControl .rising
    (world.arrive.timer.control .rising ||| tcsr0T0int)).arrive.writeControl .falling
      ((world.arrive.readControl .rising).2.arrive.timer.control .falling ||| tcsr0T0int)

theorem exec_clearInterruptFlags :
    clearInterruptFlags.exec timerDevice ⟨pcap, world⟩ =
      (.returned (), ⟨pcap, acknowledged world⟩) := rfl

end Executions

/-- The edge of this type is one more than the capture has use for: the handler
stores it behind the captured ones and stops the timers. -/
def finishes (pcap : PulsecapData) (edgeType : Byte) : Prop :=
  0 < pcap.edgePtr ∧ ¬pcap.edgePtr < pcap.edgeTarget ∧
    ∃ last : Fin pulsecapMaxCount, last.val = (pcap.edgePtr - 1).toNat ∧
      (pcap.storedEdges last).edgeType ≠ edgeType

section Filter

variable {World : Type} {env : Environment timerSignature World} {pcap : PulsecapData}
  {edge : PulseData} {world : World} {after : Machine timerSignature World}

theorem flags_storeEdge (goesOn : ¬finishes pcap edge.edgeType)
    (ran : (storeEdge edge).exec env ⟨pcap, world⟩ = (.returned (), after)) :
    after.memory.flags = pcap.flags := by
  by_cases stored : 0 < pcap.edgePtr
  · by_cases inside : (pcap.edgePtr - 1).toNat < pulsecapMaxCount
    · by_cases same : (pcap.storedEdges ⟨_, inside⟩).edgeType = edge.edgeType
      · rw [memory_of_yields (yields_storeEdge_same_type stored inside same) ran]
      · have wanted : pcap.edgePtr < pcap.edgeTarget := by
          by_contra reached
          exact goesOn ⟨stored, reached, ⟨_, inside⟩, rfl, same⟩
        by_cases room : pcap.edgePtr.toNat < pulsecapMaxCount
        · rw [memory_of_yields (yields_storeEdge_next stored inside same room wanted) ran]
          rfl
        · exact (not_returned_of_faults (faults_storeEdge_full stored inside same room) ran).elim
    · exact (not_returned_of_faults (faults_storeEdge_beyond stored inside) ran).elim
  · by_cases high : edge.edgeType = pulsecapEdgeHigh
    · rw [memory_of_yields (yields_storeEdge_first_high stored high) ran]
      rfl
    · rw [memory_of_yields (yields_storeEdge_first_low stored high) ran]

theorem finishes_storeEdge (last : finishes pcap edge.edgeType)
    (room : pcap.edgePtr.toNat < pulsecapMaxCount) :
    Yields env (storeEdge edge) pcap ()
      { setEdge ⟨_, room⟩ edge pcap with flags := pcap.flags ||| pulsecapDone } := by
  obtain ⟨stored, reached, slot, place, different⟩ := last
  have inside : (pcap.edgePtr - 1).toNat < pulsecapMaxCount := place ▸ slot.isLt
  have sameSlot : slot = ⟨_, inside⟩ := Fin.ext place
  rw [sameSlot] at different
  exact yields_storeEdge_finish stored inside different room reached

theorem faults_finishes (last : finishes pcap edge.edgeType)
    (full : ¬pcap.edgePtr.toNat < pulsecapMaxCount) : Faults env (storeEdge edge) pcap := by
  obtain ⟨stored, _, slot, place, different⟩ := last
  have inside : (pcap.edgePtr - 1).toNat < pulsecapMaxCount := place ▸ slot.isLt
  have sameSlot : slot = ⟨_, inside⟩ := Fin.ext place
  rw [sameSlot] at different
  exact faults_storeEdge_full stored inside different full

/-- Unless the edge ends the capture, storing it does not touch the timer. -/
theorem world_storeEdge (goesOn : ¬finishes pcap edge.edgeType) :
    ((storeEdge edge).exec env ⟨pcap, world⟩).2.world = world := by
  have body : (storeEdge edge).exec env ⟨pcap, world⟩ =
      (if 0 < pcap.edgePtr then storeLaterEdge edge else storeFirstEdge edge).exec env
        ⟨pcap, world⟩ := rfl
  rw [body]
  by_cases stored : 0 < pcap.edgePtr
  · rw [if_pos stored]
    unfold storeLaterEdge edgeSlot whenever
    simp only [bind_eq, exec_field_bind, id]
    rw [exec_index_bind]
    by_cases inside : (pcap.edgePtr - 1).toNat < timerSignature.extent .storedEdges
    · rw [dif_pos inside]
      by_cases different : (pcap.storedEdges ⟨_, inside⟩).edgeType ≠ edge.edgeType
      · have wanted : pcap.edgePtr < pcap.edgeTarget := by
          by_contra reached
          exact goesOn ⟨stored, reached, ⟨_, inside⟩, rfl, different⟩
        rw [if_pos different, exec_index_bind]
        by_cases room : pcap.edgePtr.toNat < timerSignature.extent .storedEdges
        · rw [dif_pos room, exec_modify_bind, if_pos wanted, exec_modify]
        · rw [dif_neg room]
      · rw [if_neg different, exec_done]
    · rw [dif_neg inside]
  · rw [if_neg stored]
    unfold storeFirstEdge edgeSlot whenever
    by_cases high : edge.edgeType = pulsecapEdgeHigh
    · rw [if_pos high, bind_eq, exec_index_bind, dif_pos zero_slot_inside]
      rfl
    · rw [if_neg high, exec_done]

/-- The edge that ends the capture is stored, and then the timers are stopped. -/
theorem exec_storeEdge_finishes (last : finishes pcap edge.edgeType)
    (room : pcap.edgePtr.toNat < pulsecapMaxCount) :
    (storeEdge edge).exec env ⟨pcap, world⟩ =
      (Program.bind stopTimer fun _ =>
        modify fun drv => { drv with flags := drv.flags ||| pulsecapDone }).exec env
          ⟨setEdge ⟨_, room⟩ edge pcap, world⟩ := by
  obtain ⟨stored, reached, slot, place, different⟩ := last
  have inside : (pcap.edgePtr - 1).toNat < pulsecapMaxCount := place ▸ slot.isLt
  have sameSlot : slot = ⟨_, inside⟩ := Fin.ext place
  rw [sameSlot] at different
  have body : (storeEdge edge).exec env ⟨pcap, world⟩ =
      (if 0 < pcap.edgePtr then storeLaterEdge edge else storeFirstEdge edge).exec env
        ⟨pcap, world⟩ := rfl
  rw [body, if_pos stored]
  unfold storeLaterEdge edgeSlot whenever
  simp only [bind_eq, exec_field_bind, id]
  rw [exec_index_bind, dif_pos inside, if_pos different, exec_index_bind, dif_pos room,
    exec_modify_bind,
    if_neg reached]

end Filter

section Handler

/-- The channel the handler will read the edge from: it looks at the rising
flag alone, as it is at the first register access. -/
def servedChannel (world : TimerWorld) : Channel :=
  if world.arrive.timer.pending .rising then .rising else .falling

def edgeTypeOf : Channel → Byte
  | .rising => pulsecapEdgeHigh
  | .falling => pulsecapEdgeLow

/-- The timer at the read of the capture register, after the two status reads. -/
def offering (world : TimerWorld) : TimerWorld := (readBothControls world).arrive

def offeredEdge (world : TimerWorld) : PulseData :=
  ⟨(offering world).timer.capture (servedChannel world), edgeTypeOf (servedChannel world)⟩

theorem exec_readEdge (pcap : PulsecapData) (world : TimerWorld) :
    (readEdge (statusReads timerDevice world).1).exec timerDevice
        ⟨pcap, (statusReads timerDevice world).2⟩ =
      (.returned (offeredEdge world),
        ⟨pcap, ((offering world).readCapture (servedChannel world)).2⟩) := by
  have status : (statusReads timerDevice world).1 = world.arrive.timer.control .rising := rfl
  unfold offeredEdge servedChannel
  rw [status, readEdge]
  by_cases rising : world.arrive.timer.pending .rising = true
  · rw [if_pos rising]
    unfold pending at rising
    rw [if_pos rising]
    rfl
  · rw [if_neg rising]
    unfold pending at rising
    rw [if_neg rising]
    rfl

/-- In a running capture the handler offers to the filter what it read from the
capture register of the served channel, and then acknowledges. -/
theorem exec_handler_offers {pcap : PulsecapData} (world : TimerWorld)
    (running : captureRunning pcap.flags = true) :
    timerIrqHandler.exec timerDevice ⟨pcap, world⟩ =
      (Program.bind (storeEdge (offeredEdge world)) fun _ =>
        Program.bind clearInterruptFlags fun _ => .done irqHandled).exec timerDevice
          ⟨pcap, ((offering world).readCapture (servedChannel world)).2⟩ :=
  exec_timerIrqHandler_offers timerDevice world running (exec_readEdge pcap world)

variable {pcap : PulsecapData} {world : TimerWorld} {code : Int}
  {after : Machine timerSignature TimerWorld}

/-- What a handler run does to a running capture and its timer. -/
theorem timerIrq_effect (running : captureRunning pcap.flags = true)
    (ran : timerIrqHandler.exec timerDevice ⟨pcap, world⟩ = (.returned code, after)) :
    (¬finishes pcap (edgeTypeOf (servedChannel world)) → after.memory.flags = pcap.flags ∧
        after.world = acknowledged ((offering world).readCapture (servedChannel world)).2) ∧
      (finishes pcap (edgeTypeOf (servedChannel world)) →
        pcap.edgePtr.toNat < pulsecapMaxCount ∧
          after.memory.flags = pcap.flags ||| pulsecapDone ∧
            after.world =
              acknowledged (stopped ((offering world).readCapture (servedChannel world)).2)) := by
  have offered : edgeTypeOf (servedChannel world) = (offeredEdge world).edgeType := rfl
  rw [exec_handler_offers world running, exec_bind] at ran
  rw [offered]
  rcases stored : (storeEdge (offeredEdge world)).exec timerDevice
    ⟨pcap, ((offering world).readCapture (servedChannel world)).2⟩ with ⟨outcome, middle⟩
  rw [stored] at ran
  cases outcome with
  | returned value =>
      rw [continueWith_returned, exec_bind, exec_clearInterruptFlags] at ran
      have same : after = ⟨middle.memory, acknowledged middle.world⟩ :=
        (Prod.mk.inj ran).2.symm
      rw [same]
      constructor
      · intro goesOn
        have untouched : ((storeEdge (offeredEdge world)).exec timerDevice
            ⟨pcap, ((offering world).readCapture (servedChannel world)).2⟩).2.world = _ :=
          world_storeEdge goesOn
        have flags : middle.memory.flags = pcap.flags := flags_storeEdge goesOn stored
        rw [stored] at untouched
        exact ⟨flags, by rw [← untouched]⟩
      · intro last
        by_cases room : pcap.edgePtr.toNat < pulsecapMaxCount
        · rw [exec_storeEdge_finishes last room, exec_bind, exec_stopTimer] at stored
          rw [← (Prod.mk.inj stored).2]
          exact ⟨room, rfl, rfl⟩
        · exact (not_returned_of_faults (faults_finishes last room) stored).elim
  | undefined => exact absurd (Prod.mk.inj ran).1 (by simp)
  | unfinished => exact absurd (Prod.mk.inj ran).1 (by simp)

end Handler

end Ebaz4205.PulsecapOnTimer
