import Ebaz4205.PulsecapOnTimer

/-!
# Whether the timers stop with the capture

A start switches both channels on with the enable-all bit. Every later write
hands that bit back to the timer, so the individual enable bits that the stop
path clears come up again: from the first accepted start on, both channels stay
enabled.
-/

namespace Ebaz4205.PulsecapTimerStop

open BitMask DriverProgram DriverProgram.Program PartialRuns
open PulsecapCapture PulsecapDriver PulsecapOnTimer PulsecapOperations PulsecapRefinement
open TimerDevice TimerDevice.AxiTimer

set_option autoImplicit false

/-- The enable-all bit and the enable bits of both channels are all `on`. -/
def Switched (on : Bool) (timer : AxiTimer) : Prop :=
  ∀ channel, timer.enabledAll channel = on ∧ timer.enabled channel = on

section Device

variable {on : Bool} {timer : AxiTimer} {world : TimerWorld}

theorem switched_latch (edge : TimerEdge) (switched : Switched on timer) :
    Switched on (timer.latch edge) := by
  intro channel
  unfold enabledAll enabled
  rw [tcsr0Enall, isSet_control_latch timer edge 10 (by decide), tcsr0Ent0,
    isSet_control_latch timer edge 7 (by decide)]
  exact switched channel

theorem switched_world_latch (edge : TimerEdge) (switched : Switched on world.timer) :
    Switched on (world.latch edge).timer := by
  unfold TimerWorld.latch
  split
  · exact switched
  · exact switched_latch edge switched

theorem switched_arrive (switched : Switched on world.timer) :
    Switched on world.arrive.timer := by
  have kept : ∀ (edges : List TimerEdge) (start : TimerWorld), Switched on start.timer →
      Switched on (edges.foldl TimerWorld.latch start).timer := by
    intro edges
    induction edges with
    | nil => exact fun start holds => holds
    | cons edge rest ih => exact fun start holds => ih _ (switched_world_latch edge holds)
  exact kept _ _ switched

theorem switched_writeControl (channel : Channel) {value : U32}
    (switched : Switched on timer) (all : isSet value tcsr0Enall = on)
    (own : (on || isSet value tcsr0Ent0) = on) :
    Switched on (timer.writeControl channel value) := by
  intro other
  constructor
  · rw [enabledAll_writeControl, all]
  · by_cases same : other = channel
    · rw [same, enabled_writeControl, all, own]
    · rw [enabled_writeControl_other timer value same, all, (switched other).2, Bool.or_self]

theorem world_writeControl_timer (channel : Channel) (value : U32) :
    (world.writeControl channel value).timer = world.timer.writeControl channel value := by
  unfold TimerWorld.writeControl
  dsimp only
  split <;> rfl

/-- The driver's read-modify-writes neither touch the enable-all bit nor raise
an enable bit. -/
def KeepsSwitch (change : U32 → U32) : Prop :=
  ∀ value, isSet (change value) tcsr0Enall = isSet value tcsr0Enall ∧
    (isSet (change value) tcsr0Ent0 = true → isSet value tcsr0Ent0 = true)

theorem switched_rewrite {change : U32 → U32} (keeps : KeepsSwitch change) (channel : Channel)
    {earlier : AxiTimer} (switched : Switched on timer) (read : Switched on earlier) :
    Switched on (timer.writeControl channel (change (earlier.control channel))) := by
  obtain ⟨all, own⟩ := keeps (earlier.control channel)
  apply switched_writeControl channel switched
  · exact all.trans (read channel).1
  · cases on with
    | true => rfl
    | false =>
        rw [Bool.false_or, ← Bool.not_eq_true]
        intro raised
        have earlierOn : earlier.enabled channel = true := own raised
        rw [(read channel).2] at earlierOn
        exact absurd earlierOn (by decide)

end Device

section Programs

def SwitchedWorld (on : Bool) (machine : Machine timerSignature TimerWorld) : Prop :=
  Switched on machine.world.timer

variable {on : Bool}

theorem keepsSwitch_clear_ent0 : KeepsSwitch fun regval => regval &&& ~~~tcsr0Ent0 := by
  intro value
  constructor
  · exact isSet_clear_other value 7 10 (by decide)
  · intro raised
    rw [tcsr0Ent0, isSet_clear] at raised
    exact absurd raised (by decide)

theorem keepsSwitch_clear_enit0 : KeepsSwitch fun regval => regval &&& ~~~tcsr0Enit0 := by
  intro value
  constructor
  · exact isSet_clear_other value 6 10 (by decide)
  · intro raised
    rwa [tcsr0Enit0, tcsr0Ent0, isSet_clear_other value 6 7 (by decide)] at raised

theorem keepsSwitch_set_t0int : KeepsSwitch fun regval => regval ||| tcsr0T0int := by
  intro value
  constructor
  · exact isSet_set_other value 8 10 (by decide)
  · intro raised
    rwa [tcsr0T0int, tcsr0Ent0, isSet_set_other value 8 7 (by decide)] at raised

theorem ensures_regRead (reg : TimerRegister) :
    Ensures timerDevice (SwitchedWorld on) (regRead reg) (SwitchedWorld on) := by
  constructor
  intro machine value after switched ran
  rw [← (Prod.mk.inj ran).2]
  cases reg <;> exact switched_arrive switched

theorem ensures_regUpdate {change : U32 → U32} (keeps : KeepsSwitch change) (channel : Channel) :
    Ensures timerDevice (SwitchedWorld on) (regUpdate channel.controlRegister change)
      (SwitchedWorld on) := by
  constructor
  intro machine _ after switched ran
  rw [exec_regUpdate] at ran
  rw [← (Prod.mk.inj ran).2, SwitchedWorld]
  unfold rewritten
  rw [world_writeControl_timer]
  have read := switched_arrive switched
  exact switched_rewrite keeps channel (switched_arrive read) read

theorem ensures_change (change : PulsecapData → PulsecapData) :
    Ensures timerDevice (SwitchedWorld on) (modify change) (SwitchedWorld on) :=
  ensures_modify fun _ switched => switched

theorem ensures_stopTimer :
    Ensures timerDevice (SwitchedWorld on) stopTimer (SwitchedWorld on) :=
  ensures_bind (ensures_regUpdate keepsSwitch_clear_ent0 .rising)
    fun _ => ensures_regUpdate keepsSwitch_clear_ent0 .falling

theorem ensures_disableInterrupts :
    Ensures timerDevice (SwitchedWorld on) disableInterrupts (SwitchedWorld on) :=
  ensures_bind (ensures_regUpdate keepsSwitch_clear_enit0 .rising)
    fun _ => ensures_regUpdate keepsSwitch_clear_enit0 .falling

theorem ensures_clearInterruptFlags :
    Ensures timerDevice (SwitchedWorld on) clearInterruptFlags (SwitchedWorld on) := by
  constructor
  intro ⟨pcap, world⟩ _ after switched ran
  rw [exec_clearInterruptFlags] at ran
  rw [← (Prod.mk.inj ran).2, SwitchedWorld]
  unfold acknowledged
  rw [world_writeControl_timer]
  have first : Switched on world.arrive.timer := switched_arrive switched
  have second : Switched on (world.arrive.readControl .rising).2.arrive.timer :=
    switched_arrive first
  have third : Switched on (readBothControls world).arrive.timer := switched_arrive second
  apply switched_rewrite keepsSwitch_set_t0int .falling _ second
  apply switched_arrive
  rw [world_writeControl_timer]
  exact switched_rewrite keepsSwitch_set_t0int .rising third first

theorem ensures_readEdge (t0State : U32) :
    Ensures timerDevice (SwitchedWorld on) (readEdge t0State) (SwitchedWorld on) :=
  ensures_if (ensures_bind (ensures_regRead .tlr0) fun _ => ensures_done _)
    (ensures_bind (ensures_regRead .tlr1) fun _ => ensures_done _)

theorem ensures_storeEdge (edge : PulseData) :
    Ensures timerDevice (SwitchedWorld on) (storeEdge edge) (SwitchedWorld on) := by
  apply ensures_bind (ensures_field _)
  intro edgePtr
  apply ensures_if
  · apply ensures_bind (ensures_field _)
    intro drv
    apply ensures_bind (ensures_index _ _)
    intro last
    apply ensures_whenever
    apply ensures_bind (ensures_index _ _)
    intro slot
    apply ensures_bind (ensures_change _)
    intro _
    exact ensures_if (ensures_change _) (ensures_bind ensures_stopTimer fun _ => ensures_change _)
  · apply ensures_whenever
    apply ensures_bind (ensures_index _ _)
    intro slot
    exact ensures_bind (ensures_change _) fun _ => ensures_change _

theorem ensures_timerIrqHandler :
    Ensures timerDevice (SwitchedWorld on) timerIrqHandler (SwitchedWorld on) := by
  apply ensures_bind (ensures_regRead .tcsr0)
  intro t0State
  apply ensures_bind (ensures_regRead .tcsr1)
  intro _
  apply ensures_bind (ensures_field _)
  intro flags
  apply ensures_bind (ensures_whenever (ensures_bind (ensures_readEdge t0State) ensures_storeEdge))
  intro _
  exact ensures_bind ensures_clearInterruptFlags fun _ => ensures_done _

theorem ensures_cancelCapture :
    Ensures timerDevice (SwitchedWorld on) (pulsecapCancelCapture .valid) (SwitchedWorld on) := by
  apply ensures_if (ensures_done _)
  apply ensures_bind (ensures_field _)
  intro flags
  apply ensures_if (ensures_done _)
  apply ensures_bind ensures_disableInterrupts
  intro _
  apply ensures_bind ensures_stopTimer
  intro _
  exact ensures_bind (ensures_change _) fun _ => ensures_done _

theorem ensures_copyEdges (ii remaining : Nat) :
    Ensures timerDevice (SwitchedWorld on) (copyEdges ii remaining) (SwitchedWorld on) := by
  induction remaining generalizing ii with
  | zero => exact ensures_done _
  | succ remaining ih =>
      apply ensures_bind (ensures_index _ _)
      intro slot
      apply ensures_bind (ensures_field _)
      intro value
      exact ensures_bind (ih (ii + 1)) fun _ => ensures_done _

theorem ensures_readEdges (count : U32) :
    Ensures timerDevice (SwitchedWorld on) (pulsecapReadEdges .valid count .valid)
      (SwitchedWorld on) := by
  apply ensures_if (ensures_done _)
  apply ensures_bind (ensures_field _)
  intro pcap
  exact ensures_if (ensures_bind (ensures_copyEdges _ _) fun _ => ensures_done _)
    (ensures_if (ensures_bind (ensures_copyEdges _ _) fun _ => ensures_done _) (ensures_done _))

theorem ensures_edgeDataShow :
    Ensures timerDevice (SwitchedWorld on) PulsecapDriver.edgeDataShow (SwitchedWorld on) := by
  apply ensures_bind (ensures_field _)
  intro edgeTarget
  apply ensures_bind (ensures_readEdges edgeTarget)
  intro readOut
  exact ensures_if (ensures_done _) (ensures_bind (ensures_change _) fun _ => ensures_done _)

theorem ensures_edgesCaptured :
    Ensures timerDevice (SwitchedWorld on) (pulsecapEdgesCaptured .valid) (SwitchedWorld on) := by
  apply ensures_if (ensures_done _)
  apply ensures_bind (ensures_field _)
  intro pcap
  exact ensures_if (ensures_done _) (ensures_if (ensures_done _) (ensures_done _))

/-- Every operation but a start leaves the switches as they are. -/
theorem ensures_program {op : PulsecapOp} (noStart : ∀ edgeCount, op ≠ .startCapture edgeCount) :
    Ensures timerDevice (SwitchedWorld on) op.program (SwitchedWorld on) := by
  cases op with
  | startCapture edgeCount => exact absurd rfl (noStart edgeCount)
  | timerIrq => exact ensures_bind ensures_timerIrqHandler fun _ => ensures_done _
  | cancelCapture => exact ensures_bind ensures_cancelCapture fun _ => ensures_done _
  | getState =>
      exact ensures_bind (ensures_if (ensures_done _) (ensures_field _)) fun _ => ensures_done _
  | edgesCaptured => exact ensures_bind ensures_edgesCaptured fun _ => ensures_done _
  | readEdges count => exact ensures_bind (ensures_readEdges count) fun _ => ensures_done _
  | edgeDataShow => exact ensures_bind ensures_edgeDataShow fun _ => ensures_done _

end Programs

section Start

theorem ensures_startTimer :
    Ensures timerDevice (fun _ => True) startTimer (SwitchedWorld true) := by
  constructor
  intro ⟨pcap, world⟩ _ after _ ran
  have written : startTimer.exec timerDevice ⟨pcap, world⟩ = _ :=
    exec_regUpdate pcap world .rising fun regval => regval ||| tcsr0Enall
  rw [written] at ran
  rw [← (Prod.mk.inj ran).2, SwitchedWorld]
  unfold rewritten
  rw [world_writeControl_timer]
  have all : isSet (world.arrive.timer.control .rising ||| tcsr0Enall) tcsr0Enall = true :=
    isSet_set _ 10 (by decide)
  intro channel
  constructor
  · rw [enabledAll_writeControl, all]
  · by_cases same : channel = .rising
    · rw [same, enabled_writeControl, all, Bool.true_or]
    · rw [enabled_writeControl_other _ _ same, all, Bool.true_or]

/-- What `pulsecap_start_capture` does once its checks have passed. -/
def acceptedStart (edgeCount : U32) : PulsecapProgram Int :=
  Program.bind initializeTimer fun _ =>
    Program.bind (modify fun pcap => pcap.armed edgeCount) fun _ =>
      Program.bind startTimer fun _ => .done 0

theorem ensures_acceptedStart (edgeCount : U32) :
    Ensures timerDevice (fun _ => True) (acceptedStart edgeCount) (SwitchedWorld true) := by
  have anywhere : Ensures timerDevice (fun _ => True) initializeTimer fun _ => True :=
    ⟨fun _ _ _ _ _ => trivial⟩
  have still : Ensures timerDevice (fun _ => True)
      (modify fun pcap => PulsecapData.armed pcap edgeCount) fun _ => True :=
    ensures_modify fun _ _ => trivial
  apply ensures_bind anywhere
  intro _
  apply ensures_bind still
  intro _
  exact ensures_bind ensures_startTimer fun _ => ensures_done _

theorem exec_startCapture (pcap : PulsecapData) (world : TimerWorld) (edgeCount : U32) :
    (∃ code, (pulsecapStartCapture .valid edgeCount).exec timerDevice ⟨pcap, world⟩ =
        (.returned code, ⟨pcap, world⟩)) ∨
      (pulsecapStartCapture .valid edgeCount).exec timerDevice ⟨pcap, world⟩ =
        (acceptedStart edgeCount).exec timerDevice ⟨pcap, world⟩ := by
  unfold pulsecapStartCapture
  by_cases enabled : isSet pcap.flags pulsecapEnable = true
  · cases finished : isSet pcap.flags pulsecapDone with
    | false => exact Or.inl ⟨-ebusy, by simp [enabled, finished]⟩
    | true =>
        by_cases tooMany : pulsecapMaxCount < edgeCount.toNat
        · exact Or.inl ⟨-einval, by simp [enabled, finished, tooMany]⟩
        · exact Or.inr (by simp [enabled, finished, tooMany, acceptedStart])
  · by_cases tooMany : pulsecapMaxCount < edgeCount.toNat
    · exact Or.inl ⟨-einval, by simp [enabled, tooMany]⟩
    · exact Or.inr (by simp [enabled, tooMany, acceptedStart])

end Start

section Runs

variable {state next : TimedState} {answer : Answer} {arrivals : List (List TimerEdge)}

theorem timedStep_start {edgeCount : U32}
    (stepped : timedStep state ⟨.startCapture edgeCount, arrivals⟩ = some (answer, next)) :
    next = state ∨ captureRunning next.pcap.flags = true ∧ Switched true next.timer := by
  obtain ⟨machine, ran, same⟩ := timedStep_eq_some.mp stepped
  change (Program.bind (pulsecapStartCapture .valid edgeCount) fun code => .done _).exec _ _ = _
    at ran
  rw [exec_bind] at ran
  rcases exec_startCapture state.pcap (.observe state.timer arrivals) edgeCount with
    ⟨code, refused⟩ | accepted
  · left
    rw [refused, continueWith_returned] at ran
    rw [same, ← (Prod.mk.inj ran).2]
    rfl
  · right
    rw [accepted] at ran
    rcases started : (acceptedStart edgeCount).exec timerDevice
      ⟨state.pcap, .observe state.timer arrivals⟩ with ⟨outcome, last⟩
    have yielded : Yields timerDevice (acceptedStart edgeCount) state.pcap 0
        (state.pcap.armed edgeCount) :=
      yields_bind (yields_initializeTimer _) (yields_bind (yields_modify _ _)
        (yields_bind (yields_regUpdate _ _ _) (yields_done _ _)))
    have outcomeIs := (exec_eq_of_yields yielded (.observe state.timer arrivals)).1
    rw [started] at ran outcomeIs
    dsimp only at outcomeIs
    subst outcomeIs
    rw [continueWith_returned] at ran
    rw [same, ← (Prod.mk.inj ran).2]
    constructor
    · dsimp only
      rw [memory_of_yields yielded started]
      have marks := marks_armed state.pcap edgeCount
      rw [captureRunning, marks.enable, marks.done]
      rfl
    · exact (ensures_acceptedStart edgeCount).after_return _ _ _ trivial started

theorem timedStep_switched {on : Bool} {event : TimedEvent}
    (noStart : ∀ edgeCount, event.op ≠ .startCapture edgeCount) (switched : Switched on state.timer)
    (stepped : timedStep state event = some (answer, next)) : Switched on next.timer := by
  obtain ⟨machine, ran, same⟩ := timedStep_eq_some.mp stepped
  rw [same]
  exact (ensures_program noStart).after_return
    ⟨state.pcap, .observe state.timer event.arrivals⟩ _ _ switched ran

/-- The step ends the running capture: it cancels it, or it offers an edge the
capture has no use for. -/
def EndsCapture (state : TimedState) (event : TimedEvent) : Prop :=
  captureRunning state.pcap.flags = true ∧
    match event.op with
    | .cancelCapture => True
    | .timerIrq =>
        finishes state.pcap (edgeTypeOf (servedChannel (.observe state.timer event.arrivals))) ∧
          state.pcap.edgePtr.toNat < pulsecapMaxCount
    | _ => False

/-- An operation that neither starts nor ends a capture leaves it in its phase. -/
theorem captureRunning_timedStep {capture : Capture} {event : TimedEvent}
    (represents : Represents capture state.pcap)
    (noStart : ∀ edgeCount, event.op ≠ .startCapture edgeCount)
    (running : captureRunning state.pcap.flags = true) (goesOn : ¬EndsCapture state event)
    (stepped : timedStep state event = some (answer, next)) :
    captureRunning next.pcap.flags = true := by
  obtain ⟨op, arrivals⟩ := event
  have other : (∀ readings, capture.advance ⟨op, readings⟩ = capture) →
      captureRunning next.pcap.flags = true := by
    intro unmoved
    obtain ⟨readings, _, kept⟩ := timedStep_represents represents stepped
    rw [unmoved readings] at kept
    rw [captureRunning_eq, represents_state kept, ← represents_state represents,
      ← captureRunning_eq]
    exact running
  cases op with
  | startCapture edgeCount => exact absurd rfl (noStart edgeCount)
  | cancelCapture => exact absurd ⟨running, trivial⟩ goesOn
  | timerIrq =>
      obtain ⟨machine, ran, same⟩ := timedStep_eq_some.mp stepped
      change (Program.bind timerIrqHandler fun code => .done _).exec _ _ = _ at ran
      rw [exec_bind] at ran
      rcases handled : timerIrqHandler.exec timerDevice
        ⟨state.pcap, .observe state.timer arrivals⟩ with ⟨outcome, last⟩
      rw [handled] at ran
      cases outcome with
      | returned code =>
          have effect := timerIrq_effect running handled
          have flags : last.memory.flags = state.pcap.flags :=
            (effect.1 fun finished => goesOn ⟨running, finished, (effect.2 finished).1⟩).1
          rw [continueWith_returned] at ran
          rw [same, ← (Prod.mk.inj ran).2, flags]
          exact running
      | undefined => exact absurd (Prod.mk.inj ran).1 (by simp)
      | unfinished => exact absurd (Prod.mk.inj ran).1 (by simp)
  | getState => exact other fun _ => rfl
  | edgesCaptured => exact other fun _ => rfl
  | readEdges count => exact other fun _ => rfl
  | edgeDataShow => exact other fun _ => rfl

theorem never_timedStep {event : TimedEvent} (represents : Represents .never state.pcap)
    (noStart : ∀ edgeCount, event.op ≠ .startCapture edgeCount)
    (stepped : timedStep state event = some (answer, next)) : Represents .never next.pcap := by
  obtain ⟨readings, _, kept⟩ := timedStep_represents represents stepped
  obtain ⟨op, arrivals⟩ := event
  cases op with
  | startCapture edgeCount => exact absurd rfl (noStart edgeCount)
  | _ => exact kept

/-- Until the first accepted start both channels are off, and ever after on. -/
def SwitchHistory (state : TimedState) : Prop :=
  ∃ capture, Represents capture state.pcap ∧
    (capture = .never ∧ Switched false state.timer ∨ Switched true state.timer)

theorem switchHistory_timedStep {event : TimedEvent} (known : SwitchHistory state)
    (stepped : timedStep state event = some (answer, next)) : SwitchHistory next := by
  obtain ⟨capture, represents, switches⟩ := known
  obtain ⟨readings, _, kept⟩ := timedStep_represents represents stepped
  by_cases starts : ∃ edgeCount, event.op = .startCapture edgeCount
  · obtain ⟨op, arrivals⟩ := event
    obtain ⟨edgeCount, rfl⟩ := starts
    rcases timedStep_start stepped with same | ⟨_, on⟩
    · exact same ▸ ⟨capture, represents, switches⟩
    · exact ⟨_, kept, Or.inr on⟩
  · have noStart : ∀ edgeCount, event.op ≠ .startCapture edgeCount :=
      fun edgeCount same => starts ⟨edgeCount, same⟩
    rcases switches with ⟨never, off⟩ | on
    · subst never
      exact ⟨.never, never_timedStep represents noStart stepped,
        Or.inl ⟨rfl, timedStep_switched noStart off stepped⟩⟩
    · exact ⟨_, kept, Or.inr (timedStep_switched noStart on stepped)⟩

theorem probed_off : Switched false TimedState.probed.timer := by
  intro channel
  exact ⟨isSet_zero tcsr0Enall, isSet_zero tcsr0Ent0⟩

theorem reached_switchHistory {history : List TimedEvent}
    (reached : timedSystem.Reaches .probed history state) : SwitchHistory state :=
  Transducer.invariant_of_reaches (fun _ _ _ _ => switchHistory_timedStep)
    ⟨.never, zeroed_represents, Or.inl ⟨rfl, probed_off⟩⟩ reached

theorem running_used {flags : Byte} (running : captureRunning flags = true) : flags ≠ 0 := by
  intro blank
  rw [blank] at running
  exact absurd running (by decide)

theorem reached_running_switched {history : List TimedEvent}
    (reached : timedSystem.Reaches .probed history state)
    (running : captureRunning state.pcap.flags = true) : Switched true state.timer := by
  rcases reached_switchHistory reached with ⟨capture, represents, ⟨never, _⟩ | on⟩
  · subst never
    obtain ⟨blank, _, _⟩ := represents
    exact absurd blank (running_used running)
  · exact on

/-- The step that ends a capture succeeds and leaves the capture not running. -/
theorem endsCapture_stops {event : TimedEvent} (ends : EndsCapture state event) :
    ∃ answer next, timedStep state event = some (answer, next) ∧
      captureRunning next.pcap.flags = false ∧
        ∀ edgeCount, event.op ≠ .startCapture edgeCount := by
  obtain ⟨op, arrivals⟩ := event
  obtain ⟨running, how⟩ := ends
  have stepOf : ∀ {answer : Answer} {after : PulsecapData} {machine},
      op.program.exec timerDevice ⟨state.pcap, .observe state.timer arrivals⟩ =
        (.returned answer, ⟨after, machine⟩) →
      timedStep state ⟨op, arrivals⟩ = some (answer, ⟨after, machine.timer⟩) := by
    intro answer after machine ran
    exact timedStep_eq_some.mpr ⟨_, ran, rfl⟩
  cases op with
  | cancelCapture =>
      have yielded : Yields timerDevice (PulsecapOp.program .cancelCapture) state.pcap ⟨some 0, []⟩
          state.pcap.cancelled :=
        yields_bind (yields_cancelCapture _ (running_used running)) (yields_done _ _)
      obtain ⟨world, ran⟩ := yielded (.observe state.timer arrivals)
      have marks := marks_cancelled state.pcap
      refine ⟨_, _, stepOf ran, ?_, fun _ => by simp⟩
      rw [captureRunning, marks.enable, Bool.false_and]
  | timerIrq =>
      obtain ⟨finished, room⟩ := how
      have stored : Yields timerDevice
          (storeEdge (offeredEdge (.observe state.timer arrivals))) state.pcap () _ :=
        finishes_storeEdge finished room
      obtain ⟨world, ran⟩ := yields_acknowledge stored _
      rw [← exec_handler_offers _ running] at ran
      have program : (PulsecapOp.program .timerIrq).exec timerDevice
          ⟨state.pcap, .observe state.timer arrivals⟩ = (.returned ⟨some irqHandled, []⟩,
            ⟨{ setEdge ⟨_, room⟩ (offeredEdge (.observe state.timer arrivals)) state.pcap with
              flags := state.pcap.flags ||| pulsecapDone }, world⟩) := by
        change (Program.bind timerIrqHandler fun code => .done _).exec _ _ = _
        rw [exec_bind, ran, continueWith_returned]
        rfl
      refine ⟨_, _, stepOf program, ?_, fun _ => by simp⟩
      have before : Marks state.pcap.flags _ _ _ := ⟨rfl, rfl, rfl⟩
      have marks := marks_finished before
      rw [captureRunning, marks.done, Bool.not_true, Bool.and_false]
  | _ => exact how.elim

/-- In every state in which no capture runs, both channels are disabled. -/
def TimersStopped (history : List TimedEvent) : Prop :=
  timedSystem.EveryState (fun state => state.pcap.state ≠ pulsecapStateRun →
    ∀ channel, state.timer.enabled channel = false) .probed history

/-- No capture that was started is ever cancelled or completed. -/
def NoCaptureEnds (history : List TimedEvent) : Prop :=
  timedSystem.EveryStep (fun state event => ¬EndsCapture state event) .probed history

theorem capture_end_leaves_timers_on {before rest : List TimedEvent} {event : TimedEvent}
    (reached : timedSystem.Reaches .probed before state) (ends : EndsCapture state event) :
    ¬TimersStopped (before ++ event :: rest) := by
  intro stopped
  have on := reached_running_switched reached ends.1
  obtain ⟨answer, next, stepped, ended, noStart⟩ := endsCapture_stops ends
  have reachedNext : timedSystem.Reaches .probed (before ++ [event]) next :=
    (Transducer.reaches_append _ _ _ _).mpr
      ⟨state, reached, (Transducer.reaches_singleton _ _ _).mpr ⟨answer, stepped⟩⟩
  have idle : next.pcap.state ≠ pulsecapStateRun := by
    rw [captureRunning_eq] at ended
    exact of_decide_eq_false ended
  have off := stopped (before ++ [event]) rest next (by simp) reachedNext idle .rising
  rw [(timedStep_switched noStart on stepped .rising).2] at off
  exact absurd off (by decide)

/-- Off before the first accepted start; running, with the channels on, since. -/
def NeverOrRunning (state : TimedState) : Prop :=
  (Represents .never state.pcap ∧ Switched false state.timer) ∨
    captureRunning state.pcap.flags = true ∧ SwitchHistory state

theorem neverOrRunning_timedStep {event : TimedEvent} (phase : NeverOrRunning state)
    (goesOn : ¬EndsCapture state event) (stepped : timedStep state event = some (answer, next)) :
    NeverOrRunning next := by
  have history : SwitchHistory state := by
    rcases phase with ⟨represents, off⟩ | ⟨_, known⟩
    · exact ⟨.never, represents, Or.inl ⟨rfl, off⟩⟩
    · exact known
  by_cases starts : ∃ edgeCount, event.op = .startCapture edgeCount
  · obtain ⟨op, arrivals⟩ := event
    obtain ⟨edgeCount, rfl⟩ := starts
    rcases timedStep_start stepped with same | ⟨running, _⟩
    · exact same ▸ phase
    · exact Or.inr ⟨running, switchHistory_timedStep history stepped⟩
  · have noStart : ∀ edgeCount, event.op ≠ .startCapture edgeCount :=
      fun edgeCount same => starts ⟨edgeCount, same⟩
    rcases phase with ⟨represents, off⟩ | ⟨running, known⟩
    · exact Or.inl ⟨never_timedStep represents noStart stepped,
        timedStep_switched noStart off stepped⟩
    · obtain ⟨capture, represents, _⟩ := known
      exact Or.inr ⟨captureRunning_timedStep represents noStart running goesOn stepped,
        switchHistory_timedStep history stepped⟩

/-- The timers are off whenever no capture runs in exactly those runs in which
no started capture ever ends. -/
theorem timers_stopped_iff (history : List TimedEvent) :
    TimersStopped history ↔ NoCaptureEnds history := by
  constructor
  · intro stopped before event rest state same reached ends
    rw [same] at stopped
    exact capture_end_leaves_timers_on reached ends stopped
  · intro goesOn
    have phases : timedSystem.EveryState NeverOrRunning .probed history :=
      Transducer.everyState_of_everyStep
        (fun _ _ _ _ phase kept stepped => neverOrRunning_timedStep phase kept stepped)
        (Or.inl ⟨zeroed_represents, probed_off⟩) goesOn
    intro before rest state same reached idle channel
    rcases phases before rest state same reached with ⟨_, off⟩ | ⟨running, _⟩
    · exact (off channel).2
    · rw [captureRunning_eq, decide_eq_true_iff] at running
      exact absurd running idle

/-- A capture that is started and cancelled leaves both timers enabled. -/
theorem cancel_leaves_timers_enabled :
    ¬TimersStopped [⟨.startCapture 1, []⟩, ⟨.cancelCapture, []⟩] := by
  have ends : EndsCapture ⟨PulsecapData.zeroed.armed 1,
      (PulsecapOp.program (.startCapture 1) |>.exec timerDevice
        ⟨.zeroed, .observe .reset []⟩).2.world.timer⟩ ⟨.cancelCapture, []⟩ :=
    ⟨by decide, trivial⟩
  have reached : timedSystem.Reaches .probed [⟨.startCapture 1, []⟩] _ :=
    (Transducer.reaches_singleton _ _ _).mpr ⟨⟨some 0, []⟩, rfl⟩
  exact capture_end_leaves_timers_on reached ends

end Runs

end Ebaz4205.PulsecapTimerStop
