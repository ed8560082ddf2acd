import Ebaz4205.ProgramMarks
import Ebaz4205.PulsecapOnTimer

/-!
# Calls of the alternation filter made visible

The registers do not show which edge the handler hands to its filter, nor whether
it hands one over at all. Here the handler is written once more with a mark at
the beginning of each call of the filter that carries the edge. Erasing the
marks gives back the handler of the driver. In a running capture there is one
call, with what was read from the capture register of the served channel, and
the instance is left as the filter leaves it.
-/

namespace Ebaz4205.PulsecapFilterCalls

open DriverProgram DriverProgram.Program PulsecapDriver PulsecapOnTimer PulsecapOperations
  TimerDevice

set_option autoImplicit false

/-- A mark carries the edge that is handed to the filter. -/
abbrev markedSignature : Signature := timerSignature.withMarks PulseData

abbrev MarkedProgram := Program markedSignature

def offerEdge (edge : PulseData) : MarkedProgram Unit :=
  .call (.mark edge) fun _ => plain (storeEdge edge)

def markedIrqHandler : MarkedProgram Int := do
  let t0State ← plain (regRead .tcsr0)
  let _t1State ← plain (regRead .tcsr1)
  let flags ← plain (field PulsecapData.flags)
  whenever (captureRunning flags) (do
    let edge ← plain (readEdge t0State)
    offerEdge edge)
  plain clearInterruptFlags
  return irqHandled

theorem erase_offerEdge (edge : PulseData) : erase (offerEdge edge) = storeEdge edge :=
  erase_plain _

theorem erase_markedIrqHandler : erase markedIrqHandler = timerIrqHandler := by
  unfold markedIrqHandler timerIrqHandler whenever
  simp only [bind_eq, erase_bind, erase_plain, erase_if, erase_offerEdge]
  rfl

/-- The edges that a run of the handler hands to the filter, in order. -/
def filterCalls (machine : Machine timerSignature TimerWorld) : List PulseData :=
  marks timerDevice markedIrqHandler machine

/-- The filter takes one edge after the other, from any timer. -/
def FiltersTo : List PulseData → PulsecapData → PulsecapData → Prop
  | [], before, after => after = before
  | edge :: rest, before, after =>
      ∃ middle, Yields timerDevice (storeEdge edge) before () middle ∧ FiltersTo rest middle after

theorem filtersTo_append {first second : List PulseData} {before middle after : PulsecapData}
    (earlier : FiltersTo first before middle) (later : FiltersTo second middle after) :
    FiltersTo (first ++ second) before after := by
  induction first generalizing before with
  | nil =>
      have same : middle = before := earlier
      rw [same] at later
      exact later
  | cons edge rest ih =>
      obtain ⟨between, filtered, others⟩ := earlier
      exact ⟨between, filtered, ih others⟩

variable {pcap : PulsecapData} {world : TimerWorld}

/-- In a running capture the filter is called once. -/
theorem filterCalls_running (running : captureRunning pcap.flags = true) :
    filterCalls ⟨pcap, world⟩ = [offeredEdge world] := by
  have opened : filterCalls ⟨pcap, world⟩ =
      marks timerDevice ((whenever (captureRunning pcap.flags = true)
        ((plain (readEdge (statusReads timerDevice world).1)).bind offerEdge)).bind fun _ =>
          (plain clearInterruptFlags).bind fun _ => .done irqHandled)
            ⟨pcap, (statusReads timerDevice world).2⟩ := rfl
  have acknowledges : ∀ machine : Machine timerSignature TimerWorld,
      marks timerDevice ((plain clearInterruptFlags).bind fun _ =>
        (.done irqHandled : MarkedProgram Int)) machine = [] := by
    intro machine
    rw [marks_plain_bind]
    exact followedBy_nil (fun _ _ => rfl) _
  have stores : ∀ machine : Machine timerSignature TimerWorld,
      marks timerDevice ((offerEdge (offeredEdge world)).bind fun _ =>
        (plain clearInterruptFlags).bind fun _ => .done irqHandled) machine =
          [offeredEdge world] := by
    intro machine
    apply (marks_mark timerDevice (offeredEdge world) _ machine).trans
    apply congrArg (List.cons (offeredEdge world))
    exact (marks_plain_bind timerDevice (storeEdge (offeredEdge world)) _ machine).trans
      (followedBy_nil (fun _ => acknowledges) _)
  rw [opened, whenever, if_pos running, bind_assoc, marks_plain_bind, exec_readEdge]
  exact stores _

theorem yields_of_returned {edge : PulseData} {after : Machine timerSignature TimerWorld}
    (ran : (storeEdge edge).exec timerDevice ⟨pcap, world⟩ = (.returned (), after)) :
    Yields timerDevice (storeEdge edge) pcap () after.memory := by
  have decided : ∀ memory, Yields timerDevice (storeEdge edge) pcap () memory →
      Yields timerDevice (storeEdge edge) pcap () after.memory := by
    intro memory yielded
    rw [memory_of_yields yielded ran]
    exact yielded
  by_cases stored : 0 < pcap.edgePtr
  · by_cases inside : (pcap.edgePtr - 1).toNat < pulsecapMaxCount
    · by_cases same : (pcap.storedEdges ⟨_, inside⟩).edgeType = edge.edgeType
      · exact decided _ (yields_storeEdge_same_type stored inside same)
      · by_cases room : pcap.edgePtr.toNat < pulsecapMaxCount
        · by_cases wanted : pcap.edgePtr < pcap.edgeTarget
          · exact decided _ (yields_storeEdge_next stored inside same room wanted)
          · exact decided _ (yields_storeEdge_finish stored inside same room wanted)
        · exact (not_returned_of_faults (faults_storeEdge_full stored inside same room) ran).elim
    · exact (not_returned_of_faults (faults_storeEdge_beyond stored inside) ran).elim
  · by_cases high : edge.edgeType = pulsecapEdgeHigh
    · exact decided _ (yields_storeEdge_first_high stored high)
    · exact decided _ (yields_storeEdge_first_low stored high)

/-- A run leaves the instance as the filter makes it of the edges it was called with. -/
theorem handler_filters {code : Int} {after : Machine timerSignature TimerWorld}
    (running : captureRunning pcap.flags = true)
    (ran : timerIrqHandler.exec timerDevice ⟨pcap, world⟩ = (.returned code, after)) :
    FiltersTo (filterCalls ⟨pcap, world⟩) pcap after.memory := by
  rw [exec_handler_offers world running] at ran
  obtain ⟨_, middle, stored, acknowledged⟩ := exec_bind_returned ran
  rw [exec_bind, exec_clearInterruptFlags] at acknowledged
  have same : after.memory = middle.memory := by
    rw [← (Prod.mk.inj acknowledged).2]
  rw [filterCalls_running running, same]
  exact ⟨middle.memory, yields_of_returned stored, rfl⟩

end Ebaz4205.PulsecapFilterCalls
