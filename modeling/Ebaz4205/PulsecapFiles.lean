import Ebaz4205.PulsecapRefinement
import Ebaz4205.UnsignedText

/-!
# The files of an instance

A transcription of the `show` and `store` functions of `pulsecap.c`. A session is any order
of accesses to the files and of interrupts. Every answer in it is that of the abstract
capture, with numbers as text and states as words.
-/

namespace Ebaz4205.PulsecapFiles

open DriverProgram DriverProgram.Program PartialRuns UnsignedText
open PulsecapCapture PulsecapDriver PulsecapOperations PulsecapRefinement

set_option autoImplicit false

section Source

def erange : Int := 34

/-- The value that a function returns, if it is determinate, what it printed into the page, and
the words it copied there. -/
structure FileAnswer where
  code : Option Int
  text : List Char
  words : List U32
  deriving DecidableEq

def returned (code : Int) : FileAnswer := ⟨some code, [], []⟩

/-- `return sprintf(buf, ...)`. -/
def printed (text : List Char) : FileAnswer := ⟨some text.length, text, []⟩

def indeterminate : FileAnswer := ⟨none, [], []⟩

/-- `"%u\n"`, and `"%lu\n"`. -/
def numberLine (value : Nat) : List Char := Nat.toDigits 10 value ++ ['\n']

def failureCode : Failure → Int
  | .range => -erange
  | .invalid => -einval

/-- An `unsigned long` has 32 bits. -/
def captureStore (buf : List Char) (count : Nat) : PulsecapProgram FileAnswer := do
  match kstrtoul 32 (cString buf) with
  | .error failure => return returned (failureCode failure)
  | .ok value => do
      let err ← pulsecapStartCapture .valid (.ofNat 32 value)
      if err ≠ 0 then return returned err
      return returned count

def captureShow : PulsecapProgram FileAnswer := do
  let edges ← pulsecapEdgesCaptured .valid
  match edges with
  | some edges => return printed (numberLine edges.toNat)
  | none => return indeterminate

/-- What is written is not looked at. -/
def cancelStore (count : Nat) : PulsecapProgram FileAnswer := do
  let err ← pulsecapCancelCapture .valid
  if err ≠ 0 then return returned err
  return returned count

def doneLine : List Char := ['d', 'o', 'n', 'e', '\n']
def runningLine : List Char := ['r', 'u', 'n', 'n', 'i', 'n', 'g', '\n']
def idleLine : List Char := ['i', 'd', 'l', 'e', '\n']

def stateShow : PulsecapProgram FileAnswer := do
  let state ← pulsecapGetState .valid
  if state < 0 then return returned state
  if state = pulsecapStateDone then return printed doneLine
  if state = pulsecapStateRun then return printed runningLine
  if state = pulsecapStateIdle then return printed idleLine
  return returned (-eio)

def maxEdgesShow : PulsecapProgram FileAnswer := do
  let count ← pulsecapGetMaxEdges .valid
  if count < 0 then return returned count
  return printed (numberLine count.toNat)

end Source

/-- The files of the group `control`, and the interrupt of the timer. -/
inductive FileOp where
  | writeCapture (written : List Char)
  | readCapture
  | writeCancel (written : List Char)
  | readState
  | readEdgeData
  | readMaxEdges
  | timerIrq
  deriving DecidableEq

def FileOp.program : FileOp → PulsecapProgram FileAnswer
  | .writeCapture written => captureStore written written.length
  | .readCapture => captureShow
  | .writeCancel written => cancelStore written.length
  | .readState => stateShow
  | .readEdgeData => do
      let readOut ← edgeDataShow
      return ⟨some readOut.code, [], readOut.words⟩
  | .readMaxEdges => maxEdgesShow
  | .timerIrq => do
      let handled ← timerIrqHandler
      return returned handled

structure FileEvent where
  op : FileOp
  readings : Readings

def fileStep (pcap : PulsecapData) (event : FileEvent) : Option (FileAnswer × PulsecapData) :=
  match event.op.program.exec anyReadings ⟨pcap, event.readings⟩ with
  | (.returned answer, machine) => some (answer, machine.memory)
  | _ => none

def files : Transducer PulsecapData FileEvent FileAnswer where
  step := fileStep

namespace FileOp

/-- The operation that an access comes down to, if it comes to one. -/
def under : FileOp → Option PulsecapOp
  | .writeCapture written =>
      match kstrtoul 32 (cString written) with
      | .error _ => none
      | .ok value => some (.startCapture (.ofNat 32 value))
  | .readCapture => some .edgesCaptured
  | .writeCancel _ => some .cancelCapture
  | .readState => some .getState
  | .readEdgeData => some .edgeDataShow
  | .readMaxEdges => none
  | .timerIrq => some .timerIrq

end FileOp

namespace Capture

def fileEvent (capture : Capture) (event : FileEvent) : Capture :=
  match event.op.under with
  | none => capture
  | some op => capture.advance ⟨op, event.readings⟩

/-- What each file says of a capture. -/
def serves (capture : Capture) : FileOp → FileAnswer
  | .writeCapture written =>
      match kstrtoul 32 (cString written) with
      | .error failure => returned (failureCode failure)
      | .ok value =>
          if capture.startCode (.ofNat 32 value) = 0 then returned written.length
          else returned (capture.startCode (.ofNat 32 value))
  | .readCapture =>
      match capture.captured with
      | none => indeterminate
      | some count => printed (numberLine count)
  | .writeCancel written =>
      match capture with
      | .never => returned (-eio)
      | _ => returned written.length
  | .readState =>
      match capture with
      | .capturing target edges => printed (if complete target edges then doneLine else runningLine)
      | _ => printed idleLine
  | .readEdgeData =>
      match capture.read capture.target.toNat with
      | none => returned (-ebusy)
      | some words => ⟨some (words.length * sizeofEdgeCount), [], words⟩
  | .readMaxEdges => printed (numberLine pulsecapMaxCount)
  | .timerIrq => returned irqHandled

/-- An interrupt for which the array has no slot. -/
def exceeds (capture : Capture) (event : FileEvent) : Bool :=
  match event.op with
  | .timerIrq => capture.overflows ⟨.timerIrq, event.readings⟩
  | _ => false

end Capture

section Steps

variable {capture : Capture} {pcap : PulsecapData} {event : FileEvent}

/-- What an access makes of the answer to its operation. -/
def FileOp.answer (op : FileOp) (answer : Answer) : FileAnswer :=
  match op, answer.value with
  | .writeCapture written, some code => if code ≠ 0 then returned code else returned written.length
  | .writeCancel written, some code => if code ≠ 0 then returned code else returned written.length
  | .readCapture, some count => printed (numberLine count.toNat)
  | .readState, some state =>
      if state < 0 then returned state
      else if state = pulsecapStateDone then printed doneLine
      else if state = pulsecapStateRun then printed runningLine
      else if state = pulsecapStateIdle then printed idleLine
      else returned (-eio)
  | .readEdgeData, some code => ⟨some code, [], answer.words⟩
  | .timerIrq, some code => returned code
  | _, _ => indeterminate

theorem program_under (op : FileOp) (under : PulsecapOp) (comes : op.under = some under) :
    op.program = under.program.bind fun answer => .done (op.answer answer) := by
  have through : ∀ {Value : Type} (source : PulsecapProgram Value) (front : Value → Answer)
      (last : Value → PulsecapProgram FileAnswer),
      (∀ value, last value = .done (op.answer (front value))) → source.bind last =
        (source.bind fun value => .done (front value)).bind
          fun answer => .done (op.answer answer) := by
    intro Value source front last same
    rw [bind_assoc]
    exact congrArg (Program.bind source) (funext same)
  cases op with
  | writeCapture written =>
      rw [FileOp.under] at comes
      split at comes
      · cases comes
      · rename_i value scanned
        cases comes
        rw [FileOp.program, captureStore, scanned, PulsecapOp.program]
        apply through
        intro code
        simp only [FileOp.answer]
        split_ifs <;> rfl
  | readCapture =>
      cases comes
      apply through
      intro edges
      cases edges with
      | none => rfl
      | some edges => rfl
  | writeCancel written =>
      cases comes
      apply through
      intro code
      simp only [FileOp.answer]
      split_ifs <;> rfl
  | readState =>
      cases comes
      apply through
      intro state
      simp only [FileOp.answer]
      split_ifs <;> rfl
  | readEdgeData =>
      cases comes
      exact through edgeDataShow (fun readOut => ⟨some readOut.code, readOut.words⟩) _ fun _ => rfl
  | readMaxEdges => cases comes
  | timerIrq =>
      cases comes
      exact through timerIrqHandler (fun code => ⟨some code, []⟩) _ fun _ => rfl

theorem fileStep_under {under : PulsecapOp} (comes : event.op.under = some under) :
    fileStep pcap event = (pulsecapStep pcap ⟨under, event.readings⟩).map fun stepped =>
      (event.op.answer stepped.1, stepped.2) := by
  rw [fileStep, program_under event.op under comes, exec_bind, pulsecapStep,
    PulsecapEvent.execution]
  rcases under.program.exec anyReadings ⟨pcap, event.readings⟩ with ⟨outcome, machine⟩
  cases outcome with
  | returned answer => rfl
  | undefined => rfl
  | unfinished => rfl

/-- An access that comes to no operation has one answer and changes nothing. -/
theorem fileStep_alone (alone : event.op.under = none) :
    fileStep pcap event = some (Capture.serves capture event.op, pcap) := by
  obtain ⟨op, readings⟩ := event
  cases op with
  | writeCapture written =>
      dsimp only [FileOp.under] at alone
      split at alone
      · rename_i failure refused
        dsimp only [fileStep, FileOp.program, captureStore, Capture.serves]
        rw [refused]
        rfl
      · cases alone
  | readMaxEdges => rfl
  | readCapture => cases alone
  | writeCancel written => cases alone
  | readState => cases alone
  | readEdgeData => cases alone
  | timerIrq => cases alone

theorem serves_under {under : PulsecapOp} (comes : event.op.under = some under) :
    Capture.serves capture event.op = event.op.answer (capture.reply ⟨under, event.readings⟩) := by
  obtain ⟨op, readings⟩ := event
  cases op with
  | writeCapture written =>
      dsimp only [FileOp.under] at comes
      split at comes
      · cases comes
      · rename_i value scanned
        cases comes
        dsimp only [Capture.serves, FileOp.answer, Capture.reply]
        rw [scanned]
        exact (ite_not _ _ _).symm
  | readCapture =>
      cases comes
      dsimp only [Capture.serves, FileOp.answer, Capture.reply]
      cases capture.captured with
      | none => rfl
      | some count => rfl
  | writeCancel written =>
      cases comes
      cases capture with
      | never => rfl
      | capturing target edges => rfl
      | cancelled target edges => rfl
  | readState =>
      cases comes
      cases capture with
      | never => rfl
      | capturing target edges =>
          dsimp only [Capture.serves, FileOp.answer, Capture.reply, Capture.state]
          cases complete target edges with
          | true => rfl
          | false => rfl
      | cancelled target edges => rfl
  | readEdgeData =>
      cases comes
      dsimp only [Capture.serves, FileOp.answer, Capture.reply]
      cases capture.read capture.target.toNat with
      | none => rfl
      | some words => rfl
  | readMaxEdges => cases comes
  | timerIrq =>
      cases comes
      rfl

theorem exceeds_under {under : PulsecapOp} (comes : event.op.under = some under) :
    Capture.exceeds capture event = capture.overflows ⟨under, event.readings⟩ := by
  obtain ⟨op, readings⟩ := event
  cases op with
  | writeCapture written =>
      dsimp only [FileOp.under] at comes
      split at comes
      · cases comes
      · cases comes
        rfl
  | readMaxEdges => cases comes
  | _ =>
      cases comes
      rfl

theorem exceeds_alone (alone : event.op.under = none) : Capture.exceeds capture event = false := by
  obtain ⟨op, readings⟩ := event
  cases op with
  | timerIrq => cases alone
  | _ => rfl

theorem fileStep_exceeds (represents : Represents capture pcap)
    (exceeds : Capture.exceeds capture event = true) : fileStep pcap event = none := by
  cases comes : event.op.under with
  | none =>
      rw [exceeds_alone comes] at exceeds
      cases exceeds
  | some under =>
      rw [exceeds_under comes] at exceeds
      rw [fileStep_under comes, step_none_of_overflows represents exceeds]
      rfl

/-- One access, or one interrupt, is answered as the capture has it. -/
theorem fileStep_refines (represents : Represents capture pcap)
    (fits : Capture.exceeds capture event = false) :
    ∃ after, fileStep pcap event = some (Capture.serves capture event.op, after) ∧
      Represents (Capture.fileEvent capture event) after := by
  cases comes : event.op.under with
  | none =>
      refine ⟨pcap, fileStep_alone comes, ?_⟩
      rw [Capture.fileEvent, comes]
      exact represents
  | some under =>
      rw [exceeds_under comes] at fits
      have refines : Refines capture pcap ⟨under, event.readings⟩ :=
        refines_of_fits _ represents fits
      obtain ⟨after, stepped, kept⟩ := refines
      refine ⟨after, ?_, ?_⟩
      · rw [fileStep_under comes, stepped, serves_under comes]
        rfl
      · rw [Capture.fileEvent, comes]
        exact kept

end Steps

/-- The abstract capture behind its files. -/
def fileSimulation : Transducer.Simulation files Capture where
  related := Represents
  advance := Capture.fileEvent
  answer := fun capture event =>
    if Capture.exceeds capture event then none else some (Capture.serves capture event.op)
  defined := by
    intro capture pcap event represents
    change (fileStep pcap event).map Prod.fst = _
    cases fits : Capture.exceeds capture event with
    | true =>
        rw [fileStep_exceeds represents fits]
        rfl
    | false =>
        obtain ⟨after, stepped, _⟩ := fileStep_refines represents fits
        rw [stepped]
        rfl
  preserved := by
    intro capture pcap event answer next represents stepped
    change fileStep pcap event = some (answer, next) at stepped
    cases fits : Capture.exceeds capture event with
    | true =>
        rw [fileStep_exceeds represents fits] at stepped
        cases stepped
    | false =>
        obtain ⟨after, ran, kept⟩ := fileStep_refines represents fits
        rw [ran, Option.some.injEq, Prod.mk.injEq] at stepped
        exact stepped.2 ▸ kept

/-- Every session with a new instance is answered as the abstract capture has it, up to the
interrupt for which the array has no slot. -/
theorem session_answers (events : List FileEvent) :
    (files.run .zeroed events).map Prod.fst = fileSimulation.answers .never events :=
  Transducer.Simulation.run_answers events zeroed_represents

end Ebaz4205.PulsecapFiles
