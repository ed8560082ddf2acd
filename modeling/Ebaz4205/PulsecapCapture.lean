import Ebaz4205.AlternatingSubsequence
import Ebaz4205.PulsecapOperations

/-!
# What a capture is for

The abstract state of an instance is the last accepted capture: its target, the
edges delivered since it started, and whether it was cancelled. Everything a
client can observe is a function of these, without flags, pointers or slots.
-/

namespace Ebaz4205.PulsecapCapture

open AlternatingSubsequence PulsecapDriver PulsecapOperations

set_option autoImplicit false

def isHigh (edge : PulseData) : Bool := edge.edgeType = pulsecapEdgeHigh

def differentType (earlier later : PulseData) : Prop := earlier.edgeType ≠ later.edgeType

instance : DecidableRel differentType := fun earlier later =>
  inferInstanceAs (Decidable (earlier.edgeType ≠ later.edgeType))

/-- The edges a capture accepts out of those delivered to it: from the first
HIGH edge on, each one whose type differs from the last accepted. -/
def accepted (edges : List PulseData) : List PulseData :=
  alternating isHigh differentType edges

theorem accepted_concat (edges : List PulseData) (edge : PulseData) :
    accepted (edges ++ [edge]) = offer isHigh differentType (accepted edges) edge :=
  alternating_append_singleton isHigh differentType edges edge

theorem accepted_prefix_concat (edges : List PulseData) (edge : PulseData) :
    accepted edges <+: accepted (edges ++ [edge]) :=
  alternating_prefix_append isHigh differentType edges [edge]

theorem accepted_length_concat_le (edges : List PulseData) (edge : PulseData) :
    (accepted (edges ++ [edge])).length ≤ (accepted edges).length + 1 := by
  rw [accepted_concat]
  exact offer_length_le isHigh differentType (accepted edges) edge

inductive Capture where
  | never
  | capturing (target : U32) (edges : List PulseData)
  | cancelled (target : U32) (edges : List PulseData)

/-- The first edge is stored without looking at the target, so a capture of
none keeps one edge. -/
def storeLimit (target : U32) : Nat := max 1 target.toNat

/-- A capture is complete with the first accepted edge it has no use for. -/
def complete (target : U32) (edges : List PulseData) : Bool :=
  storeLimit target < (accepted edges).length

def capturedEdges (target : U32) (edges : List PulseData) : List PulseData :=
  (accepted edges).take (storeLimit target)

/-- The state after a start that was accepted, or the same state if refused: a
running capture cannot be restarted and a target above the array is invalid. -/
def Capture.start (edgeCount : U32) : Capture → Capture
  | .capturing target edges =>
      if complete target edges ∧ edgeCount.toNat ≤ pulsecapMaxCount then .capturing edgeCount []
      else .capturing target edges
  | capture => if edgeCount.toNat ≤ pulsecapMaxCount then .capturing edgeCount [] else capture

def Capture.deliver (edge : PulseData) : Capture → Capture
  | .capturing target edges => .capturing target (edges ++ [edge])
  | capture => capture

def Capture.cancel : Capture → Capture
  | .capturing target edges => .cancelled target edges
  | capture => capture

def Capture.advance (capture : Capture) (event : PulsecapEvent) : Capture :=
  match event.op with
  | .startCapture edgeCount => capture.start edgeCount
  | .timerIrq => capture.deliver (deliveredEdge event.readings)
  | .cancelCapture => capture.cancel
  | _ => capture

/-- The capture that a history of operations leaves. -/
def captureOf (history : List PulsecapEvent) : Capture :=
  history.foldl Capture.advance .never

def Capture.state : Capture → Int
  | .capturing target edges =>
      if complete target edges then pulsecapStateDone else pulsecapStateRun
  | _ => pulsecapStateIdle

def Capture.startCode (edgeCount : U32) (capture : Capture) : Int :=
  if capture.state = pulsecapStateRun then -ebusy
  else if edgeCount.toNat ≤ pulsecapMaxCount then 0 else -einval

/-- How many edges were captured; before any capture there is no answer. -/
def Capture.captured : Capture → Option Nat
  | .never => none
  | .capturing target edges => some (capturedEdges target edges).length
  | .cancelled target edges => some (capturedEdges target edges).length

/-- How many edges a reader may take, if it may read at all. -/
def Capture.readable : Capture → Option Nat
  | .never => none
  | .capturing target edges => if complete target edges then some target.toNat else none
  | .cancelled target edges => some (capturedEdges target edges).length

def Capture.edges : Capture → List PulseData
  | .never => []
  | .capturing _ edges => edges
  | .cancelled _ edges => edges

def Capture.target : Capture → U32
  | .never => 0
  | .capturing target _ => target
  | .cancelled target _ => target

/-- The words a reader of `count` edges gets. -/
def Capture.read (count : Nat) (capture : Capture) : Option (List U32) :=
  capture.readable.map fun limit =>
    ((accepted capture.edges).take (min count limit)).map PulseData.edgeCount

def readAnswer (scale : Int) : Option (List U32) → Answer
  | none => ⟨some (-ebusy), []⟩
  | some words => ⟨some (words.length * scale), words⟩

/-- An interrupt asks for one slot more than the array has. -/
def Capture.overflows (capture : Capture) (event : PulsecapEvent) : Bool :=
  match event.op, capture with
  | .timerIrq, .capturing target edges =>
      !complete target edges &&
        pulsecapMaxCount < (accepted (edges ++ [deliveredEdge event.readings])).length
  | _, _ => false

def Capture.reply (capture : Capture) (event : PulsecapEvent) : Answer :=
  match event.op with
  | .startCapture edgeCount => ⟨some (capture.startCode edgeCount), []⟩
  | .timerIrq => ⟨some irqHandled, []⟩
  | .cancelCapture =>
      match capture with
      | .never => ⟨some (-eio), []⟩
      | _ => ⟨some 0, []⟩
  | .getState => ⟨some capture.state, []⟩
  | .edgesCaptured => ⟨capture.captured.map Int.ofNat, []⟩
  | .readEdges count => readAnswer 1 (capture.read count.toNat)
  | .edgeDataShow => readAnswer sizeofEdgeCount (capture.read capture.target.toNat)

end Ebaz4205.PulsecapCapture
