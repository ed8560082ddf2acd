import Ebaz4205.PulsecapBounds
import Ebaz4205.PulsecapFiles

/-!
# What the files say in a session

The files of an instance agree with each other. When `state` says that a capture is done,
the last number that `capture` took is the number of edges to read, and they are the edges
since it was written.
-/

namespace Ebaz4205.PulsecapSessions

open PartialRuns DecimalText UnsignedText
open PulsecapBounds PulsecapCapture PulsecapDriver PulsecapFiles PulsecapOperations
open PulsecapRefinement

set_option autoImplicit false

/-- The capture that a session leaves. -/
def captureAfter (events : List FileEvent) : Capture := events.foldl Capture.fileEvent .never

/-- The edges of the interrupts in a session. -/
def delivered (events : List FileEvent) : List PulseData :=
  events.filterMap fun event =>
    if event.op = .timerIrq then some (deliveredEdge event.readings) else none

/-- After this session the text is taken as the number of a new capture. -/
def Accepts (events : List FileEvent) (written : List Char) : Prop :=
  Capture.serves (captureAfter events) (.writeCapture written) = returned written.length

/-- In the session the write is the last that started a capture, and that was not cancelled. -/
structure Measures (events front : List FileEvent) (written : List Char) (start : Readings)
    (rest : List FileEvent) (value : Nat) : Prop where
  session : events = front ++ ⟨.writeCapture written, start⟩ :: rest
  number : kstrtoul 32 (cString written) = .ok value
  fits : value ≤ pulsecapMaxCount
  accepted : Accepts front written
  last : ∀ middle event after, rest = middle ++ event :: after →
    (∀ text, event.op ≠ .writeCancel text) ∧ ∀ text, event.op = .writeCapture text →
      ¬Accepts (front ++ ⟨.writeCapture written, start⟩ :: middle) text

variable {events front rest : List FileEvent} {event : FileEvent} {written : List Char}
  {start readings : Readings} {value : Nat} {pcap : PulsecapData} {capture : Capture}

section Histories

theorem captureAfter_append (events : List FileEvent) (event : FileEvent) :
    captureAfter (events ++ [event]) = Capture.fileEvent (captureAfter events) event := by
  rw [captureAfter, List.foldl_append]
  rfl

theorem delivered_append (events : List FileEvent) (event : FileEvent) :
    delivered (events ++ [event]) = delivered events ++
      if event.op = .timerIrq then [deliveredEdge event.readings] else [] := by
  rw [delivered, List.filterMap_append, ← delivered]
  split_ifs with irq
  · simp [irq]
  · simp [irq]

theorem reachable_captureAfter (reached : files.Reaches .zeroed events pcap) :
    Represents (captureAfter events) pcap :=
  fileSimulation.run_related zeroed_represents reached

theorem measures_extend (measures : Measures events front written start rest value)
    (uncancelled : ∀ text, event.op ≠ .writeCancel text)
    (refused : ∀ text, event.op = .writeCapture text → ¬Accepts events text) :
    Measures (events ++ [event]) front written start (rest ++ [event]) value := by
  refine ⟨?_, measures.number, measures.fits, measures.accepted, ?_⟩
  · rw [measures.session, List.append_assoc, List.cons_append]
  · intro middle other after same
    rcases List.eq_nil_or_concat' after with rfl | ⟨before, last, rfl⟩
    · obtain ⟨sameRest, sameLast⟩ := List.append_inj' same rfl
      cases sameLast
      rw [← sameRest, ← measures.session]
      exact ⟨uncancelled, refused⟩
    · rw [← List.cons_append, ← List.append_assoc] at same
      obtain ⟨sameRest, _⟩ := List.append_inj' same rfl
      exact measures.last middle other before sameRest

end Histories

section Writes

theorem failureCode_neg (failure : Failure) : failureCode failure < 0 := by
  cases failure with
  | range => decide
  | invalid => decide

theorem returned_inj {code other : Int} (same : returned code = returned other) : code = other :=
  Option.some.inj (congrArg FileAnswer.code same)

theorem startCode_nonpos (capture : Capture) (edgeCount : U32) :
    capture.startCode edgeCount ≤ 0 := by
  rw [Capture.startCode]
  split_ifs <;> decide

/-- What `capture` answers to a number is its own length, or what the start returned. -/
theorem accepts_iff (scanned : kstrtoul 32 (cString written) = .ok value) :
    Accepts events written ↔ (captureAfter events).startCode (.ofNat 32 value) = 0 := by
  have bound := startCode_nonpos (captureAfter events) (.ofNat 32 value)
  rw [Accepts, Capture.serves, scanned]
  dsimp only
  split_ifs with started
  · exact iff_of_true rfl started
  · refine iff_of_false ?_ started
    intro same
    have code := returned_inj same
    omega

theorem not_accepts_of_failure {failure : Failure}
    (refused : kstrtoul 32 (cString written) = .error failure) : ¬Accepts events written := by
  rw [Accepts, Capture.serves, refused]
  intro same
  have negative := failureCode_neg failure
  have code := returned_inj same
  omega

theorem startCode_eq_zero_iff (capture : Capture) (edgeCount : U32) :
    capture.startCode edgeCount = 0 ↔
      capture.state ≠ pulsecapStateRun ∧ edgeCount.toNat ≤ pulsecapMaxCount := by
  rw [Capture.startCode]
  split_ifs with running fits
  · exact iff_of_false (by decide) fun free => free.1 running
  · exact iff_of_true rfl ⟨running, fits⟩
  · exact iff_of_false (by decide) fun free => fits free.2

theorem toNat_scanned (scanned : kstrtoul 32 (cString written) = .ok value) :
    (BitVec.ofNat 32 value).toNat = value := by
  have small := ((kstrtoul_eq_ok_iff (by decide)).mp scanned).2
  rw [BitVec.toNat_ofNat, Nat.mod_eq_of_lt small]

end Writes

/-- A capture that is there was started by a write of its target, and has got the edges since. -/
theorem measures_of_capturing {target : U32} {edges : List PulseData}
    (current : captureAfter events = .capturing target edges) : ∃ front written start rest value,
      Measures events front written start rest value ∧ target = .ofNat 32 value ∧
        edges = delivered rest := by
  induction events using List.reverseRecOn generalizing edges with
  | nil => cases current
  | append_singleton events event ih =>
      rw [captureAfter_append, Capture.fileEvent] at current
      -- an event that leaves the capture as it is
      have unchanged : captureAfter events = .capturing target edges →
          (∀ text, event.op ≠ .writeCancel text) → event.op ≠ .timerIrq →
          (∀ text, event.op = .writeCapture text → ¬Accepts events text) →
          ∃ front written start rest value,
            Measures (events ++ [event]) front written start rest value ∧
              target = .ofNat 32 value ∧ edges = delivered rest := by
        intro same uncancelled quiet refused
        obtain ⟨front, written, start, rest, value, measures, sameTarget, sameEdges⟩ := ih same
        refine ⟨front, written, start, rest ++ [event], value,
          measures_extend measures uncancelled refused, sameTarget, ?_⟩
        rw [delivered_append, if_neg quiet, List.append_nil]
        exact sameEdges
      obtain ⟨op, readings⟩ := event
      cases op with
      | writeCapture text =>
          cases scanned : kstrtoul 32 (cString text) with
          | error failure =>
              dsimp only [FileOp.under] at current
              rw [scanned] at current
              apply unchanged current (fun other => by simp) (by simp)
              intro other same
              cases same
              exact not_accepts_of_failure scanned
          | ok value =>
              dsimp only [FileOp.under] at current
              rw [scanned] at current
              change (captureAfter events).start (.ofNat 32 value) = _ at current
              by_cases accepted : Accepts events text
              · obtain ⟨free, fits⟩ :=
                  (startCode_eq_zero_iff _ _).mp ((accepts_iff scanned).mp accepted)
                rw [start_accepted _ _ free fits] at current
                cases current
                rw [toNat_scanned scanned] at fits
                refine ⟨events, text, readings, [], value,
                  ⟨rfl, scanned, fits, accepted, ?_⟩, rfl, rfl⟩
                intro middle event after same
                exact absurd same (by simp)
              · have refused := accepted
                rw [accepts_iff scanned, startCode_eq_zero_iff, not_and_or, not_not] at refused
                rw [start_refused _ _ refused] at current
                apply unchanged current (fun other => by simp) (by simp)
                intro other same
                cases same
                exact accepted
      | writeCancel text =>
          change (captureAfter events).cancel = _ at current
          cases before : captureAfter events with
          | never =>
              rw [before] at current
              cases current
          | capturing target edges =>
              rw [before] at current
              cases current
          | cancelled target edges =>
              rw [before] at current
              cases current
      | timerIrq =>
          change (captureAfter events).deliver (deliveredEdge readings) = _ at current
          cases before : captureAfter events with
          | never =>
              rw [before] at current
              cases current
          | cancelled other earlier =>
              rw [before] at current
              cases current
          | capturing other earlier =>
              rw [before] at current
              cases current
              obtain ⟨front, written, start, rest, value, measures, sameTarget, sameEdges⟩ :=
                ih before
              refine ⟨front, written, start, rest ++ [⟨.timerIrq, readings⟩], value,
                measures_extend measures (by simp) (by simp), sameTarget, ?_⟩
              rw [delivered_append, if_pos rfl, sameEdges]
      | _ => exact unchanged current (by simp) (by simp) (by simp)

section Results

/-- What `state` says of a capture that is represented, and what this says of the capture. -/
theorem state_eq_done_iff (capture : Capture) :
    Capture.serves capture .readState = printed doneLine ↔
      ∃ target edges, capture = .capturing target edges ∧ complete target edges = true := by
  have idle : printed idleLine ≠ printed doneLine := by decide
  cases capture with
  | never => exact iff_of_false idle (by simp)
  | cancelled target edges => exact iff_of_false idle (by simp)
  | capturing target edges =>
      cases finished : complete target edges with
      | true =>
          refine iff_of_true ?_ ⟨target, edges, rfl, finished⟩
          rw [Capture.serves, finished]
          rfl
      | false =>
          refine iff_of_false ?_ ?_
          · rw [Capture.serves, finished]
            decide
          · rintro ⟨_, _, same, ended⟩
            cases same
            rw [finished] at ended
            cases ended

theorem fileStep_read {op : FileOp} (represents : Represents capture pcap) (readings : Readings)
    (quiet : op ≠ .timerIrq) :
    ∃ next, fileStep pcap ⟨op, readings⟩ = some (Capture.serves capture op, next) := by
  have fits : Capture.exceeds capture ⟨op, readings⟩ = false := by
    cases op with
    | timerIrq => exact absurd rfl quiet
    | _ => rfl
  obtain ⟨next, stepped, _⟩ := fileStep_refines represents fits
  exact ⟨next, stepped⟩

/-- In every session: when `state` says that the capture is done, then the last number that was
taken is the number of edges that `edge_data` has, and `capture` has counted as many, or one
for 0. They are the first that the filter accepts of the edges since it was written. -/
theorem done_reads (reached : files.Reaches .zeroed events pcap)
    (done : ∃ next, fileStep pcap ⟨.readState, readings⟩ = some (printed doneLine, next)) :
    ∃ front written start rest value, Measures events front written start rest value ∧
      value ≤ (accepted (delivered rest)).length ∧ ∀ readings,
        (∃ next, fileStep pcap ⟨.readCapture, readings⟩ =
          some (printed (numberLine (max 1 value)), next)) ∧
        ∃ next, fileStep pcap ⟨.readEdgeData, readings⟩ = some (⟨some (value * sizeofEdgeCount), [],
          ((accepted (delivered rest)).take value).map PulseData.edgeCount⟩, next) := by
  have represents := reachable_captureAfter reached
  obtain ⟨next, said⟩ := done
  obtain ⟨other, stepped⟩ := fileStep_read represents readings
    (by decide : FileOp.readState ≠ .timerIrq)
  rw [stepped, Option.some.injEq, Prod.mk.injEq] at said
  obtain ⟨target, edges, current, finished⟩ := (state_eq_done_iff _).mp said.1
  obtain ⟨front, written, start, rest, value, measures, rfl, rfl⟩ := measures_of_capturing current
  have sameValue := toNat_scanned measures.number
  have limit : storeLimit (.ofNat 32 value) = max 1 value := by rw [storeLimit, sameValue]
  have enough := finished
  rw [complete, decide_eq_true_eq, limit] at enough
  have counted : (capturedEdges (.ofNat 32 value) (delivered rest)).length = max 1 value := by
    rw [capturedEdges, List.length_take, limit]
    omega
  have words : (captureAfter events).read (captureAfter events).target.toNat =
      some (((accepted (delivered rest)).take value).map PulseData.edgeCount) := by
    rw [current, Capture.read, Capture.readable, if_pos finished, Capture.target, sameValue,
      Option.map_some, Nat.min_self]
    rfl
  have length :
    (((accepted (delivered rest)).take value).map PulseData.edgeCount).length = value := by
    rw [List.length_map, List.length_take]
    omega
  refine ⟨front, written, start, rest, value, measures, by omega, ?_⟩
  intro readings
  constructor
  · obtain ⟨next, stepped⟩ := fileStep_read represents readings
      (by decide : FileOp.readCapture ≠ .timerIrq)
    refine ⟨next, ?_⟩
    rw [stepped, current, Capture.serves, Capture.captured, counted]
  · obtain ⟨next, stepped⟩ := fileStep_read represents readings
      (by decide : FileOp.readEdgeData ≠ .timerIrq)
    refine ⟨next, ?_⟩
    rw [stepped, Capture.serves, words]
    dsimp only
    rw [length]

/-- A capture of two edges, and the three interrupts after which it is done. -/
def twoEdges : List FileEvent :=
  [⟨.writeCapture ['2', '\n'], levelReadings false⟩, ⟨.timerIrq, levelReadings true⟩,
    ⟨.timerIrq, levelReadings false⟩, ⟨.timerIrq, levelReadings true⟩]

theorem twoEdges_read : ∃ pcap, files.Reaches .zeroed twoEdges pcap ∧
    ∃ front written start rest value, Measures twoEdges front written start rest value ∧
      value ≤ (accepted (delivered rest)).length ∧ ∀ readings,
        (∃ next, fileStep pcap ⟨.readCapture, readings⟩ =
          some (printed (numberLine (max 1 value)), next)) ∧
        ∃ next, fileStep pcap ⟨.readEdgeData, readings⟩ = some (⟨some (value * sizeofEdgeCount), [],
          ((accepted (delivered rest)).take value).map PulseData.edgeCount⟩, next) := by
  have reached : ∃ pcap, files.Reaches .zeroed twoEdges pcap ∧
      ∃ next, fileStep pcap ⟨.readState, levelReadings false⟩ = some (printed doneLine, next) :=
    ⟨_, ⟨_, rfl⟩, _, rfl⟩
  obtain ⟨pcap, reached, done⟩ := reached
  exact ⟨pcap, reached, done_reads reached done⟩

/-- The file has this text. -/
def Shows (pcap : PulsecapData) (op : FileOp) (text : List Char) : Prop :=
  ∀ readings, ∃ next, fileStep pcap ⟨op, readings⟩ = some (printed text, next)

theorem printed_inj {text other : List Char} (same : printed text = printed other) : text = other :=
  congrArg FileAnswer.text same

theorem shows_iff {op : FileOp} {text : List Char} (represents : Represents capture pcap)
    (quiet : op ≠ .timerIrq) : Shows pcap op text ↔ Capture.serves capture op = printed text := by
  constructor
  · intro shows
    obtain ⟨next, said⟩ := shows (levelReadings false)
    obtain ⟨other, stepped⟩ := fileStep_read represents (levelReadings false) quiet
    rw [stepped, Option.some.injEq, Prod.mk.injEq] at said
    exact said.1
  · intro same readings
    rw [← same]
    exact fileStep_read represents readings quiet

theorem shows_running_iff (represents : Represents capture pcap) :
    Shows pcap .readState runningLine ↔ capture.state = pulsecapStateRun := by
  have done : pulsecapStateDone ≠ pulsecapStateRun := by decide
  have idle : pulsecapStateIdle ≠ pulsecapStateRun := by decide
  have lines : printed doneLine ≠ printed runningLine := by decide
  have others : printed idleLine ≠ printed runningLine := by decide
  rw [shows_iff represents (by decide)]
  cases capture with
  | never => exact iff_of_false others idle
  | cancelled target edges => exact iff_of_false others idle
  | capturing target edges =>
      dsimp only [Capture.serves, Capture.state]
      cases complete target edges with
      | true => exact iff_of_false lines done
      | false => exact iff_of_true rfl rfl

/-- The text is a number that the array has room for, and no capture is running. -/
def Startable (pcap : PulsecapData) (written : List Char) : Prop :=
  (∃ value ≤ pulsecapMaxCount, Spells (cString written) value) ∧ ¬Shows pcap .readState runningLine

theorem start_refused_step {edgeCount : U32} (represents : Represents capture pcap)
    (refused : capture.startCode edgeCount ≠ 0) (readings : Readings) :
    pulsecapStep pcap ⟨.startCapture edgeCount, readings⟩ =
      some (⟨some (capture.startCode edgeCount), []⟩, pcap) := by
  have running := captureRunning_eq pcap
  rw [represents_state represents] at running
  rw [Capture.startCode] at refused ⊢
  split_ifs at refused ⊢ with busy fits
  · rw [decide_eq_true busy] at running
    exact step_of_yields (DriverProgram.Program.yields_bind
      (yields_startCapture_busy pcap edgeCount running) (DriverProgram.Program.yields_done _ _))
  · exact absurd rfl refused
  · rw [decide_eq_false busy] at running
    exact step_of_yields (DriverProgram.Program.yields_bind
      (yields_startCapture_invalid pcap edgeCount running (Nat.not_le.mp fits))
      (DriverProgram.Program.yields_done _ _))

theorem spells_iff_scanned (fits : value ≤ pulsecapMaxCount) :
    Spells (cString written) value ↔ kstrtoul 32 (cString written) = .ok value := by
  have most : pulsecapMaxCount = 1024 := rfl
  rw [kstrtoul_eq_ok_iff (by decide), and_iff_left (by omega)]

theorem started_of_startable (reached : files.Reaches .zeroed events pcap) (readings : Readings)
    (startable : Startable pcap written) : ∃ next,
      fileStep pcap ⟨.writeCapture written, readings⟩ = some (returned written.length, next) ∧
        Shows next .readState runningLine ∧ Shows next .readCapture (numberLine 0) := by
  have represents := reachable_captureAfter reached
  rw [Startable, shows_running_iff represents] at startable
  obtain ⟨⟨value, fits, spells⟩, free⟩ := startable
  have scanned := (spells_iff_scanned fits).mp spells
  have inside : (BitVec.ofNat 32 value).toNat ≤ pulsecapMaxCount := by
    rw [toNat_scanned scanned]
    exact fits
  obtain ⟨next, stepped, kept⟩ :=
    @fileStep_refines _ _ ⟨.writeCapture written, readings⟩ represents rfl
  have started := start_accepted (captureAfter events) (.ofNat 32 value) free inside
  have accepts := (accepts_iff scanned).mpr ((startCode_eq_zero_iff _ _).mpr ⟨free, inside⟩)
  dsimp only [Capture.fileEvent, FileOp.under] at kept
  rw [scanned] at kept
  change Represents ((captureAfter events).start (.ofNat 32 value)) next at kept
  rw [started] at kept
  have fresh : complete (.ofNat 32 value) [] = false := by
    simp [complete, accepted, AlternatingSubsequence.alternating]
  refine ⟨next, ?_, ?_, ?_⟩
  · rw [stepped]
    exact congrArg (fun answer => some (answer, next)) accepts
  · rw [shows_running_iff kept, Capture.state, fresh]
    rfl
  · rw [shows_iff kept (by decide)]
    simp [Capture.serves, Capture.captured, capturedEdges, accepted,
      AlternatingSubsequence.alternating]

/-- A number that no capture is started for. -/
theorem number_refused (represents : Represents capture pcap)
    (scanned : kstrtoul 32 (cString written) = .ok value)
    (refused : capture.startCode (.ofNat 32 value) ≠ 0) (readings : Readings) :
    fileStep pcap ⟨.writeCapture written, readings⟩ =
      some (returned (capture.startCode (.ofNat 32 value)), pcap) := by
  have comes : (FileOp.writeCapture written).under = some (.startCapture (.ofNat 32 value)) := by
    dsimp only [FileOp.under]
    rw [scanned]
  rw [@fileStep_under pcap ⟨.writeCapture written, readings⟩ _ comes,
    start_refused_step represents refused]
  simp [FileOp.answer, refused]

theorem failed_of_not_startable (reached : files.Reaches .zeroed events pcap) (readings : Readings)
    (unable : ¬Startable pcap written) : ∃ code < 0,
      fileStep pcap ⟨.writeCapture written, readings⟩ = some (returned code, pcap) := by
  have represents := reachable_captureAfter reached
  rw [Startable, shows_running_iff represents] at unable
  cases scanned : kstrtoul 32 (cString written) with
  | error failure =>
      refine ⟨failureCode failure, failureCode_neg failure, ?_⟩
      have alone : (FileOp.writeCapture written).under = none := by
        dsimp only [FileOp.under]
        rw [scanned]
      rw [@fileStep_alone (captureAfter events) pcap ⟨.writeCapture written, readings⟩ alone,
        Capture.serves, scanned]
  | ok value =>
      have refused : (captureAfter events).startCode (.ofNat 32 value) ≠ 0 := by
        intro started
        obtain ⟨free, fits⟩ := (startCode_eq_zero_iff _ _).mp started
        rw [toNat_scanned scanned] at fits
        exact unable ⟨⟨value, fits, (spells_iff_scanned fits).mpr scanned⟩, free⟩
      exact ⟨_, lt_of_le_of_ne (startCode_nonpos _ _) refused,
        number_refused represents scanned refused readings⟩

/-- A write to `capture` starts a capture if it can, and otherwise fails and changes nothing. -/
theorem capture_write (reached : files.Reaches .zeroed events pcap) (written : List Char)
    (readings : Readings) :
    (Startable pcap written → ∃ next,
      fileStep pcap ⟨.writeCapture written, readings⟩ = some (returned written.length, next) ∧
        Shows next .readState runningLine ∧ Shows next .readCapture (numberLine 0)) ∧
    (¬Startable pcap written → ∃ code < 0,
      fileStep pcap ⟨.writeCapture written, readings⟩ = some (returned code, pcap)) :=
  ⟨started_of_startable reached readings, failed_of_not_startable reached readings⟩

theorem startable_new : Startable .zeroed ['7'] :=
  ⟨⟨7, by decide, (spells_iff_scanned (by decide)).mpr (by decide)⟩,
    (shows_running_iff zeroed_represents).not.mpr (by decide)⟩

/-- A new instance takes the number, and while its capture runs it takes no other. -/
theorem capture_write_new : ∃ next,
    fileStep .zeroed ⟨.writeCapture ['7'], levelReadings false⟩ = some (returned 1, next) ∧
      Shows next .readState runningLine ∧ Shows next .readCapture (numberLine 0) ∧
      ∃ code < 0, fileStep next ⟨.writeCapture ['3'], levelReadings false⟩ =
        some (returned code, next) := by
  obtain ⟨next, stepped, running, counted⟩ :=
    (@capture_write [] .zeroed ⟨[], rfl⟩ ['7'] (levelReadings false)).1 startable_new
  have reached : files.Reaches .zeroed [⟨.writeCapture ['7'], levelReadings false⟩] next :=
    (Transducer.reaches_singleton _ _ _).mpr ⟨_, stepped⟩
  exact ⟨next, stepped, running, counted,
    (capture_write reached ['3'] (levelReadings false)).2 fun startable => startable.2 running⟩

/-- What `capture` or `max_edges` shows is a number that the array has room for. -/
theorem shown_number (reached : files.Reaches .zeroed events pcap) {text : List Char}
    (shown : Shows pcap .readCapture text ∨ Shows pcap .readMaxEdges text) :
    ∃ value ≤ pulsecapMaxCount, Spells (cString text) value := by
  have represents := reachable_captureAfter reached
  have number : ∃ value ≤ pulsecapMaxCount, text = numberLine value := by
    rcases shown with counted | most
    · rw [shows_iff represents (by decide), Capture.serves] at counted
      generalize captureAfter events = capture at represents counted
      cases represents with
      | never _ _ _ => cases congrArg FileAnswer.code counted
      | @capturing target edges _ _ _ bounded _ _ =>
          exact ⟨_, capturedEdges_length_le target edges bounded, (printed_inj counted).symm⟩
      | @cancelled target edges _ _ _ bounded _ =>
          exact ⟨_, capturedEdges_length_le target edges bounded, (printed_inj counted).symm⟩
    · rw [shows_iff represents (by decide), Capture.serves] at most
      exact ⟨_, le_refl _, (printed_inj most).symm⟩
  obtain ⟨value, fits, rfl⟩ := number
  refine ⟨value, fits, ?_⟩
  rw [numberLine, cString_toDigits]
  exact Or.inl (Or.inr ⟨_, isNumber_toDigits value, rfl⟩)

/-- What `capture` or `max_edges` shows can be written to `capture` as it is: it starts a
capture, or while one is running it is refused as busy. -/
theorem shown_number_startable (reached : files.Reaches .zeroed events pcap) {text : List Char}
    (shown : Shows pcap .readCapture text ∨ Shows pcap .readMaxEdges text) (readings : Readings) :
    (¬Shows pcap .readState runningLine → ∃ next,
      fileStep pcap ⟨.writeCapture text, readings⟩ = some (returned text.length, next) ∧
        Shows next .readState runningLine ∧ Shows next .readCapture (numberLine 0)) ∧
    (Shows pcap .readState runningLine →
      fileStep pcap ⟨.writeCapture text, readings⟩ = some (returned (-ebusy), pcap)) := by
  have number := shown_number reached shown
  constructor
  · exact fun free => started_of_startable reached readings ⟨number, free⟩
  · intro running
    have represents := reachable_captureAfter reached
    obtain ⟨value, fits, spells⟩ := number
    have scanned := (spells_iff_scanned fits).mp spells
    have busy : (captureAfter events).startCode (.ofNat 32 value) = -ebusy :=
      if_pos ((shows_running_iff represents).mp running)
    rw [number_refused represents scanned (by rw [busy]; decide), busy]

/-- The maximum is taken by a new instance, and not once more. -/
theorem max_edges_startable : ∃ next,
    fileStep .zeroed ⟨.writeCapture (numberLine pulsecapMaxCount), levelReadings false⟩ =
      some (returned (numberLine pulsecapMaxCount).length, next) ∧
    fileStep next ⟨.writeCapture (numberLine pulsecapMaxCount), levelReadings false⟩ =
      some (returned (-ebusy), next) := by
  have idle : ¬Shows .zeroed .readState runningLine :=
    (shows_running_iff zeroed_represents).not.mpr (by decide)
  obtain ⟨next, stepped, running, _⟩ :=
    (@shown_number_startable [] .zeroed ⟨[], rfl⟩ (numberLine pulsecapMaxCount)
      (Or.inr fun _ => ⟨_, rfl⟩) (levelReadings false)).1 idle
  have reached : files.Reaches .zeroed
      [⟨.writeCapture (numberLine pulsecapMaxCount), levelReadings false⟩] next :=
    (Transducer.reaches_singleton _ _ _).mpr ⟨_, stepped⟩
  have most : Shows next .readMaxEdges (numberLine pulsecapMaxCount) :=
    (shows_iff (reachable_captureAfter reached) (by decide)).mpr rfl
  exact ⟨next, stepped,
    (shown_number_startable reached (Or.inr most) (levelReadings false)).2 running⟩

end Results

end Ebaz4205.PulsecapSessions
