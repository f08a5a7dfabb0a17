import TmuxRemote.Library.Entries
import TmuxRemote.Library.Guarded
import TmuxRemote.Wire.AppDecoder
import TmuxRemote.Wire.ControlFrames

/-!
# Ios/ControlStreams — the app's control stream of one agent (`ConnectionManager.swift`)

Each `openControlStream` starts a task that opens a stream and reads it, under a generation of its
own.  `closeControlStream` takes the entries of the device away, cancels the task and aborts the
stream; what the task does after that depends on where it looks: it compares generations when the
stream has been opened and at its end, and looks for a cancellation before it waits and between two
messages.  A read that has what it waits for does neither, so the message that it completes is
handed on all the same (`SupersededStreams`).

The steps are those of the main actor, from one `await` to the next.  The entries are those of one
device id, of which every function here is about one.  A task, its generation and its stream have
one number, in the order in which they are made.
-/

namespace TmuxRemote

/-! ## The read loop, from one piece to the next -/

/-- Where `controlReadLoop` waits: `readBuffer`, and the payload's length once it is known. -/
structure FrameReader where
  buffer : List UInt8
  wanted : Option ℕ
  deriving DecidableEq

namespace FrameReader

/-- The beginning of a turn of the loop. -/
def start (buffer : List UInt8) : FrameReader := { buffer := buffer, wanted := none }

/-- A piece has been read. -/
def feed (reader : FrameReader) (chunk : List UInt8) : FrameReader :=
  { reader with buffer := reader.buffer ++ chunk }

/-- `controlReadLoop` until it waits again, inside `readExactly`: the events that it hands on, and
where it waits; nowhere when it is left, by its end or by an error. -/
def readOn (swift : SwiftCbor) (isCancelled : Bool) (reader : FrameReader) :
    List ControlStreamEvent × Option FrameReader :=
  match _hwanted : reader.wanted with
  | none =>
    if reader.buffer.length < 4 then ([], if isCancelled then none else some reader)
    else
      let length := Framing.lengthValue (reader.buffer.take 4)
      if IosReader.accepts length then
        readOn swift isCancelled { buffer := reader.buffer.drop 4, wanted := some length }
      else ([], none)
  | some count =>
    if reader.buffer.length < count then ([], if isCancelled then none else some reader)
    else
      let events := (decodeControlStreamEvent swift (reader.buffer.take count)).toList
      if isCancelled then (events, none)
      else
        let (later, waiting) := readOn swift isCancelled (start (reader.buffer.drop count))
        (events ++ later, waiting)
  termination_by 2 * reader.buffer.length + if reader.wanted.isSome then 1 else 0
  decreasing_by
    all_goals simp only [_hwanted, start, List.length_drop, Option.isSome_none, Option.isSome_some]
    all_goals grind

/-- The bytes hold the whole of the message that is being read, and it is one. -/
def CompletesMessage (swift : SwiftCbor) (reader : FrameReader) : Prop :=
  match reader.wanted with
  | some count =>
    count ≤ reader.buffer.length
      ∧ decodeControlStreamEvent swift (reader.buffer.take count) ≠ none
  | none =>
    4 ≤ reader.buffer.length
      ∧ IosReader.accepts (Framing.lengthValue (reader.buffer.take 4)) = true
      ∧ Framing.lengthValue (reader.buffer.take 4) ≤ (reader.buffer.drop 4).length
      ∧ decodeControlStreamEvent swift
        ((reader.buffer.drop 4).take (Framing.lengthValue (reader.buffer.take 4))) ≠ none

/-- The bytes come to a length that is out of range. -/
inductive MeetsRefusedLength : FrameReader → Prop
  | here {buffer : List UInt8} (hlength : 4 ≤ buffer.length)
      (hrefused : IosReader.accepts (Framing.lengthValue (buffer.take 4)) = false) :
      MeetsRefusedLength (start buffer)
  | payload {buffer : List UInt8} (hlength : 4 ≤ buffer.length)
      (haccepts : IosReader.accepts (Framing.lengthValue (buffer.take 4)) = true)
      (h : MeetsRefusedLength
        { buffer := buffer.drop 4, wanted := some (Framing.lengthValue (buffer.take 4)) }) :
      MeetsRefusedLength (start buffer)
  | next {buffer : List UInt8} {count : ℕ} (hlength : count ≤ buffer.length)
      (h : MeetsRefusedLength (start (buffer.drop count))) :
      MeetsRefusedLength { buffer := buffer, wanted := some count }

instance decidableCompletesMessage (swift : SwiftCbor) :
    ∀ reader : FrameReader, Decidable (reader.CompletesMessage swift)
  | { wanted := some _, .. } => inferInstanceAs (Decidable (_ ∧ _))
  | { wanted := none, .. } => inferInstanceAs (Decidable (_ ∧ _ ∧ _ ∧ _))

section
variable {swift : SwiftCbor} {reader : FrameReader}

/-- One turn of the loop up to the payload. -/
theorem readOn_length (isCancelled : Bool) (buffer : List UInt8) :
    readOn swift isCancelled { buffer := buffer, wanted := none }
      = if buffer.length < 4 then
          ([], if isCancelled then none else some { buffer := buffer, wanted := none })
        else if IosReader.accepts (Framing.lengthValue (buffer.take 4)) then
          readOn swift isCancelled
            { buffer := buffer.drop 4, wanted := some (Framing.lengthValue (buffer.take 4)) }
        else ([], none) := by
  rw [readOn]

/-- One turn of the loop from the payload on. -/
theorem readOn_payload (isCancelled : Bool) (buffer : List UInt8) (count : ℕ) :
    readOn swift isCancelled { buffer := buffer, wanted := some count }
      = if buffer.length < count then
          ([], if isCancelled then none else some { buffer := buffer, wanted := some count })
        else if isCancelled then
          ((decodeControlStreamEvent swift (buffer.take count)).toList, none)
        else
          ((decodeControlStreamEvent swift (buffer.take count)).toList
              ++ (readOn swift isCancelled (start (buffer.drop count))).1,
            (readOn swift isCancelled (start (buffer.drop count))).2) := by
  rw [readOn]

theorem toList_ne_nil_iff {event : Option ControlStreamEvent} :
    event.toList ≠ [] ↔ event ≠ none := by
  cases event <;> simp

/-- A cancelled loop is left, and hands on at most the message that it has whole. -/
theorem readOn_cancelled :
    (readOn swift true reader).2 = none
      ∧ ((readOn swift true reader).1 ≠ [] ↔ reader.CompletesMessage swift) := by
  obtain ⟨buffer, wanted⟩ := reader
  have hpayload (buffer : List UInt8) (count : ℕ) :
      (readOn swift true { buffer := buffer, wanted := some count }).2 = none
        ∧ ((readOn swift true { buffer := buffer, wanted := some count }).1 ≠ []
          ↔ count ≤ buffer.length
            ∧ decodeControlStreamEvent swift (buffer.take count) ≠ none) := by
    rw [readOn_payload]
    by_cases hshort : buffer.length < count
    · simp [hshort]
    · simp only [if_neg hshort, if_pos, true_and, toList_ne_nil_iff]
      exact (and_iff_right (Nat.not_lt.mp hshort)).symm
  cases wanted with
  | some count => exact hpayload buffer count
  | none =>
    rw [readOn_length, CompletesMessage]
    dsimp only
    by_cases hshort : buffer.length < 4
    · simp [hshort]
    · rw [if_neg hshort, and_iff_right (Nat.not_lt.mp hshort)]
      by_cases haccepts : IosReader.accepts (Framing.lengthValue (buffer.take 4)) = true
      · rw [if_pos haccepts, and_iff_right haccepts]
        exact hpayload _ _
      · simp [haccepts]

/-- A loop that is not cancelled is left at a length that is out of range, and nowhere else. -/
theorem readOn_eq_none_iff :
    (readOn swift false reader).2 = none ↔ reader.MeetsRefusedLength := by
  induction reader using readOn.induct swift false with
  | case1 reader hwanted hshort =>
    obtain ⟨buffer, wanted⟩ := reader
    obtain rfl : wanted = none := hwanted
    rw [readOn_length, if_pos hshort]
    refine iff_of_false nofun fun h => ?_
    cases h with
    | here hlength => exact absurd hshort (Nat.not_lt.mpr hlength)
    | payload hlength => exact absurd hshort (Nat.not_lt.mpr hlength)
  | case2 reader hwanted hshort length haccepts ih =>
    obtain ⟨buffer, wanted⟩ := reader
    obtain rfl : wanted = none := hwanted
    rw [readOn_length, if_neg hshort, if_pos haccepts]
    refine ih.trans ?_
    refine ⟨.payload (Nat.not_lt.mp hshort) haccepts, fun h => ?_⟩
    cases h with
    | here _ hrefused => exact absurd haccepts (ne_true_of_eq_false hrefused)
    | payload _ _ h => exact h
  | case3 reader hwanted hshort length hrefused =>
    obtain ⟨buffer, wanted⟩ := reader
    obtain rfl : wanted = none := hwanted
    rw [readOn_length, if_neg hshort, if_neg hrefused]
    exact iff_of_true rfl (.here (Nat.not_lt.mp hshort) (eq_false_of_ne_true hrefused))
  | case4 reader count hwanted hshort =>
    obtain ⟨buffer, wanted⟩ := reader
    obtain rfl : wanted = some count := hwanted
    rw [readOn_payload, if_pos hshort]
    refine iff_of_false nofun fun h => ?_
    cases h with
    | next hlength => exact absurd hshort (Nat.not_lt.mpr hlength)
  | case5 reader count hwanted hshort hcancelled => exact nomatch hcancelled
  | case6 reader count hwanted hshort hcancelled later waiting hlater ih =>
    obtain ⟨buffer, wanted⟩ := reader
    obtain rfl : wanted = some count := hwanted
    rw [readOn_payload, if_neg hshort, if_neg hcancelled]
    refine ih.trans ⟨.next (Nat.not_lt.mp hshort), fun h => ?_⟩
    cases h with
    | next _ h => exact h

end

end FrameReader

/-! ## The tasks of one device -/

/-- Where the task of an `openControlStream` is. -/
inductive ControlStage
  | created
  /-- In `openAsync`. -/
  | opening
  /-- In `readSomeAsync`. -/
  | reading (reader : FrameReader)
  | ended
  deriving DecidableEq

/-- What has become of a task's stream. -/
inductive StreamState
  | unopened
  | opened
  | aborted
  /-- A read of it has failed, or has found its end. -/
  | ended
  deriving DecidableEq

/-- The task of an `openControlStream`, with its stream. -/
structure ControlTask where
  isCancelled : Bool
  /-- A `closeControlStream` has run since. -/
  superseded : Bool
  stage : ControlStage
  stream : StreamState
  deriving DecidableEq

/-- The entries of `ConnectionManager` under one device id. -/
structure ControlEntries where
  controlGenerations : Option ℕ
  controlReadTasks : Option ℕ
  controlStreams : Option ℕ
  deviceSessions : Option (List SessionInfo)
  deriving DecidableEq

/-- No entries. -/
def ControlEntries.none : ControlEntries where
  controlGenerations := Option.none
  controlReadTasks := Option.none
  controlStreams := Option.none
  deviceSessions := Option.none

/-- The control streams of one device. -/
structure ControlStreams where
  entries : ControlEntries
  tasks : List ControlTask
  /-- The messages stored in `deviceSessions` or passed to `onPatternEvent`, with the tasks that
  read them. -/
  received : List (ℕ × ControlStreamEvent)
  deriving DecidableEq

/-- How a read ends. -/
inductive ReadResult
  /-- An empty piece is the end of the stream. -/
  | chunk (bytes : List UInt8)
  | failed
  deriving DecidableEq

/-- A step of the main actor. -/
inductive ControlAction
  | openControlStream
  /-- Also the part of `disconnect` and of `handleConnectionClosed` that is about these entries. -/
  | closeControlStream
  /-- The task starts; whether `createStream` succeeds. -/
  | createStream (i : ℕ) (ok : Bool)
  /-- `openAsync` returns. -/
  | openAsync (i : ℕ) (ok : Bool)
  /-- `readSomeAsync` returns. -/
  | readSomeAsync (i : ℕ) (result : ReadResult)
  deriving DecidableEq

/-- The task whose step it is. -/
def ControlAction.task : ControlAction → Option ℕ
  | openControlStream | closeControlStream => none
  | createStream i _ | openAsync i _ | readSomeAsync i _ => some i

namespace ControlTask

/-- What `closeControlStream` does to task `i`. -/
def closed (entries : ControlEntries) (i : ℕ) (t : ControlTask) : ControlTask where
  isCancelled := t.isCancelled || entries.controlReadTasks = some i
  superseded := true
  stage := t.stage
  stream := if entries.controlStreams = some i then .aborted else t.stream

/-- A task that has been created. -/
def new : ControlTask where
  isCancelled := false
  superseded := false
  stage := .created
  stream := .unopened

end ControlTask

namespace ControlStreams

/-- Nothing has been opened. -/
def init : ControlStreams where
  entries := .none
  tasks := []
  received := []

variable (s : ControlStreams)

def closeControlStream : ControlStreams where
  entries := .none
  tasks := s.tasks.mapIdx (ControlTask.closed s.entries)
  received := s.received

def openControlStream : ControlStreams :=
  let s := s.closeControlStream
  { s with
    entries :=
      { s.entries with
        controlGenerations := some s.tasks.length
        controlReadTasks := some s.tasks.length }
    tasks := s.tasks ++ [.new] }

def setTask (i : ℕ) (t : ControlTask) : ControlStreams := { s with tasks := s.tasks.set i t }

/-- The stream of task `i` is the one of the device. -/
def register (i : ℕ) : ControlStreams :=
  { s with entries := { s.entries with controlStreams := some i } }

/-- The end of the task: it takes its own entries away. -/
def finish (i : ℕ) (t : ControlTask) : ControlStreams :=
  let s := s.setTask i { t with stage := .ended }
  if s.entries.controlGenerations = some i then { s with entries := .none } else s

/-- A message is handed on. -/
def handOn (i : ℕ) (event : ControlStreamEvent) : ControlStreams :=
  { s with
    entries :=
      match event with
      | .sessions list => { s.entries with deviceSessions := some list }
      | .patternPresent _ | .patternUpdate _ | .patternGone _ => s.entries
    received := s.received ++ [(i, event)] }

section
variable (swift : SwiftCbor)

/-- `controlReadLoop` goes on until it waits again or is left. -/
def readOn (i : ℕ) (t : ControlTask) (reader : FrameReader) : ControlStreams :=
  let (events, waiting) := reader.readOn swift t.isCancelled
  let s := events.foldl (fun s event => s.handOn i event) s
  match waiting with
  | some reader => s.setTask i { t with stage := .reading reader }
  | none => s.finish i t

/-- What a task does when what it has waited for is there; `none` when it does not wait for it. -/
def taskStep (i : ℕ) (t : ControlTask) : ControlAction → Option ControlStreams
  | .createStream _ ok =>
    if t.stage = .created then
      if ok then some (s.setTask i { t with stage := .opening }) else some (s.finish i t)
    else none
  | .openAsync _ ok =>
    if t.stage = .opening then
      if !ok then some (s.finish i t)
      else if s.entries.controlGenerations = some i then
        some ((s.register i).readOn swift i { t with stream := .opened } (.start []))
      else some (s.setTask i { t with stream := .aborted, stage := .ended })
    else none
  | .readSomeAsync _ result =>
    match t.stage with
    | .reading reader =>
      match result with
      | .chunk bytes =>
        if bytes.isEmpty then some (s.finish i { t with stream := .ended })
        else some (s.readOn swift i t (reader.feed bytes))
      | .failed => some (s.finish i { t with stream := .ended })
    | .created | .opening | .ended => none
  | .openControlStream | .closeControlStream => none

/-- One step; `none` when it cannot be taken. -/
def step (s : ControlStreams) : ControlAction → Option ControlStreams
  | .openControlStream => some s.openControlStream
  | .closeControlStream => some s.closeControlStream
  | .createStream i ok => s.tasks[i]?.bind fun t => s.taskStep swift i t (.createStream i ok)
  | .openAsync i ok => s.tasks[i]?.bind fun t => s.taskStep swift i t (.openAsync i ok)
  | .readSomeAsync i result =>
    s.tasks[i]?.bind fun t => s.taskStep swift i t (.readSomeAsync i result)

end

end ControlStreams

end TmuxRemote
