import TmuxRemote.Agent.Requests
import TmuxRemote.Library.Guarded

/-!
# Cli/Attach — the relay between the terminal and the stream (`tmuxremote_attach.c`)

`run_stream_relay` puts the terminal into raw mode, starts a reader that copies the stream to the
terminal, and copies what is typed to the stream, until one of the two threads sets `done`.  Then it
closes the stream, joins the reader, restores the terminal and frees the stream.

Each access to `done`, each call of the SDK and each system call is a step of its own.  A future
that has been aborted is resolved before the next time slice is over; a `write` that is interrupted
is no step.
-/

namespace TmuxRemote

/-- `READ_BUFFER_SIZE` -/
def attachReadBufferSize : ℕ := 4096

/-- `TMUXREMOTE_STREAM_WAIT_SLICE_MS` -/
def streamWaitSliceMs : ℕ := 250

/-- `TMUXREMOTE_STREAM_WRITE_TIMEOUT_MS` -/
def streamWriteTimeoutMs : ℕ := 15000

/-- The locals of `wait_stream_future`. -/
structure StreamWait where
  waitedMs : ℕ
  aborted : Bool
  timeoutEnabled : Bool
  deriving DecidableEq

/-- `wait_stream_future` at its start. -/
def StreamWait.start (timeoutEnabled : Bool) : StreamWait := ⟨0, false, timeoutEnabled⟩

/-- A slice goes by and the future is not resolved: the wait, `done`, and whether the stream is
aborted. -/
def StreamWait.slice (w : StreamWait) (done : Bool) : StreamWait × Bool × Bool :=
  if done ∧ !w.aborted then ({ w with aborted := true, timeoutEnabled := false }, done, true)
  else if w.timeoutEnabled then
    if streamWriteTimeoutMs ≤ w.waitedMs + streamWaitSliceMs then
      (⟨w.waitedMs + streamWaitSliceMs, true, false⟩, true, true)
    else ({ w with waitedMs := w.waitedMs + streamWaitSliceMs }, done, false)
  else (w, done, false)

/-- Where the main thread stands in `run_stream_relay`. -/
inductive RelayPc
  /-- The stream is open; the size of the window was told with the attach request. -/
  | opened
  /-- Before `sigaction`. -/
  | raw
  /-- Before `pthread_create`. -/
  | watching
  /-- At the test of the loop. -/
  | testing
  | selecting
  /-- Behind `select`: at the test of `sigwinch_received`. -/
  | clearing (ready : Bool)
  | measuring (ready : Bool)
  /-- In `tmuxremote_coap_resize`. -/
  | telling (size : WindowSize) (ready : Bool)
  | reading
  /-- In a write to the stream, of which the SDK has not taken all yet. -/
  | sending (rest : List UInt8) (wait : StreamWait)
  /-- Before the store to `done`. -/
  | stopping
  | closing
  | joining
  | restoring (code : ℕ)
  | freeing (code : ℕ)
  | returned (code : ℕ)
  deriving DecidableEq

/-- Where the reader stands in `stream_reader_thread`. -/
inductive StreamReaderPc
  | notStarted
  | testing
  | reading (wait : StreamWait)
  /-- In `write_all_fd`. -/
  | writing (rest : List UInt8)
  /-- Before the store to `done`. -/
  | storing
  | exited
  deriving DecidableEq

/-- The two threads, the terminal and the stream; `typed`, `delivered`, `received` and `shown` are
the history. -/
structure RelayThreads where
  main : RelayPc
  reader : StreamReaderPc
  done : Bool
  rawTerminal : Bool
  streamFreed : Bool
  /-- What was read from the terminal. -/
  typed : List UInt8
  /-- What the SDK has taken of it. -/
  delivered : List UInt8
  /-- What was read from the stream. -/
  received : List UInt8
  /-- What was written to the terminal. -/
  shown : List UInt8
  deriving DecidableEq

/-- The relay, and the size of the window. -/
structure StreamRelay extends RelayThreads where
  handlerInstalled : Bool
  sigwinchReceived : Bool
  window : WindowSize
  /-- The size that the agent has been told last. -/
  told : WindowSize
  deriving DecidableEq

namespace StreamRelay

/-- The stream has been opened after the agent was told the size. -/
def init (told window : WindowSize) : StreamRelay where
  main := .opened
  reader := .notStarted
  done := false
  rawTerminal := false
  streamFreed := false
  handlerInstalled := false
  sigwinchReceived := false
  window := window
  told := told
  typed := []
  delivered := []
  received := []
  shown := []

/-- A step of one of the threads, with what it meets. -/
inductive Action
  /-- The user changes the window. -/
  | resize (window : WindowSize)
  | setRaw (ok : Bool)
  | installHandler
  | createReader (ok : Bool)
  | test
  /-- `select` returns, and whether there is input. -/
  | selected (ready : Bool)
  | testSigwinch
  | getSize (ok : Bool)
  | tell (ok : Bool)
  /-- `read` of the terminal; nothing at its end or where it fails. -/
  | readInput (data : List UInt8)
  /-- The SDK takes bytes of the write. -/
  | take (n : ℕ)
  | written (ok : Bool)
  /-- A slice of the write goes by. -/
  | writeSlice
  | stop
  | closed
  | join
  | restore
  | free
  | readerTest
  /-- A read of the stream ends; nothing where it fails. -/
  | readStream (data : Option (List UInt8))
  /-- A slice of the read goes by. -/
  | readSlice
  /-- `write` of so many bytes to the terminal. -/
  | display (n : ℕ)
  | displayFailed
  | readerStop
  deriving DecidableEq

/-- Where the main thread goes on when the size has been dealt with. -/
def afterSigwinch (ready : Bool) : RelayPc := if ready then .reading else .testing

/-- One step. -/
def step (s : StreamRelay) : Action → Option StreamRelay
  | .resize window =>
    some { s with window := window, sigwinchReceived := s.sigwinchReceived || s.handlerInstalled }
  | .setRaw ok =>
    match s.main with
    | .opened =>
      some (if ok then { s with main := .raw, rawTerminal := true }
        else { s with main := .freeing 1 })
    | _ => none
  | .installHandler =>
    match s.main with
    | .raw => some { s with main := .watching, handlerInstalled := true }
    | _ => none
  | .createReader ok =>
    match s.main with
    | .watching =>
      some (if ok then { s with main := .testing, reader := .testing }
        else { s with main := .restoring 1 })
    | _ => none
  | .test =>
    match s.main with
    | .testing => some { s with main := if s.done then .stopping else .selecting }
    | _ => none
  | .selected ready =>
    match s.main with
    | .selecting => some { s with main := .clearing ready }
    | _ => none
  | .testSigwinch =>
    match s.main with
    | .clearing ready =>
      some (if s.sigwinchReceived then
          { s with main := .measuring ready, sigwinchReceived := false }
        else { s with main := afterSigwinch ready })
    | _ => none
  | .getSize ok =>
    match s.main with
    | .measuring ready =>
      some { s with main := if ok then .telling s.window ready else afterSigwinch ready }
    | _ => none
  | .tell ok =>
    match s.main with
    | .telling size ready =>
      some { s with main := afterSigwinch ready, told := if ok then size else s.told }
    | _ => none
  | .readInput data =>
    match s.main with
    | .reading =>
      if attachReadBufferSize < data.length then none
      else if data.isEmpty then some { s with main := .stopping }
      else some { s with main := .sending data (.start true), typed := s.typed ++ data }
    | _ => none
  | .take n =>
    match s.main with
    | .sending rest wait =>
      if 0 < n ∧ n ≤ rest.length then
        some
          { s with main := .sending (rest.drop n) wait, delivered := s.delivered ++ rest.take n }
      else none
    | _ => none
  | .written ok =>
    match s.main with
    | .sending rest _ =>
      if ok then if rest.isEmpty then some { s with main := .testing } else none
      else some { s with main := .stopping }
    | _ => none
  | .writeSlice =>
    match s.main with
    | .sending rest wait =>
      if wait.aborted then none
      else
        some { s with main := .sending rest (wait.slice s.done).1, done := (wait.slice s.done).2.1 }
    | _ => none
  | .stop =>
    match s.main with
    | .stopping => some { s with main := .closing, done := true }
    | _ => none
  | .closed =>
    match s.main with
    | .closing => some { s with main := .joining }
    | _ => none
  | .join =>
    match s.main, s.reader with
    | .joining, .exited => some { s with main := .restoring 0 }
    | _, _ => none
  | .restore =>
    match s.main with
    | .restoring code => some { s with main := .freeing code, rawTerminal := false }
    | _ => none
  | .free =>
    match s.main with
    | .freeing code => some { s with main := .returned code, streamFreed := true }
    | _ => none
  | .readerTest =>
    match s.reader with
    | .testing => some { s with reader := if s.done then .storing else .reading (.start false) }
    | _ => none
  | .readStream data =>
    match s.reader with
    | .reading _ =>
      match data with
      | none => some { s with reader := .storing }
      | some data =>
        if attachReadBufferSize < data.length then none
        else
          some
            { s with
              reader := if data.isEmpty then .testing else .writing data
              received := s.received ++ data }
    | _ => none
  | .readSlice =>
    match s.reader with
    | .reading wait =>
      if wait.aborted then none
      else some { s with reader := .reading (wait.slice s.done).1, done := (wait.slice s.done).2.1 }
    | _ => none
  | .display n =>
    match s.reader with
    | .writing rest =>
      if 0 < n ∧ n ≤ rest.length then
        some
          { s with
            reader := if n = rest.length then .testing else .writing (rest.drop n)
            shown := s.shown ++ rest.take n }
      else none
    | _ => none
  | .displayFailed =>
    match s.reader with
    | .writing _ => some { s with reader := .storing }
    | _ => none
  | .readerStop =>
    match s.reader with
    | .storing => some { s with reader := .exited, done := true }
    | _ => none

end StreamRelay

end TmuxRemote
