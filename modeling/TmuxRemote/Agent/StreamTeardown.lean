import TmuxRemote.Library.Guarded
import TmuxRemote.Library.Handover

/-!
# Agent/StreamTeardown — the threads of one data stream, and its teardown

One data stream from `stream_callback` to the `free` in its cleanup thread.  The SDK's callbacks
`stream_callback`, `stream_accepted` and `stream_closed` run one at a time on one thread; the setup
thread, the two reader threads and the cleanup thread run beside it.  Each load, store, compare and
exchange, thread creation and join is a step of its own; what a reader does between two tests of
`closing` is one step.

The counters of `StreamTeardown` say how often a call was made; the code does not have them.
-/

namespace TmuxRemote

/-- Where the SDK's thread stands with the callbacks of the stream. -/
inductive SdkPc
  /-- `stream_callback` has allocated the stream. -/
  | linking
  /-- The accept is pending. -/
  | accepting
  /-- In `stream_accepted`, before the access check and the look for a session. -/
  | checking
  | creatingSetup
  /-- Before `setupThreadStarted` is set. -/
  | markingSetup
  /-- In `start_stream_close_once`; `won` once the exchange went through. -/
  | closingOnce (won : Bool)
  /-- `stream_accepted` has returned. -/
  | idle
  /-- In `cleanup_active_stream`. -/
  | cleaning
  | unlinking
  | creatingCleanup
  /-- No callback of the stream is left. -/
  | ended
  deriving DecidableEq

/-- Where the setup thread stands. -/
inductive SetupPc
  | absent
  /-- Before the test of `closing`. -/
  | testing
  | forking
  /-- Before `childPid` is set. -/
  | storingPid
  | initialisingDetector
  /-- Before `promptDetectorInitialized` is set. -/
  | markingDetector
  /-- Before the PTY recording is opened, if there is to be one. -/
  | recording
  | creatingPtyReader
  | markingPtyReader
  | creatingStreamReader
  | markingStreamReader
  | closingOnce (won : Bool)
  | finished
  deriving DecidableEq

/-- Where a reader thread stands. -/
inductive StreamThreadPc
  | absent
  /-- Before the test of `closing`. -/
  | testing
  /-- In the body of the loop. -/
  | working
  /-- Has left the loop, before it sets `closing`. -/
  | leaving
  | closingOnce (won : Bool)
  | finished
  deriving DecidableEq

/-- How the body of the loop goes on. -/
inductive LoopResult
  | again
  /-- A write times out: `wait_stream_future` sets `closing` and waits on. -/
  | timesOut
  | breaks
  deriving DecidableEq

/-- Where the cleanup thread stands. -/
inductive CleanupPc
  | absent
  | joiningSetup
  | closingPty
  /-- Before the `kill`. -/
  | signalling
  | joiningPtyReader
  | joiningStreamReader
  /-- Before the `waitpid`. -/
  | reaping
  | closingRecord
  | freeingDetector
  /-- Before the stream and the structure are freed. -/
  | freeing
  | freed
  deriving DecidableEq

/-- A data stream, its threads, and how often its calls were made. -/
structure StreamTeardown where
  sdk : SdkPc
  setup : SetupPc
  ptyReader : StreamThreadPc
  streamReader : StreamThreadPc
  cleanup : CleanupPc
  /-- The listener's list; the stream itself is number 0. -/
  activeStreams : List ℕ
  closing : Bool
  closeStarted : Bool
  /-- The future of the close is not resolved. -/
  closePending : Bool
  setupThreadStarted : Bool
  ptyReaderThreadStarted : Bool
  streamReaderThreadStarted : Bool
  /-- `ptyFd >= 0` -/
  ptyFd : Bool
  /-- `childPid > 0` -/
  childPid : Bool
  promptDetectorInitialized : Bool
  /-- `ptyRecordFile != NULL` -/
  ptyRecordFile : Bool
  /-- `start_stream_close` -/
  closes : ℕ
  /-- `cleanup_active_stream` -/
  cleanups : ℕ
  forks : ℕ
  kills : ℕ
  reaps : ℕ
  detectorInits : ℕ
  detectorFrees : ℕ
  deriving DecidableEq

/-- A step of one of the threads. -/
inductive TeardownAction
  /-- `ok`: whether what the step calls or checks succeeds. -/
  | sdk (ok : Bool)
  | setup (ok : Bool)
  | ptyReader (result : LoopResult)
  | streamReader (result : LoopResult)
  | cleanup
  /-- `tmuxremote_stream_listener_stop` comes to the stream. -/
  | stop
  /-- Another stream comes into the list or goes. -/
  | linkOther (i : ℕ)
  | unlinkOther (i : ℕ)
  deriving DecidableEq

namespace StreamTeardown

/-- `stream_callback` has allocated the stream; other streams are in the list. -/
def init (others : List ℕ) : StreamTeardown :=
  { sdk := .linking, setup := .absent, ptyReader := .absent, streamReader := .absent,
    cleanup := .absent, activeStreams := others.map (· + 1), closing := false,
    closeStarted := false, closePending := false, setupThreadStarted := false,
    ptyReaderThreadStarted := false, streamReaderThreadStarted := false, ptyFd := false,
    childPid := false, promptDetectorInitialized := false, ptyRecordFile := false, closes := 0,
    cleanups := 0, forks := 0, kills := 0, reaps := 0, detectorInits := 0, detectorFrees := 0 }

/-- A step of `start_stream_close_once`, and whether the close is still to be started. -/
def startStreamCloseOnce (s : StreamTeardown) : Bool → StreamTeardown × Bool
  | false => if s.closeStarted then (s, false) else ({ s with closeStarted := true }, true)
  | true => ({ s with closes := s.closes + 1, closePending := true }, false)

/-- `cleanup_active_stream`, up to the unlinking. -/
def cleanupActiveStream (s : StreamTeardown) : StreamTeardown :=
  { s with cleanups := s.cleanups + 1, sdk := .cleaning }

/-- A step of the SDK's thread. -/
def sdkStep (s : StreamTeardown) (ok : Bool) : SdkPc → Option StreamTeardown
  | .linking => some { s with activeStreams := 0 :: s.activeStreams, sdk := .accepting }
  | .accepting => some (if ok then { s with sdk := .checking } else s.cleanupActiveStream)
  | .checking => some { s with sdk := if ok then .creatingSetup else .closingOnce false }
  | .creatingSetup =>
    some (if ok then { s with setup := .testing, sdk := .markingSetup }
      else { s with sdk := .closingOnce false })
  | .markingSetup => some { s with setupThreadStarted := true, sdk := .idle }
  | .closingOnce won =>
    let (s', goOn) := s.startStreamCloseOnce won
    some { s' with sdk := if goOn then .closingOnce true else .idle }
  | .idle =>
    -- `stream_closed`
    if s.closePending then some { s with closePending := false }.cleanupActiveStream else none
  | .cleaning => some { s with closing := true, sdk := .unlinking }
  | .unlinking => some { s with activeStreams := s.activeStreams.erase 0, sdk := .creatingCleanup }
  | .creatingCleanup =>
    some (if ok then { s with cleanup := .joiningSetup, sdk := .ended }
      else { s with kills := s.kills + s.childPid.toNat, sdk := .ended })
  | .ended => none

/-- A step of `stream_setup_thread`. -/
def setupStep (s : StreamTeardown) (ok : Bool) : SetupPc → Option StreamTeardown
  | .absent | .finished => none
  | .testing => some { s with setup := if s.closing then .finished else .forking }
  | .forking =>
    some (if ok then { s with ptyFd := true, forks := s.forks + 1, setup := .storingPid }
      else { s with setup := .closingOnce false })
  | .storingPid => some { s with childPid := true, setup := .initialisingDetector }
  | .initialisingDetector =>
    some { s with detectorInits := s.detectorInits + 1, setup := .markingDetector }
  | .markingDetector =>
    some { s with promptDetectorInitialized := true, setup := .recording }
  | .recording => some { s with ptyRecordFile := ok, setup := .creatingPtyReader }
  | .creatingPtyReader =>
    some (if ok then { s with ptyReader := .testing, setup := .markingPtyReader }
      else { s with kills := s.kills + 1, ptyFd := false, setup := .closingOnce false })
  | .markingPtyReader =>
    some { s with ptyReaderThreadStarted := true, setup := .creatingStreamReader }
  | .creatingStreamReader =>
    some (if ok then { s with streamReader := .testing, setup := .markingStreamReader }
      else { s with closing := true, ptyFd := false, setup := .closingOnce false })
  | .markingStreamReader => some { s with streamReaderThreadStarted := true, setup := .finished }
  | .closingOnce won =>
    let (s', goOn) := s.startStreamCloseOnce won
    some { s' with setup := if goOn then .closingOnce true else .finished }

/-- A step of `pty_reader_thread` or `stream_reader_thread`, and where the thread stands then. -/
def readerStep (s : StreamTeardown) (timeoutEnabled : Bool) (result : LoopResult) :
    StreamThreadPc → Option (StreamTeardown × StreamThreadPc)
  | .absent | .finished => none
  | .testing => some (s, if s.closing then .leaving else .working)
  | .working =>
    match result with
    | .again => some (s, .testing)
    | .timesOut => if timeoutEnabled then some ({ s with closing := true }, .working) else none
    | .breaks => some (s, .leaving)
  | .leaving => some ({ s with closing := true }, .closingOnce false)
  | .closingOnce won =>
    let (s', goOn) := s.startStreamCloseOnce won
    some (s', if goOn then .closingOnce true else .finished)

/-- A step of `cleanup_thread_func`. -/
def cleanupStep (s : StreamTeardown) : CleanupPc → Option StreamTeardown
  | .absent | .freed => none
  | .joiningSetup =>
    if s.setupThreadStarted = true ∧ s.setup ≠ .finished then none
    else some { s with setupThreadStarted := false, cleanup := .closingPty }
  | .closingPty => some { s with ptyFd := false, cleanup := .signalling }
  | .signalling =>
    some { s with kills := s.kills + s.childPid.toNat, cleanup := .joiningPtyReader }
  | .joiningPtyReader =>
    if s.ptyReaderThreadStarted = true ∧ s.ptyReader ≠ .finished then none
    else some { s with ptyReaderThreadStarted := false, cleanup := .joiningStreamReader }
  | .joiningStreamReader =>
    if s.streamReaderThreadStarted = true ∧ s.streamReader ≠ .finished then none
    else some { s with streamReaderThreadStarted := false, cleanup := .reaping }
  | .reaping =>
    some { s with
      reaps := s.reaps + s.childPid.toNat
      childPid := false
      cleanup := .closingRecord }
  | .closingRecord => some { s with ptyRecordFile := false, cleanup := .freeingDetector }
  | .freeingDetector =>
    some { s with
      detectorFrees := s.detectorFrees + s.promptDetectorInitialized.toNat
      promptDetectorInitialized := false
      cleanup := .freeing }
  | .freeing => some { s with cleanup := .freed }

/-- One step; `none` when it is not enabled. -/
def step (s : StreamTeardown) : TeardownAction → Option StreamTeardown
  | .sdk ok => s.sdkStep ok s.sdk
  | .setup ok => s.setupStep ok s.setup
  | .ptyReader result =>
    (s.readerStep true result s.ptyReader).map fun (s', pc) => { s' with ptyReader := pc }
  | .streamReader result =>
    (s.readerStep false result s.streamReader).map fun (s', pc) => { s' with streamReader := pc }
  | .cleanup => s.cleanupStep s.cleanup
  | .stop =>
    if 0 ∈ s.activeStreams then
      some { s with closing := true, kills := s.kills + s.childPid.toNat }
    else none
  | .linkOther i => some { s with activeStreams := (i + 1) :: s.activeStreams }
  | .unlinkOther i => some { s with activeStreams := s.activeStreams.erase (i + 1) }

end StreamTeardown

end TmuxRemote
