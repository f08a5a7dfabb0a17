import TmuxRemote.Library.LockOrder

/-!
# Agent/Locks — what the agent's threads lock, and what they wait for

The agent has a mutex for the list of data streams, one for each detector, one for the list of
control streams, one for the writes to each of them, and some that are taken alone.  A function is
here what it locks, creates, joins and awaits, in the order in which it does so; the arguments say
what it finds on its way.

A future is resolved by the thread of the SDK that runs the callbacks as well, between two of them.
So a thread that waits for one (`nabto_device_future_wait`) waits as long as that thread is in a
callback, and `nabto_device_stop` waits for its end.  A wait for a condition may end at any time, as
may one for a peer, a child process or a terminal.
-/

namespace TmuxRemote

open LockOrder

/-! ## The mutexes and the threads -/

inductive AgentMutex
  /-- `tmuxremote_session_map.mutex` -/
  | sessionMap
  /-- `activeStreamsMutex` -/
  | activeStreams
  /-- `tmuxremote_prompt_detector.mutex`, of a data stream -/
  | detector (i : ℕ)
  /-- `streamListMutex` -/
  | streamList
  /-- `writeMutex`, of a control stream -/
  | write (c : ℕ)
  /-- `notifyMutex` -/
  | notify
  /-- `queueMutex`, of a CoAP handler -/
  | queue (h : ℕ)
  /-- `saveMutex` -/
  | save
  deriving DecidableEq

inductive AgentThread
  | main
  /-- The thread that the SDK calls back on, and resolves its futures on. -/
  | sdk
  | setup (i : ℕ)
  | ptyReader (i : ℕ)
  | streamReader (i : ℕ)
  | cleanup (i : ℕ)
  | monitor
  /-- `reader_thread_func`, of a control stream -/
  | reader (c : ℕ)
  /-- `coap_worker_thread` -/
  | worker (h : ℕ)
  /-- `save_iam_state_worker` -/
  | saver
  deriving DecidableEq

abbrev AgentOp := Op AgentMutex AgentThread

namespace AgentLocks

/-- Waits for futures, of those that are not resolved when the thread comes to them. -/
def futureWaits (n : ℕ) : List AgentOp := (List.range n).flatMap fun _ => [.await .sdk]

/-! ## Control streams -/

/-- A control stream to which something is sent, with a reference to it. -/
structure Target where
  stream : ℕ
  /-- There is something to send, and it is not closing when it is looked at. -/
  isOpen : Bool
  /-- The write is not done at once. -/
  waits : Bool
  /-- `readerThreadStarted` -/
  hasReader : Bool
  /-- The reference is the last one when it is given back. -/
  isLast : Bool
  deriving DecidableEq

/-- `control_stream_release_impl` -/
def releaseImpl (t : Target) : List AgentOp :=
  if t.isLast && t.hasReader then [.join (.reader t.stream)] else []

/-- `send_to_stream` -/
def sendToStream (t : Target) : List AgentOp :=
  if t.isOpen then locked (.write t.stream) (futureWaits t.waits.toNat) else []

/-- `send_to_ref` -/
def sendToRef (targets : List Target) : List AgentOp :=
  locked .streamList [] ++ targets.flatMap fun t => sendToStream t ++ releaseImpl t

/-- `tmuxremote_control_stream_notify` -/
def notify : List AgentOp := locked .notify []

/-! ## Detectors -/

/-- `tmuxremote_prompt_detector_feed` and `tmuxremote_prompt_detector_resolve`: the events that are
sent, each with those it is sent to. -/
def detectorReports (i : ℕ) (events : List (List Target)) : List AgentOp :=
  locked (.detector i) (events.flatMap sendToRef)

/-- The other functions of a detector report nothing. -/
def detectorCall (i : ℕ) : List AgentOp := locked (.detector i) []

/-! ## Data streams -/

/-- `tmuxremote_stream_copy_active_prompt_for_ref` and
`tmuxremote_stream_resize_prompt_detector_for_ref`, of the stream that is found. -/
def callForRef (found : Option ℕ) : List AgentOp :=
  locked .activeStreams (found.elim [] detectorCall)

/-- `tmuxremote_stream_resolve_prompt_for_ref` -/
def resolvePromptForRef (found : Option (ℕ × List (List Target))) : List AgentOp :=
  locked .activeStreams (found.elim [] fun (i, events) => detectorReports i events)

/-- `tmuxremote_stream_get_pty_fd` -/
def getPtyFd : List AgentOp := locked .activeStreams []

/-- `cleanup_active_stream`; whether the thread is created. -/
def cleanupActiveStream (i : ℕ) (created : Bool) : List AgentOp :=
  locked .sessionMap [] ++ locked .activeStreams []
    ++ if created then [.create (.cleanup i)] else []

/-- `start_stream_close_once`: nothing, unless there is no future to wait for the close with. -/
def startStreamCloseOnce (i : ℕ) (cleaned : Option Bool) : List AgentOp :=
  cleaned.elim [] (cleanupActiveStream i)

/-- How far `stream_setup_thread` comes. -/
inductive SetupEnd
  | closing
  | noPty
  | noPtyReader
  | noStreamReader
  | done
  deriving DecidableEq

/-- What it does with the detector. -/
def setUpDetector (i : ℕ) (configured : Bool) : List AgentOp :=
  (if configured then detectorCall i else []) ++ detectorCall i

/-- `stream_setup_thread` -/
def streamSetupThread (i : ℕ) (configured : Bool) (cleaned : Option Bool) : SetupEnd → List AgentOp
  | .closing => []
  | .noPty => startStreamCloseOnce i cleaned
  | .noPtyReader => setUpDetector i configured ++ startStreamCloseOnce i cleaned
  | .noStreamReader =>
    setUpDetector i configured ++ [.create (.ptyReader i)] ++ startStreamCloseOnce i cleaned
  | .done =>
    setUpDetector i configured ++ [.create (.ptyReader i)] ++ [.create (.streamReader i)]

/-- A turn of the loop of `pty_reader_thread`. -/
structure PtyRead where
  /-- The events of the feed, if the detector is initialized. -/
  events : Option (List (List Target))
  /-- The write is not done at once. -/
  waits : Bool

/-- `pty_reader_thread` -/
def ptyReaderThread (i : ℕ) (reads : List PtyRead) (cleaned : Option Bool) : List AgentOp :=
  (reads.flatMap fun read =>
      read.events.elim [] (detectorReports i) ++ futureWaits read.waits.toNat)
    ++ notify ++ startStreamCloseOnce i cleaned

/-- `stream_reader_thread` -/
def streamReaderThread (i waits : ℕ) (cleaned : Option Bool) : List AgentOp :=
  futureWaits waits ++ startStreamCloseOnce i cleaned

/-- The joins of a data stream's threads. -/
def joinThreads (i : ℕ) : List AgentOp :=
  [.join (.setup i)] ++ [.join (.ptyReader i)] ++ [.join (.streamReader i)]

/-- What is left to do of a data stream, in `cleanup_thread_func` and in
`tmuxremote_stream_listener_deinit`. -/
def endStream (i : ℕ) (initialized : Bool) : List AgentOp :=
  joinThreads i ++ if initialized then detectorCall i else []

/-! ## The readers of control streams -/

/-- A turn of the loop of `reader_thread_func`. -/
structure ResolveRead where
  /-- The reads of `read_exactly` that are not done at once. -/
  waits : ℕ
  /-- The prompt that is resolved, if there is a message and a data stream. -/
  resolve : Option (Option (ℕ × List (List Target)))

/-- `reader_thread_func` -/
def readerThreadFunc (reads : List ResolveRead) : List AgentOp :=
  reads.flatMap fun read => futureWaits read.waits ++ read.resolve.elim [] resolvePromptForRef

/-! ## The monitor -/

/-- One turn of the loop of `monitor_thread_func`. -/
structure MonitorTurn where
  /-- The streams that are brought up to date with the sessions. -/
  sessionSync : List Target
  /-- `broadcast_to_all`, if the sessions have changed and can be encoded. -/
  broadcast : Option (List Target)
  /-- The streams that are brought up to date with the prompt, and the data stream that is found. -/
  promptSync : List (Target × Option ℕ)
  /-- The streams that are unlinked. -/
  reaped : List Target

/-- `pthread_cond_wait`, or `pthread_cond_timedwait` -/
def condWait (m : AgentMutex) : List AgentOp := [.release m, .acquire m]

/-- One turn of the loop of `monitor_thread_func` -/
def monitorTurn (turn : MonitorTurn) : List AgentOp :=
  locked .streamList []
    ++ turn.broadcast.elim (turn.sessionSync.flatMap sendToStream)
      (fun targets => locked .streamList [] ++ targets.flatMap sendToStream)
    ++ turn.sessionSync.flatMap releaseImpl
    ++ locked .streamList []
    ++ turn.promptSync.flatMap
      (fun (t, found) => callForRef found ++ sendToStream t ++ releaseImpl t)
    ++ locked .streamList (turn.reaped.flatMap releaseImpl)
    ++ locked .notify (condWait .notify)

/-! ## The SDK's thread -/

/-- A callback. -/
inductive SdkCallback
  /-- `stream_callback`; where there is no future to accept with, the stream is cleaned up. -/
  | streamCallback (i : ℕ) (cleaned : Option Bool)
  /-- `stream_accepted`, not accepted -/
  | streamRefused (i : ℕ) (created : Bool)
  /-- `stream_accepted`, without the right to connect -/
  | streamDenied (i : ℕ) (cleaned : Option Bool)
  /-- `stream_accepted`, without a session, or without a thread -/
  | streamUnset (i : ℕ) (cleaned : Option Bool)
  /-- `stream_accepted` -/
  | streamAccepted (i : ℕ)
  /-- `stream_closed` -/
  | streamClosed (i : ℕ) (created : Bool)
  /-- `stream_accepted` of a control stream, refused or denied -/
  | controlStreamRefused (t : Target)
  /-- `stream_accepted` of a control stream; which of the threads are created -/
  | controlStreamAccepted (c : ℕ) (reader monitor : Bool)
  /-- `request_callback`, with what it does in between -/
  | coapRequest (h : ℕ) (turns : ℕ)
  /-- `tmuxremote_iam_state_changed`; whether the state is left to the worker -/
  | iamStateChanged (queued : Bool)
  /-- `stream_callback` of a control stream, `device_event_callback` and `device_close_callback` -/
  | quiet

def SdkCallback.ops : SdkCallback → List AgentOp
  | streamCallback i cleaned => locked .activeStreams [] ++ startStreamCloseOnce i cleaned
  | streamRefused i created | streamClosed i created => cleanupActiveStream i created
  | streamDenied i cleaned => startStreamCloseOnce i cleaned
  | streamUnset i cleaned => locked .sessionMap [] ++ startStreamCloseOnce i cleaned
  | streamAccepted i => locked .sessionMap [] ++ [.create (.setup i)]
  -- it has no reader yet
  | controlStreamRefused t => releaseImpl { t with hasReader := false }
  | controlStreamAccepted c reader monitor =>
    (if reader then [.create (.reader c)] else []) ++ locked .streamList []
      ++ locked .streamList (if monitor then [.create .monitor] else []) ++ notify
  | coapRequest h turns => (List.range turns).flatMap fun _ => locked (.queue h) []
  | iamStateChanged queued => if queued then locked .save [] else []
  | quiet => []

/-- One callback after the other; futures are resolved in between. -/
def sdkThread (callbacks : List SdkCallback) : List AgentOp :=
  callbacks.flatMap fun callback => .pause :: callback.ops

/-! ## The workers -/

/-- What a request handler does. -/
inductive CoapWork
  /-- `handle_request` of `tmuxremote_coap_attach.c`; whether it comes to the end -/
  | attach (done : Bool)
  /-- That of `tmuxremote_coap_create.c`, where it comes to the end -/
  | create
  /-- That of `tmuxremote_coap_resize.c`; whether there is a PTY, and which detector is found -/
  | resize (sized : Bool) (found : Option ℕ)
  /-- That of the other two files, and all that stop early -/
  | answer

def CoapWork.ops : CoapWork → List AgentOp
  | attach done => locked .sessionMap [] ++ if done then notify else []
  | create => notify
  | resize sized found =>
    getPtyFd ++ (if sized then locked .sessionMap [] else []) ++ callForRef found
  | answer => []

/-- A mutex is taken, and given up in waits for a condition. -/
def lockedWaiting (m : AgentMutex) (waits : ℕ) : List AgentOp :=
  locked m ((List.range waits).flatMap fun _ => condWait m)

/-- `coap_worker_thread`: the requests, with the waits before each, and those before the end -/
def workerThread (h : ℕ) (requests : List (ℕ × CoapWork)) (waits : ℕ) : List AgentOp :=
  (requests.flatMap fun (waits, work) => lockedWaiting (.queue h) waits ++ work.ops)
    ++ lockedWaiting (.queue h) waits

/-- `save_iam_state_worker` -/
def saverThread (waits : List ℕ) : List AgentOp := waits.flatMap (lockedWaiting .save)

/-! ## The main thread -/

/-- `tmuxremote_coap_handler_deinit` -/
def coapHandlerDeinit (h waits : ℕ) : List AgentOp :=
  locked (.queue h) [] ++ lockedWaiting (.queue h) waits ++ [.join (.worker h)]
    ++ locked (.queue h) []

/-- `tmuxremote_control_stream_listener_stop` -/
def controlStreamListenerStop : List AgentOp := locked .notify [] ++ locked .streamList []

/-- `tmuxremote_stream_listener_deinit`, of the streams that are left -/
def streamListenerDeinit (streams : List (ℕ × Bool)) : List AgentOp :=
  locked .activeStreams [] ++ streams.flatMap fun (i, initialized) => endStream i initialized

/-- `tmuxremote_control_stream_listener_deinit` -/
def controlStreamListenerDeinit (streams : List Target) : List AgentOp :=
  locked .streamList [] ++ streams.flatMap releaseImpl

/-- `run_agent`, where the device is started, to its end: the handlers with the waits at their end,
the streams that are left, and whether the start is waited for. -/
def mainThread (waits : Bool) (handlers : List (ℕ × ℕ)) (dataStreams : List (ℕ × Bool))
    (controlStreams : List Target) : List AgentOp :=
  [.create .saver] ++ futureWaits waits.toNat
    ++ handlers.flatMap (fun (h, _) => [.create (.worker h)])
    ++ handlers.flatMap (fun (h, _) => locked (.queue h) [])
    ++ locked .activeStreams [] ++ controlStreamListenerStop
    -- `nabto_device_stop`
    ++ [.join .sdk]
    ++ handlers.flatMap (fun (h, waits) => coapHandlerDeinit h waits)
    ++ [.join .monitor] ++ streamListenerDeinit dataStreams
    ++ controlStreamListenerDeinit controlStreams
    ++ locked .save [] ++ [.join .saver]

/-- What a thread may do. -/
inductive IsProgram : AgentThread → List AgentOp → Prop
  | main (waits : Bool) (handlers : List (ℕ × ℕ)) (dataStreams : List (ℕ × Bool))
      (controlStreams : List Target) :
    IsProgram .main (mainThread waits handlers dataStreams controlStreams)
  | sdk (callbacks : List SdkCallback) : IsProgram .sdk (sdkThread callbacks)
  | setup (i : ℕ) (configured : Bool) (cleaned : Option Bool) (ending : SetupEnd) :
    IsProgram (.setup i) (streamSetupThread i configured cleaned ending)
  | ptyReader (i : ℕ) (reads : List PtyRead) (cleaned : Option Bool) :
    IsProgram (.ptyReader i) (ptyReaderThread i reads cleaned)
  | streamReader (i waits : ℕ) (cleaned : Option Bool) :
    IsProgram (.streamReader i) (streamReaderThread i waits cleaned)
  | cleanup (i : ℕ) (initialized : Bool) : IsProgram (.cleanup i) (endStream i initialized)
  | monitor (turns : List MonitorTurn) : IsProgram .monitor (turns.flatMap monitorTurn)
  | reader (c : ℕ) (reads : List ResolveRead) : IsProgram (.reader c) (readerThreadFunc reads)
  | worker (h : ℕ) (requests : List (ℕ × CoapWork)) (waits : ℕ) :
    IsProgram (.worker h) (workerThread h requests waits)
  | saver (waits : List ℕ) : IsProgram .saver (saverThread waits)

/-- The threads that are there at the start. -/
def atStart : AgentThread → Bool
  | .main | .sdk => true
  | _ => false

end AgentLocks

end TmuxRemote
