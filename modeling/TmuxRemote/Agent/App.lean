import TmuxRemote.Agent.Geometry
import TmuxRemote.Agent.SessionSync
import TmuxRemote.Wire.PromptEvents
import TmuxRemote.Wire.ResolveMessages

/-!
# Agent/App — the agent behind its seven entry points (`struct tmuxremote`)

Five CoAP endpoints, each with a worker that takes the requests one after the other; data streams on
port 1; control streams on port 2, with the monitor that the first of them starts.  They meet in the
session map and in the lists of streams.

Each step is one of a callback or a thread, and comes with what the access check would answer at the
time.  What is done on behalf of a connection is written to a log.

Memory and threads do not run out.  A write that fails marks its stream closing, in a step of its
own.
-/

namespace TmuxRemote

open Cbor hiding map

/-! ## Access -/

/-- The actions that are checked. -/
inductive AccessAction
  | connect
  | listSessions
  | createSession
  | resize
  | status
  deriving DecidableEq

/-- The action as it is passed to the check. -/
def AccessAction.name : AccessAction → String
  | connect => "Terminal:Connect"
  | listSessions => "Terminal:ListSessions"
  | createSession => "Terminal:CreateSession"
  | resize => "Terminal:Resize"
  | status => "Terminal:Status"

/-- `nm_iam_check_access`: what it answers a connection that asks for an action. -/
abbrev Iam := ConnectionRef → String → Bool

/-- The endpoints under `/terminal`. -/
inductive CoapEndpoint
  | attach
  | create
  | resize
  | sessions
  | status
  deriving DecidableEq

/-- The action that the handler checks. -/
def CoapEndpoint.action : CoapEndpoint → AccessAction
  | attach => .connect
  | create => .createSession
  | resize => .resize
  | sessions => .listSessions
  | status => .status

/-- Where a connection comes in. -/
inductive EntryPoint
  | coap (endpoint : CoapEndpoint)
  | dataStream
  | controlStream
  deriving DecidableEq

/-- The action that is checked there. -/
def EntryPoint.action : EntryPoint → AccessAction
  | coap endpoint => endpoint.action
  | dataStream => .connect
  | controlStream => .listSessions

/-! ## The log -/

/-- What the agent does on behalf of a connection. -/
inductive Effect
  | sessionSet (sessionName : CString) (size : WindowSize)
  /-- `tmux has-session`, `tmux list-sessions` -/
  | tmuxQueried
  /-- `tmux new-session` -/
  | tmuxCreated (sessionName : CString) (size : WindowSize) (command : Option CString)
  /-- The payload of a response. -/
  | dataReturned (payload : List UInt8)
  | ptyForked (sessionName : CString) (size : WindowSize)
  | ptyResized (size : WindowSize)
  | ptyWritten (data : List UInt8)
  | streamWritten (data : List UInt8)
  | detectorCreated
  | detectorResized (size : WindowSize)
  | frameSent (frame : List UInt8)
  | resolveForwarded (resolve : PromptResolveMessage)
  deriving DecidableEq

/-- A line of the log. -/
inductive LogEntry
  /-- `tmuxremote_iam_check_access`, `tmuxremote_iam_check_access_ref` -/
  | checked (ref : ConnectionRef) (action : AccessAction) (answer : Bool)
  | answered (endpoint : CoapEndpoint) (ref : ConnectionRef) (code : ℕ)
  | effect (entryPoint : EntryPoint) (ref : ConnectionRef) (effect : Effect)
  /-- The monitor has listed the sessions. -/
  | polled
  deriving DecidableEq

/-! ## The state -/

/-- A stream of a connection. -/
structure StreamId where
  ref : ConnectionRef
  serial : ℕ
  deriving DecidableEq

/-- `tmuxremote_active_stream` -/
structure ActiveStream where
  id : StreamId
  /-- It is in `activeStreams`. -/
  listed : Bool
  closing : Bool
  closeStarted : Bool
  sessionName : CString
  setup : StreamSetup

/-- A stream that `stream_callback` has listed. -/
def ActiveStream.new (id : StreamId) : ActiveStream where
  id := id
  listed := true
  closing := false
  closeStarted := false
  sessionName := .ofString ""
  setup := .opening

/-- `tmuxremote_active_control_stream` -/
structure ActiveControlStream where
  id : StreamId
  /-- It is in `activeStreams`. -/
  listed : Bool
  closing : Bool
  needsPromptSync : Bool
  needsSessionSync : Bool

namespace ActiveControlStream

/-- A stream that `stream_accepted` has listed. -/
def new (id : StreamId) : ActiveControlStream where
  id := id
  listed := true
  closing := false
  needsPromptSync := true
  needsSessionSync := true

def isLive (cs : ActiveControlStream) : Bool := cs.listed && !cs.closing

end ActiveControlStream

/-- How far a handler has got with its request. -/
inductive HandlerStage
  /-- Access has been granted. -/
  | granted (payload : RequestPayload)
  /-- The resize handler has set the window of the PTY, if there is one. -/
  | windowSet (size : TerminalSize)

/-- The request that a worker handles. -/
structure CoapWork where
  ref : ConnectionRef
  stage : HandlerStage

/-- Where the monitor stands in its loop. -/
inductive MonitorStage
  | waiting
  /-- `tmuxremote_tmux_list_sessions` has returned. -/
  | polled (currentList : List TmuxSession)
  | synced
  /-- The prompts of these control streams are still to be looked up. -/
  | copying (pending : List StreamId)
  | sending (active : Option PromptInstance) (stream : StreamId) (pending : List StreamId)

/-- `monitor_thread_func` -/
structure Monitor where
  /-- `prevList`, while `hasPrev`. -/
  prevList : Option (List TmuxSession)
  stage : MonitorStage

/-- `struct tmuxremote` -/
structure App where
  sessionMap : SessionMap
  /-- The request that the worker of each endpoint handles. -/
  workers : CoapEndpoint → Option CoapWork
  streams : List ActiveStream
  /-- The control streams whose accept is pending. -/
  pendingControlStreams : List StreamId
  controlStreams : List ActiveControlStream
  /-- `none` until the monitor has been started. -/
  monitor : Option Monitor
  /-- The log, the last entry first. -/
  log : List LogEntry

/-- The code and the configuration that the agent runs with. -/
structure Platform where
  compile : RegexCompiler
  ids : IdScheme
  ruleset : PromptRuleset
  api : EncoderApi
  parser : MapParser

/-! ## Steps -/

/-- What tmux and the clock say while a request is handled. -/
structure Replies where
  tmux : TmuxReplies
  /-- The output of `tmux list-sessions`. -/
  listing : Option (List UInt8)
  /-- `now - app->startTime` -/
  uptime : UInt64

/-- A step of a data stream that has arrived. -/
inductive StreamAction
  /-- `stream_accepted` -/
  | accepted (ok : Bool)
  /-- `forkpty` in the setup thread. -/
  | fork
  /-- `tmuxremote_prompt_detector_init` in the setup thread. -/
  | initDetector
  /-- A turn of `pty_reader_thread`. -/
  | output (data : List UInt8)
  /-- A turn of `stream_reader_thread`. -/
  | input (data : List UInt8)
  /-- Some thread sets `closing`. -/
  | markClosing
  /-- `start_stream_close_once`, by one of the stream's threads. -/
  | startClose
  /-- `stream_closed` -/
  | closed
  /-- The end of `cleanup_thread_func`. -/
  | free

/-- A step of a control stream that has arrived. -/
inductive ControlStreamAction
  /-- `stream_accepted` -/
  | accepted (ok : Bool)
  /-- A turn of `reader_thread_func`, with the payload of a frame. -/
  | frame (payload : List UInt8)
  /-- Some thread sets `closing`. -/
  | markClosing
  /-- The last `control_stream_release_impl`. -/
  | free

/-- A step of the monitor. -/
inductive MonitorAction
  /-- `tmuxremote_tmux_list_sessions`, with the output of tmux. -/
  | poll (listing : Option (List UInt8))
  /-- The session sync. -/
  | syncSessions
  /-- The monitor collects the streams that want their prompt and clears their flags. -/
  | takePromptFlags
  /-- `tmuxremote_stream_copy_active_prompt_for_ref` -/
  | copyActive
  /-- `send_to_stream` of the encoded copy, if there is one. -/
  | sendPresent
  /-- Closing streams are unlisted, and the monitor waits. -/
  | sweep

/-- A step of the agent. -/
inductive AgentAction
  /-- The worker takes a request from its queue, and the handler checks it for access. -/
  | request (endpoint : CoapEndpoint) (ref : ConnectionRef) (payload : RequestPayload)
  /-- The handler goes on. -/
  | serve (endpoint : CoapEndpoint) (replies : Replies)
  /-- `stream_callback` of the data streams. -/
  | newStream (id : StreamId)
  | stream (id : StreamId) (action : StreamAction)
  /-- `stream_callback` of the control streams. -/
  | newControlStream (id : StreamId)
  | controlStream (id : StreamId) (action : ControlStreamAction)
  | monitor (action : MonitorAction)

/-- The connection whose request or stream takes the step. -/
def AgentAction.ref : AgentAction → Option ConnectionRef
  | request _ ref _ => some ref
  | newStream id | stream id _ | newControlStream id | controlStream id _ => some id.ref
  | serve _ _ | monitor _ => none

namespace StreamSetup

/-- `promptDetectorInitialized` -/
def isReady : StreamSetup → Bool
  | ready _ _ _ => true
  | _ => false

/-- `tmuxremote_prompt_detector_copy_active` -/
def copyActive : StreamSetup → Option PromptInstance
  | ready _ _ detector => detector.copyActive
  | _ => none

/-- `tmuxremote_stream_resize_prompt_detector_for_ref`, once the stream is found. -/
def resizeDetector (size : TerminalSize) : StreamSetup → StreamSetup
  | ready _ pty detector =>
    ready size.toWindowSize pty (detector.resize size.rows.toNat size.cols.toNat)
  | setup => setup

/-- A call of the detector. -/
def detect (compile : RegexCompiler) (ids : IdScheme) (call : DetectorCall) :
    StreamSetup → StreamSetup × List PromptEvent
  | ready session pty detector =>
    match detector.step compile ids call with
    | (detector, events) => (ready session pty detector, events)
  | setup => (setup, [])

end StreamSetup

namespace App

/-- The agent has started. -/
def init : App where
  sessionMap := .init
  workers := fun _ => none
  streams := []
  pendingControlStreams := []
  controlStreams := []
  monitor := none
  log := []

/-- The entries are added to the log, the last first. -/
def record (s : App) (entries : List LogEntry) : App := { s with log := entries ++ s.log }

/-- The effects, the last first, are those of an entry point on behalf of a connection. -/
def act (s : App) (entryPoint : EntryPoint) (ref : ConnectionRef) (effects : List Effect) : App :=
  s.record (effects.map (.effect entryPoint ref))

def setWorker (s : App) (endpoint : CoapEndpoint) (work : Option CoapWork) : App :=
  { s with workers := Function.update s.workers endpoint work }

def setSessionMap (s : App) (sessionMap : SessionMap) : App := { s with sessionMap := sessionMap }

def setStreams (s : App) (streams : List ActiveStream) : App := { s with streams := streams }

def setPending (s : App) (pendingControlStreams : List StreamId) : App :=
  { s with pendingControlStreams := pendingControlStreams }

def setControlStreams (s : App) (controlStreams : List ActiveControlStream) : App :=
  { s with controlStreams := controlStreams }

def setMonitor (s : App) (monitor : Monitor) : App := { s with monitor := some monitor }

/-- A stream is changed where it stands in the list. -/
def setStream (s : App) (stream : ActiveStream) : App :=
  s.setStreams (s.streams.map fun as => if as.id = stream.id then stream else as)

def stream? (s : App) (id : StreamId) : Option ActiveStream := s.streams.find? (·.id = id)

/-- The first listed stream of the connection that is not closing and whose setup is so far. -/
def firstStream (s : App) (ref : ConnectionRef) (fits : StreamSetup → Bool) : Option ActiveStream :=
  s.streams.find? fun as => as.listed && !as.closing && as.id.ref = ref && fits as.setup

/-! ### Frames -/

/-- A snapshot of control streams: the first `MAX_CONTROL_STREAMS` that fit. -/
def snapshot (s : App) (fits : ActiveControlStream → Bool) : List StreamId :=
  ((s.controlStreams.filter fits).take maxControlStreams).map (·.id)

/-- `send_to_stream` for each of the streams; the frame is `none` when it could not be encoded. -/
def send (s : App) (targets : List StreamId) : Option (List UInt8) → App
  | none => s
  | some frame =>
    s.record (targets.reverse.map fun id => .effect .controlStream id.ref (.frameSent frame))

section

variable (platform : Platform)

/-- The frame of an event. -/
def eventFrame : PromptEvent → Option (List UInt8)
  | .present inst => encodePresent platform.api inst
  | .update inst => encodeUpdate platform.api inst
  | .gone instanceId => encodeGone platform.api instanceId

/-- `prompt_stream_callback`, `send_to_ref` -/
def promptStreamCallback (ref : ConnectionRef) (s : App) (event : PromptEvent) : App :=
  s.send (s.snapshot fun cs => cs.isLive && cs.id.ref = ref) (eventFrame platform event)

/-- A call of the stream's detector, with its callbacks. -/
def detect (s : App) (as : ActiveStream) (call : DetectorCall) : App :=
  match as.setup.detect platform.compile platform.ids call with
  | (setup, events) =>
    events.foldl (promptStreamCallback platform as.id.ref) (s.setStream { as with setup := setup })

/-! ### CoAP requests -/

/-- The response is ready, and the worker free. -/
def answer (s : App) (endpoint : CoapEndpoint) (ref : ConnectionRef) (code : ℕ) : App :=
  (s.setWorker endpoint none).record [.answered endpoint ref code]

/-- The check at the head of each handler. -/
def request (iam : Iam) (s : App) (endpoint : CoapEndpoint) (ref : ConnectionRef)
    (payload : RequestPayload) : Option App :=
  if (s.workers endpoint).isSome then none
  else
    let allowed := iam ref endpoint.action.name
    let s := s.record [.checked ref endpoint.action allowed]
    if allowed then some (s.setWorker endpoint (some { ref := ref, stage := .granted payload }))
    else some (s.record [.answered endpoint ref RequestError.accessDenied.code])

/-- What tmux is asked for an attach.  It is asked whether the session is there once a request has
passed all that is checked before. -/
def attachCalls (request : CoapRequest) (tmux : TmuxReplies) : List Effect :=
  match attachFields request { tmux with sessionExists := true } with
  | .error _ => []
  | .ok fields =>
    if !tmux.sessionExists && fields.createIfMissing then
      [.tmuxCreated fields.sessionName fields.size none, .tmuxQueried]
    else [.tmuxQueried]

/-- `tmuxremote_coap_attach.c` -/
def serveAttach (s : App) (ref : ConnectionRef) (request : CoapRequest) (tmux : TmuxReplies) :
    App :=
  let s := s.act (.coap .attach) ref (attachCalls request tmux)
  match attachFields request tmux, handleAttach s.sessionMap ref request tmux with
  | .ok fields, (.attached, sessionMap) =>
    ((s.setSessionMap sessionMap).act (.coap .attach) ref
      [.sessionSet fields.sessionName fields.size]).answer .attach ref 201
  | _, (response, _) => s.answer .attach ref response.code

/-- `tmuxremote_coap_create.c` -/
def serveCreate (s : App) (ref : ConnectionRef) (request : CoapRequest) (tmux : TmuxReplies) :
    App :=
  match createFields request with
  | .error error => s.answer .create ref error.code
  | .ok fields =>
    let size : WindowSize := { cols := fields.cols.toUInt16, rows := fields.rows.toUInt16 }
    let command := if fields.command.isEmpty then none else some fields.command
    let s := s.act (.coap .create) ref [.tmuxCreated fields.sessionName size command]
    s.answer .create ref (if tmux.created then 201 else RequestError.createFailed.code)

/-- `tmuxremote_coap_resize.c`, up to the update of the session map. -/
def serveResize (s : App) (ref : ConnectionRef) (request : CoapRequest) : App :=
  match resizeSize request with
  | .error error => s.answer .resize ref error.code
  | .ok size =>
    let work : CoapWork := { ref := ref, stage := .windowSet size }
    match s.firstStream ref StreamSetup.hasPty with
    | none => s.setWorker .resize (some work)
    | some as =>
      let sessionMap := (s.sessionMap.updateSize ref size.cols size.rows).getD s.sessionMap
      (((s.setStream { as with setup := as.setup.setPty size.toWindowSize }).setSessionMap
        sessionMap).act (.coap .resize) ref [.ptyResized size.toWindowSize]).setWorker .resize
          (some work)

/-- The rest of `tmuxremote_coap_resize.c`. -/
def finishResize (s : App) (ref : ConnectionRef) (size : TerminalSize) : App :=
  match s.firstStream ref StreamSetup.isReady with
  | none => s.answer .resize ref 204
  | some as =>
    ((s.setStream { as with setup := as.setup.resizeDetector size }).act (.coap .resize) ref
      [.detectorResized size.toWindowSize]).answer .resize ref 204

/-- The response of the handlers that list the sessions; the payload is `none` when it could not be
encoded. -/
def respond (s : App) (endpoint : CoapEndpoint) (ref : ConnectionRef) :
    Option (List UInt8) → App
  | none => (s.act (.coap endpoint) ref [.tmuxQueried]).answer endpoint ref 500
  | some payload =>
    (s.act (.coap endpoint) ref [.dataReturned payload, .tmuxQueried]).answer endpoint ref 205

/-- `TMUXREMOTE_VERSION` -/
def tmuxremoteVersion : String := "0.1.0"

/-- The payload of `/terminal/status`. -/
def statusResponse (list : List TmuxSession) (uptime : UInt64) : Option (List UInt8) :=
  let api := platform.api
  let encoder := api.init 256
  let map := api.createMap encoder 3
  let map := api.encodeText map (utf8 "version")
  let map := api.encodeText map (utf8 tmuxremoteVersion)
  let map := api.encodeText map (utf8 "active_sessions")
  let map := api.encodeUint map (UInt64.ofNat list.length)
  let map := api.encodeText map (utf8 "uptime_seconds")
  let map := api.encodeUint map uptime
  let (encoder, ok) := api.closeContainer encoder map
  if !ok ∨ api.extraBytesNeeded encoder > 0 then none else some (api.buffer encoder)

/-- The handler goes on; only that of resizes has two stages. -/
def serve (s : App) (replies : Replies) : CoapEndpoint → CoapWork → Option App
  | .attach, ⟨ref, .granted payload⟩ =>
    some (s.serveAttach ref { allowed := true, payload := payload } replies.tmux)
  | .create, ⟨ref, .granted payload⟩ =>
    some (s.serveCreate ref { allowed := true, payload := payload } replies.tmux)
  | .resize, ⟨ref, .granted payload⟩ =>
    some (s.serveResize ref { allowed := true, payload := payload })
  | .resize, ⟨ref, .windowSet size⟩ => some (s.finishResize ref size)
  | .sessions, ⟨ref, .granted _⟩ =>
    some (s.respond .sessions ref
      (sessionsResponse platform.api (tmuxListSessions replies.listing)))
  | .status, ⟨ref, .granted _⟩ =>
    some (s.respond .status ref
      (statusResponse platform (tmuxListSessions replies.listing) replies.uptime))
  | _, ⟨_, .windowSet _⟩ => none

/-! ### Data streams -/

/-- `cleanup_active_stream` -/
def cleanupActiveStream (s : App) (as : ActiveStream) : App :=
  (s.setStream { as with closing := true, listed := false }).setSessionMap
    (s.sessionMap.remove as.id.ref)

/-- `stream_accepted`, once the stream is open. -/
def streamAccepted (iam : Iam) (s : App) (as : ActiveStream) : App :=
  let allowed := iam as.id.ref AccessAction.connect.name
  let s := s.record [.checked as.id.ref .connect allowed]
  match allowed, s.sessionMap.get as.id.ref with
  | true, some entry =>
    s.setStream { as with
      sessionName := entry.sessionName.truncate (sessionNameMax - 1)
      setup := .accepted { cols := entry.cols, rows := entry.rows } }
  | _, _ => s.setStream { as with closeStarted := true }

/-- A step of a data stream. -/
def streamStep (iam : Iam) (s : App) (as : ActiveStream) : StreamAction → Option App
  | .accepted ok =>
    if as.setup.isOpening && as.listed && !as.closeStarted then
      some (if ok then s.streamAccepted iam as else s.cleanupActiveStream as)
    else none
  | .fork =>
    match as.setup with
    | .accepted session =>
      if as.closing || as.closeStarted then none
      else
        some ((s.setStream { as with setup := .forked session session }).act .dataStream as.id.ref
          [.ptyForked as.sessionName session])
    | _ => none
  | .initDetector =>
    match as.setup with
    | .forked session pty =>
      let setup := .ready session pty (StreamGeometry.setupDetector platform.ruleset session)
      some ((s.setStream { as with setup := setup }).act .dataStream as.id.ref [.detectorCreated])
    | _ => none
  | .output data =>
    if as.setup.isReady then
      some ((s.detect platform as (.feed data)).act .dataStream as.id.ref [.streamWritten data])
    else none
  | .input data =>
    if as.setup.isReady then some (s.act .dataStream as.id.ref [.ptyWritten data]) else none
  | .markClosing => some (s.setStream { as with closing := true })
  | .startClose =>
    if as.setup.isOpening || as.closeStarted then none
    else some (s.setStream { as with closeStarted := true })
  | .closed => if as.closeStarted && as.listed then some (s.cleanupActiveStream as) else none
  | .free =>
    if as.listed then none else some (s.setStreams (s.streams.filter (·.id ≠ as.id)))

/-- `stream_callback` -/
def streamCallback (s : App) (id : StreamId) : Option App :=
  if (s.stream? id).isSome then none else some (s.setStreams (.new id :: s.streams))

/-! ### Control streams -/

/-- The control stream is changed where it stands in the list. -/
def modifyControlStream (s : App) (id : StreamId) (f : ActiveControlStream → ActiveControlStream) :
    App :=
  s.setControlStreams (s.controlStreams.map fun cs => if cs.id = id then f cs else cs)

/-- `tmuxremote_stream_resolve_prompt_for_ref` -/
def resolvePromptForRef (s : App) (ref : ConnectionRef) (resolve : PromptResolveMessage) : App :=
  match s.firstStream ref StreamSetup.isReady, resolve.instanceId with
  | some as, some instanceId => s.detect platform as (.resolve instanceId)
  | _, _ => s

/-- A turn of `reader_thread_func`; it ends with the first frame that is too long, or empty. -/
def readFrame (s : App) (cs : ActiveControlStream) (payload : List UInt8) : App :=
  if AgentReader.accepts payload.length then
    match decodeResolve platform.parser (wrapFramedPayload payload) with
    | (true, resolve) =>
      resolvePromptForRef platform (s.act .controlStream cs.id.ref [.resolveForwarded resolve])
        cs.id.ref resolve
    | (false, _) => s
  else s.modifyControlStream cs.id fun cs => { cs with closing := true }

/-- `stream_accepted`, once the stream is open; `ensure_monitor_started`. -/
def controlStreamAccepted (iam : Iam) (s : App) (id : StreamId) : App :=
  let allowed := iam id.ref AccessAction.listSessions.name
  let s := s.record [.checked id.ref .listSessions allowed]
  if allowed then
    (s.setControlStreams (.new id :: s.controlStreams)).setMonitor
      (s.monitor.getD { prevList := none, stage := .waiting })
  else s

def controlStream? (s : App) (id : StreamId) : Option ActiveControlStream :=
  s.controlStreams.find? (·.id = id)

/-- `stream_callback` -/
def controlStreamCallback (s : App) (id : StreamId) : Option App :=
  if id ∈ s.pendingControlStreams ∨ (s.controlStream? id).isSome then none
  else some (s.setPending (id :: s.pendingControlStreams))

/-- A step of a control stream. -/
def controlStreamStep (iam : Iam) (s : App) (id : StreamId) : ControlStreamAction → Option App
  | .accepted ok =>
    if id ∈ s.pendingControlStreams then
      let s := s.setPending (s.pendingControlStreams.filter (· ≠ id))
      some (if ok then s.controlStreamAccepted iam id else s)
    else none
  | .frame payload => (s.controlStream? id).map fun cs => s.readFrame platform cs payload
  | .markClosing => some (s.modifyControlStream id fun cs => { cs with closing := true })
  | .free =>
    (s.controlStream? id).bind fun cs =>
      if cs.listed then none
      else some (s.setControlStreams (s.controlStreams.filter (·.id ≠ id)))

/-! ### The monitor -/

/-- A walk that takes a flag of the first `MAX_CONTROL_STREAMS` streams that fit. -/
def takeFlags (s : App) (fits : ActiveControlStream → Bool)
    (take : ActiveControlStream → ActiveControlStream) : App :=
  s.setControlStreams (cappedWalk maxControlStreams fits take s.controlStreams)

/-- The session sync of `monitor_thread_func`. -/
def syncSessions (s : App) (prevList : Option (List TmuxSession)) (currentList : List TmuxSession) :
    App :=
  let changed := !prevList.any (tmuxListsEqual · currentList)
  let needsSync := fun cs : ActiveControlStream => cs.needsSessionSync && cs.isLive
  let targets := s.snapshot (if changed then ActiveControlStream.isLive else needsSync)
  let s := s.takeFlags needsSync fun cs => { cs with needsSessionSync := false }
  (s.send targets (encodeSessionSnapshot platform.api currentList)).setMonitor
    { prevList := if changed then some currentList else prevList, stage := .synced }

/-- The monitor takes the flags of the streams that want their prompt. -/
def takePromptFlags (s : App) (m : Monitor) : App :=
  let needsSync := fun cs : ActiveControlStream => cs.needsPromptSync && cs.isLive
  let pending := s.snapshot needsSync
  (s.takeFlags needsSync fun cs => { cs with needsPromptSync := false }).setMonitor
    { m with stage := .copying pending }

/-- The monitor unlists what is closing. -/
def sweep (s : App) (m : Monitor) : App :=
  let controlStreams := s.controlStreams.map fun cs =>
    if cs.closing then { cs with listed := false } else cs
  (s.setControlStreams controlStreams).setMonitor
    { prevList := if controlStreams.any (·.listed) then m.prevList else none, stage := .waiting }

/-- A step of the monitor. -/
def monitorStep (s : App) (m : Monitor) : MonitorAction → Option App
  | .poll listing =>
    match m.stage with
    | .waiting =>
      some ((s.record [.polled]).setMonitor { m with stage := .polled (tmuxListSessions listing) })
    | _ => none
  | .syncSessions =>
    match m.stage with
    | .polled currentList => some (s.syncSessions platform m.prevList currentList)
    | _ => none
  | .takePromptFlags =>
    match m.stage with
    | .synced => some (s.takePromptFlags m)
    | _ => none
  | .copyActive =>
    match m.stage with
    | .copying (id :: pending) =>
      let active := (s.firstStream id.ref StreamSetup.isReady).bind (·.setup.copyActive)
      some (s.setMonitor { m with stage := .sending active id pending })
    | _ => none
  | .sendPresent =>
    match m.stage with
    | .sending active id pending =>
      let targets := s.snapshot fun cs => cs.id = id && !cs.closing
      some ((s.send targets (active.bind (encodePresent platform.api))).setMonitor
        { m with stage := .copying pending })
    | _ => none
  | .sweep =>
    match m.stage with
    | .copying [] => some (s.sweep m)
    | _ => none

/-- One step, and what the access check would answer in it; `none` when it cannot be taken. -/
def step (s : App) : Iam × AgentAction → Option App
  | (iam, .request endpoint ref payload) => s.request iam endpoint ref payload
  | (_, .serve endpoint replies) => (s.workers endpoint).bind (s.serve platform replies endpoint)
  | (_, .newStream id) => s.streamCallback id
  | (_, .newControlStream id) => s.controlStreamCallback id
  | (iam, .stream id action) => (s.stream? id).bind fun as => s.streamStep platform iam as action
  | (iam, .controlStream id action) => s.controlStreamStep platform iam id action
  | (_, .monitor action) => s.monitor.bind fun m => s.monitorStep platform m action

end

end App

end TmuxRemote
