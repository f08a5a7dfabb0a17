import Mathlib.Data.List.Find
import TmuxRemote.Agent.Authorization

/-!
# Agent/Noninterference — connections that are never granted anything

Of such a connection the agent holds no more than streams that have not been accepted (`Unheld`),
and these no step of another connection looks at.  So the requests and streams of these connections
can be left out of a run (`Guarded.run_filter`).  What remains is a run, to the same map, the same
monitor, the same control streams, and the same data streams of the others, with their detectors
(`no_effect_without_authorization`).
-/

namespace TmuxRemote

open Cbor hiding map

/-- The connection that an entry is about. -/
def LogEntry.ref : LogEntry → Option ConnectionRef
  | checked ref _ _ | answered _ ref _ | effect _ ref _ => some ref
  | polled => none

namespace App

/-- The agent as it is but for these connections' streams that have not been accepted, and for what
the log says of them. -/
def without (denied : ConnectionRef → Bool) (s : App) : App :=
  { s with
    streams := s.streams.filter fun as => !denied as.id.ref
    pendingControlStreams := s.pendingControlStreams.filter fun id => !denied id.ref
    log := s.log.filter fun entry => !entry.ref.any denied }

/-- Nothing is held of these connections but streams that have not been accepted. -/
structure Unheld (denied : ConnectionRef → Bool) (s : App) : Prop where
  sessionMap : ∀ ref ∈ s.sessionMap.keys, denied ref = false
  workers : ∀ endpoint work, s.workers endpoint = some work → denied work.ref = false
  streams : ∀ as ∈ s.streams, denied as.id.ref = true → as.setup = .opening
  controlStreams : ∀ cs ∈ s.controlStreams, denied cs.id.ref = false

variable {answers : Answers} {platform : Platform} {denied : ConnectionRef → Bool}
  {s s' : App} {ref : ConnectionRef}

/-- What is never granted anything is not held. -/
theorem Granted.unheld (h : s.Granted answers)
    (hdenied : ∀ ref action, denied ref = true → ¬ answers ref action true) : s.Unheld denied := by
  have hgrants {ref : ConnectionRef} {action : AccessAction} (hg : Grants s.log ref action) :
      denied ref = false :=
    (Bool.not_eq_true _).mp fun href => hdenied ref action href (h.log.answers_of_grants hg)
  refine ⟨fun ref href => hgrants (h.sessionMap ref href),
    fun endpoint work hwork => hgrants (h.workers endpoint work hwork), fun as has href => ?_,
    fun cs hcs => hgrants (h.controlStreams cs hcs)⟩
  cases hsetup : as.setup with
  | opening => rfl
  | _ =>
    have hopen : as.setup.isOpening = false := by rw [hsetup]; rfl
    exact absurd (hgrants (h.streams as has hopen)) (by simp [href])

/-- The log may say what it likes. -/
theorem Unheld.record (h : s.Unheld denied) {entries : List LogEntry} :
    (s.record entries).Unheld denied where
  __ := h

theorem Unheld.act (h : s.Unheld denied) {entryPoint : EntryPoint} {effects : List Effect} :
    (s.act entryPoint ref effects).Unheld denied := h.record

/-! ## Changes of what can be seen -/

@[simp] theorem sessionMap_without : (s.without denied).sessionMap = s.sessionMap := rfl

@[simp] theorem workers_without : (s.without denied).workers = s.workers := rfl

@[simp] theorem controlStreams_without : (s.without denied).controlStreams = s.controlStreams := rfl

@[simp] theorem monitor_without : (s.without denied).monitor = s.monitor := rfl

@[simp] theorem without_setWorker {endpoint : CoapEndpoint} {work : Option CoapWork} :
    (s.setWorker endpoint work).without denied = (s.without denied).setWorker endpoint work := rfl

@[simp] theorem without_setSessionMap {sessionMap : SessionMap} :
    (s.setSessionMap sessionMap).without denied = (s.without denied).setSessionMap sessionMap := rfl

@[simp] theorem without_setControlStreams {controlStreams : List ActiveControlStream} :
    (s.setControlStreams controlStreams).without denied
      = (s.without denied).setControlStreams controlStreams := rfl

@[simp] theorem without_setMonitor {monitor : Monitor} :
    (s.setMonitor monitor).without denied = (s.without denied).setMonitor monitor := rfl

@[simp] theorem without_setStreams {streams : List ActiveStream} :
    (s.setStreams streams).without denied
      = (s.without denied).setStreams (streams.filter fun as => !denied as.id.ref) := rfl

@[simp] theorem without_setPending {pending : List StreamId} :
    (s.setPending pending).without denied
      = (s.without denied).setPending (pending.filter fun id => !denied id.ref) := rfl

@[simp] theorem snapshot_without {fits : ActiveControlStream → Bool} :
    (s.without denied).snapshot fits = s.snapshot fits := rfl

/-- A change of one stream shows on the others' side exactly if the stream does: streams keep their
ids. -/
@[simp] theorem without_setStream {stream : ActiveStream} :
    (s.setStream stream).without denied = (s.without denied).setStream stream := by
  have hkept : ∀ as ∈ s.streams,
      ((fun as => !denied as.id.ref) ∘ fun as => if as.id = stream.id then stream else as) as
        = !denied as.id.ref := by
    intro as _
    rw [Function.comp_apply]
    split_ifs with hid
    · rw [hid]
    · rfl
  rw [setStream, without_setStreams, List.filter_map, List.filter_congr hkept]
  rfl

/-- Entries about the others are seen. -/
theorem without_record {entries : List LogEntry}
    (hentries : ∀ entry ∈ entries, entry.ref.any denied = false) :
    (s.record entries).without denied = (s.without denied).record entries := by
  have hkept : entries.filter (fun entry => !entry.ref.any denied) = entries := by
    rw [List.filter_eq_self]
    exact fun entry hentry => by rw [hentries entry hentry]; rfl
  rw [record, without, List.filter_append, hkept]
  rfl

theorem without_record_singleton {entry : LogEntry} (hentry : entry.ref.any denied = false) :
    (s.record [entry]).without denied = (s.without denied).record [entry] := by
  refine without_record fun e he => ?_
  rw [List.mem_singleton.mp he]
  exact hentry

/-- What is done for the others is seen. -/
theorem without_act {entryPoint : EntryPoint} {effects : List Effect} (href : denied ref = false) :
    (s.act entryPoint ref effects).without denied
      = (s.without denied).act entryPoint ref effects := by
  refine without_record fun entry hentry => ?_
  obtain ⟨effect, -, rfl⟩ := List.mem_map.mp hentry
  exact href

theorem without_answer {endpoint : CoapEndpoint} {code : ℕ} (href : denied ref = false) :
    (s.answer endpoint ref code).without denied = (s.without denied).answer endpoint ref code :=
  without_record_singleton href

/-- What is written to control streams of the others is seen. -/
theorem without_send {targets : List StreamId} {frame : Option (List UInt8)}
    (htargets : ∀ id ∈ targets, denied id.ref = false) :
    (s.send targets frame).without denied = (s.without denied).send targets frame := by
  cases frame with
  | none => rfl
  | some frame =>
    refine without_record fun entry hentry => ?_
    obtain ⟨id, hid, rfl⟩ := List.mem_map.mp hentry
    exact htargets id (List.mem_reverse.mp hid)

/-- What is left out is not what is looked for. -/
theorem find?_filter_of_imp {α : Type} {keep p : α → Bool} {l : List α}
    (h : ∀ a ∈ l, p a = true → keep a = true) : (l.filter keep).find? p = l.find? p := by
  rw [List.find?_filter]
  refine List.find?_congr fun a ha => ?_
  cases hp : p a with
  | false => simp
  | true => simp [h a ha hp]

/-- A stream of the others is found as before. -/
theorem stream?_without {id : StreamId} (hid : denied id.ref = false) :
    (s.without denied).stream? id = s.stream? id := by
  refine find?_filter_of_imp fun as _ has => ?_
  rw [of_decide_eq_true has, hid]
  rfl

/-- A search for a stream that has been accepted finds the same one. -/
theorem firstStream_without (h : s.Unheld denied) {fits : StreamSetup → Bool}
    (hfits : fits .opening = false) :
    (s.without denied).firstStream ref fits = s.firstStream ref fits := by
  refine find?_filter_of_imp fun as has hfound => ?_
  rw [Bool.and_eq_true] at hfound
  rw [Bool.not_eq_true', ← Bool.not_eq_true]
  intro href
  rw [h.streams as has href, hfits] at hfound
  exact Bool.false_ne_true hfound.2

/-! ## Steps of the others -/

/-- An event goes to control streams of its own connection alone. -/
theorem promptStreamCallback_without {event : PromptEvent} (href : denied ref = false) :
    (promptStreamCallback platform ref s event).without denied
      = promptStreamCallback platform ref (s.without denied) event := by
  refine without_send fun id hid => ?_
  obtain ⟨cs, -, hcs, rfl⟩ := mem_snapshot hid
  rw [Bool.and_eq_true, decide_eq_true_iff] at hcs
  rw [hcs.2]
  exact href

/-- **A detector call** makes the same events, and they go to the same control streams. -/
theorem detect_without {as : ActiveStream} {call : DetectorCall} (href : denied as.id.ref = false) :
    (s.detect platform as call).without denied = (s.without denied).detect platform as call := by
  have hevents (events : List PromptEvent) (s : App) :
      (events.foldl (promptStreamCallback platform as.id.ref) s).without denied
        = events.foldl (promptStreamCallback platform as.id.ref) (s.without denied) := by
    induction events generalizing s with
    | nil => rfl
    | cons event events ih =>
      rw [List.foldl_cons, List.foldl_cons, ih, promptStreamCallback_without href]
  exact (hevents _ _).trans (by rw [without_setStream]; rfl)

/-- A request finds its endpoint as busy as before: the workers are those of the others. -/
theorem request_without {iam : Iam} {endpoint : CoapEndpoint} {payload : RequestPayload}
    (href : denied ref = false) :
    (s.without denied).request iam endpoint ref payload
      = (s.request iam endpoint ref payload).map (without denied) := by
  have hentry {t : App} {entry : LogEntry} (hentry : entry.ref = some ref) :
      (t.record [entry]).without denied = (t.without denied).record [entry] :=
    without_record_singleton (by rw [hentry]; exact href)
  rw [request, request, workers_without]
  split_ifs
  · rfl
  · dsimp only
    split_ifs
    · rw [Option.map_some, without_setWorker, hentry rfl]
    · rw [Option.map_some, hentry rfl, hentry rfl]

/-- The map that `attach` looks into has no entry of those left out. -/
theorem serveAttach_without {request : CoapRequest} {tmux : TmuxReplies}
    (href : denied ref = false) :
    (s.serveAttach ref request tmux).without denied
      = (s.without denied).serveAttach ref request tmux := by
  simp only [serveAttach]
  rw [show ((s.without denied).act (.coap .attach) ref (attachCalls request tmux)).sessionMap
    = (s.act (.coap .attach) ref (attachCalls request tmux)).sessionMap from rfl]
  split
  · rw [without_answer href, without_act href, without_setSessionMap, without_act href]
  · rw [without_answer href, without_act href]

theorem serveCreate_without {request : CoapRequest} {tmux : TmuxReplies}
    (href : denied ref = false) :
    (s.serveCreate ref request tmux).without denied
      = (s.without denied).serveCreate ref request tmux := by
  simp only [serveCreate]
  split
  · exact without_answer href
  · rw [without_answer href, without_act href]

/-- A resize finds the stream of its connection, which is in sight. -/
theorem serveResize_without {request : CoapRequest} (h : s.Unheld denied)
    (href : denied ref = false) :
    (s.serveResize ref request).without denied = (s.without denied).serveResize ref request := by
  have hfirst : (s.without denied).firstStream ref StreamSetup.hasPty
      = s.firstStream ref StreamSetup.hasPty := firstStream_without h rfl
  simp only [serveResize, hfirst, sessionMap_without]
  split
  · exact without_answer href
  · split
    · rfl
    · rw [without_setWorker, without_act href, without_setSessionMap, without_setStream]

theorem finishResize_without {size : TerminalSize} (h : s.Unheld denied)
    (href : denied ref = false) :
    (s.finishResize ref size).without denied = (s.without denied).finishResize ref size := by
  have hfirst : (s.without denied).firstStream ref StreamSetup.isReady
      = s.firstStream ref StreamSetup.isReady := firstStream_without h rfl
  simp only [finishResize, hfirst]
  split
  · exact without_answer href
  · rw [without_answer href, without_act href, without_setStream]

theorem respond_without {endpoint : CoapEndpoint} {payload : Option (List UInt8)}
    (href : denied ref = false) :
    (s.respond endpoint ref payload).without denied
      = (s.without denied).respond endpoint ref payload := by
  cases payload with
  | none => rw [respond, respond, without_answer href, without_act href]
  | some payload => rw [respond, respond, without_answer href, without_act href]

/-- **A worker** that serves one of the others. -/
theorem serve_without {replies : Replies} {endpoint : CoapEndpoint} {work : CoapWork}
    (h : s.Unheld denied) (href : denied work.ref = false) :
    (s.without denied).serve platform replies endpoint work
      = (s.serve platform replies endpoint work).map (without denied) := by
  obtain ⟨ref, payload | size⟩ := work
  · cases endpoint with
    | attach => exact congrArg some (serveAttach_without href).symm
    | create => exact congrArg some (serveCreate_without href).symm
    | resize => exact congrArg some (serveResize_without h href).symm
    | sessions => exact congrArg some (respond_without href).symm
    | status => exact congrArg some (respond_without href).symm
  · cases endpoint with
    | resize => exact congrArg some (finishResize_without h href).symm
    | _ => rfl

/-- A new stream is listed if its id is free, and that the streams left out do not change. -/
theorem streamCallback_without {id : StreamId} (hid : denied id.ref = false) :
    (s.without denied).streamCallback id = (s.streamCallback id).map (without denied) := by
  have hkept : (ActiveStream.new id :: s.streams).filter (fun as => !denied as.id.ref)
      = .new id :: s.streams.filter fun as => !denied as.id.ref :=
    List.filter_cons_of_pos (Bool.not_eq_true' _ ▸ hid)
  rw [streamCallback, streamCallback, stream?_without hid]
  split_ifs
  · rfl
  · rw [Option.map_some, without_setStreams, hkept]
    rfl

/-- The entry that is removed is that of the stream's own connection. -/
theorem cleanupActiveStream_without {as : ActiveStream} :
    (s.cleanupActiveStream as).without denied = (s.without denied).cleanupActiveStream as := by
  rw [cleanupActiveStream, cleanupActiveStream, without_setSessionMap, without_setStream]
  rfl

/-- The check is asked about the same connection, and the map gives the same session. -/
theorem streamAccepted_without {iam : Iam} {as : ActiveStream} (hid : denied as.id.ref = false) :
    (s.streamAccepted iam as).without denied = (s.without denied).streamAccepted iam as := by
  have hchecked {answer : Bool} : (s.record [.checked as.id.ref .connect answer]).without denied
      = (s.without denied).record [.checked as.id.ref .connect answer] :=
    without_record_singleton hid
  simp only [streamAccepted, ← hchecked, sessionMap_without]
  split
  · rw [without_setStream]
  · rw [without_setStream]

/-- **A step of a data stream** of the others. -/
theorem streamStep_without {iam : Iam} {as : ActiveStream} {a : StreamAction}
    (hid : denied as.id.ref = false) :
    (s.without denied).streamStep platform iam as a
      = (s.streamStep platform iam as a).map (without denied) := by
  cases a with
  | accepted ok =>
    simp only [streamStep]
    split_ifs
    · rw [Option.map_some, streamAccepted_without hid]
    · rw [Option.map_some, cleanupActiveStream_without]
    · rfl
  | fork =>
    simp only [streamStep]
    split
    · split_ifs
      · rfl
      · rw [Option.map_some, without_act hid, without_setStream]
    · rfl
  | initDetector =>
    simp only [streamStep]
    split
    · rw [Option.map_some, without_act hid, without_setStream]
    · rfl
  | output data =>
    simp only [streamStep]
    split_ifs
    · rw [Option.map_some, without_act hid, detect_without hid]
    · rfl
  | input data =>
    simp only [streamStep]
    split_ifs
    · rw [Option.map_some, without_act hid]
    · rfl
  | markClosing => rw [streamStep, streamStep, Option.map_some, without_setStream]
  | startClose =>
    simp only [streamStep]
    split_ifs
    · rfl
    · rw [Option.map_some, without_setStream]
  | closed =>
    simp only [streamStep]
    split_ifs
    · rw [Option.map_some, cleanupActiveStream_without]
    · rfl
  | free =>
    simp only [streamStep]
    split_ifs
    · rfl
    · rw [Option.map_some, without_setStreams, List.filter_comm]
      rfl

theorem mem_pendingControlStreams_without {id : StreamId} (hid : denied id.ref = false) :
    id ∈ (s.without denied).pendingControlStreams ↔ id ∈ s.pendingControlStreams := by
  refine List.mem_filter.trans (and_iff_left ?_)
  rw [hid]
  rfl

theorem controlStreamCallback_without {id : StreamId} (hid : denied id.ref = false) :
    (s.without denied).controlStreamCallback id
      = (s.controlStreamCallback id).map (without denied) := by
  have hkept : (id :: s.pendingControlStreams).filter (fun id => !denied id.ref)
      = id :: s.pendingControlStreams.filter fun id => !denied id.ref :=
    List.filter_cons_of_pos (Bool.not_eq_true' _ ▸ hid)
  have hmem := @mem_pendingControlStreams_without denied s id hid
  rw [controlStreamCallback, controlStreamCallback]
  split_ifs with hbusy' hbusy hbusy
  · rfl
  · exact absurd (hbusy'.imp_left hmem.mp) hbusy
  · exact absurd (hbusy.imp_left hmem.mpr) hbusy'
  · rw [Option.map_some, without_setPending, hkept]
    rfl

theorem resolvePromptForRef_without {resolve : PromptResolveMessage} (h : s.Unheld denied)
    (href : denied ref = false) :
    (s.resolvePromptForRef platform ref resolve).without denied
      = (s.without denied).resolvePromptForRef platform ref resolve := by
  have hfirst : (s.without denied).firstStream ref StreamSetup.isReady
      = s.firstStream ref StreamSetup.isReady := firstStream_without h rfl
  simp only [resolvePromptForRef, hfirst]
  split
  · rename_i as instanceId has hinstance
    rw [detect_without]
    rw [(firstStream_eq_some has).2.1]
    exact href
  · rfl

theorem readFrame_without {cs : ActiveControlStream} {payload : List UInt8} (h : s.Unheld denied)
    (hid : denied cs.id.ref = false) :
    (s.readFrame platform cs payload).without denied
      = (s.without denied).readFrame platform cs payload := by
  simp only [readFrame]
  split_ifs
  · split
    · rw [resolvePromptForRef_without h.act hid, without_act hid]
    · rfl
  · rfl

theorem controlStreamAccepted_without {iam : Iam} {id : StreamId} (hid : denied id.ref = false) :
    (s.controlStreamAccepted iam id).without denied
      = (s.without denied).controlStreamAccepted iam id := by
  have hchecked {answer : Bool} : (s.record [.checked id.ref .listSessions answer]).without denied
      = (s.without denied).record [.checked id.ref .listSessions answer] :=
    without_record_singleton hid
  simp only [controlStreamAccepted, ← hchecked]
  split_ifs
  · rfl
  · rfl

theorem controlStreamStep_without {iam : Iam} {id : StreamId} {a : ControlStreamAction}
    (h : s.Unheld denied) (hid : denied id.ref = false) :
    (s.without denied).controlStreamStep platform iam id a
      = (s.controlStreamStep platform iam id a).map (without denied) := by
  have hfound : (s.without denied).controlStream? id = s.controlStream? id := rfl
  cases a with
  | accepted ok =>
    have hmem := @mem_pendingControlStreams_without denied s id hid
    have hpending : (s.without denied).setPending
        ((s.without denied).pendingControlStreams.filter (· ≠ id))
          = (s.setPending (s.pendingControlStreams.filter (· ≠ id))).without denied := by
      rw [without_setPending, List.filter_comm]
      rfl
    by_cases hp : id ∈ s.pendingControlStreams
    · rw [controlStreamStep, controlStreamStep, if_pos (hmem.mpr hp), if_pos hp, hpending]
      cases ok with
      | true => exact congrArg some (controlStreamAccepted_without hid).symm
      | false => rfl
    · rw [controlStreamStep, controlStreamStep, if_neg (hmem.not.mpr hp), if_neg hp]
      rfl
  | frame payload =>
    rw [controlStreamStep, controlStreamStep, hfound, Option.map_map]
    rcases hcs : s.controlStream? id with - | cs
    · rfl
    · rw [Option.map_some, Option.map_some, Function.comp_apply, readFrame_without h]
      exact h.controlStreams cs (controlStream?_eq_some hcs).1
  | markClosing => rfl
  | free =>
    rw [controlStreamStep, controlStreamStep, hfound]
    rcases s.controlStream? id with - | cs
    · rfl
    · rw [Option.bind_some, Option.bind_some]
      split_ifs
      · rfl
      · rfl

/-- **The monitor** writes to control streams, and those are all of the others. -/
theorem monitorStep_without {m : Monitor} {a : MonitorAction} (h : s.Unheld denied) :
    (s.without denied).monitorStep platform m a
      = (s.monitorStep platform m a).map (without denied) := by
  have htargets {fits : ActiveControlStream → Bool} :
      ∀ id ∈ s.snapshot fits, denied id.ref = false := by
    intro id hid
    obtain ⟨cs, hcs, -, rfl⟩ := mem_snapshot hid
    exact h.controlStreams cs hcs
  cases a with
  | poll listing =>
    simp only [monitorStep]
    split
    · rw [Option.map_some, without_setMonitor, without_record_singleton rfl]
    · rfl
  | syncSessions =>
    simp only [monitorStep]
    split
    · rw [Option.map_some, syncSessions, syncSessions, without_setMonitor, without_send htargets]
      rfl
    · rfl
  | takePromptFlags =>
    simp only [monitorStep]
    split
    · rfl
    · rfl
  | copyActive =>
    simp only [monitorStep]
    split
    · rename_i id pending hstage
      have hfirst : (s.without denied).firstStream id.ref StreamSetup.isReady
          = s.firstStream id.ref StreamSetup.isReady := firstStream_without h rfl
      rw [Option.map_some, without_setMonitor, hfirst]
    · rfl
  | sendPresent =>
    simp only [monitorStep]
    split
    · rw [Option.map_some, without_setMonitor, without_send htargets]
      rfl
    · rfl
  | sweep =>
    simp only [monitorStep]
    split
    · rfl
    · rfl

/-- **A step of the others** is the same step on what can be seen. -/
theorem step_without {a : Iam × AgentAction} (h : s.Unheld denied)
    (ha : a.2.ref.any denied = false) :
    (s.without denied).step platform a = (s.step platform a).map (without denied) := by
  obtain ⟨iam, a⟩ := a
  cases a with
  | request endpoint ref payload => exact request_without ha
  | serve endpoint replies =>
    rw [step, step, workers_without]
    rcases hwork : s.workers endpoint with - | work
    · rfl
    · exact serve_without h (h.workers endpoint work hwork)
  | newStream id => exact streamCallback_without ha
  | stream id a =>
    rw [step, step, stream?_without ha]
    rcases has : s.stream? id with - | as
    · rfl
    · refine streamStep_without ?_
      rw [(stream?_eq_some has).2]
      exact ha
  | newControlStream id => exact controlStreamCallback_without ha
  | controlStream id a => exact controlStreamStep_without h ha
  | monitor a =>
    rw [step, step, monitor_without]
    rcases s.monitor with - | m
    · rfl
    · exact monitorStep_without h

/-! ## Steps that leave no trace -/

/-- What the log says of those left out is not seen. -/
theorem without_record_hidden {entry : LogEntry} (hentry : entry.ref.any denied = true) :
    (s.record [entry]).without denied = s.without denied := by
  have hdropped : ([entry] ++ s.log).filter (fun entry => !entry.ref.any denied)
      = s.log.filter fun entry => !entry.ref.any denied :=
    List.filter_cons_of_neg (by simp [hentry])
  rw [record, without, hdropped]
  rfl

/-- No stream in sight has the id of one that is not. -/
theorem id_ne_of_mem_without {as : ActiveStream} {id : StreamId}
    (has : as ∈ (s.without denied).streams) (hid : denied id.ref = true) : as.id ≠ id := by
  rintro rfl
  have hvisible := (List.mem_filter.mp has).2
  rw [hid] at hvisible
  exact Bool.noConfusion hvisible

/-- A change of a stream out of sight is not seen. -/
theorem without_setStream_hidden {stream : ActiveStream} (hid : denied stream.id.ref = true) :
    (s.setStream stream).without denied = s.without denied := by
  have hkept : (s.without denied).streams.map (fun as => if as.id = stream.id then stream else as)
      = (s.without denied).streams := by
    refine (List.map_congr_left fun as has => if_neg ?_).trans (List.map_id _)
    exact id_ne_of_mem_without has hid
  rw [without_setStream, setStream, hkept]
  rfl

/-- **The cleanup of a stream that was refused**: there is no map entry to remove. -/
theorem cleanupActiveStream_hidden {as : ActiveStream} (h : s.Unheld denied)
    (hid : denied as.id.ref = true) :
    (s.cleanupActiveStream as).without denied = s.without denied := by
  have hnone : as.id.ref ∉ s.sessionMap.keys := fun hmem => by simp [h.sessionMap _ hmem] at hid
  rw [cleanupActiveStream, SessionMap.remove, SlotTable.erase_of_notMem hnone,
    without_setSessionMap, without_setStream_hidden]
  · rfl
  · exact hid

/-- A stream that is denied has its answer logged and is closed; neither is seen. -/
theorem streamAccepted_hidden {iam : Iam} {as : ActiveStream} (hid : denied as.id.ref = true)
    (hiam : iam as.id.ref AccessAction.connect.name = false) :
    (s.streamAccepted iam as).without denied = s.without denied := by
  rw [streamAccepted, hiam]
  refine (without_setStream_hidden ?_).trans (without_record_hidden ?_)
  · exact hid
  · exact hid

/-- A request that is denied leaves a check and an answer in the log, and takes no worker. -/
theorem request_hidden {iam : Iam} {endpoint : CoapEndpoint} {payload : RequestPayload}
    (href : denied ref = true) (hiam : iam ref endpoint.action.name = false)
    (hstep : s.request iam endpoint ref payload = some s') :
    s'.without denied = s.without denied := by
  simp only [request, hiam, Bool.false_eq_true, if_false] at hstep
  split_ifs at hstep
  obtain rfl := Option.some.inj hstep
  refine (without_record_hidden ?_).trans (without_record_hidden ?_)
  · exact href
  · exact href

/-- A new stream out of sight. -/
theorem streamCallback_hidden {id : StreamId} (hid : denied id.ref = true)
    (hstep : s.streamCallback id = some s') : s'.without denied = s.without denied := by
  have hdropped : (ActiveStream.new id :: s.streams).filter (fun as => !denied as.id.ref)
      = s.streams.filter fun as => !denied as.id.ref :=
    List.filter_cons_of_neg (by simp [ActiveStream.new, hid])
  rw [streamCallback] at hstep
  split_ifs at hstep
  obtain rfl := Option.some.inj hstep
  rw [without_setStreams, hdropped]
  rfl

/-- **A step of a data stream that is never accepted**: it has no PTY, and so there is nothing to
read, write or fork. -/
theorem streamStep_hidden {iam : Iam} {as : ActiveStream} {a : StreamAction} (h : s.Unheld denied)
    (has : as ∈ s.streams) (hid : denied as.id.ref = true)
    (hiam : iam as.id.ref AccessAction.connect.name = false)
    (hstep : s.streamStep platform iam as a = some s') : s'.without denied = s.without denied := by
  have hsetup : as.setup = .opening := h.streams as has hid
  cases a with
  | accepted ok =>
    simp only [streamStep] at hstep
    split_ifs at hstep
    · exact Option.some.inj hstep ▸ streamAccepted_hidden hid hiam
    · exact Option.some.inj hstep ▸ cleanupActiveStream_hidden h hid
  | fork =>
    simp only [streamStep, hsetup] at hstep
    cases hstep
  | initDetector =>
    simp only [streamStep, hsetup] at hstep
    cases hstep
  | output data =>
    rw [streamStep, hsetup] at hstep
    cases hstep
  | input data =>
    rw [streamStep, hsetup] at hstep
    cases hstep
  | markClosing => exact Option.some.inj hstep ▸ without_setStream_hidden hid
  | startClose =>
    rw [streamStep, hsetup] at hstep
    cases hstep
  | closed =>
    simp only [streamStep] at hstep
    split_ifs at hstep
    exact Option.some.inj hstep ▸ cleanupActiveStream_hidden h hid
  | free =>
    simp only [streamStep] at hstep
    split_ifs at hstep
    obtain rfl := Option.some.inj hstep
    have hkept : (s.without denied).streams.filter (·.id ≠ as.id) = (s.without denied).streams := by
      rw [List.filter_eq_self]
      intro other hother
      rw [decide_eq_true_iff]
      exact id_ne_of_mem_without hother hid
    have hcomm : (s.streams.filter (·.id ≠ as.id)).filter (fun as => !denied as.id.ref)
        = (s.without denied).streams.filter (·.id ≠ as.id) := List.filter_comm _ _ _
    rw [without_setStreams, hcomm, hkept]
    rfl

/-- A new control stream out of sight. -/
theorem controlStreamCallback_hidden {id : StreamId} (hid : denied id.ref = true)
    (hstep : s.controlStreamCallback id = some s') : s'.without denied = s.without denied := by
  have hdropped : (id :: s.pendingControlStreams).filter (fun id => !denied id.ref)
      = s.pendingControlStreams.filter fun id => !denied id.ref :=
    List.filter_cons_of_neg (by simp [hid])
  rw [controlStreamCallback] at hstep
  split_ifs at hstep
  obtain rfl := Option.some.inj hstep
  rw [without_setPending, hdropped]
  rfl

/-- **A step of a control stream that is never accepted**: none of its connection is listed, so no
frame of it is read. -/
theorem controlStreamStep_hidden {iam : Iam} {id : StreamId} {a : ControlStreamAction}
    (h : s.Unheld denied) (hid : denied id.ref = true)
    (hiam : iam id.ref AccessAction.listSessions.name = false)
    (hstep : s.controlStreamStep platform iam id a = some s') :
    s'.without denied = s.without denied := by
  have hne : ∀ cs ∈ s.controlStreams, cs.id ≠ id := by
    rintro cs hcs rfl
    simp [h.controlStreams cs hcs] at hid
  have hnone : s.controlStream? id = none := by
    rw [controlStream?, List.find?_eq_none]
    exact fun cs hcs => by simp [hne cs hcs]
  cases a with
  | accepted ok =>
    have hpending : (s.setPending (s.pendingControlStreams.filter (· ≠ id))).without denied
        = s.without denied := by
      have hkept : (s.without denied).pendingControlStreams.filter (· ≠ id)
          = (s.without denied).pendingControlStreams := by
        rw [List.filter_eq_self]
        intro other hother
        rw [decide_eq_true_iff]
        rintro rfl
        have hvisible := (List.mem_filter.mp hother).2
        rw [hid] at hvisible
        exact Bool.noConfusion hvisible
      have hcomm : (s.pendingControlStreams.filter (· ≠ id)).filter (fun id => !denied id.ref)
          = (s.without denied).pendingControlStreams.filter (· ≠ id) := List.filter_comm _ _ _
      rw [without_setPending, hcomm, hkept]
      rfl
    simp only [controlStreamStep, controlStreamAccepted, hiam, Bool.false_eq_true,
      if_false] at hstep
    split_ifs at hstep
    · obtain rfl := Option.some.inj hstep
      refine (without_record_hidden ?_).trans hpending
      exact hid
    · exact Option.some.inj hstep ▸ hpending
  | frame payload =>
    rw [controlStreamStep, hnone] at hstep
    cases hstep
  | markClosing =>
    have hkept : s.controlStreams.map
          (fun cs => if cs.id = id then { cs with closing := true } else cs)
        = s.controlStreams := by
      exact (List.map_congr_left fun cs hcs => if_neg (hne cs hcs)).trans (List.map_id _)
    rw [controlStreamStep, modifyControlStream, hkept] at hstep
    exact Option.some.inj hstep ▸ rfl
  | free =>
    rw [controlStreamStep, hnone] at hstep
    cases hstep

/-- **A step of a connection that is never granted anything** leaves no trace. -/
theorem step_hidden {a : Iam × AgentAction} (h : s.Unheld denied)
    (hiam : ∀ ref action, denied ref = true → a.1 ref action = false)
    (ha : a.2.ref.any denied = true) (hstep : s.step platform a = some s') :
    s'.without denied = s.without denied := by
  obtain ⟨iam, a⟩ := a
  cases a with
  | request endpoint ref payload => exact request_hidden ha (hiam ref _ ha) hstep
  | serve endpoint replies => exact nomatch ha
  | newStream id => exact streamCallback_hidden ha hstep
  | stream id a =>
    obtain ⟨as, has, htaken⟩ := Option.bind_eq_some_iff.mp hstep
    obtain ⟨hmem, rfl⟩ := stream?_eq_some has
    exact streamStep_hidden h hmem ha (hiam _ _ ha) htaken
  | newControlStream id => exact controlStreamCallback_hidden ha hstep
  | controlStream id a => exact controlStreamStep_hidden h ha (hiam _ _ ha) hstep
  | monitor a => exact nomatch ha

end App

/-- The answers that the access check gives in the course of a run. -/
def answersOf (steps : List (Iam × AgentAction)) : Answers :=
  fun ref action answer => ∃ a ∈ steps, a.1 ref action.name = answer

/-- **No effect without authorization.**  In every run, whatever is held of a connection and all
that is done on its behalf goes back to the access check having granted the action of the entry
point.  Connections that it always denies can be left out of the run, with all their requests and
streams: the others see no difference. -/
theorem no_effect_without_authorization (platform : Platform) (steps : List (Iam × AgentAction))
    (s : App) (h : Guarded.run (App.step platform) .init steps = some s) :
    s.Granted (answersOf steps)
      ∧ ∀ denied : ConnectionRef → Bool,
        (∀ a ∈ steps, ∀ ref action, denied ref = true → a.1 ref action = false) →
          s.Unheld denied
            ∧ Guarded.run (App.step platform) .init (steps.filter fun a => !a.2.ref.any denied)
              = some (s.without denied) := by
  have hkeep : ∀ (s : App) (a : Iam × AgentAction) (s' : App), s.Granted (answersOf steps) →
      a ∈ steps → s.step platform a = some s' → s'.Granted (answersOf steps) :=
    fun s a s' hs ha => hs.step fun ref action => ⟨a, ha, rfl⟩
  have hgranted : s.Granted (answersOf steps) :=
    Guarded.run_invariant_of_mem hkeep App.granted_init (fun a ha => ha) h
  refine ⟨hgranted, fun denied hdenied => ?_⟩
  have hnever : ∀ ref action, denied ref = true → ¬ answersOf steps ref action true := by
    rintro ref action href ⟨a, ha, hanswer⟩
    rw [hdenied a ha ref action.name href] at hanswer
    exact Bool.noConfusion hanswer
  refine ⟨hgranted.unheld hnever, ?_⟩
  change Guarded.run _ (App.init.without denied) _ = _
  refine Guarded.run_filter hkeep (fun s a s' hs ha hv hstep => ?_)
    (fun s a s' hs ha hv hstep => ?_)
    App.granted_init (fun a ha => ha) h
  · rw [Bool.not_eq_true'] at hv
    rw [App.step_without (hs.unheld hnever) hv, hstep]
    rfl
  · rw [Bool.not_eq_false'] at hv
    exact App.step_hidden (hs.unheld hnever) (hdenied a ha) hv hstep

/-- An agent without rules, on reference encoders and parsers. -/
def plainPlatform : Platform where
  compile := fun _ => none
  ids := buildInstanceId
  ruleset := []
  api := referenceEncoder
  parser := referenceMapParser

/-- tmux has the session, and lists none. -/
def plainReplies : Replies where
  tmux := sessionThere
  listing := none
  uptime := 0

/-- Connection 1 attaches and opens both streams, while connection 2 tries the same. -/
def twoConnections : List AgentAction :=
  [.request .attach 2 (attachTo "dev").payload, .newStream ⟨2, 0⟩,
    .request .attach 1 (attachTo "dev").payload, .stream ⟨2, 0⟩ (.accepted true),
    .serve .attach plainReplies, .newStream ⟨1, 0⟩, .newControlStream ⟨2, 1⟩,
    .stream ⟨1, 0⟩ (.accepted true), .stream ⟨2, 0⟩ .closed, .stream ⟨1, 0⟩ .fork,
    .newControlStream ⟨1, 1⟩, .controlStream ⟨2, 1⟩ (.accepted true),
    .stream ⟨1, 0⟩ .initDetector, .controlStream ⟨1, 1⟩ (.accepted true),
    .monitor (.poll plainReplies.listing), .monitor .syncSessions]

/-- Connection 1 is granted everything, all others nothing. -/
def firstOnly : Iam := fun ref _ => ref = 1

theorem no_effect_without_authorization_two :
    ∃ s, Guarded.run (App.step plainPlatform) .init (twoConnections.map fun a => (firstOnly, a))
      = some s
      ∧ s.Granted (answersOf (twoConnections.map fun a => (firstOnly, a)))
      ∧ Guarded.run (App.step plainPlatform) .init
          ((twoConnections.map fun a => (firstOnly, a)).filter fun a => !a.2.ref.any (· = 2))
        = some (s.without (· = 2)) := by
  obtain ⟨s, hs⟩ : ∃ s, Guarded.run (App.step plainPlatform) .init
      (twoConnections.map fun a => (firstOnly, a)) = some s := by
    rw [← Option.isSome_iff_exists]
    decide +kernel
  obtain ⟨hgranted, hothers⟩ := no_effect_without_authorization plainPlatform _ s hs
  refine ⟨s, hs, hgranted, (hothers (· = 2) fun a ha ref action href => ?_).2⟩
  obtain ⟨a, -, rfl⟩ := List.mem_map.mp ha
  obtain rfl : ref = 2 := of_decide_eq_true href
  rfl

end TmuxRemote
