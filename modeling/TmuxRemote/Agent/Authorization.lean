import TmuxRemote.Agent.App

/-!
# Agent/Authorization — nothing is held of a connection without a grant

Behind each of its entry points the agent acts for a connection only after the access check has
granted that connection the entry point's action.  So what the agent holds of a connection, a map
entry, a request under way, a stream with a PTY, a control stream, goes back to such a grant
(`App.Granted`), and so does all that the log says (`Authorized`).  Every step keeps this
(`App.Granted.step`).
-/

namespace TmuxRemote

/-- What the access check answers: whom, which action, and what. -/
abbrev Answers := ConnectionRef → AccessAction → Bool → Prop

/-- By the log, the connection has been granted the action. -/
def Grants (log : List LogEntry) (ref : ConnectionRef) (action : AccessAction) : Prop :=
  .checked ref action true ∈ log

/-- An entry that may follow the earlier ones, when these are the answers of the access check. -/
def LogEntry.Covered (answers : Answers) (earlier : List LogEntry) : LogEntry → Prop
  | checked ref action answer => answers ref action answer
  | answered _ _ _ => True
  | effect entryPoint ref _ => Grants earlier ref entryPoint.action
  | polled => ∃ ref, Grants earlier ref .listSessions

/-- **Every effect comes after a grant**: to its connection, of the action of its entry point. -/
def Authorized (answers : Answers) : List LogEntry → Prop
  | [] => True
  | entry :: earlier => entry.Covered answers earlier ∧ Authorized answers earlier

variable {answers : Answers} {platform : Platform} {log entries : List LogEntry}
  {ref : ConnectionRef}
  {action : AccessAction}

/-- Neither a new size nor what is printed accepts a stream. -/
theorem StreamSetup.isOpening_setPty (setup : StreamSetup) (size : WindowSize) :
    (setup.setPty size).isOpening = setup.isOpening := by cases setup <;> rfl

theorem StreamSetup.isOpening_resizeDetector (setup : StreamSetup) (size : TerminalSize) :
    (setup.resizeDetector size).isOpening = setup.isOpening := by cases setup <;> rfl

theorem StreamSetup.isOpening_detect (setup : StreamSetup) (compile : RegexCompiler)
    (ids : IdScheme)
    (call : DetectorCall) : (setup.detect compile ids call).1.isOpening = setup.isOpening := by
  cases setup <;> rfl

/-- A stream that has a detector has been accepted. -/
theorem StreamSetup.isOpening_of_isReady {setup : StreamSetup} (h : setup.isReady = true) :
    setup.isOpening = false := by
  cases setup with
  | ready session pty detector => rfl
  | _ => exact nomatch h

/-- The log only grows, and a grant stays in it. -/
theorem Grants.append (h : Grants log ref action) : Grants (entries ++ log) ref action :=
  List.mem_append_right entries h

/-- What earlier grants cover stays covered. -/
theorem LogEntry.Covered.append {entry : LogEntry} (h : entry.Covered answers log) :
    entry.Covered answers (entries ++ log) := by
  cases entry with
  | checked ref action answer => exact h
  | answered endpoint ref code => trivial
  | effect entryPoint ref effect => exact Grants.append h
  | polled =>
    obtain ⟨ref, hgrants⟩ := h
    exact ⟨ref, hgrants.append⟩

/-- Entries may be added that the log covers.  It need not be those before them in the same step, so
a check and what it allows are two changes. -/
theorem Authorized.append (h : Authorized answers log)
    (hentries : ∀ entry ∈ entries, entry.Covered answers log) :
    Authorized answers (entries ++ log) := by
  induction entries with
  | nil => exact h
  | cons entry entries ih =>
    obtain ⟨hentry, hrest⟩ := List.forall_mem_cons.mp hentries
    exact ⟨hentry.append, ih hrest⟩

/-- A grant in the log is an answer. -/
theorem Authorized.answers_of_grants (h : Authorized answers log)
    (hgrants : Grants log ref action) :
    answers ref action true := by
  induction log with
  | nil => exact absurd hgrants List.not_mem_nil
  | cons entry log ih =>
    obtain rfl | hgrants := List.mem_cons.mp hgrants
    · exact h.1
    · exact ih h.2 hgrants

namespace App

/-- **The invariant**: whatever is held of a connection goes back to a grant. -/
structure Granted (answers : Answers) (s : App) : Prop where
  log : Authorized answers s.log
  sessionMap : ∀ ref ∈ s.sessionMap.keys, Grants s.log ref .connect
  workers : ∀ endpoint work, s.workers endpoint = some work → Grants s.log work.ref endpoint.action
  streams : ∀ as ∈ s.streams, as.setup.isOpening = false → Grants s.log as.id.ref .connect
  controlStreams : ∀ cs ∈ s.controlStreams, Grants s.log cs.id.ref .listSessions
  monitor : s.monitor.isSome = true → ∃ ref, Grants s.log ref .listSessions

/-- At the start nothing is held. -/
theorem granted_init : init.Granted answers where
  log := trivial
  sessionMap _ href := nomatch href
  workers _ _ hwork := nomatch hwork
  streams _ has := absurd has List.not_mem_nil
  controlStreams _ hcs := absurd hcs List.not_mem_nil
  monitor := Bool.noConfusion

/-! ## What each change needs -/

section

variable {s s' : App} (h : s.Granted answers)
include h

namespace Granted

/-- Entries that the log covers are added to it; what was granted remains so. -/
theorem record (hentries : ∀ entry ∈ entries, entry.Covered answers s.log) :
    (s.record entries).Granted answers where
  log := h.log.append hentries
  sessionMap ref href := (h.sessionMap ref href).append
  workers endpoint work hwork := (h.workers endpoint work hwork).append
  streams as has hsetup := (h.streams as has hsetup).append
  controlStreams cs hcs := (h.controlStreams cs hcs).append
  monitor hmonitor := by
    obtain ⟨ref, hgrants⟩ := h.monitor hmonitor
    exact ⟨ref, hgrants.append⟩

/-- **The agent acts for a connection** that has the grant of the entry point. -/
theorem act {entryPoint : EntryPoint} {effects : List Effect}
    (hgrants : Grants s.log ref entryPoint.action) :
    (s.act entryPoint ref effects).Granted answers := by
  refine h.record fun entry hentry => ?_
  obtain ⟨effect, -, rfl⟩ := List.mem_map.mp hentry
  exact hgrants

/-- A request is taken up for a connection that has the grant of its endpoint, or one is finished.
-/
theorem setWorker {endpoint : CoapEndpoint} {work : Option CoapWork}
    (hwork : ∀ w, work = some w → Grants s.log w.ref endpoint.action) :
    (s.setWorker endpoint work).Granted answers where
  __ := h
  workers other w hw := by
    change Function.update s.workers endpoint work other = some w at hw
    obtain rfl | hne := eq_or_ne other endpoint
    · rw [Function.update_self] at hw
      exact hwork w hw
    · rw [Function.update_of_ne hne] at hw
      exact h.workers other w hw

/-- The keys of the map are connections that may connect. -/
theorem setSessionMap {sessionMap : SessionMap}
    (hkeys : ∀ ref ∈ sessionMap.keys, Grants s.log ref .connect) :
    (s.setSessionMap sessionMap).Granted answers where
  __ := h
  sessionMap := hkeys

theorem setStreams {streams : List ActiveStream}
    (hstreams : ∀ as ∈ streams, as.setup.isOpening = false → Grants s.log as.id.ref .connect) :
    (s.setStreams streams).Granted answers where
  __ := h
  streams := hstreams

theorem setControlStreams {controlStreams : List ActiveControlStream}
    (hcontrol : ∀ cs ∈ controlStreams, Grants s.log cs.id.ref .listSessions) :
    (s.setControlStreams controlStreams).Granted answers where
  __ := h
  controlStreams := hcontrol

theorem setMonitor {monitor : Monitor} (hgrants : ∃ ref, Grants s.log ref .listSessions) :
    (s.setMonitor monitor).Granted answers where
  __ := h
  monitor _ := hgrants

theorem setPending {pending : List StreamId} : (s.setPending pending).Granted answers where
  __ := h

/-- A stream that is no longer opening is one of a connection that may connect. -/
theorem setStream {stream : ActiveStream}
    (hstream : stream.setup.isOpening = false → Grants s.log stream.id.ref .connect) :
    (s.setStream stream).Granted answers := by
  refine h.setStreams fun as has hsetup => ?_
  obtain ⟨before, hbefore, rfl⟩ := List.mem_map.mp has
  split_ifs at hsetup ⊢ with hid
  · exact hstream hsetup
  · exact h.streams before hbefore hsetup

/-- A change that does not open the stream. -/
theorem advance {as stream : ActiveStream} (has : as ∈ s.streams) (hid : stream.id = as.id)
    (hopen : stream.setup.isOpening = as.setup.isOpening) :
      (s.setStream stream).Granted answers := by
  refine h.setStream fun hsetup => ?_
  rw [hid]
  exact h.streams as has (hopen.symm.trans hsetup)

end Granted

/-! ## What each step needs -/

omit h in
/-- The monitor writes to control streams that are listed. -/
theorem mem_snapshot {fits : ActiveControlStream → Bool} {id : StreamId}
    (hid : id ∈ s.snapshot fits) : ∃ cs ∈ s.controlStreams, fits cs = true ∧ cs.id = id := by
  obtain ⟨cs, hcs, rfl⟩ := List.mem_map.mp hid
  obtain ⟨hmem, hfits⟩ := List.mem_filter.mp (List.mem_of_mem_take hcs)
  exact ⟨cs, hmem, hfits, rfl⟩

omit h in
/-- The stream that is found is listed under the id. -/
theorem stream?_eq_some {id : StreamId} {as : ActiveStream} (has : s.stream? id = some as) :
    as ∈ s.streams ∧ as.id = id := by
  have hid := List.find?_some has
  exact ⟨List.mem_of_find?_eq_some has, of_decide_eq_true hid⟩

omit h in
theorem controlStream?_eq_some {id : StreamId} {cs : ActiveControlStream}
    (hcs : s.controlStream? id = some cs) : cs ∈ s.controlStreams ∧ cs.id = id := by
  have hid := List.find?_some hcs
  exact ⟨List.mem_of_find?_eq_some hcs, of_decide_eq_true hid⟩

omit h in
/-- A search by connection finds a stream of that connection. -/
theorem firstStream_eq_some {fits : StreamSetup → Bool} {as : ActiveStream}
    (has : s.firstStream ref fits = some as) :
    as ∈ s.streams ∧ as.id.ref = ref ∧ fits as.setup = true := by
  have hfits := List.find?_some has
  simp only [Bool.and_eq_true, decide_eq_true_iff] at hfits
  exact ⟨List.mem_of_find?_eq_some has, hfits.1.2, hfits.2⟩

omit h in
/-- A resize adds no connection to the map, whether it finds an entry or not. -/
theorem keys_updateSize {cols rows : UInt16} :
    ((s.sessionMap.updateSize ref cols rows).getD s.sessionMap).keys = s.sessionMap.keys := by
  rcases hupdate : s.sessionMap.updateSize ref cols rows with - | sessionMap
  · rfl
  · exact SlotTable.keys_modify hupdate

omit h in
/-- Writing to control streams takes no grant away. -/
theorem grants_send {targets : List StreamId} {frame : Option (List UInt8)}
    (hgrants : Grants s.log ref action) : Grants (s.send targets frame).log ref action := by
  cases frame with
  | none => exact hgrants
  | some frame => exact hgrants.append

omit h in
/-- Nor does anything that the detector reports. -/
theorem grants_detect {as : ActiveStream} {call : DetectorCall}
    (hgrants : Grants s.log ref action) :
    Grants (s.detect platform as call).log ref action :=
  List.foldlRecOn (motive := fun t : App => Grants t.log ref action) _ _ hgrants
    fun _ hs _ _ => grants_send hs

namespace Granted

/-- A connection with a control stream may list sessions. -/
theorem snapshot {fits : ActiveControlStream → Bool} {id : StreamId} (hid : id ∈ s.snapshot fits) :
    Grants s.log id.ref .listSessions := by
  obtain ⟨cs, hcs, -, rfl⟩ := mem_snapshot hid
  exact h.controlStreams cs hcs

/-- **Control streams are written to** on the grants of their own connections, whoever made the
news. -/
theorem send {targets : List StreamId} {frame : Option (List UInt8)}
    (htargets : ∀ id ∈ targets, Grants s.log id.ref .listSessions) :
    (s.send targets frame).Granted answers := by
  cases frame with
  | none => exact h
  | some frame =>
    refine h.record fun entry hentry => ?_
    obtain ⟨id, hid, rfl⟩ := List.mem_map.mp hentry
    exact htargets id (List.mem_reverse.mp hid)

theorem promptStreamCallback {event : PromptEvent} :
    (promptStreamCallback platform ref s event).Granted answers := h.send fun _ => h.snapshot

/-- A detector call, and the events that go out with it. -/
theorem detect {as : ActiveStream} {call : DetectorCall} (has : as ∈ s.streams) :
    (s.detect platform as call).Granted answers := by
  refine List.foldlRecOn _ _ (h.advance has rfl ?_) fun s hs _ _ => hs.promptStreamCallback
  exact as.setup.isOpening_detect platform.compile platform.ids call

/-! CoAP requests. -/

/-- An answer ends the request; it is no effect on what is held. -/
theorem answer {endpoint : CoapEndpoint} {code : ℕ} :
    (s.answer endpoint ref code).Granted answers := by
  have hfree : (s.setWorker endpoint none).Granted answers := h.setWorker fun w hw => nomatch hw
  refine hfree.record fun entry hentry => ?_
  obtain rfl := List.mem_singleton.mp hentry
  trivial

/-- The access check is asked, and its answer is logged. -/
theorem check {answer : Bool} (hanswer : answers ref action answer) :
    (s.record [.checked ref action answer]).Granted answers := by
  refine h.record fun entry hentry => ?_
  obtain rfl := List.mem_singleton.mp hentry
  exact hanswer

/-- **A request is taken up** only behind the check of its endpoint's action; a denied one is
answered at once. -/
theorem request {iam : Iam} {endpoint : CoapEndpoint} {payload : RequestPayload}
    (hiam : ∀ ref action, answers ref action (iam ref action.name))
    (hstep : s.request iam endpoint ref payload = some s') : s'.Granted answers := by
  have hchecked := h.check (hiam ref endpoint.action)
  simp only [App.request] at hstep
  split_ifs at hstep with hbusy hallowed
  · obtain rfl := Option.some.inj hstep
    refine hchecked.setWorker fun w hw => ?_
    obtain rfl := Option.some.inj hw
    rw [hallowed]
    exact List.mem_cons_self
  · obtain rfl := Option.some.inj hstep
    refine hchecked.record fun entry hentry => ?_
    obtain rfl := List.mem_singleton.mp hentry
    trivial

/-- The new entry of the map is that of the connection that attaches. -/
theorem serveAttach {request : CoapRequest} {tmux : TmuxReplies}
    (hgrants : Grants s.log ref .connect) : (s.serveAttach ref request tmux).Granted answers := by
  have hcalls : (s.act (.coap .attach) ref (attachCalls request tmux)).Granted answers :=
    h.act hgrants
  rw [App.serveAttach]
  split
  · rename_i fields sessionMap hfields hattach
    have hkeys : ∀ other ∈ sessionMap.keys,
        Grants (s.act (.coap .attach) ref (attachCalls request tmux)).log other .connect := by
      intro other hother
      have hmem : other ∈ (handleAttach s.sessionMap ref request tmux).2.keys := by
        change handleAttach s.sessionMap ref request tmux = _ at hattach
        rwa [hattach]
      obtain rfl | hother := mem_keys_handleAttach hmem
      · exact hgrants.append
      · exact hcalls.sessionMap other hother
    refine answer (act (hcalls.setSessionMap hkeys) ?_)
    exact hgrants.append
  · exact hcalls.answer

theorem serveCreate {request : CoapRequest} {tmux : TmuxReplies}
    (hgrants : Grants s.log ref .createSession) :
      (s.serveCreate ref request tmux).Granted answers := by
  rw [App.serveCreate]
  split
  · exact h.answer
  · refine answer (h.act ?_)
    exact hgrants

/-- A resize sets the size of a PTY, and takes the detector's to another step; the request stays
with its connection. -/
theorem serveResize {request : CoapRequest} (hgrants : Grants s.log ref .resize) :
    (s.serveResize ref request).Granted answers := by
  have hwork {t : App} {size : TerminalSize} (hgrants : Grants t.log ref .resize) :
      ∀ w, some { ref := ref, stage := .windowSet size : CoapWork } = some w →
        Grants t.log w.ref CoapEndpoint.resize.action := by
    rintro w ⟨⟩
    exact hgrants
  rw [App.serveResize]
  split
  · exact h.answer
  · rename_i size hsize
    split
    · exact h.setWorker (hwork hgrants)
    · rename_i as has
      obtain ⟨hmem, -, -⟩ := firstStream_eq_some has
      refine setWorker (act (setSessionMap (h.advance hmem ?_ ?_) ?_) ?_) (hwork hgrants.append)
      · rfl
      · exact as.setup.isOpening_setPty size.toWindowSize
      · rw [keys_updateSize]
        exact h.sessionMap
      · exact hgrants

theorem finishResize {size : TerminalSize} (hgrants : Grants s.log ref .resize) :
    (s.finishResize ref size).Granted answers := by
  rw [App.finishResize]
  split
  · exact h.answer
  · rename_i as has
    obtain ⟨hmem, -, -⟩ := firstStream_eq_some has
    refine answer (act (h.advance hmem ?_ ?_) ?_)
    · rfl
    · exact as.setup.isOpening_resizeDetector size
    · exact hgrants

/-- Listings and status reports are read, and answered with or without a payload. -/
theorem respond {endpoint : CoapEndpoint} {payload : Option (List UInt8)}
    (hgrants : Grants s.log ref endpoint.action) :
    (s.respond endpoint ref payload).Granted answers := by
  cases payload with
  | none => exact answer (h.act hgrants)
  | some payload => exact answer (h.act hgrants)

/-- **A worker** does what its endpoint was granted for. -/
theorem serve {replies : Replies} {endpoint : CoapEndpoint} {work : CoapWork}
    (hgrants : Grants s.log work.ref endpoint.action)
    (hstep : s.serve platform replies endpoint work = some s') : s'.Granted answers := by
  obtain ⟨ref, payload | size⟩ := work
  · cases endpoint with
    | attach => exact Option.some.inj hstep ▸ h.serveAttach hgrants
    | create => exact Option.some.inj hstep ▸ h.serveCreate hgrants
    | resize => exact Option.some.inj hstep ▸ h.serveResize hgrants
    | sessions => exact Option.some.inj hstep ▸ h.respond hgrants
    | status => exact Option.some.inj hstep ▸ h.respond hgrants
  · cases endpoint with
    | resize => exact Option.some.inj hstep ▸ h.finishResize hgrants
    | _ => exact nomatch hstep

/-! Data streams. -/

/-- A new stream is listed before it is accepted, and nothing is granted by that. -/
theorem streamCallback {id : StreamId} (hstep : s.streamCallback id = some s') :
    s'.Granted answers := by
  rw [App.streamCallback] at hstep
  split_ifs at hstep
  obtain rfl := Option.some.inj hstep
  refine h.setStreams fun as has hsetup => ?_
  obtain rfl | has := List.mem_cons.mp has
  · exact nomatch hsetup
  · exact h.streams as has hsetup

/-- Cleaning up takes an entry out of the map and adds none. -/
theorem cleanupActiveStream {as : ActiveStream} (has : as ∈ s.streams) :
    (s.cleanupActiveStream as).Granted answers := by
  rw [App.cleanupActiveStream]
  refine setSessionMap (h.advance has ?_ ?_) fun ref href => ?_
  · rfl
  · rfl
  · rw [SessionMap.remove, SlotTable.keys_erase] at href
    exact h.sessionMap ref (List.mem_of_mem_filter href)

/-- **A data stream is opened** behind the check of `connect`, and closed where that denies it. -/
theorem streamAccepted {iam : Iam} {as : ActiveStream} (has : as ∈ s.streams)
    (hiam : ∀ ref action, answers ref action (iam ref action.name)) :
    (s.streamAccepted iam as).Granted answers := by
  have hchecked := h.check (hiam as.id.ref .connect)
  rw [App.streamAccepted]
  split
  · rename_i entry hallowed hget
    refine hchecked.setStream fun _ => ?_
    rw [hallowed]
    exact List.mem_cons_self
  · exact hchecked.advance has rfl rfl

/-- The reader, the writer and the closing of a data stream: the PTY is used only by a stream that
has been accepted. -/
theorem streamStep {iam : Iam} {as : ActiveStream} {a : StreamAction} (has : as ∈ s.streams)
    (hiam : ∀ ref action, answers ref action (iam ref action.name))
    (hstep : s.streamStep platform iam as a = some s') : s'.Granted answers := by
  have hgrants : as.setup.isOpening = false → Grants s.log as.id.ref EntryPoint.dataStream.action :=
    h.streams as has
  cases a with
  | accepted ok =>
    simp only [App.streamStep] at hstep
    split_ifs at hstep with hpending hok
    · exact Option.some.inj hstep ▸ h.streamAccepted has hiam
    · exact Option.some.inj hstep ▸ h.cleanupActiveStream has
  | fork =>
    simp only [App.streamStep] at hstep
    split at hstep
    · rename_i session hsetup
      split_ifs at hstep
      rw [hsetup] at hgrants
      exact Option.some.inj hstep ▸ act (h.setStream hgrants) (hgrants rfl)
    · exact nomatch hstep
  | initDetector =>
    simp only [App.streamStep] at hstep
    split at hstep
    · rename_i session pty hsetup
      rw [hsetup] at hgrants
      exact Option.some.inj hstep ▸ act (h.setStream hgrants) (hgrants rfl)
    · exact nomatch hstep
  | output data =>
    simp only [App.streamStep] at hstep
    split_ifs at hstep with hready
    refine Option.some.inj hstep ▸ act (h.detect has) ?_
    exact grants_detect (hgrants (StreamSetup.isOpening_of_isReady hready))
  | input data =>
    simp only [App.streamStep] at hstep
    split_ifs at hstep with hready
    exact Option.some.inj hstep ▸ h.act (hgrants (StreamSetup.isOpening_of_isReady hready))
  | markClosing =>
    obtain rfl := Option.some.inj hstep
    exact h.advance has rfl rfl
  | startClose =>
    simp only [App.streamStep] at hstep
    split_ifs at hstep
    obtain rfl := Option.some.inj hstep
    exact h.advance has rfl rfl
  | closed =>
    simp only [App.streamStep] at hstep
    split_ifs at hstep
    exact Option.some.inj hstep ▸ h.cleanupActiveStream has
  | free =>
    simp only [App.streamStep] at hstep
    split_ifs at hstep
    obtain rfl := Option.some.inj hstep
    exact h.setStreams fun as has => h.streams as (List.mem_of_mem_filter has)

/-! Control streams. -/

/-- Flags of a control stream change, and its connection does not. -/
theorem modifyControlStream {id : StreamId} {f : ActiveControlStream → ActiveControlStream}
    (hf : ∀ cs, (f cs).id = cs.id) : (s.modifyControlStream id f).Granted answers := by
  refine h.setControlStreams fun cs hcs => ?_
  obtain ⟨before, hbefore, rfl⟩ := List.mem_map.mp hcs
  split_ifs
  · rw [hf]
    exact h.controlStreams before hbefore
  · exact h.controlStreams before hbefore

/-- A resolve goes to the detector of the same connection's data stream. -/
theorem resolvePromptForRef {resolve : PromptResolveMessage} :
    (s.resolvePromptForRef platform ref resolve).Granted answers := by
  rw [App.resolvePromptForRef]
  split
  · rename_i as instanceId has hid
    exact h.detect (firstStream_eq_some has).1
  · exact h

/-- A frame is acted on for the connection of the control stream that it came on. -/
theorem readFrame {cs : ActiveControlStream} {payload : List UInt8} (hcs : cs ∈ s.controlStreams) :
    (s.readFrame platform cs payload).Granted answers := by
  rw [App.readFrame]
  split_ifs
  · split
    · refine (h.act ?_).resolvePromptForRef
      exact h.controlStreams cs hcs
    · exact h
  · exact h.modifyControlStream fun cs => rfl

/-- **A control stream is listed** behind the check of `list_sessions`, and the monitor is started
by the first one. -/
theorem controlStreamAccepted {iam : Iam} {id : StreamId}
    (hiam : ∀ ref action, answers ref action (iam ref action.name)) :
    (s.controlStreamAccepted iam id).Granted answers := by
  have hchecked := h.check (hiam id.ref .listSessions)
  simp only [App.controlStreamAccepted]
  split_ifs with hallowed
  · have hgrants : Grants (s.record [.checked id.ref .listSessions
        (iam id.ref AccessAction.listSessions.name)]).log id.ref .listSessions := by
      rw [hallowed]
      exact List.mem_cons_self
    refine setMonitor (hchecked.setControlStreams fun cs hcs => ?_) ⟨id.ref, hgrants⟩
    obtain rfl | hcs := List.mem_cons.mp hcs
    · exact hgrants
    · exact hchecked.controlStreams cs hcs
  · exact hchecked

theorem controlStreamCallback {id : StreamId} (hstep : s.controlStreamCallback id = some s') :
    s'.Granted answers := by
  rw [App.controlStreamCallback] at hstep
  split_ifs at hstep
  exact Option.some.inj hstep ▸ h.setPending

theorem controlStreamStep {iam : Iam} {id : StreamId} {a : ControlStreamAction}
    (hiam : ∀ ref action, answers ref action (iam ref action.name))
    (hstep : s.controlStreamStep platform iam id a = some s') : s'.Granted answers := by
  cases a with
  | accepted ok =>
    simp only [App.controlStreamStep] at hstep
    split_ifs at hstep with hpending hok
    · exact Option.some.inj hstep ▸ h.setPending.controlStreamAccepted hiam
    · exact Option.some.inj hstep ▸ h.setPending
  | frame payload =>
    obtain ⟨cs, hcs, rfl⟩ := Option.map_eq_some_iff.mp hstep
    exact h.readFrame (controlStream?_eq_some hcs).1
  | markClosing => exact Option.some.inj hstep ▸ h.modifyControlStream fun cs => rfl
  | free =>
    obtain ⟨cs, hcs, hfree⟩ := Option.bind_eq_some_iff.mp hstep
    split_ifs at hfree
    obtain rfl := Option.some.inj hfree
    exact h.setControlStreams fun cs hcs => h.controlStreams cs (List.mem_of_mem_filter hcs)

/-! The monitor. -/

/-- The monitor takes the flags of some control streams; their connections stay as they are. -/
theorem takeFlags {fits : ActiveControlStream → Bool}
    {take : ActiveControlStream → ActiveControlStream} (htake : ∀ cs, (take cs).id = cs.id) :
    (s.takeFlags fits take).Granted answers := by
  refine h.setControlStreams fun cs hcs => ?_
  obtain ⟨before, hbefore, -, rfl⟩ | hcs := mem_of_mem_cappedWalk hcs
  · rw [htake]
    exact h.controlStreams before hbefore
  · exact h.controlStreams cs hcs

/-- **The monitor** polls tmux on the grant of whoever started it, and writes to each control stream
on its own. -/
theorem monitorStep {m : Monitor} {a : MonitorAction} (hm : s.monitor = some m)
    (hstep : s.monitorStep platform m a = some s') : s'.Granted answers := by
  have hgrants : ∃ ref, Grants s.log ref .listSessions := h.monitor (by rw [hm]; rfl)
  cases a with
  | poll listing =>
    simp only [App.monitorStep] at hstep
    split at hstep
    · obtain rfl := Option.some.inj hstep
      obtain ⟨ref, href⟩ := hgrants
      refine setMonitor (h.record fun entry hentry => ?_) ⟨ref, href.append⟩
      obtain rfl := List.mem_singleton.mp hentry
      exact ⟨ref, href⟩
    · exact nomatch hstep
  | syncSessions =>
    simp only [App.monitorStep] at hstep
    split at hstep
    · obtain rfl := Option.some.inj hstep
      obtain ⟨ref, href⟩ := hgrants
      refine setMonitor (send (h.takeFlags fun cs => ?_) fun id => h.snapshot)
        ⟨ref, grants_send href⟩
      rfl
    · exact nomatch hstep
  | takePromptFlags =>
    simp only [App.monitorStep] at hstep
    split at hstep
    · obtain rfl := Option.some.inj hstep
      refine setMonitor (h.takeFlags fun cs => ?_) hgrants
      rfl
    · exact nomatch hstep
  | copyActive =>
    simp only [App.monitorStep] at hstep
    split at hstep
    · exact Option.some.inj hstep ▸ h.setMonitor hgrants
    · exact nomatch hstep
  | sendPresent =>
    simp only [App.monitorStep] at hstep
    split at hstep
    · obtain rfl := Option.some.inj hstep
      obtain ⟨ref, href⟩ := hgrants
      exact setMonitor (h.send fun id => h.snapshot) ⟨ref, grants_send href⟩
    · exact nomatch hstep
  | sweep =>
    simp only [App.monitorStep] at hstep
    split at hstep
    · obtain rfl := Option.some.inj hstep
      refine setMonitor (h.setControlStreams fun cs hcs => ?_) hgrants
      obtain ⟨before, hbefore, rfl⟩ := List.mem_map.mp hcs
      split_ifs
      · exact h.controlStreams before hbefore
      · exact h.controlStreams before hbefore
    · exact nomatch hstep

/-- **The step lemma.** -/
theorem step {a : Iam × AgentAction} (hiam : ∀ ref action, answers ref action (a.1 ref action.name))
    (hstep : s.step platform a = some s') : s'.Granted answers := by
  obtain ⟨iam, a⟩ := a
  cases a with
  | request endpoint ref payload => exact h.request hiam hstep
  | serve endpoint replies =>
    obtain ⟨work, hwork, hstep⟩ := Option.bind_eq_some_iff.mp hstep
    exact h.serve (h.workers endpoint work hwork) hstep
  | newStream id => exact h.streamCallback hstep
  | stream id a =>
    obtain ⟨as, has, hstep⟩ := Option.bind_eq_some_iff.mp hstep
    exact h.streamStep (stream?_eq_some has).1 hiam hstep
  | newControlStream id => exact h.controlStreamCallback hstep
  | controlStream id a => exact h.controlStreamStep hiam hstep
  | monitor a =>
    obtain ⟨m, hm, hstep⟩ := Option.bind_eq_some_iff.mp hstep
    exact h.monitorStep hm hstep

end Granted

end

end App

end TmuxRemote
