import TmuxRemote.Agent.App
import TmuxRemote.Ios.Overlay

/-!
# Ios/SessionSwitch — which session an answer is typed into (`TerminalScreen.swift`)

A connection and its control stream stay open while the user goes from session to session, each with
a data stream of its own.  The detectors of all of them present their prompts on the one control
stream, and no frame says which data stream it is about.  The overlay of whatever screen is there
takes it up, and `onAction` writes to whatever data stream is stored.

So answers stay in their session exactly if the overlay takes up nothing but prompts of the stream
that is stored, and no stream is stored under a prompt of another (`answered_in_session_iff`).

Data streams are numbered in the order in which the app opens them.
-/

namespace TmuxRemote

/-! ## The agent's side -/

/-- What prompts need of a `tmuxremote_active_stream`. -/
structure PromptingStream where
  sessionName : CString
  setup : StreamSetup
  /-- `pty_reader_thread` has found `closing` not set, and reads. -/
  reading : Bool
  closing : Bool
  closeStarted : Bool
  /-- It is in `activeStreams`. -/
  listed : Bool

/-- A frame of a prompt event, with the data stream whose detector it is from. -/
structure PromptFrame where
  sender : ℕ
  frame : List UInt8
  deriving DecidableEq

/-- The agent's side of the connection. -/
structure SwitchAgent where
  /-- The connection's entry in the session map. -/
  entry : Option SessionEntry
  streams : List PromptingStream
  /-- What has been sent on the control stream. -/
  sent : List PromptFrame
  /-- The instance ids of the answers on their way. -/
  resolves : List (List UInt8)

/-- A step of a data stream. -/
inductive PromptingAction
  /-- `stream_accepted` -/
  | accepted
  /-- `stream_setup_thread` -/
  | setUp
  /-- `pty_reader_thread` looks whether its stream is closing. -/
  | testClosing
  /-- Its read returns, and the detector is fed. -/
  | output (data : List UInt8)
  /-- Some thread sets `closing`. -/
  | setClosing
  /-- `start_stream_close_once`, by one of the stream's threads. -/
  | startClose
  /-- `stream_closed`, `cleanup_active_stream` -/
  | closed

/-- A step of the agent. -/
inductive SwitchAgentAction
  | stream (n : ℕ) (action : PromptingAction)
  /-- The reader of the control stream gets an answer; each is written by a task of its own. -/
  | readResolve (k : ℕ)

/-- `stream_callback` -/
def PromptingStream.new : PromptingStream where
  sessionName := .ofString ""
  setup := .opening
  reading := false
  closing := false
  closeStarted := false
  listed := true

namespace SwitchAgent

/-- Nothing has been attached or opened. -/
def init : SwitchAgent := { entry := none, streams := [], sent := [], resolves := [] }

variable (a : SwitchAgent)

def setStream (n : ℕ) (st : PromptingStream) : SwitchAgent :=
  { a with streams := a.streams.set n st }

/-- `stream_accepted`, with `Terminal:Connect` granted. -/
def accept (n : ℕ) (st : PromptingStream) : SwitchAgent :=
  match a.entry with
  | none => a.setStream n { st with closeStarted := true }
  | some entry =>
    a.setStream n { st with
      sessionName := entry.sessionName.truncate (sessionNameMax - 1)
      setup := .accepted { cols := entry.cols, rows := entry.rows } }

/-- The first in `activeStreams`, where the newest is first, with a detector and not closing. -/
def firstStream : Option ℕ :=
  (List.range a.streams.length).reverse.find? fun n =>
    a.streams[n]?.any fun st => st.listed && !st.closing && st.setup.isReady

section
variable (platform : Platform)

/-- A call of a detector; `prompt_stream_callback` sends its events. -/
def detect (n : ℕ) (st : PromptingStream) (call : DetectorCall) : SwitchAgent :=
  match st.setup.detect platform.compile platform.ids call with
  | (setup, events) =>
    { a.setStream n { st with setup := setup } with
      sent := a.sent ++ (events.filterMap (App.eventFrame platform)).map (PromptFrame.mk n) }

/-- `tmuxremote_stream_resolve_prompt_for_ref` -/
def resolve (instanceId : List UInt8) : SwitchAgent :=
  match a.firstStream with
  | none => a
  | some n =>
    (a.streams[n]?.map fun st =>
      a.detect platform n st (.resolve (CString.ofBytes instanceId))).getD a

/-- A step of a data stream; `none` when it cannot be taken. -/
def streamStep (n : ℕ) (st : PromptingStream) : PromptingAction → Option SwitchAgent
  | .accepted =>
    if st.setup.isOpening && st.listed && !st.closeStarted then some (a.accept n st) else none
  | .setUp =>
    match st.setup with
    | .accepted session =>
      if st.closing then none
      else
        let detector := StreamGeometry.setupDetector platform.ruleset session
        some (a.setStream n { st with setup := .ready session session detector })
    | _ => none
  | .testClosing =>
    if st.setup.isReady && !st.closing then some (a.setStream n { st with reading := true })
    else none
  | .output data =>
    if st.reading then some (a.detect platform n { st with reading := false } (.feed data))
    else none
  | .setClosing => some (a.setStream n { st with closing := true })
  | .startClose =>
    if st.closing && !st.closeStarted then some (a.setStream n { st with closeStarted := true })
    else none
  | .closed =>
    if st.closeStarted && st.listed then
      some { a.setStream n { st with closing := true, listed := false } with entry := none }
    else none

/-- A step of the agent; `none` when it cannot be taken. -/
def step : SwitchAgentAction → Option SwitchAgent
  | .stream n action => a.streams[n]?.bind fun st => a.streamStep platform n st action
  | .readResolve k =>
    a.resolves[k]?.map fun instanceId =>
      { a with resolves := a.resolves.eraseIdx k }.resolve platform instanceId

end

end SwitchAgent

/-! ## The app's side -/

namespace PatternEngine

variable {T : Type*}

section
variable [AddCommGroup T] [LinearOrder T] (settings : EngineSettings T) (e : PatternEngine T)

/-- What the callback of `setupCallbacks` does with an event. -/
def applyEvent (now : T) : ControlStreamEvent → PatternEngine T
  | .patternPresent pattern => e.applyServerPresent settings now pattern
  | .patternUpdate pattern => e.applyServerUpdate now pattern
  | .patternGone instanceId => e.applyServerGone settings now instanceId
  | .sessions _ => e

/-- The match that an event puts on show. -/
def takenUp (now : T) : ControlStreamEvent → Option PatternMatch
  | .patternPresent pattern => if e.holdsBack settings now pattern then none else some pattern
  | .patternUpdate pattern => if e.isActive pattern.id then some pattern else none
  | .patternGone _ | .sessions _ => none

end

/-! ### The active match -/

variable {settings : EngineSettings T} {e : PatternEngine T} {pattern : PatternMatch}

theorem activeMatch_applyServerUpdate (now : T) :
    (e.applyServerUpdate now pattern).activeMatch
      = if e.isActive pattern.id then some pattern else e.activeMatch := by
  rw [applyServerUpdate]
  split_ifs <;> rfl

theorem activeMatch_fireGoneClear (instanceId : List UInt8) :
    (e.fireGoneClear instanceId).activeMatch = e.activeMatch
      ∨ (e.fireGoneClear instanceId).activeMatch = none := by
  rw [fireGoneClear]
  split_ifs
  · exact Or.inr rfl
  · exact Or.inl rfl

theorem activeMatch_dismissLocally (instanceId : List UInt8) :
    (e.dismissLocally instanceId).activeMatch = e.activeMatch := by
  rw [dismissLocally]
  split_ifs <;> rfl

theorem activeMatch_restoreOverlay : e.restoreOverlay.activeMatch = e.activeMatch := by
  rw [restoreOverlay]
  split_ifs <;> rfl

theorem activeMatch_resolveLocally (now : T) (h : e.activeMatch = some pattern) :
    (e.resolveLocally settings now pattern.id).activeMatch = none := by
  rw [resolveLocally, h]
  dsimp only
  rw [if_pos rfl]
  rfl

theorem activeMatch_of_visibleMatch (h : e.visibleMatch = some pattern) :
    e.activeMatch = some pattern := by
  rw [visibleMatch] at h
  split_ifs at h
  exact h

/-- The pill brings a hidden match back. -/
theorem visibleMatch_restoreOverlay : e.restoreOverlay.visibleMatch = e.activeMatch := by
  rw [restoreOverlay]
  cases hactive : e.activeMatch with
  | none =>
    rw [if_neg (by simp), visibleMatch, hactive, ite_self]
  | some pattern =>
    rw [if_pos (by simp), visibleMatch, ← hactive]
    rfl

section
variable [AddCommGroup T] [LinearOrder T]

theorem activeMatch_applyServerPresent (now : T) :
    (e.applyServerPresent settings now pattern).activeMatch
      = if e.holdsBack settings now pattern then e.activeMatch else some pattern := by
  cases hheld : e.holdsBack settings now pattern with
  | true => exact (applyServerPresent_of_holdsBack hheld).1
  | false => exact (applyServerPresent_of_not_holdsBack hheld).1

theorem activeMatch_applyServerGone (now : T) (instanceId : List UInt8) :
    (e.applyServerGone settings now instanceId).activeMatch = e.activeMatch
      ∨ (e.applyServerGone settings now instanceId).activeMatch = none := by
  rw [applyServerGone]
  split_ifs with hactive
  · dsimp only
    split_ifs
    · exact Or.inl rfl
    · exact Or.inr rfl
  · exact Or.inl rfl

/-- An event that is taken up is on show. -/
theorem activeMatch_of_takenUp {now : T} {event : ControlStreamEvent}
    (h : e.takenUp settings now event = some pattern) :
    (e.applyEvent settings now event).activeMatch = some pattern := by
  cases event with
  | patternPresent incoming =>
    obtain ⟨hheld, hsame⟩ := Option.ite_none_left_eq_some.mp h
    rw [← hsame]
    exact (activeMatch_applyServerPresent now).trans (if_neg hheld)
  | patternUpdate incoming =>
    obtain ⟨hactive, hsame⟩ := Option.ite_none_right_eq_some.mp h
    rw [← hsame]
    exact (activeMatch_applyServerUpdate now).trans (if_pos hactive)
  | patternGone instanceId => cases h
  | sessions list => cases h

/-- An event that is not leaves on show what is there, or takes it off. -/
theorem activeMatch_of_not_takenUp {now : T} {event : ControlStreamEvent}
    (h : e.takenUp settings now event = none) :
    (e.applyEvent settings now event).activeMatch = e.activeMatch
      ∨ (e.applyEvent settings now event).activeMatch = none := by
  cases event with
  | patternPresent incoming =>
    have hheld : e.holdsBack settings now incoming = true := by
      by_contra hnot
      exact nomatch (if_neg hnot).symm.trans h
    exact Or.inl ((activeMatch_applyServerPresent now).trans (if_pos hheld))
  | patternUpdate incoming =>
    have hinactive : ¬ e.isActive incoming.id = true := fun hactive =>
      nomatch (if_pos hactive).symm.trans h
    exact Or.inl ((activeMatch_applyServerUpdate now).trans (if_neg hinactive))
  | patternGone instanceId => exact activeMatch_applyServerGone now instanceId
  | sessions list => exact Or.inl rfl

end

end PatternEngine

/-- Keys that `onAction` has written. -/
structure OverlayAnswer where
  keys : List UInt8
  /-- The data stream that they were written to. -/
  stream : ℕ
  pattern : PatternMatch
  /-- The data stream whose detector sent the match. -/
  sender : Option ℕ
  deriving DecidableEq

/-- The app's side of the connection. -/
structure SwitchApp (T : Type*) where
  stream : Option ℕ
  /-- The streams whose `openAsync` has not returned. -/
  opening : List ℕ
  /-- `onPatternEvent` is set. -/
  listens : Bool
  engine : PatternEngine T
  /-- The data stream whose detector sent the active match. -/
  sender : Option ℕ
  /-- How many frames `controlReadLoop` has passed on. -/
  received : ℕ
  answers : List OverlayAnswer

/-- A connection with one control stream. -/
structure SessionSwitch (T : Type*) where
  agent : SwitchAgent
  app : SwitchApp T

/-- A step of either side. -/
inductive SwitchAction (T : Type*)
  | agent (action : SwitchAgentAction)
  | dismissToDevices
  /-- A new `TerminalScreen` appears. -/
  | setupCallbacks
  /-- The agent handles the request. -/
  | attach (entry : SessionEntry)
  | openStream
  /-- `openAsync` returns. -/
  | openAsync (n : ℕ) (ok : Bool)
  /-- `controlReadLoop` passes on the next frame. -/
  | receive (now : T)
  /-- The work item of the engine is due. -/
  | goneClear
  | onDismiss
  | restoreOverlay
  | onAction (now : T) (action : ResolvedAction)

namespace SwitchApp

variable {T : Type*} (app : SwitchApp T)

/-- No screen has been opened. -/
def init : SwitchApp T where
  stream := none
  opening := []
  listens := false
  engine := .init
  sender := none
  received := 0
  answers := []

def setEngine (engine : PatternEngine T) : SwitchApp T := { app with engine := engine }

/-- `openAsync` of a stream returns. -/
def opened (n : ℕ) (ok : Bool) : SwitchApp T :=
  { app with
    opening := app.opening.erase n
    stream := if ok then some n else app.stream }

section
variable [AddCommGroup T] [LinearOrder T] (swift : SwiftCbor) (settings : EngineSettings T)

/-- The event of a frame, if a screen hears it. -/
def heard (frame : PromptFrame) : Option ControlStreamEvent :=
  if app.listens then decodeControlStreamEvent swift (frame.frame.drop 4) else none

/-- The match that a frame puts on show. -/
def takenUp (now : T) (frame : PromptFrame) : Option PatternMatch :=
  (app.heard swift frame).bind fun event => app.engine.takenUp settings now event

/-- `controlReadLoop` goes on to the next frame. -/
def receive (now : T) (frame : PromptFrame) : SwitchApp T :=
  { app with
    received := app.received + 1
    engine := ((app.heard swift frame).map fun event =>
      app.engine.applyEvent settings now event).getD app.engine
    sender := if (app.takenUp swift settings now frame).isSome then some frame.sender
      else app.sender }

/-- `onAction`: `writeToStream`, where a stream is stored, and `resolveLocally`. -/
def answer (now : T) (pattern : PatternMatch) (action : ResolvedAction) : SwitchApp T :=
  { app with
    engine := app.engine.resolveLocally settings now pattern.id
    answers := app.answers ++ (app.stream.map fun n =>
      { keys := action.keys, stream := n, pattern := pattern, sender := app.sender }).toList }

end

end SwitchApp

/-! ## The connection -/

namespace SessionSwitch

variable {T : Type*}

def init : SessionSwitch T := { agent := .init, app := .init }

def setApp (s : SessionSwitch T) (app : SwitchApp T) : SessionSwitch T := { s with app := app }

variable [AddCommGroup T] [LinearOrder T] (platform : Platform) (swift : SwiftCbor)
  (settings : EngineSettings T)

/-- One step; `none` when it cannot be taken. -/
def step (s : SessionSwitch T) : SwitchAction T → Option (SessionSwitch T)
  | .agent action => (s.agent.step platform action).map fun agent => { s with agent := agent }
  | .dismissToDevices => some (s.setApp { s.app with listens := false, stream := none })
  | .setupCallbacks =>
    some (s.setApp { s.app with listens := true, engine := .init, sender := none })
  | .attach entry => some { s with agent := { s.agent with entry := some entry } }
  | .openStream =>
    some {
      agent := { s.agent with streams := s.agent.streams ++ [.new] }
      app := { s.app with opening := s.app.opening ++ [s.agent.streams.length] } }
  | .openAsync n ok => if n ∈ s.app.opening then some (s.setApp (s.app.opened n ok)) else none
  | .receive now =>
    s.agent.sent[s.app.received]?.map fun frame => s.setApp (s.app.receive swift settings now frame)
  | .goneClear =>
    s.app.engine.pendingGoneWorkItem.map fun item =>
      s.setApp (s.app.setEngine (s.app.engine.fireGoneClear item.1))
  | .onDismiss =>
    s.app.engine.visibleMatch.map fun pattern =>
      s.setApp (s.app.setEngine (s.app.engine.dismissLocally pattern.id))
  | .restoreOverlay => some (s.setApp (s.app.setEngine s.app.engine.restoreOverlay))
  | .onAction now action =>
    s.app.engine.visibleMatch.bind fun pattern =>
      if action ∈ pattern.actions then
        -- `sendPatternResolve`
        some {
          agent := { s.agent with resolves := s.agent.resolves ++ [pattern.id] }
          app := s.app.answer settings now pattern action }
      else none

end SessionSwitch

/-! ## Answers and their sessions -/

/-- The detector of the stream has sent the match, as new or changed. -/
def SwitchAgent.Emitted (swift : SwiftCbor) (a : SwitchAgent) (n : ℕ) (pattern : PatternMatch) :
    Prop :=
  ∃ frame ∈ a.sent, frame.sender = n
    ∧ (decodeControlStreamEvent swift (frame.frame.drop 4) = some (.patternPresent pattern)
      ∨ decodeControlStreamEvent swift (frame.frame.drop 4) = some (.patternUpdate pattern))

instance (swift : SwiftCbor) (a : SwitchAgent) (n : ℕ) (pattern : PatternMatch) :
    Decidable (a.Emitted swift n pattern) :=
  inferInstanceAs (Decidable (∃ frame ∈ a.sent, frame.sender = n
    ∧ (decodeControlStreamEvent swift (frame.frame.drop 4) = some (.patternPresent pattern)
      ∨ decodeControlStreamEvent swift (frame.frame.drop 4) = some (.patternUpdate pattern))))

namespace SessionSwitch

variable {T : Type*} [AddCommGroup T] [LinearOrder T] (platform : Platform) (swift : SwiftCbor)
  (settings : EngineSettings T)

/-- What has been written went to the stream whose detector sent the match. -/
def Answered (s : SessionSwitch T) : Prop := ∀ a ∈ s.app.answers, a.sender = some a.stream

/-- And so would an answer now. -/
def Answerable (s : SessionSwitch T) : Prop :=
  s.Answered ∧ ∀ now action t, Guarded.run (step platform swift settings) s
    [.restoreOverlay, .onAction now action] = some t → t.Answered

/-- The data stream and the match of the next frame, if it is to put one on show. -/
def nextTakenUp (s : SessionSwitch T) (now : T) : Option (ℕ × PatternMatch) :=
  s.agent.sent[s.app.received]?.bind fun frame =>
    (s.app.takenUp swift settings now frame).map fun pattern => (frame.sender, pattern)

/-- While a stream is stored, a match that is taken up is of that stream, and a stream is stored
under no match but its own, where a match is one with an action. -/
def Orderly (s : SessionSwitch T) : SwitchAction T → Prop
  | .receive now =>
    ∀ next ∈ s.nextTakenUp swift settings now, next.2.actions ≠ [] →
      ∀ n ∈ s.app.stream, next.1 = n
  | .openAsync n true =>
    ∀ pattern ∈ s.app.engine.activeMatch, pattern.actions ≠ [] → s.app.sender = some n
  | .openAsync _ false | .agent _ | .dismissToDevices | .setupCallbacks | .attach _ | .openStream
  | .goneClear | .onDismiss | .restoreOverlay | .onAction _ _ => True

instance (s : SessionSwitch T) : DecidablePred (s.Orderly swift settings)
  | .receive now =>
    inferInstanceAs (Decidable (∀ next ∈ s.nextTakenUp swift settings now,
      next.2.actions ≠ [] → ∀ n ∈ s.app.stream, next.1 = n))
  | .openAsync n true =>
    inferInstanceAs (Decidable (∀ pattern ∈ s.app.engine.activeMatch,
      pattern.actions ≠ [] → s.app.sender = some n))
  | .openAsync _ false | .agent _ | .dismissToDevices | .setupCallbacks | .attach _ | .openStream
  | .goneClear | .onDismiss | .restoreOverlay | .onAction _ _ => inferInstanceAs (Decidable True)

end SessionSwitch

namespace SwitchApp

/-- A match on show with an action is of the stream that is stored, if one is. -/
def ShowsOwn {T : Type*} (app : SwitchApp T) : Prop :=
  ∀ pattern ∈ app.engine.activeMatch, pattern.actions ≠ [] → ∀ n ∈ app.stream, app.sender = some n

section
variable {T : Type*} {app app' : SwitchApp T}

theorem ShowsOwn.congr (h : app.ShowsOwn) (hstream : app'.stream = app.stream)
    (hsender : app'.sender = app.sender)
    (hactive : app'.engine.activeMatch = app.engine.activeMatch ∨ app'.engine.activeMatch = none) :
    app'.ShowsOwn := by
  intro pattern hpattern hactions n hn
  rw [hsender]
  obtain hsame | hnone := hactive
  · exact h pattern (hsame ▸ hpattern) hactions n (hstream ▸ hn)
  · exact nomatch hnone.symm.trans hpattern

variable {swift : SwiftCbor} {settings : EngineSettings T} {now : T} {frame : PromptFrame}
  {pattern : PatternMatch}

/-- An answer is one more entry, where a stream is stored. -/
theorem forall_answers_answer {action : ResolvedAction} :
    (∀ a ∈ (app.answer settings now pattern action).answers, a.sender = some a.stream)
      ↔ (∀ a ∈ app.answers, a.sender = some a.stream) ∧ ∀ n ∈ app.stream, app.sender = some n := by
  refine List.forall_mem_append.trans (and_congr_right fun _ => ?_)
  simp

variable [AddCommGroup T] [LinearOrder T]

/-- A frame whose match is taken up. -/
theorem receive_of_takenUp (h : app.takenUp swift settings now frame = some pattern) :
    (app.receive swift settings now frame).engine.activeMatch = some pattern
      ∧ (app.receive swift settings now frame).sender = some frame.sender := by
  obtain ⟨event, hheard, htaken⟩ := Option.bind_eq_some_iff.mp h
  refine ⟨?_, if_pos (by rw [h]; rfl)⟩
  rw [receive, hheard]
  exact PatternEngine.activeMatch_of_takenUp htaken

/-- A frame that puts nothing on show. -/
theorem receive_of_not_takenUp (h : app.takenUp swift settings now frame = none) :
    ((app.receive swift settings now frame).engine.activeMatch = app.engine.activeMatch
        ∨ (app.receive swift settings now frame).engine.activeMatch = none)
      ∧ (app.receive swift settings now frame).sender = app.sender := by
  refine ⟨?_, if_neg (by rw [h]; exact Bool.false_ne_true)⟩
  rw [receive]
  rw [takenUp] at h
  cases hheard : app.heard swift frame with
  | none => exact Or.inl rfl
  | some event =>
    rw [hheard] at h
    exact PatternEngine.activeMatch_of_not_takenUp h

end

end SwitchApp

namespace SessionSwitch

section
variable {T : Type*} [AddCommGroup T] [LinearOrder T] {platform : Platform} {swift : SwiftCbor}
  {settings : EngineSettings T} {s s' : SessionSwitch T}

/-- What an answer now would be. -/
theorem run_restoreOverlay_onAction {now : T} {action : ResolvedAction} {t : SessionSwitch T} :
    Guarded.run (step platform swift settings) s [.restoreOverlay, .onAction now action] = some t
      ↔ ∃ pattern, s.app.engine.activeMatch = some pattern ∧ action ∈ pattern.actions ∧ t = {
        agent := { s.agent with resolves := s.agent.resolves ++ [pattern.id] }
        app := (s.app.setEngine s.app.engine.restoreOverlay).answer settings now pattern
          action } := by
  have hstep : Guarded.run (step platform swift settings) s [.restoreOverlay, .onAction now action]
      = (s.setApp (s.app.setEngine s.app.engine.restoreOverlay)).step platform swift settings
        (.onAction now action) := Option.bind_fun_some _
  rw [hstep, step]
  simp only [Option.bind_eq_some_iff, Option.ite_none_right_eq_some, Option.some.injEq]
  refine exists_congr fun pattern => and_congr ?_ (and_congr_right fun _ => eq_comm)
  rw [← PatternEngine.visibleMatch_restoreOverlay]
  rfl

theorem answerable_iff :
    s.Answerable platform swift settings ↔ s.Answered ∧ s.app.ShowsOwn := by
  refine and_congr_right fun hanswered => ⟨fun h pattern hpattern hactions => ?_,
    fun h now action t ht => ?_⟩
  · obtain ⟨action, haction⟩ := List.exists_mem_of_ne_nil _ hactions
    have hright := h 0 action _ (run_restoreOverlay_onAction.mpr ⟨pattern, hpattern, haction, rfl⟩)
    exact (SwitchApp.forall_answers_answer.mp hright).2
  · obtain ⟨pattern, hpattern, haction, rfl⟩ := run_restoreOverlay_onAction.mp ht
    exact SwitchApp.forall_answers_answer.mpr
      ⟨hanswered, h pattern hpattern (List.ne_nil_of_mem haction)⟩

theorem nextTakenUp_of_frame {frame : PromptFrame} (h : s.agent.sent[s.app.received]? = some frame)
    (now : T) : s.nextTakenUp swift settings now
      = (s.app.takenUp swift settings now frame).map fun pattern => (frame.sender, pattern) := by
  rw [nextTakenUp, h]
  rfl

/-- **What leads astray.**  From a state in which an answer goes where it belongs, just the steps
that are not orderly lead to one in which it does not. -/
theorem answered_showsOwn_iff {a : SwitchAction T} (h : s.Answered ∧ s.app.ShowsOwn)
    (hs : s.step platform swift settings a = some s') :
    s'.Answered ∧ s'.app.ShowsOwn ↔ s.Orderly swift settings a := by
  obtain ⟨hanswered, hshows⟩ := h
  cases a with
  | agent action =>
    obtain ⟨agent, -, rfl⟩ := Option.map_eq_some_iff.mp hs
    exact iff_of_true ⟨hanswered, hshows⟩ trivial
  | dismissToDevices =>
    obtain rfl := Option.some.inj hs
    exact iff_of_true ⟨hanswered, fun _ _ _ _ hn => (nomatch hn)⟩ trivial
  | setupCallbacks =>
    obtain rfl := Option.some.inj hs
    exact iff_of_true ⟨hanswered, fun _ hpattern => (nomatch hpattern)⟩ trivial
  | attach entry =>
    obtain rfl := Option.some.inj hs
    exact iff_of_true ⟨hanswered, hshows⟩ trivial
  | openStream =>
    obtain rfl := Option.some.inj hs
    exact iff_of_true ⟨hanswered, hshows⟩ trivial
  | openAsync n ok =>
    obtain ⟨-, hs⟩ := Option.ite_none_right_eq_some.mp hs
    obtain rfl := Option.some.inj hs
    cases ok with
    | false => exact iff_of_true ⟨hanswered, hshows⟩ trivial
    | true =>
      refine (and_iff_right hanswered).trans ⟨fun h pattern hpattern hactions => ?_, ?_⟩
      · exact h pattern hpattern hactions n rfl
      · rintro h pattern hpattern hactions _ ⟨⟩
        exact h pattern hpattern hactions
  | receive now =>
    obtain ⟨frame, hframe, rfl⟩ := Option.map_eq_some_iff.mp hs
    refine (and_iff_right hanswered).trans ?_
    cases htaken : s.app.takenUp swift settings now frame with
    | none =>
      obtain ⟨hactive, hsender⟩ := SwitchApp.receive_of_not_takenUp htaken
      refine iff_of_true (hshows.congr rfl hsender hactive) fun next hnext => ?_
      rw [nextTakenUp_of_frame hframe, htaken] at hnext
      cases hnext
    | some pattern =>
      obtain ⟨hactive, hsender⟩ := SwitchApp.receive_of_takenUp htaken
      have hnext : s.nextTakenUp swift settings now = some (frame.sender, pattern) := by
        rw [nextTakenUp_of_frame hframe, htaken, Option.map_some]
      constructor
      · intro h next hmem hactions n hn
        obtain rfl := Option.some.inj (hnext.symm.trans hmem)
        exact Option.some.inj (hsender.symm.trans (h pattern hactive hactions n hn))
      · intro h shown hshown hactions n hn
        obtain rfl := Option.some.inj (hactive.symm.trans hshown)
        exact hsender.trans (congrArg some (h _ hnext hactions n hn))
  | goneClear =>
    obtain ⟨item, -, rfl⟩ := Option.map_eq_some_iff.mp hs
    exact iff_of_true ⟨hanswered, hshows.congr rfl rfl
      (PatternEngine.activeMatch_fireGoneClear item.1)⟩ trivial
  | onDismiss =>
    obtain ⟨pattern, -, rfl⟩ := Option.map_eq_some_iff.mp hs
    exact iff_of_true ⟨hanswered, hshows.congr rfl rfl
      (Or.inl (PatternEngine.activeMatch_dismissLocally pattern.id))⟩ trivial
  | restoreOverlay =>
    obtain rfl := Option.some.inj hs
    exact iff_of_true ⟨hanswered, hshows.congr rfl rfl
      (Or.inl PatternEngine.activeMatch_restoreOverlay)⟩ trivial
  | onAction now action =>
    obtain ⟨pattern, hvisible, hs⟩ := Option.bind_eq_some_iff.mp hs
    obtain ⟨haction, hs⟩ := Option.ite_none_right_eq_some.mp hs
    obtain rfl := Option.some.inj hs
    have hactive := PatternEngine.activeMatch_of_visibleMatch hvisible
    refine iff_of_true ⟨SwitchApp.forall_answers_answer.mpr ⟨hanswered, ?_⟩, ?_⟩ trivial
    · exact hshows pattern hactive (List.ne_nil_of_mem haction)
    · intro shown hshown
      exact nomatch (PatternEngine.activeMatch_resolveLocally now hactive).symm.trans hshown

end

end SessionSwitch

/-! ## Where a match comes from -/

namespace SwitchAgent

variable {platform : Platform} {swift : SwiftCbor} {a a' : SwitchAgent} {n : ℕ}
  {st : PromptingStream} {pattern : PatternMatch}

theorem Emitted.mono (h : a.Emitted swift n pattern) (hsent : a.sent ⊆ a'.sent) :
    a'.Emitted swift n pattern := by
  obtain ⟨frame, hframe, hcarries⟩ := h
  exact ⟨frame, hsent hframe, hcarries⟩

theorem sent_subset_detect (call : DetectorCall) : a.sent ⊆ (a.detect platform n st call).sent :=
  List.subset_append_left _ _

theorem sent_subset_resolve (instanceId : List UInt8) :
    a.sent ⊆ (a.resolve platform instanceId).sent := by
  rw [resolve]
  cases a.firstStream with
  | none => exact List.Subset.refl _
  | some n =>
    dsimp only
    cases a.streams[n]? with
    | none => exact List.Subset.refl _
    | some st => exact sent_subset_detect (.resolve (CString.ofBytes instanceId))

theorem sent_subset_streamStep {action : PromptingAction}
    (h : a.streamStep platform n st action = some a') : a.sent ⊆ a'.sent := by
  cases action with
  | accepted =>
    obtain ⟨-, h⟩ := Option.ite_none_right_eq_some.mp h
    obtain rfl := Option.some.inj h
    rw [accept]
    cases a.entry <;> exact List.Subset.refl _
  | setUp =>
    rw [streamStep] at h
    split at h
    · obtain ⟨-, h⟩ := Option.ite_none_left_eq_some.mp h
      obtain rfl := Option.some.inj h
      exact List.Subset.refl _
    · cases h
  | output data =>
    obtain ⟨-, h⟩ := Option.ite_none_right_eq_some.mp h
    obtain rfl := Option.some.inj h
    exact sent_subset_detect _
  | setClosing =>
    obtain rfl := Option.some.inj h
    exact List.Subset.refl _
  | testClosing | startClose | closed =>
    obtain ⟨-, h⟩ := Option.ite_none_right_eq_some.mp h
    obtain rfl := Option.some.inj h
    exact List.Subset.refl _

/-- Nothing that has been sent is taken back. -/
theorem sent_subset_step {action : SwitchAgentAction} (h : a.step platform action = some a') :
    a.sent ⊆ a'.sent := by
  cases action with
  | stream n action =>
    obtain ⟨st, -, h⟩ := Option.bind_eq_some_iff.mp h
    exact sent_subset_streamStep h
  | readResolve k =>
    obtain ⟨instanceId, -, rfl⟩ := Option.map_eq_some_iff.mp h
    exact sent_subset_resolve (a := { a with resolves := a.resolves.eraseIdx k }) instanceId

end SwitchAgent

namespace PatternEngine

theorem eq_of_takenUp {T : Type*} [AddCommGroup T] [LinearOrder T] {settings : EngineSettings T}
    {e : PatternEngine T} {now : T} {event : ControlStreamEvent} {pattern : PatternMatch}
    (h : e.takenUp settings now event = some pattern) :
    event = .patternPresent pattern ∨ event = .patternUpdate pattern := by
  cases event with
  | patternPresent incoming =>
    obtain ⟨-, hsame⟩ := Option.ite_none_left_eq_some.mp h
    exact Or.inl (congrArg _ (Option.some.inj hsame))
  | patternUpdate incoming =>
    obtain ⟨-, hsame⟩ := Option.ite_none_right_eq_some.mp h
    exact Or.inr (congrArg _ (Option.some.inj hsame))
  | patternGone instanceId => cases h
  | sessions list => cases h

end PatternEngine

namespace SessionSwitch

variable {T : Type*} {swift : SwiftCbor}

/-- What is on show, and what has been answered, was sent by the detector it is put down to. -/
structure Traced (swift : SwiftCbor) (s : SessionSwitch T) : Prop where
  active : ∀ pattern ∈ s.app.engine.activeMatch,
    ∃ n ∈ s.app.sender, s.agent.Emitted swift n pattern
  answers : ∀ a ∈ s.app.answers, ∃ n ∈ a.sender, s.agent.Emitted swift n a.pattern

theorem Traced.init : Traced swift (init : SessionSwitch T) :=
  ⟨fun _ h => (nomatch h), fun _ h => (nomatch h)⟩

/-- What is on show stays, or goes. -/
theorem Traced.congr {s s' : SessionSwitch T} (h : s.Traced swift)
    (hsent : s.agent.sent ⊆ s'.agent.sent) (hsender : s'.app.sender = s.app.sender)
    (hactive : s'.app.engine.activeMatch = s.app.engine.activeMatch
      ∨ s'.app.engine.activeMatch = none)
    (hanswers : s'.app.answers = s.app.answers) : s'.Traced swift := by
  refine ⟨fun pattern hpattern => ?_, fun a ha => ?_⟩
  · obtain hsame | hnone := hactive
    · obtain ⟨n, hn, hemitted⟩ := h.active pattern (hsame ▸ hpattern)
      exact ⟨n, hsender ▸ hn, hemitted.mono hsent⟩
    · exact nomatch hnone.symm.trans hpattern
  · obtain ⟨n, hn, hemitted⟩ := h.answers a (hanswers ▸ ha)
    exact ⟨n, hn, hemitted.mono hsent⟩

variable [AddCommGroup T] [LinearOrder T] {platform : Platform} {settings : EngineSettings T}

theorem Traced.step {s s' : SessionSwitch T} {a : SwitchAction T} (h : s.Traced swift)
    (hs : s.step platform swift settings a = some s') : s'.Traced swift := by
  have hrefl := List.Subset.refl s.agent.sent
  cases a with
  | agent action =>
    obtain ⟨agent, hagent, rfl⟩ := Option.map_eq_some_iff.mp hs
    exact h.congr (SwitchAgent.sent_subset_step hagent) rfl (Or.inl rfl) rfl
  | dismissToDevices | attach | openStream =>
    obtain rfl := Option.some.inj hs
    exact h.congr hrefl rfl (Or.inl rfl) rfl
  | setupCallbacks =>
    obtain rfl := Option.some.inj hs
    exact ⟨fun _ hpattern => (nomatch hpattern), h.answers⟩
  | openAsync n ok =>
    obtain ⟨-, hs⟩ := Option.ite_none_right_eq_some.mp hs
    obtain rfl := Option.some.inj hs
    exact h.congr hrefl rfl (Or.inl rfl) rfl
  | receive now =>
    obtain ⟨frame, hframe, rfl⟩ := Option.map_eq_some_iff.mp hs
    cases htaken : s.app.takenUp swift settings now frame with
    | none =>
      obtain ⟨hactive, hsender⟩ := SwitchApp.receive_of_not_takenUp htaken
      exact h.congr hrefl hsender hactive rfl
    | some pattern =>
      obtain ⟨hactive, hsender⟩ := SwitchApp.receive_of_takenUp htaken
      refine ⟨fun shown hshown => ?_, h.answers⟩
      obtain rfl := Option.some.inj (hactive.symm.trans hshown)
      obtain ⟨event, hheard, hevent⟩ := Option.bind_eq_some_iff.mp htaken
      obtain ⟨-, hdecode⟩ := Option.ite_none_right_eq_some.mp hheard
      refine ⟨frame.sender, hsender, frame, List.mem_of_getElem? hframe, rfl, ?_⟩
      exact (PatternEngine.eq_of_takenUp hevent).imp (hdecode.trans <| congrArg some ·)
        (hdecode.trans <| congrArg some ·)
  | goneClear =>
    obtain ⟨item, -, rfl⟩ := Option.map_eq_some_iff.mp hs
    exact h.congr hrefl rfl (PatternEngine.activeMatch_fireGoneClear item.1) rfl
  | onDismiss =>
    obtain ⟨pattern, -, rfl⟩ := Option.map_eq_some_iff.mp hs
    exact h.congr hrefl rfl (Or.inl (PatternEngine.activeMatch_dismissLocally pattern.id)) rfl
  | restoreOverlay =>
    obtain rfl := Option.some.inj hs
    exact h.congr hrefl rfl (Or.inl PatternEngine.activeMatch_restoreOverlay) rfl
  | onAction now action =>
    obtain ⟨pattern, hvisible, hs⟩ := Option.bind_eq_some_iff.mp hs
    obtain ⟨-, hs⟩ := Option.ite_none_right_eq_some.mp hs
    obtain rfl := Option.some.inj hs
    have hactive := PatternEngine.activeMatch_of_visibleMatch hvisible
    refine ⟨fun shown hshown => ?_,
      List.forall_mem_append.mpr ⟨h.answers, fun answer hanswer => ?_⟩⟩
    · exact nomatch (PatternEngine.activeMatch_resolveLocally now hactive).symm.trans hshown
    · obtain ⟨n, -, rfl⟩ := Option.map_eq_some_iff.mp (Option.mem_toList.mp hanswer)
      exact h.active pattern hactive

/-- **Answers stay in their session, exactly.**  Every answer is to a match that the detector it is
put down to has sent; and in every state of a run the answers that have been written went to the
data streams that presented their prompts, and one more would, if and only if every step of the run
is orderly. -/
theorem answered_in_session_iff {as : List (SwitchAction T)} {s : SessionSwitch T}
    (hs : Guarded.run (step platform swift settings) init as = some s) :
    (∀ a ∈ s.app.answers, ∃ n ∈ a.sender, s.agent.Emitted swift n a.pattern)
    ∧ (Guarded.Throughout (step platform swift settings) (Answerable platform swift settings)
        init as
      ↔ Guarded.AllSteps (step platform swift settings) (Orderly swift settings) init as) := by
  have hinit : (init : SessionSwitch T).Answered ∧ (init : SessionSwitch T).app.ShowsOwn :=
    ⟨fun _ h => (nomatch h), fun _ h => (nomatch h)⟩
  constructor
  · have htraced := Guarded.run_invariant (fun _ _ _ (h : Traced swift _) => h.step) .init hs
    exact htraced.answers
  · refine Guarded.throughout_iff_allSteps (I := fun s => s.Answered ∧ s.app.ShowsOwn)
      (fun _ => answerable_iff.mpr) ?_ ?_ hinit hs
    · exact fun u a u' h horderly hu => (answered_showsOwn_iff h hu).mpr horderly
    · exact fun u a u' h hnot hu hafter =>
        hnot ((answered_showsOwn_iff h hu).mp (answerable_iff.mp hafter))

/-- An agent that knows one menu. -/
def menuPlatform : Platform where
  compile := fun _ => none
  ids := buildInstanceId
  ruleset := [menuRule]
  api := Cbor.referenceEncoder
  parser := referenceMapParser

/-- A small terminal in a session. -/
def smallSession (sessionName : String) : SessionEntry where
  sessionName := .ofString sessionName
  cols := 8
  rows := 3

/-- A screen opens its session with stream `n`, up to where `openAsync` returns. -/
def entering (sessionName : String) (n : ℕ) : List (SwitchAction ℤ) :=
  [.setupCallbacks, .attach (smallSession sessionName), .openStream, .agent (.stream n .accepted),
    .agent (.stream n .setUp)]

/-- The reader of stream `n` reads a menu. -/
def menuShown (n : ℕ) : SwitchAction ℤ :=
  .agent (.stream n (.output "Pick\r\n1. a1b\r\n2. c".toUTF8.data.toList))

/-- The tap on the first option of the menu. -/
def firstOption : SwitchAction ℤ := .onAction 20 { label := utf8 "a1b", keys := utf8 "1" }

/-- The menu of a session is answered there; then the user goes to another one. -/
def menuAnswered : List (SwitchAction ℤ) :=
  entering "one" 0 ++ [.openAsync 0 true, .agent (.stream 0 .testClosing), menuShown 0, .receive 10,
    firstOption, .dismissToDevices] ++ entering "two" 1 ++ [.openAsync 1 true]

theorem answered_in_session_iff_menu :
    Guarded.Throughout (step menuPlatform referenceSwiftCbor Overlay.appSettings)
      (Answerable menuPlatform referenceSwiftCbor Overlay.appSettings) init menuAnswered :=
  (answered_in_session_iff (Option.some_get (by decide +kernel)).symm).2.mpr (by decide +kernel)

/-- **An answer in another session.**  The user goes from one session to another while the first
one's reader still reads; its menu comes up in the second session, and the answer is typed there. -/
theorem answered_in_other_session :
    ¬ ∀ (as : List (SwitchAction ℤ)) (s : SessionSwitch ℤ),
      Guarded.run (step menuPlatform referenceSwiftCbor Overlay.appSettings) init as = some s →
        ∀ a ∈ s.app.answers, s.agent.Emitted referenceSwiftCbor a.stream a.pattern := by
  intro h
  have hrun : (Guarded.run (step menuPlatform referenceSwiftCbor Overlay.appSettings) init
      (entering "one" 0 ++ [.openAsync 0 true, .agent (.stream 0 .testClosing), .dismissToDevices]
        ++ entering "two" 1 ++ [menuShown 0, .receive 10, .openAsync 1 true, firstOption])).map
      (fun s => s.app.answers.all fun a => s.agent.Emitted referenceSwiftCbor a.stream a.pattern)
        = some false := by decide +kernel
  obtain ⟨s, hs, hall⟩ := Option.map_eq_some_iff.mp hrun
  have hemitted := List.all_eq_true.mpr fun a ha => decide_eq_true (h _ s hs a ha)
  exact nomatch hemitted.symm.trans hall

end SessionSwitch

end TmuxRemote
