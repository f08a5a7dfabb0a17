import TmuxRemote.Agent.Requests
import TmuxRemote.Library.Guarded
import TmuxRemote.Prompt.Detector

/-!
# Agent/Geometry — the size of the PTY and of the detector (`tmuxremote_stream.c`)

One data stream from its accept on: the accept copies the size from the session map, the setup
thread forks the PTY with it and then initialises the detector with it.  Resize requests come in
between, one after the other (they have one worker): each looks up the PTY, then the detector, and
is answered 204 whether it found them or not.

Once setup is done and no resize is under way, both have the size that was answered last, as long
as every resize answered since the accept found both (`geometry_agrees`).  One that comes too early
for the detector is lost on it (`early_resize`).

The fork succeeds, and the stream does not close.
-/

namespace TmuxRemote

/-- Where the setup of the data stream stands; `session` is its `sessionCols` and `sessionRows`. -/
inductive StreamSetup
  /-- The accept is pending. -/
  | opening
  | accepted (session : WindowSize)
  /-- `ptyFd` is set, and the PTY's window has the size `pty`. -/
  | forked (session pty : WindowSize)
  /-- `promptDetectorInitialized` -/
  | ready (session pty : WindowSize) (detector : PromptDetector)

/-- Where the resize handler stands. -/
inductive ResizePhase
  | idle
  | started (size : TerminalSize)
  | ptyLookedUp (size : TerminalSize) (found : Bool)
  | windowSet (size : TerminalSize) (ptyFound : Bool)
  | detectorResized (size : TerminalSize) (ptyFound detectorFound : Bool)

/-- The data stream of a connection, and the resize handler. -/
structure StreamGeometry where
  sessionMap : SessionMap
  setup : StreamSetup
  resize : ResizePhase
  /-- The size answered 204 last, since the accept. -/
  answered : Option WindowSize

/-- A step of the setup thread, the PTY reader or the resize handler. -/
inductive GeometryAction
  | accept
  | fork
  | initDetector
  | feed (data : List UInt8)
  | startResize (request : CoapRequest)
  /-- `tmuxremote_stream_get_pty_fd` -/
  | lookUpPty
  /-- `TIOCSWINSZ` and `tmuxremote_session_update_size`, if there is a PTY. -/
  | setWindow
  /-- `tmuxremote_stream_resize_prompt_detector_for_ref` -/
  | resizeDetector
  | answerResize

namespace StreamSetup

/-- The stream has not been accepted yet. -/
def isOpening : StreamSetup → Bool
  | opening => true
  | _ => false

/-- `ptyFd >= 0` -/
def hasPty : StreamSetup → Bool
  | opening | accepted _ => false
  | forked _ _ | ready _ _ _ => true

/-- The PTY's window gets a new size. -/
def setPty (size : WindowSize) : StreamSetup → StreamSetup
  | forked session _ => forked session size
  | ready session _ detector => ready session size detector
  | setup => setup

end StreamSetup

namespace StreamGeometry

/-- Before the accept. -/
def init (sessionMap : SessionMap) : StreamGeometry where
  sessionMap := sessionMap
  setup := .opening
  resize := .idle
  answered := none

section

variable (compile : RegexCompiler) (ids : IdScheme) (ruleset : PromptRuleset) (ref : ConnectionRef)

/-- The detector of `stream_setup_thread`. -/
def setupDetector (session : WindowSize) : PromptDetector :=
  (PromptDetector.init (if session.rows > 0 then session.rows.toNat else 48)
    (if session.cols > 0 then session.cols.toNat else 160)).loadRules ruleset

/-- One step; `none` when the thread is not there. -/
def step (s : StreamGeometry) : GeometryAction → Option StreamGeometry
  | .accept =>
    match s.setup with
    | .opening => (s.sessionMap.get ref).map fun entry =>
      { s with setup := .accepted { cols := entry.cols, rows := entry.rows } }
    | _ => none
  | .fork =>
    match s.setup with
    | .accepted session => some { s with setup := .forked session session }
    | _ => none
  | .initDetector =>
    match s.setup with
    | .forked session pty =>
      some { s with setup := .ready session pty (setupDetector ruleset session) }
    | _ => none
  | .feed data =>
    match s.setup with
    | .ready session pty detector =>
      some { s with setup := .ready session pty (detector.feed compile ids data).1 }
    | _ => none
  | .startResize request =>
    match s.resize, resizeSize request with
    | .idle, .ok size => some { s with resize := .started size }
    | .idle, .error _ => some s
    | _, _ => none
  | .lookUpPty =>
    match s.resize with
    | .started size => some { s with resize := .ptyLookedUp size s.setup.hasPty }
    | _ => none
  | .setWindow =>
    match s.resize with
    | .ptyLookedUp size true =>
      some { s with
        setup := s.setup.setPty size.toWindowSize
        sessionMap := (s.sessionMap.updateSize ref size.cols size.rows).getD s.sessionMap
        resize := .windowSet size true }
    | .ptyLookedUp size false => some { s with resize := .windowSet size false }
    | _ => none
  | .resizeDetector =>
    match s.resize, s.setup with
    | .windowSet size ptyFound, .ready _ pty detector =>
      some { s with
        setup := .ready size.toWindowSize pty (detector.resize size.rows.toNat size.cols.toNat)
        resize := .detectorResized size ptyFound true }
    | .windowSet size ptyFound, _ => some { s with resize := .detectorResized size ptyFound false }
    | _, _ => none
  | .answerResize =>
    match s.resize with
    | .detectorResized size _ _ =>
      some { s with
        resize := .idle
        answered := if s.setup.isOpening then s.answered else some size.toWindowSize }
    | _ => none

end

/-- The size answered last, or that of the attach. -/
def lastSize (attach : WindowSize) (s : StreamGeometry) : WindowSize := s.answered.getD attach

end StreamGeometry

/-- The detector's terminal has the size of the window. -/
def PromptDetector.HasSize (d : PromptDetector) (size : WindowSize) : Prop :=
  d.terminalState.size = (size.cols.toNat, size.rows.toNat)

namespace ResizePhase

/-- The PTY was found. -/
def ptyFound : ResizePhase → Bool
  | ptyLookedUp _ found | windowSet _ found | detectorResized _ found _ => found
  | _ => false

/-- The detector was found. -/
def detectorFound : ResizePhase → Bool
  | detectorResized _ _ found => found
  | _ => false

/-- The size the PTY has by now: the new one, once it is set. -/
def ptySize (last : WindowSize) : ResizePhase → WindowSize
  | windowSet size true | detectorResized size true _ => size.toWindowSize
  | _ => last

/-- The size the detector has by now. -/
def detectorSize (last : WindowSize) : ResizePhase → WindowSize
  | detectorResized size _ true => size.toWindowSize
  | _ => last

variable {last : WindowSize} {phase : ResizePhase}

theorem ptySize_of_not_found (h : phase.ptyFound = false) : phase.ptySize last = last := by
  rcases phase with - | size | ⟨size, found⟩ | ⟨size, found⟩ | ⟨size, found, _⟩
  · rfl
  · rfl
  · rfl
  · obtain rfl : found = false := h
    rfl
  · obtain rfl : found = false := h
    rfl

theorem detectorSize_of_not_found (h : phase.detectorFound = false) :
    phase.detectorSize last = last := by
  rcases phase with - | size | ⟨size, found⟩ | ⟨size, found⟩ | ⟨size, _, found⟩
  · rfl
  · rfl
  · rfl
  · rfl
  · obtain rfl : found = false := h
    rfl

end ResizePhase

namespace StreamGeometry

/-- Setup is done and no resize is under way: PTY and detector have the size answered last. -/
def Agrees (attach : WindowSize) (s : StreamGeometry) : Prop :=
  ∀ session pty detector, s.setup = .ready session pty detector → s.resize = .idle →
    pty = s.lastSize attach ∧ detector.HasSize (s.lastSize attach)

/-- A resize answered since the accept has found the PTY and the detector. -/
def FoundBoth (s : StreamGeometry) : GeometryAction → Prop
  | .answerResize =>
    s.setup.isOpening = true ∨ s.resize.ptyFound = true ∧ s.resize.detectorFound = true
  | _ => True

instance (s : StreamGeometry) : ∀ a, Decidable (s.FoundBoth a)
  | .answerResize => inferInstanceAs (Decidable (_ ∨ _))
  | .accept | .fork | .initDetector | .feed _ | .startResize _ | .lookUpPty | .setWindow
  | .resizeDetector => inferInstanceAs (Decidable True)

/-- What holds as long as the resizes answered since the accept have found both. -/
def Tracks (ref : ConnectionRef) (attach : WindowSize) (s : StreamGeometry) : Prop :=
  match s.setup with
  | .opening => (∃ entry, s.sessionMap.get ref = some entry ∧ ⟨entry.cols, entry.rows⟩ = attach)
      ∧ s.answered = none ∧ s.resize.ptyFound = false ∧ s.resize.detectorFound = false
  | .accepted session => session = attach
      ∧ s.answered = none ∧ s.resize.ptyFound = false ∧ s.resize.detectorFound = false
  | .forked session pty => session = attach ∧ pty = s.resize.ptySize attach
      ∧ s.answered = none ∧ s.resize.detectorFound = false
  | .ready _ pty detector => pty = s.resize.ptySize (s.lastSize attach)
      ∧ detector.HasSize (s.resize.detectorSize (s.lastSize attach))

theorem Tracks.agrees {ref : ConnectionRef} {attach : WindowSize} {s : StreamGeometry}
    (h : s.Tracks ref attach) : s.Agrees attach := by
  intro session pty detector hsetup hidle
  rw [Tracks, hsetup, hidle] at h
  exact h

end StreamGeometry

/-! ## The detector's size -/

namespace PromptDetector

theorem hasSize_resize (d : PromptDetector) (size : TerminalSize) :
    (d.resize size.rows.toNat size.cols.toNat).HasSize size.toWindowSize :=
  d.terminalState.size_resize size.rows_pos size.cols_pos

theorem HasSize.feed {d : PromptDetector} {size : WindowSize} (h : d.HasSize size)
    (compile : RegexCompiler) (ids : IdScheme) (data : List UInt8) :
    (d.feed compile ids data).1.HasSize size := by
  rw [HasSize, feed_terminalState, TerminalState.size_feed]
  exact h

end PromptDetector

namespace StreamGeometry

/-- The detector is set up with the session's size. -/
theorem hasSize_setupDetector (ruleset : PromptRuleset) {session : WindowSize}
    (hcols : 0 < session.cols) (hrows : 0 < session.rows) :
    (setupDetector ruleset session).HasSize session := by
  rw [setupDetector, if_pos hrows, if_pos hcols]
  exact TerminalState.size_init hrows hcols

variable {compile : RegexCompiler} {ids : IdScheme} {ruleset : PromptRuleset} {ref : ConnectionRef}
  {attach : WindowSize} {s s' : StreamGeometry}

/-! ## The steps -/

/-- The setup thread carries the attach size from the map to the PTY and the detector. -/
theorem Tracks.accept (h : s.Tracks ref attach)
    (hstep : s.step compile ids ruleset ref .accept = some s') : s'.Tracks ref attach := by
  rcases hsetup : s.setup with - | session | ⟨session, pty⟩ | ⟨session, pty, detector⟩
  · rw [Tracks, hsetup] at h
    obtain ⟨⟨entry, hentry, hsize⟩, hrest⟩ := h
    simp only [step, hsetup, hentry, Option.map_some, Option.some.injEq] at hstep
    rw [← hstep]
    exact ⟨hsize, hrest⟩
  all_goals simp [step, hsetup] at hstep

theorem Tracks.fork (h : s.Tracks ref attach)
    (hstep : s.step compile ids ruleset ref .fork = some s') : s'.Tracks ref attach := by
  rcases hsetup : s.setup with - | session | ⟨session, pty⟩ | ⟨session, pty, detector⟩
  case accepted =>
    rw [Tracks, hsetup] at h
    obtain ⟨rfl, hanswered, hpty, hdetector⟩ := h
    simp only [step, hsetup, Option.some.injEq] at hstep
    rw [← hstep]
    exact ⟨rfl, (ResizePhase.ptySize_of_not_found hpty).symm, hanswered, hdetector⟩
  all_goals simp [step, hsetup] at hstep

theorem Tracks.initDetector (hcols : 0 < attach.cols) (hrows : 0 < attach.rows)
    (h : s.Tracks ref attach) (hstep : s.step compile ids ruleset ref .initDetector = some s') :
    s'.Tracks ref attach := by
  rcases hsetup : s.setup with - | session | ⟨session, pty⟩ | ⟨session, pty, detector⟩
  case forked =>
    rw [Tracks, hsetup] at h
    obtain ⟨rfl, hpty, hanswered, hdetector⟩ := h
    simp only [step, hsetup, Option.some.injEq] at hstep
    rw [← hstep]
    refine ⟨?_, ?_⟩
    · change pty = s.resize.ptySize (s.answered.getD session)
      rw [hanswered, Option.getD_none, hpty]
    · change (setupDetector ruleset session).HasSize
        (s.resize.detectorSize (s.answered.getD session))
      rw [ResizePhase.detectorSize_of_not_found hdetector, hanswered]
      exact hasSize_setupDetector ruleset hcols hrows
  all_goals simp [step, hsetup] at hstep

theorem Tracks.feed {data : List UInt8} (h : s.Tracks ref attach)
    (hstep : s.step compile ids ruleset ref (.feed data) = some s') : s'.Tracks ref attach := by
  rcases hsetup : s.setup with - | session | ⟨session, pty⟩ | ⟨session, pty, detector⟩
  case ready =>
    rw [Tracks, hsetup] at h
    simp only [step, hsetup, Option.some.injEq] at hstep
    rw [← hstep]
    exact ⟨h.1, h.2.feed compile ids data⟩
  all_goals simp [step, hsetup] at hstep

/-- A phase of the handler in which PTY and detector have the sizes they had before. -/
theorem Tracks.setResize {phase : ResizePhase} (h : s.Tracks ref attach)
    (hptySize : ∀ last, phase.ptySize last = s.resize.ptySize last)
    (hdetectorSize : ∀ last, phase.detectorSize last = s.resize.detectorSize last)
    (hptyFound : s.setup.hasPty = false → phase.ptyFound = s.resize.ptyFound)
    (hdetectorFound : phase.detectorFound = s.resize.detectorFound) :
    ({ s with resize := phase } : StreamGeometry).Tracks ref attach := by
  rcases hsetup : s.setup with - | session | ⟨session, pty⟩ | ⟨session, pty, detector⟩
  all_goals rw [Tracks, hsetup] at h
  all_goals rw [Tracks]
  all_goals simp only [lastSize, hptySize, hdetectorSize, hdetectorFound] at h ⊢
  · rw [hptyFound (by rw [hsetup]; rfl)]
    exact h
  · rw [hptyFound (by rw [hsetup]; rfl)]
    exact h
  · exact h
  · exact h

theorem Tracks.startResize {request : CoapRequest} (h : s.Tracks ref attach)
    (hstep : s.step compile ids ruleset ref (.startResize request) = some s') :
    s'.Tracks ref attach := by
  rcases hresize : s.resize with - | size | _ | _ | _
  case idle =>
    rcases hsize : resizeSize request with error | size
    · simp only [step, hresize, hsize, Option.some.injEq] at hstep
      exact hstep ▸ h
    · simp only [step, hresize, hsize, Option.some.injEq] at hstep
      rw [← hstep]
      refine h.setResize ?_ ?_ ?_ ?_
      all_goals rw [hresize]
      all_goals intros
      all_goals rfl
  all_goals simp [step, hresize] at hstep

theorem Tracks.lookUpPty (h : s.Tracks ref attach)
    (hstep : s.step compile ids ruleset ref .lookUpPty = some s') : s'.Tracks ref attach := by
  rcases hresize : s.resize with - | size | _ | _ | _
  case started =>
    simp only [step, hresize, Option.some.injEq] at hstep
    rw [← hstep]
    refine h.setResize ?_ ?_ ?_ ?_
    all_goals rw [hresize]
    · exact fun last => rfl
    · exact fun last => rfl
    · exact id
    · rfl
  all_goals simp [step, hresize] at hstep

/-- The window is set on the PTY that was found. -/
theorem Tracks.setWindow (h : s.Tracks ref attach)
    (hstep : s.step compile ids ruleset ref .setWindow = some s') : s'.Tracks ref attach := by
  rcases hresize : s.resize with - | size | ⟨size, found⟩ | _ | _
  case ptyLookedUp =>
    rcases found with - | -
    · simp only [step, hresize, Option.some.injEq] at hstep
      rw [← hstep]
      refine h.setResize ?_ ?_ ?_ ?_
      all_goals rw [hresize]
      all_goals intros
      all_goals rfl
    · simp only [step, hresize, Option.some.injEq] at hstep
      rw [← hstep]
      rcases hsetup : s.setup with - | session | ⟨session, pty⟩ | ⟨session, pty, detector⟩
      all_goals rw [Tracks, hsetup, hresize] at h
      · exact absurd h.2.2.1 (by simp [ResizePhase.ptyFound])
      · exact absurd h.2.2.1 (by simp [ResizePhase.ptyFound])
      · exact ⟨h.1, rfl, h.2.2.1, rfl⟩
      · exact ⟨rfl, h.2⟩
  all_goals simp [step, hresize] at hstep

/-- The detector that was found gets the new size. -/
theorem Tracks.resizeDetector (h : s.Tracks ref attach)
    (hstep : s.step compile ids ruleset ref .resizeDetector = some s') : s'.Tracks ref attach := by
  rcases hresize : s.resize with - | size | _ | ⟨size, found⟩ | _
  case windowSet =>
    have hmissed :
        ({ s with resize := .detectorResized size found false } : StreamGeometry).Tracks ref
          attach := by
      refine h.setResize ?_ ?_ ?_ ?_
      all_goals rw [hresize]
      · rcases found with - | -
        · exact fun last => rfl
        · exact fun last => rfl
      · exact fun last => rfl
      · exact fun _ => rfl
      · rfl
    rcases hsetup : s.setup with - | session | ⟨session, pty⟩ | ⟨session, pty, detector⟩
    case ready =>
      rw [Tracks, hsetup] at h
      simp only [step, hresize, hsetup, Option.some.injEq] at hstep
      rw [← hstep]
      refine ⟨?_, detector.hasSize_resize size⟩
      rw [h.1, hresize]
      rcases found with - | -
      · rfl
      · rfl
    all_goals
      simp only [step, hresize, hsetup, Option.some.injEq] at hstep
      rw [← hstep, ← hsetup]
      exact hmissed
  all_goals simp [step, hresize] at hstep

/-- An answer after the accept goes with two sizes that have been set. -/
theorem Tracks.answerResize (hfound : s.FoundBoth .answerResize) (h : s.Tracks ref attach)
    (hstep : s.step compile ids ruleset ref .answerResize = some s') : s'.Tracks ref attach := by
  rcases hresize : s.resize with - | size | _ | _ | ⟨size, ptyFound, detectorFound⟩
  case detectorResized =>
    rcases hsetup : s.setup with - | session | ⟨session, pty⟩ | ⟨session, pty, detector⟩
    all_goals rw [Tracks, hsetup, hresize] at h
    all_goals rw [FoundBoth, hsetup, hresize] at hfound
    all_goals simp only [step, hresize, hsetup, Option.some.injEq] at hstep
    all_goals rw [← hstep]
    · exact ⟨h.1, h.2.1, rfl, rfl⟩
    · obtain ⟨hpty, -⟩ := hfound.resolve_left Bool.false_ne_true
      exact absurd (h.2.2.1.symm.trans hpty) Bool.false_ne_true
    · obtain ⟨-, hdetector⟩ := hfound.resolve_left Bool.false_ne_true
      exact absurd (h.2.2.2.symm.trans hdetector) Bool.false_ne_true
    · obtain ⟨rfl, rfl⟩ := hfound.resolve_left Bool.false_ne_true
      exact h
  all_goals simp [step, hresize] at hstep

/-- **The step lemma.** -/
theorem Tracks.step {a : GeometryAction} (hcols : 0 < attach.cols) (hrows : 0 < attach.rows)
    (h : s.Tracks ref attach) (hfound : s.FoundBoth a)
    (hstep : s.step compile ids ruleset ref a = some s') : s'.Tracks ref attach := by
  rcases a with - | - | - | data | request | - | - | - | -
  · exact h.accept hstep
  · exact h.fork hstep
  · exact h.initDetector hcols hrows hstep
  · exact h.feed hstep
  · exact h.startResize hstep
  · exact h.lookUpPty hstep
  · exact h.setWindow hstep
  · exact h.resizeDetector hstep
  · exact h.answerResize hfound hstep

end StreamGeometry

open StreamGeometry in
/-- **The sizes agree.**  An attach has been answered 201.  In every run of the stream's setup and
of resize requests, of which those answered since the accept have found both the PTY and the
detector, every state with setup done and no resize under way has PTY and detector at the size
answered last, or at that of the attach. -/
theorem geometry_agrees (compile : RegexCompiler) (ids : IdScheme) (ruleset : PromptRuleset)
    (map : SessionMap) (ref : ConnectionRef) (request : CoapRequest) (tmux : TmuxReplies)
    (fields : AttachFields) (actions : List GeometryAction)
    (hfields : attachFields request tmux = .ok fields)
    (hanswer : (handleAttach map ref request tmux).1 = .attached)
    (hfound : Guarded.AllSteps (step compile ids ruleset ref) FoundBoth
      (init (handleAttach map ref request tmux).2) actions) :
    Guarded.Throughout (step compile ids ruleset ref) (Agrees fields.size)
      (init (handleAttach map ref request tmux).2) actions := by
  obtain ⟨hcols, hrows⟩ := pos_of_validTerminalSize (attachFields_ok hfields).2
  have hinit : (init (handleAttach map ref request tmux).2).Tracks ref fields.size :=
    ⟨⟨_, get_handleAttach_self hfields hanswer, rfl⟩, rfl, rfl, rfl⟩
  exact (Guarded.throughout_of_allSteps (fun _ _ _ h hfound => h.step hcols hrows hfound) hinit
    hfound).mono fun _ => Tracks.agrees

/-- A resize request. -/
def resizeTo (cols rows : UInt64) : CoapRequest where
  allowed := true
  payload := .map [.text (some "cols".toUTF8.data.toList), .unsigned cols,
    .text (some "rows".toUTF8.data.toList), .unsigned rows]

/-- The steps of a resize that nothing comes between. -/
def wholeResize (cols rows : UInt64) : List GeometryAction :=
  [.startResize (resizeTo cols rows), .lookUpPty, .setWindow, .resizeDetector, .answerResize]

/-- A resize once setup is done. -/
def lateResize : List GeometryAction := [.accept, .fork, .initDetector] ++ wholeResize 100 40

open StreamGeometry in
theorem geometry_agrees_late :
    Guarded.Throughout (step (fun _ => none) buildInstanceId [] 1) (Agrees (attachedTo "dev").size)
      (init (handleAttach .init 1 (attachTo "dev") sessionThere).2) lateResize :=
  geometry_agrees (fun _ => none) buildInstanceId [] .init 1 (attachTo "dev") sessionThere
    (attachedTo "dev") lateResize rfl (by decide +kernel) (by decide +kernel)

open StreamGeometry in
/-- **A resize that comes early.**  It finds the PTY and no detector, and is answered 204: once
setup is done, the PTY has 100 columns and the detector 80. -/
theorem early_resize :
    ∃ s session pty detector,
      Guarded.run (step (fun _ => none) buildInstanceId [] 1)
        (init (handleAttach .init 1 (attachTo "dev") sessionThere).2)
        ([.accept, .fork] ++ wholeResize 100 40 ++ [.initDetector]) = some s
      ∧ s.setup = .ready session pty detector ∧ s.resize = .idle
      ∧ s.answered = some { cols := 100, rows := 40 }
      ∧ pty = { cols := 100, rows := 40 } ∧ detector.terminalState.size = (80, 24) := by
  refine ⟨_, _, _, _, rfl, rfl, rfl, rfl, rfl, ?_⟩
  decide +kernel

end TmuxRemote
