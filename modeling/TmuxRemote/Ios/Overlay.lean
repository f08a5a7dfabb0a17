import TmuxRemote.Ios.PatternEngine

/-!
# Ios/Overlay — the overlay and the server (`PatternEngine.swift`)

The engine, next to the server whose events it gets, and what has happened on the screen: which
prompt was taken up, ended or answered, and when.  A `present` **falls into a window** by that
history alone (`FallsIntoWindow`), and the engine, with its two memories, holds back exactly what
does (`PatternEngine.Remembers.holdsBack_iff`).

The overlay converges to the server's open presentation, unless the user has answered it or its
`present` fell into a window (`overlay_converges`).
-/

namespace TmuxRemote

/-! ## What has happened on the screen -/

/-- What changes what is on show, or is to end it. -/
inductive OverlayChange (T : Type*)
  /-- A `present` was taken up. -/
  | shown
  /-- The server has ended the prompt on show. -/
  | gone (instanceId : List UInt8) (time : T)
  /-- The user has answered the prompt on show. -/
  | answered (pattern : PatternMatch) (time : T)

section
variable {T : Type*}

/-- The id of the prompt that was ended or answered last, and when; the latest change comes
first. -/
def lastLeft : List (OverlayChange T) → Option (List UInt8 × T)
  | [] => none
  | .shown :: past => lastLeft past
  | .gone instanceId time :: _ => some (instanceId, time)
  | .answered pattern time :: _ => some (pattern.id, time)

/-- The prompt that was answered last, and when, unless another was taken up since. -/
def lastAnswered : List (OverlayChange T) → Option (PatternMatch × T)
  | [] => none
  | .shown :: _ => none
  | .gone _ _ :: past => lastAnswered past
  | .answered pattern time :: _ => some (pattern, time)

variable [AddCommGroup T] [LinearOrder T] (settings : EngineSettings T)

/-- **A `present` falls into a window**: no longer ago than the suppression duration, the prompt
that was ended or answered last had its id, or the one that was answered last, with nothing taken
up since, had its signature. -/
def FallsIntoWindow (history : List (OverlayChange T)) (now : T) (pattern : PatternMatch) : Prop :=
  (∃ left ∈ lastLeft history,
      left.1 = pattern.id ∧ now - left.2 ≤ settings.resolveSuppressionDuration)
    ∨ ∃ answered ∈ lastAnswered history,
      PatternEngine.promptSignature settings answered.1
          = PatternEngine.promptSignature settings pattern
        ∧ now - answered.2 ≤ settings.resolveSuppressionDuration

instance (history : List (OverlayChange T)) (now : T) (pattern : PatternMatch) :
    Decidable (FallsIntoWindow settings history now pattern) :=
  inferInstanceAs
    (Decidable ((∃ left ∈ lastLeft history, _) ∨ ∃ answered ∈ lastAnswered history, _))

/-! ## What the engine remembers of it -/

/-- A memory, in two fields of the engine, is of the last thing that it is about, or of nothing
where that is longer ago than the window. -/
def Recalls {α : Type*} (window now : T) (kept : Option α) (time : Option T)
    (last : Option (α × T)) : Prop :=
  (kept = none ∧ time = none ∧ ∀ l ∈ last, window < now - l.2)
    ∨ ∃ l ∈ last, kept = some l.1 ∧ time = some l.2

theorem Recalls.mono [IsOrderedAddMonoid T] {α : Type*} {window now now' : T} {kept : Option α}
    {time : Option T} {last : Option (α × T)} (h : Recalls window now kept time last)
    (hle : now ≤ now') : Recalls window now' kept time last :=
  h.imp_left fun ⟨hkept, htime, hpast⟩ =>
    ⟨hkept, htime, fun l hl => (hpast l hl).trans_le (sub_le_sub_right hle l.2)⟩

end

/-- What an answer changes: something where the prompt on show has the id. -/
def PatternEngine.answeredLocally {T : Type*} (e : PatternEngine T) (now : T)
    (instanceId : List UInt8) : List (OverlayChange T) :=
  match e.activeMatch with
  | some pattern => if pattern.id = instanceId then [.answered pattern now] else []
  | none => []

/-- The engine's memories are of what has happened on the screen. -/
structure PatternEngine.Remembers {T : Type*} [AddCommGroup T] [LinearOrder T]
    (settings : EngineSettings T) (e : PatternEngine T) (history : List (OverlayChange T))
    (now : T) : Prop where
  left : Recalls settings.resolveSuppressionDuration now e.goneSuppressedInstanceId
    e.goneSuppressedAt (lastLeft history)
  answered : Recalls settings.resolveSuppressionDuration now e.resolvedPromptSignature e.resolvedAt
    ((lastAnswered history).map fun answered => (promptSignature settings answered.1, answered.2))

namespace PatternEngine.Remembers

variable {T : Type*} [AddCommGroup T] [LinearOrder T] {settings : EngineSettings T}
  {e : PatternEngine T} {history : List (OverlayChange T)} {now : T}

theorem init : (PatternEngine.init : PatternEngine T).Remembers settings [] now :=
  ⟨Or.inl ⟨rfl, rfl, nofun⟩, Or.inl ⟨rfl, rfl, nofun⟩⟩

theorem mono [IsOrderedAddMonoid T] {now' : T} (h : e.Remembers settings history now)
    (hle : now ≤ now') : e.Remembers settings history now' :=
  ⟨h.left.mono hle, h.answered.mono hle⟩

/-- Only the four fields count. -/
theorem congr {e' : PatternEngine T} (h : e.Remembers settings history now)
    (hid : e'.goneSuppressedInstanceId = e.goneSuppressedInstanceId)
    (hgone : e'.goneSuppressedAt = e.goneSuppressedAt)
    (hsignature : e'.resolvedPromptSignature = e.resolvedPromptSignature)
    (hresolved : e'.resolvedAt = e.resolvedAt) : e'.Remembers settings history now :=
  ⟨by rw [hid, hgone]; exact h.left, by rw [hsignature, hresolved]; exact h.answered⟩

/-- **The first window**, by the id. -/
theorem suppressAfterGone (h : e.Remembers settings history now) (instanceId : List UInt8) :
    ((e.shouldSuppressRePresentAfterGone settings now instanceId).1 = true
        ↔ ∃ left ∈ lastLeft history,
          left.1 = instanceId ∧ now - left.2 ≤ settings.resolveSuppressionDuration)
      ∧ (e.shouldSuppressRePresentAfterGone settings now instanceId).2.Remembers settings history
        now := by
  obtain ⟨hkept, -, hpast⟩ | ⟨left, hleft, hkept, htime⟩ := h.left
  · have hresult : e.shouldSuppressRePresentAfterGone settings now instanceId = (false, e) := by
      rw [shouldSuppressRePresentAfterGone, hkept]
    rw [hresult]
    refine ⟨iff_of_false Bool.false_ne_true ?_, h⟩
    rintro ⟨left, hleft, -, hrecent⟩
    exact (hpast left hleft).not_ge hrecent
  · have hresult : e.shouldSuppressRePresentAfterGone settings now instanceId
        = if now - left.2 > settings.resolveSuppressionDuration then (false, e.clearGoneSuppression)
          else (left.1 = instanceId, e) := by
      rw [shouldSuppressRePresentAfterGone, hkept, htime]
    rw [Option.mem_def] at hleft
    by_cases hpast : now - left.2 > settings.resolveSuppressionDuration
    · rw [hresult, if_pos hpast, hleft]
      refine ⟨iff_of_false Bool.false_ne_true ?_, Or.inl ⟨rfl, rfl, ?_⟩, h.answered⟩
      · rintro ⟨_, ⟨⟩, -, hrecent⟩
        exact hpast.not_ge hrecent
      · rw [hleft]
        rintro _ ⟨⟩
        exact hpast
    · rw [hresult, if_neg hpast, hleft]
      refine ⟨decide_eq_true_iff.trans ⟨fun hid => ⟨left, rfl, hid, not_lt.mp hpast⟩, ?_⟩, h⟩
      rintro ⟨_, ⟨⟩, hid, -⟩
      exact hid

/-- **The second window**, by the signature. -/
theorem suppressResolved (h : e.Remembers settings history now) (pattern : PatternMatch) :
    ((e.shouldSuppressResolvedPrompt settings now pattern).1 = true
        ↔ ∃ answered ∈ lastAnswered history,
          promptSignature settings answered.1 = promptSignature settings pattern
            ∧ now - answered.2 ≤ settings.resolveSuppressionDuration)
      ∧ (e.shouldSuppressResolvedPrompt settings now pattern).2.Remembers settings history now := by
  obtain ⟨hkept, -, hpast⟩ | ⟨answered, hanswered, hkept, htime⟩ := h.answered
  · have hresult : e.shouldSuppressResolvedPrompt settings now pattern = (false, e) := by
      rw [shouldSuppressResolvedPrompt, hkept]
    rw [hresult]
    refine ⟨iff_of_false Bool.false_ne_true ?_, h⟩
    rintro ⟨answered, hanswered, -, hrecent⟩
    exact (hpast _ (Option.mem_map_of_mem _ hanswered)).not_ge hrecent
  · obtain ⟨last, hlast, rfl⟩ := Option.mem_map.mp hanswered
    have hresult : e.shouldSuppressResolvedPrompt settings now pattern
        = if now - last.2 > settings.resolveSuppressionDuration then
            (false, e.clearResolveSuppression)
          else (promptSignature settings last.1 = promptSignature settings pattern, e) := by
      rw [shouldSuppressResolvedPrompt, hkept, htime]
    rw [Option.mem_def] at hlast
    by_cases hpast : now - last.2 > settings.resolveSuppressionDuration
    · rw [hresult, if_pos hpast, hlast]
      refine ⟨iff_of_false Bool.false_ne_true ?_, h.left, Or.inl ⟨rfl, rfl, ?_⟩⟩
      · rintro ⟨_, ⟨⟩, -, hrecent⟩
        exact hpast.not_ge hrecent
      · rw [hlast]
        rintro _ ⟨⟩
        exact hpast
    · rw [hresult, if_neg hpast, hlast]
      refine ⟨decide_eq_true_iff.trans ⟨fun hsame => ⟨last, rfl, hsame, not_lt.mp hpast⟩, ?_⟩, h⟩
      rintro ⟨_, ⟨⟩, hsame, -⟩
      exact hsame

/-- **The engine holds back what falls into a window**, and nothing else. -/
theorem holdsBack_iff (h : e.Remembers settings history now) (pattern : PatternMatch) :
    e.holdsBack settings now pattern = true ↔ FallsIntoWindow settings history now pattern := by
  rw [holdsBack, Bool.or_eq_true, (h.suppressAfterGone pattern.id).1,
    (h.suppressResolved pattern).1, FallsIntoWindow]

/-- A `present` that is taken up ends the second window. -/
theorem applyServerPresent (h : e.Remembers settings history now) (pattern : PatternMatch) :
    (e.applyServerPresent settings now pattern).Remembers settings
      (if FallsIntoWindow settings history now pattern then history else .shown :: history)
      now := by
  have hwindow := h.holdsBack_iff pattern
  rw [holdsBack, ← shouldSuppressResolvedPrompt_afterGone, Bool.or_eq_true] at hwindow
  obtain ⟨-, hfirst⟩ := h.suppressAfterGone pattern.id
  rw [PatternEngine.applyServerPresent]
  cases hgone : e.shouldSuppressRePresentAfterGone settings now pattern.id with
  | mk suppressed e₁ =>
    rw [hgone] at hwindow hfirst
    cases suppressed with
    | true =>
      rw [if_pos (hwindow.mp (Or.inl rfl))]
      exact hfirst
    | false =>
      obtain ⟨-, hsecond⟩ := hfirst.suppressResolved pattern
      dsimp only at hwindow hsecond ⊢
      cases hresolved : e₁.shouldSuppressResolvedPrompt settings now pattern with
      | mk suppressed e₂ =>
        rw [hresolved] at hwindow hsecond
        cases suppressed with
        | true =>
          rw [if_pos (hwindow.mp (Or.inr rfl))]
          exact hsecond
        | false =>
          rw [if_neg (fun hheld => by simpa using hwindow.mpr hheld)]
          refine ⟨hsecond.left, Or.inl ⟨rfl, rfl, ?_⟩⟩
          rintro _ ⟨⟩

theorem applyServerUpdate (h : e.Remembers settings history now) (pattern : PatternMatch) :
    (e.applyServerUpdate now pattern).Remembers settings history now := by
  rw [PatternEngine.applyServerUpdate]
  split_ifs
  · exact h.congr rfl rfl rfl rfl
  · exact h

/-- The `gone` of the prompt on show starts the first window. -/
theorem applyServerGone (h : e.Remembers settings history now) (instanceId : List UInt8) :
    (e.applyServerGone settings now instanceId).Remembers settings
      (if e.isActive instanceId then .gone instanceId now :: history else history) now := by
  rw [PatternEngine.applyServerGone]
  by_cases hactive : e.isActive instanceId = true
  · have hgone : (e.rememberGoneSuppression instanceId now).Remembers settings
        (.gone instanceId now :: history) now :=
      ⟨Or.inr ⟨(instanceId, now), rfl, rfl, rfl⟩, h.answered⟩
    rw [if_pos hactive, if_pos hactive]
    dsimp only
    split_ifs
    · exact hgone.congr rfl rfl rfl rfl
    · exact hgone.congr rfl rfl rfl rfl
  · rw [if_neg hactive, if_neg hactive]
    exact h

theorem dismissLocally (h : e.Remembers settings history now) (instanceId : List UInt8) :
    (e.dismissLocally instanceId).Remembers settings history now := by
  rw [PatternEngine.dismissLocally]
  split_ifs
  · exact h.congr rfl rfl rfl rfl
  · exact h

theorem restoreOverlay (h : e.Remembers settings history now) :
    e.restoreOverlay.Remembers settings history now := by
  rw [PatternEngine.restoreOverlay]
  split_ifs
  · exact h.congr rfl rfl rfl rfl
  · exact h

theorem fireGoneClear (h : e.Remembers settings history now) (instanceId : List UInt8) :
    (e.fireGoneClear instanceId).Remembers settings history now := by
  rw [PatternEngine.fireGoneClear]
  split_ifs
  · exact h.congr rfl rfl rfl rfl
  · exact h.congr rfl rfl rfl rfl

/-- The answer to the prompt on show starts both. -/
theorem resolveLocally (h : e.Remembers settings history now) (instanceId : List UInt8) :
    (e.resolveLocally settings now instanceId).Remembers settings
      (e.answeredLocally now instanceId ++ history) now := by
  rw [PatternEngine.resolveLocally, answeredLocally]
  cases e.activeMatch with
  | none => exact h
  | some pattern =>
    dsimp only
    by_cases hid : pattern.id = instanceId
    · rw [if_pos hid, if_pos hid]
      refine ⟨Or.inr ⟨(pattern.id, now), rfl, ?_, rfl⟩, Or.inr ⟨_, rfl, rfl, rfl⟩⟩
      exact congrArg some hid.symm
    · rw [if_neg hid, if_neg hid]
      exact h

end PatternEngine.Remembers

/-! ## The overlay and the server -/

/-- How the overlay has taken the server's open presentation. -/
inductive Standing
  | shown
  /-- Its `present` fell into a window, and no update of it has come while an earlier prompt of its
  id was on show. -/
  | heldBack
  /-- The user has answered it after it was shown. -/
  | resolved
  deriving DecidableEq

/-- The engine, next to the server whose events it gets. -/
structure Overlay (T : Type*) where
  engine : PatternEngine T
  /-- The server's open presentation: the instance that it showed last. -/
  opened : Option (PatternMatch × Standing)
  /-- What has happened on the screen, the latest first. -/
  history : List (OverlayChange T)
  now : T
  /-- The last time that something but the work item ran. -/
  lastEvent : T

inductive OverlayAction
  | server (event : ControlStreamEvent)
  | dismissLocally (instanceId : List UInt8)
  | restoreOverlay
  | resolveLocally (instanceId : List UInt8)
  /-- The pending work item runs. -/
  | fire

namespace Overlay

variable {T : Type*}

/-- A new overlay; the server has nothing open. -/
def init (now : T) : Overlay T where
  engine := .init
  opened := none
  history := []
  now := now
  lastEvent := now

/-- An answer to the presentation that is shown resolves it. -/
def answered (instanceId : List UInt8) : PatternMatch × Standing → PatternMatch × Standing
  | (pattern, standing) =>
    (pattern, if standing = .shown ∧ pattern.id = instanceId then .resolved else standing)

/-- What is on show goes with how the server's presentation was taken. -/
def Matches (p : OverlayPhase T) : Option (PatternMatch × Standing) → Prop
  | some (pattern, .shown) => ∃ since, p = .showing pattern since
  | some (_, .resolved) => p = .idle
  | some (_, .heldBack) | none => ∀ pattern since, p ≠ .showing pattern since

section
variable {p : OverlayPhase T} {pattern : PatternMatch} {standing : Standing}
  {instanceId : List UInt8}

/-- With nothing open there is nothing on show. -/
theorem matches_idle : Matches (.idle : OverlayPhase T) none := nofun

theorem matches_leaving {since : T} : Matches (.leaving pattern since) none := nofun

/-- An update goes on with the presentation it is of. -/
theorem Matches.updated {shown : PatternMatch} (h : Matches p (some (shown, standing)))
    (hid : shown.id = pattern.id) :
    Matches (p.updated pattern)
      (some (pattern, if standing = .heldBack ∧ p.Shows pattern.id then .shown else standing)) := by
  cases standing with
  | shown =>
    obtain ⟨since, rfl⟩ := h
    exact ⟨since, if_pos hid⟩
  | resolved =>
    obtain rfl : p = .idle := h
    rfl
  | heldBack =>
    rw [OverlayPhase.updated]
    cases hshow : p.onShow with
    | none =>
      rw [if_neg (fun hboth => OverlayPhase.not_shows hshow _ hboth.2)]
      exact h
    | some visible =>
      dsimp only
      by_cases hsame : visible.1.id = pattern.id
      · rw [if_pos hsame, if_pos ⟨rfl, (OverlayPhase.shows_iff hshow).mpr hsame⟩]
        exact ⟨_, rfl⟩
      · rw [if_neg hsame, if_neg (fun hboth => hsame ((OverlayPhase.shows_iff hshow).mp hboth.2))]
        exact h

/-- A presentation that is gone is not shown any more. -/
theorem Matches.gone [AddCommGroup T] [LinearOrder T] (minimum now : T) {shown : PatternMatch}
    (h : Matches p (some (shown, standing))) (hid : shown.id = instanceId) :
    Matches (p.gone minimum now instanceId) none := by
  cases standing with
  | shown =>
    obtain ⟨since, rfl⟩ := h
    rw [OverlayPhase.gone]
    dsimp only [OverlayPhase.onShow]
    rw [if_pos hid]
    split_ifs
    · exact matches_leaving
    · exact matches_idle
  | resolved =>
    obtain rfl : p = .idle := h
    exact matches_idle
  | heldBack =>
    rw [OverlayPhase.gone]
    cases p.onShow with
    | none => exact h
    | some visible =>
      dsimp only
      split_ifs
      · exact matches_leaving
      · exact matches_idle
      · exact h

theorem Matches.answered {opened : Option (PatternMatch × Standing)} (h : Matches p opened)
    (instanceId : List UInt8) :
    Matches (p.answered instanceId) (opened.map (Overlay.answered instanceId)) := by
  have hquiet (h : Matches p none) : Matches (p.answered instanceId) none := by
    rw [OverlayPhase.answered]
    split_ifs
    · exact matches_idle
    · exact h
  rcases opened with _ | ⟨pattern, _ | _ | _⟩
  · exact hquiet h
  · obtain ⟨since, rfl⟩ := h
    have hshows := @OverlayPhase.shows_iff T (.showing pattern since) instanceId _ rfl
    rw [OverlayPhase.answered, Option.map_some, Overlay.answered]
    by_cases hid : pattern.id = instanceId
    · rw [if_pos (hshows.mpr hid), if_pos ⟨rfl, hid⟩]
      rfl
    · rw [if_neg (fun h => hid (hshows.mp h)), if_neg (fun h => hid h.2)]
      exact ⟨since, rfl⟩
  · exact hquiet h
  · obtain rfl : p = .idle := h
    rfl

theorem Matches.expired {opened : Option (PatternMatch × Standing)} (h : Matches p opened) :
    Matches p.expired opened := by
  cases p with
  | idle => exact h
  | showing pattern since => exact h
  | leaving pattern since =>
    rcases opened with _ | ⟨pattern, _ | _ | _⟩
    · exact nofun
    · exact nomatch h
    · exact nofun
    · exact nomatch h

end

variable [AddCommGroup T] [LinearOrder T] (settings : EngineSettings T)

/-- The server's event: presentations are `present`, updates and `gone`, one after the other. -/
def serverStep (s : Overlay T) (now : T) : ControlStreamEvent → Option (Overlay T)
  | .sessions _ => some s
  | .patternPresent pattern =>
    match s.opened with
    | none =>
      some { s with
        engine := s.engine.applyServerPresent settings now pattern
        opened := some (pattern,
          if FallsIntoWindow settings s.history now pattern then .heldBack else .shown)
        history := if FallsIntoWindow settings s.history now pattern then s.history
          else .shown :: s.history }
    | some _ => none
  | .patternUpdate pattern =>
    match s.opened with
    | some (shown, standing) =>
      if shown.id = pattern.id then
        some { s with
          engine := s.engine.applyServerUpdate now pattern
          opened := some (pattern,
            if standing = .heldBack ∧ s.engine.isActive pattern.id then .shown else standing) }
      else none
    | none => none
  | .patternGone instanceId =>
    match s.opened with
    | some (shown, _) =>
      if shown.id = instanceId then
        some { s with
          engine := s.engine.applyServerGone settings now instanceId
          opened := none
          history := if s.engine.isActive instanceId then .gone instanceId now :: s.history
            else s.history }
      else none
    | none => none

/-- One step at a time no earlier than the last; `none` when it cannot be taken. -/
def step (s : Overlay T) : T × OverlayAction → Option (Overlay T)
  | (now, action) =>
    if now < s.now then none
    else
      let s := { s with now := now }
      match action with
      | .server event =>
        (s.serverStep settings now event).map fun s => { s with lastEvent := now }
      | .dismissLocally instanceId =>
        some { s with engine := s.engine.dismissLocally instanceId, lastEvent := now }
      | .restoreOverlay => some { s with engine := s.engine.restoreOverlay, lastEvent := now }
      | .resolveLocally instanceId =>
        some { s with
          engine := s.engine.resolveLocally settings now instanceId
          opened := s.opened.map (answered instanceId)
          history := s.engine.answeredLocally now instanceId ++ s.history
          lastEvent := now }
      | .fire =>
        match s.engine.pendingGoneWorkItem with
        | some (instanceId, due) =>
          if now < due then none else some { s with engine := s.engine.fireGoneClear instanceId }
        | none => none

/-- What the overlay is to show in the end: the open presentation, unless it was answered or fell
into a window. -/
def expected (s : Overlay T) : Option PatternMatch :=
  match s.opened with
  | some (pattern, .shown) => some pattern
  | some (_, .heldBack) | some (_, .resolved) | none => none

/-- The open presentation, unless it was answered after it was shown. -/
def unanswered (s : Overlay T) : Option PatternMatch :=
  match s.opened with
  | some (pattern, .shown) | some (pattern, .heldBack) => some pattern
  | some (_, .resolved) | none => none

/-- The durations have passed since the last event, and no work item is due. -/
structure Settled (s : Overlay T) (now : T) : Prop where
  minimumVisible : s.lastEvent + settings.minimumVisibleDuration < now
  suppression : s.lastEvent + settings.resolveSuppressionDuration < now
  fired : ∀ instanceId due, s.engine.pendingGoneWorkItem = some (instanceId, due) → now < due

/-- The invariant of runs: the engine is in a phase that goes with the server, and remembers what
has happened. -/
structure Coherent (s : Overlay T) (p : OverlayPhase T) : Prop where
  represents : s.engine.Represents settings.minimumVisibleDuration p
  remembers : s.engine.Remembers settings s.history s.now
  started : p.StartedBy s.lastEvent
  goes : Matches p s.opened
  past : s.lastEvent ≤ s.now

section
variable {settings} [IsOrderedAddMonoid T] {s s' : Overlay T} {p : OverlayPhase T} {now : T}

/-- What the server's event does. -/
inductive ServerMoves (settings : EngineSettings T) (s : Overlay T) (now : T) :
    ControlStreamEvent → Overlay T → Prop
  | sessions (list : List SessionInfo) : ServerMoves settings s now (.sessions list) s
  | present (pattern : PatternMatch) (hopened : s.opened = none) :
      ServerMoves settings s now (.patternPresent pattern)
        { s with
          engine := s.engine.applyServerPresent settings now pattern
          opened := some (pattern,
            if FallsIntoWindow settings s.history now pattern then .heldBack else .shown)
          history := if FallsIntoWindow settings s.history now pattern then s.history
            else .shown :: s.history }
  | update {shown : PatternMatch} {standing : Standing} (pattern : PatternMatch)
      (hopened : s.opened = some (shown, standing)) (hid : shown.id = pattern.id) :
      ServerMoves settings s now (.patternUpdate pattern)
        { s with
          engine := s.engine.applyServerUpdate now pattern
          opened := some (pattern,
            if standing = .heldBack ∧ s.engine.isActive pattern.id then .shown else standing) }
  | gone {shown : PatternMatch} {standing : Standing} (instanceId : List UInt8)
      (hopened : s.opened = some (shown, standing)) (hid : shown.id = instanceId) :
      ServerMoves settings s now (.patternGone instanceId)
        { s with
          engine := s.engine.applyServerGone settings now instanceId
          opened := none
          history := if s.engine.isActive instanceId then .gone instanceId now :: s.history
            else s.history }

omit [IsOrderedAddMonoid T] in
theorem serverMoves_of_serverStep {event : ControlStreamEvent}
    (hstep : s.serverStep settings now event = some s') : ServerMoves settings s now event s' := by
  cases event with
  | sessions list => exact Option.some.inj hstep ▸ .sessions list
  | patternPresent pattern =>
    rw [serverStep] at hstep
    split at hstep
    · next hopened => exact Option.some.inj hstep ▸ .present pattern hopened
    · exact nomatch hstep
  | patternUpdate pattern =>
    rw [serverStep] at hstep
    split at hstep
    · next hopened =>
      obtain ⟨hid, ⟨⟩⟩ := Option.ite_none_right_eq_some.mp hstep
      exact .update pattern hopened hid
    · exact nomatch hstep
  | patternGone instanceId =>
    rw [serverStep] at hstep
    split at hstep
    · next hopened =>
      obtain ⟨hid, ⟨⟩⟩ := Option.ite_none_right_eq_some.mp hstep
      exact .gone instanceId hopened hid
    · exact nomatch hstep

/-- The server's events keep the engine in step with it. -/
theorem Coherent.serverStep (h : Coherent settings s p) {event : ControlStreamEvent}
    (hstep : s.serverStep settings s.now event = some s') :
    ∃ p', Coherent settings { s' with lastEvent := s.now } p' := by
  have hstarted := h.started.mono h.past
  have hgoes := h.goes
  cases serverMoves_of_serverStep hstep with
  | sessions list => exact ⟨p, h.represents, h.remembers, hstarted, hgoes, le_rfl⟩
  | present pattern hopened =>
    rw [hopened] at hgoes
    have hrepresents : (s.engine.applyServerPresent settings s.now pattern).Represents
        settings.minimumVisibleDuration
        (if s.engine.holdsBack settings s.now pattern then p else .showing pattern s.now) :=
      h.represents.applyServerPresent s.now pattern
    have hremembers := h.remembers.applyServerPresent pattern
    have hwindow := h.remembers.holdsBack_iff pattern
    by_cases hfalls : FallsIntoWindow settings s.history s.now pattern
    · rw [if_pos (hwindow.mpr hfalls)] at hrepresents
      refine ⟨p, hrepresents, hremembers, hstarted, ?_, le_rfl⟩
      dsimp only
      rw [if_pos hfalls]
      exact hgoes
    · rw [if_neg (mt hwindow.mp hfalls)] at hrepresents
      refine ⟨_, hrepresents, hremembers, OverlayPhase.startedBy_showing le_rfl, ?_, le_rfl⟩
      dsimp only
      rw [if_neg hfalls]
      exact ⟨s.now, rfl⟩
  | update pattern hopened hid =>
    rw [hopened] at hgoes
    refine ⟨_, h.represents.applyServerUpdate s.now pattern,
      h.remembers.applyServerUpdate pattern, hstarted.updated pattern, ?_, le_rfl⟩
    simpa only [h.represents.isActive_iff] using hgoes.updated hid
  | gone instanceId hopened hid =>
    rw [hopened] at hgoes
    exact ⟨_, h.represents.applyServerGone s.now instanceId,
      h.remembers.applyServerGone instanceId, hstarted.gone _ s.now instanceId,
      hgoes.gone _ s.now hid, le_rfl⟩

/-- **What a step keeps.** -/
theorem Coherent.step (h : ∃ p, Coherent settings s p) {action : T × OverlayAction}
    (hstep : s.step settings action = some s') : ∃ p', Coherent settings s' p' := by
  obtain ⟨p, h⟩ := h
  obtain ⟨now, action⟩ := action
  obtain ⟨hnot, hstep⟩ := Option.ite_none_left_eq_some.mp hstep
  have hnow : s.now ≤ now := not_lt.mp hnot
  have hpast : s.lastEvent ≤ now := h.past.trans hnow
  have hstarted := h.started.mono hpast
  have hremembers := h.remembers.mono hnow
  cases action with
  | server event =>
    obtain ⟨s'', hserver, rfl⟩ := Option.map_eq_some_iff.mp hstep
    have hcoherent : Coherent settings { s with now := now } p :=
      ⟨h.represents, hremembers, h.started, h.goes, hpast⟩
    exact hcoherent.serverStep hserver
  | dismissLocally instanceId =>
    obtain rfl := Option.some.inj hstep
    exact ⟨p, h.represents.dismissLocally instanceId, hremembers.dismissLocally instanceId,
      hstarted, h.goes, le_rfl⟩
  | restoreOverlay =>
    obtain rfl := Option.some.inj hstep
    exact ⟨p, h.represents.restoreOverlay, hremembers.restoreOverlay, hstarted, h.goes, le_rfl⟩
  | resolveLocally instanceId =>
    obtain rfl := Option.some.inj hstep
    exact ⟨_, h.represents.resolveLocally now instanceId, hremembers.resolveLocally instanceId,
      hstarted.answered instanceId, h.goes.answered instanceId, le_rfl⟩
  | fire =>
    dsimp only at hstep
    split at hstep
    · rename_i instanceId due hpending
      obtain ⟨-, heq⟩ := Option.ite_none_left_eq_some.mp hstep
      obtain rfl := Option.some.inj heq
      exact ⟨_, h.represents.fireGoneClear hpending, hremembers.fireGoneClear instanceId,
        h.started.expired, h.goes.expired, hpast⟩
    · exact nomatch hstep

omit [IsOrderedAddMonoid T] in
theorem coherent_init (settings : EngineSettings T) (start : T) :
    Coherent settings (init start) .idle :=
  ⟨.init, .init, OverlayPhase.startedBy_idle, nofun, le_rfl⟩

/-- An overlay that has settled shows what it is to show. -/
theorem Coherent.activeMatch_eq (h : Coherent settings s p) (hsettled : Settled settings s now) :
    s.engine.activeMatch = s.expected := by
  -- what is only still on show has had its time
  have hleaving (pattern : PatternMatch) (since : T) : p ≠ .leaving pattern since := by
    rintro rfl
    have hdue := hsettled.fired pattern.id _ h.represents.pending
    have hsince : since ≤ s.lastEvent := h.started (pattern, since) rfl
    exact hdue.not_gt ((add_le_add hsince le_rfl).trans_lt hsettled.minimumVisible)
  have hnothing (hgoes : ∀ pattern since, p ≠ .showing pattern since) :
      p.onShow.map Prod.fst = none := by
    cases p with
    | idle => rfl
    | showing pattern since => exact absurd rfl (hgoes pattern since)
    | leaving pattern since => exact absurd rfl (hleaving pattern since)
  have hgoes := h.goes
  rw [h.represents.activeMatch, expected]
  generalize s.opened = opened at hgoes ⊢
  rcases opened with - | ⟨pattern, - | - | -⟩
  · exact hnothing hgoes
  · obtain ⟨since, rfl⟩ := hgoes
    rfl
  · exact hnothing hgoes
  · obtain rfl : p = .idle := hgoes
    rfl

/-- **The overlay converges to the server.**  Once the durations have passed since the last event
and no work item is due, the overlay shows the server's open presentation, unless the user has
answered it or its `present` fell into a window. -/
theorem overlay_converges (settings : EngineSettings T) (start : T) (run : List (T × OverlayAction))
    (s : Overlay T) (now : T) (hrun : Guarded.run (step settings) (init start) run = some s)
    (hsettled : Settled settings s now) : s.engine.activeMatch = s.expected := by
  obtain ⟨p, h⟩ := Guarded.run_invariant (I := fun s => ∃ p, Coherent settings s p)
    (fun _ _ _ hs hstep => Coherent.step hs hstep) ⟨.idle, coherent_init settings start⟩ hrun
  exact h.activeMatch_eq hsettled

end

/-- The app's settings, in tenths of a second. -/
def appSettings : EngineSettings ℤ where
  minimumVisibleDuration := 10
  resolveSuppressionDuration := 15
  normalized := id

/-- A question. -/
def proceedPrompt : PatternMatch where
  id := utf8 "inst-1"
  patternId := utf8 "yes_no_prompt"
  patternType := .yesNo
  prompt := some (utf8 "Do you want to proceed?")
  actions := [{ label := utf8 "Allow", keys := utf8 "y" }]
  revision := 1

/-- A prompt that is gone after two seconds and back, a tenth of a second later. -/
def reappearing : List (ℤ × OverlayAction) :=
  [(0, .server (.patternPresent proceedPrompt)), (20, .server (.patternGone (utf8 "inst-1"))),
    (21, .server (.patternPresent proceedPrompt))]

/-- The question, as another instance. -/
def askedAgain (instanceId : String) : PatternMatch := { proceedPrompt with id := utf8 instanceId }

/-- The question is updated, ends, and comes back in the first window; as another instance it is
answered, and as a third it falls into the second. -/
def answeredQuestion : List (ℤ × OverlayAction) :=
  [(0, .server (.patternPresent proceedPrompt)),
    (3, .server (.patternUpdate { proceedPrompt with revision := 2 })),
    (20, .server (.patternGone (utf8 "inst-1"))), (21, .server (.patternPresent proceedPrompt)),
    (22, .server (.patternGone (utf8 "inst-1"))),
    (40, .server (.patternPresent (askedAgain "inst-2"))), (45, .resolveLocally (utf8 "inst-2")),
    (46, .server (.patternGone (utf8 "inst-2"))),
    (47, .server (.patternPresent (askedAgain "inst-3")))]

/-- It ends, comes back behind the window, and is updated. -/
def backLater : List (ℤ × OverlayAction) :=
  [(50, .server (.patternGone (utf8 "inst-3"))),
    (61, .server (.patternPresent (askedAgain "inst-3"))), (62, .dismissLocally (utf8 "inst-3")),
    (63, .server (.patternUpdate { askedAgain "inst-3" with revision := 2 }))]

theorem overlay_converges_answered :
    (∃ s, Guarded.run (step appSettings) (init 0) answeredQuestion = some s
        ∧ s.engine.activeMatch = s.expected ∧ s.expected = none)
      ∧ ∃ s, Guarded.run (step appSettings) (init 0) (answeredQuestion ++ backLater) = some s
        ∧ s.engine.activeMatch = s.expected
        ∧ s.expected = some { askedAgain "inst-3" with revision := 2 } :=
  ⟨⟨_, rfl, overlay_converges appSettings 0 answeredQuestion _ 100 rfl
      ⟨by decide, by decide, nofun⟩, rfl⟩,
    _, rfl, overlay_converges appSettings 0 (answeredQuestion ++ backLater) _ 100 rfl
      ⟨by decide, by decide, nofun⟩, rfl⟩

/-- A prompt that comes back at once is not shown again, however long the server shows it. -/
theorem reappearing_prompt_held_back :
    ¬ ∀ (settings : EngineSettings ℤ) (start : ℤ) (run : List (ℤ × OverlayAction)) (s : Overlay ℤ)
        (now : ℤ), Guarded.run (step settings) (init start) run = some s →
        Settled settings s now → s.engine.activeMatch = s.unanswered := by
  intro hall
  have hshown := hall appSettings 0 reappearing _ 100 rfl ⟨by decide, by decide, nofun⟩
  exact nomatch hshown

end Overlay

end TmuxRemote
