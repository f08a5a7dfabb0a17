import Mathlib.Algebra.Order.Group.Defs
import Mathlib.Tactic.Abel
import TmuxRemote.Library.Guarded
import TmuxRemote.Wire.AppDecoder

/-!
# Ios/PatternEngine — the prompt on the phone (`PatternEngine.swift`)

The overlay follows the server's events with two delays of its own.  A prompt that is gone stays for
what is left of its minimum time, and for some time after a prompt has gone or has been answered the
overlay holds back what looks like the same one again.  An event that is held back is not repeated.

Behind the fields is a machine of three phases (`OverlayPhase`): nothing on show, a prompt on show,
and a prompt whose time is running out.

Times are of any ordered group.  A string is its UTF-8 bytes; what trimming and lowercasing make of
a prompt is the parameter `normalized`.
-/

namespace TmuxRemote

/-! ## The engine -/

/-- The raw value of a `PatternType`. -/
def PromptType.rawValue : PromptType → List UInt8
  | yesNo => utf8 "yes_no"
  | numberedMenu => utf8 "numbered_menu"
  | acceptReject => utf8 "accept_reject"

/-- What a `PatternEngine` is made with. -/
structure EngineSettings (T : Type*) where
  minimumVisibleDuration : T
  /-- Also `goneSuppressionDuration`. -/
  resolveSuppressionDuration : T
  normalized : List UInt8 → List UInt8

/-- `PatternEngine` -/
structure PatternEngine (T : Type*) where
  activeMatch : Option PatternMatch
  isOverlayHidden : Bool
  activeSince : Option T
  resolvedPromptSignature : Option (List UInt8)
  resolvedAt : Option T
  goneSuppressedInstanceId : Option (List UInt8)
  goneSuppressedAt : Option T
  /-- The instance that the work item clears, and when it is due. -/
  pendingGoneWorkItem : Option (List UInt8 × T)

namespace PatternEngine

variable {T : Type*}

/-- A new engine. -/
def init : PatternEngine T where
  activeMatch := none
  isOverlayHidden := false
  activeSince := none
  resolvedPromptSignature := none
  resolvedAt := none
  goneSuppressedInstanceId := none
  goneSuppressedAt := none
  pendingGoneWorkItem := none

/-- `activeMatch?.id == instanceId` -/
def isActive (e : PatternEngine T) (instanceId : List UInt8) : Bool :=
  e.activeMatch.map PatternMatch.id = some instanceId

variable (e : PatternEngine T)

def cancelPendingGoneClear : PatternEngine T := { e with pendingGoneWorkItem := none }

def clearActiveState : PatternEngine T :=
  { e.cancelPendingGoneClear with
    activeMatch := none
    isOverlayHidden := false
    activeSince := none }

def clearResolveSuppression : PatternEngine T :=
  { e with resolvedPromptSignature := none, resolvedAt := none }

def clearGoneSuppression : PatternEngine T :=
  { e with goneSuppressedInstanceId := none, goneSuppressedAt := none }

def rememberGoneSuppression (instanceId : List UInt8) (now : T) : PatternEngine T :=
  { e with goneSuppressedInstanceId := some instanceId, goneSuppressedAt := some now }

def dismissLocally (instanceId : List UInt8) : PatternEngine T :=
  if e.isActive instanceId then { e with isOverlayHidden := true } else e

def restoreOverlay : PatternEngine T :=
  if e.activeMatch.isSome then { e with isOverlayHidden := false } else e

def visibleMatch : Option PatternMatch := if e.isOverlayHidden then none else e.activeMatch

/-- The work item, when its time has come. -/
def fireGoneClear (instanceId : List UInt8) : PatternEngine T :=
  let e := { e with pendingGoneWorkItem := none }
  if e.isActive instanceId then e.clearActiveState else e

section
variable [AddCommGroup T] [LinearOrder T] (settings : EngineSettings T)

def promptSignature (pattern : PatternMatch) : List UInt8 :=
  pattern.patternType.rawValue ++ utf8 "|" ++ settings.normalized (pattern.prompt.getD [])

def shouldSuppressResolvedPrompt (now : T) (pattern : PatternMatch) : Bool × PatternEngine T :=
  match e.resolvedPromptSignature, e.resolvedAt with
  | some signature, some resolvedAt =>
    if now - resolvedAt > settings.resolveSuppressionDuration then
      (false, e.clearResolveSuppression)
    else (signature = promptSignature settings pattern, e)
  | _, _ => (false, e)

def shouldSuppressRePresentAfterGone (now : T) (instanceId : List UInt8) :
    Bool × PatternEngine T :=
  match e.goneSuppressedInstanceId, e.goneSuppressedAt with
  | some suppressed, some goneAt =>
    if now - goneAt > settings.resolveSuppressionDuration then (false, e.clearGoneSuppression)
    else (suppressed = instanceId, e)
  | _, _ => (false, e)

def applyServerPresent (now : T) (pattern : PatternMatch) : PatternEngine T :=
  match e.shouldSuppressRePresentAfterGone settings now pattern.id with
  | (true, e) => e
  | (false, e) =>
    match e.shouldSuppressResolvedPrompt settings now pattern with
    | (true, e) => e
    | (false, e) =>
      { e.cancelPendingGoneClear.clearResolveSuppression with
        activeMatch := some pattern
        isOverlayHidden := false
        activeSince := some now }

def applyServerUpdate (now : T) (pattern : PatternMatch) : PatternEngine T :=
  if e.isActive pattern.id then
    { e.cancelPendingGoneClear with
      activeMatch := some pattern
      activeSince := some (e.activeSince.getD now) }
  else e

def scheduleGoneClear (instanceId : List UInt8) (now delay : T) : PatternEngine T :=
  { e.cancelPendingGoneClear with pendingGoneWorkItem := some (instanceId, now + delay) }

def applyServerGone (now : T) (instanceId : List UInt8) : PatternEngine T :=
  if e.isActive instanceId then
    let e := e.rememberGoneSuppression instanceId now
    let elapsed := (e.activeSince.map fun since => now - since).getD settings.minimumVisibleDuration
    let remaining := settings.minimumVisibleDuration - elapsed
    if remaining > 0 then e.scheduleGoneClear instanceId now remaining
    else e.clearActiveState
  else e

def resolveLocally (now : T) (instanceId : List UInt8) : PatternEngine T :=
  match e.activeMatch with
  | some pattern =>
    if pattern.id = instanceId then
      ({ e with
          resolvedPromptSignature := some (promptSignature settings pattern)
          resolvedAt := some now }.rememberGoneSuppression instanceId now).clearActiveState
    else e
  | none => e

/-- Looking at a suppression leaves the engine as it is, or drops it. -/
theorem shouldSuppressRePresentAfterGone_snd (now : T) (instanceId : List UInt8) :
    (e.shouldSuppressRePresentAfterGone settings now instanceId).2 = e
      ∨ (e.shouldSuppressRePresentAfterGone settings now instanceId).2
        = e.clearGoneSuppression := by
  rw [shouldSuppressRePresentAfterGone]
  split
  · split_ifs
    · exact Or.inr rfl
    · exact Or.inl rfl
  · exact Or.inl rfl

/-- Asking whether to hold a prompt back may forget an answer that has run out, and changes nothing
else. -/
theorem shouldSuppressResolvedPrompt_snd (now : T) (pattern : PatternMatch) :
    (e.shouldSuppressResolvedPrompt settings now pattern).2 = e
      ∨ (e.shouldSuppressResolvedPrompt settings now pattern).2 = e.clearResolveSuppression := by
  rw [shouldSuppressResolvedPrompt]
  split
  · split_ifs
    · exact Or.inr rfl
    · exact Or.inl rfl
  · exact Or.inl rfl

/-- Whether a `present` is held back. -/
def holdsBack (now : T) (pattern : PatternMatch) : Bool :=
  (e.shouldSuppressRePresentAfterGone settings now pattern.id).1
    || (e.shouldSuppressResolvedPrompt settings now pattern).1

end

section
variable [AddCommGroup T] [LinearOrder T] {settings : EngineSettings T} {e} {now : T}
  {pattern : PatternMatch}

/-- Looking at one suppression leaves the other alone. -/
theorem shouldSuppressResolvedPrompt_afterGone (now : T) (pattern : PatternMatch) :
    ((e.shouldSuppressRePresentAfterGone settings now pattern.id).2.shouldSuppressResolvedPrompt
        settings now pattern).1
      = (e.shouldSuppressResolvedPrompt settings now pattern).1 := by
  obtain hsame | hcleared := e.shouldSuppressRePresentAfterGone_snd settings now pattern.id
  · rw [hsame]
  · rw [hcleared, shouldSuppressResolvedPrompt, shouldSuppressResolvedPrompt]
    dsimp only [clearGoneSuppression]
    split
    · split_ifs <;> rfl
    · rfl

/-- **What a `present` does.**  One that is held back touches the suppressions at most. -/
theorem applyServerPresent_of_holdsBack (hheld : e.holdsBack settings now pattern = true) :
    (e.applyServerPresent settings now pattern).activeMatch = e.activeMatch
      ∧ (e.applyServerPresent settings now pattern).activeSince = e.activeSince
      ∧ (e.applyServerPresent settings now pattern).isOverlayHidden = e.isOverlayHidden
      ∧ (e.applyServerPresent settings now pattern).pendingGoneWorkItem
        = e.pendingGoneWorkItem := by
  rw [applyServerPresent]
  rw [holdsBack, ← shouldSuppressResolvedPrompt_afterGone] at hheld
  have hgone := e.shouldSuppressRePresentAfterGone_snd settings now pattern.id
  cases hfirst : e.shouldSuppressRePresentAfterGone settings now pattern.id with
  | mk suppressed e₁ =>
    rw [hfirst] at hheld hgone
    have hsame : e₁.activeMatch = e.activeMatch ∧ e₁.activeSince = e.activeSince
        ∧ e₁.isOverlayHidden = e.isOverlayHidden
        ∧ e₁.pendingGoneWorkItem = e.pendingGoneWorkItem := by
      obtain rfl | rfl := hgone
      · exact ⟨rfl, rfl, rfl, rfl⟩
      · exact ⟨rfl, rfl, rfl, rfl⟩
    cases suppressed with
    | true => exact hsame
    | false =>
      have hresolved := e₁.shouldSuppressResolvedPrompt_snd settings now pattern
      dsimp only at hheld ⊢
      cases hsecond : e₁.shouldSuppressResolvedPrompt settings now pattern with
      | mk suppressed e₂ =>
        rw [hsecond] at hheld hresolved
        rw [Bool.false_or] at hheld
        obtain rfl : suppressed = true := hheld
        obtain rfl | rfl := hresolved
        · exact hsame
        · exact hsame

/-- One that is taken up puts its prompt on show, and whatever was to be cleared is not. -/
theorem applyServerPresent_of_not_holdsBack (hheld : e.holdsBack settings now pattern = false) :
    (e.applyServerPresent settings now pattern).activeMatch = some pattern
      ∧ (e.applyServerPresent settings now pattern).activeSince = some now
      ∧ (e.applyServerPresent settings now pattern).isOverlayHidden = false
      ∧ (e.applyServerPresent settings now pattern).pendingGoneWorkItem = none := by
  rw [applyServerPresent]
  rw [holdsBack, ← shouldSuppressResolvedPrompt_afterGone, Bool.or_eq_false_iff] at hheld
  obtain ⟨hnotgone, hnotresolved⟩ := hheld
  cases hfirst : e.shouldSuppressRePresentAfterGone settings now pattern.id with
  | mk suppressed e₁ =>
    rw [hfirst] at hnotgone hnotresolved
    obtain rfl : suppressed = false := hnotgone
    dsimp only at hnotresolved ⊢
    cases hsecond : e₁.shouldSuppressResolvedPrompt settings now pattern with
    | mk suppressed e₂ =>
      rw [hsecond] at hnotresolved
      obtain rfl : suppressed = false := hnotresolved
      exact ⟨rfl, rfl, rfl, rfl⟩

end

end PatternEngine

/-! ## The phases of the overlay -/

/-- What is on show, and since when. -/
inductive OverlayPhase (T : Type*)
  | idle
  | showing (pattern : PatternMatch) (since : T)
  /-- The prompt is gone, and stays for what is left of its minimum time. -/
  | leaving (pattern : PatternMatch) (since : T)

namespace OverlayPhase

variable {T : Type*}

/-- What is on show, with its time. -/
def onShow : OverlayPhase T → Option (PatternMatch × T)
  | idle => none
  | showing pattern since | leaving pattern since => some (pattern, since)

/-- The prompt on show has the id. -/
def Shows (p : OverlayPhase T) (instanceId : List UInt8) : Prop :=
  ∃ shown ∈ p.onShow, shown.1.id = instanceId

instance (p : OverlayPhase T) (instanceId : List UInt8) : Decidable (p.Shows instanceId) :=
  inferInstanceAs (Decidable (∃ shown ∈ p.onShow, _))

/-- One prompt at most is on show. -/
theorem shows_iff {p : OverlayPhase T} {instanceId : List UInt8} {shown : PatternMatch × T}
    (h : p.onShow = some shown) : p.Shows instanceId ↔ shown.1.id = instanceId := by
  rw [Shows, h]
  simp

theorem not_shows {p : OverlayPhase T} (h : p.onShow = none) (instanceId : List UInt8) :
    ¬ p.Shows instanceId := by
  rw [Shows, h]
  simp

/-- An update is taken up by the prompt it is of, also when that is about to leave. -/
def updated (p : OverlayPhase T) (pattern : PatternMatch) : OverlayPhase T :=
  match p.onShow with
  | some (shown, since) => if shown.id = pattern.id then showing pattern since else p
  | none => p

/-- An answer takes the prompt off. -/
def answered (p : OverlayPhase T) (instanceId : List UInt8) : OverlayPhase T :=
  if p.Shows instanceId then idle else p

/-- A prompt that is about to leave does. -/
def expired : OverlayPhase T → OverlayPhase T
  | leaving _ _ => idle
  | p => p

section
variable [Preorder T]

/-- What is on show has been since this time at the latest. -/
def StartedBy (p : OverlayPhase T) (time : T) : Prop := ∀ shown ∈ p.onShow, shown.2 ≤ time

/-- What had been shown by some time had been shown by any later one. -/
theorem StartedBy.mono {p : OverlayPhase T} {time time' : T} (h : p.StartedBy time)
    (hle : time ≤ time') : p.StartedBy time' := fun shown hshown => (h shown hshown).trans hle

theorem startedBy_idle {time : T} : (idle : OverlayPhase T).StartedBy time := nofun

theorem startedBy_showing {pattern : PatternMatch} {since time : T} (h : since ≤ time) :
    (showing pattern since).StartedBy time := by
  rintro _ ⟨⟩
  exact h

theorem StartedBy.updated {p : OverlayPhase T} {time : T} (h : p.StartedBy time)
    (pattern : PatternMatch) : (p.updated pattern).StartedBy time := by
  rw [OverlayPhase.updated]
  cases hshow : p.onShow with
  | none => exact h
  | some shown =>
    dsimp only
    split_ifs
    · exact startedBy_showing (h shown hshow)
    · exact h

theorem StartedBy.answered {p : OverlayPhase T} {time : T} (h : p.StartedBy time)
    (instanceId : List UInt8) : (p.answered instanceId).StartedBy time := by
  rw [OverlayPhase.answered]
  split_ifs
  · exact startedBy_idle
  · exact h

theorem StartedBy.expired {p : OverlayPhase T} {time : T} (h : p.StartedBy time) :
    p.expired.StartedBy time := by
  cases p with
  | idle => exact h
  | showing pattern since => exact h
  | leaving pattern since => exact startedBy_idle

end

section
variable [AddCommGroup T] [LinearOrder T]

/-- A prompt that is gone leaves, now or later. -/
def gone (p : OverlayPhase T) (minimum now : T) (instanceId : List UInt8) : OverlayPhase T :=
  match p.onShow with
  | some (shown, since) =>
    if shown.id = instanceId then if now < since + minimum then leaving shown since else idle else p
  | none => p

theorem StartedBy.gone {p : OverlayPhase T} {time : T} (h : p.StartedBy time) (minimum now : T)
    (instanceId : List UInt8) : (p.gone minimum now instanceId).StartedBy time := by
  rw [OverlayPhase.gone]
  cases hshow : p.onShow with
  | none => exact h
  | some shown =>
    dsimp only
    split_ifs
    · exact startedBy_showing (h shown hshow)
    · exact startedBy_idle
    · exact h

/-- What the engine has scheduled. -/
def scheduled (minimum : T) : OverlayPhase T → Option (List UInt8 × T)
  | leaving pattern since => some (pattern.id, since + minimum)
  | idle | showing _ _ => none

end

end OverlayPhase

/-- The engine is in the phase. -/
structure PatternEngine.Represents {T : Type*} [AddCommGroup T] [LinearOrder T] (minimum : T)
    (e : PatternEngine T) (p : OverlayPhase T) : Prop where
  activeMatch : e.activeMatch = p.onShow.map Prod.fst
  activeSince : e.activeSince = p.onShow.map Prod.snd
  pending : e.pendingGoneWorkItem = p.scheduled minimum

namespace PatternEngine.Represents

variable {T : Type*} [AddCommGroup T] [LinearOrder T] {settings : EngineSettings T}
  {e : PatternEngine T} {p : OverlayPhase T}

theorem init {minimum : T} : (PatternEngine.init : PatternEngine T).Represents minimum .idle :=
  ⟨rfl, rfl, rfl⟩

/-- The engine has the prompt active that the phase shows. -/
theorem isActive_iff {minimum : T} (h : e.Represents minimum p) (instanceId : List UInt8) :
    e.isActive instanceId = true ↔ p.Shows instanceId := by
  rw [PatternEngine.isActive, decide_eq_true_iff, h.activeMatch]
  cases hshow : p.onShow with
  | none => simpa using OverlayPhase.not_shows hshow instanceId
  | some shown => simpa using (OverlayPhase.shows_iff hshow).symm

/-- Only the three fields count. -/
theorem congr {minimum : T} {e' : PatternEngine T} (h : e.Represents minimum p)
    (hmatch : e'.activeMatch = e.activeMatch) (hsince : e'.activeSince = e.activeSince)
    (hpending : e'.pendingGoneWorkItem = e.pendingGoneWorkItem) : e'.Represents minimum p :=
  ⟨hmatch.trans h.activeMatch, hsince.trans h.activeSince, hpending.trans h.pending⟩

theorem clearActiveState {minimum : T} : e.clearActiveState.Represents minimum .idle :=
  ⟨rfl, rfl, rfl⟩

/-- A dismissed overlay is hidden and stays open. -/
theorem dismissLocally {minimum : T} (h : e.Represents minimum p) (instanceId : List UInt8) :
    (e.dismissLocally instanceId).Represents minimum p := by
  rw [PatternEngine.dismissLocally]
  split_ifs
  · exact h.congr rfl rfl rfl
  · exact h

/-- It comes back from the prompt that is open. -/
theorem restoreOverlay {minimum : T} (h : e.Represents minimum p) :
    e.restoreOverlay.Represents minimum p := by
  rw [PatternEngine.restoreOverlay]
  split_ifs
  · exact h.congr rfl rfl rfl
  · exact h

/-- A `present` that is not held back is shown. -/
theorem applyServerPresent {minimum : T} (h : e.Represents minimum p) (now : T)
    (pattern : PatternMatch) :
    (e.applyServerPresent settings now pattern).Represents minimum
      (if e.holdsBack settings now pattern then p else .showing pattern now) := by
  cases hheld : e.holdsBack settings now pattern with
  | true =>
    obtain ⟨hmatch, hsince, -, hpending⟩ := applyServerPresent_of_holdsBack hheld
    exact h.congr hmatch hsince hpending
  | false =>
    obtain ⟨hmatch, hsince, -, hpending⟩ := applyServerPresent_of_not_holdsBack hheld
    exact ⟨hmatch, hsince, hpending⟩

/-- An update of the prompt on show replaces it, and keeps the time since when it is. -/
theorem applyServerUpdate {minimum : T} (h : e.Represents minimum p) (now : T)
    (pattern : PatternMatch) :
    (e.applyServerUpdate now pattern).Represents minimum (p.updated pattern) := by
  rw [PatternEngine.applyServerUpdate, PatternEngine.isActive, h.activeMatch, h.activeSince,
    OverlayPhase.updated]
  cases p.onShow with
  | none => exact h
  | some shown =>
    obtain ⟨shown, since⟩ := shown
    by_cases hid : shown.id = pattern.id
    · rw [if_pos (by simpa using hid)]
      dsimp only
      rw [if_pos hid]
      exact ⟨rfl, rfl, rfl⟩
    · rw [if_neg (by simpa using hid)]
      dsimp only
      rw [if_neg hid]
      exact h

/-- **A prompt that is gone** is taken off at once or when its minimum is over. -/
theorem applyServerGone [IsOrderedAddMonoid T]
    (h : e.Represents settings.minimumVisibleDuration p) (now : T) (instanceId : List UInt8) :
    (e.applyServerGone settings now instanceId).Represents settings.minimumVisibleDuration
      (p.gone settings.minimumVisibleDuration now instanceId) := by
  rw [PatternEngine.applyServerGone, PatternEngine.isActive, h.activeMatch, OverlayPhase.gone]
  cases hshow : p.onShow with
  | none => exact h
  | some shown =>
    obtain ⟨shown, since⟩ := shown
    by_cases hid : shown.id = instanceId
    · rw [if_pos (by simpa using hid)]
      dsimp only
      rw [if_pos hid]
      have hremaining : settings.minimumVisibleDuration - (now - since)
          = since + settings.minimumVisibleDuration - now := by abel
      have hsince : (e.rememberGoneSuppression instanceId now).activeSince = some since := by
        rw [PatternEngine.rememberGoneSuppression, h.activeSince, hshow]
        rfl
      rw [hsince, Option.map_some, Option.getD_some, hremaining]
      by_cases hearly : now < since + settings.minimumVisibleDuration
      · rw [if_pos (sub_pos.mpr hearly), if_pos hearly]
        refine ⟨?_, hsince, ?_⟩
        · exact h.activeMatch.trans (by rw [hshow]; rfl)
        · rw [PatternEngine.scheduleGoneClear, OverlayPhase.scheduled, hid, add_sub_cancel]
      · rw [if_neg (fun hpos => hearly (sub_pos.mp hpos)), if_neg hearly]
        exact clearActiveState
    · rw [if_neg (by simpa using hid)]
      dsimp only
      rw [if_neg hid]
      exact h

/-- An answer takes the prompt off, whatever time is left. -/
theorem resolveLocally {minimum : T} (h : e.Represents minimum p) (now : T)
    (instanceId : List UInt8) :
    (e.resolveLocally settings now instanceId).Represents minimum (p.answered instanceId) := by
  rw [PatternEngine.resolveLocally, h.activeMatch, OverlayPhase.answered]
  cases hshow : p.onShow with
  | none =>
    rw [if_neg (OverlayPhase.not_shows hshow instanceId)]
    exact h
  | some shown =>
    dsimp only [Option.map_some]
    by_cases hid : shown.1.id = instanceId
    · rw [if_pos hid, if_pos ((OverlayPhase.shows_iff hshow).mpr hid)]
      exact clearActiveState
    · rw [if_neg hid, if_neg (fun hshows => hid ((OverlayPhase.shows_iff hshow).mp hshows))]
      exact h

/-- The work item clears what it was scheduled for. -/
theorem fireGoneClear {minimum : T} (h : e.Represents minimum p) {instanceId : List UInt8} {due : T}
    (hpending : e.pendingGoneWorkItem = some (instanceId, due)) :
    (e.fireGoneClear instanceId).Represents minimum p.expired := by
  rw [h.pending] at hpending
  cases p with
  | idle => exact nomatch hpending
  | showing pattern since => exact nomatch hpending
  | leaving pattern since =>
    obtain rfl : pattern.id = instanceId := congrArg Prod.fst (Option.some.inj hpending)
    have hactive : ({ e with pendingGoneWorkItem := none } : PatternEngine T).isActive pattern.id
        = true := (h.isActive_iff pattern.id).mpr ⟨_, rfl, rfl⟩
    rw [PatternEngine.fireGoneClear, if_pos hactive]
    exact clearActiveState

end PatternEngine.Represents

end TmuxRemote
