import TmuxRemote.Ios.Overlay

/-!
# Ios/MinimumVisible — how long a prompt stays (`PatternEngine.swift`)

The engine on its own, under any order of its calls and of the clear that it schedules: whoever
calls it, and whatever the server sends.  The clear runs at its time or later, and not at all once
it is cancelled.

A prompt that is taken up is on show for the minimum duration, unless the user answers it, the
engine is reset, or another prompt is taken up in its place (`shows_for_minimum`).
-/

namespace TmuxRemote

/-- What can happen to an engine. -/
inductive EngineCall
  | applyServerPresent (pattern : PatternMatch)
  | applyServerUpdate (pattern : PatternMatch)
  | applyServerGone (instanceId : List UInt8)
  | dismissLocally (instanceId : List UInt8)
  | restoreOverlay
  | resolveLocally (instanceId : List UInt8)
  | reset
  /-- The pending work item runs. -/
  | fire

namespace PatternEngine

variable {T : Type*} (e : PatternEngine T)

def reset : PatternEngine T := e.clearResolveSuppression.clearGoneSuppression.clearActiveState

/-! ## The overlay is hidden only over a prompt -/

/-- There is something to restore. -/
def HidesPrompt : Prop := e.isOverlayHidden = true → e.activeMatch.isSome = true

variable {e}

theorem hidesPrompt_of_not_hidden (h : e.isOverlayHidden = false) : e.HidesPrompt :=
  fun hhidden => absurd hhidden (by simp [h])

theorem HidesPrompt.dismissLocally (h : e.HidesPrompt) (instanceId : List UInt8) :
    (e.dismissLocally instanceId).HidesPrompt := by
  rw [PatternEngine.dismissLocally]
  split_ifs with hactive
  · intro _
    rw [isActive, decide_eq_true_iff] at hactive
    obtain ⟨pattern, hpattern, -⟩ := Option.map_eq_some_iff.mp hactive
    exact Option.isSome_of_mem hpattern
  · exact h

theorem HidesPrompt.restoreOverlay (h : e.HidesPrompt) : e.restoreOverlay.HidesPrompt := by
  rw [PatternEngine.restoreOverlay]
  split_ifs
  · exact hidesPrompt_of_not_hidden rfl
  · exact h

theorem HidesPrompt.fireGoneClear (h : e.HidesPrompt) (instanceId : List UInt8) :
    (e.fireGoneClear instanceId).HidesPrompt := by
  rw [PatternEngine.fireGoneClear]
  split_ifs
  · exact hidesPrompt_of_not_hidden rfl
  · exact h

theorem HidesPrompt.applyServerUpdate (h : e.HidesPrompt) (now : T) (pattern : PatternMatch) :
    (e.applyServerUpdate now pattern).HidesPrompt := by
  rw [PatternEngine.applyServerUpdate]
  split_ifs
  · exact fun _ => rfl
  · exact h

theorem HidesPrompt.resolveLocally {settings : EngineSettings T} (h : e.HidesPrompt) (now : T)
    (instanceId : List UInt8) :
    (e.resolveLocally settings now instanceId).HidesPrompt := by
  rw [PatternEngine.resolveLocally]
  split
  · split_ifs
    · exact hidesPrompt_of_not_hidden rfl
    · exact h
  · exact h

section
variable [AddCommGroup T] [LinearOrder T] {settings : EngineSettings T}

theorem HidesPrompt.applyServerGone (h : e.HidesPrompt) (now : T) (instanceId : List UInt8) :
    (e.applyServerGone settings now instanceId).HidesPrompt := by
  rw [PatternEngine.applyServerGone]
  split_ifs
  · dsimp only
    split_ifs
    · exact h
    · exact hidesPrompt_of_not_hidden rfl
  · exact h

theorem HidesPrompt.applyServerPresent (h : e.HidesPrompt) (now : T) (pattern : PatternMatch) :
    (e.applyServerPresent settings now pattern).HidesPrompt := by
  cases hheld : e.holdsBack settings now pattern with
  | true =>
    obtain ⟨hmatch, -, hhidden, -⟩ := applyServerPresent_of_holdsBack hheld
    rw [HidesPrompt, hmatch, hhidden]
    exact h
  | false =>
    exact hidesPrompt_of_not_hidden (applyServerPresent_of_not_holdsBack hheld).2.2.1

end

end PatternEngine

/-! ## Calls and the clock -/

/-- An engine, and the time of the last thing that happened to it. -/
structure TimedEngine (T : Type*) where
  engine : PatternEngine T
  now : T

namespace TimedEngine

variable {T : Type*}

/-- A new engine. -/
def init (now : T) : TimedEngine T := ⟨.init, now⟩

section
variable [AddCommGroup T] [LinearOrder T] (settings : EngineSettings T)

/-- One call at a time no earlier than the last; `none` when it cannot be made. -/
def step (s : TimedEngine T) : T × EngineCall → Option (TimedEngine T)
  | (now, call) =>
    if now < s.now then none
    else
      match call with
      | .applyServerPresent pattern => some ⟨s.engine.applyServerPresent settings now pattern, now⟩
      | .applyServerUpdate pattern => some ⟨s.engine.applyServerUpdate now pattern, now⟩
      | .applyServerGone instanceId => some ⟨s.engine.applyServerGone settings now instanceId, now⟩
      | .dismissLocally instanceId => some ⟨s.engine.dismissLocally instanceId, now⟩
      | .restoreOverlay => some ⟨s.engine.restoreOverlay, now⟩
      | .resolveLocally instanceId => some ⟨s.engine.resolveLocally settings now instanceId, now⟩
      | .reset => some ⟨s.engine.reset, now⟩
      | .fire =>
        match s.engine.pendingGoneWorkItem with
        | some (instanceId, due) =>
          if now < due then none else some ⟨s.engine.fireGoneClear instanceId, now⟩
        | none => none

/-- What takes a prompt off before its time: its answer, a reset, another prompt taken up. -/
def Displaces (instanceId : List UInt8) (s : TimedEngine T) : T × EngineCall → Prop
  | (now, .applyServerPresent pattern) =>
    pattern.id ≠ instanceId ∧ s.engine.holdsBack settings now pattern = false
  | (_, .resolveLocally answered) => answered = instanceId
  | (_, .reset) => True
  | _ => False

/-- The invariant of runs: the engine is in a phase, and hides a prompt only. -/
structure Coherent (s : TimedEngine T) (p : OverlayPhase T) : Prop where
  represents : s.engine.Represents settings.minimumVisibleDuration p
  hides : s.engine.HidesPrompt

/-- The instance is on show since the time or later, until its minimum time is over. -/
def Stays (instanceId : List UInt8) (taken : T) (s : TimedEngine T) : Prop :=
  ∃ p, Coherent settings s p ∧ taken ≤ s.now ∧ (s.now < taken + settings.minimumVisibleDuration →
    ∃ shown ∈ p.onShow, shown.1.id = instanceId ∧ taken ≤ shown.2)

/-- What a step does to the phase. -/
def advanced (p : OverlayPhase T) (s : TimedEngine T) : T × EngineCall → OverlayPhase T
  | (now, .applyServerPresent pattern) =>
    if s.engine.holdsBack settings now pattern then p else .showing pattern now
  | (_, .applyServerUpdate pattern) => p.updated pattern
  | (now, .applyServerGone instanceId) =>
    p.gone settings.minimumVisibleDuration now instanceId
  | (_, .resolveLocally instanceId) => p.answered instanceId
  | (_, .reset) => .idle
  | (_, .fire) => p.expired
  | (_, .dismissLocally _) | (_, .restoreOverlay) => p

end

variable [AddCommGroup T] [LinearOrder T] {settings : EngineSettings T} {s s' : TimedEngine T}
  {p : OverlayPhase T} {call : T × EngineCall}

/-- The clock does not go back, and is that of the call. -/
theorem now_of_step (hstep : s.step settings call = some s') :
    s.now ≤ call.1 ∧ s'.now = call.1 := by
  obtain ⟨now, call⟩ := call
  obtain ⟨hnow, hstep⟩ := Option.ite_none_left_eq_some.mp hstep
  refine ⟨not_lt.mp hnow, ?_⟩
  split at hstep
  case h_8 =>
    split at hstep
    · obtain ⟨-, heq⟩ := Option.ite_none_left_eq_some.mp hstep
      exact Option.some.inj heq ▸ rfl
    · exact nomatch hstep
  all_goals exact Option.some.inj hstep ▸ rfl

theorem coherent_init (settings : EngineSettings T) (start : T) :
    Coherent settings (init start) .idle :=
  ⟨.init, PatternEngine.hidesPrompt_of_not_hidden rfl⟩

/-- A clear that runs has reached its time. -/
theorem due_le_of_fire {now : T} {instanceId : List UInt8} {due : T}
    (hpending : s.engine.pendingGoneWorkItem = some (instanceId, due))
    (hstep : s.step settings (now, .fire) = some s') : due ≤ now := by
  obtain ⟨-, hstep⟩ := Option.ite_none_left_eq_some.mp hstep
  rw [hpending] at hstep
  exact not_lt.mp (Option.ite_none_left_eq_some.mp hstep).1

/-- What is about to be cleared is on show. -/
theorem Coherent.isActive_of_pending (h : Coherent settings s p) {instanceId : List UInt8} {due : T}
    (hpending : s.engine.pendingGoneWorkItem = some (instanceId, due)) :
    s.engine.isActive instanceId = true := by
  rw [h.represents.pending] at hpending
  cases p with
  | idle => exact nomatch hpending
  | showing pattern since => exact nomatch hpending
  | leaving pattern since =>
    obtain rfl : pattern.id = instanceId := congrArg Prod.fst (Option.some.inj hpending)
    exact (h.represents.isActive_iff pattern.id).mpr ⟨_, rfl, rfl⟩

variable [IsOrderedAddMonoid T]

/-- **What a step keeps.** -/
theorem Coherent.step (h : Coherent settings s p) (hstep : s.step settings call = some s') :
    Coherent settings s' (advanced settings p s call) := by
  obtain ⟨hrepresents, hhides⟩ := h
  obtain ⟨now, call⟩ := call
  obtain ⟨-, hstep⟩ := Option.ite_none_left_eq_some.mp hstep
  cases call with
  | applyServerPresent pattern =>
    obtain rfl := Option.some.inj hstep
    exact ⟨hrepresents.applyServerPresent now pattern, hhides.applyServerPresent now pattern⟩
  | applyServerUpdate pattern =>
    obtain rfl := Option.some.inj hstep
    exact ⟨hrepresents.applyServerUpdate now pattern, hhides.applyServerUpdate now pattern⟩
  | applyServerGone instanceId =>
    obtain rfl := Option.some.inj hstep
    exact ⟨hrepresents.applyServerGone now instanceId, hhides.applyServerGone now instanceId⟩
  | dismissLocally instanceId =>
    obtain rfl := Option.some.inj hstep
    exact ⟨hrepresents.dismissLocally instanceId, hhides.dismissLocally instanceId⟩
  | restoreOverlay =>
    obtain rfl := Option.some.inj hstep
    exact ⟨hrepresents.restoreOverlay, hhides.restoreOverlay⟩
  | resolveLocally instanceId =>
    obtain rfl := Option.some.inj hstep
    exact ⟨hrepresents.resolveLocally now instanceId, hhides.resolveLocally now instanceId⟩
  | reset =>
    obtain rfl := Option.some.inj hstep
    exact ⟨.clearActiveState, PatternEngine.hidesPrompt_of_not_hidden rfl⟩
  | fire =>
    dsimp only at hstep
    split at hstep
    · next instanceId due hpending =>
      obtain ⟨-, heq⟩ := Option.ite_none_left_eq_some.mp hstep
      obtain rfl := Option.some.inj heq
      exact ⟨hrepresents.fireGoneClear hpending, hhides.fireGoneClear instanceId⟩
    · exact nomatch hstep

/-- **What a step leaves on show.**  A prompt whose minimum time is not over stays, unless the step
displaces it: a `gone` only makes it leave later, and a clear that runs comes too late. -/
theorem Stays.step {instanceId : List UInt8} {taken : T} (h : Stays settings instanceId taken s)
    (hspares : ¬ Displaces settings instanceId s call)
    (hstep : s.step settings call = some s') : Stays settings instanceId taken s' := by
  obtain ⟨p, hcoherent, htaken, hshows⟩ := h
  obtain ⟨hnow, htime⟩ := now_of_step hstep
  refine ⟨_, hcoherent.step hstep, htaken.trans (hnow.trans htime.ge), fun hearly => ?_⟩
  rw [htime] at hearly
  obtain ⟨shown, hshown, hid, hsince⟩ := hshows (hnow.trans_lt hearly)
  have hlater : call.1 < shown.2 + settings.minimumVisibleDuration :=
    hearly.trans_le (add_le_add hsince le_rfl)
  have hkept : ∃ shown ∈ p.onShow, shown.1.id = instanceId ∧ taken ≤ shown.2 :=
    ⟨shown, hshown, hid, hsince⟩
  obtain ⟨now, call⟩ := call
  cases call with
  | applyServerPresent pattern =>
    rw [advanced]
    split_ifs with hheld
    · exact hkept
    · have hsame : pattern.id = instanceId := by
        by_contra hother
        exact hspares ⟨hother, Bool.eq_false_iff.mpr hheld⟩
      exact ⟨_, rfl, hsame, htaken.trans hnow⟩
  | applyServerUpdate pattern =>
    rw [advanced, OverlayPhase.updated, hshown]
    dsimp only
    split_ifs with hsame
    · exact ⟨_, rfl, hsame.symm.trans hid, hsince⟩
    · exact hkept
  | applyServerGone gone =>
    rw [advanced, OverlayPhase.gone, hshown]
    dsimp only
    split_ifs
    · exact ⟨_, rfl, hid, hsince⟩
    · exact hkept
  | dismissLocally dismissed => exact hkept
  | restoreOverlay => exact hkept
  | resolveLocally answered =>
    have hother : ¬ p.Shows answered := fun hshows =>
      hspares (((OverlayPhase.shows_iff hshown).mp hshows).symm.trans hid)
    rw [advanced, OverlayPhase.answered, if_neg hother]
    exact hkept
  | reset => exact absurd trivial hspares
  | fire =>
    cases p with
    | idle => exact absurd hshown (Option.some_ne_none shown).symm
    | showing pattern since => exact hkept
    | leaving pattern since =>
      -- the clear is due when the minimum time is over
      obtain rfl : (pattern, since) = shown := Option.some.inj hshown
      exact absurd (due_le_of_fire hcoherent.represents.pending hstep) hlater.not_ge

/-- **A prompt that is taken up is on show for the minimum duration**, unless it is displaced. -/
theorem Coherent.shows_for_minimum (h : Coherent settings s p) {now : T} {pattern : PatternMatch}
    (htaken : s.engine.holdsBack settings now pattern = false)
    (hstep : s.step settings (now, .applyServerPresent pattern) = some s')
    {later : List (T × EngineCall)} {t : TimedEngine T}
    (hspared : Guarded.AllSteps (TimedEngine.step settings)
      (fun s call => ¬ Displaces settings pattern.id s call) s' later)
    (hrun : Guarded.run (TimedEngine.step settings) s' later = some t)
    (hearly : t.now < now + settings.minimumVisibleDuration) :
    t.engine.isActive pattern.id = true := by
  have hnow : now ≤ s'.now := (now_of_step hstep).2.ge
  have hstays : Stays settings pattern.id now s' := by
    refine ⟨_, h.step hstep, hnow, fun _ => ⟨(pattern, now), ?_, rfl, le_rfl⟩⟩
    rw [advanced, if_neg (Bool.eq_false_iff.mp htaken)]
    rfl
  obtain ⟨q, hcoherent, -, hshows⟩ := (Guarded.throughout_of_allSteps
    (fun _ _ _ hs hC hstep => Stays.step hs hC hstep) hstays hspared).last hrun
  obtain ⟨shown, hshown, hid, -⟩ := hshows hearly
  exact (hcoherent.represents.isActive_iff pattern.id).mpr ⟨shown, hshown, hid⟩

/-- **The overlay and its timer.**  After any run, what is about to be cleared is on show, and only
a prompt on show is hidden.  A `present` that is taken up shows its prompt, cancels what was to be
cleared, and keeps the prompt on show for the minimum duration unless something displaces it.  An
update cancels the clear of its prompt. -/
theorem overlay_timer (settings : EngineSettings T) (start : T) (run : List (T × EngineCall))
    (s : TimedEngine T) (hrun : Guarded.run (step settings) (init start) run = some s) :
    (∀ instanceId due, s.engine.pendingGoneWorkItem = some (instanceId, due) →
      s.engine.isActive instanceId = true)
    ∧ (s.engine.isOverlayHidden = true → s.engine.activeMatch.isSome = true)
    ∧ (∀ now pattern s', s.engine.holdsBack settings now pattern = false →
      s.step settings (now, .applyServerPresent pattern) = some s' →
      s'.engine.activeMatch = some pattern ∧ s'.engine.pendingGoneWorkItem = none
        ∧ ∀ later t, Guarded.AllSteps (step settings)
            (fun s call => ¬ Displaces settings pattern.id s call) s' later →
          Guarded.run (step settings) s' later = some t →
          t.now < now + settings.minimumVisibleDuration → t.engine.isActive pattern.id = true)
    ∧ ∀ now pattern s', s.engine.pendingGoneWorkItem.map Prod.fst = some pattern.id →
      s.step settings (now, .applyServerUpdate pattern) = some s' →
      s'.engine.pendingGoneWorkItem = none := by
  obtain ⟨p, h⟩ := Guarded.run_invariant (I := fun s => ∃ p, Coherent settings s p)
    (fun _ _ _ hs hstep => ⟨_, hs.choose_spec.step hstep⟩) ⟨_, coherent_init settings start⟩ hrun
  refine ⟨fun instanceId due => h.isActive_of_pending, h.hides, ?_, ?_⟩
  · intro now pattern s' htaken hstep
    obtain ⟨hmatch, -, -, hcancelled⟩ :=
      PatternEngine.applyServerPresent_of_not_holdsBack (e := s.engine) htaken
    obtain ⟨-, heq⟩ := Option.ite_none_left_eq_some.mp hstep
    refine ⟨Option.some.inj heq ▸ hmatch, Option.some.inj heq ▸ hcancelled, ?_⟩
    intro later t hspared hlater
    exact h.shows_for_minimum htaken hstep hspared hlater
  · intro now pattern s' hpending hstep
    obtain ⟨⟨instanceId, due⟩, hitem, hid⟩ := Option.map_eq_some_iff.mp hpending
    obtain rfl : instanceId = pattern.id := hid
    obtain ⟨-, heq⟩ := Option.ite_none_left_eq_some.mp hstep
    obtain rfl := Option.some.inj heq
    rw [PatternEngine.applyServerUpdate, if_pos (h.isActive_of_pending hitem)]
    rfl

/-- A prompt that is gone after a fifth of a second waits for its clear, on show. -/
theorem overlay_timer_gone :
    ∃ s, Guarded.run (step Overlay.appSettings) (init 0)
        [(0, .applyServerPresent Overlay.proceedPrompt), (2, .applyServerGone (utf8 "inst-1"))]
      = some s
      ∧ s.engine.pendingGoneWorkItem = some (utf8 "inst-1", 10)
      ∧ s.engine.isActive (utf8 "inst-1") = true :=
  ⟨_, rfl, rfl, (overlay_timer Overlay.appSettings 0
    [(0, .applyServerPresent Overlay.proceedPrompt), (2, .applyServerGone (utf8 "inst-1"))] _
    rfl).1 _ _ rfl⟩

end TimedEngine

end TmuxRemote
