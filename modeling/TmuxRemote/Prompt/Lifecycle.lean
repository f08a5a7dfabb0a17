import TmuxRemote.Library.Reactive
import TmuxRemote.Prompt.Identity

/-!
# Prompt/Lifecycle — the prompt state machine (`tmuxremote_prompt_lifecycle.c`)

One snapshot's candidate, or its absence, goes into `process`; a client's answer goes into
`resolve`.  Both return the events handed to the callback, which is set right after `init`.

The id function is a parameter: `buildInstanceId` is the one the agent uses, and nothing here looks
inside it.

The code keeps a flag, an id slot and a counter; what they mean is a `PromptPhase`: the prompt on
show, how many snapshots it has been missing, and the id held back after a resolve.
`process_refines` and `resolve_refines` say that the code is the machine on phases.
-/

namespace TmuxRemote

/-- `TMUXREMOTE_PROMPT_ABSENCE_SNAPSHOTS` -/
def promptAbsenceSnapshots : ℕ := 2

theorem promptAbsenceSnapshots_pos : 0 < promptAbsenceSnapshots := Nat.two_pos

/-- `build_instance_id`, or any other function in its place. -/
abbrev IdScheme := PromptCandidate → InstanceId

/-- `tmuxremote_prompt_lifecycle`; `has_active` is whether `active` is there. -/
structure PromptLifecycle where
  active : Option PromptInstance
  absenceSnapshots : ℕ
  lastSequence : UInt64
  resolvedInstanceId : InstanceId
  suppressResolved : Bool
  deriving DecidableEq

/-- `candidate_to_instance_with_id` -/
def candidateToInstanceWithId (ids : IdScheme) (candidate : PromptCandidate) : PromptInstance :=
  { candidate.toInstance with instanceId := ids candidate }

namespace PromptLifecycle

/-- `tmuxremote_prompt_lifecycle_init` -/
def init : PromptLifecycle where
  active := none
  absenceSnapshots := 0
  lastSequence := 0
  resolvedInstanceId := InstanceId.empty
  suppressResolved := false

/-- `has_active` -/
def hasActive (s : PromptLifecycle) : Bool := s.active.isSome

/-- `clear_active` -/
def clearActive (s : PromptLifecycle) : PromptLifecycle :=
  match s.active with
  | none => s
  | some _ => { s with active := none, absenceSnapshots := 0 }

/-- `suppress_resolved = false; resolved_instance_id[0] = '\0'` -/
def clearSuppression (s : PromptLifecycle) : PromptLifecycle :=
  { s with suppressResolved := false, resolvedInstanceId := InstanceId.empty }

/-- `is_suppressed` -/
def isSuppressed (s : PromptLifecycle) (instanceId : InstanceId) : Bool :=
  s.suppressResolved && !s.resolvedInstanceId.text.isEmpty
    && instanceId.text == s.resolvedInstanceId.text

/-- `tmuxremote_prompt_lifecycle_process` -/
def process (ids : IdScheme) (s : PromptLifecycle) (candidate : Option PromptCandidate)
    (snapshotSequence : UInt64) : PromptLifecycle × List PromptEvent :=
  let s := { s with lastSequence := snapshotSequence }
  let built := candidate.map (candidateToInstanceWithId ids)
  let suppressedIncoming := built.any fun incoming => s.isSuppressed incoming.instanceId
  let incoming := if suppressedIncoming then none else built
  let s := if incoming.isSome && s.suppressResolved then s.clearSuppression else s
  match s.active, incoming with
  | none, some incoming =>
    let incoming := incoming.withRevision 1
    ({ s with active := some incoming.copy, absenceSnapshots := 0 }, [.present incoming.copy])
  | none, none =>
    (if s.suppressResolved && !suppressedIncoming then s.clearSuppression else s, [])
  | some active, none =>
    let s := { s with absenceSnapshots := s.absenceSnapshots + 1 }
    if s.absenceSnapshots ≥ promptAbsenceSnapshots then
      let goneId := InstanceId.ofCString active.instanceId.text
      (s.clearActive.clearSuppression, [.gone goneId])
    else (s, [])
  | some active, some incoming =>
    let s := { s with absenceSnapshots := 0 }
    if active.instanceId.text == incoming.instanceId.text then
      let incoming := incoming.withRevision active.revision
      if active.sameSemantics incoming then (s, [])
      else
        let incoming := incoming.withRevision (active.revision + 1)
        ({ s.clearActive with active := some incoming.copy }, [.update incoming.copy])
    else
      let goneId := InstanceId.ofCString active.instanceId.text
      let incoming := incoming.withRevision 1
      ({ s.clearActive with active := some incoming.copy },
        [.gone goneId, .present incoming.copy])

/-- `tmuxremote_prompt_lifecycle_resolve` -/
def resolve (s : PromptLifecycle) (instanceId : CString) : PromptLifecycle × List PromptEvent :=
  if instanceId.isEmpty then (s, [])
  else
    let s := { s with
      resolvedInstanceId := InstanceId.ofCString instanceId, suppressResolved := true }
    match s.active with
    | none => (s, [])
    | some active =>
      if active.instanceId.text == instanceId then
        (s.clearActive, [.gone (InstanceId.ofCString active.instanceId.text)])
      else (s, [])

/-- `tmuxremote_prompt_lifecycle_copy_active` -/
def copyActive (s : PromptLifecycle) : Option PromptInstance := s.active.map PromptInstance.copy

end PromptLifecycle

/-- A call of the lifecycle's interface. -/
inductive LifecycleCall
  | process (candidate : Option PromptCandidate) (snapshotSequence : UInt64)
  | resolve (instanceId : CString)

/-- The lifecycle as a machine that answers calls with events. -/
def PromptLifecycle.step (ids : IdScheme) (s : PromptLifecycle) :
    LifecycleCall → PromptLifecycle × List PromptEvent
  | .process candidate snapshotSequence => s.process ids candidate snapshotSequence
  | .resolve instanceId => s.resolve instanceId

/-- The lifecycle after some calls. -/
def PromptLifecycle.after (ids : IdScheme) (calls : List LifecycleCall) : PromptLifecycle :=
  (Reactive.run (step ids) init calls).1

theorem PromptLifecycle.after_concat (ids : IdScheme) (calls : List LifecycleCall)
    (call : LifecycleCall) : after ids (calls ++ [call]) = ((after ids calls).step ids call).1 := by
  rw [after, Reactive.run_concat]
  rfl

/-! ## Phases -/

/-- What the lifecycle is for: which prompt is on show, for how many snapshots it has been missing,
and which resolved id is held back. -/
@[ext] structure PromptPhase where
  shown : Option PromptInstance
  absences : ℕ
  held : Option InstanceId

namespace PromptPhase

/-- No unsuppressed candidate on the screen.  `isHeld` says that the held prompt is still there. -/
def absent (p : PromptPhase) (isHeld : Bool) : PromptPhase × List PromptEvent :=
  match p.shown with
  | none => ({ p with held := if isHeld then p.held else none }, [])
  | some active =>
    if p.absences + 1 < promptAbsenceSnapshots then ({ p with absences := p.absences + 1 }, [])
    else ({ shown := none, absences := 0, held := none }, [.gone active.instanceId])

/-- An unsuppressed prompt on the screen. -/
def sighted (p : PromptPhase) (inst : PromptInstance) : PromptPhase × List PromptEvent :=
  match p.shown with
  | none =>
    ({ shown := some (inst.withRevision 1), absences := 0, held := none },
      [.present (inst.withRevision 1)])
  | some active =>
    if active.instanceId = inst.instanceId then
      if active.sameSemantics inst then
        ({ shown := some active, absences := 0, held := none }, [])
      else
        ({ shown := some (inst.withRevision (active.revision + 1)), absences := 0, held := none },
          [.update (inst.withRevision (active.revision + 1))])
    else
      ({ shown := some (inst.withRevision 1), absences := 0, held := none },
        [.gone active.instanceId, .present (inst.withRevision 1)])

/-- A snapshot, read as the prompt it shows. -/
def observe (p : PromptPhase) : Option PromptInstance → PromptPhase × List PromptEvent
  | none => p.absent false
  | some inst => if p.held = some inst.instanceId then p.absent true else p.sighted inst

/-- An answer: its id is held back from now on, and taken off the screen if it is shown. -/
def answered (p : PromptPhase) (instanceId : CString) : PromptPhase × List PromptEvent :=
  if instanceId.isEmpty then (p, [])
  else
    match p.shown with
    | none => ({ p with held := some (InstanceId.ofCString instanceId) }, [])
    | some active =>
      if active.instanceId.text = instanceId then
        ({ shown := none, absences := 0, held := some (InstanceId.ofCString instanceId) },
          [.gone active.instanceId])
      else ({ p with held := some (InstanceId.ofCString instanceId) }, [])

/-- Nothing shown, nothing held. -/
def idle : PromptPhase := { shown := none, absences := 0, held := none }

/-- A snapshot, read as the candidate found on it. -/
def look (ids : IdScheme) (p : PromptPhase) (candidate : Option PromptCandidate) :
    PromptPhase × List PromptEvent :=
  p.observe (candidate.map (candidateToInstanceWithId ids))

/-- One call, on phases. -/
def step (ids : IdScheme) (p : PromptPhase) : LifecycleCall → PromptPhase × List PromptEvent
  | .process candidate _ => p.look ids candidate
  | .resolve instanceId => p.answered instanceId

/-! ### What each case does -/

section Cases

variable {p : PromptPhase} {active inst : PromptInstance} {instanceId : CString}

theorem absent_idle (h : p.shown = none) (isHeld : Bool) :
    p.absent isHeld = ({ p with held := if isHeld then p.held else none }, []) := by
  rw [absent, h]

theorem absent_wait (h : p.shown = some active) (hlt : p.absences + 1 < promptAbsenceSnapshots)
    (isHeld : Bool) : p.absent isHeld = ({ p with absences := p.absences + 1 }, []) := by
  simp only [absent, h, if_pos hlt]

theorem absent_gone (h : p.shown = some active) (hge : ¬ p.absences + 1 < promptAbsenceSnapshots)
    (isHeld : Bool) :
    p.absent isHeld
      = ({ shown := none, absences := 0, held := none }, [.gone active.instanceId]) := by
  simp only [absent, h, if_neg hge]

theorem sighted_idle (h : p.shown = none) :
    p.sighted inst
      = ({ shown := some (inst.withRevision 1), absences := 0, held := none },
        [.present (inst.withRevision 1)]) := by
  simp only [sighted, h]

theorem sighted_same (h : p.shown = some active) (hid : active.instanceId = inst.instanceId)
    (hsem : active.sameSemantics inst = true) :
    p.sighted inst = ({ shown := some active, absences := 0, held := none }, []) := by
  simp only [sighted, h, if_pos hid, if_pos hsem]

theorem sighted_changed (h : p.shown = some active) (hid : active.instanceId = inst.instanceId)
    (hsem : active.sameSemantics inst = false) :
    p.sighted inst
      = ({ shown := some (inst.withRevision (active.revision + 1)), absences := 0, held := none },
        [.update (inst.withRevision (active.revision + 1))]) := by
  simp only [sighted, h, if_pos hid, hsem, Bool.false_eq_true, if_false]

theorem sighted_other (h : p.shown = some active) (hid : active.instanceId ≠ inst.instanceId) :
    p.sighted inst
      = ({ shown := some (inst.withRevision 1), absences := 0, held := none },
        [.gone active.instanceId, .present (inst.withRevision 1)]) := by
  simp only [sighted, h, if_neg hid]

/-- Sighting the prompt on show, changed or not, keeps it on show. -/
theorem sighted_keeps (h : p.shown = some active) (hid : active.instanceId = inst.instanceId) :
    (∃ kept, kept.instanceId = active.instanceId
        ∧ (p.sighted inst).1 = { shown := some kept, absences := 0, held := none })
      ∧ ∀ id, .gone id ∉ (p.sighted inst).2 := by
  rcases hsem : active.sameSemantics inst with - | -
  · rw [sighted_changed h hid hsem]
    refine ⟨⟨inst.withRevision (active.revision + 1), ?_, rfl⟩, fun id hmem => ?_⟩
    · rw [PromptInstance.withRevision_instanceId, hid]
    · exact PromptEvent.noConfusion (List.mem_singleton.mp hmem)
  · rw [sighted_same h hid hsem]
    exact ⟨⟨active, rfl, rfl⟩, fun id => List.not_mem_nil⟩

theorem observe_held (h : p.held = some inst.instanceId) : p.observe (some inst) = p.absent true :=
  if_pos h

theorem observe_new (h : p.held ≠ some inst.instanceId) : p.observe (some inst) = p.sighted inst :=
  if_neg h

theorem answered_empty (h : instanceId.isEmpty = true) : p.answered instanceId = (p, []) := by
  rw [answered, if_pos h]

theorem answered_shown (h : instanceId.isEmpty = false) (hshown : p.shown = some active)
    (hid : active.instanceId.text = instanceId) :
    p.answered instanceId
      = ({ shown := none, absences := 0, held := some (InstanceId.ofCString instanceId) },
        [.gone active.instanceId]) := by
  simp only [answered, h, hshown, Bool.false_eq_true, if_false, if_pos hid]

theorem answered_other (h : instanceId.isEmpty = false)
    (hshown : ∀ active, p.shown = some active → active.instanceId.text ≠ instanceId) :
    p.answered instanceId = ({ p with held := some (InstanceId.ofCString instanceId) }, []) := by
  rw [answered, if_neg (ne_true_of_eq_false h)]
  cases hp : p.shown with
  | none => rfl
  | some active => exact if_neg (hshown active hp)

/-- An answer emits at most a `gone`. -/
theorem answered_events (p : PromptPhase) (instanceId : CString) :
    (p.answered instanceId).2 = [] ∨ ∃ id, (p.answered instanceId).2 = [.gone id] := by
  rcases hempty : instanceId.isEmpty with - | -
  · by_cases hid : ∃ active, p.shown = some active ∧ active.instanceId.text = instanceId
    · obtain ⟨active, hshown, hid⟩ := hid
      rw [answered_shown hempty hshown hid]
      exact Or.inr ⟨active.instanceId, rfl⟩
    · rw [answered_other hempty fun active hshown hsame => hid ⟨active, hshown, hsame⟩]
      exact Or.inl rfl
  · rw [answered_empty hempty]
    exact Or.inl rfl

/-- An absence leaves the slot filled only if the held prompt is on the screen or another is still
on show. -/
theorem held_absent {isHeld : Bool} {A : InstanceId} (h : (p.absent isHeld).1.held = some A) :
    p.held = some A ∧ (p.shown = none → isHeld = true)
      ∧ (p.shown ≠ none → p.absences + 1 < promptAbsenceSnapshots) := by
  rcases hshown : p.shown with - | active
  · rw [absent_idle hshown] at h
    rcases isHeld with - | -
    · exact absurd h (by simp)
    · exact ⟨h, fun _ => rfl, fun hne => absurd rfl hne⟩
  · by_cases hlt : p.absences + 1 < promptAbsenceSnapshots
    · rw [absent_wait hshown hlt] at h
      exact ⟨h, fun hnone => absurd hnone (by simp), fun _ => hlt⟩
    · rw [absent_gone hshown hlt] at h
      exact absurd h (by simp)

/-- An absence on which no prompt goes is silent, and does not empty the slot of a held prompt. -/
theorem absent_silent (h : ∀ id, .gone id ∉ (p.absent true).2) :
    (p.absent true).2 = [] ∧ (p.absent true).1.held = p.held := by
  rcases hshown : p.shown with - | active
  · rw [absent_idle hshown]
    exact ⟨rfl, rfl⟩
  · by_cases hlt : p.absences + 1 < promptAbsenceSnapshots
    · rw [absent_wait hshown hlt]
      exact ⟨rfl, rfl⟩
    · rw [absent_gone hshown hlt] at h
      exact absurd (List.mem_singleton_self _) (h active.instanceId)

/-- A prompt on the screen that is not held empties the slot. -/
theorem sighted_releases : (p.sighted inst).1.held = none := by
  rw [sighted]
  cases p.shown with
  | none => rfl
  | some active =>
    by_cases hid : active.instanceId = inst.instanceId
    · by_cases hsem : active.sameSemantics inst = true <;> simp [hid, hsem]
    · simp [hid]

end Cases

end PromptPhase

/-! ## The code is the machine on phases -/

namespace PromptLifecycle

/-- The phase a lifecycle is in. -/
def phase (s : PromptLifecycle) : PromptPhase where
  shown := s.active
  absences := s.absenceSnapshots
  held := if s.suppressResolved && !s.resolvedInstanceId.text.isEmpty
    then some s.resolvedInstanceId else none

@[simp] theorem phase_init : init.phase = PromptPhase.idle := rfl

@[simp] theorem phase_shown (s : PromptLifecycle) : s.phase.shown = s.active := rfl

/-- `is_suppressed` compares with the held id. -/
theorem isSuppressed_iff (s : PromptLifecycle) (id : InstanceId) :
    s.isSuppressed id = true ↔ s.phase.held = some id := by
  rw [isSuppressed, phase]
  by_cases h : (s.suppressResolved && !s.resolvedInstanceId.text.isEmpty) = true
  · rw [h, Bool.true_and, if_pos rfl, beq_iff_eq, InstanceId.text_inj, Option.some.injEq, eq_comm]
  · rw [Bool.eq_false_iff.mpr h]
    simp

/-- A lifecycle that has had its suppression cleared, if there was any, holds nothing back. -/
theorem phase_release (s : PromptLifecycle) :
    (if s.suppressResolved then s.clearSuppression else s).phase =
    { s.phase with held := none } := by
  by_cases h : s.suppressResolved = true
  · rw [if_pos h]
    rfl
  · rw [if_neg h]
    simp [phase, h]

/-- Replacing prompt and counter of a lifecycle that holds nothing back. -/
theorem phase_replace {s : PromptLifecycle} (h : s.phase.held = none)
    (active : Option PromptInstance) (absences : ℕ) :
    ({ s with active := active, absenceSnapshots := absences } : PromptLifecycle).phase
      = { shown := active, absences := absences, held := none } :=
  PromptPhase.ext rfl rfl h

/-- A snapshot without a candidate. -/
theorem process_none (ids : IdScheme) (s : PromptLifecycle) (snapshotSequence : UInt64) :
    (s.process ids none snapshotSequence).map phase id = s.phase.absent false := by
  obtain ⟨active, absences, last, resolvedId, suppress⟩ := s
  cases active with
  | none => cases suppress <;> rfl
  | some active =>
    by_cases h : absences + 1 < promptAbsenceSnapshots
    · simp [process, PromptPhase.absent, phase, h, Nat.not_le.mpr h]
    · simp [process, PromptPhase.absent, phase, h, Nat.not_lt.mp h, clearActive, clearSuppression,
        InstanceId.ofCString_text]

/-- A snapshot whose candidate is the held prompt: an absence, but the prompt stays held. -/
theorem process_suppressed (ids : IdScheme) (s : PromptLifecycle) {c : PromptCandidate}
    (snapshotSequence : UInt64) (hc : s.isSuppressed (ids c) = true) :
    (s.process ids (some c) snapshotSequence).map phase id = s.phase.absent true := by
  have hany : ({ s with lastSequence := snapshotSequence } : PromptLifecycle).isSuppressed
      (candidateToInstanceWithId ids c).instanceId = true := hc
  obtain ⟨active, absences, last, resolvedId, suppress⟩ := s
  cases active with
  | none => simp [process, PromptPhase.absent, phase, hany]
  | some active =>
    by_cases h : absences + 1 < promptAbsenceSnapshots
    · simp [process, PromptPhase.absent, phase, hany, h, Nat.not_le.mpr h]
    · simp [process, PromptPhase.absent, phase, hany, h, Nat.not_lt.mp h, clearActive,
        clearSuppression, InstanceId.ofCString_text]

/-- A snapshot whose candidate is not held: whatever is held is released. -/
theorem process_sighted (ids : IdScheme) (s : PromptLifecycle) {c : PromptCandidate}
    (snapshotSequence : UInt64) (hc : s.isSuppressed (ids c) = false) :
    (s.process ids (some c) snapshotSequence).map phase id
      = s.phase.sighted (candidateToInstanceWithId ids c) := by
  have hany : ({ s with lastSequence := snapshotSequence } : PromptLifecycle).isSuppressed
      (candidateToInstanceWithId ids c).instanceId = false := hc
  have hrelease := phase_release { s with lastSequence := snapshotSequence }
  simp only [process, Option.map_some, Option.any_some, hany, Bool.false_eq_true, if_false,
    Option.isSome_some, Bool.true_and]
  generalize (if ({ s with lastSequence := snapshotSequence } : PromptLifecycle).suppressResolved
    then _ else _ : PromptLifecycle) = s' at hrelease ⊢
  have hsighted (inst : PromptInstance) : s.phase.sighted inst = s'.phase.sighted inst := by
    rw [hrelease]
    rfl
  have hheld : s'.phase.held = none := by rw [hrelease]
  rw [hsighted, PromptPhase.sighted, phase_shown]
  cases ha : s'.active with
  | none => simp [phase_replace hheld]
  | some active =>
    by_cases hsame : active.instanceId = (candidateToInstanceWithId ids c).instanceId
    · by_cases hsem : active.sameSemantics (candidateToInstanceWithId ids c) = true
      · simp [phase_replace hheld, hsame, hsem]
      · simp [phase_replace hheld, hsame, hsem, clearActive]
    · simp [phase_replace hheld, hsame, clearActive, InstanceId.ofCString_text, InstanceId.text_inj]

/-- **`process` is the machine on phases.** -/
theorem process_refines (ids : IdScheme) (s : PromptLifecycle) (candidate : Option PromptCandidate)
    (snapshotSequence : UInt64) :
    (s.process ids candidate snapshotSequence).map phase id
      = s.phase.look ids candidate := by
  rcases candidate with - | c
  · exact s.process_none ids snapshotSequence
  · have hheld := s.isSuppressed_iff (ids c)
    rw [PromptPhase.look, Option.map_some, PromptPhase.observe]
    by_cases hc : s.isSuppressed (ids c) = true
    · rw [s.process_suppressed ids snapshotSequence hc]
      exact (if_pos (hheld.mp hc)).symm
    · rw [s.process_sighted ids snapshotSequence (Bool.eq_false_iff.mpr hc)]
      exact (if_neg (mt hheld.mpr hc)).symm

/-- **`resolve` is the machine on phases.** -/
theorem resolve_refines (s : PromptLifecycle) (instanceId : CString) :
    (s.resolve instanceId).map phase id = s.phase.answered instanceId := by
  by_cases hid : instanceId.isEmpty = true
  · simp [resolve, PromptPhase.answered, hid]
  · have hfull : (InstanceId.ofCString instanceId).text.isEmpty = false :=
      (CString.isEmpty_truncate_succ _ _).trans (Bool.eq_false_iff.mpr hid)
    rw [resolve, PromptPhase.answered, if_neg hid, if_neg hid, phase_shown]
    cases ha : s.active with
    | none => simp [phase, hfull, ha]
    | some active =>
      by_cases hsame : active.instanceId.text = instanceId
      · subst hsame
        simp [phase, clearActive, hid, InstanceId.ofCString_text]
      · simp [phase, ha, hsame, hfull]

/-- **Every call is a step of the machine on phases.** -/
theorem step_refines (ids : IdScheme) (s : PromptLifecycle) (call : LifecycleCall) :
    (s.step ids call).map phase id = s.phase.step ids call := by
  cases call with
  | process candidate snapshotSequence => exact s.process_refines ids candidate snapshotSequence
  | resolve instanceId => exact s.resolve_refines instanceId

/-- **A run of the lifecycle is a run of the machine on phases**, event for event. -/
theorem run_refines (ids : IdScheme) (s : PromptLifecycle) (calls : List LifecycleCall) :
    (Reactive.run (step ids) s calls).map phase id
      = Reactive.run (PromptPhase.step ids) s.phase calls :=
  Reactive.run_refines (step_refines ids) s calls

end PromptLifecycle

end TmuxRemote
