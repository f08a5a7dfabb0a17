import TmuxRemote.Prompt.Lifecycle

/-!
# Prompt/Suppression — what a resolve holds back, over whole runs

A resolve of `A` fills the one id slot of the lifecycle.  While the slot holds `A` its candidate is
not presented; every other candidate is, at once.

The slot is one: a later resolve of another id takes it over, and `A` is presented again although it
never left the screen (`resolve_takes_slot_over`).  Short of that, the slot is emptied by a snapshot
that shows something else, or shows nothing when no prompt is on show or the one on show goes.
-/

namespace TmuxRemote

open PromptLifecycle

/-! ## Calls that leave a resolved prompt on the screen -/

/-- The call, if it is a snapshot, shows `A`. -/
def ShowsOnly (ids : IdScheme) (A : InstanceId) : LifecycleCall → Prop
  | .process none _ => False
  | .process (some c) _ => ids c = A
  | .resolve _ => True

/-- The call, if it is a resolve, is one of `A` or is ignored. -/
def ResolvesOnly (A : InstanceId) : LifecycleCall → Prop
  | .process _ _ => True
  | .resolve instanceId => instanceId.isEmpty = true ∨ InstanceId.ofCString instanceId = A

/-- The call empties the slot or puts another id into it. -/
def Releases (ids : IdScheme) (A : InstanceId) (s : PromptLifecycle) : LifecycleCall → Prop
  | .process none _ => s.active = none ∨ promptAbsenceSnapshots ≤ s.absenceSnapshots + 1
  | .process (some c) _ => ids c ≠ A
  | .resolve instanceId => instanceId.isEmpty = false ∧ InstanceId.ofCString instanceId ≠ A

/-- No call of the list releases `A`. -/
def Unreleased (ids : IdScheme) (A : InstanceId) : PromptLifecycle → List LifecycleCall → Prop
  | _, [] => True
  | s, call :: calls => ¬ Releases ids A s call ∧ Unreleased ids A (s.step ids call).1 calls

/-- **Still suppressed**: resolved at some call, and not released by any call since. -/
def StillSuppressed (ids : IdScheme) (A : InstanceId) (calls : List LifecycleCall) : Prop :=
  ∃ before instanceId after, calls = before ++ .resolve instanceId :: after
    ∧ instanceId.isEmpty = false ∧ InstanceId.ofCString instanceId = A
    ∧ Unreleased ids A (.after ids (before ++ [.resolve instanceId])) after

theorem unreleased_concat (ids : IdScheme) (A : InstanceId) (s : PromptLifecycle)
    (calls : List LifecycleCall) (call : LifecycleCall) :
    Unreleased ids A s (calls ++ [call])
      ↔ Unreleased ids A s calls ∧ ¬ Releases ids A (Reactive.run (step ids) s calls).1 call := by
  induction calls generalizing s with
  | nil => exact ⟨fun h => ⟨trivial, h.1⟩, fun h => ⟨h.2, trivial⟩⟩
  | cons first calls ih =>
    rw [List.cons_append, Unreleased, Unreleased, ih, Reactive.run_cons, and_assoc]

/-! ## The slot, step by step -/

theorem phase_step (ids : IdScheme) (s : PromptLifecycle) (call : LifecycleCall) :
    (s.step ids call).1.phase = (s.phase.step ids call).1 :=
  congrArg Prod.fst (s.step_refines ids call)

theorem events_step (ids : IdScheme) (s : PromptLifecycle) (call : LifecycleCall) :
    (s.step ids call).2 = (s.phase.step ids call).2 :=
  congrArg Prod.snd (s.step_refines ids call)

/-- A resolve leaves the slot to its own id. -/
theorem held_resolve (ids : IdScheme) (s : PromptLifecycle) {instanceId : CString}
    (h : instanceId.isEmpty = false) :
    (s.step ids (.resolve instanceId)).1.phase.held = some (InstanceId.ofCString instanceId) := by
  rw [phase_step, PromptPhase.step]
  by_cases hid : ∃ active, s.phase.shown = some active ∧ active.instanceId.text = instanceId
  · obtain ⟨active, hshown, hid⟩ := hid
    rw [PromptPhase.answered_shown h hshown hid]
  · rw [PromptPhase.answered_other h fun active hshown hsame => hid ⟨active, hshown, hsame⟩]

/-- After a snapshot the slot holds what it held before, and only if the snapshot did not release
it. -/
theorem held_process {ids : IdScheme} {s : PromptLifecycle} {candidate : Option PromptCandidate}
    {snapshotSequence : UInt64} {A : InstanceId}
    (h : (s.step ids (.process candidate snapshotSequence)).1.phase.held = some A) :
    s.phase.held = some A ∧ ¬ Releases ids A s (.process candidate snapshotSequence) := by
  rw [phase_step, PromptPhase.step, PromptPhase.look] at h
  rcases candidate with - | c
  · rw [Option.map_none, PromptPhase.observe] at h
    obtain ⟨hheld, hidle, hwait⟩ := PromptPhase.held_absent h
    refine ⟨hheld, fun hreleases => ?_⟩
    have hshown : s.phase.shown ≠ none := fun hnone => Bool.false_ne_true (hidle hnone)
    rcases hreleases with hnone | hge
    · exact hshown hnone
    · exact absurd (hwait hshown) (Nat.not_lt.mpr hge)
  · rw [Option.map_some] at h
    by_cases hheld : s.phase.held = some (candidateToInstanceWithId ids c).instanceId
    · rw [PromptPhase.observe_held hheld] at h
      have hA : s.phase.held = some A := (PromptPhase.held_absent h).1
      exact ⟨hA, fun hne => hne (Option.some.inj (hheld.symm.trans hA))⟩
    · rw [PromptPhase.observe_new hheld, PromptPhase.sighted_releases] at h
      exact absurd h (by simp)

/-- What is in the slot after a call was put there by it, or was there and has not been released. -/
theorem held_step {ids : IdScheme} {s : PromptLifecycle} {call : LifecycleCall} {A : InstanceId}
    (h : (s.step ids call).1.phase.held = some A) :
    (∃ instanceId, call = .resolve instanceId ∧ instanceId.isEmpty = false
        ∧ InstanceId.ofCString instanceId = A)
      ∨ (s.phase.held = some A ∧ ¬ Releases ids A s call) := by
  cases call with
  | process candidate snapshotSequence => exact Or.inr (held_process h)
  | resolve instanceId =>
    cases hempty : instanceId.isEmpty with
    | true =>
      rw [phase_step, PromptPhase.step, PromptPhase.answered_empty hempty] at h
      exact Or.inr ⟨h, fun hrel => absurd (hempty.symm.trans hrel.1) (by simp)⟩
    | false =>
      rw [held_resolve ids s hempty] at h
      exact Or.inl ⟨instanceId, rfl, hempty, Option.some.inj h⟩

/-- **The slot holds only what is still suppressed.** -/
theorem stillSuppressed_of_held {ids : IdScheme} {calls : List LifecycleCall} {A : InstanceId}
    (h : (PromptLifecycle.after ids calls).phase.held = some A) :
    StillSuppressed ids A calls := by
  induction calls using List.reverseRecOn with
  | nil =>
    have hnone : (none : Option InstanceId) = some A := h
    exact absurd hnone (by simp)
  | append_singleton calls call ih =>
    rw [after_concat] at h
    rcases held_step h with ⟨instanceId, rfl, hempty, hid⟩ | ⟨hheld, hkept⟩
    · exact ⟨calls, instanceId, [], rfl, hempty, hid, trivial⟩
    · obtain ⟨before, instanceId, after, rfl, hempty, hid, hafter⟩ := ih hheld
      refine ⟨before, instanceId, after ++ [call], by simp, hempty, hid, ?_⟩
      rw [unreleased_concat]
      refine ⟨hafter, ?_⟩
      have hsplit : before ++ .resolve instanceId :: after
          = (before ++ [.resolve instanceId]) ++ after := by simp
      rw [hsplit, PromptLifecycle.after, Reactive.run_append] at hkept
      exact hkept

/-! ## While the resolved prompt stays on the screen -/

/-- A call that leaves `A` on the screen, resolves nothing else and lets no other prompt go keeps
`A` in the slot and presents nothing. -/
theorem held_kept {ids : IdScheme} {s : PromptLifecycle} {call : LifecycleCall} {A : InstanceId}
    (hheld : s.phase.held = some A) (hshows : ShowsOnly ids A call)
    (hresolves : ResolvesOnly A call)
    (hgone : ∀ id, .gone id ∉ (s.step ids call).2) :
    (s.step ids call).1.phase.held = some A ∧ ∀ inst, .present inst ∉ (s.step ids call).2 := by
  rw [events_step] at hgone ⊢
  rcases call with ⟨- | c, snapshotSequence⟩ | instanceId
  · exact absurd hshows id
  · have hhold : s.phase.step ids (.process (some c) snapshotSequence) = s.phase.absent true :=
      PromptPhase.observe_held (hheld.trans (congrArg some hshows.symm))
    rw [phase_step, hhold]
    rw [hhold] at hgone
    obtain ⟨hsilent, hkept⟩ := PromptPhase.absent_silent hgone
    rw [hsilent, hkept]
    exact ⟨hheld, fun _ => List.not_mem_nil⟩
  · have hsilent (inst : PromptInstance) : .present inst ∉ (s.phase.answered instanceId).2 := by
      intro hmem
      rcases PromptPhase.answered_events s.phase instanceId with hnil | ⟨id, hone⟩
      · rw [hnil] at hmem
        exact List.not_mem_nil hmem
      · rw [hone] at hmem
        exact PromptEvent.noConfusion (List.mem_singleton.mp hmem)
    refine ⟨?_, hsilent⟩
    rcases hempty : instanceId.isEmpty with - | -
    · rcases hresolves with hyes | hsame
      · exact absurd (hempty.symm.trans hyes) Bool.false_ne_true
      · rw [held_resolve ids s hempty, hsame]
    · rw [phase_step, PromptPhase.step, PromptPhase.answered_empty hempty]
      exact hheld

/-- A run of such calls presents nothing. -/
theorem run_held_kept {ids : IdScheme} {s : PromptLifecycle} {calls : List LifecycleCall}
    {A : InstanceId} (hheld : s.phase.held = some A) (hshows : ∀ call ∈ calls, ShowsOnly ids A call)
    (hresolves : ∀ call ∈ calls, ResolvesOnly A call)
    (hgone : ∀ id, .gone id ∉ (Reactive.run (step ids) s calls).2) :
    ∀ inst, .present inst ∉ (Reactive.run (step ids) s calls).2 := by
  induction calls generalizing s with
  | nil => exact fun _ => List.not_mem_nil
  | cons call calls ih =>
    rw [Reactive.run_cons] at hgone ⊢
    have hhead := held_kept hheld (hshows call List.mem_cons_self)
      (hresolves call List.mem_cons_self) fun id h => hgone id (List.mem_append_left _ h)
    have htail := ih hhead.1 (fun c hc => hshows c (List.mem_cons_of_mem _ hc))
      (fun c hc => hresolves c (List.mem_cons_of_mem _ hc))
      fun id h => hgone id (List.mem_append_right _ h)
    intro inst hmem
    rcases List.mem_append.mp hmem with h | h
    · exact hhead.2 inst h
    · exact htail inst h

/-! ## Every other prompt -/

/-- A candidate that is neither held nor on show is presented. -/
theorem process_presents {ids : IdScheme} {s : PromptLifecycle} {c : PromptCandidate}
    (snapshotSequence : UInt64) (hheld : s.phase.held ≠ some (ids c))
    (hactive : ∀ active, s.active = some active → active.instanceId ≠ ids c) :
    ∃ inst, inst.instanceId = ids c
      ∧ .present inst ∈ (s.step ids (.process (some c) snapshotSequence)).2 := by
  have hsight : s.phase.step ids (.process (some c) snapshotSequence)
      = s.phase.sighted (candidateToInstanceWithId ids c) := PromptPhase.observe_new hheld
  refine ⟨(candidateToInstanceWithId ids c).withRevision 1, rfl, ?_⟩
  rw [events_step, hsight]
  rcases hshown : s.phase.shown with - | active
  · rw [PromptPhase.sighted_idle hshown]
    exact List.mem_singleton_self _
  · rw [PromptPhase.sighted_other hshown (hactive active hshown)]
    exact List.mem_cons_of_mem _ (List.mem_singleton_self _)

/-! ## Suppression over whole runs -/

/-- **What a resolve does.**  (a) From the resolve of `A` on, `A` is not presented as long as every
snapshot shows `A`, no other id is resolved, and no other prompt goes meanwhile.  (b) A snapshot
showing a prompt that is neither on show nor still suppressed presents it in that very call. -/
theorem suppression_over_runs (ids : IdScheme) :
    (∀ (before calls : List LifecycleCall) (A : InstanceId), A.text.isEmpty = false →
      (∀ call ∈ calls, ShowsOnly ids A call) → (∀ call ∈ calls, ResolvesOnly A call) →
      (∀ id, .gone id ∉
        (Reactive.run (step ids) (.after ids (before ++ [.resolve A.text])) calls).2) →
      ∀ inst, inst.instanceId = A →
        .present inst ∉
          (Reactive.run (step ids) (.after ids (before ++ [.resolve A.text])) calls).2)
    ∧ (∀ (calls : List LifecycleCall) (c : PromptCandidate) (snapshotSequence : UInt64),
      ¬ StillSuppressed ids (ids c) calls →
      (∀ active, (PromptLifecycle.after ids calls).active = some active →
        active.instanceId ≠ ids c) →
      ∃ inst, inst.instanceId = ids c
        ∧ .present inst
          ∈ ((PromptLifecycle.after ids calls).process ids (some c) snapshotSequence).2) := by
  constructor
  · intro before calls A hA hshows hresolves hgone inst _
    have hheld : (PromptLifecycle.after ids (before ++ [.resolve A.text])).phase.held = some A := by
      rw [after_concat, held_resolve ids _ hA, InstanceId.ofCString_text]
    exact run_held_kept hheld hshows hresolves hgone inst
  · intro calls c snapshotSequence hfree hactive
    exact process_presents snapshotSequence
      (fun hheld => hfree (stillSuppressed_of_held hheld)) hactive

/-- A menu is presented, resolved, and still on the screen. -/
def resolvedMenuCalls : List LifecycleCall :=
  [.process (some firstLongMenu) 1, .resolve (buildInstanceId firstLongMenu).text,
    .process (some firstLongMenu) 2]

/-- It stays there silently; one row further down it is another prompt, and is presented at once. -/
theorem suppression_over_runs_menu :
    (∀ inst, inst.instanceId = buildInstanceId firstLongMenu →
        .present inst ∉ (Reactive.run (step buildInstanceId)
          (.after buildInstanceId
            ([.process (some firstLongMenu) 1] ++ [.resolve (buildInstanceId firstLongMenu).text]))
          [.process (some firstLongMenu) 2]).2)
      ∧ ∃ inst, inst.instanceId = buildInstanceId { firstLongMenu with anchorRow := 1 }
        ∧ .present inst
          ∈ ((PromptLifecycle.after buildInstanceId resolvedMenuCalls).process
              buildInstanceId (some { firstLongMenu with anchorRow := 1 }) 3).2 := by
  constructor
  · refine (suppression_over_runs buildInstanceId).1 [.process (some firstLongMenu) 1]
      [.process (some firstLongMenu) 2] (buildInstanceId firstLongMenu) (by decide +kernel)
      ?_ ?_ ?_
    · intro call hcall
      rw [List.mem_singleton.mp hcall]
      rfl
    · intro call hcall
      rw [List.mem_singleton.mp hcall]
      trivial
    · have hsilent : (Reactive.run (step buildInstanceId)
          (.after buildInstanceId
            ([.process (some firstLongMenu) 1] ++ [.resolve (buildInstanceId firstLongMenu).text]))
          [.process (some firstLongMenu) 2]).2 = [] := by decide +kernel
      rw [hsilent]
      exact fun _ => List.not_mem_nil
  · refine (suppression_over_runs buildInstanceId).2 resolvedMenuCalls
      { firstLongMenu with anchorRow := 1 } 3 ?_ ?_
    · rintro ⟨before, instanceId, after, hcalls, -, hid, -⟩
      have hmem : LifecycleCall.resolve instanceId ∈ resolvedMenuCalls := by
        rw [hcalls]
        exact List.mem_append_right _ List.mem_cons_self
      have hresolved : LifecycleCall.resolve instanceId
          = .resolve (buildInstanceId firstLongMenu).text := by
        simpa [resolvedMenuCalls] using hmem
      rw [LifecycleCall.resolve.inj hresolved, InstanceId.ofCString_text] at hid
      exact absurd hid (by decide +kernel)
    · have hshown : (PromptLifecycle.after buildInstanceId resolvedMenuCalls).active = none := by
        decide +kernel
      intro active hactive
      exact nomatch hshown.symm.trans hactive

/-- **The slot is taken over.**  A resolve of another id between two snapshots of the resolved
prompt is enough for it to be presented again. -/
theorem resolve_takes_slot_over :
    ¬ ∀ (before calls : List LifecycleCall) (A : InstanceId), A.text.isEmpty = false →
        (∀ call ∈ calls, ShowsOnly buildInstanceId A call) →
        ∀ inst, inst.instanceId = A →
          .present inst ∉ (Reactive.run (step buildInstanceId)
            (.after buildInstanceId (before ++ [.resolve A.text])) calls).2 := by
  intro h
  refine h [.process (some firstLongMenu) 1]
    [.resolve (CString.ofString "stale"), .process (some firstLongMenu) 2]
    (buildInstanceId firstLongMenu) (by decide +kernel) ?_
    ((candidateToInstanceWithId buildInstanceId firstLongMenu).withRevision 1) rfl
    (by decide +kernel)
  intro call hcall
  rcases List.mem_cons.mp hcall with rfl | hcall
  · trivial
  · rw [List.mem_singleton.mp hcall]
    rfl

end TmuxRemote
