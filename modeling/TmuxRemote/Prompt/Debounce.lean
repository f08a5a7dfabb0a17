import TmuxRemote.Prompt.Suppression

/-!
# Prompt/Debounce — when a prompt goes

The prompt on show goes when it is resolved, when another prompt is seen, and when it has been
missing for `TMUXREMOTE_PROMPT_ABSENCE_SNAPSHOTS` snapshots in a row; on no other call.  The counter
is one field for all of that, so what it holds is said of the calls: those since the snapshot that
saw the prompt last (`Unseen`), of which resolves are not counted (`absences`).

A snapshot whose candidate is held back counts as one without a candidate.  It never is the prompt
on show itself: the held id and the shown one differ in every state (`held_ne_shown`), which rests
on ids that are shorter than the slot a resolve copies into.
-/

namespace TmuxRemote

open PromptLifecycle

/-! ## What a call shows -/

/-- The candidate that `process` goes on with. -/
def unsuppressed (ids : IdScheme) (s : PromptLifecycle) : LifecycleCall → Option PromptCandidate
  | .process candidate _ => candidate.filter fun c => !s.isSuppressed (ids c)
  | .resolve _ => none

/-- A snapshot without an unsuppressed candidate. -/
def IsAbsence (ids : IdScheme) (s : PromptLifecycle) : LifecycleCall → Prop
  | .process candidate snapshotSequence =>
    unsuppressed ids s (.process candidate snapshotSequence) = none
  | .resolve _ => False

instance (ids : IdScheme) (s : PromptLifecycle) (call : LifecycleCall) :
    Decidable (IsAbsence ids s call) :=
  match call with
  | .process _ _ => inferInstanceAs (Decidable (_ = _))
  | .resolve _ => inferInstanceAs (Decidable False)

/-- A snapshot that sees `A`. -/
def Sees (ids : IdScheme) (A : InstanceId) (s : PromptLifecycle) (call : LifecycleCall) : Prop :=
  ∃ c, unsuppressed ids s call = some c ∧ ids c = A

/-- No call of the list shows an unsuppressed candidate. -/
def Unseen (ids : IdScheme) : PromptLifecycle → List LifecycleCall → Prop
  | _, [] => True
  | s, call :: calls => unsuppressed ids s call = none ∧ Unseen ids (s.step ids call).1 calls

/-- The absences among the calls; resolves are not counted. -/
def absences (ids : IdScheme) : PromptLifecycle → List LifecycleCall → ℕ
  | _, [] => 0
  | s, call :: calls =>
    (if IsAbsence ids s call then 1 else 0) + absences ids (s.step ids call).1 calls

/-- The call ends a prompt `A` that has been missing for `missed` snapshots. -/
def Ends (ids : IdScheme) (A : InstanceId) (missed : ℕ) (s : PromptLifecycle)
    (call : LifecycleCall) : Prop :=
  call = .resolve A.text
    ∨ (∃ c, unsuppressed ids s call = some c ∧ ids c ≠ A)
    ∨ (IsAbsence ids s call ∧ missed + 1 = promptAbsenceSnapshots)

theorem unseen_concat (ids : IdScheme) (s : PromptLifecycle) (calls : List LifecycleCall)
    (call : LifecycleCall) :
    Unseen ids s (calls ++ [call]) ↔ Unseen ids s calls
      ∧ unsuppressed ids (Reactive.run (step ids) s calls).1 call = none := by
  induction calls generalizing s with
  | nil => exact ⟨fun h => ⟨trivial, h.1⟩, fun h => ⟨h.2, trivial⟩⟩
  | cons first calls ih =>
    rw [List.cons_append, Unseen, Unseen, ih, Reactive.run_cons, and_assoc]

theorem absences_concat (ids : IdScheme) (s : PromptLifecycle) (calls : List LifecycleCall)
    (call : LifecycleCall) :
    absences ids s (calls ++ [call]) = absences ids s calls
      + if IsAbsence ids (Reactive.run (step ids) s calls).1 call then 1 else 0 := by
  induction calls generalizing s with
  | nil => rw [List.nil_append, absences, absences, absences, Nat.add_comm]; rfl
  | cons first calls ih =>
    rw [List.cons_append, absences, absences, ih, Reactive.run_cons, Nat.add_assoc]

/-! ## The calls, on phases -/

section
variable {ids : IdScheme} {s : PromptLifecycle} {call : LifecycleCall} {c : PromptCandidate}

/-- An absence, on phases. -/
theorem step_absence (h : IsAbsence ids s call) :
    ∃ isHeld, s.phase.step ids call = s.phase.absent isHeld := by
  rcases call with ⟨- | c, snapshotSequence⟩ | instanceId
  · exact ⟨false, rfl⟩
  · have hheld : s.isSuppressed (ids c) = true := by
      by_contra hfree
      have hsome : unsuppressed ids s (.process (some c) snapshotSequence) = some c := by
        rw [unsuppressed, Option.filter_some, (Bool.not_eq_true _).mp hfree]
        rfl
      exact absurd (hsome.symm.trans h) (by simp)
    exact ⟨true, PromptPhase.observe_held ((s.isSuppressed_iff _).mp hheld)⟩
  · exact absurd h id

/-- A sighting, on phases. -/
theorem step_sighted (h : unsuppressed ids s call = some c) :
    s.phase.step ids call = s.phase.sighted (candidateToInstanceWithId ids c) := by
  rcases call with ⟨candidate, snapshotSequence⟩ | instanceId
  · obtain ⟨rfl, hfree⟩ := Option.filter_eq_some_iff.mp h
    refine PromptPhase.observe_new fun hheld => ?_
    rw [(s.isSuppressed_iff (ids c)).mpr hheld] at hfree
    exact Bool.false_ne_true hfree
  · exact absurd h (by simp [unsuppressed])

/-- A call is an absence, a sighting or a resolve. -/
theorem call_cases (ids : IdScheme) (s : PromptLifecycle) (call : LifecycleCall) :
    IsAbsence ids s call ∨ (∃ c, unsuppressed ids s call = some c)
      ∨ ∃ instanceId, call = .resolve instanceId := by
  rcases call with ⟨candidate, snapshotSequence⟩ | instanceId
  · cases hc : unsuppressed ids s (.process candidate snapshotSequence) with
    | none => exact .inl hc
    | some c => exact .inr (.inl ⟨c, rfl⟩)
  · exact .inr (.inr ⟨instanceId, rfl⟩)

theorem unsuppressed_of_isAbsence (h : IsAbsence ids s call) : unsuppressed ids s call = none := by
  rcases call with ⟨candidate, snapshotSequence⟩ | instanceId
  · exact h
  · rfl

theorem not_isAbsence_resolve (ids : IdScheme) (s : PromptLifecycle) (instanceId : CString) :
    ¬ IsAbsence ids s (.resolve instanceId) := id

end

/-! ## The held id is not the shown one -/

/-- What a sighting leaves on show is the candidate's, and nothing is held. -/
theorem shown_sighted (p : PromptPhase) (inst : PromptInstance) :
    (∃ shown, (p.sighted inst).1.shown = some shown ∧ shown.instanceId = inst.instanceId)
      ∧ (p.sighted inst).1.absences = 0 := by
  cases hshown : p.shown with
  | none =>
    rw [PromptPhase.sighted_idle hshown]
    exact ⟨⟨_, rfl, rfl⟩, rfl⟩
  | some active =>
    by_cases hid : active.instanceId = inst.instanceId
    · obtain ⟨⟨kept, hkept, heq⟩, -⟩ := PromptPhase.sighted_keeps hshown hid
      rw [heq]
      exact ⟨⟨kept, rfl, hkept.trans hid⟩, rfl⟩
    · rw [PromptPhase.sighted_other hshown hid]
      exact ⟨⟨_, rfl, rfl⟩, rfl⟩

/-- What an absence leaves on show was on show, once more missed, and what it leaves held was
held. -/
theorem shown_absent {p : PromptPhase} {isHeld : Bool} {active : PromptInstance}
    (h : (p.absent isHeld).1.shown = some active) :
    p.shown = some active ∧ p.absences + 1 < promptAbsenceSnapshots
      ∧ p.absent isHeld = ({ p with absences := p.absences + 1 }, []) := by
  cases hshown : p.shown with
  | none =>
    rw [PromptPhase.absent_idle hshown] at h
    exact absurd (hshown.symm.trans h) (by simp)
  | some shown =>
    by_cases hlt : p.absences + 1 < promptAbsenceSnapshots
    · rw [PromptPhase.absent_wait hshown hlt] at h ⊢
      exact ⟨hshown.symm.trans h, hlt, by rw [hshown]⟩
    · rw [PromptPhase.absent_gone hshown hlt] at h
      exact absurd h (by simp)

/-- What an answer leaves on show was on show under another id. -/
theorem shown_answered {p : PromptPhase} {instanceId : CString} {active : PromptInstance}
    (h : (p.answered instanceId).1.shown = some active) :
    p.shown = some active ∧ (p.answered instanceId).1.absences = p.absences
      ∧ ((p.answered instanceId).1.held = p.held
        ∨ (active.instanceId.text ≠ instanceId
          ∧ (p.answered instanceId).1.held = some (InstanceId.ofCString instanceId))) := by
  cases hempty : instanceId.isEmpty with
  | true =>
    rw [PromptPhase.answered_empty hempty] at h ⊢
    exact ⟨h, rfl, .inl rfl⟩
  | false =>
    by_cases hid : ∃ shown, p.shown = some shown ∧ shown.instanceId.text = instanceId
    · obtain ⟨shown, hshown, hid⟩ := hid
      rw [PromptPhase.answered_shown hempty hshown hid] at h
      exact absurd h (by simp)
    · have hother : ∀ shown, p.shown = some shown → shown.instanceId.text ≠ instanceId :=
        fun shown hshown hsame => hid ⟨shown, hshown, hsame⟩
      rw [PromptPhase.answered_other hempty hother] at h ⊢
      exact ⟨h, rfl, .inr ⟨hother active h, rfl⟩⟩

/-- An id that is shorter than the slot is not what a resolve of another string leaves there. -/
theorem ofCString_ne {id : InstanceId} {instanceId : CString}
    (hlength : id.text.bytes.length + 1 < promptInstanceIdMax) (hne : id.text ≠ instanceId) :
    InstanceId.ofCString instanceId ≠ id := by
  intro heq
  have htext : id.text = instanceId.truncate (promptInstanceIdMax - 1) := by rw [← heq]; rfl
  have htake : (instanceId.truncate (promptInstanceIdMax - 1)).bytes.length
      = min (promptInstanceIdMax - 1) instanceId.bytes.length := List.length_take
  rw [htext, htake] at hlength
  have hshort : instanceId.bytes.length ≤ promptInstanceIdMax - 1 := by omega
  exact hne (htext.trans (CString.truncate_eq_self hshort))

/-- The prompt on show came from a candidate, and its id is not held. -/
def ShownNotHeld (ids : IdScheme) (p : PromptPhase) : Prop :=
  ∀ active, p.shown = some active →
    (∃ c, active.instanceId = ids c) ∧ p.held ≠ some active.instanceId

/-- One call keeps held and shown id apart. -/
theorem shownNotHeld_step {ids : IdScheme} (hids : ∀ c, (ids c).text.bytes.length = 16)
    {s : PromptLifecycle} (h : ShownNotHeld ids s.phase) (call : LifecycleCall) :
    ShownNotHeld ids (s.step ids call).1.phase := by
  rw [phase_step]
  intro active hactive
  rcases call_cases ids s call with habsence | ⟨c, hc⟩ | ⟨instanceId, rfl⟩
  · obtain ⟨isHeld, hstep⟩ := step_absence habsence
    rw [hstep] at hactive ⊢
    obtain ⟨hshown, -, hsame⟩ := shown_absent hactive
    rw [hsame]
    exact h active hshown
  · rw [step_sighted hc] at hactive ⊢
    obtain ⟨⟨shown, hshown, hid⟩, -⟩ := shown_sighted s.phase (candidateToInstanceWithId ids c)
    obtain rfl := Option.some.inj (hshown.symm.trans hactive)
    refine ⟨⟨c, hid⟩, ?_⟩
    rw [PromptPhase.sighted_releases]
    exact Option.some_ne_none _ ∘ Eq.symm
  · obtain ⟨hshown, -, hheld⟩ := shown_answered hactive
    obtain ⟨⟨c, hc⟩, hne⟩ := h active hshown
    refine ⟨⟨c, hc⟩, ?_⟩
    rcases hheld with hsame | ⟨hother, hnew⟩
    · rw [PromptPhase.step, hsame]
      exact hne
    · have hlength : active.instanceId.text.bytes.length + 1 < promptInstanceIdMax := by
        rw [hc, hids]
        decide
      rw [PromptPhase.step, hnew]
      exact fun heq => ofCString_ne hlength hother (Option.some.inj heq)

theorem shownNotHeld_after {ids : IdScheme} (hids : ∀ c, (ids c).text.bytes.length = 16)
    (calls : List LifecycleCall) : ShownNotHeld ids (after ids calls).phase := by
  refine Reactive.run_invariant (I := fun s => ShownNotHeld ids s.phase) (step ids)
    (fun s call h => shownNotHeld_step hids h call) ?_ calls
  exact fun active hactive => absurd hactive (by simp [PromptPhase.idle])

/-! ## The counter -/

/-- The last sighting of the prompt on show, and the calls since. -/
structure LastSeen (ids : IdScheme) (calls : List LifecycleCall) (A : InstanceId)
    (before : List LifecycleCall) (call : LifecycleCall) (since : List LifecycleCall) : Prop where
  calls_eq : calls = before ++ call :: since
  sees : Sees ids A (after ids before) call
  unseen : Unseen ids (after ids (before ++ [call])) since

/-- One more call that shows no unsuppressed candidate. -/
theorem LastSeen.concat {ids : IdScheme} {calls before since : List LifecycleCall}
    {A : InstanceId} {call next : LifecycleCall} (h : LastSeen ids calls A before call since)
    (hnext : unsuppressed ids (after ids calls) next = none) :
    LastSeen ids (calls ++ [next]) A before call (since ++ [next]) := by
  have hsplit : calls = (before ++ [call]) ++ since := by simp [h.calls_eq]
  refine ⟨by simp [h.calls_eq], h.sees, (unseen_concat ids _ since next).mpr ⟨h.unseen, ?_⟩⟩
  rwa [hsplit, after, Reactive.run_append] at hnext

/-- The state before the next call, from the last sighting on. -/
theorem LastSeen.after_eq {ids : IdScheme} {calls before since : List LifecycleCall}
    {A : InstanceId} {call : LifecycleCall} (h : LastSeen ids calls A before call since) :
    after ids calls = (Reactive.run (step ids) (after ids (before ++ [call])) since).1 := by
  have hsplit : calls = (before ++ [call]) ++ since := by simp [h.calls_eq]
  rw [hsplit, after, Reactive.run_append]
  rfl

/-- **The counter counts the absences since the last sighting.** -/
theorem lastSeen_of_active (ids : IdScheme) (calls : List LifecycleCall) {active : PromptInstance}
    (h : (after ids calls).active = some active) :
    ∃ before call since, LastSeen ids calls active.instanceId before call since
      ∧ (after ids calls).absenceSnapshots
        = absences ids (after ids (before ++ [call])) since
      ∧ (after ids calls).absenceSnapshots < promptAbsenceSnapshots := by
  induction calls using List.reverseRecOn generalizing active with
  | nil => exact absurd h (by simp [after, init])
  | append_singleton calls next ih =>
    have hshown : ((after ids (calls ++ [next])).phase).shown = some active := h
    have hcount : (after ids (calls ++ [next])).absenceSnapshots
        = ((after ids calls).phase.step ids next).1.absences := by
      rw [← phase_step, ← after_concat]
      rfl
    rw [after_concat, phase_step] at hshown
    rw [hcount]
    rcases call_cases ids (after ids calls) next with habsence | ⟨c, hc⟩ | ⟨instanceId, rfl⟩
    · obtain ⟨isHeld, hstep⟩ := step_absence habsence
      rw [hstep] at hshown ⊢
      obtain ⟨hbefore, hlt, hsame⟩ := shown_absent hshown
      obtain ⟨before, call, since, hlast, hmissed, -⟩ := ih hbefore
      refine ⟨before, call, since ++ [next], hlast.concat (unsuppressed_of_isAbsence habsence),
        ?_, ?_⟩
      · rw [hsame, absences_concat, ← hlast.after_eq, if_pos habsence, ← hmissed]
        rfl
      · rw [hsame]
        exact hlt
    · rw [step_sighted hc] at hshown ⊢
      obtain ⟨⟨shown, hsees, hid⟩, hzero⟩ :=
        shown_sighted (after ids calls).phase (candidateToInstanceWithId ids c)
      obtain rfl := Option.some.inj (hsees.symm.trans hshown)
      refine ⟨calls, next, [], ⟨rfl, ⟨c, hc, hid.symm⟩, trivial⟩, hzero, ?_⟩
      rw [hzero]
      exact promptAbsenceSnapshots_pos
    · obtain ⟨hbefore, hsame, -⟩ := shown_answered hshown
      obtain ⟨before, call, since, hlast, hmissed, hlt⟩ := ih hbefore
      have hsame' : ((after ids calls).phase.step ids (.resolve instanceId)).1.absences
          = (after ids calls).absenceSnapshots := hsame
      refine ⟨before, call, since ++ [.resolve instanceId], hlast.concat rfl, ?_, ?_⟩
      · rw [hsame', absences_concat, ← hlast.after_eq, if_neg (not_isAbsence_resolve _ _ _),
          Nat.add_zero, hmissed]
      · rw [hsame']
        exact hlt

/-! ## When a prompt goes -/

/-- The next call, by what the phase says of the prompt on show. -/
theorem gone_iff_ends {ids : IdScheme} {s : PromptLifecycle} {active : PromptInstance}
    (h : s.active = some active) (hlt : s.absenceSnapshots < promptAbsenceSnapshots)
    (hlength : active.instanceId.text.isEmpty = false) (next : LifecycleCall) :
    .gone active.instanceId ∈ (s.step ids next).2
      ↔ Ends ids active.instanceId s.absenceSnapshots s next := by
  have hshown : s.phase.shown = some active := h
  rw [events_step]
  rcases call_cases ids s next with habsence | ⟨c, hc⟩ | ⟨instanceId, rfl⟩
  · have hnone := unsuppressed_of_isAbsence habsence
    have hresolve : next ≠ .resolve active.instanceId.text := by
      rintro rfl
      exact habsence
    have hends : Ends ids active.instanceId s.absenceSnapshots s next
        ↔ s.absenceSnapshots + 1 = promptAbsenceSnapshots := by
      rw [Ends, hnone]
      simp [hresolve, habsence]
    obtain ⟨isHeld, hstep⟩ := step_absence habsence
    rw [hstep, hends]
    by_cases hwait : s.phase.absences + 1 < promptAbsenceSnapshots
    · rw [PromptPhase.absent_wait hshown hwait]
      exact ⟨fun hmem => absurd hmem List.not_mem_nil, fun heq => absurd heq hwait.ne⟩
    · rw [PromptPhase.absent_gone hshown hwait]
      exact ⟨fun _ => Nat.le_antisymm hlt (not_lt.mp hwait), fun _ => List.mem_singleton_self _⟩
  · have hresolve : next ≠ .resolve active.instanceId.text := by
      rintro rfl
      exact absurd hc (by simp [unsuppressed])
    have habsence : ¬ IsAbsence ids s next := fun habsence =>
      absurd (hc.symm.trans (unsuppressed_of_isAbsence habsence)) (by simp)
    have hends : Ends ids active.instanceId s.absenceSnapshots s next
        ↔ ids c ≠ active.instanceId := by
      rw [Ends, hc]
      simp [hresolve, habsence]
    rw [step_sighted hc, hends]
    by_cases hid : active.instanceId = (candidateToInstanceWithId ids c).instanceId
    · obtain ⟨-, hkeeps⟩ := PromptPhase.sighted_keeps hshown hid
      exact ⟨fun hmem => absurd hmem (hkeeps _), fun hne => absurd hid.symm hne⟩
    · rw [PromptPhase.sighted_other hshown hid]
      exact ⟨fun _ => Ne.symm hid, fun _ => List.mem_cons_self⟩
  · have hends : Ends ids active.instanceId s.absenceSnapshots s (.resolve instanceId)
        ↔ instanceId = active.instanceId.text := by
      simp [Ends, unsuppressed, IsAbsence]
    rw [PromptPhase.step, hends]
    constructor
    · intro hmem
      by_contra hne
      rcases hempty : instanceId.isEmpty with - | -
      · rw [PromptPhase.answered_other hempty fun shown hsome hsame => hne ?_] at hmem
        · exact absurd hmem List.not_mem_nil
        · rw [← hsame, Option.some.inj (hshown.symm.trans hsome)]
      · rw [PromptPhase.answered_empty hempty] at hmem
        exact absurd hmem List.not_mem_nil
    · rintro rfl
      rw [PromptPhase.answered_shown hlength hshown rfl]
      exact List.mem_singleton_self _

/-- **Debounce is exact.**  In every state with a prompt on show there is a last snapshot that saw
it, and the next call ends it exactly when it is its resolve, or shows another prompt, or makes up
the number of absences since; and its id is not the one that is held back. -/
theorem debounce_exact {ids : IdScheme} (hids : ∀ c, (ids c).text.bytes.length = 16)
    (calls : List LifecycleCall) {active : PromptInstance}
    (h : (after ids calls).active = some active) :
    (∃ before call since, LastSeen ids calls active.instanceId before call since
        ∧ ∀ next, .gone active.instanceId ∈ ((after ids calls).step ids next).2
          ↔ Ends ids active.instanceId (absences ids (after ids (before ++ [call])) since)
            (after ids calls) next)
      ∧ ((after ids calls).suppressResolved = true →
        (after ids calls).resolvedInstanceId ≠ active.instanceId) := by
  obtain ⟨⟨c, hc⟩, hheld⟩ := shownNotHeld_after hids calls active h
  have hfull : active.instanceId.text.isEmpty = false := by
    have hlength := hids c
    rw [hc, CString.isEmpty]
    cases hbytes : (ids c).text.bytes with
    | nil => rw [hbytes] at hlength; exact absurd hlength (by decide)
    | cons b bytes => rfl
  constructor
  · obtain ⟨before, call, since, hlast, hmissed, hlt⟩ := lastSeen_of_active ids calls h
    refine ⟨before, call, since, hlast, fun next => ?_⟩
    rw [← hmissed]
    exact gone_iff_ends h hlt hfull next
  · intro harmed heq
    refine hheld ?_
    rw [phase, harmed, heq, hfull]
    rfl

/-- The agent's ids have sixteen digits. -/
theorem length_buildInstanceId (c : PromptCandidate) :
    (buildInstanceId c).text.bytes.length = 16 := by
  have hdigits : ∀ b ∈ hex16 (instanceHash c), b ≠ 0 := by
    intro b hb
    obtain ⟨i, -, rfl⟩ := List.mem_map.mp hb
    exact hexDigit_ne_zero _ (Nat.mod_lt _ (by decide))
  have hlength : (hex16 (instanceHash c)).length = 16 := by
    rw [hex16, List.length_map, List.length_range]
  have hbytes : (CString.ofBytes (hex16 (instanceHash c))).bytes = hex16 (instanceHash c) :=
    CString.ofBytes_of_nulFree hdigits
  have hfits : (CString.ofBytes (hex16 (instanceHash c))).bytes.length
      ≤ promptInstanceIdMax - 1 := by
    rw [hbytes, hlength]
    decide
  have htext : (buildInstanceId c).text = CString.ofBytes (hex16 (instanceHash c)) :=
    CString.truncate_eq_self hfits
  rw [htext, hbytes, hlength]

/-- A menu, a resolve of another id, and a snapshot without the menu. -/
def missedMenu : List LifecycleCall :=
  [.process (some firstLongMenu) 1, .resolve (CString.ofString "stale"), .process none 2]

/-- The next snapshot without it ends it. -/
theorem debounce_exact_menu :
    (after buildInstanceId missedMenu).active
        = some ((candidateToInstanceWithId buildInstanceId firstLongMenu).withRevision 1)
      ∧ ∃ before call since,
        LastSeen buildInstanceId missedMenu (buildInstanceId firstLongMenu) before call since
          ∧ ∀ next, .gone (buildInstanceId firstLongMenu)
              ∈ ((after buildInstanceId missedMenu).step buildInstanceId next).2
            ↔ Ends buildInstanceId (buildInstanceId firstLongMenu)
              (absences buildInstanceId (after buildInstanceId (before ++ [call])) since)
              (after buildInstanceId missedMenu) next := by
  have hactive : (after buildInstanceId missedMenu).active
      = some ((candidateToInstanceWithId buildInstanceId firstLongMenu).withRevision 1) := by
    decide +kernel
  exact ⟨hactive, (debounce_exact length_buildInstanceId missedMenu hactive).1⟩

end TmuxRemote
