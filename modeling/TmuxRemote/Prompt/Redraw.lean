import TmuxRemote.Prompt.Detector

/-!
# Prompt/Redraw — when a redraw keeps the prompt on show

While a prompt is redrawn the detector looks at half-drawn screens, one for each read.  The prompt
stays on show exactly when each of these screens shows it or no prompt at all, and screens without a
prompt are never `TMUXREMOTE_PROMPT_ABSENCE_SNAPSHOTS` in a row (`redraw_stays_iff`).  A resolved
prompt that is still held back counts as no prompt.

A menu whose last row has been erased, though, is a menu with one option less, and replaces the one
being redrawn (`redrawn_menu_goes`).
-/

namespace TmuxRemote

/-! ## Rows of absences -/

/-- A shorter row of one entry, cut off by another, is no beginning of a longer row. -/
theorem not_prefix_of_cut {α : Type*} {x y : α} (hxy : x ≠ y) {m n : ℕ} (hmn : m < n)
    (rest : List α) : ¬ List.replicate n x <+: List.replicate m x ++ y :: rest := by
  obtain ⟨n, rfl⟩ : ∃ k, n = k + 1 := Nat.exists_eq_succ_of_ne_zero (Nat.ne_zero_of_lt hmn)
  induction m generalizing n with
  | zero =>
    rw [List.replicate_succ, List.replicate_zero, List.nil_append, List.cons_prefix_cons]
    exact fun h => hxy h.1
  | succ m ih =>
    obtain ⟨k, rfl⟩ : ∃ k, n = k + 1 := Nat.exists_eq_succ_of_ne_zero (by omega)
    rw [List.replicate_succ, @List.replicate_succ α x m, List.cons_append, List.cons_prefix_cons]
    exact fun h => ih k (Nat.lt_of_succ_lt_succ hmn) h.2

/-- Cutting off a shorter row of one entry by another leaves the longer rows in the rest. -/
theorem replicate_infix_iff {α : Type*} {x y : α} (hxy : x ≠ y) {m n : ℕ} (hmn : m < n)
    (rest : List α) :
    List.replicate n x <:+: List.replicate m x ++ y :: rest ↔ List.replicate n x <:+: rest := by
  induction m with
  | zero =>
    rw [List.replicate_zero, List.nil_append, List.infix_cons_iff]
    exact or_iff_right (not_prefix_of_cut hxy hmn rest)
  | succ m ih =>
    rw [List.replicate_succ, List.cons_append, List.infix_cons_iff, ih (Nat.lt_of_succ_lt hmn),
      ← List.cons_append, ← List.replicate_succ]
    exact or_iff_right (not_prefix_of_cut hxy hmn rest)

/-! ## Screens that leave the prompt on show -/

/-- The ids seen, where a prompt that is held back counts as none until another one is seen. -/
def unheld (held : Option InstanceId) : List (Option InstanceId) → List (Option InstanceId)
  | [] => []
  | seen :: rest =>
    if seen = none ∨ seen = held then none :: unheld held rest else seen :: rest

/-- Seeing these ids leaves `id` on show: none of them is another prompt's, and no prompt is seen
too often in a row, counting the absences so far. -/
def Undisturbed (id : InstanceId) (absences : ℕ) (held : Option InstanceId)
    (seen : List (Option InstanceId)) : Prop :=
  (∀ other, some other ∈ unheld held seen → other = id)
    ∧ ¬ List.replicate promptAbsenceSnapshots none
        <:+: List.replicate absences none ++ unheld held seen

@[simp] theorem unheld_none (seen : List (Option InstanceId)) : unheld none seen = seen := by
  induction seen with
  | nil => rfl
  | cons o seen ih =>
    rcases o with - | id
    · rw [unheld, if_pos (Or.inl rfl), ih]
    · exact if_neg (by simp)

section

variable {id : InstanceId} {absences : ℕ} {held : Option InstanceId}
  {seen : List (Option InstanceId)}

theorem undisturbed_nil (h : absences < promptAbsenceSnapshots) :
    Undisturbed id absences held [] := by
  refine ⟨fun other hother => absurd hother List.not_mem_nil, fun hinfix => ?_⟩
  have hlength := hinfix.length_le
  rw [unheld, List.append_nil, List.length_replicate, List.length_replicate] at hlength
  exact absurd h (Nat.not_lt.mpr hlength)

/-- One more absence. -/
theorem undisturbed_absent {o : Option InstanceId} (ho : o = none ∨ o = held) :
    Undisturbed id absences held (o :: seen) ↔ Undisturbed id (absences + 1) held seen := by
  have hrow : List.replicate absences (none : Option InstanceId) ++ none :: unheld held seen
      = List.replicate (absences + 1) none ++ unheld held seen := by
    rw [List.replicate_succ', List.append_assoc, List.singleton_append]
  rw [Undisturbed, Undisturbed, unheld, if_pos ho, hrow]
  simp

/-- One absence too many. -/
theorem not_undisturbed (h : promptAbsenceSnapshots ≤ absences) :
    ¬ Undisturbed id absences held seen := by
  rintro ⟨-, hrow⟩
  refine hrow (List.IsPrefix.isInfix ?_)
  obtain ⟨extra, rfl⟩ := Nat.exists_eq_add_of_le h
  rw [List.replicate_add, List.append_assoc]
  exact List.prefix_append _ _

/-- A prompt that is not held back. -/
theorem undisturbed_seen {other : InstanceId} (hother : held ≠ some other)
    (h : absences < promptAbsenceSnapshots) :
    Undisturbed id absences held (some other :: seen)
      ↔ other = id ∧ Undisturbed id 0 none seen := by
  have hhead : unheld held (some other :: seen) = some other :: seen :=
    if_neg (by rintro (hnone | hheld) <;> [exact absurd hnone (by simp); exact hother hheld.symm])
  rw [Undisturbed, Undisturbed, hhead, unheld_none, replicate_infix_iff (by simp) h,
    List.replicate_zero, List.nil_append, ← and_assoc]
  refine and_congr_left fun _ => ⟨fun hall => ?_, fun hall => ?_⟩
  · exact ⟨hall other List.mem_cons_self, fun o ho => hall o (List.mem_cons_of_mem _ ho)⟩
  · intro o ho
    rcases List.mem_cons.mp ho with heq | ho
    · exact (Option.some.inj heq).trans hall.1
    · exact hall.2 o ho

end

/-! ## The phase machine -/

namespace PromptPhase

variable {ids : IdScheme} {p : PromptPhase} {active : PromptInstance}

/-- A prompt on show counts an absence unless it is one too many. -/
theorem absences_absent (h : p.absences < promptAbsenceSnapshots) (isHeld : Bool) :
    (p.absent isHeld).1.absences < promptAbsenceSnapshots := by
  rcases hshown : p.shown with - | active
  · rw [absent_idle hshown]
    exact h
  · by_cases hlt : p.absences + 1 < promptAbsenceSnapshots
    · rw [absent_wait hshown hlt]
      exact hlt
    · rw [absent_gone hshown hlt]
      exact promptAbsenceSnapshots_pos

theorem absences_sighted (inst : PromptInstance) : (p.sighted inst).1.absences = 0 := by
  rw [sighted]
  rcases p.shown with - | active
  · rfl
  · by_cases hid : active.instanceId = inst.instanceId
    · by_cases hsem : active.sameSemantics inst = true <;> simp [hid, hsem]
    · simp [hid]

/-- The counter stays below the limit. -/
theorem absences_look (h : p.absences < promptAbsenceSnapshots)
    (candidate : Option PromptCandidate) :
    (p.look ids candidate).1.absences < promptAbsenceSnapshots := by
  rcases candidate with - | c
  · exact absences_absent h false
  · rw [look, Option.map_some]
    by_cases hheld : p.held = some (candidateToInstanceWithId ids c).instanceId
    · rw [observe_held hheld]
      exact absences_absent h true
    · rw [observe_new hheld, absences_sighted]
      exact promptAbsenceSnapshots_pos

theorem absences_answered (h : p.absences < promptAbsenceSnapshots) (instanceId : CString) :
    (p.answered instanceId).1.absences < promptAbsenceSnapshots := by
  rcases hempty : instanceId.isEmpty with - | -
  · by_cases hid : ∃ active, p.shown = some active ∧ active.instanceId.text = instanceId
    · obtain ⟨active, hshown, hid⟩ := hid
      rw [answered_shown hempty hshown hid]
      exact promptAbsenceSnapshots_pos
    · rw [answered_other hempty fun active hshown hsame => hid ⟨active, hshown, hsame⟩]
      exact h
  · rw [answered_empty hempty]
    exact h

/-- The prompt stays on show through the looks. -/
def Stays (ids : IdScheme) (p : PromptPhase) (id : InstanceId)
    (sights : List (Option PromptCandidate)) : Prop :=
  .gone id ∉ (Reactive.run (look ids) p sights).2
    ∧ ∃ inst, (Reactive.run (look ids) p sights).1.shown = some inst ∧ inst.instanceId = id

theorem stays_cons_iff {id : InstanceId} {sight : Option PromptCandidate}
    {sights : List (Option PromptCandidate)} (h : .gone id ∉ (p.look ids sight).2) :
    p.Stays ids id (sight :: sights) ↔ (p.look ids sight).1.Stays ids id sights := by
  rw [Stays, Stays, Reactive.run_cons, List.mem_append, or_iff_right h]

theorem not_stays_cons {id : InstanceId} {sight : Option PromptCandidate}
    {sights : List (Option PromptCandidate)} (h : .gone id ∈ (p.look ids sight).2) :
    ¬ p.Stays ids id (sight :: sights) := by
  rw [Stays, Reactive.run_cons]
  exact fun hstays => hstays.1 (List.mem_append_left _ h)

/-- **The prompt on show stays exactly through undisturbed looks.** -/
theorem stays_iff (hshown : p.shown = some active) (habsences : p.absences < promptAbsenceSnapshots)
    (sights : List (Option PromptCandidate)) :
    p.Stays ids active.instanceId sights
      ↔ Undisturbed active.instanceId p.absences p.held (sights.map (Option.map ids)) := by
  induction sights generalizing p active with
  | nil =>
    refine iff_of_true ⟨List.not_mem_nil, active, hshown, rfl⟩ (undisturbed_nil habsences)
  | cons sight sights ih =>
    have habsent (isHeld : Bool) (hlook : p.look ids sight = p.absent isHeld)
        (ho : sight.map ids = none ∨ sight.map ids = p.held) :
        p.Stays ids active.instanceId (sight :: sights)
          ↔ Undisturbed active.instanceId p.absences p.held
              ((sight :: sights).map (Option.map ids)) := by
      rw [List.map_cons, undisturbed_absent ho]
      by_cases hlt : p.absences + 1 < promptAbsenceSnapshots
      · rw [absent_wait hshown hlt] at hlook
        rw [stays_cons_iff (by rw [hlook]; exact List.not_mem_nil), hlook]
        exact ih hshown hlt
      · rw [absent_gone hshown hlt] at hlook
        refine iff_of_false (not_stays_cons ?_) (not_undisturbed (Nat.not_lt.mp hlt))
        rw [hlook]
        exact List.mem_singleton_self _
    rcases sight with - | c
    · exact habsent false rfl (Or.inl rfl)
    · by_cases hheld : p.held = some (ids c)
      · exact habsent true (observe_held hheld) (Or.inr hheld.symm)
      · have hlook : p.look ids (some c) = p.sighted (candidateToInstanceWithId ids c) :=
          observe_new hheld
        rw [List.map_cons, Option.map_some, undisturbed_seen hheld habsences]
        by_cases hid : active.instanceId = ids c
        · have hsame : active.instanceId = (candidateToInstanceWithId ids c).instanceId := hid
          obtain ⟨⟨kept, hkept, hphase⟩, hgone⟩ := sighted_keeps hshown hsame
          rw [stays_cons_iff (by rw [hlook]; exact hgone _), hlook, hphase, ← hkept,
            ih rfl promptAbsenceSnapshots_pos]
          exact (and_iff_right (hid.symm.trans hkept.symm)).symm
        · rw [sighted_other hshown hid] at hlook
          refine iff_of_false (not_stays_cons ?_) fun h => hid h.1.symm
          rw [hlook]
          exact List.mem_cons_self

end PromptPhase

/-! ## The detector -/

namespace PromptDetector

section

variable (compile : RegexCompiler) (ids : IdScheme)

/-- A detector with these rules after some calls. -/
def after (ruleset : PromptRuleset) (rows cols : ℤ) (calls : List DetectorCall) : PromptDetector :=
  (Reactive.run (step compile ids) ((init rows cols).loadRules ruleset) calls).1

/-- Through these chunks the prompt is not let go, and it is active in the end. -/
def Stays (d : PromptDetector) (A : PromptInstance) (chunks : List (List UInt8)) : Prop :=
  .gone A.instanceId ∉ (Reactive.run (feed compile ids) d chunks).2
    ∧ ∃ inst, (Reactive.run (feed compile ids) d chunks).1.lifecycle.active = some inst
      ∧ inst.instanceId = A.instanceId

/-- The ids of the prompts on the screens the chunks end on. -/
def seenIds (d : PromptDetector) (chunks : List (List UInt8)) : List (Option InstanceId) :=
  (d.sightings compile [] chunks).map (Option.map ids)

end

variable (compile : RegexCompiler) (ids : IdScheme)

theorem step_absences (d : PromptDetector) (call : DetectorCall)
    (h : d.lifecycle.phase.absences < promptAbsenceSnapshots) :
    (d.step compile ids call).1.lifecycle.phase.absences < promptAbsenceSnapshots := by
  rcases call with data | ⟨rows, cols⟩ | instanceId
  · by_cases hdata : data = []
    · rw [step, feed, if_pos (List.isEmpty_iff.mpr hdata)]
      exact h
    · have hphase := congrArg Prod.fst (d.feed_refines compile ids hdata)
      rw [Prod.map_fst] at hphase
      rw [step, hphase]
      exact PromptPhase.absences_look h _
  · exact h
  · have hphase := congrArg Prod.fst (d.lifecycle.resolve_refines instanceId)
    rw [Prod.map_fst] at hphase
    rw [step, resolve, hphase]
    exact PromptPhase.absences_answered h instanceId

/-- **Redraws, exactly.**  A prompt active on a detector, after whatever calls, stays on show
through the chunks if and only if the screens they end on leave it undisturbed. -/
theorem redraw_stays_iff (ruleset : PromptRuleset) (rows cols : ℤ) (calls : List DetectorCall)
    (A : PromptInstance) (chunks : List (List UInt8))
    (hactive : (after compile ids ruleset rows cols calls).lifecycle.active = some A)
    (hchunks : ∀ chunk ∈ chunks, chunk ≠ []) :
    (after compile ids ruleset rows cols calls).Stays compile ids A chunks
      ↔ Undisturbed A.instanceId
          (after compile ids ruleset rows cols calls).lifecycle.absenceSnapshots
          (after compile ids ruleset rows cols calls).lifecycle.phase.held
          ((after compile ids ruleset rows cols calls).seenIds compile ids chunks) := by
  have habsences : (after compile ids ruleset rows cols calls).lifecycle.phase.absences
      < promptAbsenceSnapshots := by
    have hstart : ((init rows cols).loadRules ruleset).lifecycle.phase.absences
        < promptAbsenceSnapshots := promptAbsenceSnapshots_pos
    have hstep (d : PromptDetector) (call : DetectorCall)
        (h : d.lifecycle.phase.absences < promptAbsenceSnapshots) :
        (d.step compile ids call).1.lifecycle.phase.absences < promptAbsenceSnapshots :=
      step_absences compile ids d call h
    exact Reactive.run_invariant (step compile ids) hstep hstart calls
  generalize after compile ids ruleset rows cols calls = d at hactive habsences ⊢
  have hrun := run_feed_refines compile ids d hchunks
  have hstays : d.Stays compile ids A chunks
      ↔ d.lifecycle.phase.Stays ids A.instanceId (d.sightings compile [] chunks) := by
    rw [PromptPhase.Stays, ← hrun]
    exact Iff.rfl
  rw [hstays, PromptPhase.stays_iff hactive habsences]
  rfl

/-- A 4 by 8 screen with a menu of three options on show. -/
def threeOptions : PromptDetector :=
  after (fun _ => none) buildInstanceId [menuRule] 4 8
    [.feed "Pick\r\n1. a\r\n2. b\r\n3. c".toUTF8.data.toList]

/-- The menu with its three options. -/
def threeOptionMenu : PromptCandidate where
  patternId := menuRule.patternId
  patternType := .numberedMenu
  prompt := CString.ofString "Pick"
  actions := [⟨CString.ofString "a", CString.ofString "1"⟩,
    ⟨CString.ofString "b", CString.ofString "2"⟩, ⟨CString.ofString "c", CString.ofString "3"⟩]
  anchorRow := 0
  actionCount_le := by decide

/-- The screen is erased, the menu written again, and then its last row. -/
def redrawChunks : List (List UInt8) :=
  ["\x1b[2J\x1b[H".toUTF8.data.toList, "Pick\r\n1. a\r\n2. b\r\n3. c".toUTF8.data.toList,
    "\r\x1b[2K3. c".toUTF8.data.toList]

/-- Redrawn so, after one screen without a prompt, the menu stays on show. -/
theorem redraw_stays_iff_whole :
    threeOptions.Stays (fun _ => none) buildInstanceId
      ((candidateToInstanceWithId buildInstanceId threeOptionMenu).withRevision 1)
      redrawChunks := by
  refine (redraw_stays_iff (fun _ => none) buildInstanceId [menuRule] 4 8
    [.feed "Pick\r\n1. a\r\n2. b\r\n3. c".toUTF8.data.toList]
    ((candidateToInstanceWithId buildInstanceId threeOptionMenu).withRevision 1)
    redrawChunks (by decide +kernel) (by decide +kernel)).mpr ?_
  have hseen : threeOptions.seenIds (fun _ => none) buildInstanceId redrawChunks
      = [none, some (buildInstanceId threeOptionMenu),
        some (buildInstanceId threeOptionMenu)] := by
    decide +kernel
  have hheld : threeOptions.lifecycle.phase.held = none := by decide +kernel
  have habsences : threeOptions.lifecycle.absenceSnapshots = 0 := by decide +kernel
  change Undisturbed (buildInstanceId threeOptionMenu) threeOptions.lifecycle.absenceSnapshots
    threeOptions.lifecycle.phase.held (threeOptions.seenIds (fun _ => none) buildInstanceId _)
  rw [hseen, hheld, habsences, undisturbed_absent (Or.inl rfl),
    undisturbed_seen (by simp) (by decide), undisturbed_seen (by simp) promptAbsenceSnapshots_pos]
  exact ⟨rfl, rfl, undisturbed_nil promptAbsenceSnapshots_pos⟩

/-- **The half-drawn menu takes over.**  The last row of the menu is erased and written again with
the same text, in two reads; the screen and the cursor end as they were, and no read ends on a
screen without a prompt.  Yet the menu goes: with its last row erased it is a menu of two
options. -/
theorem redrawn_menu_goes :
    threeOptions.lifecycle.active
        = some ((candidateToInstanceWithId buildInstanceId threeOptionMenu).withRevision 1)
      ∧ (threeOptions.terminalState.feed "\r\x1b[2K3. c".toUTF8.data.toList).toTerminalScreen
        = threeOptions.terminalState.toTerminalScreen
      ∧ none ∉ threeOptions.seenIds (fun _ => none) buildInstanceId
          ["\r\x1b[2K".toUTF8.data.toList, "3. c".toUTF8.data.toList]
      ∧ ¬ threeOptions.Stays (fun _ => none) buildInstanceId
          ((candidateToInstanceWithId buildInstanceId threeOptionMenu).withRevision 1)
          ["\r\x1b[2K".toUTF8.data.toList, "3. c".toUTF8.data.toList] := by
  refine ⟨by decide +kernel, by decide +kernel, by decide +kernel, fun h => h.1 ?_⟩
  decide +kernel

end PromptDetector

end TmuxRemote
