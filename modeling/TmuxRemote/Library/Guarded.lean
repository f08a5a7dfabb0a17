import Mathlib.Data.List.Basic

/-!
# Library/Guarded — interleavings of guarded atomic actions

A guarded system is a partial step `σ → α → Option σ`: an action that is not enabled has no
successor.  A run is a list of actions, each enabled where it is taken.

`Throughout P` says a property holds in every state the run passes, `AllSteps C` that every step of
it meets a condition on the state before it.  `throughout_and_allSteps_iff` is the rule by which the
two are compared: an invariant that survives exactly the steps meeting `C`.  `run_kept_or_dropped`
is the one for a value that such steps keep and all others drop, `run_filter` the one for actions
that can be left out of a run.
-/

namespace Guarded

variable {σ α : Type*} (step : σ → α → Option σ)

/-- Take the actions in order; `none` when one of them is not enabled. -/
def run : σ → List α → Option σ
  | s, [] => some s
  | s, a :: as => (step s a).bind fun s' => run s' as

/-- The property holds in every state of the run, its first and last included. -/
def Throughout (P : σ → Prop) : σ → List α → Prop
  | s, [] => P s
  | s, a :: as => P s ∧ ∀ s', step s a = some s' → Throughout P s' as

/-- Every step of the run meets a condition on the state before it and the action taken. -/
def AllSteps (C : σ → α → Prop) : σ → List α → Prop
  | _, [] => True
  | s, a :: as => C s a ∧ ∀ s', step s a = some s' → AllSteps C s' as

instance decidableThroughout {P : σ → Prop} [DecidablePred P] :
    ∀ s as, Decidable (Throughout step P s as)
  | s, [] => inferInstanceAs (Decidable (P s))
  | s, a :: as =>
    have (s' : σ) : Decidable (Throughout step P s' as) := decidableThroughout s' as
    inferInstanceAs (Decidable (P s ∧ ∀ s' ∈ step s a, Throughout step P s' as))

instance decidableAllSteps {C : σ → α → Prop} [∀ s a, Decidable (C s a)] :
    ∀ s as, Decidable (AllSteps step C s as)
  | _, [] => inferInstanceAs (Decidable True)
  | s, a :: as =>
    have (s' : σ) : Decidable (AllSteps step C s' as) := decidableAllSteps s' as
    inferInstanceAs (Decidable (C s a ∧ ∀ s' ∈ step s a, AllSteps step C s' as))

@[simp] theorem run_nil (s : σ) : run step s [] = some s := rfl

@[simp] theorem run_cons (s : σ) (a : α) (as : List α) :
    run step s (a :: as) = (step s a).bind fun s' => run step s' as := rfl

theorem run_cons_eq_some {s t : σ} {a : α} {as : List α} :
    run step s (a :: as) = some t ↔ ∃ s', step s a = some s' ∧ run step s' as = some t := by
  rw [run_cons, Option.bind_eq_some_iff]

theorem run_append_eq_some {s t : σ} {as bs : List α} :
    run step s (as ++ bs) = some t
      ↔ ∃ u, run step s as = some u ∧ run step u bs = some t := by
  induction as generalizing s with
  | nil => simp
  | cons a as ih =>
    simp only [List.cons_append, run_cons_eq_some, ih]
    constructor
    · rintro ⟨s', hs, u, hu, ht⟩
      exact ⟨u, ⟨s', hs, hu⟩, ht⟩
    · rintro ⟨u, ⟨s', hs, hu⟩, ht⟩
      exact ⟨s', hs, u, hu, ht⟩

variable {step}

/-- What every step keeps, every run keeps. -/
theorem run_invariant {I : σ → Prop} (hstep : ∀ s a s', I s → step s a = some s' → I s')
    {s t : σ} {as : List α} (hs : I s) (h : run step s as = some t) : I t := by
  induction as generalizing s with
  | nil => exact Option.some.inj h ▸ hs
  | cons a as ih =>
    obtain ⟨s', ha, ht⟩ := (run_cons_eq_some step).mp h
    exact ih (hstep s a s' hs ha) ht

/-- What every step of a run keeps, given what its actions are. -/
theorem run_invariant_of_mem {I : σ → Prop} {C : α → Prop}
    (hstep : ∀ s a s', I s → C a → step s a = some s' → I s') {s t : σ} {as : List α} (hs : I s)
    (hC : ∀ a ∈ as, C a) (h : run step s as = some t) : I t := by
  induction as generalizing s with
  | nil => exact Option.some.inj h ▸ hs
  | cons a as ih =>
    obtain ⟨ha, has⟩ := List.forall_mem_cons.mp hC
    obtain ⟨s', hs', ht⟩ := (run_cons_eq_some step).mp h
    exact ih (hstep s a s' hs ha hs') has ht

/-- Steps that each use up some work make a run no longer than the work there is. -/
theorem run_length_le {I : σ → Prop} {C : α → Prop} {work : σ → ℕ}
    (hkeep : ∀ s a s', I s → step s a = some s' → I s')
    (hwork : ∀ s a s', I s → C a → step s a = some s' → work s' < work s) {s t : σ} {as : List α}
    (hs : I s) (hC : ∀ a ∈ as, C a) (h : run step s as = some t) :
    as.length + work t ≤ work s := by
  induction as generalizing s with
  | nil =>
    obtain rfl := Option.some.inj h
    exact Nat.le_of_eq (Nat.zero_add _)
  | cons a as ih =>
    obtain ⟨ha, has⟩ := List.forall_mem_cons.mp hC
    obtain ⟨s', hs', ht⟩ := (run_cons_eq_some step).mp h
    have hrest := ih (hkeep s a s' hs hs') has ht
    have hless := hwork s a s' hs ha hs'
    rw [List.length_cons]
    omega

/-- What a step meeting `C` keeps, a run whose steps all meet `C` keeps throughout. -/
theorem throughout_of_allSteps {I : σ → Prop} {C : σ → α → Prop}
    (hstep : ∀ s a s', I s → C s a → step s a = some s' → I s') {s : σ} {as : List α} (hs : I s)
    (hC : AllSteps step C s as) : Throughout step I s as := by
  induction as generalizing s with
  | nil => exact hs
  | cons a as ih => exact ⟨hs, fun s' ha => ih (hstep s a s' hs hC.1 ha) (hC.2 s' ha)⟩

/-- What an invariant gives of each step, where the states passed have a property as well. -/
theorem allSteps_of_throughout {I P : σ → Prop} {C D : σ → α → Prop}
    (hstep : ∀ s a s', I s → C s a → step s a = some s' → I s')
    (hD : ∀ s a, I s → C s a → P s → D s a) {s : σ} {as : List α} (hs : I s)
    (hP : Throughout step P s as) (hC : AllSteps step C s as) : AllSteps step D s as := by
  induction as generalizing s with
  | nil => trivial
  | cons a as ih =>
    exact ⟨hD s a hs hC.1 hP.1, fun s' ha => ih (hstep s a s' hs hC.1 ha) (hP.2 s' ha) (hC.2 s' ha)⟩

theorem Throughout.mono {P Q : σ → Prop} (hPQ : ∀ s, P s → Q s) {s : σ} {as : List α}
    (h : Throughout step P s as) : Throughout step Q s as := by
  induction as generalizing s with
  | nil => exact hPQ s h
  | cons a as ih => exact ⟨hPQ s h.1, fun s' ha => ih (h.2 s' ha)⟩

theorem AllSteps.mono {C D : σ → α → Prop} (hCD : ∀ s a, C s a → D s a) {s : σ} {as : List α}
    (h : AllSteps step C s as) : AllSteps step D s as := by
  induction as generalizing s with
  | nil => trivial
  | cons a as ih => exact ⟨hCD s a h.1, fun s' ha => ih (h.2 s' ha)⟩

theorem allSteps_of_forall {C : σ → α → Prop} (hC : ∀ s a, C s a) (s : σ) (as : List α) :
    AllSteps step C s as := by
  induction as generalizing s with
  | nil => trivial
  | cons a as ih => exact ⟨hC s a, fun s' _ => ih s'⟩

/-- After a step that is taken, the rest of the run goes on from where it leads. -/
theorem allSteps_cons_iff {C : σ → α → Prop} {s s' : σ} {a : α} {as : List α}
    (ha : step s a = some s') : AllSteps step C s (a :: as) ↔ C s a ∧ AllSteps step C s' as := by
  refine and_congr_right fun _ => ⟨fun h => h s' ha, fun h s'' ha' => ?_⟩
  exact Option.some.inj (ha.symm.trans ha') ▸ h

/-- The steps of a run are those of its beginning and those of the rest. -/
theorem AllSteps.of_append {C : σ → α → Prop} {s u : σ} {as bs : List α}
    (h : AllSteps step C s (as ++ bs)) (hu : run step s as = some u) : AllSteps step C u bs := by
  induction as generalizing s with
  | nil => exact Option.some.inj hu ▸ h
  | cons a as ih =>
    obtain ⟨s', ha, hu⟩ := (run_cons_eq_some step).mp hu
    exact ih (h.2 s' ha) hu

theorem Throughout.head {P : σ → Prop} {s : σ} {as : List α} (h : Throughout step P s as) :
    P s := by
  cases as with
  | nil => exact h
  | cons a as => exact h.1

/-- A property throughout a run holds in the state it ends in. -/
theorem Throughout.last {P : σ → Prop} {s t : σ} {as : List α} (h : Throughout step P s as)
    (ht : run step s as = some t) : P t := by
  induction as generalizing s with
  | nil => exact Option.some.inj ht ▸ h
  | cons a as ih =>
    obtain ⟨s', ha, ht⟩ := (run_cons_eq_some step).mp ht
    exact ih (h.2 s' ha) ht

/-- **The exact-condition rule.**  If an invariant gives the property, survives every step that
meets `C`, and every step that does not meet `C` is not a good one or ends outside the property,
then the property holds throughout a run of good steps exactly when all its steps meet `C`. -/
theorem throughout_and_allSteps_iff {I P : σ → Prop} {C Q : σ → α → Prop} (hP : ∀ s, I s → P s)
    (hkeep : ∀ s a s', I s → C s a → step s a = some s' → I s') (hgood : ∀ s a, I s → C s a → Q s a)
    (hbreak : ∀ s a s', I s → ¬ C s a → step s a = some s' → ¬ (P s' ∧ Q s a)) {s t : σ}
    {as : List α} (hs : I s) (ht : run step s as = some t) :
    Throughout step P s as ∧ AllSteps step Q s as ↔ AllSteps step C s as := by
  induction as generalizing s with
  | nil => exact iff_of_true ⟨hP s hs, trivial⟩ trivial
  | cons a as ih =>
    obtain ⟨s', ha, ht⟩ := (run_cons_eq_some step).mp ht
    have hhead : Throughout step P s (a :: as) ↔ P s ∧ Throughout step P s' as :=
      and_congr_right fun _ =>
        ⟨fun h => h s' ha, fun h s'' ha' => Option.some.inj (ha.symm.trans ha') ▸ h⟩
    rw [hhead, allSteps_cons_iff ha, allSteps_cons_iff ha]
    constructor
    · rintro ⟨⟨-, hrest⟩, hgood', hgoods⟩
      have hC : C s a := by
        by_contra hn
        exact hbreak s a s' hs hn ha ⟨hrest.head, hgood'⟩
      exact ⟨hC, (ih (hkeep s a s' hs hC ha) ht).mp ⟨hrest, hgoods⟩⟩
    · rintro ⟨hC, hCs⟩
      obtain ⟨hrest, hgoods⟩ := (ih (hkeep s a s' hs hC ha) ht).mpr hCs
      exact ⟨⟨hP s hs, hrest⟩, hgood s a hs hC, hgoods⟩

/-- The rule where nothing is asked of the steps themselves. -/
theorem throughout_iff_allSteps {I P : σ → Prop} {C : σ → α → Prop} (hP : ∀ s, I s → P s)
    (hkeep : ∀ s a s', I s → C s a → step s a = some s' → I s')
    (hbreak : ∀ s a s', I s → ¬ C s a → step s a = some s' → ¬ P s') {s t : σ} {as : List α}
    (hs : I s) (ht : run step s as = some t) :
    Throughout step P s as ↔ AllSteps step C s as := by
  rw [← throughout_and_allSteps_iff (Q := fun _ _ => True) hP hkeep (fun _ _ _ _ => trivial)
    (fun s a s' h hC ha hP' => hbreak s a s' h hC ha hP'.1) hs ht]
  exact (and_iff_left (allSteps_of_forall (fun _ _ => trivial) s as)).symm

/-! ## Actions that leave no trace -/

/-- **The purging rule.**  If the visible steps do what they do to what can be seen of the state,
and the others leave that alone, then the visible actions alone make a run, and it ends in what can
be seen of the end. -/
theorem run_filter {erase : σ → σ} {visible : α → Bool} {I : σ → Prop} {C : α → Prop}
    (hkeep : ∀ s a s', I s → C a → step s a = some s' → I s')
    (hvisible : ∀ s a s', I s → C a → visible a = true → step s a = some s' →
      step (erase s) a = some (erase s'))
    (hhidden : ∀ s a s', I s → C a → visible a = false → step s a = some s' → erase s' = erase s)
    {s t : σ} {as : List α} (hs : I s) (hC : ∀ a ∈ as, C a) (h : run step s as = some t) :
    run step (erase s) (as.filter visible) = some (erase t) := by
  induction as generalizing s with
  | nil => exact Option.some.inj h ▸ rfl
  | cons a as ih =>
    obtain ⟨ha, has⟩ := List.forall_mem_cons.mp hC
    obtain ⟨s', hs', ht⟩ := (run_cons_eq_some step).mp h
    have hrest := ih (hkeep s a s' hs ha hs') has ht
    cases hv : visible a with
    | true =>
      rw [List.filter_cons_of_pos hv]
      exact (run_cons_eq_some step).mpr ⟨erase s', hvisible s a s' hs ha hv hs', hrest⟩
    | false =>
      rw [List.filter_cons_of_neg (by simp [hv]), ← hhidden s a s' hs ha hv hs']
      exact hrest

/-! ## A value that steps keep or drop -/

section

variable {β : Type*} (f : σ → Option β) (C : σ → α → Prop)

/-- What is dropped stays dropped. -/
theorem run_eq_none {s t : σ} {as : List α}
    (hstep : ∀ s, ∀ a ∈ as, ∀ s', step s a = some s' → f s' = f s ∨ f s' = none)
    (hs : f s = none) (ht : run step s as = some t) : f t = none := by
  induction as generalizing s with
  | nil => exact Option.some.inj ht ▸ hs
  | cons a as ih =>
    obtain ⟨s', ha, ht⟩ := (run_cons_eq_some step).mp ht
    refine ih (fun s b hb => hstep s b (List.mem_cons_of_mem a hb)) ?_ ht
    rcases hstep s a List.mem_cons_self s' ha with hkept | hdropped
    · exact hkept.trans hs
    · exact hdropped

/-- **The kept-value rule.**  If the steps that meet `C` keep a value and all others drop it, then a
value that is there is kept by a run whose steps all meet `C`, and dropped by any other. -/
theorem run_kept_or_dropped {s t : σ} {as : List α}
    (hkeep : ∀ s, ∀ a ∈ as, ∀ s', C s a → step s a = some s' → f s' = f s)
    (hdrop : ∀ s, ∀ a ∈ as, ∀ s', ¬ C s a → step s a = some s' → f s' = none)
    (ht : run step s as = some t) :
    AllSteps step C s as ∧ f t = f s ∨ ¬ AllSteps step C s as ∧ f t = none := by
  induction as generalizing s with
  | nil => exact Or.inl ⟨trivial, Option.some.inj ht ▸ rfl⟩
  | cons a as ih =>
    obtain ⟨s', ha, ht⟩ := (run_cons_eq_some step).mp ht
    have hkeep' := fun s b hb => hkeep s b (List.mem_cons_of_mem a hb)
    have hdrop' := fun s b hb => hdrop s b (List.mem_cons_of_mem a hb)
    by_cases hC : C s a
    · obtain ⟨hrest, hkept⟩ | ⟨hrest, hdropped⟩ := ih hkeep' hdrop' ht
      · exact Or.inl ⟨(allSteps_cons_iff ha).mpr ⟨hC, hrest⟩,
          hkept.trans (hkeep s a List.mem_cons_self s' hC ha)⟩
      · exact Or.inr ⟨fun h => hrest (h.2 s' ha), hdropped⟩
    · refine Or.inr ⟨fun h => hC h.1, run_eq_none f (fun s b hb s' hb' => ?_)
        (hdrop s a List.mem_cons_self s' hC ha) ht⟩
      by_cases hCb : C s b
      · exact Or.inl (hkeep' s b hb s' hCb hb')
      · exact Or.inr (hdrop' s b hb s' hCb hb')

end

end Guarded
