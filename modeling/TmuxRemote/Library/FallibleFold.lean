import TmuxRemote.Library.Trapping

/-!
# Library/FallibleFold — a fold whose steps can fail, over a list in another order

A loop that reads entry after entry into a state stops at the first entry that it refuses.  If any
two entries can be read in either order, a list that is read through leaves the same state in every
order (`foldlM_perm`).  Failures need not agree: which entry is refused first depends on the order.
-/

namespace FallibleFold

variable {ε σ α : Type} {step : σ → α → Except ε σ} {a b : α} {entries order : List α}

/-- A state that `a`, then `b` leave is one that `b`, then `a` leave as well. -/
def Exchange (step : σ → α → Except ε σ) (a b : α) : Prop :=
  ∀ s mid r, step s a = .ok mid → step mid b = .ok r →
    ∃ mid', step s b = .ok mid' ∧ step mid' a = .ok r

/-- An entry that changes no state: it is passed over in every state, or refused in every state. -/
def Skipped (step : σ → α → Except ε σ) (a : α) : Prop :=
  ∀ s s' r, step s a = .ok r → r = s ∧ step s' a = .ok s'

theorem Skipped.exchange_left (h : Skipped step a) : Exchange step a b := by
  intro s mid r ha hb
  obtain ⟨rfl, hagain⟩ := h s r mid ha
  exact ⟨r, hb, hagain⟩

theorem Skipped.exchange_right (h : Skipped step b) : Exchange step a b := by
  intro s mid r ha hb
  obtain ⟨rfl, hagain⟩ := h mid s r hb
  exact ⟨s, hagain, ha⟩

theorem foldlM_cons_eq_ok {s r : σ} :
    (a :: entries).foldlM step s = .ok r ↔
      ∃ mid, step s a = .ok mid ∧ entries.foldlM step mid = .ok r := by
  rw [List.foldlM_cons, Trapping.bind_eq_ok]

/-- A fold fails where a step does. -/
theorem step_eq_error_of_foldlM {s : σ} {e : ε} (h : entries.foldlM step s = .error e) :
    ∃ a ∈ entries, ∃ mid, step mid a = .error e := by
  induction entries generalizing s with
  | nil => cases h
  | cons a entries ih =>
    rw [List.foldlM_cons] at h
    cases hstep : step s a with
    | error e' =>
      rw [hstep] at h
      exact ⟨a, List.mem_cons_self, s, hstep.trans h⟩
    | ok mid =>
      rw [hstep] at h
      obtain ⟨b, hb, mid', hb'⟩ := ih h
      exact ⟨b, List.mem_cons_of_mem _ hb, mid', hb'⟩

/-- **The order is of no concern** to a fold that succeeds. -/
theorem foldlM_perm (hperm : entries.Perm order)
    (hexchange : ∀ a ∈ entries, ∀ b ∈ entries, a ≠ b → Exchange step a b) {s r : σ}
    (h : entries.foldlM step s = .ok r) : order.foldlM step s = .ok r := by
  induction hperm generalizing s with
  | nil => exact h
  | cons a _ ih =>
    obtain ⟨mid, hstep, hrest⟩ := foldlM_cons_eq_ok.mp h
    refine foldlM_cons_eq_ok.mpr ⟨mid, hstep, ih (fun x hx y hy => ?_) hrest⟩
    exact hexchange x (List.mem_cons_of_mem _ hx) y (List.mem_cons_of_mem _ hy)
  | swap a b entries =>
    by_cases hab : b = a
    · rwa [hab] at h ⊢
    · obtain ⟨mid, hb, hrest⟩ := foldlM_cons_eq_ok.mp h
      obtain ⟨last, ha, hrest⟩ := foldlM_cons_eq_ok.mp hrest
      have hmem : a ∈ b :: a :: entries := List.mem_cons_of_mem _ List.mem_cons_self
      obtain ⟨mid', ha', hb'⟩ := hexchange b List.mem_cons_self a hmem hab s mid last hb ha
      exact foldlM_cons_eq_ok.mpr ⟨mid', ha', foldlM_cons_eq_ok.mpr ⟨last, hb', hrest⟩⟩
  | trans hfirst _ ihfirst ihlast =>
    refine ihlast (fun x hx y hy => ?_) (ihfirst hexchange h)
    exact hexchange x (hfirst.mem_iff.mpr hx) y (hfirst.mem_iff.mpr hy)

end FallibleFold
