import Mathlib.Data.Finset.Sort
import Mathlib.Data.List.Nodup

/-!
# Library/Positions — a list less the items at some positions

`without positions l` is `l` with the items at `positions` left out, all positions being those of
`l` itself.  Leaving out one position erases it, and so does leaving out its key where the keys are
distinct.
-/

namespace Positions

variable {α β : Type} [DecidableEq β]

/-- The items at the other positions, in order. -/
def without (positions : Finset ℕ) (l : List α) : List α :=
  (l.zipIdx.filter fun item => item.2 ∉ positions).map Prod.fst

theorem mem_without {positions : Finset ℕ} {l : List α} {a : α} :
    a ∈ without positions l ↔ ∃ i ∉ positions, l[i]? = some a := by
  simp only [without, List.mem_map, List.mem_filter, decide_eq_true_eq, Prod.exists,
    exists_and_right, exists_eq_right, List.mk_mem_zipIdx_iff_getElem?]
  exact exists_congr fun i => and_comm

@[simp] theorem without_empty (l : List α) : without ∅ l = l := by
  simp [without]

theorem map_fst_filter_zipIdx (l : List α) (n i : ℕ) :
    ((l.zipIdx n).filter fun item => item.2 ≠ n + i).map Prod.fst = l.eraseIdx i := by
  induction l generalizing n i with
  | nil => rfl
  | cons a l ih =>
    cases i with
    | zero =>
      have hrest : ∀ item ∈ l.zipIdx (n + 1), item.2 ≠ n := fun item hitem =>
        Nat.ne_of_gt (List.le_snd_of_mem_zipIdx hitem)
      have hkept : (l.zipIdx (n + 1)).filter (fun item => item.2 ≠ n) = l.zipIdx (n + 1) :=
        List.filter_eq_self.mpr fun item hitem => decide_eq_true (hrest item hitem)
      rw [List.zipIdx_cons, List.filter_cons_of_neg (by simp)]
      simpa using congrArg (List.map Prod.fst) hkept
    | succ i =>
      rw [List.zipIdx_cons, List.filter_cons_of_pos (by simp), List.map_cons,
        List.eraseIdx_cons_succ, ← ih (n + 1) i, Nat.add_right_comm n 1 i]
      rfl

/-- What is done to each item is done to those that are left. -/
theorem map_without {γ : Type} (f : α → γ) (positions : Finset ℕ) (l : List α) :
    (without positions l).map f = without positions (l.map f) := by
  rw [without, without, List.zipIdx_map, List.filter_map, List.map_map, List.map_map]
  rfl

theorem without_sublist (positions : Finset ℕ) (l : List α) : (without positions l).Sublist l := by
  have h := (List.filter_sublist (l := l.zipIdx) (p := fun item => item.2 ∉ positions)).map Prod.fst
  rwa [List.zipIdx_map_fst] at h

/-- Leaving out one position erases it. -/
theorem without_singleton (i : ℕ) (l : List α) : without {i} l = l.eraseIdx i := by
  rw [← map_fst_filter_zipIdx l 0 i, without]
  simp

/-- Where the keys are distinct, leaving out the key of an item erases the item. -/
theorem filter_ne_eq_eraseIdx {key : α → β} {l : List α} (hkeys : (l.map key).Nodup) {i : ℕ}
    {a : α} (ha : l[i]? = some a) : (l.filter fun item => key item ≠ key a) = l.eraseIdx i := by
  induction l generalizing i with
  | nil => simp at ha
  | cons b l ih =>
    rw [List.map_cons, List.nodup_cons] at hkeys
    cases i with
    | zero =>
      obtain rfl : b = a := by simpa using ha
      rw [List.filter_cons_of_neg (by simp), List.eraseIdx_cons_zero]
      refine List.filter_eq_self.mpr fun item hitem => decide_eq_true fun heq => hkeys.1 ?_
      exact heq ▸ List.mem_map_of_mem hitem
    | succ i =>
      have hmem : a ∈ l := List.mem_of_getElem? ha
      have hne : key b ≠ key a := fun heq => hkeys.1 (heq ▸ List.mem_map_of_mem hmem)
      rw [List.filter_cons_of_pos (by simpa using hne), List.eraseIdx_cons_succ, ih hkeys.2 ha]

end Positions
