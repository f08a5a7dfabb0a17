import Mathlib.Data.List.Perm.Subperm

/-!
# Library/Numbered — the first entry of each key, and keys that count up from one

A reader that skips an entry whose key it has already met keeps the first entry of each key.  When
the keys are positive numbers, the kept ones are `1 … N` as soon as `1 … N` are among them.
-/

namespace Numbered

variable {α κ : Type*} [DecidableEq κ] {key : α → κ}

/-- The entries whose key no earlier entry has. -/
def firsts (key : α → κ) (entries : List α) : List α :=
  entries.eraseDupsBy fun a b => key a == key b

@[simp] theorem firsts_nil : firsts key [] = [] := rfl

theorem firsts_cons (a : α) (entries : List α) :
    firsts key (a :: entries) = a :: firsts key (entries.filter fun b => key b ≠ key a) := by
  rw [firsts, List.eraseDupsBy_cons, firsts]
  congr 2
  refine List.filter_congr fun b _ => ?_
  by_cases h : key b = key a <;> simp [h]

/-- Keeping the first entry of each key keeps only entries. -/
theorem firsts_subset : ∀ entries : List α, firsts key entries ⊆ entries
  | [] => List.nil_subset _
  | a :: entries => by
      rw [firsts_cons]
      have ih := firsts_subset (entries.filter fun b => key b ≠ key a)
      exact List.cons_subset_cons a fun b hb => List.mem_of_mem_filter (ih hb)
  termination_by entries => entries.length
  decreasing_by exact Nat.lt_succ_of_le (List.length_filter_le _ _)

/-- **No key twice** among the kept entries. -/
theorem nodup_keys_firsts : ∀ entries : List α, ((firsts key entries).map key).Nodup
  | [] => List.nodup_nil
  | a :: entries => by
      rw [firsts_cons, List.map_cons, List.nodup_cons]
      refine ⟨fun h => ?_, nodup_keys_firsts _⟩
      obtain ⟨b, hb, hkey⟩ := List.mem_map.mp h
      have hmem := (List.mem_filter.mp (firsts_subset _ hb)).2
      exact of_decide_eq_true hmem hkey
  termination_by entries => entries.length
  decreasing_by exact Nat.lt_succ_of_le (List.length_filter_le _ _)

/-- Distinct numbers between `1` and `N` are at most `N`. -/
theorem length_le_of_nodup {N : ℕ} {numbers : List ℕ} (hnodup : numbers.Nodup)
    (hrange : ∀ n ∈ numbers, 1 ≤ n ∧ n ≤ N) : numbers.length ≤ N := by
  have hsubset : numbers ⊆ List.range' 1 N := by
    intro n hn
    have := hrange n hn
    exact List.mem_range'_1.mpr (by omega)
  have hlength := (List.subperm_of_subset hnodup hsubset).length_le
  rwa [List.length_range'] at hlength

/-- **Pigeonhole**: a list of `N` numbers that contains `1 … N` contains nothing else. -/
theorem mem_iff_of_range_subset {numbers : List ℕ}
    (hsubset : List.range' 1 numbers.length ⊆ numbers) (n : ℕ) :
    n ∈ numbers ↔ 1 ≤ n ∧ n ≤ numbers.length := by
  have hperm := (List.subperm_of_subset List.nodup_range' hsubset).perm_of_length_le
    (Nat.le_of_eq List.length_range'.symm)
  rw [← hperm.mem_iff, List.mem_range'_1]
  omega

end Numbered
