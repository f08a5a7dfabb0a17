import Mathlib.Data.List.Basic

/-!
# Library/Keyed — lists that are searched by a key

A list stands for what its first entry under each key says.  What is found under a key after the
first entry of one key was changed or replaced, after an entry was appended, and after all entries
of a key were removed.  No key needs to occur only once.
-/

namespace Keyed

variable {α κ : Type*} [DecidableEq κ] (key : α → κ)

/-- The first entry under a key. -/
def lookup (k : κ) (entries : List α) : Option α := entries.find? (key · = k)

variable {key} {k : κ} {entries : List α} {i : ℕ} {a b : α}

@[simp] theorem lookup_nil : lookup key k [] = none := rfl

@[simp] theorem lookup_cons :
    lookup key k (a :: entries) = if key a = k then some a else lookup key k entries := by
  rw [lookup, List.find?_cons]
  split_ifs with hkey
  · simp [hkey]
  · simp [hkey, lookup]

theorem key_of_lookup (h : lookup key k entries = some a) : key a = k := by
  simpa using List.find?_some h

/-- Nothing is found under a key that has no place. -/
theorem lookup_eq_none (hi : entries.findIdx? (key · = k) = none) :
    lookup key k entries = none := by
  rw [List.findIdx?_eq_none_iff] at hi
  exact List.find?_eq_none.mpr fun a ha => by simpa using hi a ha

/-- The entry at the place of a key is the one that is found. -/
theorem exists_lookup (hi : entries.findIdx? (key · = k) = some i) :
    ∃ a, lookup key k entries = some a := by
  obtain ⟨hlt, hkey, -⟩ := List.findIdx?_eq_some_iff_getElem.mp hi
  have hsome : (lookup key k entries).isSome :=
    List.find?_isSome.mpr ⟨entries[i], List.getElem_mem hlt, hkey⟩
  exact Option.isSome_iff_exists.mp hsome

/-- The first entry under `k` is changed, and keeps its key. -/
theorem lookup_modify {f : α → α} (hi : entries.findIdx? (key · = k) = some i)
    (hf : ∀ a, key a = k → key (f a) = k) (k' : κ) :
    lookup key k' (entries.modify i f)
      = if k' = k then (lookup key k entries).map f else lookup key k' entries := by
  induction entries generalizing i with
  | nil => exact nomatch hi
  | cons a entries ih =>
    rw [List.findIdx?_cons] at hi
    by_cases hkey : key a = k
    · rw [if_pos (decide_eq_true hkey)] at hi
      obtain rfl := Option.some.inj hi
      rw [List.modify_zero_cons, lookup_cons, lookup_cons, lookup_cons, hf a hkey, if_pos hkey,
        hkey]
      by_cases hk : k' = k
      · rw [if_pos hk.symm, if_pos hk, Option.map_some]
      · rw [if_neg (Ne.symm hk), if_neg hk, if_neg (Ne.symm hk)]
    · rw [if_neg (by simpa using hkey)] at hi
      obtain ⟨j, hj, rfl⟩ := Option.map_eq_some_iff.mp hi
      rw [List.modify_succ_cons, lookup_cons, lookup_cons, lookup_cons, if_neg hkey, ih hj]
      by_cases hk : k' = k
      · rw [if_pos hk, if_pos hk, hk, if_neg hkey]
      · rw [if_neg hk, if_neg hk]

/-- The first entry under its key is replaced. -/
theorem lookup_set (hi : entries.findIdx? (key · = key b) = some i) (k : κ) :
    lookup key k (entries.set i b) = if k = key b then some b else lookup key k entries := by
  obtain ⟨a, ha⟩ := exists_lookup hi
  rw [List.set_eq_modify, lookup_modify hi fun _ _ => rfl, ha, Option.map_some]

/-- An entry is appended under a key that had none. -/
theorem lookup_concat (hi : entries.findIdx? (key · = key b) = none) (k : κ) :
    lookup key k (entries ++ [b]) = if k = key b then some b else lookup key k entries := by
  have hnone := lookup_eq_none hi
  rw [lookup, List.find?_append, ← lookup, ← lookup, lookup_cons, lookup_nil]
  by_cases hk : k = key b
  · rw [if_pos hk, if_pos hk.symm, hk, hnone, Option.none_or]
  · rw [if_neg hk, if_neg (Ne.symm hk), Option.or_none]

/-- All entries under a key are removed. -/
theorem lookup_filter_ne (k k' : κ) (entries : List α) :
    lookup key k' (entries.filter (key · ≠ k))
      = if k' = k then none else lookup key k' entries := by
  induction entries with
  | nil => simp
  | cons a entries ih =>
    rw [List.filter_cons, lookup_cons]
    by_cases hkey : key a = k
    · rw [if_neg (by simpa using hkey), ih, hkey]
      by_cases hk : k' = k
      · rw [if_pos hk, if_pos hk]
      · rw [if_neg hk, if_neg hk, if_neg (Ne.symm hk)]
    · rw [if_pos (by simpa using hkey), lookup_cons, ih]
      by_cases hk : k' = k
      · rw [if_pos hk, if_pos hk, hk, if_neg hkey]
      · rw [if_neg hk, if_neg hk]

end Keyed
