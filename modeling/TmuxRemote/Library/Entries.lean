import Mathlib.Data.List.Basic

/-!
# Library/Entries — entries that have the number of their place

A list to which entries are only appended gives each a number that stays its own.  What is found
under a number after one entry has been replaced, changed or made.
-/

namespace Entries

variable {α : Type*} {entries : List α} {i : ℕ} {a : α}

/-- One entry is replaced. -/
theorem getElem?_set (hi : entries[i]? = some a) (b : α) (j : ℕ) :
    (entries.set i b)[j]? = if j = i then some b else entries[j]? := by
  split_ifs with hij
  · rw [hij, List.getElem?_set_self (List.getElem?_eq_some_iff.mp hi).1]
  · rw [List.getElem?_set_ne (Ne.symm hij)]

/-- One entry is changed. -/
theorem getElem?_modify (hi : entries[i]? = some a) (f : α → α) (j : ℕ) :
    (entries.modify i f)[j]? = if j = i then some (f a) else entries[j]? := by
  rw [List.getElem?_modify]
  by_cases hij : j = i
  · simp [hij, hi]
  · simp [hij, Ne.symm hij]

/-- The entry behind the first ones is changed. -/
theorem modify_length (f : α → α) (xs ys : List α) (y : α) :
    (xs ++ y :: ys).modify xs.length f = xs ++ f y :: ys := by
  induction xs with
  | nil => rfl
  | cons x xs ih =>
    rw [List.cons_append, List.length_cons, List.modify_succ_cons, ih, List.cons_append]

/-- An entry is made: it has the next number. -/
theorem getElem?_concat (entries : List α) (b : α) (j : ℕ) :
    (entries ++ [b])[j]? = if j = entries.length then some b else entries[j]? := by
  rw [List.getElem?_append]
  split_ifs with hlt heq heq
  · exact absurd hlt (heq ▸ Nat.lt_irrefl _)
  · rfl
  · rw [heq, Nat.sub_self]
    rfl
  · rw [List.getElem?_eq_none (Nat.not_lt.mp hlt), List.getElem?_eq_none]
    rw [List.length_singleton]
    omega

end Entries
