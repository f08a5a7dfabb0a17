import Mathlib.Data.List.GetD

/-!
# Library/StringBuffer — strings in a buffer, by pointer

A pointer is an offset into the buffer.  A text that the program takes apart in place is followed by
splitting the buffer where it writes: what is behind a pointer is read (`strAt_append`), searched
(`strchr_append`) and cut (`set_append`) without a look at what is before it.
-/

namespace StringBuffer

variable {before s t after : List UInt8} {c : UInt8}

/-- The string at a pointer. -/
def strAt (buf : List UInt8) (p : ℕ) : List UInt8 := (buf.drop p).takeWhile (· ≠ 0)

/-- `strchr(p, c)` of a character that is not NUL. -/
def strchr (buf : List UInt8) (p : ℕ) (c : UInt8) : Option ℕ :=
  ((strAt buf p).findIdx? (· = c)).map (p + ·)

/-- `strncpy(dst, src, n)`: NULs fill what the source leaves of `n` bytes. -/
def strncpy (dst src : List UInt8) (n : ℕ) : List UInt8 :=
  src.take n ++ List.replicate (n - src.length) 0 ++ dst.drop n

/-- No byte is NUL. -/
def NulFree (s : List UInt8) : Prop := ∀ b ∈ s, b ≠ 0

theorem nulFree_append : NulFree (s ++ t) ↔ NulFree s ∧ NulFree t := List.forall_mem_append

theorem nulFree_cons : NulFree (c :: s) ↔ c ≠ 0 ∧ NulFree s := List.forall_mem_cons

theorem nulFree_of_notMem (h : 0 ∉ s) : NulFree s := fun _ hb hzero => h (hzero ▸ hb)

theorem nulFree_nil : NulFree [] := nulFree_of_notMem List.not_mem_nil

theorem NulFree.append (hs : NulFree s) (ht : NulFree t) : NulFree (s ++ t) :=
  nulFree_append.mpr ⟨hs, ht⟩

theorem NulFree.cons (hc : c ≠ 0) (hs : NulFree s) : NulFree (c :: s) :=
  nulFree_cons.mpr ⟨hc, hs⟩

/-- The string at a place is what stands there up to the first NUL. -/
theorem strAt_append (hs : NulFree s) : strAt (before ++ (s ++ 0 :: after)) before.length = s := by
  rw [strAt, List.drop_left, List.takeWhile_append_of_pos fun b hb => decide_eq_true (hs b hb),
    List.takeWhile_cons_of_neg (by simp), List.append_nil]

/-- `*p == '\0'` exactly at the end of a string. -/
theorem getD_append_eq_zero (hs : NulFree s) :
    (before ++ (s ++ 0 :: after)).getD before.length 0 = 0 ↔ s = [] := by
  rw [List.getD_append_right _ _ _ _ (Nat.le_refl _), Nat.sub_self]
  cases s with
  | nil => simp
  | cons b s => simp [hs b List.mem_cons_self]

/-- The first separator behind a text without one. -/
theorem strchr_append (hs : NulFree s) (hc : c ≠ 0) (hnot : c ∉ s) :
    strchr (before ++ (s ++ c :: after)) before.length c = some (before.length + s.length) := by
  have htext : ∃ tail, strAt (before ++ (s ++ c :: after)) before.length = s ++ c :: tail := by
    rw [strAt, List.drop_left, List.takeWhile_append_of_pos fun b hb => decide_eq_true (hs b hb),
      List.takeWhile_cons_of_pos (by simpa using hc)]
    exact ⟨_, rfl⟩
  obtain ⟨tail, htail⟩ := htext
  have hnone : s.findIdx? (· = c) = none := by
    rw [List.findIdx?_eq_none_iff]
    exact fun b hb => decide_eq_false fun h => hnot (h ▸ hb)
  rw [strchr, htail, List.findIdx?_append, hnone, List.findIdx?_cons]
  simp

/-- A text without the separator, up to its NUL. -/
theorem strchr_eq_none (hs : NulFree s) (hnot : c ∉ s) :
    strchr (before ++ (s ++ 0 :: after)) before.length c = none := by
  rw [strchr, strAt_append hs, Option.map_eq_none_iff, List.findIdx?_eq_none_iff]
  exact fun b hb => decide_eq_false fun h => hnot (h ▸ hb)

/-- A string is cut where the search has stopped. -/
theorem set_append : (before ++ (s ++ c :: after)).set (before.length + s.length) 0
    = before ++ (s ++ 0 :: after) := by
  rw [List.set_append_right _ _ (Nat.le_add_right _ _), Nat.add_sub_cancel_left,
    List.set_append_right _ _ (Nat.le_refl _), Nat.sub_self, List.set_cons_zero]

end StringBuffer
