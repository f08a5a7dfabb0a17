import Mathlib.Data.List.Basic

/-!
# Library/Split — text cut at separators
-/

namespace Split

variable {α : Type*} [DecidableEq α]

/-- What is before the first separator, and what is behind it. -/
def cutAt (sep : α) (s : List α) : Option (List α × List α) :=
  if sep ∈ s then some (s.takeWhile (· ≠ sep), (s.dropWhile (· ≠ sep)).tail) else none

/-- The pieces between the separators; there is one more of them. -/
def pieces (sep : α) : List α → List (List α)
  | [] => [[]]
  | c :: s =>
    if c = sep then [] :: pieces sep s
    else
      match pieces sep s with
      | [] => [[c]]
      | piece :: rest => (c :: piece) :: rest

variable {sep : α} {xs ys : List α}

theorem cutAt_append (h : sep ∉ xs) : cutAt sep (xs ++ sep :: ys) = some (xs, ys) := by
  have hne : ∀ c ∈ xs, decide (c ≠ sep) = true := by
    intro c hc
    exact decide_eq_true fun he => h (he ▸ hc)
  have hmem : sep ∈ xs ++ sep :: ys := List.mem_append_right xs List.mem_cons_self
  have htake : (xs ++ sep :: ys).takeWhile (· ≠ sep) = xs := by
    rw [List.takeWhile_append_of_pos hne, List.takeWhile_cons_of_neg (by simp), List.append_nil]
  have hdrop : (xs ++ sep :: ys).dropWhile (· ≠ sep) = sep :: ys := by
    rw [List.dropWhile_append_of_pos hne, List.dropWhile_cons_of_neg (by simp)]
  rw [cutAt, if_pos hmem, htake, hdrop, List.tail_cons]

theorem cutAt_of_notMem (h : sep ∉ xs) : cutAt sep xs = none := if_neg h

theorem pieces_of_notMem (h : sep ∉ xs) : pieces sep xs = [xs] := by
  induction xs with
  | nil => rfl
  | cons c xs ih =>
    have hc : c ≠ sep := fun he => h (he ▸ List.mem_cons_self)
    have hxs : sep ∉ xs := fun hmem => h (List.mem_cons_of_mem c hmem)
    rw [pieces, if_neg hc, ih hxs]

theorem pieces_append (h : sep ∉ xs) : pieces sep (xs ++ sep :: ys) = xs :: pieces sep ys := by
  induction xs with
  | nil => rw [List.nil_append, pieces, if_pos rfl]
  | cons c xs ih =>
    have hc : c ≠ sep := fun he => h (he ▸ List.mem_cons_self)
    have hxs : sep ∉ xs := fun hmem => h (List.mem_cons_of_mem c hmem)
    rw [List.cons_append, pieces, if_neg hc, ih hxs]

/-- A piece has nothing that the text has not. -/
theorem mem_of_mem_pieces {c : α} {piece : List α} (hpiece : piece ∈ pieces sep xs)
    (hc : c ∈ piece) : c ∈ xs := by
  induction xs generalizing piece with
  | nil =>
    obtain rfl : piece = [] := by simpa [pieces] using hpiece
    exact hc
  | cons x xs ih =>
    rw [pieces] at hpiece
    split_ifs at hpiece with hx
    · obtain rfl | hrest := List.mem_cons.mp hpiece
      · exact absurd hc List.not_mem_nil
      · exact List.mem_cons_of_mem x (ih hrest hc)
    · cases hpieces : pieces sep xs with
      | nil =>
        obtain rfl : piece = [x] := by simpa [hpieces] using hpiece
        exact List.mem_singleton.mp hc ▸ List.mem_cons_self
      | cons first rest =>
        rw [hpieces] at hpiece ih
        obtain rfl | hrest := List.mem_cons.mp hpiece
        · obtain rfl | hc := List.mem_cons.mp hc
          · exact List.mem_cons_self
          · exact List.mem_cons_of_mem x (ih List.mem_cons_self hc)
        · exact List.mem_cons_of_mem x (ih (List.mem_cons_of_mem first hrest) hc)

/-- The first piece is a beginning of the text; what is put before the text, without a separator,
lengthens it. -/
theorem exists_pieces_append (h : sep ∉ xs) (ys : List α) :
    ∃ piece rest more, pieces sep ys = piece :: rest ∧ pieces sep (xs ++ ys) = (xs ++ piece) :: rest
      ∧ ys = piece ++ more := by
  by_cases hmem : sep ∈ ys
  · obtain ⟨piece, more, rfl, hpiece⟩ := List.eq_append_cons_of_mem hmem
    have hall : sep ∉ xs ++ piece := by simp [h, hpiece]
    refine ⟨piece, pieces sep more, sep :: more, pieces_append hpiece, ?_, rfl⟩
    rw [← List.append_assoc, pieces_append hall]
  · have hall : sep ∉ xs ++ ys := by simp [h, hmem]
    exact ⟨ys, [], [], pieces_of_notMem hmem, pieces_of_notMem hall, (List.append_nil ys).symm⟩

/-- Lines, each with its separator behind it, are cut into themselves and an empty piece. -/
theorem pieces_flatten {lines : List (List α)} (h : ∀ line ∈ lines, sep ∉ line) :
    pieces sep (lines.map (· ++ [sep])).flatten = lines ++ [[]] := by
  induction lines with
  | nil => rfl
  | cons line lines ih =>
    obtain ⟨hline, hlines⟩ := List.forall_mem_cons.mp h
    rw [List.map_cons, List.flatten_cons, List.append_assoc, List.singleton_append,
      pieces_append hline, ih hlines, List.cons_append]

end Split
