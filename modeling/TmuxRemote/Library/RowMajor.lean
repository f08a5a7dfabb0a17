import Mathlib.Data.List.Basic
import Mathlib.Order.Lattice

/-!
# Library/RowMajor — a matrix laid out row by row

A buffer of `rows * cols` elements holds a matrix: element `(i, j)` is at offset `i * cols + j`.
What is done to a stretch of the buffer is done to elements of the matrix.  A stretch that lies in
one row is a range of columns of that row (`mem_stretch_iff`), and rows put one after the other are
the matrix with these rows (`cell_flatMap_range`).
-/

namespace RowMajor

variable {α : Type*} {cols i j row col : ℕ}

/-- Element `(i, j)`. -/
def cell (xs : List α) (cols i j : ℕ) : Option α := xs[i * cols + j]?

/-! ## Offsets -/

/-- The rows do not interleave. -/
theorem offset_lt_of_row_lt (hj : j < cols) (h : i < row) : i * cols + j < row * cols + col := by
  have hrows : (i + 1) * cols ≤ row * cols := Nat.mul_le_mul_right cols h
  rw [Nat.succ_mul] at hrows
  omega

/-- **A stretch inside a row** is a range of its columns. -/
theorem mem_stretch_iff {count : ℕ} (hj : j < cols) (hin : col + count ≤ cols) :
    row * cols + col ≤ i * cols + j ∧ i * cols + j < row * cols + col + count
      ↔ i = row ∧ col ≤ j ∧ j < col + count := by
  rcases lt_trichotomy i row with h | rfl | h
  · have hlt : i * cols + j < row * cols + col := offset_lt_of_row_lt hj h
    exact ⟨fun ⟨hge, _⟩ => absurd hge hlt.not_ge, fun ⟨heq, _⟩ => absurd heq h.ne⟩
  · exact ⟨fun ⟨hge, hlt⟩ => ⟨rfl, by omega, by omega⟩, by omega⟩
  · have hrows : (row + 1) * cols ≤ i * cols := Nat.mul_le_mul_right cols h
    rw [Nat.succ_mul] at hrows
    exact ⟨fun ⟨_, hlt⟩ => absurd hlt (by omega), fun ⟨heq, _⟩ => absurd heq h.ne'⟩

/-! ## Rows one after the other -/

/-- **Rows put one after the other.** -/
theorem cell_flatMap_range {rows : ℕ} {newRow : ℕ → List α}
    (hlength : ∀ i < rows, (newRow i).length = cols) (hi : i < rows) (hj : j < cols) :
    cell ((List.range rows).flatMap newRow) cols i j = (newRow i)[j]? := by
  have hall : ∀ count ≤ rows, ((List.range count).flatMap newRow).length = count * cols := by
    intro count hcount
    induction count with
    | zero => exact (Nat.zero_mul cols).symm
    | succ count ih =>
      rw [List.range_succ, List.flatMap_append, List.flatMap_singleton, List.length_append,
        ih (by omega), hlength count hcount, Nat.succ_mul]
  obtain ⟨rest, rfl⟩ : ∃ rest, rows = i + 1 + rest := ⟨rows - (i + 1), by omega⟩
  have hbefore := hall i (by omega)
  have hupTo := hall (i + 1) (by omega)
  rw [cell, List.range_add, List.flatMap_append, List.getElem?_append_left]
  · rw [List.range_succ, List.flatMap_append, List.flatMap_singleton,
      List.getElem?_append_right (by omega), hbefore, Nat.add_sub_cancel_left]
  · rw [hupTo, Nat.succ_mul]
    omega

end RowMajor
