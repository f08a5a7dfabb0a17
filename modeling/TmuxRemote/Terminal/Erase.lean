import TmuxRemote.Library.RowMajor
import TmuxRemote.Terminal.Scrolling

/-!
# Terminal/Erase — erasing and resizing, cell by cell

The screen is the matrix that `cell_ptr` addresses.  `CSI J`, `CSI K` and `CSI X` blank the cells of
a region and touch nothing else (`Erases`), and a resize keeps the cells that both screens have
(`Resizes`), although all of them work on stretches of a flat buffer whose stride a resize changes
(`erase_resize_pointwise`).
-/

namespace TmuxRemote

open CLib RowMajor

namespace TerminalScreen

/-- `cell_ptr` -/
def cellPtr (s : TerminalScreen) (row col : ℕ) : Option UInt8 := cell s.cells s.cols row col

/-- From `s` to `t` the cells of a region are blanked, and nothing else changes. -/
structure Erases (s t : TerminalScreen) (region : ℕ → ℕ → Prop) : Prop where
  frame : t = { s with cells := t.cells }
  blanked : ∀ i < s.rows, ∀ j < s.cols, region i j → t.cellPtr i j = some blank
  kept : ∀ i < s.rows, ∀ j < s.cols, ¬ region i j → t.cellPtr i j = s.cellPtr i j

/-! ## Regions -/

/-- The cells at or after the cursor in reading order. -/
def AtOrAfterCursor (s : TerminalScreen) (i j : ℕ) : Prop :=
  s.cursorRow < i ∨ i = s.cursorRow ∧ s.cursorCol ≤ j

/-- A range of columns of the cursor's row. -/
def OnCursorRow (s : TerminalScreen) (columns : ℕ → Prop) (i j : ℕ) : Prop :=
  i = s.cursorRow ∧ columns j

section
variable {s t u : TerminalScreen} {region region' : ℕ → ℕ → Prop}

theorem Erases.refl (s : TerminalScreen) (hempty : ∀ i < s.rows, ∀ j < s.cols, ¬ region i j) :
    s.Erases s region :=
  ⟨rfl, fun i hi j hj h => absurd h (hempty i hi j hj), fun _ _ _ _ _ => rfl⟩

/-- Only the cells that are on the screen matter. -/
theorem Erases.congr (h : s.Erases t region)
    (hiff : ∀ i < s.rows, ∀ j < s.cols, (region i j ↔ region' i j)) : s.Erases t region' :=
  ⟨h.frame, fun i hi j hj hr => h.blanked i hi j hj ((hiff i hi j hj).mpr hr),
    fun i hi j hj hr => h.kept i hi j hj (mt (hiff i hi j hj).mp hr)⟩

theorem Erases.rows_eq (h : s.Erases t region) : t.rows = s.rows := by rw [h.frame]

theorem Erases.cols_eq (h : s.Erases t region) : t.cols = s.cols := by rw [h.frame]

/-- Erasing twice erases both regions. -/
theorem Erases.trans (h : s.Erases t region) (h' : t.Erases u region') :
    s.Erases u fun i j => region i j ∨ region' i j := by
  have hrows := h.rows_eq
  have hcols := h.cols_eq
  refine ⟨?_, fun i hi j hj hr => ?_, fun i hi j hj hr => ?_⟩
  · rw [h'.frame, h.frame]
  · by_cases hlater : region' i j
    · exact h'.blanked i (hrows ▸ hi) j (hcols ▸ hj) hlater
    · rw [h'.kept i (hrows ▸ hi) j (hcols ▸ hj) hlater]
      exact h.blanked i hi j hj (hr.resolve_right hlater)
  · obtain ⟨hnot, hnot'⟩ := not_or.mp hr
    rw [h'.kept i (hrows ▸ hi) j (hcols ▸ hj) hnot', h.kept i hi j hj hnot]

end

/-! ## One stretch of the buffer -/

theorem getElem?_blankCells {cells : List UInt8} {offset count k : ℕ}
    (hin : offset + count ≤ cells.length) :
    (blankCells cells offset count)[k]? =
      if offset ≤ k ∧ k < offset + count then some blank else cells[k]? := by
  have hhead : (cells.take offset).length = offset := by
    rw [List.length_take]
    omega
  rw [blankCells, List.append_assoc]
  rcases Nat.lt_or_ge k offset with hbefore | hafter
  · rw [if_neg (by omega), List.getElem?_append_left (by omega), List.getElem?_take_of_lt hbefore]
  · rw [List.getElem?_append_right (by omega), hhead]
    rcases Nat.lt_or_ge (k - offset) count with hinside | hbehind
    · rw [if_pos (by omega), List.getElem?_append_left (by rwa [List.length_replicate]),
        List.getElem?_replicate_of_lt hinside]
    · have hpos : offset + count + (k - offset - count) = k := by omega
      rw [if_neg (by omega), List.getElem?_append_right (by rwa [List.length_replicate]),
        List.length_replicate, List.getElem?_drop, hpos]

section
variable {s : TerminalScreen}

/-- **`clear_line_range`** blanks the columns between its ends, which it clamps. -/
theorem WellFormed.erases_clearLineRange (h : s.WellFormed) {row : ℕ} (hrow : row < s.rows)
    (colStart colEnd : ℤ) :
    s.Erases (s.clearLineRange row colStart colEnd) fun i j =>
      i = row ∧ clampPos colStart s.cols ≤ j ∧ j ≤ clampPos colEnd s.cols := by
  have hend := clampPos_lt colEnd h.cols_pos
  rw [TerminalScreen.clearLineRange, if_neg (by omega)]
  dsimp only
  split_ifs with hempty
  · exact .refl s fun i _ j _ hinside => by omega
  · have hin : row * s.cols + clampPos colStart s.cols
        + (clampPos colEnd s.cols - clampPos colStart s.cols + 1) ≤ s.cells.length := by
      have hle := rowOffset_add_le hrow (le_refl s.cols)
      rw [h.length_cells]
      omega
    have hcell {i j : ℕ} (hj : j < s.cols) :=
      @mem_stretch_iff s.cols i j row _ _ hj (show clampPos colStart s.cols
        + (clampPos colEnd s.cols - clampPos colStart s.cols + 1) ≤ s.cols by omega)
    refine ⟨rfl, fun i _ j hj hinside => ?_, fun i _ j hj hout => ?_⟩
    · obtain ⟨heq, hge, hle⟩ := hinside
      change (blankCells _ _ _)[i * s.cols + j]? = _
      rw [getElem?_blankCells hin, if_pos ((hcell hj).mpr ⟨heq, hge, by omega⟩)]
    · change (blankCells _ _ _)[i * s.cols + j]? = _
      rw [getElem?_blankCells hin, if_neg fun hmem => ?_]
      · rfl
      · obtain ⟨heq, hge, hlt⟩ := (hcell hj).mp hmem
        exact hout ⟨heq, hge, by omega⟩

theorem clampPos_zero (size : ℕ) : clampPos 0 size = 0 := by
  rw [clampPos, clampInt]
  split_ifs <;> omega

/-- The last column. -/
theorem WellFormed.clampPos_last (h : s.WellFormed) :
    clampPos (s.cols - 1) s.cols = s.cols - 1 := by
  have hpos := h.cols_pos
  have hcast : ((s.cols : ℤ) - 1) = ((s.cols - 1 : ℕ) : ℤ) := by omega
  rw [hcast, clampPos_eq_self (by omega)]

/-- Whole rows, one after the other. -/
theorem WellFormed.erases_rows (h : s.WellFormed) (first count : ℕ)
    (hin : first + count ≤ s.rows) :
    s.Erases ((List.range' first count).foldl
        (fun s row => s.clearLineRange row 0 (s.cols - 1)) s)
      fun i _ => first ≤ i ∧ i < first + count := by
  induction count generalizing s first with
  | zero => exact .refl s fun i _ _ _ hmem => by omega
  | succ count ih =>
    have hrow := h.erases_clearLineRange (show first < s.rows by omega) 0 (s.cols - 1)
    have hnext := h.clearLineRange first 0 (s.cols - 1)
    have hrest := ih hnext (first + 1) (by rw [hrow.rows_eq]; omega)
    rw [List.range'_succ, List.foldl_cons]
    refine (hrow.trans hrest).congr fun i hi j hj => ?_
    rw [clampPos_zero, h.clampPos_last]
    omega

/-! ## The control sequences -/

/-- **`CSI J`** -/
theorem WellFormed.erases_eraseDisplay (h : s.WellFormed) :
    s.Erases (s.eraseDisplay 0) s.AtOrAfterCursor := by
  have hcursor := h.cursorRow_lt
  have hline := h.erases_clearLineRange hcursor s.cursorCol (s.cols - 1)
  have hnext := h.clearLineRange s.cursorRow s.cursorCol (s.cols - 1)
  have hrows := hnext.erases_rows (s.cursorRow + 1) (s.rows - (s.cursorRow + 1))
    (by rw [hline.rows_eq]; omega)
  rw [TerminalScreen.eraseDisplay, if_neg (by decide), if_pos rfl]
  refine (hline.trans hrows).congr fun i hi j hj => ?_
  rw [clampPos_eq_self h.cursorCol_lt, h.clampPos_last, AtOrAfterCursor]
  omega

/-- **`CSI K`** -/
theorem WellFormed.erases_eraseLine (h : s.WellFormed) :
    s.Erases (s.eraseLine 0) (s.OnCursorRow (s.cursorCol ≤ ·))
      ∧ s.Erases (s.eraseLine 1) (s.OnCursorRow (· ≤ s.cursorCol))
      ∧ s.Erases (s.eraseLine 2) (s.OnCursorRow fun _ => True) := by
  have hcursor := clampPos_eq_self h.cursorCol_lt
  have hline := h.erases_clearLineRange h.cursorRow_lt
  refine ⟨(hline s.cursorCol (s.cols - 1)).congr fun i _ j hj => ?_,
    (hline 0 s.cursorCol).congr fun i _ j hj => ?_,
    (hline 0 (s.cols - 1)).congr fun i _ j hj => ?_⟩
  · rw [hcursor, h.clampPos_last, OnCursorRow]
    omega
  · rw [hcursor, clampPos_zero, OnCursorRow]
    omega
  · rw [clampPos_zero, h.clampPos_last]
    exact ⟨fun ⟨hi, _⟩ => ⟨hi, trivial⟩, fun ⟨hi, _⟩ => ⟨hi, Nat.zero_le j, by omega⟩⟩

/-- **`CSI X`**: the end is clamped twice, first by the sequence and then by `clear_line_range`. -/
theorem WellFormed.erases_eraseChars (h : s.WellFormed) (n : ℤ) :
    s.Erases (s.eraseChars n)
      (s.OnCursorRow fun j => s.cursorCol ≤ j ∧ j < min (s.cursorCol + max n 1) (s.cols : ℤ)) := by
  refine (h.erases_clearLineRange h.cursorRow_lt s.cursorCol _).congr fun i _ j hj => ?_
  rw [clampPos_eq_self h.cursorCol_lt, OnCursorRow, clampPos, clampInt, clampInt]
  split_ifs <;> omega

end

end TerminalScreen

/-! ## Resizing -/

namespace TerminalState

open TerminalScreen

/-- From `s` to `t` the screen gets another size: the cells that both have are kept, the others are
blank, and the cursor and the saved cursor are moved onto the screen. -/
structure Resizes (s t : TerminalState) (rows cols : ℕ) : Prop where
  frame : t = { s with
    rows := rows
    cols := cols
    cells := t.cells
    cursorRow := min s.cursorRow (rows - 1)
    cursorCol := min s.cursorCol (cols - 1)
    savedRow := min s.savedRow (rows - 1)
    savedCol := min s.savedCol (cols - 1)
    sequence := t.sequence }
  kept : ∀ i < min s.rows rows, ∀ j < min s.cols cols, t.cellPtr i j = s.cellPtr i j
  blanked : ∀ i < rows, ∀ j < cols, ¬ (i < s.rows ∧ j < s.cols) → t.cellPtr i j = some blank

theorem clampPos_eq_min (pos : ℕ) {size : ℕ} (h : 0 < size) :
    clampPos pos size = min pos (size - 1) := by
  rw [clampPos, clampInt]
  split_ifs <;> omega

/-- **A resize copies the rows of the overlap.** -/
theorem resizes_resize {s : TerminalState} (h : s.WellFormed) (rows cols : ℤ) :
    s.Resizes (s.resize rows cols) (dimension rows terminalDefaultRows)
      (dimension cols terminalDefaultCols) := by
  have hrows := dimension_pos_of_default rows (show 0 < terminalDefaultRows by decide)
  have hcols := dimension_pos_of_default cols (show 0 < terminalDefaultCols by decide)
  rw [resize]
  generalize dimension rows terminalDefaultRows = newRows at hrows ⊢
  generalize dimension cols terminalDefaultCols = newCols at hcols ⊢
  dsimp only
  split_ifs with hsame
  · obtain ⟨rfl, rfl⟩ := hsame
    have hclamp {pos size : ℕ} (hpos : pos < size) : min pos (size - 1) = pos := by omega
    refine ⟨?_, fun _ _ _ _ => rfl, fun i hi j hj hout => absurd ⟨hi, hj⟩ hout⟩
    rw [hclamp h.cursorRow_lt, hclamp h.cursorCol_lt, hclamp h.savedRow_lt, hclamp h.savedCol_lt]
  · have hcell {i j : ℕ} (hi : i < newRows) (hj : j < newCols) :=
      cell_flatMap_range (fun i _ => (h.isCells_newRow newRows newCols i).1) hi hj
    refine ⟨?_, fun i hi j hj => ?_, fun i hi j hj hout => ?_⟩
    · rw [clampPos_eq_min _ hrows, clampPos_eq_min _ hcols, clampPos_eq_min _ hrows,
        clampPos_eq_min _ hcols]
    · have hrow := h.length_rowCells (show i < s.rows by omega)
      rw [TerminalScreen.cellPtr]
      dsimp only
      rw [hcell (by omega) (by omega), if_pos hi,
        List.getElem?_append_left (by rw [List.length_take]; omega),
        List.getElem?_take_of_lt hj,
        TerminalScreen.getElem?_rowCells s.toTerminalScreen i (by omega)]
      rfl
    · rw [TerminalScreen.cellPtr]
      dsimp only
      rw [hcell hi hj]
      split_ifs with hrow
      · have hlength : ((s.rowCells i).take (min s.cols newCols)).length = min s.cols newCols := by
          rw [List.length_take, h.length_rowCells (by omega)]
          omega
        rw [List.getElem?_append_right (by omega), hlength,
          List.getElem?_replicate_of_lt (by omega)]
      · rw [List.getElem?_replicate_of_lt hj]

/-! ## Every screen -/

/-- **Erasing and resizing, cell by cell**, on every screen and for every parameter. -/
theorem erase_resize_pointwise {s : TerminalState} (h : s.Reachable) :
    (∀ params, getParam params 0 0 = 0 → s.Erases (s.processCsi params 0x4A) s.AtOrAfterCursor)
      ∧ (∀ params, getParam params 0 0 = 0 →
        s.Erases (s.processCsi params 0x4B) (s.OnCursorRow (s.cursorCol ≤ ·)))
      ∧ (∀ params, getParam params 0 0 = 1 →
        s.Erases (s.processCsi params 0x4B) (s.OnCursorRow (· ≤ s.cursorCol)))
      ∧ (∀ params, getParam params 0 0 = 2 →
        s.Erases (s.processCsi params 0x4B) (s.OnCursorRow fun _ => True))
      ∧ (∀ params, s.Erases (s.processCsi params 0x58)
        (s.OnCursorRow fun j => s.cursorCol ≤ j
          ∧ j < min (s.cursorCol + max (getParam params 0 1) 1) (s.cols : ℤ)))
      ∧ ∀ rows cols, s.Resizes (s.resize rows cols) (dimension rows terminalDefaultRows)
        (dimension cols terminalDefaultCols) := by
  have hwf := h.wellFormed
  obtain ⟨hend, hstart, hline⟩ := hwf.erases_eraseLine
  refine ⟨fun params hmode => ?_, fun params hmode => ?_, fun params hmode => ?_,
    fun params hmode => ?_, fun params => ?_, resizes_resize hwf⟩
  · change s.Erases (s.eraseDisplay (getParam params 0 0)) _
    rw [hmode]
    exact hwf.erases_eraseDisplay
  · change s.Erases (s.eraseLine (getParam params 0 0)) _
    rwa [hmode]
  · change s.Erases (s.eraseLine (getParam params 0 0)) _
    rwa [hmode]
  · change s.Erases (s.eraseLine (getParam params 0 0)) _
    rwa [hmode]
  · exact hwf.erases_eraseChars _

/-- Two rows with a letter each: erasing from the first cell on takes the second row with it, and a
screen of one column keeps the letters. -/
theorem erase_resize_pointwise_letters :
    lettersAtHome.Reachable
      ∧ (lettersAtHome.processCsi (CString.ofBytes []) 0x4A).cellPtr 1 0 = some blank
      ∧ (lettersAtHome.resize 2 1).cellPtr 1 0 = some 0x62 := by
  obtain ⟨hdisplay, -, -, -, -, hresize⟩ := erase_resize_pointwise reachable_lettersAtHome
  refine ⟨reachable_lettersAtHome, ?_, ?_⟩
  · exact (hdisplay _ (by decide)).blanked 1 (by decide +kernel) 0 (by decide +kernel)
      (.inl (by decide +kernel))
  · rw [(hresize 2 1).kept 1 (by decide +kernel) 0 (by decide +kernel)]
    decide +kernel

end TerminalState

end TmuxRemote
