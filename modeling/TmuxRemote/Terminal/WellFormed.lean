import TmuxRemote.Terminal.State

/-!
# Terminal/WellFormed — the representation invariant of the screen

Whatever bytes are fed and however the screen is resized: the buffer has a cell for every position,
the cursor and the saved cursor are on the screen, every cell holds a character that prints, the CSI
buffer keeps room for its terminator, and the parser is in at most one kind of sequence
(`wellFormed_feed`, `wellFormed_resize`).
-/

namespace TmuxRemote

open CLib

/-- The bytes that are put on the screen: `isprint(ch) || ch >= 0x80`. -/
def isCell (ch : UInt8) : Bool := isPrint ch || ch ≥ 0x80

/-- A buffer of `count` cells. -/
def IsCells (count : ℕ) (cells : List UInt8) : Prop :=
  cells.length = count ∧ ∀ ch ∈ cells, isCell ch

/-- The representation invariant. -/
structure TerminalScreen.WellFormed (s : TerminalScreen) : Prop where
  rows_pos : 0 < s.rows
  cols_pos : 0 < s.cols
  cells : IsCells (s.rows * s.cols) s.cells
  cursorRow_lt : s.cursorRow < s.rows
  cursorCol_lt : s.cursorCol < s.cols
  savedRow_lt : s.savedRow < s.rows
  savedCol_lt : s.savedCol < s.cols
  csiBuf_lt : s.csiBuf.length < csiBufSize
  /-- At most one of the three flags is set. -/
  flags : s.inEscape.toNat + s.inEscapeCharset.toNat + s.inCsi.toNat ≤ 1

theorem clampPos_lt (value : ℤ) {size : ℕ} (h : 0 < size) : clampPos value size < size := by
  rw [clampPos, clampInt]
  split_ifs <;> omega

/-- A position on the screen is where it is clamped to. -/
theorem clampPos_eq_self {pos size : ℕ} (h : pos < size) : clampPos pos size = pos := by
  rw [clampPos, clampInt, if_neg (by omega), if_neg (by omega), Int.toNat_natCast]

/-! ## Cells -/

theorem isCell_blank : isCell blank := by decide

theorem isCells_replicate (count : ℕ) : IsCells count (List.replicate count blank) :=
  ⟨List.length_replicate, fun _ hch => List.eq_of_mem_replicate hch ▸ isCell_blank⟩

theorem IsCells.append {m n : ℕ} {xs ys : List UInt8} (hx : IsCells m xs) (hy : IsCells n ys) :
    IsCells (m + n) (xs ++ ys) := by
  refine ⟨by rw [List.length_append, hx.1, hy.1], fun ch hch => ?_⟩
  exact (List.mem_append.mp hch).elim (hx.2 ch) (hy.2 ch)

theorem IsCells.take {m : ℕ} {cells : List UInt8} (h : IsCells m cells) (n : ℕ) :
    IsCells (min n m) (cells.take n) :=
  ⟨by rw [List.length_take, h.1], fun ch hch => h.2 ch (List.mem_of_mem_take hch)⟩

theorem IsCells.drop {m : ℕ} {cells : List UInt8} (h : IsCells m cells) (n : ℕ) :
    IsCells (m - n) (cells.drop n) :=
  ⟨by rw [List.length_drop, h.1], fun ch hch => h.2 ch (List.mem_of_mem_drop hch)⟩

theorem IsCells.set {m : ℕ} {cells : List UInt8} (h : IsCells m cells) (i : ℕ) {ch : UInt8}
    (hch : isCell ch) : IsCells m (cells.set i ch) :=
  ⟨by rw [List.length_set, h.1], fun b hb =>
    (List.mem_or_eq_of_mem_set hb).elim (h.2 b) fun heq => heq ▸ hch⟩

/-- Blanking a range of the buffer. -/
theorem IsCells.blankCells {m offset count : ℕ} {cells : List UInt8} (h : IsCells m cells)
    (hle : offset + count ≤ m) : IsCells m (blankCells cells offset count) := by
  have hparts := ((h.take offset).append (isCells_replicate count)).append (h.drop (offset + count))
  have hcount : min offset m + count + (m - (offset + count)) = m := by omega
  exact hcount ▸ hparts

/-- Rows of cells one after the other. -/
theorem isCells_flatMap_range {cols : ℕ} {row : ℕ → List UInt8} (rows : ℕ)
    (h : ∀ i, IsCells cols (row i)) : IsCells (rows * cols) ((List.range rows).flatMap row) := by
  induction rows with
  | zero => exact ⟨(Nat.zero_mul cols).symm, fun _ hch => nomatch hch⟩
  | succ rows ih =>
    rw [List.range_succ, List.flatMap_append, List.flatMap_singleton, Nat.succ_mul]
    exact ih.append (h rows)

/-! ## Positions -/

/-- A row of the screen lies inside the buffer. -/
theorem rowOffset_add_le {row rows cols col : ℕ} (hrow : row < rows) (hcol : col ≤ cols) :
    row * cols + col ≤ rows * cols :=
  calc row * cols + col ≤ row * cols + cols := Nat.add_le_add_left hcol _
    _ = (row + 1) * cols := (Nat.succ_mul row cols).symm
    _ ≤ rows * cols := Nat.mul_le_mul_right cols hrow

namespace TerminalScreen

variable {s : TerminalScreen}

namespace WellFormed

/-- New cells on a screen of the same size. -/
theorem withCells (h : s.WellFormed) {cells : List UInt8}
    (hcells : IsCells (s.rows * s.cols) cells) :
    WellFormed { s with cells := cells } :=
  { h with cells := hcells }

/-- The cursor moves on the screen. -/
theorem withCursor (h : s.WellFormed) {row col : ℕ} (hrow : row < s.rows) (hcol : col < s.cols) :
    WellFormed { s with cursorRow := row, cursorCol := col } :=
  { h with cursorRow_lt := hrow, cursorCol_lt := hcol }

theorem clearScreen (h : s.WellFormed) : s.clearScreen.WellFormed :=
  h.withCells (h.cells.blankCells (by omega))

theorem clearLineRange (h : s.WellFormed) (row : ℕ) (colStart colEnd : ℤ) :
    (s.clearLineRange row colStart colEnd).WellFormed := by
  rw [TerminalScreen.clearLineRange]
  split_ifs with hrow
  · exact h
  · dsimp only
    split_ifs
    · exact h
    · refine h.withCells (h.cells.blankCells ?_)
      have hend := clampPos_lt colEnd h.cols_pos
      have hle := @rowOffset_add_le row s.rows s.cols s.cols (by omega) le_rfl
      omega

theorem scrollUp (h : s.WellFormed) : s.scrollUp.WellFormed := by
  rw [TerminalScreen.scrollUp]
  split_ifs with hone
  · exact h
  · refine h.withCells ?_
    have hparts := ((h.cells.drop s.cols).take (s.cols * (s.rows - 1))).append
      (isCells_replicate s.cols)
    obtain ⟨rows, hrows⟩ : ∃ rows, s.rows = rows + 1 := ⟨s.rows - 1, by omega⟩
    have hcount : min (s.cols * (s.rows - 1)) (s.rows * s.cols - s.cols) + s.cols
        = s.rows * s.cols := by
      rw [hrows, Nat.add_sub_cancel, Nat.succ_mul, Nat.add_sub_cancel, Nat.mul_comm, min_self]
    exact hcount ▸ hparts

/-- `advance_line` sets the column first. -/
theorem advanceLine_eq (s : TerminalScreen) :
    { s with cursorCol := 0 }.advanceLine = s.advanceLine := by
  simp only [TerminalScreen.advanceLine, TerminalScreen.scrollUp]
  split_ifs <;> rfl

theorem advanceLine (h : s.WellFormed) : s.advanceLine.WellFormed := by
  have hpos := h.rows_pos
  rw [TerminalScreen.advanceLine]
  split_ifs with hlast
  · have hscroll := h.scrollUp
    have hsize : s.scrollUp.size = s.size := s.size_scrollUp
    obtain ⟨hcols, hrows⟩ := Prod.mk.inj hsize
    exact hscroll.withCursor (by omega) hscroll.cols_pos
  · exact h.withCursor (by omega) h.cols_pos

theorem putChar (h : s.WellFormed) {ch : UInt8} (hch : isCell ch) : (s.putChar ch).WellFormed := by
  simp only [TerminalScreen.putChar, clampPos_eq_self h.cursorRow_lt,
    clampPos_eq_self h.cursorCol_lt]
  have hset := h.withCells (h.cells.set (s.cursorRow * s.cols + s.cursorCol) hch)
  split_ifs with hwrap
  · rw [← advanceLine_eq]
    exact (hset.withCursor h.cursorRow_lt h.cols_pos).advanceLine
  · exact hset.withCursor h.cursorRow_lt (not_le.mp hwrap)

theorem eraseDisplay (h : s.WellFormed) (mode : ℤ) : (s.eraseDisplay mode).WellFormed := by
  have hrows (rows : List ℕ) {t : TerminalScreen} (ht : t.WellFormed) :
      (rows.foldl (fun s row => s.clearLineRange row 0 (s.cols - 1)) t).WellFormed := by
    induction rows generalizing t with
    | nil => exact ht
    | cons row rows ih => exact ih (ht.clearLineRange row _ _)
  rw [TerminalScreen.eraseDisplay]
  split_ifs
  · exact h.clearScreen.withCursor h.rows_pos h.cols_pos
  · exact hrows _ (h.clearLineRange _ _ _)
  · exact h

theorem eraseLine (h : s.WellFormed) (mode : ℤ) : (s.eraseLine mode).WellFormed := by
  rw [TerminalScreen.eraseLine]
  split_ifs
  · exact h.clearLineRange _ _ _
  · exact h.clearLineRange _ _ _
  · exact h.clearLineRange _ _ _
  · exact h

theorem setAltScreen (h : s.WellFormed) (params : CString) (alt : Bool) :
    (s.setAltScreen params alt).WellFormed := by
  rw [TerminalScreen.setAltScreen]
  split_ifs
  · exact { h.clearScreen with cursorRow_lt := h.rows_pos, cursorCol_lt := h.cols_pos }
  · exact h

theorem processCsi (h : s.WellFormed) (params : CString) (final : UInt8) :
    (s.processCsi params final).WellFormed := by
  have hrow (value : ℤ) := clampPos_lt value h.rows_pos
  have hcol (value : ℤ) := clampPos_lt value h.cols_pos
  simp only [TerminalScreen.processCsi]
  split
  · exact h.withCursor (hrow _) h.cursorCol_lt
  · exact h.withCursor (hrow _) h.cursorCol_lt
  · exact h.withCursor h.cursorRow_lt (hcol _)
  · exact h.withCursor h.cursorRow_lt (hcol _)
  · exact h.withCursor h.cursorRow_lt (hcol _)
  · exact h.withCursor (hrow _) h.cursorCol_lt
  · exact h.withCursor (hrow _) (hcol _)
  · exact h.withCursor (hrow _) (hcol _)
  · exact h.eraseDisplay _
  · exact h.eraseLine _
  · exact h.clearLineRange _ _ _
  · exact { h with savedRow_lt := h.cursorRow_lt, savedCol_lt := h.cursorCol_lt }
  · exact h.withCursor (hrow _) (hcol _)
  · exact h.setAltScreen params true
  · exact h.setAltScreen params false
  · exact h

/-- One byte outside any sequence. -/
theorem plainByte (h : s.WellFormed) (hcharset : s.inEscapeCharset = false)
    (hcsi : s.inCsi = false) (ch : UInt8) :
    (s.plainByte ch).WellFormed := by
  simp only [TerminalScreen.plainByte]
  split
  case h_1 => exact { h with flags := by simp [hcharset, hcsi] }
  case h_2 => exact h.withCursor h.cursorRow_lt h.cols_pos
  case h_3 => exact h.advanceLine
  case h_4 => exact h.withCursor h.cursorRow_lt (clampPos_lt _ h.cols_pos)
  case h_5 =>
    split_ifs with htab
    · exact h.advanceLine
    · exact h.withCursor h.cursorRow_lt (not_le.mp htab)
  case h_6 =>
    split_ifs with hprint
    · exact h.putChar hprint
    · exact h

/-- **One byte keeps the invariant.** -/
theorem feedByte (h : s.WellFormed) (ch : UInt8) : (s.feedByte ch).WellFormed := by
  have hflags := h.flags
  rw [TerminalScreen.feedByte]
  split_ifs with hcharset hcsi hfinal hroom hescape hbracket hdesignates
  · exact { h with flags := by simp only [hcharset, Bool.toNat_true, Bool.toNat_false] at *; omega }
  · have hdone := h.processCsi (CString.ofBytes s.csiBuf) ch
    have hdone_flags := hdone.flags
    refine { hdone with csiBuf_lt := Nat.zero_lt_succ _, flags := ?_ }
    simp only [Bool.toNat_false]
    omega
  · refine { h with csiBuf_lt := ?_ }
    rw [List.length_append, List.length_singleton]
    exact hroom
  · exact h
  · refine { h with csiBuf_lt := Nat.zero_lt_succ _, flags := ?_ }
    simp only [hescape, hcharset, hcsi, Bool.toNat_true, Bool.toNat_false] at *
    omega
  · refine { h with flags := ?_ }
    simp only [hescape, hcharset, hcsi, Bool.toNat_true, Bool.toNat_false] at *
    omega
  · refine { h with flags := ?_ }
    simp only [Bool.toNat_false]
    omega
  · exact h.plainByte ((Bool.not_eq_true _).mp hcharset) ((Bool.not_eq_true _).mp hcsi) ch

/-- The cells of a row that is on the screen. -/
theorem isCells_rowCells (h : s.WellFormed) {row : ℕ} (hrow : row < s.rows) :
    IsCells s.cols (s.rowCells row) := by
  have hcells := (h.cells.drop (row * s.cols)).take s.cols
  have hle := rowOffset_add_le hrow (le_refl s.cols)
  have hcount : min s.cols (s.rows * s.cols - row * s.cols) = s.cols := by omega
  exact hcount ▸ hcells

/-- A row of the new screen, as far as the old one had it. -/
theorem isCells_newRow (h : s.WellFormed) (newRows newCols row : ℕ) :
    IsCells newCols (if row < min s.rows newRows then
      (s.rowCells row).take (min s.cols newCols)
        ++ List.replicate (newCols - min s.cols newCols) blank
      else List.replicate newCols blank) := by
  split_ifs with hrow
  · have hparts := ((h.isCells_rowCells (by omega : row < s.rows)).take (min s.cols newCols)).append
      (isCells_replicate (newCols - min s.cols newCols))
    have hcount : min (min s.cols newCols) s.cols + (newCols - min s.cols newCols) = newCols := by
      omega
    rwa [hcount] at hparts
  · exact isCells_replicate newCols

end WellFormed

end TerminalScreen

/-! ## The CSI buffer

Characters, and all that a control sequence does, leave it alone. -/

namespace TerminalScreen

variable {s : TerminalScreen}

@[simp] theorem csiBuf_advanceLine : s.advanceLine.csiBuf = s.csiBuf := by
  simp only [TerminalScreen.advanceLine, TerminalScreen.scrollUp]
  split_ifs <;> rfl

@[simp] theorem csiBuf_putChar (ch : UInt8) : (s.putChar ch).csiBuf = s.csiBuf := by
  simp only [TerminalScreen.putChar]
  split_ifs
  · exact csiBuf_advanceLine
  · rfl

@[simp] theorem csiBuf_plainByte (ch : UInt8) : (s.plainByte ch).csiBuf = s.csiBuf := by
  simp only [TerminalScreen.plainByte]
  split
  case h_3 => exact csiBuf_advanceLine
  case h_5 =>
    split_ifs
    · exact csiBuf_advanceLine
    · rfl
  case h_6 =>
    split_ifs
    · exact csiBuf_putChar ch
    · rfl
  all_goals rfl

@[simp] theorem csiBuf_clearLineRange (row : ℕ) (colStart colEnd : ℤ) :
    (s.clearLineRange row colStart colEnd).csiBuf = s.csiBuf := by
  simp only [TerminalScreen.clearLineRange]
  split_ifs <;> rfl

@[simp] theorem csiBuf_eraseDisplay (mode : ℤ) : (s.eraseDisplay mode).csiBuf = s.csiBuf := by
  have hrows (rows : List ℕ) (t : TerminalScreen) :
      (rows.foldl (fun s row => s.clearLineRange row 0 (s.cols - 1)) t).csiBuf = t.csiBuf := by
    induction rows generalizing t with
    | nil => rfl
    | cons row rows ih => rw [List.foldl_cons, ih, csiBuf_clearLineRange]
  rw [TerminalScreen.eraseDisplay]
  split_ifs
  · rfl
  · rw [hrows, csiBuf_clearLineRange]
  · rfl

@[simp] theorem csiBuf_eraseLine (mode : ℤ) : (s.eraseLine mode).csiBuf = s.csiBuf := by
  rw [TerminalScreen.eraseLine]
  split_ifs
  · exact csiBuf_clearLineRange _ _ _
  · exact csiBuf_clearLineRange _ _ _
  · exact csiBuf_clearLineRange _ _ _
  · rfl

@[simp] theorem csiBuf_eraseChars (count : ℤ) : (s.eraseChars count).csiBuf = s.csiBuf :=
  csiBuf_clearLineRange _ _ _

@[simp] theorem csiBuf_setAltScreen (params : CString) (alt : Bool) :
    (s.setAltScreen params alt).csiBuf = s.csiBuf := by
  rw [TerminalScreen.setAltScreen]
  split_ifs <;> rfl

@[simp] theorem csiBuf_processCsi (params : CString) (final : UInt8) :
    (s.processCsi params final).csiBuf = s.csiBuf := by
  simp only [TerminalScreen.processCsi]
  split <;> first | rfl | simp

end TerminalScreen

/-! ## Feeds and resizes -/

namespace TerminalState

theorem dimension_pos_of_default (value : ℤ) {default : ℕ} (h : 0 < default) :
    0 < dimension value default := by
  rw [dimension]
  split_ifs
  · omega
  · exact h

theorem wellFormed_init (rows cols : ℤ) : (init rows cols).WellFormed where
  rows_pos := dimension_pos_of_default rows (by decide)
  cols_pos := dimension_pos_of_default cols (by decide)
  cells := isCells_replicate _
  cursorRow_lt := dimension_pos_of_default rows (by decide)
  cursorCol_lt := dimension_pos_of_default cols (by decide)
  savedRow_lt := dimension_pos_of_default rows (by decide)
  savedCol_lt := dimension_pos_of_default cols (by decide)
  csiBuf_lt := Nat.zero_lt_succ _
  flags := Nat.zero_le _

variable {s : TerminalState}

theorem wellFormed_feed (h : s.WellFormed) (data : List UInt8) : (s.feed data).WellFormed := by
  rw [feed_toTerminalScreen]
  induction data generalizing s with
  | nil => exact h
  | cons ch data ih =>
    have hhead : TerminalScreen.WellFormed (s.feedByte ch) := h.feedByte ch
    exact @ih { toTerminalScreen := s.feedByte ch, sequence := s.sequence } hhead

theorem wellFormed_resize (h : s.WellFormed) (rows cols : ℤ) : (s.resize rows cols).WellFormed := by
  simp only [TerminalState.resize]
  split_ifs with hsame
  · exact h
  · have hrows := dimension_pos_of_default rows (by decide : 0 < terminalDefaultRows)
    have hcols := dimension_pos_of_default cols (by decide : 0 < terminalDefaultCols)
    exact { h with
      rows_pos := hrows
      cols_pos := hcols
      cells := isCells_flatMap_range _ fun row => h.isCells_newRow _ _ row
      cursorRow_lt := clampPos_lt _ hrows
      cursorCol_lt := clampPos_lt _ hcols
      savedRow_lt := clampPos_lt _ hrows
      savedCol_lt := clampPos_lt _ hcols }

/-- A line of the snapshot holds characters that print, and nothing else. -/
theorem isCell_of_mem_snapshot (h : s.WellFormed) {line : CString}
    (hline : line ∈ s.snapshot.lines) {ch : UInt8} (hch : ch ∈ line.bytes) : isCell ch := by
  obtain ⟨row, hrow, rfl⟩ := List.mem_map.mp hline
  have htaken := (List.takeWhile_subset _) hch
  have hcell : ch ∈ s.rowCells row := (List.rdropWhile_prefix _ _).subset htaken
  exact (h.isCells_rowCells (List.mem_range.mp hrow)).2 ch hcell

end TerminalState

end TmuxRemote
