import TmuxRemote.Library.Sheet
import TmuxRemote.Terminal.WellFormed

/-!
# Terminal/Scrolling — the next line (`advance_line`, `scroll_up`)

A line feed, a tab behind the last stop and a character in the last column all go to the next line
through `advance_line`.  Below the last row of a screen that has more than one, everything moves up
by a row (`feedByte_nextLine`).  Such a screen is a window on an endless sheet (`Shows`): characters
and line feeds are what they are on the sheet.  A screen of one row does not scroll, and is printed
over.
-/

namespace TmuxRemote

open CLib

namespace TerminalScreen

/-! ## Rows -/

section
variable {s : TerminalScreen}

theorem WellFormed.length_cells (h : s.WellFormed) : s.cells.length = s.rows * s.cols := h.cells.1

theorem getElem?_rowCells (s : TerminalScreen) (row : ℕ) {col : ℕ} (hcol : col < s.cols) :
    (s.rowCells row)[col]? = s.cells[row * s.cols + col]? := by
  rw [rowCells, List.getElem?_take_of_lt hcol, List.getElem?_drop]

theorem WellFormed.length_rowCells (h : s.WellFormed) {row : ℕ} (hrow : row < s.rows) :
    (s.rowCells row).length = s.cols := (h.isCells_rowCells hrow).1

/-- A row is known by its cells. -/
theorem rowCells_eq {t : TerminalScreen} (hs : s.WellFormed) (ht : t.WellFormed)
    (hcols : t.cols = s.cols)
    {row row' : ℕ} (hrow : row < s.rows) (hrow' : row' < t.rows)
    (hcells : ∀ col < s.cols, s.cells[row * s.cols + col]? = t.cells[row' * s.cols + col]?) :
    s.rowCells row = t.rowCells row' := by
  refine List.ext_getElem? fun col => ?_
  by_cases hcol : col < s.cols
  · rw [getElem?_rowCells s row hcol, getElem?_rowCells t row' (hcols ▸ hcol), hcells col hcol,
      hcols]
  · rw [List.getElem?_eq_none (by rw [hs.length_rowCells hrow]; omega),
      List.getElem?_eq_none (by rw [ht.length_rowCells hrow', hcols]; omega)]

/-! ## Scrolling -/

theorem WellFormed.cells_scrollUp (h : s.WellFormed) (hrows : 2 ≤ s.rows) {k : ℕ}
    (hk : k < s.rows * s.cols) :
    s.scrollUp.cells[k]?
      = if k + s.cols < s.rows * s.cols then s.cells[k + s.cols]? else some blank := by
  have hsub : s.cols * (s.rows - 1) + s.cols = s.rows * s.cols := by
    obtain ⟨rows, hpred⟩ : ∃ rows, s.rows = rows + 1 := ⟨s.rows - 1, by omega⟩
    rw [hpred, Nat.add_sub_cancel, Nat.succ_mul, Nat.mul_comm]
  have hlength : ((s.cells.drop s.cols).take (s.cols * (s.rows - 1))).length
      = s.cols * (s.rows - 1) := by
    rw [List.length_take, List.length_drop, h.length_cells]
    omega
  rw [TerminalScreen.scrollUp, if_neg (by omega), List.getElem?_append, hlength]
  by_cases hkept : k < s.cols * (s.rows - 1)
  · rw [if_pos hkept, if_pos (by omega), List.getElem?_take_of_lt hkept, List.getElem?_drop,
      Nat.add_comm]
  · rw [if_neg hkept, if_neg (by omega), List.getElem?_replicate_of_lt (by omega)]

@[simp] theorem rows_scrollUp (s : TerminalScreen) : s.scrollUp.rows = s.rows :=
  congrArg Prod.snd s.size_scrollUp

@[simp] theorem cols_scrollUp (s : TerminalScreen) : s.scrollUp.cols = s.cols :=
  congrArg Prod.fst s.size_scrollUp

/-- **All rows move up by one.** -/
theorem WellFormed.rowCells_scrollUp (h : s.WellFormed) {row : ℕ} (hrow : row + 1 < s.rows) :
    s.scrollUp.rowCells row = s.rowCells (row + 1) := by
  refine rowCells_eq h.scrollUp h s.cols_scrollUp.symm (by rw [rows_scrollUp]; omega) hrow
    fun col hcol => ?_
  rw [cols_scrollUp] at hcol ⊢
  have hnext := rowOffset_add_le hrow hcol
  rw [Nat.succ_mul] at hnext ⊢
  rw [h.cells_scrollUp (by omega) (by omega), if_pos (by omega)]
  congr 1
  omega

/-- **The last row is blank.** -/
theorem WellFormed.rowCells_scrollUp_last (h : s.WellFormed) (hrows : 2 ≤ s.rows) :
    s.scrollUp.rowCells (s.rows - 1) = List.replicate s.cols blank := by
  refine List.ext_getElem? fun col => ?_
  have hlast : (s.rows - 1) * s.cols + s.cols = s.rows * s.cols := by
    rw [← Nat.succ_mul, Nat.succ_eq_add_one, Nat.sub_add_cancel (by omega)]
  by_cases hcol : col < s.cols
  · rw [getElem?_rowCells _ _ (by rwa [cols_scrollUp]), cols_scrollUp,
      h.cells_scrollUp hrows (by omega), if_neg (by omega), List.getElem?_replicate_of_lt hcol]
  · have hrow : s.rows - 1 < s.scrollUp.rows := by
      rw [rows_scrollUp]
      omega
    have hlength := h.scrollUp.length_rowCells hrow
    rw [cols_scrollUp] at hlength
    rw [List.getElem?_eq_none (by omega), List.getElem?_eq_none]
    rw [List.length_replicate]
    omega

end

/-! ## The bytes that go to the next line -/

/-- No sequence is in progress. -/
structure Idle (s : TerminalScreen) : Prop where
  inEscape : s.inEscape = false
  inEscapeCharset : s.inEscapeCharset = false
  inCsi : s.inCsi = false

instance (s : TerminalScreen) : Decidable s.Idle :=
  decidable_of_iff (s.inEscape = false ∧ s.inEscapeCharset = false ∧ s.inCsi = false)
    ⟨fun ⟨h₁, h₂, h₃⟩ => ⟨h₁, h₂, h₃⟩, fun h => ⟨h.inEscape, h.inEscapeCharset, h.inCsi⟩⟩

/-- The screen with a character at the cursor. -/
def stored (s : TerminalScreen) (ch : UInt8) : TerminalScreen :=
  { s with cells := s.cells.set (s.cursorRow * s.cols + s.cursorCol) ch }

/-- A byte that goes to the next line, and the screen that it goes there from. -/
inductive NextLine (s : TerminalScreen) : UInt8 → TerminalScreen → Prop
  | lineFeed : NextLine s 0x0A s
  | tab : s.cols ≤ (s.cursorCol / 8 + 1) * 8 → NextLine s 0x09 s
  | wrap {ch : UInt8} : isCell ch → s.cursorCol + 1 = s.cols → NextLine s ch (s.stored ch)

section
variable {s : TerminalScreen}

theorem Idle.feedByte (h : s.Idle) (ch : UInt8) : s.feedByte ch = s.plainByte ch := by
  rw [TerminalScreen.feedByte, h.inEscape, h.inEscapeCharset, h.inCsi]
  rfl

theorem toNat_ne_of_isCell {ch : UInt8} (h : isCell ch) :
    ch.toNat ≠ 0x1B ∧ ch.toNat ≠ 0x0D ∧ ch.toNat ≠ 0x0A ∧ ch.toNat ≠ 0x08 ∧ ch.toNat ≠ 0x09 := by
  simp only [isCell, isPrint, Bool.or_eq_true, Bool.and_eq_true, decide_eq_true_eq, ge_iff_le,
    UInt8.le_iff_toNat_le, UInt8.reduceToNat] at h
  omega

theorem plainByte_of_isCell {ch : UInt8} (h : isCell ch) (s : TerminalScreen) :
    s.plainByte ch = s.putChar ch := by
  obtain ⟨h₁, h₂, h₃, h₄, h₅⟩ := toNat_ne_of_isCell h
  unfold plainByte
  split
  case h_6 => exact if_pos h
  all_goals contradiction

theorem plainByte_lineFeed (s : TerminalScreen) : s.plainByte 0x0A = s.advanceLine := rfl

theorem WellFormed.stored (h : s.WellFormed) {ch : UInt8} (hch : isCell ch) :
    (s.stored ch).WellFormed :=
  h.withCells (h.cells.set _ hch)

/-- `put_char`, the cursor being on the screen. -/
theorem WellFormed.putChar_eq (h : s.WellFormed) (ch : UInt8) :
    s.putChar ch =
      if s.cursorCol + 1 < s.cols then { s.stored ch with cursorCol := s.cursorCol + 1 }
      else (s.stored ch).advanceLine := by
  simp only [TerminalScreen.putChar, clampPos_eq_self h.cursorRow_lt,
    clampPos_eq_self h.cursorCol_lt]
  by_cases hwrap : s.cursorCol + 1 < s.cols
  · rw [if_neg (Nat.not_le.mpr hwrap), if_pos hwrap]
    rfl
  · rw [if_pos (Nat.not_lt.mp hwrap), if_neg hwrap, ← WellFormed.advanceLine_eq,
      ← WellFormed.advanceLine_eq (s.stored ch)]
    rfl

/-- Each of them is an `advance_line`. -/
theorem NextLine.feedByte {ch : UInt8} {t : TerminalScreen} (hs : s.WellFormed) (hidle : s.Idle)
    (h : s.NextLine ch t) : s.feedByte ch = t.advanceLine := by
  rw [hidle.feedByte]
  cases h with
  | lineFeed => rfl
  | tab htab => exact if_pos htab
  | wrap hch hwrap => rw [plainByte_of_isCell hch, hs.putChar_eq, if_neg (by omega)]

theorem NextLine.wellFormed {ch : UInt8} {t : TerminalScreen} (hs : s.WellFormed)
    (h : s.NextLine ch t) : t.WellFormed := by
  cases h with
  | lineFeed => exact hs
  | tab => exact hs
  | wrap hch => exact hs.stored hch

end

/-- What going to the next line makes of a screen: on the last row all rows move up by one. -/
structure NextLineOf (t s' : TerminalScreen) : Prop where
  size : s'.size = t.size
  cursorCol : s'.cursorCol = 0
  onLast : t.cursorRow + 1 = t.rows → s'.cursorRow = t.rows - 1
    ∧ (∀ row, row + 1 < t.rows → s'.rowCells row = t.rowCells (row + 1))
    ∧ s'.rowCells (t.rows - 1) = List.replicate t.cols blank
  above : t.cursorRow + 1 < t.rows → s'.cursorRow = t.cursorRow + 1 ∧ s'.cells = t.cells

theorem WellFormed.nextLineOf {t : TerminalScreen} (h : t.WellFormed) (hrows : 2 ≤ t.rows) :
    NextLineOf t t.advanceLine where
  size := t.size_advanceLine
  cursorCol := by
    rw [TerminalScreen.advanceLine]
    split_ifs <;> rfl
  onLast := fun hlast => by
    rw [TerminalScreen.advanceLine, if_pos (by omega)]
    exact ⟨rfl, fun row hrow => h.rowCells_scrollUp hrow, h.rowCells_scrollUp_last hrows⟩
  above := fun habove => by
    rw [TerminalScreen.advanceLine, if_neg (by omega)]
    exact ⟨rfl, rfl⟩

/-! ## The screen as a window on a sheet -/

/-- The screen shows the last rows of a sheet, the cursor being where the head is. -/
structure Shows (s : TerminalScreen) (t : Sheet UInt8) : Prop where
  wellFormed : s.WellFormed
  rows_le : 2 ≤ s.rows
  cells : ∀ {k}, k < s.rows * s.cols →
    s.cells[k]? = some (t.look (t.scrolled s.cols s.rows * s.cols + k))
  cursor : t.pos = (t.scrolled s.cols s.rows + s.cursorRow) * s.cols + s.cursorCol
  /-- What is below the window is blank. -/
  below : ∀ {k}, (t.scrolled s.cols s.rows + s.rows) * s.cols ≤ k → t.look k = blank

/-- The sheet of a screen, which continues below in blanks. -/
def sheet (s : TerminalScreen) : Sheet UInt8 where
  look := fun k => s.cells[k]?.getD blank
  pos := s.cursorRow * s.cols + s.cursorCol

@[simp] theorem sheet_look (s : TerminalScreen) (k : ℕ) :
    s.sheet.look k = s.cells[k]?.getD blank := rfl

@[simp] theorem rows_advanceLine (s : TerminalScreen) : s.advanceLine.rows = s.rows :=
  congrArg Prod.snd s.size_advanceLine

@[simp] theorem cols_advanceLine (s : TerminalScreen) : s.advanceLine.cols = s.cols :=
  congrArg Prod.fst s.size_advanceLine

section
variable {s : TerminalScreen} {t : Sheet UInt8}

/-- The row of the sheet in which the cursor is. -/
theorem Shows.pos_div (h : s.Shows t) :
    t.pos / s.cols = t.scrolled s.cols s.rows + s.cursorRow := by
  have hcol := h.wellFormed.cursorCol_lt
  rw [h.cursor, Nat.mul_comm, Nat.mul_add_div h.wellFormed.cols_pos, Nat.div_eq_of_lt hcol,
    Nat.add_zero]

theorem WellFormed.sheet_pos_div (h : s.WellFormed) : s.sheet.pos / s.cols = s.cursorRow := by
  rw [sheet, Nat.mul_comm, Nat.mul_add_div h.cols_pos, Nat.div_eq_of_lt h.cursorCol_lt,
    Nat.add_zero]

theorem WellFormed.sheet_scrolled (h : s.WellFormed) : s.sheet.scrolled s.cols s.rows = 0 := by
  have := h.cursorRow_lt
  rw [Sheet.scrolled, h.sheet_pos_div]
  omega

theorem WellFormed.shows_sheet (h : s.WellFormed) (hrows : 2 ≤ s.rows) : s.Shows s.sheet := by
  have hscrolled := h.sheet_scrolled
  refine ⟨h, hrows, fun hk => ?_, ?_, fun hk => ?_⟩
  · rw [hscrolled, Nat.zero_mul, Nat.zero_add, sheet_look,
      List.getElem?_eq_getElem (h.length_cells ▸ hk), Option.getD_some]
  · rw [hscrolled, Nat.zero_add]
    rfl
  · rw [hscrolled, Nat.zero_add] at hk
    rw [sheet_look, List.getElem?_eq_none (h.length_cells ▸ hk), Option.getD_none]

/-- **A row of the screen** is one of the sheet. -/
theorem Shows.rowCells (h : s.Shows t) {row : ℕ} (hrow : row < s.rows) :
    s.rowCells row = t.row s.cols (row + t.scrolled s.cols s.rows) := by
  refine List.ext_getElem? fun col => ?_
  by_cases hcol : col < s.cols
  · have hin := rowOffset_add_le hrow (Nat.succ_le_of_lt hcol)
    rw [getElem?_rowCells s row hcol, h.cells (by omega), Sheet.row, List.getElem?_map,
      List.getElem?_range hcol, Option.map_some, Nat.add_mul]
    congr 2
    omega
  · rw [List.getElem?_eq_none (by rw [h.wellFormed.length_rowCells hrow]; omega),
      List.getElem?_eq_none (by rw [Sheet.length_row]; omega)]

/-- **A line feed.** -/
theorem Shows.lineFeed (h : s.Shows t) : s.advanceLine.Shows (t.lineFeed s.cols) := by
  have hwf := h.wellFormed
  have hrows := h.rows_le
  have hdiv := h.pos_div
  have hscrolled : t.scrolled s.cols s.rows = t.pos / s.cols + 1 - s.rows := rfl
  have hpos : (t.lineFeed s.cols).pos = (t.pos / s.cols + 1) * s.cols := rfl
  have hnext : (t.lineFeed s.cols).scrolled s.cols s.rows = t.pos / s.cols + 2 - s.rows := by
    rw [Sheet.scrolled, hpos, Nat.mul_div_cancel _ hwf.cols_pos]
  by_cases hlast : s.cursorRow + 1 = s.rows
  · have hup : (t.lineFeed s.cols).scrolled s.cols s.rows = t.scrolled s.cols s.rows + 1 := by omega
    have hadvance : s.advanceLine
        = { s.scrollUp with cursorCol := 0, cursorRow := s.rows - 1 } := by
      rw [advanceLine, if_pos (by omega)]
    refine ⟨hwf.advanceLine, by rwa [rows_advanceLine], fun {k} hk => ?_, ?_, fun {k} hk => ?_⟩
    · rw [rows_advanceLine, cols_advanceLine] at hk ⊢
      have hcells : s.advanceLine.cells = s.scrollUp.cells := by rw [hadvance]
      rw [hcells, hwf.cells_scrollUp hrows hk, hup]
      split_ifs with hkept
      · rw [h.cells hkept, Nat.add_comm k, ← Nat.add_assoc, ← Nat.succ_mul]
        rfl
      · refine congrArg some (h.below ?_).symm
        rw [Nat.add_mul, Nat.succ_mul]
        omega
    · have hcursor : s.advanceLine.cursorRow = s.rows - 1 ∧ s.advanceLine.cursorCol = 0 := by
        rw [hadvance]
        exact ⟨rfl, rfl⟩
      rw [rows_advanceLine, cols_advanceLine, hpos, hcursor.1, hcursor.2, hup, Nat.add_zero]
      congr 1
      omega
    · rw [rows_advanceLine, cols_advanceLine, hup] at hk
      refine h.below (le_trans (Nat.mul_le_mul_right _ ?_) hk)
      omega
  · have hrow := hwf.cursorRow_lt
    have hsame : (t.lineFeed s.cols).scrolled s.cols s.rows = t.scrolled s.cols s.rows := by omega
    have hadvance : s.advanceLine = { s with cursorCol := 0, cursorRow := s.cursorRow + 1 } := by
      rw [advanceLine, if_neg (by omega)]
    refine ⟨hwf.advanceLine, by rwa [rows_advanceLine], fun {k} hk => ?_, ?_, fun {k} hk => ?_⟩
    · rw [rows_advanceLine, cols_advanceLine] at hk ⊢
      rw [hsame, hadvance]
      exact h.cells hk
    · rw [rows_advanceLine, cols_advanceLine, hpos, hsame, hdiv, hadvance]
      rfl
    · rw [rows_advanceLine, cols_advanceLine, hsame] at hk
      exact h.below hk

/-- A character at the cursor. -/
theorem Shows.stored (h : s.Shows t) {ch : UInt8} (hch : isCell ch) :
    (s.stored ch).Shows { t with look := Function.update t.look t.pos ch } := by
  have hin := rowOffset_add_le h.wellFormed.cursorRow_lt
    (Nat.succ_le_of_lt h.wellFormed.cursorCol_lt)
  have hpos : t.pos = t.scrolled s.cols s.rows * s.cols + (s.cursorRow * s.cols + s.cursorCol) := by
    rw [h.cursor, Nat.add_mul, Nat.add_assoc]
  refine ⟨h.wellFormed.stored hch, h.rows_le, fun {k} hk => ?_, h.cursor, fun {k} hk => ?_⟩
  · change (s.cells.set _ ch)[k]? =
      some (Function.update t.look t.pos ch (t.scrolled s.cols s.rows * s.cols + k))
    by_cases hat : k = s.cursorRow * s.cols + s.cursorCol
    · rw [hat, ← hpos, Function.update_self,
        List.getElem?_set_self (by rw [h.wellFormed.length_cells]; omega)]
    · rw [Function.update_of_ne (by omega), List.getElem?_set_ne (Ne.symm hat)]
      exact h.cells hk
  · change Function.update t.look t.pos ch k = blank
    change (t.scrolled s.cols s.rows + s.rows) * s.cols ≤ k at hk
    rw [Nat.add_mul] at hk
    rw [Function.update_of_ne (by omega)]
    refine h.below ?_
    rwa [Nat.add_mul]

/-- **A character.** -/
theorem Shows.put (h : s.Shows t) {ch : UInt8} (hch : isCell ch) :
    (s.putChar ch).Shows (t.put ch) := by
  have hwf := h.wellFormed
  have hdiv := h.pos_div
  have hcursor := h.cursor
  rw [hwf.putChar_eq]
  split_ifs with hroom
  · have hsame : (t.put ch).scrolled s.cols s.rows = t.scrolled s.cols s.rows := by
      have hnext : t.pos + 1
          = s.cols * (t.scrolled s.cols s.rows + s.cursorRow) + (s.cursorCol + 1) := by
        rw [hcursor, Nat.mul_comm]
        omega
      rw [Sheet.scrolled, Sheet.put_pos, hnext, Nat.mul_add_div hwf.cols_pos,
        Nat.div_eq_of_lt hroom, Nat.add_zero, ← hdiv]
      rfl
    have hstored := h.stored hch
    refine ⟨hstored.wellFormed.withCursor hwf.cursorRow_lt hroom, h.rows_le, fun {k} hk => ?_, ?_,
      fun {k} hk => ?_⟩
    · change (s.stored ch).cells[k]?
          = some ((t.put ch).look ((t.put ch).scrolled s.cols s.rows * s.cols + k))
      rw [hsame]
      exact hstored.cells hk
    · change (t.put ch).pos
          = ((t.put ch).scrolled s.cols s.rows + s.cursorRow) * s.cols + (s.cursorCol + 1)
      rw [hsame, Sheet.put_pos, hcursor, Nat.add_assoc]
    · change ((t.put ch).scrolled s.cols s.rows + s.rows) * s.cols ≤ k at hk
      rw [hsame] at hk
      exact hstored.below hk
  · -- the head goes to the start of the next row by itself
    have hcol := hwf.cursorCol_lt
    have hfeed := (h.stored hch).lineFeed
    have heq : t.put ch
        = Sheet.lineFeed s.cols { t with look := Function.update t.look t.pos ch } := by
      have hend : (t.pos / s.cols + 1) * s.cols = t.pos + 1 := by
        rw [hdiv, Nat.succ_mul, hcursor]
        omega
      rw [Sheet.put, Sheet.lineFeed, hend]
    rw [heq]
    exact hfeed

/-- **Characters one after the other.** -/
theorem Shows.puts (h : s.Shows t) {chars : List UInt8} (hchars : ∀ ch ∈ chars, isCell ch) :
    (chars.foldl putChar s).Shows (t.puts chars) := by
  induction chars generalizing s t with
  | nil => exact h
  | cons ch chars ih =>
    obtain ⟨hch, hrest⟩ := List.forall_mem_cons.mp hchars
    exact ih (h.put hch) hrest

end

/-! ## Characters one after the other -/

section
variable {s : TerminalScreen}

theorem Idle.advanceLine (h : s.Idle) : s.advanceLine.Idle := by
  simp only [TerminalScreen.advanceLine, scrollUp]
  split_ifs <;> exact ⟨h.inEscape, h.inEscapeCharset, h.inCsi⟩

theorem Idle.putChar (h : s.Idle) (ch : UInt8) : (s.putChar ch).Idle := by
  simp only [TerminalScreen.putChar]
  split_ifs
  · exact Idle.advanceLine ⟨h.inEscape, h.inEscapeCharset, h.inCsi⟩
  · exact ⟨h.inEscape, h.inEscapeCharset, h.inCsi⟩

/-- Characters are taken as such. -/
theorem Idle.foldl_chars (h : s.Idle) {chars : List UInt8} (hchars : ∀ ch ∈ chars, isCell ch) :
    chars.foldl TerminalScreen.feedByte s = chars.foldl TerminalScreen.putChar s
      ∧ (chars.foldl TerminalScreen.putChar s).Idle := by
  induction chars generalizing s with
  | nil => exact ⟨rfl, h⟩
  | cons ch chars ih =>
    obtain ⟨hch, hrest⟩ := List.forall_mem_cons.mp hchars
    obtain ⟨hfeed, hidle⟩ := ih (h.putChar ch) hrest
    refine ⟨?_, hidle⟩
    rw [List.foldl_cons, h.feedByte, plainByte_of_isCell hch, hfeed, List.foldl_cons]

theorem WellFormed.foldl_putChar (h : s.WellFormed) {chars : List UInt8}
    (hchars : ∀ ch ∈ chars, isCell ch) : (chars.foldl TerminalScreen.putChar s).WellFormed := by
  induction chars generalizing s with
  | nil => exact h
  | cons ch chars ih =>
    obtain ⟨hch, hrest⟩ := List.forall_mem_cons.mp hchars
    exact ih (h.putChar hch) hrest

theorem size_foldl_putChar (s : TerminalScreen) (chars : List UInt8) :
    (chars.foldl TerminalScreen.putChar s).size = s.size := by
  induction chars generalizing s with
  | nil => rfl
  | cons ch chars ih => rw [List.foldl_cons, ih, size_putChar]

/-- **On a screen of one row** a character goes to the cursor, and the row starts over at its
end. -/
theorem WellFormed.putChar_oneRow (h : s.WellFormed) (hrows : s.rows = 1) (ch : UInt8) :
    (s.putChar ch).cells = s.cells.set s.cursorCol ch
      ∧ (s.putChar ch).cursorCol = (s.cursorCol + 1) % s.cols := by
  have hrow := h.cursorRow_lt
  have hzero : s.cursorRow = 0 := by omega
  have hcol := h.cursorCol_lt
  have hstored : (s.stored ch).cells = s.cells.set s.cursorCol ch := by
    rw [TerminalScreen.stored, hzero, Nat.zero_mul, Nat.zero_add]
  rw [h.putChar_eq]
  split_ifs with hroom
  · exact ⟨hstored, (Nat.mod_eq_of_lt hroom).symm⟩
  · have hend : s.cursorCol + 1 = s.cols := by omega
    have hlast : (s.stored ch).cursorRow + 1 ≥ (s.stored ch).rows := by
      change s.cursorRow + 1 ≥ s.rows
      omega
    have hscroll : (s.stored ch).scrollUp = s.stored ch := if_pos (by change s.rows ≤ 1; omega)
    rw [TerminalScreen.advanceLine, if_pos hlast, hscroll, hend, Nat.mod_self]
    exact ⟨hstored, rfl⟩

theorem WellFormed.overprinted (h : s.WellFormed) (hrows : s.rows = 1) {chars : List UInt8}
    (hchars : ∀ ch ∈ chars, isCell ch) :
    Strip.Overprinted s.cols s.cursorCol chars s.cells (chars.foldl TerminalScreen.putChar s).cells
      ∧ (chars.foldl TerminalScreen.putChar s).cursorCol
        = (s.cursorCol + chars.length) % s.cols := by
  induction chars using List.reverseRecOn with
  | nil =>
    refine ⟨Strip.overprinted_nil ?_, (Nat.mod_eq_of_lt h.cursorCol_lt).symm⟩
    rw [h.length_cells, hrows, Nat.one_mul]
  | append_singleton chars ch ih =>
    obtain ⟨hinit, hlast⟩ := List.forall_mem_append.mp hchars
    obtain ⟨hover, hcol⟩ := ih hinit
    obtain ⟨hcols, hrows'⟩ := Prod.mk.inj (size_foldl_putChar s chars)
    obtain ⟨hcells, hnext⟩ := (h.foldl_putChar hinit).putChar_oneRow (hrows'.trans hrows) ch
    rw [List.foldl_append, List.foldl_cons, List.foldl_nil, hcells, hnext, hcol, hcols]
    refine ⟨hover.put h.cols_pos ch, ?_⟩
    rw [Nat.mod_add_mod, List.length_append, List.length_singleton, Nat.add_assoc]

end

/-! ## Line feeds one after the other -/

section
variable {s : TerminalScreen}

/-- Line feeds are taken as such. -/
theorem Idle.foldl_lineFeeds (h : s.Idle) (n : ℕ) :
    (List.replicate n 0x0A).foldl TerminalScreen.feedByte s = TerminalScreen.advanceLine^[n] s := by
  induction n generalizing s with
  | zero => rfl
  | succ n ih =>
    rw [List.replicate_succ, List.foldl_cons, h.feedByte, plainByte_lineFeed, ih h.advanceLine,
      Function.iterate_succ_apply]

theorem Shows.lineFeeds {t : Sheet UInt8} (h : s.Shows t) (n : ℕ) :
    (TerminalScreen.advanceLine^[n] s).Shows ((Sheet.lineFeed s.cols)^[n] t) := by
  induction n generalizing s t with
  | zero => exact h
  | succ n ih =>
    have hnext := ih h.lineFeed
    rwa [cols_advanceLine] at hnext

theorem size_lineFeeds (s : TerminalScreen) (n : ℕ) :
    (TerminalScreen.advanceLine^[n] s).size = s.size := by
  induction n generalizing s with
  | zero => rfl
  | succ n ih => rw [Function.iterate_succ_apply, ih, size_advanceLine]

/-- **Line feeds**: the rows move up by as many as have gone out, and blank ones come in. -/
theorem WellFormed.rowCells_lineFeeds (h : s.WellFormed) (hrows : 2 ≤ s.rows) (n : ℕ) {row : ℕ}
    (hrow : row < s.rows) :
    (TerminalScreen.advanceLine^[n] s).rowCells row =
      if row + (s.cursorRow + n + 1 - s.rows) < s.rows then
        s.rowCells (row + (s.cursorRow + n + 1 - s.rows))
      else List.replicate s.cols blank := by
  have hshows := h.shows_sheet hrows
  obtain ⟨hcols, hrows'⟩ := Prod.mk.inj (size_lineFeeds s n)
  have hout : ((Sheet.lineFeed s.cols)^[n] s.sheet).scrolled s.cols s.rows
      = s.cursorRow + n + 1 - s.rows := by
    rw [Sheet.scrolled, Sheet.pos_lineFeeds_div h.cols_pos, h.sheet_pos_div]
  have hnow := (hshows.lineFeeds n).rowCells (hrows'.symm ▸ hrow)
  rw [hcols, hrows', hout] at hnow
  have hlook (i : ℕ) : ((Sheet.lineFeed s.cols)^[n] s.sheet).row s.cols i
      = s.sheet.row s.cols i := by
    rw [Sheet.row, Sheet.look_lineFeeds, Sheet.row]
  rw [hnow, hlook]
  split_ifs with hold
  · have hthen := hshows.rowCells hold
    rw [hthen, h.sheet_scrolled]
    rfl
  · refine List.eq_replicate_iff.mpr ⟨Sheet.length_row _ _ _, fun ch hch => ?_⟩
    obtain ⟨col, -, rfl⟩ := List.mem_map.mp hch
    have hbelow := Nat.mul_le_mul_right s.cols (Nat.not_lt.mp hold)
    rw [sheet_look, List.getElem?_eq_none (by rw [h.length_cells]; omega), Option.getD_none]

end

end TerminalScreen

/-! ## Every screen -/

namespace TerminalState

open TerminalScreen

/-- The states that feeding and resizing lead to. -/
inductive Reachable : TerminalState → Prop
  | init (rows cols : ℤ) : Reachable (init rows cols)
  | feed {s : TerminalState} (data : List UInt8) : Reachable s → Reachable (s.feed data)
  | resize {s : TerminalState} (rows cols : ℤ) : Reachable s → Reachable (s.resize rows cols)

theorem Reachable.wellFormed {s : TerminalState} (h : s.Reachable) : s.WellFormed := by
  induction h with
  | init rows cols => exact wellFormed_init rows cols
  | feed data _ ih => exact wellFormed_feed ih data
  | resize rows cols _ ih => exact wellFormed_resize ih rows cols

/-- The bytes that are still to be consumed, where no control sequence is in progress. -/
def pending (s : TerminalScreen) : ℕ := (s.inEscape || s.inEscapeCharset).toNat

/-- Every row is blank. -/
def IsBlank (s : TerminalScreen) : Prop :=
  ∀ row < s.rows, s.rowCells row = List.replicate s.cols blank

instance (s : TerminalScreen) : Decidable (IsBlank s) :=
  inferInstanceAs (Decidable (∀ row < s.rows, _))

/-- A line feed that is consumed. -/
theorem feedByte_pending {s : TerminalScreen} (h : s.WellFormed) (hcsi : s.inCsi = false)
    (hpending : pending s = 1) :
    s.feedByte 0x0A = { s with inEscape := false, inEscapeCharset := false } := by
  have hflags := h.flags
  rw [pending] at hpending
  rw [TerminalScreen.feedByte, hcsi]
  cases hescape : s.inEscape <;> cases hcharset : s.inEscapeCharset
  · rw [hescape, hcharset] at hpending
    exact absurd hpending Nat.zero_ne_one
  · rfl
  · rfl
  · rw [hescape, hcharset] at hflags
    simp only [Bool.toNat_true] at hflags
    omega

/-- **Enough line feeds blank the screen.** -/
theorem isBlank_lineFeeds {s : TerminalScreen} (h : s.WellFormed) (hrows : 2 ≤ s.rows)
    (hidle : s.Idle) {n : ℕ} (hn : s.rows - 1 - s.cursorRow + s.rows ≤ n) :
    IsBlank ((List.replicate n 0x0A).foldl TerminalScreen.feedByte s) := by
  intro row hrow
  rw [hidle.foldl_lineFeeds] at hrow ⊢
  obtain ⟨hcols, hrows'⟩ := Prod.mk.inj (size_lineFeeds s n)
  have hcursor := h.cursorRow_lt
  rw [h.rowCells_lineFeeds hrows n (hrows' ▸ hrow), if_neg (by omega), hcols]

/-- **Scrolling**, on a screen of two rows or more.  Whatever goes to the next line makes all rows
move up by one below the last row, and changes no cell above it.  Line feeds blank the screen: first
as many as there are rows below the cursor, then one for each row. -/
theorem scrolling_exact {s : TerminalState} (h : s.Reachable) (hrows : 2 ≤ s.rows) :
    (∀ ch t, s.Idle → s.NextLine ch t → NextLineOf t (s.feed [ch]).toTerminalScreen)
      ∧ ∀ n, s.inCsi = false →
        pending s.toTerminalScreen + (s.rows - 1 - s.cursorRow) + s.rows ≤ n →
        IsBlank (s.feed (List.replicate n 0x0A)).toTerminalScreen := by
  have hwf := h.wellFormed
  constructor
  · intro ch t hidle hnext
    have hsize : t.rows = s.rows := by cases hnext <;> rfl
    rw [feed_toTerminalScreen, List.foldl_cons, List.foldl_nil, hnext.feedByte hwf hidle]
    exact (hnext.wellFormed hwf).nextLineOf (hsize ▸ hrows)
  · intro n hcsi hn
    rw [feed_toTerminalScreen]
    by_cases hpending : pending s.toTerminalScreen = 1
    · obtain ⟨n, rfl⟩ : ∃ m, n = m + 1 := ⟨n - 1, by omega⟩
      rw [List.replicate_succ, List.foldl_cons, feedByte_pending hwf hcsi hpending]
      have hwf' : TerminalScreen.WellFormed
          { s.toTerminalScreen with inEscape := false, inEscapeCharset := false } :=
        { hwf with flags := by simp [hcsi] }
      refine isBlank_lineFeeds hwf' hrows ⟨rfl, rfl, hcsi⟩ ?_
      change s.rows - 1 - s.cursorRow + s.rows ≤ n
      omega
    · have hidle : s.Idle := by
        have hnone : (s.inEscape || s.inEscapeCharset) = false := by
          by_contra htrue
          exact hpending (by rw [pending, (Bool.not_eq_false _).mp htrue]; rfl)
        obtain ⟨hescape, hcharset⟩ := Bool.or_eq_false_iff.mp hnone
        exact ⟨hescape, hcharset, hcsi⟩
      exact isBlank_lineFeeds hwf hrows hidle (by omega)

/-- Two rows with a letter each, the cursor at home. -/
def lettersAtHome : TerminalState :=
  (TerminalState.init 2 2).feed [0x61, 0x0D, 0x0A, 0x62, 0x1B, 0x5B, 0x48]

theorem reachable_lettersAtHome : lettersAtHome.Reachable := (Reachable.init 2 2).feed _

/-- Three line feeds blank it. -/
theorem scrolling_exact_letters :
    2 ≤ lettersAtHome.rows
      ∧ IsBlank (lettersAtHome.feed (List.replicate 3 0x0A)).toTerminalScreen := by
  have hrows : 2 ≤ lettersAtHome.rows := by decide +kernel
  exact ⟨hrows, (scrolling_exact reachable_lettersAtHome hrows).2 3 (by decide +kernel)
    (by decide +kernel)⟩

/-- **As many line feeds as there are rows** do not blank the screen: from the first row the first
of them only goes down. -/
theorem scrolling_from_home :
    ¬ ∀ s : TerminalState, s.Reachable → s.rows ≤ 1000 → s.cols ≤ 1000 →
      (∀ ch t, s.Idle → s.NextLine ch t → NextLineOf t (s.feed [ch]).toTerminalScreen)
        ∧ ∀ n, s.rows ≤ n → IsBlank (s.feed (List.replicate n 0x0A)).toTerminalScreen := by
  intro hall
  obtain ⟨-, hblank⟩ :=
    hall lettersAtHome reachable_lettersAtHome (by decide +kernel) (by decide +kernel)
  exact absurd (hblank 2 (by decide +kernel)) (by decide +kernel)

end TerminalState

end TmuxRemote
