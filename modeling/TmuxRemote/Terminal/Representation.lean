import Mathlib.Tactic.Set
import Mathlib.Tactic.Simps.Basic
import TmuxRemote.Terminal.Machine
import TmuxRemote.Terminal.WellFormed

/-!
# Terminal/Representation — the machine refines the model

On a well-formed screen of at most `maxSide` rows and columns no check of the machine fails, and
each of its functions computes what the model of `Terminal/State` does (`run_eq`); so the
representation invariant holds of the machine after any feeds and resizes
(`terminal_representation`).

The bound is far from the range of `int`: parameters of control sequences are at most 100000.
-/

namespace TmuxRemote

open CLib CMemory

/-- The largest size a screen is asked to have. -/
def maxSide : ℕ := 1000

namespace TerminalMachine

/-! ## The machine and the model -/

/-- The machine in the state of the model; `tail` is what `csi_buf` holds behind `csi_len`. -/
@[simps] def ofScreen (sequence : UInt64) (tail : List UInt8) (s : TerminalScreen) :
    TerminalMachine where
  sequence := sequence
  rows := s.rows
  cols := s.cols
  cursorRow := s.cursorRow
  cursorCol := s.cursorCol
  savedRow := s.savedRow
  savedCol := s.savedCol
  altScreen := s.altScreen
  cells := s.cells
  inEscape := s.inEscape
  inEscapeCharset := s.inEscapeCharset
  inCsi := s.inCsi
  csiBuf := s.csiBuf ++ tail
  csiLen := s.csiBuf.length

/-- A well-formed screen of a size for which the arithmetic stays in range. -/
structure Fits (s : TerminalScreen) : Prop where
  wellFormed : s.WellFormed
  rows_le : s.rows ≤ maxSide
  cols_le : s.cols ≤ maxSide

variable {n : UInt64} {tail : List UInt8} {s : TerminalScreen}

theorem Fits.of_size (h : Fits s) {t : TerminalScreen} (ht : t.WellFormed)
    (hsize : t.size = s.size) :
    Fits t := by
  obtain ⟨hcols, hrows⟩ := Prod.mk.inj hsize
  exact ⟨ht, hrows.trans_le h.rows_le, hcols.trans_le h.cols_le⟩

/-- An `int` far from the bounds. -/
theorem int32_small {x : ℤ} (hlow : -200000 ≤ x) (hhigh : x ≤ 200000) : int32 x = .ok x :=
  int32_eq (by omega)

/-- One more than a small position. -/
theorem int32_succ {k : ℕ} (h : k < 200000) : int32 (k + 1) = .ok ↑(k + 1) :=
  int32_small (by omega) (by omega)

/-- One less than a side. -/
theorem int32_pred {side : ℕ} (hpos : 0 < side) (hle : side ≤ maxSide) :
    int32 (side - 1) = .ok ↑(side - 1) := by
  rw [maxSide] at hle
  rw [int32_small (by omega) (by omega), Int.natCast_pred_of_pos hpos]

theorem clampSide_eq (value : ℤ) {side : ℕ} (hpos : 0 < side) (hle : side ≤ maxSide) :
    clampSide value side = .ok ↑(clampPos value side) := by
  rw [maxSide] at hle
  have hnonneg : 0 ≤ clampInt value 0 (side - 1) := by
    rw [clampInt]
    split_ifs <;> omega
  rw [clampSide, int32_small (by omega) (by omega), ok_bind, return_eq, clampPos,
    Int.toNat_of_nonneg hnonneg]

theorem clearScreen_eq (h : Fits s) :
    (ofScreen n tail s).clearScreen = .ok (ofScreen n tail s.clearScreen) := by
  have hcells : 0 + s.rows * s.cols ≤ s.cells.length := by rw [h.wellFormed.cells.1]; omega
  have hset := memset_eq blank hcells
  push_cast at hset
  rw [TerminalMachine.clearScreen, ofScreen_cells, ofScreen_rows, ofScreen_cols, hset]
  rfl

theorem clearLineRange_eq (h : Fits s) (row : ℕ) (colStart colEnd : ℤ) :
    (ofScreen n tail s).clearLineRange row colStart colEnd
      = .ok (ofScreen n tail (s.clearLineRange row colStart colEnd)) := by
  have hcols := h.cols_le
  rw [maxSide] at hcols
  have hpos := h.wellFormed.cols_pos
  rw [TerminalMachine.clearLineRange, TerminalScreen.clearLineRange, ofScreen_rows, ofScreen_cols,
    ofScreen_cells]
  by_cases hrow : row ≥ s.rows
  · rw [if_pos hrow, if_pos (Or.inr (Int.ofNat_le.mpr hrow))]
    rfl
  · rw [if_neg hrow, if_neg (by omega), clampSide_eq colStart hpos h.cols_le, ok_bind,
      clampSide_eq colEnd hpos h.cols_le, ok_bind]
    dsimp only
    have hend := clampPos_lt colEnd hpos
    by_cases hempty : clampPos colEnd s.cols < clampPos colStart s.cols
    · rw [if_pos hempty, if_pos (Int.ofNat_lt.mpr hempty)]
      rfl
    · have hrange : row * s.cols + clampPos colStart s.cols
          + (clampPos colEnd s.cols - clampPos colStart s.cols + 1) ≤ s.cells.length := by
        have hle := @rowOffset_add_le row s.rows s.cols s.cols (by omega) le_rfl
        rw [h.wellFormed.cells.1]
        omega
      have hset := memset_eq blank hrange
      rw [if_neg hempty, if_neg (by omega), int32_small (by omega) (by omega), ok_bind,
        int32_small (by omega) (by omega), ok_bind]
      push_cast [not_lt.mp hempty] at hset
      rw [hset]
      rfl

theorem scrollUp_eq (hcells : s.cells.length = s.rows * s.cols) (hrows : s.rows ≤ maxSide) :
    (ofScreen n tail s).scrollUp = .ok (ofScreen n tail s.scrollUp) := by
  rw [maxSide] at hrows
  rw [TerminalMachine.scrollUp, TerminalScreen.scrollUp, ofScreen_rows, ofScreen_cols,
    ofScreen_cells]
  by_cases hone : s.rows ≤ 1
  · rw [if_pos hone, if_pos (by omega)]
    rfl
  · obtain ⟨above, habove⟩ : ∃ above, s.rows = above + 1 := ⟨s.rows - 1, by omega⟩
    have hlength : s.cells.length = s.cols + s.cols * above := by
      rw [hcells, habove, Nat.succ_mul, Nat.mul_comm, Nat.add_comm]
    have hmove := @memcpy_eq _ s.cells s.cells 0 s.cols (s.cols * above) (by omega) hlength.ge
    have hrest : ((s.cells.drop s.cols).take (s.cols * above)).length = s.cols * above := by
      rw [List.length_take, List.length_drop]
      omega
    -- The rows below the first, moved up, with what the move left of the last row.
    set kept := (s.cells.drop s.cols).take (s.cols * above) with hkept
    have hmoved : (kept ++ s.cells.drop (s.cols * above)).length = s.cols * above + s.cols := by
      rw [List.length_append, hrest, List.length_drop]
      omega
    have hset := memset_eq blank hmoved.ge
    rw [List.take_left' hrest, List.drop_eq_nil_of_le hmoved.le, List.append_nil] at hset
    rw [List.take_zero, List.nil_append, Nat.zero_add] at hmove
    push_cast at hmove hset
    rw [if_neg hone, if_neg (by omega), int32_small (by omega) (by omega), ok_bind,
      show (s.rows : ℤ) - 1 = above by omega, hmove, ok_bind, hset, ok_bind, return_eq,
      show s.rows - 1 = above by omega]
    rfl

theorem scrollUp_withCursor (row col : ℕ) :
    { s with cursorRow := row, cursorCol := col }.scrollUp
      = { s.scrollUp with cursorRow := row, cursorCol := col } := by
  simp only [TerminalScreen.scrollUp]
  split_ifs <;> rfl

theorem advanceLine_eq (hcells : s.cells.length = s.rows * s.cols) (hrow : s.cursorRow < s.rows)
    (hrows : s.rows ≤ maxSide) :
    (ofScreen n tail s).advanceLine = .ok (ofScreen n tail s.advanceLine) := by
  have hsmall := hrows
  rw [maxSide] at hsmall
  have hscroll := @scrollUp_eq n tail { s with cursorRow := s.cursorRow + 1, cursorCol := 0 } hcells
    hrows
  rw [scrollUp_withCursor] at hscroll
  rw [TerminalMachine.advanceLine, TerminalScreen.advanceLine, ofScreen_cursorRow,
    int32_succ (by omega), ok_bind]
  change (if ((s.cursorRow + 1 : ℕ) : ℤ) ≥ s.rows then
      (ofScreen n tail { s with cursorRow := s.cursorRow + 1, cursorCol := 0 }).scrollUp >>= _
    else .ok (ofScreen n tail { s with cursorRow := s.cursorRow + 1, cursorCol := 0 })) = _
  by_cases hlast : s.cursorRow + 1 ≥ s.rows
  · have hsize : s.scrollUp.rows = s.rows := congrArg Prod.snd s.size_scrollUp
    have hpred : int32 ((s.scrollUp.rows : ℤ) - 1) = .ok ↑(s.rows - 1) := by
      rw [hsize]
      exact int32_pred (by omega) hrows
    rw [if_pos (Int.ofNat_le.mpr hlast), if_pos hlast, hscroll, ok_bind, ofScreen_rows, hpred,
      ok_bind, return_eq]
    rfl
  · rw [if_neg hlast, if_neg (Int.ofNat_le.not.mpr hlast)]

theorem putChar_eq (h : Fits s) (ch : UInt8) :
    (ofScreen n tail s).putChar ch = .ok (ofScreen n tail (s.putChar ch)) := by
  have hcols := h.cols_le
  rw [maxSide] at hcols
  have hrow := h.wellFormed.cursorRow_lt
  have hcol := h.wellFormed.cursorCol_lt
  have hcell : s.cursorRow * s.cols + s.cursorCol < s.cells.length := by
    have hle := rowOffset_add_le hrow (Nat.succ_le_of_lt hcol)
    rw [h.wellFormed.cells.1]
    omega
  have hstore := store_eq ch hcell
  push_cast at hstore
  let put : TerminalScreen := { s with
    cells := s.cells.set (s.cursorRow * s.cols + s.cursorCol) ch, cursorCol := s.cursorCol + 1 }
  have hadvance : (ofScreen n tail put).advanceLine = .ok (ofScreen n tail put.advanceLine) :=
    advanceLine_eq (by rw [List.length_set, h.wellFormed.cells.1]) hrow h.rows_le
  rw [TerminalMachine.putChar, TerminalScreen.putChar, ofScreen_rows, ofScreen_cols,
    ofScreen_cursorRow, ofScreen_cursorCol, ofScreen_cells,
    clampSide_eq _ h.wellFormed.rows_pos h.rows_le, ok_bind,
    clampSide_eq _ h.wellFormed.cols_pos h.cols_le, ok_bind, clampPos_eq_self hrow,
    clampPos_eq_self hcol, hstore, ok_bind, int32_succ (by omega), ok_bind]
  change (if ((s.cursorCol + 1 : ℕ) : ℤ) ≥ s.cols then (ofScreen n tail put).advanceLine
      else .ok (ofScreen n tail put))
    = .ok (ofScreen n tail (if s.cursorCol + 1 ≥ s.cols then put.advanceLine else put))
  by_cases hwrap : s.cursorCol + 1 ≥ s.cols
  · rw [if_pos hwrap, if_pos (Int.ofNat_le.mpr hwrap), hadvance]
  · rw [if_neg hwrap, if_neg (Int.ofNat_le.not.mpr hwrap)]

/-! ### Control sequences -/

/-- A parameter is small, and not negative where its default is not. -/
theorem getParam_bounds (params : CString) (index : ℕ) {default : ℤ} (hlow : 0 ≤ default)
    (hhigh : default ≤ 100000) :
    0 ≤ TerminalScreen.getParam params index default
      ∧ TerminalScreen.getParam params index default ≤ 100000 := by
  have htoken (token : List UInt8) : 0 ≤ TerminalScreen.parseIntToken token default
      ∧ TerminalScreen.parseIntToken token default ≤ 100000 := by
    rw [TerminalScreen.parseIntToken]
    split
    · exact ⟨hlow, hhigh⟩
    · split_ifs <;> omega
  rw [TerminalScreen.getParam]
  split
  · exact ⟨hlow, hhigh⟩
  · dsimp only
    split
    · exact htoken _
    · exact ⟨hlow, hhigh⟩

theorem moveRow_eq (h : Fits s) {target : ℤ} (hlow : -200000 ≤ target) (hhigh : target ≤ 200000) :
    (ofScreen n tail s).moveRow target
      = .ok (ofScreen n tail { s with cursorRow := clampPos target s.rows }) := by
  rw [TerminalMachine.moveRow, int32_small hlow hhigh, ok_bind, ofScreen_rows,
    clampSide_eq _ h.wellFormed.rows_pos h.rows_le, ok_bind, return_eq]
  rfl

theorem moveCol_eq (h : Fits s) {target : ℤ} (hlow : -200000 ≤ target) (hhigh : target ≤ 200000) :
    (ofScreen n tail s).moveCol target
      = .ok (ofScreen n tail { s with cursorCol := clampPos target s.cols }) := by
  rw [TerminalMachine.moveCol, int32_small hlow hhigh, ok_bind, ofScreen_cols,
    clampSide_eq _ h.wellFormed.cols_pos h.cols_le, ok_bind, return_eq]
  rfl

/-- The cursor stays on the screen. -/
theorem Fits.withCursor (h : Fits s) {row col : ℕ} (hrow : row < s.rows) (hcol : col < s.cols) :
    Fits { s with cursorRow := row, cursorCol := col } :=
  ⟨h.wellFormed.withCursor hrow hcol, h.rows_le, h.cols_le⟩

theorem moveRow_moveCol_eq (h : Fits s) {row col : ℤ} (hrow : -200000 ≤ row ∧ row ≤ 200000)
    (hcol : -200000 ≤ col ∧ col ≤ 200000) :
    ((ofScreen n tail s).moveRow row >>= fun m => m.moveCol col)
      = .ok (ofScreen n tail { s with
        cursorRow := clampPos row s.rows, cursorCol := clampPos col s.cols }) := by
  have hmoved := h.withCursor (clampPos_lt row h.wellFormed.rows_pos) h.wellFormed.cursorCol_lt
  rw [moveRow_eq h hrow.1 hrow.2, ok_bind, moveCol_eq hmoved hcol.1 hcol.2]

theorem clearToEnd_eq (h : Fits s) (row : ℕ) (colStart : ℤ) :
    (ofScreen n tail s).clearToEnd row colStart
      = .ok (ofScreen n tail (s.clearLineRange row colStart (s.cols - 1))) := by
  have hcols := h.cols_le
  rw [maxSide] at hcols
  rw [TerminalMachine.clearToEnd, ofScreen_cols, int32_small (by omega) (by omega), ok_bind,
    clearLineRange_eq h]

theorem Fits.clearLineRange (h : Fits s) (row : ℕ) (colStart colEnd : ℤ) :
    Fits (s.clearLineRange row colStart colEnd) :=
  h.of_size (h.wellFormed.clearLineRange row colStart colEnd) (s.size_clearLineRange row _ _)

theorem clearRows_eq (h : Fits s) {row count : ℕ} (hle : row + count ≤ s.rows) :
    (ofScreen n tail s).clearRows row count
      = .ok (ofScreen n tail ((List.range' row count).foldl
        (fun s row => s.clearLineRange row 0 (s.cols - 1)) s)) := by
  induction count generalizing s row with
  | zero => rfl
  | succ count ih =>
    have hrows := h.rows_le
    rw [maxSide] at hrows
    have hsize : (s.clearLineRange row 0 (s.cols - 1)).rows = s.rows :=
      congrArg Prod.snd (s.size_clearLineRange row _ _)
    rw [TerminalMachine.clearRows, clearToEnd_eq h, ok_bind, int32_succ (by omega), ok_bind,
      ih (h.clearLineRange row _ _) (by omega), List.range'_succ, List.foldl_cons]

theorem eraseDisplay_eq (h : Fits s) (mode : ℤ) :
    (ofScreen n tail s).eraseDisplay mode = .ok (ofScreen n tail (s.eraseDisplay mode)) := by
  have hrows := h.rows_le
  rw [maxSide] at hrows
  have hrow := h.wellFormed.cursorRow_lt
  have hcleared := h.clearLineRange s.cursorRow s.cursorCol (s.cols - 1)
  have hsize : (s.clearLineRange s.cursorRow s.cursorCol (s.cols - 1)).rows = s.rows :=
    congrArg Prod.snd (s.size_clearLineRange _ _ _)
  have hcursor :
      (s.clearLineRange s.cursorRow s.cursorCol (s.cols - 1)).cursorRow = s.cursorRow := by
    rw [TerminalScreen.clearLineRange]
    dsimp only
    split_ifs <;> rfl
  rw [TerminalMachine.eraseDisplay, TerminalScreen.eraseDisplay]
  split_ifs
  · rw [clearScreen_eq h, ok_bind, return_eq]
    rfl
  · rw [ofScreen_cursorRow, ofScreen_cursorCol, clearToEnd_eq h, ok_bind, ofScreen_cursorRow,
      hcursor, int32_succ (by omega), ok_bind, ofScreen_rows, hsize, ← Int.natCast_sub hrow,
      Int.toNat_natCast, clearRows_eq hcleared (by omega)]
  · rfl

theorem eraseLine_eq (h : Fits s) (mode : ℤ) :
    (ofScreen n tail s).eraseLine mode = .ok (ofScreen n tail (s.eraseLine mode)) := by
  rw [TerminalMachine.eraseLine, TerminalScreen.eraseLine, ofScreen_cursorRow, ofScreen_cursorCol]
  split_ifs
  · exact clearToEnd_eq h _ _
  · exact clearLineRange_eq h _ _ _
  · exact clearToEnd_eq h _ _
  · rfl

theorem eraseChars_eq (h : Fits s) {count : ℤ} (hlow : 0 ≤ count) (hhigh : count ≤ 100000) :
    (ofScreen n tail s).eraseChars count = .ok (ofScreen n tail (s.eraseChars count)) := by
  have hcols := h.cols_le
  rw [maxSide] at hcols
  have hcol := h.wellFormed.cursorCol_lt
  have hcount : 1 ≤ (if count ≤ 0 then 1 else count)
      ∧ (if count ≤ 0 then 1 else count) ≤ 100000 := by
    split_ifs <;> omega
  have hclamp (value : ℤ) : (clampPos value s.cols : ℤ) = clampInt value 0 (s.cols - 1) := by
    have hpos := h.wellFormed.cols_pos
    rw [clampPos, Int.toNat_of_nonneg]
    rw [clampInt]
    split_ifs <;> omega
  rw [TerminalMachine.eraseChars, TerminalScreen.eraseChars, ofScreen_cursorRow,
    ofScreen_cursorCol, ofScreen_cols, int32_small (by omega) (by omega), ok_bind,
    int32_small (by omega) (by omega), ok_bind, clampSide_eq _ h.wellFormed.cols_pos h.cols_le,
    ok_bind, clearLineRange_eq h, hclamp]

theorem setAltScreen_eq (h : Fits s) (params : CString) (alt : Bool) :
    (ofScreen n tail s).setAltScreen params alt
      = .ok (ofScreen n tail (s.setAltScreen params alt)) := by
  have halt : Fits { s with altScreen := alt } :=
    ⟨{ h.wellFormed with }, h.rows_le, h.cols_le⟩
  rw [TerminalMachine.setAltScreen, TerminalScreen.setAltScreen]
  split_ifs
  · change ((ofScreen n tail { s with altScreen := alt }).clearScreen >>= _) = _
    rw [clearScreen_eq halt, ok_bind, return_eq]
    rfl
  · rfl

theorem processCsi_eq (h : Fits s) (params : CString) (final : UInt8) :
    (ofScreen n tail s).processCsi params final
      = .ok (ofScreen n tail (s.processCsi params final)) := by
  have hrows := h.rows_le
  have hcols := h.cols_le
  rw [maxSide] at hrows hcols
  have hrow := h.wellFormed.cursorRow_lt
  have hcol := h.wellFormed.cursorCol_lt
  have hone := fun index => @getParam_bounds params index 1 (by decide) (by decide)
  have hzero := @getParam_bounds params 0 0 (by decide) (by decide)
  have h0 := hone 0
  have h1 := hone 1
  simp only [TerminalMachine.processCsi, ofScreen_cursorRow, ofScreen_cursorCol, ofScreen_savedRow]
  split
  case h_16 =>
    rw [TerminalScreen.processCsi]
    split
    case h_16 => rfl
    all_goals contradiction
  all_goals
    rename_i hletter
    rw [TerminalScreen.processCsi, hletter]
  · apply moveRow_eq h <;> omega
  · apply moveRow_eq h <;> omega
  · apply moveCol_eq h <;> omega
  · apply moveCol_eq h <;> omega
  · apply moveCol_eq h <;> omega
  · apply moveRow_eq h <;> omega
  · apply moveRow_moveCol_eq h <;> omega
  · apply moveRow_moveCol_eq h <;> omega
  · exact eraseDisplay_eq h _
  · exact eraseLine_eq h _
  · exact eraseChars_eq h h0.1 h0.2
  · rfl
  · have hsavedRow := h.wellFormed.savedRow_lt
    have hsavedCol := h.wellFormed.savedCol_lt
    have hmoved := h.withCursor (clampPos_lt s.savedRow h.wellFormed.rows_pos) hcol
    rw [moveRow_eq h (by omega) (by omega), ok_bind]
    exact @moveCol_eq n tail _ hmoved s.savedCol (by omega) (by omega)
  · exact setAltScreen_eq h params true
  · exact setAltScreen_eq h params false

/-! ### Bytes -/

theorem plainByte_eq (h : Fits s) (ch : UInt8) :
    (ofScreen n tail s).plainByte ch = .ok (ofScreen n tail (s.plainByte ch)) := by
  have hcols := h.cols_le
  rw [maxSide] at hcols
  have hcol := h.wellFormed.cursorCol_lt
  have hadvance : (ofScreen n tail s).advanceLine = .ok (ofScreen n tail s.advanceLine) :=
    advanceLine_eq h.wellFormed.cells.1 h.wellFormed.cursorRow_lt h.rows_le
  have hdefault : (if isPrint ch || ch ≥ 0x80 then (ofScreen n tail s).putChar ch
      else pure (ofScreen n tail s))
      = .ok (ofScreen n tail (if isPrint ch || ch ≥ 0x80 then s.putChar ch else s)) := by
    split_ifs
    · exact putChar_eq h ch
    · rfl
  simp only [TerminalMachine.plainByte, ofScreen_cursorCol, ofScreen_cols]
  split
  case h_6 hescape hreturn hnewline hbackspace htab =>
    rw [hdefault, TerminalScreen.plainByte]
    generalize (if isPrint ch || ch ≥ 0x80 then s.putChar ch else s) = printed
    split
    · next hch => exact absurd hch hescape
    · next hch => exact absurd hch hreturn
    · next hch => exact absurd hch hnewline
    · next hch => exact absurd hch hbackspace
    · next hch => exact absurd hch htab
    · rfl
  all_goals
    rename_i hch
    rw [TerminalScreen.plainByte, hch]
  · rfl
  · rfl
  · exact hadvance
  · apply moveCol_eq h <;> omega
  · have htab : (s.cursorCol : ℤ).tdiv 8 = ↑(s.cursorCol / 8) := by
      rw [Int.tdiv_eq_ediv_of_nonneg (by omega)]
      omega
    rw [htab, int32_succ (by omega), ok_bind, int32_small (by omega) (by omega), ok_bind]
    by_cases hwrap : (s.cursorCol / 8 + 1) * 8 ≥ s.cols
    · rw [if_pos hwrap, if_pos (by omega)]
      exact hadvance
    · rw [if_neg hwrap, if_neg (by omega)]
      exact return_eq _

/-- What `csi_buf` holds behind `csi_len` fills the buffer. -/
def Filled (s : TerminalScreen) (tail : List UInt8) : Prop :=
  s.csiBuf.length + tail.length = csiBufSize

theorem Fits.feedByte (h : Fits s) (ch : UInt8) : Fits (s.feedByte ch) :=
  h.of_size (h.wellFormed.feedByte ch) (s.size_feedByte ch)

/-- A store at `csi_len`. -/
theorem store_csiLen (csiBuf rest : List UInt8) (b ch : UInt8) :
    store (csiBuf ++ b :: rest) csiBuf.length ch = .ok (csiBuf ++ ch :: rest) := by
  have hlt : csiBuf.length < (csiBuf ++ b :: rest).length := by
    rw [List.length_append, List.length_cons]
    omega
  rw [store_eq ch hlt, List.set_append_right _ _ le_rfl, Nat.sub_self, List.set_cons_zero]

/-- The buffer with its terminator reads as the bytes before `csi_len`. -/
theorem readString_csiBuf (csiBuf rest : List UInt8) :
    readString (csiBuf ++ 0 :: rest) = .ok (.ofBytes csiBuf) := by
  rw [readString_eq (List.mem_append_right _ List.mem_cons_self)]
  refine congrArg Except.ok (CString.ext ?_)
  change (csiBuf ++ 0 :: rest).takeWhile (· != 0) = csiBuf.takeWhile (· != 0)
  induction csiBuf with
  | nil => rfl
  | cons b csiBuf ih => rw [List.cons_append, List.takeWhile_cons, List.takeWhile_cons, ih]

/-- **One byte.** -/
theorem feedByte_eq (h : Fits s) (hfilled : Filled s tail) (ch : UInt8) :
    ∃ tail', Filled (s.feedByte ch) tail'
      ∧ (ofScreen n tail s).feedByte ch = .ok (ofScreen n tail' (s.feedByte ch)) := by
  have hroom := h.wellFormed.csiBuf_lt
  obtain ⟨b, rest, rfl⟩ : ∃ b rest, tail = b :: rest := by
    refine List.exists_cons_of_ne_nil fun hnil => ?_
    rw [Filled, hnil, List.length_nil] at hfilled
    omega
  rw [Filled, List.length_cons] at hfilled
  simp only [TerminalMachine.feedByte, TerminalScreen.feedByte, ofScreen_inEscapeCharset,
    ofScreen_inCsi, ofScreen_inEscape, ofScreen_csiBuf, ofScreen_csiLen, store_csiLen, ok_bind,
    readString_csiBuf]
  split_ifs
  · exact ⟨b :: rest, hfilled, rfl⟩
  · have hcsi : (ofScreen n (0 :: rest) s).processCsi (.ofBytes s.csiBuf) ch
        = .ok (ofScreen n (0 :: rest) (s.processCsi (.ofBytes s.csiBuf) ch)) := processCsi_eq h _ ch
    refine ⟨(s.processCsi (.ofBytes s.csiBuf) ch).csiBuf ++ 0 :: rest, ?_, ?_⟩
    · rw [Filled, List.length_nil, Nat.zero_add, List.length_append, List.length_cons,
        TerminalScreen.csiBuf_processCsi]
      exact hfilled
    · change ((ofScreen n (0 :: rest) s).processCsi (.ofBytes s.csiBuf) ch >>= _) = _
      rw [hcsi, ok_bind, return_eq]
      rfl
  · refine ⟨rest, ?_, ?_⟩
    · rw [Filled, List.length_append, List.length_singleton]
      omega
    · have hbuf : s.csiBuf ++ ch :: rest = s.csiBuf ++ [ch] ++ rest := by
        rw [List.append_assoc, List.singleton_append]
      have hlen : s.csiBuf.length + 1 = (s.csiBuf ++ [ch]).length := by
        rw [List.length_append, List.length_singleton]
      rw [return_eq, hbuf, hlen]
      rfl
  · exact ⟨b :: rest, hfilled, rfl⟩
  · refine ⟨s.csiBuf ++ b :: rest, ?_, ?_⟩
    · rw [Filled, List.length_nil, Nat.zero_add, List.length_append, List.length_cons]
      exact hfilled
    · rfl
  · exact ⟨b :: rest, hfilled, rfl⟩
  · exact ⟨b :: rest, hfilled, rfl⟩
  · refine ⟨b :: rest, ?_, plainByte_eq h ch⟩
    rw [Filled, TerminalScreen.csiBuf_plainByte]
    exact hfilled

/-! ### Feeds -/

/-- The machine in the state of the model. -/
def ofState (tail : List UInt8) (s : TerminalState) : TerminalMachine :=
  ofScreen s.sequence tail s.toTerminalScreen

/-- The bytes of a chunk, one after the other. -/
theorem foldlM_feedByte_eq (h : Fits s) (hfilled : Filled s tail) (data : List UInt8) :
    ∃ tail', Fits (data.foldl TerminalScreen.feedByte s)
      ∧ Filled (data.foldl TerminalScreen.feedByte s) tail'
      ∧ data.foldlM feedByte (ofScreen n tail s)
        = .ok (ofScreen n tail' (data.foldl TerminalScreen.feedByte s)) := by
  induction data generalizing s tail with
  | nil => exact ⟨tail, h, hfilled, rfl⟩
  | cons ch data ih =>
    obtain ⟨tail₁, hfilled₁, hbyte⟩ := @feedByte_eq n tail s h hfilled ch
    obtain ⟨tail₂, hfits, hfilled₂, hrest⟩ := ih (h.feedByte ch) hfilled₁
    refine ⟨tail₂, hfits, hfilled₂, ?_⟩
    rw [List.foldlM_cons, hbyte, ok_bind, hrest, List.foldl_cons]

theorem feed_eq {s : TerminalState} (h : Fits s.toTerminalScreen)
    (hfilled : Filled s.toTerminalScreen tail) (data : List UInt8) :
    ∃ tail', Fits (s.feed data).toTerminalScreen ∧ Filled (s.feed data).toTerminalScreen tail'
      ∧ (ofState tail s).feed data = .ok (ofState tail' (s.feed data)) := by
  rw [TerminalMachine.feed, TerminalState.feed]
  split_ifs
  · exact ⟨tail, h, hfilled, rfl⟩
  · obtain ⟨tail', hfits, hfilled', hfold⟩ := @foldlM_feedByte_eq s.sequence tail _ h hfilled data
    refine ⟨tail', hfits, hfilled', ?_⟩
    rw [ofState, hfold, ok_bind, return_eq]
    rfl

/-! ### Creation and resize -/

theorem dimensionOr_eq (side : ℤ) (default : ℕ) :
    dimensionOr side default = dimension side default := by
  rw [dimensionOr, dimension]
  split_ifs <;> omega

theorem dimension_le {side : ℤ} {default : ℕ} (hside : side ≤ maxSide)
    (hdefault : default ≤ maxSide) :
    dimension side default ≤ maxSide := by
  rw [dimension]
  split_ifs <;> omega

theorem fits_init {rows cols : ℤ} (hrows : rows ≤ maxSide) (hcols : cols ≤ maxSide) :
    Fits (TerminalState.init rows cols).toTerminalScreen :=
  ⟨TerminalState.wellFormed_init rows cols, dimension_le hrows (by decide),
    dimension_le hcols (by decide)⟩

theorem filled_init (rows cols : ℤ) :
    Filled (TerminalState.init rows cols).toTerminalScreen (List.replicate csiBufSize 0) := by
  rw [Filled, List.length_replicate]
  exact Nat.zero_add _

theorem init_eq (rows cols : ℤ) :
    init rows cols = ofState (List.replicate csiBufSize 0) (TerminalState.init rows cols) := by
  rw [init, dimensionOr_eq, dimensionOr_eq]
  rfl

/-- A row of the new screen that the old one had. -/
def copiedRow (s : TerminalScreen) (newCols row : ℕ) : List UInt8 :=
  (s.rowCells row).take (min s.cols newCols) ++ List.replicate (newCols - min s.cols newCols) blank

theorem length_copiedRow (h : s.WellFormed) {row : ℕ} (hrow : row < s.rows) (newCols : ℕ) :
    (copiedRow s newCols row).length = newCols := by
  rw [copiedRow, List.length_append, List.length_take, (h.isCells_rowCells hrow).1,
    List.length_replicate]
  omega

theorem length_flatMap_copiedRow (h : s.WellFormed) {count : ℕ} (hcount : count ≤ s.rows)
    (newCols : ℕ) :
      ((List.range count).flatMap (copiedRow s newCols)).length = count * newCols := by
  induction count with
  | zero => rw [List.range_zero, Nat.zero_mul]; rfl
  | succ count ih =>
    rw [List.range_succ, List.flatMap_append, List.length_append, ih (by omega),
      List.flatMap_singleton, length_copiedRow h (by omega), Nat.succ_mul]

/-- **The copy loop**: the rows copied so far, and blanks below. -/
theorem copyRows_eq (h : s.WellFormed) (newRows newCols : ℕ) {count : ℕ}
    (hcount : count ≤ min s.rows newRows) :
    (ofScreen n tail s).copyRows newCols ↑(min s.cols newCols)
        (List.replicate (newRows * newCols) blank) count
      = .ok ((List.range count).flatMap (copiedRow s newCols)
        ++ List.replicate ((newRows - count) * newCols) blank) := by
  induction count with
  | zero => rw [Nat.sub_zero]; rfl
  | succ count ih =>
    have hrows : (newRows - count) * newCols = newCols + (newRows - (count + 1)) * newCols := by
      obtain ⟨rest, hrest⟩ : ∃ rest, newRows - count = rest + 1 := ⟨newRows - count - 1, by omega⟩
      rw [hrest, show newRows - (count + 1) = rest by omega, Nat.succ_mul, Nat.add_comm]
    have hlength := length_flatMap_copiedRow h (show count ≤ s.rows by omega) newCols
    have hdst : count * newCols + min s.cols newCols
        ≤ ((List.range count).flatMap (copiedRow s newCols)
          ++ List.replicate ((newRows - count) * newCols) blank).length := by
      rw [List.length_append, hlength, List.length_replicate, hrows]
      omega
    have hsrc : count * s.cols + min s.cols newCols ≤ s.cells.length := by
      have hle := @rowOffset_add_le count s.rows s.cols s.cols (by omega) le_rfl
      rw [h.cells.1]
      omega
    have hrow : (s.cells.drop (count * s.cols)).take (min s.cols newCols)
        = (s.rowCells count).take (min s.cols newCols) := by
      rw [TerminalScreen.rowCells, List.take_take, min_assoc, min_comm newCols, ← min_assoc,
        min_self]
    have hblank : (newRows - count) * newCols - min s.cols newCols
        = (newCols - min s.cols newCols) + (newRows - (count + 1)) * newCols := by omega
    have hcopy := memcpy_eq hdst hsrc
    rw [List.take_left' hlength, ← List.drop_drop, List.drop_left' hlength, List.drop_replicate,
      hrow, hblank, List.replicate_add] at hcopy
    rw [Int.natCast_mul, Int.natCast_mul] at hcopy
    rw [copyRows, ih (by omega), ok_bind, ofScreen_cells, ofScreen_cols]
    refine hcopy.trans (congrArg Except.ok ?_)
    rw [List.range_succ, List.flatMap_append, List.flatMap_singleton, copiedRow]
    simp only [List.append_assoc]

/-- The rows of the new screen: those copied, and blank ones. -/
theorem flatMap_newRow (s : TerminalScreen) (newRows newCols : ℕ) :
    (List.range newRows).flatMap
        (fun row => if row < min s.rows newRows then copiedRow s newCols row
          else List.replicate newCols blank)
      = (List.range (min s.rows newRows)).flatMap (copiedRow s newCols)
        ++ List.replicate ((newRows - min s.rows newRows) * newCols) blank := by
  obtain ⟨below, hbelow⟩ : ∃ below, newRows = min s.rows newRows + below :=
    ⟨newRows - min s.rows newRows, by omega⟩
  set copied := min s.rows newRows
  have hcopied :
      (List.range copied).flatMap
          (fun row => if row < copied then copiedRow s newCols row
            else List.replicate newCols blank)
        = (List.range copied).flatMap (copiedRow s newCols) :=
    List.flatMap_congr fun row hrow => if_pos (List.mem_range.mp hrow)
  have hblank (count : ℕ) : ((List.range count).map (copied + ·)).flatMap (fun row =>
      if row < copied then copiedRow s newCols row else List.replicate newCols blank)
      = List.replicate (count * newCols) blank := by
    induction count with
    | zero => rw [Nat.zero_mul]; rfl
    | succ count ih =>
      rw [List.range_succ, List.map_append, List.flatMap_append, ih, List.map_singleton,
        List.flatMap_singleton, if_neg (by omega), Nat.succ_mul, List.replicate_add]
  rw [hbelow, List.range_add, List.flatMap_append, hcopied, hblank, Nat.add_sub_cancel_left]

theorem resize_eq {s : TerminalState} (h : Fits s.toTerminalScreen)
    (hfilled : Filled s.toTerminalScreen tail) {rows cols : ℤ} (hrows : rows ≤ maxSide)
    (hcols : cols ≤ maxSide) :
    Fits (s.resize rows cols).toTerminalScreen ∧ Filled (s.resize rows cols).toTerminalScreen tail
      ∧ (ofState tail s).resize rows cols = .ok (ofState tail (s.resize rows cols)) := by
  have hwell := TerminalState.wellFormed_resize h.wellFormed rows cols
  have hnewRows := dimension_le hrows (by decide : terminalDefaultRows ≤ maxSide)
  have hnewCols := dimension_le hcols (by decide : terminalDefaultCols ≤ maxSide)
  have hrowsPos := TerminalState.dimension_pos_of_default rows (by decide : 0 < terminalDefaultRows)
  have hcolsPos := TerminalState.dimension_pos_of_default cols (by decide : 0 < terminalDefaultCols)
  simp only [TerminalMachine.resize, TerminalState.resize, dimensionOr_eq] at hwell ⊢
  generalize dimension rows terminalDefaultRows = newRows at *
  generalize dimension cols terminalDefaultCols = newCols at *
  by_cases hsame : newRows = s.rows ∧ newCols = s.cols
  · have hsame' : (newRows : ℤ) = (ofState tail s).rows ∧ (newCols : ℤ) = (ofState tail s).cols :=
      ⟨congrArg Nat.cast hsame.1, congrArg Nat.cast hsame.2⟩
    rw [if_pos hsame, if_pos hsame']
    exact ⟨h, hfilled, rfl⟩
  · have hsame' :
        ¬ ((newRows : ℤ) = (ofState tail s).rows ∧ (newCols : ℤ) = (ofState tail s).cols) :=
      fun heq => hsame ⟨Int.ofNat.inj heq.1, Int.ofNat.inj heq.2⟩
    rw [if_neg hsame] at hwell ⊢
    rw [if_neg hsame']
    refine ⟨⟨hwell, hnewRows, hnewCols⟩, hfilled, ?_⟩
    have hcopy :=
      @copyRows_eq s.sequence tail s.toTerminalScreen h.wellFormed newRows newCols _ le_rfl
    rw [← flatMap_newRow] at hcopy
    have hcount : (min (s.rows : ℤ) newRows).toNat = min s.rows newRows := by omega
    have hwidth : min (s.cols : ℤ) newCols = ↑(min s.cols newCols) := by omega
    change ((ofScreen s.sequence tail s.toTerminalScreen).copyRows newCols (min s.cols newCols)
      (List.replicate (newRows * newCols) blank) (min (s.rows : ℤ) newRows).toNat >>= _) = _
    rw [hcount, hwidth, hcopy, ok_bind]
    change (clampSide s.cursorRow newRows >>= _) = _
    rw [clampSide_eq _ hrowsPos hnewRows, ok_bind]
    change (clampSide s.cursorCol newCols >>= _) = _
    rw [clampSide_eq _ hcolsPos hnewCols, ok_bind]
    change (clampSide s.savedRow newRows >>= _) = _
    rw [clampSide_eq _ hrowsPos hnewRows, ok_bind]
    change (clampSide s.savedCol newCols >>= _) = _
    rw [clampSide_eq _ hcolsPos hnewCols, ok_bind]
    rfl

/-! ### Snapshots -/

theorem snapshotLines_eq {s : TerminalState} (h : s.WellFormed) :
    (ofState tail s).snapshotLines = .ok s.snapshot.lines := by
  refine mapM_eq fun row hrow => ?_
  have hrange : row * s.cols + s.cols ≤ s.cells.length := by
    rw [h.cells.1]
    exact rowOffset_add_le (List.mem_range.mp hrow) le_rfl
  have hload := load_eq hrange
  rw [Int.natCast_mul] at hload
  change (load s.cells (row * s.cols) s.cols >>= _) = _
  rw [hload, ok_bind]
  rfl

/-! ## Runs -/

end TerminalMachine

/-- A call on the terminal. -/
inductive TerminalCall
  | feed (data : List UInt8)
  | resize (rows cols : ℤ)

/-- A resize asks for at most `maxSide` rows and columns. -/
def TerminalCall.Bounded : TerminalCall → Prop
  | feed _ => True
  | resize rows cols => rows ≤ maxSide ∧ cols ≤ maxSide

namespace TerminalMachine

/-- One call. -/
def step (m : TerminalMachine) : TerminalCall → Except Fault TerminalMachine
  | .feed data => m.feed data
  | .resize rows cols => m.resize rows cols

end TerminalMachine

namespace TerminalState

/-- One call, on the model. -/
def step (s : TerminalState) : TerminalCall → TerminalState
  | .feed data => s.feed data
  | .resize rows cols => s.resize rows cols

end TerminalState

namespace TerminalMachine

variable {tail : List UInt8}

/-- **The machine refines the model**: over any calls no check fails, and the machine is in the
state of the model. -/
theorem run_eq {s : TerminalState} (h : Fits s.toTerminalScreen)
    (hfilled : Filled s.toTerminalScreen tail) (calls : List TerminalCall)
    (hcalls : ∀ call ∈ calls, call.Bounded) :
    ∃ tail', Fits (calls.foldl TerminalState.step s).toTerminalScreen
      ∧ Filled (calls.foldl TerminalState.step s).toTerminalScreen tail'
      ∧ calls.foldlM step (ofState tail s)
        = .ok (ofState tail' (calls.foldl TerminalState.step s)) := by
  induction calls generalizing s tail with
  | nil => exact ⟨tail, h, hfilled, rfl⟩
  | cons call calls ih =>
    have hrest := fun call hcall => hcalls call (List.mem_cons_of_mem _ hcall)
    obtain ⟨tail₁, hfits₁, hfilled₁, hcall⟩ : ∃ tail', Fits (s.step call).toTerminalScreen
        ∧ Filled (s.step call).toTerminalScreen tail'
        ∧ (ofState tail s).step call = .ok (ofState tail' (s.step call)) := by
      cases call with
      | feed data => exact feed_eq h hfilled data
      | resize rows cols =>
        obtain ⟨hrows, hcols⟩ := hcalls _ List.mem_cons_self
        exact ⟨tail, resize_eq h hfilled hrows hcols⟩
    obtain ⟨tail₂, hfits₂, hfilled₂, hcalls⟩ := ih hfits₁ hfilled₁ hrest
    refine ⟨tail₂, hfits₂, hfilled₂, ?_⟩
    rw [List.foldlM_cons, hcall, ok_bind, hcalls, List.foldl_cons]

/-- The representation invariant, as the fields of the C structure have it. -/
structure Representation (m : TerminalMachine) : Prop where
  cells_length : m.cells.length = m.rows * m.cols
  cursorRow : 0 ≤ m.cursorRow ∧ m.cursorRow ≤ m.rows - 1
  cursorCol : 0 ≤ m.cursorCol ∧ m.cursorCol ≤ m.cols - 1
  savedRow : 0 ≤ m.savedRow ∧ m.savedRow ≤ m.rows - 1
  savedCol : 0 ≤ m.savedCol ∧ m.savedCol ≤ m.cols - 1
  cells : ∀ ch ∈ m.cells, 0x20 ≤ ch ∧ ch ≤ 0x7E ∨ 0x80 ≤ ch
  csiBuf_length : m.csiBuf.length = csiBufSize
  csiLen : m.csiLen ≤ 127
  flags : m.inEscape.toNat + m.inCsi.toNat + m.inEscapeCharset.toNat ≤ 1

theorem isCell_iff (ch : UInt8) : isCell ch ↔ 0x20 ≤ ch ∧ ch ≤ 0x7E ∨ 0x80 ≤ ch := by
  rw [isCell, isPrint, Bool.or_eq_true, Bool.and_eq_true, decide_eq_true_eq, decide_eq_true_eq,
    decide_eq_true_eq]

theorem Fits.representation {s : TerminalState} (h : Fits s.toTerminalScreen)
    (hfilled : Filled s.toTerminalScreen tail) : (ofState tail s).Representation := by
  obtain ⟨hwell, -, -⟩ := h
  have hrow := hwell.cursorRow_lt
  have hcol := hwell.cursorCol_lt
  have hsavedRow := hwell.savedRow_lt
  have hsavedCol := hwell.savedCol_lt
  have hcsi := hwell.csiBuf_lt
  have hflags := hwell.flags
  rw [csiBufSize] at hcsi
  exact {
    cells_length := (congrArg Nat.cast hwell.cells.1).trans (Int.natCast_mul _ _)
    cursorRow := by simp only [ofState, ofScreen_cursorRow, ofScreen_rows]; omega
    cursorCol := by simp only [ofState, ofScreen_cursorCol, ofScreen_cols]; omega
    savedRow := by simp only [ofState, ofScreen_savedRow, ofScreen_rows]; omega
    savedCol := by simp only [ofState, ofScreen_savedCol, ofScreen_cols]; omega
    cells := fun ch hch => (isCell_iff ch).mp (hwell.cells.2 ch hch)
    csiBuf_length := List.length_append.trans hfilled
    csiLen := by simp only [ofState, ofScreen_csiLen]; omega
    flags := by
      simp only [ofState, ofScreen_inEscape, ofScreen_inCsi, ofScreen_inEscapeCharset]
      omega }

end TerminalMachine

open TerminalMachine in
/-- **The representation invariant of the terminal.**  Created with, fed and resized to at most a
thousand rows and columns, the terminal never leaves its buffers or the range of `int`, keeps its
representation, and has only characters that print in the lines of its snapshot. -/
theorem terminal_representation (rows cols : ℤ) (calls : List TerminalCall) (hrows : rows ≤ maxSide)
    (hcols : cols ≤ maxSide) (hcalls : ∀ call ∈ calls, call.Bounded) :
    ∃ m, calls.foldlM step (init rows cols) = .ok m ∧ m.Representation
      ∧ ∃ lines, m.snapshotLines = .ok lines
        ∧ ∀ line ∈ lines, ∀ ch ∈ line.bytes, 0x20 ≤ ch ∧ ch ≤ 0x7E ∨ 0x80 ≤ ch := by
  obtain ⟨tail, hfits, hfilled, hrun⟩ :=
    run_eq (fits_init hrows hcols) (filled_init rows cols) calls
    hcalls
  rw [init_eq]
  refine ⟨_, hrun, hfits.representation hfilled, _, snapshotLines_eq hfits.wellFormed, ?_⟩
  intro line hline ch hch
  exact (isCell_iff ch).mp (TerminalState.isCell_of_mem_snapshot hfits.wellFormed hline hch)

open TerminalMachine in
theorem terminal_representation_wide :
    ∃ m, [.feed [0x1B, 0x5B, 0x39, 0x39, 0x43, 0x61], .resize 1000 (-1)].foldlM step (init 2 5)
      = .ok m
      ∧ m.Representation
      ∧ ∃ lines, m.snapshotLines = .ok lines
        ∧ ∀ line ∈ lines, ∀ ch ∈ line.bytes, 0x20 ≤ ch ∧ ch ≤ 0x7E ∨ 0x80 ≤ ch :=
  terminal_representation 2 5 _ (by decide) (by decide)
    (List.forall_mem_cons.mpr ⟨trivial, List.forall_mem_singleton.mpr ⟨by decide, by decide⟩⟩)

end TmuxRemote
