import TmuxRemote.Terminal.Text

/-!
# Terminal/Escapes — designations of character sets, and operating system commands

After `ESC` the parser takes one byte, and one more behind `( ) * + - . /`.  What a longer sequence
has left is put on the screen as text (`foldl_bytes`), which then is as it was only where that text
says what stood there before (`consumed_iff`).
-/

namespace TmuxRemote

open CLib

/-! ## Sequences -/

/-- `ESC I F`: what designates a character set. -/
structure Designation where
  first : UInt8
  intermediates : List UInt8
  final : UInt8
  first_mem : first ∈ ([0x28, 0x29, 0x2A, 0x2B, 0x2D, 0x2E, 0x2F, 0x24, 0x25] : List UInt8)
  intermediates_range : ∀ ch ∈ intermediates, 0x20 ≤ ch ∧ ch ≤ 0x2F
  final_range : 0x30 ≤ final ∧ final ≤ 0x7E

/-- A sequence that a terminal has to consume. -/
inductive EscapeSequence
  | designation (d : Designation)
  /-- `ESC ] s BEL`, or `ESC ] s ESC \` -/
  | command (text : List UInt8) (hprint : ∀ ch ∈ text, isPrint ch) (bell : Bool)

namespace EscapeSequence

def bytes : EscapeSequence → List UInt8
  | designation d => 0x1B :: d.first :: (d.intermediates ++ [d.final])
  | command text _ bell => 0x1B :: 0x5D :: (text ++ if bell then [0x07] else [0x1B, 0x5C])

/-- What the parser takes for text. -/
def rendered : EscapeSequence → List UInt8
  | designation d =>
    if TerminalScreen.isCharsetIntermediate d.first then (d.intermediates ++ [d.final]).tail
    else d.intermediates ++ [d.final]
  | command text _ _ => text

theorem isCell_of_range {ch : UInt8} (h : 0x20 ≤ ch ∧ ch ≤ 0x7E) : isCell ch := by
  rw [isCell, isPrint, decide_eq_true h.1, decide_eq_true h.2]
  rfl

theorem isCell_of_mem_rendered {q : EscapeSequence} {ch : UInt8} (h : ch ∈ q.rendered) :
    isCell ch := by
  cases q with
  | designation d =>
    have hmem : ch ∈ d.intermediates ++ [d.final] := by
      rw [rendered] at h
      split_ifs at h
      · exact List.mem_of_mem_tail h
      · exact h
    refine isCell_of_range ?_
    rw [List.mem_append, List.mem_singleton] at hmem
    obtain hmem | rfl := hmem
    · obtain ⟨hlow, hhigh⟩ := d.intermediates_range ch hmem
      exact ⟨hlow, UInt8.le_trans hhigh (by decide)⟩
    · exact ⟨UInt8.le_trans (by decide) d.final_range.1, d.final_range.2⟩
  | command text hprint bell => rw [isCell, hprint ch h, Bool.true_or]

end EscapeSequence

/-! ## The parser -/

namespace TerminalScreen

section
variable {s : TerminalScreen}

/-- Flags that are set and taken back. -/
theorem Idle.with_eq (h : s.Idle) :
    { s with inEscape := false, inEscapeCharset := false, inCsi := false } = s := by
  cases s
  obtain ⟨rfl, rfl, rfl⟩ := h
  rfl

/-- `ESC` and a byte that stands for nothing. -/
theorem Idle.feedByte_two (h : s.Idle) {ch : UInt8} (hbracket : ch ≠ 0x5B)
    (hcharset : isCharsetIntermediate ch = false) : (s.feedByte 0x1B).feedByte ch = s := by
  have hescape : s.feedByte 0x1B = { s with inEscape := true } := h.feedByte 0x1B
  rw [hescape, TerminalScreen.feedByte]
  simp only [h.inEscapeCharset, h.inCsi, hcharset, beq_eq_false_iff_ne.mpr hbracket,
    Bool.false_eq_true, if_false, if_true]
  exact h.with_eq

/-- `ESC`, an intermediate byte and whatever comes next. -/
theorem Idle.feedByte_three (h : s.Idle) {ch : UInt8} (hcharset : isCharsetIntermediate ch = true)
    (next : UInt8) : ((s.feedByte 0x1B).feedByte ch).feedByte next = s := by
  have hescape : s.feedByte 0x1B = { s with inEscape := true } := h.feedByte 0x1B
  have hbracket : (ch == 0x5B) = false := by
    refine beq_eq_false_iff_ne.mpr fun heq => ?_
    rw [heq] at hcharset
    exact nomatch hcharset
  have hdesignates : (s.feedByte 0x1B).feedByte ch =
      { s with inEscape := false, inEscapeCharset := true, inCsi := false } := by
    rw [hescape, TerminalScreen.feedByte]
    simp only [h.inEscapeCharset, h.inCsi, hcharset, hbracket, Bool.false_eq_true, if_false,
      if_true]
  rw [hdesignates, TerminalScreen.feedByte]
  simp only [if_true]
  exact h.with_eq

/-- A bell makes no difference. -/
theorem Idle.feedByte_bell (h : s.Idle) : s.feedByte 0x07 = s := h.feedByte 0x07

end

end TerminalScreen

/-- **A sequence is its text to the parser**: all else of it is consumed. -/
theorem EscapeSequence.foldl_bytes {s : TerminalScreen} (h : s.Idle) (q : EscapeSequence) :
    q.bytes.foldl TerminalScreen.feedByte s = q.rendered.foldl TerminalScreen.putChar s := by
  have hcells : ∀ ch ∈ q.rendered, isCell ch := fun _ => isCell_of_mem_rendered
  obtain ⟨hchars, hidle⟩ := h.foldl_chars hcells
  cases q with
  | designation d =>
    rw [bytes, List.foldl_cons, List.foldl_cons]
    rw [← hchars, rendered]
    by_cases hcharset : TerminalScreen.isCharsetIntermediate d.first = true
    · rw [if_pos hcharset]
      obtain ⟨next, rest, heq⟩ := List.exists_cons_of_ne_nil
        (List.append_ne_nil_of_right_ne_nil d.intermediates (List.cons_ne_nil d.final []))
      rw [heq, List.foldl_cons, h.feedByte_three hcharset, List.tail_cons]
    · rw [if_neg hcharset, h.feedByte_two _ ((Bool.not_eq_true _).mp hcharset)]
      intro hbracket
      have hmem := d.first_mem
      rw [hbracket] at hmem
      exact absurd hmem (by decide)
  | command text hprint bell =>
    rw [bytes, List.foldl_cons, List.foldl_cons, h.feedByte_two (by decide) (by decide),
      List.foldl_append]
    have htext : text.foldl TerminalScreen.feedByte s = text.foldl TerminalScreen.putChar s :=
      hchars
    have hidle' : (text.foldl TerminalScreen.putChar s).Idle := hidle
    rw [htext, rendered]
    cases bell with
    | true => exact hidle'.feedByte_bell
    | false => exact hidle'.feedByte_two (by decide) (by decide)

/-! ## When the text leaves no trace -/

/-- Nothing of the screen is other than before, and the next byte is taken as it stands. -/
structure Consumed (s s' : TerminalScreen) : Prop where
  cells : s'.cells = s.cells
  cursorRow : s'.cursorRow = s.cursorRow
  cursorCol : s'.cursorCol = s.cursorCol
  idle : s'.Idle

/-- **Text that leaves the screen as it is**, if any.  It takes up whole rows, and the cursor is on
the last row.  One row then has its last characters already.  On several rows, the screen up to the
cursor ends as it does with the text behind it, and the rest is blank. -/
def LeavesScreen (s : TerminalScreen) (chars : List UInt8) : Prop :=
  if s.rows = 1 then
    s.cols ∣ chars.length ∧ ∀ i ch, chars[i]? = some ch → chars.length ≤ i + s.cols →
      s.cells[(s.cursorCol + i) % s.cols]? = some ch
  else
    chars = [] ∨ (s.cursorRow + 1 = s.rows ∧ s.cols ∣ chars.length
      ∧ s.cells.take (s.cursorRow * s.cols + s.cursorCol)
        <:+ s.cells.take (s.cursorRow * s.cols + s.cursorCol) ++ chars
      ∧ ∀ ch ∈ s.cells.drop (s.cursorRow * s.cols + s.cursorCol), ch = blank)

namespace TerminalScreen

section
variable {s : TerminalScreen} {chars : List UInt8}

/-- A list is a suffix of itself with something behind, element by element. -/
theorem suffix_append_iff {u xs : List UInt8} :
    u <:+ u ++ xs ↔ ∀ k < u.length, (u ++ xs)[xs.length + k]? = u[k]? := by
  have hdrop : (u ++ xs).length - u.length = xs.length := by
    rw [List.length_append, Nat.add_sub_cancel_left]
  rw [List.suffix_iff_eq_drop, hdrop]
  constructor
  · intro heq k _
    conv_rhs => rw [heq]
    rw [List.getElem?_drop]
  · intro hsame
    refine List.ext_getElem? fun k => ?_
    rw [List.getElem?_drop]
    by_cases hk : k < u.length
    · exact (hsame k hk).symm
    · rw [List.getElem?_eq_none (Nat.not_lt.mp hk), List.getElem?_eq_none]
      rw [List.length_append]
      omega

theorem forall_mem_drop_iff {xs : List UInt8} {n : ℕ} {b : UInt8} :
    (∀ a ∈ xs.drop n, a = b) ↔ ∀ k, n ≤ k → k < xs.length → xs[k]? = some b := by
  constructor
  · intro hall k hn hk
    have hx := List.getElem?_eq_getElem hk
    rw [hx, hall xs[k]]
    refine List.mem_of_getElem? (i := k - n) ?_
    rw [List.getElem?_drop, Nat.add_sub_cancel' hn, hx]
  · intro hall a ha
    obtain ⟨j, hj, rfl⟩ := List.getElem_of_mem ha
    rw [List.length_drop] at hj
    have hx := hall (n + j) (Nat.le_add_right n j) (by omega)
    rw [← List.getElem?_drop, List.getElem?_eq_getElem (by rw [List.length_drop]; omega)] at hx
    exact Option.some.inj hx

/-- The cursor is on the screen. -/
theorem WellFormed.pos_lt (h : s.WellFormed) : s.sheet.pos < s.rows * s.cols := by
  have hin := rowOffset_add_le h.cursorRow_lt (Nat.succ_le_of_lt h.cursorCol_lt)
  exact Nat.lt_of_lt_of_le (Nat.lt_succ_self _) hin

/-- What the sheet of a screen has after some text. -/
theorem look_puts_sheet (h : s.WellFormed) (i : ℕ) :
    (s.sheet.puts chars).look i =
      if i < s.sheet.pos + chars.length then ((s.cells.take s.sheet.pos ++ chars)[i]?).getD blank
      else s.cells[i]?.getD blank := by
  have htake : (s.cells.take s.sheet.pos).length = s.sheet.pos := by
    rw [List.length_take, h.length_cells, Nat.min_eq_left h.pos_lt.le]
  split_ifs with hput
  · by_cases hbefore : i < s.sheet.pos
    · rw [Sheet.look_puts_of_lt chars hbefore, List.getElem?_append_left (by rwa [htake]),
        List.getElem?_take_of_lt hbefore, sheet_look]
    · obtain ⟨j, rfl⟩ : ∃ j, i = s.sheet.pos + j := ⟨i - s.sheet.pos, by omega⟩
      have hchar := List.getElem?_eq_getElem (show j < chars.length by omega)
      rw [Sheet.look_puts_add hchar, List.getElem?_append_right (by omega), htake,
        Nat.add_sub_cancel_left, hchar, Option.getD_some]
  · rw [Sheet.look_puts_of_le (by omega), sheet_look]

theorem WellFormed.leaves_oneRow_iff (h : s.WellFormed) (hrows : s.rows = 1)
    (hchars : ∀ ch ∈ chars, isCell ch) :
    ((chars.foldl TerminalScreen.putChar s).cells = s.cells
        ∧ (chars.foldl TerminalScreen.putChar s).cursorRow = s.cursorRow
        ∧ (chars.foldl TerminalScreen.putChar s).cursorCol = s.cursorCol) ↔
      LeavesScreen s chars := by
  obtain ⟨hover, hcol⟩ := h.overprinted hrows hchars
  have hrow : (chars.foldl TerminalScreen.putChar s).cursorRow = s.cursorRow := by
    have hlt := (h.foldl_putChar hchars).cursorRow_lt
    have hrows' : (chars.foldl TerminalScreen.putChar s).rows = s.rows :=
      congrArg Prod.snd (size_foldl_putChar s chars)
    have := h.cursorRow_lt
    omega
  have hcells := hover.eq_iff h.cols_pos (by rw [h.length_cells, hrows, Nat.one_mul])
  have hback : (s.cursorCol + chars.length) % s.cols = s.cursorCol ↔ s.cols ∣ chars.length := by
    have hmod := Nat.mod_eq_of_lt h.cursorCol_lt
    constructor
    · intro heq
      have hsub := Nat.sub_mod_eq_zero_of_mod_eq (heq.trans hmod.symm)
      rw [Nat.add_sub_cancel_left] at hsub
      exact Nat.dvd_of_mod_eq_zero hsub
    · rintro ⟨k, hk⟩
      rw [hk, Nat.add_mul_mod_self_left, hmod]
  rw [LeavesScreen, if_pos hrows, ← hcells, hcol, hback]
  exact ⟨fun ⟨hsame, _, hdvd⟩ => ⟨hdvd, hsame⟩, fun ⟨hdvd, hsame⟩ => ⟨hsame, hrow, hdvd⟩⟩

/-- What the cells have after some text on two rows or more. -/
theorem WellFormed.getElem?_cells_foldl_putChar (h : s.WellFormed) (hrows : 2 ≤ s.rows)
    (hchars : ∀ ch ∈ chars, isCell ch) {k : ℕ} (hk : k < s.rows * s.cols) :
    (chars.foldl TerminalScreen.putChar s).cells[k]?
      = some ((s.sheet.puts chars).look
        ((s.sheet.puts chars).scrolled s.cols s.rows * s.cols + k)) := by
  have hshows := (h.shows_sheet hrows).puts hchars
  obtain ⟨hcols', hrows'⟩ := Prod.mk.inj (size_foldl_putChar s chars)
  have hcell := hshows.cells (hrows'.symm ▸ hcols'.symm ▸ hk)
  rwa [hcols', hrows'] at hcell

/-- The cells of text that begins on the last row, when as many rows go out as it takes up. -/
theorem WellFormed.cells_foldl_putChar_eq_iff (h : s.WellFormed) (hrows : 2 ≤ s.rows)
    (hchars : ∀ ch ∈ chars, isCell ch)
    (hlength : chars.length = (s.sheet.puts chars).scrolled s.cols s.rows * s.cols)
    (hsome : chars ≠ []) (hlast : s.cursorRow + 1 = s.rows) :
    (chars.foldl TerminalScreen.putChar s).cells = s.cells ↔
      s.cells.take s.sheet.pos <:+ s.cells.take s.sheet.pos ++ chars
        ∧ ∀ ch ∈ s.cells.drop s.sheet.pos, ch = blank := by
  have hlen := h.length_cells
  have hpos_lt := h.pos_lt
  have hsome' := List.length_pos_iff.mpr hsome
  have hbehind : s.rows * s.cols ≤ s.sheet.pos + chars.length := by
    have hpos : s.sheet.pos = s.cursorRow * s.cols + s.cursorCol := rfl
    have hrow : s.rows * s.cols = s.cursorRow * s.cols + s.cols := by rw [← hlast, Nat.succ_mul]
    have hone : s.cols ≤ chars.length := by
      rw [hlength]
      refine Nat.le_mul_of_pos_left _ (Nat.pos_of_ne_zero fun hzero => ?_)
      rw [hzero, Nat.zero_mul] at hlength
      omega
    rw [hpos]
    omega
  have htake : (s.cells.take s.sheet.pos).length = s.sheet.pos := by
    rw [List.length_take, hlen, Nat.min_eq_left hpos_lt.le]
  have hcell {k : ℕ} (hk : k < s.rows * s.cols) :
      (chars.foldl TerminalScreen.putChar s).cells[k]? =
        if k < s.sheet.pos then (s.cells.take s.sheet.pos ++ chars)[chars.length + k]?
        else some blank := by
    rw [h.getElem?_cells_foldl_putChar hrows hchars hk, ← hlength, look_puts_sheet h,
      Nat.add_comm s.sheet.pos]
    by_cases hbefore : k < s.sheet.pos
    · have hin : chars.length + k < (s.cells.take s.sheet.pos ++ chars).length := by
        rw [List.length_append, htake]
        omega
      rw [if_pos (Nat.add_lt_add_left hbefore _), if_pos hbefore, List.getElem?_eq_getElem hin,
        Option.getD_some]
    · rw [if_neg (by omega), if_neg hbefore, List.getElem?_eq_none (by omega), Option.getD_none]
  rw [suffix_append_iff, forall_mem_drop_iff, htake]
  constructor
  · intro hsame
    refine ⟨fun k hk => ?_, fun k hk hlt => ?_⟩
    · have hread := hcell (hk.trans hpos_lt)
      rw [if_pos hk, hsame] at hread
      rw [← hread, List.getElem?_take_of_lt hk]
    · have hread := hcell (hlen ▸ hlt)
      rwa [if_neg (Nat.not_lt.mpr hk), hsame] at hread
  · rintro ⟨hsuffix, hblank⟩
    refine List.ext_getElem? fun k => ?_
    by_cases hk : k < s.rows * s.cols
    · rw [hcell hk]
      split_ifs with hbefore
      · rw [hsuffix k hbefore, List.getElem?_take_of_lt hbefore]
      · exact (hblank k (Nat.not_lt.mp hbefore) (hlen.symm ▸ hk)).symm
    · obtain ⟨hcols', hrows'⟩ := Prod.mk.inj (size_foldl_putChar s chars)
      have hlen' := (h.foldl_putChar hchars).length_cells
      rw [hcols', hrows'] at hlen'
      rw [List.getElem?_eq_none (by omega), List.getElem?_eq_none (by omega)]

theorem WellFormed.leaves_rows_iff (h : s.WellFormed) (hrows : 2 ≤ s.rows)
    (hchars : ∀ ch ∈ chars, isCell ch) :
    ((chars.foldl TerminalScreen.putChar s).cells = s.cells
        ∧ (chars.foldl TerminalScreen.putChar s).cursorRow = s.cursorRow
        ∧ (chars.foldl TerminalScreen.putChar s).cursorCol = s.cursorCol) ↔
      LeavesScreen s chars := by
  have hshows := (h.shows_sheet hrows).puts hchars
  obtain ⟨hcols, hrows'⟩ := Prod.mk.inj (size_foldl_putChar s chars)
  have hpos : s.sheet.pos = s.cursorRow * s.cols + s.cursorCol := rfl
  have hcursor := hshows.cursor
  have hdiv := hshows.pos_div
  rw [hcols, hrows', Sheet.pos_puts] at hcursor
  rw [hcols, hrows', Sheet.pos_puts] at hdiv
  have hout : (s.sheet.puts chars).scrolled s.cols s.rows
      = (s.sheet.pos + chars.length) / s.cols + 1 - s.rows := by
    rw [Sheet.scrolled, Sheet.pos_puts]
  rw [LeavesScreen, if_neg (by omega)]
  constructor
  · rintro ⟨hsame, hrow, hcol⟩
    refine or_iff_not_imp_left.mpr fun hsome => ?_
    rw [hrow] at hcursor hdiv
    rw [hcol] at hcursor
    have hlength : chars.length = (s.sheet.puts chars).scrolled s.cols s.rows * s.cols := by
      rw [Nat.add_mul, hpos] at hcursor
      omega
    have hpos_length := List.length_pos_iff.mpr hsome
    have hscrolled : (s.sheet.puts chars).scrolled s.cols s.rows ≠ 0 := by
      intro hzero
      rw [hzero, Nat.zero_mul] at hlength
      omega
    have hlast : s.cursorRow + 1 = s.rows := by omega
    obtain ⟨hsuffix, hblank⟩ :=
      (h.cells_foldl_putChar_eq_iff hrows hchars hlength hsome hlast).mp hsame
    exact ⟨hlast, ⟨_, hlength.trans (Nat.mul_comm _ _)⟩, hsuffix, hblank⟩
  · rintro (rfl | ⟨hlast, ⟨k, hk⟩, hsuffix, hblank⟩)
    · exact ⟨rfl, rfl, rfl⟩
    · by_cases hsome : chars = []
      · subst hsome
        exact ⟨rfl, rfl, rfl⟩
      · have hrows_out : (s.sheet.pos + chars.length) / s.cols = s.cursorRow + k := by
          rw [hk, Nat.add_mul_div_left _ _ h.cols_pos, h.sheet_pos_div]
        have hscrolled : (s.sheet.puts chars).scrolled s.cols s.rows = k := by omega
        have hlength : chars.length = (s.sheet.puts chars).scrolled s.cols s.rows * s.cols := by
          rw [hscrolled, hk, Nat.mul_comm]
        rw [hscrolled] at hdiv hcursor
        have hrow : (chars.foldl TerminalScreen.putChar s).cursorRow = s.cursorRow := by omega
        refine ⟨(h.cells_foldl_putChar_eq_iff hrows hchars hlength hsome hlast).mpr
          ⟨hsuffix, hblank⟩, hrow, ?_⟩
        rw [hrow, Nat.add_mul, hk, Nat.mul_comm s.cols, hpos] at hcursor
        omega

/-- **When text leaves the screen as it is.** -/
theorem WellFormed.leaves_iff (h : s.WellFormed) (hchars : ∀ ch ∈ chars, isCell ch) :
    ((chars.foldl TerminalScreen.putChar s).cells = s.cells
        ∧ (chars.foldl TerminalScreen.putChar s).cursorRow = s.cursorRow
        ∧ (chars.foldl TerminalScreen.putChar s).cursorCol = s.cursorCol) ↔
      LeavesScreen s chars := by
  have hpos := h.rows_pos
  by_cases hone : s.rows = 1
  · exact h.leaves_oneRow_iff hone hchars
  · exact h.leaves_rows_iff (by omega) hchars

end

end TerminalScreen

/-! ## When a sequence is consumed -/

/-- **An escape sequence leaves no trace** just where the text that the parser takes it for leaves
none. -/
theorem consumed_iff {s : TerminalState} (h : s.Reachable) (hidle : s.Idle) (q : EscapeSequence)
    {chunks : List (List UInt8)} (hchunks : chunks.flatten = q.bytes) :
    Consumed s.toTerminalScreen (feedChunks s chunks).toTerminalScreen ↔
      LeavesScreen s.toTerminalScreen q.rendered := by
  have hcells : ∀ ch ∈ q.rendered, isCell ch := fun _ => EscapeSequence.isCell_of_mem_rendered
  have hfed : (feedChunks s chunks).toTerminalScreen
      = q.rendered.foldl TerminalScreen.putChar s.toTerminalScreen := by
    rw [feedChunks_toTerminalScreen, hchunks, TerminalState.feed_toTerminalScreen,
      q.foldl_bytes hidle]
  have hidle' := (hidle.foldl_chars hcells).2
  rw [hfed, ← h.wellFormed.leaves_iff hcells]
  exact ⟨fun hc => ⟨hc.cells, hc.cursorRow, hc.cursorCol⟩,
    fun ⟨hsame, hrow, hcol⟩ => ⟨hsame, hrow, hcol, hidle'⟩⟩

/-- No text leaves every screen as it is. -/
theorem leavesScreen_nil (s : TerminalScreen) : LeavesScreen s [] := by
  rw [LeavesScreen]
  split_ifs
  · exact ⟨Nat.dvd_zero _, nofun⟩
  · exact Or.inl rfl

/-- `ESC ( B` -/
def designateAscii : EscapeSequence :=
  .designation ⟨0x28, [], 0x42, by decide, nofun, by decide⟩

/-- `ESC ( % 5` -/
def designateLong : EscapeSequence :=
  .designation
    ⟨0x28, [0x25], 0x35, by decide, List.forall_mem_singleton.mpr (by decide), by decide⟩

/-- `ESC ( B` behind a path. -/
theorem consumed_designateAscii :
    Consumed ((TerminalState.init 4 30).feed [0x2F, 0x65, 0x74, 0x63]).toTerminalScreen
      (feedChunks ((TerminalState.init 4 30).feed [0x2F, 0x65, 0x74, 0x63])
        [[0x1B], [0x28, 0x42]]).toTerminalScreen :=
  (consumed_iff ((TerminalState.Reachable.init 4 30).feed _) (by decide +kernel) designateAscii
    (by decide)).mpr (leavesScreen_nil _)

/-- **A second intermediate byte** makes the final one text. -/
theorem designateLong_rendered :
    ¬ ∀ s : TerminalState, s.Reachable → s.Idle →
      ∀ (q : EscapeSequence) (chunks : List (List UInt8)), chunks.flatten = q.bytes →
      Consumed s.toTerminalScreen (feedChunks s chunks).toTerminalScreen := by
  intro hall
  have hconsumed := hall _ (TerminalState.Reachable.init 4 30) (by decide +kernel) designateLong
    [designateLong.bytes] (by decide)
  exact absurd hconsumed.cursorCol (by decide +kernel)

end TmuxRemote
