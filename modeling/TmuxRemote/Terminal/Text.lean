import TmuxRemote.Library.Utf8
import TmuxRemote.Terminal.Scrolling

/-!
# Terminal/Text — what a fresh screen shows of lines of text

Lines are fed to a fresh terminal, joined by a newline.  A cell holds a byte, and a character in the
last column goes to the next line at once.  So a line of as many bytes as there are columns, or
more, takes up a row for each time it fills one, and those below are shifted (`showsLines_iff`).
-/

namespace TmuxRemote

open CLib

/-- Without its trailing spaces. -/
def trimmed (line : List UInt8) : List UInt8 := line.rdropWhile (· == blank)

/-- The snapshot has the lines without their trailing spaces, and nothing below. -/
def ShowsLines (snapshot : TerminalSnapshot) (lines : List (List UInt8)) : Prop :=
  snapshot.lines.length = snapshot.rows
    ∧ ∀ i < snapshot.rows,
      (snapshot.lines[i]?).map CString.bytes = some (trimmed ((lines[i]?).getD []))

instance (snapshot : TerminalSnapshot) (lines : List (List UInt8)) :
    Decidable (ShowsLines snapshot lines) := inferInstanceAs (Decidable (_ ∧ _))

/-- As many lines as there are rows are all that the snapshot has. -/
theorem ShowsLines.map_bytes {snapshot : TerminalSnapshot} {lines : List (List UInt8)}
    (h : ShowsLines snapshot lines) (hlength : lines.length = snapshot.rows) :
    snapshot.lines.map CString.bytes = lines.map trimmed := by
  refine List.ext_getElem? fun i => ?_
  rw [List.getElem?_map, List.getElem?_map]
  by_cases hi : i < snapshot.rows
  · rw [h.2 i hi, List.getElem?_eq_getElem (hlength.symm ▸ hi), Option.getD_some, Option.map_some]
  · rw [List.getElem?_eq_none (h.1.symm ▸ not_lt.mp hi),
      List.getElem?_eq_none (hlength.symm ▸ not_lt.mp hi), Option.map_none, Option.map_none]

/-- Bytes that go to the start of the next line, and do nothing else. -/
def IsNewline (newline : List UInt8) : Prop :=
  ∀ s : TerminalScreen, s.Idle → newline.foldl TerminalScreen.feedByte s = s.advanceLine

theorem isNewline_lf : IsNewline [0x0A] := fun _ h => h.feedByte 0x0A

theorem isNewline_crlf : IsNewline [0x0D, 0x0A] := by
  intro s h
  have hreturn : s.feedByte 0x0D = { s with cursorCol := 0 } := h.feedByte 0x0D
  have hidle : ({ s with cursorCol := 0 } : TerminalScreen).Idle :=
    ⟨h.inEscape, h.inEscapeCharset, h.inCsi⟩
  rw [List.foldl_cons, List.foldl_cons, List.foldl_nil, hreturn, hidle.feedByte,
    ← TerminalScreen.WellFormed.advanceLine_eq s]
  rfl

/-- Lines of bytes that are put on the screen. -/
def AreLines (lines : List (List UInt8)) : Prop := ∀ line ∈ lines, ∀ ch ∈ line, isCell ch

/-- **When the screen shows the lines.**  Each fits into a row, up to its trailing spaces.  On a
screen of one row, what is printed over is blank; on others, the lines that are not blank are
shifted by as many rows as go out of the screen. -/
structure FitsScreen (rows cols : ℕ) (lines : List (List UInt8)) : Prop where
  width : ∀ line ∈ lines, (trimmed line).length ≤ cols
  oneRow : rows = 1 → ∀ line ∈ lines, ∀ ch ∈ line.take (line.length - cols), ch = blank
  shift : rows ≠ 1 → ∀ i line, lines[i]? = some line → trimmed line ≠ [] →
    Sheet.shiftOf cols lines i = Sheet.startRow cols lines lines.length - rows

/-- Lines of fewer bytes than there are columns. -/
theorem fitsScreen_of_lt {rows cols : ℕ} {lines : List (List UInt8)} (hlength : lines.length ≤ rows)
    (hlines : ∀ line ∈ lines, line.length < cols) : FitsScreen rows cols lines := by
  have hshift (i : ℕ) : Sheet.shiftOf cols lines i = 0 := by
    refine List.sum_eq_zero fun filled hfilled => ?_
    obtain ⟨line, hline, rfl⟩ := List.mem_map.mp hfilled
    exact Nat.div_eq_of_lt (hlines line (List.mem_of_mem_take hline))
  refine ⟨fun line hline => ?_, fun _ line hline ch hch => ?_, fun _ i line _ _ => ?_⟩
  · exact (List.rdropWhile_prefix _ _).length_le.trans (hlines line hline).le
  · rw [Nat.sub_eq_zero_of_le (hlines line hline).le, List.take_zero] at hch
    exact absurd hch List.not_mem_nil
  · rw [hshift, Sheet.startRow, hshift]
    omega

/-! ## Snapshots -/

namespace TerminalScreen

variable {s : TerminalScreen}

theorem ne_zero_of_isCell {ch : UInt8} (h : isCell ch) : ch ≠ 0 := by
  rintro rfl
  exact absurd h (by decide)

/-- A line of the snapshot is a row without its trailing blanks. -/
theorem WellFormed.bytes_trimRowCopy (h : s.WellFormed) {row : ℕ} (hrow : row < s.rows) :
    (s.trimRowCopy row).bytes = trimmed (s.rowCells row) := by
  have hcells := (h.isCells_rowCells hrow).2
  have htrim : (s.rowCells row).rdropWhile (fun ch => ch == blank || ch == 0)
      = trimmed (s.rowCells row) := by
    refine Sheet.rdropWhile_congr fun ch hch => ?_
    rw [beq_eq_false_iff_ne.mpr (ne_zero_of_isCell (hcells ch hch)), Bool.or_false]
  rw [trimRowCopy, htrim, CString.ofBytes_of_nulFree]
  exact fun ch hch => ne_zero_of_isCell (hcells ch ((List.rdropWhile_prefix _ _).subset hch))

end TerminalScreen

theorem showsLines_snapshot_iff {s : TerminalState} (h : s.WellFormed) (lines : List (List UInt8)) :
    ShowsLines s.snapshot lines ↔
      ∀ row < s.rows, trimmed (s.rowCells row) = trimmed ((lines[row]?).getD []) := by
  have hlines : s.snapshot.lines = (List.range s.rows).map s.trimRowCopy := rfl
  have hline {row : ℕ} (hrow : row < s.rows) :
      (s.snapshot.lines[row]?).map CString.bytes = some (trimmed (s.rowCells row)) := by
    rw [hlines, List.getElem?_map, List.getElem?_range hrow, Option.map_some, Option.map_some,
      h.bytes_trimRowCopy hrow]
  constructor
  · intro hshows row hrow
    have hsame := hshows.2 row hrow
    rw [hline hrow] at hsame
    exact Option.some.inj hsame
  · intro hsame
    refine ⟨by rw [hlines, List.length_map, List.length_range]; rfl, fun row hrow => ?_⟩
    rw [hline hrow, hsame row hrow]

/-! ## A screen of several rows -/

section
variable {rows cols : ℕ} {newline : List UInt8} {lines : List (List UInt8)}

/-- The lines but the last, each followed by a newline, and then the last. -/
theorem intercalate_concat (newline : List UInt8) (lines : List (List UInt8)) (line : List UInt8) :
    newline.intercalate (lines ++ [line]) = lines.flatMap (· ++ newline) ++ line := by
  induction lines with
  | nil => rw [List.nil_append, List.intercalate_singleton, List.flatMap_nil, List.nil_append]
  | cons l lines ih =>
    rw [List.cons_append, List.intercalate_cons_of_ne_nil (by simp), ih, List.flatMap_cons,
      List.append_assoc, List.append_assoc, List.append_assoc]

/-- Lines, each followed by a newline, are laid on the sheet. -/
theorem laid_lines {s : TerminalScreen} (hs : s.WellFormed) (hrows : 2 ≤ s.rows) (hidle : s.Idle)
    (hblank : ∀ ch ∈ s.cells, ch = blank) (hhome : s.cursorRow = 0 ∧ s.cursorCol = 0)
    (hnewline : IsNewline newline) (hlines : AreLines lines) :
    ∃ t, ((lines.flatMap (· ++ newline)).foldl TerminalScreen.feedByte s).Shows t
      ∧ ((lines.flatMap (· ++ newline)).foldl TerminalScreen.feedByte s).Idle
      ∧ ((lines.flatMap (· ++ newline)).foldl TerminalScreen.feedByte s).size = s.size
      ∧ Sheet.Laid s.cols blank lines t := by
  induction lines using List.reverseRecOn with
  | nil =>
    refine ⟨s.sheet, hs.shows_sheet hrows, hidle, rfl, Sheet.laid_nil (fun k => ?_) ?_⟩
    · rw [TerminalScreen.sheet_look]
      cases hk : s.cells[k]? with
      | none => rfl
      | some ch => exact hblank ch (List.mem_of_getElem? hk)
    · rw [TerminalScreen.sheet, hhome.1, hhome.2, Nat.zero_mul]
  | append_singleton lines line ih =>
    obtain ⟨hinit, hlast⟩ := List.forall_mem_append.mp hlines
    obtain ⟨t, hshows, hidle', hsize, hlaid⟩ := ih hinit
    have hline := hlast line (List.mem_singleton_self line)
    obtain ⟨hchars, hidle''⟩ := hidle'.foldl_chars hline
    rw [List.flatMap_append, List.flatMap_singleton, List.foldl_append, List.foldl_append, hchars,
      hnewline _ hidle'']
    have hsize' := (TerminalScreen.size_foldl_putChar _ line).trans hsize
    have hprinted := (hshows.puts hline).lineFeed
    have hcols : (line.foldl TerminalScreen.putChar
        ((lines.flatMap (· ++ newline)).foldl TerminalScreen.feedByte s)).cols = s.cols :=
      congrArg Prod.fst hsize'
    rw [hcols] at hprinted
    exact ⟨_, hprinted, hidle''.advanceLine, (TerminalScreen.size_advanceLine _).trans hsize',
      hlaid.puts hs.cols_pos line⟩

/-- Nothing was fed. -/
theorem showsLines_nil {s : TerminalState} (hs : s.WellFormed)
    (hblank : ∀ ch ∈ s.cells, ch = blank) :
    ShowsLines s.snapshot [] := by
  refine (showsLines_snapshot_iff hs []).mpr fun row hrow => ?_
  have hnil : trimmed (s.rowCells row) = [] := by
    refine List.rdropWhile_eq_nil_iff.mpr fun ch hch => ?_
    exact beq_iff_eq.mpr (hblank ch (List.mem_of_mem_drop (List.mem_of_mem_take hch)))
  rw [hnil]
  rfl

/-- **Several rows.** -/
theorem showsLines_rows_iff {s : TerminalState} (hs : s.WellFormed) (hrows : 2 ≤ s.rows)
    (hidle : s.Idle) (hblank : ∀ ch ∈ s.cells, ch = blank)
    (hhome : s.cursorRow = 0 ∧ s.cursorCol = 0)
    (hnewline : IsNewline newline) (hlines : AreLines lines) (hlength : lines.length ≤ s.rows) :
    ShowsLines (s.feed (newline.intercalate lines)).snapshot lines ↔
      FitsScreen s.rows s.cols lines := by
  obtain rfl | ⟨init, line, rfl⟩ := List.eq_nil_or_concat' lines
  · exact iff_of_true (showsLines_nil hs hblank) ⟨nofun, fun _ => nofun, fun _ _ _ => nofun⟩
  · obtain ⟨hinit, hlast⟩ := List.forall_mem_append.mp hlines
    have hline := hlast line (List.mem_singleton_self line)
    obtain ⟨t, hshows, hidle', hsize, hlaid⟩ :=
      laid_lines hs hrows hidle hblank hhome hnewline hinit
    have hfeed : (s.feed (newline.intercalate (init ++ [line]))).toTerminalScreen
        = line.foldl TerminalScreen.putChar
          ((init.flatMap (· ++ newline)).foldl TerminalScreen.feedByte s.toTerminalScreen) := by
      rw [TerminalState.feed_toTerminalScreen, intercalate_concat, List.foldl_append,
        (hidle'.foldl_chars hline).1]
    have hprinted := hshows.puts hline
    have hsize' := (TerminalScreen.size_foldl_putChar _ line).trans hsize
    rw [← hfeed] at hprinted hsize'
    obtain ⟨hcols, hrows'⟩ := Prod.mk.inj hsize'
    have hall := hlaid.puts hs.cols_pos line
    -- the row below the head is the one that the next line would start in
    have hnext : (t.puts line).pos / s.cols + 1
        = Sheet.startRow s.cols (init ++ [line]) (init ++ [line]).length :=
      Nat.eq_of_mul_eq_mul_right hs.cols_pos hall.pos
    have hout : (t.puts line).scrolled s.cols s.rows
        = Sheet.startRow s.cols (init ++ [line]) (init ++ [line]).length - s.rows := by
      rw [Sheet.scrolled, hnext]
    have hshown := @Sheet.Laid.shown_iff UInt8 s.cols blank (· == blank) (init ++ [line])
      ((t.puts line).lineFeed s.cols) hall hs.cols_pos rfl s.rows
        ((t.puts line).scrolled s.cols s.rows)
      hlength (by rw [hout]; omega)
    have hrow (row : ℕ) (hrow : row < s.rows) :
        (s.feed (newline.intercalate (init ++ [line]))).rowCells row
          = (t.puts line).row s.cols (row + (t.puts line).scrolled s.cols s.rows) := by
      have hcells := hprinted.rowCells (hrows'.symm ▸ hrow)
      rwa [hcols, hrows'] at hcells
    rw [showsLines_snapshot_iff hprinted.wellFormed, hrows']
    constructor
    · intro hsame
      obtain ⟨hwidth, hshift⟩ := hshown.mp fun row hlt =>
        (congrArg trimmed (hrow row hlt)).symm.trans (hsame row hlt)
      refine ⟨hwidth, fun hone => absurd hone (by omega), fun _ i l hi hne => ?_⟩
      rw [hshift i l hi hne, hout]
    · intro hfits row hlt
      rw [hrow row hlt]
      refine hshown.mpr ⟨hfits.width, fun i l hi hne => ?_⟩ row hlt
      rw [hfits.shift (by omega) i l hi hne, hout]

/-! ## A screen of one row -/

/-- **One row.** -/
theorem showsLines_oneRow_iff {s : TerminalState} (hs : s.WellFormed) (hrows : s.rows = 1)
    (hidle : s.Idle) (hblank : ∀ ch ∈ s.cells, ch = blank)
    (hhome : s.cursorRow = 0 ∧ s.cursorCol = 0)
    (hlines : AreLines lines) (hlength : lines.length ≤ s.rows) :
    ShowsLines (s.feed (newline.intercalate lines)).snapshot lines ↔
      FitsScreen s.rows s.cols lines := by
  obtain rfl | ⟨init, line, rfl⟩ := List.eq_nil_or_concat' lines
  · exact iff_of_true (showsLines_nil hs hblank) ⟨nofun, fun _ => nofun, fun _ _ _ => nofun⟩
  · obtain rfl : init = [] := by
      rw [List.length_append, List.length_singleton, hrows] at hlength
      exact List.length_eq_zero_iff.mp (by omega)
    have hline := hlines line (List.mem_singleton_self line)
    have hfeed : (s.feed (newline.intercalate [line])).toTerminalScreen
        = line.foldl TerminalScreen.putChar s.toTerminalScreen := by
      rw [TerminalState.feed_toTerminalScreen, List.intercalate_singleton,
        (hidle.foldl_chars hline).1]
    have hwf := hs.foldl_putChar hline
    obtain ⟨hcols, hrows'⟩ :=
      Prod.mk.inj (TerminalScreen.size_foldl_putChar s.toTerminalScreen line)
    have hcells : s.cells = List.replicate s.cols blank := by
      rw [List.eq_replicate_iff, hs.length_cells, hrows, Nat.one_mul]
      exact ⟨rfl, hblank⟩
    have hover := (hs.overprinted hrows hline).1
    rw [hcells, hhome.2] at hover
    have hiff := @Strip.Overprinted.rdropWhile_eq_iff _ _ _ _ _ (· == blank) hover hs.cols_pos rfl
      fun ch _ hch => beq_iff_eq.mp hch
    have hrow : (line.foldl TerminalScreen.putChar s.toTerminalScreen).rowCells 0
        = (line.foldl TerminalScreen.putChar s.toTerminalScreen).cells := by
      rw [TerminalScreen.rowCells, Nat.zero_mul, List.drop_zero]
      refine List.take_of_length_le ?_
      rw [hwf.length_cells, hrows', hrows, Nat.one_mul]
    rw [List.nil_append, showsLines_snapshot_iff (hfeed ▸ hwf), hfeed, hrows', hrows]
    constructor
    · intro hsame
      have hzero := hsame 0 Nat.one_pos
      rw [hrow] at hzero
      obtain ⟨hwidth, hprinted⟩ := hiff.mp hzero
      refine ⟨fun l hl => ?_, fun _ l hl => ?_, fun hne => absurd rfl hne⟩
      · rwa [List.mem_singleton.mp hl]
      · rwa [List.mem_singleton.mp hl]
    · intro hfits row hlt
      obtain rfl : row = 0 := by omega
      rw [hrow]
      have hmem := List.mem_singleton_self line
      exact hiff.mpr ⟨hfits.width line hmem, hfits.oneRow rfl line hmem⟩

end

/-! ## A fresh terminal -/

/-- **Lines of text on a fresh terminal.** -/
theorem showsLines_iff {rows cols : ℕ} {newline : List UInt8} {lines : List (List UInt8)}
    (hrows : 0 < rows) (hcols : 0 < cols) (hnewline : IsNewline newline) (hlines : AreLines lines)
    (hlength : lines.length ≤ rows) :
    ShowsLines ((TerminalState.init rows cols).feed (newline.intercalate lines)).snapshot lines ↔
      FitsScreen rows cols lines := by
  have hwf := TerminalState.wellFormed_init rows cols
  obtain ⟨hcols', hrows'⟩ := Prod.mk.inj (TerminalState.size_init hrows hcols)
  have hidle : (TerminalState.init rows cols).Idle := ⟨rfl, rfl, rfl⟩
  have hblank : ∀ ch ∈ (TerminalState.init rows cols).cells, ch = blank :=
    fun ch hch => List.eq_of_mem_replicate hch
  rw [← hrows'] at hlength
  by_cases hone : rows = 1
  · have hiff := @showsLines_oneRow_iff newline _ _ hwf (hrows'.trans hone) hidle hblank ⟨rfl, rfl⟩
      hlines hlength
    rwa [hrows', hcols'] at hiff
  · have hiff := showsLines_rows_iff hwf (by omega) hidle hblank ⟨rfl, rfl⟩ hnewline hlines hlength
    rwa [hrows', hcols'] at hiff

/-! ## Plain text -/

/-- The lines that have as many bytes as there are columns. -/
def fullLines (cols : ℕ) (lines : List (List UInt8)) : ℕ :=
  lines.countP fun line => line.length == cols

/-- Lines no longer than a row fill one only if they are as long. -/
theorem shiftOf_eq_fullLines {cols : ℕ} {lines : List (List UInt8)} (hcols : 0 < cols)
    (hlines : ∀ line ∈ lines, line.length ≤ cols) (i : ℕ) :
    Sheet.shiftOf cols lines i = fullLines cols (lines.take i) := by
  have hall : ∀ line ∈ lines.take i, line.length ≤ cols := fun line hline =>
    hlines line (List.mem_of_mem_take hline)
  rw [Sheet.shiftOf]
  generalize lines.take i = above at hall ⊢
  induction above with
  | nil => rfl
  | cons line rest ih =>
    obtain ⟨hline, hrest⟩ := List.forall_mem_cons.mp hall
    rw [List.map_cons, List.sum_cons, ih hrest, fullLines, fullLines, List.countP_cons,
      Nat.add_comm]
    by_cases hfull : line.length = cols
    · rw [hfull, Nat.div_self hcols, if_pos (beq_self_eq_true cols)]
    · rw [Nat.div_eq_of_lt (by omega), if_neg (by rwa [beq_iff_eq])]

/-- **Plain text renders line for line** on a screen of one row, and elsewhere just where each line
with something to see has as many full lines above it as rows go out of the screen. -/
theorem plainText_iff {rows cols : ℕ} {lines : List (List UInt8)} (hrows : 1 ≤ rows)
    (hcols : 1 ≤ cols)
    (hlength : lines.length ≤ rows)
    (hlines : ∀ line ∈ lines, line.length ≤ cols ∧ ∀ ch ∈ line, isPrint ch) :
    ShowsLines ((TerminalState.init rows cols).feed ([0x0A].intercalate lines)).snapshot lines ↔
      rows = 1 ∨ ∀ i line, lines[i]? = some line → trimmed line ≠ [] →
        fullLines cols (lines.take i) = lines.length + fullLines cols lines - rows := by
  have hcells : AreLines lines := fun line hline ch hch => by
    rw [isCell, (hlines line hline).2 ch hch, Bool.true_or]
  have hshift := shiftOf_eq_fullLines hcols fun line hline => (hlines line hline).1
  have hstart : Sheet.startRow cols lines lines.length = lines.length + fullLines cols lines := by
    rw [Sheet.startRow, hshift, List.take_length]
  rw [showsLines_iff hrows hcols isNewline_lf hcells hlength]
  constructor
  · intro hfits
    refine or_iff_not_imp_left.mpr fun hne i line hi htrim => ?_
    rw [← hshift, hfits.shift hne i line hi htrim, hstart]
  · intro hcond
    refine ⟨fun line hline => ?_, fun _ line hline ch hch => ?_, fun hne i line hi htrim => ?_⟩
    · exact (List.rdropWhile_prefix _ _).length_le.trans (hlines line hline).1
    · rw [Nat.sub_eq_zero_of_le (hlines line hline).1, List.take_zero] at hch
      exact absurd hch List.not_mem_nil
    · rw [hshift, hcond.resolve_left hne i line hi htrim, hstart]

/-- `hello` and `world` on five rows of twenty columns. -/
theorem plainText_hello :
    ShowsLines ((TerminalState.init 5 20).feed
      ([0x0A].intercalate
        [[0x68, 0x65, 0x6C, 0x6C, 0x6F], [0x77, 0x6F, 0x72, 0x6C, 0x64]])).snapshot
      [[0x68, 0x65, 0x6C, 0x6C, 0x6F], [0x77, 0x6F, 0x72, 0x6C, 0x64]] := by
  refine (@plainText_iff 5 20 _ (by decide) (by decide) (by decide) (by simp [isPrint])).mpr
    (Or.inr ?_)
  intro i line hi _
  have hlt : i < 2 := (List.getElem?_eq_some_iff.mp hi).1
  obtain rfl | rfl : i = 0 ∨ i = 1 := by omega
  · decide
  · decide

/-- **A line as wide as the screen** puts a blank row before the next one. -/
theorem plainText_fullLine :
    ¬ ∀ (rows cols : ℕ) (lines : List (List UInt8)), 1 ≤ rows → rows ≤ 1000 → 1 ≤ cols →
      cols ≤ 1000 → lines.length ≤ rows →
      (∀ line ∈ lines, line.length ≤ cols ∧ ∀ ch ∈ line, isPrint ch) →
      ShowsLines ((TerminalState.init rows cols).feed
        ([0x0A].intercalate lines)).snapshot lines := by
  intro hall
  have hshows := hall 3 2 [[0x61, 0x62], [0x63]] (by decide) (by decide) (by decide) (by decide)
    (by decide) (by simp [isPrint])
  exact absurd hshows (by decide +kernel)

/-! ## UTF-8 -/

/-- A character that takes up a column is no control character of ASCII. -/
def TakesColumn (c : Char) : Prop := 0x20 ≤ c.toNat ∧ c.toNat ≠ 0x7F

instance (c : Char) : Decidable (TakesColumn c) := inferInstanceAs (Decidable (_ ∧ _))

theorem isCell_of_mem_encode {chars : List Char} (h : ∀ c ∈ chars, TakesColumn c) {ch : UInt8}
    (hch : ch ∈ Utf8.encode chars) : isCell ch := by
  obtain ⟨c, hc, hmem⟩ := List.mem_flatMap.mp hch
  obtain ⟨hlow, hdel⟩ := h c hc
  by_cases hascii : ch.toNat < 128
  · have hchar := Utf8.toNat_of_mem_utf8EncodeChar hmem hascii
    simp only [isCell, isPrint, Bool.or_eq_true, Bool.and_eq_true, decide_eq_true_eq, ge_iff_le,
      UInt8.le_iff_toNat_le, UInt8.reduceToNat]
    omega
  · simp only [isCell, Bool.or_eq_true, decide_eq_true_eq, ge_iff_le, UInt8.le_iff_toNat_le,
      UInt8.reduceToNat]
    omega

/-- The terminal after chunks of PTY bytes. -/
def feedChunks (s : TerminalState) (chunks : List (List UInt8)) : TerminalState :=
  chunks.foldl TerminalState.feed s

theorem feedChunks_toTerminalScreen (s : TerminalState) (chunks : List (List UInt8)) :
    (feedChunks s chunks).toTerminalScreen = (s.feed chunks.flatten).toTerminalScreen := by
  induction chunks generalizing s with
  | nil => rfl
  | cons chunk chunks ih =>
    have hrest := ih (s.feed chunk)
    rw [TerminalState.feed_feed_toTerminalScreen] at hrest
    exact hrest

/-- What a snapshot shows is on the screen. -/
theorem showsLines_congr {s t : TerminalState} (h : s.toTerminalScreen = t.toTerminalScreen)
    (lines : List (List UInt8)) : ShowsLines s.snapshot lines ↔ ShowsLines t.snapshot lines := by
  rw [ShowsLines, ShowsLines, TerminalState.snapshot, TerminalState.snapshot, h]

/-- The lines of a snapshot that shows text are text. -/
theorem ShowsLines.wellFormed {snapshot : TerminalSnapshot} {texts : List (List Char)}
    (h : ShowsLines snapshot (texts.map Utf8.encode)) :
    ∀ line ∈ snapshot.lines, Utf8.WellFormed line.bytes := by
  intro line hline
  obtain ⟨i, hi, rfl⟩ := List.getElem_of_mem hline
  have hsame := h.2 i (h.1 ▸ hi)
  rw [List.getElem?_eq_getElem hi, Option.map_some, List.getElem?_map] at hsame
  rw [Option.some.inj hsame]
  refine Utf8.WellFormed.rdropWhile ?_
  cases texts[i]? with
  | none => exact Utf8.wellFormed_encode []
  | some text => exact Utf8.wellFormed_encode text

/-- **UTF-8 text keeps its rows** just where its bytes do: the lines fit the screen when a column is
counted for each byte. -/
theorem utf8Text_iff {rows cols : ℕ} {texts : List (List Char)} {chunks : List (List UInt8)}
    (hrows : 1 ≤ rows) (hcols : 2 ≤ cols) (hlength : texts.length ≤ rows)
    (htexts : ∀ text ∈ texts, text.length < cols ∧ ∀ c ∈ text, TakesColumn c)
    (hchunks : chunks.flatten = [0x0D, 0x0A].intercalate (texts.map Utf8.encode)) :
    (ShowsLines (feedChunks (TerminalState.init rows cols) chunks).snapshot (texts.map Utf8.encode)
        ∧ ∀ line ∈ (feedChunks (TerminalState.init rows cols) chunks).snapshot.lines,
          Utf8.WellFormed line.bytes) ↔
      FitsScreen rows cols (texts.map Utf8.encode) := by
  have hcells : AreLines (texts.map Utf8.encode) := by
    intro line hline ch hch
    obtain ⟨text, htext, rfl⟩ := List.mem_map.mp hline
    exact isCell_of_mem_encode (htexts text htext).2 hch
  have hfed : (feedChunks (TerminalState.init rows cols) chunks).toTerminalScreen
      = ((TerminalState.init rows cols).feed
        ([0x0D, 0x0A].intercalate (texts.map Utf8.encode))).toTerminalScreen := by
    rw [feedChunks_toTerminalScreen, hchunks]
  have hiff := showsLines_iff hrows (Nat.lt_of_lt_of_le Nat.two_pos hcols) isNewline_crlf hcells
    (by rwa [List.length_map])
  rw [← hiff, ← showsLines_congr hfed]
  exact ⟨fun h => h.1, fun h => ⟨h, h.wellFormed⟩⟩

/-- Two letters with an umlaut on two rows of eight columns, in two chunks. -/
theorem utf8Text_umlauts :
    ShowsLines
      (feedChunks (TerminalState.init 2 8) [[0xC3], [0xA4, 0x0D, 0x0A, 0xC3, 0xB6]]).snapshot
      ([['ä'], ['ö']].map Utf8.encode) := by
  have hfits : FitsScreen 2 8 ([['ä'], ['ö']].map Utf8.encode) :=
    fitsScreen_of_lt (by decide) (by decide)
  exact ((utf8Text_iff (by decide) (by decide) (by decide) (by simp [TakesColumn]) (by decide)).mpr
    hfits).1

/-- **Two characters of two bytes each** do not fit into a row of three columns. -/
theorem utf8Text_wraps :
    ¬ ∀ (rows cols : ℕ) (texts : List (List Char)) (chunks : List (List UInt8)), 1 ≤ rows →
      rows ≤ 1000 → 2 ≤ cols → cols ≤ 1000 → texts.length ≤ rows →
      (∀ text ∈ texts, text.length < cols ∧ ∀ c ∈ text, TakesColumn c) →
      chunks.flatten = [0x0D, 0x0A].intercalate (texts.map Utf8.encode) →
      ShowsLines (feedChunks (TerminalState.init rows cols) chunks).snapshot (texts.map Utf8.encode)
        ∧ ∀ line ∈ (feedChunks (TerminalState.init rows cols) chunks).snapshot.lines,
          Utf8.WellFormed line.bytes := by
  intro hall
  obtain ⟨hshows, -⟩ :=
    hall 2 3 [['ä', 'ö']] [Utf8.encode ['ä', 'ö']] (by decide) (by decide) (by decide)
    (by decide) (by decide) (by simp [TakesColumn]) (by decide)
  exact absurd hshows (by decide +kernel)

end TmuxRemote
