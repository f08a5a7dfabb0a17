import TmuxRemote.Library.CString

/-!
# Terminal/State — the screen the detector reads (`tmuxremote_terminal_state.c`)

The terminal keeps one flat buffer of `rows * cols` cells, a cursor, a saved cursor and the parser
flags; these are its `TerminalScreen`.  The state adds the sequence number, which no byte reads.
`feed` interprets PTY bytes one at a time; `snapshot` copies the rows out as strings without
trailing blanks.  Row and column positions are naturals: every place the code computes one that
could be negative clamps it to `0` at once, and the clamp is taken over the integers here too.
-/

namespace TmuxRemote

open CLib

/-- `TERMINAL_DEFAULT_ROWS` -/
def terminalDefaultRows : ℕ := 48

/-- `TERMINAL_DEFAULT_COLS` -/
def terminalDefaultCols : ℕ := 160

/-- `sizeof(csi_buf)` -/
def csiBufSize : ℕ := 128

/-- `tmuxremote_terminal_state` without its sequence number: all that the bytes of the PTY
change. -/
structure TerminalScreen where
  rows : ℕ
  cols : ℕ
  cursorRow : ℕ
  cursorCol : ℕ
  savedRow : ℕ
  savedCol : ℕ
  altScreen : Bool
  cells : List UInt8
  inEscape : Bool
  inEscapeCharset : Bool
  inCsi : Bool
  /-- The first `csi_len` bytes of `csi_buf`. -/
  csiBuf : List UInt8
  deriving DecidableEq

/-- `tmuxremote_terminal_state` -/
structure TerminalState extends TerminalScreen where
  sequence : UInt64
  deriving DecidableEq

/-- `tmuxremote_terminal_snapshot` -/
structure TerminalSnapshot where
  sequence : UInt64
  rows : ℕ
  cols : ℕ
  cursorRow : ℕ
  cursorCol : ℕ
  altScreen : Bool
  lines : List CString
  deriving DecidableEq

/-- The blank every erased cell holds. -/
def blank : UInt8 := 0x20

/-- `clamp_int` -/
def clampInt (value minimum maximum : ℤ) : ℤ :=
  if value < minimum then minimum else if value > maximum then maximum else value

/-- A position clamped into a screen side of `size` cells. -/
def clampPos (value : ℤ) (size : ℕ) : ℕ := (clampInt value 0 (size - 1)).toNat

/-- `memset(cells + offset, ' ', count)` -/
def blankCells (cells : List UInt8) (offset count : ℕ) : List UInt8 :=
  cells.take offset ++ List.replicate count blank ++ cells.drop (offset + count)

/-- An `int` dimension, or the default when it is not positive. -/
def dimension (value : ℤ) (default : ℕ) : ℕ := if value > 0 then value.toNat else default

/-- A positive dimension is taken as it is. -/
theorem dimension_pos {n default : ℕ} (hn : 0 < n) : dimension n default = n := by
  rw [dimension, if_pos (Int.natCast_pos.mpr hn), Int.toNat_natCast]

namespace TerminalScreen

/-- The cells of one row. -/
def rowCells (s : TerminalScreen) (row : ℕ) : List UInt8 :=
  (s.cells.drop (row * s.cols)).take s.cols

/-! ## Cell operations -/

/-- `clear_screen` -/
def clearScreen (s : TerminalScreen) : TerminalScreen :=
  { s with cells := blankCells s.cells 0 (s.rows * s.cols) }

/-- `clear_line_range` -/
def clearLineRange (s : TerminalScreen) (row : ℕ) (colStart colEnd : ℤ) : TerminalScreen :=
  if row ≥ s.rows then s
  else
    let colStart := clampPos colStart s.cols
    let colEnd := clampPos colEnd s.cols
    if colEnd < colStart then s
    else { s with cells := blankCells s.cells (row * s.cols + colStart) (colEnd - colStart + 1) }

/-- `scroll_up`: a screen of one row is left as it is. -/
def scrollUp (s : TerminalScreen) : TerminalScreen :=
  if s.rows ≤ 1 then s
  else { s with cells := (s.cells.drop s.cols).take (s.cols * (s.rows - 1))
            ++ List.replicate s.cols blank }

/-- `advance_line` -/
def advanceLine (s : TerminalScreen) : TerminalScreen :=
  if s.cursorRow + 1 ≥ s.rows then
    { s.scrollUp with cursorCol := 0, cursorRow := s.rows - 1 }
  else { s with cursorCol := 0, cursorRow := s.cursorRow + 1 }

/-- `put_char` -/
def putChar (s : TerminalScreen) (ch : UInt8) : TerminalScreen :=
  let row := clampPos s.cursorRow s.rows
  let col := clampPos s.cursorCol s.cols
  let s := { s with
    cells := s.cells.set (row * s.cols + col) ch, cursorRow := row, cursorCol := col + 1 }
  if s.cursorCol ≥ s.cols then s.advanceLine else s

/-! ## Control sequences -/

/-- `parse_int_token` -/
def parseIntToken (token : List UInt8) (defaultValue : ℤ) : ℤ :=
  match strtol token with
  | none => defaultValue
  | some value => if value < 0 then defaultValue else if value > 100000 then 100000 else value

/-- The tokens between the `;`, each cut to the 31 bytes `char token[32]` has room for. -/
def paramTokens (params : List UInt8) : List (List UInt8) :=
  (params.splitOn 0x3B).map (·.take 31)

/-- `get_param` -/
def getParam (params : CString) (index : ℕ) (defaultValue : ℤ) : ℤ :=
  if params.isEmpty then defaultValue
  else
    let start := if params.bytes.head? = some 0x3F then params.bytes.tail else params.bytes
    match (paramTokens start)[index]? with
    | some token => parseIntToken token defaultValue
    | none => defaultValue

/-- A decimal token up to 100000 is its number. -/
theorem parseIntToken_decimal {n : ℕ} (hle : n ≤ 100000) (defaultValue : ℤ) :
    parseIntToken (decimal n) defaultValue = n := by
  have hnot : ¬ ((n : ℤ) < 0) := by omega
  have hcap : ¬ ((n : ℤ) > 100000) := by omega
  rw [parseIntToken, strtol_decimal]
  simp only [if_neg hnot, if_neg hcap]

/-- **A parameter is the decimal number in its place.** -/
theorem getParam_decimal {params : CString} {ns : List ℕ}
    (hparams : params.bytes = [0x3B].intercalate (ns.map decimal)) {index n : ℕ}
    (hn : ns[index]? = some n) (hle : n ≤ 100000) (defaultValue : ℤ) :
    getParam params index defaultValue = n := by
  have hne : ns.map decimal ≠ [] := by
    intro hnil
    rw [List.map_eq_nil_iff.mp hnil] at hn
    exact nomatch hn
  have hsplit : params.bytes.splitOn 0x3B = ns.map decimal := by
    rw [hparams]
    refine List.splitOn_intercalate 0x3B (fun token htoken hmem => ?_) hne
    obtain ⟨m, -, rfl⟩ := List.mem_map.mp htoken
    exact absurd (isDigit_of_mem_decimal _ hmem) (by decide)
  -- the text starts with a digit: it is not empty, and no `?` is skipped
  obtain ⟨c, rest, hbytes, hc⟩ : ∃ c rest, params.bytes = c :: rest ∧ isDigit c = true := by
    obtain ⟨m, ms, rfl⟩ := List.exists_cons_of_ne_nil (mt List.map_eq_nil_iff.mpr hne)
    obtain ⟨c, cs, hcs⟩ := List.exists_cons_of_ne_nil (decimal_ne_nil m)
    have hc : isDigit c = true := isDigit_of_mem_decimal c (hcs ▸ List.mem_cons_self)
    cases ms with
    | nil => exact ⟨c, cs, by rw [hparams, List.map_singleton, List.intercalate_singleton, hcs], hc⟩
    | cons k ks =>
      refine ⟨c, cs ++ ([0x3B] ++ [0x3B].intercalate ((k :: ks).map decimal)), ?_, hc⟩
      rw [hparams, List.map_cons, List.map_cons, List.intercalate_cons_cons, hcs,
        List.append_assoc]
      rfl
  have hnotempty : params.isEmpty = false := by
    rw [CString.isEmpty, hbytes]
    rfl
  have hquestion : ¬ params.bytes.head? = some 0x3F := by
    rw [hbytes]
    intro hhead
    obtain rfl := Option.some.inj hhead
    exact absurd hc (by decide)
  have hshort : (decimal n).take 31 = decimal n :=
    List.take_of_length_le ((length_decimal_le (k := 5) (by omega)).trans (by decide))
  have htoken : (paramTokens params.bytes)[index]? = some (decimal n) := by
    rw [paramTokens, hsplit, List.getElem?_map, List.getElem?_map, hn, Option.map_some,
      Option.map_some, hshort]
  rw [getParam, hnotempty, if_neg Bool.false_ne_true, if_neg hquestion]
  dsimp only
  rw [htoken]
  exact parseIntToken_decimal hle defaultValue

/-- `has_private_mode` -/
def hasPrivateMode (params : CString) (mode : ℤ) : Bool :=
  params.bytes.head? == some 0x3F
    && (paramTokens params.bytes.tail).any fun token => parseIntToken token (-1) == mode

/-- `CSI J` -/
def eraseDisplay (s : TerminalScreen) (mode : ℤ) : TerminalScreen :=
  if mode = 2 ∨ mode = 3 then { s.clearScreen with cursorRow := 0, cursorCol := 0 }
  else if mode = 0 then
    (List.range' (s.cursorRow + 1) (s.rows - (s.cursorRow + 1))).foldl
      (fun s row => s.clearLineRange row 0 (s.cols - 1))
      (s.clearLineRange s.cursorRow s.cursorCol (s.cols - 1))
  else s

/-- `CSI K` -/
def eraseLine (s : TerminalScreen) (mode : ℤ) : TerminalScreen :=
  if mode = 0 then s.clearLineRange s.cursorRow s.cursorCol (s.cols - 1)
  else if mode = 1 then s.clearLineRange s.cursorRow 0 s.cursorCol
  else if mode = 2 then s.clearLineRange s.cursorRow 0 (s.cols - 1)
  else s

/-- `CSI X` -/
def eraseChars (s : TerminalScreen) (n : ℤ) : TerminalScreen :=
  let n := if n ≤ 0 then 1 else n
  s.clearLineRange s.cursorRow s.cursorCol (clampInt (s.cursorCol + n - 1) 0 (s.cols - 1))

/-- `CSI ? … h` and `CSI ? … l`: entering or leaving the alternate screen clears it. -/
def setAltScreen (s : TerminalScreen) (params : CString) (alt : Bool) : TerminalScreen :=
  if hasPrivateMode params 1049 || hasPrivateMode params 1047 || hasPrivateMode params 47 then
    { s.clearScreen with altScreen := alt, cursorRow := 0, cursorCol := 0 }
  else s

/-- `process_csi` -/
def processCsi (s : TerminalScreen) (params : CString) (final : UInt8) : TerminalScreen :=
  let n := getParam params
  match Char.ofNat final.toNat with
  | 'A' => { s with cursorRow := clampPos (s.cursorRow - n 0 1) s.rows }
  | 'B' => { s with cursorRow := clampPos (s.cursorRow + n 0 1) s.rows }
  | 'C' => { s with cursorCol := clampPos (s.cursorCol + n 0 1) s.cols }
  | 'D' => { s with cursorCol := clampPos (s.cursorCol - n 0 1) s.cols }
  | 'G' => { s with cursorCol := clampPos (n 0 1 - 1) s.cols }
  | 'd' => { s with cursorRow := clampPos (n 0 1 - 1) s.rows }
  | 'H' | 'f' =>
    { s with
      cursorRow := clampPos (n 0 1 - 1) s.rows
      cursorCol := clampPos (n 1 1 - 1) s.cols }
  | 'J' => s.eraseDisplay (n 0 0)
  | 'K' => s.eraseLine (n 0 0)
  | 'X' => s.eraseChars (n 0 1)
  | 's' => { s with savedRow := s.cursorRow, savedCol := s.cursorCol }
  | 'u' =>
    { s with
      cursorRow := clampPos s.savedRow s.rows
      cursorCol := clampPos s.savedCol s.cols }
  | 'h' => s.setAltScreen params true
  | 'l' => s.setAltScreen params false
  | _ => s

/-! ## Feeding bytes -/

/-- The bytes after `ESC` that designate a character set: `( ) * + - . /`. -/
def isCharsetIntermediate (ch : UInt8) : Bool :=
  ch == 0x28 || ch == 0x29 || ch == 0x2A || ch == 0x2B || ch == 0x2D || ch == 0x2E || ch == 0x2F

/-- One byte outside any sequence: the `switch` of `tmuxremote_terminal_state_feed`. -/
def plainByte (s : TerminalScreen) (ch : UInt8) : TerminalScreen :=
  match ch.toNat with
  | 0x1B => { s with inEscape := true }
  | 0x0D => { s with cursorCol := 0 }
  | 0x0A => s.advanceLine
  | 0x08 => { s with cursorCol := clampPos (s.cursorCol - 1) s.cols }
  | 0x09 =>
    let nextTab := (s.cursorCol / 8 + 1) * 8
    if nextTab ≥ s.cols then s.advanceLine else { s with cursorCol := nextTab }
  | _ => if isPrint ch || ch ≥ 0x80 then s.putChar ch else s

/-- One byte of `tmuxremote_terminal_state_feed`. -/
def feedByte (s : TerminalScreen) (ch : UInt8) : TerminalScreen :=
  if s.inEscapeCharset then { s with inEscapeCharset := false }
  else if s.inCsi then
    if ch ≥ 0x40 && ch ≤ 0x7E then
      { s.processCsi (CString.ofBytes s.csiBuf) ch with inCsi := false, csiBuf := [] }
    else if s.csiBuf.length + 1 < csiBufSize then { s with csiBuf := s.csiBuf ++ [ch] }
    else s
  else if s.inEscape then
    if ch == 0x5B then { s with inEscape := false, inCsi := true, csiBuf := [] }
    else if isCharsetIntermediate ch then { s with inEscape := false, inEscapeCharset := true }
    else { s with inEscape := false }
  else s.plainByte ch

/-- `trim_row_copy`: the row up to its last cell that is neither blank nor NUL. -/
def trimRowCopy (s : TerminalScreen) (row : ℕ) : CString :=
  CString.ofBytes ((s.rowCells row).rdropWhile fun ch => ch == blank || ch == 0)

end TerminalScreen

/-! ## The state -/

namespace TerminalState

/-- `tmuxremote_terminal_state_init` -/
def init (rows cols : ℤ) : TerminalState where
  sequence := 0
  rows := dimension rows terminalDefaultRows
  cols := dimension cols terminalDefaultCols
  cursorRow := 0
  cursorCol := 0
  savedRow := 0
  savedCol := 0
  altScreen := false
  cells := List.replicate
    (dimension rows terminalDefaultRows * dimension cols terminalDefaultCols) blank
  inEscape := false
  inEscapeCharset := false
  inCsi := false
  csiBuf := []

/-- `tmuxremote_terminal_state_resize`: the overlap of the two screens is copied row by row. -/
def resize (s : TerminalState) (rows cols : ℤ) : TerminalState :=
  let newRows := dimension rows terminalDefaultRows
  let newCols := dimension cols terminalDefaultCols
  if newRows = s.rows ∧ newCols = s.cols then s
  else
    let copyCols := min s.cols newCols
    let newRow (row : ℕ) : List UInt8 :=
      if row < min s.rows newRows then
        (s.rowCells row).take copyCols ++ List.replicate (newCols - copyCols) blank
      else List.replicate newCols blank
    { s with
      cells := (List.range newRows).flatMap newRow
      rows := newRows
      cols := newCols
      cursorRow := clampPos s.cursorRow newRows
      cursorCol := clampPos s.cursorCol newCols
      savedRow := clampPos s.savedRow newRows
      savedCol := clampPos s.savedCol newCols
      sequence := s.sequence + 1 }

/-- `tmuxremote_terminal_state_feed` -/
def feed (s : TerminalState) (data : List UInt8) : TerminalState :=
  if data.isEmpty then s
  else
    { toTerminalScreen := data.foldl TerminalScreen.feedByte s.toTerminalScreen
      sequence := s.sequence + 1 }

/-- `tmuxremote_terminal_state_snapshot` -/
def snapshot (s : TerminalState) : TerminalSnapshot where
  sequence := s.sequence
  rows := s.rows
  cols := s.cols
  cursorRow := s.cursorRow
  cursorCol := s.cursorCol
  altScreen := s.altScreen
  lines := (List.range s.rows).map s.trimRowCopy

/-- The screen after a feed is the bytes' effect, one after the other; `data` may be empty. -/
theorem feed_toTerminalScreen (s : TerminalState) (data : List UInt8) :
    (s.feed data).toTerminalScreen = data.foldl TerminalScreen.feedByte s.toTerminalScreen := by
  rcases data with - | ⟨ch, data⟩ <;> rfl

/-- **Feeding composes**: the screen after two feeds is the screen after one feed of both. -/
theorem feed_feed_toTerminalScreen (s : TerminalState) (xs ys : List UInt8) :
    ((s.feed xs).feed ys).toTerminalScreen = (s.feed (xs ++ ys)).toTerminalScreen := by
  rw [feed_toTerminalScreen, feed_toTerminalScreen, feed_toTerminalScreen, List.foldl_append]

end TerminalState

/-! ## The size

Only a resize changes it. -/

namespace TerminalScreen

/-- Columns and rows. -/
def size (s : TerminalScreen) : ℕ × ℕ := (s.cols, s.rows)

variable (s : TerminalScreen)

@[simp] theorem size_clearLineRange (row : ℕ) (colStart colEnd : ℤ) :
    (s.clearLineRange row colStart colEnd).size = s.size := by
  simp only [clearLineRange]
  split_ifs <;> rfl

@[simp] theorem size_scrollUp : s.scrollUp.size = s.size := by
  rw [scrollUp]
  split_ifs <;> rfl

@[simp] theorem size_advanceLine : s.advanceLine.size = s.size := by
  rw [advanceLine]
  split_ifs
  · exact s.size_scrollUp
  · rfl

@[simp] theorem size_putChar (ch : UInt8) : (s.putChar ch).size = s.size := by
  simp only [putChar]
  split_ifs
  · exact size_advanceLine _
  · rfl

@[simp] theorem size_eraseDisplay (mode : ℤ) : (s.eraseDisplay mode).size = s.size := by
  have hrows (rows : List ℕ) (t : TerminalScreen) :
      (rows.foldl (fun s row => s.clearLineRange row 0 (s.cols - 1)) t).size = t.size := by
    induction rows generalizing t with
    | nil => rfl
    | cons row rows ih => rw [List.foldl_cons, ih, size_clearLineRange]
  rw [eraseDisplay]
  split_ifs
  · rfl
  · rw [hrows, size_clearLineRange]
  · rfl

@[simp] theorem size_eraseLine (mode : ℤ) : (s.eraseLine mode).size = s.size := by
  rw [eraseLine]
  split_ifs
  · exact s.size_clearLineRange _ _ _
  · exact s.size_clearLineRange _ _ _
  · exact s.size_clearLineRange _ _ _
  · rfl

@[simp] theorem size_eraseChars (n : ℤ) : (s.eraseChars n).size = s.size :=
  s.size_clearLineRange _ _ _

@[simp] theorem size_setAltScreen (params : CString) (alt : Bool) :
    (s.setAltScreen params alt).size = s.size := by
  rw [setAltScreen]
  split_ifs <;> rfl

@[simp] theorem size_processCsi (params : CString) (final : UInt8) :
    (s.processCsi params final).size = s.size := by
  simp only [processCsi]
  split <;> first | rfl | simp

@[simp] theorem size_plainByte (ch : UInt8) : (s.plainByte ch).size = s.size := by
  simp only [plainByte]
  split
  case h_3 => exact s.size_advanceLine
  case h_5 =>
    split_ifs
    · exact s.size_advanceLine
    · rfl
  case h_6 =>
    split_ifs
    · exact s.size_putChar ch
    · rfl
  all_goals rfl

@[simp] theorem size_feedByte (ch : UInt8) : (s.feedByte ch).size = s.size := by
  rw [feedByte]
  split_ifs
  · rfl
  · exact s.size_processCsi _ ch
  · rfl
  · rfl
  · rfl
  · rfl
  · rfl
  · exact s.size_plainByte ch

end TerminalScreen

namespace TerminalState

/-- **The bytes of the PTY leave the size alone.** -/
theorem size_feed (s : TerminalState) (data : List UInt8) : (s.feed data).size = s.size := by
  rw [feed_toTerminalScreen]
  induction data generalizing s with
  | nil => rfl
  | cons ch data ih =>
    have hhead := s.toTerminalScreen.size_feedByte ch
    have htail := ih { toTerminalScreen := s.feedByte ch, sequence := s.sequence }
    rw [List.foldl_cons]
    exact htail.trans hhead

theorem size_init {rows cols : ℕ} (hrows : 0 < rows) (hcols : 0 < cols) :
    (init rows cols).size = (cols, rows) := by
  rw [init, TerminalScreen.size, dimension_pos hrows, dimension_pos hcols]

theorem size_resize (s : TerminalState) {rows cols : ℕ} (hrows : 0 < rows) (hcols : 0 < cols) :
    (s.resize rows cols).size = (cols, rows) := by
  simp only [resize, dimension_pos hrows, dimension_pos hcols]
  split_ifs with hsame
  · rw [TerminalScreen.size, ← hsame.1, ← hsame.2]
  · rfl

end TerminalState

end TmuxRemote
