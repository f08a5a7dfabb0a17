import TmuxRemote.Library.Memory
import TmuxRemote.Terminal.State

/-!
# Terminal/Machine — the screen at the level of C

`tmuxremote_terminal_state.c` once more, with `int` fields, the two buffers as blocks, and every
`int` result, cell access and `csi_buf` access checked: a function fails where C leaves it
undefined.

Allocations succeed.
-/

namespace TmuxRemote

open CLib CMemory

/-- `tmuxremote_terminal_state`, as C has it. -/
structure TerminalMachine where
  sequence : UInt64
  rows : ℤ
  cols : ℤ
  cursorRow : ℤ
  cursorCol : ℤ
  savedRow : ℤ
  savedCol : ℤ
  altScreen : Bool
  cells : List UInt8
  inEscape : Bool
  inEscapeCharset : Bool
  inCsi : Bool
  csiBuf : List UInt8
  csiLen : ℕ
  deriving DecidableEq

namespace TerminalMachine

/-- `clamp_int(value, 0, side - 1)` -/
def clampSide (value side : ℤ) : Except Fault ℤ := do
  let maximum ← int32 (side - 1)
  return clampInt value 0 maximum

/-! ## Cell operations -/

/-- `clear_screen` -/
def clearScreen (m : TerminalMachine) : Except Fault TerminalMachine := do
  let cells ← memset m.cells 0 blank (m.rows * m.cols)
  return { m with cells := cells }

/-- `clear_line_range` -/
def clearLineRange (m : TerminalMachine) (row colStart colEnd : ℤ) :
    Except Fault TerminalMachine :=
  if row < 0 ∨ row ≥ m.rows then return m
  else do
    let colStart ← clampSide colStart m.cols
    let colEnd ← clampSide colEnd m.cols
    if colEnd < colStart then return m
    else
      let width ← int32 (colEnd - colStart)
      let count ← int32 (width + 1)
      let cells ← memset m.cells (row * m.cols + colStart) blank count
      return { m with cells := cells }

/-- `scroll_up` -/
def scrollUp (m : TerminalMachine) : Except Fault TerminalMachine :=
  if m.rows ≤ 1 then return m
  else do
    let above ← int32 (m.rows - 1)
    let moved ← memcpy m.cells 0 m.cells m.cols (m.cols * above)
    let cells ← memset moved (m.cols * above) blank m.cols
    return { m with cells := cells }

/-- `advance_line` -/
def advanceLine (m : TerminalMachine) : Except Fault TerminalMachine := do
  let row ← int32 (m.cursorRow + 1)
  let m := { m with cursorCol := 0, cursorRow := row }
  if m.cursorRow ≥ m.rows then
    let m ← m.scrollUp
    let last ← int32 (m.rows - 1)
    return { m with cursorRow := last }
  else return m

/-- `put_char` -/
def putChar (m : TerminalMachine) (ch : UInt8) : Except Fault TerminalMachine := do
  let row ← clampSide m.cursorRow m.rows
  let col ← clampSide m.cursorCol m.cols
  let cells ← store m.cells (row * m.cols + col) ch
  let next ← int32 (col + 1)
  let m := { m with cells := cells, cursorRow := row, cursorCol := next }
  if m.cursorCol ≥ m.cols then m.advanceLine else return m

/-! ## Control sequences -/

/-- `cursor_row = clamp_int(target, 0, rows - 1)` -/
def moveRow (m : TerminalMachine) (target : ℤ) : Except Fault TerminalMachine := do
  let target ← int32 target
  let row ← clampSide target m.rows
  return { m with cursorRow := row }

/-- `cursor_col = clamp_int(target, 0, cols - 1)` -/
def moveCol (m : TerminalMachine) (target : ℤ) : Except Fault TerminalMachine := do
  let target ← int32 target
  let col ← clampSide target m.cols
  return { m with cursorCol := col }

/-- `clear_line_range(row, colStart, cols - 1)` -/
def clearToEnd (m : TerminalMachine) (row colStart : ℤ) : Except Fault TerminalMachine := do
  let last ← int32 (m.cols - 1)
  m.clearLineRange row colStart last

/-- The loop of `CSI J` from `row` on, over `count` rows. -/
def clearRows (m : TerminalMachine) (row : ℤ) : ℕ → Except Fault TerminalMachine
  | 0 => return m
  | count + 1 => do
    let m ← m.clearToEnd row 0
    let next ← int32 (row + 1)
    m.clearRows next count

/-- `CSI J` -/
def eraseDisplay (m : TerminalMachine) (mode : ℤ) : Except Fault TerminalMachine :=
  if mode = 2 ∨ mode = 3 then do
    let m ← m.clearScreen
    return { m with cursorRow := 0, cursorCol := 0 }
  else if mode = 0 then do
    let m ← m.clearToEnd m.cursorRow m.cursorCol
    let next ← int32 (m.cursorRow + 1)
    m.clearRows next (m.rows - next).toNat
  else return m

/-- `CSI K` -/
def eraseLine (m : TerminalMachine) (mode : ℤ) : Except Fault TerminalMachine :=
  if mode = 0 then m.clearToEnd m.cursorRow m.cursorCol
  else if mode = 1 then m.clearLineRange m.cursorRow 0 m.cursorCol
  else if mode = 2 then m.clearToEnd m.cursorRow 0
  else return m

/-- `CSI X` -/
def eraseChars (m : TerminalMachine) (n : ℤ) : Except Fault TerminalMachine := do
  let n := if n ≤ 0 then 1 else n
  let past ← int32 (m.cursorCol + n)
  let endCol ← int32 (past - 1)
  let colEnd ← clampSide endCol m.cols
  m.clearLineRange m.cursorRow m.cursorCol colEnd

/-- `CSI ? … h` and `CSI ? … l` -/
def setAltScreen (m : TerminalMachine) (params : CString) (alt : Bool) :
    Except Fault TerminalMachine :=
  if TerminalScreen.hasPrivateMode params 1049 || TerminalScreen.hasPrivateMode params 1047
      || TerminalScreen.hasPrivateMode params 47 then do
    let m ← { m with altScreen := alt }.clearScreen
    return { m with cursorRow := 0, cursorCol := 0 }
  else return m

/-- `process_csi` -/
def processCsi (m : TerminalMachine) (params : CString) (final : UInt8) :
    Except Fault TerminalMachine :=
  let n := TerminalScreen.getParam params
  match Char.ofNat final.toNat with
  | 'A' => m.moveRow (m.cursorRow - n 0 1)
  | 'B' => m.moveRow (m.cursorRow + n 0 1)
  | 'C' => m.moveCol (m.cursorCol + n 0 1)
  | 'D' => m.moveCol (m.cursorCol - n 0 1)
  | 'G' => m.moveCol (n 0 1 - 1)
  | 'd' => m.moveRow (n 0 1 - 1)
  | 'H' | 'f' => do
    let m ← m.moveRow (n 0 1 - 1)
    m.moveCol (n 1 1 - 1)
  | 'J' => m.eraseDisplay (n 0 0)
  | 'K' => m.eraseLine (n 0 0)
  | 'X' => m.eraseChars (n 0 1)
  | 's' => return { m with savedRow := m.cursorRow, savedCol := m.cursorCol }
  | 'u' => do
    let m ← m.moveRow m.savedRow
    m.moveCol m.savedCol
  | 'h' => m.setAltScreen params true
  | 'l' => m.setAltScreen params false
  | _ => return m

/-! ## Feeding bytes -/

/-- The `switch` of `tmuxremote_terminal_state_feed`. -/
def plainByte (m : TerminalMachine) (ch : UInt8) : Except Fault TerminalMachine :=
  match ch.toNat with
  | 0x1B => return { m with inEscape := true }
  | 0x0D => return { m with cursorCol := 0 }
  | 0x0A => m.advanceLine
  | 0x08 => m.moveCol (m.cursorCol - 1)
  | 0x09 => do
    let stop ← int32 (m.cursorCol.tdiv 8 + 1)
    let nextTab ← int32 (stop * 8)
    if nextTab ≥ m.cols then m.advanceLine else return { m with cursorCol := nextTab }
  | _ => if isPrint ch || ch ≥ 0x80 then m.putChar ch else return m

/-- One byte of `tmuxremote_terminal_state_feed`. -/
def feedByte (m : TerminalMachine) (ch : UInt8) : Except Fault TerminalMachine :=
  if m.inEscapeCharset then return { m with inEscapeCharset := false }
  else if m.inCsi then
    if ch ≥ 0x40 && ch ≤ 0x7E then do
      let csiBuf ← store m.csiBuf m.csiLen 0
      let params ← readString csiBuf
      let m ← { m with csiBuf := csiBuf }.processCsi params ch
      return { m with inCsi := false, csiLen := 0 }
    else if m.csiLen + 1 < csiBufSize then do
      let csiBuf ← store m.csiBuf m.csiLen ch
      return { m with csiBuf := csiBuf, csiLen := m.csiLen + 1 }
    else return m
  else if m.inEscape then
    if ch == 0x5B then return { m with inEscape := false, inCsi := true, csiLen := 0 }
    else if TerminalScreen.isCharsetIntermediate ch then
      return { m with inEscape := false, inEscapeCharset := true }
    else return { m with inEscape := false }
  else m.plainByte ch

/-- `tmuxremote_terminal_state_feed` -/
def feed (m : TerminalMachine) (data : List UInt8) : Except Fault TerminalMachine :=
  if data.isEmpty then return m
  else do
    let m ← data.foldlM feedByte m
    return { m with sequence := m.sequence + 1 }

/-! ## Creation and resize -/

/-- `side > 0 ? side : default` -/
def dimensionOr (side : ℤ) (default : ℕ) : ℤ := if side > 0 then side else default

/-- `tmuxremote_terminal_state_init` -/
def init (rows cols : ℤ) : TerminalMachine :=
  let rows := dimensionOr rows terminalDefaultRows
  let cols := dimensionOr cols terminalDefaultCols
  { sequence := 0, rows := rows, cols := cols, cursorRow := 0, cursorCol := 0, savedRow := 0,
    savedCol := 0, altScreen := false, cells := List.replicate (rows.toNat * cols.toNat) blank,
    inEscape := false, inEscapeCharset := false, inCsi := false,
    csiBuf := List.replicate csiBufSize 0, csiLen := 0 }

/-- The loop of `tmuxremote_terminal_state_resize`: the first `count` rows are copied. -/
def copyRows (m : TerminalMachine) (newCols copyCols : ℤ) (newCells : List UInt8) :
    ℕ → Except Fault (List UInt8)
  | 0 => return newCells
  | count + 1 => do
    let copied ← m.copyRows newCols copyCols newCells count
    memcpy copied (count * newCols) m.cells (count * m.cols) copyCols

/-- `tmuxremote_terminal_state_resize` -/
def resize (m : TerminalMachine) (rows cols : ℤ) : Except Fault TerminalMachine :=
  let newRows := dimensionOr rows terminalDefaultRows
  let newCols := dimensionOr cols terminalDefaultCols
  if newRows = m.rows ∧ newCols = m.cols then return m
  else do
    let newCells := List.replicate (newRows.toNat * newCols.toNat) blank
    let cells ← m.copyRows newCols (min m.cols newCols) newCells (min m.rows newRows).toNat
    let cursorRow ← clampSide m.cursorRow newRows
    let cursorCol ← clampSide m.cursorCol newCols
    let savedRow ← clampSide m.savedRow newRows
    let savedCol ← clampSide m.savedCol newCols
    return { m with
      cells := cells
      rows := newRows
      cols := newCols
      cursorRow := cursorRow
      cursorCol := cursorCol
      savedRow := savedRow
      savedCol := savedCol
      sequence := m.sequence + 1 }

/-- The lines of `tmuxremote_terminal_state_snapshot`, by `trim_row_copy`. -/
def snapshotLines (m : TerminalMachine) : Except Fault (List CString) :=
  (List.range m.rows.toNat).mapM fun (row : ℕ) => do
    let cells ← load m.cells (row * m.cols) m.cols
    return .ofBytes (cells.rdropWhile fun ch => ch == blank || ch == 0)

end TerminalMachine

end TmuxRemote
