import TmuxRemote.Prompt.Menus

/-!
# Prompt/ScanWindow — how far below a prompt the rules look

`max_scan_lines` comes from the configuration as any positive `int`.  Two sums of it with a row end
the rows that are read for options and the rows the cursor may be on.  Where the larger sum is an
`int` the windows grow with `max_scan_lines`; where it is not they fall away altogether
(`scan_window_iff`).
-/

namespace TmuxRemote

open CLib

/-- `INT_MAX` -/
def intMax : ℤ := 2 ^ 31 - 1

/-- The rule with another `max_scan_lines`. -/
def CompiledPromptRule.withScanLines (rule : CompiledPromptRule) (maxScanLines : ℤ) :
    CompiledPromptRule := { rule with maxScanLines := maxScanLines }

/-- Neither sum exceeds an `int`. -/
def SumsFit (rule : CompiledPromptRule) (promptRow : ℕ) : Prop :=
  promptRow + rule.maxScanLines ≤ intMax ∧ promptRow + rule.maxScanLines + 2 ≤ intMax

/-- What is relevant, and what is scanned for options, under a smaller `max_scan_lines` is so under
the rule's: on every screen of the size, wherever the cursor is. -/
def WindowGrows (rule : CompiledPromptRule) (rows promptRow : ℕ) : Prop :=
  ∀ snapshot : TerminalSnapshot, snapshot.rows = rows → snapshot.cursorRow < rows →
    ∀ fewer, 1 ≤ fewer → fewer ≤ rule.maxScanLines →
      (isCursorRelevantForPrompt (rule.withScanLines fewer) snapshot promptRow = true →
        isCursorRelevantForPrompt rule snapshot promptRow = true)
      ∧ ∀ row ∈ optionRows (rule.withScanLines fewer) snapshot promptRow,
        row ∈ optionRows rule snapshot promptRow

section
variable {rule : CompiledPromptRule} {promptRow : ℕ} (snapshot : TerminalSnapshot)

/-- The window of the cursor, where its end does not wrap. -/
theorem isCursorRelevantForPrompt_iff (hmin : -2 ^ 31 ≤ rule.maxScanLines)
    (hfits : promptRow + rule.maxScanLines + 2 ≤ intMax) :
    isCursorRelevantForPrompt rule snapshot promptRow = true
      ↔ (promptRow : ℤ) - 1 ≤ snapshot.cursorRow
        ∧ (snapshot.cursorRow : ℤ) ≤ promptRow + rule.maxScanLines + 2 := by
  rw [isCursorRelevantForPrompt, wrapInt32_eq_self (by omega) (Int.lt_of_le_sub_one hfits)]
  split_ifs with habove
  · exact ⟨fun h => absurd h (by simp), fun h => absurd h.1 (by omega)⟩
  · rw [decide_eq_true_iff]
    exact ⟨fun h => ⟨by omega, h⟩, fun h => h.2⟩

/-- The rows that are scanned, where their end does not wrap. -/
theorem mem_optionRows_iff (hmin : -2 ^ 31 ≤ rule.maxScanLines)
    (hfits : promptRow + rule.maxScanLines ≤ intMax) {row : ℕ} :
    row ∈ optionRows rule snapshot promptRow
      ↔ promptRow < row ∧ row < snapshot.rows ∧ (row : ℤ) ≤ promptRow + rule.maxScanLines := by
  rw [optionRows, wrapInt32_eq_self (by omega) (Int.lt_of_le_sub_one hfits), List.mem_range'_1]
  split_ifs <;> omega

/-- **A window whose end wraps is empty.** -/
theorem not_isCursorRelevantForPrompt_of_wraps (hmax : rule.maxScanLines ≤ intMax)
    (hrow : promptRow < intMax) (hwraps : intMax < promptRow + rule.maxScanLines + 2) :
    isCursorRelevantForPrompt rule snapshot promptRow = false := by
  have hnegative : wrapInt32 (promptRow + rule.maxScanLines + 2) < 0 := by
    rw [intMax] at hmax hrow hwraps
    rw [wrapInt32, Int.bmod]
    split_ifs <;> omega
  rw [isCursorRelevantForPrompt]
  split_ifs
  · rfl
  · exact decide_eq_false (by omega)

end

/-- **The scan window.**  The sums stay within an `int`, and the windows grow with
`max_scan_lines`, exactly up to `INT_MAX - 2` less the prompt's row. -/
theorem scan_window_iff (rule : CompiledPromptRule) (rows promptRow : ℕ)
    (hmin : 1 ≤ rule.maxScanLines) (hmax : rule.maxScanLines ≤ intMax) (hrows : rows ≤ 1000)
    (hprompt : promptRow < rows) :
    (SumsFit rule promptRow ↔ rule.maxScanLines ≤ intMax - 2 - promptRow)
      ∧ (WindowGrows rule rows promptRow ↔ rule.maxScanLines ≤ intMax - 2 - promptRow) := by
  have hfewer {fewer : ℤ} (hone : 1 ≤ fewer) :
      -2 ^ 31 ≤ (rule.withScanLines fewer).maxScanLines := by
    change -2 ^ 31 ≤ fewer
    omega
  refine ⟨⟨fun h => ?_, fun h => ?_⟩, fun h => ?_, fun h snapshot hsize _ fewer hone hle => ?_⟩
  · have hsum := h.2
    omega
  · exact ⟨by omega, by omega⟩
  · -- with one line the cursor may be on the prompt itself
    by_contra hlarge
    let onPrompt : TerminalSnapshot := ⟨0, rows, 0, promptRow, 0, false, []⟩
    have hgrows := (h onPrompt rfl hprompt 1 le_rfl hmin).1
    have hthree : (promptRow : ℤ) + 1 + 2 ≤ intMax := by
      rw [intMax]
      omega
    have hone := (isCursorRelevantForPrompt_iff onPrompt (hfewer le_rfl) hthree).mpr
      ⟨Int.sub_le_self _ (by decide), by
        change (promptRow : ℤ) ≤ promptRow + 1 + 2
        omega⟩
    have hfalse := not_isCursorRelevantForPrompt_of_wraps onPrompt hmax
      (show promptRow < intMax by rw [intMax]; omega) (by omega)
    exact absurd ((hgrows hone).symm.trans hfalse) (by simp)
  · have hsum : promptRow + fewer + 2 ≤ intMax := by omega
    constructor
    · intro hrelevant
      obtain ⟨habove, hbelow⟩ :=
        (isCursorRelevantForPrompt_iff snapshot (hfewer hone) hsum).mp hrelevant
      change (snapshot.cursorRow : ℤ) ≤ promptRow + fewer + 2 at hbelow
      exact (isCursorRelevantForPrompt_iff snapshot (by omega) (by omega)).mpr ⟨habove, by omega⟩
    · intro row hscanned
      obtain ⟨hbelow, hon, hend⟩ := (mem_optionRows_iff snapshot (hfewer hone)
        (show promptRow + fewer ≤ intMax by omega)).mp hscanned
      change (row : ℤ) ≤ promptRow + fewer at hend
      exact (mem_optionRows_iff snapshot (by omega) (by omega)).mpr ⟨hbelow, hon, by omega⟩

/-- Ten lines on a screen of forty-eight rows. -/
theorem scan_window_menu : SumsFit menuRule 40 ∧ WindowGrows menuRule 48 40 := by
  obtain ⟨hsums, hgrows⟩ := scan_window_iff menuRule 48 40 (by decide) (by decide) (by decide)
    (by decide)
  exact ⟨hsums.mpr (by decide), hgrows.mpr (by decide)⟩

/-- **The largest `int`** overflows on the first row, and the cursor on the prompt is out of its
window, although it is in that of one line. -/
theorem scan_window_overflows :
    ¬ ∀ (rule : CompiledPromptRule) (rows promptRow : ℕ), 1 ≤ rule.maxScanLines →
      rule.maxScanLines ≤ intMax → rows ≤ 1000 → promptRow < rows →
      SumsFit rule promptRow ∧ WindowGrows rule rows promptRow := by
  intro hall
  obtain ⟨-, hgrows⟩ := hall (menuRule.withScanLines intMax) 48 0 (by decide) (by decide)
    (by decide) (by decide)
  obtain ⟨hrelevant, -⟩ := hgrows ⟨0, 48, 160, 0, 0, false, []⟩ rfl (by decide) 1 le_rfl (by decide)
  exact absurd (hrelevant (by decide)) (by decide)

end TmuxRemote
