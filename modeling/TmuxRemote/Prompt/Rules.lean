import TmuxRemote.Prompt.Instance
import TmuxRemote.Terminal.State

/-!
# Prompt/Rules — reading a prompt off a screen (`tmuxremote_prompt_rules.c`)

A ruleset is tried rule by rule and, for each rule, from the bottom row up; the first row that a
rule matches near the cursor and from which it can fill a candidate decides.

PCRE is not part of the repository: a compiled regex is whatever `pcre2_match` answers on a subject
(`Regex`), and `pcre2_compile` is a parameter where the code compiles one while matching.  Sums of
`int` that the configuration can push past `INT_MAX` are wrapped.
-/

namespace CString

open CLib

/-- `trim_dup` -/
def trimDup (input : CString) : CString where
  bytes := (input.bytes.dropWhile isSpace).rdropWhile isSpace
  nulFree := fun b hb =>
    input.nulFree b ((List.dropWhile_sublist isSpace).subset
      ((List.rdropWhile_prefix isSpace _).subset hb))

/-- **What is trimmed off is blank**, and no blank is left at either end. -/
theorem trimDup_spec (input : CString) :
    (∃ front back, input.bytes = front ++ input.trimDup.bytes ++ back
        ∧ (∀ c ∈ front, isSpace c = true) ∧ ∀ c ∈ back, isSpace c = true)
      ∧ (∀ c, input.trimDup.bytes.head? = some c → isSpace c = false)
      ∧ ∀ c, input.trimDup.bytes.getLast? = some c → isSpace c = false := by
  have hbytes : input.trimDup.bytes = (input.bytes.dropWhile isSpace).rdropWhile isSpace := rfl
  have hfront := List.takeWhile_append_dropWhile (p := isSpace) (l := input.bytes)
  have hback := List.rdropWhile_append_rtakeWhile (p := isSpace)
    (l := input.bytes.dropWhile isSpace)
  refine ⟨⟨input.bytes.takeWhile isSpace, (input.bytes.dropWhile isSpace).rtakeWhile isSpace, ?_,
    fun c hc => List.mem_takeWhile_imp hc, fun c hc => List.mem_rtakeWhile_imp hc⟩,
    fun c hc => ?_, fun c hc => ?_⟩
  · rw [hbytes, List.append_assoc, hback, hfront]
  · obtain ⟨rest, hrest⟩ := List.head?_eq_some_iff.mp hc
    have hhead := List.head?_dropWhile_not isSpace input.bytes
    rw [← hback, ← hbytes, hrest] at hhead
    exact hhead
  · have hne : input.trimDup.bytes ≠ [] := by
      intro hnil
      rw [hnil] at hc
      exact nomatch hc
    rw [List.getLast?_eq_some_getLast hne] at hc
    rw [← Option.some.inj hc]
    exact Bool.eq_false_iff.mpr (List.rdropWhile_last_not _ _ hne)

/-- `strstr`: the offset of the first occurrence of the token. -/
def strstr (s token : CString) : Option ℕ :=
  (List.range (s.bytes.length + 1)).find? fun i => token.bytes.isPrefixOf (s.bytes.drop i)

end CString

namespace TmuxRemote

open CLib

/-! ## Regexes and rules -/

/-- What `pcre2_match` leaves: its return code and the offset vector, `none` for `PCRE2_UNSET`. -/
structure PcreMatch where
  rc : ℤ
  ovector : ℕ → Option (ℕ × ℕ)

/-- `pcre2_code*`: the answer of `pcre2_match` on every subject. -/
abbrev Regex := CString → PcreMatch

/-- `compile_regex`, `none` when the pattern does not compile. -/
abbrev RegexCompiler := CString → Option Regex

/-- `tmuxremote_compiled_prompt_rule` -/
structure CompiledPromptRule where
  patternId : CString
  patternType : PromptType
  maxScanLines : ℤ
  promptRegex : Regex
  optionRegex : Option Regex
  staticActions : List PromptAction
  actionTemplateKeys : Option CString

/-- `tmuxremote_prompt_ruleset` -/
abbrev PromptRuleset := List CompiledPromptRule

/-- `snapshot->lines[row]` -/
def TerminalSnapshot.line (snapshot : TerminalSnapshot) (row : ℕ) : CString :=
  snapshot.lines.getD row default

/-- `regex_matches_line` -/
def regexMatchesLine (regex : Regex) (line : CString) : Bool := (regex line).rc ≥ 0

/-! ## Actions -/

/-- `replace_number_token` -/
def replaceNumberToken (templateKeys number : CString) : CString :=
  let token := CString.ofString "\x7bnumber\x7d"
  match templateKeys.strstr token with
  | none => templateKeys
  | some pos =>
    ((templateKeys.substring 0 pos).append number).append
      (templateKeys.substring (pos + token.bytes.length) templateKeys.bytes.length)

/-- `append_action`: `none` when the array is full. -/
def PromptCandidate.appendAction (candidate : PromptCandidate) (label keys : CString) :
    Option PromptCandidate :=
  if h : candidate.actions.length < promptMaxActions then
    some { candidate with
      actions := candidate.actions ++ [⟨label.trimDup, keys⟩]
      actionCount_le := by rw [List.length_append]; exact h }
  else none

/-- `dup_capture` -/
def dupCapture (subject : CString) (m : PcreMatch) (captureIndex : ℕ) : Option CString :=
  match m.ovector captureIndex with
  | none => none
  | some (start, stop) => if stop < start then none else some (subject.substring start stop)

/-- `find_numbered_option_start`: the offset of the first digits followed by a dot and a blank. -/
def findNumberedOptionStart (line : CString) : Option ℕ :=
  (List.range line.bytes.length).find? fun p =>
    let rest := line.bytes.drop p
    let q := rest.dropWhile isDigit
    rest.head?.any isDigit && q.head? == some 0x2E && q[1]?.any isSpace

/-- The text starts with digits, a dot and a blank. -/
def StartsOption (text : List UInt8) : Prop :=
  ∃ digits blank rest, digits ≠ [] ∧ (∀ c ∈ digits, isDigit c = true) ∧ isSpace blank = true
    ∧ text = digits ++ 0x2E :: blank :: rest

/-- It is what the scan looks for. -/
theorem startsOption_iff (text : List UInt8) :
    (text.head?.any isDigit && (text.dropWhile isDigit).head? == some 0x2E
        && (text.dropWhile isDigit)[1]?.any isSpace) = true ↔ StartsOption text := by
  rw [Bool.and_eq_true, Bool.and_eq_true, beq_iff_eq]
  refine ⟨fun ⟨⟨hdigit, hdot⟩, hblank⟩ => ?_, ?_⟩
  · obtain ⟨c, hc, hfirst⟩ := (Option.any_eq_true _ _).mp hdigit
    obtain ⟨blank, hblank, hspace⟩ := (Option.any_eq_true _ _).mp hblank
    obtain ⟨after, hafter⟩ := List.head?_eq_some_iff.mp hdot
    obtain ⟨cs, rfl⟩ := List.head?_eq_some_iff.mp hc
    rw [hafter, List.getElem?_cons_succ, ← List.head?_eq_getElem?] at hblank
    obtain ⟨rest, rfl⟩ := List.head?_eq_some_iff.mp hblank
    refine ⟨(c :: cs).takeWhile isDigit, blank, rest, ?_, fun c hc => List.mem_takeWhile_imp hc,
      hspace, ?_⟩
    · rw [List.takeWhile_cons_of_pos hfirst]
      exact List.cons_ne_nil _ _
    · rw [← hafter, List.takeWhile_append_dropWhile]
  · rintro ⟨digits, blank, rest, hne, hdigits, hblank, rfl⟩
    have hdrop : (digits ++ 0x2E :: blank :: rest).dropWhile isDigit = 0x2E :: blank :: rest := by
      rw [List.dropWhile_append_of_pos hdigits]
      exact List.dropWhile_cons_of_neg (by decide)
    obtain ⟨c, cs, rfl⟩ := List.exists_cons_of_ne_nil hne
    rw [hdrop]
    exact ⟨⟨hdigits c List.mem_cons_self, rfl⟩, hblank⟩

/-- **The first option start** of a line. -/
theorem findNumberedOptionStart_eq_some_iff {line : CString} {p : ℕ} :
    findNumberedOptionStart line = some p
      ↔ StartsOption (line.bytes.drop p) ∧ ∀ q < p, ¬ StartsOption (line.bytes.drop q) := by
  rw [findNumberedOptionStart, List.find?_range_eq_some]
  dsimp only
  simp only [startsOption_iff, Bool.not_eq_true', ← Bool.not_eq_true, List.mem_range]
  refine and_congr_right fun hstarts => and_iff_right ?_
  obtain ⟨digits, blank, rest, hne, -, -, htext⟩ := hstarts
  refine Nat.lt_of_not_le fun hle => ?_
  rw [List.drop_eq_nil_of_le hle] at htext
  exact hne (List.append_eq_nil_iff.mp htext.symm).1

/-! ## Numbered menus -/

/-- The two attempts to match one row: the row itself, and what starts at its first option number
if that is further in.  The subject of the last attempt, and its match. -/
def matchOption (optionRegex : Regex) (line : CString) : CString × PcreMatch :=
  if (optionRegex line).rc < 3 then
    match findNumberedOptionStart line with
    | none => (line, optionRegex line)
    | some start =>
      if start = 0 then (line, optionRegex line)
      else
        let subject := line.substring start line.bytes.length
        (subject, optionRegex subject)
  else (line, optionRegex line)

/-- The option on one row: its number, its number as written, and its label. -/
def readOption (optionRegex : Regex) (line : CString) : Option (ℕ × CString × CString) :=
  if line.isEmpty then none
  else
    let (subject, m) := matchOption optionRegex line
    if m.rc < 3 then none
    else
      match dupCapture subject m 1, dupCapture subject m 2 with
      | some number, some label =>
        match strtol number.bytes with
        | none => none
        | some optionNumber =>
          if optionNumber ≤ 0 ∨ optionNumber > promptMaxActions then none
          else some (optionNumber.toNat, number, label)
      | _, _ => none

/-- The option loop of `extract_numbered_menu_actions` over the remaining rows; `seenNumbers` are
the numbers marked so far. -/
def scanOptions (optionRegex : Regex) (templateKeys : CString) :
    PromptCandidate → List ℕ → List CString → PromptCandidate × List ℕ
  | candidate, seenNumbers, [] => (candidate, seenNumbers)
  | candidate, seenNumbers, line :: lines =>
    match readOption optionRegex line with
    | none => scanOptions optionRegex templateKeys candidate seenNumbers lines
    | some (optionNumber, number, label) =>
      if optionNumber ∈ seenNumbers then
        scanOptions optionRegex templateKeys candidate seenNumbers lines
      else
        match candidate.appendAction label (replaceNumberToken templateKeys number) with
        | none => (candidate, seenNumbers)
        | some candidate =>
          scanOptions optionRegex templateKeys candidate (optionNumber :: seenNumbers) lines

/-- `^\s*([0-9]+)\.\s+(.+)$`, compiled when a rule has no option regex of its own. -/
def fallbackOptionPattern : CString := CString.ofString "^\\s*([0-9]+)\\.\\s+(.+)$"

/-- The rows `prompt_row + 1 … max_row` of the option loop. -/
def optionRows (rule : CompiledPromptRule) (snapshot : TerminalSnapshot) (promptRow : ℕ) :
    List ℕ :=
  let maxRow := wrapInt32 (promptRow + rule.maxScanLines)
  let maxRow := if maxRow ≥ snapshot.rows then (snapshot.rows : ℤ) - 1 else maxRow
  List.range' (promptRow + 1) (maxRow - promptRow).toNat

/-- `extract_numbered_menu_actions` -/
def extractNumberedMenuActions (compile : RegexCompiler) (rule : CompiledPromptRule)
    (snapshot : TerminalSnapshot) (promptRow : ℕ) (candidate : PromptCandidate) :
    Option PromptCandidate :=
  match rule.actionTemplateKeys with
  | none => none
  | some templateKeys =>
    match rule.optionRegex.or (compile fallbackOptionPattern) with
    | none => none
    | some optionRegex =>
      let (candidate, seenNumbers) := scanOptions optionRegex templateKeys candidate []
        ((optionRows rule snapshot promptRow).map snapshot.line)
      if candidate.actions.length < 2 then none
      else if (List.range' 1 candidate.actions.length).all (· ∈ seenNumbers) then some candidate
      else none

/-! ## Matching -/

/-- The loop over the static actions of `fill_candidate_from_rule`. -/
def appendStaticActions : PromptCandidate → List PromptAction → Option PromptCandidate
  | candidate, [] => some candidate
  | candidate, action :: actions =>
    match candidate.appendAction action.label action.keys with
    | none => none
    | some candidate => appendStaticActions candidate actions

/-- `fill_candidate_from_rule` -/
def fillCandidateFromRule (compile : RegexCompiler) (rule : CompiledPromptRule)
    (snapshot : TerminalSnapshot) (promptRow : ℕ) : Option PromptCandidate :=
  let candidate : PromptCandidate :=
    { patternId := rule.patternId
      patternType := rule.patternType
      prompt := (snapshot.line promptRow).trimDup
      actions := []
      anchorRow := Int32.ofNat promptRow
      actionCount_le := Nat.zero_le _ }
  if rule.patternType = .numberedMenu then
    extractNumberedMenuActions compile rule snapshot promptRow candidate
  else
    match appendStaticActions candidate rule.staticActions with
    | none => none
    | some candidate => if candidate.actions.isEmpty then none else some candidate

/-- `is_cursor_relevant_for_prompt` -/
def isCursorRelevantForPrompt (rule : CompiledPromptRule) (snapshot : TerminalSnapshot)
    (promptRow : ℕ) : Bool :=
  if (snapshot.cursorRow : ℤ) < promptRow - 1 then false
  else snapshot.cursorRow ≤ wrapInt32 (promptRow + rule.maxScanLines + 2)

/-- One row of the inner loop of `tmuxremote_prompt_ruleset_match`. -/
def matchRow (compile : RegexCompiler) (rule : CompiledPromptRule) (snapshot : TerminalSnapshot)
    (row : ℕ) : Option PromptCandidate :=
  if (snapshot.line row).isEmpty then none
  else if !regexMatchesLine rule.promptRegex (snapshot.line row) then none
  else if !isCursorRelevantForPrompt rule snapshot row then none
  else fillCandidateFromRule compile rule snapshot row

/-- `tmuxremote_prompt_ruleset_match` -/
def rulesetMatch (compile : RegexCompiler) (ruleset : PromptRuleset)
    (snapshot : TerminalSnapshot) : Option PromptCandidate :=
  ruleset.findSome? fun rule =>
    (List.range snapshot.rows).reverse.findSome? fun row => matchRow compile rule snapshot row

/-- A menu has two options or more. -/
theorem two_le_of_extract {compile : RegexCompiler} {rule : CompiledPromptRule}
    {snapshot : TerminalSnapshot} {row : ℕ} {candidate c : PromptCandidate}
    (h : extractNumberedMenuActions compile rule snapshot row candidate = some c) :
    2 ≤ c.actions.length := by
  rw [extractNumberedMenuActions] at h
  cases hkeys : rule.actionTemplateKeys with
  | none => rw [hkeys] at h; cases h
  | some templateKeys =>
    cases hregex : rule.optionRegex.or (compile fallbackOptionPattern) with
    | none => rw [hkeys, hregex] at h; cases h
    | some optionRegex =>
      rw [hkeys, hregex] at h
      dsimp only at h
      split_ifs at h with hfew
      rw [← Option.some.inj h]
      exact Nat.le_of_not_lt hfew

/-- What a rule fills in can be answered. -/
theorem actions_ne_nil_of_fill {compile : RegexCompiler} {rule : CompiledPromptRule}
    {snapshot : TerminalSnapshot} {row : ℕ} {c : PromptCandidate}
    (h : fillCandidateFromRule compile rule snapshot row = some c) : c.actions ≠ [] := by
  rw [fillCandidateFromRule] at h
  split_ifs at h
  · exact List.ne_nil_of_length_pos (Nat.zero_lt_two.trans_le (two_le_of_extract h))
  · split at h
    · exact nomatch h
    · split_ifs at h with hnone
      rw [← Option.some.inj h]
      exact fun hnil => hnone (List.isEmpty_iff.mpr hnil)

theorem actions_ne_nil_of_rulesetMatch {compile : RegexCompiler} {ruleset : PromptRuleset}
    {snapshot : TerminalSnapshot} {c : PromptCandidate}
    (h : rulesetMatch compile ruleset snapshot = some c) : c.actions ≠ [] := by
  obtain ⟨rule, -, h⟩ := List.exists_of_findSome?_eq_some h
  obtain ⟨row, -, h⟩ := List.exists_of_findSome?_eq_some h
  rw [matchRow] at h
  split_ifs at h
  exact actions_ne_nil_of_fill h

/-! ## A rule for menus -/

/-- A regex without special characters: it matches where its text occurs. -/
def literalRegex (text : CString) : Regex := fun subject =>
  match subject.strstr text with
  | none => { rc := -1, ovector := fun _ => none }
  | some pos =>
    { rc := 1
      ovector := fun i => if i = 0 then some (pos, pos + text.bytes.length) else none }

/-- `fallbackOptionPattern` on a line that does not end in a blank, as every snapshot line. -/
def numberedOptionRegex : Regex := fun subject =>
  let s := subject.bytes
  let start := (s.takeWhile isSpace).length
  let dot := start + ((s.drop start).takeWhile isDigit).length
  let label := dot + 1 + ((s.drop (dot + 1)).takeWhile isSpace).length
  if start = dot ∨ s[dot]? ≠ some 0x2E ∨ label = dot + 1 ∨ s.length ≤ label then
    { rc := -1, ovector := fun _ => none }
  else
    { rc := 3
      ovector := fun i =>
        if i = 0 then some (0, s.length)
        else if i = 1 then some (start, dot)
        else if i = 2 then some (label, s.length)
        else none }

/-- A numbered menu under a line that says `Pick`, each option answered by its number. -/
def menuRule : CompiledPromptRule where
  patternId := CString.ofString "menu"
  patternType := .numberedMenu
  maxScanLines := 10
  promptRegex := literalRegex (CString.ofString "Pick")
  optionRegex := some numberedOptionRegex
  staticActions := []
  actionTemplateKeys := some (CString.ofString "\x7bnumber\x7d")

/-- The screen a fresh terminal shows after the text. -/
def screenOf (rows cols : ℤ) (text : String) : TerminalSnapshot :=
  ((TerminalState.init rows cols).feed text.toUTF8.data.toList).snapshot

/-! ## What a match depends on

The matcher reads the lines and the cursor row; the sequence number and the alternate screen flag
it never looks at. -/

/-- The part of a snapshot the rules read. -/
def TerminalSnapshot.SameScreen (s t : TerminalSnapshot) : Prop :=
  s.rows = t.rows ∧ s.cursorRow = t.cursorRow ∧ s.lines = t.lines

theorem line_congr {s t : TerminalSnapshot} (h : s.lines = t.lines) : s.line = t.line := by
  funext row
  rw [TerminalSnapshot.line, TerminalSnapshot.line, h]

/-- What is filled in does not depend on the cursor. -/
theorem fillCandidateFromRule_congr {s t : TerminalSnapshot} (hrows : s.rows = t.rows)
    (hlines : s.lines = t.lines) (compile : RegexCompiler) (rule : CompiledPromptRule) (row : ℕ) :
    fillCandidateFromRule compile rule s row = fillCandidateFromRule compile rule t row := by
  have hline := line_congr hlines
  have hoption : optionRows rule s row = optionRows rule t row := by
    rw [optionRows, optionRows, hrows]
  have hextract (c : PromptCandidate) :
      extractNumberedMenuActions compile rule s row c
        = extractNumberedMenuActions compile rule t row c := by
    simp only [extractNumberedMenuActions, hoption, hline]
  simp only [fillCandidateFromRule, hextract, hline]

theorem matchRow_congr {s t : TerminalSnapshot} (h : s.SameScreen t) (compile : RegexCompiler)
    (rule : CompiledPromptRule) (row : ℕ) :
    matchRow compile rule s row = matchRow compile rule t row := by
  obtain ⟨hrows, hcursor, hlines⟩ := h
  have hrelevant : isCursorRelevantForPrompt rule s row = isCursorRelevantForPrompt rule t row := by
    rw [isCursorRelevantForPrompt, isCursorRelevantForPrompt, hcursor]
  rw [matchRow, matchRow, line_congr hlines, hrelevant,
    fillCandidateFromRule_congr hrows hlines]

/-- **Matching is a function of the screen**: equal rows, cursor row and lines match alike. -/
theorem rulesetMatch_congr {s t : TerminalSnapshot} (h : s.SameScreen t) (compile : RegexCompiler)
    (ruleset : PromptRuleset) :
      rulesetMatch compile ruleset s = rulesetMatch compile ruleset t := by
  have hrow (rule : CompiledPromptRule) :
      (fun row => matchRow compile rule s row) = fun row => matchRow compile rule t row :=
    funext fun row => matchRow_congr h compile rule row
  simp only [rulesetMatch, hrow, h.1]

end TmuxRemote
