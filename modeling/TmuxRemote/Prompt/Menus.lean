import TmuxRemote.Library.Numbered
import TmuxRemote.Prompt.Rules

/-!
# Prompt/Menus — what `extract_numbered_menu_actions` extracts

The reference reads every row below the prompt on its own and keeps the first row of each option
number; a menu is what is left when the numbers are `1 … N`.  The loop of the code does the same
with a table of the numbers seen, an array with room for sixteen actions and a final count
(`numbered_menu_extraction`): the numbers seen are distinct and at most sixteen, so the array never
fills before its last entry.
-/

namespace TmuxRemote

open CLib

/-! ## The reference -/

/-- The text with the first occurrence of the token replaced. -/
def replaceFirst (token replacement : List UInt8) : List UInt8 → List UInt8
  | [] => if token.isPrefixOf [] then replacement else []
  | c :: text =>
    if token.isPrefixOf (c :: text) then replacement ++ (c :: text).drop token.length
    else c :: replaceFirst token replacement text

/-- The token of an action template. -/
def numberToken : CString := CString.ofString "\x7bnumber\x7d"

/-- An option as its row shows it. -/
structure MenuOption where
  value : ℕ
  number : CString
  label : CString

/-- What is tried on a row: the row, and what starts at its first option number. -/
def optionSubjects (line : CString) : List CString :=
  line :: (findNumberedOptionStart line).toList.map fun start =>
    line.substring start line.bytes.length

/-- The option of a row: the two captures of the first subject that matches with two groups, if the
first capture is a number between one and the size of the array. -/
def menuOption (optionRegex : Regex) (line : CString) : Option MenuOption :=
  if line.isEmpty then none
  else do
    let subject ← (optionSubjects line).find? fun subject => (optionRegex subject).rc ≥ 3
    let number ← dupCapture subject (optionRegex subject) 1
    let label ← dupCapture subject (optionRegex subject) 2
    let value ← strtol number.bytes
    if 1 ≤ value ∧ value ≤ promptMaxActions then some ⟨value.toNat, number, label⟩ else none

/-- The rows below the prompt, up to `max_scan_lines` of them. -/
def menuRows (rule : CompiledPromptRule) (snapshot : TerminalSnapshot) (promptRow : ℕ) : List ℕ :=
  List.range' (promptRow + 1)
    (min (promptRow + rule.maxScanLines) (snapshot.rows - 1) - promptRow).toNat

/-- The options of a screen: the first row of each option number, in screen order. -/
def menuOptions (optionRegex : Regex) (rule : CompiledPromptRule) (snapshot : TerminalSnapshot)
    (promptRow : ℕ) : List MenuOption :=
  Numbered.firsts MenuOption.value
    ((menuRows rule snapshot promptRow).filterMap fun row =>
      menuOption optionRegex (snapshot.line row))

/-- The option numbers are `1 … N`, and there are at least two. -/
def Actionable (options : List MenuOption) : Prop :=
  2 ≤ options.length ∧ ∀ n, n ∈ options.map MenuOption.value ↔ 1 ≤ n ∧ n ≤ options.length

/-! ## One row -/

/-- The option as the loop holds it. -/
def MenuOption.captured (o : MenuOption) : ℕ × CString × CString := (o.value, o.number, o.label)

/-- The action that the loop appends for an option. -/
def MenuOption.action (templateKeys : CString) (o : MenuOption) : PromptAction :=
  ⟨o.label.trimDup, replaceNumberToken templateKeys o.number⟩

theorem matchOption_snd (optionRegex : Regex) (line : CString) :
    (matchOption optionRegex line).2 = optionRegex (matchOption optionRegex line).1 := by
  rw [matchOption]
  split_ifs
  · cases findNumberedOptionStart line with
    | none => rfl
    | some start => dsimp only; split_ifs <;> rfl
  · rfl

theorem substring_zero (s : CString) : s.substring 0 s.bytes.length = s :=
  CString.ext (List.take_of_length_le (Nat.le_of_eq rfl))

/-- The loop ends up with the first subject that matches; a row that starts with an option number
is tried once only, which makes no difference. -/
theorem find_optionSubjects (optionRegex : Regex) (line : CString) :
    ((optionSubjects line).find? fun subject => (optionRegex subject).rc ≥ 3)
      = if (matchOption optionRegex line).2.rc < 3 then none
        else some (matchOption optionRegex line).1 := by
  by_cases hline : (optionRegex line).rc < 3
  · have hnot : ¬ (optionRegex line).rc ≥ 3 := by omega
    cases hstart : findNumberedOptionStart line with
    | none => simp [optionSubjects, matchOption, hline, hstart, hnot]
    | some start =>
      by_cases hzero : start = 0
      · subst hzero
        simp [optionSubjects, matchOption, hline, hstart, hnot, substring_zero]
      · simp only [optionSubjects, matchOption, hline, hstart, hzero, if_true, if_false,
          Option.toList_some, List.map_cons, List.map_nil, List.find?_cons, hnot, decide_false,
          List.find?_nil]
        by_cases hsub : (optionRegex (line.substring start line.bytes.length)).rc < 3
        · simp [hsub, Int.not_le.mpr hsub]
        · simp [hsub, Int.not_lt.mp hsub]
  · have hge : (optionRegex line).rc ≥ 3 := Int.not_lt.mp hline
    simp [optionSubjects, matchOption, hline, hge]

/-- **One row of the loop** reads the option of the row. -/
theorem readOption_eq (optionRegex : Regex) (line : CString) :
    readOption optionRegex line = (menuOption optionRegex line).map MenuOption.captured := by
  rw [readOption, menuOption]
  split_ifs
  · rfl
  · have hsnd := matchOption_snd optionRegex line
    rw [find_optionSubjects]
    generalize matchOption optionRegex line = subjectMatch at hsnd ⊢
    obtain ⟨subject, m⟩ := subjectMatch
    change m = optionRegex subject at hsnd
    subst hsnd
    dsimp only
    by_cases hrc : (optionRegex subject).rc < 3
    · simp only [hrc, if_true]
      rfl
    · simp only [hrc, if_false, Option.bind_eq_bind, Option.bind_some]
      cases dupCapture subject (optionRegex subject) 1 with
      | none => rfl
      | some number =>
        cases dupCapture subject (optionRegex subject) 2 with
        | none => rfl
        | some label =>
          simp only [Option.bind_some]
          cases strtol number.bytes with
          | none => rfl
          | some value =>
            by_cases hvalue : 1 ≤ value ∧ value ≤ promptMaxActions
            · have hnot : ¬ (value ≤ 0 ∨ value > promptMaxActions) := by omega
              simp [hvalue, hnot, MenuOption.captured]
            · have hbad : value ≤ 0 ∨ value > promptMaxActions := by omega
              simp [hvalue, hbad]

/-- An option's number is between one and the size of the array. -/
theorem menuOption_range {optionRegex : Regex} {line : CString} {o : MenuOption}
    (h : menuOption optionRegex line = some o) : 1 ≤ o.value ∧ o.value ≤ promptMaxActions := by
  rw [menuOption] at h
  split_ifs at h
  simp only [Option.bind_eq_bind, Option.bind_eq_some_iff] at h
  obtain ⟨-, -, number, -, label, -, value, -, h⟩ := h
  split_ifs at h with hvalue
  obtain rfl := Option.some.inj h
  dsimp only
  omega

/-! ## The action of an option -/

/-- The text with the token at the offset replaced. -/
def spliceAt (token replacement text : List UInt8) : Option ℕ → List UInt8
  | none => text
  | some pos => text.take pos ++ replacement ++ text.drop (pos + token.length)

theorem replaceFirst_eq_spliceAt (token replacement : List UInt8) :
    ∀ text : List UInt8, replaceFirst token replacement text
      = spliceAt token replacement text
          ((List.range (text.length + 1)).find? fun i => token.isPrefixOf (text.drop i))
  | [] => by
      rw [replaceFirst]
      cases h : token.isPrefixOf [] <;> simp [spliceAt, h]
  | c :: text => by
      have ih := replaceFirst_eq_spliceAt token replacement text
      rw [replaceFirst, List.length_cons, List.range_succ_eq_map, List.find?_cons, List.find?_map]
      cases h : token.isPrefixOf (c :: text) with
      | true => simp [spliceAt, h]
      | false =>
        have hcomp : ((fun i => token.isPrefixOf ((c :: text).drop i)) ∘ Nat.succ)
            = fun i => token.isPrefixOf (text.drop i) := rfl
        simp only [List.drop_zero, h, hcomp, ih]
        cases (List.range (text.length + 1)).find? fun i => token.isPrefixOf (text.drop i) with
        | none => rfl
        | some pos => simp [spliceAt, Nat.succ_add]

/-- **The keys of an action** are the template with its first token replaced. -/
theorem bytes_replaceNumberToken (templateKeys number : CString) :
    (replaceNumberToken templateKeys number).bytes
      = replaceFirst numberToken.bytes number.bytes templateKeys.bytes := by
  rw [replaceFirst_eq_spliceAt, replaceNumberToken]
  change _ = spliceAt _ _ _ (templateKeys.strstr numberToken)
  change (match templateKeys.strstr numberToken with
    | none => templateKeys
    | some pos =>
      ((templateKeys.substring 0 pos).append number).append
        (templateKeys.substring (pos + numberToken.bytes.length) templateKeys.bytes.length)).bytes
    = _
  cases templateKeys.strstr numberToken with
  | none => rfl
  | some pos =>
    have hrest : (templateKeys.bytes.drop (pos + numberToken.bytes.length)).take
          (templateKeys.bytes.length - (pos + numberToken.bytes.length))
        = templateKeys.bytes.drop (pos + numberToken.bytes.length) :=
      List.take_of_length_le (by rw [List.length_drop])
    simp [spliceAt, CString.append, CString.substring, hrest]

/-! ## The rows -/

/-- No sum of the loop bounds wraps. -/
theorem optionRows_eq {rule : CompiledPromptRule} {snapshot : TerminalSnapshot} {promptRow : ℕ}
    (hprompt : promptRow < snapshot.rows) (hmin : -2 ^ 31 ≤ rule.maxScanLines)
    (hmax : rule.maxScanLines + snapshot.rows < 2 ^ 31) :
    optionRows rule snapshot promptRow = menuRows rule snapshot promptRow := by
  have hwrap : wrapInt32 (promptRow + rule.maxScanLines) = promptRow + rule.maxScanLines :=
    wrapInt32_eq_self (by omega) (by omega)
  rw [optionRows, menuRows, hwrap]
  congr 2
  split_ifs <;> omega

/-! ## The loop -/

/-- The loop marks a number for each action it appends. -/
structure ScanState (candidate : PromptCandidate) (seenNumbers : List ℕ) : Prop where
  nodup : seenNumbers.Nodup
  range : ∀ n ∈ seenNumbers, 1 ≤ n ∧ n ≤ promptMaxActions
  length_eq : candidate.actions.length = seenNumbers.length

/-- **The array has room** for an option whose number was not seen: with it the numbers are still
distinct and at most sixteen. -/
theorem ScanState.append {candidate : PromptCandidate} {seenNumbers : List ℕ} {o : MenuOption}
    (h : ScanState candidate seenNumbers) (hnew : o.value ∉ seenNumbers)
    (hrange : 1 ≤ o.value ∧ o.value ≤ promptMaxActions) (templateKeys : CString) :
    ∃ c, candidate.appendAction o.label (replaceNumberToken templateKeys o.number) = some c
      ∧ ScanState c (o.value :: seenNumbers)
      ∧ c.actions = candidate.actions ++ [o.action templateKeys]
      ∧ c.patternId = candidate.patternId ∧ c.patternType = candidate.patternType
      ∧ c.prompt = candidate.prompt ∧ c.anchorRow = candidate.anchorRow := by
  have hnodup : (o.value :: seenNumbers).Nodup := List.nodup_cons.mpr ⟨hnew, h.nodup⟩
  have hall : ∀ n ∈ o.value :: seenNumbers, 1 ≤ n ∧ n ≤ promptMaxActions :=
    List.forall_mem_cons.mpr ⟨hrange, h.range⟩
  have hroom : candidate.actions.length < promptMaxActions := by
    have hlength := Numbered.length_le_of_nodup hnodup hall
    rw [List.length_cons, ← h.length_eq] at hlength
    exact hlength
  refine ⟨_, dif_pos hroom, ⟨hnodup, hall, ?_⟩, rfl, rfl, rfl, rfl, rfl⟩
  simp [h.length_eq]

/-- **The loop over rows** appends the options whose number it has not seen, in order. -/
theorem scanOptions_spec (optionRegex : Regex) (templateKeys : CString) :
    ∀ (lines : List CString) (candidate : PromptCandidate) (seenNumbers : List ℕ),
      ScanState candidate seenNumbers →
      let options := Numbered.firsts MenuOption.value
        ((lines.filterMap (menuOption optionRegex)).filter fun o => o.value ∉ seenNumbers)
      let (c, seen) := scanOptions optionRegex templateKeys candidate seenNumbers lines
      ScanState c seen
        ∧ c.actions = candidate.actions ++ options.map (MenuOption.action templateKeys)
        ∧ seen = (options.map MenuOption.value).reverse ++ seenNumbers
        ∧ c.patternId = candidate.patternId ∧ c.patternType = candidate.patternType
        ∧ c.prompt = candidate.prompt ∧ c.anchorRow = candidate.anchorRow
  | [], candidate, seenNumbers, h => by
      simp [scanOptions, h]
  | line :: lines, candidate, seenNumbers, h => by
      rw [scanOptions, readOption_eq]
      cases ho : menuOption optionRegex line with
      | none =>
        have ih := scanOptions_spec optionRegex templateKeys lines candidate seenNumbers h
        rw [List.filterMap_cons_none ho]
        exact ih
      | some o =>
        rw [List.filterMap_cons_some ho]
        dsimp only [Option.map_some, MenuOption.captured]
        by_cases hseen : o.value ∈ seenNumbers
        · have ih := scanOptions_spec optionRegex templateKeys lines candidate seenNumbers h
          rw [List.filter_cons_of_neg (by simpa using hseen), if_pos hseen]
          exact ih
        · obtain ⟨c, happend, hc, hactions, hid, htype, hprompt, hanchor⟩ :=
            h.append hseen (menuOption_range ho) templateKeys
          have ih := scanOptions_spec optionRegex templateKeys lines c (o.value :: seenNumbers) hc
          have hfilter : (((lines.filterMap (menuOption optionRegex)).filter fun b =>
                b.value ∉ seenNumbers).filter fun b => b.value ≠ o.value)
              = (lines.filterMap (menuOption optionRegex)).filter fun b =>
                  b.value ∉ o.value :: seenNumbers := by
            rw [List.filter_filter]
            refine List.filter_congr fun b _ => ?_
            simp [List.mem_cons]
          rw [List.filter_cons_of_pos (by simpa using hseen), Numbered.firsts_cons, hfilter,
            if_neg hseen, happend]
          dsimp only at ih ⊢
          obtain ⟨hstate, hactions', hseen', hid', htype', hprompt', hanchor'⟩ := ih
          refine ⟨hstate, ?_, ?_, hid'.trans hid, htype'.trans htype, hprompt'.trans hprompt,
            hanchor'.trans hanchor⟩
          · rw [hactions', hactions, List.append_assoc, List.map_cons, List.singleton_append]
          · rw [hseen', List.map_cons, List.reverse_cons, List.append_assoc, List.singleton_append]

/-! ## The menu -/

theorem nodup_menuOptions (optionRegex : Regex) (rule : CompiledPromptRule)
    (snapshot : TerminalSnapshot) (promptRow : ℕ) :
    ((menuOptions optionRegex rule snapshot promptRow).map MenuOption.value).Nodup :=
  Numbered.nodup_keys_firsts _

/-- The reference never has more options than the array has room for. -/
theorem length_menuOptions_le (optionRegex : Regex) (rule : CompiledPromptRule)
    (snapshot : TerminalSnapshot) (promptRow : ℕ) :
    (menuOptions optionRegex rule snapshot promptRow).length ≤ promptMaxActions := by
  have hrange : ∀ n ∈ (menuOptions optionRegex rule snapshot promptRow).map MenuOption.value,
      1 ≤ n ∧ n ≤ promptMaxActions := by
    intro n hn
    obtain ⟨o, ho, rfl⟩ := List.mem_map.mp hn
    obtain ⟨row, -, hrow⟩ := List.mem_filterMap.mp (Numbered.firsts_subset _ ho)
    exact menuOption_range hrow
  have hlength := Numbered.length_le_of_nodup
    (nodup_menuOptions optionRegex rule snapshot promptRow) hrange
  rwa [List.length_map] at hlength

/-- The final count of the code is contiguity. -/
theorem all_mem_iff_actionable {options : List MenuOption} (hlength : 2 ≤ options.length) :
    (List.range' 1 options.length).all (· ∈ (options.map MenuOption.value).reverse) = true
      ↔ Actionable options := by
  have hmap : (options.map MenuOption.value).length = options.length := List.length_map _
  refine ⟨fun h => ⟨hlength, ?_⟩, fun h => ?_⟩
  · have hsubset : List.range' 1 (options.map MenuOption.value).length
        ⊆ options.map MenuOption.value := by
      intro n hn
      rw [hmap] at hn
      have := List.all_eq_true.mp h n hn
      simpa using this
    have hiff := Numbered.mem_iff_of_range_subset hsubset
    rwa [hmap] at hiff
  · refine List.all_eq_true.mpr fun n hn => ?_
    have hmem := (h.2 n).mpr (by have := List.mem_range'_1.mp hn; omega)
    simpa using hmem

/-- What is extracted was scanned, with the keys and the regex of the rule. -/
theorem extractNumberedMenuActions_eq_some {compile : RegexCompiler} {rule : CompiledPromptRule}
    {snapshot : TerminalSnapshot} {promptRow : ℕ} {candidate c : PromptCandidate}
    (h : extractNumberedMenuActions compile rule snapshot promptRow candidate = some c) :
    ∃ templateKeys optionRegex, rule.actionTemplateKeys = some templateKeys
      ∧ rule.optionRegex.or (compile fallbackOptionPattern) = some optionRegex
      ∧ c = (scanOptions optionRegex templateKeys candidate []
          ((optionRows rule snapshot promptRow).map snapshot.line)).1 := by
  rw [extractNumberedMenuActions] at h
  cases hkeys : rule.actionTemplateKeys with
  | none =>
    rw [hkeys] at h
    exact absurd h (by simp)
  | some templateKeys =>
    rw [hkeys] at h
    dsimp only at h
    cases hregex : rule.optionRegex.or (compile fallbackOptionPattern) with
    | none =>
      rw [hregex] at h
      exact absurd h (by simp)
    | some optionRegex =>
      rw [hregex] at h
      dsimp only at h
      split_ifs at h
      exact ⟨templateKeys, optionRegex, rfl, rfl, (Option.some.inj h).symm⟩

/-- What the extraction returns, whatever the screen. -/
theorem extractNumberedMenuActions_cases {compile : RegexCompiler} {rule : CompiledPromptRule}
    {snapshot : TerminalSnapshot} {promptRow : ℕ} {candidate : PromptCandidate}
    {optionRegex : Regex} {templateKeys : CString}
    (hkeys : rule.actionTemplateKeys = some templateKeys)
    (hregex : rule.optionRegex.or (compile fallbackOptionPattern) = some optionRegex)
    (hrows : optionRows rule snapshot promptRow = menuRows rule snapshot promptRow)
    (hempty : candidate.actions = []) :
    ∃ c : PromptCandidate,
      c.actions = (menuOptions optionRegex rule snapshot promptRow).map
          (MenuOption.action templateKeys)
        ∧ c.patternId = candidate.patternId ∧ c.patternType = candidate.patternType
        ∧ c.prompt = candidate.prompt ∧ c.anchorRow = candidate.anchorRow
        ∧ (Actionable (menuOptions optionRegex rule snapshot promptRow)
            ∧ extractNumberedMenuActions compile rule snapshot promptRow candidate = some c
          ∨ ¬ Actionable (menuOptions optionRegex rule snapshot promptRow)
            ∧ extractNumberedMenuActions compile rule snapshot promptRow candidate = none) := by
  have hstart : ScanState candidate [] :=
    ⟨List.nodup_nil, fun n hn => absurd hn List.not_mem_nil, by rw [hempty]; rfl⟩
  have hspec := scanOptions_spec optionRegex templateKeys
    ((menuRows rule snapshot promptRow).map snapshot.line) candidate [] hstart
  have hoptions : Numbered.firsts MenuOption.value
        ((((menuRows rule snapshot promptRow).map snapshot.line).filterMap
          (menuOption optionRegex)).filter fun o => o.value ∉ ([] : List ℕ))
      = menuOptions optionRegex rule snapshot promptRow := by
    rw [List.filterMap_map, List.filter_eq_self.mpr (fun o _ => by simp)]
    rfl
  simp only [hoptions, hempty, List.nil_append, List.append_nil] at hspec
  simp only [extractNumberedMenuActions, hkeys, hregex, hrows]
  generalize scanOptions optionRegex templateKeys candidate []
    ((menuRows rule snapshot promptRow).map snapshot.line) = scanned at hspec ⊢
  obtain ⟨c, seen⟩ := scanned
  obtain ⟨-, hactions, hseen, hid, htype, hprompt, hanchor⟩ := hspec
  subst hseen
  have hlength : c.actions.length = (menuOptions optionRegex rule snapshot promptRow).length := by
    rw [hactions, List.length_map]
  refine ⟨c, hactions, hid, htype, hprompt, hanchor, ?_⟩
  dsimp only
  rw [hlength]
  by_cases htwo : (menuOptions optionRegex rule snapshot promptRow).length < 2
  · right
    refine ⟨fun h => ?_, if_pos htwo⟩
    have := h.1
    omega
  · have hlong : 2 ≤ (menuOptions optionRegex rule snapshot promptRow).length := by
      omega
    have hall := all_mem_iff_actionable hlong
    rw [if_neg htwo]
    by_cases hactionable : Actionable (menuOptions optionRegex rule snapshot promptRow)
    · left
      exact ⟨hactionable, if_pos (hall.mpr hactionable)⟩
    · right
      exact ⟨hactionable, if_neg (fun h => hactionable (hall.mp h))⟩

/-- **Extraction is the reference**: a menu is extracted exactly when the options of the screen are
actionable, and then its actions are those options, in screen order, with trimmed labels and the
number put in the template.  The array has room for every option of every screen. -/
theorem numbered_menu_extraction {compile : RegexCompiler} {rule : CompiledPromptRule}
    {snapshot : TerminalSnapshot} {promptRow : ℕ} {candidate : PromptCandidate}
    {optionRegex : Regex} {templateKeys : CString}
    (hkeys : rule.actionTemplateKeys = some templateKeys)
    (hregex : rule.optionRegex.or (compile fallbackOptionPattern) = some optionRegex)
    (hprompt : promptRow < snapshot.rows) (hmin : -2 ^ 31 ≤ rule.maxScanLines)
    (hmax : rule.maxScanLines + snapshot.rows < 2 ^ 31) (hempty : candidate.actions = []) :
    let options := menuOptions optionRegex rule snapshot promptRow
    ((∃ c, extractNumberedMenuActions compile rule snapshot promptRow candidate = some c)
        ↔ Actionable options)
      ∧ (∀ c, extractNumberedMenuActions compile rule snapshot promptRow candidate = some c →
          c.actions.map (fun a => (a.label, a.keys.bytes))
              = options.map (fun o => (o.label.trimDup,
                  replaceFirst numberToken.bytes o.number.bytes templateKeys.bytes))
            ∧ c.patternId = candidate.patternId ∧ c.patternType = candidate.patternType
            ∧ c.prompt = candidate.prompt ∧ c.anchorRow = candidate.anchorRow)
      ∧ (options.map MenuOption.value).Nodup
      ∧ options.length ≤ promptMaxActions := by
  have hrows := optionRows_eq hprompt hmin hmax
  obtain ⟨c, hactions, hid, htype, hprompt', hanchor, hcases⟩ :=
    extractNumberedMenuActions_cases hkeys hregex hrows hempty
  have hwritten : c.actions.map (fun a => (a.label, a.keys.bytes))
      = (menuOptions optionRegex rule snapshot promptRow).map (fun o => (o.label.trimDup,
          replaceFirst numberToken.bytes o.number.bytes templateKeys.bytes)) := by
    rw [hactions, List.map_map]
    refine List.map_congr_left fun o _ => ?_
    rw [← bytes_replaceNumberToken]
    rfl
  refine ⟨?_, ?_, nodup_menuOptions _ _ _ _, length_menuOptions_le _ _ _ _⟩
  · obtain ⟨hactionable, hsome⟩ | ⟨hnot, hnone⟩ := hcases
    · exact ⟨fun _ => hactionable, fun _ => ⟨c, hsome⟩⟩
    · refine ⟨fun ⟨d, hd⟩ => ?_, fun h => absurd h hnot⟩
      rw [hnone] at hd
      cases hd
  · intro d hd
    obtain ⟨-, hsome⟩ | ⟨-, hnone⟩ := hcases
    · rw [hsome] at hd
      obtain rfl := Option.some.inj hd
      exact ⟨hwritten, hid, htype, hprompt', hanchor⟩
    · rw [hnone] at hd
      cases hd

/-- A prompt row over two options. -/
def pickScreen : TerminalSnapshot := screenOf 4 20 "Pick\r\n 1. yes\r\n 2. no"

/-- What the prompt row of `pickScreen` fills in before the options are read. -/
def pickCandidate : PromptCandidate where
  patternId := menuRule.patternId
  patternType := .numberedMenu
  prompt := (pickScreen.line 0).trimDup
  actions := []
  anchorRow := 0
  actionCount_le := Nat.zero_le _

theorem numbered_menu_extraction_pick :
    Actionable (menuOptions numberedOptionRegex menuRule pickScreen 0) := by
  have hsome : (extractNumberedMenuActions (fun _ => none) menuRule pickScreen 0
      pickCandidate).isSome = true := by decide +kernel
  have hrows : 0 < pickScreen.rows := by decide +kernel
  have hmax : menuRule.maxScanLines + pickScreen.rows < 2 ^ 31 := by decide +kernel
  exact (numbered_menu_extraction rfl rfl hrows (by decide) hmax rfl).1.mp
    (Option.isSome_iff_exists.mp hsome)

end TmuxRemote
