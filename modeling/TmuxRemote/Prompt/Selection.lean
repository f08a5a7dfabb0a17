import TmuxRemote.Library.Search
import TmuxRemote.Prompt.Menus

/-!
# Prompt/Selection — which rule and which row (`tmuxremote_prompt_ruleset_match`)

The matcher of `Prompt/Rules` returns a candidate.  The code has one `out_candidate` that every
attempt fills: it is cleared at the start of an attempt, appended to while the rows are read, and
freed when the attempt is given up, which leaves the slots of its array as they are.
`CandidateBuffer` is that struct, and `rulesetMatchInto_delivers` says that nothing of an abandoned
attempt is seen in the end.

A pair of a rule and a row is *eligible* when the rule's regex matches the row near the cursor and
has something to offer there.  The matcher takes the first eligible pair, by rule and then from the
bottom up, unless the sum that ends the cursor's window wraps at it (`rule_selection_iff`).
-/

namespace TmuxRemote

open CLib Search

/-! ## The shared struct -/

/-- An entry of the array `actions`: two pointers. -/
structure ActionSlot where
  label : Option CString
  keys : Option CString
  deriving DecidableEq

/-- An action in its slot. -/
def PromptAction.slot (a : PromptAction) : ActionSlot := ⟨some a.label, some a.keys⟩

/-- `tmuxremote_prompt_candidate` as the struct that `out_candidate` points to. -/
structure CandidateBuffer where
  patternId : Option CString
  patternType : PromptType
  prompt : Option CString
  /-- The array has `TMUXREMOTE_PROMPT_MAX_ACTIONS` entries, used or not. -/
  actions : List ActionSlot
  actionCount : ℕ
  anchorRow : Int32
  deriving DecidableEq

namespace CandidateBuffer

/-- `memset(candidate, 0, sizeof(*candidate))`, whatever was in it. -/
def memset (_ : CandidateBuffer) : CandidateBuffer where
  patternId := none
  patternType := .yesNo
  prompt := none
  actions := List.replicate promptMaxActions ⟨none, none⟩
  actionCount := 0
  anchorRow := 0

/-- `tmuxremote_prompt_candidate_free`: the slots keep the pointers that were freed. -/
def free (candidate : CandidateBuffer) : CandidateBuffer :=
  { candidate with patternId := none, prompt := none, actionCount := 0, anchorRow := 0 }

/-- `append_action` -/
def appendAction (candidate : CandidateBuffer) (label keys : CString) : Bool × CandidateBuffer :=
  if candidate.actionCount ≥ promptMaxActions then (false, candidate)
  else
    (true, { candidate with
      actions := candidate.actions.set candidate.actionCount ⟨some label.trimDup, some keys⟩
      actionCount := candidate.actionCount + 1 })

/-- The option loop of `extract_numbered_menu_actions`. -/
def scanOptions (optionRegex : Regex) (templateKeys : CString) :
    CandidateBuffer → List ℕ → List CString → CandidateBuffer × List ℕ
  | candidate, seenNumbers, [] => (candidate, seenNumbers)
  | candidate, seenNumbers, line :: lines =>
    match readOption optionRegex line with
    | none => scanOptions optionRegex templateKeys candidate seenNumbers lines
    | some (optionNumber, number, label) =>
      if optionNumber ∈ seenNumbers then
        scanOptions optionRegex templateKeys candidate seenNumbers lines
      else
        match candidate.appendAction label (replaceNumberToken templateKeys number) with
        | (false, candidate) => (candidate, seenNumbers)
        | (true, candidate) =>
          scanOptions optionRegex templateKeys candidate (optionNumber :: seenNumbers) lines

/-- `extract_numbered_menu_actions` -/
def extractNumberedMenuActions (compile : RegexCompiler) (rule : CompiledPromptRule)
    (snapshot : TerminalSnapshot) (promptRow : ℕ) (candidate : CandidateBuffer) :
    Bool × CandidateBuffer :=
  match rule.actionTemplateKeys with
  | none => (false, candidate)
  | some templateKeys =>
    match rule.optionRegex.or (compile fallbackOptionPattern) with
    | none => (false, candidate)
    | some optionRegex =>
      let (candidate, seenNumbers) := candidate.scanOptions optionRegex templateKeys []
        ((optionRows rule snapshot promptRow).map snapshot.line)
      if candidate.actionCount < 2 ∨ 1 ∉ seenNumbers then (false, candidate)
      else ((List.range' 1 candidate.actionCount).all (· ∈ seenNumbers), candidate)

/-- The loop over the static actions of `fill_candidate_from_rule`. -/
def appendStaticActions : CandidateBuffer → List PromptAction → Bool × CandidateBuffer
  | candidate, [] => (true, candidate)
  | candidate, action :: actions =>
    match candidate.appendAction action.label action.keys with
    | (false, candidate) => (false, candidate)
    | (true, candidate) => candidate.appendStaticActions actions

/-- `fill_candidate_from_rule` -/
def fillFromRule (compile : RegexCompiler) (rule : CompiledPromptRule)
    (snapshot : TerminalSnapshot) (promptRow : ℕ) (candidate : CandidateBuffer) :
    Bool × CandidateBuffer :=
  let candidate := { candidate.memset with
    patternId := some rule.patternId
    patternType := rule.patternType
    prompt := some (snapshot.line promptRow).trimDup
    anchorRow := Int32.ofNat promptRow }
  if rule.patternType = .numberedMenu then
    match candidate.extractNumberedMenuActions compile rule snapshot promptRow with
    | (false, candidate) => (false, candidate.free)
    | (true, candidate) => (true, candidate)
  else
    match candidate.appendStaticActions rule.staticActions with
    | (false, candidate) => (false, candidate.free)
    | (true, candidate) =>
      if candidate.actionCount ≤ 0 then (false, candidate.free) else (true, candidate)

/-- The inner loop of `tmuxremote_prompt_ruleset_match` over the remaining rows. -/
def matchRows (compile : RegexCompiler) (rule : CompiledPromptRule) (snapshot : TerminalSnapshot) :
    List ℕ → CandidateBuffer → Bool × CandidateBuffer
  | [], candidate => (false, candidate)
  | row :: rows, candidate =>
    if (snapshot.line row).isEmpty then matchRows compile rule snapshot rows candidate
    else if !regexMatchesLine rule.promptRegex (snapshot.line row) then
      matchRows compile rule snapshot rows candidate
    else if !isCursorRelevantForPrompt rule snapshot row then
      matchRows compile rule snapshot rows candidate
    else
      match candidate.fillFromRule compile rule snapshot row with
      | (true, candidate) => (true, candidate)
      | (false, candidate) => matchRows compile rule snapshot rows candidate

/-- The outer loop over the remaining rules. -/
def matchRules (compile : RegexCompiler) (snapshot : TerminalSnapshot) :
    PromptRuleset → CandidateBuffer → Bool × CandidateBuffer
  | [], candidate => (false, candidate)
  | rule :: rules, candidate =>
    match matchRows compile rule snapshot (List.range snapshot.rows).reverse candidate with
    | (true, candidate) => (true, candidate)
    | (false, candidate) => matchRules compile snapshot rules candidate

end CandidateBuffer

/-- `tmuxremote_prompt_ruleset_match`, with its out parameter. -/
def rulesetMatchInto (compile : RegexCompiler) (ruleset : PromptRuleset)
    (snapshot : TerminalSnapshot) (outCandidate : CandidateBuffer) : Bool × CandidateBuffer :=
  outCandidate.memset.matchRules compile snapshot ruleset

/-- The candidate an attempt starts from. -/
def blankCandidate (rule : CompiledPromptRule) (snapshot : TerminalSnapshot) (promptRow : ℕ) :
    PromptCandidate where
  patternId := rule.patternId
  patternType := rule.patternType
  prompt := (snapshot.line promptRow).trimDup
  actions := []
  anchorRow := Int32.ofNat promptRow
  actionCount_le := Nat.zero_le _

/-- A menu rule reads the options below the row. -/
theorem fillCandidateFromRule_menu (compile : RegexCompiler) {rule : CompiledPromptRule}
    (snapshot : TerminalSnapshot) (row : ℕ) (htype : rule.patternType = .numberedMenu) :
    fillCandidateFromRule compile rule snapshot row
      = extractNumberedMenuActions compile rule snapshot row (blankCandidate rule snapshot row) :=
  if_pos htype

/-- Another rule has its own actions, of which there has to be one. -/
theorem fillCandidateFromRule_static (compile : RegexCompiler) {rule : CompiledPromptRule}
    (snapshot : TerminalSnapshot) (row : ℕ) (htype : rule.patternType ≠ .numberedMenu) :
    fillCandidateFromRule compile rule snapshot row
      = (appendStaticActions (blankCandidate rule snapshot row) rule.staticActions).bind
          fun candidate => if candidate.actions.isEmpty then none else some candidate := by
  rw [fillCandidateFromRule, if_neg htype, blankCandidate]
  cases appendStaticActions _ rule.staticActions <;> rfl

/-! ## What the struct holds -/

namespace CandidateBuffer

/-- The struct holds the candidate: behind its last action there may be anything. -/
structure Holds (buffer : CandidateBuffer) (c : PromptCandidate) : Prop where
  patternId : buffer.patternId = some c.patternId
  patternType : buffer.patternType = c.patternType
  prompt : buffer.prompt = some c.prompt
  anchorRow : buffer.anchorRow = c.anchorRow
  slots : buffer.actions.length = promptMaxActions
  count : buffer.actionCount = c.actions.length
  actions : buffer.actions.take c.actions.length = c.actions.map PromptAction.slot

/-- No strings and no actions. -/
structure IsEmpty (buffer : CandidateBuffer) : Prop where
  patternId : buffer.patternId = none
  prompt : buffer.prompt = none
  count : buffer.actionCount = 0

/-- What was found is in the struct, or nothing is. -/
def Delivers (result : Bool × CandidateBuffer) : Option PromptCandidate → Prop
  | some c => result.1 = true ∧ result.2.Holds c
  | none => result.1 = false ∧ result.2.IsEmpty

theorem Delivers.elim {result : Bool × CandidateBuffer} {next : Option PromptCandidate} :
    Delivers result next →
      (∃ c buffer, next = some c ∧ result = (true, buffer) ∧ buffer.Holds c)
        ∨ ∃ buffer, next = none ∧ result = (false, buffer) ∧ buffer.IsEmpty := by
  intro h
  cases next with
  | none => exact .inr ⟨result.2, rfl, Prod.ext h.1 rfl, h.2⟩
  | some c => exact .inl ⟨c, result.2, rfl, Prod.ext h.1 rfl, h.2⟩

theorem isEmpty_memset (buffer : CandidateBuffer) : buffer.memset.IsEmpty := ⟨rfl, rfl, rfl⟩

theorem isEmpty_free (buffer : CandidateBuffer) : buffer.free.IsEmpty := ⟨rfl, rfl, rfl⟩

theorem slot_injective : Function.Injective PromptAction.slot := by
  intro a b h
  obtain ⟨hlabel, hkeys⟩ := ActionSlot.mk.inj h
  exact PromptAction.ext (Option.some.inj hlabel) (Option.some.inj hkeys)

/-- A struct holds one candidate at most. -/
theorem Holds.unique {buffer : CandidateBuffer} {c c' : PromptCandidate} (h : buffer.Holds c)
    (h' : buffer.Holds c') : c = c' := by
  have hlength : c.actions.length = c'.actions.length := h.count.symm.trans h'.count
  refine PromptCandidate.ext (Option.some.inj (h.patternId.symm.trans h'.patternId))
    (h.patternType.symm.trans h'.patternType) (Option.some.inj (h.prompt.symm.trans h'.prompt)) ?_
    (h.anchorRow.symm.trans h'.anchorRow)
  refine slot_injective.list_map ?_
  rw [← h.actions, ← h'.actions, hlength]

/-! ## Abandoned attempts leave nothing behind -/

section
variable {buffer : CandidateBuffer} {c : PromptCandidate}

/-- One action more or one action too many. -/
def Appends (result : Bool × CandidateBuffer) (buffer : CandidateBuffer) :
    Option PromptCandidate → Prop
  | some c => result.1 = true ∧ result.2.Holds c
  | none => result = (false, buffer)

theorem Appends.elim {result : Bool × CandidateBuffer} {next : Option PromptCandidate} :
    Appends result buffer next →
      (∃ c buffer', next = some c ∧ result = (true, buffer') ∧ buffer'.Holds c)
        ∨ (next = none ∧ result = (false, buffer)) := by
  intro h
  cases next with
  | none => exact .inr ⟨rfl, h⟩
  | some c => exact .inl ⟨c, result.2, rfl, Prod.ext h.1 rfl, h.2⟩

theorem Holds.appendAction (h : buffer.Holds c) (label keys : CString) :
    Appends (buffer.appendAction label keys) buffer (c.appendAction label keys) := by
  rw [PromptCandidate.appendAction, CandidateBuffer.appendAction, h.count]
  by_cases hroom : c.actions.length < promptMaxActions
  · have hin : c.actions.length < buffer.actions.length := by rwa [h.slots]
    rw [dif_pos hroom, if_neg (not_le.mpr hroom)]
    refine ⟨rfl, h.patternId, h.patternType, h.prompt, h.anchorRow, ?_, ?_, ?_⟩
    · exact (List.length_set ..).trans h.slots
    · dsimp only
      rw [List.length_append, List.length_singleton]
    · have hset : c.actions.length < (buffer.actions.set c.actions.length
          ⟨some label.trimDup, some keys⟩).length := by rwa [List.length_set]
      dsimp only
      rw [List.length_append, List.length_singleton, List.take_succ_eq_append_getElem hset,
        List.getElem_set_self, List.take_set_of_le le_rfl, h.actions, List.map_append]
      rfl
  · rw [dif_neg hroom, if_pos (not_lt.mp hroom)]
    rfl

/-- **The option loop.** -/
theorem Holds.scanOptions (h : buffer.Holds c) (optionRegex : Regex) (templateKeys : CString)
    (seenNumbers : List ℕ) (lines : List CString) :
    (buffer.scanOptions optionRegex templateKeys seenNumbers lines).1.Holds
        (TmuxRemote.scanOptions optionRegex templateKeys c seenNumbers lines).1
      ∧ (buffer.scanOptions optionRegex templateKeys seenNumbers lines).2
        = (TmuxRemote.scanOptions optionRegex templateKeys c seenNumbers lines).2 := by
  induction lines generalizing buffer c seenNumbers with
  | nil => exact ⟨h, rfl⟩
  | cons line lines ih =>
    rw [CandidateBuffer.scanOptions, TmuxRemote.scanOptions]
    rcases readOption optionRegex line with - | ⟨optionNumber, number, label⟩
    · exact ih h seenNumbers
    · dsimp only
      split_ifs with hseen
      · exact ih h seenNumbers
      · obtain ⟨c', buffer', hnext, hresult, hholds⟩ | ⟨hnext, hresult⟩ :=
          (h.appendAction label (replaceNumberToken templateKeys number)).elim
        · rw [hnext, hresult]
          exact ih hholds (optionNumber :: seenNumbers)
        · rw [hnext, hresult]
          exact ⟨h, rfl⟩

/-- What an attempt leaves, before it is given up. -/
def Leaves (result : Bool × CandidateBuffer) : Option PromptCandidate → Prop
  | some c => result.1 = true ∧ result.2.Holds c
  | none => result.1 = false

theorem Leaves.elim {result : Bool × CandidateBuffer} {next : Option PromptCandidate} :
    Leaves result next →
      (∃ c buffer, next = some c ∧ result = (true, buffer) ∧ buffer.Holds c)
        ∨ ∃ buffer, next = none ∧ result = (false, buffer) := by
  intro h
  cases next with
  | none => exact .inr ⟨result.2, rfl, Prod.ext h rfl⟩
  | some c => exact .inl ⟨c, result.2, rfl, Prod.ext h.1 rfl, h.2⟩

/-- **`extract_numbered_menu_actions`** -/
theorem Holds.extractNumberedMenuActions (h : buffer.Holds c) (compile : RegexCompiler)
    (rule : CompiledPromptRule) (snapshot : TerminalSnapshot) (promptRow : ℕ) :
    Leaves (buffer.extractNumberedMenuActions compile rule snapshot promptRow)
      (TmuxRemote.extractNumberedMenuActions compile rule snapshot promptRow c) := by
  rw [CandidateBuffer.extractNumberedMenuActions, TmuxRemote.extractNumberedMenuActions]
  rcases rule.actionTemplateKeys with - | templateKeys
  · rfl
  · dsimp only
    rcases rule.optionRegex.or (compile fallbackOptionPattern) with - | optionRegex
    · rfl
    · obtain ⟨hholds, hseen⟩ := h.scanOptions optionRegex templateKeys []
        ((optionRows rule snapshot promptRow).map snapshot.line)
      dsimp only
      rw [hseen, hholds.count]
      generalize TmuxRemote.scanOptions optionRegex templateKeys c []
        ((optionRows rule snapshot promptRow).map snapshot.line) = scanned at hholds ⊢
      obtain ⟨c', seenNumbers⟩ := scanned
      dsimp only at hholds ⊢
      by_cases hfew : c'.actions.length < 2
      · rw [if_pos (.inl hfew), if_pos hfew]
        rfl
      · rw [if_neg hfew]
        -- the number one is among those that are checked again in the end
        have hone : 1 ∈ List.range' 1 c'.actions.length := List.mem_range'_1.mpr (by omega)
        by_cases hall : (List.range' 1 c'.actions.length).all (· ∈ seenNumbers) = true
        · have hfirst : 1 ∈ seenNumbers := of_decide_eq_true (List.all_eq_true.mp hall 1 hone)
          rw [if_neg (not_or.mpr ⟨hfew, not_not.mpr hfirst⟩), if_pos hall]
          exact ⟨hall, hholds⟩
        · rw [if_neg hall]
          split_ifs
          · rfl
          · exact (Bool.not_eq_true _).mp hall

/-- **The static actions.** -/
theorem Holds.appendStaticActions (h : buffer.Holds c) (actions : List PromptAction) :
    Leaves (buffer.appendStaticActions actions) (TmuxRemote.appendStaticActions c actions) := by
  induction actions generalizing buffer c with
  | nil => exact ⟨rfl, h⟩
  | cons action actions ih =>
    rw [CandidateBuffer.appendStaticActions, TmuxRemote.appendStaticActions]
    obtain ⟨c', buffer', hnext, hresult, hholds⟩ | ⟨hnext, hresult⟩ :=
      (h.appendAction action.label action.keys).elim
    · rw [hnext, hresult]
      exact ih hholds
    · rw [hnext, hresult]
      rfl

/-- An attempt that is given up is freed. -/
theorem Leaves.free {result : Bool × CandidateBuffer} {next : Option PromptCandidate} :
    Leaves result next →
      Delivers (match result with
        | (false, candidate) => (false, candidate.free)
        | (true, candidate) => (true, candidate)) next := by
  intro h
  obtain ⟨c, buffer', rfl, rfl, hholds⟩ | ⟨buffer', rfl, rfl⟩ := h.elim
  · exact ⟨rfl, hholds⟩
  · exact ⟨rfl, buffer'.isEmpty_free⟩

end

/-- **One attempt**, whatever was in the struct before. -/
theorem fillFromRule_delivers (compile : RegexCompiler) (rule : CompiledPromptRule)
    (snapshot : TerminalSnapshot) (promptRow : ℕ) (buffer : CandidateBuffer) :
    Delivers (buffer.fillFromRule compile rule snapshot promptRow)
      (fillCandidateFromRule compile rule snapshot promptRow) := by
  have hstart : Holds { buffer.memset with
      patternId := some rule.patternId
      patternType := rule.patternType
      prompt := some (snapshot.line promptRow).trimDup
      anchorRow := Int32.ofNat promptRow } (blankCandidate rule snapshot promptRow) :=
    ⟨rfl, rfl, rfl, rfl, List.length_replicate, rfl, rfl⟩
  by_cases htype : rule.patternType = .numberedMenu
  · rw [fillFromRule, if_pos htype, fillCandidateFromRule_menu compile snapshot promptRow htype]
    exact (hstart.extractNumberedMenuActions compile rule snapshot promptRow).free
  · have hstatic := hstart.appendStaticActions rule.staticActions
    rw [fillFromRule, if_neg htype, fillCandidateFromRule_static compile snapshot promptRow htype]
    obtain ⟨c, buffer', hnext, hresult, hholds⟩ | ⟨buffer', hnext, hresult⟩ := hstatic.elim
    · rw [hnext, Option.bind_some]
      simp only [hresult]
      rw [hholds.count]
      by_cases hnone : c.actions = []
      · rw [hnone]
        exact ⟨rfl, buffer'.isEmpty_free⟩
      · have hpos : 0 < c.actions.length := List.length_pos_iff.mpr hnone
        rw [if_neg (by omega), if_neg (by rwa [List.isEmpty_iff])]
        exact ⟨rfl, hholds⟩
    · rw [hnext]
      simp only [hresult]
      exact ⟨rfl, buffer'.isEmpty_free⟩

/-- **The rows of one rule.** -/
theorem matchRows_delivers (compile : RegexCompiler) (rule : CompiledPromptRule)
    (snapshot : TerminalSnapshot) (rows : List ℕ) {buffer : CandidateBuffer}
    (h : buffer.IsEmpty) :
    Delivers (matchRows compile rule snapshot rows buffer)
      (rows.findSome? (matchRow compile rule snapshot)) := by
  induction rows generalizing buffer with
  | nil => exact ⟨rfl, h⟩
  | cons row rows ih =>
    rw [matchRows, List.findSome?_cons, matchRow]
    split_ifs
    · exact ih h
    · exact ih h
    · exact ih h
    · obtain ⟨c, buffer', hnext, hresult, hholds⟩ | ⟨buffer', hnext, hresult, hempty⟩ :=
        (fillFromRule_delivers compile rule snapshot row buffer).elim
      · rw [hnext, hresult]
        exact ⟨rfl, hholds⟩
      · rw [hnext, hresult]
        exact ih hempty

/-- **The rules.** -/
theorem matchRules_delivers (compile : RegexCompiler) (ruleset : PromptRuleset)
    (snapshot : TerminalSnapshot) {buffer : CandidateBuffer} (h : buffer.IsEmpty) :
    Delivers (matchRules compile snapshot ruleset buffer)
      (rulesetMatch compile ruleset snapshot) := by
  induction ruleset generalizing buffer with
  | nil => exact ⟨rfl, h⟩
  | cons rule rules ih =>
    rw [matchRules, rulesetMatch, List.findSome?_cons]
    obtain ⟨c, buffer', hnext, hresult, hholds⟩ | ⟨buffer', hnext, hresult, hempty⟩ :=
      (matchRows_delivers compile rule snapshot (List.range snapshot.rows).reverse h).elim
    · rw [hnext, hresult]
      exact ⟨rfl, hholds⟩
    · rw [hnext, hresult]
      exact ih hempty

end CandidateBuffer

/-- **The matcher delivers what it finds** and nothing else, whatever was in the struct. -/
theorem rulesetMatchInto_delivers (compile : RegexCompiler) (ruleset : PromptRuleset)
    (snapshot : TerminalSnapshot) (outCandidate : CandidateBuffer) :
    CandidateBuffer.Delivers (rulesetMatchInto compile ruleset snapshot outCandidate)
      (rulesetMatch compile ruleset snapshot) :=
  CandidateBuffer.matchRules_delivers compile ruleset snapshot outCandidate.isEmpty_memset

/-! ## Eligible pairs -/

/-- What a rule has to offer at a row: the menu below it, or its own actions, of which there are
one to sixteen. -/
def Offers (compile : RegexCompiler) (rule : CompiledPromptRule) (snapshot : TerminalSnapshot)
    (row : ℕ) (actions : List PromptAction) : Prop :=
  if rule.patternType = .numberedMenu then
    ∃ templateKeys optionRegex, rule.actionTemplateKeys = some templateKeys
      ∧ rule.optionRegex.or (compile fallbackOptionPattern) = some optionRegex
      ∧ Actionable (menuOptions optionRegex rule snapshot row)
      ∧ actions = (menuOptions optionRegex rule snapshot row).map (MenuOption.action templateKeys)
  else
    (1 ≤ rule.staticActions.length ∧ rule.staticActions.length ≤ promptMaxActions)
      ∧ actions = rule.staticActions.map fun action => ⟨action.label.trimDup, action.keys⟩

/-- The rule may be filled in at the row; the sums are those of the integers. -/
structure EligibleRow (compile : RegexCompiler) (rule : CompiledPromptRule)
    (snapshot : TerminalSnapshot) (row : ℕ) : Prop where
  onScreen : row < snapshot.rows
  nonempty : (snapshot.line row).isEmpty = false
  matched : regexMatchesLine rule.promptRegex (snapshot.line row) = true
  notAbove : (row : ℤ) - 1 ≤ snapshot.cursorRow
  notBelow : (snapshot.cursorRow : ℤ) ≤ row + rule.maxScanLines + 2
  offers : ∃ actions, Offers compile rule snapshot row actions

/-- An eligible pair of a rule, by its index, and a row. -/
def Eligible (compile : RegexCompiler) (ruleset : PromptRuleset) (snapshot : TerminalSnapshot)
    (r row : ℕ) : Prop :=
  ∃ rule, ruleset[r]? = some rule ∧ EligibleRow compile rule snapshot row

/-- Everything in the candidate comes from the one pair. -/
structure BuiltFrom (compile : RegexCompiler) (rule : CompiledPromptRule)
    (snapshot : TerminalSnapshot) (row : ℕ) (c : PromptCandidate) : Prop where
  patternId : c.patternId = rule.patternId
  patternType : c.patternType = rule.patternType
  prompt : c.prompt = (snapshot.line row).trimDup
  anchorRow : c.anchorRow = Int32.ofNat row
  actions : Offers compile rule snapshot row c.actions

/-- The end of the cursor's window is an `int`. -/
def WindowFits (rule : CompiledPromptRule) (row : ℕ) : Prop := row + rule.maxScanLines + 2 < 2 ^ 31

/-- An eligible pair at which the sum does not wrap. -/
def EligibleFitting (compile : RegexCompiler) (ruleset : PromptRuleset)
    (snapshot : TerminalSnapshot) (r row : ℕ) : Prop :=
  ∃ rule, ruleset[r]? = some rule ∧ EligibleRow compile rule snapshot row ∧ WindowFits rule row

section
variable {compile : RegexCompiler} {rule : CompiledPromptRule} {snapshot : TerminalSnapshot}
  {row : ℕ} {c : PromptCandidate}

theorem Offers.unique {actions actions' : List PromptAction}
    (h : Offers compile rule snapshot row actions)
    (h' : Offers compile rule snapshot row actions') : actions = actions' := by
  rw [Offers] at h h'
  split_ifs at h h'
  · obtain ⟨keys, regex, hkeys, hregex, -, rfl⟩ := h
    obtain ⟨keys', regex', hkeys', hregex', -, rfl⟩ := h'
    obtain rfl := Option.some.inj (hkeys.symm.trans hkeys')
    obtain rfl := Option.some.inj (hregex.symm.trans hregex')
    rfl
  · exact h.2.trans h'.2.symm

/-- A pair builds one candidate. -/
theorem BuiltFrom.unique {c' : PromptCandidate} (h : BuiltFrom compile rule snapshot row c)
    (h' : BuiltFrom compile rule snapshot row c') : c = c' :=
  PromptCandidate.ext (h.patternId.trans h'.patternId.symm)
    (h.patternType.trans h'.patternType.symm) (h.prompt.trans h'.prompt.symm)
    (h.actions.unique h'.actions) (h.anchorRow.trans h'.anchorRow.symm)

/-- The static actions of a rule, appended to a candidate with room for them. -/
theorem appendStaticActions_eq_some_iff (c c' : PromptCandidate) (actions : List PromptAction) :
    appendStaticActions c actions = some c'
      ↔ c.actions.length + actions.length ≤ promptMaxActions
        ∧ c'.patternId = c.patternId ∧ c'.patternType = c.patternType ∧ c'.prompt = c.prompt
        ∧ c'.anchorRow = c.anchorRow
        ∧ c'.actions
          = c.actions ++ actions.map fun action => ⟨action.label.trimDup, action.keys⟩ := by
  induction actions generalizing c with
  | nil =>
    rw [appendStaticActions, Option.some.injEq, List.map_nil, List.append_nil]
    refine ⟨fun h => h ▸ ⟨c.actionCount_le, rfl, rfl, rfl, rfl, rfl⟩, fun h => ?_⟩
    obtain ⟨-, hid, htype, hprompt, hrow, hactions⟩ := h
    exact (PromptCandidate.ext hid htype hprompt hactions hrow).symm
  | cons action actions ih =>
    rw [appendStaticActions, PromptCandidate.appendAction]
    by_cases hroom : c.actions.length < promptMaxActions
    · rw [dif_pos hroom]
      dsimp only
      rw [ih]
      dsimp only
      rw [List.length_append, List.length_singleton, List.length_cons, List.append_assoc,
        Nat.add_assoc, Nat.add_comm 1, List.map_cons, List.singleton_append]
    · rw [dif_neg hroom]
      refine ⟨fun h => absurd h (by simp), fun h => ?_⟩
      have hle := h.1
      rw [List.length_cons] at hle
      omega

/-- **Filling in builds the candidate of the pair**, if it has something to offer. -/
theorem fill_eq_some_iff (hrow : row < snapshot.rows) (hmin : -2 ^ 31 ≤ rule.maxScanLines)
    (hmax : rule.maxScanLines + snapshot.rows < 2 ^ 31) :
    fillCandidateFromRule compile rule snapshot row = some c
      ↔ BuiltFrom compile rule snapshot row c := by
  have hrows := optionRows_eq hrow hmin hmax
  by_cases htype : rule.patternType = .numberedMenu
  · have hmenu {optionRegex : Regex} {templateKeys : CString} :=
      @extractNumberedMenuActions_cases compile rule snapshot row
        (blankCandidate rule snapshot row) optionRegex templateKeys
    rw [fillCandidateFromRule_menu compile snapshot row htype]
    constructor
    · intro h
      obtain ⟨templateKeys, optionRegex, hkeys, hregex, -⟩ := extractNumberedMenuActions_eq_some h
      obtain ⟨c', hactions, hid, htype', hprompt, hanchor, hcases⟩ := hmenu hkeys hregex hrows rfl
      rcases hcases with ⟨hactionable, hsome⟩ | ⟨-, hnone⟩
      · obtain rfl := Option.some.inj (h.symm.trans hsome)
        refine ⟨hid, htype', hprompt, hanchor, ?_⟩
        rw [Offers, if_pos htype]
        exact ⟨templateKeys, optionRegex, hkeys, hregex, hactionable, hactions⟩
      · exact absurd (h.symm.trans hnone) (by simp)
    · intro h
      have hoffers := h.actions
      rw [Offers, if_pos htype] at hoffers
      obtain ⟨templateKeys, optionRegex, hkeys, hregex, hactionable, hactions⟩ := hoffers
      obtain ⟨c', hactions', hid, htype', hprompt, hanchor, hcases⟩ :=
        hmenu hkeys hregex hrows rfl
      rcases hcases with ⟨-, hsome⟩ | ⟨hnot, -⟩
      · rw [hsome]
        refine congrArg some (PromptCandidate.ext ?_ ?_ ?_ ?_ ?_)
        · exact hid.trans h.patternId.symm
        · exact htype'.trans h.patternType.symm
        · exact hprompt.trans h.prompt.symm
        · exact hactions'.trans hactions.symm
        · exact hanchor.trans h.anchorRow.symm
      · exact absurd hactionable hnot
  · have hstatic := appendStaticActions_eq_some_iff (blankCandidate rule snapshot row)
    rw [fillCandidateFromRule_static compile snapshot row htype]
    constructor
    · intro h
      obtain ⟨c', happend, hsome⟩ := Option.bind_eq_some_iff.mp h
      obtain ⟨hroom, hid, htype', hprompt, hanchor, hactions⟩ := (hstatic c' _).mp happend
      split_ifs at hsome with hempty
      obtain rfl := Option.some.inj hsome
      refine ⟨hid, htype', hprompt, hanchor, ?_⟩
      rw [Offers, if_neg htype]
      refine ⟨⟨?_, (Nat.zero_add _).symm.trans_le hroom⟩, hactions⟩
      rw [hactions, List.isEmpty_iff] at hempty
      exact List.length_pos_iff.mpr fun hnil => hempty (by rw [hnil]; rfl)
    · intro h
      have hoffers := h.actions
      rw [Offers, if_neg htype] at hoffers
      obtain ⟨⟨hone, hsixteen⟩, hactions⟩ := hoffers
      have happend := (hstatic c rule.staticActions).mpr
        ⟨(Nat.zero_add _).trans_le hsixteen, h.patternId, h.patternType, h.prompt, h.anchorRow,
          hactions⟩
      rw [happend]
      refine if_neg fun hempty => ?_
      rw [List.isEmpty_iff, hactions, List.map_eq_nil_iff] at hempty
      rw [hempty] at hone
      exact absurd hone (by decide)

/-- **One row of the loop**: the code's window is the window, where its end fits. -/
theorem matchRow_eq_some_iff (hrow : row < snapshot.rows) (hmin : -2 ^ 31 ≤ rule.maxScanLines)
    (hmax : rule.maxScanLines + snapshot.rows < 2 ^ 31) :
    matchRow compile rule snapshot row = some c
      ↔ EligibleRow compile rule snapshot row ∧ WindowFits rule row
        ∧ BuiltFrom compile rule snapshot row c := by
  have hfill := @fill_eq_some_iff compile rule snapshot row c hrow hmin hmax
  have hwindow : isCursorRelevantForPrompt rule snapshot row = true
      ↔ (row : ℤ) - 1 ≤ snapshot.cursorRow
        ∧ (snapshot.cursorRow : ℤ) ≤ row + rule.maxScanLines + 2 ∧ WindowFits rule row := by
    rw [isCursorRelevantForPrompt, WindowFits]
    by_cases hfits : row + rule.maxScanLines + 2 < 2 ^ 31
    · rw [wrapInt32_eq_self (by omega) hfits]
      split_ifs with habove
      · exact ⟨fun h => absurd h (by simp), fun h => absurd h.1 (by omega)⟩
      · rw [decide_eq_true_iff]
        exact ⟨fun h => ⟨by omega, h, hfits⟩, fun h => h.2.1⟩
    · -- the one sum that wraps, to the least `int`
      have hsum : row + rule.maxScanLines + 2 = 2 ^ 31 := by omega
      have hwrap : wrapInt32 (row + rule.maxScanLines + 2) = -2 ^ 31 := by rw [hsum]; decide
      rw [hwrap]
      split_ifs with habove
      · exact ⟨fun h => absurd h (by simp), fun h => absurd h.2.2 hfits⟩
      · rw [decide_eq_true_iff]
        exact ⟨fun h => by omega, fun h => absurd h.2.2 hfits⟩
  rw [matchRow]
  split_ifs with hempty hregex hcursor
  · exact ⟨fun h => absurd h (by simp), fun h => absurd (hempty.symm.trans h.1.nonempty) (by simp)⟩
  · refine ⟨fun h => absurd h (by simp), fun h => ?_⟩
    rw [h.1.matched] at hregex
    exact absurd hregex (by simp)
  · refine ⟨fun h => absurd h (by simp), fun h => ?_⟩
    rw [hwindow.mpr ⟨h.1.notAbove, h.1.notBelow, h.2.1⟩] at hcursor
    exact absurd hcursor (by simp)
  · rw [hfill]
    obtain ⟨habove, hbelow, hfits⟩ := hwindow.mp (by simpa using hcursor)
    refine ⟨fun h => ⟨⟨hrow, (Bool.not_eq_true _).mp hempty, by simpa using hregex, habove, hbelow,
      ⟨_, h.actions⟩⟩, hfits, h⟩, fun h => h.2.2⟩

end

/-! ## The first eligible pair -/

/-- The matcher answers with the first eligible pair, whatever was in the struct before, and leaves
nothing in it where there is none. -/
def SelectsFirst (compile : RegexCompiler) (ruleset : PromptRuleset)
    (snapshot : TerminalSnapshot) : Prop :=
  ∀ outCandidate,
    ((rulesetMatchInto compile ruleset snapshot outCandidate).1 = true
        ↔ ∃ r row, Eligible compile ruleset snapshot r row)
      ∧ (∀ r row rule, IsFirst (Eligible compile ruleset snapshot) r row →
        ruleset[r]? = some rule →
        ∃ c, (rulesetMatchInto compile ruleset snapshot outCandidate).2.Holds c
          ∧ BuiltFrom compile rule snapshot row c)
      ∧ ((rulesetMatchInto compile ruleset snapshot outCandidate).1 = false →
        (rulesetMatchInto compile ruleset snapshot outCandidate).2.IsEmpty)

/-- The window fits at the first eligible pair, or the first pair where it fits builds the same
candidate. -/
def FirstFits (compile : RegexCompiler) (ruleset : PromptRuleset) (snapshot : TerminalSnapshot) :
    Prop :=
  ∀ r row rule, IsFirst (Eligible compile ruleset snapshot) r row → ruleset[r]? = some rule →
    WindowFits rule row
      ∨ ∃ r' row' rule' c, IsFirst (EligibleFitting compile ruleset snapshot) r' row'
        ∧ ruleset[r']? = some rule' ∧ BuiltFrom compile rule' snapshot row' c
        ∧ BuiltFrom compile rule snapshot row c

section
variable {compile : RegexCompiler} {ruleset : PromptRuleset} {snapshot : TerminalSnapshot}

theorem Eligible.row_lt {r row : ℕ} (h : Eligible compile ruleset snapshot r row) :
    row < snapshot.rows := h.elim fun _ h => h.2.onScreen

theorem EligibleFitting.eligible {r row : ℕ} (h : EligibleFitting compile ruleset snapshot r row) :
    Eligible compile ruleset snapshot r row := h.imp fun _ h => ⟨h.1, h.2.1⟩

theorem Offers.length_le {rule : CompiledPromptRule} {row : ℕ} {actions : List PromptAction}
    (h : Offers compile rule snapshot row actions) : actions.length ≤ promptMaxActions := by
  rw [Offers] at h
  split_ifs at h
  · obtain ⟨templateKeys, optionRegex, -, -, -, rfl⟩ := h
    rw [List.length_map]
    exact length_menuOptions_le optionRegex rule snapshot row
  · obtain ⟨⟨-, hsixteen⟩, rfl⟩ := h
    rwa [List.length_map]

/-- An eligible pair builds a candidate. -/
theorem EligibleRow.exists_builtFrom {rule : CompiledPromptRule} {row : ℕ}
    (h : EligibleRow compile rule snapshot row) : ∃ c, BuiltFrom compile rule snapshot row c := by
  obtain ⟨actions, hoffers⟩ := h.offers
  exact ⟨{ blankCandidate rule snapshot row with
      actions := actions
      actionCount_le := hoffers.length_le }, rfl, rfl, rfl, rfl, hoffers⟩

/-- **The matcher takes the first pair where the window fits.** -/
theorem rulesetMatch_eq_some_iff
    (hmin : ∀ rule ∈ ruleset, -2 ^ 31 ≤ rule.maxScanLines)
    (hmax : ∀ rule ∈ ruleset, rule.maxScanLines + snapshot.rows < 2 ^ 31) {c : PromptCandidate} :
    rulesetMatch compile ruleset snapshot = some c
      ↔ ∃ r row rule, IsFirst (EligibleFitting compile ruleset snapshot) r row
        ∧ ruleset[r]? = some rule ∧ BuiltFrom compile rule snapshot row c := by
  have hsearch : rulesetMatch compile ruleset snapshot
      = search (fun rule row => matchRow compile rule snapshot row) snapshot.rows ruleset := rfl
  have hat {r row : ℕ} {c : PromptCandidate} :
      hitAt (fun rule row => matchRow compile rule snapshot row) snapshot.rows ruleset r row
          = some c
        ↔ ∃ rule, ruleset[r]? = some rule ∧ EligibleRow compile rule snapshot row
          ∧ WindowFits rule row ∧ BuiltFrom compile rule snapshot row c := by
    rw [hitAt_eq_some_iff]
    constructor
    · rintro ⟨hrow, rule, hrule, hmatch⟩
      have hmem := List.mem_of_getElem? hrule
      exact ⟨rule, hrule, (matchRow_eq_some_iff hrow (hmin rule hmem) (hmax rule hmem)).mp hmatch⟩
    · rintro ⟨rule, hrule, heligible, h⟩
      have hmem := List.mem_of_getElem? hrule
      exact ⟨heligible.onScreen, rule, hrule,
        (matchRow_eq_some_iff heligible.onScreen (hmin rule hmem) (hmax rule hmem)).mpr
          ⟨heligible, h⟩⟩
  have hhits (r row : ℕ) :
      Hits (fun rule row => matchRow compile rule snapshot row) snapshot.rows ruleset r row
        ↔ EligibleFitting compile ruleset snapshot r row := by
    rw [hits_iff]
    constructor
    · rintro ⟨c, hc⟩
      obtain ⟨rule, hrule, heligible, hfits, -⟩ := hat.mp hc
      exact ⟨rule, hrule, heligible, hfits⟩
    · rintro ⟨rule, hrule, heligible, hfits⟩
      obtain ⟨c, hc⟩ := heligible.exists_builtFrom
      exact ⟨c, hat.mpr ⟨rule, hrule, heligible, hfits, hc⟩⟩
  rw [hsearch, search_eq_some_iff]
  constructor
  · rintro ⟨r, row, hfirst, hc⟩
    obtain ⟨rule, hrule, -, -, hbuilt⟩ := hat.mp hc
    exact ⟨r, row, rule, (isFirst_congr hhits).mp hfirst, hrule, hbuilt⟩
  · rintro ⟨r, row, rule, hfirst, hrule, hbuilt⟩
    obtain ⟨rule', hrule', heligible, hfits⟩ := hfirst.1
    obtain rfl := Option.some.inj (hrule.symm.trans hrule')
    exact ⟨r, row, (isFirst_congr hhits).mpr hfirst,
      hat.mpr ⟨rule, hrule, heligible, hfits, hbuilt⟩⟩

/-- **Rule selection.**  The matcher answers with the first eligible pair exactly where the window
fits at it, or a later pair makes up for it. -/
theorem rule_selection_iff
    (hmin : ∀ rule ∈ ruleset, -2 ^ 31 ≤ rule.maxScanLines)
    (hmax : ∀ rule ∈ ruleset, rule.maxScanLines + snapshot.rows < 2 ^ 31) :
    SelectsFirst compile ruleset snapshot ↔ FirstFits compile ruleset snapshot := by
  constructor
  · intro h r row rule hfirst hrule
    obtain ⟨hfound, hbuilds, -⟩ := h (CandidateBuffer.memset ⟨none, .yesNo, none, [], 0, 0⟩)
    have hdelivers := rulesetMatchInto_delivers compile ruleset snapshot
      (CandidateBuffer.memset ⟨none, .yesNo, none, [], 0, 0⟩)
    obtain ⟨c, hholds, hbuilt⟩ := hbuilds r row rule hfirst hrule
    have htrue := hfound.mpr ⟨r, row, hfirst.1⟩
    cases hmatch : rulesetMatch compile ruleset snapshot with
    | none =>
      rw [hmatch] at hdelivers
      exact absurd (htrue.symm.trans hdelivers.1) (by simp)
    | some c' =>
      rw [hmatch] at hdelivers
      obtain rfl := hholds.unique hdelivers.2
      obtain ⟨r', row', rule', hfirst', hrule', hbuilt'⟩ :=
        (rulesetMatch_eq_some_iff hmin hmax).mp hmatch
      exact .inr ⟨r', row', rule', c, hfirst', hrule', hbuilt', hbuilt⟩
  · intro h outCandidate
    have hdelivers := rulesetMatchInto_delivers compile ruleset snapshot outCandidate
    -- the candidate of the first eligible pair is the one that is found
    have hfinds : ∀ r row rule, IsFirst (Eligible compile ruleset snapshot) r row →
        ruleset[r]? = some rule →
        ∃ c, rulesetMatch compile ruleset snapshot = some c
          ∧ BuiltFrom compile rule snapshot row c := by
      intro r row rule hfirst hrule
      rcases h r row rule hfirst hrule with hfits | ⟨r', row', rule', c, hfirst', hrule', hc', hc⟩
      · obtain ⟨rule', hrule', heligible⟩ := hfirst.1
        obtain rfl := Option.some.inj (hrule.symm.trans hrule')
        obtain ⟨c, hc⟩ := heligible.exists_builtFrom
        have hfirst' := hfirst.mono ⟨rule, hrule, heligible, hfits⟩
          fun i j (hij : EligibleFitting compile ruleset snapshot i j) => hij.eligible
        exact ⟨c, (rulesetMatch_eq_some_iff hmin hmax).mpr ⟨r, row, rule, hfirst', hrule, hc⟩, hc⟩
      · exact ⟨c, (rulesetMatch_eq_some_iff hmin hmax).mpr
          ⟨r', row', rule', hfirst', hrule', hc'⟩, hc⟩
    refine ⟨⟨fun htrue => ?_, fun hex => ?_⟩, fun r row rule hfirst hrule => ?_, fun hfalse => ?_⟩
    · cases hmatch : rulesetMatch compile ruleset snapshot with
      | none =>
        rw [hmatch] at hdelivers
        exact absurd (htrue.symm.trans hdelivers.1) (by simp)
      | some c =>
        obtain ⟨r, row, rule, hfirst, -⟩ := (rulesetMatch_eq_some_iff hmin hmax).mp hmatch
        exact ⟨r, row, hfirst.1.eligible⟩
    · obtain ⟨r, row, hfirst⟩ := exists_isFirst (fun _ _ h => Eligible.row_lt h) hex
      obtain ⟨rule, hrule, -⟩ := hfirst.1
      obtain ⟨c, hmatch, -⟩ := hfinds r row rule hfirst hrule
      rw [hmatch] at hdelivers
      exact hdelivers.1
    · obtain ⟨c, hmatch, hbuilt⟩ := hfinds r row rule hfirst hrule
      rw [hmatch] at hdelivers
      exact ⟨c, hdelivers.2, hbuilt⟩
    · cases hmatch : rulesetMatch compile ruleset snapshot with
      | none =>
        rw [hmatch] at hdelivers
        exact hdelivers.2
      | some c =>
        rw [hmatch] at hdelivers
        exact absurd (hdelivers.1.symm.trans hfalse) (by simp)

end

/-- Ten lines below the prompt are far from wrapping. -/
theorem rule_selection_pick : SelectsFirst (fun _ => none) [menuRule] pickScreen := by
  have hrows : pickScreen.rows = 4 := by decide +kernel
  have hrule : ∀ rule ∈ [menuRule], rule.maxScanLines = 10 := by
    intro rule hrule
    rw [List.mem_singleton.mp hrule]
    rfl
  refine (rule_selection_iff (fun rule h => by rw [hrule rule h]; decide)
    fun rule h => by rw [hrule rule h, hrows]; decide).mpr fun r row rule hfirst hr => .inl ?_
  have hrow := Eligible.row_lt hfirst.1
  rw [WindowFits, hrule rule (List.mem_of_getElem? hr)]
  omega

/-- A rule with one action under a line that says `Pick`, whose window has almost the largest
size. -/
def wideRule : CompiledPromptRule where
  patternId := CString.ofString "wide"
  patternType := .yesNo
  maxScanLines := 2 ^ 31 - 2
  promptRegex := literalRegex (CString.ofString "Pick")
  optionRegex := none
  staticActions := [⟨CString.ofString "Yes", CString.ofString "y"⟩]
  actionTemplateKeys := none

/-- A screen of one row. -/
def oneRowScreen : TerminalSnapshot := screenOf 1 8 "Pick"

/-- **The window wraps**: on a screen of one row the prompt that the cursor is on is not found. -/
theorem rule_selection_wraps :
    ¬ ∀ (ruleset : PromptRuleset) (snapshot : TerminalSnapshot),
      (∀ rule ∈ ruleset, 0 < rule.maxScanLines) →
      (∀ rule ∈ ruleset, rule.maxScanLines + snapshot.rows < 2 ^ 31) →
      SelectsFirst (fun _ => none) ruleset snapshot := by
  intro hall
  have hrows : oneRowScreen.rows = 1 := by decide +kernel
  have hselects := hall [wideRule] oneRowScreen
    (fun rule h => by rw [List.mem_singleton.mp h]; decide)
    (fun rule h => by rw [List.mem_singleton.mp h, hrows]; decide)
  obtain ⟨hfound, -, -⟩ := hselects (CandidateBuffer.memset ⟨none, .yesNo, none, [], 0, 0⟩)
  have hoffers : Offers (fun _ => none) wideRule oneRowScreen 0
      (wideRule.staticActions.map fun action => ⟨action.label.trimDup, action.keys⟩) := by
    rw [Offers, if_neg (by decide)]
    exact ⟨by decide, rfl⟩
  have heligible : EligibleRow (fun _ => none) wideRule oneRowScreen 0 :=
    { onScreen := by decide +kernel
      nonempty := by decide +kernel
      matched := by decide +kernel
      notAbove := by decide +kernel
      notBelow := by decide +kernel
      offers := ⟨_, hoffers⟩ }
  have htrue := hfound.mpr ⟨0, 0, wideRule, rfl, heligible⟩
  exact absurd htrue (by decide +kernel)

end TmuxRemote
