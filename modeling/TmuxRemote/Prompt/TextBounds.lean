import TmuxRemote.Prompt.Selection

/-!
# Prompt/TextBounds — how long the texts of a candidate are

What the rules read off a screen are parts of its lines, and what they put around them comes from
the configuration.  So a bound on either is one on the candidate (`bounded_of_rulesetMatch`).
-/

namespace TmuxRemote

open CLib

/-- Every string of the rule has at most `size` bytes. -/
structure CompiledPromptRule.ConfigFits (size : ℕ) (rule : CompiledPromptRule) : Prop where
  patternId : rule.patternId.bytes.length ≤ size
  staticActions : ∀ action ∈ rule.staticActions,
    action.label.bytes.length ≤ size ∧ action.keys.bytes.length ≤ size
  actionTemplateKeys : ∀ keys, rule.actionTemplateKeys = some keys → keys.bytes.length ≤ size

/-- The texts are no longer than those of a rule of `size` bytes and of lines of `width`. -/
structure PromptCandidate.Bounded (size width : ℕ) (c : PromptCandidate) : Prop where
  patternId : c.patternId.bytes.length ≤ size
  prompt : c.prompt.bytes.length ≤ width
  actions : ∀ action ∈ c.actions,
    action.label.bytes.length ≤ max size width ∧ action.keys.bytes.length ≤ size + width

/-! ## Parts of a line -/

theorem length_trimDup_le (s : CString) : s.trimDup.bytes.length ≤ s.bytes.length :=
  (List.rdropWhile_prefix _ _).length_le.trans (List.dropWhile_sublist _).length_le

theorem length_substring_le (s : CString) (start stop : ℕ) :
    (s.substring start stop).bytes.length ≤ s.bytes.length :=
  ((List.take_sublist _ _).trans (List.drop_sublist _ _)).length_le

theorem length_dupCapture_le {subject text : CString} {m : PcreMatch} {captureIndex : ℕ}
    (h : dupCapture subject m captureIndex = some text) :
    text.bytes.length ≤ subject.bytes.length := by
  rw [dupCapture] at h
  split at h
  · exact absurd h (by simp)
  · split_ifs at h
    obtain rfl := Option.some.inj h
    exact length_substring_le _ _ _

/-- The number and the label of an option are parts of its row. -/
theorem length_menuOption_le {optionRegex : Regex} {line : CString} {o : MenuOption}
    (h : menuOption optionRegex line = some o) :
    o.number.bytes.length ≤ line.bytes.length ∧ o.label.bytes.length ≤ line.bytes.length := by
  rw [menuOption] at h
  split_ifs at h
  obtain ⟨subject, hsubject, h⟩ := Option.bind_eq_some_iff.mp h
  obtain ⟨number, hnumber, h⟩ := Option.bind_eq_some_iff.mp h
  obtain ⟨label, hlabel, h⟩ := Option.bind_eq_some_iff.mp h
  obtain ⟨value, -, h⟩ := Option.bind_eq_some_iff.mp h
  split_ifs at h
  obtain rfl := Option.some.inj h
  have hpart : subject.bytes.length ≤ line.bytes.length := by
    rcases List.mem_cons.mp (List.mem_of_find?_eq_some hsubject) with rfl | hmem
    · exact le_rfl
    · obtain ⟨start, -, rfl⟩ := List.mem_map.mp hmem
      exact length_substring_le _ _ _
  exact ⟨(length_dupCapture_le hnumber).trans hpart, (length_dupCapture_le hlabel).trans hpart⟩

theorem length_replaceFirst_le (token replacement text : List UInt8) :
    (replaceFirst token replacement text).length ≤ text.length + replacement.length := by
  induction text with
  | nil =>
    rw [replaceFirst]
    split_ifs <;> simp
  | cons b text ih =>
    rw [replaceFirst]
    split_ifs
    · rw [List.length_append, List.length_drop]
      omega
    · rw [List.length_cons, List.length_cons]
      omega

/-! ## Filling in -/

section
variable {size width : ℕ}

/-- An action more. -/
theorem PromptCandidate.Bounded.appendAction {c c' : PromptCandidate} {label keys : CString}
    (h : c.Bounded size width) (hlabel : label.bytes.length ≤ max size width)
    (hkeys : keys.bytes.length ≤ size + width) (happend : c.appendAction label keys = some c') :
    c'.Bounded size width := by
  rw [PromptCandidate.appendAction] at happend
  split_ifs at happend
  obtain rfl := Option.some.inj happend
  refine ⟨h.patternId, h.prompt, List.forall_mem_append.mpr ⟨h.actions, ?_⟩⟩
  exact List.forall_mem_singleton.mpr ⟨(length_trimDup_le label).trans hlabel, hkeys⟩

/-- The options of rows that are no wider. -/
theorem PromptCandidate.Bounded.scanOptions {optionRegex : Regex} {templateKeys : CString}
    (htemplate : templateKeys.bytes.length ≤ size) {lines : List CString}
    (hlines : ∀ line ∈ lines, line.bytes.length ≤ width) {c : PromptCandidate}
    (h : c.Bounded size width) (seenNumbers : List ℕ) :
    (TmuxRemote.scanOptions optionRegex templateKeys c seenNumbers lines).1.Bounded size width := by
  induction lines generalizing c seenNumbers with
  | nil => exact h
  | cons line lines ih =>
    obtain ⟨hline, hlines⟩ := List.forall_mem_cons.mp hlines
    rw [TmuxRemote.scanOptions, readOption_eq]
    cases ho : menuOption optionRegex line with
    | none => exact ih hlines h seenNumbers
    | some o =>
      obtain ⟨hnumber, hlabel⟩ := length_menuOption_le ho
      dsimp only [Option.map_some, MenuOption.captured]
      split_ifs
      · exact ih hlines h seenNumbers
      · cases happend : c.appendAction o.label (replaceNumberToken templateKeys o.number) with
        | none => exact h
        | some c' =>
          refine ih hlines (h.appendAction ?_ ?_ happend) _
          · exact (hlabel.trans hline).trans (le_max_right size width)
          · rw [bytes_replaceNumberToken]
            exact (length_replaceFirst_le _ _ _).trans
              (Nat.add_le_add htemplate (hnumber.trans hline))

/-- The actions of a rule of short strings. -/
theorem PromptCandidate.Bounded.appendStaticActions {actions : List PromptAction}
    (hactions : ∀ action ∈ actions,
      action.label.bytes.length ≤ size ∧ action.keys.bytes.length ≤ size)
    {c c' : PromptCandidate} (h : c.Bounded size width)
    (happend : TmuxRemote.appendStaticActions c actions = some c') : c'.Bounded size width := by
  induction actions generalizing c with
  | nil =>
    obtain rfl := Option.some.inj happend
    exact h
  | cons action actions ih =>
    obtain ⟨⟨hlabel, hkeys⟩, hactions⟩ := List.forall_mem_cons.mp hactions
    rw [TmuxRemote.appendStaticActions] at happend
    cases hnext : c.appendAction action.label action.keys with
    | none =>
      rw [hnext] at happend
      exact absurd happend (by simp)
    | some next =>
      rw [hnext] at happend
      exact ih hactions (h.appendAction (hlabel.trans (le_max_left size width))
        (hkeys.trans (Nat.le_add_right size width)) hnext) happend

/-- **What a rule fills in at a row.** -/
theorem bounded_of_fill {compile : RegexCompiler} {rule : CompiledPromptRule}
    {snapshot : TerminalSnapshot} {row : ℕ} {c : PromptCandidate} (hrule : rule.ConfigFits size)
    (hlines : ∀ row, (snapshot.line row).bytes.length ≤ width)
    (h : fillCandidateFromRule compile rule snapshot row = some c) : c.Bounded size width := by
  have hstart : (blankCandidate rule snapshot row).Bounded size width :=
    ⟨hrule.patternId, (length_trimDup_le _).trans (hlines row), fun action => nofun⟩
  by_cases htype : rule.patternType = .numberedMenu
  · rw [fillCandidateFromRule_menu compile snapshot row htype] at h
    obtain ⟨templateKeys, optionRegex, hkeys, -, rfl⟩ := extractNumberedMenuActions_eq_some h
    refine PromptCandidate.Bounded.scanOptions (hrule.actionTemplateKeys templateKeys hkeys)
      (fun line hline => ?_) hstart []
    obtain ⟨row', -, rfl⟩ := List.mem_map.mp hline
    exact hlines row'
  · rw [fillCandidateFromRule_static compile snapshot row htype] at h
    obtain ⟨c', happend, hsome⟩ := Option.bind_eq_some_iff.mp h
    split_ifs at hsome
    obtain rfl := Option.some.inj hsome
    exact hstart.appendStaticActions hrule.staticActions happend

/-- **What is found on a screen**: its texts are no longer than those of the rules and of the lines
allow. -/
theorem bounded_of_rulesetMatch {compile : RegexCompiler} {ruleset : PromptRuleset}
    {snapshot : TerminalSnapshot} {c : PromptCandidate}
    (hrules : ∀ rule ∈ ruleset, rule.ConfigFits size)
    (hlines : ∀ line ∈ snapshot.lines, line.bytes.length ≤ width)
    (h : rulesetMatch compile ruleset snapshot = some c) : c.Bounded size width := by
  obtain ⟨rule, hrule, h⟩ := List.exists_of_findSome?_eq_some h
  obtain ⟨row, -, h⟩ := List.exists_of_findSome?_eq_some h
  have hline (row : ℕ) : (snapshot.line row).bytes.length ≤ width := by
    rw [TerminalSnapshot.line, List.getD_eq_getElem?_getD]
    cases hget : snapshot.lines[row]? with
    | none => exact Nat.zero_le width
    | some line => exact hlines line (List.mem_of_getElem? hget)
  rw [matchRow] at h
  split_ifs at h
  exact bounded_of_fill (hrules rule hrule) hline h

end

end TmuxRemote
