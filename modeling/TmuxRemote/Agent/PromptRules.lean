import TmuxRemote.Agent.PatternFiles
import TmuxRemote.Prompt.Detector
import TmuxRemote.Prompt.StaticRules

/-!
# Agent/PromptRules — whose prompts are reported (`tmuxremote_prompt_detector_load_config`)

A detector is given a configuration, and picks an agent from it: the first that has rules, until one
is selected by name.  Whenever either changes, the rules are loaded again.

**Every prompt is asked for** (`prompts_asked_for`): what is printed on the terminal chooses among
the rules of the agent that is active, and adds nothing to them.  A prompt has the id and the type
of a definition; its actions are those of the definition, or the keys of its template with an
option's number in them.

A data stream loads what the agent has read from its pattern files, and selects nothing, so that its
prompts are asked for by a rule of one of these files (`stream_prompts_in_files`).
-/

namespace TmuxRemote

/-! ## What a definition asks for -/

namespace PatternDefinition

variable (compile : RegexCompiler) (d : PatternDefinition) (snapshot : TerminalSnapshot)

/-- The definition lets the prompt have this action: one of its own with the label trimmed, or that
of an option on a row of the screen. -/
inductive Grants : PromptAction → Prop
  | static {action : PatternAction} {offered : PromptAction} (htype : d.type ≠ .numberedMenu)
      (hmem : action ∈ d.actions) (htrimmed : action.trimmed = some offered) : Grants offered
  | option {templateKeys : CString} {optionRegex : Regex} {row : ℕ} {o : MenuOption}
      (htype : d.type = .numberedMenu)
      (hkeys : d.actionTemplate.bind PatternActionTemplate.keys = some templateKeys)
      (hregex : compile (d.optionRegex.getD fallbackOptionPattern) = some optionRegex)
      (hrow : row < snapshot.rows) (hoption : menuOption optionRegex (snapshot.line row) = some o) :
      Grants (o.action templateKeys)

/-- The prompt is what the definition makes of a row of the screen. -/
structure AsksFor (row : ℕ) (inst : PromptInstance) : Prop where
  patternId : d.id = some inst.patternId
  patternType : inst.patternType = d.type
  onScreen : row < snapshot.rows
  nonempty : (snapshot.line row).isEmpty = false
  matched : ∃ pattern promptRegex, d.promptRegex = some pattern ∧ compile pattern = some promptRegex
    ∧ regexMatchesLine promptRegex (snapshot.line row) = true
  prompt : inst.prompt = (snapshot.line row).trimDup
  granted : ∀ action ∈ inst.actions, d.Grants compile snapshot action
  answerable : inst.actions ≠ []

end PatternDefinition

section

variable {compile : RegexCompiler} {d : PatternDefinition} {rule : CompiledPromptRule}
  {snapshot : TerminalSnapshot} {row : ℕ} {c : PromptCandidate}

/-- A rule that was loaded has its parts from the definition. -/
structure LoadedFrom (compile : RegexCompiler) (d : PatternDefinition) (rule : CompiledPromptRule) :
    Prop where
  patternId : d.id = some rule.patternId
  patternType : rule.patternType = d.type
  promptRegex : ∃ pattern, d.promptRegex = some pattern ∧ compile pattern = some rule.promptRegex
  optionRegex : rule.optionRegex.or (compile fallbackOptionPattern)
    = compile (d.optionRegex.getD fallbackOptionPattern)
  templateKeys : rule.actionTemplateKeys = d.actionTemplate.bind PatternActionTemplate.keys
  staticActions : ∀ offered ∈ rule.staticActions, ∃ action ∈ d.actions,
    action.trimmed = some ⟨offered.label.trimDup, offered.keys⟩

theorem mem_copyStaticActions {actions : List PatternAction} {staticActions : List PromptAction}
    (h : copyStaticActions actions = some staticActions) {offered : PromptAction}
    (hmem : offered ∈ staticActions) :
    ∃ action ∈ actions, action.trimmed = some ⟨offered.label.trimDup, offered.keys⟩ := by
  induction actions generalizing staticActions with
  | nil =>
    obtain rfl := Option.some.inj h
    exact absurd hmem List.not_mem_nil
  | cons action actions ih =>
    rw [copyStaticActions, List.mapM_cons] at h
    obtain ⟨first, hfirst, hrest⟩ := Option.bind_eq_some_iff.mp h
    obtain ⟨rest, hmapped, hsome⟩ := Option.bind_eq_some_iff.mp hrest
    obtain rfl := Option.some.inj hsome
    rcases List.mem_cons.mp hmem with rfl | hlater
    · refine ⟨action, List.mem_cons_self, ?_⟩
      split at hfirst
      · rename_i label keys hlabel hkeys
        obtain rfl := Option.some.inj hfirst
        rw [PatternAction.trimmed, hlabel, hkeys]
      · exact absurd hfirst (by simp)
    · obtain ⟨earlier, hearlier, htrimmed⟩ := ih hmapped hlater
      exact ⟨earlier, List.mem_cons_of_mem action hearlier, htrimmed⟩

theorem loadedFrom_of_loadRule (h : loadRule compile d = some rule) :
    LoadedFrom compile d rule := by
  simp only [loadRule, Option.bind_eq_bind, Option.bind_eq_some_iff] at h
  obtain ⟨patternId, hid, pattern, hpattern, promptRegex, hprompt, optionRegex, hoption,
    staticActions, hstatic, hrule⟩ := h
  obtain rfl := Option.some.inj hrule
  exact
    { patternId := hid
      patternType := rfl
      promptRegex := ⟨pattern, hpattern, hprompt⟩
      optionRegex := by
        cases hregex : d.optionRegex with
        | none =>
          rw [hregex] at hoption
          obtain rfl := Option.some.inj hoption
          rfl
        | some source =>
          rw [hregex] at hoption
          obtain ⟨compiled, hcompiled, heq⟩ := Option.map_eq_some_iff.mp hoption
          rw [Option.getD_some, hcompiled, ← heq]
          rfl
      templateKeys := rfl
      staticActions := fun _ hmem => mem_copyStaticActions hstatic hmem }

/-- The rows of a menu are on the screen. -/
theorem lt_rows_of_mem_optionRows {option : ℕ} (h : option ∈ optionRows rule snapshot row) :
    option < snapshot.rows := by
  have hrange := List.mem_range'_1.mp h
  split_ifs at hrange <;> omega

/-- What is read of a menu are options of rows of the screen. -/
theorem options_of_extractNumberedMenuActions {candidate : PromptCandidate}
    (h : extractNumberedMenuActions compile rule snapshot row candidate = some c)
    (hempty : candidate.actions = []) :
    (∃ templateKeys optionRegex, rule.actionTemplateKeys = some templateKeys
        ∧ rule.optionRegex.or (compile fallbackOptionPattern) = some optionRegex
        ∧ ∀ action ∈ c.actions, ∃ option < snapshot.rows, ∃ o,
          menuOption optionRegex (snapshot.line option) = some o
            ∧ action = o.action templateKeys)
      ∧ c.patternId = candidate.patternId ∧ c.patternType = candidate.patternType
      ∧ c.prompt = candidate.prompt := by
  obtain ⟨templateKeys, optionRegex, hkeys, hregex, hc⟩ := extractNumberedMenuActions_eq_some h
  have hstart : ScanState candidate [] := ⟨List.nodup_nil, nofun, by rw [hempty]; rfl⟩
  obtain ⟨-, hactions, -, hid, htype, hprompt, -⟩ := scanOptions_spec optionRegex templateKeys
    ((optionRows rule snapshot row).map snapshot.line) candidate [] hstart
  rw [← hc] at hactions hid htype hprompt
  refine ⟨⟨templateKeys, optionRegex, hkeys, hregex, fun action haction => ?_⟩, hid, htype, hprompt⟩
  rw [hactions, hempty, List.nil_append] at haction
  obtain ⟨o, ho, rfl⟩ := List.mem_map.mp haction
  obtain ⟨line, hline, hoption⟩ :=
    List.mem_filterMap.mp (List.mem_of_mem_filter (Numbered.firsts_subset _ ho))
  obtain ⟨option, hrow, rfl⟩ := List.mem_map.mp hline
  exact ⟨option, lt_rows_of_mem_optionRows hrow, o, hoption, rfl⟩

/-- What a rule is filled in with is granted by its definition. -/
theorem LoadedFrom.fill (h : LoadedFrom compile d rule)
    (hfill : fillCandidateFromRule compile rule snapshot row = some c) :
    c.patternId = rule.patternId ∧ c.patternType = d.type ∧ c.prompt = (snapshot.line row).trimDup
      ∧ ∀ action ∈ c.actions, d.Grants compile snapshot action := by
  by_cases htype : rule.patternType = .numberedMenu
  · rw [fillCandidateFromRule_menu compile snapshot row htype] at hfill
    obtain ⟨⟨templateKeys, optionRegex, hkeys, hregex, hoptions⟩, hid, hsame, hprompt⟩ :=
      options_of_extractNumberedMenuActions hfill rfl
    refine ⟨hid, hsame.trans h.patternType, hprompt, fun action haction => ?_⟩
    obtain ⟨option, hrow, o, hoption, rfl⟩ := hoptions action haction
    exact .option (h.patternType.symm.trans htype) (h.templateKeys.symm.trans hkeys)
      (h.optionRegex.symm.trans hregex) hrow hoption
  · rw [fillCandidateFromRule_static compile snapshot row htype] at hfill
    obtain ⟨filled, happend, hsome⟩ := Option.bind_eq_some_iff.mp hfill
    split_ifs at hsome
    obtain rfl := Option.some.inj hsome
    obtain ⟨-, hid, hsame, hprompt, -, hactions⟩ :=
      (appendStaticActions_eq_some_iff _ _ _).mp happend
    refine ⟨hid, hsame.trans h.patternType, hprompt, fun action haction => ?_⟩
    rw [hactions] at haction
    obtain ⟨offered, hoffered, rfl⟩ := List.mem_map.mp haction
    obtain ⟨own, hown, htrimmed⟩ := h.staticActions offered hoffered
    exact .static (fun hmenu => htype (h.patternType.trans hmenu)) hown htrimmed

/-- **A rule fills in what its definition asks for.** -/
theorem LoadedFrom.asksFor (h : LoadedFrom compile d rule) (hrow : row < snapshot.rows)
    (hmatch : matchRow compile rule snapshot row = some c) (ids : IdScheme) (revision : UInt32) :
    d.AsksFor compile snapshot row ((candidateToInstanceWithId ids c).withRevision revision) := by
  rw [matchRow] at hmatch
  split_ifs at hmatch with hempty hregex
  obtain ⟨hid, htype, hprompt, hgranted⟩ := h.fill hmatch
  obtain ⟨pattern, hpattern, hcompiled⟩ := h.promptRegex
  exact
    { patternId := h.patternId.trans (congrArg some hid.symm)
      patternType := htype
      onScreen := hrow
      nonempty := (Bool.not_eq_true _).mp hempty
      matched := ⟨pattern, rule.promptRegex, hpattern, hcompiled, by simpa using hregex⟩
      prompt := hprompt
      granted := hgranted
      answerable := actions_ne_nil_of_fill hmatch }

/-- What is found with loaded rules is asked for by one of their definitions. -/
theorem asksFor_of_rulesetMatch {definitions : List PatternDefinition}
    (h : rulesetMatch compile (rulesetLoad compile definitions) snapshot = some c) (ids : IdScheme)
    (revision : UInt32) :
    ∃ d ∈ definitions, ∃ row,
      d.AsksFor compile snapshot row ((candidateToInstanceWithId ids c).withRevision revision) := by
  obtain ⟨rule, hrule, hrows⟩ := List.exists_of_findSome?_eq_some h
  obtain ⟨d, hd, hload⟩ := List.mem_filterMap.mp hrule
  obtain ⟨row, hrow, hmatch⟩ := List.exists_of_findSome?_eq_some hrows
  have hlt := List.mem_range.mp (List.mem_reverse.mp hrow)
  exact ⟨d, hd, row, (loadedFrom_of_loadRule hload).asksFor hlt hmatch ids revision⟩

end

/-! ## The agent that is active -/

/-- `default_agent` -/
def PatternConfig.defaultAgent (config : PatternConfig) : Option AgentConfig :=
  config.agents.find? fun agent => decide (0 < agent.patterns.length) && agent.id.isSome

/-- The whole of `tmuxremote_prompt_detector`, its configuration included. -/
structure ConfiguredDetector where
  detector : PromptDetector
  config : Option PatternConfig
  activeAgent : Option CString

/-- A call of the detector's interface. -/
inductive ConfiguredCall
  | loadConfig (config : Option PatternConfig)
  | selectAgent (agentId : Option CString)
  | detect (call : DetectorCall)

namespace ConfiguredDetector

/-- `tmuxremote_prompt_detector_init` -/
def init (rows cols : ℤ) : ConfiguredDetector where
  detector := PromptDetector.init rows cols
  config := none
  activeAgent := none

section

variable (compile : RegexCompiler) (ids : IdScheme) (s : ConfiguredDetector)

/-- `reload_rules_locked` -/
def reloadRulesLocked : ConfiguredDetector :=
  let s := { s with detector := s.detector.loadRules (rulesetLoad compile []) }
  match s.config, s.activeAgent with
  | some config, some agentId =>
    match config.findAgent agentId with
    | none => s
    | some agent =>
      { s with detector := s.detector.loadRules (rulesetLoad compile agent.patterns) }
  | _, _ => s

/-- `tmuxremote_prompt_detector_load_config` -/
def loadConfig (config : Option PatternConfig) : ConfiguredDetector :=
  let s := { s with config := config }
  let s :=
    match s.activeAgent, config.bind PatternConfig.defaultAgent with
    | none, some agent => { s with activeAgent := agent.id }
    | _, _ => s
  s.reloadRulesLocked compile

/-- `tmuxremote_prompt_detector_select_agent` -/
def selectAgent (agentId : Option CString) : ConfiguredDetector :=
  reloadRulesLocked compile { s with activeAgent := agentId }

/-- One call: the detector after it, and what is reported. -/
def step : ConfiguredCall → ConfiguredDetector × List PromptEvent
  | .loadConfig config => (s.loadConfig compile config, [])
  | .selectAgent agentId => (s.selectAgent compile agentId, [])
  | .detect call =>
    match s.detector.step compile ids call with
    | (detector, events) => ({ s with detector := detector }, events)

/-- The agent whose rules are to be used. -/
def agent : Option AgentConfig :=
  s.config.bind fun config => s.activeAgent.bind config.findAgent

/-- The invariant: the rules are those of the agent. -/
def Reloaded : Prop :=
  s.detector.ruleset = rulesetLoad compile (s.agent.elim [] AgentConfig.patterns)

end

section

variable {compile : RegexCompiler} {ids : IdScheme} {s : ConfiguredDetector}

theorem reloaded_reloadRulesLocked : (s.reloadRulesLocked compile).Reloaded compile := by
  rw [reloadRulesLocked]
  dsimp only
  rw [Reloaded, agent]
  obtain ⟨detector, - | config, - | agentId⟩ := s
  · rfl
  · rfl
  · rfl
  · dsimp only
    cases hfind : config.findAgent agentId with
    | none =>
      dsimp only
      rw [Option.bind_some, Option.bind_some, hfind]
      rfl
    | some found =>
      dsimp only
      rw [Option.bind_some, Option.bind_some, hfind]
      rfl

theorem detector_step_ruleset (d : PromptDetector) (call : DetectorCall) :
    (d.step compile ids call).1.ruleset = d.ruleset := by
  rcases call with data | ⟨rows, cols⟩ | instanceId
  · exact d.feed_ruleset data
  · rfl
  · rfl

/-- **Whatever is called**, the rules are those of the agent. -/
theorem Reloaded.step (h : s.Reloaded compile) (call : ConfiguredCall) :
    (s.step compile ids call).1.Reloaded compile := by
  cases call with
  | loadConfig config => exact reloaded_reloadRulesLocked
  | selectAgent agentId => exact reloaded_reloadRulesLocked
  | detect call => exact (detector_step_ruleset s.detector call).trans h

theorem reloaded_init (rows cols : ℤ) : (init rows cols).Reloaded compile := rfl

theorem reloaded_run (rows cols : ℤ) (calls : List ConfiguredCall) :
    (Reactive.run (step compile ids) (init rows cols) calls).1.Reloaded compile :=
  Reactive.run_invariant (step compile ids) (fun _ call h => h.step call) (reloaded_init rows cols)
    calls

/-- The prompts of one call are asked for. -/
theorem Reloaded.prompts (h : s.Reloaded compile) {call : ConfiguredCall} {event : PromptEvent}
    {inst : PromptInstance} (hevent : event ∈ (s.step compile ids call).2)
    (hprompt : event.prompt = some inst) :
    ∃ data agent, call = .detect (.feed data) ∧ s.agent = some agent ∧ ∃ d ∈ agent.patterns,
      ∃ row, d.AsksFor compile (s.detector.terminalState.feed data).snapshot row inst := by
  cases call with
  | loadConfig config => exact absurd hevent List.not_mem_nil
  | selectAgent agentId => exact absurd hevent List.not_mem_nil
  | detect call =>
    obtain ⟨data, c, rfl, hsight, revision, rfl⟩ := PromptDetector.step_prompts hevent hprompt
    rw [PromptDetector.sight, h] at hsight
    obtain ⟨d, hd, row, hasks⟩ := asksFor_of_rulesetMatch hsight ids revision
    cases hagent : s.agent with
    | none =>
      rw [hagent] at hd
      exact absurd hd List.not_mem_nil
    | some agent =>
      rw [hagent] at hd
      exact ⟨data, agent, rfl, rfl, d, hd, row, hasks⟩

/-- **Every prompt is asked for.**  In every run of loads, selections and detector calls, a prompt
is reported by a feed only, and it is what a rule of the agent that is active then makes of a row
that is on the screen then. -/
theorem prompts_asked_for (compile : RegexCompiler) (ids : IdScheme) (rows cols : ℤ)
    (calls : List ConfiguredCall) (call : ConfiguredCall) :
    let s := (Reactive.run (step compile ids) (init rows cols) calls).1
    ∀ event ∈ (s.step compile ids call).2, ∀ inst, event.prompt = some inst →
      ∃ data agent, call = .detect (.feed data) ∧ s.agent = some agent ∧ ∃ d ∈ agent.patterns,
        ∃ row, d.AsksFor compile (s.detector.terminalState.feed data).snapshot row inst :=
  fun _ hevent _ hprompt => (reloaded_run rows cols calls).prompts hevent hprompt

end

/-! ## The detector of a data stream -/

/-- The calls of `stream_setup_thread`. -/
def setupCalls (patternConfig : Option PatternConfig) : List ConfiguredCall :=
  patternConfig.toList.map fun config => .loadConfig (some config)

/-- Of the elements that satisfy one of two conditions, the first with the second is that with the
first if it satisfies both. -/
theorem eq_or_not_of_find? {α : Type*} {P Q : α → Bool} {l : List α} {a b : α}
    (ha : l.find? P = some a) (hb : l.find? Q = some b) (hQ : Q a = true) :
    b = a ∨ P b = false := by
  induction l with
  | nil => exact absurd ha (by simp)
  | cons x l ih =>
    rw [List.find?_cons] at ha hb
    cases hx : Q x with
    | true =>
      rw [hx] at hb
      obtain rfl := Option.some.inj hb
      cases hP : P x with
      | true =>
        rw [hP] at ha
        exact Or.inl (Option.some.inj ha)
      | false => exact Or.inr rfl
    | false =>
      rw [hx] at hb
      cases hP : P x with
      | true =>
        rw [hP] at ha
        obtain rfl := Option.some.inj ha
        exact absurd (hx.symm.trans hQ) (by simp)
      | false =>
        rw [hP] at ha
        exact ih ha hb

/-- An agent that is looked up by the id of the default one is that, or has no rules. -/
theorem agent_of_defaultAgent {config : PatternConfig} {default found : AgentConfig} {id : CString}
    (hdefault : config.defaultAgent = some default) (hid : default.id = some id)
    (hfound : config.findAgent id = some found) : found = default ∨ found.patterns = [] := by
  have hsame : (default.id == some id) = true := by rw [hid, BEq.rfl]
  refine (eq_or_not_of_find? hdefault hfound hsame).imp_right fun hnot => ?_
  have hnamed : found.id = some id := by
    have hfirst := List.find?_some hfound
    exact eq_of_beq hfirst
  rw [hnamed, Option.isSome_some, Bool.and_true, decide_eq_false_iff_not] at hnot
  exact List.eq_nil_of_length_eq_zero (Nat.eq_zero_of_not_pos hnot)

section

variable (compile : RegexCompiler) (ids : IdScheme)

/-- What the detector is fed, resized and told leaves its configuration as it was set up. -/
theorem config_run (s : ConfiguredDetector) (calls : List DetectorCall) :
    (Reactive.run (step compile ids) s (calls.map .detect)).1.config = s.config
      ∧ (Reactive.run (step compile ids) s (calls.map .detect)).1.activeAgent = s.activeAgent := by
  induction calls generalizing s with
  | nil => exact ⟨rfl, rfl⟩
  | cons call calls ih => exact ih { s with detector := (s.detector.step compile ids call).1 }

/-- The detector of a data stream after some calls. -/
def stream (patternConfig : Option PatternConfig) (rows cols : ℤ) (calls : List DetectorCall) :
    ConfiguredDetector :=
  (Reactive.run (step compile ids) (init rows cols)
    (setupCalls patternConfig ++ calls.map .detect)).1

theorem agent_reloadRulesLocked (s : ConfiguredDetector) :
    (s.reloadRulesLocked compile).agent = s.agent := by
  rw [reloadRulesLocked]
  dsimp only
  split
  · split <;> rfl
  · rfl

/-- **Which rules a data stream uses**: if any, those of the first agent that has rules. -/
theorem agent_stream {patternConfig : Option PatternConfig} {rows cols : ℤ}
    {calls : List DetectorCall} {agent : AgentConfig}
    (h : (stream compile ids patternConfig rows cols calls).agent = some agent)
    (hrules : agent.patterns ≠ []) :
    patternConfig.bind PatternConfig.defaultAgent = some agent := by
  rw [stream, Reactive.run_append] at h
  obtain ⟨hconfig, hactive⟩ := config_run compile ids
    (Reactive.run (step compile ids) (init rows cols) (setupCalls patternConfig)).1 calls
  rw [ConfiguredDetector.agent, hconfig, hactive] at h
  cases patternConfig with
  | none => exact absurd h (by simp [setupCalls, init])
  | some config =>
    change ((init rows cols).loadConfig compile (some config)).agent = some agent at h
    rw [loadConfig] at h
    rw [Option.bind_some]
    dsimp only [init, Option.bind_some] at h
    cases hdefault : config.defaultAgent with
    | none =>
      rw [hdefault, agent_reloadRulesLocked] at h
      exact absurd h (by simp [ConfiguredDetector.agent])
    | some default =>
      rw [hdefault, agent_reloadRulesLocked] at h
      obtain ⟨id, hid, hfound⟩ : ∃ id, default.id = some id ∧ config.findAgent id = some agent :=
        Option.bind_eq_some_iff.mp h
      exact congrArg some
        ((agent_of_defaultAgent hdefault hid hfound).resolve_right hrules).symm

end

end ConfiguredDetector

/-! ## Where the agents come from -/

/-- A text that `load_pattern_configs` has parsed: the embedded one, or that of a file. -/
inductive PatternText (files : PatternStore) (defaultJson : List UInt8) (homeDir : CString) :
    List UInt8 → Prop
  | embedded : PatternText files defaultJson homeDir defaultJson
  | file {entries : List CString} {name : CString} {f : PatternFile} {json : List UInt8}
      (hdir : files.opendir (pathBuffer (patternsPath homeDir)) = some entries)
      (hname : name ∈ entries.filter isPatternName)
      (hopen : files.fopen (pathBuffer (filePath (pathBuffer (patternsPath homeDir)) name))
        = some f)
      (hread : readPatternFile f = some json) : PatternText files defaultJson homeDir json

/-- The agent is one of a configuration parsed from such a text. -/
def ParsedFrom (parse : List UInt8 → Option PatternConfig) (isText : List UInt8 → Prop)
    (agent : AgentConfig) : Prop :=
  ∃ json config, isText json ∧ parse json = some config ∧ agent ∈ config.agents

/-- Every agent in memory has the property. -/
def AllAgents (P : AgentConfig → Prop) (agents : List AgentSlot) : Prop :=
  ∀ slot ∈ agents, P slot.config

section

variable {P : AgentConfig → Prop} {files : PatternStore} {parse : List UInt8 → Option PatternConfig}

theorem allAgents_placeConfig {heap : Ownership.Heap} {config : PatternConfig}
    (h : ∀ agent ∈ config.agents, P agent) : AllAgents P (placeConfig heap config).1.agents := by
  intro slot hslot
  refine h slot.config ?_
  have hmem := List.mem_map_of_mem (f := AgentSlot.config) hslot
  rwa [placeConfig, map_config_placeAgents] at hmem

/-- Merging adds agents of the file, and no others. -/
theorem allAgents_mergeAgents {agents : List AgentSlot} {merged : HeldConfig}
    (hmerged : AllAgents P merged.agents) (hagents : AllAgents P agents) :
    AllAgents P (mergeAgents agents merged).2.2.agents := by
  induction agents generalizing merged with
  | nil => exact hmerged
  | cons agent agents ih =>
    obtain ⟨hagent, hrest⟩ := List.forall_mem_cons.mp hagents
    rw [mergeAgents]
    split_ifs
    · exact hmerged
    · obtain ⟨-, heq⟩ | ⟨-, heq⟩ := @mergeAgentIntoConfig_eq merged agent
      · rw [heq]
        exact @ih { merged with agents := merged.agents ++ [agent] }
          (List.forall_mem_append.mpr ⟨hmerged, List.forall_mem_singleton.mpr hagent⟩) hrest
      · rw [heq]
        exact hmerged

theorem allAgents_loadPatternFile {dirPath name : CString} {s : MergeState}
    (hmerged : AllAgents P s.merged.agents)
    (htext : ∀ f json config, files.fopen (pathBuffer (filePath dirPath name)) = some f →
      readPatternFile f = some json → parse json = some config →
      ∀ agent ∈ config.agents, P agent) :
    AllAgents P (loadPatternFile files parse dirPath name s).2.merged.agents := by
  rw [loadPatternFile]
  split
  · exact hmerged
  · rename_i f hopen
    split
    · exact hmerged
    · rename_i json hread
      split
      · exact hmerged
      · rename_i config hparse
        have hplaced := @allAgents_placeConfig P s.heap config
          (htext f json config hopen hread hparse)
        dsimp only
        split_ifs
        · exact allAgents_mergeAgents hmerged hplaced
        · exact hmerged
        · exact allAgents_mergeAgents hmerged hplaced

theorem allAgents_loadPatternFiles {dirPath : CString} {names : List CString} {s : MergeState}
    (hmerged : AllAgents P s.merged.agents)
    (htext : ∀ name ∈ names, ∀ f json config,
      files.fopen (pathBuffer (filePath dirPath name)) = some f → readPatternFile f = some json →
      parse json = some config → ∀ agent ∈ config.agents, P agent) :
    AllAgents P (loadPatternFiles files parse dirPath names s).2.merged.agents := by
  induction names generalizing s with
  | nil => exact hmerged
  | cons name names ih =>
    obtain ⟨hfirst, hrest⟩ := List.forall_mem_cons.mp htext
    have hnext := @allAgents_loadPatternFile P files parse dirPath name s hmerged hfirst
    rw [loadPatternFiles]
    split
    · rename_i hload
      rw [hload] at hnext
      exact ih hnext hrest
    · rename_i hload
      rw [hload] at hnext
      exact hnext

theorem dropConfig_patternConfig (app : PatternApp) : app.dropConfig.patternConfig = none := by
  rw [PatternApp.dropConfig]
  split
  · rfl
  · assumption

theorem parsedFrom_loadDefaultPatternConfig {isText : List UInt8 → Prop} {defaultJson : List UInt8}
    (htext : isText defaultJson) {app : PatternApp} {held : HeldConfig}
    (h : (loadDefaultPatternConfig parse defaultJson app).2.patternConfig = some held) :
    AllAgents (ParsedFrom parse isText) held.agents := by
  rw [loadDefaultPatternConfig] at h
  dsimp only at h
  split at h
  · rw [dropConfig_patternConfig] at h
    exact absurd h (by simp)
  · rename_i config hparse
    split_ifs at h
    · rw [dropConfig_patternConfig] at h
      exact absurd h (by simp)
    · obtain rfl := Option.some.inj h
      exact allAgents_placeConfig fun agent hagent => ⟨defaultJson, config, htext, hparse, hagent⟩

/-- **What the application holds was parsed** from the texts of the directory, or the embedded
one. -/
theorem parsedFrom_loadPatternConfigs {defaultJson : List UInt8} {app : PatternApp}
    {held : HeldConfig}
    (h : (loadPatternConfigs files parse defaultJson app).2.patternConfig = some held) :
    AllAgents (ParsedFrom parse (PatternText files defaultJson app.homeDir)) held.agents := by
  have hembedded := @PatternText.embedded files defaultJson app.homeDir
  rw [loadPatternConfigs] at h
  cases hdir : files.opendir (pathBuffer (patternsPath app.homeDir)) with
  | none =>
    rw [hdir] at h
    exact parsedFrom_loadDefaultPatternConfig hembedded h
  | some entries =>
    rw [hdir] at h
    dsimp only at h
    split_ifs at h
    · exact parsedFrom_loadDefaultPatternConfig hembedded h
    · have hloaded := @allAgents_loadPatternFiles
        (ParsedFrom parse (PatternText files defaultJson app.homeDir)) files parse
        (pathBuffer (patternsPath app.homeDir)) ((entries.filter isPatternName).mergeSort cmpStrPtr)
        ⟨⟨0, []⟩, false, app.dropConfig.heap⟩ (fun _ h => absurd h List.not_mem_nil)
        fun name hname f json config hopen hread hparse agent hagent =>
          ⟨json, config, .file hdir (List.mem_mergeSort.mp hname) hopen hread, hparse, hagent⟩
      generalize loadPatternFiles files parse (pathBuffer (patternsPath app.homeDir))
        ((entries.filter isPatternName).mergeSort cmpStrPtr)
        ⟨⟨0, []⟩, false, app.dropConfig.heap⟩ = loaded at h hloaded
      obtain ⟨- | -, s⟩ := loaded
      · exact absurd ((dropConfig_patternConfig app).symm.trans h) (by simp)
      · dsimp only at h
        split_ifs at h
        · exact absurd ((dropConfig_patternConfig app).symm.trans h) (by simp)
        · obtain rfl := Option.some.inj h
          exact hloaded

end

/-- The configuration as the detector reads it. -/
def HeldConfig.toConfig (held : HeldConfig) : PatternConfig :=
  ⟨held.version, held.agents.map AgentSlot.config⟩

/-- **The prompts of a data stream are in the pattern files.**  Whatever the files are, and whatever
is printed, resized and answered, a prompt that is reported comes from a rule that stands in a text
that was loaded, under the first agent that has rules, and from a row that is on the screen then. -/
theorem stream_prompts_in_files (parse : JsonParser) (files : PatternStore)
    (defaultJson : List UInt8) (app : PatternApp) (compile : RegexCompiler) (ids : IdScheme)
    (rows cols : ℤ) (calls : List DetectorCall) (call : DetectorCall) :
    let held :=
      (loadPatternConfigs files (patternConfigParse parse) defaultJson app).2.patternConfig
    let s := ConfiguredDetector.stream compile ids (held.map HeldConfig.toConfig) rows cols calls
    ∀ event ∈ (s.detector.step compile ids call).2, ∀ inst, event.prompt = some inst →
      ∃ data json agent agentId item d row, call = .feed data
        ∧ (held.map HeldConfig.toConfig).bind PatternConfig.defaultAgent = some agent
        ∧ agent.id = some agentId ∧ PatternText files defaultJson app.homeDir json
        ∧ IsRuleOf parse json agentId item ∧ parseDefinition item = some d
        ∧ d.AsksFor compile (s.detector.terminalState.feed data).snapshot row inst := by
  intro held s event hevent inst hprompt
  have hreloaded : s.Reloaded compile := ConfiguredDetector.reloaded_run rows cols _
  obtain ⟨data, agent, hcall, hagent, d, hd, row, hasks⟩ :=
    @ConfiguredDetector.Reloaded.prompts compile ids s hreloaded (.detect call) event inst hevent
      hprompt
  have hdefault := ConfiguredDetector.agent_stream compile ids hagent (List.ne_nil_of_mem hd)
  obtain ⟨config, hconfig, hfirst⟩ := Option.bind_eq_some_iff.mp hdefault
  obtain ⟨loaded, hloaded, rfl⟩ := Option.map_eq_some_iff.mp hconfig
  obtain ⟨slot, hslot, rfl⟩ := List.mem_map.mp (List.mem_of_find?_eq_some hfirst)
  obtain ⟨json, parsed, htext, hparse, hmem⟩ := parsedFrom_loadPatternConfigs hloaded slot hslot
  obtain ⟨agentId, item, hid, hrule, hdefinition⟩ := mem_patternConfigParse hparse hmem hd
  exact ⟨data, json, slot.config, agentId, item, d, row, ConfiguredCall.detect.inj hcall, hdefault,
    hid, htext, hrule, hdefinition, hasks⟩

end TmuxRemote
