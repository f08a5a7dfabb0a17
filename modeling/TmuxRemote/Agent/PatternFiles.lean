import Mathlib.Data.List.Sort
import TmuxRemote.Library.Ownership
import TmuxRemote.Prompt.PatternConfig

/-!
# Agent/PatternFiles — loading the pattern files (`load_pattern_configs`)

The files of the patterns directory are parsed one after the other, in the order of their names, and
their agents are moved into one configuration.  Moving an agent leaves its slot zeroed, so the rest
of the file's configuration can be freed as it is; whatever goes wrong, so can what was moved.

An agent in memory is an `AgentSlot`: what it says, and the block that its pointers lead to.  The
parser of a file's text is a parameter.
-/

namespace TmuxRemote

open Ownership

/-! ## The files -/

/-- A file that was opened: its size, and what can be read of it. -/
structure PatternFile where
  fsize : ℤ
  contents : List UInt8
  deriving DecidableEq

/-- The file system as the agent sees it. -/
structure PatternStore where
  opendir : CString → Option (List CString)
  fopen : CString → Option PatternFile

/-- The names that the loop over the directory keeps. -/
def isPatternName (name : CString) : Bool :=
  6 ≤ name.bytes.length
    && name.bytes.drop (name.bytes.length - 5) == (CString.ofString ".json").bytes

/-- `cmp_str_ptr`: `strcmp` compares bytes as `unsigned char`. -/
def cmpStrPtr (a b : CString) : Bool := a.bytes ≤ b.bytes

/-- `snprintf(buffer, 512, …)` -/
def pathBuffer (path : CString) : CString := path.truncate 511

/-- `"%s/patterns"` -/
def patternsPath (homeDir : CString) : CString := homeDir.append (CString.ofString "/patterns")

/-- `"%s/%s"` -/
def filePath (dirPath name : CString) : CString :=
  (dirPath.append (CString.ofString "/")).append name

/-- The part of the loop that reads a file that was opened; `none` where it breaks. -/
def readPatternFile (f : PatternFile) : Option (List UInt8) :=
  if f.fsize ≤ 0 ∨ f.fsize > 1024 * 1024 then none
  else
    let json := f.contents.take f.fsize.toNat
    if json.length ≠ f.fsize.toNat then none else some json

/-! ## Agents in memory -/

/-- An agent in memory. -/
structure AgentSlot where
  config : AgentConfig
  /-- The block that its pointers lead to; a zeroed slot has none. -/
  block : Option ℕ

/-- `memset(agent, 0, sizeof(*agent))` -/
def AgentSlot.zeroed : AgentSlot := ⟨⟨none, none, []⟩, none⟩

/-- `tmuxremote_pattern_config` in memory. -/
structure HeldConfig where
  version : ℤ
  agents : List AgentSlot

/-- The blocks of a configuration's agents. -/
def blocks (agents : List AgentSlot) : List ℕ := agents.filterMap AgentSlot.block

/-- The agents of a configuration, in blocks from the given one on. -/
def placeAgents : ℕ → List AgentConfig → List AgentSlot
  | _, [] => []
  | block, agent :: agents => ⟨agent, some block⟩ :: placeAgents (block + 1) agents

/-- What the parser returns is in new blocks. -/
def placeConfig (heap : Heap) (config : PatternConfig) : HeldConfig × Heap :=
  (⟨config.version, placeAgents heap.next config.agents⟩, heap.allocate config.agents.length)

/-- `tmuxremote_pattern_config_free` -/
def patternConfigFree (heap : Heap) (config : HeldConfig) : Heap :=
  heap.release (blocks config.agents)

/-! ## Merging -/

/-- `has_duplicate_pattern_ids` -/
def hasDuplicatePatternIds : List PatternDefinition → Bool
  | [] => false
  | pattern :: patterns =>
    match pattern.id with
    | none => true
    | some id => patterns.any (fun other => other.id == some id) || hasDuplicatePatternIds patterns

/-- `merge_agent_into_config`: the configuration with the agent, and what is left of the slot. -/
def mergeAgentIntoConfig (merged : HeldConfig) (agent : AgentSlot) :
    Option (HeldConfig × AgentSlot) :=
  match agent.config.id with
  | none => none
  | some id =>
    if merged.agents.any fun other => other.config.id == some id then none
    else some ({ merged with agents := merged.agents ++ [agent] }, .zeroed)

/-- The loop over the agents of a file: whether all were moved, what is left of the file's slots,
and the merged configuration. -/
def mergeAgents : List AgentSlot → HeldConfig → Bool × List AgentSlot × HeldConfig
  | [], merged => (true, [], merged)
  | agent :: agents, merged =>
    if hasDuplicatePatternIds agent.config.patterns then (false, agent :: agents, merged)
    else
      match mergeAgentIntoConfig merged agent with
      | none => (false, agent :: agents, merged)
      | some (merged, agent) =>
        match mergeAgents agents merged with
        | (ok, agents, merged) => (ok, agent :: agents, merged)

/-- The variables of the loop over the files. -/
structure MergeState where
  merged : HeldConfig
  versionSet : Bool
  heap : Heap

/-- The end of the loop's body: the agents are moved, and the file's configuration is freed. -/
def mergeConfig (cfg : HeldConfig) (s : MergeState) : Bool × MergeState :=
  match mergeAgents cfg.agents s.merged with
  | (ok, agents, merged) =>
    (ok,
      { s with
        merged := merged
        heap := patternConfigFree s.heap { cfg with agents := agents } })

section
variable (files : PatternStore) (parse : List UInt8 → Option PatternConfig)

/-- The loop's body for a file. -/
def loadPatternFile (dirPath name : CString) (s : MergeState) : Bool × MergeState :=
  match files.fopen (pathBuffer (filePath dirPath name)) with
  | none => (false, s)
  | some f =>
    match readPatternFile f with
    | none => (false, s)
    | some json =>
      match parse json with
      | none => (false, s)
      | some config =>
        match placeConfig s.heap config with
        | (cfg, heap) =>
          if !s.versionSet then
            mergeConfig cfg
              { merged := { s.merged with version := cfg.version }
                versionSet := true
                heap := heap }
          else if cfg.version ≠ s.merged.version then
            (false, { s with heap := patternConfigFree heap cfg })
          else mergeConfig cfg { s with heap := heap }

/-- The loop over the files, until one of them fails. -/
def loadPatternFiles (dirPath : CString) : List CString → MergeState → Bool × MergeState
  | [], s => (true, s)
  | name :: names, s =>
    match loadPatternFile files parse dirPath name s with
    | (true, s) => loadPatternFiles dirPath names s
    | (false, s) => (false, s)

/-- What of the agent's `struct tmuxremote` is used here, and the memory. -/
structure PatternApp where
  homeDir : CString
  patternConfig : Option HeldConfig
  heap : Heap

/-- What the application holds is freed. -/
def PatternApp.dropConfig (app : PatternApp) : PatternApp :=
  match app.patternConfig with
  | some config => { app with patternConfig := none, heap := patternConfigFree app.heap config }
  | none => app

/-- `load_default_pattern_config`, of the embedded text. -/
def loadDefaultPatternConfig (defaultJson : List UInt8) (app : PatternApp) : Bool × PatternApp :=
  let app := app.dropConfig
  match parse defaultJson with
  | none => (false, app)
  | some config =>
    match placeConfig app.heap config with
    | (cfg, heap) =>
      if cfg.agents.isEmpty then (false, { app with heap := patternConfigFree heap cfg })
      else (true, { app with patternConfig := some cfg, heap := heap })

/-- `load_pattern_configs` -/
def loadPatternConfigs (defaultJson : List UInt8) (app : PatternApp) : Bool × PatternApp :=
  let dirPath := pathBuffer (patternsPath app.homeDir)
  match files.opendir dirPath with
  | none => loadDefaultPatternConfig parse defaultJson app
  | some entries =>
    let app := app.dropConfig
    let fileNames := entries.filter isPatternName
    if fileNames.isEmpty then loadDefaultPatternConfig parse defaultJson app
    else
      match loadPatternFiles files parse dirPath (fileNames.mergeSort cmpStrPtr)
        ⟨⟨0, []⟩, false, app.heap⟩ with
      | (false, s) => (false, { app with heap := patternConfigFree s.heap s.merged })
      | (true, s) =>
        if s.merged.agents.isEmpty then
          (false, { app with heap := patternConfigFree s.heap s.merged })
        else (true, { app with patternConfig := some s.merged, heap := s.heap })

end

/-! ## Agents that can be merged -/

/-- Every agent has an id, and no id twice; so does every pattern of an agent. -/
structure Distinct (agents : List AgentConfig) : Prop where
  named : ∀ agent ∈ agents, agent.id.isSome = true
  ids : (agents.map AgentConfig.id).Nodup
  patterns : ∀ agent ∈ agents, ∀ pattern ∈ agent.patterns, pattern.id.isSome = true
  patternIds : ∀ agent ∈ agents, (agent.patterns.map PatternDefinition.id).Nodup

namespace Distinct

theorem nil : Distinct [] := ⟨nofun, .nil, nofun, nofun⟩

theorem of_append {agents more : List AgentConfig} (h : Distinct (agents ++ more)) :
    Distinct agents where
  named agent hagent := h.named agent (List.mem_append_left more hagent)
  ids := (List.map_append ▸ h.ids).of_append_left
  patterns agent hagent := h.patterns agent (List.mem_append_left more hagent)
  patternIds agent hagent := h.patternIds agent (List.mem_append_left more hagent)

/-- One more agent. -/
theorem concat_iff {agents : List AgentConfig} {agent : AgentConfig} (h : Distinct agents) :
    Distinct (agents ++ [agent])
      ↔ ((∀ pattern ∈ agent.patterns, pattern.id.isSome = true)
          ∧ (agent.patterns.map PatternDefinition.id).Nodup)
        ∧ agent.id.isSome = true ∧ agent.id ∉ agents.map AgentConfig.id := by
  constructor
  · intro hall
    have hlast : agent ∈ agents ++ [agent] := List.mem_concat_self
    refine ⟨⟨hall.patterns agent hlast, hall.patternIds agent hlast⟩, hall.named agent hlast, ?_⟩
    have hids := hall.ids
    rw [List.map_append, List.nodup_append] at hids
    exact fun hmem => hids.2.2 _ hmem _ List.mem_cons_self rfl
  · rintro ⟨⟨hpatterns, hpatternIds⟩, hnamed, hnew⟩
    refine ⟨?_, ?_, ?_, ?_⟩
    · exact List.forall_mem_append.mpr ⟨h.named, List.forall_mem_singleton.mpr hnamed⟩
    · rw [List.map_append, List.map_singleton]
      exact List.nodup_append.mpr ⟨h.ids, List.nodup_singleton _,
        fun a ha b hb => by
          rw [List.mem_singleton.mp hb]
          exact fun heq => hnew (heq ▸ ha)⟩
    · exact List.forall_mem_append.mpr ⟨h.patterns, List.forall_mem_singleton.mpr hpatterns⟩
    · exact List.forall_mem_append.mpr ⟨h.patternIds, List.forall_mem_singleton.mpr hpatternIds⟩

end Distinct

/-- **What the check of a file's agent accepts.** -/
theorem hasDuplicatePatternIds_eq_false_iff {patterns : List PatternDefinition} :
    hasDuplicatePatternIds patterns = false
      ↔ (∀ pattern ∈ patterns, pattern.id.isSome = true)
        ∧ (patterns.map PatternDefinition.id).Nodup := by
  induction patterns with
  | nil => exact iff_of_true rfl ⟨nofun, .nil⟩
  | cons pattern patterns ih =>
    rw [List.forall_mem_cons, List.map_cons, List.nodup_cons, hasDuplicatePatternIds.eq_def]
    dsimp only
    cases hid : pattern.id with
    | none => simp
    | some id =>
      dsimp only
      rw [Bool.or_eq_false_iff, ih]
      have hany : (patterns.any fun other => other.id == some id) = false
          ↔ some id ∉ patterns.map PatternDefinition.id := by
        rw [List.any_eq_false]
        simp
      rw [hany, Option.isSome_some]
      tauto

/-- **What is merged**: an agent with an id that is not taken. -/
theorem mergeAgentIntoConfig_eq {merged : HeldConfig} {agent : AgentSlot} :
    (agent.config.id.isSome = true
        ∧ agent.config.id ∉ (merged.agents.map AgentSlot.config).map AgentConfig.id)
        ∧ mergeAgentIntoConfig merged agent
          = some ({ merged with agents := merged.agents ++ [agent] }, .zeroed)
      ∨ ¬ (agent.config.id.isSome = true
        ∧ agent.config.id ∉ (merged.agents.map AgentSlot.config).map AgentConfig.id)
        ∧ mergeAgentIntoConfig merged agent = none := by
  rw [mergeAgentIntoConfig]
  cases hid : agent.config.id with
  | none => exact Or.inr ⟨by simp, rfl⟩
  | some id =>
    have hany : (merged.agents.any fun other => other.config.id == some id) = true
        ↔ some id ∈ (merged.agents.map AgentSlot.config).map AgentConfig.id := by
      rw [List.any_eq_true]
      simp
    dsimp only
    split_ifs with htaken
    · exact Or.inr ⟨fun hnew => hnew.2 (hany.mp htaken), rfl⟩
    · exact Or.inl ⟨⟨rfl, fun hmem => htaken (hany.mpr hmem)⟩, rfl⟩

@[simp] theorem map_config_placeAgents (block : ℕ) (agents : List AgentConfig) :
    (placeAgents block agents).map AgentSlot.config = agents := by
  induction agents generalizing block with
  | nil => rfl
  | cons agent agents ih => rw [placeAgents, List.map_cons, ih]

@[simp] theorem blocks_placeAgents (block : ℕ) (agents : List AgentConfig) :
    blocks (placeAgents block agents) = List.range' block agents.length := by
  induction agents generalizing block with
  | nil => rfl
  | cons agent agents ih =>
    change block :: blocks (placeAgents (block + 1) agents) = _
    rw [ih, List.length_cons, List.range'_succ]

theorem blocks_append (agents more : List AgentSlot) :
    blocks (agents ++ more) = blocks agents ++ blocks more := List.filterMap_append

/-- A zeroed slot has nothing to free. -/
theorem blocks_zeroed_cons (agents : List AgentSlot) :
    blocks (.zeroed :: agents) = blocks agents := List.filterMap_cons_none rfl

/-- An agent that is moved is held by the merged configuration, and no longer by its slot. -/
theorem blocks_moved (agent : AgentSlot) (agents merged : List AgentSlot) :
    (blocks agents ++ blocks (merged ++ [agent])).Perm
      (blocks (agent :: agents) ++ blocks merged) := by
  have hcons : blocks (agent :: agents) = blocks [agent] ++ blocks agents :=
    blocks_append [agent] agents
  rw [blocks_append, hcons, ← List.append_assoc]
  exact List.perm_append_comm.trans (by rw [List.append_assoc])

/-- **What the loop over a file's agents does.**  It moves blocks, and moves all of them if the
agents can be merged. -/
theorem mergeAgents_spec (agents : List AgentSlot) (merged : HeldConfig)
    (h : Distinct (merged.agents.map AgentSlot.config)) :
    (blocks (mergeAgents agents merged).2.1 ++ blocks (mergeAgents agents merged).2.2.agents).Perm
        (blocks agents ++ blocks merged.agents)
      ∧ (mergeAgents agents merged).2.2.version = merged.version
      ∧ ((mergeAgents agents merged).1 = true
        ↔ Distinct (merged.agents.map AgentSlot.config ++ agents.map AgentSlot.config))
      ∧ ((mergeAgents agents merged).1 = true →
        (mergeAgents agents merged).2.2.agents.map AgentSlot.config
          = merged.agents.map AgentSlot.config ++ agents.map AgentSlot.config) := by
  induction agents generalizing merged with
  | nil => exact ⟨.rfl, rfl, by simpa [mergeAgents] using h, fun _ => (List.append_nil _).symm⟩
  | cons agent agents ih =>
    rw [List.map_cons, List.append_cons]
    -- where the agent is refused, nothing has moved
    have hrefused (hnot : ¬ Distinct (merged.agents.map AgentSlot.config ++ [agent.config])) :
        (false = true ↔ Distinct (merged.agents.map AgentSlot.config ++ [agent.config]
          ++ agents.map AgentSlot.config)) :=
      iff_of_false Bool.false_ne_true fun hall => hnot hall.of_append
    rw [mergeAgents]
    cases hcheck : hasDuplicatePatternIds agent.config.patterns with
    | true =>
      refine ⟨.rfl, rfl, hrefused fun hall => ?_, nofun⟩
      rw [hasDuplicatePatternIds_eq_false_iff.mpr (h.concat_iff.mp hall).1] at hcheck
      exact Bool.false_ne_true hcheck
    | false =>
      have hpatterns := hasDuplicatePatternIds_eq_false_iff.mp hcheck
      rw [if_neg Bool.false_ne_true]
      obtain ⟨hnew, heq⟩ | ⟨htaken, heq⟩ := @mergeAgentIntoConfig_eq merged agent
      · have hnext : Distinct ((merged.agents ++ [agent]).map AgentSlot.config) := by
          rw [List.map_append, List.map_singleton]
          exact h.concat_iff.mpr ⟨hpatterns, hnew⟩
        obtain ⟨hblocks, hversion, hok, hconfigs⟩ :=
          ih { merged with agents := merged.agents ++ [agent] } hnext
        rw [List.map_append, List.map_singleton] at hok hconfigs
        rw [heq]
        dsimp only
        refine ⟨?_, hversion, hok, hconfigs⟩
        rw [blocks_zeroed_cons]
        exact hblocks.trans (blocks_moved agent agents merged.agents)
      · rw [heq]
        exact ⟨.rfl, rfl, hrefused fun hall => htaken (h.concat_iff.mp hall).2, nofun⟩

/-- **What merging a file does.**  Whatever is not moved is freed. -/
theorem mergeConfig_spec {cfg : HeldConfig} {s : MergeState}
    (hdistinct : Distinct (s.merged.agents.map AgentSlot.config))
    (hbalanced : Balanced s.heap (blocks s.merged.agents ++ blocks cfg.agents)) :
    Balanced (mergeConfig cfg s).2.heap (blocks (mergeConfig cfg s).2.merged.agents)
      ∧ (mergeConfig cfg s).2.versionSet = s.versionSet
      ∧ (mergeConfig cfg s).2.merged.version = s.merged.version
      ∧ ((mergeConfig cfg s).1 = true
        ↔ Distinct (s.merged.agents.map AgentSlot.config ++ cfg.agents.map AgentSlot.config))
      ∧ ((mergeConfig cfg s).1 = true →
        (mergeConfig cfg s).2.merged.agents.map AgentSlot.config
          = s.merged.agents.map AgentSlot.config ++ cfg.agents.map AgentSlot.config) := by
  obtain ⟨hblocks, hversion, hok, hconfigs⟩ := mergeAgents_spec cfg.agents s.merged hdistinct
  refine ⟨?_, rfl, hversion, hok, hconfigs⟩
  exact (hbalanced.perm (List.perm_append_comm.trans hblocks.symm)).release

/-! ## Files that can be merged -/

/-- The configurations have one version, and their agents can be merged. -/
structure Sound (configs : List PatternConfig) : Prop where
  versions : ∀ config ∈ configs, ∀ other ∈ configs, config.version = other.version
  distinct : Distinct (configs.flatMap PatternConfig.agents)

theorem Sound.of_append {configs more : List PatternConfig} (h : Sound (configs ++ more)) :
    Sound configs where
  versions config hconfig other hother :=
    h.versions config (List.mem_append_left more hconfig) other (List.mem_append_left more hother)
  distinct := (List.flatMap_append ▸ h.distinct).of_append

/-- What has been merged so far. -/
structure Loaded (configs : List PatternConfig) (s : MergeState) : Prop where
  agents : s.merged.agents.map AgentSlot.config = configs.flatMap PatternConfig.agents
  distinct : Distinct (configs.flatMap PatternConfig.agents)
  versionSet : s.versionSet = !configs.isEmpty
  version : ∀ config ∈ configs, config.version = s.merged.version
  balanced : Balanced s.heap (blocks s.merged.agents)

theorem Loaded.sound {configs : List PatternConfig} {s : MergeState} (h : Loaded configs s) :
    Sound configs :=
  ⟨fun config hconfig other hother =>
    (h.version config hconfig).trans (h.version other hother).symm, h.distinct⟩

section
variable {files : PatternStore} {parse : List UInt8 → Option PatternConfig}
  {dirPath name : CString} {configs : List PatternConfig} {s : MergeState}

/-- What a file says, if it can be read and parsed. -/
def fileConfig (files : PatternStore) (parse : List UInt8 → Option PatternConfig)
    (dirPath name : CString) : Option PatternConfig :=
  (files.fopen (filePath dirPath name)).bind fun f => (readPatternFile f).bind parse

/-- A path that fits the buffer. -/
theorem pathBuffer_eq {path : CString} (h : path.bytes.length < 512) : pathBuffer path = path :=
  CString.truncate_eq_self (by omega)

/-- A file that cannot be read or parsed fails at once. -/
theorem loadPatternFile_of_none (hpath : (filePath dirPath name).bytes.length < 512)
    (hnone : fileConfig files parse dirPath name = none) :
    loadPatternFile files parse dirPath name s = (false, s) := by
  rw [loadPatternFile, pathBuffer_eq hpath]
  rw [fileConfig] at hnone
  cases hopen : files.fopen (filePath dirPath name) with
  | none => rfl
  | some f =>
    rw [hopen, Option.bind_some] at hnone
    dsimp only
    cases hread : readPatternFile f with
    | none => rfl
    | some json =>
      rw [hread, Option.bind_some] at hnone
      dsimp only
      rw [hnone]

/-- One that can is merged, if its version is that of the files before. -/
theorem loadPatternFile_of_some (hpath : (filePath dirPath name).bytes.length < 512)
    {config : PatternConfig} (hsome : fileConfig files parse dirPath name = some config) :
    loadPatternFile files parse dirPath name s
      = if !s.versionSet then
          mergeConfig (placeConfig s.heap config).1
            { merged := { s.merged with version := config.version }
              versionSet := true
              heap := (placeConfig s.heap config).2 }
        else if config.version ≠ s.merged.version then
          (false,
            { s with
              heap :=
                patternConfigFree (placeConfig s.heap config).2 (placeConfig s.heap config).1 })
        else
          mergeConfig (placeConfig s.heap config).1
            { s with heap := (placeConfig s.heap config).2 } := by
  obtain ⟨f, hopen, hf⟩ := Option.bind_eq_some_iff.mp hsome
  obtain ⟨json, hread, hparse⟩ := Option.bind_eq_some_iff.mp hf
  rw [loadPatternFile, pathBuffer_eq hpath, hopen]
  dsimp only
  rw [hread]
  dsimp only
  rw [hparse]
  rfl

/-- What there is in memory once a file is parsed. -/
theorem Loaded.placed (h : Loaded configs s) (config : PatternConfig) :
    Balanced (placeConfig s.heap config).2
      (blocks s.merged.agents ++ blocks (placeConfig s.heap config).1.agents) := by
  rw [placeConfig, blocks_placeAgents]
  exact h.balanced.allocate config.agents.length

/-- The outcomes of a part of the loop: it has merged what it was to merge, or it has failed, and
what it was to merge cannot be. -/
def Outcome (configs : List PatternConfig) (parsed : List PatternConfig → Prop) :
    Bool × MergeState → Prop
  | (true, s) => ∃ more, parsed more ∧ Loaded (configs ++ more) s
  | (false, s) =>
    Balanced s.heap (blocks s.merged.agents) ∧ ∀ more, parsed more → ¬ Sound (configs ++ more)

/-- A file of the version of those before is merged, if its agents can be. -/
theorem Loaded.mergeConfig (h : Loaded configs s) {config : PatternConfig} {s' : MergeState}
    (hagents : s'.merged.agents = s.merged.agents) (hset : s'.versionSet = true)
    (hheap : s'.heap = (placeConfig s.heap config).2)
    (hversion : s'.merged.version = config.version)
    (hversions : ∀ earlier ∈ configs, earlier.version = config.version) :
    Outcome configs (· = [config]) (mergeConfig (placeConfig s.heap config).1 s') := by
  have hplaced : Balanced s'.heap
      (blocks s'.merged.agents ++ blocks (placeConfig s.heap config).1.agents) := by
    rw [hagents, hheap]
    exact h.placed config
  have hdistinct : Distinct (s'.merged.agents.map AgentSlot.config) := by
    rw [hagents, h.agents]
    exact h.distinct
  obtain ⟨hbalanced, hset', hversion', hok, hconfigs⟩ := mergeConfig_spec hdistinct hplaced
  have hall : s'.merged.agents.map AgentSlot.config
        ++ (placeConfig s.heap config).1.agents.map AgentSlot.config
      = (configs ++ [config]).flatMap PatternConfig.agents := by
    rw [hagents, h.agents, placeConfig, map_config_placeAgents, List.flatMap_append,
      List.flatMap_singleton]
  rw [hall] at hok hconfigs
  cases hresult : TmuxRemote.mergeConfig (placeConfig s.heap config).1 s' with
  | mk ok t =>
    rw [hresult] at hbalanced hset' hversion' hok hconfigs
    cases ok with
    | true =>
      refine ⟨[config], rfl, hconfigs rfl, hok.mp rfl, ?_, ?_, hbalanced⟩
      · rw [hset', hset]
        simp
      · rw [hversion', hversion]
        exact List.forall_mem_append.mpr ⟨hversions, List.forall_mem_singleton.mpr rfl⟩
    | false =>
      refine ⟨hbalanced, ?_⟩
      rintro _ rfl hsound
      exact Bool.false_ne_true (hok.mpr hsound.distinct)

/-- **What the loop's body does.** -/
theorem Loaded.body (h : Loaded configs s) (hpath : (filePath dirPath name).bytes.length < 512) :
    Outcome configs (fun more => ∃ config, fileConfig files parse dirPath name = some config
        ∧ more = [config])
      (loadPatternFile files parse dirPath name s) := by
  cases hfile : fileConfig files parse dirPath name with
  | none =>
    rw [loadPatternFile_of_none hpath hfile]
    exact ⟨h.balanced, fun more hmore => absurd hmore.choose_spec.1 (by simp)⟩
  | some config =>
    rw [loadPatternFile_of_some hpath hfile]
    have hparsed : (fun more => ∃ c, some config = some c ∧ more = [c]) = (· = [config]) := by
      funext more
      simp
    rw [hparsed]
    split_ifs with hfirst hother
    · have hnil : configs = [] := by simpa [h.versionSet] using hfirst
      subst hnil
      exact h.mergeConfig rfl rfl rfl rfl nofun
    · -- the file is freed as it was parsed
      refine ⟨((h.placed config).perm List.perm_append_comm).release, ?_⟩
      rintro _ rfl hsound
      obtain ⟨first, hmem⟩ := List.exists_mem_of_ne_nil configs
        (by simpa [h.versionSet] using hfirst)
      refine hother ?_
      rw [← h.version first hmem]
      exact hsound.versions _ List.mem_concat_self _ (List.mem_append_left _ hmem)
    · rw [not_not] at hother
      refine h.mergeConfig rfl ?_ rfl hother.symm fun earlier hmem =>
        (h.version earlier hmem).trans hother.symm
      simpa using hfirst

/-- **What the loop over the files does.** -/
theorem Loaded.loop {names : List CString} (h : Loaded configs s)
    (hpaths : ∀ name ∈ names, (filePath dirPath name).bytes.length < 512) :
    Outcome configs (fun more => names.map (fileConfig files parse dirPath) = more.map some)
      (loadPatternFiles files parse dirPath names s) := by
  induction names generalizing configs s with
  | nil => exact ⟨[], rfl, by rwa [List.append_nil]⟩
  | cons name names ih =>
    obtain ⟨hpath, hpaths⟩ := List.forall_mem_cons.mp hpaths
    have hfile : Outcome configs _ (loadPatternFile files parse dirPath name s) := h.body hpath
    rw [loadPatternFiles]
    cases hresult : loadPatternFile files parse dirPath name s with
    | mk ok t =>
      rw [hresult] at hfile
      cases ok with
      | false =>
        refine ⟨hfile.1, fun more hmore hsound => ?_⟩
        obtain ⟨config, rest, rfl, hconfig, -⟩ := List.map_eq_cons_iff.mp hmore.symm
        rw [List.append_cons] at hsound
        exact hfile.2 [config] ⟨config, hconfig.symm, rfl⟩ hsound.of_append
      | true =>
        obtain ⟨_, ⟨config, hconfig, rfl⟩, hloaded⟩ := hfile
        have hrest := ih hloaded hpaths
        dsimp only
        cases hresult' : loadPatternFiles files parse dirPath names t with
        | mk ok t' =>
          rw [hresult'] at hrest
          cases ok with
          | true =>
            obtain ⟨more, hmore, hloaded'⟩ := hrest
            rw [List.append_assoc] at hloaded'
            refine ⟨config :: more, ?_, hloaded'⟩
            rw [List.map_cons, hconfig, hmore]
            rfl
          | false =>
            refine ⟨hrest.1, fun more hmore hsound => ?_⟩
            obtain ⟨first, rest, rfl, hfirst, hmore⟩ := List.map_eq_cons_iff.mp hmore.symm
            obtain rfl : first = config := Option.some.inj (hfirst.trans hconfig)
            rw [List.append_cons] at hsound
            exact hrest.2 rest hmore.symm hsound

end

/-! ## The order of the files -/

theorem cmpStrPtr_total (a b : CString) : (cmpStrPtr a b || cmpStrPtr b a) = true := by
  simpa [cmpStrPtr] using List.le_total a.bytes b.bytes

theorem cmpStrPtr_trans (a b c : CString) (hab : cmpStrPtr a b = true)
    (hbc : cmpStrPtr b c = true) : cmpStrPtr a c = true := by
  rw [cmpStrPtr, decide_eq_true_iff] at hab hbc ⊢
  exact List.le_trans hab hbc

/-- There is one order in which names are sorted. -/
theorem mergeSort_cmpStrPtr_eq {names sorted : List CString} (hperm : sorted.Perm names)
    (hsorted : sorted.Pairwise fun a b => a.bytes ≤ b.bytes) :
    names.mergeSort cmpStrPtr = sorted := by
  have hpairwise : (names.mergeSort cmpStrPtr).Pairwise fun a b => a.bytes ≤ b.bytes :=
    (List.pairwise_mergeSort cmpStrPtr_trans cmpStrPtr_total names).imp
      fun hle => of_decide_eq_true hle
  exact ((List.mergeSort_perm names cmpStrPtr).trans hperm.symm).eq_of_pairwise
    (fun a b _ _ hab hba => CString.ext (List.le_antisymm hab hba)) hpairwise hsorted

/-! ## Loading -/

section
variable {files : PatternStore} {parse : List UInt8 → Option PatternConfig}
  {defaultJson : List UInt8} {app : PatternApp} {entries names : List CString}

/-- Everything allocated is held by the application or was freed. -/
def PatternApp.Balanced (app : PatternApp) : Prop :=
  Ownership.Balanced app.heap ((app.patternConfig.map HeldConfig.agents).elim [] blocks)

theorem PatternApp.Balanced.dropConfig (h : app.Balanced) :
    app.dropConfig.patternConfig = none ∧ Ownership.Balanced app.dropConfig.heap [] := by
  rw [PatternApp.Balanced] at h
  rw [PatternApp.dropConfig]
  cases hconfig : app.patternConfig with
  | none =>
    rw [hconfig] at h
    exact ⟨hconfig, h⟩
  | some config =>
    rw [hconfig] at h
    refine ⟨rfl, Ownership.Balanced.release ?_⟩
    rwa [List.append_nil]

/-- Nothing is merged yet. -/
theorem loaded_nil {heap : Heap} (h : Ownership.Balanced heap []) :
    Loaded [] ⟨⟨0, []⟩, false, heap⟩ :=
  ⟨rfl, .nil, rfl, nofun, h⟩

/-- **What loading the pattern files does.**  It succeeds exactly when all files can be read and
parsed, are sound together, and have an agent; then the application holds their agents in the order
of the files, and otherwise it holds none and all that was parsed has been freed once. -/
theorem loadPatternConfigs_spec
    (hopen : files.opendir (patternsPath app.homeDir) = some entries)
    (hsome : entries.filter isPatternName ≠ [])
    (hpaths : ∀ name ∈ entries.filter isPatternName,
      (filePath (patternsPath app.homeDir) name).bytes.length < 512)
    (hbalanced : app.Balanced) (hperm : names.Perm (entries.filter isPatternName))
    (hsorted : names.Pairwise fun a b => a.bytes ≤ b.bytes) :
    (∃ configs config, names.map (fileConfig files parse (patternsPath app.homeDir))
          = configs.map some
        ∧ Sound configs ∧ configs.flatMap PatternConfig.agents ≠ []
        ∧ (loadPatternConfigs files parse defaultJson app).1 = true
        ∧ (loadPatternConfigs files parse defaultJson app).2.patternConfig = some config
        ∧ config.agents.map AgentSlot.config = configs.flatMap PatternConfig.agents
        ∧ (loadPatternConfigs files parse defaultJson app).2.Balanced)
      ∨ (∀ configs, names.map (fileConfig files parse (patternsPath app.homeDir))
          = configs.map some → Sound configs → configs.flatMap PatternConfig.agents = [])
        ∧ (loadPatternConfigs files parse defaultJson app).1 = false
        ∧ (loadPatternConfigs files parse defaultJson app).2.patternConfig = none
        ∧ Ownership.Balanced (loadPatternConfigs files parse defaultJson app).2.heap [] := by
  -- the directory's path is shorter than that of a file in it
  have hdir : pathBuffer (patternsPath app.homeDir) = patternsPath app.homeDir := by
    obtain ⟨name, hname⟩ := List.exists_mem_of_ne_nil _ hsome
    have hlength := hpaths name hname
    rw [filePath, CString.append, CString.append, List.length_append, List.length_append] at hlength
    exact pathBuffer_eq (by omega)
  have hpaths' : ∀ name ∈ names, (filePath (patternsPath app.homeDir) name).bytes.length < 512 :=
    fun name hname => hpaths name (hperm.mem_iff.mp hname)
  obtain ⟨hdropped, hfree⟩ := hbalanced.dropConfig
  have hloop : Outcome [] (fun more => names.map (fileConfig files parse (patternsPath app.homeDir))
      = more.map some) (loadPatternFiles files parse (patternsPath app.homeDir) names
        ⟨⟨0, []⟩, false, app.dropConfig.heap⟩) := (loaded_nil hfree).loop hpaths'
  have hne : (entries.filter isPatternName).isEmpty = false := by
    rwa [List.isEmpty_eq_false_iff]
  rw [loadPatternConfigs]
  dsimp only
  rw [hdir, hopen]
  dsimp only
  rw [hne, if_neg Bool.false_ne_true, mergeSort_cmpStrPtr_eq hperm hsorted]
  cases hresult : loadPatternFiles files parse (patternsPath app.homeDir) names
      ⟨⟨0, []⟩, false, app.dropConfig.heap⟩ with
  | mk ok s =>
    rw [hresult] at hloop
    cases ok with
    | false =>
      obtain ⟨hheld, hunsound⟩ := hloop
      refine Or.inr ⟨fun configs hconfigs hsound => ?_, rfl, hdropped, ?_⟩
      · exact absurd hsound (hunsound configs hconfigs)
      · exact Ownership.Balanced.release (by rwa [List.append_nil])
    | true =>
      obtain ⟨configs, hconfigs, hloaded⟩ := hloop
      rw [List.nil_append] at hloaded
      have hagents := hloaded.agents
      dsimp only
      split_ifs with hempty
      · rw [List.isEmpty_iff] at hempty
        rw [hempty] at hagents
        refine Or.inr ⟨fun configs' hconfigs' _ => ?_, rfl, hdropped, ?_⟩
        · obtain rfl := List.map_injective_iff.mpr (Option.some_injective _)
            (hconfigs.symm.trans hconfigs')
          exact hagents.symm
        · exact Ownership.Balanced.release (by rw [List.append_nil]; exact hloaded.balanced)
      · refine Or.inl ⟨configs, s.merged, hconfigs, hloaded.sound, fun hnil => ?_, rfl, rfl,
          hagents, hloaded.balanced⟩
        rw [hnil] at hagents
        exact hempty (List.isEmpty_iff.mpr (List.map_eq_nil_iff.mp hagents))

/-- The agents of a file, as far as it can be read and parsed. -/
def fileAgents (files : PatternStore) (parse : List UInt8 → Option PatternConfig)
    (dirPath name : CString) : List AgentConfig :=
  ((fileConfig files parse dirPath name).map PatternConfig.agents).getD []

/-- What is wrong with a file that comes after others. -/
inductive FileFault (files : PatternStore) (parse : List UInt8 → Option PatternConfig)
    (dirPath : CString) (before : List CString) (name : CString) : Prop
  | unopened (hopen : files.fopen (filePath dirPath name) = none)
  | size {f : PatternFile} (hopen : files.fopen (filePath dirPath name) = some f)
      (hsize : f.fsize < 1 ∨ 1048576 < f.fsize)
  | unread {f : PatternFile} (hopen : files.fopen (filePath dirPath name) = some f)
      (hshort : (f.contents.length : ℤ) < f.fsize)
  | unparsed {f : PatternFile} {json : List UInt8}
      (hopen : files.fopen (filePath dirPath name) = some f)
      (hread : readPatternFile f = some json) (hparse : parse json = none)
  /-- Its version is not that of an earlier file. -/
  | version {config earlier : PatternConfig} {other : CString}
      (hconfig : fileConfig files parse dirPath name = some config) (hother : other ∈ before)
      (hearlier : fileConfig files parse dirPath other = some earlier)
      (hversion : config.version ≠ earlier.version)
  /-- An agent's id is that of an agent of an earlier file, or of one before it in this file. -/
  | agentId {config : PatternConfig} {taken later : List AgentConfig} {agent earlier : AgentConfig}
      (hconfig : fileConfig files parse dirPath name = some config)
      (hagents : config.agents = taken ++ agent :: later)
      (hearlier : earlier ∈ before.flatMap (fileAgents files parse dirPath) ++ taken)
      (hid : agent.id = earlier.id)
  /-- Two patterns of an agent have one id. -/
  | patternId {config : PatternConfig} {agent : AgentConfig}
      (hconfig : fileConfig files parse dirPath name = some config)
      (hagent : agent ∈ config.agents)
      (hids : ¬ (agent.patterns.map PatternDefinition.id).Nodup)

theorem flatMap_fileAgents {dirPath : CString} {configs : List PatternConfig}
    (h : names.map (fileConfig files parse dirPath) = configs.map some) :
    names.flatMap (fileAgents files parse dirPath) = configs.flatMap PatternConfig.agents := by
  have hall := congrArg
    (List.flatMap fun config => (Option.map PatternConfig.agents config).getD []) h
  rwa [List.flatMap_map, List.flatMap_map] at hall

/-- A file that cannot be read does not say anything. -/
theorem readPatternFile_eq_none {f : PatternFile}
    (h : f.fsize < 1 ∨ 1048576 < f.fsize ∨ (f.contents.length : ℤ) < f.fsize) :
    readPatternFile f = none := by
  rw [readPatternFile]
  split_ifs with hsize
  · rfl
  · dsimp only
    rw [if_pos]
    rw [List.length_take]
    omega

/-- **No sound configuration has a faulty file.** -/
theorem FileFault.not_sound {dirPath : CString} {before after : List CString} {name : CString}
    (h : FileFault files parse dirPath before name) {configs : List PatternConfig}
    (hconfigs : (before ++ name :: after).map (fileConfig files parse dirPath) = configs.map some) :
    ¬ Sound configs := by
  intro hsound
  rw [List.map_append, List.map_cons] at hconfigs
  obtain ⟨cb, cs, rfl, hbefore, hrest⟩ := List.map_eq_append_iff.mp hconfigs.symm
  obtain ⟨config, ca, rfl, hname, -⟩ := List.map_eq_cons_iff.mp hrest
  have hmem : config ∈ cb ++ config :: ca := List.mem_append_right cb List.mem_cons_self
  -- what cannot be read or parsed is not in the list
  have hread {f : PatternFile} (hopen : files.fopen (filePath dirPath name) = some f)
      (hnone : (readPatternFile f).bind parse = none) : False := by
    rw [fileConfig, hopen, Option.bind_some, hnone] at hname
    exact absurd hname (by simp)
  have hsame {c : PatternConfig} (hc : fileConfig files parse dirPath name = some c) :
      c = config := Option.some.inj (hc.symm.trans hname.symm)
  cases h with
  | unopened hopen =>
    rw [fileConfig, hopen] at hname
    exact absurd hname (by simp)
  | size hopen hsize =>
    refine hread hopen ?_
    rw [readPatternFile_eq_none (hsize.imp_right Or.inl)]
    rfl
  | unread hopen hshort =>
    refine hread hopen ?_
    rw [readPatternFile_eq_none (Or.inr (Or.inr hshort))]
    rfl
  | unparsed hopen hjson hparse =>
    refine hread hopen ?_
    rw [hjson]
    exact hparse
  | @version _ earlier _ hconfig hother hearlier hversion =>
    obtain rfl := hsame hconfig
    have hin : some earlier ∈ cb.map some := by
      rw [hbefore, ← hearlier]
      exact List.mem_map_of_mem hother
    obtain ⟨_, hcb, heq⟩ := List.mem_map.mp hin
    obtain rfl := Option.some.inj heq
    exact hversion (hsound.versions _ hmem _ (List.mem_append_left _ hcb))
  | agentId hconfig hagents hearlier hid =>
    obtain rfl := hsame hconfig
    have hids := hsound.distinct.ids
    rw [flatMap_fileAgents hbefore.symm] at hearlier
    rw [List.flatMap_append, List.flatMap_cons, hagents, List.append_assoc, ← List.append_assoc,
      List.map_append, List.nodup_append] at hids
    exact hids.2.2 _ (List.mem_map_of_mem hearlier) _ List.mem_cons_self hid.symm
  | patternId hconfig hagent hids =>
    obtain rfl := hsame hconfig
    exact hids (hsound.distinct.patternIds _ (List.mem_flatMap.mpr ⟨_, hmem, hagent⟩))

end

/-- **The pattern files are merged all or not at all.**  Where loading returns true, the application
holds the files' agents in the order of the files' names, and no id is there twice; where a file is
faulty, loading returns false, the application holds no configuration, and every agent that was
parsed has been freed once. -/
theorem pattern_files_all_or_nothing (files : PatternStore)
    (parse : List UInt8 → Option PatternConfig) (defaultJson : List UInt8) (app : PatternApp)
    (entries names : List CString)
    (hopen : files.opendir (patternsPath app.homeDir) = some entries)
    (hsome : entries.filter isPatternName ≠ [])
    (hpaths : ∀ name ∈ entries.filter isPatternName,
      (filePath (patternsPath app.homeDir) name).bytes.length < 512)
    (hbalanced : app.Balanced) (hperm : names.Perm (entries.filter isPatternName))
    (hsorted : names.Pairwise fun a b => a.bytes ≤ b.bytes) (ok : Bool) (app' : PatternApp)
    (hload : loadPatternConfigs files parse defaultJson app = (ok, app')) :
    (ok = true → ∃ config, app'.patternConfig = some config
        ∧ config.agents.map AgentSlot.config
          = names.flatMap (fileAgents files parse (patternsPath app.homeDir))
        ∧ (config.agents.map fun agent => agent.config.id).Nodup
        ∧ (∀ agent ∈ config.agents, (agent.config.patterns.map PatternDefinition.id).Nodup)
        ∧ app'.Balanced)
      ∧ ((∃ before name after, names = before ++ name :: after
          ∧ FileFault files parse (patternsPath app.homeDir) before name) →
        ok = false ∧ app'.patternConfig = none
          ∧ ∀ block < app'.heap.next, app'.heap.released.count block = 1) := by
  have hspec := @loadPatternConfigs_spec files parse defaultJson app entries names hopen hsome
    hpaths hbalanced hperm hsorted
  rw [hload] at hspec
  obtain ⟨configs, config, hconfigs, hsound, -, rfl, hconfig, hagents, hheld⟩
    | ⟨-, rfl, hnone, hfreed⟩ := hspec
  · refine ⟨fun _ => ⟨config, hconfig, ?_, ?_, ?_, hheld⟩, ?_⟩
    · rw [hagents, flatMap_fileAgents hconfigs]
    · have hids := hsound.distinct.ids
      rw [← hagents, List.map_map] at hids
      exact hids
    · intro agent hagent
      refine hsound.distinct.patternIds agent.config ?_
      rw [← hagents]
      exact List.mem_map_of_mem hagent
    · rintro ⟨before, name, after, rfl, hfault⟩
      exact absurd hsound (hfault.not_sound hconfigs)
  · exact ⟨nofun, fun _ => ⟨rfl, hnone, fun block => hfreed.count_released⟩⟩

/-- Two files of one byte each, listed in the order that the directory has them. -/
def twoFiles : PatternStore where
  opendir _ :=
    some [CString.ofString "b.json", CString.ofString "README", CString.ofString "a.json"]
  fopen path :=
    if path = CString.ofString "/home/user/patterns/a.json" then some ⟨1, [0x61]⟩
    else if path = CString.ofString "/home/user/patterns/b.json" then some ⟨1, [0x62]⟩
    else none

/-- The file with an `a` has an agent, and that with a `b` is not JSON. -/
def parseLetter (json : List UInt8) : Option PatternConfig :=
  if json = [0x61] then some ⟨3, [⟨some (CString.ofString "claude"), none, []⟩]⟩ else none

/-- An agent that has loaded nothing. -/
def bareApp : PatternApp := ⟨CString.ofString "/home/user", none, .empty⟩

/-- What was parsed before the faulty file is freed again. -/
theorem pattern_files_all_or_nothing_unparsed :
    (loadPatternConfigs twoFiles parseLetter [] bareApp).1 = false
      ∧ (loadPatternConfigs twoFiles parseLetter [] bareApp).2.patternConfig = none
      ∧ ∀ block < (loadPatternConfigs twoFiles parseLetter [] bareApp).2.heap.next,
        (loadPatternConfigs twoFiles parseLetter [] bareApp).2.heap.released.count block = 1 :=
  (pattern_files_all_or_nothing twoFiles parseLetter [] bareApp
    [CString.ofString "b.json", CString.ofString "README", CString.ofString "a.json"]
    [CString.ofString "a.json", CString.ofString "b.json"] rfl (by decide) (by decide)
    Ownership.Balanced.empty (by decide) (by decide) _ _ rfl).2
    ⟨[CString.ofString "a.json"], CString.ofString "b.json", [], rfl,
      .unparsed (f := ⟨1, [0x62]⟩) (by decide) rfl (by decide)⟩

example : (loadPatternFiles twoFiles parseLetter (patternsPath bareApp.homeDir)
    [CString.ofString "a.json"] ⟨⟨0, []⟩, false, .empty⟩).1 = true := by decide

end TmuxRemote
