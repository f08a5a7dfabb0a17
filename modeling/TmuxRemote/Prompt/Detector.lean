import TmuxRemote.Prompt.Lifecycle

/-!
# Prompt/Detector — from PTY bytes to prompt events (`tmuxremote_prompt_detector.c`)

The detector owns a terminal, a ruleset and a lifecycle.  A feed passes its bytes to the terminal,
matches the rules on one snapshot of the screen they leave, and hands the candidate to the
lifecycle.

So a run of feeds is a run of the lifecycle over the *sightings* at the chunk ends
(`run_feed_refines`), and a sighting depends on the bytes so far alone, not on how they were cut
(`sight_feed`).  A prompt that is reported is one that was sighted (`step_prompts`).
-/

namespace TmuxRemote

/-- `tmuxremote_prompt_detector`; the callback receives every event. -/
structure PromptDetector where
  terminalState : TerminalState
  ruleset : PromptRuleset
  lifecycle : PromptLifecycle

namespace PromptDetector

/-- `tmuxremote_prompt_detector_init` -/
def init (rows cols : ℤ) : PromptDetector where
  terminalState := TerminalState.init rows cols
  ruleset := []
  lifecycle := PromptLifecycle.init

/-- `reload_rules_locked`, once the rules of the selected agent are compiled. -/
def loadRules (d : PromptDetector) (ruleset : PromptRuleset) : PromptDetector :=
  { d with ruleset := ruleset }

section

variable (compile : RegexCompiler) (ids : IdScheme)

/-- `tmuxremote_prompt_detector_feed` -/
def feed (d : PromptDetector) (data : List UInt8) : PromptDetector × List PromptEvent :=
  if data.isEmpty then (d, [])
  else
    let terminalState := d.terminalState.feed data
    let snapshot := terminalState.snapshot
    let candidate := rulesetMatch compile d.ruleset snapshot
    match d.lifecycle.process ids candidate snapshot.sequence with
    | (lifecycle, events) =>
      ({ d with terminalState := terminalState, lifecycle := lifecycle }, events)

/-- `tmuxremote_prompt_detector_resize` -/
def resize (d : PromptDetector) (rows cols : ℤ) : PromptDetector :=
  { d with terminalState := d.terminalState.resize rows cols }

/-- `tmuxremote_prompt_detector_resolve` -/
def resolve (d : PromptDetector) (instanceId : CString) : PromptDetector × List PromptEvent :=
  match d.lifecycle.resolve instanceId with
  | (lifecycle, events) => ({ d with lifecycle := lifecycle }, events)

/-- `tmuxremote_prompt_detector_copy_active` -/
def copyActive (d : PromptDetector) : Option PromptInstance := d.lifecycle.copyActive

end

end PromptDetector

/-- A call of the detector's interface after set-up. -/
inductive DetectorCall
  | feed (data : List UInt8)
  | resize (rows cols : ℤ)
  | resolve (instanceId : CString)

namespace PromptDetector

section

variable (compile : RegexCompiler) (ids : IdScheme)

/-- The detector as a machine that answers calls with events. -/
def step (d : PromptDetector) : DetectorCall → PromptDetector × List PromptEvent
  | .feed data => d.feed compile ids data
  | .resize rows cols => (d.resize rows cols, [])
  | .resolve instanceId => d.resolve instanceId

/-! ## Sightings -/

/-- The candidate on the screen once the bytes have been fed to the terminal. -/
def sight (d : PromptDetector) (bytes : List UInt8) : Option PromptCandidate :=
  rulesetMatch compile d.ruleset (d.terminalState.feed bytes).snapshot

/-- The sightings at the ends of the chunks, `before` having been fed already. -/
def sightings (d : PromptDetector) : List UInt8 → List (List UInt8) → List (Option PromptCandidate)
  | _, [] => []
  | before, chunk :: chunks =>
    d.sight compile (before ++ chunk) :: d.sightings (before ++ chunk) chunks

end

variable {compile : RegexCompiler} {ids : IdScheme}

/-- Two states with one screen take the same snapshot but for its number. -/
theorem snapshot_sameScreen {s t : TerminalState} (h : s.toTerminalScreen = t.toTerminalScreen) :
    s.snapshot.SameScreen t.snapshot := by
  obtain ⟨screen, n⟩ := s
  obtain ⟨screen', n'⟩ := t
  obtain rfl : screen = screen' := h
  exact ⟨rfl, rfl, rfl⟩

theorem feed_terminalState (d : PromptDetector) (data : List UInt8) :
    (d.feed compile ids data).1.terminalState = d.terminalState.feed data := by
  rcases data with - | ⟨ch, data⟩ <;> rfl

theorem feed_ruleset (d : PromptDetector) (data : List UInt8) :
    (d.feed compile ids data).1.ruleset = d.ruleset := by
  rcases data with - | ⟨ch, data⟩ <;> rfl

/-- **A sighting does not depend on the cut**: after feeding `xs`, the screen that `ys` leaves shows
what `xs ++ ys` shows from the start. -/
theorem sight_feed (d : PromptDetector) (xs ys : List UInt8) :
    (d.feed compile ids xs).1.sight compile ys = d.sight compile (xs ++ ys) := by
  rw [sight, sight, feed_terminalState, feed_ruleset]
  exact rulesetMatch_congr
    (snapshot_sameScreen (d.terminalState.feed_feed_toTerminalScreen xs ys)) compile d.ruleset

theorem sightings_feed (d : PromptDetector) (xs before : List UInt8) (chunks : List (List UInt8)) :
    (d.feed compile ids xs).1.sightings compile before chunks
      = d.sightings compile (xs ++ before) chunks := by
  induction chunks generalizing before with
  | nil => rfl
  | cons chunk chunks ih =>
    rw [sightings, sightings, sight_feed, ih, List.append_assoc]

variable (compile ids)

/-- One feed is one look of the phase machine at the screen. -/
theorem feed_refines (d : PromptDetector) {data : List UInt8} (h : data ≠ []) :
    (d.feed compile ids data).map (fun d => d.lifecycle.phase) id
      = d.lifecycle.phase.look ids (d.sight compile data) := by
  rw [← d.lifecycle.process_refines ids _ (d.terminalState.feed data).snapshot.sequence, feed,
    if_neg (by rwa [List.isEmpty_iff])]
  rfl

/-- **A run of feeds is a run of looks** at the screens the chunks end on. -/
theorem run_feed_refines (d : PromptDetector) {chunks : List (List UInt8)}
    (h : ∀ chunk ∈ chunks, chunk ≠ []) :
    (Reactive.run (feed compile ids) d chunks).map (fun d => d.lifecycle.phase) id
      = Reactive.run (PromptPhase.look ids) d.lifecycle.phase (d.sightings compile [] chunks) := by
  induction chunks generalizing d with
  | nil => rfl
  | cons chunk chunks ih =>
    have hhead := d.feed_refines compile ids (h chunk List.mem_cons_self)
    have htail := ih (d.feed compile ids chunk).1 fun c hc => h c (List.mem_cons_of_mem _ hc)
    rw [sightings_feed, List.append_nil] at htail
    rw [sightings, List.nil_append, Reactive.run_cons, Reactive.run_cons, ← hhead, Prod.map_fst,
      ← htail]
    rfl

end PromptDetector

/-! ## What is reported -/

/-- The prompt that an event carries. -/
def PromptEvent.prompt : PromptEvent → Option PromptInstance
  | present inst | update inst => some inst
  | gone _ => none

/-- An instance of what was found. -/
def PromptCandidate.Yields (ids : IdScheme) (c : PromptCandidate) (inst : PromptInstance) : Prop :=
  ∃ revision, inst = (candidateToInstanceWithId ids c).withRevision revision

namespace PromptPhase

variable {p : PromptPhase}

theorem absent_prompts (isHeld : Bool) {event : PromptEvent} (h : event ∈ (p.absent isHeld).2) :
    event.prompt = none := by
  rcases hshown : p.shown with - | active
  · rw [absent_idle hshown] at h
    exact absurd h List.not_mem_nil
  · by_cases hlt : p.absences + 1 < promptAbsenceSnapshots
    · rw [absent_wait hshown hlt] at h
      exact absurd h List.not_mem_nil
    · rw [absent_gone hshown hlt] at h
      obtain rfl := List.mem_singleton.mp h
      rfl

/-- A look reports, and goes on to show, nothing but what was found. -/
theorem sighted_prompts (found inst : PromptInstance) {event : PromptEvent}
    (h : event ∈ (p.sighted found).2) (hprompt : event.prompt = some inst) :
    ∃ revision, inst = found.withRevision revision := by
  rcases hshown : p.shown with - | active
  · rw [sighted_idle hshown] at h
    obtain rfl := List.mem_singleton.mp h
    exact ⟨1, (Option.some.inj hprompt).symm⟩
  · by_cases hid : active.instanceId = found.instanceId
    · rcases hsem : active.sameSemantics found with - | -
      · rw [sighted_changed hshown hid hsem] at h
        obtain rfl := List.mem_singleton.mp h
        exact ⟨_, (Option.some.inj hprompt).symm⟩
      · rw [sighted_same hshown hid hsem] at h
        exact absurd h List.not_mem_nil
    · rw [sighted_other hshown hid] at h
      rcases List.mem_pair.mp h with rfl | rfl
      · exact absurd hprompt (by simp [PromptEvent.prompt])
      · exact ⟨1, (Option.some.inj hprompt).symm⟩

theorem look_prompts (ids : IdScheme) {candidate : Option PromptCandidate} {inst : PromptInstance}
    {event : PromptEvent} (h : event ∈ (p.look ids candidate).2)
    (hprompt : event.prompt = some inst) : ∃ c, candidate = some c ∧ c.Yields ids inst := by
  rcases candidate with - | c
  · rw [absent_prompts false h] at hprompt
    exact absurd hprompt (by simp)
  · rw [look, Option.map_some] at h
    by_cases hheld : p.held = some (candidateToInstanceWithId ids c).instanceId
    · rw [observe_held hheld] at h
      rw [absent_prompts true h] at hprompt
      exact absurd hprompt (by simp)
    · rw [observe_new hheld] at h
      exact ⟨c, rfl, sighted_prompts _ inst h hprompt⟩

theorem answered_prompts (instanceId : CString) {event : PromptEvent}
    (h : event ∈ (p.answered instanceId).2) : event.prompt = none := by
  rcases hempty : instanceId.isEmpty with - | -
  · by_cases hid : ∃ active, p.shown = some active ∧ active.instanceId.text = instanceId
    · obtain ⟨active, hshown, hid⟩ := hid
      rw [answered_shown hempty hshown hid] at h
      obtain rfl := List.mem_singleton.mp h
      rfl
    · rw [answered_other hempty fun active hshown hsame => hid ⟨active, hshown, hsame⟩] at h
      exact absurd h List.not_mem_nil
  · rw [answered_empty hempty] at h
    exact absurd h List.not_mem_nil

end PromptPhase

/-- **A detector call** reports a prompt when it is fed, and one that it finds on the screen. -/
theorem PromptDetector.step_prompts {compile : RegexCompiler} {ids : IdScheme} {d : PromptDetector}
    {call : DetectorCall} {event : PromptEvent} {inst : PromptInstance}
    (h : event ∈ (d.step compile ids call).2) (hprompt : event.prompt = some inst) :
    ∃ data c, call = .feed data ∧ d.sight compile data = some c ∧ c.Yields ids inst := by
  rcases call with data | ⟨rows, cols⟩ | instanceId
  · by_cases hdata : data = []
    · rw [step, feed, if_pos (List.isEmpty_iff.mpr hdata)] at h
      exact absurd h List.not_mem_nil
    · have hlook : event ∈ (d.lifecycle.phase.look ids (d.sight compile data)).2 := by
        rw [← d.feed_refines compile ids hdata]
        exact h
      obtain ⟨c, hsight, hyields⟩ := PromptPhase.look_prompts ids hlook hprompt
      exact ⟨data, c, rfl, hsight, hyields⟩
  · exact absurd h List.not_mem_nil
  · have hanswered : event ∈ (d.lifecycle.phase.answered instanceId).2 := by
      rw [← d.lifecycle.resolve_refines instanceId]
      exact h
    rw [PromptPhase.answered_prompts instanceId hanswered] at hprompt
    exact absurd hprompt (by simp)

/-- The prompt of the event can be answered. -/
def PromptEvent.Answerable (event : PromptEvent) : Prop :=
  ∀ inst, event.prompt = some inst → inst.actions ≠ []

/-- **What a detector reports can be answered**, whatever its rules are. -/
theorem PromptDetector.step_answerable {compile : RegexCompiler} {ids : IdScheme}
    {d : PromptDetector} {call : DetectorCall} {event : PromptEvent}
    (h : event ∈ (d.step compile ids call).2) : event.Answerable := by
  intro inst hprompt
  obtain ⟨data, c, -, hsight, revision, rfl⟩ := step_prompts h hprompt
  exact actions_ne_nil_of_rulesetMatch hsight

end TmuxRemote
