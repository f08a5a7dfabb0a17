import TmuxRemote.Agent.Noninterference

/-!
# Agent/PromptRouting — which detector an answer reaches

The prompts of all data streams of a connection go out on its control streams, and an answer comes
back with an instance id alone.  `tmuxremote_stream_resolve_prompt_for_ref` hands it to the first
stream of the connection that has a detector and is not closing, whichever prompt that detector
shows.

So the answer reaches its owner exactly when the owner is that first stream
(`resolve_reaches_owner_iff`); otherwise the prompt stays, and the first detector holds back an id
that is not its own.
-/

namespace TmuxRemote

namespace PromptLifecycle

/-- The id that is held back, if one is. -/
def suppressed (s : PromptLifecycle) : Option InstanceId :=
  if s.suppressResolved then some s.resolvedInstanceId else none

/-- `has_active && strcmp(active.instance_id, instance_id) == 0` -/
def shows (s : PromptLifecycle) (instanceId : CString) : Bool :=
  s.active.any fun active => active.instanceId.text == instanceId

section

variable {s : PromptLifecycle} {instanceId : CString}

/-- No resolve leaves its id on show, but that of the empty id. -/
theorem shows_resolve (h : instanceId.isEmpty = false) :
    (s.resolve instanceId).1.shows instanceId = false := by
  rw [resolve, if_neg (ne_true_of_eq_false h)]
  cases s.active with
  | none => rfl
  | some active =>
    by_cases hid : (active.instanceId.text == instanceId) = true
    · simp only [if_pos hid]
      rfl
    · simp only [if_neg hid]
      exact eq_false_of_ne_true hid

theorem suppressed_resolve (h : instanceId.isEmpty = false) :
    (s.resolve instanceId).1.suppressed = some (InstanceId.ofCString instanceId) := by
  rw [resolve, if_neg (ne_true_of_eq_false h)]
  cases s.active with
  | none => rfl
  | some active =>
    by_cases hid : (active.instanceId.text == instanceId) = true
    · simp only [if_pos hid]
      rfl
    · simp only [if_neg hid]
      rfl

theorem resolve_empty (h : instanceId.isEmpty = true) : (s.resolve instanceId).1 = s := by
  rw [resolve, if_pos h]

end

end PromptLifecycle

namespace ActiveStream

variable (as : ActiveStream)

/-- The prompts of its detector, once there is one. -/
def prompts : Option PromptLifecycle :=
  match as.setup with
  | .ready _ _ detector => some detector.lifecycle
  | _ => none

/-- It is in `activeStreams`, of the connection, and not closing. -/
def isActive (ref : ConnectionRef) : Bool := as.listed && !as.closing && as.id.ref = ref

def shows (instanceId : CString) : Bool := as.prompts.any (·.shows instanceId)

def suppressed : Option InstanceId := as.prompts.bind (·.suppressed)

/-- The stream once its detector has been called. -/
def detect (platform : Platform) (call : DetectorCall) : ActiveStream :=
  { as with setup := (as.setup.detect platform.compile platform.ids call).1 }

theorem prompts_detect_resolve (platform : Platform) (instanceId : CString) :
    (as.detect platform (.resolve instanceId)).prompts
      = as.prompts.map fun lifecycle => (lifecycle.resolve instanceId).1 := by
  rw [detect, prompts, prompts]
  cases as.setup <;> rfl

variable {as} {instanceId : CString} (platform : Platform)

theorem shows_detect_resolve (h : instanceId.isEmpty = false) :
    (as.detect platform (.resolve instanceId)).shows instanceId = false := by
  rw [shows, prompts_detect_resolve]
  cases as.prompts with
  | none => rfl
  | some lifecycle => exact lifecycle.shows_resolve h

theorem suppressed_detect_resolve (h : instanceId.isEmpty = false) (hready : as.prompts.isSome) :
    (as.detect platform (.resolve instanceId)).suppressed
      = some (InstanceId.ofCString instanceId) := by
  rw [suppressed, prompts_detect_resolve]
  obtain ⟨lifecycle, hlifecycle⟩ := Option.isSome_iff_exists.mp hready
  rw [hlifecycle]
  exact lifecycle.suppressed_resolve h

theorem shows_detect_empty (h : instanceId.isEmpty = true) :
    (as.detect platform (.resolve instanceId)).shows = as.shows := by
  funext other
  rw [shows, shows, prompts_detect_resolve]
  cases as.prompts with
  | none => rfl
  | some lifecycle => rw [Option.map_some, lifecycle.resolve_empty h]

theorem suppressed_detect_empty (h : instanceId.isEmpty = true) :
    (as.detect platform (.resolve instanceId)).suppressed = as.suppressed := by
  rw [suppressed, suppressed, prompts_detect_resolve]
  cases as.prompts with
  | none => rfl
  | some lifecycle => rw [Option.map_some, lifecycle.resolve_empty h]

theorem isSome_prompts : as.prompts.isSome = as.setup.isReady := by
  rw [prompts]
  cases as.setup <;> rfl

end ActiveStream

/-- What an answer does to a stream: a prompt it names goes, the streams of other connections are
left as they were, and no detector comes to hold back an id that it does not show. -/
structure Routed (ref : ConnectionRef) (instanceId : CString) (as as' : ActiveStream) : Prop where
  resolved : as.isActive ref = true → as.shows instanceId = true → as'.shows instanceId = false
  others : as.id.ref ≠ ref → as' = as
  unarmed : as.id.ref = ref → as.shows instanceId = false →
    ∀ id, as'.suppressed = some id → as.suppressed = some id

namespace Routed

variable {ref : ConnectionRef} {instanceId : CString} {as : ActiveStream}

/-- A stream that is left as it was. -/
theorem self_iff : Routed ref instanceId as as
    ↔ (as.isActive ref = true → as.shows instanceId = false) := by
  refine ⟨fun h hactive => ?_, fun h => ⟨fun hactive _ => h hactive, fun _ => rfl,
    fun _ _ _ hid => hid⟩⟩
  exact eq_false_of_ne_true fun hshows => absurd (h.resolved hactive hshows) (by simp [hshows])

/-- The stream whose detector is called. -/
theorem detect_iff (platform : Platform) (href : as.id.ref = ref) (hactive : as.isActive ref = true)
    (hready : as.prompts.isSome = true) :
    Routed ref instanceId as (as.detect platform (.resolve instanceId))
      ↔ if as.shows instanceId then instanceId.isEmpty = false
        else instanceId.isEmpty = true ∨ as.suppressed
          = some (InstanceId.ofCString instanceId) := by
  cases hempty : instanceId.isEmpty with
  | true =>
    have hkept := as.shows_detect_empty platform hempty
    cases hshows : as.shows instanceId with
    | true =>
      refine iff_of_false (fun h => ?_) (by simp)
      have hgone := h.resolved hactive hshows
      rw [hkept, hshows] at hgone
      exact nomatch hgone
    | false =>
      refine iff_of_true ⟨fun _ h => ?_, fun h => absurd href h, fun _ _ id hid => ?_⟩ (by simp)
      · rw [hshows] at h
        exact nomatch h
      · rwa [as.suppressed_detect_empty platform hempty] at hid
  | false =>
    have hgone := as.shows_detect_resolve platform hempty
    have harmed := as.suppressed_detect_resolve platform hempty hready
    cases hshows : as.shows instanceId with
    | true =>
      refine iff_of_true ⟨fun _ _ => hgone, fun h => absurd href h, fun _ h => ?_⟩ (by simp)
      rw [hshows] at h
      exact nomatch h
    | false =>
      simp only [Bool.false_eq_true, if_false, false_or]
      refine ⟨fun h => h.unarmed href hshows _ harmed,
        fun h => ⟨fun _ _ => hgone, fun hne => absurd href hne, fun _ _ id hid => ?_⟩⟩
      rw [h, ← harmed, hid]

end Routed

namespace App

variable {s : App} {platform : Platform} {ref : ConnectionRef}

@[simp] theorem streams_send (targets : List StreamId) (frame : Option (List UInt8)) :
    (s.send targets frame).streams = s.streams := by
  cases frame <;> rfl

theorem streams_promptStreamCallbacks (events : List PromptEvent) :
    (events.foldl (promptStreamCallback platform ref) s).streams = s.streams := by
  induction events generalizing s with
  | nil => rfl
  | cons event events ih => rw [List.foldl_cons, ih, promptStreamCallback, streams_send]

/-- A call of a detector changes its stream alone. -/
theorem streams_detect (as : ActiveStream) (call : DetectorCall) :
    (s.detect platform as call).streams
      = s.streams.map fun other => if other.id = as.id then as.detect platform call else other := by
  rw [detect, streams_promptStreamCallbacks]
  rfl

/-- The stream an answer is handed to. -/
theorem firstStream_spec {as : ActiveStream}
    (h : s.firstStream ref StreamSetup.isReady = some as) :
    as ∈ s.streams ∧ as.isActive ref = true ∧ as.prompts.isSome = true := by
  have hfits := List.find?_some h
  rw [Bool.and_eq_true] at hfits
  exact ⟨List.mem_of_find?_eq_some h, hfits.1, as.isSome_prompts.trans hfits.2⟩

/-- A stream that shows a prompt has a detector, so there is a first stream with one. -/
theorem exists_firstStream {as : ActiveStream} {instanceId : CString} (hmem : as ∈ s.streams)
    (hactive : as.isActive ref = true) (hshows : as.shows instanceId = true) :
    ∃ first, s.firstStream ref StreamSetup.isReady = some first := by
  have hready : as.setup.isReady = true := by
    rw [← ActiveStream.isSome_prompts]
    rw [ActiveStream.shows, Option.any_eq_true] at hshows
    exact Option.isSome_iff_exists.mpr (hshows.imp fun _ h => h.1)
  rw [← Option.isSome_iff_exists, firstStream, List.find?_isSome]
  exact ⟨as, hmem, Bool.and_eq_true_iff.mpr ⟨hactive, hready⟩⟩

/-- Of the streams of the connection, none shows the prompt but the first that has a detector, and
that one shows it, or holds its id back already; or no stream has a detector. -/
def OwnerIsFirst (s : App) (ref : ConnectionRef) (instanceId : CString) : Prop :=
  ∀ first, s.firstStream ref StreamSetup.isReady = some first →
    (∀ as ∈ s.streams, as.isActive ref = true → as.shows instanceId = true → as.id = first.id)
      ∧ if first.shows instanceId then instanceId.isEmpty = false
        else instanceId.isEmpty = true ∨ first.suppressed = some (InstanceId.ofCString instanceId)

theorem streams_resolvePromptForRef {resolve : PromptResolveMessage} {first : ActiveStream}
    {instanceId : CString} (hfirst : s.firstStream ref StreamSetup.isReady = some first)
    (hid : resolve.instanceId = some instanceId) :
    (s.resolvePromptForRef platform ref resolve).streams
      = s.streams.map fun as =>
        if as.id = first.id then first.detect platform (.resolve instanceId) else as := by
  rw [resolvePromptForRef, hfirst, hid]
  exact streams_detect first _

/-- Two streams of a list without doubles that have one id are one. -/
theorem eq_of_id_eq (hdistinct : (s.streams.map (·.id)).Nodup) {as first : ActiveStream}
    (has : as ∈ s.streams) (hfirst : first ∈ s.streams) (hid : as.id = first.id) : as = first :=
  List.inj_on_of_nodup_map hdistinct has hfirst hid

/-- **Answers reach their owner, exactly.**  An answer takes its prompt off every detector of the
connection that shows it, touches no other connection and arms no detector that does not show it, if
and only if the prompt is shown by the first of the connection's detectors alone. -/
theorem resolve_reaches_owner_iff (platform : Platform) (s : App) (ref : ConnectionRef)
    (instanceId : CString) (decision keys : Option CString)
    (hdistinct : (s.streams.map (·.id)).Nodup) :
    List.Forall₂ (Routed ref instanceId) s.streams
        (s.resolvePromptForRef platform ref
          { instanceId := some instanceId, decision := decision, keys := keys }).streams
      ↔ s.OwnerIsFirst ref instanceId := by
  cases hfirst : s.firstStream ref StreamSetup.isReady with
  | none =>
    have hquiet : ∀ as ∈ s.streams, Routed ref instanceId as as := fun as has =>
      { resolved := fun hactive hshows => by
          obtain ⟨first, h⟩ := exists_firstStream has hactive hshows
          rw [hfirst] at h
          exact nomatch h
        others := fun _ => rfl
        unarmed := fun _ _ _ hid => hid }
    have hkept : (s.resolvePromptForRef platform ref
        { instanceId := some instanceId, decision := decision, keys := keys }).streams
          = s.streams := by
      rw [resolvePromptForRef, hfirst]
    rw [hkept, List.forall₂_same]
    refine ⟨fun _ first h => ?_, fun _ => hquiet⟩
    rw [hfirst] at h
    exact nomatch h
  | some first =>
    obtain ⟨hmem, hactive, hready⟩ := firstStream_spec hfirst
    have href : first.id.ref = ref := of_decide_eq_true (Bool.and_eq_true_iff.mp hactive).2
    rw [streams_resolvePromptForRef hfirst rfl, List.forall₂_map_right_iff, List.forall₂_same]
    constructor
    · intro hrouted first' hfirst'
      obtain rfl : first = first' := Option.some.inj (hfirst.symm.trans hfirst')
      refine ⟨fun as has hlive hshows => ?_, ?_⟩
      · by_contra hne
        have hself := hrouted as has
        rw [if_neg hne] at hself
        exact absurd hshows (ne_true_of_eq_false (Routed.self_iff.mp hself hlive))
      · have hcalled := hrouted first hmem
        rw [if_pos rfl] at hcalled
        exact (Routed.detect_iff platform href hactive hready).mp hcalled
    · intro howner as has
      obtain ⟨honly, hshown⟩ := howner first hfirst
      split_ifs with hid
      · obtain rfl := eq_of_id_eq hdistinct has hmem hid
        exact (Routed.detect_iff platform href hactive hready).mpr hshown
      · refine Routed.self_iff.mpr fun hlive => eq_false_of_ne_true fun hshows => ?_
        exact hid (honly as has hlive hshows)

/-- A stream of connection 1 whose setup is complete. -/
def readyStream (serial : ℕ) (detector : PromptDetector) : ActiveStream where
  id := { ref := 1, serial := serial }
  listed := true
  closing := false
  closeStarted := false
  sessionName := .ofString "dev"
  setup := .ready { cols := 8, rows := 3 } { cols := 8, rows := 3 } detector

/-- A detector that shows the menu. -/
def shownMenu : PromptDetector :=
  (menuDetector.feed (fun _ => none) buildInstanceId "Pick\r\n1. a1b\r\n2. c".toUTF8.data.toList).1

/-- The answer to the menu. -/
def menuAnswer : PromptResolveMessage where
  instanceId := some (buildInstanceId firstLongMenu).text
  decision := some (.ofString "dismiss")
  keys := none

theorem resolve_reaches_owner_iff_menu :
    List.Forall₂ (Routed 1 (buildInstanceId firstLongMenu).text) [readyStream 0 shownMenu]
      ({ App.init with streams := [readyStream 0 shownMenu] }.resolvePromptForRef plainPlatform 1
        menuAnswer).streams := by
  refine (resolve_reaches_owner_iff plainPlatform
    { App.init with streams := [readyStream 0 shownMenu] } 1 _ _ none (by decide)).mpr ?_
  intro first hfirst
  obtain rfl : readyStream 0 shownMenu = first := Option.some.inj hfirst
  refine ⟨fun as has _ _ => ?_, by decide +kernel⟩
  rw [List.mem_singleton.mp has]

/-- **An answer that misses.**  A client opens a second stream on its connection; the menu that the
first stream's detector shows is answered, and the answer goes to the second stream's. -/
theorem answer_misses_owner :
    ¬ List.Forall₂ (Routed 1 (buildInstanceId firstLongMenu).text)
      [readyStream 1 menuDetector, readyStream 0 shownMenu]
      ({ App.init with streams := [readyStream 1 menuDetector, readyStream 0 shownMenu]
          }.resolvePromptForRef plainPlatform 1 menuAnswer).streams := by
  have hfirst : ({ App.init with streams := [readyStream 1 menuDetector, readyStream 0 shownMenu]
      } : App).firstStream 1 StreamSetup.isReady = some (readyStream 1 menuDetector) := rfl
  rw [streams_resolvePromptForRef hfirst rfl, List.map_cons, List.map_cons]
  intro h
  obtain ⟨-, hrest⟩ := List.forall₂_cons.mp h
  obtain ⟨hmenu, -⟩ := List.forall₂_cons.mp hrest
  have hshows : (readyStream 0 shownMenu).shows (buildInstanceId firstLongMenu).text = true := by
    decide +kernel
  rw [if_neg (by decide)] at hmenu
  exact absurd hshows (ne_true_of_eq_false (Routed.self_iff.mp hmenu rfl))

end App

end TmuxRemote
