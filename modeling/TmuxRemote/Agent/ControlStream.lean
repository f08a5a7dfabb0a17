import Mathlib.Data.List.Nodup
import TmuxRemote.Library.Guarded
import TmuxRemote.Prompt.Detector

/-!
# Agent/ControlStream — how clients learn the active prompt (`tmuxremote_control_stream.c`)

One connection: the detector of its data stream, its control streams, and the monitor thread.  A
detector call sends its events to every listed control stream at once.  A control stream that joins
later is brought up to date by the monitor, in three steps that others may come between: clear
`needsPromptSync`, copy the active prompt, send it as a `present`.

A client folds what it is sent into its view.  Synchronised views agree with the detector exactly as
long as every prompt the monitor sends is still the active one when it is sent
(`views_converge_iff`); a prompt that goes between copy and send is shown to the client for good
(`stale_present`).

Sends succeed and no control stream closes.  A connection opens at most `MAX_CONTROL_STREAMS`
control streams (the clients of this repository open one), so the caps of the snapshot loops are not
reached.
-/

namespace TmuxRemote

/-- `MAX_CONTROL_STREAMS` -/
def maxControlStreams : ℕ := 16

/-! ## The client -/

/-- A message on a client's view: present sets, update replaces the same id, gone clears it. -/
def applyEvent (view : Option PromptInstance) : PromptEvent → Option PromptInstance
  | .present inst => some inst
  | .update inst => if view.any (·.instanceId = inst.instanceId) then some inst else view
  | .gone id => if view.any (·.instanceId = id) then none else view

/-- The view after the messages. -/
def clientView (delivered : List PromptEvent) : Option PromptInstance :=
  delivered.foldl applyEvent none

/-! ## The agent -/

/-- `tmuxremote_active_control_stream`, with the prompt messages sent on it. -/
structure ControlStream where
  needsPromptSync : Bool
  delivered : List PromptEvent

/-- `send_to_stream` -/
def ControlStream.send (cs : ControlStream) (events : List PromptEvent) : ControlStream :=
  { cs with delivered := cs.delivered ++ events }

/-- Where the monitor stands in its prompt sync: control streams are named by the order in which
they were listed. -/
inductive MonitorPhase
  | idle
  /-- The flags are cleared; the prompt for `stream` is to be copied. -/
  | copying (stream : ℕ) (rest : List ℕ)
  /-- `active` has been copied and is to be sent on `stream`. -/
  | sending (active : Option PromptInstance) (stream : ℕ) (rest : List ℕ)

namespace MonitorPhase

/-- On to the next control stream of the snapshot. -/
def next : List ℕ → MonitorPhase
  | [] => idle
  | stream :: rest => copying stream rest

/-- The control streams between clearing the flag and sending. -/
def pending : MonitorPhase → List ℕ
  | idle => []
  | copying stream rest => stream :: rest
  | sending _ stream rest => stream :: rest

@[simp] theorem pending_next (streams : List ℕ) : (next streams).pending = streams := by
  cases streams <;> rfl

end MonitorPhase

/-- One connection of the agent. -/
structure PromptSync where
  detector : PromptDetector
  streams : List ControlStream
  monitor : MonitorPhase

/-- A step of one of the threads. -/
inductive SyncAction
  /-- A feed by the PTY reader, or a resolve or resize. -/
  | detect (call : DetectorCall)
  /-- `stream_accepted` -/
  | openControlStream
  /-- The monitor collects the flagged streams and clears their flags. -/
  | clearFlags
  /-- `tmuxremote_stream_copy_active_prompt_for_ref` -/
  | copyActive
  /-- `send_to_stream` of the encoded copy, if there is one. -/
  | sendPresent

namespace PromptSync

/-- No control stream yet. -/
def init (detector : PromptDetector) : PromptSync :=
  { detector := detector, streams := [], monitor := .idle }

/-- The control streams whose flag is set, the one listed last first. -/
def flagged (s : PromptSync) : List ℕ :=
  (List.range s.streams.length).reverse.filter fun i =>
    s.streams[i]?.any ControlStream.needsPromptSync

/-- The message of one prompt sync. -/
def syncMessage : Option PromptInstance → List PromptEvent
  | none => []
  | some active => [.present active]

section

variable (compile : RegexCompiler) (ids : IdScheme)

/-- One step; `none` when the thread is not there. -/
def step (s : PromptSync) : SyncAction → Option PromptSync
  | .detect call =>
    match s.detector.step compile ids call with
    | (detector, events) =>
      some { s with detector := detector, streams := s.streams.map (·.send events) }
  | .openControlStream =>
    if s.streams.length < maxControlStreams then
      some { s with streams := s.streams ++ [{ needsPromptSync := true, delivered := [] }] }
    else none
  | .clearFlags =>
    match s.monitor with
    | .idle =>
      some { s with
        streams := s.streams.map fun cs => { cs with needsPromptSync := false }
        monitor := .next s.flagged }
    | _ => none
  | .copyActive =>
    match s.monitor with
    | .copying stream rest => some { s with monitor := .sending s.detector.copyActive stream rest }
    | _ => none
  | .sendPresent =>
    match s.monitor with
    | .sending active stream rest =>
      some { s with
        streams := s.streams.modify stream (·.send (syncMessage active))
        monitor := .next rest }
    | _ => none

end

/-- Every control stream that is synchronised, and not between clearing the flag and sending, has
shown its client exactly the active prompt. -/
def Converged (s : PromptSync) : Prop :=
  ∀ i cs, s.streams[i]? = some cs → cs.needsPromptSync = false → i ∉ s.monitor.pending →
    clientView cs.delivered = s.detector.copyActive

/-- A prompt that is being sent is still the active one. -/
def SendsCurrent (s : PromptSync) : SyncAction → Prop
  | .sendPresent => ∀ active stream rest, s.monitor = .sending (some active) stream rest →
      s.detector.copyActive = some active
  | _ => True

end PromptSync

/-! ## A detector call on a view -/

/-- A client that has heard some events goes on from what it sees. -/
theorem clientView_append (xs ys : List PromptEvent) :
    clientView (xs ++ ys) = ys.foldl applyEvent (clientView xs) := List.foldl_append

@[simp] theorem applyEvent_gone_same (inst : PromptInstance) :
    applyEvent (some inst) (.gone inst.instanceId) = none := by simp [applyEvent]

/-- What a call does to the two views it may find: the one that shows the active prompt comes to
show the new one, and the empty one stays empty or comes to show it too. -/
def Tracks (shown : Option PromptInstance) (events : List PromptEvent)
    (shown' : Option PromptInstance) : Prop :=
  events.foldl applyEvent shown = shown'
    ∧ (events.foldl applyEvent none = none ∨ events.foldl applyEvent none = shown')

namespace PromptPhase

/-- A snapshot without the prompt: `gone` is reported exactly when the phase is left. -/
theorem absent_tracks (p : PromptPhase) (isHeld : Bool) :
    Tracks p.shown (p.absent isHeld).2 (p.absent isHeld).1.shown := by
  rcases hshown : p.shown with - | active
  · rw [absent_idle hshown]
    exact ⟨hshown.symm, Or.inl rfl⟩
  · by_cases hlt : p.absences + 1 < promptAbsenceSnapshots
    · rw [absent_wait hshown hlt]
      exact ⟨hshown.symm, Or.inl rfl⟩
    · rw [absent_gone hshown hlt]
      exact ⟨applyEvent_gone_same active, Or.inl rfl⟩

/-- A prompt that is sighted: whoever saw the one before sees this one. -/
theorem sighted_tracks (p : PromptPhase) (inst : PromptInstance) :
    Tracks p.shown (p.sighted inst).2 (p.sighted inst).1.shown := by
  rcases hshown : p.shown with - | active
  · rw [sighted_idle hshown]
    exact ⟨rfl, Or.inr rfl⟩
  · by_cases hid : active.instanceId = inst.instanceId
    · rcases hsem : active.sameSemantics inst with - | -
      · rw [sighted_changed hshown hid hsem]
        refine ⟨?_, Or.inl rfl⟩
        simp [applyEvent, hid]
      · rw [sighted_same hshown hid hsem]
        exact ⟨rfl, Or.inl rfl⟩
    · rw [sighted_other hshown hid]
      exact ⟨rfl, Or.inr rfl⟩

theorem look_tracks (p : PromptPhase) (ids : IdScheme) (candidate : Option PromptCandidate) :
    Tracks p.shown (p.look ids candidate).2 (p.look ids candidate).1.shown := by
  rcases candidate with - | c
  · exact p.absent_tracks false
  · rw [look, Option.map_some]
    by_cases hheld : p.held = some (candidateToInstanceWithId ids c).instanceId
    · rw [observe_held hheld]
      exact p.absent_tracks true
    · rw [observe_new hheld]
      exact p.sighted_tracks _

/-- An answer: `gone` is reported if it was for the prompt on show. -/
theorem answered_tracks (p : PromptPhase) (instanceId : CString) :
    Tracks p.shown (p.answered instanceId).2 (p.answered instanceId).1.shown := by
  rcases hempty : instanceId.isEmpty with - | -
  · by_cases hid : ∃ active, p.shown = some active ∧ active.instanceId.text = instanceId
    · obtain ⟨active, hshown, hid⟩ := hid
      rw [answered_shown hempty hshown hid, hshown]
      exact ⟨applyEvent_gone_same active, Or.inl rfl⟩
    · rw [answered_other hempty fun active hshown hsame => hid ⟨active, hshown, hsame⟩]
      exact ⟨rfl, Or.inl rfl⟩
  · rw [answered_empty hempty]
    exact ⟨rfl, Or.inl rfl⟩

end PromptPhase

theorem PromptDetector.copyActive_eq (d : PromptDetector) :
    d.copyActive = d.lifecycle.phase.shown := by
  rw [copyActive, PromptLifecycle.copyActive,
    show PromptInstance.copy = id from funext PromptInstance.copy_eq, Option.map_id]
  rfl

/-- **A detector call carries a view along.** -/
theorem PromptDetector.step_tracks (compile : RegexCompiler) (ids : IdScheme) (d : PromptDetector)
    (call : DetectorCall) :
    Tracks d.copyActive (d.step compile ids call).2 (d.step compile ids call).1.copyActive := by
  rw [copyActive_eq, copyActive_eq]
  rcases call with data | ⟨rows, cols⟩ | instanceId
  · by_cases hdata : data = []
    · rw [step, feed, if_pos (List.isEmpty_iff.mpr hdata)]
      exact ⟨rfl, Or.inl rfl⟩
    · have hphase := d.feed_refines compile ids hdata
      have htracks := d.lifecycle.phase.look_tracks ids (d.sight compile data)
      rw [← hphase] at htracks
      exact htracks
  · exact ⟨rfl, Or.inl rfl⟩
  · have hphase := d.lifecycle.resolve_refines instanceId
    have htracks := d.lifecycle.phase.answered_tracks instanceId
    rw [← hphase] at htracks
    exact htracks

/-! ## The invariant -/

namespace PromptSync

/-- What holds as long as every prompt that is sent is the active one. -/
structure Synced (s : PromptSync) : Prop where
  nodup : s.monitor.pending.Nodup
  cleared : ∀ i ∈ s.monitor.pending, ∃ cs, s.streams[i]? = some cs ∧ cs.needsPromptSync = false
  /-- A view that is not up to date yet is empty. -/
  partly : ∀ (i : ℕ) (cs : ControlStream), s.streams[i]? = some cs →
    clientView cs.delivered = none ∨ clientView cs.delivered = s.detector.copyActive
  converged : s.Converged
  /-- If there was no prompt to copy, the events since have kept the view up to date. -/
  emptyCopy : ∀ i rest cs, s.monitor = .sending none i rest → s.streams[i]? = some cs →
    clientView cs.delivered = s.detector.copyActive

theorem synced_init (detector : PromptDetector) : (init detector).Synced where
  nodup := List.nodup_nil
  cleared := fun i hi => absurd hi List.not_mem_nil
  partly := fun i cs hi => by simp [init] at hi
  converged := fun i cs hi => by simp [init] at hi
  emptyCopy := fun i rest cs h => MonitorPhase.noConfusion h

variable {compile : RegexCompiler} {ids : IdScheme} {s : PromptSync}

/-- **The detector reports** to every control stream that is listed, so those that agreed agree
again. -/
theorem Synced.detect (h : s.Synced) (call : DetectorCall) :
    ({ s with
        detector := (s.detector.step compile ids call).1
        streams := s.streams.map (·.send (s.detector.step compile ids call).2) } :
      PromptSync).Synced := by
  obtain ⟨hfull, hempty⟩ := s.detector.step_tracks compile ids call
  have hview {cs : ControlStream} (events : List PromptEvent) :
      clientView (cs.send events).delivered = events.foldl applyEvent (clientView cs.delivered) :=
    clientView_append cs.delivered events
  have hold {i : ℕ} {cs' : ControlStream}
      (hi : (s.streams.map (·.send (s.detector.step compile ids call).2))[i]? = some cs') :
      ∃ cs, s.streams[i]? = some cs ∧ cs.send (s.detector.step compile ids call).2 = cs' := by
    rwa [List.getElem?_map, Option.map_eq_some_iff] at hi
  refine ⟨h.nodup, ?_, ?_, ?_, ?_⟩
  · intro i hi
    obtain ⟨cs, hcs, hflag⟩ := h.cleared i hi
    refine ⟨cs.send (s.detector.step compile ids call).2, ?_, hflag⟩
    rw [List.getElem?_map, hcs, Option.map_some]
  · intro i cs' hi
    obtain ⟨cs, hcs, rfl⟩ := hold hi
    rw [hview]
    rcases h.partly i cs hcs with hnone | hsome
    · rw [hnone]
      exact hempty
    · rw [hsome]
      exact Or.inr hfull
  · intro i cs' hi hflag hpending
    obtain ⟨cs, hcs, rfl⟩ := hold hi
    rw [hview, h.converged i cs hcs hflag hpending]
    exact hfull
  · intro i rest cs' hsending hi
    obtain ⟨cs, hcs, rfl⟩ := hold hi
    rw [hview, h.emptyCopy i rest cs hsending hcs]
    exact hfull

/-- A new control stream has its flag set: it agrees once it has been sent something. -/
theorem Synced.openControlStream (h : s.Synced) :
    ({ s with streams := s.streams ++ [{ needsPromptSync := true, delivered := [] }] } :
      PromptSync).Synced := by
  have hold {i : ℕ} {cs : ControlStream}
      (hi : (s.streams ++ [({ needsPromptSync := true, delivered := [] } : ControlStream)])[i]?
        = some cs) :
      s.streams[i]? = some cs ∨ cs = { needsPromptSync := true, delivered := [] } := by
    rcases Nat.lt_or_ge i s.streams.length with hlt | hge
    · rw [List.getElem?_append_left hlt] at hi
      exact Or.inl hi
    · rw [List.getElem?_append_right hge] at hi
      exact Or.inr (List.mem_singleton.mp (List.mem_of_getElem? hi))
  refine ⟨h.nodup, ?_, ?_, ?_, ?_⟩
  · intro i hi
    obtain ⟨cs, hcs, hflag⟩ := h.cleared i hi
    exact ⟨cs, (List.getElem?_append_left (List.getElem?_eq_some_iff.mp hcs).1).trans hcs, hflag⟩
  · intro i cs hi
    rcases hold hi with hcs | rfl
    · exact h.partly i cs hcs
    · exact Or.inl rfl
  · intro i cs hi hflag hpending
    rcases hold hi with hcs | rfl
    · exact h.converged i cs hcs hflag hpending
    · exact absurd hflag (by simp)
  · intro i rest cs hsending hi
    have hpending : i ∈ s.monitor.pending := by
      rw [show s.monitor = .sending none i rest from hsending]
      exact List.mem_cons_self
    obtain ⟨listed, hlisted, -⟩ := h.cleared i hpending
    rw [List.getElem?_append_left (List.getElem?_eq_some_iff.mp hlisted).1] at hi
    exact h.emptyCopy i rest cs hsending hi

/-- The monitor takes down the streams whose flag is set. -/
theorem mem_flagged {i : ℕ} {cs : ControlStream} (hcs : s.streams[i]? = some cs) :
    i ∈ s.flagged ↔ cs.needsPromptSync = true := by
  have hlt : i < s.streams.length := (List.getElem?_eq_some_iff.mp hcs).1
  rw [flagged, List.mem_filter, List.mem_reverse, List.mem_range, hcs, Option.any_some]
  exact and_iff_right hlt

/-- The flags are taken back, and the streams that had one are pending. -/
theorem Synced.clearFlags (h : s.Synced) (hidle : s.monitor = .idle) :
    ({ s with
        streams := s.streams.map fun cs => { cs with needsPromptSync := false }
        monitor := .next s.flagged } : PromptSync).Synced := by
  have hold {i : ℕ} {cs' : ControlStream}
      (hi : (s.streams.map fun cs => ({ cs with needsPromptSync := false } : ControlStream))[i]?
        = some cs') :
      ∃ cs, s.streams[i]? = some cs
        ∧ ({ cs with needsPromptSync := false } : ControlStream) = cs' := by
    rwa [List.getElem?_map, Option.map_eq_some_iff] at hi
  refine ⟨?_, ?_, ?_, ?_, ?_⟩
  · rw [MonitorPhase.pending_next]
    exact List.Nodup.filter _ (List.nodup_reverse.mpr List.nodup_range)
  · intro i hi
    rw [MonitorPhase.pending_next, flagged, List.mem_filter, List.mem_reverse, List.mem_range] at hi
    refine ⟨{ s.streams[i] with needsPromptSync := false }, ?_, rfl⟩
    rw [List.getElem?_map, List.getElem?_eq_getElem hi.1, Option.map_some]
  · intro i cs' hi
    obtain ⟨cs, hcs, rfl⟩ := hold hi
    exact h.partly i cs hcs
  · intro i cs' hi _ hpending
    obtain ⟨cs, hcs, rfl⟩ := hold hi
    rw [MonitorPhase.pending_next, mem_flagged hcs] at hpending
    refine h.converged i cs hcs (Bool.eq_false_iff.mpr hpending) ?_
    rw [hidle]
    exact List.not_mem_nil
  · intro i rest cs hsending
    rcases hflagged : s.flagged with - | ⟨j, js⟩
    · simp [hflagged, MonitorPhase.next] at hsending
    · simp [hflagged, MonitorPhase.next] at hsending

theorem Synced.copyActive {stream : ℕ} {rest : List ℕ} (h : s.Synced)
    (hcopying : s.monitor = .copying stream rest) :
    ({ s with monitor := .sending s.detector.copyActive stream rest } : PromptSync).Synced := by
  have hpending : (MonitorPhase.sending s.detector.copyActive stream rest).pending
      = s.monitor.pending := by rw [hcopying]; rfl
  refine ⟨?_, ?_, h.partly, ?_, ?_⟩
  · rw [hpending]
    exact h.nodup
  · rw [hpending]
    exact h.cleared
  · intro i cs hi hflag hnot
    rw [hpending] at hnot
    exact h.converged i cs hi hflag hnot
  · intro i rest' cs hsending hi
    injection hsending with hnone
    rcases h.partly i cs hi with hview | hview
    · exact hview.trans hnone.symm
    · exact hview

/-- A control stream's view after its prompt sync. -/
theorem view_syncMessage (cs : ControlStream) (active : Option PromptInstance) :
    clientView (cs.send (syncMessage active)).delivered
      = match active with
        | none => clientView cs.delivered
        | some inst => some inst := by
  rcases active with - | inst
  · exact congrArg clientView (List.append_nil _)
  · exact clientView_append _ _

/-- **The monitor sends** what it has copied; the stream agrees if that is still the active prompt.
-/
theorem Synced.sendPresent {active : Option PromptInstance} {stream : ℕ} {rest : List ℕ}
    (h : s.Synced) (hsending : s.monitor = .sending active stream rest)
    (hcurrent : s.SendsCurrent .sendPresent) :
    ({ s with
        streams := s.streams.modify stream (·.send (syncMessage active))
        monitor := .next rest } : PromptSync).Synced := by
  have hpending : s.monitor.pending = stream :: rest := by rw [hsending]; rfl
  have hnodup := h.nodup
  rw [hpending, List.nodup_cons] at hnodup
  have hold {i : ℕ} {cs' : ControlStream}
      (hi : (s.streams.modify stream (·.send (syncMessage active)))[i]? = some cs') :
      ∃ cs, s.streams[i]? = some cs
        ∧ (if stream = i then cs.send (syncMessage active) else cs) = cs' := by
    rwa [List.getElem?_modify, Option.map_eq_map, Option.map_eq_some_iff] at hi
  -- the control stream that is sent to shows the active prompt afterwards
  have hsent {cs : ControlStream} (hcs : s.streams[stream]? = some cs) :
      clientView (cs.send (syncMessage active)).delivered = s.detector.copyActive := by
    rw [view_syncMessage]
    rcases active with - | inst
    · exact h.emptyCopy stream rest cs hsending hcs
    · exact (hcurrent inst stream rest hsending).symm
  refine ⟨?_, ?_, ?_, ?_, ?_⟩
  · rw [MonitorPhase.pending_next]
    exact hnodup.2
  · intro i hi
    rw [MonitorPhase.pending_next] at hi
    have hne : stream ≠ i := fun heq => hnodup.1 (heq ▸ hi)
    obtain ⟨cs, hcs, hflag⟩ := h.cleared i (hpending ▸ List.mem_cons_of_mem _ hi)
    refine ⟨cs, ?_, hflag⟩
    rw [List.getElem?_modify, hcs, Option.map_eq_map, Option.map_some, if_neg hne]
  · intro i cs' hi
    obtain ⟨cs, hcs, rfl⟩ := hold hi
    by_cases heq : stream = i
    · rw [if_pos heq]
      exact Or.inr (hsent (heq ▸ hcs))
    · rw [if_neg heq]
      exact h.partly i cs hcs
  · intro i cs' hi hflag hnot
    obtain ⟨cs, hcs, rfl⟩ := hold hi
    rw [MonitorPhase.pending_next] at hnot
    by_cases heq : stream = i
    · rw [if_pos heq]
      exact hsent (heq ▸ hcs)
    · rw [if_neg heq] at hflag ⊢
      refine h.converged i cs hcs hflag ?_
      rw [hpending, List.mem_cons]
      rintro (hi' | hi')
      · exact heq hi'.symm
      · exact hnot hi'
  · intro i rest' cs hnext
    rcases rest with - | ⟨j, js⟩
    · exact MonitorPhase.noConfusion hnext
    · exact MonitorPhase.noConfusion hnext

/-! ## Runs -/

/-- A step that sends nothing stale keeps the invariant. -/
theorem Synced.step {action : SyncAction} {s' : PromptSync} (h : s.Synced)
    (hcurrent : s.SendsCurrent action) (hstep : s.step compile ids action = some s') :
    s'.Synced := by
  cases action with
  | detect call =>
    rw [← Option.some.inj hstep]
    exact h.detect call
  | openControlStream =>
    rw [PromptSync.step] at hstep
    split at hstep
    · rw [← Option.some.inj hstep]
      exact h.openControlStream
    · exact absurd hstep (by simp)
  | clearFlags =>
    rw [PromptSync.step] at hstep
    split at hstep
    · rw [← Option.some.inj hstep]
      exact h.clearFlags ‹_›
    · exact absurd hstep (by simp)
  | copyActive =>
    rw [PromptSync.step] at hstep
    split at hstep
    · rw [← Option.some.inj hstep]
      exact h.copyActive ‹_›
    · exact absurd hstep (by simp)
  | sendPresent =>
    rw [PromptSync.step] at hstep
    split at hstep
    · rw [← Option.some.inj hstep]
      exact h.sendPresent ‹_› hcurrent
    · exact absurd hstep (by simp)

/-- A step that sends a prompt that is no longer active leaves its client showing it. -/
theorem Synced.not_converged {action : SyncAction} {s' : PromptSync} (h : s.Synced)
    (hstale : ¬ s.SendsCurrent action) (hstep : s.step compile ids action = some s') :
    ¬ s'.Converged := by
  cases action with
  | sendPresent =>
    rw [SendsCurrent] at hstale
    push Not at hstale
    obtain ⟨active, stream, rest, hsending, hne⟩ := hstale
    have hpending : s.monitor.pending = stream :: rest := by rw [hsending]; rfl
    have hnodup := h.nodup
    rw [hpending, List.nodup_cons] at hnodup
    obtain ⟨cs, hcs, hflag⟩ := h.cleared stream (hpending ▸ List.mem_cons_self)
    simp only [PromptSync.step, hsending, Option.some.injEq] at hstep
    subst hstep
    intro hconverged
    have hshown := hconverged stream (cs.send (syncMessage (some active)))
      (by rw [List.getElem?_modify, hcs, Option.map_eq_map, Option.map_some, if_pos rfl]) hflag
      (by rw [MonitorPhase.pending_next]; exact hnodup.1)
    rw [view_syncMessage] at hshown
    exact hne hshown.symm
  | _ => exact absurd trivial hstale

end PromptSync

open PromptSync in
/-- **The clients' views converge, exactly.**  In every run of the threads, every synchronised
client shows exactly the active prompt in every state if and only if every prompt the monitor sends
is still the active one when it is sent. -/
theorem views_converge_iff (compile : RegexCompiler) (ids : IdScheme) (ruleset : PromptRuleset)
    (rows cols : ℤ) (actions : List SyncAction) (s : PromptSync)
    (hrun : Guarded.run (step compile ids)
      (.init ((PromptDetector.init rows cols).loadRules ruleset))
      actions = some s) :
    Guarded.Throughout (step compile ids) Converged
        (.init ((PromptDetector.init rows cols).loadRules ruleset)) actions
      ↔ Guarded.AllSteps (step compile ids) SendsCurrent
        (.init ((PromptDetector.init rows cols).loadRules ruleset)) actions :=
  Guarded.throughout_iff_allSteps (fun _ h => h.converged) (fun _ _ _ h => h.step)
    (fun _ _ _ h => h.not_converged) (synced_init _) hrun

/-- A fresh detector on a 3 by 8 screen, with the rule for menus. -/
def menuDetector : PromptDetector := (PromptDetector.init 3 8).loadRules [menuRule]

/-- A menu comes up, a client joins and is brought up to date. -/
def joinActions : List SyncAction :=
  [.detect (.feed "Pick\r\n1. a1b\r\n2. c".toUTF8.data.toList), .openControlStream, .clearFlags,
    .copyActive, .sendPresent]

open PromptSync in
theorem views_converge_iff_join :
    Guarded.Throughout (step (fun _ => none) buildInstanceId) Converged
      (.init menuDetector) joinActions
      ↔ Guarded.AllSteps (step (fun _ => none) buildInstanceId) SendsCurrent (.init menuDetector)
        joinActions := by
  have hsome : (Guarded.run (step (fun _ => none) buildInstanceId) (.init menuDetector)
      joinActions).isSome = true := by decide +kernel
  obtain ⟨s, hs⟩ := Option.isSome_iff_exists.mp hsome
  exact views_converge_iff (fun _ => none) buildInstanceId [menuRule] 3 8 joinActions s hs

/-- The same, but the menu is resolved between copy and send. -/
def resolveBetweenActions : List SyncAction :=
  [.detect (.feed "Pick\r\n1. a1b\r\n2. c".toUTF8.data.toList), .openControlStream, .clearFlags,
    .copyActive, .detect (.resolve (buildInstanceId firstLongMenu).text), .sendPresent]

open PromptSync in
/-- **A stale prompt.**  A menu comes up, a client joins, and between copy and send the menu is
resolved: the client sees its `gone` first and its `present` after, and keeps showing it. -/
theorem stale_present :
    ∃ s, Guarded.run (step (fun _ => none) buildInstanceId) (.init menuDetector)
        resolveBetweenActions = some s
      ∧ s.monitor.pending = [] ∧ ¬ s.Converged := by
  have hsome : (Guarded.run (step (fun _ => none) buildInstanceId) (.init menuDetector)
      resolveBetweenActions).map
      (fun s => (s.monitor.pending, s.detector.copyActive,
        s.streams.map fun cs => (cs.needsPromptSync, clientView cs.delivered)))
      = some ([], none,
        [(false,
          some ((candidateToInstanceWithId buildInstanceId firstLongMenu).withRevision 1))]) := by
    decide +kernel
  obtain ⟨s, hs, hend⟩ := Option.map_eq_some_iff.mp hsome
  rw [Prod.mk.injEq, Prod.mk.injEq] at hend
  obtain ⟨hpending, hactive, hstreams⟩ := hend
  refine ⟨s, hs, hpending, fun hconverged => ?_⟩
  obtain ⟨cs, hcs, hview⟩ : ∃ cs, s.streams[0]? = some cs
      ∧ (cs.needsPromptSync, clientView cs.delivered)
        = (false,
          some ((candidateToInstanceWithId buildInstanceId firstLongMenu).withRevision 1)) := by
    have hhead := congrArg (fun l => l[0]?) hstreams
    rw [List.getElem?_map] at hhead
    exact Option.map_eq_some_iff.mp hhead
  rw [Prod.mk.injEq] at hview
  have hshown := hconverged 0 cs hcs hview.1 (by rw [hpending]; exact List.not_mem_nil)
  rw [hview.2, hactive] at hshown
  exact Option.some_ne_none _ hshown

end TmuxRemote
