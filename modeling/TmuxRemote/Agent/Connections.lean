import TmuxRemote.Agent.Requests
import TmuxRemote.Library.Guarded

/-!
# Agent/Connections — connections, their attaches and their data streams

The session map over whole runs: connections open and close, attach to sessions, and open data
streams (`tmuxremote_stream.c`), whose accept reads the map and whose cleanup removes the entry of
their connection.  Cleanup runs some time after the close was started, and other steps come between.

* The entry of an attach reaches the next accept on its connection exactly when no stream of that
  connection is cleaned up before (`attach_survives_iff`).
* An entry goes with the cleanup of a stream and not with its connection.  As long as whatever
  leaves an entry behind is cleaned up in time, eight connections are always served
  (`eight_connections_served`); a connection that closes without a data stream leaves its entry for
  good (`leaked_slots`).

Memory and threads do not run out.  Resizes are left out: they change no entry's session.
-/

namespace TmuxRemote

/-- Where a data stream stands. -/
inductive DataStreamPhase
  /-- `stream_callback` has listed it and its accept is pending. -/
  | opening
  /-- `stream_accepted` has found the target and started the setup thread. -/
  | running (target : SessionEntry)
  /-- `start_stream_close` -/
  | closing
  /-- `cleanup_active_stream` -/
  | cleaned
  deriving DecidableEq

/-- `tmuxremote_active_stream` -/
structure DataStream where
  connectionRef : ConnectionRef
  phase : DataStreamPhase
  deriving DecidableEq

/-- How an accept ends: with an error, refused by the access check, or accepted. -/
inductive AcceptResult
  | failed
  | denied
  | accepted

/-- The agent's connections; data streams are named by the order in which they came. -/
structure Connections where
  /-- Every reference that has been given out. -/
  opened : List ConnectionRef
  openRefs : List ConnectionRef
  sessionMap : SessionMap
  streams : List DataStream

/-- A step of a client or of the agent. -/
inductive ConnectionAction
  | openConnection (ref : ConnectionRef)
  | closeConnection (ref : ConnectionRef)
  /-- The attach handler takes a request from its queue. -/
  | attach (ref : ConnectionRef) (request : CoapRequest) (tmux : TmuxReplies)
  /-- `stream_callback` -/
  | newStream (ref : ConnectionRef)
  /-- `stream_accepted` -/
  | streamAccepted (i : ℕ) (result : AcceptResult)
  /-- `start_stream_close_once`, by one of the stream's threads. -/
  | startClose (i : ℕ)
  /-- `stream_closed` -/
  | streamClosed (i : ℕ)

namespace Connections

/-- No connection yet. -/
def init : Connections := { opened := [], openRefs := [], sessionMap := .init, streams := [] }

/-- Stream `i` moves on. -/
def setPhase (s : Connections) (i : ℕ) (stream : DataStream) (phase : DataStreamPhase) :
    Connections :=
  { s with streams := s.streams.set i { stream with phase := phase } }

/-- `cleanup_active_stream`: the map entry of the stream's connection is removed. -/
def cleanup (s : Connections) (i : ℕ) (stream : DataStream) : Connections :=
  { s.setPhase i stream .cleaned with sessionMap := s.sessionMap.remove stream.connectionRef }

/-- `stream_accepted`, once access is granted: the target is copied from the map. -/
def accept (s : Connections) (i : ℕ) (stream : DataStream) : Connections :=
  match s.sessionMap.get stream.connectionRef with
  | none => s.setPhase i stream .closing
  | some entry => s.setPhase i stream (.running entry)

/-- One step; `none` when it cannot be taken. -/
def step (s : Connections) : ConnectionAction → Option Connections
  | .openConnection ref =>
    if ref ∈ s.opened then none
    else some { s with opened := ref :: s.opened, openRefs := ref :: s.openRefs }
  | .closeConnection ref =>
    if ref ∈ s.openRefs then some { s with openRefs := s.openRefs.erase ref } else none
  | .attach ref request tmux =>
    if ref ∈ s.opened then
      some { s with sessionMap := (handleAttach s.sessionMap ref request tmux).2 }
    else none
  | .newStream ref =>
    if ref ∈ s.openRefs then
      some { s with streams := s.streams ++ [{ connectionRef := ref, phase := .opening }] }
    else none
  | .streamAccepted i result =>
    (s.streams[i]?.filter (·.phase = .opening)).map fun stream =>
      match result with
      | .failed => s.cleanup i stream
      | .denied => s.setPhase i stream .closing
      | .accepted => s.accept i stream
  | .startClose i =>
    (s.streams[i]?.filter fun stream => stream.phase matches .running _).map fun stream =>
      s.setPhase i stream .closing
  | .streamClosed i =>
    (s.streams[i]?.filter (·.phase = .closing)).map fun stream => s.cleanup i stream

end Connections

/-! ## The entry of one connection -/

namespace ConnectionAction

/-- The handling of an attach on the connection. -/
def attachesOn (ref : ConnectionRef) : ConnectionAction → Bool
  | attach other _ _ => other = ref
  | _ => false

/-- The cleanup of a data stream of the connection. -/
def cleansUp (s : Connections) (ref : ConnectionRef) : ConnectionAction → Bool
  | streamAccepted i .failed | streamClosed i => s.streams[i]?.any (·.connectionRef = ref)
  | _ => false

end ConnectionAction

namespace Connections

variable {s s' : Connections} {ref : ConnectionRef} {i : ℕ} {stream : DataStream}

@[simp] theorem sessionMap_setPhase (phase : DataStreamPhase) :
    (s.setPhase i stream phase).sessionMap = s.sessionMap := rfl

/-! What each step needs and does. -/

theorem step_openConnection (h : s.step (.openConnection ref) = some s') :
    s' = { s with opened := ref :: s.opened, openRefs := ref :: s.openRefs } := by
  rw [step] at h
  split_ifs at h
  exact (Option.some.inj h).symm

theorem step_closeConnection (h : s.step (.closeConnection ref) = some s') :
    s' = { s with openRefs := s.openRefs.erase ref } := by
  rw [step] at h
  split_ifs at h
  exact (Option.some.inj h).symm

theorem step_attach {request : CoapRequest} {tmux : TmuxReplies}
    (h : s.step (.attach ref request tmux) = some s') :
    s' = { s with sessionMap := (handleAttach s.sessionMap ref request tmux).2 } := by
  rw [step] at h
  split_ifs at h
  exact (Option.some.inj h).symm

theorem step_newStream (h : s.step (.newStream ref) = some s') :
    s' = { s with streams := s.streams ++ [{ connectionRef := ref, phase := .opening }] } := by
  rw [step] at h
  split_ifs at h
  exact (Option.some.inj h).symm

/-- A step of a stream finds it in its phase. -/
theorem exists_of_filter_map {p : DataStream → Bool} {f : DataStream → Connections}
    (h : (s.streams[i]?.filter p).map f = some s') :
    ∃ stream, s.streams[i]? = some stream ∧ p stream = true ∧ f stream = s' := by
  obtain ⟨stream, hfilter, hf⟩ := Option.map_eq_some_iff.mp h
  obtain ⟨hi, hp⟩ := Option.filter_eq_some_iff.mp hfilter
  exact ⟨stream, hi, hp, hf⟩

/-- **A stream's step**: it is cleaned up, or moves on to a phase of its own and leaves the map. -/
theorem step_stream {a : ConnectionAction}
    (ha : (∃ result, a = .streamAccepted i result) ∨ a = .startClose i ∨ a = .streamClosed i)
    (h : s.step a = some s') :
    ∃ stream, s.streams[i]? = some stream ∧
      (s' = s.cleanup i stream ∧ (∀ ref, a.cleansUp s ref = decide (stream.connectionRef = ref))
        ∨ ∃ phase, s' = s.setPhase i stream phase ∧ phase ≠ .cleaned
          ∧ ∀ ref, a.cleansUp s ref = false) := by
  rcases ha with ⟨result, rfl⟩ | rfl | rfl
  · obtain ⟨stream, hi, -, rfl⟩ := exists_of_filter_map h
    refine ⟨stream, hi, ?_⟩
    rcases result with - | - | -
    · exact Or.inl ⟨rfl, fun ref => by rw [ConnectionAction.cleansUp, hi, Option.any_some]⟩
    · exact Or.inr ⟨.closing, rfl, by decide, fun ref => rfl⟩
    · rcases hget : s.sessionMap.get stream.connectionRef with - | entry
      · exact Or.inr ⟨.closing, by simp only [accept, hget], by decide, fun ref => rfl⟩
      · exact Or.inr ⟨.running entry, by simp only [accept, hget], by simp, fun ref => rfl⟩
  · obtain ⟨stream, hi, -, rfl⟩ := exists_of_filter_map h
    exact ⟨stream, hi, Or.inr ⟨.closing, rfl, by decide, fun ref => rfl⟩⟩
  · obtain ⟨stream, hi, -, rfl⟩ := exists_of_filter_map h
    exact ⟨stream, hi,
      Or.inl ⟨rfl, fun ref => by rw [ConnectionAction.cleansUp, hi, Option.any_some]⟩⟩

theorem get_cleanup : (s.cleanup i stream).sessionMap.get ref
    = if stream.connectionRef = ref then none else s.sessionMap.get ref := by
  rw [cleanup]
  split_ifs with hcr
  · rw [hcr, SessionMap.get_remove_self]
  · exact SessionMap.get_remove_of_ne (Ne.symm hcr)

theorem get_step_stream {a : ConnectionAction}
    (ha : (∃ result, a = .streamAccepted i result) ∨ a = .startClose i ∨ a = .streamClosed i)
    (h : s.step a = some s') :
    s'.sessionMap.get ref = if a.cleansUp s ref then none else s.sessionMap.get ref := by
  obtain ⟨stream, -, ⟨rfl, hclean⟩ | ⟨phase, rfl, -, hclean⟩⟩ := step_stream ha h
  · rw [hclean, get_cleanup]
    simp
  · rw [hclean, sessionMap_setPhase, if_neg Bool.false_ne_true]

/-- **A step that is no attach on a connection** keeps its entry, unless it cleans up one of its
streams: then the entry goes. -/
theorem get_step {a : ConnectionAction} (hattach : a.attachesOn ref = false)
    (h : s.step a = some s') :
    s'.sessionMap.get ref = if a.cleansUp s ref then none else s.sessionMap.get ref := by
  rcases a with opening | closing | ⟨other, request, tmux⟩ | opening | ⟨i, result⟩ | i | i
  · rw [step_openConnection h]
    rfl
  · rw [step_closeConnection h]
    rfl
  · rw [step_attach h]
    have hne : ref ≠ other := fun hsame => by simp [ConnectionAction.attachesOn, hsame] at hattach
    exact get_handleAttach_of_ne hne
  · rw [step_newStream h]
    rfl
  · exact get_step_stream (Or.inl ⟨result, rfl⟩) h
  · exact get_step_stream (Or.inr (Or.inl rfl)) h
  · exact get_step_stream (Or.inr (Or.inr rfl)) h

end Connections

/-! ## An attach and the next accept -/

open Connections in
/-- The accept of a stream starts it on the entry of its connection. -/
theorem Connections.phase_accepted {s s' : Connections} {i : ℕ} {stream : DataStream}
    (hi : s'.streams[i]? = some stream) (h : s.step (.streamAccepted i .accepted) = some s')
    (target : SessionEntry) :
    stream.phase = .running target ↔ s.sessionMap.get stream.connectionRef = some target := by
  obtain ⟨old, hold, -, haccept⟩ := exists_of_filter_map h
  have hlt : i < s.streams.length := (List.getElem?_eq_some_iff.mp hold).1
  replace haccept : s.accept i old = s' := haccept
  rw [accept] at haccept
  split at haccept
  · next hget =>
    rw [← haccept, setPhase, List.getElem?_set_self hlt] at hi
    obtain rfl := Option.some.inj hi
    rw [hget]
    exact iff_of_false (by simp) (Option.some_ne_none target).symm
  · next entry hget =>
    rw [← haccept, setPhase, List.getElem?_set_self hlt] at hi
    obtain rfl := Option.some.inj hi
    rw [hget, DataStreamPhase.running.injEq, Option.some.injEq]

open Connections in
/-- **The entry of a connection over a run without an attach on it**: kept by cleaning up none of
its streams, and else gone. -/
theorem Connections.get_run {s t : Connections} {ref : ConnectionRef}
    {actions : List ConnectionAction}
    (hattach : ∀ a ∈ actions, a.attachesOn ref = false)
    (hrun : Guarded.run step s actions = some t) :
    Guarded.AllSteps step (fun s a => a.cleansUp s ref = false) s actions
        ∧ t.sessionMap.get ref = s.sessionMap.get ref
      ∨ ¬ Guarded.AllSteps step (fun s a => a.cleansUp s ref = false) s actions
        ∧ t.sessionMap.get ref = none := by
  refine Guarded.run_kept_or_dropped (fun s => s.sessionMap.get ref)
    (fun s a => a.cleansUp s ref = false) ?_ ?_ hrun
  · intro s a ha s' hkeep hstep
    rw [get_step (hattach a ha) hstep, hkeep, if_neg Bool.false_ne_true]
  · intro s a ha s' hclean hstep
    rw [get_step (hattach a ha) hstep, if_pos (Bool.not_eq_false _ ▸ hclean)]

open Connections in
/-- **An attach and the next accept.**  An attach is answered 201, no other is handled on the
connection, and a data stream of the connection is accepted: it starts on the session of the attach
exactly when no stream of the connection was cleaned up in between. -/
theorem attach_survives_iff (s t : Connections) (ref : ConnectionRef) (request : CoapRequest)
    (tmux : TmuxReplies) (fields : AttachFields) (between : List ConnectionAction) (i : ℕ)
    (stream : DataStream) (hfields : attachFields request tmux = .ok fields)
    (hanswer : (handleAttach s.sessionMap ref request tmux).1 = .attached)
    (hbetween : ∀ a ∈ between, a.attachesOn ref = false)
    (hrun : Guarded.run step s
      (.attach ref request tmux :: between ++ [.streamAccepted i .accepted]) = some t)
    (hstream : t.streams[i]? = some stream) (href : stream.connectionRef = ref) :
    (∃ target, stream.phase = .running target ∧ target.sessionName = fields.sessionName)
      ↔ Guarded.AllSteps step (fun s a => a.cleansUp s ref = false) s
        (.attach ref request tmux :: between) := by
  obtain ⟨attached, hattached, hrun⟩ := (Guarded.run_cons_eq_some step).mp hrun
  obtain ⟨before, hbefore, hlast⟩ := (Guarded.run_append_eq_some step).mp hrun
  obtain ⟨t', haccept, ht⟩ := (Guarded.run_cons_eq_some step).mp hlast
  obtain rfl := Option.some.inj ht
  have hphase := phase_accepted hstream haccept
  have hentry := get_handleAttach_self hfields hanswer
  have hmap : attached.sessionMap = (handleAttach s.sessionMap ref request tmux).2 := by
    rw [step_attach hattached]
  rw [← hmap] at hentry
  rw [Guarded.allSteps_cons_iff hattached]
  obtain ⟨hkept, hget⟩ | ⟨hgone, hget⟩ := get_run hbetween hbefore
  · refine iff_of_true ⟨⟨fields.sessionName, fields.cols.toUInt16, fields.rows.toUInt16⟩,
      (hphase _).mpr ?_, rfl⟩ ⟨rfl, hkept⟩
    rw [href, hget, hentry]
  · refine iff_of_false ?_ fun h => hgone h.2
    rintro ⟨target, hrunning, -⟩
    have hfound := (hphase target).mp hrunning
    rw [href, hget] at hfound
    exact Option.some_ne_none target hfound.symm

/-- A client attaches to `dev` and opens a data stream; the stream's threads notice that it is to
close. -/
def firstSession : List ConnectionAction :=
  [.openConnection 1, .attach 1 (attachTo "dev") sessionThere, .newStream 1,
    .streamAccepted 0 .accepted, .startClose 0]

open Connections in
theorem attach_survives_iff_first :
    (∃ target, DataStreamPhase.running { sessionName := .ofString "dev", cols := 80, rows := 24 }
          = .running target ∧ target.sessionName = .ofString "dev")
      ↔ Guarded.AllSteps step (fun s a => a.cleansUp s 1 = false)
        { init with opened := [1], openRefs := [1] }
        [.attach 1 (attachTo "dev") sessionThere, .newStream 1] := by
  have hsome : (Guarded.run step { init with opened := [1], openRefs := [1] }
      [.attach 1 (attachTo "dev") sessionThere, .newStream 1, .streamAccepted 0 .accepted]).map
        (·.streams[0]?)
      = some (some ⟨1, .running { sessionName := .ofString "dev", cols := 80, rows := 24 }⟩) := by
    decide +kernel
  obtain ⟨t, ht, hstream⟩ := Option.map_eq_some_iff.mp hsome
  exact attach_survives_iff { init with opened := [1], openRefs := [1] } t 1 (attachTo "dev")
    sessionThere (attachedTo "dev") [.newStream 1] 0 _ rfl (by decide +kernel)
      (by decide) ht hstream
    rfl

open Connections in
/-- **A switch of sessions that is lost.**  While the stream to `dev` is closing, the client
attaches to `main` and is answered 201; the old stream's cleanup removes the new entry, and the new
stream finds none. -/
theorem switched_attach_lost :
    ∃ s t, Guarded.run step init firstSession = some s
      ∧ (handleAttach s.sessionMap 1 (attachTo "main") sessionThere).1 = .attached
      ∧ Guarded.run step s (.attach 1 (attachTo "main") sessionThere
        :: [.newStream 1, .streamClosed 0] ++ [.streamAccepted 1 .accepted]) = some t
      ∧ t.streams[1]? = some { connectionRef := 1, phase := .closing } := by
  have hfirst : (Guarded.run step init firstSession).map
      (fun s => ((handleAttach s.sessionMap 1 (attachTo "main") sessionThere).1,
        (Guarded.run step s (.attach 1 (attachTo "main") sessionThere
          :: [.newStream 1, .streamClosed 0] ++ [.streamAccepted 1 .accepted])).map
            (·.streams[1]?)))
      = some (.attached, some (some { connectionRef := 1, phase := .closing })) := by decide +kernel
  obtain ⟨s, hs, hrest⟩ := Option.map_eq_some_iff.mp hfirst
  rw [Prod.mk.injEq] at hrest
  obtain ⟨t, ht, hstream⟩ := Option.map_eq_some_iff.mp hrest.2
  exact ⟨s, t, hs, hrest.1, ht, hstream⟩

/-! ## Eight connections -/

namespace Connections

/-- Some data stream of the connection is still to be cleaned up. -/
def CleanupPending (s : Connections) (ref : ConnectionRef) : Prop :=
  ∃ stream ∈ s.streams, stream.connectionRef = ref ∧ stream.phase ≠ .cleaned

/-- Nothing leaves an entry behind: a connection that closes with an entry has a data stream whose
cleanup will remove it, and attaches are handled for open connections, when those cleanups are
done. -/
def LeavesNothing (s : Connections) : ConnectionAction → Prop
  | .closeConnection ref => s.sessionMap.get ref = none ∨ s.CleanupPending ref
  | .attach ref _ _ => ref ∈ s.openRefs ∧ ∀ stream ∈ s.streams, stream.phase ≠ .cleaned →
      stream.connectionRef ∉ s.openRefs → s.sessionMap.get stream.connectionRef = none
  | _ => True

instance (s : Connections) (ref : ConnectionRef) : Decidable (s.CleanupPending ref) :=
  inferInstanceAs (Decidable (∃ stream ∈ s.streams, _))

instance (s : Connections) : ∀ a, Decidable (s.LeavesNothing a)
  | .closeConnection _ => inferInstanceAs (Decidable (_ ∨ _))
  | .attach _ _ _ => inferInstanceAs (Decidable (_ ∧ _))
  | .openConnection _ | .newStream _ | .streamAccepted _ _ | .startClose _ | .streamClosed _ =>
    inferInstanceAs (Decidable True)

/-- A request of an open connection does not find the map full. -/
def Served (s : Connections) : ConnectionAction → Prop
  | .attach ref request tmux => ref ∈ s.openRefs →
      (handleAttach s.sessionMap ref request tmux).1 ≠ .sessionMapFull
  | _ => True

/-- Every entry is that of an open connection, or of one whose cleanup is still to come. -/
def Owned (s : Connections) : Prop :=
  ∀ ref, s.sessionMap.get ref ≠ none → ref ∈ s.openRefs ∨ s.CleanupPending ref

theorem owned_init : init.Owned := by
  intro ref hget
  exact absurd rfl hget

variable {s s' : Connections} {ref : ConnectionRef} {i : ℕ} {stream : DataStream}

/-- Setting one stream leaves the cleanups of the others pending, and its own unless it is the one
that is done. -/
theorem cleanupPending_setPhase {phase : DataStreamPhase} (hi : s.streams[i]? = some stream)
    (hphase : phase ≠ .cleaned ∨ stream.connectionRef ≠ ref) (h : s.CleanupPending ref) :
    (s.setPhase i stream phase).CleanupPending ref := by
  obtain ⟨pending, hmem, href, hpending⟩ := h
  obtain ⟨j, hj⟩ := List.mem_iff_getElem?.mp hmem
  have hlt : i < s.streams.length := (List.getElem?_eq_some_iff.mp hi).1
  rcases eq_or_ne i j with rfl | hne
  · obtain rfl : stream = pending := Option.some.inj (hi.symm.trans hj)
    refine ⟨{ stream with phase := phase }, List.mem_of_getElem? (List.getElem?_set_self hlt),
      href, ?_⟩
    exact hphase.resolve_right fun hother => hother href
  · have hkept : (s.setPhase i stream phase).streams[j]? = some pending :=
      (List.getElem?_set_ne hne).trans hj
    exact ⟨pending, List.mem_of_getElem? hkept, href, hpending⟩

theorem Owned.setPhase {phase : DataStreamPhase} (h : s.Owned) (hi : s.streams[i]? = some stream)
    (hphase : phase ≠ .cleaned) : (s.setPhase i stream phase).Owned := fun ref hget =>
  (h ref hget).imp_right (cleanupPending_setPhase hi (Or.inl hphase))

theorem Owned.cleanup (h : s.Owned) (hi : s.streams[i]? = some stream) :
    (s.cleanup i stream).Owned := by
  intro ref hget
  rw [get_cleanup] at hget
  split_ifs at hget with hother
  · exact absurd rfl hget
  · exact (h ref hget).imp_right (cleanupPending_setPhase hi (Or.inr hother))

theorem Owned.stepStream {a : ConnectionAction} (h : s.Owned)
    (ha : (∃ result, a = .streamAccepted i result) ∨ a = .startClose i ∨ a = .streamClosed i)
    (hstep : s.step a = some s') : s'.Owned := by
  obtain ⟨stream, hi, ⟨rfl, -⟩ | ⟨phase, rfl, hphase, -⟩⟩ := step_stream ha hstep
  · exact h.cleanup hi
  · exact h.setPhase hi hphase

/-- **The step lemma**: a step that leaves nothing behind keeps every entry owned. -/
theorem Owned.step {a : ConnectionAction} (h : s.Owned) (hclean : s.LeavesNothing a)
    (hstep : s.step a = some s') : s'.Owned := by
  rcases a with new | gone | ⟨ref, request, tmux⟩ | new | ⟨i, result⟩ | i | i
  · rw [step_openConnection hstep]
    intro ref hget
    exact (h ref hget).imp_left (List.mem_cons_of_mem new)
  · rw [step_closeConnection hstep]
    intro ref hget
    rcases eq_or_ne ref gone with rfl | hne
    · exact Or.inr (hclean.resolve_left hget)
    · exact (h ref hget).imp_left (List.mem_erase_of_ne hne).mpr
  · rw [step_attach hstep]
    intro other hget
    rcases eq_or_ne other ref with rfl | hne
    · exact Or.inl hclean.1
    · exact h other (by rwa [get_handleAttach_of_ne hne] at hget)
  · rw [step_newStream hstep]
    intro ref hget
    refine (h ref hget).imp_right ?_
    rintro ⟨stream, hmem, hpending⟩
    exact ⟨stream, List.mem_append_left _ hmem, hpending⟩
  · exact h.stepStream (Or.inl ⟨result, rfl⟩) hstep
  · exact h.stepStream (Or.inr (Or.inl rfl)) hstep
  · exact h.stepStream (Or.inr (Or.inr rfl)) hstep

/-- **Room for one more**: with every entry owned, and at most eight connections open, an open
connection finds its entry or a free slot. -/
theorem Owned.served {a : ConnectionAction} (h : s.Owned) (hclean : s.LeavesNothing a)
    (height : s.openRefs.length ≤ maxSessions) : s.Served a := by
  rcases a with new | gone | ⟨ref, request, tmux⟩ | new | ⟨i, result⟩ | i | i
  case attach =>
    intro hopen hanswer
    obtain ⟨hnone, hfull⟩ := full_of_handleAttach hanswer
    have hkeys : ∀ key ∈ s.sessionMap.keys, key ∈ s.openRefs := by
      intro key hkey
      have hget : s.sessionMap.get key ≠ none := fun hnone =>
        SlotTable.get_eq_none_iff.mp hnone hkey
      by_contra hclosed
      obtain ⟨stream, hmem, rfl, hpending⟩ := (h key hget).resolve_left hclosed
      exact hget (hclean.2 stream hmem hpending hclosed)
    have hnodup : (ref :: s.sessionMap.keys).Nodup :=
      List.nodup_cons.mpr ⟨SlotTable.get_eq_none_iff.mp hnone, s.sessionMap.nodup_keys⟩
    have hsub : ref :: s.sessionMap.keys ⊆ s.openRefs := List.cons_subset.mpr ⟨hopen, hkeys⟩
    have hlength : s.sessionMap.keys.length = maxSessions := hfull
    have hle : (ref :: s.sessionMap.keys).length ≤ s.openRefs.length :=
      (List.subperm_of_subset hnodup hsub).length_le
    rw [List.length_cons] at hle
    omega
  all_goals trivial

end Connections

open Connections in
/-- **Eight connections are served.**  In a run with at most eight connections open, in which
nothing leaves an entry behind, no request of an open connection finds the session map full. -/
theorem eight_connections_served (actions : List ConnectionAction)
    (height : Guarded.Throughout step (fun s => s.openRefs.length ≤ maxSessions) init actions)
    (hclean : Guarded.AllSteps step LeavesNothing init actions) :
    Guarded.AllSteps step Served init actions :=
  Guarded.allSteps_of_throughout (fun _ _ _ h => h.step) (fun _ _ h => h.served) owned_init height
    hclean

/-- A client attaches, opens a data stream, and leaves; its stream is cleaned up. -/
def oneVisit (ref : ConnectionRef) (i : ℕ) : List ConnectionAction :=
  [.openConnection ref, .attach ref (attachTo "dev") sessionThere, .newStream ref,
    .streamAccepted i .accepted, .closeConnection ref, .startClose i, .streamClosed i]

open Connections in
theorem eight_connections_served_visits :
    Guarded.AllSteps step Served init (oneVisit 1 0 ++ oneVisit 2 1) :=
  eight_connections_served (oneVisit 1 0 ++ oneVisit 2 1) (by decide +kernel) (by decide +kernel)

/-- A client attaches and leaves without opening a data stream. -/
def shortVisit (ref : ConnectionRef) : List ConnectionAction :=
  [.openConnection ref, .attach ref (attachTo "dev") sessionThere, .closeConnection ref]

/-- Eight such clients, one after the other, and a ninth that comes to stay. -/
def nineVisits : List ConnectionAction :=
  (List.map shortVisit [1, 2, 3, 4, 5, 6, 7, 8]).flatten ++ [.openConnection 9]

open Connections in
/-- **Leaked slots.**  After eight short visits the session map is full for the only connection that
is open. -/
theorem leaked_slots :
    ∃ s, Guarded.run step init nineVisits = some s
      ∧ Guarded.Throughout step (fun s => s.openRefs.length ≤ maxSessions) init nineVisits
      ∧ s.openRefs = [9]
      ∧ (handleAttach s.sessionMap 9 (attachTo "dev") sessionThere).1 = .sessionMapFull := by
  have hrun : (Guarded.run step init nineVisits).map (fun s =>
      (s.openRefs, (handleAttach s.sessionMap 9 (attachTo "dev") sessionThere).1))
      = some ([9], .sessionMapFull) := by decide +kernel
  obtain ⟨s, hs, hend⟩ := Option.map_eq_some_iff.mp hrun
  rw [Prod.mk.injEq] at hend
  exact ⟨s, hs, by decide +kernel, hend.1, hend.2⟩

end TmuxRemote
