import TmuxRemote.Library.CappedWalk
import TmuxRemote.Library.Guarded
import TmuxRemote.Agent.ControlStream
import TmuxRemote.Agent.TmuxSessions

/-!
# Agent/SessionSync — how clients learn the session list (`tmuxremote_control_stream.c`)

In each iteration the monitor reads the session list, takes the `needsSessionSync` flags of the
control streams that have one, and sends the list: to all when it differs from the list it recorded
last, else to those whose flag it took.  Both walks stop at `MAX_CONTROL_STREAMS`, while nothing
bounds the number of control streams.

A control stream without a flag has been sent the list read last exactly as long as no iteration
finds a new list with more than sixteen streams open of which some have lost their flag already
(`session_sync_iff`).

Encodes and sends succeed; streams are linked, and close, between iterations.
-/

namespace TmuxRemote

/-- `tmuxremote_active_control_stream`, with the sessions message sent on it last. -/
structure SessionStream where
  closing : Bool
  needsSessionSync : Bool
  lastSent : Option (List TmuxSession)
  deriving DecidableEq

namespace SessionStream

def isLive (cs : SessionStream) : Bool := !cs.closing

def needsSync (cs : SessionStream) : Bool := cs.needsSessionSync && cs.isLive

def clearFlag (cs : SessionStream) : SessionStream := { cs with needsSessionSync := false }

/-- `send_to_stream` of the encoded list. -/
def send (list : List TmuxSession) (cs : SessionStream) : SessionStream :=
  { cs with lastSent := some list }

/-- A stream that has just been accepted. -/
def accepted : SessionStream := { closing := false, needsSessionSync := true, lastSent := none }

end SessionStream

/-- The monitor and the control streams, the one linked last first. -/
structure SessionSync where
  streams : List SessionStream
  /-- `prevList`, while `hasPrev`. -/
  prevList : Option (List TmuxSession)
  /-- The list read in the last iteration. -/
  lastRead : Option (List TmuxSession)
  deriving DecidableEq

/-- A step of the agent. -/
inductive SessionSyncAction
  /-- `stream_accepted` -/
  | openControlStream
  /-- Some thread marks a stream closing. -/
  | close (i : ℕ)
  /-- An iteration of the monitor, which reads this list. -/
  | iterate (currentList : List TmuxSession)

namespace SessionSync

/-- The monitor has not run; nothing has been sent. -/
def init (flags : List Bool) : SessionSync where
  streams := flags.map fun flag => { closing := false, needsSessionSync := flag, lastSent := none }
  prevList := none
  lastRead := none

/-- `!hasPrev || !tmux_lists_equal(&prevList, &currentList)` -/
def changed (s : SessionSync) (currentList : List TmuxSession) : Bool :=
  !s.prevList.any (tmuxListsEqual · currentList)

/-- The session sync: the flags are taken, and the list is sent. -/
def syncStreams (s : SessionSync) (currentList : List TmuxSession) : List SessionStream :=
  if s.changed currentList then
    -- `broadcast_to_all` walks the list again, for its own snapshot.
    cappedWalk maxControlStreams SessionStream.isLive (.send currentList)
      (cappedWalk maxControlStreams SessionStream.needsSync .clearFlag s.streams)
  else
    cappedWalk maxControlStreams SessionStream.needsSync
      (SessionStream.send currentList ∘ .clearFlag) s.streams

/-- One iteration of `monitor_thread_func`. -/
def iterate (s : SessionSync) (currentList : List TmuxSession) : SessionSync :=
  let streams := (s.syncStreams currentList).filter SessionStream.isLive
  { streams := streams
    prevList := if streams.isEmpty then none
      else if s.changed currentList then some currentList else s.prevList
    lastRead := some currentList }

/-- One step; `none` when there is no such stream. -/
def step (s : SessionSync) : SessionSyncAction → Option SessionSync
  | .openControlStream => some { s with streams := .accepted :: s.streams }
  | .close i =>
    if i < s.streams.length then
      some { s with streams := s.streams.modify i fun cs => { cs with closing := true } }
    else none
  | .iterate currentList => some (s.iterate currentList)

/-- Every listed stream that is not closing and whose flag is clear has been sent the list read
last. -/
def UpToDate (s : SessionSync) : Prop :=
  ∀ list, s.lastRead = some list → ∀ cs ∈ s.streams, cs.isLive → cs.needsSessionSync = false →
    cs.lastSent = some list

/-- A list that is not the recorded one is read with at most sixteen streams open, or with the flags
of all of them still set. -/
def ReachesAll (s : SessionSync) : SessionSyncAction → Prop
  | .iterate currentList => s.changed currentList = false
      ∨ s.streams.countP SessionStream.isLive ≤ maxControlStreams
      ∨ ∀ cs ∈ s.streams, cs.isLive → cs.needsSessionSync
  | _ => True

instance (s : SessionSync) : ∀ a, Decidable (s.ReachesAll a)
  | .iterate _ => inferInstanceAs (Decidable (_ ∨ _ ∨ _))
  | .openControlStream | .close _ => inferInstanceAs (Decidable True)

/-! ## The invariant -/

/-- Flagged streams have been sent nothing, the others the recorded list. -/
structure Inv (s : SessionSync) : Prop where
  flagged : ∀ cs ∈ s.streams, cs.isLive → cs.needsSessionSync → cs.lastSent = none
  synced : ∀ cs ∈ s.streams, cs.isLive → cs.needsSessionSync = false → cs.lastSent = s.prevList
  /-- The recorded list is the one read last, unless all streams are new. -/
  recorded : s.prevList = s.lastRead ∨ ∀ cs ∈ s.streams, cs.isLive → cs.needsSessionSync

theorem inv_init (flags : List Bool) : (init flags).Inv where
  flagged cs hcs _ _ := by
    obtain ⟨flag, -, rfl⟩ := List.mem_map.mp hcs
    rfl
  synced cs hcs _ _ := by
    obtain ⟨flag, -, rfl⟩ := List.mem_map.mp hcs
    rfl
  recorded := Or.inl rfl

variable {s s' : SessionSync} {currentList : List TmuxSession} {cs : SessionStream}

theorem changed_eq_false_iff : s.changed currentList = false ↔ s.prevList = some currentList := by
  rw [changed, Bool.not_eq_false', Option.any_eq_true]
  constructor
  · rintro ⟨list, hlist, hequal⟩
    rw [hlist, tmuxListsEqual_iff.mp hequal]
  · exact fun h => ⟨currentList, h, tmuxListsEqual_iff.mpr rfl⟩

theorem Inv.upToDate (h : s.Inv) : s.UpToDate := by
  intro list hread cs hcs hlive hflag
  obtain hrecorded | hall := h.recorded
  · rw [h.synced cs hcs hlive hflag, hrecorded, hread]
  · exact absurd (hall cs hcs hlive) (by simp [hflag])

/-- What holds of a live stream after a session sync. -/
def Synced (currentList : List TmuxSession) (streams : List SessionStream) : Prop :=
  ∀ cs ∈ streams, cs.isLive → cs.lastSent = if cs.needsSessionSync then none else some currentList

/-- A walk that takes flags and sends to the same streams, from streams that are up to date. -/
theorem synced_cappedWalk {n : ℕ} {p : SessionStream → Bool} (h : s.Inv)
    (hold : s.prevList = some currentList ∨ ∀ cs ∈ s.streams, cs.isLive → cs.needsSessionSync) :
    Synced currentList
      (cappedWalk n p (SessionStream.send currentList ∘ .clearFlag) s.streams) := by
  intro cs hcs hlive
  obtain ⟨before, -, -, rfl⟩ | hcs := mem_of_mem_cappedWalk hcs
  · rfl
  · cases hflag : cs.needsSessionSync with
    | true => exact h.flagged cs hcs hlive hflag
    | false =>
      obtain hprev | hall := hold
      · exact (h.synced cs hcs hlive hflag).trans hprev
      · exact absurd (hall cs hcs hlive) (by simp [hflag])

@[simp] theorem isLive_clearFlag (cs : SessionStream) : cs.clearFlag.isLive = cs.isLive := rfl

@[simp] theorem needsSessionSync_clearFlag (cs : SessionStream) :
    cs.clearFlag.needsSessionSync = false := rfl

@[simp] theorem isLive_send (list : List TmuxSession) (cs : SessionStream) :
    (cs.send list).isLive = cs.isLive := rfl

/-- Taking flags closes no stream. -/
theorem countP_isLive_clearFlags {n : ℕ} {streams : List SessionStream} :
    (cappedWalk n SessionStream.needsSync .clearFlag streams).countP SessionStream.isLive
      = streams.countP SessionStream.isLive := countP_cappedWalk isLive_clearFlag

theorem countP_needsSync_le (streams : List SessionStream) :
    streams.countP SessionStream.needsSync ≤ streams.countP SessionStream.isLive :=
  List.countP_mono_left fun _ _ hcs => (Bool.and_eq_true_iff.mp hcs).2

/-- With at most sixteen streams open, both walks reach them all. -/
theorem synced_of_room (hroom : s.streams.countP SessionStream.isLive ≤ maxControlStreams) :
    Synced currentList (cappedWalk maxControlStreams SessionStream.isLive (.send currentList)
      (cappedWalk maxControlStreams SessionStream.needsSync .clearFlag s.streams)) := by
  rw [cappedWalk_eq_map (countP_isLive_clearFlags.trans_le hroom),
    cappedWalk_eq_map ((countP_needsSync_le _).trans hroom), List.map_map]
  intro cs hcs hlive
  obtain ⟨before, -, rfl⟩ := List.mem_map.mp hcs
  cases hopen : before.isLive with
  | false => simp [SessionStream.needsSync, hopen] at hlive
  | true =>
    cases hflag : before.needsSessionSync with
    | true =>
      have hneeds : before.needsSync = true := by rw [SessionStream.needsSync, hflag, hopen]; rfl
      simp [hneeds, hopen, SessionStream.send]
    | false =>
      have hneeds : before.needsSync = false := by rw [SessionStream.needsSync, hflag]; rfl
      simp [hneeds, hopen, hflag, SessionStream.send]

/-- **What a sync that reaches all leaves.** -/
theorem synced_syncStreams (h : s.Inv) (hreach : s.ReachesAll (.iterate currentList)) :
    Synced currentList (s.syncStreams currentList) := by
  cases hchanged : s.changed currentList with
  | false =>
    rw [syncStreams, if_neg (by simp [hchanged])]
    exact synced_cappedWalk h (Or.inl (changed_eq_false_iff.mp hchanged))
  | true =>
    rw [syncStreams, if_pos hchanged]
    obtain hroom | hall := hreach.resolve_left (by simp [hchanged])
    · exact synced_of_room hroom
    · have hneeds : ∀ cs ∈ s.streams, cs.needsSync = cs.isLive := by
        intro cs hcs
        rw [SessionStream.needsSync, Bool.and_eq_right_iff_imp]
        exact hall cs hcs
      have hkept : ∀ cs : SessionStream, cs.isLive → cs.clearFlag.isLive := fun _ => id
      rw [cappedWalk_congr hneeds, cappedWalk_cappedWalk hkept]
      exact synced_cappedWalk h (Or.inr hall)

/-- **A sync that does not reach all** leaves out a stream that has lost its flag. -/
theorem exists_missed (h : s.Inv) (hreach : ¬ s.ReachesAll (.iterate currentList)) :
    ∃ cs ∈ s.syncStreams currentList, cs.isLive ∧ cs.needsSessionSync = false
      ∧ cs.lastSent ≠ some currentList := by
  simp only [ReachesAll, not_or, Bool.not_eq_false, not_le, not_forall] at hreach
  obtain ⟨hchanged, hmany, cs, hcs, hlive, hflag⟩ := hreach
  have hprev : s.prevList ≠ some currentList := by
    rw [ne_eq, ← changed_eq_false_iff, hchanged]
    exact Bool.noConfusion
  obtain ⟨pre, rest, hsplit, hpre⟩ := exists_append_countP_eq hmany.le
  -- The broadcast ends with `pre`; the first walk may have gone on into `rest`.
  have hrest : ∀ cs ∈ cappedWalk (maxControlStreams - pre.countP SessionStream.needsSync)
      SessionStream.needsSync .clearFlag rest, cs ∈ s.syncStreams currentList := by
    intro cs hcs
    rw [syncStreams, if_pos hchanged, hsplit, cappedWalk_append, cappedWalk_append,
      countP_isLive_clearFlags, hpre, Nat.sub_self, cappedWalk_zero]
    exact List.mem_append_right _ hcs
  by_cases hunflagged : ∃ cs ∈ rest, cs.isLive ∧ cs.needsSessionSync = false
  · obtain ⟨missed, hmem, hopen, hclear⟩ := hunflagged
    have hneeds : missed.needsSync = false := by rw [SessionStream.needsSync, hclear]; rfl
    refine ⟨missed, hrest missed (mem_cappedWalk_of_neg hmem hneeds), hopen, hclear, ?_⟩
    rw [h.synced missed (hsplit ▸ List.mem_append_right pre hmem) hopen hclear]
    exact hprev
  · -- All of `rest` is flagged, so one of the first sixteen is not, and the first walk goes on.
    push Not at hunflagged
    have hflagged : ∀ cs ∈ rest, cs.isLive → cs.needsSync := by
      intro cs hcs hlive
      rw [SessionStream.needsSync, hlive, Bool.and_true]
      exact (Bool.not_eq_false _).mp (hunflagged cs hcs hlive)
    have hin : cs ∈ pre := by
      rw [hsplit, List.mem_append] at hcs
      refine hcs.resolve_right fun hcs => hflag ?_
      exact (Bool.and_eq_true_iff.mp (hflagged cs hcs hlive)).1
    have hlt : pre.countP SessionStream.needsSync < maxControlStreams := by
      obtain ⟨l, r, rfl⟩ := List.append_of_mem hin
      have hneeds : ¬ cs.needsSync := fun hneeds => hflag (Bool.and_eq_true_iff.mp hneeds).1
      rw [List.countP_append, List.countP_cons_of_pos hlive] at hpre
      rw [List.countP_append, List.countP_cons_of_neg hneeds]
      have := countP_needsSync_le l
      have := countP_needsSync_le r
      omega
    have hsome : ∃ cs ∈ rest, cs.needsSync := by
      rw [hsplit, List.countP_append, hpre] at hmany
      obtain ⟨next, hnext, hlive⟩ := List.countP_pos_iff.mp (Nat.lt_add_right_iff_pos.mp hmany)
      exact ⟨next, hnext, hflagged next hnext hlive⟩
    obtain ⟨missed, hmem, hneeds, hcleared⟩ :=
      @exists_mem_cappedWalk _ _ _ SessionStream.clearFlag _ (Nat.sub_ne_zero_of_lt hlt) hsome
    obtain ⟨hset, hopen⟩ := Bool.and_eq_true_iff.mp hneeds
    refine ⟨missed.clearFlag, hrest _ hcleared, hopen, rfl, ?_⟩
    have hunsent : missed.lastSent = none :=
      h.flagged missed (hsplit ▸ List.mem_append_right pre hmem) hopen hset
    exact fun hsent => nomatch hunsent.symm.trans hsent

/-! ## Steps -/

theorem mem_streams_iterate :
    cs ∈ (s.iterate currentList).streams ↔ cs ∈ s.syncStreams currentList ∧ cs.isLive :=
  List.mem_filter

/-- An iteration that reaches all. -/
theorem Inv.iterate (h : s.Inv) (hreach : s.ReachesAll (.iterate currentList)) :
    (s.iterate currentList).Inv := by
  have hsynced := synced_syncStreams h hreach
  have hprev : ∀ cs ∈ (s.iterate currentList).streams,
      (s.iterate currentList).prevList = some currentList := by
    intro cs hcs
    have hne : ¬ ((s.syncStreams currentList).filter SessionStream.isLive).isEmpty := by
      rw [List.isEmpty_iff]
      exact List.ne_nil_of_mem hcs
    change (if _ then none else if _ then _ else _) = _
    rw [if_neg hne]
    split_ifs with hchanged
    · rfl
    · exact changed_eq_false_iff.mp ((Bool.not_eq_true _).mp hchanged)
  refine ⟨fun cs hcs hlive hflag => ?_, fun cs hcs hlive hflag => ?_, ?_⟩
  · rw [hsynced cs (mem_streams_iterate.mp hcs).1 hlive, if_pos hflag]
  · rw [hsynced cs (mem_streams_iterate.mp hcs).1 hlive, if_neg (by simp [hflag]), hprev cs hcs]
  · rcases hstreams : (s.iterate currentList).streams with - | ⟨cs, rest⟩
    · exact Or.inr fun cs hcs => absurd hcs (by simp)
    · exact Or.inl (hprev cs (hstreams ▸ List.mem_cons_self))

theorem Inv.openControlStream (h : s.Inv) : Inv { s with streams := .accepted :: s.streams } := by
  refine ⟨fun cs hcs hlive hflag => ?_, fun cs hcs hlive hflag => ?_, h.recorded.imp_right ?_⟩
  · obtain rfl | hcs := List.mem_cons.mp hcs
    · rfl
    · exact h.flagged cs hcs hlive hflag
  · obtain rfl | hcs := List.mem_cons.mp hcs
    · exact nomatch hflag
    · exact h.synced cs hcs hlive hflag
  · intro hall cs hcs hlive
    obtain rfl | hcs := List.mem_cons.mp hcs
    · rfl
    · exact hall cs hcs hlive

/-- The streams that are still open after one closes were there. -/
theorem mem_of_mem_modify_close {i : ℕ} {streams : List SessionStream}
    (hcs : cs ∈ streams.modify i fun cs => { cs with closing := true }) (hlive : cs.isLive) :
    cs ∈ streams := by
  obtain ⟨j, hj⟩ := List.mem_iff_getElem?.mp hcs
  rw [List.getElem?_modify] at hj
  obtain ⟨before, hbefore, heq⟩ := Option.map_eq_some_iff.mp hj
  split_ifs at heq
  · exact nomatch heq ▸ hlive
  · exact heq ▸ List.mem_of_getElem? hbefore

theorem Inv.close (h : s.Inv) (i : ℕ) :
    Inv { s with streams := s.streams.modify i fun cs => { cs with closing := true } } :=
  ⟨fun cs hcs hlive => h.flagged cs (mem_of_mem_modify_close hcs hlive) hlive,
    fun cs hcs hlive => h.synced cs (mem_of_mem_modify_close hcs hlive) hlive,
    h.recorded.imp_right fun hall cs hcs hlive =>
      hall cs (mem_of_mem_modify_close hcs hlive) hlive⟩

/-- **The step lemma.** -/
theorem Inv.step {a : SessionSyncAction} (h : s.Inv) (hreach : s.ReachesAll a)
    (hstep : s.step a = some s') : s'.Inv := by
  cases a with
  | openControlStream =>
    obtain rfl := Option.some.inj hstep
    exact h.openControlStream
  | close i =>
    rw [SessionSync.step, Option.ite_none_right_eq_some, Option.some.injEq] at hstep
    obtain ⟨-, rfl⟩ := hstep
    exact h.close i
  | iterate currentList =>
    obtain rfl := Option.some.inj hstep
    exact h.iterate hreach

/-- Only iterations can fail to reach all. -/
theorem not_upToDate_step {a : SessionSyncAction} (h : s.Inv) (hreach : ¬ s.ReachesAll a)
    (hstep : s.step a = some s') : ¬ s'.UpToDate := by
  cases a with
  | openControlStream => exact absurd trivial hreach
  | close i => exact absurd trivial hreach
  | iterate currentList =>
    obtain rfl := Option.some.inj hstep
    obtain ⟨cs, hcs, hlive, hflag, hmissed⟩ := exists_missed h hreach
    exact fun hup =>
      hmissed (hup currentList rfl cs (mem_streams_iterate.mpr ⟨hcs, hlive⟩) hlive hflag)

end SessionSync

/-! ## Runs -/

open SessionSync in
/-- **Session updates over runs.**  From any number of control streams with any flags, every stream
without a flag has been sent the list read last, in every state of the run, exactly when each
iteration finds the recorded list again, or at most sixteen streams open, or all their flags set. -/
theorem session_sync_iff (flags : List Bool) (actions : List SessionSyncAction) (t : SessionSync)
    (hrun : Guarded.run step (init flags) actions = some t) :
    Guarded.Throughout step UpToDate (init flags) actions
      ↔ Guarded.AllSteps step ReachesAll (init flags) actions :=
  Guarded.throughout_iff_allSteps (fun _ => Inv.upToDate) (fun _ _ _ h => h.step)
    (fun _ _ _ h => not_upToDate_step h) (inv_init flags) hrun

/-- The session list with one session. -/
def devSession : List TmuxSession :=
  [{ name := .ofString "dev", cols := 80, rows := 24, attached := 1 }]

open SessionSync in
theorem session_sync_iff_two :
    Guarded.Throughout step UpToDate (init [true, true])
        [.iterate [], .openControlStream, .iterate devSession]
      ↔ Guarded.AllSteps step ReachesAll (init [true, true])
        [.iterate [], .openControlStream, .iterate devSession] :=
  session_sync_iff [true, true] [.iterate [], .openControlStream, .iterate devSession] _ rfl

open SessionSync in
/-- **The seventeenth stream**: a session is created between the first two iterations of the
monitor; the second takes the flag of the stream linked first and sends to the sixteen others. -/
theorem seventeenth_stream_missed :
    ∃ s, Guarded.run step (init (List.replicate 17 true)) [.iterate [], .iterate devSession]
      = some s
      ∧ s.streams.getLast? = some { closing := false, needsSessionSync := false, lastSent := none }
      ∧ ¬ s.UpToDate := by
  have hlast : (Guarded.run step (init (List.replicate 17 true))
      [.iterate [], .iterate devSession]).map (fun s => (s.lastRead, s.streams.getLast?))
      = some (some devSession,
        some { closing := false, needsSessionSync := false, lastSent := none }) := by
    decide +kernel
  obtain ⟨s, hs, hend⟩ := Option.map_eq_some_iff.mp hlast
  rw [Prod.mk.injEq] at hend
  refine ⟨s, hs, hend.2, fun hup => ?_⟩
  exact nomatch hup devSession hend.1 _ (List.mem_of_getLast? hend.2) rfl rfl

end TmuxRemote
