import TmuxRemote.Agent.IamStateFile
import TmuxRemote.Agent.StateSaver
import TmuxRemote.Library.FirstSeen

/-!
# Agent/PairingNotices — which pairings the agent announces (`tmuxremote_iam.c`)

The worker that saves a state looks at its users afterwards, announces the paired ones it does not
know and remembers them, as long as there is room for their names.  The users that are paired when
the agent starts are remembered from the beginning.

One of the first 32 users ever seen is announced once, by the first state saved that has the user
paired, and never if that was so at the start.  A user who has found no room is announced again with
every state that is saved (`pairings_announced`).

A user has a name.  The display names, which the agent does not set, are left out.
-/

namespace TmuxRemote

open FirstSeen

/-! ## The users of one state -/

/-- `TMUXREMOTE_IAM_MAX_USERS` -/
def maxPairedUsers : ℕ := 32

/-- `!nn_llist_empty(&user->fingerprints)` -/
def IamUser.isPaired (user : IamUser) : Bool := !user.fingerprints.isEmpty

/-- The users that a notice lists. -/
def IamState.pairedUsernames (state : IamState) : List CString :=
  (state.users.filter IamUser.isPaired).map IamUser.username

theorem IamState.nodup_pairedUsernames (state : IamState) : state.pairedUsernames.Nodup :=
  state.nodup_usernames.sublist (List.filter_sublist.map _)

/-- What is printed of a user who completed pairing. -/
structure PairingNotice where
  username : CString
  pairedUsers : List CString
  deriving DecidableEq

/-- One pass of the loop that fills `newlyPaired`. -/
def addNewlyPaired (pairedUsers newly : List CString) (user : IamUser) : List CString :=
  if !user.isPaired then newly
  else if user.username ∉ pairedUsers ∧ newly.length < maxPairedUsers then newly ++ [user.username]
  else newly

/-- `newlyPaired`, when the loop is done. -/
def newlyPaired (pairedUsers : List CString) (users : List IamUser) : List CString :=
  users.foldl (addNewlyPaired pairedUsers) []

/-- The loops that fill `niam->pairedUsers`. -/
def trackPaired (pairedUsers names : List CString) : List CString :=
  names.foldl (fun tracked name =>
    if tracked.length < maxPairedUsers then tracked ++ [name] else tracked) pairedUsers

/-- `check_and_announce_new_pairings`: what it prints, and the users it knows afterwards. -/
def checkAndAnnounceNewPairings (pairedUsers : List CString) (state : IamState) :
    List PairingNotice × List CString :=
  let newly := newlyPaired pairedUsers state.users
  (newly.map fun username => ⟨username, state.pairedUsernames⟩, trackPaired pairedUsers newly)

theorem trackPaired_eq {pairedUsers : List CString} (h : pairedUsers.length ≤ maxPairedUsers)
    (names : List CString) :
    trackPaired pairedUsers names = (pairedUsers ++ names).take maxPairedUsers := by
  induction names generalizing pairedUsers with
  | nil => rw [trackPaired, List.foldl_nil, List.append_nil, List.take_of_length_le h]
  | cons name names ih =>
    rw [trackPaired, List.foldl_cons, ← trackPaired]
    split_ifs with hroom
    · rw [ih (by rw [List.length_append, List.length_singleton]; exact hroom), List.append_assoc]
      rfl
    · have hfull : pairedUsers.length = maxPairedUsers := by omega
      rw [ih h, List.take_append_of_le_length (Nat.le_of_eq hfull.symm),
        List.take_append_of_le_length (Nat.le_of_eq hfull.symm)]

theorem foldl_addNewlyPaired (pairedUsers : List CString) (users : List IamUser)
    (newly : List CString) :
    users.foldl (addNewlyPaired pairedUsers) newly
      = trackPaired newly
        (unknown pairedUsers ((users.filter IamUser.isPaired).map IamUser.username)) := by
  induction users generalizing newly with
  | nil => rfl
  | cons user users ih =>
    rw [List.foldl_cons, ih, addNewlyPaired, List.filter_cons]
    cases user.isPaired with
    | false => rfl
    | true =>
      rw [if_pos rfl, List.map_cons, unknown, unknown, List.filter_cons]
      by_cases hknown : user.username ∈ pairedUsers
      · simp [hknown]
      · simp [hknown, trackPaired]

/-- What the loop collects. -/
theorem newlyPaired_eq (pairedUsers : List CString) (state : IamState) :
    newlyPaired pairedUsers state.users
      = (unknown pairedUsers state.pairedUsernames).take maxPairedUsers := by
  rw [newlyPaired, foldl_addNewlyPaired, trackPaired_eq (Nat.zero_le _)]
  rfl

/-- The users that are known afterwards. -/
theorem checkAndAnnounceNewPairings_snd {pairedUsers : List CString}
    (h : pairedUsers.length ≤ maxPairedUsers) (state : IamState) :
    (checkAndAnnounceNewPairings pairedUsers state).2
      = learn maxPairedUsers pairedUsers state.pairedUsernames := by
  rw [checkAndAnnounceNewPairings, trackPaired_eq h, newlyPaired_eq, learn, List.take_append,
    List.take_append, List.take_take, Nat.min_eq_left (Nat.sub_le _ _)]

/-- The users that are announced. -/
theorem checkAndAnnounceNewPairings_fst (pairedUsers : List CString) {state : IamState}
    (hroom : state.pairedUsernames.length ≤ maxPairedUsers) :
    (checkAndAnnounceNewPairings pairedUsers state).1.map PairingNotice.username
      = unknown pairedUsers state.pairedUsernames := by
  have hlength : (unknown pairedUsers state.pairedUsernames).length ≤ maxPairedUsers :=
    (List.length_filter_le _ _).trans hroom
  rw [checkAndAnnounceNewPairings, List.map_map, newlyPaired_eq, List.take_of_length_le hlength]
  exact List.map_id _

/-! ## The worker -/

/-- The saver, with what the worker announces and remembers; `checked` is the history of the dumps
that it has looked at. -/
structure AnnouncingSaver where
  saver : StateSaver IamState
  pairedUsers : List CString
  notices : List PairingNotice
  checked : List (DumpedState IamState)

namespace AnnouncingSaver

/-- After `tmuxremote_iam_load_state`. -/
def init (saveThreadStarted : Bool) (loaded : IamState) : AnnouncingSaver where
  saver := .init saveThreadStarted loaded loaded
  pairedUsers := trackPaired [] loaded.pairedUsernames
  notices := []
  checked := []

/-- The worker looks at a state it has saved. -/
def check (s : AnnouncingSaver) (d : DumpedState IamState) : AnnouncingSaver :=
  { s with
    pairedUsers := (checkAndAnnounceNewPairings s.pairedUsers d.state).2
    notices := s.notices ++ (checkAndAnnounceNewPairings s.pairedUsers d.state).1
    checked := s.checked ++ [d] }

/-- What the step does beside the saver: a state is looked at before it is freed. -/
def announce (s : AnnouncingSaver) : SaverAction IamState → AnnouncingSaver
  | .worker =>
    match s.saver.worker with
    | .saved d => s.check d
    | .atLock | .waiting _ | .saving _ | .exited => s
  | .change _ | .callback | .deinit => s

/-- A step of one of the threads. -/
def step (s : AnnouncingSaver) (action : SaverAction IamState) : Option AnnouncingSaver :=
  (s.saver.step action).map fun saver => { s.announce action with saver := saver }

end AnnouncingSaver

/-! ## What is written and not looked at yet -/

/-- The dump that the worker is about to look at. -/
def SaverWorker.unchecked {σ : Type*} : SaverWorker σ → List (DumpedState σ)
  | saved d => [d]
  | atLock | waiting _ | saving _ | exited => []

@[simp] theorem SaverWorker.signal_unchecked {σ : Type*} (w : SaverWorker σ) :
    w.signal.unchecked = w.unchecked := by cases w <;> rfl

namespace StateSaver

variable {σ : Type*} {s s' : StateSaver σ} {action : SaverAction σ}

/-- What is written is the worker's to look at, unless a callback has written it. -/
theorem written_step (hstep : s.step action = some s')
    (hchecked : action = .worker → s.worker.unchecked = []) :
    (s'.worker.unchecked = s.worker.unchecked ∧ s'.written = s.written)
      ∨ (∃ d, s.callback = .savingDirectly d ∧ s'.worker.unchecked = s.worker.unchecked
        ∧ s'.written = s.written ++ [d])
      ∨ ∃ d, s.worker.unchecked = [] ∧ s'.worker.unchecked = [d]
        ∧ s'.written = s.written ++ [d] := by
  cases action with
  | change memory =>
    obtain rfl := Option.some.inj hstep
    exact .inl ⟨rfl, rfl⟩
  | callback =>
    obtain ⟨-, heq⟩ := Option.ite_none_left_eq_some.mp hstep
    obtain rfl := Option.some.inj heq
    rw [callbackStep.eq_def]
    cases hcallback : s.callback with
    | idle => exact .inl ⟨rfl, rfl⟩
    | dumped d => exact .inl ⟨rfl, rfl⟩
    | enqueuing d => exact .inl ⟨SaverWorker.signal_unchecked _, rfl⟩
    | savingDirectly d => exact .inr (.inl ⟨d, rfl, rfl, rfl⟩)
  | worker =>
    have hnone := hchecked rfl
    obtain ⟨rfl, -⟩ | ⟨d, hworker, rfl⟩ | ⟨d, hworker, rfl⟩ := workerStep_cases hstep
    · rw [takePending.eq_def]
      cases s.pendingState with
      | some d => exact .inl ⟨hnone.symm, rfl⟩
      | none =>
        dsimp only
        split_ifs
        · exact .inl ⟨hnone.symm, rfl⟩
        · exact .inl ⟨hnone.symm, rfl⟩
    · exact .inr (.inr ⟨d, hnone, rfl, rfl⟩)
    · rw [hworker] at hnone
      cases hnone
  | deinit =>
    obtain ⟨-, rfl⟩ | ⟨-, rfl⟩ | ⟨-, rfl⟩ | ⟨-, -, rfl⟩ | ⟨-, rfl⟩ := deinitStep_cases hstep
    · exact .inl ⟨rfl, rfl⟩
    · exact .inl ⟨rfl, rfl⟩
    · exact .inl ⟨SaverWorker.signal_unchecked _, rfl⟩
    · exact .inl ⟨rfl, rfl⟩
    · exact .inl ⟨rfl, rfl⟩

theorem step_of_saved {d : DumpedState σ} (hworker : s.worker = .saved d)
    (hstep : s.step .worker = some s') : s'.worker.unchecked = [] ∧ s'.written = s.written := by
  have heq : s.workerStep = some s' := hstep
  rw [workerStep.eq_def, hworker] at heq
  obtain rfl := Option.some.inj heq
  exact ⟨rfl, rfl⟩

/-- The worker was started, and no callback does its work. -/
structure WorkerSaves (s : StateSaver σ) : Prop where
  callback : ∀ d, s.callback ≠ .savingDirectly d
  started : s.shutdown = .running → s.saveThreadStarted = true

theorem WorkerSaves.step (h : WorkerSaves s) (hquiet : Quiet s action)
    (hstep : s.step action = some s') : WorkerSaves s' := by
  cases action with
  | change memory =>
    obtain rfl := Option.some.inj hstep
    exact ⟨h.callback, h.started⟩
  | callback =>
    obtain ⟨-, heq⟩ := Option.ite_none_left_eq_some.mp hstep
    obtain rfl := Option.some.inj heq
    have hstarted := h.started hquiet
    rw [callbackStep.eq_def]
    cases hcallback : s.callback with
    | idle =>
      refine ⟨fun _ heq => ?_, h.started⟩
      cases heq
    | dumped d =>
      refine ⟨fun d' heq => ?_, h.started⟩
      dsimp only [checkWorker] at heq
      rw [if_pos hstarted] at heq
      cases heq
    | enqueuing d =>
      refine ⟨fun _ heq => ?_, h.started⟩
      cases heq
    | savingDirectly d => exact absurd hcallback (h.callback d)
  | worker =>
    obtain ⟨rfl, -⟩ | ⟨d, -, rfl⟩ | ⟨d, -, rfl⟩ := workerStep_cases hstep
    · rw [takePending.eq_def]
      cases s.pendingState with
      | some d => exact ⟨h.callback, h.started⟩
      | none => exact ⟨h.callback, h.started⟩
    · exact ⟨h.callback, h.started⟩
    · exact ⟨h.callback, h.started⟩
  | deinit =>
    obtain ⟨-, rfl⟩ | ⟨-, rfl⟩ | ⟨-, rfl⟩ | ⟨-, -, rfl⟩ | ⟨-, rfl⟩ := deinitStep_cases hstep
    all_goals exact ⟨h.callback, fun hrunning => by cases hrunning⟩

end StateSaver

namespace AnnouncingSaver

variable {started : Bool} {loaded : IamState} {s s' : AnnouncingSaver}
  {action : SaverAction IamState}

/-- The users paired in each state that was looked at. -/
def batches (s : AnnouncingSaver) : List (List CString) :=
  s.checked.map fun d => d.state.pairedUsernames

/-- **What a step does**: the worker looks at what it has saved, or only the saver goes on. -/
theorem step_cases (hstep : s.step action = some s') :
    s.saver.step action = some s'.saver
      ∧ ((∃ d, action = .worker ∧ s.saver.worker = .saved d
          ∧ s' = { s.check d with saver := s'.saver })
        ∨ ((action = .worker → s.saver.worker.unchecked = [])
          ∧ s' = { s with saver := s'.saver })) := by
  obtain ⟨saver, hsaver, rfl⟩ := Option.map_eq_some_iff.mp hstep
  refine ⟨hsaver, ?_⟩
  cases action with
  | worker =>
    cases hworker : s.saver.worker with
    | saved d =>
      refine .inl ⟨d, rfl, rfl, ?_⟩
      rw [announce, hworker]
    | _ =>
      refine .inr ⟨fun _ => rfl, ?_⟩
      rw [announce, hworker]
  | _ => exact .inr ⟨nofun, rfl⟩

/-- What the worker remembers and has announced. -/
structure Told (loaded : IamState) (s : AnnouncingSaver) : Prop where
  known : s.pairedUsers = (seen loaded.pairedUsernames s.batches).take maxPairedUsers
  counts : (∀ batch ∈ s.batches, batch.length ≤ maxPairedUsers) →
    ∀ username, (s.notices.map PairingNotice.username).count username
      = timesReported maxPairedUsers loaded.pairedUsernames s.batches username

theorem told_init (started : Bool) (loaded : IamState) : Told loaded (init started loaded) := by
  have hbatches : (init started loaded).batches = [] := rfl
  constructor
  · rw [hbatches, seen_nil loaded.nodup_pairedUsernames, init, trackPaired_eq (Nat.zero_le _)]
    rfl
  · intro _ username
    rw [hbatches, timesReported_nil loaded.nodup_pairedUsernames]
    rfl

theorem Told.check (h : Told loaded s) (d : DumpedState IamState) : Told loaded (s.check d) := by
  have hlength : s.pairedUsers.length ≤ maxPairedUsers := by
    rw [h.known]
    exact List.length_take_le _ _
  have hbatches : (s.check d).batches = s.batches ++ [d.state.pairedUsernames] := List.map_append
  have hnodup := d.state.nodup_pairedUsernames
  constructor
  · rw [hbatches, ← learn_seen hnodup, ← h.known, AnnouncingSaver.check,
      checkAndAnnounceNewPairings_snd hlength]
  · intro hroom username
    rw [hbatches, List.forall_mem_append, List.forall_mem_singleton] at hroom
    rw [hbatches, timesReported_concat hnodup, ← h.counts hroom.1, ← h.known,
      AnnouncingSaver.check, List.map_append, List.count_append,
      checkAndAnnounceNewPairings_fst _ hroom.2]

theorem Told.step (h : Told loaded s) (hstep : s.step action = some s') : Told loaded s' := by
  obtain ⟨-, ⟨d, -, -, heq⟩ | ⟨-, heq⟩⟩ := step_cases hstep
  · rw [heq]
    exact ⟨(h.check d).known, (h.check d).counts⟩
  · rw [heq]
    exact ⟨h.known, h.counts⟩

/-- The worker looks at what is written, in that order. -/
def InOrder (s : AnnouncingSaver) : Prop :=
  (s.checked ++ s.saver.worker.unchecked).Sublist s.saver.written

theorem InOrder.step (h : InOrder s) (hstep : s.step action = some s') : InOrder s' := by
  rw [InOrder] at h
  obtain ⟨hsaver, ⟨d, rfl, hworker, heq⟩ | ⟨hchecked, heq⟩⟩ := step_cases hstep
  · obtain ⟨hunchecked, hwritten⟩ := StateSaver.step_of_saved hworker hsaver
    rw [InOrder, heq]
    dsimp only
    rw [hunchecked, hwritten, List.append_nil]
    rw [hworker] at h
    exact h
  · have hsame : s'.checked = s.checked := by rw [heq]
    rw [InOrder, hsame]
    obtain ⟨hunchecked, hwritten⟩ | ⟨d, -, hunchecked, hwritten⟩ | ⟨d, hnone, hunchecked, hwritten⟩
      := StateSaver.written_step hsaver hchecked
    · rw [hunchecked, hwritten]
      exact h
    · rw [hunchecked, hwritten]
      exact h.trans (List.sublist_append_left _ _)
    · rw [hnone, List.append_nil] at h
      rw [hunchecked, hwritten]
      exact h.append_right [d]

/-- Nothing is written but by the worker. -/
structure CaughtUp (s : AnnouncingSaver) : Prop where
  written : s.saver.written = s.checked ++ s.saver.worker.unchecked
  saves : s.saver.WorkerSaves

theorem CaughtUp.step (h : CaughtUp s) (hquiet : s.saver.Quiet action)
    (hstep : s.step action = some s') : CaughtUp s' := by
  obtain ⟨hsaver, ⟨d, rfl, hworker, heq⟩ | ⟨hchecked, heq⟩⟩ := step_cases hstep
  · refine ⟨?_, h.saves.step hquiet hsaver⟩
    obtain ⟨hunchecked, hwritten⟩ := StateSaver.step_of_saved hworker hsaver
    rw [hunchecked, hwritten, h.written, hworker, heq, List.append_nil]
    rfl
  · refine ⟨?_, h.saves.step hquiet hsaver⟩
    have hsame : s'.checked = s.checked := by rw [heq]
    rw [hsame]
    obtain ⟨hunchecked, hwritten⟩ | ⟨d, hdirect, -⟩ | ⟨d, hnone, hunchecked, hwritten⟩ :=
      StateSaver.written_step hsaver hchecked
    · rw [hunchecked, hwritten, h.written]
    · exact absurd hdirect (h.saves.callback d)
    · rw [hunchecked, hwritten, h.written, hnone, List.append_nil]

/-! ## Runs -/

/-- The invariant of quiet runs with a worker. -/
structure Settled (s : AnnouncingSaver) : Prop where
  saver : s.saver.Ordered ∧ s.saver.Kept
  caughtUp : CaughtUp s

theorem settled_init (loaded : IamState) : Settled (init true loaded) where
  saver := ⟨StateSaver.ordered_init true loaded loaded, StateSaver.kept_init true loaded loaded⟩
  caughtUp := ⟨rfl, nofun, fun _ => rfl⟩

theorem Settled.step (h : Settled s) (hquiet : s.saver.Quiet action)
    (hstep : s.step action = some s') : Settled s' where
  saver := StateSaver.Kept.step h.saver hquiet (step_cases hstep).1
  caughtUp := h.caughtUp.step hquiet hstep

/-- When a quiet shutdown has returned, everything written was looked at, the last dump too. -/
theorem Settled.getLast?_checked (h : Settled s) (hreturned : s.saver.shutdown = .returned) :
    s.checked.getLast? = s.saver.dumped.getLast? := by
  obtain ⟨hexited, -⟩ := h.saver.2.returned hreturned
  have hidle : s.saver.callback = .idle := h.saver.2.idle (hreturned ▸ nofun)
  have hlast := h.saver.2.last
  rw [StateSaver.queue, hexited, hidle, h.caughtUp.written, hexited] at hlast
  simpa [SaverWorker.unchecked, SaverWorker.unwritten, SaverWorker.slot, StateCallback.held]
    using hlast

/-- **Which pairings are announced.**  In every interleaving of the callbacks, the worker and the
shutdown the worker looks at dumps in the order in which they are written.  As long as no state has
more paired users than there is room for, a user among the first ones ever seen paired is announced
once, or not at all if paired at the start, and another with every state that has the user paired.
When the shutdown returns after a quiet run, the worker has looked at the last dump. -/
theorem pairings_announced (started : Bool) (loaded : IamState)
    (run : List (SaverAction IamState)) (s : AnnouncingSaver)
    (hrun : Guarded.run step (init started loaded) run = some s)
    (hroom : ∀ d ∈ s.checked, d.state.pairedUsernames.length ≤ maxPairedUsers) :
    s.checked.Sublist s.saver.written
    ∧ (∀ username, (s.notices.map PairingNotice.username).count username
      = if username ∈ (seen loaded.pairedUsernames s.batches).take maxPairedUsers then
          if username ∈ loaded.pairedUsernames then 0 else 1
        else s.batches.countP (username ∈ ·))
    ∧ (started = true →
      Guarded.AllSteps step (fun s action => s.saver.Quiet action) (init started loaded) run →
      s.saver.shutdown = .returned → s.checked.getLast? = s.saver.dumped.getLast?) := by
  refine ⟨?_, ?_, ?_⟩
  · have horder : InOrder s :=
      Guarded.run_invariant (fun _ _ _ hs hstep => InOrder.step hs hstep)
        (by cases started <;> exact List.nil_sublist _) hrun
    exact (List.sublist_append_left _ _).trans horder
  · have htold : Told loaded s :=
      Guarded.run_invariant (fun _ _ _ hs hstep => Told.step hs hstep)
        (told_init started loaded) hrun
    exact htold.counts (List.forall_mem_map.mpr hroom)
  · rintro rfl hquiet hreturned
    have hsettled : Settled s :=
      (Guarded.throughout_of_allSteps (fun _ _ _ hs hC hstep => Settled.step hs hC hstep)
        (settled_init loaded) hquiet).last hrun
    exact hsettled.getLast?_checked hreturned

instance : DecidableEq IamState := fun a b =>
  decidable_of_iff (a.users = b.users ∧ a.passwordInvitePairing = b.passwordInvitePairing) (by
    obtain ⟨users, pairing, -⟩ := a
    obtain ⟨users', pairing', -⟩ := b
    simp)

/-- The first of two invited users is paired. -/
def phonePaired : IamState := recordPairing twoUsers (.ofString "phone")

/-- The second one completes its pairing, and the agent is stopped. -/
def tabletPairs : List (SaverAction IamState) :=
  [.change (recordPairing phonePaired (.ofString "tablet")), .callback, .callback, .callback,
    .worker, .worker, .worker, .change phonePaired, .deinit, .deinit, .deinit, .worker, .deinit,
    .deinit]

theorem pairings_announced_tablet :
    ∃ s, Guarded.run step (init true phonePaired) tabletPairs = some s
      ∧ (s.notices.map PairingNotice.username).count (.ofString "tablet") = 1
      ∧ (s.notices.map PairingNotice.username).count (.ofString "phone") = 0
      ∧ s.checked.getLast? = s.saver.dumped.getLast? := by
  obtain ⟨-, hcount, hlast⟩ :=
    pairings_announced true phonePaired tabletPairs _ rfl (by decide +kernel)
  refine ⟨_, rfl, ?_, ?_, hlast rfl (by decide +kernel) rfl⟩
  · exact (hcount _).trans (by decide +kernel)
  · exact (hcount _).trans (by decide +kernel)

end AnnouncingSaver

end TmuxRemote
