import TmuxRemote.Agent.Locks

/-!
# Agent/Deadlocks — the order of the agent's mutexes, and what stands against it

A detector's mutex is taken with the list of data streams locked, and the list of control streams
with the detector locked, as a callback of the detector leads there; a write to a control stream
comes last.  Mutexes are taken in this order.  Two things are done against it.  The last reference
to a control stream may be given back with a mutex held, and its reader is joined then.  And a write
to a control stream is waited for with the mutexes held that lead to it, while the thread of the SDK
that ends the wait takes mutexes itself.

**In every deadlock one of the two is done** (`deadlock_cause`), and both happen
(`deadlock_cause_of_both`).
-/

namespace TmuxRemote

open LockOrder

/-! ## The order -/

/-- Where the mutex stands in the order; those at one height are not taken together. -/
def AgentMutex.level : AgentMutex → ℕ
  | sessionMap | activeStreams | queue _ | save => 4
  | detector _ => 5
  | streamList => 6
  | write _ | notify => 7

/-- A thread stands above those that join it, and the SDK's above those that wait for futures. -/
def AgentThread.level : AgentThread → ℕ
  | main => 0
  | cleanup _ | monitor | worker _ | saver => 1
  | setup _ | ptyReader _ | streamReader _ | reader _ => 2
  | sdk => 3

theorem AgentMutex.level_le (m : AgentMutex) : m.level ≤ 7 := by
  cases m <;> simp [level]

theorem AgentThread.level_le (t : AgentThread) : t.level ≤ 3 := by
  cases t <;> simp [level]

/-- A mutex stands above every thread. -/
theorem AgentThread.level_lt (t : AgentThread) (m : AgentMutex) : t.level < m.level := by
  have hthread := t.level_le
  have hmutex : 4 ≤ m.level := by cases m <;> simp [AgentMutex.level]
  omega

namespace AgentLocks

/-- The operation is in order; or it joins the reader of a control stream with a mutex held, or
waits for a write to one.  The SDK's thread does neither of these. -/
def Permitted (t : AgentThread) (held : List AgentMutex) (op : AgentOp) : Prop :=
  Threads.InOrder AgentMutex.level AgentThread.level t held op
    ∨ t ≠ .sdk ∧ ((∃ c, op = .join (.reader c) ∧ held ≠ [])
      ∨ ∃ c, op = .await .sdk ∧ AgentMutex.write c ∈ held)

/-- Everything that is held stands below this. -/
def Below (n : ℕ) (held : List AgentMutex) : Prop := ∀ h ∈ held, h.level < n

theorem Below.mono {n n' : ℕ} {held : List AgentMutex} (h : Below n held) (hle : n ≤ n') :
    Below n' held := fun m hm => (h m hm).trans_le hle

/-- One more mutex is held. -/
theorem Below.cons {n : ℕ} {m : AgentMutex} {held : List AgentMutex} (h : Below m.level held)
    (hm : m.level < n) : Below n (m :: held) :=
  List.forall_mem_cons.mpr ⟨hm, h.mono hm.le⟩

theorem below_nil {n : ℕ} : Below n [] := nofun

section

variable {t : AgentThread} {held : List AgentMutex}

/-- A mutex is taken with those below it held. -/
theorem neutral_locked {m : AgentMutex} {body : List AgentOp} (h : Below m.level held)
    (hbody : Neutral (Permitted t) (m :: held) body) :
    Neutral (Permitted t) held (locked m body) :=
  .locked (.inl ⟨t.level_lt m, h⟩) hbody (.inl trivial)

/-- Taken and given back. -/
theorem neutral_touched {m : AgentMutex} (h : Below m.level held) :
    Neutral (Permitted t) held (locked m []) := neutral_locked h .nil

/-- The SDK's thread comes back for the next callback. -/
theorem neutral_pause : Neutral (Permitted t) held [.pause] :=
  .single trivial (.inl trivial) rfl

theorem neutral_create {j : AgentThread} : Neutral (Permitted t) held [.create j] :=
  .single trivial (.inl trivial) rfl

/-- With nothing held, threads above are joined. -/
theorem neutral_join {j : AgentThread} (h : t.level < j.level) :
    Neutral (Permitted t) [] [.join j] :=
  .single trivial (.inl ⟨h, nofun⟩) rfl

/-- Futures are waited for with nothing held, or in a write to a control stream. -/
theorem neutral_futureWaits (h : held = [] ∨ ∃ c, AgentMutex.write c ∈ held) (hsdk : t ≠ .sdk)
    (n : ℕ) : Neutral (Permitted t) held (futureWaits n) := by
  refine .flatMap fun _ _ => .single trivial ?_ rfl
  obtain rfl | ⟨c, hc⟩ := h
  · refine .inl ⟨?_, nofun⟩
    cases t with
    | sdk => exact absurd rfl hsdk
    | main => exact Nat.zero_lt_succ 2
    | cleanup _ | monitor | worker _ | saver => exact Nat.lt_add_of_pos_right Nat.two_pos
    | setup _ | ptyReader _ | streamReader _ | reader _ => exact Nat.lt_add_one 2
  · exact .inr ⟨hsdk, .inr ⟨c, rfl, hc⟩⟩

/-- What may be skipped. -/
theorem neutral_ite {b : Bool} {ops : List AgentOp} (h : Neutral (Permitted t) held ops) :
    Neutral (Permitted t) held (if b then ops else []) := by
  split_ifs
  · exact h
  · exact .nil

/-- What is done with something that may not be there. -/
theorem neutral_elim {α : Type*} {o : Option α} {f : α → List AgentOp}
    (h : ∀ a, Neutral (Permitted t) held (f a)) : Neutral (Permitted t) held (o.elim [] f) := by
  cases o with
  | none => exact .nil
  | some a => exact h a

/-- The mutex is taken again in its place. -/
theorem neutral_condWait {m : AgentMutex} (h : Below m.level held) :
    Neutral (Permitted t) (m :: held) (condWait m) where
  allowed := by
    refine ⟨List.mem_cons_self, .inl trivial, trivial, .inl ⟨t.level_lt m, ?_⟩, trivial⟩
    rw [Op.after, List.erase_cons_head]
    exact h
  after := by
    rw [condWait, List.foldl_cons, Op.after, List.erase_cons_head]
    rfl

/-! ### The functions -/

/-- A reference may be given back with a mutex held, or by a thread that may join a reader. -/
theorem neutral_releaseImpl (h : held ≠ [] ∧ t ≠ .sdk ∨ held = [] ∧ t.level < 2)
    (target : Target) : Neutral (Permitted t) held (releaseImpl target) := by
  refine neutral_ite (.single trivial ?_ rfl)
  obtain ⟨hne, hsdk⟩ | ⟨rfl, hlevel⟩ := h
  · exact .inr ⟨hsdk, .inl ⟨target.stream, rfl, hne⟩⟩
  · exact .inl ⟨hlevel, nofun⟩

/-- The write is waited for with its mutex held. -/
theorem neutral_sendToStream (h : Below 7 held) (hsdk : t ≠ .sdk) (target : Target) :
    Neutral (Permitted t) held (sendToStream target) :=
  neutral_ite <| neutral_locked (m := .write target.stream) h <|
    neutral_futureWaits (.inr ⟨target.stream, List.mem_cons_self⟩) hsdk _

theorem neutral_sendToRef (hne : held ≠ []) (h : Below 6 held) (hsdk : t ≠ .sdk)
    (targets : List Target) : Neutral (Permitted t) held (sendToRef targets) :=
  (neutral_touched (m := .streamList) h).append <| .flatMap fun target _ =>
    (neutral_sendToStream (h.mono (by decide)) hsdk target).append
      (neutral_releaseImpl (.inl ⟨hne, hsdk⟩) target)

theorem neutral_notify (h : Below 7 held) : Neutral (Permitted t) held notify := neutral_touched h

/-- The detector's callback sends with the detector locked. -/
theorem neutral_detectorReports (h : Below 5 held) (hsdk : t ≠ .sdk) (i : ℕ)
    (events : List (List Target)) : Neutral (Permitted t) held (detectorReports i events) :=
  neutral_locked h <| .flatMap fun targets _ =>
    neutral_sendToRef (List.cons_ne_nil _ _) (Below.cons (m := .detector i) h (Nat.lt_add_one 5))
      hsdk targets

theorem neutral_detectorCall (h : Below 5 held) (i : ℕ) :
    Neutral (Permitted t) held (detectorCall i) := neutral_touched h

/-- The detector is locked with the list of data streams. -/
theorem neutral_callForRef (h : Below 4 held) (found : Option ℕ) :
    Neutral (Permitted t) held (callForRef found) :=
  neutral_locked h <| neutral_elim <|
    neutral_detectorCall (Below.cons (m := .activeStreams) h (by decide))

/-- So it is where it reports. -/
theorem neutral_resolvePromptForRef (h : Below 4 held) (hsdk : t ≠ .sdk)
    (found : Option (ℕ × List (List Target))) :
    Neutral (Permitted t) held (resolvePromptForRef found) :=
  neutral_locked h <| neutral_elim fun (i, events) =>
    neutral_detectorReports (Below.cons (m := .activeStreams) h (by decide)) hsdk i events

theorem neutral_cleanupActiveStream (h : Below 4 held) (i : ℕ) (created : Bool) :
    Neutral (Permitted t) held (cleanupActiveStream i created) :=
  ((neutral_touched (m := .sessionMap) h).append
    (neutral_touched (m := .activeStreams) h)).append (neutral_ite neutral_create)

theorem neutral_startStreamCloseOnce (h : Below 4 held) (i : ℕ) (cleaned : Option Bool) :
    Neutral (Permitted t) held (startStreamCloseOnce i cleaned) :=
  neutral_elim (neutral_cleanupActiveStream h i)

/-! ### The threads -/

/-- The setup of a data stream creates its readers. -/
theorem neutral_streamSetupThread (i : ℕ) (configured : Bool) (cleaned : Option Bool)
    (ending : SetupEnd) :
    Neutral (Permitted t) [] (streamSetupThread i configured cleaned ending) := by
  have hclose := @neutral_startStreamCloseOnce t [] below_nil i cleaned
  have hdetector : Neutral (Permitted t) [] (setUpDetector i configured) :=
    (neutral_ite (neutral_detectorCall below_nil i)).append (neutral_detectorCall below_nil i)
  cases ending with
  | closing => exact .nil
  | noPty => exact hclose
  | noPtyReader => exact hdetector.append hclose
  | noStreamReader => exact (hdetector.append neutral_create).append hclose
  | done => exact (hdetector.append neutral_create).append neutral_create

/-- The reader of a terminal feeds the detector, and waits for its own writes with nothing held. -/
theorem neutral_ptyReaderThread (i : ℕ) (reads : List PtyRead) (cleaned : Option Bool) :
    Neutral (Permitted (.ptyReader i)) [] (ptyReaderThread i reads cleaned) := by
  have hread (read : PtyRead) : Neutral (Permitted (.ptyReader i)) []
      (read.events.elim [] (detectorReports i) ++ futureWaits read.waits.toNat) :=
    (neutral_elim (neutral_detectorReports (t := .ptyReader i) below_nil nofun i)).append
      (neutral_futureWaits (t := .ptyReader i) (.inl rfl) nofun _)
  exact ((Neutral.flatMap fun read _ => hread read).append (neutral_notify below_nil)).append
    (neutral_startStreamCloseOnce below_nil i cleaned)

/-- The reader of a control stream resolves prompts. -/
theorem neutral_readerThreadFunc (c : ℕ) (reads : List ResolveRead) :
    Neutral (Permitted (.reader c)) [] (readerThreadFunc reads) :=
  .flatMap fun read _ => (neutral_futureWaits (t := .reader c) (.inl rfl) nofun read.waits).append
    (neutral_elim (neutral_resolvePromptForRef (t := .reader c) below_nil nofun))

/-- The end of a data stream joins its threads. -/
theorem neutral_endStream (h : t.level < 2) (i : ℕ) (initialized : Bool) :
    Neutral (Permitted t) [] (endStream i initialized) :=
  (((neutral_join h).append (neutral_join h)).append (neutral_join h)).append
    (neutral_ite (neutral_detectorCall below_nil i))

/-- The monitor gives references back with nothing held, but for the streams that it unlinks. -/
theorem neutral_monitorTurn (turn : MonitorTurn) :
    Neutral (Permitted .monitor) [] (monitorTurn turn) := by
  have hlist := @neutral_touched .monitor [] .streamList below_nil
  have hsend := @neutral_sendToStream .monitor [] below_nil (by decide)
  have hrelease := @neutral_releaseImpl .monitor [] (.inr ⟨rfl, by decide⟩)
  have hsync : Neutral (Permitted .monitor) []
      (turn.broadcast.elim (turn.sessionSync.flatMap sendToStream)
        fun targets => locked .streamList [] ++ targets.flatMap sendToStream) := by
    cases turn.broadcast with
    | none => exact .flatMap fun target _ => hsend target
    | some targets => exact hlist.append (.flatMap fun target _ => hsend target)
  have hprompts : Neutral (Permitted .monitor) [] (turn.promptSync.flatMap
      fun prompt => callForRef prompt.2 ++ sendToStream prompt.1 ++ releaseImpl prompt.1) :=
    .flatMap fun prompt _ =>
      ((neutral_callForRef below_nil prompt.2).append (hsend prompt.1)).append (hrelease prompt.1)
  have hreap : Neutral (Permitted .monitor) []
      (locked .streamList (turn.reaped.flatMap releaseImpl)) :=
    neutral_locked below_nil <| .flatMap fun target _ =>
      neutral_releaseImpl (t := .monitor) (.inl ⟨List.cons_ne_nil _ _, by decide⟩) target
  exact (((((hlist.append hsync).append (.flatMap fun target _ => hrelease target)).append
    hlist).append hprompts).append hreap).append
      (neutral_locked below_nil (neutral_condWait below_nil))

/-- A callback waits for mutexes only. -/
theorem neutral_sdkCallback (callback : SdkCallback) :
    Neutral (Permitted .sdk) [] callback.ops := by
  have hclose := @neutral_startStreamCloseOnce .sdk [] below_nil
  cases callback with
  | streamCallback i cleaned => exact (neutral_touched below_nil).append (hclose i cleaned)
  | streamRefused i created => exact neutral_cleanupActiveStream below_nil i created
  | streamDenied i cleaned => exact hclose i cleaned
  | streamUnset i cleaned => exact (neutral_touched below_nil).append (hclose i cleaned)
  | streamAccepted i => exact (neutral_touched below_nil).append neutral_create
  | streamClosed i created => exact neutral_cleanupActiveStream below_nil i created
  | controlStreamRefused target =>
    rw [SdkCallback.ops, releaseImpl, Bool.and_false]
    exact .nil
  | controlStreamAccepted c reader monitor =>
    exact (((neutral_ite neutral_create).append (neutral_touched below_nil)).append
      (neutral_locked below_nil (neutral_ite neutral_create))).append (neutral_notify below_nil)
  | coapRequest h turns => exact .flatMap fun _ _ => neutral_touched below_nil
  | iamStateChanged queued => exact neutral_ite (neutral_touched below_nil)
  | quiet => exact .nil

theorem neutral_sdkThread (callbacks : List SdkCallback) :
    Neutral (Permitted .sdk) [] (sdkThread callbacks) :=
  .flatMap fun callback _ => neutral_pause.append (neutral_sdkCallback callback)

theorem neutral_coapWork (work : CoapWork) : Neutral (Permitted t) [] work.ops := by
  cases work with
  | attach done => exact (neutral_touched below_nil).append (neutral_ite (neutral_notify below_nil))
  | create => exact neutral_notify below_nil
  | resize sized found =>
    exact ((neutral_touched below_nil).append (neutral_ite (neutral_touched below_nil))).append
      (neutral_callForRef below_nil found)
  | answer => exact .nil

theorem neutral_lockedWaiting (m : AgentMutex) (waits : ℕ) :
    Neutral (Permitted t) [] (lockedWaiting m waits) :=
  neutral_locked below_nil (.flatMap fun _ _ => neutral_condWait below_nil)

/-- The main thread joins and waits with nothing held. -/
theorem neutral_mainThread (waits : Bool) (handlers : List (ℕ × ℕ))
    (dataStreams : List (ℕ × Bool)) (controlStreams : List Target) :
    Neutral (Permitted .main) [] (mainThread waits handlers dataStreams controlStreams) := by
  have htouched (m : AgentMutex) := @neutral_touched .main [] m below_nil
  have hdeinit (h waits : ℕ) : Neutral (Permitted .main) [] (coapHandlerDeinit h waits) :=
    (((htouched _).append (neutral_lockedWaiting _ waits)).append
      (neutral_join (j := .worker h) Nat.one_pos)).append (htouched _)
  have hstreams : Neutral (Permitted .main) [] (streamListenerDeinit dataStreams) :=
    (htouched _).append (.flatMap fun stream _ =>
      neutral_endStream (by decide) stream.1 stream.2)
  have hcontrols : Neutral (Permitted .main) [] (controlStreamListenerDeinit controlStreams) :=
    (htouched _).append (.flatMap fun target _ =>
      neutral_releaseImpl (.inr ⟨rfl, by decide⟩) target)
  have hstart : Neutral (Permitted .main) [] ([.create .saver] ++ futureWaits waits.toNat
      ++ handlers.flatMap (fun handler => [.create (.worker handler.1)])) :=
    (neutral_create.append (neutral_futureWaits (t := .main) (.inl rfl) (by decide) _)).append
      (.flatMap fun _ _ => neutral_create)
  have hstop : Neutral (Permitted .main) [] ([.create .saver] ++ futureWaits waits.toNat
      ++ handlers.flatMap (fun handler => [.create (.worker handler.1)])
      ++ handlers.flatMap (fun handler => locked (.queue handler.1) [])
      ++ locked .activeStreams [] ++ controlStreamListenerStop ++ [.join .sdk]) :=
    (((hstart.append (.flatMap fun _ _ => htouched _)).append (htouched _)).append
      ((htouched _).append (htouched _))).append (neutral_join (by decide))
  exact (((((hstop.append (.flatMap fun handler _ => hdeinit handler.1 handler.2)).append
    (neutral_join (j := .monitor) Nat.one_pos)).append hstreams).append hcontrols).append
      (htouched _)).append (neutral_join (j := .saver) Nat.one_pos)

/-- **Every program of the agent** keeps to the order, but for joins of readers and for writes. -/
theorem IsProgram.neutral {program : List AgentOp} (h : IsProgram t program) :
    Neutral (Permitted t) [] program := by
  cases h with
  | main waits handlers dataStreams controlStreams =>
    exact neutral_mainThread waits handlers dataStreams controlStreams
  | sdk callbacks => exact neutral_sdkThread callbacks
  | setup i configured cleaned ending => exact neutral_streamSetupThread i configured cleaned ending
  | ptyReader i reads cleaned => exact neutral_ptyReaderThread i reads cleaned
  | streamReader i waits cleaned =>
    exact (neutral_futureWaits (t := .streamReader i) (.inl rfl) nofun waits).append
      (neutral_startStreamCloseOnce below_nil i cleaned)
  | cleanup i initialized => exact @neutral_endStream (.cleanup i) Nat.one_lt_two i initialized
  | monitor turns => exact .flatMap fun turn _ => neutral_monitorTurn turn
  | reader c reads => exact neutral_readerThreadFunc c reads
  | worker h requests waits =>
    exact (Neutral.flatMap fun (n, work) _ =>
      (neutral_lockedWaiting _ n).append (neutral_coapWork work)).append
        (neutral_lockedWaiting _ waits)
  | saver waits => exact .flatMap fun n _ => neutral_lockedWaiting _ n

end

/-! ## Deadlocks -/

/-- The thread is about to join the reader of a control stream, and holds a mutex. -/
def JoinsReaderLocked (s : Threads AgentMutex AgentThread) (t : AgentThread) : Prop :=
  (∃ c rest, s.todo t = .join (.reader c) :: rest) ∧ ∃ m, s.holder m = some t

/-- The thread waits for its write to a control stream, and the SDK's thread for a mutex. -/
def AwaitsSdkLocked (s : Threads AgentMutex AgentThread) (t : AgentThread) : Prop :=
  (∃ rest, s.todo t = .await .sdk :: rest) ∧ (∃ c, s.holder (.write c) = some t)
    ∧ ∃ m rest, s.todo .sdk = .acquire m :: rest ∧ (s.holder m).isSome = true

section

variable {s : Threads AgentMutex AgentThread} {held : AgentThread → List AgentMutex}

/-- The SDK's thread waits for mutexes only: it stands above every thread. -/
theorem exists_acquire_of_waitsFor (h : Threads.Keeps Permitted s held) {k : AgentThread}
    (hwaits : s.WaitsFor .sdk k) :
    ∃ m rest, s.todo .sdk = .acquire m :: rest ∧ s.holder m = some k := by
  have hhead {op : AgentOp} {rest : List AgentOp} (hnext : s.todo .sdk = op :: rest) :
      Threads.InOrder AgentMutex.level AgentThread.level .sdk (held .sdk) op := by
    have hallowed := h.allowed .sdk
    rw [hnext] at hallowed
    exact hallowed.2.1.resolve_right fun hother => hother.1 rfl
  cases hwaits with
  | lock hnext hholder => exact ⟨_, _, hnext, hholder⟩
  | join hnext => exact absurd (hhead hnext).1 k.level_le.not_gt
  | await hnext => exact absurd (hhead hnext).1 k.level_le.not_gt

/-- What one deadlock comes from. -/
theorem exists_cause (h : Threads.Keeps Permitted s held) {D : Set AgentThread}
    (hD : s.Deadlocked D) :
    ∃ t ∈ D, JoinsReaderLocked s t ∨ AwaitsSdkLocked s t ∧ AgentThread.sdk ∈ D := by
  obtain ⟨t, ht, op, rest, htodo, hpermitted, hnot⟩ := h.exists_not_inOrder
    AgentMutex.level_le (fun t => t.level_le.trans (by decide)) hD
  obtain ⟨-, ⟨c, rfl, hne⟩ | ⟨c, rfl, hwrite⟩⟩ := hpermitted.resolve_left hnot
  · obtain ⟨m, hm⟩ := List.exists_mem_of_ne_nil _ hne
    exact ⟨t, ht, .inl ⟨⟨c, rest, htodo⟩, m, (h.holds t m).mp hm⟩⟩
  · obtain ⟨k, hk, hwaits⟩ := hD.2 t ht
    obtain rfl : k = .sdk := by
      cases hwaits with
      | lock hnext => exact nomatch htodo.symm.trans hnext
      | join hnext => exact nomatch htodo.symm.trans hnext
      | await hnext =>
        obtain ⟨heq, -⟩ := List.cons.inj (htodo.symm.trans hnext)
        exact (Op.await.inj heq).symm
    obtain ⟨l, -, hsdk⟩ := hD.2 .sdk hk
    obtain ⟨m, later, hnext, hholder⟩ := exists_acquire_of_waitsFor h hsdk
    exact ⟨t, ht, .inr ⟨⟨⟨rest, htodo⟩, ⟨c, (h.holds t _).mp hwrite⟩, m, later, hnext,
      Option.isSome_of_mem hholder⟩, hk⟩⟩

end

/-- **What a deadlock comes from.**  Whatever the threads find on their way, and in whatever order
they take their steps: if some of them wait for each other, one of them joins the reader of a
control stream and has not unlocked a mutex before, or waits for its write to one while the SDK's
thread is among them and waits for a mutex; and as long as none does either, and not all are at
their end, some thread can go on. -/
theorem deadlock_cause {programs : AgentThread → List AgentOp}
    (hprograms : ∀ t, IsProgram t (programs t)) {run : List AgentThread}
    {s : Threads AgentMutex AgentThread}
    (hrun : Guarded.run Threads.step (.init atStart programs) run = some s) :
    (∀ D, s.Deadlocked D →
        ∃ t ∈ D, JoinsReaderLocked s t ∨ AwaitsSdkLocked s t ∧ AgentThread.sdk ∈ D)
      ∧ ((∃ t, s.Runs t) → (∀ t, ¬ JoinsReaderLocked s t ∧ ¬ AwaitsSdkLocked s t) →
        ∃ t, (s.step t).isSome = true) := by
  obtain ⟨held, hkeeps⟩ := Threads.keeps_run (fun t => (hprograms t).neutral) hrun
  refine ⟨fun D hD => exists_cause hkeeps hD, fun hruns hnone => ?_⟩
  by_contra hstuck
  push Not at hstuck
  obtain ⟨t, -, hjoins | ⟨hawaits, -⟩⟩ := exists_cause hkeeps
    (hkeeps.deadlocked_of_stuck (fun t => by simpa using hstuck t) hruns)
  · exact (hnone t).1 hjoins
  · exact (hnone t).2 hawaits

/-- A control stream is there, its reader resolves a prompt, and a new data stream comes. -/
def resolvingPrograms (reaped : List Target) (targets : List Target) :
    AgentThread → List AgentOp
  | .main => mainThread true [] [] []
  | .sdk => sdkThread [.controlStreamAccepted 0 true true, .streamCallback 0 none]
  | .setup i => streamSetupThread i false none .closing
  | .ptyReader i => ptyReaderThread i [] none
  | .streamReader i => streamReaderThread i 0 none
  | .cleanup i => endStream i false
  | .monitor => [MonitorTurn.mk [] none [] reaped].flatMap monitorTurn
  | .reader _ => readerThreadFunc [⟨1, some (some (0, [targets]))⟩]
  | .worker h => workerThread h [] 0
  | .saver => saverThread []

theorem isProgram_resolvingPrograms (reaped targets : List Target) (t : AgentThread) :
    IsProgram t (resolvingPrograms reaped targets t) := by
  cases t with
  | main => exact .main true [] [] []
  | sdk => exact .sdk _
  | setup i => exact .setup i false none .closing
  | ptyReader i => exact .ptyReader i [] none
  | streamReader i => exact .streamReader i 0 none
  | cleanup i => exact .cleanup i false
  | monitor => exact .monitor _
  | reader c => exact .reader c _
  | worker h => exact .worker h [] 0
  | saver => exact .saver []

/-- The control stream. -/
def resolvingTarget : Target := ⟨0, true, true, true, true⟩

/-- The stream is unlinked, and its reader is about to look for it. -/
def reapingRun : List AgentThread :=
  List.replicate 9 .sdk ++ List.replicate 5 .monitor ++ List.replicate 3 (.reader 0)

/-- The reader sends, and the SDK's thread comes with the new data stream. -/
def sendingRun : List AgentThread :=
  List.replicate 9 .sdk ++ List.replicate 6 (.reader 0) ++ [.sdk]

theorem deadlock_cause_of_both :
    (∃ s, Guarded.run Threads.step (.init atStart (resolvingPrograms [resolvingTarget] []))
        reapingRun = some s ∧ s.Deadlocked {.monitor, .reader 0}
      ∧ ∃ t ∈ ({.monitor, .reader 0} : Set AgentThread), JoinsReaderLocked s t)
    ∧ ∃ s, Guarded.run Threads.step (.init atStart (resolvingPrograms [] [resolvingTarget]))
        sendingRun = some s ∧ s.Deadlocked {.sdk, .reader 0}
      ∧ ∃ t ∈ ({.sdk, .reader 0} : Set AgentThread), AwaitsSdkLocked s t := by
  refine ⟨?_, ?_⟩
  · obtain ⟨s, hrun⟩ : ∃ s, Guarded.run Threads.step
        (.init atStart (resolvingPrograms [resolvingTarget] [])) reapingRun = some s := ⟨_, rfl⟩
    have hD : s.Deadlocked {.monitor, .reader 0} := by
      obtain rfl := Option.some.inj hrun
      refine ⟨⟨_, Or.inl rfl⟩, ?_⟩
      rintro t (rfl | rfl)
      · exact ⟨.reader 0, Or.inr rfl, .join rfl ⟨rfl, nofun⟩⟩
      · exact ⟨.monitor, Or.inl rfl, .lock (m := .streamList) rfl rfl⟩
    obtain ⟨t, ht, hjoins | ⟨-, hsdk⟩⟩ :=
      (deadlock_cause (isProgram_resolvingPrograms _ _) hrun).1 _ hD
    · exact ⟨s, hrun, hD, t, ht, hjoins⟩
    · obtain hsdk | hsdk := hsdk <;> cases hsdk
  · obtain ⟨s, hrun⟩ : ∃ s, Guarded.run Threads.step
        (.init atStart (resolvingPrograms [] [resolvingTarget])) sendingRun = some s := ⟨_, rfl⟩
    have hD : s.Deadlocked {.sdk, .reader 0} := by
      obtain rfl := Option.some.inj hrun
      refine ⟨⟨_, Or.inl rfl⟩, ?_⟩
      rintro t (rfl | rfl)
      · exact ⟨.reader 0, Or.inr rfl, .lock (m := .activeStreams) rfl rfl⟩
      · exact ⟨.sdk, Or.inl rfl, .await rfl rfl⟩
    obtain ⟨t, ht, ⟨⟨c, rest, hjoin⟩, -⟩ | ⟨hawaits, -⟩⟩ :=
      (deadlock_cause (isProgram_resolvingPrograms _ _) hrun).1 _ hD
    · obtain rfl := Option.some.inj hrun
      obtain rfl | rfl := ht <;> exact nomatch hjoin
    · exact ⟨s, hrun, hD, t, ht, hawaits⟩

end AgentLocks

end TmuxRemote
