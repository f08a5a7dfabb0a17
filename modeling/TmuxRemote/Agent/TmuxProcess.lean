import Mathlib.Data.List.Nodup
import Mathlib.Logic.Function.Basic
import TmuxRemote.Library.Guarded

/-!
# Agent/TmuxProcess — who collects the tmux children (`tmuxremote_tmux.c`)

Requests and the monitor run tmux on several threads at once, each thread one child at a time.
`waitpid_timeout` looks for the end of its child every ten milliseconds, and has it terminated once
the time is up; `terminate_process` collects what it has terminated, and behind it stands another
`waitpid` of the same process id, which by then may be that of another child.

**Every child is collected once, by the thread that forked it, and no signal goes astray**, exactly
if that last look never finds another child that has ended (`children_supervised_iff`); one that is
still running comes to no harm.

Each reading of the clock, `kill` and `waitpid` is a step of its own, between which time passes and
children end.  A process id is free again once its child has been collected.
-/

namespace TmuxRemote

/-! ## Children -/

/-- How a process has ended. -/
inductive WaitStatus
  | exited (code : UInt8)
  | signaled (signal : ℕ)
  deriving DecidableEq

/-- `WIFEXITED(status) && WEXITSTATUS(status) == 0` -/
def WaitStatus.succeeded : WaitStatus → Bool
  | exited code => code == 0
  | signaled _ => false

/-- A child that has not been collected; its status is there once it has ended. -/
structure ChildProcess where
  /-- The forks are numbered as they come. -/
  serial : ℕ
  status : Option WaitStatus
  deriving DecidableEq

/-- Where a thread is with its child. -/
inductive WaiterPc
  | idle
  /-- The child has been forked, and its output may be read. -/
  | forked (pid serial : ℕ)
  /-- At the test of the clock, in `waitpid_timeout` or (`grace`) in `terminate_process`. -/
  | polling (grace : Bool) (pid serial deadline : ℕ)
  /-- Before the `waitpid` of the loop. -/
  | looking (grace : Bool) (pid serial deadline : ℕ)
  /-- Before `kill(pid, SIGTERM)`. -/
  | terminating (pid serial : ℕ)
  /-- Before `kill(pid, SIGKILL)`. -/
  | killing (pid serial : ℕ)
  /-- In the `waitpid` that waits. -/
  | reaping (pid serial : ℕ)
  /-- Before the last `waitpid`. -/
  | terminated (pid serial : ℕ)
  /-- `waitpid_timeout` has returned; there is a status where it returned true. -/
  | returned (serial : ℕ) (status : Option WaitStatus)
  deriving DecidableEq

namespace WaiterPc

/-- The child that the thread has forked and not collected. -/
def child : WaiterPc → Option (ℕ × ℕ)
  | forked pid serial | polling _ pid serial _ | looking _ pid serial _ | terminating pid serial
  | killing pid serial | reaping pid serial => some (pid, serial)
  | idle | terminated _ _ | returned _ _ => none

/-- The number of the fork, until the thread is through with it. -/
def serial : WaiterPc → Option ℕ
  | forked _ serial | polling _ _ serial _ | looking _ _ serial _ | terminating _ serial
  | killing _ serial | reaping _ serial | terminated _ serial | returned serial _ => some serial
  | idle => none

theorem serial_of_child {pc : WaiterPc} {pid number : ℕ} (h : pc.child = some (pid, number)) :
    pc.serial = some number := by
  cases pc <;> simp_all [child, serial]

end WaiterPc

/-- A `waitpid` that has collected a child. -/
structure Collected where
  /-- The child of the thread. -/
  own : ℕ
  /-- The child that was collected. -/
  serial : ℕ
  status : WaitStatus
  deriving DecidableEq

/-- The children of the agent and the threads that look after them; `ended`, `collected` and
`signalled` are the history. -/
structure TmuxChildren where
  /-- `monotonic_ms()` -/
  clock : ℕ
  /-- The children by their process ids. -/
  table : ℕ → Option ChildProcess
  threads : ℕ → WaiterPc
  forks : ℕ
  ended : ℕ → Option WaitStatus
  collected : List Collected
  /-- A thread's own child, and the one at the process id that it signals. -/
  signalled : List (ℕ × Option ℕ)

/-- `TMUXREMOTE_TMUX_TIMEOUT_MS` -/
def tmuxTimeoutMs : ℕ := 2000

/-- `TMUXREMOTE_TMUX_TERMINATE_GRACE_MS` -/
def tmuxTerminateGraceMs : ℕ := 200

namespace TmuxChildren

/-- No thread has forked. -/
def init (clock : ℕ) : TmuxChildren where
  clock := clock
  table := fun _ => none
  threads := fun _ => .idle
  forks := 0
  ended := fun _ => none
  collected := []
  signalled := []

/-! ## Steps -/

section

variable (s : TmuxChildren)

/-- Thread `t` goes on. -/
def goto (t : ℕ) (pc : WaiterPc) : TmuxChildren :=
  { s with threads := Function.update s.threads t pc }

/-- `fork`, which takes a process id that is free. -/
def fork (t pid : ℕ) : TmuxChildren :=
  { s with
    table := Function.update s.table pid (some ⟨s.forks, none⟩)
    threads := Function.update s.threads t (.forked pid s.forks)
    forks := s.forks + 1 }

/-- A child ends. -/
def exit (pid : ℕ) (child : ChildProcess) (status : WaitStatus) : TmuxChildren :=
  { s with
    table := Function.update s.table pid (some { child with status := some status })
    ended := Function.update s.ended child.serial (some status) }

/-- `kill(pid, …)` -/
def kill (pid serial : ℕ) : TmuxChildren :=
  { s with signalled := s.signalled ++ [(serial, (s.table pid).map ChildProcess.serial)] }

/-- What `waitpid` collects, if there is a child and it has ended. -/
def waitable (pid : ℕ) : Option (ℕ × WaitStatus) :=
  (s.table pid).bind fun child => child.status.map fun status => (child.serial, status)

/-- `waitpid` collects a child. -/
def collect (pid own serial : ℕ) (status : WaitStatus) : TmuxChildren :=
  { s with
    table := Function.update s.table pid none
    collected := s.collected ++ [⟨own, serial, status⟩] }

/-- The `waitpid` of the loops. -/
def look (t : ℕ) (grace : Bool) (pid serial deadline : ℕ) : TmuxChildren :=
  match s.waitable pid with
  | some (found, status) =>
    (s.collect pid serial found status).goto t
      (if grace then .terminated pid serial else .returned serial (some status))
  | none =>
    -- `waitpid` returns 0 for a child that has not ended, and fails where there is none
    if (s.table pid).isNone ∧ !grace then s.goto t (.returned serial none)
    else s.goto t (.polling grace pid serial deadline)

/-- The `waitpid` that waits; it has no step while the child runs. -/
def reap (t pid serial : ℕ) : Option TmuxChildren :=
  match s.waitable pid with
  | some (found, status) =>
    some ((s.collect pid serial found status).goto t (.terminated pid serial))
  | none => if (s.table pid).isNone then some (s.goto t (.terminated pid serial)) else none

/-- The `waitpid` behind `terminate_process`. -/
def lookAgain (t pid serial : ℕ) : TmuxChildren :=
  match s.waitable pid with
  | some (found, status) =>
    (s.collect pid serial found status).goto t (.returned serial (some status))
  | none => s.goto t (.returned serial none)

/-- The next step of thread `t`, but for a fork. -/
def threadStep (t : ℕ) : Option TmuxChildren :=
  match s.threads t with
  | .idle | .returned _ _ => none
  | .forked pid serial => some (s.goto t (.polling false pid serial (s.clock + tmuxTimeoutMs)))
  | .polling grace pid serial deadline =>
    some (s.goto t
      (if s.clock < deadline then .looking grace pid serial deadline
        else if grace then .killing pid serial else .terminating pid serial))
  | .looking grace pid serial deadline => some (s.look t grace pid serial deadline)
  | .terminating pid serial =>
    some ((s.kill pid serial).goto t (.polling true pid serial (s.clock + tmuxTerminateGraceMs)))
  | .killing pid serial => some ((s.kill pid serial).goto t (.reaping pid serial))
  | .reaping pid serial => s.reap t pid serial
  | .terminated pid serial => some (s.lookAgain t pid serial)

end

/-- A step of a thread, of a child, or of the clock. -/
inductive Action
  | tick (ms : ℕ)
  | exit (pid : ℕ) (status : WaitStatus)
  | fork (t pid : ℕ)
  | thread (t : ℕ)

/-- One step. -/
def step (s : TmuxChildren) : Action → Option TmuxChildren
  | .tick ms => some { s with clock := s.clock + ms }
  | .exit pid status =>
    match s.table pid with
    | some ⟨serial, none⟩ => some (s.exit pid ⟨serial, none⟩ status)
    | _ => none
  | .fork t pid =>
    match s.threads t with
    | .idle | .returned _ _ => if s.table pid = none ∧ 0 < pid then some (s.fork t pid) else none
    | _ => none
  | .thread t => s.threadStep t

/-! ## The invariant -/

/-- **Every child has its thread**, and every thread its child. -/
structure Supervised (s : TmuxChildren) : Prop where
  /-- What is collected is the thread's own child. -/
  collected_own : ∀ c ∈ s.collected, c.serial = c.own ∧ s.ended c.serial = some c.status
  /-- No child is collected twice. -/
  collected_once : (s.collected.map Collected.serial).Nodup
  /-- A signal goes to the thread's own child. -/
  signalled_own : ∀ sent ∈ s.signalled, sent.2 = some sent.1
  /-- No child is left without a thread that will collect it. -/
  attended : ∀ pid child, s.table pid = some child →
    ∃ t, (s.threads t).child = some (pid, child.serial)
  /-- When `waitpid_timeout` returns the child has been collected, and the status is the child's. -/
  returned_collected : ∀ t serial status, s.threads t = .returned serial status →
    serial ∈ s.collected.map Collected.serial
      ∧ ∀ found, status = some found → s.ended serial = some found

/-- The answer of `tmuxremote_tmux_session_exists` and `tmuxremote_tmux_create_session`. -/
def answer (status : Option WaitStatus) : Bool := status.any WaitStatus.succeeded

/-- An answer of yes is that of the tmux that was asked. -/
theorem Supervised.of_answer {s : TmuxChildren} (h : Supervised s) {t n : ℕ}
    {status : Option WaitStatus} (hreturned : s.threads t = .returned n status)
    (hanswer : answer status = true) : s.ended n = some (.exited 0) := by
  obtain ⟨found, rfl, hfound⟩ := (Option.any_eq_true _ _).mp hanswer
  obtain ⟨-, hended⟩ := h.returned_collected t n _ hreturned
  have hzero : found = .exited 0 := by
    cases found with
    | exited code => rw [beq_iff_eq.mp hfound]
    | signaled signal => cases hfound
  rw [hended found rfl, hzero]

/-- What keeps the children supervised. -/
structure Inv (s : TmuxChildren) : Prop extends Supervised s where
  /-- A thread's child is there under its process id. -/
  child_there : ∀ t pid n, (s.threads t).child = some (pid, n) →
    ∃ status, s.table pid = some ⟨n, status⟩
  serial_inj : ∀ t t' n, (s.threads t).serial = some n → (s.threads t').serial = some n → t = t'
  serial_lt : ∀ t n, (s.threads t).serial = some n → n < s.forks
  /-- A thread whose child is gone has collected it. -/
  gone_collected : ∀ t n, (s.threads t).serial = some n → (s.threads t).child = none →
    n ∈ s.collected.map Collected.serial
  collected_lt : ∀ n ∈ s.collected.map Collected.serial, n < s.forks
  collected_gone : ∀ n ∈ s.collected.map Collected.serial, ∀ t pid,
    (s.threads t).child ≠ some (pid, n)
  status_ended : ∀ pid child status, s.table pid = some child → child.status = some status →
    s.ended child.serial = some status

theorem inv_init (clock : ℕ) : Inv (init clock) where
  collected_own := by simp [init]
  collected_once := List.nodup_nil
  signalled_own := by simp [init]
  attended := by simp [init]
  returned_collected := by simp [init]
  child_there := by simp [init, WaiterPc.child]
  serial_inj := by simp [init, WaiterPc.serial]
  serial_lt := by simp [init, WaiterPc.serial]
  gone_collected := by simp [init, WaiterPc.serial]
  collected_lt := by simp [init]
  collected_gone := by simp [init]
  status_ended := by simp [init]

section

variable {s : TmuxChildren} {t pid n : ℕ} {pc : WaiterPc}

theorem threads_goto_self : (s.goto t pc).threads t = pc := Function.update_self ..

theorem threads_goto_of_ne {t' : ℕ} (h : t' ≠ t) : (s.goto t pc).threads t' = s.threads t' :=
  Function.update_of_ne h ..

/-- A thread goes on with the child it has, or still without one. -/
theorem Inv.goto (h : Inv s) (hchild : pc.child = (s.threads t).child)
    (hserial : pc.serial = (s.threads t).serial)
    (hreturned : ∀ n status, pc = .returned n status → status = none) : Inv (s.goto t pc) := by
  have hchild' (t' : ℕ) : ((s.goto t pc).threads t').child = (s.threads t').child := by
    by_cases ht : t' = t
    · rw [ht, threads_goto_self, hchild]
    · rw [threads_goto_of_ne ht]
  have hserial' (t' : ℕ) : ((s.goto t pc).threads t').serial = (s.threads t').serial := by
    by_cases ht : t' = t
    · rw [ht, threads_goto_self, hserial]
    · rw [threads_goto_of_ne ht]
  refine
    { collected_own := h.collected_own
      collected_once := h.collected_once
      signalled_own := h.signalled_own
      attended := fun pid child hpid => ?_
      returned_collected := fun t' n status ht' => ?_
      child_there := fun t' pid n ht' => h.child_there t' pid n (hchild' t' ▸ ht')
      serial_inj := fun t₁ t₂ n h₁ h₂ => h.serial_inj t₁ t₂ n (hserial' t₁ ▸ h₁) (hserial' t₂ ▸ h₂)
      serial_lt := fun t' n ht' => h.serial_lt t' n (hserial' t' ▸ ht')
      gone_collected := fun t' n hn hnone =>
        h.gone_collected t' n (hserial' t' ▸ hn) (hchild' t' ▸ hnone)
      collected_lt := h.collected_lt
      collected_gone := fun n hn t' pid => hchild' t' ▸ h.collected_gone n hn t' pid
      status_ended := h.status_ended }
  · obtain ⟨t', ht'⟩ := h.attended pid child hpid
    exact ⟨t', (hchild' t').trans ht'⟩
  · by_cases ht : t' = t
    · subst ht
      rw [threads_goto_self] at ht'
      subst ht'
      obtain rfl := hreturned n status rfl
      exact ⟨h.gone_collected t' n hserial.symm hchild.symm, fun found hfound => by cases hfound⟩
    · rw [threads_goto_of_ne ht] at ht'
      exact h.returned_collected t' n status ht'

/-- The signal of a thread goes to its child. -/
theorem Inv.kill (h : Inv s) (hchild : (s.threads t).child = some (pid, n)) :
    Inv (s.kill pid n) where
  collected_own := h.collected_own
  collected_once := h.collected_once
  signalled_own := by
    obtain ⟨status, hthere⟩ := h.child_there t pid n hchild
    intro sent hsent
    rcases List.mem_append.mp hsent with hsent | hsent
    · exact h.signalled_own sent hsent
    · rw [List.mem_singleton.mp hsent, hthere]
      rfl
  attended := h.attended
  returned_collected := h.returned_collected
  child_there := h.child_there
  serial_inj := h.serial_inj
  serial_lt := h.serial_lt
  gone_collected := h.gone_collected
  collected_lt := h.collected_lt
  collected_gone := h.collected_gone
  status_ended := h.status_ended

/-- A child that is there has not been collected. -/
theorem Inv.not_collected (h : Inv s) {child : ChildProcess} (hpid : s.table pid = some child) :
    child.serial ∉ s.collected.map Collected.serial := by
  obtain ⟨t, ht⟩ := h.attended pid child hpid
  exact fun hmem => h.collected_gone child.serial hmem t pid ht

/-- It is there under one process id. -/
theorem Inv.pid_eq (h : Inv s) {pid' : ℕ} {child child' : ChildProcess}
    (hpid : s.table pid = some child) (hpid' : s.table pid' = some child')
    (hserial : child.serial = child'.serial) : pid = pid' := by
  obtain ⟨t, ht⟩ := h.attended pid child hpid
  obtain ⟨t', ht'⟩ := h.attended pid' child' hpid'
  have hn := WaiterPc.serial_of_child ht
  have hn' := WaiterPc.serial_of_child ht'
  rw [hserial] at hn ht
  obtain rfl := h.serial_inj t t' _ hn hn'
  rw [ht] at ht'
  exact (Prod.mk.inj (Option.some.inj ht')).1

/-- A child ends; its thread does not know of it yet. -/
theorem Inv.exit (h : Inv s) (hpid : s.table pid = some ⟨n, none⟩) (status : WaitStatus) :
    Inv (s.exit pid ⟨n, none⟩ status) := by
  have hended {m : ℕ} (hm : m ∈ s.collected.map Collected.serial) :
      (s.exit pid ⟨n, none⟩ status).ended m = s.ended m := by
    refine Function.update_of_ne ?_ ..
    rintro rfl
    exact h.not_collected hpid hm
  have htable {pid' : ℕ} (hne : pid' ≠ pid) :
      (s.exit pid ⟨n, none⟩ status).table pid' = s.table pid' := Function.update_of_ne hne ..
  have hself : (s.exit pid ⟨n, none⟩ status).table pid = some ⟨n, some status⟩ :=
    Function.update_self ..
  refine
    { collected_own := fun c hc => ?_
      collected_once := h.collected_once
      signalled_own := h.signalled_own
      attended := fun pid' child hchild => ?_
      returned_collected := fun t m found ht => ?_
      child_there := fun t pid' m ht => ?_
      serial_inj := h.serial_inj
      serial_lt := h.serial_lt
      gone_collected := h.gone_collected
      collected_lt := h.collected_lt
      collected_gone := h.collected_gone
      status_ended := fun pid' child found hchild hfound => ?_ }
  · rw [hended (List.mem_map_of_mem hc)]
    exact h.collected_own c hc
  · by_cases hne : pid' = pid
    · subst hne
      obtain rfl := Option.some.inj (hself.symm.trans hchild)
      exact h.attended pid' ⟨n, none⟩ hpid
    · exact h.attended pid' child ((htable hne).symm.trans hchild)
  · obtain ⟨hmem, hstatus⟩ := h.returned_collected t m found ht
    rw [hended hmem]
    exact ⟨hmem, hstatus⟩
  · obtain ⟨found, hfound⟩ := h.child_there t pid' m ht
    by_cases hne : pid' = pid
    · subst hne
      obtain ⟨rfl, -⟩ := ChildProcess.mk.inj (Option.some.inj (hpid.symm.trans hfound))
      exact ⟨_, hself⟩
    · exact ⟨found, (htable hne).trans hfound⟩
  · by_cases hne : pid' = pid
    · subst hne
      obtain rfl := Option.some.inj (hself.symm.trans hchild)
      obtain rfl := Option.some.inj hfound
      exact Function.update_self ..
    · rw [htable hne] at hchild
      have hold : (s.exit pid ⟨n, none⟩ status).ended child.serial = s.ended child.serial :=
        Function.update_of_ne (fun heq => hne (h.pid_eq hchild hpid heq)) ..
      rw [hold]
      exact h.status_ended pid' child found hchild hfound

/-- A thread that has no child forks one. -/
theorem Inv.fork (h : Inv s) (hidle : (s.threads t).child = none) (hpid : s.table pid = none) :
    Inv (s.fork t pid) := by
  have hthread {t' : ℕ} (hne : t' ≠ t) : (s.fork t pid).threads t' = s.threads t' :=
    Function.update_of_ne hne ..
  have hself : (s.fork t pid).threads t = .forked pid s.forks := Function.update_self ..
  have htable {pid' : ℕ} (hne : pid' ≠ pid) : (s.fork t pid).table pid' = s.table pid' :=
    Function.update_of_ne hne ..
  have hnew : (s.fork t pid).table pid = some ⟨s.forks, none⟩ := Function.update_self ..
  -- the thread's serial is the new one, and every other is smaller
  have hserial (t' m : ℕ) (hm : ((s.fork t pid).threads t').serial = some m) :
      t' = t ∧ m = s.forks ∨ t' ≠ t ∧ (s.threads t').serial = some m := by
    by_cases hne : t' = t
    · subst hne
      rw [hself] at hm
      exact .inl ⟨rfl, (Option.some.inj hm).symm⟩
    · rw [hthread hne] at hm
      exact .inr ⟨hne, hm⟩
  refine
    { collected_own := h.collected_own
      collected_once := h.collected_once
      signalled_own := h.signalled_own
      attended := fun pid' child hchild => ?_
      returned_collected := fun t' m found ht => ?_
      child_there := fun t' pid' m ht => ?_
      serial_inj := fun t₁ t₂ m h₁ h₂ => ?_
      serial_lt := fun t' m hm => ?_
      gone_collected := fun t' m hm hnone => ?_
      collected_lt := fun m hm => Nat.lt_succ_of_lt (h.collected_lt m hm)
      collected_gone := fun m hm t' pid' heq => ?_
      status_ended := fun pid' child found hchild hfound => ?_ }
  · by_cases hne : pid' = pid
    · subst hne
      obtain rfl := Option.some.inj (hnew.symm.trans hchild)
      exact ⟨t, by rw [hself]; rfl⟩
    · obtain ⟨t', ht'⟩ := h.attended pid' child ((htable hne).symm.trans hchild)
      have hother : t' ≠ t := by
        rintro rfl
        rw [hidle] at ht'
        cases ht'
      exact ⟨t', by rw [hthread hother, ht']⟩
  · have hother : t' ≠ t := by
      rintro rfl
      rw [hself] at ht
      cases ht
    exact h.returned_collected t' m found (hthread hother ▸ ht)
  · by_cases hother : t' = t
    · subst hother
      rw [hself] at ht
      obtain ⟨rfl, rfl⟩ := Prod.mk.inj (Option.some.inj ht)
      exact ⟨none, hnew⟩
    · rw [hthread hother] at ht
      obtain ⟨status, hthere⟩ := h.child_there t' pid' m ht
      have hne : pid' ≠ pid := by
        rintro rfl
        rw [hpid] at hthere
        cases hthere
      exact ⟨status, (htable hne).trans hthere⟩
  · obtain ⟨rfl, rfl⟩ | ⟨hne, hold⟩ := hserial t₁ m h₁ <;>
      obtain ⟨rfl, hm⟩ | ⟨hne', hold'⟩ := hserial t₂ _ h₂
    · rfl
    · exact absurd (h.serial_lt t₂ _ hold') (Nat.lt_irrefl _)
    · exact absurd (h.serial_lt t₁ m hold) (hm ▸ Nat.lt_irrefl _)
    · exact h.serial_inj t₁ t₂ m hold hold'
  · obtain ⟨-, rfl⟩ | ⟨-, hold⟩ := hserial t' m hm
    · exact Nat.lt_succ_self _
    · exact Nat.lt_succ_of_lt (h.serial_lt t' m hold)
  · obtain ⟨rfl, -⟩ | ⟨hne, hold⟩ := hserial t' m hm
    · rw [hself] at hnone
      cases hnone
    · exact h.gone_collected t' m hold (hthread hne ▸ hnone)
  · obtain ⟨rfl, rfl⟩ | ⟨hne, -⟩ := hserial t' m (WaiterPc.serial_of_child heq)
    · exact absurd (h.collected_lt _ hm) (Nat.lt_irrefl _)
    · exact h.collected_gone m hm t' pid' (hthread hne ▸ heq)
  · by_cases hne : pid' = pid
    · subst hne
      obtain rfl := Option.some.inj (hnew.symm.trans hchild)
      cases hfound
    · exact h.status_ended pid' child found ((htable hne).symm.trans hchild) hfound

/-- What a thread finds when it waits for its child is the child. -/
theorem Inv.waitable_own (h : Inv s) (hchild : (s.threads t).child = some (pid, n)) {found : ℕ}
    {status : WaitStatus} (hwait : s.waitable pid = some (found, status)) :
    found = n ∧ s.table pid = some ⟨n, some status⟩ := by
  obtain ⟨ended, hthere⟩ := h.child_there t pid n hchild
  rw [waitable, hthere, Option.bind_some, Option.map_eq_some_iff] at hwait
  obtain ⟨status', rfl, heq⟩ := hwait
  obtain ⟨rfl, rfl⟩ := Prod.mk.inj heq
  exact ⟨rfl, hthere⟩

/-- **A thread collects its child.** -/
theorem Inv.collect (h : Inv s) (hchild : (s.threads t).child = some (pid, n)) {found : ℕ}
    {status : WaitStatus} (hwait : s.waitable pid = some (found, status))
    (hpc : pc.child = none) (hserial : pc.serial = some n)
    (hreturned : ∀ m r, pc = .returned m r → r = some status) :
    Inv ((s.collect pid n found status).goto t pc) := by
  obtain ⟨rfl, hthere⟩ := h.waitable_own hchild hwait
  have hold := WaiterPc.serial_of_child hchild
  have hended : s.ended found = some status := h.status_ended pid _ status hthere rfl
  have hthread {t' : ℕ} (hne : t' ≠ t) :
      ((s.collect pid found found status).goto t pc).threads t' = s.threads t' :=
    Function.update_of_ne hne ..
  have hself : ((s.collect pid found found status).goto t pc).threads t = pc :=
    Function.update_self ..
  have htable {pid' : ℕ} (hne : pid' ≠ pid) :
      ((s.collect pid found found status).goto t pc).table pid' = s.table pid' :=
    Function.update_of_ne hne ..
  have hfree : ((s.collect pid found found status).goto t pc).table pid = none :=
    Function.update_self ..
  have hserial' (t' : ℕ) :
      (((s.collect pid found found status).goto t pc).threads t').serial
        = (s.threads t').serial := by
    by_cases hne : t' = t
    · rw [hne, hself, hserial, hold]
    · rw [hthread hne]
  have hcollected (m : ℕ) :
      m ∈ ((s.collect pid found found status).goto t pc).collected.map Collected.serial
        ↔ m ∈ s.collected.map Collected.serial ∨ m = found := by
    change m ∈ (s.collected ++ [(⟨found, found, status⟩ : Collected)]).map Collected.serial ↔ _
    rw [List.map_append, List.mem_append, List.map_singleton, List.mem_singleton]
  refine
    { collected_own := fun c hc => ?_
      collected_once := ?_
      signalled_own := h.signalled_own
      attended := fun pid' child hchild' => ?_
      returned_collected := fun t' m r ht => ?_
      child_there := fun t' pid' m ht => ?_
      serial_inj := fun t₁ t₂ m h₁ h₂ => h.serial_inj t₁ t₂ m (hserial' t₁ ▸ h₁) (hserial' t₂ ▸ h₂)
      serial_lt := fun t' m hm => h.serial_lt t' m (hserial' t' ▸ hm)
      gone_collected := fun t' m hm hnone => (hcollected m).mpr ?_
      collected_lt := fun m hm => ?_
      collected_gone := fun m hm t' pid' heq => ?_
      status_ended := fun pid' child r hchild' hr => ?_ }
  · rcases List.mem_append.mp hc with hc | hc
    · exact h.collected_own c hc
    · rw [List.mem_singleton.mp hc]
      exact ⟨rfl, hended⟩
  · change ((s.collected ++ [(⟨found, found, status⟩ : Collected)]).map Collected.serial).Nodup
    rw [List.map_append, List.map_singleton]
    exact h.collected_once.append (List.nodup_singleton _)
      (List.disjoint_singleton.mpr (h.not_collected hthere))
  · have hne : pid' ≠ pid := by
      rintro rfl
      rw [hfree] at hchild'
      cases hchild'
    obtain ⟨t', ht'⟩ := h.attended pid' child ((htable hne).symm.trans hchild')
    have hother : t' ≠ t := by
      rintro rfl
      rw [hchild] at ht'
      exact hne (Prod.mk.inj (Option.some.inj ht')).1.symm
    exact ⟨t', by rw [hthread hother, ht']⟩
  · by_cases hother : t' = t
    · subst hother
      rw [hself] at ht
      obtain rfl := hreturned m r ht
      rw [ht] at hserial
      obtain rfl := Option.some.inj hserial
      refine ⟨(hcollected m).mpr (.inr rfl), ?_⟩
      rintro r ⟨⟩
      exact hended
    · rw [hthread hother] at ht
      obtain ⟨hmem, hr⟩ := h.returned_collected t' m r ht
      exact ⟨(hcollected m).mpr (.inl hmem), hr⟩
  · have hother : t' ≠ t := by
      rintro rfl
      rw [hself, hpc] at ht
      cases ht
    rw [hthread hother] at ht
    obtain ⟨r, hr⟩ := h.child_there t' pid' m ht
    have hne : pid' ≠ pid := by
      rintro rfl
      obtain ⟨rfl, -⟩ := ChildProcess.mk.inj (Option.some.inj (hr.symm.trans hthere))
      exact hother (h.serial_inj t' t m (WaiterPc.serial_of_child ht) hold)
    exact ⟨r, (htable hne).trans hr⟩
  · by_cases hother : t' = t
    · subst hother
      rw [hserial', hold] at hm
      exact .inr (Option.some.inj hm).symm
    · rw [hserial'] at hm
      rw [hthread hother] at hnone
      exact .inl (h.gone_collected t' m hm hnone)
  · rcases (hcollected m).mp hm with hm | rfl
    · exact h.collected_lt m hm
    · exact h.serial_lt t m hold
  · have hother : t' ≠ t := by
      rintro rfl
      rw [hself, hpc] at heq
      cases heq
    rw [hthread hother] at heq
    rcases (hcollected m).mp hm with hm | rfl
    · exact h.collected_gone m hm t' pid' heq
    · exact hother (h.serial_inj t' t m (WaiterPc.serial_of_child heq) hold)
  · have hne : pid' ≠ pid := by
      rintro rfl
      rw [hfree] at hchild'
      cases hchild'
    exact h.status_ended pid' child r ((htable hne).symm.trans hchild') hr

/-! ## Every step -/

/-- The last look finds no child that has ended. -/
def LooksInVain (s : TmuxChildren) (a : Action) : Prop :=
  ∀ t pid n, a = .thread t → s.threads t = .terminated pid n → s.waitable pid = none

instance decidableLooksInVain (s : TmuxChildren) : ∀ a, Decidable (LooksInVain s a)
  | .thread t =>
    match hpc : s.threads t with
    | .terminated pid n =>
      decidable_of_iff (s.waitable pid = none)
        ⟨by rintro h t' pid' n' ⟨⟩ hpc'; cases hpc.symm.trans hpc'; exact h,
          fun h => h t pid n rfl hpc⟩
    | .idle | .forked .. | .polling .. | .looking .. | .terminating .. | .killing .. | .reaping ..
    | .returned .. =>
      isTrue (by rintro t' pid' n' ⟨⟩ hpc'; cases hpc.symm.trans hpc')
  | .tick _ | .exit .. | .fork .. => isTrue (by rintro t pid n ⟨⟩)

theorem Inv.look (h : Inv s) {grace : Bool} {deadline : ℕ}
    (hpc : s.threads t = .looking grace pid n deadline) : Inv (s.look t grace pid n deadline) := by
  have hchild : (s.threads t).child = some (pid, n) := by rw [hpc]; rfl
  have hserial : (s.threads t).serial = some n := by rw [hpc]; rfl
  rw [TmuxChildren.look]
  cases hwait : s.waitable pid with
  | some found =>
    refine h.collect hchild hwait ?_ ?_ fun m r => ?_
    · cases grace <;> rfl
    · cases grace <;> rfl
    · cases grace <;> rintro ⟨⟩
      rfl
  | none =>
    obtain ⟨status, hthere⟩ := h.child_there t pid n hchild
    dsimp only
    rw [hthere, if_neg (by simp)]
    exact h.goto hchild.symm hserial.symm (by rintro m r ⟨⟩)

theorem Inv.reap (h : Inv s) (hpc : s.threads t = .reaping pid n) {s' : TmuxChildren}
    (hstep : s.reap t pid n = some s') : Inv s' := by
  have hchild : (s.threads t).child = some (pid, n) := by rw [hpc]; rfl
  rw [TmuxChildren.reap] at hstep
  cases hwait : s.waitable pid with
  | some found =>
    rw [hwait] at hstep
    obtain rfl := Option.some.inj hstep
    exact h.collect hchild hwait rfl rfl (by rintro m r ⟨⟩)
  | none =>
    obtain ⟨status, hthere⟩ := h.child_there t pid n hchild
    rw [hwait, hthere] at hstep
    cases hstep

/-- A thread's step, unless its last look finds a child. -/
theorem Inv.threadStep (h : Inv s) (hvain : LooksInVain s (.thread t)) {s' : TmuxChildren}
    (hstep : s.threadStep t = some s') : Inv s' := by
  rw [TmuxChildren.threadStep] at hstep
  cases hpc : s.threads t with
  | idle => rw [hpc] at hstep; cases hstep
  | returned => rw [hpc] at hstep; cases hstep
  | forked pid n =>
    rw [hpc] at hstep
    obtain rfl := Option.some.inj hstep
    exact h.goto (by rw [hpc]; rfl) (by rw [hpc]; rfl) (by rintro m r ⟨⟩)
  | polling grace pid n deadline =>
    rw [hpc] at hstep
    obtain rfl := Option.some.inj hstep
    refine h.goto ?_ ?_ fun m r => ?_
    · rw [hpc]
      split_ifs <;> rfl
    · rw [hpc]
      split_ifs <;> rfl
    · split_ifs <;> rintro ⟨⟩
  | looking grace pid n deadline =>
    rw [hpc] at hstep
    obtain rfl := Option.some.inj hstep
    exact h.look hpc
  | terminating pid n =>
    rw [hpc] at hstep
    obtain rfl := Option.some.inj hstep
    have hchild : (s.threads t).child = some (pid, n) := by rw [hpc]; rfl
    exact (h.kill hchild).goto hchild.symm (by rw [TmuxChildren.kill, hpc]; rfl)
      (by rintro m r ⟨⟩)
  | killing pid n =>
    rw [hpc] at hstep
    obtain rfl := Option.some.inj hstep
    have hchild : (s.threads t).child = some (pid, n) := by rw [hpc]; rfl
    exact (h.kill hchild).goto hchild.symm (by rw [TmuxChildren.kill, hpc]; rfl)
      (by rintro m r ⟨⟩)
  | reaping pid n =>
    rw [hpc] at hstep
    exact h.reap hpc hstep
  | terminated pid n =>
    rw [hpc] at hstep
    obtain rfl := Option.some.inj hstep
    rw [lookAgain, hvain t pid n rfl hpc]
    exact h.goto (by rw [hpc]; rfl) (by rw [hpc]; rfl) (by rintro m r ⟨⟩; rfl)

/-- **One step** keeps the invariant. -/
theorem Inv.step (h : Inv s) {a : Action} (hvain : LooksInVain s a) {s' : TmuxChildren}
    (hstep : step s a = some s') : Inv s' := by
  cases a with
  | tick ms =>
    obtain rfl := Option.some.inj hstep
    exact { h with }
  | exit pid status =>
    rw [TmuxChildren.step] at hstep
    split at hstep
    · rename_i serial hpid
      obtain rfl := Option.some.inj hstep
      exact h.exit hpid status
    · cases hstep
  | fork t pid =>
    rw [TmuxChildren.step] at hstep
    split at hstep
    · rename_i hpc
      obtain ⟨hfree, heq⟩ := Option.ite_none_right_eq_some.mp hstep
      obtain rfl := Option.some.inj heq
      exact h.fork (by rw [hpc]; rfl) hfree.1
    · rename_i hpc
      obtain ⟨hfree, heq⟩ := Option.ite_none_right_eq_some.mp hstep
      obtain rfl := Option.some.inj heq
      exact h.fork (by rw [hpc]; rfl) hfree.1
    · cases hstep
  | thread t => exact h.threadStep hvain hstep

/-- **A last look that finds a child takes another's**: the thread's own has been collected. -/
theorem Inv.not_supervised (h : Inv s) {a : Action} (hfound : ¬ LooksInVain s a)
    {s' : TmuxChildren} (hstep : TmuxChildren.step s a = some s') : ¬ Supervised s' := by
  unfold LooksInVain at hfound
  push Not at hfound
  obtain ⟨t, pid, n, rfl, hpc, hwait⟩ := hfound
  obtain ⟨⟨found, status⟩, hwait⟩ := Option.ne_none_iff_exists'.mp hwait
  rw [TmuxChildren.step, TmuxChildren.threadStep, hpc] at hstep
  obtain rfl := Option.some.inj hstep
  intro hsupervised
  have hown : (⟨n, found, status⟩ : Collected) ∈ (s.lookAgain t pid n).collected := by
    rw [lookAgain, hwait]
    exact List.mem_append_right _ (List.mem_singleton_self _)
  have heq : found = n := (hsupervised.collected_own _ hown).1
  subst heq
  have hmem := h.gone_collected t found (by rw [hpc]; rfl) (by rw [hpc]; rfl)
  rw [waitable, Option.bind_eq_some_iff] at hwait
  obtain ⟨child, hthere, heq⟩ := hwait
  obtain ⟨status', -, heq⟩ := Option.map_eq_some_iff.mp heq
  obtain ⟨rfl, -⟩ := Prod.mk.inj heq
  exact h.not_collected hthere hmem

end

/-- **Every child is supervised** throughout a run exactly if no last look of the run finds a child
that has ended: each is collected once, by its own thread, whose answer is the child's, and signals
go to the thread's child alone. -/
theorem children_supervised_iff (clock : ℕ) (actions : List Action) {s : TmuxChildren}
    (hrun : Guarded.run step (init clock) actions = some s) :
    Guarded.Throughout step Supervised (init clock) actions
      ↔ Guarded.AllSteps step LooksInVain (init clock) actions :=
  Guarded.throughout_iff_allSteps (fun _ h => h.toSupervised) (fun _ _ _ h hC => h.step hC)
    (fun _ _ _ h hC => h.not_supervised hC) (inv_init clock) hrun

/-- A child that does not end in time is terminated and killed, and its process id is that of
another thread's child when the first thread comes to look for the last time. -/
def pidReused : List Action :=
  [.fork 0 7, .thread 0, .tick 2000, .thread 0, .thread 0, .tick 200, .thread 0, .thread 0,
    .exit 7 (.signaled 9), .thread 0, .fork 1 7]

/-- The first thread looks while the second child runs, and the second thread collects it. -/
def looksEarly : List Action :=
  pidReused ++ [.thread 0, .thread 1, .exit 7 (.exited 0), .thread 1, .thread 1]

/-- The second child ends, and then the first thread looks. -/
def looksLate : List Action :=
  pidReused ++ [.thread 1, .exit 7 (.exited 0), .thread 0]

theorem children_supervised_iff_reused :
    Guarded.Throughout step Supervised (init 0) looksEarly
      ∧ (Guarded.run step (init 0) looksEarly).map (ended · 1) = some (some (.exited 0))
      ∧ ¬ Guarded.Throughout step Supervised (init 0) looksLate := by
  have hearly : Guarded.Throughout step Supervised (init 0) looksEarly :=
    (children_supervised_iff 0 looksEarly rfl).mpr (by decide)
  refine ⟨hearly, ?_, (children_supervised_iff 0 looksLate rfl).not.mpr (by decide)⟩
  rw [← (hearly.last rfl).of_answer (t := 1) rfl rfl]
  rfl

/-- The first thread has collected its own child, and then the second's. -/
example : (Guarded.run step (init 0) looksLate).map collected
    = some [⟨0, 0, .signaled 9⟩, ⟨0, 1, .exited 0⟩] := rfl

end TmuxChildren

end TmuxRemote
