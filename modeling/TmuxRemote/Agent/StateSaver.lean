import TmuxRemote.Library.Guarded
import TmuxRemote.Library.Ownership

/-!
# Agent/StateSaver — who saves the IAM state last (`tmuxremote_iam.c`)

A callback dumps what the IAM module has in memory and leaves the dump in a slot, in place of the
one that was there; the worker takes it out, writes it and frees it.  `tmuxremote_iam_deinit` asks
the worker to stop, which it does once the slot is empty, and waits for it.

What is written is a part of what was dumped, in the same order, whatever the order of steps.  The
file ends with the last dump because the agent stops the device before it shuts the saver down: no
callback is under way then, and none comes later (`Quiet`).

`nm_iam` is not part of the repository: its states are of any type, and its memory may change at any
time.  Writes succeed, and none is seen half done.
-/

namespace TmuxRemote

open Ownership

/-! ## The threads -/

/-- What `nm_iam_dump_state` returns, with the number of its allocation. -/
structure DumpedState (σ : Type*) where
  serial : ℕ
  state : σ
  deriving DecidableEq

/-- Where the callback is, `tmuxremote_iam_state_changed`. -/
inductive StateCallback (σ : Type*)
  | idle
  | dumped (d : DumpedState σ)
  /-- It has seen that the worker is there, and is about to lock. -/
  | enqueuing (d : DumpedState σ)
  | savingDirectly (d : DumpedState σ)
  deriving DecidableEq

/-- Where the worker is, `save_iam_state_worker`. -/
inductive SaverWorker (σ : Type*)
  | atLock
  /-- In `pthread_cond_wait`, and whether it was signalled. -/
  | waiting (signalled : Bool)
  | saving (d : DumpedState σ)
  /-- The state is written, and not freed yet. -/
  | saved (d : DumpedState σ)
  | exited

/-- How far the shutdown is: `nabto_device_stop`, and then the parts of `tmuxremote_iam_deinit`. -/
inductive SaverShutdown
  | running
  | deviceStopped
  | iamDeinited
  | stopRequested
  | joined
  | returned
  deriving DecidableEq

/-- `tmuxremote_iam`, the threads, and the file; `dumped` and `written` are the history. -/
structure StateSaver (σ : Type*) where
  memory : σ
  callback : StateCallback σ
  worker : SaverWorker σ
  shutdown : SaverShutdown
  saveThreadStarted : Bool
  saveStop : Bool
  pendingState : Option (DumpedState σ)
  file : σ
  heap : Heap
  dumped : List (DumpedState σ)
  written : List (DumpedState σ)

/-- A step of one of the threads. -/
inductive SaverAction (σ : Type*)
  /-- The IAM module changes what it has in memory. -/
  | change (memory : σ)
  | callback
  | worker
  | deinit

namespace StateCallback

variable {σ : Type*}

/-- The dump that the callback has. -/
def held : StateCallback σ → List (DumpedState σ)
  | idle => []
  | dumped d | enqueuing d | savingDirectly d => [d]

end StateCallback

namespace SaverWorker

variable {σ : Type*}

/-- The dump that the worker has. -/
def held : SaverWorker σ → List (DumpedState σ)
  | saving d | saved d => [d]
  | atLock | waiting _ | exited => []

/-- The dump that the worker is about to write. -/
def unwritten : SaverWorker σ → List (DumpedState σ)
  | saving d => [d]
  | atLock | waiting _ | saved _ | exited => []

/-- The thread has ended, so that a join returns. -/
def hasExited : SaverWorker σ → Bool
  | exited => true
  | atLock | waiting _ | saving _ | saved _ => false

/-- The slot, as long as there is a worker to empty it. -/
def slot (pendingState : Option (DumpedState σ)) : SaverWorker σ → List (DumpedState σ)
  | exited => []
  | atLock | waiting _ | saving _ | saved _ => pendingState.toList

/-- `pthread_cond_signal` -/
def signal : SaverWorker σ → SaverWorker σ
  | waiting _ => waiting true
  | w => w

@[simp] theorem signal_held (w : SaverWorker σ) : w.signal.held = w.held := by cases w <;> rfl

@[simp] theorem signal_unwritten (w : SaverWorker σ) : w.signal.unwritten = w.unwritten := by
  cases w <;> rfl

@[simp] theorem signal_hasExited (w : SaverWorker σ) : w.signal.hasExited = w.hasExited := by
  cases w <;> rfl

@[simp] theorem signal_slot (w : SaverWorker σ) (pendingState : Option (DumpedState σ)) :
    w.signal.slot pendingState = w.slot pendingState := by cases w <;> rfl

theorem signal_ne_waiting (w : SaverWorker σ) : w.signal ≠ waiting false := by
  cases w <;> exact nofun

theorem eq_exited {w : SaverWorker σ} (h : w.hasExited = true) : w = exited := by
  cases w with
  | exited => rfl
  | _ => exact nomatch h

/-- The slot has nothing but what is in it. -/
theorem slot_sublist (w : SaverWorker σ) (pendingState : Option (DumpedState σ)) :
    (w.slot pendingState).Sublist pendingState.toList := by
  cases w with
  | exited => exact List.nil_sublist _
  | _ => exact List.Sublist.refl _

end SaverWorker

namespace StateSaver

variable {σ : Type*}

/-- After `tmuxremote_iam_init`. -/
def init (saveThreadStarted : Bool) (memory file : σ) : StateSaver σ where
  memory := memory
  callback := .idle
  worker := if saveThreadStarted then .atLock else .exited
  shutdown := .running
  saveThreadStarted := saveThreadStarted
  saveStop := false
  pendingState := none
  file := file
  heap := .empty
  dumped := []
  written := []

/-- `nm_iam_state_free` of what is in the slot. -/
def pendingSerials (s : StateSaver σ) : List ℕ := s.pendingState.toList.map DumpedState.serial

/-- `save_iam_state` -/
def saveIamState (s : StateSaver σ) (d : DumpedState σ) : StateSaver σ :=
  { s with file := d.state, written := s.written ++ [d] }

/-- A callback dumps what is in memory. -/
def dumpState (s : StateSaver σ) : StateSaver σ :=
  { s with
    callback := .dumped ⟨s.heap.next, s.memory⟩
    heap := s.heap.allocate 1
    dumped := s.dumped ++ [⟨s.heap.next, s.memory⟩] }

/-- It looks whether there is a worker. -/
def checkWorker (s : StateSaver σ) (d : DumpedState σ) : StateSaver σ :=
  { s with callback := if s.saveThreadStarted then .enqueuing d else .savingDirectly d }

/-- With the lock, it puts the dump into the slot. -/
def enqueue (s : StateSaver σ) (d : DumpedState σ) : StateSaver σ :=
  { s with
    callback := .idle
    worker := s.worker.signal
    pendingState := some d
    heap := s.heap.release s.pendingSerials }

/-- Without a worker, it writes the dump itself. -/
def saveDirectly (s : StateSaver σ) (d : DumpedState σ) : StateSaver σ :=
  { s.saveIamState d with callback := .idle, heap := s.heap.release [d.serial] }

/-- The next step of the callback, or the first one of the next callback. -/
def callbackStep (s : StateSaver σ) : StateSaver σ :=
  match s.callback with
  | .idle => s.dumpState
  | .dumped d => s.checkWorker d
  | .enqueuing d => s.enqueue d
  | .savingDirectly d => s.saveDirectly d

/-- What the worker does with the lock: it takes the state in the slot, or stops, or waits. -/
def takePending (s : StateSaver σ) : StateSaver σ :=
  match s.pendingState with
  | some d => { s with pendingState := none, worker := .saving d }
  | none => { s with worker := if s.saveStop then .exited else .waiting false }

/-- The next step of the worker.  A wait may end without a signal. -/
def workerStep (s : StateSaver σ) : Option (StateSaver σ) :=
  match s.worker with
  | .atLock | .waiting _ => some s.takePending
  | .saving d => some { s.saveIamState d with worker := .saved d }
  | .saved d => some { s with worker := .atLock, heap := s.heap.release [d.serial] }
  | .exited => none

/-- The next step of the shutdown; the join waits for the worker. -/
def deinitStep (s : StateSaver σ) : Option (StateSaver σ) :=
  match s.shutdown with
  | .running => some { s with shutdown := .deviceStopped }
  | .deviceStopped => some { s with shutdown := .iamDeinited }
  | .iamDeinited =>
    some { s with shutdown := .stopRequested, saveStop := true, worker := s.worker.signal }
  | .stopRequested =>
    if s.saveThreadStarted && !s.worker.hasExited then none
    else some { s with shutdown := .joined, saveThreadStarted := false }
  | .joined =>
    some { s with
      shutdown := .returned
      pendingState := none
      heap := s.heap.release s.pendingSerials }
  | .returned => none

/-- One step of a thread; `none` when it cannot be taken.  With the mutex destroyed there is nothing
that a callback could do. -/
def step (s : StateSaver σ) : SaverAction σ → Option (StateSaver σ)
  | .change memory => some { s with memory := memory }
  | .callback => if s.shutdown = .returned then none else some s.callbackStep
  | .worker => s.workerStep
  | .deinit => s.deinitStep

/-- What `nabto_device_stop` is documented to do: no callback is under way when it returns, and none
runs after it. -/
def Quiet (s : StateSaver σ) : SaverAction σ → Prop
  | .callback => s.shutdown = .running
  | .deinit => s.shutdown = .running → s.callback = .idle
  | .change _ | .worker => True

instance [DecidableEq σ] (s : StateSaver σ) : (action : SaverAction σ) → Decidable (Quiet s action)
  | .callback => inferInstanceAs (Decidable (s.shutdown = .running))
  | .deinit => inferInstanceAs (Decidable (s.shutdown = .running → s.callback = .idle))
  | .change _ | .worker => inferInstanceAs (Decidable True)

/-! ## What was dumped, on its way to the file -/

/-- The dumps that are written and those that may yet be, oldest first. -/
def queue (s : StateSaver σ) : List (DumpedState σ) :=
  s.written ++ s.worker.unwritten ++ s.worker.slot s.pendingState ++ s.callback.held

/-- The dumps that are not freed. -/
def held (s : StateSaver σ) : List (DumpedState σ) :=
  s.worker.held ++ s.pendingState.toList ++ s.callback.held

/-- The invariant of all runs. -/
structure Ordered (s : StateSaver σ) : Prop where
  queue : s.queue.Sublist s.dumped
  serials : s.dumped.map DumpedState.serial = List.range s.heap.next
  balanced : Balanced s.heap (s.held.map DumpedState.serial)
  unstarted : s.saveThreadStarted = false → s.worker.hasExited = true
  direct : ∀ d, s.callback = .savingDirectly d → s.worker.hasExited = true
  /-- A worker that was not signalled has nothing to do. -/
  awake : s.worker = .waiting false → s.pendingState = none ∧ s.saveStop = false

theorem ordered_init (started : Bool) (memory file : σ) :
    Ordered (init started memory file) := by
  refine ⟨?_, rfl, ?_, ?_, nofun, fun _ => ⟨rfl, rfl⟩⟩
  · cases started <;> exact List.nil_sublist []
  · cases started <;> exact Balanced.empty
  · rintro rfl
    rfl

variable {s : StateSaver σ} {d : DumpedState σ}

/-- **What a step of the worker does**: it looks at the slot, writes what it took, or frees it. -/
theorem workerStep_cases {s' : StateSaver σ} (h : s.workerStep = some s') :
    (s' = s.takePending ∧ s.worker.hasExited = false ∧ s.worker.unwritten = []
        ∧ s.worker.held = [] ∧ s.worker.slot s.pendingState = s.pendingState.toList)
      ∨ (∃ d, s.worker = .saving d ∧ s' = { s.saveIamState d with worker := .saved d })
      ∨ ∃ d, s.worker = .saved d
        ∧ s' = { s with worker := .atLock, heap := s.heap.release [d.serial] } := by
  rw [workerStep.eq_def] at h
  cases hworker : s.worker with
  | atLock =>
    rw [hworker] at h
    exact .inl ⟨(Option.some.inj h).symm, rfl, rfl, rfl, rfl⟩
  | waiting signalled =>
    rw [hworker] at h
    exact .inl ⟨(Option.some.inj h).symm, rfl, rfl, rfl, rfl⟩
  | saving d =>
    rw [hworker] at h
    exact .inr (.inl ⟨d, rfl, (Option.some.inj h).symm⟩)
  | saved d =>
    rw [hworker] at h
    exact .inr (.inr ⟨d, rfl, (Option.some.inj h).symm⟩)
  | exited =>
    rw [hworker] at h
    exact nomatch h

/-- **What a step of the shutdown does.**  The join waits for a worker that was started. -/
theorem deinitStep_cases {s' : StateSaver σ} (h : s.deinitStep = some s') :
    (s.shutdown = .running ∧ s' = { s with shutdown := .deviceStopped })
      ∨ (s.shutdown = .deviceStopped ∧ s' = { s with shutdown := .iamDeinited })
      ∨ (s.shutdown = .iamDeinited
        ∧ s' = { s with shutdown := .stopRequested, saveStop := true, worker := s.worker.signal })
      ∨ (s.shutdown = .stopRequested ∧ (s.saveThreadStarted = true → s.worker.hasExited = true)
        ∧ s' = { s with shutdown := .joined, saveThreadStarted := false })
      ∨ (s.shutdown = .joined
        ∧ s' = { s with
          shutdown := .returned
          pendingState := none
          heap := s.heap.release s.pendingSerials }) := by
  rw [deinitStep.eq_def] at h
  cases hshutdown : s.shutdown with
  | running =>
    rw [hshutdown] at h
    exact .inl ⟨rfl, (Option.some.inj h).symm⟩
  | deviceStopped =>
    rw [hshutdown] at h
    exact .inr (.inl ⟨rfl, (Option.some.inj h).symm⟩)
  | iamDeinited =>
    rw [hshutdown] at h
    exact .inr (.inr (.inl ⟨rfl, (Option.some.inj h).symm⟩))
  | stopRequested =>
    rw [hshutdown] at h
    obtain ⟨hjoin, heq⟩ := Option.ite_none_left_eq_some.mp h
    exact .inr (.inr (.inr (.inl ⟨rfl, fun hstarted => by simpa [hstarted] using hjoin,
      (Option.some.inj heq).symm⟩)))
  | joined =>
    rw [hshutdown] at h
    exact .inr (.inr (.inr (.inr ⟨rfl, (Option.some.inj h).symm⟩)))
  | returned =>
    rw [hshutdown] at h
    exact nomatch h

theorem Ordered.dumpState (h : Ordered s) (hcallback : s.callback = .idle) :
    Ordered s.dumpState := by
  have hqueue := h.queue
  have hbalanced := h.balanced
  rw [StateSaver.queue, hcallback, StateCallback.held, List.append_nil] at hqueue
  rw [held, hcallback, StateCallback.held, List.append_nil] at hbalanced
  refine ⟨?_, ?_, ?_, h.unstarted, nofun, h.awake⟩
  · exact hqueue.append_right [DumpedState.mk s.heap.next s.memory]
  · rw [StateSaver.dumpState, List.map_append, h.serials, List.map_singleton]
    exact List.range_succ.symm
  · rw [held, List.map_append]
    exact hbalanced.allocate 1

theorem Ordered.checkWorker (h : Ordered s) (hcallback : s.callback = .dumped d) :
    Ordered (s.checkWorker d) := by
  have hqueue := h.queue
  have hbalanced := h.balanced
  rw [StateSaver.queue, hcallback] at hqueue
  rw [held, hcallback] at hbalanced
  rw [StateSaver.checkWorker]
  split_ifs with hstarted
  · exact ⟨hqueue, h.serials, hbalanced, h.unstarted, nofun, h.awake⟩
  · exact ⟨hqueue, h.serials, hbalanced, h.unstarted,
      fun _ _ => h.unstarted (Bool.eq_false_iff.mpr hstarted), h.awake⟩

/-- The new dump takes the place of the one that is dropped. -/
theorem Ordered.enqueue (h : Ordered s) (hcallback : s.callback = .enqueuing d) :
    Ordered (s.enqueue d) := by
  have hqueue := h.queue
  have hbalanced := h.balanced
  rw [StateSaver.queue, hcallback, List.append_assoc] at hqueue
  rw [held, hcallback] at hbalanced
  refine ⟨?_, h.serials, ?_, ?_, nofun, fun hwaits => absurd hwaits s.worker.signal_ne_waiting⟩
  · rw [StateSaver.queue, StateSaver.enqueue, SaverWorker.signal_unwritten, SaverWorker.signal_slot,
      StateCallback.held, List.append_nil]
    refine List.Sublist.trans (List.Sublist.append_left ?_ _) hqueue
    exact (s.worker.slot_sublist _).trans (List.sublist_append_right _ _)
  · rw [held, StateSaver.enqueue, SaverWorker.signal_held, StateCallback.held, List.append_nil]
    refine Balanced.release (hbalanced.perm ?_)
    simp only [List.map_append, pendingSerials]
    exact (List.perm_append_comm.append_right _).trans (by rw [List.append_assoc]; rfl)
  · rw [StateSaver.enqueue, SaverWorker.signal_hasExited]
    exact h.unstarted

theorem Ordered.saveDirectly (h : Ordered s) (hcallback : s.callback = .savingDirectly d) :
    Ordered (s.saveDirectly d) := by
  have hqueue := h.queue
  have hbalanced := h.balanced
  have hexited : s.worker = .exited := SaverWorker.eq_exited (h.direct d hcallback)
  rw [StateSaver.queue, hcallback, hexited] at hqueue
  rw [held, hcallback] at hbalanced
  refine ⟨?_, h.serials, ?_, h.unstarted, nofun, h.awake⟩
  · rw [StateSaver.queue, StateSaver.saveDirectly, saveIamState, hexited]
    simpa only [SaverWorker.unwritten, SaverWorker.slot, StateCallback.held, List.append_nil]
      using hqueue
  · rw [held, StateSaver.saveDirectly]
    refine Balanced.release (hbalanced.perm ?_)
    rw [StateCallback.held, StateCallback.held, List.append_nil, List.map_append]
    exact List.perm_append_comm

/-- **What the callback keeps.** -/
theorem Ordered.callbackStep (h : Ordered s) : Ordered s.callbackStep := by
  rw [StateSaver.callbackStep.eq_def]
  cases hcallback : s.callback with
  | idle => exact h.dumpState hcallback
  | dumped d => exact h.checkWorker hcallback
  | enqueuing d => exact h.enqueue hcallback
  | savingDirectly d => exact h.saveDirectly hcallback

theorem Ordered.takePending (h : Ordered s) (hexited : s.worker.hasExited = false)
    (hunwritten : s.worker.unwritten = []) (hheld : s.worker.held = [])
    (hslot : s.worker.slot s.pendingState = s.pendingState.toList) : Ordered s.takePending := by
  have hqueue := h.queue
  have hbalanced := h.balanced
  have hstarted : s.saveThreadStarted ≠ false := fun hs =>
    absurd (h.unstarted hs) (by rw [hexited]; decide)
  have hdirect (d : DumpedState σ) : s.callback ≠ .savingDirectly d := fun hd =>
    absurd (h.direct d hd) (by rw [hexited]; decide)
  rw [StateSaver.queue, hunwritten, hslot, List.append_nil] at hqueue
  rw [held, hheld, List.nil_append] at hbalanced
  rw [StateSaver.takePending.eq_def]
  cases hpending : s.pendingState with
  | some d =>
    rw [hpending] at hqueue hbalanced
    refine ⟨?_, h.serials, hbalanced, fun hs => absurd hs hstarted,
      fun d hd => absurd hd (hdirect d), nofun⟩
    rw [StateSaver.queue]
    simpa only [SaverWorker.unwritten, SaverWorker.slot, Option.toList_some, Option.toList_none,
      List.append_nil] using hqueue
  | none =>
    rw [hpending] at hqueue hbalanced
    dsimp only
    split_ifs with hstop
    · exact ⟨by simpa [StateSaver.queue, SaverWorker.unwritten, SaverWorker.slot] using hqueue,
        h.serials, hbalanced, fun _ => rfl, fun _ _ => rfl, nofun⟩
    · refine ⟨?_, h.serials, ?_, fun hs => absurd hs hstarted, fun d hd => absurd hd (hdirect d),
        fun _ => ⟨rfl, Bool.eq_false_iff.mpr hstop⟩⟩
      · simpa [StateSaver.queue, SaverWorker.unwritten, SaverWorker.slot] using hqueue
      · simpa [held, SaverWorker.held] using hbalanced

/-- When the join returns, the worker has ended or was never started. -/
theorem Ordered.hasExited (h : Ordered s)
    (hjoin : s.saveThreadStarted = true → s.worker.hasExited = true) :
    s.worker.hasExited = true := by
  cases hstarted : s.saveThreadStarted with
  | true => exact hjoin hstarted
  | false => exact h.unstarted hstarted

/-- **What the worker keeps.** -/
theorem Ordered.workerStep {s' : StateSaver σ} (h : Ordered s) (hstep : s.workerStep = some s') :
    Ordered s' := by
  have hqueue := h.queue
  have hbalanced := h.balanced
  have hstarted := h.unstarted
  have hdirect := h.direct
  rw [StateSaver.queue] at hqueue
  rw [held] at hbalanced
  obtain ⟨rfl, hexited, hunwritten, hheld, hslot⟩ | ⟨d, hworker, rfl⟩ | ⟨d, hworker, rfl⟩ :=
    workerStep_cases hstep
  · exact h.takePending hexited hunwritten hheld hslot
  · rw [hworker] at hqueue hbalanced hstarted hdirect
    refine ⟨?_, h.serials, hbalanced, hstarted, hdirect, nofun⟩
    rw [StateSaver.queue]
    simpa only [saveIamState, SaverWorker.unwritten, SaverWorker.slot, List.append_nil] using hqueue
  · rw [hworker] at hqueue hbalanced hstarted hdirect
    exact ⟨hqueue, h.serials, Balanced.release hbalanced, hstarted, hdirect, nofun⟩

/-- **What the shutdown keeps.** -/
theorem Ordered.deinitStep {s' : StateSaver σ} (h : Ordered s) (hstep : s.deinitStep = some s') :
    Ordered s' := by
  have hqueue := h.queue
  have hbalanced := h.balanced
  obtain ⟨-, rfl⟩ | ⟨-, rfl⟩ | ⟨-, rfl⟩ | ⟨-, hjoin, rfl⟩ | ⟨-, rfl⟩ := deinitStep_cases hstep
  · exact ⟨hqueue, h.serials, hbalanced, h.unstarted, h.direct, h.awake⟩
  · exact ⟨hqueue, h.serials, hbalanced, h.unstarted, h.direct, h.awake⟩
  · refine ⟨?_, h.serials, ?_, ?_, ?_, fun hwaits => absurd hwaits s.worker.signal_ne_waiting⟩
    · rw [StateSaver.queue, SaverWorker.signal_unwritten, SaverWorker.signal_slot]
      exact hqueue
    · rw [held, SaverWorker.signal_held]
      exact hbalanced
    · rw [SaverWorker.signal_hasExited]
      exact h.unstarted
    · rw [SaverWorker.signal_hasExited]
      exact h.direct
  · exact ⟨hqueue, h.serials, hbalanced, fun _ => h.hasExited hjoin, h.direct, h.awake⟩
  · refine ⟨?_, h.serials, ?_, h.unstarted, h.direct, fun hwaits => ⟨rfl, (h.awake hwaits).2⟩⟩
    · refine List.Sublist.trans (List.Sublist.append_right ?_ _) hqueue
      refine List.Sublist.append_left ?_ _
      cases s.worker <;> exact List.nil_sublist _
    · refine Balanced.release (hbalanced.perm ?_)
      rw [held, held, Option.toList_none, List.append_nil]
      simp only [List.map_append, pendingSerials]
      exact (List.perm_append_comm.append_right _).trans (by rw [List.append_assoc])

/-- **What a step keeps.** -/
theorem Ordered.step {s' : StateSaver σ} (h : Ordered s) {action : SaverAction σ}
    (hstep : s.step action = some s') : Ordered s' := by
  cases action with
  | change memory =>
    obtain rfl := Option.some.inj hstep
    exact ⟨h.queue, h.serials, h.balanced, h.unstarted, h.direct, h.awake⟩
  | callback =>
    obtain ⟨-, heq⟩ := Option.ite_none_left_eq_some.mp hstep
    exact Option.some.inj heq ▸ h.callbackStep
  | worker => exact h.workerStep hstep
  | deinit => exact h.deinitStep hstep

theorem ordered_of_run {started : Bool} {memory file : σ} {run : List (SaverAction σ)}
    (hrun : Guarded.run step (init started memory file) run = some s) : Ordered s :=
  Guarded.run_invariant (fun _ _ _ hs hstep => Ordered.step hs hstep)
    (ordered_init started memory file) hrun

/-- **No wakeup is lost.**  A worker that waits, and was not signalled, has nothing to do: it needs
no spurious wakeup to write what is in the slot, or to stop. -/
theorem nothing_to_do_of_waiting {started : Bool} {memory file : σ} {run : List (SaverAction σ)}
    (hrun : Guarded.run step (init started memory file) run = some s)
    (hwaits : s.worker = .waiting false) : s.pendingState = none ∧ s.saveStop = false :=
  (ordered_of_run hrun).awake hwaits

/-! ## The last dump -/

/-- The invariant of quiet runs: the last dump is written, or somebody is there to write it. -/
structure Kept (s : StateSaver σ) : Prop where
  last : s.queue.getLast? = s.dumped.getLast?
  file : ∀ d, s.written.getLast? = some d → s.file = d.state
  idle : s.shutdown ≠ .running → s.callback = .idle
  stopping : s.saveStop = true → s.shutdown ≠ .running
  exits : s.worker = .exited → s.saveThreadStarted = false ∨ s.saveStop = true
  enqueuing : ∀ d, s.callback = .enqueuing d → s.saveThreadStarted = true
  joined : s.shutdown = .joined → s.worker = .exited
  returned : s.shutdown = .returned → s.worker = .exited ∧ s.pendingState = none

theorem kept_init (started : Bool) (memory file : σ) : Kept (init started memory file) := by
  refine ⟨?_, nofun, fun _ => rfl, nofun, ?_, nofun, nofun, nofun⟩
  · cases started <;> rfl
  · cases started with
    | true => exact nofun
    | false => exact fun _ => Or.inl rfl

theorem Kept.callbackStep (h : Kept s) (hordered : Ordered s) (hrunning : s.shutdown = .running) :
    Kept s.callbackStep := by
  have hlast := h.last
  rw [StateSaver.queue] at hlast
  rw [StateSaver.callbackStep.eq_def]
  have hnot : ¬ s.shutdown ≠ .running := fun hne => hne hrunning
  have hjoined : s.shutdown ≠ .joined := hrunning.symm ▸ nofun
  have hreturned : s.shutdown ≠ .returned := hrunning.symm ▸ nofun
  cases hcallback : s.callback with
  | idle =>
    refine ⟨?_, h.file, fun hne => absurd hne hnot, h.stopping, h.exits, nofun, h.joined,
      h.returned⟩
    rw [StateSaver.queue, StateSaver.dumpState]
    dsimp only [StateCallback.held]
    rw [List.getLast?_concat, List.getLast?_concat]
  | dumped d =>
    rw [hcallback] at hlast
    dsimp only
    rw [StateSaver.checkWorker]
    split_ifs with hstarted
    · exact ⟨hlast, h.file, fun hne => absurd hne hnot, h.stopping, h.exits, fun _ _ => hstarted,
        h.joined, h.returned⟩
    · exact ⟨hlast, h.file, fun hne => absurd hne hnot, h.stopping, h.exits, nofun, h.joined,
        h.returned⟩
  | enqueuing d =>
    -- there is a worker to take the dump
    have hslot : s.worker.slot (some d) = [d] := by
      cases hworker : s.worker with
      | exited =>
        obtain hunstarted | hstop := h.exits hworker
        · exact nomatch hunstarted.symm.trans (h.enqueuing d hcallback)
        · exact absurd (h.stopping hstop) hnot
      | _ => rfl
    rw [hcallback, StateCallback.held, List.getLast?_concat] at hlast
    dsimp only
    refine ⟨?_, h.file, fun _ => rfl, h.stopping, ?_, nofun, fun hs => absurd hs hjoined,
      fun hs => absurd hs hreturned⟩
    · rw [StateSaver.queue, StateSaver.enqueue, SaverWorker.signal_unwritten,
        SaverWorker.signal_slot]
      dsimp only [StateCallback.held]
      rw [hslot, List.append_nil, List.getLast?_concat]
      exact hlast
    · intro hexited
      refine h.exits (SaverWorker.eq_exited ?_)
      rw [← SaverWorker.signal_hasExited]
      exact congrArg SaverWorker.hasExited hexited
  | savingDirectly d =>
    have hexited : s.worker = .exited := SaverWorker.eq_exited (hordered.direct d hcallback)
    rw [hcallback, hexited] at hlast
    dsimp only
    refine ⟨?_, ?_, fun _ => rfl, h.stopping, h.exits, nofun, h.joined, h.returned⟩
    · rw [StateSaver.queue, StateSaver.saveDirectly, saveIamState, hexited]
      simpa only [SaverWorker.unwritten, SaverWorker.slot, StateCallback.held, List.append_nil]
        using hlast
    · intro d' hd'
      rw [StateSaver.saveDirectly, saveIamState, List.getLast?_concat] at hd'
      exact Option.some.inj hd' ▸ rfl

theorem Kept.takePending (h : Kept s) (hexited : s.worker ≠ .exited)
    (hunwritten : s.worker.unwritten = [])
    (hslot : s.worker.slot s.pendingState = s.pendingState.toList) : Kept s.takePending := by
  have hlast := h.last
  rw [StateSaver.queue, hunwritten, hslot, List.append_nil] at hlast
  have hjoined : s.shutdown ≠ .joined := fun hs => hexited (h.joined hs)
  have hreturned : s.shutdown ≠ .returned := fun hs => hexited (h.returned hs).1
  rw [StateSaver.takePending.eq_def]
  cases hpending : s.pendingState with
  | some d =>
    rw [hpending] at hlast
    refine ⟨?_, h.file, h.idle, h.stopping, nofun, h.enqueuing, fun hs => absurd hs hjoined,
      fun hs => absurd hs hreturned⟩
    rw [StateSaver.queue]
    simpa only [SaverWorker.unwritten, SaverWorker.slot, Option.toList_some, Option.toList_none,
      List.append_nil] using hlast
  | none =>
    rw [hpending] at hlast
    dsimp only
    split_ifs with hstop
    · refine ⟨?_, h.file, h.idle, h.stopping, fun _ => Or.inr hstop, h.enqueuing,
        fun hs => absurd hs hjoined, fun hs => absurd hs hreturned⟩
      simpa [StateSaver.queue, SaverWorker.unwritten, SaverWorker.slot] using hlast
    · refine ⟨?_, h.file, h.idle, h.stopping, nofun, h.enqueuing, fun hs => absurd hs hjoined,
        fun hs => absurd hs hreturned⟩
      simpa [StateSaver.queue, SaverWorker.unwritten, SaverWorker.slot] using hlast

theorem Kept.workerStep {s' : StateSaver σ} (h : Kept s) (hstep : s.workerStep = some s') :
    Kept s' := by
  have hlast := h.last
  rw [StateSaver.queue] at hlast
  have hends (hexited : s.worker ≠ .exited) : s.shutdown ≠ .joined ∧ s.shutdown ≠ .returned :=
    ⟨fun hs => hexited (h.joined hs), fun hs => hexited (h.returned hs).1⟩
  obtain ⟨rfl, hexited, hunwritten, -, hslot⟩ | ⟨d, hworker, rfl⟩ | ⟨d, hworker, rfl⟩ :=
    workerStep_cases hstep
  · refine h.takePending (fun heq => ?_) hunwritten hslot
    rw [heq] at hexited
    exact nomatch hexited
  · obtain ⟨hjoined, hreturned⟩ := hends (by rw [hworker]; exact nofun)
    rw [hworker] at hlast
    refine ⟨?_, ?_, h.idle, h.stopping, nofun, h.enqueuing, fun hs => absurd hs hjoined,
      fun hs => absurd hs hreturned⟩
    · rw [StateSaver.queue]
      simpa only [saveIamState, SaverWorker.unwritten, SaverWorker.slot, List.append_nil]
        using hlast
    · intro d' hd'
      rw [saveIamState, List.getLast?_concat] at hd'
      exact Option.some.inj hd' ▸ rfl
  · obtain ⟨hjoined, hreturned⟩ := hends (by rw [hworker]; exact nofun)
    rw [hworker] at hlast
    exact ⟨hlast, h.file, h.idle, h.stopping, nofun, h.enqueuing, fun hs => absurd hs hjoined,
      fun hs => absurd hs hreturned⟩

theorem Kept.deinitStep {s' : StateSaver σ} (h : Kept s) (hordered : Ordered s)
    (hquiet : s.shutdown = .running → s.callback = .idle) (hstep : s.deinitStep = some s') :
    Kept s' := by
  have hlast := h.last
  rw [StateSaver.queue] at hlast
  have hidle : s.callback = .idle := by
    by_cases hrunning : s.shutdown = .running
    · exact hquiet hrunning
    · exact h.idle hrunning
  obtain ⟨-, rfl⟩ | ⟨-, rfl⟩ | ⟨-, rfl⟩ | ⟨-, hjoin, rfl⟩ | ⟨hshutdown, rfl⟩ :=
    deinitStep_cases hstep
  · exact ⟨hlast, h.file, fun _ => hidle, fun _ => nofun, h.exits, h.enqueuing, nofun, nofun⟩
  · exact ⟨hlast, h.file, fun _ => hidle, fun _ => nofun, h.exits, h.enqueuing, nofun, nofun⟩
  · refine ⟨?_, h.file, fun _ => hidle, fun _ => nofun, fun _ => Or.inr rfl, h.enqueuing, nofun,
      nofun⟩
    rw [StateSaver.queue, SaverWorker.signal_unwritten, SaverWorker.signal_slot]
    exact hlast
  · have hexited : s.worker = .exited := SaverWorker.eq_exited (hordered.hasExited hjoin)
    exact ⟨hlast, h.file, fun _ => hidle, fun _ => nofun, fun _ => Or.inl rfl,
      fun _ hd => absurd (hidle.symm.trans hd) nofun, fun _ => hexited, nofun⟩
  · have hexited := h.joined hshutdown
    refine ⟨?_, h.file, fun _ => hidle, fun _ => nofun, h.exits, h.enqueuing, nofun,
      fun _ => ⟨hexited, rfl⟩⟩
    rw [hexited] at hlast
    rw [StateSaver.queue]
    dsimp only
    rw [hexited]
    exact hlast

/-- **What a quiet step keeps.** -/
theorem Kept.step {s' : StateSaver σ} {action : SaverAction σ} (h : Ordered s ∧ Kept s)
    (hquiet : Quiet s action) (hstep : s.step action = some s') : Ordered s' ∧ Kept s' := by
  obtain ⟨hordered, hkept⟩ := h
  refine ⟨hordered.step hstep, ?_⟩
  cases action with
  | change memory =>
    obtain rfl := Option.some.inj hstep
    exact ⟨hkept.last, hkept.file, hkept.idle, hkept.stopping, hkept.exits, hkept.enqueuing,
      hkept.joined, hkept.returned⟩
  | callback =>
    obtain ⟨-, heq⟩ := Option.ite_none_left_eq_some.mp hstep
    exact Option.some.inj heq ▸ hkept.callbackStep hordered hquiet
  | worker => exact hkept.workerStep hstep
  | deinit => exact hkept.deinitStep hordered hquiet hstep

/-- The dumps have the numbers of their order. -/
theorem Ordered.pairwise_dumped (h : Ordered s) :
    s.dumped.Pairwise fun earlier later => earlier.serial < later.serial := by
  have hpairwise : (s.dumped.map DumpedState.serial).Pairwise (· < ·) :=
    h.serials ▸ List.pairwise_lt_range
  exact List.pairwise_map.mp hpairwise

/-- **The last state that was dumped is what the file ends with.**  Whatever the order of steps, the
states written are some of those dumped, in that order, none of them twice or after a later one.  If
the device is stopped first, then when the shutdown returns the slot is empty, the file holds the
last state that was dumped, and every dump has been freed once. -/
theorem saver_last_write_wins (started : Bool) (memory file : σ) (run : List (SaverAction σ))
    (s : StateSaver σ) (hrun : Guarded.run step (init started memory file) run = some s) :
    s.dumped.map DumpedState.serial = List.range s.dumped.length
    ∧ s.written.Sublist s.dumped
    ∧ (s.written.Pairwise fun earlier later => earlier.serial < later.serial)
    ∧ (Guarded.AllSteps step Quiet (init started memory file) run → s.shutdown = .returned →
      s.pendingState = none
      ∧ (∀ d, s.dumped.getLast? = some d → s.file = d.state)
      ∧ ∀ d ∈ s.dumped, s.heap.released.count d.serial = 1) := by
  have hordered : Ordered s := ordered_of_run hrun
  have hwritten : s.written.Sublist s.dumped := by
    have hqueue := hordered.queue
    rw [queue, List.append_assoc, List.append_assoc] at hqueue
    exact (List.sublist_append_left _ _).trans hqueue
  have hnext : s.heap.next = s.dumped.length := by
    simpa using (congrArg List.length hordered.serials).symm
  refine ⟨hnext ▸ hordered.serials, hwritten, hordered.pairwise_dumped.sublist hwritten, ?_⟩
  intro hquiet hreturned
  obtain ⟨-, hkept⟩ := (Guarded.throughout_of_allSteps
    (fun _ _ _ hs hC hstep => Kept.step hs hC hstep)
    ⟨ordered_init started memory file, kept_init started memory file⟩ hquiet).last hrun
  obtain ⟨hexited, hempty⟩ := hkept.returned hreturned
  have hidle : s.callback = .idle := hkept.idle (hreturned ▸ nofun)
  refine ⟨hempty, fun d hd => hkept.file d ?_, fun d hd => ?_⟩
  · have hlast := hkept.last
    rw [queue, hexited, hidle] at hlast
    simpa [SaverWorker.unwritten, SaverWorker.slot, StateCallback.held, hd] using hlast
  · have hbalanced := hordered.balanced
    rw [held, hexited, hempty, hidle] at hbalanced
    refine hbalanced.count_released ?_
    rw [← List.mem_range, ← hordered.serials]
    exact List.mem_map_of_mem hd

/-- Two states are dumped before the worker looks, and a third one while it writes. -/
def pairingRun : List (SaverAction ℕ) :=
  [.worker, .change 1, .callback, .callback, .callback, .change 2, .callback, .callback, .callback,
    .worker, .change 3, .callback, .callback, .worker, .callback, .deinit, .deinit, .deinit,
    .worker, .worker, .worker, .worker, .worker, .deinit, .deinit]

theorem saver_last_write_wins_pairings :
    ∃ s, Guarded.run step (init true 0 0) pairingRun = some s
      ∧ s.written.map DumpedState.state = [2, 3]
      ∧ s.dumped.map DumpedState.state = [1, 2, 3]
      ∧ s.pendingState = none
      ∧ ∀ d, s.dumped.getLast? = some d → s.file = d.state := by
  have hquiet : Guarded.AllSteps step Quiet (init true 0 0) pairingRun := by decide
  obtain ⟨hpending, hfile, -⟩ :=
    (saver_last_write_wins true 0 0 pairingRun _ rfl).2.2.2 hquiet rfl
  exact ⟨_, rfl, rfl, rfl, hpending, hfile⟩

end StateSaver

end TmuxRemote
