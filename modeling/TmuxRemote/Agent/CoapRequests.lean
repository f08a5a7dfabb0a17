import Mathlib.Algebra.GroupWithZero.Nat
import TmuxRemote.Agent.CoapSteps

/-!
# Agent/CoapRequests — every request is consumed once

A step that nobody outside has to ask for uses up some of the work that is left, so the endpoint
comes to rest; and then every request that was delivered has been answered and freed once
(`requests_consumed_once`).
-/

namespace TmuxRemote

/-! ## What is left to do -/

/-- A step that nobody outside has to ask for. -/
def CoapAction.internal : CoapAction → Bool
  | callback _ _ | worker | deinitNext => true
  | _ => false

/-- The steps a callback may still cause, the worker's and the last waiter's included. -/
def CallbackPc.work : CallbackPc → ℕ
  | entering => 11
  | entered => 10
  | allocated _ => 9
  | refused _ => 6
  | answered _ => 5
  | rearming => 4
  | listening => 3
  | leaving => 2
  | rejected => 1
  | returned => 0

/-- The steps the worker may take without another request. -/
def WorkerPc.work : WorkerPc → ℕ
  | testing => 1
  | freeing _ => 2
  | waiting | handling _ | exited => 0

def DeinitPc.work : DeinitPc → ℕ
  | testing => 7
  | waiting => 6
  | broadcasting => 5
  | joining => 3
  | taking => 2
  | freeing _ => 1
  | notCalled | returned => 0

namespace CoapHandler

/-- A bound on the steps to come if nobody outside does anything. -/
def work (s : CoapHandler) : ℕ :=
  (s.callbacks.map CallbackPc.work).sum
    + 3 * ((enqueuedIn s.log).length - (handledIn s.log).length) + s.worker.work + s.deinit.work

end CoapHandler

theorem sum_goto {callbacks : List CallbackPc} {i : ℕ} {pc : CallbackPc}
    (hi : callbacks[i]? = some pc) (pc' : CallbackPc) :
    ((callbacks.set i pc').map CallbackPc.work).sum + pc.work
      = (callbacks.map CallbackPc.work).sum + pc'.work := by
  induction callbacks generalizing i with
  | nil => cases hi
  | cons head rest ih =>
    cases i with
    | zero =>
      obtain rfl := Option.some.inj hi
      simp only [List.set_cons_zero, List.map_cons, List.sum_cons]
      omega
    | succ i =>
      have hrest := ih hi
      simp only [List.set_cons_succ, List.map_cons, List.sum_cons]
      omega

theorem WorkerPc.work_signal_le (worker : WorkerPc) : worker.signal.work ≤ worker.work + 1 := by
  cases worker <;> simp only [signal, work] <;> omega

theorem DeinitPc.work_signal_le (deinit : DeinitPc) : deinit.signal.work ≤ deinit.work + 1 := by
  cases deinit <;> simp only [signal, work] <;> omega

namespace CoapHandler

variable {s s' : CoapHandler} {ns : List ℕ}

/-- What is enqueued and not yet passed on is with the worker or in the queue. -/
theorem Valid.length_queued (h : s.Valid ns) :
    (enqueuedIn s.log).length - (handledIn s.log).length = s.worker.inHand.length + ns.length := by
  rw [h.accounted.order, List.length_append, List.length_append]
  omega

/-- A callback that goes on uses up more than what happens on the way adds. -/
theorem work_goto_lt {t : CoapHandler} {i k : ℕ} {pc pc' : CallbackPc}
    (hi : t.callbacks[i]? = some pc) (ht : t.work ≤ s.work + k) (hk : pc'.work + k < pc.work) :
    (t.goto i pc').work < s.work := by
  have hsum := sum_goto hi pc'
  simp only [work, goto] at ht ⊢
  omega

theorem work_record_le {events : List RequestEvent}
    (h : enqueuedIn events = [] ∧ handledIn events = []) :
    (s.record events).work ≤ s.work + 0 := by
  simp only [work, record, enqueuedIn_append, handledIn_append, h.1, h.2, List.append_nil]
  exact Nat.le_refl _

theorem work_enqueue_le (r : ℕ) : (s.enqueue r).work ≤ s.work + 4 := by
  have hsignal := s.worker.work_signal_le
  have henqueued : (enqueuedIn (s.log ++ [.enqueued r])).length
      = (enqueuedIn s.log).length + 1 := by
    rw [enqueuedIn_append, List.length_append]
    rfl
  have hhandled : (handledIn (s.log ++ [.enqueued r])).length = (handledIn s.log).length := by
    rw [handledIn_append, List.length_append]
    rfl
  simp only [work, enqueue, henqueued, hhandled]
  omega

theorem work_callbackLeave_le : s.callbackLeave.work ≤ s.work + 1 := by
  have hsignal := s.deinit.work_signal_le
  simp only [work, callbackLeave]
  split <;> omega

theorem requestCallback_work_lt {i : ℕ} {pc : CallbackPc} (hi : s.callbacks[i]? = some pc)
    {callocOk : Bool} (hs : s.requestCallback i callocOk pc = some s') : s'.work < s.work := by
  have hsame : s.work ≤ s.work + 0 := Nat.le_refl s.work
  cases pc with
  | entering =>
    rw [requestCallback] at hs
    split at hs
    · obtain rfl := Option.some.inj hs
      exact work_goto_lt hi hsame (by decide)
    · obtain rfl := Option.some.inj hs
      exact work_goto_lt hi hsame (by decide)
  | rejected =>
    obtain rfl := Option.some.inj hs
    refine work_goto_lt hi (k := 0) (work_record_le (s := { s with request := none }) ?_)
      (by decide)
    cases s.request <;> exact ⟨rfl, rfl⟩
  | entered =>
    obtain ⟨r, -, rfl⟩ := Option.map_eq_some_iff.mp hs
    split
    · exact work_goto_lt hi hsame (by simp only [CallbackPc.work]; omega)
    · exact work_goto_lt hi hsame (by simp only [CallbackPc.work]; omega)
  | allocated r =>
    obtain rfl := Option.some.inj hs
    split
    · exact work_goto_lt hi hsame (by simp only [CallbackPc.work]; omega)
    · exact work_goto_lt hi (work_enqueue_le r) (by simp only [CallbackPc.work]; omega)
  | refused r =>
    obtain rfl := Option.some.inj hs
    exact work_goto_lt hi (work_record_le ⟨rfl, rfl⟩)
      (by simp only [CallbackPc.work]; omega)
  | answered r =>
    obtain rfl := Option.some.inj hs
    exact work_goto_lt hi (work_record_le ⟨rfl, rfl⟩)
      (by simp only [CallbackPc.work]; omega)
  | rearming =>
    obtain rfl := Option.some.inj hs
    split
    · exact work_goto_lt hi hsame (by decide)
    · exact work_goto_lt hi hsame (by decide)
  | listening =>
    obtain rfl := Option.some.inj hs
    exact work_goto_lt hi hsame (by decide)
  | leaving =>
    obtain rfl := Option.some.inj hs
    exact work_goto_lt hi work_callbackLeave_le (by decide)
  | returned => cases hs

theorem Valid.coapWorkerThread_work_lt (h : s.Valid ns)
    (hs : s.coapWorkerThread s.worker = some s') : s'.work < s.work := by
  have hqueued := h.length_queued
  cases hw : s.worker with
  | testing =>
    rw [hw, CoapHandler.coapWorkerThread] at hs
    split at hs
    · obtain rfl := Option.some.inj hs
      simp only [work, hw, WorkerPc.work]
      omega
    · obtain rfl := Option.some.inj hs
      simp only [work, hw]
      split <;> simp only [WorkerPc.work] <;> omega
  | handling r =>
    rw [hw] at hs hqueued
    obtain rfl := Option.some.inj hs
    have henqueued : (enqueuedIn (s.log ++ [.handled r])).length = (enqueuedIn s.log).length := by
      rw [enqueuedIn_append, List.length_append]
      rfl
    have hhandled : (handledIn (s.log ++ [.handled r])).length = (handledIn s.log).length + 1 := by
      rw [handledIn_append, List.length_append]
      rfl
    have hhand : (WorkerPc.handling r).inHand.length = 1 := rfl
    simp only [work, CoapHandler.record, hw, henqueued, hhandled, WorkerPc.work]
    omega
  | freeing r =>
    rw [hw] at hs
    obtain rfl := Option.some.inj hs
    refine Nat.lt_of_le_of_lt (work_record_le ⟨rfl, rfl⟩) ?_
    simp only [work, hw, WorkerPc.work]
    omega
  | waiting | exited =>
    rw [hw] at hs
    cases hs

theorem Valid.deinitNext_work_lt (h : s.Valid ns) (hs : s.deinitNext s.deinit = some s') :
    s'.work < s.work := by
  have hdeinit := h.deinit
  cases hd : s.deinit with
  | testing =>
    rw [hd] at hs
    obtain rfl := Option.some.inj hs
    simp only [work, hd]
    split <;> simp only [DeinitPc.work] <;> omega
  | broadcasting =>
    rw [hd] at hs
    obtain rfl := Option.some.inj hs
    have hsignal := s.worker.work_signal_le
    simp only [work, hd, DeinitPc.work]
    omega
  | joining =>
    rw [hd] at hs
    obtain ⟨-, hs⟩ := Option.ite_none_right_eq_some.mp hs
    obtain rfl := Option.some.inj hs
    simp only [work, hd, DeinitPc.work]
    omega
  | taking =>
    rw [hd] at hs
    obtain rfl := Option.some.inj hs
    simp only [work, hd, DeinitPc.work]
    omega
  | freeing node =>
    rw [hd] at hs hdeinit
    cases node with
    | none =>
      obtain rfl := Option.some.inj hs
      simp only [work, hd, DeinitPc.work]
      omega
    | some n => exact hdeinit.elim
  | notCalled | waiting | returned =>
    rw [hd] at hs
    cases hs

/-- **Every step of the handler's own threads uses up work.** -/
theorem Valid.work_lt (h : s.Valid ns) {a : CoapAction} (ha : a.internal = true)
    (hs : s.step a = some s') : s'.work < s.work := by
  cases a with
  | callback i callocOk =>
    obtain ⟨pc, hi, hs⟩ := Option.bind_eq_some_iff.mp hs
    exact requestCallback_work_lt hi hs
  | worker => exact h.coapWorkerThread_work_lt hs
  | deinitNext => exact h.deinitNext_work_lt hs
  | deliver | deliverError | stop | deinit | wakeWorker | wakeDeinit =>
    exact absurd ha Bool.false_ne_true

/-- The handler's own threads come to rest. -/
theorem length_add_work_le (h : s.Valid ns) {as : List CoapAction} {t : CoapHandler}
    (has : ∀ a ∈ as, CoapAction.internal a = true)
    (ht : Guarded.run CoapHandler.step s as = some t) :
    as.length + t.work ≤ s.work := by
  have hkeep : ∀ s a s', (∃ ns, Valid s ns) → CoapHandler.step s a = some s' → ∃ ns, Valid s' ns :=
    fun _ _ _ ⟨_, h⟩ hstep => h.step hstep
  exact Guarded.run_length_le hkeep (fun _ _ _ ⟨_, h⟩ ha hstep => h.work_lt ha hstep) ⟨ns, h⟩ has ht

/-! ## Every request is consumed once -/

/-- The handler's own threads have nothing to do. -/
def Quiescent (s : CoapHandler) : Prop := ∀ a, CoapAction.internal a = true → s.step a = none

/-- No callback is stuck, none at a null request either. -/
theorem Valid.eq_returned (h : s.Valid ns) {i : ℕ} {pc : CallbackPc}
    (hi : s.callbacks[i]? = some pc) (hquiescent : s.Quiescent) : pc = .returned := by
  have hnone : s.requestCallback i true pc = none := by
    have := hquiescent (.callback i true) rfl
    rwa [CoapHandler.step, hi] at this
  cases pc with
  | returned => rfl
  | entering =>
    rw [CoapHandler.requestCallback] at hnone
    split at hnone <;> cases hnone
  | entered =>
    rw [CoapHandler.requestCallback, h.turn.request i (hi ▸ rfl)] at hnone
    cases hnone
  | rejected | allocated | refused | answered | rearming | listening | leaving => cases hnone

/-- When nothing is left to do, the worker has nothing and the queue is empty. -/
theorem Valid.idle_of_quiescent (h : s.Valid ns) (hquiescent : s.Quiescent) :
    s.worker.held = [] ∧ s.worker.inHand = [] ∧ ns = [] := by
  have hnone : s.coapWorkerThread s.worker = none := hquiescent .worker rfl
  have hwork := h.accounted.atWork
  cases hw : s.worker with
  | testing =>
    rw [hw, CoapHandler.coapWorkerThread] at hnone
    split at hnone <;> cases hnone
  | handling r | freeing r =>
    rw [hw] at hnone
    cases hnone
  | waiting | exited =>
    rw [hw] at hwork
    exact ⟨rfl, rfl, hwork.1⟩

/-- What is logged of a request is the beginning of one of the three ways. -/
theorem Valid.exists_way (h : s.Valid ns) (r : ℕ) :
    ∃ way, RequestConsumed s.stopping r way ∧ eventsOf s.log r <+: way := by
  cases hr : s.callbacks[r]? with
  | none => exact ⟨_, .handled, h.accounted.undelivered r hr ▸ List.nil_prefix⟩
  | some pc =>
    have hat := h.accounted.requests r pc hr
    cases pc with
    | entering | rejected | entered =>
      exact ⟨_, .handled, (show eventsOf s.log r = [] from hat) ▸ List.nil_prefix⟩
    | allocated | refused => exact ⟨_, .handled, hat.2 ▸ List.nil_prefix⟩
    | answered => exact ⟨_, .busy, hat.2 ▸ ⟨[.freed r], rfl⟩⟩
    | rearming | listening | leaving | returned =>
      rcases hat with hconsumed | hheld | hqueued
      · exact ⟨_, hconsumed, List.prefix_refl _⟩
      · have hwork := h.accounted.atWork
        cases hw : s.worker with
        | testing | waiting | exited =>
          rw [hw] at hheld
          exact absurd hheld List.not_mem_nil
        | handling r' =>
          rw [hw] at hheld hwork
          obtain rfl := List.mem_singleton.mp hheld
          exact ⟨_, .handled, hwork.1 ▸ ⟨[.handled r, .freed r], rfl⟩⟩
        | freeing r' =>
          rw [hw] at hheld hwork
          obtain rfl := List.mem_singleton.mp hheld
          exact ⟨_, .handled, (show eventsOf s.log r = _ from hwork) ▸ ⟨[.freed r], rfl⟩⟩
      · exact ⟨_, .handled, h.accounted.queued r hqueued ▸ ⟨[.handled r, .freed r], rfl⟩⟩

/-- **Requests are handled exactly once, in order.**  In every run, what has become of a request is
the beginning of one of three ways, and the handled requests are a beginning of the enqueued ones.
The handler's own threads come to rest after boundedly many steps, and then every delivered request
has been consumed in one of the ways, and every enqueued one was handled; so it is after deinit, and
the queue is empty and no callback is between `callback_enter` and `callback_leave`. -/
theorem requests_consumed_once {as : List CoapAction}
    (hs : Guarded.run CoapHandler.step .init as = some s) :
    (∀ r, ∃ way, RequestConsumed s.stopping r way ∧ eventsOf s.log r <+: way)
    ∧ handledIn s.log <+: enqueuedIn s.log
    ∧ (∀ bs t, (∀ a ∈ bs, CoapAction.internal a = true) →
      Guarded.run CoapHandler.step s bs = some t →
        bs.length ≤ s.work)
    ∧ (s.Quiescent → (∀ r < s.callbacks.length, RequestConsumed s.stopping r (eventsOf s.log r))
        ∧ handledIn s.log = enqueuedIn s.log)
    ∧ (s.deinit = .returned → s.queue.head = none ∧ s.queue.tail = none ∧ s.activeCallbacks = 0
        ∧ (∀ pc ∈ s.callbacks, pc.active = false) ∧ handledIn s.log = enqueuedIn s.log) := by
  obtain ⟨ns, h⟩ := Valid.run hs
  refine ⟨h.exists_way, ?_, fun bs t hbs ht => ?_, fun hquiescent => ⟨fun r hr => ?_, ?_⟩,
    fun hreturned => ?_⟩
  · rw [h.accounted.order]
    exact List.prefix_append _ _
  · exact Nat.le_of_add_right_le (length_add_work_le h hbs ht)
  · obtain ⟨hheld, -, hns⟩ := h.idle_of_quiescent hquiescent
    have hpc := List.getElem?_eq_getElem hr
    have hat := h.accounted.requests r _ hpc
    rw [h.eq_returned hpc hquiescent] at hat
    refine hat.resolve_right (not_or.mpr ⟨?_, ?_⟩)
    · rw [hheld]
      exact List.not_mem_nil
    · rw [hns]
      exact List.not_mem_nil
  · obtain ⟨-, hhand, hns⟩ := h.idle_of_quiescent hquiescent
    rw [h.accounted.order, hhand, hns]
    exact (List.append_nil _).symm
  · have hdeinit := h.deinit
    rw [hreturned] at hdeinit
    obtain ⟨-, hactive, hexited⟩ := hdeinit
    obtain rfl := h.eq_nil_of_exited hexited
    refine ⟨h.accounted.represents.head_eq, h.accounted.represents.tail, hactive,
      fun pc hpc => ?_, ?_⟩
    · rw [← Bool.not_eq_true]
      intro hpcactive
      have hcount := h.turn.active.symm.trans hactive
      exact absurd hpcactive (List.countP_eq_zero.mp hcount pc hpc)
    · rw [h.accounted.order, hexited]
      exact (List.append_nil _).symm

/-- Two requests: one is handled, the other is answered 503 as the handler is stopped before it is
in the queue. -/
theorem requests_consumed_once_two :
    ∃ as s, Guarded.run CoapHandler.step .init as = some s
      ∧ s.log = [.enqueued 0, .errorResponse 1 503 "Server busy", .freed 1, .handled 0, .freed 0]
      ∧ handledIn s.log <+: enqueuedIn s.log ∧ s.queue.head = none ∧ s.activeCallbacks = 0 := by
  have hrun : (Guarded.run CoapHandler.step .init
      [.deliver, .callback 0 true, .callback 0 true, .callback 0 true, .callback 0 true,
        .callback 0 true, .worker, .deliver, .callback 1 true, .callback 1 true, .callback 0 true,
        .deinit, .deinitNext, .callback 1 true, .callback 1 true, .callback 1 true, .worker,
        .callback 1 true, .callback 1 true, .deinitNext, .worker, .deinitNext, .worker,
        .deinitNext, .deinitNext, .deinitNext]).map (fun s => (s.log, s.deinit))
      = some ([.enqueued 0, .errorResponse 1 503 "Server busy", .freed 1, .handled 0, .freed 0],
        .returned) := by decide +kernel
  obtain ⟨s, hs, hseen⟩ := Option.map_eq_some_iff.mp hrun
  obtain ⟨hlog, hreturned⟩ := Prod.mk.inj hseen
  obtain ⟨-, horder, -, -, hdone⟩ := requests_consumed_once hs
  exact ⟨_, s, hs, hlog, horder, (hdone hreturned).1, (hdone hreturned).2.2.1⟩

end CoapHandler

end TmuxRemote
