import TmuxRemote.Agent.CoapAccounts

/-!
# Agent/CoapSteps — the invariant of a CoAP endpoint, step by step

`Valid` puts the three parts of the invariant together; each function of the handler keeps it, and
so does every run (`Valid.run`).
-/

namespace TmuxRemote

namespace CoapHandler

/-- The invariant; `ns` are the requests in the queue. -/
structure Valid (s : CoapHandler) (ns : List ℕ) : Prop where
  turn : InTurn s.armed s.request s.callbacks s.activeCallbacks s.stopping
  accounted : Accounted s.callbacks s.queue s.worker s.log s.stopping ns
  deinit : DeinitAt s.activeCallbacks s.worker s.stopping s.deinit

namespace Valid

variable {s s' : CoapHandler} {ns : List ℕ} {i : ℕ} {pc pc' : CallbackPc}

theorem init : CoapHandler.init.Valid [] where
  turn := by
    refine ⟨fun _ _ => rfl, fun _ _ h => ?_, fun _ h => ?_, fun h => ?_, rfl⟩
    · exact absurd h Bool.false_ne_true
    · exact absurd h Bool.false_ne_true
    · exact absurd h List.not_mem_nil
  accounted := by
    refine ⟨LinkedQueue.represents_empty, rfl, fun _ h => ?_, trivial, fun _ _ h => ?_,
      fun _ _ => rfl⟩
    · exact absurd h List.not_mem_nil
    · cases h
  deinit := trivial

/-- A callback goes on and does nothing else. -/
theorem goto (h : s.Valid ns) (hi : s.callbacks[i]? = some pc)
    (hturn : pc'.inTurn = true → pc.inTurn = true) (hearly : pc'.early = true → pc.early = true)
    (hrejected : pc' = .rejected → s.stopping = true) (hactive : pc'.active = pc.active)
    (hat : RequestAt s.worker s.log s.stopping ns i pc') : (s.goto i pc').Valid ns where
  turn := h.turn.goto hi pc' hturn hearly hrejected (hactive ▸ rfl)
  accounted := h.accounted.goto hi hat
  deinit := h.deinit

/-- A callback does something about its request, which no other thread has. -/
theorem record (h : s.Valid ns) (hi : s.callbacks[i]? = some pc) {e : RequestEvent}
    (hturn : pc'.inTurn = true → pc.inTurn = true) (hearly : pc'.early = true → pc.early = true)
    (hrejected : pc' = .rejected → s.stopping = true) (hactive : pc'.active = pc.active)
    (he : e.request = i) (hplain : enqueuedIn [e] = [] ∧ handledIn [e] = [])
    (hfresh : (eventsOf s.log i).head? ≠ some (.enqueued i))
    (hat : RequestAt s.worker (s.log ++ [e]) s.stopping ns i pc') :
    ((s.record [e]).goto i pc').Valid ns where
  turn := h.turn.goto hi pc' hturn hearly hrejected (hactive ▸ rfl)
  accounted := h.accounted.record hi he hplain
    (fun hin => hfresh (h.accounted.head?_eventsOf hin)) hat
  deinit := h.deinit

/-- The callback that reads `handler->request` takes the request along. -/
theorem takeRequest {t : CoapHandler} (ht : t.Valid ns) (h : s.Valid ns)
    (hi : s.callbacks[i]? = some pc) (hpc : pc.inTurn = true)
    (hcallbacks : t.callbacks = s.callbacks.set i pc') (hlate : pc'.early = false) :
    Valid { t with request := none } ns where
  turn := by
    refine ht.turn.read (fun j => ?_) none
    rw [hcallbacks]
    exact h.turn.pass hi hpc (fun _ => CallbackPc.inTurn_of_early) hlate j
  accounted := ht.accounted
  deinit := ht.deinit

end Valid

/-- **A step of a callback keeps the invariant.** -/
theorem Valid.requestCallback {s s' : CoapHandler} {ns : List ℕ} {i : ℕ} {pc : CallbackPc}
    (h : s.Valid ns) (hi : s.callbacks[i]? = some pc) {callocOk : Bool}
    (hs : s.requestCallback i callocOk pc = some s') : ∃ ns', s'.Valid ns' := by
  have hat := h.accounted.requests i pc hi
  have hrequest : pc.early = true → s.request = some i :=
    fun hearly => h.turn.request i (hi ▸ hearly)
  cases pc with
  | entering =>
    rw [CoapHandler.requestCallback] at hs
    split at hs
    case isTrue hstop =>
      obtain rfl := Option.some.inj hs
      exact ⟨ns, h.goto hi (fun _ => rfl) (fun _ => rfl) (fun _ => hstop) rfl hat⟩
    case isFalse hstop =>
      obtain rfl := Option.some.inj hs
      refine ⟨ns, h.turn.goto hi .entered (fun _ => rfl) (fun _ => rfl) CallbackPc.noConfusion rfl,
        h.accounted.goto hi hat, ?_⟩
      change DeinitAt _ _ s.stopping s.deinit
      rw [DeinitAt.notCalled h.deinit (Bool.not_eq_true _ ▸ hstop)]
      trivial
  | rejected =>
    rw [CoapHandler.requestCallback, hrequest rfl] at hs
    obtain rfl := Option.some.inj hs
    have hstop : s.stopping = true := h.turn.rejected (List.mem_of_getElem? hi)
    have hlog : eventsOf s.log i = [] := hat
    have hmoved : ((s.record [.freed i]).goto i .returned).Valid ns := by
      refine h.record hi (fun _ => rfl) (fun _ => rfl) CallbackPc.noConfusion rfl rfl ⟨rfl, rfl⟩
        (by rw [hlog]; simp) (Or.inl ?_)
      rw [show eventsOf (s.log ++ [.freed i]) i = eventsOf s.log i ++ [.freed i] from
        eventsOf_concat_self s.log (.freed i), hlog]
      exact .stopping hstop
    exact ⟨ns, hmoved.takeRequest h hi rfl rfl rfl⟩
  | entered =>
    rw [CoapHandler.requestCallback, hrequest rfl] at hs
    obtain rfl := Option.some.inj hs
    cases callocOk with
    | false =>
      have hmoved : (s.goto i (.refused i)).Valid ns :=
        h.goto hi (fun _ => rfl) (fun _ => rfl) CallbackPc.noConfusion rfl ⟨rfl, hat⟩
      exact ⟨ns, hmoved.takeRequest h hi rfl rfl rfl⟩
    | true =>
      have hmoved : (s.goto i (.allocated i)).Valid ns :=
        h.goto hi (fun _ => rfl) (fun _ => rfl) CallbackPc.noConfusion rfl ⟨rfl, hat⟩
      exact ⟨ns, hmoved.takeRequest h hi rfl rfl rfl⟩
  | allocated r =>
    obtain ⟨rfl, hlog⟩ := hat
    obtain rfl := Option.some.inj hs
    split
    case isTrue hstop =>
      exact ⟨ns, h.goto hi (fun _ => rfl) (fun h => h) CallbackPc.noConfusion rfl ⟨rfl, hlog⟩⟩
    case isFalse hstop =>
      have hrunning : s.stopping = false := Bool.not_eq_true _ ▸ hstop
      have hacc := h.accounted
      rw [hrunning] at hacc
      refine ⟨ns ++ [r],
        h.turn.goto hi .rearming (fun _ => rfl) (fun h => h) CallbackPc.noConfusion rfl,
        hrunning ▸ hacc.enqueue hi, ?_⟩
      change DeinitAt _ _ s.stopping s.deinit
      rw [DeinitAt.notCalled h.deinit hrunning]
      trivial
  | refused r =>
    obtain ⟨rfl, hlog⟩ := hat
    obtain rfl := Option.some.inj hs
    refine ⟨ns, h.record hi (fun _ => rfl) (fun h => h) CallbackPc.noConfusion rfl rfl ⟨rfl, rfl⟩
      (by rw [hlog]; simp) ⟨rfl, ?_⟩⟩
    exact (eventsOf_concat_self s.log (.errorResponse r 503 "Server busy")).trans
      (by rw [RequestEvent.request, hlog]; rfl)
  | answered r =>
    obtain ⟨rfl, hlog⟩ := hat
    obtain rfl := Option.some.inj hs
    refine ⟨ns, h.record hi (fun _ => rfl) (fun h => h) CallbackPc.noConfusion rfl rfl ⟨rfl, rfl⟩
      (by rw [hlog]; simp) (Or.inl ?_)⟩
    rw [show eventsOf (s.log ++ [.freed r]) r = eventsOf s.log r ++ [.freed r] from
      eventsOf_concat_self s.log (.freed r), hlog]
    exact .busy
  | rearming =>
    obtain rfl := Option.some.inj hs
    refine ⟨ns, ?_⟩
    split
    · exact h.goto hi (fun _ => rfl) (fun h => h) CallbackPc.noConfusion rfl hat
    · exact h.goto hi (fun _ => rfl) (fun h => h) CallbackPc.noConfusion rfl hat
  | listening =>
    obtain rfl := Option.some.inj hs
    have hmoved : (s.goto i .leaving).Valid ns :=
      h.goto hi (fun _ => rfl) (fun h => h) CallbackPc.noConfusion rfl hat
    exact ⟨ns, hmoved.turn.listen (h.turn.pass hi rfl (fun _ => id) rfl), hmoved.accounted,
      hmoved.deinit⟩
  | leaving =>
    obtain rfl := Option.some.inj hs
    have hcount : 0 < s.activeCallbacks := by
      rw [h.turn.active]
      exact List.countP_pos_iff.mpr ⟨_, List.mem_of_getElem? hi, rfl⟩
    refine ⟨ns, h.turn.goto hi .returned (fun h => h) (fun h => h) CallbackPc.noConfusion ?_,
      h.accounted.goto hi hat, DeinitAt.leave h.deinit⟩
    exact Nat.sub_add_cancel hcount
  | returned => cases hs

section
variable {s s' : CoapHandler} {ns : List ℕ}

/-- **A step of the worker keeps the invariant.** -/
theorem Valid.coapWorkerThread (h : s.Valid ns) (hs : s.coapWorkerThread s.worker = some s') :
    ∃ ns', s'.Valid ns' := by
  have hacc := h.accounted
  have hdeinit := h.deinit
  cases hw : s.worker with
  | testing =>
    rw [hw] at hs hacc hdeinit
    rw [CoapHandler.coapWorkerThread] at hs
    cases ns with
    | nil =>
      rw [hacc.represents.dequeue_nil] at hs
      obtain rfl := Option.some.inj hs
      exact ⟨[], h.turn, hacc.idle, DeinitAt.work hdeinit WorkerPc.noConfusion⟩
    | cons n ns =>
      obtain ⟨queue, hdequeue, hrepresents⟩ := hacc.represents.dequeue
      rw [hdequeue] at hs
      obtain rfl := Option.some.inj hs
      exact ⟨ns, h.turn, hacc.dequeue hrepresents, DeinitAt.work hdeinit WorkerPc.noConfusion⟩
  | handling r =>
    rw [hw] at hs hacc hdeinit
    obtain rfl := Option.some.inj hs
    exact ⟨ns, h.turn, hacc.handle, DeinitAt.work hdeinit WorkerPc.noConfusion⟩
  | freeing r =>
    rw [hw] at hs hacc hdeinit
    obtain rfl := Option.some.inj hs
    exact ⟨ns, h.turn, hacc.free, DeinitAt.work hdeinit WorkerPc.noConfusion⟩
  | waiting | exited =>
    rw [hw] at hs
    cases hs

theorem Valid.stop (h : s.Valid ns) : s.stop.Valid ns where
  turn := { h.turn with rejected := fun _ => rfl }
  accounted := h.accounted.signal fun _ => rfl
  deinit := DeinitAt.stop (DeinitAt.signalWorker h.deinit)

/-- A worker that has left the loop has left nothing in the queue. -/
theorem Valid.eq_nil_of_exited (h : s.Valid ns) (hexited : s.worker = .exited) : ns = [] := by
  have hwork := h.accounted.atWork
  rw [hexited] at hwork
  exact hwork.1

/-- **A step of `tmuxremote_coap_handler_deinit` keeps the invariant.** -/
theorem Valid.deinitNext (h : s.Valid ns) (hs : s.deinitNext s.deinit = some s') :
    s'.Valid ns := by
  have hdeinit := h.deinit
  cases hd : s.deinit with
  | testing =>
    rw [hd] at hs hdeinit
    obtain rfl := Option.some.inj hs
    refine ⟨h.turn, h.accounted, ?_⟩
    change DeinitAt s.activeCallbacks s.worker s.stopping (if _ then _ else _)
    split
    case isTrue hactive => exact ⟨hdeinit, hactive⟩
    case isFalse hactive => exact ⟨hdeinit, Nat.eq_zero_of_not_pos hactive⟩
  | broadcasting =>
    rw [hd] at hs hdeinit
    obtain rfl := Option.some.inj hs
    exact ⟨h.turn, h.accounted.signal id, hdeinit⟩
  | joining =>
    rw [hd] at hs hdeinit
    obtain ⟨hexited, hs⟩ := Option.ite_none_right_eq_some.mp hs
    obtain rfl := Option.some.inj hs
    exact ⟨h.turn, h.accounted, hdeinit.1, hdeinit.2, hexited⟩
  | taking =>
    rw [hd] at hs hdeinit
    obtain rfl := Option.some.inj hs
    obtain rfl := h.eq_nil_of_exited hdeinit.2.2
    refine ⟨h.turn, { h.accounted with represents := ⟨rfl, rfl, List.nodup_nil⟩ }, ?_⟩
    change DeinitAt _ _ _ (.freeing s.queue.head)
    rw [h.accounted.represents.head_eq]
    exact hdeinit
  | freeing node =>
    rw [hd] at hs hdeinit
    cases node with
    | none =>
      obtain rfl := Option.some.inj hs
      exact ⟨h.turn, h.accounted, hdeinit⟩
    | some n => exact hdeinit.elim
  | notCalled | waiting | returned =>
    rw [hd] at hs
    cases hs

/-- **The step lemma.** -/
theorem Valid.step {a : CoapAction} (h : s.Valid ns) (hs : s.step a = some s') :
    ∃ ns', s'.Valid ns' := by
  cases a with
  | deliver =>
    obtain ⟨harmed, hs⟩ := Option.ite_none_right_eq_some.mp hs
    obtain rfl := Option.some.inj hs
    have hturn := h.turn
    rw [harmed] at hturn
    exact ⟨ns, hturn.deliver, h.accounted.deliver, h.deinit⟩
  | deliverError =>
    obtain ⟨-, hs⟩ := Option.ite_none_right_eq_some.mp hs
    obtain rfl := Option.some.inj hs
    exact ⟨ns, { h.turn with armed := fun h => absurd h Bool.false_ne_true }, h.accounted, h.deinit⟩
  | callback i callocOk =>
    obtain ⟨pc, hi, hs⟩ := Option.bind_eq_some_iff.mp hs
    exact h.requestCallback hi hs
  | worker => exact h.coapWorkerThread hs
  | stop =>
    obtain rfl := Option.some.inj hs
    exact ⟨ns, h.stop⟩
  | deinit =>
    obtain ⟨-, hs⟩ := Option.ite_none_right_eq_some.mp hs
    obtain rfl := Option.some.inj hs
    exact ⟨ns, h.stop.turn, h.stop.accounted, rfl⟩
  | deinitNext => exact ⟨ns, h.deinitNext hs⟩
  | wakeWorker =>
    obtain rfl := Option.some.inj hs
    exact ⟨ns, h.turn, h.accounted.signal id, DeinitAt.signalWorker h.deinit⟩
  | wakeDeinit =>
    obtain rfl := Option.some.inj hs
    refine ⟨ns, h.turn, h.accounted, ?_⟩
    have hdeinit := h.deinit
    change DeinitAt _ _ _ s.deinit.signal
    cases hd : s.deinit with
    | waiting => rw [hd] at hdeinit; exact hdeinit.1
    | _ => rw [hd] at hdeinit; exact hdeinit

/-- **The run lemma.** -/
theorem Valid.run {as : List CoapAction} (hs : Guarded.run CoapHandler.step .init as = some s) :
    ∃ ns, s.Valid ns :=
  Guarded.run_invariant (I := fun s => ∃ ns, Valid s ns)
    (fun _ _ _ ⟨_, h⟩ hstep => h.step hstep) ⟨[], Valid.init⟩ hs

end

end CoapHandler

end TmuxRemote
