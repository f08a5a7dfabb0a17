import Mathlib.Data.List.Count
import TmuxRemote.Agent.CoapHandler

/-!
# Agent/CoapAccounts — callbacks, queue and worker against the log

The callbacks listen one after the other, and are counted (`InTurn`).  Every request is where its
callback, the queue and the worker say it is, and the log has what was done with it (`Accounted`).
`tmuxremote_coap_handler_deinit` has waited for what it says (`DeinitAt`).  The lemmas are what each
kind of step does to one of the three.
-/

namespace TmuxRemote

/-! ## What the log says -/

/-- What has become of one request so far. -/
def eventsOf (log : List RequestEvent) (r : ℕ) : List RequestEvent :=
  log.filter fun e => e.request = r

/-- The requests in the order in which they were enqueued. -/
def enqueuedIn (log : List RequestEvent) : List ℕ :=
  log.filterMap fun
    | .enqueued r => some r
    | _ => none

/-- The requests in the order in which they were passed to `requestHandler`. -/
def handledIn (log : List RequestEvent) : List ℕ :=
  log.filterMap fun
    | .handled r => some r
    | _ => none

/-- The three ways in which a request is consumed. -/
inductive RequestConsumed (stopping : Bool) (r : ℕ) : List RequestEvent → Prop
  | handled : RequestConsumed stopping r [.enqueued r, .handled r, .freed r]
  | busy : RequestConsumed stopping r [.errorResponse r 503 "Server busy", .freed r]
  | stopping (h : stopping = true) : RequestConsumed stopping r [.freed r]

section
variable (log : List RequestEvent) (e : RequestEvent)

@[simp] theorem eventsOf_concat_self :
    eventsOf (log ++ [e]) e.request = eventsOf log e.request ++ [e] := by
  simp [eventsOf]

theorem eventsOf_concat_of_ne {r : ℕ} (h : e.request ≠ r) :
    eventsOf (log ++ [e]) r = eventsOf log r := by
  simp [eventsOf, h]

@[simp] theorem enqueuedIn_append (log' : List RequestEvent) :
    enqueuedIn (log ++ log') = enqueuedIn log ++ enqueuedIn log' :=
  List.filterMap_append

@[simp] theorem handledIn_append (log' : List RequestEvent) :
    handledIn (log ++ log') = handledIn log ++ handledIn log' :=
  List.filterMap_append

theorem RequestConsumed.mono {stopping stopping' : Bool} (hle : stopping = true → stopping' = true)
    {r : ℕ} {way : List RequestEvent} (h : RequestConsumed stopping r way) :
    RequestConsumed stopping' r way := by
  cases h with
  | handled => exact .handled
  | busy => exact .busy
  | stopping h => exact .stopping (hle h)

end

/-! ## Callbacks in turn -/

namespace CallbackPc

/-- Before `callback_enter` or just behind it. -/
def early : CallbackPc → Bool
  | entering | rejected | entered => true
  | _ => false

/-- No other request comes in before such a callback listens again. -/
def inTurn : CallbackPc → Bool
  | leaving | returned => false
  | _ => true

/-- Between `callback_enter` and `callback_leave`. -/
def active : CallbackPc → Bool
  | entering | rejected | returned => false
  | _ => true

end CallbackPc

/-- The callbacks listen one after the other, and are counted. -/
structure InTurn (armed : Bool) (request : Option ℕ) (callbacks : List CallbackPc)
    (activeCallbacks : ℕ) (stopping : Bool) : Prop where
  armed : armed = true → ∀ i : ℕ, callbacks[i]?.any CallbackPc.inTurn = false
  unique : ∀ i j : ℕ, callbacks[i]?.any CallbackPc.inTurn = true →
    callbacks[j]?.any CallbackPc.inTurn = true → i = j
  request : ∀ i : ℕ, callbacks[i]?.any CallbackPc.early = true → request = some i
  rejected : CallbackPc.rejected ∈ callbacks → stopping = true
  active : activeCallbacks = callbacks.countP CallbackPc.active

/-! ## Requests on their way -/

/-- The request the worker has taken and not yet passed on. -/
def WorkerPc.inHand : WorkerPc → List ℕ
  | handling r => [r]
  | _ => []

/-- The request the worker has taken and not yet freed. -/
def WorkerPc.held : WorkerPc → List ℕ
  | handling r | freeing r => [r]
  | _ => []

/-- What is known of the request of a callback, by where the callback stands. -/
def RequestAt (worker : WorkerPc) (log : List RequestEvent) (stopping : Bool)
    (ns : List ℕ) (i : ℕ) :
    CallbackPc → Prop
  | .entering | .rejected | .entered => eventsOf log i = []
  | .allocated r | .refused r => r = i ∧ eventsOf log i = []
  | .answered r => r = i ∧ eventsOf log i = [.errorResponse i 503 "Server busy"]
  | .rearming | .listening | .leaving | .returned =>
    RequestConsumed stopping i (eventsOf log i) ∨ i ∈ worker.held ∨ i ∈ ns

/-- What is known of the queue, by where the worker stands. -/
def WorkerAt (log : List RequestEvent) (stopping : Bool) (ns : List ℕ) : WorkerPc → Prop
  | .testing => True
  | .waiting => ns = [] ∧ stopping = false
  | .handling r => eventsOf log r = [.enqueued r] ∧ r ∉ ns
  | .freeing r => eventsOf log r = [.enqueued r, .handled r]
  | .exited => ns = [] ∧ stopping = true

/-- Every request is where its callback, the worker and the queue say it is. -/
structure Accounted (callbacks : List CallbackPc) (queue : LinkedQueue ℕ) (worker : WorkerPc)
    (log : List RequestEvent) (stopping : Bool) (ns : List ℕ) : Prop where
  represents : queue.Represents ns
  order : enqueuedIn log = handledIn log ++ (worker.inHand ++ ns)
  queued : ∀ n ∈ ns, eventsOf log n = [.enqueued n]
  atWork : WorkerAt log stopping ns worker
  requests : ∀ (i : ℕ) (pc : CallbackPc), callbacks[i]? = some pc →
    RequestAt worker log stopping ns i pc
  undelivered : ∀ i : ℕ, callbacks[i]? = none → eventsOf log i = []

/-- What `tmuxremote_coap_handler_deinit` has waited for. -/
def DeinitAt (activeCallbacks : ℕ) (worker : WorkerPc) (stopping : Bool) : DeinitPc → Prop
  | .notCalled => True
  | .testing => stopping = true
  | .waiting => stopping = true ∧ 0 < activeCallbacks
  | .broadcasting | .joining => stopping = true ∧ activeCallbacks = 0
  | .taking | .freeing none | .returned =>
    stopping = true ∧ activeCallbacks = 0 ∧ worker = .exited
  | .freeing (some _) => False

section
variable {armed : Bool} {request : Option ℕ} {callbacks : List CallbackPc} {active i : ℕ}
  {stopping : Bool} {pc pc' : CallbackPc}

theorem getElem?_goto (hi : callbacks[i]? = some pc) (j : ℕ) :
    (callbacks.set i pc')[j]? = if i = j then some pc' else callbacks[j]? := by
  rw [List.getElem?_set, if_pos (List.getElem?_eq_some_iff.mp hi).1]

/-- What holds of each callback, once one of them went on. -/
theorem forall_goto {P : ℕ → CallbackPc → Prop} (hi : callbacks[i]? = some pc) (hself : P i pc')
    (hother : ∀ (j : ℕ) (pc : CallbackPc), j ≠ i → callbacks[j]? = some pc → P j pc) (j : ℕ)
    (pcj : CallbackPc) (hj : (callbacks.set i pc')[j]? = some pcj) : P j pcj := by
  rw [getElem?_goto hi] at hj
  split at hj
  case isTrue hij => exact hij ▸ Option.some.inj hj ▸ hself
  case isFalse hij => exact hother j pcj (Ne.symm hij) hj

/-- A callback that goes on to where it is not of some kind, or was already. -/
theorem any_goto {p : CallbackPc → Bool} (hi : callbacks[i]? = some pc)
    (hp : p pc' = true → p pc = true) {j : ℕ} (hj : (callbacks.set i pc')[j]?.any p = true) :
    callbacks[j]?.any p = true := by
  rw [getElem?_goto hi] at hj
  split at hj
  case isTrue hij => exact hij ▸ hi ▸ hp hj
  case isFalse => exact hj

theorem countP_goto (hi : callbacks[i]? = some pc) {active' : ℕ}
    (hactive : active = callbacks.countP CallbackPc.active)
    (hmoved : active' + pc.active.toNat = active + pc'.active.toNat) :
    active' = (callbacks.set i pc').countP CallbackPc.active := by
  obtain ⟨hlt, hget⟩ := List.getElem?_eq_some_iff.mp hi
  have hcounted : pc.active.toNat ≤ callbacks.countP CallbackPc.active := by
    cases hpc : pc.active with
    | false => exact Nat.zero_le _
    | true => exact List.countP_pos_iff.mpr ⟨pc, List.mem_of_getElem? hi, hpc⟩
  rw [List.countP_set hlt, hget]
  cases hpc : pc.active <;> cases hpc' : pc'.active <;>
    simp only [hpc, hpc', Bool.toNat_true, Bool.toNat_false] at hmoved hcounted ⊢ <;> simp <;> omega

theorem CallbackPc.inTurn_of_early (h : pc.early = true) : pc.inTurn = true := by
  cases pc <;> first | rfl | exact absurd h Bool.false_ne_true

/-- A callback goes on, and neither becomes early nor takes a turn. -/
theorem InTurn.goto (h : InTurn armed request callbacks active stopping)
    (hi : callbacks[i]? = some pc) (pc' : CallbackPc)
    (hturn : pc'.inTurn = true → pc.inTurn = true) (hearly : pc'.early = true → pc.early = true)
    (hrejected : pc' = .rejected → stopping = true) {active' : ℕ}
    (hactive : active' + pc.active.toNat = active + pc'.active.toNat) :
    InTurn armed request (callbacks.set i pc') active' stopping where
  armed harmed j := by
    rw [← Bool.not_eq_true]
    intro hj
    exact Bool.false_ne_true ((h.armed harmed j).symm.trans (any_goto hi hturn hj))
  unique j k hj hk := h.unique j k (any_goto hi hturn hj) (any_goto hi hturn hk)
  request j hj := h.request j (any_goto hi hearly hj)
  rejected hmem := by
    rcases List.mem_or_eq_of_mem_set hmem with hmem | heq
    · exact h.rejected hmem
    · exact hrejected heq.symm
  active := countP_goto hi h.active hactive

/-- The callback in turn goes on, and no callback is left of a kind that is in turn. -/
theorem InTurn.pass (h : InTurn armed request callbacks active stopping)
    (hi : callbacks[i]? = some pc) (hpc : pc.inTurn = true) {p : CallbackPc → Bool}
    (hp : ∀ pc, p pc = true → pc.inTurn = true) (hpc' : p pc' = false) (j : ℕ) :
    (callbacks.set i pc')[j]?.any p = false := by
  rw [getElem?_goto hi]
  split
  case isTrue => exact hpc'
  case isFalse hij =>
    rw [← Bool.not_eq_true]
    intro hj
    obtain ⟨pcj, hpcj, hkind⟩ := (Option.any_eq_true ..).mp hj
    exact hij (h.unique i j (hi ▸ hpc) (hpcj ▸ hp pcj hkind))

/-- `handler->request` is free once no callback is going to read it. -/
theorem InTurn.read (h : InTurn armed request callbacks active stopping)
    (hlate : ∀ j : ℕ, callbacks[j]?.any CallbackPc.early = false) (request' : Option ℕ) :
    InTurn armed request' callbacks active stopping where
  armed := h.armed
  unique := h.unique
  request j hj := absurd ((hlate j).symm.trans hj) Bool.false_ne_true
  rejected := h.rejected
  active := h.active

/-- The handler listens again. -/
theorem InTurn.listen (h : InTurn armed request callbacks active stopping)
    (hnone : ∀ j : ℕ, callbacks[j]?.any CallbackPc.inTurn = false) :
    InTurn true request callbacks active stopping where
  armed _ := hnone
  unique := h.unique
  request := h.request
  rejected := h.rejected
  active := h.active

/-- A request comes in. -/
theorem InTurn.deliver (h : InTurn true request callbacks active stopping) :
    InTurn false (some callbacks.length) (callbacks ++ [.entering]) active stopping := by
  have hlast : ∀ {p : CallbackPc → Bool} (_ : ∀ pc, p pc = true → pc.inTurn = true) {j : ℕ},
      (callbacks ++ [.entering])[j]?.any p = true → j = callbacks.length := by
    intro p hp j hj
    by_contra hne
    have hlt : j < callbacks.length := by
      obtain ⟨pcj, hpcj, -⟩ := (Option.any_eq_true ..).mp hj
      have := (List.getElem?_eq_some_iff.mp hpcj).1
      rw [List.length_append, List.length_singleton] at this
      omega
    rw [List.getElem?_append_left hlt] at hj
    obtain ⟨pcj, hpcj, hkind⟩ := (Option.any_eq_true ..).mp hj
    have hturn := h.armed rfl j
    rw [hpcj] at hturn
    exact absurd (hturn.symm.trans (hp pcj hkind)) Bool.false_ne_true
  refine ⟨fun h => absurd h Bool.false_ne_true, fun i j hi hj => ?_, fun j hj => ?_, fun hmem => ?_,
    ?_⟩
  · exact (hlast (fun _ => id) hi).trans (hlast (fun _ => id) hj).symm
  · exact congrArg some (hlast (fun _ => CallbackPc.inTurn_of_early) hj).symm
  · rw [List.mem_append, List.mem_singleton] at hmem
    exact h.rejected (hmem.resolve_right CallbackPc.noConfusion)
  · rw [List.countP_append, ← h.active]
    rfl

end

section
variable {callbacks : List CallbackPc} {queue : LinkedQueue ℕ} {worker worker' : WorkerPc}
  {log log' : List RequestEvent} {stopping stopping' : Bool} {ns ns' : List ℕ} {i : ℕ}
  {pc pc' : CallbackPc}

/-- A request of which nothing new is logged stays accounted for. -/
theorem RequestAt.mono (h : RequestAt worker log stopping ns i pc)
    (hlog : eventsOf log' i = eventsOf log i) (hstop : stopping = true → stopping' = true)
    (hway : i ∈ worker.held ∨ i ∈ ns → i ∈ worker'.held ∨ i ∈ ns') :
    RequestAt worker' log' stopping' ns' i pc := by
  cases pc with
  | entering | rejected | entered => exact hlog.trans h
  | allocated | refused | answered => exact ⟨h.1, hlog.trans h.2⟩
  | rearming | listening | leaving | returned =>
    rcases h with h | h
    · exact Or.inl (hlog ▸ h.mono hstop)
    · exact Or.inr (hway h)

/-- A request that has been in the queue has a callback that is done with it. -/
theorem RequestAt.settle (h : RequestAt worker log stopping ns i pc)
    (hqueued : (eventsOf log i).head? = some (.enqueued i))
    (hnew : RequestConsumed stopping' i (eventsOf log' i) ∨ i ∈ worker'.held ∨ i ∈ ns') :
    RequestAt worker' log' stopping' ns' i pc := by
  cases pc with
  | entering | rejected | entered => rw [show eventsOf log i = [] from h] at hqueued; cases hqueued
  | allocated | refused | answered => rw [h.2] at hqueued; cases hqueued
  | rearming | listening | leaving | returned => exact hnew

theorem WorkerAt.congr (h : WorkerAt log stopping ns worker)
    (hlog : ∀ r ∈ worker.held, eventsOf log' r = eventsOf log r) :
    WorkerAt log' stopping ns worker := by
  cases worker with
  | testing | waiting | exited => exact h
  | handling r => exact ⟨(hlog r (List.mem_singleton_self r)).trans h.1, h.2⟩
  | freeing r => exact (hlog r (List.mem_singleton_self r)).trans h

@[simp] theorem WorkerPc.inHand_signal (worker : WorkerPc) :
    worker.signal.inHand = worker.inHand := by
  cases worker <;> rfl

@[simp] theorem WorkerPc.held_signal (worker : WorkerPc) : worker.signal.held = worker.held := by
  cases worker <;> rfl

namespace Accounted

/-- A request that the worker or the queue has was enqueued before anything else. -/
theorem head?_eventsOf (h : Accounted callbacks queue worker log stopping ns)
    (hi : i ∈ worker.held ∨ i ∈ ns) : (eventsOf log i).head? = some (.enqueued i) := by
  rcases hi with hi | hi
  · have hwork := h.atWork
    cases worker with
    | testing | waiting | exited => exact absurd hi List.not_mem_nil
    | handling r => rw [List.mem_singleton.mp hi, hwork.1]; rfl
    | freeing r => rw [List.mem_singleton.mp hi, show eventsOf log r = _ from hwork]; rfl
  · rw [h.queued i hi]; rfl

/-- Such a request was delivered. -/
theorem exists_callback (h : Accounted callbacks queue worker log stopping ns)
    (hi : i ∈ worker.held ∨ i ∈ ns) : ∃ pc, callbacks[i]? = some pc := by
  refine Option.ne_none_iff_exists'.mp fun hnone => ?_
  have hhead := h.head?_eventsOf hi
  rw [h.undelivered i hnone] at hhead
  cases hhead

/-- A callback goes on, and nothing else happens. -/
theorem goto (h : Accounted callbacks queue worker log stopping ns) (hi : callbacks[i]? = some pc)
    (hat : RequestAt worker log stopping ns i pc') :
    Accounted (callbacks.set i pc') queue worker log stopping ns where
  represents := h.represents
  order := h.order
  queued := h.queued
  atWork := h.atWork
  requests := forall_goto hi hat fun j pcj _ hj => h.requests j pcj hj
  undelivered j hj := by
    rw [getElem?_goto hi] at hj
    split at hj
    · cases hj
    · exact h.undelivered j hj

/-- A callback does something about its request, which is neither in the queue nor with the
worker. -/
theorem record (h : Accounted callbacks queue worker log stopping ns)
    (hi : callbacks[i]? = some pc) {e : RequestEvent} (he : e.request = i)
    (hplain : enqueuedIn [e] = [] ∧ handledIn [e] = [])
    (hfree : ¬(i ∈ worker.held ∨ i ∈ ns)) (hat : RequestAt worker (log ++ [e]) stopping ns i pc') :
    Accounted (callbacks.set i pc') queue worker (log ++ [e]) stopping ns where
  represents := h.represents
  order := by
    rw [enqueuedIn_append, handledIn_append, hplain.1, hplain.2, List.append_nil, List.append_nil]
    exact h.order
  queued n hn := by
    have hne : e.request ≠ n := he ▸ fun hin => hfree (Or.inr (hin ▸ hn))
    exact (eventsOf_concat_of_ne log e hne).trans (h.queued n hn)
  atWork := h.atWork.congr fun r hr =>
    eventsOf_concat_of_ne log e (he ▸ fun hir => hfree (Or.inl (hir ▸ hr)))
  requests := by
    refine forall_goto hi hat fun j pcj hji hj => ?_
    exact (h.requests j pcj hj).mono (eventsOf_concat_of_ne log e (he ▸ hji.symm)) id id
  undelivered j hj := by
    rw [getElem?_goto hi] at hj
    split at hj
    case isTrue => cases hj
    case isFalse hij =>
      exact (eventsOf_concat_of_ne log e (he ▸ hij)).trans (h.undelivered j hj)

/-- A callback puts its request behind the others. -/
theorem enqueue (h : Accounted callbacks queue worker log false ns)
    (hi : callbacks[i]? = some (.allocated i)) :
    Accounted (callbacks.set i .rearming) (queue.enqueue i) worker.signal (log ++ [.enqueued i])
      false (ns ++ [i]) := by
  have hnew : eventsOf log i = [] := (h.requests i _ hi).2
  have hfree : ¬(i ∈ worker.held ∨ i ∈ ns) := fun hin => by
    have hhead := h.head?_eventsOf hin
    rw [hnew] at hhead
    cases hhead
  obtain ⟨hheld, hns⟩ := not_or.mp hfree
  have hself : eventsOf (log ++ [.enqueued i]) i = [.enqueued i] :=
    (eventsOf_concat_self log (.enqueued i)).trans (by rw [RequestEvent.request, hnew]; rfl)
  have hother : ∀ {r : ℕ}, r ≠ i → eventsOf (log ++ [.enqueued i]) r = eventsOf log r :=
    fun hr => eventsOf_concat_of_ne log (.enqueued i) hr.symm
  refine ⟨h.represents.enqueue hns, ?_, fun n hn => ?_, ?_, ?_, fun j hj => ?_⟩
  · rw [enqueuedIn_append, handledIn_append, h.order, WorkerPc.inHand_signal]
    simp [enqueuedIn, handledIn]
  · rcases List.mem_append.mp hn with hn | hn
    · exact (hother (ne_of_mem_of_not_mem hn hns)).trans (h.queued n hn)
    · rw [List.mem_singleton.mp hn, hself]
  · have hwork := h.atWork
    cases worker with
    | testing | waiting => trivial
    | handling r =>
      have hr : r ≠ i := fun hri => hheld (hri ▸ List.mem_singleton_self r)
      refine ⟨(hother hr).trans hwork.1, ?_⟩
      rw [List.mem_append, List.mem_singleton, not_or]
      exact ⟨hwork.2, hr⟩
    | freeing r =>
      have hr : r ≠ i := fun hri => hheld (hri ▸ List.mem_singleton_self r)
      exact (hother hr).trans hwork
    | exited => exact absurd hwork.2 Bool.false_ne_true
  · refine forall_goto hi (Or.inr (Or.inr (List.mem_append_right ns (List.mem_singleton_self i))))
      fun j pcj hji hj => ?_
    refine (h.requests j pcj hj).mono (hother hji) id fun hway => ?_
    rw [WorkerPc.held_signal]
    exact hway.imp_right (List.mem_append_left [i])
  · rw [getElem?_goto hi] at hj
    split at hj
    case isTrue => cases hj
    case isFalse hij => exact (hother (Ne.symm hij)).trans (h.undelivered j hj)

/-- The worker is signalled, and the handler may be stopping from now on. -/
theorem signal (h : Accounted callbacks queue worker log stopping ns)
    (hstop : stopping = true → stopping' = true) :
    Accounted callbacks queue worker.signal log stopping' ns where
  represents := h.represents
  order := by rw [WorkerPc.inHand_signal]; exact h.order
  queued := h.queued
  atWork := by
    have hwork := h.atWork
    cases worker with
    | testing | waiting => trivial
    | handling r | freeing r => exact hwork
    | exited => exact ⟨hwork.1, hstop hwork.2⟩
  requests j pcj hj := (h.requests j pcj hj).mono rfl hstop (by rw [WorkerPc.held_signal]; exact id)
  undelivered := h.undelivered

/-- A request comes in. -/
theorem deliver (h : Accounted callbacks queue worker log stopping ns) :
    Accounted (callbacks ++ [.entering]) queue worker log stopping ns where
  represents := h.represents
  order := h.order
  queued := h.queued
  atWork := h.atWork
  requests j pcj hj := by
    rw [List.getElem?_append] at hj
    split at hj
    case isTrue => exact h.requests j pcj hj
    case isFalse hlt =>
      rw [List.getElem?_singleton] at hj
      obtain ⟨-, rfl⟩ := Option.ite_some_none_eq_some.mp hj
      exact h.undelivered j (List.getElem?_eq_none (Nat.not_lt.mp hlt))
  undelivered j hj := by
    refine h.undelivered j (List.getElem?_eq_none ?_)
    have := List.getElem?_eq_none_iff.mp hj
    rw [List.length_append] at this
    omega

/-- The worker takes the first request. -/
theorem dequeue {n : ℕ} {queue' : LinkedQueue ℕ}
    (h : Accounted callbacks queue .testing log stopping (n :: ns)) (hq : queue'.Represents ns) :
    Accounted callbacks queue' (.handling n) log stopping ns where
  represents := hq
  order := h.order
  queued m hm := h.queued m (List.mem_cons_of_mem n hm)
  atWork := ⟨h.queued n List.mem_cons_self, (List.nodup_cons.mp h.represents.nodup).1⟩
  requests j pcj hj := by
    refine (h.requests j pcj hj).mono rfl id fun hway => ?_
    exact List.mem_append.mp (hway.resolve_left List.not_mem_nil)
  undelivered := h.undelivered

/-- The worker finds the queue empty. -/
theorem idle (h : Accounted callbacks queue .testing log stopping []) :
    Accounted callbacks queue (if stopping then .exited else .waiting) log stopping [] := by
  cases stopping with
  | false =>
    exact ⟨h.represents, h.order, h.queued, ⟨rfl, rfl⟩, h.requests, h.undelivered⟩
  | true => exact ⟨h.represents, h.order, h.queued, ⟨rfl, rfl⟩, h.requests, h.undelivered⟩

/-- The worker does something about the request it has. -/
theorem work {r : ℕ} {e : RequestEvent} (h : Accounted callbacks queue worker log stopping ns)
    (hr : worker.held = [r]) (hns : r ∉ ns) (he : e.request = r)
    (horder : enqueuedIn [e] = [] ∧ worker.inHand = handledIn [e] ++ worker'.inHand)
    (hheld : worker'.held ⊆ [r]) (hwork : WorkerAt (log ++ [e]) stopping ns worker')
    (hat : RequestConsumed stopping r (eventsOf (log ++ [e]) r) ∨ r ∈ worker'.held) :
    Accounted callbacks queue worker' (log ++ [e]) stopping ns := by
  have hself : r ∈ worker.held ∨ r ∈ ns := Or.inl (hr ▸ List.mem_singleton_self r)
  have hother : ∀ {i : ℕ}, i ≠ r → eventsOf (log ++ [e]) i = eventsOf log i :=
    fun hi => eventsOf_concat_of_ne log e (he ▸ hi.symm)
  refine ⟨h.represents, ?_, fun n hn => ?_, hwork, fun j pcj hj => ?_, fun j hj => ?_⟩
  · rw [enqueuedIn_append, handledIn_append, horder.1, h.order, horder.2]
    simp only [List.append_assoc, List.append_nil]
  · exact (hother (ne_of_mem_of_not_mem hn hns)).trans (h.queued n hn)
  · by_cases hjr : j = r
    · subst hjr
      exact (h.requests j pcj hj).settle (h.head?_eventsOf hself) (hat.imp_right Or.inl)
    · refine (h.requests j pcj hj).mono (hother hjr) id fun hway => Or.inr (hway.resolve_left ?_)
      rw [hr, List.mem_singleton]
      exact hjr
  · have hjr : j ≠ r := by
      rintro rfl
      obtain ⟨pc, hpc⟩ := h.exists_callback hself
      rw [hpc] at hj
      cases hj
    exact (hother hjr).trans (h.undelivered j hj)

/-- The worker calls `requestHandler`. -/
theorem handle {r : ℕ} (h : Accounted callbacks queue (.handling r) log stopping ns) :
    Accounted callbacks queue (.freeing r) (log ++ [.handled r]) stopping ns := by
  have hlog : eventsOf (log ++ [.handled r]) r = [.enqueued r, .handled r] :=
    (eventsOf_concat_self log (.handled r)).trans (by rw [RequestEvent.request, h.atWork.1]; rfl)
  exact h.work rfl h.atWork.2 rfl ⟨rfl, rfl⟩ (List.Subset.refl _) hlog
    (Or.inr (List.mem_singleton_self r))

/-- The worker frees the request. -/
theorem free {r : ℕ} (h : Accounted callbacks queue (.freeing r) log stopping ns) :
    Accounted callbacks queue .testing (log ++ [.freed r]) stopping ns := by
  have hwork : eventsOf log r = [.enqueued r, .handled r] := h.atWork
  have hlog : eventsOf (log ++ [.freed r]) r = [.enqueued r, .handled r, .freed r] :=
    (eventsOf_concat_self log (.freed r)).trans (by rw [RequestEvent.request, hwork]; rfl)
  have hns : r ∉ ns := fun hr => by
    rw [h.queued r hr] at hwork
    cases hwork
  exact h.work rfl hns rfl ⟨rfl, rfl⟩ (List.nil_subset _) trivial (Or.inl (hlog ▸ .handled))

end Accounted

end

section
variable {active : ℕ} {worker worker' : WorkerPc} {stopping : Bool} {deinit : DeinitPc}

theorem DeinitAt.notCalled (h : DeinitAt active worker stopping deinit)
    (hrunning : stopping = false) : deinit = .notCalled := by
  subst hrunning
  cases deinit with
  | notCalled => rfl
  | testing => exact absurd h Bool.false_ne_true
  | waiting | broadcasting | joining | taking | returned => exact absurd h.1 Bool.false_ne_true
  | freeing node =>
    cases node with
    | none => exact absurd h.1 Bool.false_ne_true
    | some n => exact h.elim

/-- A callback leaves: whoever waits for the last one is signalled. -/
theorem DeinitAt.leave (h : DeinitAt active worker stopping deinit) :
    DeinitAt (active - 1) worker stopping
      (if stopping = true ∧ active - 1 = 0 then deinit.signal else deinit) := by
  cases deinit with
  | notCalled => split <;> trivial
  | testing => split <;> exact h
  | waiting =>
    split
    case isTrue => exact h.1
    case isFalse hlast => exact ⟨h.1, Nat.pos_of_ne_zero fun hzero => hlast ⟨h.1, hzero⟩⟩
  | broadcasting | joining =>
    obtain ⟨hstop, rfl⟩ := h
    split <;> exact ⟨hstop, rfl⟩
  | taking | returned =>
    obtain ⟨hstop, rfl, hexited⟩ := h
    split <;> exact ⟨hstop, rfl, hexited⟩
  | freeing node =>
    cases node with
    | none =>
      obtain ⟨hstop, rfl, hexited⟩ := h
      split <;> exact ⟨hstop, rfl, hexited⟩
    | some n => exact h.elim

/-- Only an exit of the worker is waited for. -/
theorem DeinitAt.work (h : DeinitAt active worker stopping deinit)
    (hworker : worker ≠ .exited) :
    DeinitAt active worker' stopping deinit := by
  cases deinit with
  | notCalled | testing | waiting | broadcasting | joining => exact h
  | taking | returned => exact absurd h.2.2 hworker
  | freeing node =>
    cases node with
    | none => exact absurd h.2.2 hworker
    | some n => exact h

theorem DeinitAt.signalWorker (h : DeinitAt active worker stopping deinit) :
    DeinitAt active worker.signal stopping deinit := by
  cases worker with
  | testing | waiting | handling | freeing => exact DeinitAt.work h WorkerPc.noConfusion
  | exited => exact h

theorem DeinitAt.stop (h : DeinitAt active worker stopping deinit) :
    DeinitAt active worker true deinit := by
  cases deinit with
  | notCalled => trivial
  | testing => rfl
  | waiting | broadcasting | joining | taking | returned => exact ⟨rfl, h.2⟩
  | freeing node =>
    cases node with
    | none => exact ⟨rfl, h.2⟩
    | some n => exact h

end

end TmuxRemote
