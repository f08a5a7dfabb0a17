import TmuxRemote.Library.Guarded
import TmuxRemote.Library.LinkedQueue

/-!
# Agent/CoapHandler — one CoAP endpoint: its callbacks, its queue and its worker

The SDK calls `request_callback` once for each request; the callbacks are numbered as they come, and
so are the requests.  The callback hands its request to the worker through a queue, or answers 503.
`tmuxremote_coap_handler_stop` and `…_deinit` run on a thread of their own.  Atomic steps are the
sections under `queueMutex` and the calls into the SDK between them; a callback may run on
while the next one comes in.

What becomes of a request is read off a log of the calls made (`RequestEvent`).
-/

namespace TmuxRemote

/-- What happens to the requests. -/
inductive RequestEvent
  /-- Put behind the tail of the queue. -/
  | enqueued (request : ℕ)
  /-- Passed to `requestHandler`. -/
  | handled (request : ℕ)
  /-- `nabto_device_coap_error_response` -/
  | errorResponse (request statusCode : ℕ) (message : String)
  /-- `nabto_device_coap_request_free` -/
  | freed (request : ℕ)
  deriving DecidableEq

/-- Where a `request_callback` stands. -/
inductive CallbackPc
  /-- Before `callback_enter`. -/
  | entering
  /-- `callback_enter` has returned false. -/
  | rejected
  | entered
  /-- In `enqueue_request`, with a node. -/
  | allocated (request : ℕ)
  /-- `enqueue_request` has returned false. -/
  | refused (request : ℕ)
  | answered (request : ℕ)
  /-- Before the test of `stopping` that decides whether to listen again. -/
  | rearming
  /-- Before `start_listen`. -/
  | listening
  /-- Before `callback_leave`. -/
  | leaving
  | returned
  deriving DecidableEq

/-- Where the worker thread stands. -/
inductive WorkerPc
  /-- Before the test of its waiting loop. -/
  | testing
  /-- In `pthread_cond_wait` on `queueCond`. -/
  | waiting
  /-- Has taken the request off the queue. -/
  | handling (request : ℕ)
  /-- `requestHandler` has returned. -/
  | freeing (request : ℕ)
  | exited
  deriving DecidableEq

/-- Where `tmuxremote_coap_handler_deinit` stands. -/
inductive DeinitPc
  | notCalled
  /-- Before the test of its waiting loop. -/
  | testing
  /-- In `pthread_cond_wait` on `callbackCond`. -/
  | waiting
  /-- Before the broadcast to the worker. -/
  | broadcasting
  /-- In `pthread_join`. -/
  | joining
  /-- Before it takes the queue. -/
  | taking
  /-- At a node of the queue it has taken. -/
  | freeing (node : Option ℕ)
  | returned
  deriving DecidableEq

/-- The handler, its threads, and the log. -/
structure CoapHandler where
  /-- The future waits for a request. -/
  armed : Bool
  request : Option ℕ
  callbacks : List CallbackPc
  /-- Each node is named by its request. -/
  queue : LinkedQueue ℕ
  activeCallbacks : ℕ
  stopping : Bool
  worker : WorkerPc
  deinit : DeinitPc
  log : List RequestEvent

/-- The steps. -/
inductive CoapAction
  /-- The SDK has a request, and resolves the future. -/
  | deliver
  /-- The future is resolved with an error; the callback returns at once. -/
  | deliverError
  /-- A step of a callback; a `calloc` in it may fail. -/
  | callback (i : ℕ) (callocOk : Bool)
  | worker
  /-- `tmuxremote_coap_handler_stop` -/
  | stop
  /-- `tmuxremote_coap_handler_deinit` is called. -/
  | deinit
  /-- The next step of `tmuxremote_coap_handler_deinit`. -/
  | deinitNext
  /-- A wait ends without a signal. -/
  | wakeWorker
  | wakeDeinit
  deriving DecidableEq

/-- The request an event is about. -/
def RequestEvent.request : RequestEvent → ℕ
  | enqueued r | handled r | errorResponse r _ _ | freed r => r

/-- `pthread_cond_signal` and `pthread_cond_broadcast`: only the worker waits on `queueCond`. -/
def WorkerPc.signal : WorkerPc → WorkerPc
  | waiting => testing
  | pc => pc

/-- The same on `callbackCond`, where only `tmuxremote_coap_handler_deinit` waits. -/
def DeinitPc.signal : DeinitPc → DeinitPc
  | waiting => testing
  | pc => pc

namespace CoapHandler

/-- `tmuxremote_coap_handler_init` has returned. -/
def init : CoapHandler :=
  { armed := true, request := none, callbacks := [], queue := .empty, activeCallbacks := 0,
    stopping := false, worker := .testing, deinit := .notCalled, log := [] }

/-- A callback goes on. -/
def goto (s : CoapHandler) (i : ℕ) (pc : CallbackPc) : CoapHandler :=
  { s with callbacks := s.callbacks.set i pc }

/-- The log gets longer. -/
def record (s : CoapHandler) (events : List RequestEvent) : CoapHandler :=
  { s with log := s.log ++ events }

/-- `tmuxremote_coap_handler_stop`, up to the stop of the listener. -/
def stop (s : CoapHandler) : CoapHandler :=
  { s with stopping := true, worker := s.worker.signal }

/-- The section of `enqueue_request` under the mutex, when the handler is not stopping. -/
def enqueue (s : CoapHandler) (r : ℕ) : CoapHandler :=
  { s with queue := s.queue.enqueue r, worker := s.worker.signal, log := s.log ++ [.enqueued r] }

/-- `callback_leave` -/
def callbackLeave (s : CoapHandler) : CoapHandler :=
  { s with
    activeCallbacks := s.activeCallbacks - 1
    deinit := if s.stopping ∧ s.activeCallbacks - 1 = 0 then s.deinit.signal else s.deinit }

/-- A step of `request_callback`. -/
def requestCallback (s : CoapHandler) (i : ℕ) (callocOk : Bool) : CallbackPc → Option CoapHandler
  | .entering =>
    if s.stopping then some (s.goto i .rejected)
    else some ({ s with activeCallbacks := s.activeCallbacks + 1 }.goto i .entered)
  | .rejected =>
    some (({ s with request := none }.record (s.request.map RequestEvent.freed).toList).goto i
      .returned)
  | .entered =>
    -- A null request would go into the queue; the model has no step there.
    s.request.map fun r =>
      { s with request := none }.goto i (if callocOk then .allocated r else .refused r)
  | .allocated r =>
    some (if s.stopping then s.goto i (.refused r) else (s.enqueue r).goto i .rearming)
  | .refused r =>
    some ((s.record [.errorResponse r 503 "Server busy"]).goto i (.answered r))
  | .answered r => some ((s.record [.freed r]).goto i .rearming)
  | .rearming => some (s.goto i (if s.stopping then .leaving else .listening))
  | .listening => some ({ s with armed := true }.goto i .leaving)
  | .leaving => some (s.callbackLeave.goto i .returned)
  | .returned => none

/-- A step of `coap_worker_thread`. -/
def coapWorkerThread (s : CoapHandler) : WorkerPc → Option CoapHandler
  | .testing =>
    match s.queue.dequeue with
    | some (r, queue) => some { s with queue := queue, worker := .handling r }
    | none => some { s with worker := if s.stopping then .exited else .waiting }
  | .handling r => some ({ s with worker := .freeing r }.record [.handled r])
  | .freeing r => some ({ s with worker := .testing }.record [.freed r])
  | .waiting | .exited => none

/-- A step of `tmuxremote_coap_handler_deinit`, once it has called `…_stop`. -/
def deinitNext (s : CoapHandler) : DeinitPc → Option CoapHandler
  | .testing => some { s with deinit := if 0 < s.activeCallbacks then .waiting else .broadcasting }
  | .broadcasting => some { s with worker := s.worker.signal, deinit := .joining }
  | .joining => if s.worker = .exited then some { s with deinit := .taking } else none
  | .taking =>
    some { s with
      queue := { s.queue with head := none, tail := none }
      deinit := .freeing s.queue.head }
  | .freeing (some n) =>
    some ({ s with deinit := .freeing (s.queue.next n) }.record [.freed n])
  | .freeing none => some { s with deinit := .returned }
  | .notCalled | .waiting | .returned => none

/-- One step; `none` when it is not enabled. -/
def step (s : CoapHandler) : CoapAction → Option CoapHandler
  | .deliver =>
    if s.armed then
      some { s with
        armed := false
        request := some s.callbacks.length
        callbacks := s.callbacks ++ [.entering] }
    else none
  | .deliverError => if s.armed then some { s with armed := false } else none
  | .callback i callocOk => s.callbacks[i]?.bind (s.requestCallback i callocOk)
  | .worker => s.coapWorkerThread s.worker
  | .stop => some s.stop
  | .deinit => if s.deinit = .notCalled then some { s.stop with deinit := .testing } else none
  | .deinitNext => s.deinitNext s.deinit
  | .wakeWorker => some { s with worker := s.worker.signal }
  | .wakeDeinit => some { s with deinit := s.deinit.signal }

end CoapHandler

end TmuxRemote
