import Mathlib.Logic.Function.Basic
import TmuxRemote.Library.Guarded

/-!
# Ios/Reconnect — the app's reconnect loop and `disconnect` (`NabtoService.swift`)

`attemptReconnect` starts a task that connects, attaches, opens the stream and resizes, again and
again, until it succeeds or gives up.  `disconnect` cancels the task and takes its context away.
The loop looks for that at the top of a turn, after an error, and when all has been done; `attach`
and `openStream`, which write the fields of the service when their answers come, do not look
(`reconnect_silent_iff`).

The steps are those of the main actor, from one `await` to the next.  What `ConnectionManager` and
the agent answer is given with the step that it lets go on; of `ConnectionManager` there is only
what is cached.  Device states, which only the views read, the reader of the stream and its
callbacks are left out.
-/

namespace TmuxRemote

/-- Where the task of an `attemptReconnect` waits. -/
inductive ReconnectStage
  /-- For its first turn. -/
  | created
  /-- In `connection(for:)`, for `connect`, `attach`, `openStream` and `resize`. -/
  | connecting | attachConnecting | openConnecting | resizeConnecting
  /-- In `executeAsync` of `attach`, and in `openAsync`. -/
  | attaching | opening
  /-- In `executeAsync` of `resize`, for the first request and for the second. -/
  | resizing | resizingAgain
  /-- For the next turn. -/
  | sleeping
  | ended
  deriving DecidableEq

/-- The task of an `attemptReconnect`, with its arguments. -/
structure ReconnectTask where
  deviceId : List UInt8
  session : List UInt8
  hasOnSuccess : Bool
  hasOnGiveUp : Bool
  isCancelled : Bool
  stage : ReconnectStage
  deriving DecidableEq

/-- What a turn of the loop may throw. -/
inductive ReconnectError
  | cancellation
  | sessionNotFound
  | other

/-- A callback of `attemptReconnect`. -/
inductive ReconnectCall
  | onSuccess
  | onGiveUp

/-- What a task waits for. -/
inductive ReconnectAnswer
  /-- The task starts, or has slept; what `shouldGiveUp` says of the time gone by. -/
  | woken (giveUp : Bool)
  /-- `connection(for:)` returns. -/
  | connection
  /-- `executeAsync` returns. -/
  | response (status : ℕ)
  /-- `openAsync` returns. -/
  | opened
  | threw (isCancellation : Bool)
  deriving DecidableEq

/-- The turn of the loop is at its end, and nothing has been thrown. -/
def ReconnectTask.endsTurn (t : ReconnectTask) (answer : ReconnectAnswer) (made : Bool) : Bool :=
  match t.stage, answer with
  | .resizeConnecting, .connection => !made
  | .resizing, .response status => status = 204 || !made
  | .resizingAgain, .response _ => true
  | .resizeConnecting, .threw _ | .resizing, .threw _ | .resizingAgain, .threw _ => true
  | _, _ => false

/-- The part of `NabtoService` that is about one terminal and its reconnects. -/
structure NabtoService where
  currentDeviceId : Option (List UInt8)
  currentSession : Option (List UInt8)
  /-- `stream` is not nil. -/
  hasStream : Bool
  reconnectContext : Option (List UInt8 × List UInt8)
  reconnectTask : Option ℕ
  tasks : List ReconnectTask
  /-- `ConnectionManager` has a connection to the device cached. -/
  connections : List UInt8 → Bool
  /-- The callbacks that have been called, with the tasks that called them. -/
  calls : List (ℕ × ReconnectCall)
  /-- `keepConnection` of the last `disconnect`, if the UI has not connected, attached or opened a
  stream since. -/
  left : Option Bool

/-- A step of the main actor. -/
inductive ServiceAction
  | enableReconnectContext (deviceId session : List UInt8)
  | disableReconnectContext
  | attemptReconnect (deviceId session : List UInt8) (hasOnSuccess hasOnGiveUp : Bool)
  | disconnect (keepConnection : Bool)
  | closeStream
  /-- `connect`, `attach` or `openStream`, called by the UI: it leaves the fields as it does. -/
  | ui (currentDeviceId currentSession : Option (List UInt8)) (hasStream : Bool)
  /-- `ConnectionManager` caches a connection or loses it, by a task or an event of its own. -/
  | connections (deviceId : List UInt8) (isCached : Bool)
  /-- Task `i` goes on; whether the request, or the stream, that comes next can be made. -/
  | resume (i : ℕ) (answer : ReconnectAnswer) (made : Bool)
  deriving DecidableEq

namespace NabtoService

/-- The app has been started. -/
def init : NabtoService where
  currentDeviceId := none
  currentSession := none
  hasStream := false
  reconnectContext := none
  reconnectTask := none
  tasks := []
  connections := fun _ => false
  calls := []
  left := none

variable (s : NabtoService)

def canAutoReconnect (deviceId session : List UInt8) : Bool :=
  s.reconnectContext = some (deviceId, session)

def cancelReconnect : NabtoService :=
  match s.reconnectTask with
  | none => s
  | some i =>
    { s with
      reconnectTask := none
      tasks := s.tasks.modify i fun t => { t with isCancelled := true } }

def disableReconnectContext : NabtoService :=
  { s with reconnectContext := none }.cancelReconnect

/-- `ConnectionManager.disconnect` -/
def disconnectDevice (deviceId : List UInt8) : NabtoService :=
  { s with connections := Function.update s.connections deviceId false }

def disconnect (keepConnection : Bool) : NabtoService :=
  let s := s.disableReconnectContext
  let s :=
    match s.currentDeviceId with
    | none => s
    -- `cancelPendingConnect` touches nothing that is cached.
    | some deviceId => if keepConnection then s else s.disconnectDevice deviceId
  { s with
    hasStream := false
    currentSession := none
    currentDeviceId := none
    left := some keepConnection }

def attemptReconnect (deviceId session : List UInt8) (hasOnSuccess hasOnGiveUp : Bool) :
    NabtoService :=
  if s.canAutoReconnect deviceId session then
    let s := s.cancelReconnect
    { s with
      reconnectTask := some s.tasks.length
      tasks := s.tasks ++
        [{ deviceId := deviceId
           session := session
           hasOnSuccess := hasOnSuccess
           hasOnGiveUp := hasOnGiveUp
           isCancelled := false
           stage := .created }] }
  else s

/-! ## The loop -/

def setTask (i : ℕ) (t : ReconnectTask) : NabtoService := { s with tasks := s.tasks.set i t }

/-- Task `i` waits. -/
def wait (i : ℕ) (t : ReconnectTask) (stage : ReconnectStage) : NabtoService :=
  s.setTask i { t with stage := stage }

/-- A callback, where there is one. -/
def call (i : ℕ) (given : Bool) (callback : ReconnectCall) : NabtoService :=
  if given then { s with calls := s.calls ++ [(i, callback)] } else s

/-- The `catch` clauses. -/
def catchError (i : ℕ) (t : ReconnectTask) : ReconnectError → NabtoService
  | .cancellation => s.wait i t .ended
  | .sessionNotFound => (s.call i t.hasOnGiveUp .onGiveUp).wait i t .ended
  | .other =>
    if t.isCancelled || !s.canAutoReconnect t.deviceId t.session then s.wait i t .ended
    else s.wait i t .sleeping

/-- A turn of the loop, up to `connect`. -/
def turn (i : ℕ) (t : ReconnectTask) (giveUp : Bool) : NabtoService :=
  if t.isCancelled then s.wait i t .ended
  else if !s.canAutoReconnect t.deviceId t.session then s.wait i t .ended
  else if giveUp then (s.call i t.hasOnGiveUp .onGiveUp).wait i t .ended
  else
    let s := s.disconnectDevice t.deviceId
    let s := { s with currentDeviceId := some t.deviceId }
    -- Nothing is cached now.
    s.wait i t .connecting

/-- `attach`, when it has its connection. -/
def attachOn (i : ℕ) (t : ReconnectTask) (made : Bool) : NabtoService :=
  if made then s.wait i t .attaching else s.catchError i t .other

def attach (i : ℕ) (t : ReconnectTask) (made : Bool) : NabtoService :=
  if s.connections t.deviceId then s.attachOn i t made else s.wait i t .attachConnecting

/-- `openStream`, when it has its connection. -/
def openStreamOn (i : ℕ) (t : ReconnectTask) (made : Bool) : NabtoService :=
  if made then s.wait i t .opening else s.catchError i t .other

def openStream (i : ℕ) (t : ReconnectTask) (made : Bool) : NabtoService :=
  if s.connections t.deviceId then s.openStreamOn i t made else s.wait i t .openConnecting

/-- The end of a turn in which nothing has been thrown. -/
def succeed (i : ℕ) (t : ReconnectTask) : NabtoService :=
  if s.canAutoReconnect t.deviceId t.session then
    (s.call i t.hasOnSuccess .onSuccess).wait i t .ended
  else (s.disconnectDevice t.deviceId).wait i t .ended

/-- `resize`, when it has its connection; its errors are not passed on. -/
def resizeOn (i : ℕ) (t : ReconnectTask) (made : Bool) : NabtoService :=
  if made then s.wait i t .resizing else s.succeed i t

def resize (i : ℕ) (t : ReconnectTask) (made : Bool) : NabtoService :=
  if s.connections t.deviceId then s.resizeOn i t made else s.wait i t .resizeConnecting

/-- `attach`, when it has been answered. -/
def attachAnswered (i : ℕ) (t : ReconnectTask) (status : ℕ) (made : Bool) : NabtoService :=
  if status = 201 then
    { s with
      currentDeviceId := some t.deviceId
      currentSession := some t.session }.openStream i t made
  else if status = 404 then s.catchError i t .sessionNotFound
  else s.catchError i t .other

/-- Task `i` goes on; `none` when that is not what it waits for. -/
def resume (i : ℕ) (t : ReconnectTask) (answer : ReconnectAnswer) (made : Bool) :
    Option NabtoService :=
  match t.stage, answer with
  | .created, .woken giveUp | .sleeping, .woken giveUp => some (s.turn i t giveUp)
  | .connecting, .connection => some (s.attach i t made)
  | .attachConnecting, .connection => some (s.attachOn i t made)
  | .attaching, .response status => some (s.attachAnswered i t status made)
  | .openConnecting, .connection => some (s.openStreamOn i t made)
  | .opening, .opened => some ({ s with hasStream := true }.resize i t made)
  | .resizeConnecting, .connection => some (s.resizeOn i t made)
  | .resizing, .response status =>
    some (if status ≠ 204 ∧ made then s.wait i t .resizingAgain else s.succeed i t)
  | .resizingAgain, .response _ => some (s.succeed i t)
  | .connecting, .threw isCancellation | .attachConnecting, .threw isCancellation
  | .attaching, .threw isCancellation | .openConnecting, .threw isCancellation
  | .opening, .threw isCancellation =>
    some (s.catchError i t (if isCancellation then .cancellation else .other))
  | .resizeConnecting, .threw _ | .resizing, .threw _ | .resizingAgain, .threw _ =>
    some (s.succeed i t)
  | _, _ => none

/-- One step; `none` when it cannot be taken. -/
def step (s : NabtoService) : ServiceAction → Option NabtoService
  | .enableReconnectContext deviceId session =>
    some { s with reconnectContext := some (deviceId, session) }
  | .disableReconnectContext => some s.disableReconnectContext
  | .attemptReconnect deviceId session hasOnSuccess hasOnGiveUp =>
    some (s.attemptReconnect deviceId session hasOnSuccess hasOnGiveUp)
  | .disconnect keepConnection => some (s.disconnect keepConnection)
  | .closeStream => some { s with hasStream := false, currentSession := none }
  | .ui currentDeviceId currentSession hasStream =>
    some
      { s with
        currentDeviceId := currentDeviceId
        currentSession := currentSession
        hasStream := hasStream
        left := none }
  | .connections deviceId isCached =>
    some { s with connections := Function.update s.connections deviceId isCached }
  | .resume i answer made => s.tasks[i]?.bind fun t => s.resume i t answer made

/-! ## After `disconnect` -/

/-- The service has no terminal, once it has been left. -/
def HasNoTerminal (s : NabtoService) : Prop :=
  s.left ≠ none → s.hasStream = false ∧ s.currentSession = none ∧ s.currentDeviceId = none

/-- Once the service has been left, a task calls nothing back, and takes no connection that was to
be kept. -/
def ReconnectSilent (s : NabtoService) (a : ServiceAction) : Prop :=
  ∀ i answer made keepConnection s', a = .resume i answer made → s.left = some keepConnection →
    step s a = some s' → s'.calls = s.calls
      ∧ (keepConnection = true → ∀ deviceId, s.connections deviceId = true →
        s'.connections deviceId = true)

/-- What a task of a service that has been left may be told. -/
structure Harmless (s : NabtoService) (keepConnection : Bool) (t : ReconnectTask)
    (answer : ReconnectAnswer) (made : Bool) : Prop where
  turn : t.stage = .created ∨ t.stage = .sleeping → ∀ giveUp, answer = .woken giveUp →
    t.isCancelled = false → s.canAutoReconnect t.deviceId t.session = true →
      giveUp = true ∧ t.hasOnGiveUp = false
  attached : t.stage = .attaching → answer ≠ .response 201
  notFound : t.stage = .attaching → answer = .response 404 → t.hasOnGiveUp = false
  opened : t.stage = .opening → answer ≠ .opened
  ends : t.endsTurn answer made = true →
    if s.canAutoReconnect t.deviceId t.session then t.hasOnSuccess = false
    else keepConnection = true → s.connections t.deviceId = false

/-- Nothing is answered that the task would act upon. -/
def NothingArrives (s : NabtoService) : ServiceAction → Prop
  | .resume i answer made =>
    ∀ t keepConnection, s.tasks[i]? = some t → s.left = some keepConnection →
      s.Harmless keepConnection t answer made
  | .enableReconnectContext _ _ | .disableReconnectContext | .attemptReconnect _ _ _ _
  | .disconnect _ | .closeStream | .ui _ _ _ | .connections _ _ => True

/-- Only what the tasks are about changes, and connections that were not to be kept. -/
structure Silent (keepConnection : Bool) (s s' : NabtoService) : Prop where
  currentDeviceId : s'.currentDeviceId = s.currentDeviceId
  currentSession : s'.currentSession = s.currentSession
  hasStream : s'.hasStream = s.hasStream
  left : s'.left = s.left
  calls : s'.calls = s.calls
  connections : keepConnection = true → ∀ deviceId, s.connections deviceId = true →
    s'.connections deviceId = true

section
variable {s s' : NabtoService} {i : ℕ} {t : ReconnectTask} {keepConnection made : Bool}

/-! ### What the parts of the loop leave alone -/

theorem silent_wait (stage : ReconnectStage) : Silent keepConnection s (s.wait i t stage) :=
  ⟨rfl, rfl, rfl, rfl, rfl, fun _ _ h => h⟩

/-- An error is silent, unless the session is gone and there is a callback to be told. -/
theorem silent_catchError (error : ReconnectError)
    (herror : error = .sessionNotFound → t.hasOnGiveUp = false) :
    Silent keepConnection s (s.catchError i t error) := by
  cases error with
  | cancellation => exact silent_wait .ended
  | sessionNotFound =>
    rw [catchError, call, herror rfl, if_neg Bool.false_ne_true]
    exact silent_wait .ended
  | other =>
    rw [catchError]
    split_ifs
    · exact silent_wait .ended
    · exact silent_wait .sleeping

theorem silent_attachOn : Silent keepConnection s (s.attachOn i t made) := by
  rw [attachOn]
  split_ifs
  · exact silent_wait .attaching
  · exact silent_catchError .other nofun

/-- A connection is looked for in the cache, or made. -/
theorem silent_attach : Silent keepConnection s (s.attach i t made) := by
  rw [attach]
  split_ifs
  · exact silent_attachOn
  · exact silent_wait .attachConnecting

theorem silent_openStreamOn : Silent keepConnection s (s.openStreamOn i t made) := by
  rw [openStreamOn]
  split_ifs
  · exact silent_wait .opening
  · exact silent_catchError .other nofun

theorem silent_openStream : Silent keepConnection s (s.openStream i t made) := by
  rw [openStream]
  split_ifs
  · exact silent_openStreamOn
  · exact silent_wait .openConnecting

/-- **A successful attempt** is silent if there is no callback to be told, or, once its terminal has
been left, no connection to be dropped. -/
theorem silent_succeed
    (h : if s.canAutoReconnect t.deviceId t.session then t.hasOnSuccess = false
      else keepConnection = true → s.connections t.deviceId = false) :
    Silent keepConnection s (s.succeed i t) := by
  rw [succeed]
  split_ifs at h ⊢ with hcan
  · rw [call, h, if_neg Bool.false_ne_true]
    exact silent_wait .ended
  · refine ⟨rfl, rfl, rfl, rfl, rfl, fun hkeep deviceId hcached => ?_⟩
    change Function.update s.connections t.deviceId false deviceId = true
    rw [Function.update_of_ne, hcached]
    rintro rfl
    exact absurd hcached (by simp [h hkeep])

/-- **A turn** is silent if the loop ends with it and there is no callback to be told. -/
theorem silent_turn (giveUp : Bool)
    (h : t.isCancelled = false → s.canAutoReconnect t.deviceId t.session = true →
      giveUp = true ∧ t.hasOnGiveUp = false) : Silent keepConnection s (s.turn i t giveUp) := by
  rw [turn]
  split_ifs with hcancelled hcan hgiveUp
  · exact silent_wait .ended
  · exact silent_wait .ended
  · rw [call, (h (by simpa using hcancelled) (by simpa using hcan)).2, if_neg Bool.false_ne_true]
    exact silent_wait .ended
  · exact absurd (h (by simpa using hcancelled) (by simpa using hcan)).1 hgiveUp

/-! ### What they do not -/

/-- The end of a turn leaves the stream. -/
theorem succeed_hasStream :
    (s.succeed i t).hasStream = s.hasStream ∧ (s.succeed i t).left = s.left := by
  rw [succeed, call]
  split_ifs
  · exact ⟨rfl, rfl⟩
  · exact ⟨rfl, rfl⟩
  · exact ⟨rfl, rfl⟩

theorem resize_hasStream :
    (s.resize i t made).hasStream = s.hasStream ∧ (s.resize i t made).left = s.left := by
  rw [resize, resizeOn]
  split_ifs
  · exact ⟨rfl, rfl⟩
  · exact succeed_hasStream
  · exact ⟨rfl, rfl⟩

/-! ### A task goes on -/

/-- What a task does when it goes on. -/
inductive Resumes (s : NabtoService) (i : ℕ) (t : ReconnectTask) (made : Bool) :
    ReconnectAnswer → NabtoService → Prop
  | turns (giveUp : Bool) (hstage : t.stage = .created ∨ t.stage = .sleeping) :
      Resumes s i t made (.woken giveUp) (s.turn i t giveUp)
  | attaches (hstage : t.stage = .connecting) : Resumes s i t made .connection (s.attach i t made)
  | attachesOn (hstage : t.stage = .attachConnecting) :
      Resumes s i t made .connection (s.attachOn i t made)
  | isAnswered (status : ℕ) (hstage : t.stage = .attaching) :
      Resumes s i t made (.response status) (s.attachAnswered i t status made)
  | opensOn (hstage : t.stage = .openConnecting) :
      Resumes s i t made .connection (s.openStreamOn i t made)
  | hasOpened (hstage : t.stage = .opening) :
      Resumes s i t made .opened ({ s with hasStream := true }.resize i t made)
  | asks (answer : ReconnectAnswer) (stage : ReconnectStage) :
      Resumes s i t made answer (s.wait i t stage)
  | succeeds (answer : ReconnectAnswer) (hends : t.endsTurn answer made = true) :
      Resumes s i t made answer (s.succeed i t)
  | fails (answer : ReconnectAnswer) (error : ReconnectError) (herror : error ≠ .sessionNotFound) :
      Resumes s i t made answer (s.catchError i t error)

theorem resumes_of_resume {answer : ReconnectAnswer}
    (h : s.resume i t answer made = some s') : Resumes s i t made answer s' := by
  have hfails (isCancellation : Bool) : Resumes s i t made (.threw isCancellation)
      (s.catchError i t (if isCancellation then .cancellation else .other)) := by
    refine .fails _ _ ?_
    cases isCancellation with
    | true => exact nofun
    | false => exact nofun
  unfold resume at h
  split at h
  · next hstage => exact Option.some.inj h ▸ .turns _ (.inl hstage)
  · next hstage => exact Option.some.inj h ▸ .turns _ (.inr hstage)
  · next hstage => exact Option.some.inj h ▸ .attaches hstage
  · next hstage => exact Option.some.inj h ▸ .attachesOn hstage
  · next hstage => exact Option.some.inj h ▸ .isAnswered _ hstage
  · next hstage => exact Option.some.inj h ▸ .opensOn hstage
  · next hstage => exact Option.some.inj h ▸ .hasOpened hstage
  · next hstage =>
    obtain rfl := Option.some.inj h
    rw [resizeOn]
    split_ifs with hmade
    · exact .asks _ _
    · exact .succeeds _ (by simp [ReconnectTask.endsTurn, hstage, hmade])
  · next status hstage =>
    obtain rfl := Option.some.inj h
    split_ifs with hagain
    · exact .asks _ _
    · refine .succeeds _ ?_
      simp only [ReconnectTask.endsTurn, hstage]
      grind
  · next hstage =>
    exact Option.some.inj h ▸ .succeeds _ (by simp [ReconnectTask.endsTurn, hstage])
  · next hstage => exact Option.some.inj h ▸ hfails _
  · next hstage => exact Option.some.inj h ▸ hfails _
  · next hstage => exact Option.some.inj h ▸ hfails _
  · next hstage => exact Option.some.inj h ▸ hfails _
  · next hstage => exact Option.some.inj h ▸ hfails _
  · next hstage =>
    exact Option.some.inj h ▸ .succeeds _ (by simp [ReconnectTask.endsTurn, hstage])
  · next hstage =>
    exact Option.some.inj h ▸ .succeeds _ (by simp [ReconnectTask.endsTurn, hstage])
  · next hstage =>
    exact Option.some.inj h ▸ .succeeds _ (by simp [ReconnectTask.endsTurn, hstage])
  · exact nomatch h

/-- What is harmless changes nothing that is the service's. -/
theorem silent_of_harmless {answer : ReconnectAnswer} (h : s.Harmless keepConnection t answer made)
    (hresumes : Resumes s i t made answer s') : Silent keepConnection s s' := by
  cases hresumes with
  | turns giveUp hstage => exact silent_turn giveUp (h.turn hstage giveUp rfl)
  | attaches hstage => exact silent_attach
  | attachesOn hstage => exact silent_attachOn
  | isAnswered status hstage =>
    rw [attachAnswered]
    split_ifs with hcreated hmissing
    · exact absurd (congrArg _ hcreated) (h.attached hstage)
    · exact silent_catchError _ fun _ => h.notFound hstage (congrArg _ hmissing)
    · exact silent_catchError .other nofun
  | opensOn hstage => exact silent_openStreamOn
  | hasOpened hstage => exact absurd rfl (h.opened hstage)
  | asks answer stage => exact silent_wait stage
  | succeeds answer hends => exact silent_succeed (h.ends hends)
  | fails answer error herror => exact silent_catchError error fun hsame => absurd hsame herror

/-! ### What the answers that matter lead to -/

/-- After the delay the loop takes a turn. -/
theorem resume_woken (hstage : t.stage = .created ∨ t.stage = .sleeping) (giveUp : Bool) :
    s.resume i t (.woken giveUp) made = some (s.turn i t giveUp) := by
  obtain hstage | hstage := hstage
  · simp [resume, hstage]
  · simp [resume, hstage]

theorem resume_response (hstage : t.stage = .attaching) (status : ℕ) :
    s.resume i t (.response status) made = some (s.attachAnswered i t status made) := by
  simp [resume, hstage]

theorem resume_opened (hstage : t.stage = .opening) :
    s.resume i t .opened made = some ({ s with hasStream := true }.resize i t made) := by
  simp [resume, hstage]

/-- The answer with which an attempt has succeeded. -/
theorem resume_endsTurn {answer : ReconnectAnswer} (hends : t.endsTurn answer made = true) :
    s.resume i t answer made = some (s.succeed i t) := by
  unfold ReconnectTask.endsTurn at hends
  split at hends
  · next hstage =>
    have hmade : made = false := by simpa using hends
    simp [resume, hstage, resizeOn, hmade]
  · next status hstage =>
    have hdone : ¬ (status ≠ 204 ∧ made = true) := by grind
    simp only [resume, hstage, if_neg hdone]
  · next hstage => simp [resume, hstage]
  · next hstage => simp [resume, hstage]
  · next hstage => simp [resume, hstage]
  · next hstage => simp [resume, hstage]
  · exact absurd hends Bool.false_ne_true

/-- A callback that is given is called. -/
theorem not_given_of_calls {given : Bool} {callback : ReconnectCall}
    (h : (s.call i given callback).calls = s.calls) : given = false := by
  cases given with
  | false => rfl
  | true => exact absurd (List.append_right_eq_self.mp h) (List.cons_ne_nil _ _)

/-- A task that goes on and does nothing to the service has been told nothing that matters. -/
theorem harmless_of_silent {answer : ReconnectAnswer} (hleft : s.left = some keepConnection)
    (hresume : s.resume i t answer made = some s') (hnone : s'.HasNoTerminal)
    (hcalls : s'.calls = s.calls)
    (hkept : keepConnection = true → ∀ deviceId, s.connections deviceId = true →
      s'.connections deviceId = true) : s.Harmless keepConnection t answer made := by
  have hleft' : s.left ≠ none := by simp [hleft]
  refine ⟨?_, ?_, ?_, ?_, fun hends => ?_⟩
  · rintro hstage giveUp rfl hlive hcan
    obtain rfl := Option.some.inj ((resume_woken hstage giveUp).symm.trans hresume)
    rw [turn, if_neg (by simp [hlive]), if_neg (by simp [hcan])] at hnone hcalls
    cases giveUp with
    | true => exact ⟨rfl, not_given_of_calls hcalls⟩
    | false => exact nomatch (hnone hleft').2.2
  · rintro hstage rfl
    obtain rfl := Option.some.inj ((resume_response hstage 201).symm.trans hresume)
    rw [attachAnswered, if_pos rfl] at hnone
    have hopens := @silent_openStream
      { s with currentDeviceId := some t.deviceId, currentSession := some t.session } i t
      keepConnection made
    have hsession := (hnone (hopens.left.trans_ne hleft')).2.1
    exact nomatch hopens.currentSession.symm.trans hsession
  · rintro hstage rfl
    obtain rfl := Option.some.inj ((resume_response hstage 404).symm.trans hresume)
    exact not_given_of_calls hcalls
  · rintro hstage rfl
    obtain rfl := Option.some.inj ((resume_opened hstage).symm.trans hresume)
    obtain ⟨hstream, hsame⟩ := @resize_hasStream { s with hasStream := true } i t made
    exact nomatch hstream.symm.trans (hnone (hsame.trans_ne hleft')).1
  · obtain rfl := Option.some.inj ((resume_endsTurn hends).symm.trans hresume)
    rw [succeed] at hcalls hkept
    split_ifs at hcalls hkept ⊢ with hcan
    · exact not_given_of_calls hcalls
    · intro hkeep
      by_contra hcached
      have hlost := hkept hkeep t.deviceId (by simpa using hcached)
      change Function.update s.connections t.deviceId false t.deviceId = true at hlost
      rw [Function.update_self] at hlost
      exact nomatch hlost

/-! ### No task changes whether the service has been left -/

@[simp] theorem left_wait (stage : ReconnectStage) : (s.wait i t stage).left = s.left := rfl

@[simp] theorem left_call (given : Bool) (callback : ReconnectCall) :
    (s.call i given callback).left = s.left := by
  rw [call]
  split_ifs <;> rfl

@[simp] theorem left_catchError (error : ReconnectError) :
    (s.catchError i t error).left = s.left := by
  cases error with
  | cancellation => rfl
  | sessionNotFound => simp [catchError]
  | other =>
    rw [catchError]
    split_ifs <;> rfl

/-- No step of a loop comes back to a terminal. -/
theorem left_turn (giveUp : Bool) : (s.turn i t giveUp).left = s.left := by
  rw [turn]
  split_ifs
  · rfl
  · rfl
  · simp
  · rfl

theorem left_attachAnswered (status : ℕ) : (s.attachAnswered i t status made).left = s.left := by
  rw [attachAnswered]
  split_ifs
  · exact (silent_openStream : Silent false _ _).left
  · exact left_catchError .sessionNotFound
  · exact left_catchError .other

/-- Nor does any answer that a loop waits for. -/
theorem left_resumes {answer : ReconnectAnswer} (h : Resumes s i t made answer s') :
    s'.left = s.left := by
  cases h with
  | turns giveUp hstage => exact left_turn giveUp
  | attaches hstage => exact (silent_attach : Silent false _ _).left
  | attachesOn hstage => exact (silent_attachOn : Silent false _ _).left
  | isAnswered status hstage => exact left_attachAnswered status
  | opensOn hstage => exact (silent_openStreamOn : Silent false _ _).left
  | hasOpened hstage => exact resize_hasStream.2
  | asks answer stage => exact left_wait stage
  | succeeds answer hends => exact succeed_hasStream.2
  | fails answer error herror => exact left_catchError error

/-! ### Every step -/

variable {a : ServiceAction}

/-- Cancelling sets a mark on the task and leaves the terminal as it is. -/
theorem cancelReconnect_fields (s : NabtoService) :
    s.cancelReconnect.currentDeviceId = s.currentDeviceId
      ∧ s.cancelReconnect.currentSession = s.currentSession
      ∧ s.cancelReconnect.hasStream = s.hasStream ∧ s.cancelReconnect.left = s.left := by
  rw [cancelReconnect]
  split
  · exact ⟨rfl, rfl, rfl, rfl⟩
  · exact ⟨rfl, rfl, rfl, rfl⟩

/-- It is a matter of four fields. -/
theorem HasNoTerminal.congr (h : s.HasNoTerminal) (hdevice : s'.currentDeviceId = s.currentDeviceId)
    (hsession : s'.currentSession = s.currentSession) (hstream : s'.hasStream = s.hasStream)
    (hleft : s'.left = s.left) : s'.HasNoTerminal := by
  rw [HasNoTerminal, hdevice, hsession, hstream, hleft]
  exact h

/-- A disconnect forgets the terminal. -/
theorem hasNoTerminal_disconnect (keepConnection : Bool) :
    (s.disconnect keepConnection).HasNoTerminal := fun _ => ⟨rfl, rfl, rfl⟩

/-- A step with which nothing arrives leaves the service without a terminal. -/
theorem hasNoTerminal_step (h : s.HasNoTerminal) (harrives : NothingArrives s a)
    (hstep : step s a = some s') : s'.HasNoTerminal := by
  cases a with
  | enableReconnectContext deviceId session => exact Option.some.inj hstep ▸ h.congr rfl rfl rfl rfl
  | disableReconnectContext =>
    obtain rfl := Option.some.inj hstep
    obtain ⟨hdevice, hsession, hstream, hleft⟩ :=
      cancelReconnect_fields { s with reconnectContext := none }
    exact h.congr hdevice hsession hstream hleft
  | attemptReconnect deviceId session hasOnSuccess hasOnGiveUp =>
    obtain rfl := Option.some.inj hstep
    obtain ⟨hdevice, hsession, hstream, hleft⟩ := cancelReconnect_fields s
    rw [attemptReconnect]
    split_ifs
    · exact h.congr hdevice hsession hstream hleft
    · exact h
  | disconnect keepConnection =>
    exact Option.some.inj hstep ▸ hasNoTerminal_disconnect keepConnection
  | closeStream =>
    obtain rfl := Option.some.inj hstep
    exact fun hleft => ⟨rfl, rfl, (h hleft).2.2⟩
  | ui currentDeviceId currentSession hasStream =>
    obtain rfl := Option.some.inj hstep
    exact fun hleft => absurd rfl hleft
  | connections deviceId isCached => exact Option.some.inj hstep ▸ h.congr rfl rfl rfl rfl
  | resume i answer made =>
    obtain ⟨t, ht, hresume⟩ := Option.bind_eq_some_iff.mp hstep
    cases hleft : s.left with
    | none =>
      have hnever : s'.left = none := (left_resumes (resumes_of_resume hresume)).trans hleft
      exact fun hsince => absurd hnever hsince
    | some keepConnection =>
      have hsilent := silent_of_harmless (harrives t keepConnection ht hleft)
        (resumes_of_resume hresume)
      exact h.congr hsilent.currentDeviceId hsilent.currentSession hsilent.hasStream hsilent.left

theorem reconnectSilent_step (harrives : NothingArrives s a) : ReconnectSilent s a := by
  rintro i answer made keepConnection s' rfl hleft hstep
  obtain ⟨t, ht, hresume⟩ := Option.bind_eq_some_iff.mp hstep
  have hsilent :=
    silent_of_harmless (harrives t keepConnection ht hleft) (resumes_of_resume hresume)
  exact ⟨hsilent.calls, hsilent.connections⟩

/-- A step with which something arrives can be told. -/
theorem nothingArrives_of_good (hstep : step s a = some s') (hnone : s'.HasNoTerminal)
    (hsilent : ReconnectSilent s a) : NothingArrives s a := by
  cases a with
  | resume i answer made =>
    intro t keepConnection ht hleft
    obtain ⟨hcalls, hkept⟩ := hsilent i answer made keepConnection s' rfl hleft hstep
    rw [step, ht] at hstep
    exact harmless_of_silent hleft hstep hnone hcalls hkept
  | _ => trivial

end

/-- **After `disconnect`.**  Until the UI connects, attaches or opens a stream again, the service
has no terminal, its reconnect tasks call nothing back and take no connection that was to be kept,
exactly if nothing arrives that such a task would act upon. -/
theorem reconnect_silent_iff (as : List ServiceAction) (t : NabtoService)
    (h : Guarded.run step init as = some t) :
    Guarded.Throughout step HasNoTerminal init as ∧ Guarded.AllSteps step ReconnectSilent init as
      ↔ Guarded.AllSteps step NothingArrives init as :=
  Guarded.throughout_and_allSteps_iff (fun _ hs => hs)
    (fun _ _ _ hs harrives hstep => hasNoTerminal_step hs harrives hstep)
    (fun _ _ _ harrives => reconnectSilent_step harrives)
    (fun _ _ _ _ harrives hstep hgood => harrives (nothingArrives_of_good hstep hgood.1 hgood.2))
    (fun hleft => absurd rfl hleft) h

/-- The terminal of session `s` at device `d` is left while its reconnect connects. -/
def leftWhileConnecting : List ServiceAction :=
  [.enableReconnectContext [100] [115], .attemptReconnect [100] [115] true true,
    .resume 0 (.woken false) true, .disconnect true, .resume 0 (.threw true) true]

theorem reconnect_silent_iff_connecting :
    Guarded.Throughout step HasNoTerminal init leftWhileConnecting
      ∧ Guarded.AllSteps step ReconnectSilent init leftWhileConnecting := by
  refine (reconnect_silent_iff leftWhileConnecting _ rfl).mpr ?_
  refine ⟨trivial, ?_⟩
  rintro _ ⟨⟩
  refine ⟨trivial, ?_⟩
  rintro _ ⟨⟩
  refine ⟨fun _ _ _ => nofun, ?_⟩
  rintro _ ⟨⟩
  refine ⟨trivial, ?_⟩
  rintro _ ⟨⟩
  refine ⟨?_, fun _ _ => trivial⟩
  rintro _ _ ⟨⟩ ⟨⟩
  exact ⟨nofun, nofun, nofun, nofun, nofun⟩

/-- It is left while its reconnect attaches, and the agent answers. -/
def leftWhileAttaching : List ServiceAction :=
  [.enableReconnectContext [100] [115], .attemptReconnect [100] [115] true true,
    .resume 0 (.woken false) true, .connections [100] true, .resume 0 .connection true,
    .disconnect true, .resume 0 (.response 201) true]

/-- The session that has been left is the current one again. -/
theorem attached_after_disconnect :
    ¬ ∀ (as : List ServiceAction) (t : NabtoService), Guarded.run step init as = some t →
      Guarded.Throughout step HasNoTerminal init as
        ∧ Guarded.AllSteps step ReconnectSilent init as := by
  intro hall
  have hrun : Guarded.run step init leftWhileAttaching = some _ := rfl
  have hlast := (hall leftWhileAttaching _ hrun).1.last hrun
  exact nomatch (hlast nofun).2.1

end NabtoService

end TmuxRemote
