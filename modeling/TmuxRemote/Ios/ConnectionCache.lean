import TmuxRemote.Ios.ControlStreams

/-!
# Ios/ConnectionCache — the app's connections to one agent (`ConnectionManager.swift`)

`connection(for:)` makes a connection in a task of its own and caches it; `adoptConnection` caches
one that `connectForPairing` has made for its caller.  `disconnect` and `cancelPendingConnect` stop
what they take away.  A task that has connected looks whether it is still the pending one.  Nothing
else looks: caching takes the place of whatever is cached, and `handleConnectionClosed` is told the
device and not the connection (`connections_coherent_iff`).  The control streams in it run as they
do on their own (`run_control`).

The steps are those of the main actor, from one `await` to the next, for one device id.  A
connection has the number of the task, or of the `connectForPairing`, that makes it.
-/

namespace TmuxRemote

/-- Where the code that makes a connection is. -/
inductive ConnectionStage
  /-- The task of a `connection(for:)`, before it starts. -/
  | created
  /-- The task, in `connectAsync`. -/
  | connecting
  /-- The task has thrown, and `connection(for:)` has not resumed. -/
  | failed
  /-- `connectForPairing`, in `connectAsync`. -/
  | pairing
  /-- Returned by `connectForPairing` to its caller, who has it. -/
  | handedOut
  | finished
  deriving DecidableEq

/-- A connection, with the code that makes it. -/
structure DeviceConnection where
  stage : ConnectionStage
  /-- Of the task. -/
  isCancelled : Bool
  isConnected : Bool
  isStopped : Bool
  isClosed : Bool
  /-- An `EventReceiver` is registered with it. -/
  hasReceiver : Bool
  /-- A `CLOSED` event of it waits for the main actor. -/
  closedEvent : Bool
  deriving DecidableEq

namespace DeviceConnection

def new (stage : ConnectionStage) : DeviceConnection where
  stage := stage
  isCancelled := false
  isConnected := false
  isStopped := false
  isClosed := false
  hasReceiver := false
  closedEvent := false

variable (c : DeviceConnection)

/-- `Task.cancel`, with the handler that stops the connection while the task is in
`connectAsync`. -/
def cancel : DeviceConnection :=
  { c with isCancelled := true, isStopped := c.isStopped || c.stage = .connecting }

/-- Nothing is left of it to stop. -/
def IsDown : Prop := c.isStopped = true ∨ c.isClosed = true

/-- What the flags are at each stage. -/
structure Sound : Prop where
  connected : c.isConnected = true →
    c.stage ≠ .created ∧ c.stage ≠ .connecting ∧ c.stage ≠ .pairing
  handedOut : c.stage = .handedOut → c.isConnected = true
  cancelled : c.stage = .connecting → c.isCancelled = true → c.isStopped = true
  closed : c.closedEvent = true → c.isClosed = true

variable {c}

theorem Sound.cancel (h : c.Sound) : c.cancel.Sound where
  connected := h.connected
  handedOut := h.handedOut
  cancelled := fun hstage _ => by
    change c.stage = .connecting at hstage
    simp [DeviceConnection.cancel, hstage]
  closed := h.closed

/-- What has been settled only has to have closed before it says so. -/
theorem Sound.of_settled (hstage : c.stage = .failed ∨ c.stage = .finished)
    (hclosed : c.closedEvent = true → c.isClosed = true) : c.Sound := by
  obtain hstage | hstage := hstage
  · exact ⟨by simp [hstage], by simp [hstage], by simp [hstage], hclosed⟩
  · exact ⟨by simp [hstage], by simp [hstage], by simp [hstage], hclosed⟩

end DeviceConnection

/-- The part of `ConnectionManager` that is about the connections to one device. -/
structure ConnectionManager where
  connections : Option ℕ
  pendingConnects : Option ℕ
  eventReceivers : Option ℕ
  control : ControlStreams
  /-- The connections made so far. -/
  made : List DeviceConnection
  deriving DecidableEq

/-- How `connectAsync` ends, or the timer beside it. -/
inductive ConnectResult
  | connected
  | failed
  | timedOut
  deriving DecidableEq

/-- A step of the main actor, or of the SDK. -/
inductive ManagerAction
  /-- `connection(for:)` is called. -/
  | connection
  /-- The task starts; whether it gets as far as `connectAsync`. -/
  | createConnection (i : ℕ) (ok : Bool)
  /-- `connectAsync` returns to the task; whether `addConnectionEventsReceiver` succeeds. -/
  | connectAsync (i : ℕ) (result : ConnectResult) (receiverOk : Bool)
  /-- `connection(for:)` resumes, and catches the error of its task. -/
  | catchError (i : ℕ)
  | disconnect
  | cancelPendingConnect
  /-- `connectForPairing` is called; whether it gets as far as `connectAsync`. -/
  | connectForPairing (ok : Bool)
  /-- `connectAsync` returns to `connectForPairing`. -/
  | connectAsyncForPairing (i : ℕ) (result : ConnectResult)
  /-- The task that is in `connectForPairing` is cancelled. -/
  | cancelPairing (i : ℕ)
  /-- `pair` has paired; whether `addConnectionEventsReceiver` succeeds. -/
  | adoptConnection (i : ℕ) (receiverOk : Bool)
  /-- `pair` has failed. -/
  | abandonPairing (i : ℕ)
  /-- The SDK finds the connection closed, and calls the receiver. -/
  | onEvent (i : ℕ)
  | handleConnectionClosed (i : ℕ)
  /-- A step of a control stream's task. -/
  | control (a : ControlAction)
  deriving DecidableEq

/-- The connection that a step is about. -/
def ManagerAction.number : ManagerAction → Option ℕ
  | createConnection i _ | connectAsync i _ _ | catchError i | connectAsyncForPairing i _
  | cancelPairing i | adoptConnection i _ | abandonPairing i | onEvent i
  | handleConnectionClosed i => some i
  | connection | disconnect | cancelPendingConnect | connectForPairing _ | control _ => none

namespace ConnectionManager

/-- Nothing has been connected. -/
def init : ConnectionManager where
  connections := none
  pendingConnects := none
  eventReceivers := none
  control := .init
  made := []

variable (s : ConnectionManager)

def setConnection (i : ℕ) (c : DeviceConnection) : ConnectionManager :=
  { s with made := s.made.set i c }

/-- A connection is made in a place of its own. -/
def make (stage : ConnectionStage) : ConnectionManager :=
  { s with made := s.made ++ [.new stage] }

/-- `connection(for:)`, up to the `await`. -/
def connection : ConnectionManager :=
  if s.connections.isSome then s
  else if s.pendingConnects.isSome then s
  else { s.make .created with pendingConnects := some s.made.length }

/-- The pending task is taken away and cancelled. -/
def cancelPendingConnect : ConnectionManager :=
  match s.pendingConnects with
  | none => s
  | some i =>
    { s with pendingConnects := none, made := s.made.modify i .cancel }

def disconnect : ConnectionManager :=
  let s := s.cancelPendingConnect
  let s := { s with control := s.control.closeControlStream }
  match s.connections with
  | none => s
  | some i =>
    { s with
      connections := none
      eventReceivers := none
      made := s.made.modify i fun c =>
        { c with hasReceiver := c.hasReceiver && s.eventReceivers != some i, isStopped := true } }

/-- The connection takes the place of what is cached. -/
def cache (i : ℕ) (c : DeviceConnection) : ConnectionManager :=
  { s.setConnection i c with
    connections := some i
    eventReceivers := some i
    control := s.control.openControlStream }

def handleConnectionClosed : ConnectionManager :=
  { s with
    control := s.control.closeControlStream
    connections := none
    eventReceivers := none }

/-- Nothing is pending any more. -/
def takePending : ConnectionManager := { s with pendingConnects := none }

/-- The task goes on after `connectAsync`. -/
def connectAsync (i : ℕ) (c : DeviceConnection) (receiverOk : Bool) :
    ConnectResult → ConnectionManager
  | .failed => s.setConnection i { c with stage := .failed }
  | .timedOut => s.setConnection i { c with stage := .failed, isStopped := true }
  | .connected =>
    let c := { c with isConnected := true }
    if c.isCancelled then s.setConnection i { c with stage := .failed }
    else if s.pendingConnects ≠ some i then
      s.setConnection i { c with stage := .failed, isStopped := true }
    else if !receiverOk then s.setConnection i { c with stage := .failed }
    else
      -- The second guard finds what the first has found.
      s.takePending.cache i { c with stage := .finished, hasReceiver := true }

/-- `connectForPairing` goes on after `connectAsync`. -/
def connectAsyncForPairing (i : ℕ) (c : DeviceConnection) : ConnectResult → ConnectionManager
  | .failed => s.setConnection i { c with stage := .finished }
  | .timedOut => s.setConnection i { c with stage := .finished, isStopped := true }
  | .connected => s.setConnection i { c with stage := .handedOut, isConnected := true }

/-- What is done with a connection; `none` when it is not there for that. -/
def connectionStep (i : ℕ) (c : DeviceConnection) : ManagerAction → Option ConnectionManager
  | .createConnection _ ok =>
    if c.stage = .created then
      -- A task that is cancelled already has its handler called at once.
      some (s.setConnection i
        (if ok then { c with stage := .connecting, isStopped := c.isCancelled }
         else { c with stage := .failed }))
    else none
  | .connectAsync _ result receiverOk =>
    if c.stage = .connecting then some (s.connectAsync i c receiverOk result) else none
  | .catchError _ =>
    if c.stage = .failed then
      let s := s.setConnection i { c with stage := .finished }
      some (if s.pendingConnects = some i then s.takePending else s)
    else none
  | .connectAsyncForPairing _ result =>
    if c.stage = .pairing then some (s.connectAsyncForPairing i c result) else none
  | .cancelPairing _ =>
    if c.stage = .pairing then some (s.setConnection i { c with isStopped := true }) else none
  | .adoptConnection _ receiverOk =>
    if c.stage = .handedOut then
      some (s.cache i { c with stage := .finished, hasReceiver := receiverOk })
    else none
  | .abandonPairing _ =>
    if c.stage = .handedOut then
      some (s.setConnection i { c with stage := .finished, isStopped := true })
    else none
  | .onEvent _ =>
    if c.stage = .created ∨ c.isClosed then none
    else some (s.setConnection i { c with isClosed := true, closedEvent := c.hasReceiver })
  | .handleConnectionClosed _ =>
    if c.closedEvent then
      some (s.setConnection i { c with closedEvent := false }).handleConnectionClosed
    else none
  | .connection | .disconnect | .cancelPendingConnect | .connectForPairing _ | .control _ => none

/-- One step; `none` when it cannot be taken. -/
def step (swift : SwiftCbor) (s : ConnectionManager) (a : ManagerAction) :
    Option ConnectionManager :=
  match a with
  | .connection => some s.connection
  | .disconnect => some s.disconnect
  | .cancelPendingConnect => some s.cancelPendingConnect
  | .connectForPairing ok => some (if ok then s.make .pairing else s)
  | .control a =>
    if a.task.isSome then (s.control.step swift a).map fun control => { s with control := control }
    else none
  | .createConnection i _ | .connectAsync i _ _ | .catchError i | .connectAsyncForPairing i _
  | .cancelPairing i | .adoptConnection i _ | .abandonPairing i | .onEvent i
  | .handleConnectionClosed i => s.made[i]?.bind fun c => s.connectionStep i c a

/-! ## What the cache is to be -/

/-- Every connection that has connected, and is not its caller's, is the cached one or is down. -/
def NoneLeft (s : ConnectionManager) : Prop :=
  ∀ i c, s.made[i]? = some c → c.isConnected = true → c.stage ≠ .handedOut →
    s.connections = some i ∨ c.IsDown

/-- A `CLOSED` event leaves another connection that is cached alone, and what belongs to it. -/
def StaleClosedHarmless (swift : SwiftCbor) (s : ConnectionManager) (a : ManagerAction) : Prop :=
  ∀ i j s', a = .handleConnectionClosed i → s.connections = some j → j ≠ i →
    step swift s a = some s' → s'.connections = s.connections
      ∧ s'.eventReceivers = s.eventReceivers ∧ s'.control.entries = s.control.entries

/-- Nothing is cached that is up. -/
def CacheDown (s : ConnectionManager) : Prop :=
  ∀ i c, s.connections = some i → s.made[i]? = some c → c.IsDown

/-- A connection is cached only where none is cached that is up; no receiver is refused by a
connection that is up; and a `CLOSED` event is handled only while no other connection is cached. -/
def LosesNothing (s : ConnectionManager) : ManagerAction → Prop
  | .connectAsync i .connected receiverOk =>
    ∀ c, s.made[i]? = some c → c.stage = .connecting → c.isCancelled = false →
      s.pendingConnects = some i → if receiverOk = true then s.CacheDown else c.IsDown
  | .adoptConnection i _ =>
    ∀ c, s.made[i]? = some c → c.stage = .handedOut → s.CacheDown
  | .handleConnectionClosed i =>
    ∀ c, s.made[i]? = some c → c.closedEvent = true → ∀ j, s.connections = some j → j = i
  | .connectAsync _ .failed _ | .connectAsync _ .timedOut _ | .connection | .createConnection _ _
  | .catchError _ | .disconnect | .cancelPendingConnect | .connectForPairing _
  | .connectAsyncForPairing _ _ | .cancelPairing _ | .abandonPairing _ | .onEvent _ | .control _ =>
    True

/-- The invariant. -/
structure Coherent (s : ConnectionManager) : Prop where
  sound : ∀ (i : ℕ) (c : DeviceConnection), s.made[i]? = some c → c.Sound
  cached : ∀ i, s.connections = some i →
    ∃ c, s.made[i]? = some c ∧ c.isConnected = true ∧ c.stage = .finished
  noneLeft : s.NoneLeft

section
variable {s s' : ConnectionManager} {i : ℕ} {c c' : DeviceConnection}

theorem coherent_init : Coherent init :=
  { sound := fun _ _ => nofun
    cached := nofun
    noneLeft := fun _ _ => nofun }

theorem made_setConnection (hc : s.made[i]? = some c) (c' : DeviceConnection) (j : ℕ) :
    (s.setConnection i c').made[j]? = if j = i then some c' else s.made[j]? :=
  Entries.getElem?_set hc c' j

theorem made_make (s : ConnectionManager) (stage : ConnectionStage) (j : ℕ) :
    (s.make stage).made[j]? = if j = s.made.length then some (.new stage) else s.made[j]? :=
  Entries.getElem?_concat s.made (.new stage) j

/-! ### What changes one connection -/

theorem Coherent.congr (h : s.Coherent) (hmade : s'.made = s.made)
    (hconnections : s'.connections = s.connections) : s'.Coherent where
  sound := by
    rw [hmade]
    exact h.sound
  cached := by
    rw [hmade, hconnections]
    exact h.cached
  noneLeft := by
    rw [NoneLeft, hmade, hconnections]
    exact h.noneLeft

/-- One connection changes, and perhaps what is cached. -/
theorem Coherent.update (h : s.Coherent)
    (hmade : ∀ j, s'.made[j]? = if j = i then some c' else s.made[j]?) (hsound : c'.Sound)
    (hcached : ∀ j, s'.connections = some j →
      j = i ∧ c'.isConnected = true ∧ c'.stage = .finished ∨ j ≠ i ∧ s.connections = some j)
    (hleft : c'.isConnected = true → c'.stage ≠ .handedOut → s'.connections = some i ∨ c'.IsDown)
    (hothers : ∀ j c, j ≠ i → s.connections = some j → s.made[j]? = some c →
      s'.connections = some j ∨ c.IsDown) : s'.Coherent where
  sound := by
    intro j u hu
    rw [hmade] at hu
    split_ifs at hu with hij
    · exact Option.some.inj hu ▸ hsound
    · exact h.sound j u hu
  cached := by
    intro j hj
    obtain ⟨rfl, hconnected, hstage⟩ | ⟨hij, hj⟩ := hcached j hj
    · exact ⟨c', by rw [hmade, if_pos rfl], hconnected, hstage⟩
    · obtain ⟨u, hu, hu'⟩ := h.cached j hj
      exact ⟨u, by rw [hmade, if_neg hij, hu], hu'⟩
  noneLeft := by
    intro j u hu hconnected hstage
    rw [hmade] at hu
    split_ifs at hu with hij
    · obtain rfl := Option.some.inj hu
      exact hij ▸ hleft hconnected hstage
    · obtain hj | hdown := h.noneLeft j u hu hconnected hstage
      · exact hothers j u hij hj hu
      · exact Or.inr hdown

/-- A connection that is still being made, or is its caller's, is not the cached one. -/
theorem Coherent.not_cached (h : s.Coherent) (hc : s.made[i]? = some c)
    (hstage : c.stage ≠ .finished) : s.connections ≠ some i := by
  intro hi
  obtain ⟨u, hu, -, hfinished⟩ := h.cached i hi
  exact hstage (Option.some.inj (hc.symm.trans hu) ▸ hfinished)

/-- A connection that is not the cached one changes. -/
theorem Coherent.setConnection (h : s.Coherent) (hc : s.made[i]? = some c)
    (hstage : c.stage ≠ .finished) (hsound : c'.Sound)
    (hdown : c'.isConnected = true → c'.stage ≠ .handedOut → c'.IsDown) :
    (s.setConnection i c').Coherent := by
  refine h.update (made_setConnection hc c') hsound (fun j hj => ?_)
    (fun hconnected hleft => Or.inr (hdown hconnected hleft)) fun j _ _ hj _ => Or.inl hj
  exact Or.inr ⟨fun hij => h.not_cached hc hstage (hij ▸ hj), hj⟩

/-- A connection goes down, or its task is told something, and what is cached stays. -/
theorem Coherent.adjust (h : s.Coherent) (hc : s.made[i]? = some c)
    (hmade : ∀ j, s'.made[j]? = if j = i then some c' else s.made[j]?)
    (hconnections : s'.connections = s.connections) (hsound : c'.Sound)
    (hconnected : c'.isConnected = c.isConnected) (hstage : c'.stage = c.stage)
    (hdown : c.IsDown → c'.IsDown) : s'.Coherent := by
  refine h.update hmade hsound (fun j hj => ?_) ?_ ?_
  · rw [hconnections] at hj
    by_cases hij : j = i
    · obtain ⟨u, hu, hu'⟩ := h.cached i (hij ▸ hj)
      obtain rfl := Option.some.inj (hc.symm.trans hu)
      exact Or.inl ⟨hij, hconnected.trans hu'.1, hstage.trans hu'.2⟩
    · exact Or.inr ⟨hij, hj⟩
  · rw [hconnected, hstage, hconnections]
    intro hup hleft
    exact (h.noneLeft i c hc hup hleft).imp_right hdown
  · rw [hconnections]
    exact fun _ _ _ hj _ => Or.inl hj

/-- A connection that is made has a place of its own, and has not connected. -/
theorem Coherent.make (h : s.Coherent) (stage : ConnectionStage) (hstage : stage ≠ .handedOut) :
    (s.make stage).Coherent := by
  refine h.update (made_make s stage) ⟨nofun, fun hsame => absurd hsame hstage, fun _ => nofun,
    nofun⟩
    (fun j hj => Or.inr ⟨?_, hj⟩) nofun fun _ _ _ hj _ => Or.inl hj
  obtain ⟨u, hu, -⟩ := h.cached j hj
  exact (List.getElem?_eq_some_iff.mp hu).1.ne

/-! ### Operations -/

theorem Coherent.connection (h : s.Coherent) : s.connection.Coherent := by
  rw [ConnectionManager.connection]
  split_ifs
  · exact h
  · exact h
  · exact (h.make .created nofun).congr rfl rfl

theorem Coherent.cancelPendingConnect (h : s.Coherent) : s.cancelPendingConnect.Coherent := by
  rw [ConnectionManager.cancelPendingConnect]
  split
  · exact h
  · next i hpending =>
    cases hc : s.made[i]? with
    | none =>
      rw [List.modify_eq_self (List.getElem?_eq_none_iff.mp hc)]
      exact h.congr rfl rfl
    | some c =>
      exact h.adjust hc (Entries.getElem?_modify hc _) rfl (h.sound i c hc).cancel rfl rfl
        (Or.imp_left fun hstopped => by simp [DeviceConnection.cancel, hstopped])

theorem Coherent.disconnect (h : s.Coherent) : s.disconnect.Coherent := by
  have hcancelled := h.cancelPendingConnect
  rw [ConnectionManager.disconnect]
  split
  · exact hcancelled.congr rfl rfl
  · next i hi =>
    obtain ⟨c, hc, hc'⟩ := hcancelled.cached i hi
    have hsound := hcancelled.sound i c hc
    refine hcancelled.update (Entries.getElem?_modify hc _) ⟨hsound.connected, hsound.handedOut,
      fun _ _ => rfl, hsound.closed⟩ nofun (fun _ _ => Or.inr (Or.inl rfl)) fun j u hij hj _ => ?_
    exact absurd (Option.some.inj (hj.symm.trans hi)) hij

/-- A connection is cached where nothing is cached that is up. -/
theorem Coherent.cache (h : s.Coherent) (hc : s.made[i]? = some c) (hdown : s.CacheDown)
    (hsound : c'.Sound) (hconnected : c'.isConnected = true) (hstage : c'.stage = .finished) :
    (s.cache i c').Coherent := by
  refine h.update (made_setConnection hc c') hsound (fun j hj => ?_) (fun _ _ => Or.inl rfl)
    fun j u _ hj hu => Or.inr (hdown j u hj hu)
  exact Or.inl ⟨(Option.some.inj hj).symm, hconnected, hstage⟩

/-- The task goes on after `connectAsync`. -/
theorem Coherent.connectAsync (h : s.Coherent) (hc : s.made[i]? = some c)
    (hstage : c.stage = .connecting) {result : ConnectResult} {receiverOk : Bool}
    (hloses : LosesNothing s (.connectAsync i result receiverOk)) :
    (s.connectAsync i c receiverOk result).Coherent := by
  have hsound := h.sound i c hc
  have hmaking : c.stage ≠ .finished := by simp [hstage]
  have hup : c.isConnected ≠ true := fun hconnected => (hsound.connected hconnected).2.1 hstage
  cases result with
  | failed =>
    exact h.setConnection hc hmaking (.of_settled (.inl rfl) hsound.closed)
      fun hconnected => absurd hconnected hup
  | timedOut =>
    exact h.setConnection hc hmaking (.of_settled (.inl rfl) hsound.closed) fun _ _ => Or.inl rfl
  | connected =>
    rw [ConnectionManager.connectAsync]
    dsimp only
    split_ifs with hcancelled hpending hrefused
    · exact h.setConnection hc hmaking (.of_settled (.inl rfl) hsound.closed)
        fun _ _ => Or.inl (hsound.cancelled hstage hcancelled)
    · exact h.setConnection hc hmaking (.of_settled (.inl rfl) hsound.closed) fun _ _ => Or.inl rfl
    · have hdown := hloses c hc hstage (eq_false_of_ne_true hcancelled) (not_not.mp hpending)
      rw [if_neg (by simpa using hrefused)] at hdown
      exact h.setConnection hc hmaking (.of_settled (.inl rfl) hsound.closed) fun _ _ => hdown
    · have hdown := hloses c hc hstage (eq_false_of_ne_true hcancelled) (not_not.mp hpending)
      rw [if_pos (by simpa using hrefused)] at hdown
      have hs : s.takePending.Coherent := h.congr rfl rfl
      exact hs.cache hc hdown (.of_settled (.inr rfl) hsound.closed) rfl rfl

/-- `connectForPairing` goes on after `connectAsync`. -/
theorem Coherent.connectAsyncForPairing (h : s.Coherent) (hc : s.made[i]? = some c)
    (hstage : c.stage = .pairing) (result : ConnectResult) :
    (s.connectAsyncForPairing i c result).Coherent := by
  have hsound := h.sound i c hc
  have hmaking : c.stage ≠ .finished := by simp [hstage]
  have hup : c.isConnected ≠ true := fun hconnected => (hsound.connected hconnected).2.2 hstage
  cases result with
  | failed =>
    exact h.setConnection hc hmaking (.of_settled (.inr rfl) hsound.closed)
      fun hconnected => absurd hconnected hup
  | timedOut =>
    exact h.setConnection hc hmaking (.of_settled (.inr rfl) hsound.closed) fun _ _ => Or.inl rfl
  | connected =>
    refine h.setConnection hc hmaking ⟨fun _ => ⟨nofun, nofun, nofun⟩, fun _ => rfl, nofun,
      hsound.closed⟩ fun _ hleft => absurd rfl hleft

/-- A `CLOSED` event is handled while nothing else is cached. -/
theorem Coherent.handleConnectionClosed (h : s.Coherent) (hc : s.made[i]? = some c)
    (hevent : c.closedEvent = true) (hloses : LosesNothing s (.handleConnectionClosed i)) :
    (s.setConnection i { c with closedEvent := false }).handleConnectionClosed.Coherent := by
  have hsound := h.sound i c hc
  refine h.update (made_setConnection hc { c with closedEvent := false })
    ⟨hsound.connected, hsound.handedOut, hsound.cancelled, nofun⟩ nofun
    (fun _ _ => Or.inr (Or.inr (hsound.closed hevent))) fun j _ hij hj _ => ?_
  exact absurd (hloses c hc hevent j hj) hij

/-- What is done with one connection loses nothing if it takes the place of nothing that is up. -/
theorem Coherent.connectionStep {a : ManagerAction} (h : s.Coherent) (hc : s.made[i]? = some c)
    (hi : a.number = some i) (hloses : LosesNothing s a)
    (hstep : s.connectionStep i c a = some s') :
    s'.Coherent := by
  have hsound := h.sound i c hc
  cases a with
  | connection => exact nomatch hi
  | disconnect => exact nomatch hi
  | cancelPendingConnect => exact nomatch hi
  | connectForPairing ok => exact nomatch hi
  | control a => exact nomatch hi
  | createConnection j ok =>
    obtain ⟨hstage, ⟨⟩⟩ := Option.ite_none_right_eq_some.mp hstep
    have hup : c.isConnected ≠ true := fun hconnected => (hsound.connected hconnected).1 hstage
    split_ifs
    · refine h.setConnection hc (by simp [hstage]) ⟨fun hconnected => absurd hconnected hup, nofun,
        fun _ hcancelled => hcancelled, hsound.closed⟩ fun hconnected => absurd hconnected hup
    · exact h.setConnection hc (by simp [hstage]) (.of_settled (.inl rfl) hsound.closed)
        fun hconnected => absurd hconnected hup
  | connectAsync j result receiverOk =>
    obtain rfl := Option.some.inj hi
    obtain ⟨hstage, ⟨⟩⟩ := Option.ite_none_right_eq_some.mp hstep
    exact h.connectAsync hc hstage hloses
  | catchError j =>
    obtain ⟨hstage, ⟨⟩⟩ := Option.ite_none_right_eq_some.mp hstep
    have hset : (s.setConnection i { c with stage := .finished }).Coherent := by
      refine h.setConnection hc (by simp [hstage]) (.of_settled (.inr rfl) hsound.closed) ?_
      intro hconnected _
      refine (h.noneLeft i c hc hconnected (by simp [hstage])).resolve_left ?_
      exact h.not_cached hc (by simp [hstage])
    split_ifs
    · exact hset.congr rfl rfl
    · exact hset
  | connectAsyncForPairing j result =>
    obtain ⟨hstage, ⟨⟩⟩ := Option.ite_none_right_eq_some.mp hstep
    exact h.connectAsyncForPairing hc hstage result
  | cancelPairing j =>
    obtain ⟨hstage, ⟨⟩⟩ := Option.ite_none_right_eq_some.mp hstep
    exact h.adjust hc (made_setConnection hc _) rfl ⟨hsound.connected, hsound.handedOut,
      fun _ _ => rfl, hsound.closed⟩ rfl rfl fun _ => Or.inl rfl
  | adoptConnection j receiverOk =>
    obtain rfl := Option.some.inj hi
    obtain ⟨hstage, ⟨⟩⟩ := Option.ite_none_right_eq_some.mp hstep
    exact h.cache hc (hloses c hc hstage) (.of_settled (.inr rfl) hsound.closed)
      (hsound.handedOut hstage) rfl
  | abandonPairing j =>
    obtain ⟨hstage, ⟨⟩⟩ := Option.ite_none_right_eq_some.mp hstep
    exact h.setConnection hc (by simp [hstage]) (.of_settled (.inr rfl) hsound.closed)
      fun _ _ => Or.inl rfl
  | onEvent j =>
    obtain ⟨-, ⟨⟩⟩ := Option.ite_none_left_eq_some.mp hstep
    exact h.adjust hc (made_setConnection hc _) rfl ⟨hsound.connected, hsound.handedOut,
      hsound.cancelled, fun _ => rfl⟩ rfl rfl fun _ => Or.inr rfl
  | handleConnectionClosed j =>
    obtain rfl := Option.some.inj hi
    obtain ⟨hevent, ⟨⟩⟩ := Option.ite_none_right_eq_some.mp hstep
    exact h.handleConnectionClosed hc hevent hloses

/-! ### Every step -/

section
variable {a : ManagerAction} {swift : SwiftCbor}

/-- The step of one connection. -/
theorem step_of_number (hi : a.number = some i) :
    step swift s a = s.made[i]?.bind fun c => s.connectionStep i c a := by
  cases a with
  | connection => exact nomatch hi
  | disconnect => exact nomatch hi
  | cancelPendingConnect => exact nomatch hi
  | connectForPairing ok => exact nomatch hi
  | control a => exact nomatch hi
  | _ =>
    obtain rfl := Option.some.inj hi
    rfl

theorem coherent_step (h : s.Coherent) (hloses : LosesNothing s a)
    (hstep : step swift s a = some s') : s'.Coherent := by
  cases hnumber : a.number with
  | some i =>
    rw [step_of_number hnumber] at hstep
    obtain ⟨c, hc, hstep⟩ := Option.bind_eq_some_iff.mp hstep
    exact h.connectionStep hc hnumber hloses hstep
  | none =>
    cases a with
    | connection => exact Option.some.inj hstep ▸ h.connection
    | disconnect => exact Option.some.inj hstep ▸ h.disconnect
    | cancelPendingConnect => exact Option.some.inj hstep ▸ h.cancelPendingConnect
    | connectForPairing ok =>
      rw [← Option.some.inj hstep]
      split_ifs
      · exact h.make .pairing nofun
      · exact h
    | control a =>
      obtain ⟨-, hstep⟩ := Option.ite_none_right_eq_some.mp hstep
      obtain ⟨control, -, rfl⟩ := Option.map_eq_some_iff.mp hstep
      exact h.congr rfl rfl
    | _ => exact nomatch hnumber

theorem staleClosedHarmless_step (hloses : LosesNothing s a) : StaleClosedHarmless swift s a := by
  rintro i j s' rfl hj hij hstep
  rw [step_of_number rfl] at hstep
  obtain ⟨c, hc, hstep⟩ := Option.bind_eq_some_iff.mp hstep
  obtain ⟨hevent, -⟩ := Option.ite_none_right_eq_some.mp hstep
  exact absurd (hloses c hc hevent j hj) hij

/-- Caching leaves what was cached behind. -/
theorem cacheDown_of_noneLeft (h : s.Coherent) (hc : s.made[i]? = some c)
    (hstage : c.stage ≠ .finished) (hleft : (s.cache i c').NoneLeft) : s.CacheDown := by
  intro j u hj hu
  have hij : j ≠ i := fun hij => h.not_cached hc hstage (hij ▸ hj)
  obtain ⟨v, hv, hconnected, hfinished⟩ := h.cached j hj
  obtain rfl := Option.some.inj (hu.symm.trans hv)
  have hmade : (s.cache i c').made[j]? = some u :=
    (made_setConnection hc c' j).trans ((if_neg hij).trans hu)
  refine (hleft j u hmade hconnected (by simp [hfinished])).resolve_left fun hcached => ?_
  exact hij (Option.some.inj hcached).symm

/-- The task that is pending goes on once it has connected. -/
theorem connectAsync_of_pending {receiverOk : Bool} (hlive : c.isCancelled = false)
    (hpending : s.pendingConnects = some i) :
    s.connectAsync i c receiverOk .connected
      = if receiverOk then
          s.takePending.cache i
            { c with isConnected := true, stage := .finished, hasReceiver := true }
        else s.setConnection i { c with isConnected := true, stage := .failed } := by
  rw [ConnectionManager.connectAsync]
  dsimp only
  rw [if_neg (by simp [hlive]), if_neg (by simp [hpending])]
  cases receiverOk with
  | true => rfl
  | false => rfl

/-- A step that loses something leaves a connection behind, or drops one that it is not about. -/
theorem losesNothing_of_good (h : s.Coherent) (hstep : step swift s a = some s')
    (hleft : s'.NoneLeft) (hstale : StaleClosedHarmless swift s a) : LosesNothing s a := by
  cases a with
  | connectAsync i result receiverOk =>
    cases result with
    | failed => trivial
    | timedOut => trivial
    | connected =>
      intro c hc hstage hlive hpending
      have hmaking : c.stage ≠ .finished := by simp [hstage]
      have hresult : s' = s.connectAsync i c receiverOk .connected := by
        rw [step_of_number rfl, hc] at hstep
        exact (Option.some.inj ((if_pos hstage).symm.trans hstep)).symm
      rw [hresult, connectAsync_of_pending hlive hpending] at hleft
      cases receiverOk with
      | true =>
        have hs : s.takePending.Coherent := h.congr rfl rfl
        have hdown : s.takePending.CacheDown := cacheDown_of_noneLeft hs hc hmaking hleft
        exact hdown
      | false =>
        refine (hleft i { c with isConnected := true, stage := .failed } ?_ rfl nofun).resolve_left
          ?_
        · exact (made_setConnection hc _ i).trans (if_pos rfl)
        · exact h.not_cached hc hmaking
  | adoptConnection i receiverOk =>
    intro c hc hstage
    rw [step_of_number rfl, hc] at hstep
    rw [← Option.some.inj ((if_pos hstage).symm.trans hstep)] at hleft
    exact cacheDown_of_noneLeft h hc (by simp [hstage]) hleft
  | handleConnectionClosed i =>
    intro c hc hevent j hj
    by_contra hij
    have hkept := (hstale i j s' rfl hj hij hstep).1
    rw [step_of_number rfl, hc] at hstep
    rw [← Option.some.inj ((if_pos hevent).symm.trans hstep), hj] at hkept
    exact nomatch hkept
  | _ => trivial

/-! ### The control streams in it -/

theorem control_cancelPendingConnect (s : ConnectionManager) :
    s.cancelPendingConnect.control = s.control := by
  rw [ConnectionManager.cancelPendingConnect]
  split
  · rfl
  · rfl

theorem control_disconnect (s : ConnectionManager) :
    s.disconnect.control = s.control.closeControlStream := by
  rw [← control_cancelPendingConnect s, ConnectionManager.disconnect]
  split
  · rfl
  · rfl

/-- Caching opens a control stream, and otherwise a task has nothing to do with them. -/
theorem control_connectAsync (result : ConnectResult) (receiverOk : Bool) :
    (s.connectAsync i c receiverOk result).control = s.control
      ∨ (s.connectAsync i c receiverOk result).control = s.control.openControlStream := by
  cases result with
  | failed => exact Or.inl rfl
  | timedOut => exact Or.inl rfl
  | connected =>
    rw [ConnectionManager.connectAsync]
    dsimp only
    split_ifs
    · exact Or.inl rfl
    · exact Or.inl rfl
    · exact Or.inl rfl
    · exact Or.inr rfl

/-- What a step does to the control streams is a step of theirs, or nothing. -/
theorem run_control_of_step (hstep : step swift s a = some s') :
    ∃ as, Guarded.run (ControlStreams.step swift) s.control as = some s'.control := by
  have hsame {s' : ConnectionManager} (h : s'.control = s.control) :
      ∃ as, Guarded.run (ControlStreams.step swift) s.control as = some s'.control :=
    ⟨[], congrArg some h.symm⟩
  have hopen {s' : ConnectionManager} (h : s'.control = s.control.openControlStream) :
      ∃ as, Guarded.run (ControlStreams.step swift) s.control as = some s'.control :=
    ⟨[.openControlStream], congrArg some h.symm⟩
  have hclose {s' : ConnectionManager} (h : s'.control = s.control.closeControlStream) :
      ∃ as, Guarded.run (ControlStreams.step swift) s.control as = some s'.control :=
    ⟨[.closeControlStream], congrArg some h.symm⟩
  cases hnumber : a.number with
  | some i =>
    rw [step_of_number hnumber] at hstep
    obtain ⟨c, -, hstep⟩ := Option.bind_eq_some_iff.mp hstep
    cases a with
    | createConnection j ok =>
      obtain ⟨-, ⟨⟩⟩ := Option.ite_none_right_eq_some.mp hstep
      exact hsame rfl
    | connectAsync j result receiverOk =>
      obtain ⟨-, ⟨⟩⟩ := Option.ite_none_right_eq_some.mp hstep
      obtain h | h := control_connectAsync (s := s) (i := i) (c := c) result receiverOk
      · exact hsame h
      · exact hopen h
    | catchError j =>
      obtain ⟨-, ⟨⟩⟩ := Option.ite_none_right_eq_some.mp hstep
      refine hsame ?_
      split_ifs
      · rfl
      · rfl
    | connectAsyncForPairing j result =>
      obtain ⟨-, ⟨⟩⟩ := Option.ite_none_right_eq_some.mp hstep
      cases result with
      | connected => exact hsame rfl
      | failed => exact hsame rfl
      | timedOut => exact hsame rfl
    | cancelPairing j =>
      obtain ⟨-, ⟨⟩⟩ := Option.ite_none_right_eq_some.mp hstep
      exact hsame rfl
    | adoptConnection j receiverOk =>
      obtain ⟨-, ⟨⟩⟩ := Option.ite_none_right_eq_some.mp hstep
      exact hopen rfl
    | abandonPairing j =>
      obtain ⟨-, ⟨⟩⟩ := Option.ite_none_right_eq_some.mp hstep
      exact hsame rfl
    | onEvent j =>
      obtain ⟨-, ⟨⟩⟩ := Option.ite_none_left_eq_some.mp hstep
      exact hsame rfl
    | handleConnectionClosed j =>
      obtain ⟨-, ⟨⟩⟩ := Option.ite_none_right_eq_some.mp hstep
      exact hclose rfl
    | _ => exact nomatch hnumber
  | none =>
    cases a with
    | connection =>
      obtain rfl := Option.some.inj hstep
      refine hsame ?_
      rw [ConnectionManager.connection]
      split_ifs
      · rfl
      · rfl
      · rfl
    | disconnect => exact Option.some.inj hstep ▸ hclose (control_disconnect s)
    | cancelPendingConnect => exact Option.some.inj hstep ▸ hsame (control_cancelPendingConnect s)
    | connectForPairing ok =>
      rw [← Option.some.inj hstep]
      refine hsame ?_
      split_ifs
      · rfl
      · rfl
    | control a =>
      obtain ⟨-, hstep⟩ := Option.ite_none_right_eq_some.mp hstep
      obtain ⟨control, hcontrol, rfl⟩ := Option.map_eq_some_iff.mp hstep
      exact ⟨[a], (Guarded.run_cons_eq_some _).mpr ⟨control, hcontrol, rfl⟩⟩
    | _ => exact nomatch hnumber

/-- **The control streams of a manager run as they do on their own**, so what holds of their runs
holds of its. -/
theorem run_control {as : List ManagerAction} (h : Guarded.run (step swift) s as = some s') :
    ∃ bs, Guarded.run (ControlStreams.step swift) s.control bs = some s'.control := by
  induction as generalizing s with
  | nil => exact ⟨[], Option.some.inj h ▸ rfl⟩
  | cons a as ih =>
    obtain ⟨s₁, ha, hrest⟩ := (Guarded.run_cons_eq_some _).mp h
    obtain ⟨bs, hbs⟩ := run_control_of_step ha
    obtain ⟨bs', hbs'⟩ := ih hrest
    exact ⟨bs ++ bs', (Guarded.run_append_eq_some _).mpr ⟨_, hbs, hbs'⟩⟩

end

end

/-- **The connection cache.**  In a run, no `CLOSED` event of another connection touches what is
cached, and every connection that has connected and is not its caller's is cached, stopped or
closed, exactly if nothing is cached in the place of a connection that is up, no connection that is
up refuses its receiver, and no `CLOSED` event is handled while another connection is cached. -/
theorem connections_coherent_iff (swift : SwiftCbor) (as : List ManagerAction)
    (t : ConnectionManager) (h : Guarded.run (step swift) init as = some t) :
    Guarded.Throughout (step swift) NoneLeft init as
        ∧ Guarded.AllSteps (step swift) (StaleClosedHarmless swift) init as
      ↔ Guarded.AllSteps (step swift) LosesNothing init as :=
  Guarded.throughout_and_allSteps_iff (fun _ hs => hs.noneLeft)
    (fun _ _ _ hs hloses hstep => coherent_step hs hloses hstep)
    (fun _ _ _ hloses => staleClosedHarmless_step hloses)
    (fun _ _ _ hs hloses hstep hgood => hloses (losesNothing_of_good hs hstep hgood.1 hgood.2))
    coherent_init h

/-- A connection is made, and closes by itself. -/
def closesByItself : List ManagerAction :=
  [.connection, .createConnection 0 true, .connectAsync 0 .connected true, .onEvent 0,
    .handleConnectionClosed 0]

theorem connections_coherent_iff_closed :
    Guarded.Throughout (step referenceSwiftCbor) NoneLeft init closesByItself
      ∧ Guarded.AllSteps (step referenceSwiftCbor) (StaleClosedHarmless referenceSwiftCbor) init
        closesByItself := by
  refine (connections_coherent_iff referenceSwiftCbor closesByItself _ rfl).mpr ?_
  refine ⟨trivial, ?_⟩
  rintro _ ⟨⟩
  refine ⟨trivial, ?_⟩
  rintro _ ⟨⟩
  refine ⟨fun _ _ _ _ _ => fun _ _ => nofun, ?_⟩
  rintro _ ⟨⟩
  refine ⟨trivial, ?_⟩
  rintro _ ⟨⟩
  exact ⟨fun _ _ _ _ hj => (Option.some.inj hj).symm, fun _ _ => trivial⟩

/-- A device that is connected is paired again, and the first connection closes. -/
def pairedAgain : List ManagerAction :=
  [.connection, .createConnection 0 true, .connectAsync 0 .connected true, .connectForPairing true,
    .connectAsyncForPairing 1 .connected, .adoptConnection 1 true, .onEvent 0,
    .handleConnectionClosed 0]

/-- The end of the first connection takes the second from the cache, and leaves it up. -/
theorem stale_closed_drops_connection :
    ¬ ∀ (as : List ManagerAction) (t : ConnectionManager),
      Guarded.run (step referenceSwiftCbor) init as = some t →
        Guarded.Throughout (step referenceSwiftCbor) NoneLeft init as
          ∧ Guarded.AllSteps (step referenceSwiftCbor) (StaleClosedHarmless referenceSwiftCbor) init
            as := by
  intro hall
  have hrun : Guarded.run (step referenceSwiftCbor) init pairedAgain = some _ := rfl
  have hlast := (hall pairedAgain _ hrun).1.last hrun
  obtain hcached | hdown := hlast 1 _ rfl rfl nofun
  · exact nomatch hcached
  · exact hdown.elim nofun nofun

end ConnectionManager

end TmuxRemote
