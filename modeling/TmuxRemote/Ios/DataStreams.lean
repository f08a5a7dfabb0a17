import TmuxRemote.Library.Entries
import TmuxRemote.Library.Guarded

/-!
# Ios/DataStreams — the app's data streams and their read loops (`NabtoService.swift`)

`openStream` waits twice before it stores its stream and starts a read loop; `closeStream` and
`disconnect` retire the stream that is stored and cancel its loop.  A loop looks for a cancellation
before it waits and when a read has failed, not when a read has data; `openStream` looks neither for
what has happened while it waited nor for the stream that is stored already
(`superseded_unheard_iff`).

The steps are those of the main actor, from one `await` to the next.  Streams are numbered in the
order of the calls of `openStream`, read loops in the order in which they start; a screen stands for
the callbacks that it sets.
-/

namespace TmuxRemote

/-- Where the `openStream` of a stream waits. -/
inductive AppStreamStage
  /-- In `connection(for:)`. -/
  | connecting
  /-- In `openAsync`. -/
  | opening
  | opened
  | failed
  deriving DecidableEq

/-- A call of `openStream`, with its stream. -/
structure AppStream where
  stage : AppStreamStage
  /-- It has been closed or aborted. -/
  retired : Bool
  ended : Bool
  /-- `closeStream`, `disconnect` or a later `openStream` has run since the call, or another
  `openStream` has stored its stream over this one. -/
  superseded : Bool
  /-- `closeStream`, `disconnect` or a later `openStream` has run while the call waited. -/
  outlived : Bool
  deriving DecidableEq

/-- Where a read loop waits. -/
inductive ReadLoopStage
  | created
  /-- In `readSomeAsync` of a stream. -/
  | reading (stream : ℕ)
  | ended
  deriving DecidableEq

/-- The task of a read loop. -/
structure ReadLoop where
  isCancelled : Bool
  stage : ReadLoopStage
  deriving DecidableEq

/-- A callback that is called, with the screen that set it and the stream that it is about;
`superseded` says whether the stream was. -/
inductive ScreenCall
  | onStreamData (screen stream : ℕ) (bytes : List UInt8) (superseded : Bool)
  | onStreamClosed (screen stream : ℕ) (superseded : Bool)
  deriving DecidableEq

/-- The part of `NabtoService` that is about data streams. -/
structure AppStreams where
  stream : Option ℕ
  readTask : Option ℕ
  onStreamData : Option ℕ
  onStreamClosed : Option ℕ
  streams : List AppStream
  loops : List ReadLoop
  calls : List ScreenCall
  deriving DecidableEq

/-- A step of the main actor, or the end of a stream. -/
inductive AppStreamAction
  | openStream
  /-- `connection(for:)` returns; whether it has a connection on which `createStream` succeeds. -/
  | connection (n : ℕ) (ok : Bool)
  /-- `openAsync` returns. -/
  | openAsync (n : ℕ) (ok : Bool)
  | closeStream
  | disconnect (keepConnection : Bool)
  | setOnStreamData (screen : ℕ)
  | setOnStreamClosed (screen : ℕ)
  /-- A read loop gets to run. -/
  | startLoop (i : ℕ)
  /-- `readSomeAsync` returns with data. -/
  | readData (i : ℕ) (bytes : List UInt8)
  | readFails (i : ℕ)
  /-- The other side ends the stream. -/
  | streamEnds (n : ℕ)
  deriving DecidableEq

namespace AppStream

/-- A call of `openStream`. -/
def new : AppStream :=
  { stage := .connecting, retired := false, ended := false, superseded := false, outlived := false }

/-- The call is at one of its two waits. -/
def waits (st : AppStream) : Bool := st.stage = .connecting || st.stage = .opening

/-- What `closeStream` and `disconnect` do to stream `n`. -/
def closed (stream : Option ℕ) (n : ℕ) (st : AppStream) : AppStream :=
  { st with
    retired := st.retired || stream = some n
    superseded := true
    outlived := st.outlived || st.waits }

/-- What becomes of stream `n` when stream `i` is stored. -/
def stored (i n : ℕ) (st : AppStream) : AppStream :=
  if n = i then { st with stage := .opened }
  else { st with
    superseded := st.superseded || st.stage = .opened || n < i
    outlived := st.outlived || n < i && st.waits }

section
variable {i n : ℕ} {st : AppStream}

@[simp] theorem stored_self : (st.stored n n).stage = .opened := by simp [stored]

theorem stage_stored (h : n ≠ i) : (st.stored i n).stage = st.stage := by simp [stored, h]

@[simp] theorem retired_stored : (st.stored i n).retired = st.retired := by
  unfold stored
  split <;> rfl

@[simp] theorem ended_stored : (st.stored i n).ended = st.ended := by
  unfold stored
  split <;> rfl

end

end AppStream

/-- `readTask?.cancel()`, for loop `i`. -/
def ReadLoop.cancel (readTask : Option ℕ) (i : ℕ) (loop : ReadLoop) : ReadLoop :=
  { loop with isCancelled := loop.isCancelled || readTask = some i }

namespace AppStreams

/-- No stream has been opened. -/
def init : AppStreams :=
  { stream := none, readTask := none, onStreamData := none, onStreamClosed := none, streams := [],
    loops := [], calls := [] }

variable (s : AppStreams)

def closeStream : AppStreams :=
  { s with
    readTask := none
    loops := s.loops.mapIdx (ReadLoop.cancel s.readTask)
    stream := none
    streams := s.streams.mapIdx (AppStream.closed s.stream) }

/-- With `keepConnection` the stream is closed, or aborted where that fails; else it is aborted. -/
def disconnect : AppStreams :=
  { s with onStreamClosed := none, onStreamData := none }.closeStream

def startReadLoop : AppStreams :=
  { s with
    readTask := some s.loops.length
    loops := s.loops.mapIdx (ReadLoop.cancel s.readTask) ++
      [{ isCancelled := false, stage := .created }] }

/-- The end of `openStream`. -/
def store (n : ℕ) : AppStreams :=
  { s with stream := some n, streams := s.streams.mapIdx (AppStream.stored n) }.startReadLoop

def setStage (n : ℕ) (st : AppStream) (stage : AppStreamStage) : AppStreams :=
  { s with streams := s.streams.set n { st with stage := stage } }

def setLoop (i : ℕ) (loop : ReadLoop) (stage : ReadLoopStage) : AppStreams :=
  { s with loops := s.loops.set i { loop with stage := stage } }

/-- A callback is called, if it is set. -/
def call (callback : Option ℕ) (make : ℕ → ScreenCall) : AppStreams :=
  { s with calls := s.calls ++ (callback.map make).toList }

/-- A read loop that waits for stream `n` goes on; `none` when it does not. -/
def loopStep (i : ℕ) (loop : ReadLoop) (n : ℕ) (st : AppStream) :
    AppStreamAction → Option AppStreams
  | .readData _ bytes =>
    -- Nothing is looked at between the read and the callback.
    some ((s.call s.onStreamData fun screen => .onStreamData screen n bytes st.superseded).setLoop i
      loop (if loop.isCancelled then .ended else .reading n))
  | .readFails _ =>
    if st.ended || st.retired || loop.isCancelled then
      some (if loop.isCancelled then s.setLoop i loop .ended
        else (s.call s.onStreamClosed fun screen =>
          .onStreamClosed screen n st.superseded).setLoop i
          loop .ended)
    else none
  | _ => none

/-- The loop and the stream that it reads. -/
def reader (i : ℕ) : Option (ReadLoop × ℕ × AppStream) :=
  s.loops[i]?.bind fun loop =>
    match loop.stage with
    | .reading n => s.streams[n]?.map fun st => (loop, n, st)
    | .created | .ended => none

/-- One step; `none` when it cannot be taken. -/
def step (s : AppStreams) : AppStreamAction → Option AppStreams
  | .openStream => some { s with streams := s.streams ++ [.new] }
  | .connection n ok =>
    s.streams[n]?.bind fun st =>
      if st.stage = .connecting then some (s.setStage n st (if ok then .opening else .failed))
      else none
  | .openAsync n ok =>
    s.streams[n]?.bind fun st =>
      if st.stage = .opening then some (if ok then s.store n else s.setStage n st .failed) else none
  | .closeStream => some s.closeStream
  | .disconnect _ => some s.disconnect
  | .setOnStreamData screen => some { s with onStreamData := some screen }
  | .setOnStreamClosed screen => some { s with onStreamClosed := some screen }
  | .startLoop i =>
    s.loops[i]?.bind fun loop =>
      if loop.stage = .created then
        -- The stream is the one that is stored when the loop gets to run.
        match s.stream with
        | none => some (s.setLoop i loop .ended)
        | some n => some (s.setLoop i loop (if loop.isCancelled then .ended else .reading n))
      else none
  | .readData i bytes =>
    (s.reader i).bind fun (loop, n, st) => s.loopStep i loop n st (.readData i bytes)
  | .readFails i => (s.reader i).bind fun (loop, n, st) => s.loopStep i loop n st (.readFails i)
  | .streamEnds n =>
    s.streams[n]?.map fun st => { s with streams := s.streams.set n { st with ended := true } }

end AppStreams

/-! ## What superseded streams are to leave alone -/

/-- No byte of a superseded stream is passed on, and its end is not announced. -/
def ScreenCall.Current : ScreenCall → Prop
  | onStreamData _ _ bytes superseded => superseded = false ∨ bytes = []
  | onStreamClosed _ _ superseded => superseded = false

instance : DecidablePred ScreenCall.Current
  | .onStreamData _ _ bytes superseded =>
    inferInstanceAs (Decidable (superseded = false ∨ bytes = []))
  | .onStreamClosed _ _ superseded => inferInstanceAs (Decidable (superseded = false))

namespace AppStreams

/-- Superseded streams are silent. -/
def Unheard (s : AppStreams) : Prop := ∀ call ∈ s.calls, call.Current

instance (s : AppStreams) : Decidable s.Unheard :=
  inferInstanceAs (Decidable (∀ call ∈ s.calls, call.Current))

/-- A stream that has been opened is stored, or over. -/
def Kept (s : AppStreams) : Prop :=
  ∀ n st, s.streams[n]? = some st → st.stage = .opened →
    s.stream = some n ∨ st.retired = true ∨ st.ended = true

/-- A stream is stored over none that lives; where a callback is set, a read that has data is of a
loop that is not cancelled and a stream that was not outlived, and so is one that fails if it is of
a loop that is not cancelled. -/
def Orderly (s : AppStreams) : AppStreamAction → Prop
  | .openAsync _ true =>
    ∀ n ∈ s.stream, ∀ st ∈ s.streams[n]?, st.retired = true ∨ st.ended = true
  | .readData i bytes =>
    ∀ reader ∈ s.reader i, s.onStreamData = none ∨ bytes = []
      ∨ reader.1.isCancelled = false ∧ reader.2.2.outlived = false
  | .readFails i =>
    ∀ reader ∈ s.reader i, s.onStreamClosed = none ∨ reader.1.isCancelled = true
      ∨ reader.2.2.outlived = false
  | .openAsync _ false | .openStream | .connection _ _ | .closeStream | .disconnect _
  | .setOnStreamData _ | .setOnStreamClosed _ | .startLoop _ | .streamEnds _ => True

instance (s : AppStreams) : DecidablePred s.Orderly
  | .openAsync _ true =>
    inferInstanceAs (Decidable (∀ n ∈ s.stream, ∀ st ∈ s.streams[n]?,
      st.retired = true ∨ st.ended = true))
  | .readData i bytes =>
    inferInstanceAs (Decidable (∀ reader ∈ s.reader i, s.onStreamData = none ∨ bytes = []
      ∨ reader.1.isCancelled = false ∧ reader.2.2.outlived = false))
  | .readFails i =>
    inferInstanceAs (Decidable (∀ reader ∈ s.reader i, s.onStreamClosed = none
      ∨ reader.1.isCancelled = true ∨ reader.2.2.outlived = false))
  | .openAsync _ false | .openStream | .connection _ _ | .closeStream | .disconnect _
  | .setOnStreamData _ | .setOnStreamClosed _ | .startLoop _ | .streamEnds _ =>
    inferInstanceAs (Decidable True)

/-- Cancellations and the stored stream agree with what is superseded. -/
structure Agreed (s : AppStreams) : Prop where
  stream : ∀ n, s.stream = some n → ∃ st, s.streams[n]? = some st ∧ st.stage = .opened
  superseded : ∀ n st, s.streams[n]? = some st → st.stage ≠ .failed →
    (st.superseded = true ↔ st.outlived = true ∨ st.stage = .opened ∧ s.stream ≠ some n)
  loops : ∀ (i : ℕ) (loop : ReadLoop), s.loops[i]? = some loop → loop.stage ≠ .ended →
    (loop.isCancelled = true ↔ s.readTask ≠ some i)
  reading : ∀ (i : ℕ) (loop : ReadLoop) (n : ℕ), s.loops[i]? = some loop →
    loop.stage = .reading n → (∃ st, s.streams[n]? = some st ∧ st.stage = .opened)
      ∧ (loop.isCancelled = true ↔ s.stream ≠ some n)

section
variable {s s' : AppStreams} {i n : ℕ} {st : AppStream} {loop : ReadLoop}

theorem Agreed.init : Agreed init :=
  ⟨nofun, fun _ _ h => (nomatch h), fun _ _ h => (nomatch h), fun _ _ _ h => (nomatch h)⟩

theorem reader_eq_some (h : s.reader i = some (loop, n, st)) :
    s.loops[i]? = some loop ∧ loop.stage = .reading n ∧ s.streams[n]? = some st := by
  obtain ⟨loop', hloop, h⟩ := Option.bind_eq_some_iff.mp h
  cases hstage : loop'.stage with
  | created | ended =>
    rw [hstage] at h
    cases h
  | reading m =>
    rw [hstage] at h
    obtain ⟨st', hst, heq⟩ := Option.map_eq_some_iff.mp h
    obtain ⟨rfl, rfl, rfl⟩ : loop' = loop ∧ m = n ∧ st' = st := by
      simpa only [Prod.mk.injEq] using heq
    exact ⟨hloop, hstage, hst⟩

theorem eq_of_reader {loop' : ReadLoop} {n' : ℕ} {st' : AppStream}
    (h : s.reader i = some (loop, n, st)) (h' : s.reader i = some (loop', n', st')) :
    loop = loop' ∧ n = n' ∧ st = st' := by
  simpa only [Prod.mk.injEq] using Option.some.inj (h.symm.trans h')

/-- **What a read loop knows.**  A stream that is being read is superseded if the loop is cancelled
or the stream was outlived while it was opened, and only then. -/
theorem Agreed.superseded_iff (h : s.Agreed) (hreader : s.reader i = some (loop, n, st)) :
    st.superseded = true ↔ loop.isCancelled = true ∨ st.outlived = true := by
  obtain ⟨hloop, hstage, hst⟩ := reader_eq_some hreader
  obtain ⟨⟨st', hst', hopened⟩, hcancelled⟩ := h.reading i loop n hloop hstage
  obtain rfl := Option.some.inj (hst.symm.trans hst')
  rw [h.superseded n st hst (by simp [hopened]), hcancelled, and_iff_right hopened, or_comm]

theorem Agreed.not_superseded_iff (h : s.Agreed) (hreader : s.reader i = some (loop, n, st)) :
    st.superseded = false ↔ loop.isCancelled = false ∧ st.outlived = false := by
  rw [← Bool.not_eq_true, h.superseded_iff hreader, not_or, Bool.not_eq_true, Bool.not_eq_true]

/-! ### What each step keeps -/

/-- Once the loop of `readTask` is cancelled all are. -/
theorem Agreed.isCancelled_cancel (h : s.Agreed) (hloop : s.loops[i]? = some loop)
    (hstage : loop.stage ≠ .ended) : (loop.cancel s.readTask i).isCancelled = true := by
  change (loop.isCancelled || decide (s.readTask = some i)) = true
  rw [Bool.or_eq_true, decide_eq_true_iff, h.loops i loop hloop hstage]
  exact (em (s.readTask = some i)).symm

theorem Agreed.closeStream (h : s.Agreed) : s.closeStream.Agreed where
  stream := nofun
  superseded m st' hst' hstage := by
    obtain ⟨st, -, rfl⟩ := Option.map_eq_some_iff.mp (List.getElem?_mapIdx ▸ hst')
    refine iff_of_true rfl ?_
    cases hst : st.stage with
    | connecting | opening => exact Or.inl (by simp [AppStream.closed, AppStream.waits, hst])
    | opened => exact Or.inr ⟨hst, nofun⟩
    | failed => exact absurd hst hstage
  loops j loop' hloop' hstage := by
    obtain ⟨loop, hloop, rfl⟩ := Option.map_eq_some_iff.mp (List.getElem?_mapIdx ▸ hloop')
    exact iff_of_true (h.isCancelled_cancel hloop hstage) nofun
  reading j loop' m hloop' hstage := by
    obtain ⟨loop, hloop, rfl⟩ := Option.map_eq_some_iff.mp (List.getElem?_mapIdx ▸ hloop')
    obtain ⟨⟨st, hst, hopened⟩, -⟩ := h.reading j loop m hloop hstage
    refine ⟨⟨st.closed s.stream m, ?_, hopened⟩, iff_of_true (h.isCancelled_cancel hloop ?_) nofun⟩
    · exact List.getElem?_mapIdx.trans (by rw [hst]; rfl)
    · exact fun hended => nomatch hstage.symm.trans hended

/-- The callbacks and what they were called with do not matter. -/
theorem Agreed.congr (h : s.Agreed) (hstream : s'.stream = s.stream)
    (hreadTask : s'.readTask = s.readTask) (hstreams : s'.streams = s.streams)
    (hloops : s'.loops = s.loops) : s'.Agreed where
  stream := by rw [hstream, hstreams]; exact h.stream
  superseded := by rw [hstream, hstreams]; exact h.superseded
  loops := by rw [hloops, hreadTask]; exact h.loops
  reading := by rw [hloops, hstreams, hstream]; exact h.reading

/-- A stream that is not being stored goes on, or ends. -/
theorem Agreed.setStream (h : s.Agreed) (hst : s.streams[n]? = some st) {st' : AppStream}
    (hopened : st'.stage = .opened ↔ st.stage = .opened)
    (hfailed : st.stage = .failed → st'.stage = .failed)
    (hsuperseded : st'.superseded = st.superseded) (houtlived : st'.outlived = st.outlived) :
    Agreed { s with streams := s.streams.set n st' } := by
  have hset := Entries.getElem?_set hst st'
  have hkept : ∀ m : ℕ, (∃ u : AppStream, s.streams[m]? = some u ∧ u.stage = .opened) →
      ∃ u : AppStream, (s.streams.set n st')[m]? = some u ∧ u.stage = .opened := by
    rintro m ⟨u, hu, hstored⟩
    rw [hset]
    by_cases hmn : m = n
    · subst hmn
      obtain rfl := Option.some.inj (hst.symm.trans hu)
      exact ⟨st', if_pos rfl, hopened.mpr hstored⟩
    · exact ⟨u, (if_neg hmn).trans hu, hstored⟩
  refine ⟨fun m hm => hkept m (h.stream m hm), fun m u hu hstage => ?_, h.loops,
    fun j loop m hloop hstage => ?_⟩
  · change (s.streams.set n st')[m]? = some u at hu
    rw [hset] at hu
    split_ifs at hu with hmn
    · obtain rfl := Option.some.inj hu
      rw [hsuperseded, houtlived, hopened, hmn]
      exact h.superseded n st hst fun hst => hstage (hfailed hst)
    · exact h.superseded m u hu hstage
  · obtain ⟨hexists, hcancelled⟩ := h.reading j loop m hloop hstage
    exact ⟨hkept m hexists, hcancelled⟩

/-- A loop goes on. -/
theorem Agreed.setLoop (h : s.Agreed) (hloop : s.loops[i]? = some loop)
    (hruns : loop.stage ≠ .ended) {stage : ReadLoopStage}
    (hreading : ∀ m, stage = .reading m → (∃ st, s.streams[m]? = some st ∧ st.stage = .opened)
      ∧ (loop.isCancelled = true ↔ s.stream ≠ some m)) : (s.setLoop i loop stage).Agreed := by
  have hset := Entries.getElem?_set hloop { loop with stage := stage }
  refine ⟨h.stream, h.superseded, fun j u hu hstage => ?_, fun j u m hu hstage => ?_⟩
  · change (s.loops.set i _)[j]? = some u at hu
    rw [hset] at hu
    split_ifs at hu with hji
    · obtain rfl := Option.some.inj hu
      exact hji ▸ h.loops i loop hloop hruns
    · exact h.loops j u hu hstage
  · change (s.loops.set i _)[j]? = some u at hu
    rw [hset] at hu
    split_ifs at hu with hji
    · obtain rfl := Option.some.inj hu
      exact hreading m hstage
    · exact h.reading j u m hu hstage

theorem getElem?_store (m : ℕ) :
    (s.store n).streams[m]? = s.streams[m]?.map (AppStream.stored n m) :=
  List.getElem?_mapIdx

/-- What is open already is not what is being stored. -/
theorem ne_of_opened (hst : s.streams[n]? = some st) (hstage : st.stage = .opening) {m : ℕ}
    {u : AppStream} (hu : s.streams[m]? = some u) (hopened : u.stage = .opened) : m ≠ n := by
  rintro rfl
  obtain rfl := Option.some.inj (hst.symm.trans hu)
  exact nomatch hstage.symm.trans hopened

theorem Agreed.store (h : s.Agreed) (hst : s.streams[n]? = some st) (hstage : st.stage = .opening) :
    (s.store n).Agreed := by
  have hloops : ∀ (j : ℕ) (u : ReadLoop), (s.store n).loops[j]? = some u →
      j = s.loops.length ∧ u = { isCancelled := false, stage := .created }
        ∨ j ≠ s.loops.length ∧ ∃ loop, s.loops[j]? = some loop ∧ u = loop.cancel s.readTask j := by
    intro j u hu
    change (s.loops.mapIdx (ReadLoop.cancel s.readTask) ++ [_])[j]? = some u at hu
    rw [Entries.getElem?_concat, List.length_mapIdx] at hu
    split_ifs at hu with hlast
    · exact Or.inl ⟨hlast, (Option.some.inj hu).symm⟩
    · obtain ⟨loop, hloop, rfl⟩ := Option.map_eq_some_iff.mp (List.getElem?_mapIdx ▸ hu)
      exact Or.inr ⟨hlast, loop, hloop, rfl⟩
  have hkept : ∀ (m : ℕ) (u : AppStream), s.streams[m]? = some u → u.stage = .opened →
      ∃ u' : AppStream, (s.store n).streams[m]? = some u' ∧ u'.stage = .opened := by
    intro m u hu hopened
    refine ⟨u.stored n m, by rw [getElem?_store, hu]; rfl, ?_⟩
    rw [AppStream.stage_stored (ne_of_opened hst hstage hu hopened), hopened]
  refine ⟨fun m hm => ?_, fun m u' hu' hne => ?_, fun j u hu hne => ?_, fun j u m hu hreads => ?_⟩
  · obtain rfl : n = m := Option.some.inj hm
    exact ⟨st.stored n n, by rw [getElem?_store, hst]; rfl, AppStream.stored_self⟩
  · rw [getElem?_store] at hu'
    obtain ⟨u, hu, rfl⟩ := Option.map_eq_some_iff.mp hu'
    have hagreed := h.superseded m u hu
    rw [AppStream.stored] at hne ⊢
    split_ifs at hne ⊢ with hmn
    · subst hmn
      obtain rfl := Option.some.inj (hst.symm.trans hu)
      have hwaited : ¬(st.stage = .opened ∧ s.stream ≠ some m) :=
        fun hopened => nomatch hstage.symm.trans hopened.1
      rw [hagreed (by simp [hstage]), or_iff_left hwaited]
      exact (or_iff_left fun hnot => hnot.2 rfl).symm
    · have hstream : (s.store n).stream ≠ some m := fun hm => hmn (Option.some.inj hm).symm
      cases hstage' : u.stage with
      | connecting | opening => simpa [AppStream.waits, hstage'] using or_congr_left (hagreed hne)
      | opened => exact iff_of_true (by simp) (Or.inr ⟨rfl, hstream⟩)
      | failed => exact absurd hstage' hne
  · obtain ⟨rfl, rfl⟩ | ⟨hold, loop, hloop, rfl⟩ := hloops j u hu
    · exact iff_of_false Bool.false_ne_true (fun hnone => hnone rfl)
    · refine iff_of_true (h.isCancelled_cancel hloop hne) fun hcurrent => ?_
      exact hold (Option.some.inj hcurrent).symm
  · obtain ⟨rfl, rfl⟩ | ⟨hold, loop, hloop, rfl⟩ := hloops j u hu
    · cases hreads
    · obtain ⟨⟨v, hv, hopened⟩, -⟩ := h.reading j loop m hloop hreads
      refine ⟨hkept m v hv hopened, iff_of_true (h.isCancelled_cancel hloop ?_) fun hcurrent => ?_⟩
      · exact fun hended => nomatch hreads.symm.trans hended
      · exact ne_of_opened hst hstage hv hopened (Option.some.inj hcurrent).symm

theorem Agreed.openStream (h : s.Agreed) : Agreed { s with streams := s.streams ++ [.new] } := by
  have hnew := Entries.getElem?_concat s.streams AppStream.new
  have hold : ∀ m : ℕ, (∃ u : AppStream, s.streams[m]? = some u ∧ u.stage = .opened) →
      ∃ u : AppStream, (s.streams ++ [.new])[m]? = some u ∧ u.stage = .opened := by
    rintro m ⟨u, hu, hopened⟩
    have hlt := (List.getElem?_eq_some_iff.mp hu).1
    exact ⟨u, by rw [hnew, if_neg (Nat.ne_of_lt hlt), hu], hopened⟩
  refine ⟨fun m hm => hold m (h.stream m hm), fun m u hu hstage => ?_, h.loops,
    fun j loop m hloop hreads => ?_⟩
  · change (s.streams ++ [.new])[m]? = some u at hu
    rw [hnew] at hu
    split_ifs at hu with hm
    · obtain rfl := Option.some.inj hu
      exact iff_of_false nofun (by simp [AppStream.new])
    · exact h.superseded m u hu hstage
  · obtain ⟨hexists, hcancelled⟩ := h.reading j loop m hloop hreads
    exact ⟨hold m hexists, hcancelled⟩

/-- A loop that starts reads the stream that is stored; it is cancelled unless it is the last. -/
theorem Agreed.startLoop (h : s.Agreed) (hloop : s.loops[i]? = some loop)
    (hstage : loop.stage = .created) (hn : s.stream = some n) :
    (s.setLoop i loop (if loop.isCancelled then .ended else .reading n)).Agreed := by
  refine h.setLoop hloop (by simp [hstage]) fun m hm => ?_
  split_ifs at hm with hcancelled
  obtain rfl := ReadLoopStage.reading.inj hm
  exact ⟨h.stream n hn, iff_of_false hcancelled fun hnot => hnot hn⟩

/-- **Every step keeps the agreement.** -/
theorem Agreed.step {a : AppStreamAction} (h : s.Agreed) (hs : s.step a = some s') : s'.Agreed := by
  cases a with
  | openStream =>
    obtain rfl := Option.some.inj hs
    exact h.openStream
  | connection n ok =>
    obtain ⟨st, hst, hs⟩ := Option.bind_eq_some_iff.mp hs
    obtain ⟨hstage, hs⟩ := Option.ite_none_right_eq_some.mp hs
    obtain rfl := Option.some.inj hs
    refine h.setStream hst ?_ (fun hfailed => (nomatch hstage.symm.trans hfailed)) rfl rfl
    rw [hstage]
    cases ok <;> exact iff_of_false nofun nofun
  | openAsync n ok =>
    obtain ⟨st, hst, hs⟩ := Option.bind_eq_some_iff.mp hs
    obtain ⟨hstage, hs⟩ := Option.ite_none_right_eq_some.mp hs
    cases ok with
    | false =>
      obtain rfl := Option.some.inj hs
      refine h.setStream hst ?_ (fun _ => rfl) rfl rfl
      rw [hstage]
      exact iff_of_false nofun nofun
    | true =>
      obtain rfl := Option.some.inj hs
      exact h.store hst hstage
  | closeStream => exact Option.some.inj hs ▸ h.closeStream
  | disconnect keepConnection =>
    obtain rfl := Option.some.inj hs
    have hunset : Agreed { s with onStreamClosed := none, onStreamData := none } :=
      h.congr rfl rfl rfl rfl
    exact hunset.closeStream
  | setOnStreamData screen => exact Option.some.inj hs ▸ h.congr rfl rfl rfl rfl
  | setOnStreamClosed screen => exact Option.some.inj hs ▸ h.congr rfl rfl rfl rfl
  | startLoop i =>
    obtain ⟨loop, hloop, hs⟩ := Option.bind_eq_some_iff.mp hs
    obtain ⟨hstage, hs⟩ := Option.ite_none_right_eq_some.mp hs
    split at hs
    · obtain rfl := Option.some.inj hs
      exact h.setLoop hloop (by simp [hstage]) nofun
    · next n hn =>
      obtain rfl := Option.some.inj hs
      exact h.startLoop hloop hstage hn
  | readData i bytes =>
    obtain ⟨⟨loop, n, st⟩, hreader, hs⟩ := Option.bind_eq_some_iff.mp hs
    obtain ⟨hloop, hstage, hst⟩ := reader_eq_some hreader
    obtain rfl := Option.some.inj hs
    have hcalled : (s.call s.onStreamData fun screen =>
        .onStreamData screen n bytes st.superseded).Agreed := h.congr rfl rfl rfl rfl
    refine hcalled.setLoop hloop (by simp [hstage]) fun m hm => ?_
    split_ifs at hm
    obtain rfl := ReadLoopStage.reading.inj hm
    exact h.reading i loop n hloop hstage
  | readFails i =>
    obtain ⟨⟨loop, n, st⟩, hreader, hs⟩ := Option.bind_eq_some_iff.mp hs
    obtain ⟨hloop, hstage, hst⟩ := reader_eq_some hreader
    obtain ⟨-, hs⟩ := Option.ite_none_right_eq_some.mp hs
    obtain rfl := Option.some.inj hs
    split
    · exact h.setLoop hloop (by simp [hstage]) nofun
    · have hcalled : (s.call s.onStreamClosed fun screen =>
          .onStreamClosed screen n st.superseded).Agreed := h.congr rfl rfl rfl rfl
      exact hcalled.setLoop hloop (by simp [hstage]) nofun
  | streamEnds n =>
    obtain ⟨st, hst, rfl⟩ := Option.map_eq_some_iff.mp hs
    exact h.setStream hst Iff.rfl id rfl rfl

/-! ### What each step is to leave alone -/

theorem unheard_call {callback : Option ℕ} {make : ℕ → ScreenCall} (h : s.Unheard) :
    (s.call callback make).Unheard ↔ ∀ screen ∈ callback, (make screen).Current := by
  refine List.forall_mem_append.trans ((and_iff_right h).trans ?_)
  simp

/-- A stream that is not being stored goes on, or ends. -/
theorem Kept.setStream (h : s.Kept) (hst : s.streams[n]? = some st) {st' : AppStream}
    (hst' : st'.stage = .opened → st'.ended = true) :
    Kept { s with streams := s.streams.set n st' } := by
  intro m u hu hopened
  change (s.streams.set n st')[m]? = some u at hu
  rw [Entries.getElem?_set hst] at hu
  split_ifs at hu with hmn
  · obtain rfl := Option.some.inj hu
    exact Or.inr (Or.inr (hst' hopened))
  · exact h m u hu hopened

theorem Kept.openStream (h : s.Kept) : Kept { s with streams := s.streams ++ [.new] } := by
  intro m u hu hopened
  change (s.streams ++ [.new])[m]? = some u at hu
  rw [Entries.getElem?_concat] at hu
  split_ifs at hu with hm
  · obtain rfl := Option.some.inj hu
    cases hopened
  · exact h m u hu hopened

/-- What was stored is closed or aborted. -/
theorem Kept.closeStream (h : s.Kept) : s.closeStream.Kept := by
  intro m u' hu' hopened
  obtain ⟨u, hu, rfl⟩ := Option.map_eq_some_iff.mp (List.getElem?_mapIdx ▸ hu')
  refine Or.inr ?_
  obtain hstored | hretired | hended := h m u hu hopened
  · exact Or.inl (by simp [AppStream.closed, hstored])
  · exact Or.inl (by simp [AppStream.closed, hretired])
  · exact Or.inr hended

/-- **What `openStream` stores over.**  Nothing closes the stream that it replaces. -/
theorem kept_store_iff (h : s.Agreed) (hkept : s.Kept) (hst : s.streams[n]? = some st)
    (hstage : st.stage = .opening) :
    (s.store n).Kept ↔ ∀ m ∈ s.stream, ∀ u ∈ s.streams[m]?, u.retired = true ∨ u.ended = true := by
  constructor
  · intro hstore m hm u hu
    obtain ⟨v, hv, hopened⟩ := h.stream m hm
    obtain rfl := Option.some.inj (hu.symm.trans hv)
    have hne := ne_of_opened hst hstage hu hopened
    have hu' : (s.store n).streams[m]? = some (u.stored n m) := by rw [getElem?_store, hu]; rfl
    obtain hstored | hover := hstore m _ hu' ((AppStream.stage_stored hne).trans hopened)
    · exact absurd (Option.some.inj hstored).symm hne
    · simpa using hover
  · intro hover m u' hu' hopened
    rw [getElem?_store] at hu'
    obtain ⟨u, hu, rfl⟩ := Option.map_eq_some_iff.mp hu'
    by_cases hmn : m = n
    · exact Or.inl (hmn ▸ rfl)
    · rw [AppStream.stage_stored hmn] at hopened
      rw [AppStream.retired_stored, AppStream.ended_stored]
      exact Or.inr ((hkept m u hu hopened).elim (hover m · u hu) id)

/-- **What breaks it.**  From a state in which superseded streams have been silent and none is lost,
just the steps that are not orderly lead to one in which that is not so. -/
theorem Agreed.unheard_kept_iff {a : AppStreamAction} (h : s.Agreed) (hunheard : s.Unheard)
    (hkept : s.Kept) (hs : s.step a = some s') : s'.Unheard ∧ s'.Kept ↔ s.Orderly a := by
  cases a with
  | openStream =>
    obtain rfl := Option.some.inj hs
    exact iff_of_true ⟨hunheard, hkept.openStream⟩ trivial
  | connection n ok =>
    obtain ⟨st, hst, hs⟩ := Option.bind_eq_some_iff.mp hs
    obtain ⟨-, hs⟩ := Option.ite_none_right_eq_some.mp hs
    obtain rfl := Option.some.inj hs
    refine iff_of_true ⟨hunheard, hkept.setStream hst ?_⟩ trivial
    cases ok <;> exact nofun
  | openAsync n ok =>
    obtain ⟨st, hst, hs⟩ := Option.bind_eq_some_iff.mp hs
    obtain ⟨hstage, hs⟩ := Option.ite_none_right_eq_some.mp hs
    obtain rfl := Option.some.inj hs
    cases ok with
    | false => exact iff_of_true ⟨hunheard, hkept.setStream hst nofun⟩ trivial
    | true => exact (and_iff_right hunheard).trans (kept_store_iff h hkept hst hstage)
  | closeStream =>
    obtain rfl := Option.some.inj hs
    exact iff_of_true ⟨hunheard, hkept.closeStream⟩ trivial
  | disconnect keepConnection =>
    obtain rfl := Option.some.inj hs
    have hunset : Kept { s with onStreamClosed := none, onStreamData := none } := hkept
    exact iff_of_true ⟨hunheard, hunset.closeStream⟩ trivial
  | setOnStreamData screen | setOnStreamClosed screen =>
    obtain rfl := Option.some.inj hs
    exact iff_of_true ⟨hunheard, hkept⟩ trivial
  | startLoop i =>
    obtain ⟨loop, hloop, hs⟩ := Option.bind_eq_some_iff.mp hs
    obtain ⟨-, hs⟩ := Option.ite_none_right_eq_some.mp hs
    split at hs
    all_goals
      obtain rfl := Option.some.inj hs
      exact iff_of_true ⟨hunheard, hkept⟩ trivial
  | readData i bytes =>
    obtain ⟨⟨loop, n, st⟩, hreader, hs⟩ := Option.bind_eq_some_iff.mp hs
    obtain rfl := Option.some.inj hs
    refine (and_iff_left hkept).trans ((unheard_call hunheard).trans ⟨?_, ?_⟩)
    · rintro hcurrent ⟨loop', n', st'⟩ hreader'
      obtain ⟨rfl, rfl, rfl⟩ := eq_of_reader hreader hreader'
      cases hscreen : s.onStreamData with
      | none => exact Or.inl rfl
      | some screen =>
        obtain hnot | hempty := hcurrent screen hscreen
        · exact Or.inr (Or.inr ((h.not_superseded_iff hreader).mp hnot))
        · exact Or.inr (Or.inl hempty)
    · intro horderly screen hscreen
      obtain hnone | hempty | hcurrent := horderly (loop, n, st) hreader
      · exact nomatch hnone.symm.trans hscreen
      · exact Or.inr hempty
      · exact Or.inl ((h.not_superseded_iff hreader).mpr hcurrent)
  | readFails i =>
    obtain ⟨⟨loop, n, st⟩, hreader, hs⟩ := Option.bind_eq_some_iff.mp hs
    obtain ⟨-, hs⟩ := Option.ite_none_right_eq_some.mp hs
    obtain rfl := Option.some.inj hs
    by_cases hcancelled : loop.isCancelled = true
    · rw [if_pos hcancelled]
      refine iff_of_true ⟨hunheard, hkept⟩ fun ⟨loop', n', st'⟩ hreader' => Or.inr (Or.inl ?_)
      obtain ⟨rfl, -, -⟩ := eq_of_reader hreader hreader'
      exact hcancelled
    · rw [if_neg hcancelled]
      rw [Bool.not_eq_true] at hcancelled
      refine (and_iff_left hkept).trans ((unheard_call hunheard).trans ⟨?_, ?_⟩)
      · rintro hcurrent ⟨loop', n', st'⟩ hreader'
        obtain ⟨rfl, rfl, rfl⟩ := eq_of_reader hreader hreader'
        cases hscreen : s.onStreamClosed with
        | none => exact Or.inl rfl
        | some screen =>
          exact Or.inr (Or.inr ((h.not_superseded_iff hreader).mp (hcurrent screen hscreen)).2)
      · intro horderly screen hscreen
        obtain hnone | hyes | hcurrent := horderly (loop, n, st) hreader
        · exact nomatch hnone.symm.trans hscreen
        · exact nomatch hcancelled.symm.trans hyes
        · exact (h.not_superseded_iff hreader).mpr ⟨hcancelled, hcurrent⟩
  | streamEnds n =>
    obtain ⟨st, hst, rfl⟩ := Option.map_eq_some_iff.mp hs
    exact iff_of_true ⟨hunheard, hkept.setStream hst fun _ => rfl⟩ trivial

end

/-- **Superseded streams are unheard, and none is lost, in every state of a run** if and only if
every step of the run is orderly: `openStream` stores no stream over one that lives, and where a
callback is set no read has data for a cancelled loop or from a stream whose `openStream` was
outlived, or ends without it. -/
theorem superseded_unheard_iff {as : List AppStreamAction} {s : AppStreams}
    (hs : Guarded.run step init as = some s) :
    Guarded.Throughout step (fun s => s.Unheard ∧ s.Kept) init as
      ↔ Guarded.AllSteps step Orderly init as := by
  have hinit : init.Agreed ∧ init.Unheard ∧ init.Kept :=
    ⟨.init, fun _ h => (nomatch h), fun _ _ h => (nomatch h)⟩
  refine Guarded.throughout_iff_allSteps (I := fun s => s.Agreed ∧ s.Unheard ∧ s.Kept)
    (fun _ h => h.2) ?_ ?_ hinit hs
  · rintro u a u' ⟨h, hunheard, hkept⟩ horderly hu
    exact ⟨h.step hu, (h.unheard_kept_iff hunheard hkept hu).mpr horderly⟩
  · rintro u a u' ⟨h, hunheard, hkept⟩ hnot hu hafter
    exact hnot ((h.unheard_kept_iff hunheard hkept hu).mp hafter)

/-- A screen is left while nothing is being read, and the next one opens its own stream. -/
theorem superseded_unheard_iff_twoScreens :
    Guarded.Throughout step (fun s => s.Unheard ∧ s.Kept) init
      [.setOnStreamData 0, .openStream, .connection 0 true, .openAsync 0 true, .startLoop 0,
        .readData 0 [0x24], .disconnect true, .setOnStreamData 1, .openStream, .connection 1 true,
        .openAsync 1 true, .readFails 0, .startLoop 1, .readData 1 [0x25]] :=
  (superseded_unheard_iff (Option.some_get (by decide)).symm).mpr (by decide)

/-- What is read once the screen has been left is passed to the next screen; of two calls of
`openStream` that wait at the same time, the first one's stream is lost. -/
theorem superseded_heard_and_lost :
    ¬ (∀ as s, Guarded.run step init as = some s → s.Unheard)
    ∧ ¬ ∀ as s, Guarded.run step init as = some s → s.Kept := by
  constructor
  · intro h
    have hrun : Guarded.run step init
        [.setOnStreamData 0, .openStream, .connection 0 true, .openAsync 0 true, .startLoop 0,
          .disconnect true, .setOnStreamData 1, .readData 0 [0x24]]
        = some {
          stream := none
          readTask := none
          onStreamData := some 1
          onStreamClosed := none
          streams := [{ AppStream.new with stage := .opened, retired := true, superseded := true }]
          loops := [{ isCancelled := true, stage := .ended }]
          calls := [.onStreamData 1 0 [0x24] true] } := by decide
    exact absurd (h _ _ hrun) (by decide)
  · intro h
    have hrun : Guarded.run step init
        [.openStream, .openStream, .connection 0 true, .connection 1 true, .openAsync 0 true,
          .openAsync 1 true]
        = some {
          stream := some 1
          readTask := some 1
          onStreamData := none
          onStreamClosed := none
          streams := [{ AppStream.new with stage := .opened, superseded := true },
            { AppStream.new with stage := .opened }]
          loops := [{ isCancelled := true, stage := .created },
            { isCancelled := false, stage := .created }]
          calls := [] } := by decide
    exact absurd (h _ _ hrun 0 _ rfl rfl) (by decide)

end AppStreams

end TmuxRemote
