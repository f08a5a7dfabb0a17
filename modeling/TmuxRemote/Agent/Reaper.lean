import Mathlib.Data.List.Nodup
import TmuxRemote.Library.Guarded

/-!
# Agent/Reaper — the reaper, the resolves and the life of one control stream

One control stream: its reader thread, the monitor's reap phase, and the other threads that send
prompt events to it (the PTY reader of its connection's data stream, the readers of the connection's
other control streams).  Atomic steps are the acquisitions and releases of `streamListMutex`,
`activeStreamsMutex` and the detector mutex, the changes of `refCount`, the stores to `closing` and
the joins; a thread whose mutex is held by another has no step.

The monitor unlinks a closing stream with `streamListMutex` held, and the thread that gives back the
last reference joins the stream's reader.  Both go well as long as the stream is reaped outside its
reader's resolves, and none begins while the monitor waits to join (`reaper_safe`).  A write that
fails in the middle of a resolve is enough for the monitor to wait for a reader that waits for the
monitor's mutex, or for the reader to join itself (`reaper_deadlocks`).

The monitor's own sends hold and give back references between two reaps; what they leave behind is
at most a stream marked closing.
-/

namespace TmuxRemote

/-- The threads that take the mutexes. -/
inductive ReapThread
  | monitor
  | reader
  | other (i : ℕ)
  deriving DecidableEq

/-- What a thread calls on the detector. -/
inductive DetectorCallKind
  /-- `tmuxremote_prompt_detector_feed`, by the PTY reader. -/
  | feed
  /-- `tmuxremote_stream_resolve_prompt_for_ref`, by a control-stream reader. -/
  | resolve
  deriving DecidableEq

/-- A feed reports a prompt that goes and one that comes, a resolve one that goes. -/
def DetectorCallKind.maxEvents : DetectorCallKind → ℕ
  | feed => 2
  | resolve => 1

/-- Where a thread stands in such a call; `events` are still to be reported. -/
inductive CallPc
  | wantActive
  /-- Holds `activeStreamsMutex` and looks for the data stream of the connection. -/
  | searching
  | wantDetector (kind : DetectorCallKind)
  /-- Holds the detector mutex, as do all up to `unlockDetector`. -/
  | reporting (kind : DetectorCallKind) (events : ℕ)
  /-- `send_to_ref`, before `collect_targets_for_ref` has the list mutex. -/
  | wantList (kind : DetectorCallKind) (events : ℕ)
  | collecting (kind : DetectorCallKind) (events : ℕ)
  | collected (kind : DetectorCallKind) (events : ℕ) (retained : Bool)
  | sending (kind : DetectorCallKind) (events : ℕ)
  | releasing (kind : DetectorCallKind) (events : ℕ)
  /-- `pthread_join` of the reader, after the last reference. -/
  | joining (kind : DetectorCallKind) (events : ℕ)
  /-- Holds `activeStreamsMutex` alone again. -/
  | leaving
  deriving DecidableEq

/-- The atomic steps of a call. -/
inductive CallOp
  | lockActive
  /-- Whether the connection has a data stream with a detector. -/
  | find (found : Bool)
  /-- The detector runs, and has this many events to report. -/
  | lockDetector (events : ℕ)
  | report
  | lockList
  | collect
  | unlockList
  /-- `send_to_stream`, and whether the write succeeds. -/
  | send (written : Bool)
  | release
  | joined
  | unlockDetector
  | unlockActive
  deriving DecidableEq

/-- Where the reader thread stands. -/
inductive ReaderPc
  /-- At the loop's test of `closing`. -/
  | testing
  /-- In a read of a length prefix or a payload. -/
  | reading
  | calling (pc : CallPc)
  | exited
  deriving DecidableEq

/-- The call the reader is in. -/
def ReaderPc.call : ReaderPc → Option CallPc
  | calling pc => some pc
  | _ => none

/-- Where the monitor stands. -/
inductive ReapPc
  /-- Outside the reap phase. -/
  | idle
  /-- Walks the list, with the list mutex held. -/
  | walking
  /-- `pthread_join` of the reader, with the list mutex held. -/
  | joining
  deriving DecidableEq

/-- Where the stream is; up to the reap one reference belongs to its place. -/
inductive StreamPlace
  /-- `stream_accepted` has started the reader and not yet linked the stream. -/
  | accepting
  | listed
  | unlinked
  deriving DecidableEq

/-- A control stream and the threads around it. -/
structure Reaper where
  place : StreamPlace
  closing : Bool
  refCount : ℕ
  listOwner : Option ReapThread
  activeOwner : Option ReapThread
  detectorOwner : Option ReapThread
  monitor : ReapPc
  reader : ReaderPc
  /-- The other threads, and where those that are in a call stand. -/
  others : List (Option CallPc)
  /-- The thread that gave back the last reference. -/
  lastRelease : Option ReapThread
  deriving DecidableEq

/-- A step of one of the threads. -/
inductive ReapAction
  /-- `stream_accepted` links the stream. -/
  | link
  | startReap
  /-- The walk meets the stream, finds it closing, and releases it. -/
  | reap
  | monitorJoined
  | endReap
  /-- A send of the monitor, between two reaps, fails. -/
  | monitorSendFails
  /-- `tmuxremote_control_stream_listener_stop` -/
  | stop
  | testClosing
  | readFails
  /-- The reader has read a message that is no resolve. -/
  | readOther
  /-- The reader has read a resolve. -/
  | readResolve
  | enterCall (i : ℕ) (kind : DetectorCallKind)
  | readerCall (op : CallOp)
  | otherCall (i : ℕ) (op : CallOp)
  deriving DecidableEq

namespace DetectorCallKind

/-- The first thing a call waits for. -/
def entry : DetectorCallKind → CallPc
  | feed => .wantDetector feed
  | resolve => .wantActive

/-- What is left of a call once the detector mutex is given back. -/
def exit : DetectorCallKind → Option CallPc
  | feed => none
  | resolve => some .leaving

end DetectorCallKind

namespace CallPc

/-- Holds a reference to the stream. -/
def retains : CallPc → Bool
  | collected _ _ retained => retained
  | sending _ _ | releasing _ _ => true
  | _ => false

/-- May still report an event, or holds a reference from the last one. -/
def unfinished : CallPc → Bool
  | reporting _ events => 0 < events
  | leaving => false
  | _ => true

end CallPc

namespace Reaper

/-- The stream before it is linked, with the other threads outside their calls. -/
def init (threads : ℕ) : Reaper :=
  { place := .accepting, closing := false, refCount := 1, listOwner := none, activeOwner := none,
    detectorOwner := none, monitor := .idle, reader := .testing,
    others := List.replicate threads none, lastRelease := none }

/-- `control_stream_release_impl`, up to the join. -/
def release (s : Reaper) (t : ReapThread) : Reaper :=
  { s with
    refCount := s.refCount - 1
    lastRelease := if s.refCount = 1 then some t else s.lastRelease }

/-- One step of thread `t` in a call, and where it stands then; `none` there when the call is
over. -/
def callStep (s : Reaper) (t : ReapThread) : CallPc → CallOp → Option (Reaper × Option CallPc)
  | .wantActive, .lockActive =>
    if s.activeOwner = none then some ({ s with activeOwner := some t }, some .searching) else none
  | .searching, .find found =>
    some (s, some (if found then .wantDetector .resolve else .leaving))
  | .wantDetector kind, .lockDetector events =>
    if s.detectorOwner = none ∧ events ≤ kind.maxEvents then
      some ({ s with detectorOwner := some t }, some (.reporting kind events))
    else none
  | .reporting kind (events + 1), .report => some (s, some (.wantList kind events))
  | .wantList kind events, .lockList =>
    if s.listOwner = none then
      some ({ s with listOwner := some t }, some (.collecting kind events))
    else none
  | .collecting kind events, .collect =>
    if s.place = .listed ∧ s.closing = false then
      some ({ s with refCount := s.refCount + 1 }, some (.collected kind events true))
    else some (s, some (.collected kind events false))
  | .collected kind events retained, .unlockList =>
    some ({ s with listOwner := none },
      some (if retained then .sending kind events else .reporting kind events))
  | .sending kind events, .send written =>
    -- Nothing is written once the stream is closing.
    some ({ s with closing := s.closing || !written }, some (.releasing kind events))
  | .releasing kind events, .release =>
    some (s.release t,
      some (if s.refCount = 1 then .joining kind events else .reporting kind events))
  | .joining kind events, .joined =>
    if s.reader = .exited then some (s, some (.reporting kind events)) else none
  | .reporting kind 0, .unlockDetector => some ({ s with detectorOwner := none }, kind.exit)
  | .leaving, .unlockActive => some ({ s with activeOwner := none }, none)
  | _, _ => none

/-- The reader after a step of its call. -/
def readerAt : Option CallPc → ReaderPc
  | none => .testing
  | some pc => .calling pc

/-- One step; `none` when the thread cannot take it. -/
def step (s : Reaper) : ReapAction → Option Reaper
  | .link =>
    if s.place = .accepting ∧ s.listOwner = none then some { s with place := .listed } else none
  | .startReap =>
    if s.monitor = .idle ∧ s.listOwner = none then
      some { s with monitor := .walking, listOwner := some .monitor }
    else none
  | .reap =>
    if s.monitor = .walking ∧ s.place = .listed ∧ s.closing then
      some { s.release .monitor with
        place := .unlinked
        monitor := if s.refCount = 1 then .joining else .walking }
    else none
  | .monitorJoined =>
    if s.monitor = .joining ∧ s.reader = .exited then some { s with monitor := .walking } else none
  | .endReap =>
    if s.monitor = .walking then some { s with monitor := .idle, listOwner := none } else none
  | .monitorSendFails =>
    if s.monitor = .idle ∧ s.place = .listed then some { s with closing := true } else none
  | .stop =>
    if s.place = .listed ∧ s.listOwner = none then some { s with closing := true } else none
  | .testClosing =>
    if s.reader = .testing then
      some { s with reader := if s.closing then .exited else .reading }
    else none
  | .readFails =>
    if s.reader = .reading then some { s with closing := true, reader := .exited } else none
  | .readOther => if s.reader = .reading then some { s with reader := .testing } else none
  | .readResolve =>
    if s.reader = .reading then
      some { s with reader := .calling DetectorCallKind.resolve.entry }
    else none
  | .enterCall i kind =>
    if s.others[i]? = some none then some { s with others := s.others.set i (some kind.entry) }
    else none
  | .readerCall op =>
    match s.reader with
    | .calling pc => (s.callStep .reader pc op).map fun r => { r.1 with reader := readerAt r.2 }
    | _ => none
  | .otherCall i op =>
    match s.others[i]? with
    | some (some pc) =>
      (s.callStep (.other i) pc op).map fun r => { r.1 with others := r.1.others.set i r.2 }
    | _ => none

/-- The monitor waits for the reader to end, and the reader for the mutex the monitor holds. -/
def Deadlocked (s : Reaper) : Prop :=
  s.listOwner = some .monitor ∧ s.monitor = .joining
    ∧ ∃ kind events, s.reader = .calling (.wantList kind events)

/-- No deadlock, and the reader has not given back the last reference. -/
def Safe (s : Reaper) : Prop := ¬ s.Deadlocked ∧ s.lastRelease ≠ some .reader

/-- The reader is in a resolve that may still report an event, or that holds a reference. -/
def resolving (s : Reaper) : Bool := s.reader.call.any CallPc.unfinished

/-- The stream is reaped outside its reader's resolves, and none begins while the monitor waits for
the reader. -/
def ReapsOutsideResolve (s : Reaper) : ReapAction → Prop
  | .reap => s.resolving = false
  | .readResolve => s.monitor ≠ .joining
  | _ => True

instance (s : Reaper) : ∀ a, Decidable (s.ReapsOutsideResolve a)
  | .reap => inferInstanceAs (Decidable (s.resolving = false))
  | .readResolve => inferInstanceAs (Decidable (s.monitor ≠ .joining))
  | .link | .startReap | .monitorJoined | .endReap | .monitorSendFails | .stop | .testClosing
  | .readFails | .readOther | .enterCall _ _ | .readerCall _ | .otherCall _ _ =>
    inferInstanceAs (Decidable True)

/-! ## What a step of a call does -/

/-- What a step of a call changes, as far as the references are concerned. -/
structure CallEffect (s s' : Reaper) (t : ReapThread) (pc : CallPc) (pc' : Option CallPc) :
    Prop where
  place : s'.place = s.place
  monitor : s'.monitor = s.monitor
  reader : s'.reader = s.reader
  others : s'.others = s.others
  /-- References come and go with the program counters that hold them. -/
  count : pc.retains.toNat ≤ s.refCount →
    s'.refCount + pc.retains.toNat = s.refCount + (pc'.any CallPc.retains).toNat
  /-- Only a listed stream is collected. -/
  retains : pc'.any CallPc.retains → pc.retains ∨ s.place = .listed
  unfinished : pc'.any CallPc.unfinished → pc.unfinished
  /-- The last reference is given back by the thread that holds it. -/
  lastRelease : s'.lastRelease = s.lastRelease
    ∨ s'.lastRelease = some t ∧ s.refCount = 1 ∧ pc.retains

variable {s s' : Reaper} {t : ReapThread} {pc : CallPc} {pc' : Option CallPc}

@[simp] theorem any_retains_exit (kind : DetectorCallKind) :
    kind.exit.any CallPc.retains = false := by
  cases kind <;> rfl

@[simp] theorem any_unfinished_exit (kind : DetectorCallKind) :
    kind.exit.any CallPc.unfinished = false := by
  cases kind <;> rfl

/-- A step that takes no reference and gives none back. -/
theorem callEffect_quiet {active list detector : Option ReapThread} {closing : Bool}
    (hretains : pc'.any CallPc.retains = pc.retains)
    (hunfinished : pc'.any CallPc.unfinished = true → pc.unfinished = true) :
    CallEffect s { s with
      activeOwner := active, listOwner := list, detectorOwner := detector, closing := closing }
      t pc pc' where
  place := rfl
  monitor := rfl
  reader := rfl
  others := rfl
  count _ := by rw [hretains]
  retains h := Or.inl (hretains ▸ h)
  unfinished := hunfinished
  lastRelease := Or.inl rfl

/-- A listed stream is collected. -/
theorem callEffect_collect {kind : DetectorCallKind} {events : ℕ} (hplace : s.place = .listed) :
    CallEffect s { s with refCount := s.refCount + 1 } t (.collecting kind events)
      (some (.collected kind events true)) where
  place := rfl
  monitor := rfl
  reader := rfl
  others := rfl
  count _ := rfl
  retains _ := Or.inr hplace
  unfinished _ := rfl
  lastRelease := Or.inl rfl

/-- A reference is given back. -/
theorem callEffect_release {kind : DetectorCallKind} {events : ℕ} :
    CallEffect s (s.release t) t (.releasing kind events)
      (some (if s.refCount = 1 then .joining kind events else .reporting kind events)) := by
  have hretains : (some (if s.refCount = 1 then CallPc.joining kind events
      else .reporting kind events)).any CallPc.retains = false := by
    split_ifs
    · rfl
    · rfl
  refine ⟨rfl, rfl, rfl, rfl, fun hcount => ?_, fun h => Or.inl rfl, fun h => rfl, ?_⟩
  · rw [hretains]
    exact Nat.sub_add_cancel hcount
  · rw [release]
    split_ifs with hlast
    · exact Or.inr ⟨rfl, hlast, rfl⟩
    · exact Or.inl rfl

theorem callStep_effect {op : CallOp} (h : s.callStep t pc op = some (s', pc')) :
    CallEffect s s' t pc pc' := by
  -- The cases are numbered as the branches of `callStep`.
  rw [callStep.eq_def] at h
  split at h
  case h_1 =>
    split_ifs at h
    cases h
    exact callEffect_quiet rfl id
  case h_2 found =>
    cases h
    cases found with
    | false => exact callEffect_quiet rfl fun h => rfl
    | true => exact callEffect_quiet rfl id
  case h_3 =>
    split_ifs at h
    cases h
    exact callEffect_quiet rfl fun h => rfl
  case h_4 =>
    cases h
    exact callEffect_quiet rfl fun h => by simp [CallPc.unfinished]
  case h_5 =>
    split_ifs at h
    cases h
    exact callEffect_quiet rfl id
  case h_6 =>
    split_ifs at h with hlisted
    · cases h
      exact callEffect_collect hlisted.1
    · cases h
      exact callEffect_quiet rfl id
  case h_7 kind events retained =>
    cases h
    cases retained with
    | false => exact callEffect_quiet rfl fun h => rfl
    | true => exact callEffect_quiet rfl id
  case h_8 =>
    cases h
    exact callEffect_quiet rfl id
  case h_9 =>
    cases h
    exact callEffect_release
  case h_10 =>
    split_ifs at h
    cases h
    exact callEffect_quiet rfl fun h => rfl
  case h_11 kind =>
    cases h
    refine callEffect_quiet (any_retains_exit kind) fun h => ?_
    rw [any_unfinished_exit] at h
    exact nomatch h
  case h_12 =>
    cases h
    exact callEffect_quiet rfl fun h => nomatch h
  case h_13 => exact nomatch h

/-! ## The references -/

/-- The references of the stream's place, of its reader, and of the other threads. -/
def placeRefs (s : Reaper) : ℕ := if s.place = .unlinked then 0 else 1

def readerRetains (s : Reaper) : Bool := s.reader.call.any CallPc.retains

def othersRetain (s : Reaper) : ℕ := s.others.countP (Option.any CallPc.retains)

/-- What the steps that reap outside resolves keep. -/
structure Inv (s : Reaper) : Prop where
  count : s.refCount = s.placeRefs + s.readerRetains.toNat + s.othersRetain
  /-- A stream to which its reader holds a reference is still listed. -/
  listed : s.readerRetains → s.place = .listed
  /-- The reader the monitor waits for has nothing to report. -/
  waiting : s.monitor = .joining → s.resolving = false
  lastRelease : s.lastRelease ≠ some .reader

theorem inv_init (threads : ℕ) : (init threads).Inv := by
  refine ⟨?_, (nomatch ·), (nomatch ·), (nomatch ·)⟩
  simp [init, placeRefs, readerRetains, ReaderPc.call, othersRetain, List.countP_replicate]

theorem Inv.safe (h : s.Inv) : s.Safe := by
  refine ⟨?_, h.lastRelease⟩
  rintro ⟨-, hmonitor, kind, events, hreader⟩
  have hidle := h.waiting hmonitor
  rw [resolving, hreader] at hidle
  exact nomatch hidle

@[simp] theorem call_readerAt (pc : Option CallPc) : (readerAt pc).call = pc := by cases pc <;> rfl

/-- A call of the reader: its reference is not the last one, since the stream is still listed. -/
theorem Inv.readerCall {s₁ : Reaper} (h : s.Inv) (hreader : s.reader = .calling pc)
    (he : CallEffect s s₁ .reader pc pc') : Inv { s₁ with reader := readerAt pc' } := by
  have hpc : s.readerRetains = pc.retains := by rw [readerRetains, hreader]; rfl
  have hpc' : readerRetains { s₁ with reader := readerAt pc' } = pc'.any CallPc.retains := by
    rw [readerRetains, call_readerAt]
  have hcount := h.count
  rw [hpc] at hcount
  refine ⟨?_, fun hr => ?_, fun hm => ?_, ?_⟩
  · rw [hpc']
    have hle := he.count (by omega)
    simp only [placeRefs, othersRetain, he.place, he.others] at hcount ⊢
    omega
  · rw [hpc'] at hr
    change s₁.place = .listed
    rw [he.place]
    exact (he.retains hr).elim (fun hold => h.listed (hpc ▸ hold)) id
  · have hidle := h.waiting (he.monitor ▸ hm)
    rw [resolving, hreader] at hidle
    rw [resolving, call_readerAt, Bool.eq_false_iff]
    exact fun hunfinished => absurd (he.unfinished hunfinished) (Bool.eq_false_iff.mp hidle)
  · change s₁.lastRelease ≠ _
    obtain hkept | ⟨-, hlast, hold⟩ := he.lastRelease
    · exact hkept ▸ h.lastRelease
    · have hplace : s.placeRefs = 1 := by rw [placeRefs, h.listed (hpc ▸ hold)]; rfl
      rw [hold, hplace, hlast] at hcount
      simp only [Bool.toNat_true] at hcount
      omega

/-- Replacing one element counts it out and the new one in. -/
theorem countP_set_add {α : Type*} (p : α → Bool) {l : List α} {i : ℕ} {old : α} (new : α)
    (hi : l[i]? = some old) :
    (l.set i new).countP p + (p old).toNat = l.countP p + (p new).toNat := by
  induction l generalizing i with
  | nil => exact nomatch hi
  | cons a l ih =>
    cases i with
    | zero =>
      obtain rfl : a = old := Option.some.inj hi
      rw [List.set_cons_zero, List.countP_cons, List.countP_cons]
      cases p a <;> cases p new <;> simp
    | succ i =>
      have hrest := ih (i := i) hi
      rw [List.set_cons_succ, List.countP_cons, List.countP_cons]
      omega

/-- A call of another thread. -/
theorem Inv.otherCall {s₁ : Reaper} {i : ℕ} (h : s.Inv) (hi : s.others[i]? = some (some pc))
    (he : CallEffect s s₁ (.other i) pc pc') : Inv { s₁ with others := s₁.others.set i pc' } := by
  have hold := countP_set_add (Option.any CallPc.retains) none hi
  have hset := countP_set_add (Option.any CallPc.retains) pc' hi
  have hreader : readerRetains { s₁ with others := s₁.others.set i pc' } = s.readerRetains := by
    simp only [readerRetains, he.reader]
  have hcount := h.count
  rw [Option.any_some] at hold hset
  rw [Option.any_none, Bool.toNat_false] at hold
  rw [othersRetain] at hcount
  refine ⟨?_, fun hr => ?_, fun hm => ?_, ?_⟩
  · have hle := he.count (by omega)
    rw [hreader]
    simp only [placeRefs, othersRetain, he.place, he.others] at hcount ⊢
    omega
  · rw [hreader] at hr
    exact he.place.trans (h.listed hr)
  · have hidle := h.waiting (he.monitor ▸ hm)
    rw [resolving] at hidle ⊢
    exact he.reader ▸ hidle
  · obtain hkept | ⟨hlast, -⟩ := he.lastRelease
    · exact hkept ▸ h.lastRelease
    · exact fun hreader => nomatch hlast.symm.trans hreader

/-- A step outside the calls that leaves the references as they are. -/
theorem Inv.quiet (h : s.Inv) (hcount : s'.refCount = s.refCount)
    (hplace : s'.placeRefs = s.placeRefs) (hlisted : s.place = .listed → s'.place = .listed)
    (hreader : s'.readerRetains = s.readerRetains) (hothers : s'.othersRetain = s.othersRetain)
    (hwait : s'.monitor = .joining → s'.resolving = false)
    (hlast : s'.lastRelease = s.lastRelease) :
    s'.Inv where
  count := by rw [hcount, hplace, hreader, hothers, h.count]
  listed hr := hlisted (h.listed (hreader ▸ hr))
  waiting := hwait
  lastRelease := hlast ▸ h.lastRelease

/-- **The reap**: outside its resolves the reader holds no reference and is left with none. -/
theorem Inv.reap (h : s.Inv) (hlisted : s.place = .listed) (hidle : s.resolving = false) :
    Inv { s.release .monitor with
      place := .unlinked
      monitor := if s.refCount = 1 then .joining else .walking } := by
  have hretains : s.readerRetains = false := by
    rw [readerRetains]
    rw [resolving] at hidle
    cases hcall : s.reader.call with
    | none => rfl
    | some pc =>
      rw [hcall] at hidle
      cases pc <;> first | rfl | exact nomatch hidle
  have hcount := h.count
  refine ⟨?_, fun hr => ?_, fun _ => hidle, ?_⟩
  · simp only [placeRefs, hlisted, hretains, reduceCtorEq, if_false] at hcount
    change s.refCount - 1 = 0 + s.readerRetains.toNat + s.othersRetain
    rw [hretains]
    omega
  · exact absurd (hretains.symm.trans hr) Bool.false_ne_true
  · change (if s.refCount = 1 then some ReapThread.monitor else s.lastRelease) ≠ _
    split_ifs
    · exact fun hreader => nomatch hreader
    · exact h.lastRelease

/-- A step of the reader outside its calls. -/
theorem Inv.readerStep {now : ReaderPc} {closing : Bool} (h : s.Inv)
    (hbefore : s.reader.call = none)
    (hafter : now.call = none ∨ now.call = some .wantActive ∧ s.monitor ≠ .joining) :
    Inv { s with closing := closing, reader := now } := by
  have hretains : readerRetains { s with closing := closing, reader := now } = s.readerRetains := by
    rw [readerRetains, readerRetains, hbefore]
    obtain hnow | ⟨hnow, -⟩ := hafter
    · rw [hnow]
    · rw [hnow]; rfl
  refine h.quiet rfl rfl id hretains rfl (fun hm => ?_) rfl
  obtain hnow | ⟨-, hmonitor⟩ := hafter
  · rw [resolving, hnow]; rfl
  · exact absurd hm hmonitor

/-- What a step outside the calls does when it is not enabled by a call. -/
theorem eq_of_ite_eq_some {c : Prop} [Decidable c] (h : (if c then some s else none) = some s') :
    c ∧ s = s' := by
  rwa [Option.ite_none_right_eq_some, Option.some.injEq] at h

/-- **The step lemma.** -/
theorem Inv.step {a : ReapAction} (h : s.Inv) (ha : s.ReapsOutsideResolve a)
    (hstep : s.step a = some s') : s'.Inv := by
  cases a with
  | link =>
    obtain ⟨hen, rfl⟩ := eq_of_ite_eq_some hstep
    refine h.quiet rfl ?_ (fun _ => rfl) rfl rfl h.waiting rfl
    rw [placeRefs, placeRefs, hen.1]
    rfl
  | startReap =>
    obtain ⟨-, rfl⟩ := eq_of_ite_eq_some hstep
    exact h.quiet rfl rfl id rfl rfl (nomatch ·) rfl
  | reap =>
    obtain ⟨hen, rfl⟩ := eq_of_ite_eq_some hstep
    exact h.reap hen.2.1 ha
  | monitorJoined =>
    obtain ⟨-, rfl⟩ := eq_of_ite_eq_some hstep
    exact h.quiet rfl rfl id rfl rfl (nomatch ·) rfl
  | endReap =>
    obtain ⟨-, rfl⟩ := eq_of_ite_eq_some hstep
    exact h.quiet rfl rfl id rfl rfl (nomatch ·) rfl
  | monitorSendFails =>
    obtain ⟨-, rfl⟩ := eq_of_ite_eq_some hstep
    exact h.quiet rfl rfl id rfl rfl h.waiting rfl
  | stop =>
    obtain ⟨-, rfl⟩ := eq_of_ite_eq_some hstep
    exact h.quiet rfl rfl id rfl rfl h.waiting rfl
  | testClosing =>
    obtain ⟨hreader, rfl⟩ := eq_of_ite_eq_some hstep
    refine h.readerStep (by rw [hreader]; rfl) (Or.inl ?_)
    split_ifs <;> rfl
  | readFails =>
    obtain ⟨hreader, rfl⟩ := eq_of_ite_eq_some hstep
    exact h.readerStep (by rw [hreader]; rfl) (Or.inl rfl)
  | readOther =>
    obtain ⟨hreader, rfl⟩ := eq_of_ite_eq_some hstep
    exact h.readerStep (by rw [hreader]; rfl) (Or.inl rfl)
  | readResolve =>
    obtain ⟨hreader, rfl⟩ := eq_of_ite_eq_some hstep
    exact h.readerStep (by rw [hreader]; rfl) (Or.inr ⟨rfl, ha⟩)
  | enterCall i kind =>
    obtain ⟨hi, rfl⟩ := eq_of_ite_eq_some hstep
    refine h.quiet rfl rfl id rfl ?_ h.waiting rfl
    have hset := countP_set_add (Option.any CallPc.retains) (some kind.entry) hi
    have hentry : kind.entry.retains = false := by cases kind <;> rfl
    rw [Option.any_none, Option.any_some, hentry] at hset
    exact hset
  | readerCall op =>
    rw [Reaper.step.eq_def] at hstep
    simp only at hstep
    split at hstep
    · next pc hreader =>
      obtain ⟨⟨s₁, pc'⟩, hcall, rfl⟩ := Option.map_eq_some_iff.mp hstep
      exact h.readerCall hreader (callStep_effect hcall)
    · exact nomatch hstep
  | otherCall i op =>
    rw [Reaper.step.eq_def] at hstep
    simp only at hstep
    split at hstep
    · next pc hi =>
      obtain ⟨⟨s₁, pc'⟩, hcall, rfl⟩ := Option.map_eq_some_iff.mp hstep
      exact h.otherCall hi (callStep_effect hcall)
    · exact nomatch hstep

end Reaper

/-! ## Runs -/

open Reaper in
/-- **The reaper without a deadlock.**  In a run, with any number of other threads, in which the
stream is reaped outside its reader's resolves and none begins while the monitor waits for the
reader, the monitor never waits for a reader that waits for the list mutex, and the reader never
gives back the last reference. -/
theorem reaper_safe (threads : ℕ) (actions : List ReapAction)
    (houtside : Guarded.AllSteps step ReapsOutsideResolve (init threads) actions) :
    Guarded.Throughout step Safe (init threads) actions :=
  (Guarded.throughout_of_allSteps (fun _ _ _ h => h.step) (inv_init threads) houtside).mono
    fun _ h => h.safe

/-- The reader's resolve, up to where it reports the prompt gone. -/
def resolveReports : List ReapAction :=
  [.lockActive, .find true, .lockDetector 1, .report].map .readerCall

/-- The stream is linked, a resolve is read and reported on it, and its client leaves: the reader's
next read fails, and the monitor reaps the stream. -/
def quietEnd : List ReapAction :=
  [.link, .testClosing, .readResolve] ++ resolveReports
    ++ [.lockList, .collect, .unlockList, .send true, .release, .unlockDetector,
      .unlockActive].map .readerCall
    ++ [.testClosing, .readFails, .startReap, .reap, .monitorJoined, .endReap]

open Reaper in
theorem reaper_safe_quietEnd :
    (Guarded.run step (init 1) quietEnd).isSome
      ∧ Guarded.Throughout step Safe (init 1) quietEnd :=
  ⟨rfl, reaper_safe 1 quietEnd (by decide +kernel)⟩

/-- Another thread feeds the detector, reports one event, and its write fails. -/
def failingFeed : List ReapAction :=
  .enterCall 0 .feed
    :: [.lockDetector 1, .report, .lockList, .collect, .unlockList, .send false, .release,
        .unlockDetector].map (.otherCall 0)

/-- The write of a feed fails after the reader has read a resolve; the monitor reaps the stream. -/
def reapedBeforeReport : List ReapAction :=
  [.link, .testClosing, .readResolve] ++ failingFeed ++ [.startReap, .reap] ++ resolveReports

/-- The write of the resolve itself fails; the monitor reaps the stream before the reader gives its
reference back. -/
def reapedBeforeRelease : List ReapAction :=
  [.link, .testClosing, .readResolve] ++ resolveReports
    ++ [.lockList, .collect, .unlockList, .send false].map .readerCall
    ++ [.startReap, .reap, .endReap, .readerCall .release]

open Reaper in
/-- **Both failures are reached**: the monitor and the reader wait for each other, and a reader
gives back the last reference of its own stream. -/
theorem reaper_deadlocks :
    (∃ s, Guarded.run step (init 1) reapedBeforeReport = some s ∧ s.Deadlocked)
      ∧ ∃ s, Guarded.run step (init 0) reapedBeforeRelease = some s
        ∧ s.lastRelease = some .reader
        ∧ s.reader = .calling (.joining .resolve 0) := by
  exact ⟨⟨_, rfl, rfl, rfl, .resolve, 0, rfl⟩, ⟨_, rfl, rfl, rfl⟩⟩

end TmuxRemote
