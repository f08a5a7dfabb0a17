import TmuxRemote.Cli.Attach

/-!
# Cli/RelaySafety — what the relay passes on, and what it leaves behind

**What is shown is what the agent sent, and what the agent gets is what was typed**, each up to some
point and without a gap; the reader has ended before the stream is freed, and the terminal is as it
was when the relay returns (`relay_safe`).

Each direction is a history of what was taken in, what was passed on, and what a thread holds in
between (`Carried`); the invariant says so of both, and how far the two threads are from each other.
-/

namespace TmuxRemote

/-! ## What is under way -/

namespace RelayPc

/-- What of the typed bytes the SDK has not taken; nothing is said once the loop has been left. -/
def rest : RelayPc → Option (List UInt8)
  | sending rest _ => some rest
  | stopping | closing | joining | restoring _ | freeing _ | returned _ => none
  | _ => some []

/-- The terminal is in raw mode. -/
def isRaw : RelayPc → Bool
  | opened | freeing _ | returned _ => false
  | _ => true

/-- There is no reader yet. -/
def isEarly : RelayPc → Bool
  | opened | raw | watching => true
  | _ => false

/-- There is no reader any more. -/
def isOver : RelayPc → Bool
  | restoring _ | freeing _ | returned _ => true
  | _ => false

/-- The relay has returned. -/
def isReturned : RelayPc → Bool
  | returned _ => true
  | _ => false

end RelayPc

/-- What of the received bytes has not been shown; nothing is said once the loop has been left. -/
def StreamReaderPc.rest : StreamReaderPc → Option (List UInt8)
  | writing rest => some rest
  | notStarted | testing | reading _ => some []
  | storing | exited => none

/-- Bytes on their way: all are passed on but the rest, or those up to some point are. -/
def Carried (all passed : List UInt8) : Option (List UInt8) → Prop
  | some rest => all = passed ++ rest
  | none => passed <+: all

section

variable {all passed rest : List UInt8} {n : ℕ}

theorem Carried.isPrefix {rest : Option (List UInt8)} (h : Carried all passed rest) :
    passed <+: all := by
  cases rest with
  | none => exact h
  | some rest => exact ⟨rest, h.symm⟩

theorem Carried.all_passed (h : Carried all passed (some [])) : all = passed :=
  h.trans (List.append_nil passed)

/-- More comes in when nothing is left. -/
theorem Carried.read (h : Carried all passed (some [])) (data : List UInt8) :
    Carried (all ++ data) passed (some data) := by
  rw [h.all_passed]
  rfl

/-- Some of the rest is passed on. -/
theorem Carried.pass (h : Carried all passed (some rest)) (n : ℕ) :
    Carried all (passed ++ rest.take n) (some (rest.drop n)) := by
  rw [Carried, List.append_assoc, List.take_append_drop]
  exact h

end

/-- The wait for a write: it times out after sixty slices, and is then or before that aborted. -/
structure StreamWait.Bounded (w : StreamWait) : Prop where
  whole_slices : streamWaitSliceMs ∣ w.waitedMs
  waited_le : w.waitedMs ≤ streamWriteTimeoutMs
  enabled_lt : w.timeoutEnabled = true → w.waitedMs < streamWriteTimeoutMs
  enabled_iff : w.timeoutEnabled = true ↔ w.aborted = false

namespace StreamWait

variable {w : StreamWait}

theorem bounded_start : (start true).Bounded where
  whole_slices := ⟨0, rfl⟩
  waited_le := Nat.zero_le _
  enabled_lt := fun _ => by decide
  enabled_iff := by decide

/-- One slice. -/
theorem Bounded.slice (h : w.Bounded) (done : Bool) : (w.slice done).1.Bounded := by
  obtain ⟨⟨k, hk⟩, hle, hlt, hiff⟩ := h
  rw [StreamWait.slice]
  split_ifs with hdone henabled htimeout
  · exact ⟨⟨k, hk⟩, hle, fun h => absurd h (by simp), by simp⟩
  · have hwaited := hlt henabled
    refine ⟨⟨k + 1, ?_⟩, ?_, fun h => absurd h (by simp), by simp⟩
    · rw [hk]
      rfl
    · dsimp only
      rw [streamWaitSliceMs] at hk ⊢
      rw [streamWriteTimeoutMs] at hwaited ⊢
      omega
  · refine ⟨⟨k + 1, by rw [hk]; rfl⟩, ?_, fun _ => ?_, hiff⟩
    · exact (Nat.lt_of_not_le htimeout).le
    · exact Nat.lt_of_not_le htimeout
  · exact ⟨⟨k, hk⟩, hle, hlt, hiff⟩

end StreamWait

/-! ## The invariant -/

/-- What a user of the relay relies on. -/
structure RelaySafe (s : RelayThreads) : Prop where
  /-- What is shown was received, from its beginning on. -/
  shown_prefix : s.shown <+: s.received
  /-- What the agent gets was typed, from its beginning on. -/
  delivered_prefix : s.delivered <+: s.typed
  /-- Between two turns of the loop nothing typed is left behind. -/
  delivered_all : s.main.rest = some [] → s.delivered = s.typed
  /-- The terminal is in raw mode as long as the relay runs, and no longer. -/
  raw_iff : s.rawTerminal = s.main.isRaw
  /-- A stream that has been freed has no reader. -/
  reader_over : s.streamFreed = true → s.reader = .notStarted ∨ s.reader = .exited
  freed_iff : s.streamFreed = s.main.isReturned
  /-- A write is aborted after fifteen seconds. -/
  write_bounded : ∀ rest wait, s.main = .sending rest wait → wait.Bounded

namespace RelayThreads

/-- What every step keeps. -/
structure Inv (s : RelayThreads) : Prop where
  shown : Carried s.received s.shown s.reader.rest
  delivered : Carried s.typed s.delivered s.main.rest
  raw : s.rawTerminal = s.main.isRaw
  freed : s.streamFreed = s.main.isReturned
  ended : s.main.isOver = true → s.reader = .notStarted ∨ s.reader = .exited
  early : s.main.isEarly = true → s.reader = .notStarted ∧ s.done = false
  started : s.main.isEarly = false → s.main.isOver = false → s.reader ≠ .notStarted
  write_bounded : ∀ rest wait, s.main = .sending rest wait → wait.Bounded

variable {s : RelayThreads} {pc : RelayPc} {rpc : StreamReaderPc}

theorem Inv.relaySafe (h : Inv s) : RelaySafe s where
  shown_prefix := h.shown.isPrefix
  delivered_prefix := h.delivered.isPrefix
  delivered_all := fun hrest => by
    have hall := h.delivered
    rw [hrest] at hall
    exact hall.all_passed.symm
  raw_iff := h.raw
  reader_over := fun hfreed => h.ended (by
    rw [h.freed] at hfreed
    cases hmain : s.main <;> rw [hmain] at hfreed <;> first | rfl | cases hfreed)
  freed_iff := h.freed
  write_bounded := h.write_bounded

/-- The main thread may go from one place to another without more ado. -/
structure Moves (pc pc' : RelayPc) : Prop where
  empty_handed : ∀ rest wait, pc' ≠ .sending rest wait
  rest_eq : pc'.rest = pc.rest ∨ pc'.rest = none
  raw_eq : pc'.isRaw = pc.isRaw
  returned_eq : pc'.isReturned = pc.isReturned
  ended : pc'.isOver = true → pc.isOver = true
  early : pc'.isEarly = true → pc.isEarly = true
  started : pc'.isEarly = false → pc'.isOver = false → pc.isEarly = false ∧ pc.isOver = false

/-- The main thread goes on, with nothing in its hands. -/
theorem Inv.goto (h : Inv s) (hmain : s.main = pc) {pc' : RelayPc} (hmoves : Moves pc pc') :
    Inv { s with main := pc' } where
  shown := h.shown
  delivered := by
    have hdelivered := h.delivered
    rw [hmain] at hdelivered
    obtain hrest | hrest := hmoves.rest_eq
    · exact hrest ▸ hdelivered
    · exact hrest ▸ hdelivered.isPrefix
  raw := h.raw.trans (by rw [hmain, hmoves.raw_eq])
  freed := h.freed.trans (by rw [hmain, hmoves.returned_eq])
  ended := fun hover => h.ended (by rw [hmain]; exact hmoves.ended hover)
  early := fun hearly => h.early (by rw [hmain]; exact hmoves.early hearly)
  started := fun hearly hover => by
    obtain ⟨hearly', hover'⟩ := hmoves.started hearly hover
    exact h.started (by rw [hmain]; exact hearly') (by rw [hmain]; exact hover')
  write_bounded := fun rest wait hpc => absurd hpc (hmoves.empty_handed rest wait)

/-- `done` is set, or left alone, once the reader has been started. -/
theorem Inv.setDone (h : Inv s) (hstarted : s.main.isEarly = false) (done : Bool) :
    Inv { s with done := done } where
  shown := h.shown
  delivered := h.delivered
  raw := h.raw
  freed := h.freed
  ended := h.ended
  early := fun hearly => absurd hearly (by rw [hstarted]; exact Bool.false_ne_true)
  started := h.started
  write_bounded := h.write_bounded

/-- A reader that goes on has been started, and not been joined. -/
theorem Inv.reader_runs (h : Inv s) (hstarted : s.reader ≠ .notStarted)
    (hruns : s.reader ≠ .exited) : s.main.isOver = false ∧ s.main.isEarly = false := by
  refine ⟨Bool.eq_false_iff.mpr fun hover => ?_, Bool.eq_false_iff.mpr fun hearly => ?_⟩
  · exact (h.ended hover).elim hstarted hruns
  · exact hstarted (h.early hearly).1

/-- The reader goes on, with what it has received and shown. -/
theorem Inv.gotoReader (h : Inv s) (hstarted : s.reader ≠ .notStarted) (hruns : s.reader ≠ .exited)
    (hrpc : rpc ≠ .notStarted) {received shown : List UInt8}
    (hshown : Carried received shown rpc.rest) :
    Inv { s with reader := rpc, received := received, shown := shown } where
  shown := hshown
  delivered := h.delivered
  raw := h.raw
  freed := h.freed
  ended := fun hover =>
    absurd hover (by rw [(h.reader_runs hstarted hruns).1]; exact Bool.false_ne_true)
  early := fun hearly =>
    absurd hearly (by rw [(h.reader_runs hstarted hruns).2]; exact Bool.false_ne_true)
  started := fun _ _ => hrpc
  write_bounded := h.write_bounded

end RelayThreads

namespace StreamRelay

variable {s s' : StreamRelay} {a : Action}

theorem inv_init (told window : WindowSize) : (init told window).Inv where
  shown := rfl
  delivered := rfl
  raw := rfl
  freed := rfl
  ended := nofun
  early := fun _ => ⟨rfl, rfl⟩
  started := nofun
  write_bounded := nofun

theorem inv_setRaw (h : s.Inv) {ok : Bool} (hstep : step s (.setRaw ok) = some s') : s'.Inv := by
  rw [step] at hstep
  split at hstep
  · rename_i hmain
    obtain rfl := Option.some.inj hstep
    have hdelivered := h.delivered
    have hearly := h.early (by rw [hmain]; rfl)
    have hfreed := h.freed
    rw [hmain] at hdelivered hfreed
    cases ok
    · exact
        { shown := h.shown
          delivered := hdelivered.isPrefix
          raw := h.raw.trans (by rw [hmain]; rfl)
          freed := hfreed
          ended := fun _ => .inl hearly.1
          early := nofun
          started := nofun
          write_bounded := nofun }
    · exact
        { shown := h.shown
          delivered := hdelivered
          raw := rfl
          freed := hfreed
          ended := nofun
          early := fun _ => hearly
          started := nofun
          write_bounded := nofun }
  · cases hstep

theorem inv_createReader (h : s.Inv) {ok : Bool} (hstep : step s (.createReader ok) = some s') :
    s'.Inv := by
  rw [step] at hstep
  split at hstep
  · rename_i hmain
    obtain rfl := Option.some.inj hstep
    have hearly := h.early (by rw [hmain]; rfl)
    have hdelivered := h.delivered
    have hshown := h.shown
    rw [hmain] at hdelivered
    rw [hearly.1] at hshown
    cases ok
    · exact
        { shown := h.shown
          delivered := hdelivered.isPrefix
          raw := h.raw.trans (by rw [hmain]; rfl)
          freed := h.freed.trans (by rw [hmain]; rfl)
          ended := fun _ => .inl hearly.1
          early := nofun
          started := nofun
          write_bounded := nofun }
    · exact
        { shown := hshown
          delivered := hdelivered
          raw := h.raw.trans (by rw [hmain]; rfl)
          freed := h.freed.trans (by rw [hmain]; rfl)
          ended := nofun
          early := nofun
          started := nofun
          write_bounded := nofun }
  · cases hstep

/-- A place to go on to behind the test of `sigwinch_received`. -/
theorem moves_afterSigwinch {pc : RelayPc} (hrest : pc.rest = some []) (hraw : pc.isRaw = true)
    (hstarted : pc.isEarly = false ∧ pc.isOver = false) (ready : Bool) :
    RelayThreads.Moves pc (afterSigwinch ready) := by
  have hreturned : pc.isReturned = false := by
    cases pc with
    | returned code => cases hrest
    | _ => rfl
  cases ready
  · exact ⟨nofun, .inl hrest.symm, hraw.symm, hreturned.symm, nofun, nofun, fun _ _ => hstarted⟩
  · exact ⟨nofun, .inl hrest.symm, hraw.symm, hreturned.symm, nofun, nofun, fun _ _ => hstarted⟩

/-- A read of the terminal. -/
theorem inv_readInput (h : s.Inv) {data : List UInt8} (hstep : step s (.readInput data) = some s') :
    s'.Inv := by
  rw [step] at hstep
  split at hstep
  · rename_i hmain
    have hdelivered := h.delivered
    rw [hmain] at hdelivered
    split_ifs at hstep
    · obtain rfl := Option.some.inj hstep
      exact h.goto hmain ⟨nofun, .inr rfl, rfl, rfl, nofun, nofun, fun _ _ => ⟨rfl, rfl⟩⟩
    · obtain rfl := Option.some.inj hstep
      exact
        { shown := h.shown
          delivered := hdelivered.read data
          raw := h.raw.trans (by rw [hmain]; rfl)
          freed := h.freed.trans (by rw [hmain]; rfl)
          ended := nofun
          early := nofun
          started := fun _ _ => h.started (by rw [hmain]; rfl) (by rw [hmain]; rfl)
          write_bounded := by
            rintro rest wait ⟨⟩
            exact StreamWait.bounded_start }
  · cases hstep

/-- The SDK takes a part of a write. -/
theorem inv_take (h : s.Inv) {n : ℕ} (hstep : step s (.take n) = some s') : s'.Inv := by
  rw [step] at hstep
  split at hstep
  · rename_i rest wait hmain
    have hdelivered := h.delivered
    have hbounded := h.write_bounded rest wait hmain
    rw [hmain] at hdelivered
    obtain ⟨-, heq⟩ := Option.ite_none_right_eq_some.mp hstep
    obtain rfl := Option.some.inj heq
    exact
      { shown := h.shown
        delivered := hdelivered.pass n
        raw := h.raw.trans (by rw [hmain]; rfl)
        freed := h.freed.trans (by rw [hmain]; rfl)
        ended := nofun
        early := nofun
        started := fun _ _ => h.started (by rw [hmain]; rfl) (by rw [hmain]; rfl)
        write_bounded := by
          rintro rest' wait' ⟨⟩
          exact hbounded }
  · cases hstep

/-- A slice of a write goes by. -/
theorem inv_writeSlice (h : s.Inv) (hstep : step s .writeSlice = some s') : s'.Inv := by
  rw [step] at hstep
  split at hstep
  · rename_i rest wait hmain
    have hdelivered := h.delivered
    have hbounded := h.write_bounded rest wait hmain
    rw [hmain] at hdelivered
    obtain ⟨-, heq⟩ := Option.ite_none_left_eq_some.mp hstep
    obtain rfl := Option.some.inj heq
    exact
      { shown := h.shown
        delivered := hdelivered
        raw := h.raw.trans (by rw [hmain]; rfl)
        freed := h.freed.trans (by rw [hmain]; rfl)
        ended := nofun
        early := nofun
        started := fun _ _ => h.started (by rw [hmain]; rfl) (by rw [hmain]; rfl)
        write_bounded := by
          rintro rest' wait' ⟨⟩
          exact hbounded.slice s.done }
  · cases hstep

/-- The steps behind the join. -/
theorem inv_finish (h : s.Inv) (ha : a = .join ∨ a = .restore ∨ a = .free)
    (hstep : step s a = some s') : s'.Inv := by
  have hdelivered := h.delivered.isPrefix
  obtain rfl | rfl | rfl := ha <;> rw [step] at hstep <;> split at hstep
  · rename_i hmain hreader
    obtain rfl := Option.some.inj hstep
    exact
      { shown := h.shown
        delivered := hdelivered
        raw := h.raw.trans (by rw [hmain]; rfl)
        freed := h.freed.trans (by rw [hmain]; rfl)
        ended := fun _ => .inr hreader
        early := nofun
        started := nofun
        write_bounded := nofun }
  · cases hstep
  · rename_i code hmain
    obtain rfl := Option.some.inj hstep
    exact
      { shown := h.shown
        delivered := hdelivered
        raw := rfl
        freed := h.freed.trans (by rw [hmain]; rfl)
        ended := fun _ => h.ended (by rw [hmain]; rfl)
        early := nofun
        started := nofun
        write_bounded := nofun }
  · cases hstep
  · rename_i code hmain
    obtain rfl := Option.some.inj hstep
    exact
      { shown := h.shown
        delivered := hdelivered
        raw := h.raw.trans (by rw [hmain]; rfl)
        freed := rfl
        ended := fun _ => h.ended (by rw [hmain]; rfl)
        early := nofun
        started := nofun
        write_bounded := nofun }
  · cases hstep

/-- A read of the stream. -/
theorem inv_readStream (h : s.Inv) {data : Option (List UInt8)}
    (hstep : step s (.readStream data) = some s') : s'.Inv := by
  have hshown := h.shown
  rw [step.eq_def] at hstep
  dsimp only at hstep
  split at hstep
  · rename_i wait hreader
    have hstarted : s.reader ≠ .notStarted := by rw [hreader]; nofun
    have hruns : s.reader ≠ .exited := by rw [hreader]; nofun
    cases data with
    | none =>
      obtain rfl := Option.some.inj hstep
      exact h.gotoReader hstarted hruns (by nofun) hshown.isPrefix
    | some data =>
      rw [hreader] at hshown
      obtain ⟨-, heq⟩ := Option.ite_none_left_eq_some.mp hstep
      obtain rfl := Option.some.inj heq
      refine h.gotoReader hstarted hruns (by split_ifs <;> nofun) ?_
      split_ifs with hempty
      · rw [List.isEmpty_iff.mp hempty, List.append_nil]
        exact hshown
      · exact hshown.read data
  · cases hstep

/-- A write to the terminal. -/
theorem inv_show (h : s.Inv) {n : ℕ} (hstep : step s (.display n) = some s') : s'.Inv := by
  have hshown := h.shown
  rw [step] at hstep
  split at hstep
  · rename_i rest hreader
    rw [hreader] at hshown
    obtain ⟨-, heq⟩ := Option.ite_none_right_eq_some.mp hstep
    obtain rfl := Option.some.inj heq
    refine h.gotoReader (by rw [hreader]; nofun) (by rw [hreader]; nofun)
      (by split_ifs <;> nofun) ?_
    have hpass := hshown.pass n
    split_ifs with hall
    · rw [hall, List.drop_length] at hpass
      rw [hall]
      exact hpass
    · exact hpass
  · cases hstep

/-- **One step** keeps the invariant. -/
theorem inv_step (h : s.Inv) (hstep : step s a = some s') : s'.Inv := by
  cases a with
  | resize window =>
    obtain rfl := Option.some.inj hstep
    exact h
  | setRaw ok => exact inv_setRaw h hstep
  | createReader ok => exact inv_createReader h hstep
  | readInput data => exact inv_readInput h hstep
  | take n => exact inv_take h hstep
  | writeSlice => exact inv_writeSlice h hstep
  | join => exact inv_finish h (.inl rfl) hstep
  | restore => exact inv_finish h (.inr (.inl rfl)) hstep
  | free => exact inv_finish h (.inr (.inr rfl)) hstep
  | readStream data => exact inv_readStream h hstep
  | display n => exact inv_show h hstep
  | installHandler =>
    rw [step] at hstep
    split at hstep
    · rename_i hmain
      obtain rfl := Option.some.inj hstep
      exact h.goto hmain ⟨nofun, .inl rfl, rfl, rfl, nofun, fun _ => rfl, nofun⟩
    · cases hstep
  | test =>
    rw [step] at hstep
    split at hstep
    · rename_i hmain
      obtain rfl := Option.some.inj hstep
      refine h.goto hmain ?_
      split_ifs
      · exact ⟨nofun, .inr rfl, rfl, rfl, nofun, nofun, fun _ _ => ⟨rfl, rfl⟩⟩
      · exact ⟨nofun, .inl rfl, rfl, rfl, nofun, nofun, fun _ _ => ⟨rfl, rfl⟩⟩
    · cases hstep
  | selected ready =>
    rw [step] at hstep
    split at hstep
    · rename_i hmain
      obtain rfl := Option.some.inj hstep
      exact h.goto hmain ⟨nofun, .inl rfl, rfl, rfl, nofun, nofun, fun _ _ => ⟨rfl, rfl⟩⟩
    · cases hstep
  | testSigwinch =>
    rw [step] at hstep
    split at hstep
    · rename_i ready hmain
      obtain rfl := Option.some.inj hstep
      split_ifs
      · exact h.goto hmain ⟨nofun, .inl rfl, rfl, rfl, nofun, nofun, fun _ _ => ⟨rfl, rfl⟩⟩
      · exact h.goto hmain (moves_afterSigwinch rfl rfl ⟨rfl, rfl⟩ ready)
    · cases hstep
  | getSize ok =>
    rw [step] at hstep
    split at hstep
    · rename_i ready hmain
      obtain rfl := Option.some.inj hstep
      refine h.goto hmain ?_
      split_ifs
      · exact ⟨nofun, .inl rfl, rfl, rfl, nofun, nofun, fun _ _ => ⟨rfl, rfl⟩⟩
      · exact moves_afterSigwinch rfl rfl ⟨rfl, rfl⟩ ready
    · cases hstep
  | tell ok =>
    rw [step] at hstep
    split at hstep
    · rename_i size ready hmain
      obtain rfl := Option.some.inj hstep
      exact h.goto hmain (moves_afterSigwinch rfl rfl ⟨rfl, rfl⟩ ready)
    · cases hstep
  | written ok =>
    rw [step] at hstep
    split at hstep
    · rename_i rest wait hmain
      split_ifs at hstep with hok hempty
      · obtain rfl := Option.some.inj hstep
        rw [List.isEmpty_iff] at hempty
        subst hempty
        exact h.goto hmain ⟨nofun, .inl rfl, rfl, rfl, nofun, nofun, fun _ _ => ⟨rfl, rfl⟩⟩
      · obtain rfl := Option.some.inj hstep
        exact h.goto hmain ⟨nofun, .inr rfl, rfl, rfl, nofun, nofun, fun _ _ => ⟨rfl, rfl⟩⟩
    · cases hstep
  | stop =>
    rw [step] at hstep
    split at hstep
    · rename_i hmain
      obtain rfl := Option.some.inj hstep
      have hgoto : RelayThreads.Inv { s.toRelayThreads with main := .closing } :=
        h.goto hmain ⟨nofun, .inr rfl, rfl, rfl, nofun, nofun, fun _ _ => ⟨rfl, rfl⟩⟩
      exact hgoto.setDone rfl true
    · cases hstep
  | closed =>
    rw [step] at hstep
    split at hstep
    · rename_i hmain
      obtain rfl := Option.some.inj hstep
      exact h.goto hmain ⟨nofun, .inr rfl, rfl, rfl, nofun, nofun, fun _ _ => ⟨rfl, rfl⟩⟩
    · cases hstep
  | readerTest =>
    rw [step] at hstep
    split at hstep
    · rename_i hreader
      obtain rfl := Option.some.inj hstep
      have hshown := h.shown
      rw [hreader] at hshown
      refine h.gotoReader (by rw [hreader]; nofun) (by rw [hreader]; nofun)
        (by split_ifs <;> nofun) ?_
      split_ifs
      · exact hshown.isPrefix
      · exact hshown
    · cases hstep
  | readSlice =>
    rw [step] at hstep
    split at hstep
    · rename_i wait hreader
      obtain ⟨-, heq⟩ := Option.ite_none_left_eq_some.mp hstep
      obtain rfl := Option.some.inj heq
      have hshown := h.shown
      rw [hreader] at hshown
      have hruns := h.reader_runs (by rw [hreader]; nofun) (by rw [hreader]; nofun)
      have hnext : Carried s.received s.shown (StreamReaderPc.reading (wait.slice s.done).1).rest :=
        hshown
      exact (h.gotoReader (by rw [hreader]; nofun) (by rw [hreader]; nofun) (by nofun)
        hnext).setDone hruns.2 _
    · cases hstep
  | displayFailed =>
    rw [step] at hstep
    split at hstep
    · rename_i rest hreader
      obtain rfl := Option.some.inj hstep
      exact h.gotoReader (by rw [hreader]; nofun) (by rw [hreader]; nofun) (by nofun)
        h.shown.isPrefix
    · cases hstep
  | readerStop =>
    rw [step] at hstep
    split at hstep
    · rename_i hreader
      obtain rfl := Option.some.inj hstep
      have hruns := h.reader_runs (by rw [hreader]; nofun) (by rw [hreader]; nofun)
      have hnext : Carried s.received s.shown StreamReaderPc.exited.rest := h.shown.isPrefix
      exact (h.gotoReader (by rw [hreader]; nofun) (by rw [hreader]; nofun) (by nofun)
        hnext).setDone hruns.2 _
    · cases hstep

/-- **The relay is safe** after any steps of its two threads, the terminal and the SDK. -/
theorem relay_safe (told window : WindowSize) (actions : List Action)
    (hrun : Guarded.run step (init told window) actions = some s) :
    RelaySafe s.toRelayThreads :=
  (Guarded.run_invariant (fun _ _ _ h => inv_step h) (inv_init told window) hrun).relaySafe

/-- A size of the window. -/
def eighty : WindowSize := ⟨80, 24⟩

/-- A byte goes each way, the terminal goes away, and the relay returns. -/
def bothWays : List Action :=
  [.setRaw true, .installHandler, .createReader true, .test, .selected true, .readerTest,
    .readStream (some [0x24, 0x20]), .display 2, .testSigwinch, .readInput [0x6C], .take 1,
    .written true, .test, .selected true, .testSigwinch, .readInput [], .stop, .closed, .readerTest,
    .readerStop, .join, .restore, .free]

theorem relay_safe_of_bothWays :
    RelaySafe ((Guarded.run step (init eighty eighty) bothWays).get (by decide)).toRelayThreads :=
  relay_safe eighty eighty bothWays (Option.some_get _).symm

end StreamRelay

end TmuxRemote
