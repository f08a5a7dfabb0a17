import Mathlib.Data.List.GetD
import TmuxRemote.Library.Guarded

/-!
# Ios/Typing — typed bytes from `writeToStream` to the PTY

`writeToStream` spawns a task for each call; the task, when it gets to run, starts its write on the
stream.  Tasks are not ordered with each other, and the stream delivers what is written in the order
in which the writes are started.  On the agent `stream_reader_thread` reads some bytes and gives
them to `write_all_fd`.

The agent's side keeps the order whatever the reads and the partial writes are; whether the PTY gets
what was typed is a matter of the order in which the tasks start (`typed_in_order_iff`).
-/

namespace TmuxRemote

/-- Where `stream_reader_thread` stands. -/
inductive TypingReaderPc
  /-- Before the test of `closing`. -/
  | testing
  | reading
  /-- In the loop of `write_all_fd`, `total` bytes of `buf` being written. -/
  | writing (buf : List UInt8) (total : ℕ)
  | exited
  deriving DecidableEq

/-- What a `write` comes back with. -/
inductive PtyWrite
  | written (k : ℕ)
  /-- `EINTR`, `EAGAIN` or `EWOULDBLOCK` -/
  | interrupted
  /-- Another error, or no byte. -/
  | failed
  deriving DecidableEq

/-- One open stream, with the calls and tasks on one side and the PTY on the other. -/
structure TypedStream where
  /-- The data of each call of `writeToStream`. -/
  calls : List (List UInt8)
  /-- The tasks that have started their write, in the order in which they did. -/
  started : List ℕ
  /-- Delivered and not read. -/
  wire : List UInt8
  closing : Bool
  /-- `ptyFd >= 0` -/
  ptyFd : Bool
  reader : TypingReaderPc
  pty : List UInt8
  deriving DecidableEq

/-- The steps. -/
inductive TypingAction
  | writeToStream (data : List UInt8)
  /-- The task of the `i`-th call gets to run. -/
  | startTask (i : ℕ)
  | testClosing
  | readSome (n : ℕ)
  | readFails
  | writePty (result : PtyWrite)
  /-- Another thread of the data stream sets `closing`, or closes the PTY. -/
  | setClosing
  | closePty
  deriving DecidableEq

namespace TypedStream

/-- The stream is open, and `stream_reader_thread` has started. -/
def init : TypedStream :=
  { calls := [], started := [], wire := [], closing := false, ptyFd := true, reader := .testing,
    pty := [] }

/-- `TMUXREMOTE_STREAM_BUFFER_SIZE` -/
def bufferSize : ℕ := 4096

/-- A write of `write_all_fd`, in its loop. -/
def writeAllFd (s : TypedStream) (buf : List UInt8) (total : ℕ) : PtyWrite → Option TypedStream
  | .written k =>
    if 0 < k ∧ total + k ≤ buf.length ∧ s.ptyFd then
      some { s with
        pty := s.pty ++ (buf.drop total).take k
        reader := if total + k < buf.length then .writing buf (total + k) else .testing }
    else none
  | .interrupted => some s
  | .failed => some { s with reader := .exited }

/-- One step; `none` when it is not enabled. -/
def step (s : TypedStream) : TypingAction → Option TypedStream
  | .writeToStream data => some { s with calls := s.calls ++ [data] }
  | .startTask i =>
    if i ∈ s.started then none
    else s.calls[i]?.map fun data => { s with started := s.started ++ [i], wire := s.wire ++ data }
  | .testClosing =>
    if s.reader = .testing then some { s with reader := if s.closing then .exited else .reading }
    else none
  | .readSome n =>
    if s.reader = .reading ∧ n ≤ bufferSize ∧ n ≤ s.wire.length then
      some { s with
        wire := s.wire.drop n
        reader := if 0 < n ∧ s.ptyFd then .writing (s.wire.take n) 0 else .testing }
    else none
  | .readFails => if s.reader = .reading then some { s with reader := .exited } else none
  | .writePty result =>
    match s.reader with
    | .writing buf total => s.writeAllFd buf total result
    | _ => none
  | .setClosing => some { s with closing := true }
  | .closePty => some { s with ptyFd := false }

/-- What the tasks send, in the order in which they start. -/
def startedData (calls : List (List UInt8)) (order : List ℕ) : List UInt8 :=
  order.flatMap fun i => calls.getD i []

theorem startedData_concat (calls : List (List UInt8)) (order : List ℕ) (i : ℕ) :
    startedData calls (order ++ [i]) = startedData calls order ++ calls.getD i [] := by
  rw [startedData, List.flatMap_append, List.flatMap_singleton]
  rfl

/-- More calls change nothing of what was sent for those there were. -/
theorem startedData_of_prefix {calls calls' : List (List UInt8)} {order : List ℕ}
    (hcalls : calls <+: calls') (horder : ∀ i ∈ order, i < calls.length) :
    startedData calls' order = startedData calls order := by
  obtain ⟨rest, rfl⟩ := hcalls
  refine List.flatMap_congr fun i hi => ?_
  rw [List.getD_append _ _ _ _ (horder i hi)]

theorem startedData_mono (calls : List (List UInt8)) {order order' : List ℕ}
    (h : order <+: order') : startedData calls order <+: startedData calls order' := by
  obtain ⟨rest, rfl⟩ := h
  rw [startedData, startedData, List.flatMap_append]
  exact List.prefix_append _ _

end TypedStream

/-- What the reader has read and not yet written. -/
def TypingReaderPc.rest : TypingReaderPc → List UInt8
  | writing buf total => buf.drop total
  | _ => []

namespace TypedStream

/-- Nothing that was sent is lost, or nothing more comes to the PTY. -/
structure Conveyed (s : TypedStream) : Prop where
  started : ∀ i ∈ s.started, i < s.calls.length
  bytes : s.pty ++ (s.reader.rest ++ s.wire) = startedData s.calls s.started
    ∨ s.pty <+: startedData s.calls s.started ∧ (s.ptyFd = false ∨ s.reader = .exited)

variable {s s' : TypedStream}

theorem Conveyed.pty_prefix (h : s.Conveyed) : s.pty <+: startedData s.calls s.started := by
  rcases h.bytes with hbytes | ⟨hfront, -⟩
  · exact hbytes ▸ List.prefix_append _ _
  · exact hfront

/-- The reader ends: what it has is lost. -/
theorem Conveyed.exit (h : s.Conveyed) : Conveyed { s with reader := .exited } :=
  ⟨h.started, Or.inr ⟨h.pty_prefix, Or.inr rfl⟩⟩

/-- A write of `write_all_fd` puts the next bytes on the PTY. -/
theorem Conveyed.writeAllFd (h : s.Conveyed) {buf : List UInt8} {total : ℕ} {result : PtyWrite}
    (hreader : s.reader = .writing buf total) (hs : s.writeAllFd buf total result = some s') :
    s'.Conveyed := by
  cases result with
  | written k =>
    obtain ⟨⟨hk, hle, hfd⟩, hs⟩ := Option.ite_none_right_eq_some.mp hs
    obtain rfl := Option.some.inj hs
    have hrest : s.reader.rest = buf.drop total := by rw [hreader]; rfl
    have hbytes := h.bytes.resolve_right fun hlost => by
      rcases hlost.2 with hclosed | hexited
      · exact absurd (hclosed.symm.trans hfd) Bool.false_ne_true
      · rw [hreader] at hexited
        cases hexited
    refine ⟨h.started, Or.inl ?_⟩
    rw [← hbytes, hrest]
    have hnext : TypingReaderPc.rest
        (if total + k < buf.length then .writing buf (total + k) else .testing)
          = (buf.drop total).drop k := by
      rw [List.drop_drop]
      split
      case isTrue => rfl
      case isFalse hlt => exact (List.drop_eq_nil_of_le (Nat.not_lt.mp hlt)).symm
    change s.pty ++ (buf.drop total).take k ++ (TypingReaderPc.rest _ ++ s.wire) = _
    rw [hnext, List.append_assoc, ← List.append_assoc ((buf.drop total).take k),
      List.take_append_drop]
  | interrupted => exact Option.some.inj hs ▸ h
  | failed => exact Option.some.inj hs ▸ h.exit

/-- **The step lemma.** -/
theorem Conveyed.step {a : TypingAction} (h : s.Conveyed) (hs : s.step a = some s') :
    s'.Conveyed := by
  cases a with
  | writeToStream data =>
    obtain rfl := Option.some.inj hs
    have hsame : startedData (s.calls ++ [data]) s.started = startedData s.calls s.started :=
      startedData_of_prefix (List.prefix_append _ _) h.started
    refine ⟨fun i hi => ?_, hsame ▸ h.bytes⟩
    rw [List.length_append]
    exact Nat.lt_add_right _ (h.started i hi)
  | startTask i =>
    obtain ⟨-, hs⟩ := Option.ite_none_left_eq_some.mp hs
    obtain ⟨data, hdata, rfl⟩ := Option.map_eq_some_iff.mp hs
    have hsent : startedData s.calls (s.started ++ [i])
        = startedData s.calls s.started ++ data := by
      rw [startedData_concat, List.getD_eq_getElem?_getD, hdata]
      rfl
    refine ⟨fun j hj => ?_, ?_⟩
    · rcases List.mem_append.mp hj with hj | hj
      · exact h.started j hj
      · exact List.mem_singleton.mp hj ▸ (List.getElem?_eq_some_iff.mp hdata).1
    · change s.pty ++ (s.reader.rest ++ (s.wire ++ data)) = startedData s.calls (s.started ++ [i])
        ∨ s.pty <+: startedData s.calls (s.started ++ [i]) ∧ _
      rw [hsent]
      rcases h.bytes with hbytes | ⟨hfront, hlost⟩
      · left
        rw [← hbytes]
        simp only [List.append_assoc]
      · exact Or.inr ⟨hfront.trans (List.prefix_append _ _), hlost⟩
  | testClosing =>
    obtain ⟨hreader, hs⟩ := Option.ite_none_right_eq_some.mp hs
    obtain rfl := Option.some.inj hs
    split
    · exact h.exit
    · refine ⟨h.started, ?_⟩
      have hbytes := h.bytes
      rw [hreader] at hbytes
      exact hbytes.imp_right fun hlost => ⟨hlost.1, hlost.2.imp_right nofun⟩
  | readSome n =>
    obtain ⟨⟨hreader, -, hn⟩, hs⟩ := Option.ite_none_right_eq_some.mp hs
    obtain rfl := Option.some.inj hs
    have hbytes := h.bytes
    rw [hreader] at hbytes
    refine ⟨h.started, ?_⟩
    cases hfd : s.ptyFd with
    | false => exact Or.inr ⟨h.pty_prefix, Or.inl rfl⟩
    | true =>
      have hkept := hbytes.resolve_right fun hlost => by
        rcases hlost.2 with hclosed | hexited
        · exact absurd (hclosed.symm.trans hfd) Bool.false_ne_true
        · cases hexited
      left
      rw [← hkept]
      change s.pty ++ (TypingReaderPc.rest (if 0 < n ∧ true = true then _ else _) ++ s.wire.drop n)
        = s.pty ++ s.wire
      split
      case isTrue => exact congrArg (s.pty ++ ·) (List.take_append_drop n s.wire)
      case isFalse hzero =>
        rw [Nat.eq_zero_of_not_pos fun hpos => hzero ⟨hpos, rfl⟩]
        rfl
  | readFails =>
    obtain ⟨-, hs⟩ := Option.ite_none_right_eq_some.mp hs
    exact Option.some.inj hs ▸ h.exit
  | writePty result =>
    cases hreader : s.reader with
    | writing buf total =>
      rw [TypedStream.step, hreader] at hs
      exact h.writeAllFd hreader hs
    | testing | reading | exited =>
      rw [TypedStream.step, hreader] at hs
      cases hs
  | setClosing => exact Option.some.inj hs ▸ ⟨h.started, h.bytes⟩
  | closePty =>
    exact Option.some.inj hs ▸ ⟨h.started, Or.inr ⟨h.pty_prefix, Or.inl rfl⟩⟩

/-- **The run lemma.** -/
theorem Conveyed.run {as : List TypingAction}
    (hs : Guarded.run TypedStream.step .init as = some s) :
    s.Conveyed :=
  Guarded.run_invariant (fun _ _ _ h hstep => h.step hstep)
    ⟨fun _ h => absurd h List.not_mem_nil, Or.inl rfl⟩ hs

/-! ## Everything gets through -/

/-- The calls are made one after the other. -/
theorem run_writeToStream (calls : List (List UInt8)) :
    Guarded.run TypedStream.step s (calls.map .writeToStream)
      = some { s with calls := s.calls ++ calls } := by
  induction calls generalizing s with
  | nil => rw [List.append_nil]; rfl
  | cons data calls ih =>
    have hnext := ih (s := { s with calls := s.calls ++ [data] })
    rw [List.append_assoc] at hnext
    exact hnext

/-- Tasks start in any order. -/
theorem run_startTask {order : List ℕ} (hnodup : (s.started ++ order).Nodup)
    (horder : ∀ i ∈ order, i < s.calls.length) :
    Guarded.run TypedStream.step s (order.map .startTask)
      = some { s with
        started := s.started ++ order
        wire := s.wire ++ startedData s.calls order } := by
  induction order generalizing s with
  | nil =>
    rw [List.append_nil, startedData, List.flatMap_nil, List.append_nil]
    rfl
  | cons i order ih =>
    have hi : i ∉ s.started := fun hmem =>
      (List.nodup_append.mp hnodup).2.2 i hmem i List.mem_cons_self rfl
    obtain ⟨hlt, hrest⟩ := List.forall_mem_cons.mp horder
    have hdata : s.calls[i]? = some (s.calls.getD i []) := by
      rw [List.getD_eq_getElem?_getD, List.getElem?_eq_getElem hlt]
      rfl
    have hstep : s.step (.startTask i)
        = some { s with
          started := s.started ++ [i]
          wire := s.wire ++ s.calls.getD i [] } := by
      rw [TypedStream.step, if_neg hi, hdata]
      rfl
    have hnext := ih (s := { s with
      started := s.started ++ [i]
      wire := s.wire ++ s.calls.getD i [] }) (by rw [List.append_assoc]; exact hnodup) hrest
    rw [List.append_assoc, List.append_assoc] at hnext
    rw [List.map_cons, Guarded.run_cons, hstep]
    exact hnext

/-- The reader reads and writes a byte. -/
theorem run_byte {b : UInt8} {wire : List UInt8} (hreader : s.reader = .testing)
    (hclosing : s.closing = false) (hfd : s.ptyFd = true) (hwire : s.wire = b :: wire) :
    Guarded.run TypedStream.step s [.testClosing, .readSome 1, .writePty (.written 1)]
      = some { s with wire := wire, pty := s.pty ++ [b] } := by
  obtain ⟨calls, started, wire', closing, ptyFd, reader, pty⟩ := s
  obtain rfl : reader = .testing := hreader
  obtain rfl : closing = false := hclosing
  obtain rfl : ptyFd = true := hfd
  obtain rfl : wire' = b :: wire := hwire
  rfl

/-- The reader reads and writes a byte at a time until nothing is left. -/
theorem exists_run_read (hreader : s.reader = .testing) (hclosing : s.closing = false)
    (hfd : s.ptyFd = true) : ∃ as, Guarded.run TypedStream.step s as
      = some { s with wire := [], pty := s.pty ++ s.wire } := by
  generalize hwire : s.wire = wire
  induction wire generalizing s with
  | nil =>
    refine ⟨[], ?_⟩
    rw [Guarded.run_nil, List.append_nil, ← hwire]
  | cons b wire ih =>
    have hbyte := run_byte hreader hclosing hfd hwire
    obtain ⟨as, has⟩ :=
      ih (s := { s with wire := wire, pty := s.pty ++ [b] }) hreader hclosing hfd rfl
    refine ⟨[.testClosing, .readSome 1, .writePty (.written 1)] ++ as, ?_⟩
    refine (Guarded.run_append_eq_some TypedStream.step).mpr ⟨_, hbyte, ?_⟩
    rw [List.append_assoc] at has
    exact has

/-- Tasks that start in the order of the calls send what was typed. -/
theorem startedData_range {calls : List (List UInt8)} {n : ℕ} (hn : n ≤ calls.length) :
    startedData calls (List.range n) <+: calls.flatten := by
  have htaken : startedData calls (List.range n) = (calls.take n).flatten := by
    induction n with
    | zero => rfl
    | succ n ih =>
      have hlt : n < calls.length := hn
      rw [List.range_succ, startedData_concat, ih (Nat.le_of_lt hlt),
        List.take_succ_eq_append_getElem hlt, List.flatten_append, List.flatten_singleton,
        List.getD_eq_getElem _ _ hlt]
  rw [htaken]
  nth_rewrite 2 [← List.take_append_drop n calls]
  rw [List.flatten_append]
  exact List.prefix_append _ _

/-- **Typed bytes reach the PTY in order exactly if the tasks send them in order.**  For an order in
which the tasks start: whatever the reads and the partial writes are, what is on the PTY is at any
time a prefix of what was typed if and only if what the tasks send in that order is one.  So it is
when they start in the order of the calls. -/
theorem typed_in_order_iff {calls : List (List UInt8)} {order : List ℕ} (hnodup : order.Nodup)
    (horder : ∀ i ∈ order, i < calls.length) :
    ((∀ as s, Guarded.run TypedStream.step .init as = some s → s.calls <+: calls →
        s.started <+: order → s.pty <+: calls.flatten)
      ↔ startedData calls order <+: calls.flatten)
    ∧ (order = List.range order.length → startedData calls order <+: calls.flatten) := by
  refine ⟨⟨fun h => ?_, fun h as s hs hcalls hstarted => ?_⟩, fun hrange => ?_⟩
  · have hcalled := run_writeToStream (s := .init) calls
    have hstarted := run_startTask (s := { TypedStream.init with calls := calls }) hnodup horder
    obtain ⟨as, has⟩ := exists_run_read (s := { TypedStream.init with
      calls := calls
      started := order
      wire := startedData calls order }) rfl rfl rfl
    have hrun := (Guarded.run_append_eq_some TypedStream.step).mpr ⟨_, hcalled,
      (Guarded.run_append_eq_some TypedStream.step).mpr ⟨_, hstarted, has⟩⟩
    exact h _ _ hrun (List.prefix_refl calls) (List.prefix_refl order)
  · have hconveyed := Conveyed.run hs
    have hsame := startedData_of_prefix hcalls hconveyed.started
    exact (hsame ▸ hconveyed.pty_prefix).trans ((startedData_mono calls hstarted).trans h)
  · rw [hrange]
    refine startedData_range (Nat.le_of_not_lt fun hlt => ?_)
    exact Nat.lt_irrefl _ (horder calls.length (hrange ▸ List.mem_range.mpr hlt))

/-- Three calls, of `l`, `s ` and a carriage return. -/
def typedCalls : List (List UInt8) := [[0x6c], [0x73, 0x20], [0x0d]]

/-- Started in their order they are never mixed up, however they are read and written.  They can be
when the second task starts before the first. -/
theorem typed_in_order_iff_typed :
    (∀ as s, Guarded.run TypedStream.step .init as = some s → s.calls <+: typedCalls →
        s.started <+: [0, 1, 2] → s.pty <+: [0x6c, 0x73, 0x20, 0x0d])
      ∧ ¬ ∀ as s, Guarded.run TypedStream.step .init as = some s → s.calls <+: typedCalls →
        s.started <+: [1, 0, 2] → s.pty <+: [0x6c, 0x73, 0x20, 0x0d] := by
  obtain ⟨hordered, hrange⟩ :=
    @typed_in_order_iff typedCalls [0, 1, 2] (by decide) (by decide)
  obtain ⟨hmixed, -⟩ := @typed_in_order_iff typedCalls [1, 0, 2] (by decide) (by decide)
  exact ⟨hordered.mpr (hrange rfl), mt hmixed.mp (by decide)⟩

/-- The user types `l` and `s`, and the PTY gets `sl`. -/
theorem typed_out_of_order : ¬ ∀ as s, Guarded.run TypedStream.step .init as = some s →
    s.pty <+: s.calls.flatten := by
  intro h
  have hrun : Guarded.run TypedStream.step .init
      [.writeToStream [0x6c], .writeToStream [0x73], .startTask 1, .startTask 0, .testClosing,
        .readSome 2, .writePty (.written 2)]
      = some { TypedStream.init with
        calls := [[0x6c], [0x73]]
        started := [1, 0]
        pty := [0x73, 0x6c] } := by decide
  exact absurd (h _ _ hrun) (by decide)

end TypedStream

end TmuxRemote
