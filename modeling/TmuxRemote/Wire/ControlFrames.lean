import TmuxRemote.Library.Framing

/-!
# Wire/ControlFrames — the two readers of a control stream (`read_exactly`, `readExactly`)

Each end of a control stream writes frames and reads them back from whatever pieces the transport
delivers.  The agent fills a buffer of the size it wants and never asks for more
(`tmuxremote_control_stream.c`); the app takes a piece as it comes and carries the excess over to
the next read (`ConnectionManager.swift`).  Both are sources of the same content, so the framing
library's read loop describes both (`framing_survives_chunking`).

The pieces are those the transport has and will have until the stream closes; a read on the agent's
side yields the next one, or as much of it as was asked for.
-/

namespace TmuxRemote

open Framing

/-- What the transport delivers, piece by piece. -/
abbrev Chunks := List (List UInt8)

/-! ## Writers -/

/-- `wrap_framed_payload`: `htonl((uint32_t)payload_len)`, then the payload. -/
def wrapFramedPayload (payload : List UInt8) : List UInt8 := lengthBytes payload.length ++ payload

/-- The end of `encodePatternResolve`: `UInt32(payload.count).bigEndian`, then the payload. -/
def lengthPrefixed (payload : List UInt8) : List UInt8 := lengthBytes payload.length ++ payload

/-! ## The agent's reader -/

namespace AgentReader

/-- `read_exactly`: read until nothing is missing.  An empty read is tried again. -/
def readExactly : ℕ → Chunks → Option (List UInt8 × Chunks)
  | 0, chunks => some ([], chunks)
  | _ + 1, [] => none
  | count + 1, chunk :: chunks =>
    if chunk.length ≤ count + 1 then
      (readExactly (count + 1 - chunk.length) chunks).map
        fun (bytes, rest) => (chunk ++ bytes, rest)
    else some (chunk.take (count + 1), chunk.drop (count + 1) :: chunks)

theorem readExactly_of_le : ∀ {n : ℕ} {chunks : Chunks}, n ≤ chunks.flatten.length →
    ∃ rest, readExactly n chunks = some (chunks.flatten.take n, rest)
      ∧ rest.flatten = chunks.flatten.drop n
  | 0, chunks, _ => ⟨chunks, by simp [readExactly]⟩
  | n + 1, [], h => absurd h (Nat.not_succ_le_zero n)
  | n + 1, chunk :: chunks, h => by
      rw [List.flatten_cons, List.length_append] at h
      rw [readExactly, List.flatten_cons]
      split_ifs with hfits
      · obtain ⟨rest, hread, hrest⟩ :=
          readExactly_of_le (show n + 1 - chunk.length ≤ chunks.flatten.length by omega)
        refine ⟨rest, ?_, ?_⟩
        · rw [hread, Option.map_some, List.take_append, List.take_of_length_le hfits]
        · rw [hrest, List.drop_append, List.drop_of_length_le hfits, List.nil_append]
      · have hlong : n + 1 ≤ chunk.length := by omega
        refine ⟨chunk.drop (n + 1) :: chunks, ?_, ?_⟩
        · rw [List.take_append_of_le_length hlong]
        · rw [List.flatten_cons, List.drop_append_of_le_length hlong]

theorem readExactly_of_lt : ∀ {n : ℕ} {chunks : Chunks}, chunks.flatten.length < n →
    readExactly n chunks = none
  | n + 1, [], _ => rfl
  | n + 1, chunk :: chunks, h => by
      rw [List.flatten_cons, List.length_append] at h
      have hfits : chunk.length ≤ n + 1 := by omega
      have hrest := readExactly_of_lt (show chunks.flatten.length < n + 1 - chunk.length by omega)
      rw [readExactly, if_pos hfits, hrest, Option.map_none]

theorem length_readExactly {n : ℕ} {chunks rest : Chunks} {bytes : List UInt8}
    (h : readExactly n chunks = some (bytes, rest)) :
    rest.flatten.length + n = chunks.flatten.length := by
  by_cases hle : n ≤ chunks.flatten.length
  · obtain ⟨rest', hread, hrest⟩ := readExactly_of_le hle
    rw [hread] at h
    obtain ⟨-, rfl⟩ := Prod.mk.inj (Option.some.inj h)
    rw [hrest, List.length_drop]
    omega
  · rw [readExactly_of_lt (Nat.not_le.mp hle)] at h
    exact nomatch h

/-- The agent's side of a control stream. -/
def source : Source Chunks where
  content := List.flatten
  Intact := fun _ => True
  readExactly := readExactly
  readExactly_of_le := fun _ hle =>
    (readExactly_of_le hle).imp fun _ h => ⟨h.1, h.2, trivial⟩
  readExactly_of_lt := fun _ hlt => readExactly_of_lt hlt
  length_readExactly := length_readExactly

/-- `payloadLen == 0 || payloadLen > 65536` ends the loop. -/
def accepts (payloadLen : ℕ) : Bool := !(payloadLen == 0 || payloadLen > 65536)

/-- `reader_thread_func`: the framed messages it hands to the decoder. -/
def readerThreadFunc (chunks : Chunks) : List (List UInt8) :=
  source.readLoop accepts (fun lenBuf payload => lenBuf ++ payload) chunks

end AgentReader

/-! ## The app's reader -/

namespace IosReader

/-- The app's side of a control stream: `readBuffer`, and what the transport delivers. -/
structure Incoming where
  buffer : List UInt8
  chunks : Chunks

/-- `readExactly`: append pieces to the buffer until it holds enough.  An empty piece means that the
stream was closed. -/
def fill (count : ℕ) : List UInt8 → Chunks → Option (List UInt8 × Incoming)
  | buffer, [] =>
    if buffer.length < count then none
    else some (buffer.take count, { buffer := buffer.drop count, chunks := [] })
  | buffer, chunk :: chunks =>
    if buffer.length < count then
      if chunk.isEmpty then none else fill count (buffer ++ chunk) chunks
    else some (buffer.take count, { buffer := buffer.drop count, chunks := chunk :: chunks })

def readExactly (count : ℕ) (incoming : Incoming) : Option (List UInt8 × Incoming) :=
  fill count incoming.buffer incoming.chunks

/-- The bytes still to come. -/
def Incoming.content (incoming : Incoming) : List UInt8 :=
  incoming.buffer ++ incoming.chunks.flatten

/-- No piece is empty. -/
def Incoming.Open (incoming : Incoming) : Prop := ∀ chunk ∈ incoming.chunks, chunk ≠ []

theorem fill_of_length_le {n : ℕ} {buffer : List UInt8} {chunks : Chunks} (h : n ≤ buffer.length) :
    fill n buffer chunks = some (buffer.take n, { buffer := buffer.drop n, chunks := chunks }) := by
  have hfull : ¬ buffer.length < n := Nat.not_lt.mpr h
  match chunks with
  | [] => rw [fill, if_neg hfull]
  | chunk :: chunks => rw [fill, if_neg hfull]

theorem fill_of_le {n : ℕ} : ∀ {buffer : List UInt8} {chunks : Chunks},
    (∀ chunk ∈ chunks, chunk ≠ []) → n ≤ (buffer ++ chunks.flatten).length →
    ∃ rest, fill n buffer chunks = some ((buffer ++ chunks.flatten).take n, rest)
      ∧ rest.content = (buffer ++ chunks.flatten).drop n ∧ rest.Open
  | buffer, chunks, hopen, hle => by
      by_cases hfull : n ≤ buffer.length
      · refine ⟨{ buffer := buffer.drop n, chunks := chunks }, ?_, ?_, hopen⟩
        · rw [fill_of_length_le hfull, List.take_append_of_le_length hfull]
        · rw [Incoming.content, List.drop_append_of_le_length hfull]
      · match chunks with
        | [] =>
          rw [List.flatten_nil, List.append_nil] at hle
          exact absurd hle hfull
        | chunk :: chunks =>
          obtain ⟨hchunk, hchunks⟩ := List.forall_mem_cons.mp hopen
          rw [List.flatten_cons, ← List.append_assoc] at hle ⊢
          rw [fill, if_pos (Nat.not_le.mp hfull), if_neg (by simpa using hchunk)]
          exact fill_of_le hchunks hle

theorem length_fill {n : ℕ} : ∀ {buffer : List UInt8} {chunks : Chunks} {bytes : List UInt8}
    {rest : Incoming}, fill n buffer chunks = some (bytes, rest) →
    rest.content.length + n = (buffer ++ chunks.flatten).length
  | buffer, chunks, bytes, rest, h => by
      by_cases hfull : n ≤ buffer.length
      · rw [fill_of_length_le hfull] at h
        obtain ⟨-, rfl⟩ := Prod.mk.inj (Option.some.inj h)
        simp only [Incoming.content, List.length_append, List.length_drop]
        omega
      · match chunks with
        | [] =>
          rw [fill, if_pos (Nat.not_le.mp hfull)] at h
          exact nomatch h
        | chunk :: chunks =>
          rw [fill, if_pos (Nat.not_le.mp hfull)] at h
          split_ifs at h
          rw [length_fill h, List.flatten_cons, List.append_assoc]

/-- The app's side of a control stream. -/
def source : Source Incoming where
  content := Incoming.content
  Intact := Incoming.Open
  readExactly := readExactly
  readExactly_of_le := fun hopen hle => fill_of_le hopen hle
  readExactly_of_lt := by
    intro n incoming _ hlt
    by_contra hsome
    obtain ⟨⟨bytes, rest⟩, hread⟩ := Option.ne_none_iff_exists'.mp hsome
    have hlength := length_fill hread
    rw [Incoming.content] at hlt
    omega
  length_readExactly := length_fill

/-- `guard length > 0 && length < 65536 else { break }` -/
def accepts (length : ℕ) : Bool := length > 0 && length < 65536

/-- `controlReadLoop`: the payloads it hands to the decoder. -/
def controlReadLoop (chunks : Chunks) : List (List UInt8) :=
  source.readLoop accepts (fun _ payload => payload) { buffer := [], chunks := chunks }

end IosReader

/-! ## Both readers -/

section
variable {payloads : List (List UInt8)} {rest : List UInt8} {chunks : Chunks}

/-- The payloads of a control stream. -/
def Sendable (payload : List UInt8) : Prop := 1 ≤ payload.length ∧ payload.length ≤ 65535

theorem AgentReader.accepts_of_sendable {payload : List UInt8} (h : Sendable payload) :
    payload.length < 2 ^ 32 ∧ AgentReader.accepts payload.length = true := by
  obtain ⟨hpos, hmax⟩ := h
  refine ⟨by omega, ?_⟩
  simp only [AgentReader.accepts, Bool.not_eq_true', Bool.or_eq_false_iff, beq_eq_false_iff_ne,
    decide_eq_false_iff_not]
  omega

theorem IosReader.accepts_of_sendable {payload : List UInt8} (h : Sendable payload) :
    payload.length < 2 ^ 32 ∧ IosReader.accepts payload.length = true := by
  obtain ⟨hpos, hmax⟩ := h
  refine ⟨by omega, ?_⟩
  simp only [IosReader.accepts, Bool.and_eq_true, decide_eq_true_iff]
  omega

/-- The agent hands on the frames, and then what the rest of the stream holds. -/
theorem AgentReader.readerThreadFunc_frames (hall : ∀ payload ∈ payloads, Sendable payload)
    (hchunks : chunks.flatten = (payloads.map lengthPrefixed).flatten ++ rest) :
    ∃ chunks', chunks'.flatten = rest
      ∧ readerThreadFunc chunks = payloads.map lengthPrefixed ++ readerThreadFunc chunks' := by
  obtain ⟨chunks', hrest, -, hloop⟩ := @Source.readLoop_frames _ _ source accepts
    (fun lenBuf payload => lenBuf ++ payload) rest payloads chunks trivial hchunks
    fun payload hmem => accepts_of_sendable (hall payload hmem)
  exact ⟨chunks', hrest, hloop⟩

/-- The app hands on the payloads, and then what the rest of the stream holds. -/
theorem IosReader.controlReadLoop_frames (hall : ∀ payload ∈ payloads, Sendable payload)
    (hopen : ∀ chunk ∈ chunks, chunk ≠ [])
    (hchunks : chunks.flatten = (payloads.map wrapFramedPayload).flatten ++ rest) :
    ∃ incoming : Incoming, incoming.content = rest ∧ incoming.Open
      ∧ controlReadLoop chunks
        = payloads ++ source.readLoop accepts (fun _ payload => payload) incoming := by
  have hstart : source.Intact { buffer := [], chunks := chunks } := hopen
  obtain ⟨incoming, hrest, hopen', hloop⟩ := @Source.readLoop_frames _ _ source accepts
    (fun _ payload => payload) rest payloads _ hstart hchunks
    fun payload hmem => accepts_of_sendable (hall payload hmem)
  rw [List.map_id'] at hloop
  exact ⟨incoming, hrest, hopen', hloop⟩

/-- What ends a stream inside a frame: the beginning of one, or nothing. -/
def Unfinished (rest : List UInt8) : Prop :=
  ∃ next, next.length < 2 ^ 32 ∧ rest <+: frame next ∧ rest.length < (frame next).length

theorem unfinished_nil : Unfinished [] := ⟨[], by decide, List.nil_prefix, by decide⟩

/-- What ends a stream for a reader with a limit: a length of zero or beyond the limit, whatever
follows. -/
def RefusedBeyond (limit : ℕ) (rest : List UInt8) : Prop :=
  ∃ lenBuf behind, rest = lenBuf ++ behind ∧ lenBuf.length = 4
    ∧ (lengthValue lenBuf = 0 ∨ limit < lengthValue lenBuf)

/-- **The agent's reader**: it hands on the frames that come before an end. -/
theorem AgentReader.readerThreadFunc_eq (hall : ∀ payload ∈ payloads, Sendable payload)
    (hend : Unfinished rest ∨ RefusedBeyond 65536 rest)
    (hchunks : chunks.flatten = (payloads.map lengthPrefixed).flatten ++ rest) :
    readerThreadFunc chunks = payloads.map lengthPrefixed := by
  obtain ⟨chunks', hrest, hloop⟩ := readerThreadFunc_frames hall hchunks
  have hnothing : readerThreadFunc chunks' = [] := by
    obtain ⟨next, hlength, hpart, hshort⟩ | ⟨lenBuf, behind, hsplit, hfour, hvalue⟩ := hend
    · rw [← hrest] at hpart hshort
      exact @Source.readLoop_partial _ _ source _ _ _ _ trivial hlength hpart hshort
    · rw [← hrest] at hsplit
      have hrefused : accepts (lengthValue lenBuf) = false := by
        simp only [accepts, Bool.not_eq_false', Bool.or_eq_true, beq_iff_eq, decide_eq_true_iff]
        exact hvalue
      exact @Source.readLoop_refused _ _ source _ _ _ _ _ trivial hsplit hfour hrefused
  rw [hloop, hnothing, List.append_nil]

/-- **The app's reader**: it hands on the payloads that come before an end. -/
theorem IosReader.controlReadLoop_eq (hall : ∀ payload ∈ payloads, Sendable payload)
    (hopen : ∀ chunk ∈ chunks, chunk ≠ []) (hend : Unfinished rest ∨ RefusedBeyond 65535 rest)
    (hchunks : chunks.flatten = (payloads.map wrapFramedPayload).flatten ++ rest) :
    controlReadLoop chunks = payloads := by
  obtain ⟨incoming, hrest, hopen', hloop⟩ := controlReadLoop_frames hall hopen hchunks
  have hnothing : source.readLoop accepts (fun _ payload => payload) incoming = [] := by
    obtain ⟨next, hlength, hpart, hshort⟩ | ⟨lenBuf, behind, hsplit, hfour, hvalue⟩ := hend
    · rw [← hrest] at hpart hshort
      exact @Source.readLoop_partial _ _ source _ _ _ _ hopen' hlength hpart hshort
    · rw [← hrest] at hsplit
      have hrefused : accepts (lengthValue lenBuf) = false := by
        simp only [accepts, Bool.and_eq_false_iff, decide_eq_false_iff_not]
        omega
      exact @Source.readLoop_refused _ _ source _ _ _ _ _ hopen' hsplit hfour hrefused
  rw [hloop, hnothing, List.append_nil]

end

/-- **Framing survives chunking.**  Frames of payloads of one to 65535 bytes, in any pieces: each
reader hands on the payloads, in order.  What follows them may be nothing, the beginning of a
further frame, or a length of zero or beyond the reader's limit with anything behind it: nothing of
that is handed on. -/
theorem framing_survives_chunking (payloads : List (List UInt8))
    (hall : ∀ payload ∈ payloads, Sendable payload) (rest : List UInt8) (chunks : Chunks) :
    (Unfinished rest ∨ RefusedBeyond 65536 rest →
        chunks.flatten = (payloads.map lengthPrefixed).flatten ++ rest →
        AgentReader.readerThreadFunc chunks = payloads.map lengthPrefixed)
      ∧ ((∀ chunk ∈ chunks, chunk ≠ []) → Unfinished rest ∨ RefusedBeyond 65535 rest →
        chunks.flatten = (payloads.map wrapFramedPayload).flatten ++ rest →
        IosReader.controlReadLoop chunks = payloads) :=
  ⟨AgentReader.readerThreadFunc_eq hall, IosReader.controlReadLoop_eq hall⟩

/-- Two payloads in pieces that split a length and a payload. -/
theorem framing_survives_chunking_split :
    IosReader.controlReadLoop [[0, 0], [0, 1, 7, 0], [0, 0, 2, 8], [9]] = [[7], [8, 9]] :=
  (framing_survives_chunking [[7], [8, 9]] (by simp [Sendable]) []
    [[0, 0], [0, 1, 7, 0], [0, 0, 2, 8], [9]]).2 (by simp) (Or.inl unfinished_nil) (by decide)

end TmuxRemote
