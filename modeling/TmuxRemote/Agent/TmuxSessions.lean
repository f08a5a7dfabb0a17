import TmuxRemote.Library.CString
import TmuxRemote.Library.Split

/-!
# Agent/TmuxSessions — the sessions tmux reports (`tmuxremote_tmux.c`)

`tmux list-sessions` prints a line `name:width:height:attached` for each session; the agent keeps
the first 32 of them, with names cut to the 63 bytes of their field.
-/

namespace TmuxRemote

/-- `struct tmuxremote_tmux_session`; `name` is at most 63 bytes long. -/
structure TmuxSession where
  name : CString
  cols : UInt16
  rows : UInt16
  attached : ℤ
  deriving DecidableEq

/-- `TMUXREMOTE_TMUX_MAX_SESSIONS` -/
def tmuxMaxSessions : ℕ := 32

/-- The size of the `name` field, less its terminator. -/
def tmuxNameMax : ℕ := 63

/-! ## Listing -/

/-- One turn of the parsing loop: the session of a line, or `none` when a separator is missing and
the line is skipped. -/
def parseSessionLine (line : List UInt8) : Option TmuxSession := do
  let (name, rest) ← Split.cutAt 0x3A line
  let (width, rest) ← Split.cutAt 0x3A rest
  let (height, attached) ← Split.cutAt 0x3A rest
  some
    { name := (CString.ofBytes name).truncate tmuxNameMax
      cols := UInt16.ofInt (CLib.atoi width)
      rows := UInt16.ofInt (CLib.atoi height)
      attached := CLib.atoi attached }

/-- The parsing loop, with room for so many more sessions. -/
def parseSessionLines : ℕ → List (List UInt8) → List TmuxSession
  | 0, _ => []
  | _, [] => []
  | room + 1, line :: lines =>
    match parseSessionLine line with
    | none => parseSessionLines (room + 1) lines
    | some session => session :: parseSessionLines room lines

/-- `tmuxremote_tmux_list_sessions`; the output is `none` when tmux fails or does not end in
time. -/
def tmuxListSessions (output : Option (List UInt8)) : List TmuxSession :=
  match output with
  | none => []
  | some output =>
    let buf := CString.ofBytes (output.take 4095)
    parseSessionLines tmuxMaxSessions (Split.pieces 0x0A buf.bytes)

/-- A session as tmux has it. -/
structure TmuxTableSession where
  name : CString
  width : UInt16
  height : UInt16
  /-- The attached clients, an `int` for whoever reads it. -/
  attached : ℕ
  attached_lt : attached < 2 ^ 31

namespace TmuxTableSession

/-- `#{session_name}:#{session_width}:#{session_height}:#{session_attached}` -/
def line (s : TmuxTableSession) : List UInt8 :=
  s.name.bytes ++ 0x3A :: (CLib.decimal s.width.toNat ++ 0x3A :: (CLib.decimal s.height.toNat
    ++ 0x3A :: CLib.decimal s.attached))

/-- The session as the agent has it. -/
def listed (s : TmuxTableSession) : TmuxSession where
  name := s.name.truncate tmuxNameMax
  cols := s.width
  rows := s.height
  attached := s.attached

end TmuxTableSession

/-- `tmux list-sessions` -/
def listing (table : List TmuxTableSession) : List UInt8 :=
  (table.map fun s => s.line ++ [0x0A]).flatten

theorem notMem_decimal {c : UInt8} (hc : CLib.isDigit c = false) (n : ℕ) : c ∉ CLib.decimal n := by
  intro hmem
  have hdigit := CLib.isDigit_of_mem_decimal c hmem
  rw [hc] at hdigit
  exact Bool.false_ne_true hdigit

theorem ofInt_toNat (n : UInt16) : UInt16.ofInt (n.toNat : ℤ) = n := by
  rw [UInt16.ofInt, ← UInt16.toNat_inj, UInt16.toNat_ofNat']
  have := n.toNat_lt
  omega

/-- **A line is read as its session.** -/
theorem parseSessionLine_line {s : TmuxTableSession} (hname : 0x3A ∉ s.name.bytes) :
    parseSessionLine s.line = some s.listed := by
  have hwidth : CLib.atoi (CLib.decimal s.width.toNat) = s.width.toNat :=
    CLib.atoi_decimal (by have := s.width.toNat_lt; omega)
  have hheight : CLib.atoi (CLib.decimal s.height.toNat) = s.height.toNat :=
    CLib.atoi_decimal (by have := s.height.toNat_lt; omega)
  have hdigits (n : ℕ) : (0x3A : UInt8) ∉ CLib.decimal n := notMem_decimal rfl n
  simp only [parseSessionLine, TmuxTableSession.line, Split.cutAt_append hname,
    Split.cutAt_append (hdigits _), Option.bind_eq_bind, Option.bind_some, hwidth, hheight,
    CLib.atoi_decimal s.attached_lt, ofInt_toNat, CString.ofBytes_bytes]
  rfl

/-- The lines of at most so many sessions are all read. -/
theorem parseSessionLines_lines : ∀ {table : List TmuxTableSession} {room : ℕ},
    table.length ≤ room → (∀ s ∈ table, 0x3A ∉ s.name.bytes) →
    parseSessionLines room (table.map TmuxTableSession.line ++ [[]])
      = table.map TmuxTableSession.listed
  | [], 0, _, _ => rfl
  | [], room + 1, _, _ => rfl
  | s :: table, 0, hroom, _ => absurd hroom (Nat.not_succ_le_zero _)
  | s :: table, room + 1, hroom, hnames => by
      obtain ⟨hname, hrest⟩ := List.forall_mem_cons.mp hnames
      have ih := parseSessionLines_lines (Nat.le_of_succ_le_succ hroom) hrest
      rw [List.map_cons, List.cons_append, parseSessionLines, parseSessionLine_line hname]
      dsimp only
      rw [ih, List.map_cons]

/-- A listing that the agent can read to its end. -/
structure Listable (table : List TmuxTableSession) : Prop where
  length_le : table.length ≤ tmuxMaxSessions
  names : ∀ s ∈ table, 0x3A ∉ s.name.bytes ∧ 0x0A ∉ s.name.bytes
  size_le : (listing table).length ≤ 4095

theorem nulFree_listing (table : List TmuxTableSession) : ∀ b ∈ listing table, b ≠ 0 := by
  intro b hb
  obtain ⟨line, hline, hmem⟩ := List.mem_flatten.mp hb
  obtain ⟨s, -, rfl⟩ := List.mem_map.mp hline
  have hdigit {n : ℕ} (h : b ∈ CLib.decimal n) : b ≠ 0 := by
    rintro rfl
    exact notMem_decimal rfl n h
  simp only [TmuxTableSession.line, List.mem_append, List.mem_cons, List.not_mem_nil,
    or_false] at hmem
  obtain (h | rfl | h | rfl | h | rfl | h) | rfl := hmem
  · exact s.name.nulFree b h
  · decide
  · exact hdigit h
  · decide
  · exact hdigit h
  · decide
  · exact hdigit h
  · decide

/-- **Every session is listed**, its name cut to the size of the field. -/
theorem tmuxListSessions_listing {table : List TmuxTableSession} (h : Listable table) :
    tmuxListSessions (some (listing table)) = table.map TmuxTableSession.listed := by
  have htake : (listing table).take 4095 = listing table := List.take_of_length_le h.size_le
  have hlines : ∀ line ∈ table.map TmuxTableSession.line, (0x0A : UInt8) ∉ line := by
    intro line hline
    obtain ⟨s, hs, rfl⟩ := List.mem_map.mp hline
    have hdigits (n : ℕ) : (0x0A : UInt8) ∉ CLib.decimal n := notMem_decimal rfl n
    simp [TmuxTableSession.line, (h.names s hs).2, hdigits]
  have hpieces : Split.pieces 0x0A (listing table) = table.map TmuxTableSession.line ++ [[]] := by
    rw [← Split.pieces_flatten hlines, listing, List.map_map]
    rfl
  simp only [tmuxListSessions, htake, CString.ofBytes_of_nulFree (nulFree_listing table), hpieces]
  exact parseSessionLines_lines h.length_le fun s hs => (h.names s hs).1

/-! ## Comparing lists -/

/-- `tmux_lists_equal` -/
def tmuxListsEqual (a b : List TmuxSession) : Bool :=
  a.length == b.length && (a.zip b).all fun (s, t) =>
    s.name = t.name && s.cols = t.cols && s.rows = t.rows && s.attached = t.attached

theorem tmuxListsEqual_iff {a b : List TmuxSession} : tmuxListsEqual a b = true ↔ a = b := by
  rw [tmuxListsEqual, Bool.and_eq_true, beq_iff_eq]
  induction a generalizing b with
  | nil => cases b <;> simp
  | cons s a ih =>
    cases b with
    | nil => simp
    | cons t b =>
      obtain ⟨name, cols, rows, attached⟩ := s
      obtain ⟨name', cols', rows', attached'⟩ := t
      have := @ih b
      simp only [List.length_cons, Nat.add_right_cancel_iff, List.zip_cons_cons, List.all_cons,
        Bool.and_eq_true, decide_eq_true_eq, List.cons.injEq, TmuxSession.mk.injEq, ← this]
      tauto

end TmuxRemote
