import TmuxRemote.Agent.TmuxSessions
import TmuxRemote.Library.Entries
import TmuxRemote.Library.StringBuffer

/-!
# Agent/TmuxListing — how the agent takes tmux's output apart (`tmuxremote_tmux.c`)

`tmuxremote_tmux_list_sessions` cuts its buffer in place and copies a name into the next free entry
before it knows whether the line has the other fields.  Here are the buffer, the pointers and the
entries with every byte of their names.  A turn of the loop is what it does to the text of its line
(`readLine_append`); an abandoned name is written over by the next one, byte for byte
(`copyName_fresh`); so the entries are those of the first 32 lines with three colons
(`tmuxListSessions_exact`), and the list is that of `TmuxSessions` (`sessions_tmuxListSessions`).

`atoi` is a parameter.
-/

open StringBuffer

namespace TmuxRemote.TmuxListing

/-! ## The list -/

/-- `struct tmuxremote_tmux_session`, with the bytes of its name. -/
structure RawSession where
  name : List UInt8
  cols : UInt16
  rows : UInt16
  attached : ℤ
  deriving DecidableEq

/-- `struct tmuxremote_tmux_list` -/
structure RawList where
  sessions : List RawSession
  count : ℕ
  deriving DecidableEq

/-- `memset` of a session. -/
def RawSession.zero : RawSession where
  name := List.replicate 64 0
  cols := 0
  rows := 0
  attached := 0

namespace RawList

/-- `memset` of the list. -/
def zero : RawList where
  sessions := List.replicate tmuxMaxSessions .zero
  count := 0

variable (list : RawList)

/-- `strncpy` into the name of `sessions[count]`. -/
def copyName (name : List UInt8) : RawList :=
  { list with
    sessions := list.sessions.modify list.count fun session =>
      { session with name := strncpy session.name name tmuxNameMax } }

/-- The numbers of `sessions[count]`, and `count++`. -/
def finish (cols rows attached : ℤ) : RawList where
  sessions := list.sessions.modify list.count fun session =>
    { session with
      cols := UInt16.ofInt cols
      rows := UInt16.ofInt rows
      attached := attached }
  count := list.count + 1

/-- The sessions in the list. -/
def listed : List RawSession := list.sessions.take list.count

end RawList

/-! ## The loop -/

variable (atoi : List UInt8 → ℤ)

/-- The loop's body from `heightStr` on. -/
def readHeight (buf : List UInt8) (widthStr heightStr : ℕ) (list : RawList) :
    List UInt8 × RawList :=
  match strchr buf heightStr 0x3A with
  | none => (buf, list)
  | some heightEnd =>
    let buf := buf.set heightEnd 0
    let attachedStr := heightEnd + 1
    (buf, list.finish (atoi (strAt buf widthStr)) (atoi (strAt buf heightStr))
      (atoi (strAt buf attachedStr)))

/-- The body from `widthStr` on. -/
def readWidth (buf : List UInt8) (widthStr : ℕ) (list : RawList) : List UInt8 × RawList :=
  match strchr buf widthStr 0x3A with
  | none => (buf, list)
  | some widthEnd => readHeight atoi (buf.set widthEnd 0) widthStr (widthEnd + 1) list

/-- The body, once the newline behind the line is cut. -/
def readLine (buf : List UInt8) (line : ℕ) (list : RawList) : List UInt8 × RawList :=
  if (strAt buf line).length = 0 then (buf, list)
  else
    match strchr buf line 0x3A with
    | none => (buf, list)
    | some nameEnd =>
      let buf := buf.set nameEnd 0
      readWidth atoi buf (nameEnd + 1) (list.copyName (strAt buf line))

/-- The loop: `none` when it has not ended after so many turns. -/
def parseLoop : ℕ → List UInt8 → Option ℕ → RawList → Option RawList
  | 0, _, _, _ => none
  | _ + 1, _, none, list => some list
  | turns + 1, buf, some line, list =>
    if buf.getD line 0 ≠ 0 ∧ list.count < tmuxMaxSessions then
      match strchr buf line 0x0A with
      | some newline =>
        let (buf, list) := readLine atoi (buf.set newline 0) line list
        parseLoop turns buf (some (newline + 1)) list
      | none =>
        let (buf, list) := readLine atoi buf line list
        parseLoop turns buf none list
    else some list

/-- `buf` when the output has been read into it: what it does not write is still there. -/
def readOutput (stack output : List UInt8) : List UInt8 :=
  let read := output.take 4095
  read ++ 0 :: stack.drop (read.length + 1)

/-- `tmuxremote_tmux_list_sessions`; the output is `none` when tmux fails or does not end in
time. -/
def tmuxListSessions (stack : List UInt8) : Option (List UInt8) → Option RawList
  | none => some .zero
  | some output =>
    let buf := readOutput stack output
    parseLoop atoi (buf.length + 1) buf (some 0) .zero

/-! ## A turn, on the text of its line -/

/-- What is left of a line from its height on, and what it does to the list. -/
def heightText (width rest : List UInt8) (list : RawList) : RawList :=
  match Split.cutAt 0x3A rest with
  | none => list
  | some (height, attached) => list.finish (atoi width) (atoi height) (atoi attached)

/-- From its width on. -/
def widthText (rest : List UInt8) (list : RawList) : RawList :=
  match Split.cutAt 0x3A rest with
  | none => list
  | some (width, rest) => heightText atoi width rest list

/-- What a line does to the list. -/
def lineText (line : List UInt8) (list : RawList) : RawList :=
  match Split.cutAt 0x3A line with
  | none => list
  | some (name, rest) => widthText atoi rest (list.copyName name)

variable {atoi} {before line field rest after : List UInt8} {list : RawList}

/-- The field at a pointer ends at its colon. -/
theorem strchr_field (hfield : NulFree field) (hcolon : 0x3A ∉ field) :
    strchr (before ++ ((field ++ 0x3A :: rest) ++ 0 :: after)) before.length 0x3A
      = some (before.length + field.length) := by
  rw [List.append_assoc, List.cons_append]
  exact strchr_append hfield (by decide) hcolon

/-- The colon behind a field becomes its end, and the rest of the line is behind it. -/
theorem set_field : (before ++ ((field ++ 0x3A :: rest) ++ 0 :: after)).set
    (before.length + field.length) 0 = (before ++ (field ++ [0])) ++ (rest ++ 0 :: after) := by
  rw [List.append_assoc, List.cons_append, set_append]
  simp

theorem length_behind_field :
    (before ++ (field ++ [0])).length = before.length + field.length + 1 := by
  simp [Nat.add_assoc]

/-- A field that has been cut stays readable. -/
theorem strAt_field (hfield : NulFree field) :
    strAt ((before ++ (field ++ [0])) ++ rest) before.length = field := by
  have hassoc : (before ++ (field ++ [0])) ++ rest = before ++ (field ++ 0 :: rest) := by simp
  rw [hassoc, strAt_append hfield]

theorem readHeight_append {width : List UInt8} (hwidth : NulFree width) (hrest : NulFree rest) :
    ∃ before', before'.length = (before ++ (width ++ [0])).length + rest.length ∧
      readHeight atoi ((before ++ (width ++ [0])) ++ (rest ++ 0 :: after)) before.length
          (before ++ (width ++ [0])).length list
        = (before' ++ 0 :: after, heightText atoi width rest list) := by
  by_cases hcolon : 0x3A ∈ rest
  · obtain ⟨height, attached, rfl, hheight⟩ := List.eq_append_cons_of_mem hcolon
    obtain ⟨hheightFree, htail⟩ := nulFree_append.mp hrest
    have hattachedFree := (nulFree_cons.mp htail).2
    refine ⟨(before ++ (width ++ [0])) ++ (height ++ [0]) ++ attached, ?_, ?_⟩
    · simp only [List.length_append, List.length_cons, List.length_nil]
      omega
    · rw [readHeight, heightText, strchr_field hheightFree hheight, Split.cutAt_append hheight]
      dsimp only
      rw [set_field, strAt_field hheightFree, ← length_behind_field, strAt_append hattachedFree,
        List.append_assoc (before ++ (width ++ [0])), strAt_field hwidth]
      simp
  · refine ⟨(before ++ (width ++ [0])) ++ rest, List.length_append, ?_⟩
    rw [readHeight, heightText, strchr_eq_none hrest hcolon, Split.cutAt_of_notMem hcolon,
      List.append_assoc _ rest]

theorem readWidth_append (hrest : NulFree rest) :
    ∃ before', before'.length = before.length + rest.length ∧
      readWidth atoi (before ++ (rest ++ 0 :: after)) before.length list
        = (before' ++ 0 :: after, widthText atoi rest list) := by
  by_cases hcolon : 0x3A ∈ rest
  · obtain ⟨width, tail, rfl, hwidth⟩ := List.eq_append_cons_of_mem hcolon
    obtain ⟨hwidthFree, htail⟩ := nulFree_append.mp hrest
    obtain ⟨before', hlength, hread⟩ :=
      @readHeight_append atoi before tail after list width hwidthFree (nulFree_cons.mp htail).2
    refine ⟨before', ?_, ?_⟩
    · rw [hlength, length_behind_field, List.length_append, List.length_cons]
      omega
    · rw [readWidth, widthText, strchr_field hwidthFree hwidth, Split.cutAt_append hwidth]
      dsimp only
      rw [set_field, ← length_behind_field, hread]
  · refine ⟨before ++ rest, List.length_append, ?_⟩
    rw [readWidth, widthText, strchr_eq_none hrest hcolon, Split.cutAt_of_notMem hcolon,
      List.append_assoc]

/-- **A turn** reads its line, whatever stands before it, and leaves what stands behind it. -/
theorem readLine_append (hline : NulFree line) :
    ∃ before', before'.length = before.length + line.length ∧
      readLine atoi (before ++ (line ++ 0 :: after)) before.length list
        = (before' ++ 0 :: after, lineText atoi line list) := by
  by_cases hcolon : 0x3A ∈ line
  · obtain ⟨name, rest, rfl, hname⟩ := List.eq_append_cons_of_mem hcolon
    obtain ⟨hnameFree, hrest⟩ := nulFree_append.mp hline
    have hne : ¬ (name ++ 0x3A :: rest).length = 0 := by simp
    obtain ⟨before', hlength, hread⟩ :=
      @readWidth_append atoi (before ++ (name ++ [0])) rest after (list.copyName name)
        (nulFree_cons.mp hrest).2
    refine ⟨before', ?_, ?_⟩
    · rw [hlength, length_behind_field, List.length_append, List.length_cons]
      omega
    · rw [readLine, lineText, strAt_append hline, if_neg hne, strchr_field hnameFree hname,
        Split.cutAt_append hname]
      dsimp only
      rw [set_field, strAt_field hnameFree, ← length_behind_field, hread]
  · refine ⟨before ++ line, List.length_append, ?_⟩
    rw [readLine, lineText, strAt_append hline, strchr_eq_none hline hcolon,
      Split.cutAt_of_notMem hcolon, ite_self, List.append_assoc]

/-! ## The loop, on the lines of the text -/

/-- What the lines do to the list, as long as there is room. -/
def linesText (atoi : List UInt8 → ℤ) : List (List UInt8) → RawList → RawList
  | [], list => list
  | line :: lines, list =>
    if list.count < tmuxMaxSessions then linesText atoi lines (lineText atoi line list) else list

theorem linesText_nil_line (list : RawList) : linesText atoi [[]] list = list := by
  rw [linesText, linesText, lineText, Split.cutAt_of_notMem List.not_mem_nil, ite_self]

theorem linesText_of_full (lines : List (List UInt8)) (hfull : ¬ list.count < tmuxMaxSessions) :
    linesText atoi lines list = list := by
  cases lines with
  | nil => rfl
  | cons line lines => rw [linesText, if_neg hfull]

/-- **The loop** ends, and does to the list what the lines do. -/
theorem parseLoop_append {text : List UInt8} (htext : NulFree text) {turns : ℕ}
    (hturns : text.length + 2 ≤ turns) :
    parseLoop atoi turns (before ++ (text ++ 0 :: after)) (some before.length) list
      = some (linesText atoi (Split.pieces 0x0A text) list) := by
  induction turns generalizing before text list with
  | zero => omega
  | succ turns ih =>
    rw [parseLoop]
    by_cases hgo : (before ++ (text ++ 0 :: after)).getD before.length 0 ≠ 0 ∧
        list.count < tmuxMaxSessions
    · rw [if_pos hgo]
      have hne : text ≠ [] := fun h => hgo.1 ((getD_append_eq_zero htext).mpr h)
      by_cases hnewline : 0x0A ∈ text
      · obtain ⟨line, more, rfl, hline⟩ := List.eq_append_cons_of_mem hnewline
        obtain ⟨hlineFree, hmore⟩ := nulFree_append.mp htext
        obtain ⟨before', hlength, hread⟩ :=
          @readLine_append atoi before line (more ++ 0 :: after) list hlineFree
        have hnext : before.length + line.length + 1 = (before' ++ [0]).length := by
          rw [List.length_append, hlength]
          rfl
        have hbuf : before' ++ 0 :: (more ++ 0 :: after)
            = (before' ++ [0]) ++ (more ++ 0 :: after) := by simp
        rw [List.append_assoc, List.cons_append, strchr_append hlineFree (by decide) hline]
        dsimp only
        rw [set_append, hread, hnext, hbuf]
        dsimp only
        rw [ih (nulFree_cons.mp hmore).2 (by simp at hturns; omega), Split.pieces_append hline,
          linesText, if_pos hgo.2]
      · obtain ⟨before', -, hread⟩ := @readLine_append atoi before text after list htext
        rw [strchr_eq_none htext hnewline]
        dsimp only
        rw [hread, Split.pieces_of_notMem hnewline, linesText, if_pos hgo.2, linesText]
        obtain ⟨turns, rfl⟩ : ∃ n, turns = n + 1 := ⟨turns - 1, by omega⟩
        rfl
    · rw [if_neg hgo]
      rw [not_and_or, not_not, getD_append_eq_zero htext] at hgo
      obtain rfl | hfull := hgo
      · exact congrArg some (linesText_nil_line list).symm
      · exact congrArg some (linesText_of_full _ hfull).symm

/-! ## The entries -/

/-- What is before the first colon. -/
def firstField (line : List UInt8) : List UInt8 := line.takeWhile (· ≠ 0x3A)

/-- What is behind the first colon. -/
def behind (line : List UInt8) : List UInt8 := (line.dropWhile (· ≠ 0x3A)).tail

/-- A name as its 64 bytes: the first 63 of it, and NULs. -/
def padded (name : List UInt8) : List UInt8 :=
  name.take tmuxNameMax ++ List.replicate (64 - min tmuxNameMax name.length) 0

/-- The session of a line with three colons. -/
def sessionOf (atoi : List UInt8 → ℤ) (line : List UInt8) : RawSession where
  name := padded (firstField line)
  cols := UInt16.ofInt (atoi (firstField (behind line)))
  rows := UInt16.ofInt (atoi (firstField (behind (behind line))))
  attached := atoi (behind (behind (behind line)))

/-- The list holds these sessions; what is left in the free entries goes no further than a name can
be written over. -/
structure Holds (list : RawList) (done : List RawSession) : Prop where
  count_eq : list.count = done.length
  length_eq : list.sessions.length = tmuxMaxSessions
  exists_free : ∃ free, list.sessions = done ++ free ∧ ∀ s ∈ free, s.name.drop tmuxNameMax = [0]

theorem holds_zero : Holds .zero [] where
  count_eq := rfl
  length_eq := List.length_replicate
  exists_free := by
    refine ⟨List.replicate tmuxMaxSessions .zero, rfl, fun s hs => ?_⟩
    rw [List.eq_of_mem_replicate hs]
    rfl

variable {done : List RawSession}

theorem Holds.listed_eq (h : Holds list done) : list.listed = done := by
  obtain ⟨free, hfree, -⟩ := h.exists_free
  rw [RawList.listed, h.count_eq, hfree, List.take_left]

/-- The next free entry. -/
theorem Holds.exists_next (h : Holds list done) (hroom : list.count < tmuxMaxSessions) :
    ∃ next free, list.sessions = done ++ next :: free ∧
      ∀ s ∈ next :: free, s.name.drop tmuxNameMax = [0] := by
  obtain ⟨free, hfree, hnames⟩ := h.exists_free
  obtain _ | ⟨next, free⟩ := free
  · have hlength := h.length_eq
    rw [hfree, List.append_nil, ← h.count_eq] at hlength
    omega
  · exact ⟨next, free, hfree, hnames⟩

/-- A copied name is written over by the next one, whatever it was. -/
theorem drop_strncpy {dst src : List UInt8} (hdst : dst.drop tmuxNameMax = [0]) :
    strncpy dst src tmuxNameMax = padded src := by
  have hfill : tmuxNameMax - src.length + 1 = 64 - min tmuxNameMax src.length := by
    rw [tmuxNameMax]
    omega
  rw [strncpy, hdst, List.append_assoc, ← List.replicate_succ', hfill, padded]

theorem drop_padded (name : List UInt8) : (padded name).drop tmuxNameMax = [0] := by
  have hlength : (name.take tmuxNameMax).length = min tmuxNameMax name.length := List.length_take
  have hone :
      64 - min tmuxNameMax name.length - (tmuxNameMax - min tmuxNameMax name.length) = 1 := by
    rw [tmuxNameMax]
    omega
  rw [padded, List.drop_append, List.drop_eq_nil_of_le (by rw [hlength]; exact Nat.min_le_left ..),
    hlength, List.drop_replicate, hone]
  rfl

/-- The name of an abandoned line is in no session. -/
theorem holds_copyName (h : Holds list done) (hroom : list.count < tmuxMaxSessions)
    (name : List UInt8) : Holds (list.copyName name) done where
  count_eq := h.count_eq
  length_eq := (List.length_modify ..).trans h.length_eq
  exists_free := by
    obtain ⟨next, free, hfree, hnames⟩ := h.exists_next hroom
    obtain ⟨hnext, hfreeNames⟩ := List.forall_mem_cons.mp hnames
    refine ⟨{ next with name := strncpy next.name name tmuxNameMax } :: free, ?_, ?_⟩
    · rw [RawList.copyName, h.count_eq, hfree, Entries.modify_length]
    · rw [List.forall_mem_cons, drop_strncpy hnext]
      exact ⟨drop_padded name, hfreeNames⟩

/-- A finished line is the next session. -/
theorem holds_finish (h : Holds list done) (hroom : list.count < tmuxMaxSessions)
    (name : List UInt8) (cols rows attached : ℤ) :
    Holds ((list.copyName name).finish cols rows attached)
      (done ++
        [{ name := padded name, cols := .ofInt cols, rows := .ofInt rows, attached := attached }])
    where
  count_eq := by
    rw [List.length_append, ← h.count_eq]
    rfl
  length_eq := (List.length_modify ..).trans ((List.length_modify ..).trans h.length_eq)
  exists_free := by
    obtain ⟨next, free, hfree, hnames⟩ := h.exists_next hroom
    obtain ⟨hnext, hfreeNames⟩ := List.forall_mem_cons.mp hnames
    refine ⟨free, ?_, hfreeNames⟩
    rw [RawList.finish, RawList.copyName, h.count_eq, hfree, Entries.modify_length,
      Entries.modify_length, drop_strncpy hnext, List.append_assoc]
    rfl

/-! ## The lines that are sessions -/

theorem cutAt_eq (line : List UInt8) : Split.cutAt 0x3A line
    = if 0x3A ∈ line then some (firstField line, behind line) else none := rfl

theorem count_eq_zero_of_notMem {line : List UInt8} (h : 0x3A ∉ line) : line.count 0x3A = 0 :=
  List.count_eq_zero.mpr h

/-- Behind the first colon there is one colon less. -/
theorem count_behind {line : List UInt8} (h : 0x3A ∈ line) :
    line.count 0x3A = (behind line).count 0x3A + 1 := by
  obtain ⟨name, rest, rfl, hname⟩ := List.eq_append_cons_of_mem h
  have hbehind : behind (name ++ 0x3A :: rest) = rest := by
    have hcut : Split.cutAt 0x3A (name ++ 0x3A :: rest) = some (name, rest) :=
      Split.cutAt_append hname
    rw [cutAt_eq, if_pos h] at hcut
    exact congrArg Prod.snd (Option.some.inj hcut)
  rw [hbehind, List.count_append, count_eq_zero_of_notMem hname, List.count_cons_self, Nat.zero_add]

/-- A line is a session when it has three colons. -/
def IsSession (line : List UInt8) : Prop := 3 ≤ line.count 0x3A

instance (line : List UInt8) : Decidable (IsSession line) := inferInstanceAs (Decidable (_ ≤ _))

theorem isSession_iff {line : List UInt8} :
    IsSession line ↔ 0x3A ∈ line ∧ 0x3A ∈ behind line ∧ 0x3A ∈ behind (behind line) := by
  rw [IsSession]
  by_cases hname : 0x3A ∈ line
  · rw [count_behind hname]
    by_cases hwidth : 0x3A ∈ behind line
    · rw [count_behind hwidth, and_iff_right hname, and_iff_right hwidth, ← List.count_pos_iff]
      omega
    · rw [count_eq_zero_of_notMem hwidth]
      simp [hwidth]
  · rw [count_eq_zero_of_notMem hname]
    simp [hname]

/-- A line adds its session, if it is one. -/
theorem holds_lineText (h : Holds list done) (hroom : list.count < tmuxMaxSessions)
    (line : List UInt8) : Holds (lineText atoi line list)
      (if IsSession line then done ++ [sessionOf atoi line] else done) := by
  simp only [lineText, widthText, heightText, cutAt_eq, isSession_iff]
  by_cases hname : 0x3A ∈ line
  · by_cases hwidth : 0x3A ∈ behind line
    · by_cases hheight : 0x3A ∈ behind (behind line)
      · simp only [hname, hwidth, hheight, if_true, and_self]
        exact holds_finish h hroom ..
      · simp only [hname, hwidth, hheight, if_true, if_false, and_false]
        exact holds_copyName h hroom _
    · simp only [hname, hwidth, if_true, if_false, false_and, and_false]
      exact holds_copyName h hroom _
  · simp only [hname, if_false, false_and]
    exact h

/-- The lines add their sessions, while there is room. -/
theorem holds_linesText (h : Holds list done) (lines : List (List UInt8)) :
    Holds (linesText atoi lines list)
      (done ++ ((lines.filter IsSession).take (tmuxMaxSessions - done.length)).map
        (sessionOf atoi)) := by
  induction lines generalizing list done with
  | nil => simpa [linesText] using h
  | cons line lines ih =>
    rw [linesText]
    by_cases hroom : list.count < tmuxMaxSessions
    · rw [if_pos hroom]
      have hline := @holds_lineText atoi list done h hroom line
      by_cases hsession : IsSession line
      · rw [if_pos hsession] at hline
        have hleft : tmuxMaxSessions - done.length
            = tmuxMaxSessions - (done ++ [sessionOf atoi line]).length + 1 := by
          rw [h.count_eq] at hroom
          rw [List.length_append, List.length_singleton]
          omega
        have hlines := ih hline
        rw [List.append_assoc] at hlines
        rw [List.filter_cons_of_pos (by simpa using hsession), hleft, List.take_succ_cons,
          List.map_cons]
        exact hlines
      · rw [if_neg hsession] at hline
        rw [List.filter_cons_of_neg (by simpa using hsession)]
        exact ih hline
    · have hleft : tmuxMaxSessions - done.length = 0 := by
        rw [h.count_eq] at hroom
        omega
      rw [if_neg hroom, hleft, List.take_zero, List.map_nil, List.append_nil]
      exact h

/-! ## The parser as a whole -/

/-- What the loop sees of the output: what fits the buffer, up to a NUL. -/
theorem exists_readOutput (stack output : List UInt8) : ∃ after,
    readOutput stack output = (CString.ofBytes (output.take 4095)).bytes ++ 0 :: after := by
  rw [readOutput]
  generalize stack.drop _ = rest
  generalize output.take 4095 = read
  induction read with
  | nil => exact ⟨rest, rfl⟩
  | cons b read ih =>
    by_cases hb : b = 0
    · exact ⟨read ++ 0 :: rest, by simp [CString.ofBytes, hb]⟩
    · obtain ⟨after, hafter⟩ := ih
      refine ⟨after, ?_⟩
      have hbytes : (CString.ofBytes (b :: read)).bytes = b :: (CString.ofBytes read).bytes := by
        change (b :: read).takeWhile (· != 0) = _
        rw [List.takeWhile_cons_of_pos (by simpa using hb)]
        rfl
      rw [List.cons_append, hafter, hbytes, List.cons_append]

/-- The loop ends whatever tmux prints. -/
theorem exists_holds (atoi : List UInt8 → ℤ) (stack output : List UInt8) :
    ∃ list, tmuxListSessions atoi stack (some output) = some list ∧
      Holds list
        ((((Split.pieces 0x0A (CString.ofBytes (output.take 4095)).bytes).filter IsSession).take
          tmuxMaxSessions).map (sessionOf atoi)) := by
  obtain ⟨after, hbuf⟩ := exists_readOutput stack output
  generalize CString.ofBytes (output.take 4095) = text at hbuf ⊢
  have hparse := @parseLoop_append atoi [] after .zero text.bytes text.nulFree
    ((readOutput stack output).length + 1) (by simp [hbuf])
  refine ⟨_, ?_, @holds_linesText atoi _ _ holds_zero (Split.pieces 0x0A text.bytes)⟩
  rw [tmuxListSessions, hbuf]
  rw [hbuf] at hparse
  exact hparse

/-- **The parser is exact.**  Output that fits the buffer is parsed to the end, to the first 32
lines with three colons, each with all its bytes. -/
theorem tmuxListSessions_exact (atoi : List UInt8 → ℤ) (stack : List UInt8) (output : CString)
    (hsize : output.bytes.length < 4095) :
    ∃ list, tmuxListSessions atoi stack (some output.bytes) = some list ∧
      list.listed = (((Split.pieces 0x0A output.bytes).filter IsSession).take tmuxMaxSessions).map
        (sessionOf atoi) ∧
      list.count = list.listed.length := by
  obtain ⟨list, hlist, hholds⟩ := exists_holds atoi stack output.bytes
  have hfits : output.bytes.take 4095 = output.bytes := List.take_of_length_le (by omega)
  rw [hfits, CString.ofBytes_bytes] at hholds
  exact ⟨list, hlist, hholds.listed_eq, by rw [hholds.listed_eq, hholds.count_eq]⟩

/-- Two sessions, and in between an empty line and lines with too few colons. -/
def listingWithColons : CString := .ofString "a:80:24:1\nlonger\n\nc:9\nd:90:30\nb:1:2:0\n"

theorem tmuxListSessions_exact_colons :
    ∃ list, tmuxListSessions CLib.atoi [] (some listingWithColons.bytes) = some list ∧
      list.listed = [sessionOf CLib.atoi (CString.ofString "a:80:24:1").bytes,
        sessionOf CLib.atoi (CString.ofString "b:1:2:0").bytes] ∧ list.count = 2 := by
  obtain ⟨list, hlist, hlisted, hcount⟩ :=
    tmuxListSessions_exact CLib.atoi [] listingWithColons (by decide +kernel)
  have hlines : ((Split.pieces 0x0A listingWithColons.bytes).filter IsSession).take tmuxMaxSessions
      = [(CString.ofString "a:80:24:1").bytes, (CString.ofString "b:1:2:0").bytes] := by
    decide +kernel
  rw [hlines] at hlisted
  exact ⟨list, hlist, hlisted, by rw [hcount, hlisted]; rfl⟩

/-! ## The list of `TmuxSessions` -/

/-- A session, its name read as a string. -/
def RawSession.session (raw : RawSession) : TmuxSession where
  name := CString.ofBytes raw.name
  cols := raw.cols
  rows := raw.rows
  attached := raw.attached

theorem takeWhile_padded {name : List UInt8} (hname : NulFree name) :
    (padded name).takeWhile (· != 0) = name.take tmuxNameMax := by
  have hfree : ∀ b ∈ name.take tmuxNameMax, (b != 0) = true := fun b hb => by
    simpa using hname b (List.mem_of_mem_take hb)
  have hrest : (List.replicate (64 - min tmuxNameMax name.length) (0 : UInt8)).takeWhile (· != 0)
      = [] := by
    rw [List.takeWhile_replicate]
    rfl
  rw [padded, List.takeWhile_append_of_pos hfree, hrest, List.append_nil]

theorem parseSessionLine_eq {line : List UInt8} (hline : NulFree line) : parseSessionLine line
    = if IsSession line then some (sessionOf CLib.atoi line).session else none := by
  have hname : (CString.ofBytes (firstField line)).truncate tmuxNameMax
      = CString.ofBytes (padded (firstField line)) := by
    have hfree : NulFree (firstField line) := fun b hb => hline b (List.takeWhile_subset _ hb)
    refine CString.ext ?_
    change (CString.ofBytes _).bytes.take tmuxNameMax
      = (padded (firstField line)).takeWhile (· != 0)
    rw [takeWhile_padded hfree, CString.ofBytes_of_nulFree hfree]
  simp only [parseSessionLine, cutAt_eq, isSession_iff]
  by_cases hfirst : 0x3A ∈ line
  · by_cases hwidth : 0x3A ∈ behind line
    · by_cases hheight : 0x3A ∈ behind (behind line)
      · simp [hfirst, hwidth, hheight, hname, sessionOf, RawSession.session]
      · simp [hfirst, hwidth, hheight]
    · simp [hfirst, hwidth]
  · simp [hfirst]

theorem parseSessionLines_eq {lines : List (List UInt8)} (hlines : ∀ line ∈ lines, NulFree line)
    (room : ℕ) : parseSessionLines room lines
      = ((lines.filter IsSession).take room).map fun line =>
        (sessionOf CLib.atoi line).session := by
  induction lines generalizing room with
  | nil => cases room <;> simp [parseSessionLines]
  | cons line lines ih =>
    obtain ⟨hline, hrest⟩ := List.forall_mem_cons.mp hlines
    cases room with
    | zero => simp [parseSessionLines]
    | succ room =>
      rw [parseSessionLines, parseSessionLine_eq hline]
      by_cases hsession : IsSession line
      · simp [hsession, ih hrest room]
      · simp [hsession, ih hrest (room + 1)]

/-- **The buffer, the pointers and the free entry** compute the list of the agent. -/
theorem sessions_tmuxListSessions (stack : List UInt8) (output : Option (List UInt8)) :
    (tmuxListSessions CLib.atoi stack output).map (fun list => list.listed.map RawSession.session)
      = some (TmuxRemote.tmuxListSessions output) := by
  cases output with
  | none => rfl
  | some output =>
    obtain ⟨list, hlist, hholds⟩ := exists_holds CLib.atoi stack output
    rw [hlist, Option.map_some, hholds.listed_eq, TmuxRemote.tmuxListSessions]
    rw [parseSessionLines_eq fun line hline b hb =>
      (CString.ofBytes (output.take 4095)).nulFree b (Split.mem_of_mem_pieces hline hb),
      List.map_map]
    rfl

end TmuxRemote.TmuxListing
