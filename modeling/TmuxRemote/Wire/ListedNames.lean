import TmuxRemote.Agent.TmuxListing
import TmuxRemote.Wire.ClientRequests

/-!
# Wire/ListedNames — whether a listed session can be opened (`tmuxremote_tmux.c`,
`tmuxremote_coap_attach.c`)

The agent lists every session of tmux and the app shows each as a row to tap.  A tap sends the name
back in an attach request, where it must pass `tmuxremote_tmux_validate_session_name`, which knows
fewer names than tmux (`listed_opens_iff`).
-/

open StringBuffer

namespace TmuxRemote

/-! ## What tmux allows and what the agent accepts -/

/-- A name tmux gives a session: printable, without a colon or a dot. -/
def AllowedName (name : CString) : Prop :=
  name.isEmpty = false ∧ ∀ b ∈ name.bytes, 0x20 ≤ b ∧ b ≠ 0x7F ∧ b ≠ 0x3A ∧ b ≠ 0x2E

instance (name : CString) : Decidable (AllowedName name) := inferInstanceAs (Decidable (_ ∧ _))

/-- A name of at most 60 letters, digits, dots, underscores and dashes. -/
def AgentName (name : CString) : Prop :=
  name.bytes.length ≤ 60 ∧ ∀ b ∈ name.bytes, isSessionNameChar b = true

instance (name : CString) : Decidable (AgentName name) := inferInstanceAs (Decidable (_ ∧ _))

/-- The attach request of a client that opens a session in a window of so many cells. -/
def openRequest (session : CString) (cols rows : UInt16) : CoapRequest where
  allowed := true
  payload := requestPayload (some (attachItem session cols rows false))

/-- The handler takes the name as it is: what becomes of the request is up to tmux. -/
def Opens (session : CString) : Prop :=
  ∀ cols rows : UInt16, validTerminalSize cols.toUInt64 rows.toUInt64 = true → ∀ tmux,
    attachFields (openRequest session cols rows) tmux
      = AttachFields.meant
        { sessionName := session
          cols := cols.toUInt64
          rows := rows.toUInt64
          createIfMissing := false } tmux

variable {session : CString} {cols rows : UInt16} {tmux : TmuxReplies}

/-- The fields of the request, if its name fits the buffer. -/
theorem readFields_openRequest (hlength : session.bytes.length ≤ 63) :
    readFields AttachFields.assign .init (sessionItems session cols rows [])
      = .ok
        { sessionName := session
          cols := cols.toUInt64
          rows := rows.toUInt64
          createIfMissing := false } := by
  rw [sessionItems,
    readFields_pair (by decide) rfl (AttachFields.assign_session.trans (if_pos hlength)),
    readFields_pair (by decide) rfl (AttachFields.assign_size _).1,
    readFields_pair (by decide) rfl (AttachFields.assign_size _).2]
  rfl

theorem validateSessionName_iff (hne : session.isEmpty = false) :
    validateSessionName session = true ↔ AgentName session := by
  simp [validateSessionName, AgentName, hne]

/-- A name that fits the buffer comes to the check of its characters. -/
theorem attachFields_openRequest (hlength : session.bytes.length ≤ 63)
    (hne : session.isEmpty = false)
    (hsize : validTerminalSize cols.toUInt64 rows.toUInt64 = true) :
    attachFields (openRequest session cols rows) tmux
      = if AgentName session then
          AttachFields.meant
            { sessionName := session
              cols := cols.toUInt64
              rows := rows.toUInt64
              createIfMissing := false } tmux
        else .error .invalidSessionName := by
  have hitems : (openRequest session cols rows).items = .ok (sessionItems session cols rows []) :=
    rfl
  rw [attachFields, hitems]
  change (readFields AttachFields.assign .init (sessionItems session cols rows []) >>= _) = _
  rw [readFields_openRequest hlength]
  change (require (!session.isEmpty) .missingSessionName >>= _) = _
  rw [hne]
  change (require (validTerminalSize cols.toUInt64 rows.toUInt64) .invalidTerminalSize >>= _) = _
  rw [hsize]
  change (require (validateSessionName session) .invalidSessionName >>= _) = _
  by_cases hagent : AgentName session
  · rw [(validateSessionName_iff hne).mpr hagent, if_pos hagent, AttachFields.meant]
    cases tmux.sessionExists <;> rfl
  · have hinvalid : validateSessionName session = false := by
      rw [← Bool.not_eq_true, validateSessionName_iff hne]
      exact hagent
    rw [hinvalid, if_neg hagent]
    rfl

/-- A name that fits the buffer opens its session when the agent knows such names. -/
theorem opens_iff (hlength : session.bytes.length ≤ 63) (hne : session.isEmpty = false) :
    Opens session ↔ AgentName session := by
  constructor
  · intro h
    by_contra hagent
    have hopen := h 80 24 (by decide) { sessionExists := true, created := true }
    rw [attachFields_openRequest hlength hne (by decide), if_neg hagent] at hopen
    exact absurd hopen (by simp [AttachFields.meant])
  · intro hagent cols rows hsize tmux
    rw [attachFields_openRequest hlength hne hsize, if_pos hagent]

/-! ## The names in the list -/

theorem takeWhile_of_prefix {xs ys : List UInt8} {c : UInt8} (h : xs <+: ys) (hc : c ∈ xs) :
    xs.takeWhile (· ≠ c) = ys.takeWhile (· ≠ c) := by
  obtain ⟨rest, rfl⟩ := h
  obtain ⟨before, after, rfl, hbefore⟩ := List.eq_append_cons_of_mem hc
  have hrun : ∀ b ∈ before, decide (b ≠ c) = true := fun b hb =>
    decide_eq_true fun he => hbefore (he ▸ hb)
  rw [List.append_assoc, List.takeWhile_append_of_pos hrun, List.takeWhile_append_of_pos hrun,
    List.cons_append, List.takeWhile_cons_of_neg (by simp), List.takeWhile_cons_of_neg (by simp)]

/-- What fits the buffer of a listing is whole lines and the beginning of one. -/
theorem prefix_of_mem_pieces {table : List TmuxTableSession}
    (hnames : ∀ s ∈ table, 0x0A ∉ s.name.bytes) {size : ℕ} {piece : List UInt8}
    (hpiece : piece ∈ Split.pieces 0x0A ((listing table).take size)) :
    piece = [] ∨ ∃ s ∈ table, piece <+: s.line := by
  induction table generalizing size with
  | nil =>
    refine .inl ?_
    simpa [listing, Split.pieces] using hpiece
  | cons s table ih =>
    obtain ⟨hname, hrest⟩ := List.forall_mem_cons.mp hnames
    have hline : 0x0A ∉ s.line := by
      have hdigits (n : ℕ) : (0x0A : UInt8) ∉ CLib.decimal n := notMem_decimal rfl n
      simp [TmuxTableSession.line, hname, hdigits]
    have hlisting : listing (s :: table) = s.line ++ 0x0A :: listing table := by simp [listing]
    rw [hlisting, List.take_append] at hpiece
    cases hleft : size - s.line.length with
    | zero =>
      have hbegin : 0x0A ∉ s.line.take size := fun h => hline (List.mem_of_mem_take h)
      rw [hleft, List.take_zero, List.append_nil, Split.pieces_of_notMem hbegin,
        List.mem_singleton] at hpiece
      exact .inr ⟨s, List.mem_cons_self, hpiece ▸ List.take_prefix size s.line⟩
    | succ left =>
      rw [hleft, List.take_of_length_le (by omega), List.take_succ_cons,
        Split.pieces_append hline] at hpiece
      obtain rfl | hmem := List.mem_cons.mp hpiece
      · exact .inr ⟨s, List.mem_cons_self, List.prefix_rfl⟩
      · obtain hnil | ⟨t, ht, hbegins⟩ := ih hrest hmem
        · exact .inl hnil
        · exact .inr ⟨t, List.mem_cons_of_mem s ht, hbegins⟩

/-- The first field of a line that tmux prints is the name of its session. -/
theorem firstField_line {s : TmuxTableSession} (hname : 0x3A ∉ s.name.bytes) {piece : List UInt8}
    (hbegins : piece <+: s.line) (hcolon : 0x3A ∈ piece) :
    TmuxListing.firstField piece = s.name.bytes := by
  have hrun : ∀ b ∈ s.name.bytes, decide (b ≠ 0x3A) = true := fun b hb =>
    decide_eq_true fun he => hname (he ▸ hb)
  rw [TmuxListing.firstField, takeWhile_of_prefix hbegins hcolon, TmuxTableSession.line,
    List.takeWhile_append_of_pos hrun, List.takeWhile_cons_of_neg (by simp), List.append_nil]

/-- A listed name is that of a session of tmux, cut to the size of its field. -/
theorem exists_of_mem_tmuxListSessions {table : List TmuxTableSession}
    (hallowed : ∀ s ∈ table, AllowedName s.name) {listed : TmuxSession}
    (h : listed ∈ tmuxListSessions (some (listing table))) :
    ∃ s ∈ table, listed.name = s.name.truncate tmuxNameMax := by
  have hcolons : ∀ s ∈ table, 0x3A ∉ s.name.bytes := fun s hs hmem =>
    ((hallowed s hs).2 _ hmem).2.2.1 rfl
  have hnewlines : ∀ s ∈ table, 0x0A ∉ s.name.bytes := fun s hs hmem =>
    absurd ((hallowed s hs).2 _ hmem).1 (by decide)
  have hbuf : ∀ b ∈ (listing table).take 4095, b ≠ 0 := fun b hb =>
    nulFree_listing table b (List.mem_of_mem_take hb)
  have hlines : ∀ line ∈ Split.pieces 0x0A ((listing table).take 4095), NulFree line :=
    fun line hline b hb => hbuf b (Split.mem_of_mem_pieces hline hb)
  rw [tmuxListSessions, CString.ofBytes_of_nulFree hbuf,
    TmuxListing.parseSessionLines_eq hlines] at h
  obtain ⟨piece, hpiece, rfl⟩ := List.mem_map.mp h
  obtain ⟨hmem, hsession⟩ := List.mem_filter.mp (List.mem_of_mem_take hpiece)
  have hcolon := (TmuxListing.isSession_iff.mp (of_decide_eq_true hsession)).1
  obtain rfl | ⟨s, hs, hbegins⟩ := prefix_of_mem_pieces hnewlines hmem
  · exact absurd hcolon List.not_mem_nil
  · refine ⟨s, hs, CString.ext ?_⟩
    have hname := firstField_line (hcolons s hs) hbegins hcolon
    change (TmuxListing.padded (TmuxListing.firstField piece)).takeWhile (· != 0) = _
    rw [hname, TmuxListing.takeWhile_padded s.name.nulFree]
    rfl

/-- A name that is cut is too long for the agent. -/
theorem agentName_truncate {name : CString} :
    AgentName (name.truncate tmuxNameMax) ↔ AgentName name := by
  by_cases hlength : name.bytes.length ≤ tmuxNameMax
  · rw [CString.truncate_eq_self hlength]
  · rw [tmuxNameMax] at hlength
    have hcut : (name.truncate tmuxNameMax).bytes.length = 63 := by
      change (name.bytes.take 63).length = 63
      rw [List.length_take]
      omega
    exact ⟨fun h => absurd (hcut ▸ h.1) (by decide), fun h => absurd h.1 (by omega)⟩

/-! ## Which listed sessions can be opened -/

/-- **A listed session** is one of tmux, and its name is accepted as it is exactly when that session
is called what the agent accepts. -/
theorem listed_opens_iff (table : List TmuxTableSession)
    (hallowed : ∀ s ∈ table, AllowedName s.name) :
    ∀ listed ∈ tmuxListSessions (some (listing table)), ∃ s ∈ table,
      listed.name = s.name.truncate tmuxNameMax ∧ (Opens listed.name ↔ AgentName s.name) := by
  intro listed hlisted
  obtain ⟨s, hs, hname⟩ := exists_of_mem_tmuxListSessions hallowed hlisted
  have hlength : (s.name.truncate tmuxNameMax).bytes.length ≤ 63 := List.length_take_le ..
  have hne : (s.name.truncate tmuxNameMax).isEmpty = false :=
    (CString.isEmpty_truncate_succ _ _).trans (hallowed s hs).1
  exact ⟨s, hs, hname, by rw [hname, opens_iff hlength hne, agentName_truncate]⟩

/-- A session of that name. -/
def sessionCalled (name : String) : TmuxTableSession where
  name := .ofString name
  width := 80
  height := 24
  attached := 0
  attached_lt := by decide

theorem listed_opens_iff_work :
    ∃ s ∈ [sessionCalled "work"],
      (sessionCalled "work").listed.name = s.name.truncate tmuxNameMax ∧
        (Opens (sessionCalled "work").listed.name ↔ AgentName s.name) := by
  refine listed_opens_iff [sessionCalled "work"] (by decide +kernel)
    (sessionCalled "work").listed ?_
  rw [tmuxListSessions_listing
    { length_le := by decide
      names := by decide +kernel
      size_le := by decide +kernel }]
  exact List.mem_singleton_self _

/-- A session called `my work` is listed and cannot be opened. -/
theorem not_opens_spaced : AllowedName (sessionCalled "my work").name ∧
    ¬ ∀ listed ∈ tmuxListSessions (some (listing [sessionCalled "my work"])),
      Opens listed.name := by
  have hnames : (sessionCalled "my work").listed.name = (sessionCalled "my work").name := by
    decide +kernel
  have hlisted : tmuxListSessions (some (listing [sessionCalled "my work"]))
      = [(sessionCalled "my work").listed] :=
    tmuxListSessions_listing
      { length_le := by decide
        names := by decide +kernel
        size_le := by decide +kernel }
  refine ⟨by decide +kernel, fun h => ?_⟩
  have hopen := h (sessionCalled "my work").listed (hlisted ▸ List.mem_singleton_self _)
  rw [hnames, opens_iff (by decide +kernel) (by decide +kernel)] at hopen
  exact absurd hopen (by decide +kernel)

end TmuxRemote
