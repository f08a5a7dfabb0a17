import TmuxRemote.Library.Trapping
import TmuxRemote.Wire.ClientRequests
import TmuxRemote.Wire.EntryOrder

/-!
# Wire/AppRequests — the requests of the app (`CBORHelpers.swift`)

The app writes the fields of a request as a dictionary, whose entries come out in any order, and a
size as what `UInt64` makes of an `Int`, which traps on a negative one.  The agent reads the same
from each order, a text up to its first NUL.  So the size of a request is what the app said, or the
request is refused, and the session is the one that the app means exactly when its name has no NUL
(`app_requests`).
-/

namespace TmuxRemote

open Cbor hiding map
open Trapping (Trap)

/-! ## The app -/

/-- `.unsignedInt(UInt64(n))` -/
def unsignedInt (n : Int64) : Except Trap Cbor :=
  if n < 0 then .error .conversion else .ok (.unsigned n.toUInt64)

section
variable (encoder : SwiftMapEncoder)

/-- `encodeAttach` -/
def encodeAttach (session : String) (cols rows : Int64) : Except Trap (List UInt8) := do
  let cols ← unsignedInt cols
  let rows ← unsignedInt rows
  pure (encoder.encode
    [entry "session" (.text (utf8 session)), entry "cols" cols, entry "rows" rows])

/-- `encodeCreate` -/
def encodeCreate (session : String) (cols rows : Int64) (command : Option String) :
    Except Trap (List UInt8) := do
  let cols ← unsignedInt cols
  let rows ← unsignedInt rows
  pure (encoder.encode
    ([entry "session" (.text (utf8 session)), entry "cols" cols, entry "rows" rows]
      ++ (command.map fun command => entry "command" (.text (utf8 command))).toList))

/-- `encodeResize` -/
def encodeResize (cols rows : Int64) : Except Trap (List UInt8) := do
  let cols ← unsignedInt cols
  let rows ← unsignedInt rows
  pure (encoder.encode [entry "cols" cols, entry "rows" rows])

end

/-- Neither side traps. -/
def Unsigned (cols rows : Int64) : Prop := 0 ≤ cols ∧ 0 ≤ rows

theorem unsignedInt_eq_ok_iff {n : Int64} {item : Cbor} :
    unsignedInt n = .ok item ↔ 0 ≤ n ∧ item = .unsigned n.toUInt64 := by
  rw [unsignedInt]
  by_cases h : n < 0
  · rw [if_pos h]
    exact Trapping.error_eq_ok_of fun hn => Int64.not_lt.mpr hn h
  · rw [if_neg h]
    exact Trapping.ok_eq_ok_of (Int64.not_lt.mp h)

/-- What is made of two sides. -/
theorem sides_eq_ok_iff {cols rows : Int64} {f : Cbor → Cbor → List UInt8} {payload : List UInt8} :
    (unsignedInt cols >>= fun c => unsignedInt rows >>= fun r => pure (f c r)) = .ok payload ↔
      Unsigned cols rows ∧ payload = f (.unsigned cols.toUInt64) (.unsigned rows.toUInt64) := by
  rw [Trapping.bind_eq_ok_of_spec fun _ => unsignedInt_eq_ok_iff,
    Trapping.bind_eq_ok_of_spec fun _ => unsignedInt_eq_ok_iff, Trapping.pure_eq_ok, Unsigned,
    and_assoc, eq_comm]

/-! ## The agent -/

/-- The entries as the agent's cursor meets them. -/
def entryItems (entries : List (Cbor × Cbor)) : List (CborItem × CborItem) :=
  entries.map (Prod.map cborItem cborItem)

/-- A map's payload. -/
theorem requestPayload_map (entries : List (Cbor × Cbor)) :
    requestPayload (some (.map entries)) = .map (pairItems (entryItems entries)) := by
  rw [requestPayload, pairItems, entryItems, List.flatMap_map]
  rfl

/-- A dictionary's payload is that of its entries in some order. -/
theorem parse_dictionary (encoder : SwiftMapEncoder) (parser : RequestParser)
    {entries : List (Cbor × Cbor)} (hdistinct : (entries.map Prod.fst).Nodup)
    (hlength : (encoder.encode entries).length < 2 ^ 64) :
    ∃ order : List (CborItem × CborItem), order.Perm (entryItems entries)
      ∧ parser.parse (encoder.encode entries) = .map (pairItems order) := by
  obtain ⟨order, hperm, hencode⟩ := encoder.encode_eq entries hdistinct
  rw [hencode] at hlength ⊢
  refine ⟨entryItems order, hperm.map _, ?_⟩
  rw [parser.parse_encode _ (sized_of_length_lt _ hlength), requestPayload_map]

/-! ### What the handlers read -/

/-- A text is copied when it fits. -/
theorem copyTextString_some (size : ℕ) (content : List UInt8) :
    copyTextString size (some content) = if content.length ≤ size then some content else none := by
  rw [copyTextString, Option.filter_some]
  simp only [decide_eq_true_eq]

/-- The agent keeps it up to its first NUL. -/
theorem AttachFields.assign_text (fields : AttachFields) (content : List UInt8) :
    fields.assign (.ofString "session") (.text (some content))
      = if content.length ≤ 63 then .ok { fields with sessionName := .ofBytes content }
        else .error .invalidSession := by
  have hsize : sessionNameMax - 1 = 63 := rfl
  rw [assign, if_pos rfl, hsize, copyTextString_some]
  split_ifs <;> rfl

theorem CreateFields.assign_text (fields : CreateFields) (content : List UInt8) :
    fields.assign (.ofString "session") (.text (some content))
        = (if content.length ≤ 63 then .ok { fields with sessionName := .ofBytes content }
          else .error .invalidSession)
      ∧ fields.assign (.ofString "command") (.text (some content))
        = if content.length ≤ 255 then .ok { fields with command := .ofBytes content }
          else .error .invalidCommand := by
  have hsize : sessionNameMax - 1 = 63 := rfl
  have hne : CString.ofString "command" ≠ CString.ofString "session" := by decide
  constructor
  · rw [assign, if_pos rfl, hsize, copyTextString_some]
    split_ifs <;> rfl
  · rw [assign, if_neg hne, if_pos rfl, copyTextString_some]
    split_ifs <;> rfl

/-- The attach handler and the fields of an attach, in the order of the source. -/
theorem readFields_appAttach (session : String) (cols rows : UInt64) (fields : AttachFields) :
    readFields AttachFields.assign .init (pairItems (entryItems
        [entry "session" (.text (utf8 session)), entry "cols" (.unsigned cols),
          entry "rows" (.unsigned rows)])) = .ok fields
      ↔ (utf8 session).length ≤ 63
        ∧ fields = { sessionName := .ofString session
                     cols := cols
                     rows := rows
                     createIfMissing := false } := by
  have hitems : pairItems (entryItems [entry "session" (.text (utf8 session)),
      entry "cols" (.unsigned cols), entry "rows" (.unsigned rows)])
    = [.text (some (utf8 "session")), .text (some (utf8 session)), .text (some (utf8 "cols")),
      .unsigned cols, .text (some (utf8 "rows")), .unsigned rows] := rfl
  rw [hitems]
  by_cases hlength : (utf8 session).length ≤ 63
  · rw [readFields_pair (by decide) rfl ((AttachFields.assign_text _ _).trans (if_pos hlength)),
      readFields_pair (by decide) rfl (AttachFields.assign_size _).1,
      readFields_pair (by decide) rfl (AttachFields.assign_size _).2]
    exact Trapping.ok_eq_ok_of hlength
  · rw [readFields_pair_error (by decide)
      ((AttachFields.assign_text _ _).trans (if_neg hlength))]
    exact Trapping.error_eq_ok_of hlength

/-- The create handler and those of a create request. -/
theorem readFields_appCreate (session : String) (command : Option String) (cols rows : UInt64)
    (fields : CreateFields) :
    readFields CreateFields.assign .init (pairItems (entryItems
        ([entry "session" (.text (utf8 session)), entry "cols" (.unsigned cols),
            entry "rows" (.unsigned rows)]
          ++ (command.map fun command => entry "command" (.text (utf8 command))).toList)))
          = .ok fields
      ↔ ((utf8 session).length ≤ 63 ∧ ∀ c ∈ command, (utf8 c).length ≤ 255)
        ∧ fields = { sessionName := .ofString session
                     command := .ofString (command.getD "")
                     cols := cols
                     rows := rows } := by
  have hitems : ∀ others : List (Cbor × Cbor), pairItems (entryItems
      ([entry "session" (.text (utf8 session)), entry "cols" (.unsigned cols),
        entry "rows" (.unsigned rows)] ++ others))
    = .text (some (utf8 "session")) :: .text (some (utf8 session)) :: .text (some (utf8 "cols"))
      :: .unsigned cols :: .text (some (utf8 "rows")) :: .unsigned rows
      :: pairItems (entryItems others) := fun _ => rfl
  rw [hitems]
  by_cases hlength : (utf8 session).length ≤ 63
  · rw [readFields_pair (by decide) rfl ((CreateFields.assign_text _ _).1.trans (if_pos hlength)),
      readFields_pair (by decide) rfl (CreateFields.assign_size _).1,
      readFields_pair (by decide) rfl (CreateFields.assign_size _).2]
    cases command with
    | none => exact Trapping.ok_eq_ok_of ⟨hlength, fun c hc => by cases hc⟩
    | some command =>
      have hothers : pairItems (entryItems ((some command).map fun command =>
          entry "command" (.text (utf8 command))).toList)
        = [.text (some (utf8 "command")), .text (some (utf8 command))] := rfl
      rw [hothers]
      by_cases hcommand : (utf8 command).length ≤ 255
      · rw [readFields_pair (by decide) rfl
          ((CreateFields.assign_text _ _).2.trans (if_pos hcommand))]
        refine Trapping.ok_eq_ok_of ⟨hlength, fun c hc => ?_⟩
        obtain rfl := Option.some.inj hc
        exact hcommand
      · rw [readFields_pair_error (by decide)
          ((CreateFields.assign_text _ _).2.trans (if_neg hcommand))]
        exact Trapping.error_eq_ok_of fun hfit => hcommand (hfit.2 command rfl)
  · rw [readFields_pair_error (by decide)
      ((CreateFields.assign_text _ _).1.trans (if_neg hlength))]
    exact Trapping.error_eq_ok_of fun hfit => hlength hfit.1

/-- The resize handler and those of a resize request. -/
theorem readFields_appResize (cols rows : UInt64) (fields : ResizeFields) :
    readFields ResizeFields.assign { cols := none, rows := none } (pairItems (entryItems
        [entry "cols" (.unsigned cols), entry "rows" (.unsigned rows)])) = .ok fields
      ↔ fields = { cols := some cols, rows := some rows } := by
  have hne : CString.ofString "rows" ≠ CString.ofString "cols" := by decide
  have hitems : pairItems (entryItems
      [entry "cols" (.unsigned cols), entry "rows" (.unsigned rows)])
    = [.text (some (utf8 "cols")), .unsigned cols, .text (some (utf8 "rows")), .unsigned rows] :=
    rfl
  have hcols : ({ cols := none, rows := none } : ResizeFields).assign (.ofString "cols")
      (.unsigned cols) = .ok { cols := some cols, rows := none } := by
    rw [ResizeFields.assign, if_pos rfl]
  have hrows : ({ cols := some cols, rows := none } : ResizeFields).assign (.ofString "rows")
      (.unsigned rows) = .ok { cols := some cols, rows := some rows } := by
    rw [ResizeFields.assign, if_neg hne, if_pos rfl]
  rw [hitems, readFields_pair (by decide) rfl hcols, readFields_pair (by decide) rfl hrows,
    readFields, Except.ok.injEq, eq_comm]

/-! ### What they check -/

section
variable {items : List CborItem}

theorem isEmpty_of_validateSessionName {name : CString} (h : validateSessionName name = true) :
    name.isEmpty = false := by
  rw [validateSessionName, Bool.and_eq_true, Bool.and_eq_true, Bool.not_eq_true'] at h
  exact h.1.1

/-- An attach passes when its fields do and tmux has the session, or makes it. -/
theorem attachFields_eq_ok_iff {tmux : TmuxReplies} {fields : AttachFields} :
    attachFields { allowed := true, payload := .map items } tmux = .ok fields ↔
      readFields AttachFields.assign .init items = .ok fields
        ∧ validTerminalSize fields.cols fields.rows = true
        ∧ validateSessionName fields.sessionName = true
        ∧ (tmux.sessionExists = true ∨ fields.createIfMissing = true ∧ tmux.created = true) := by
  rw [attachFields, bind_eq_ok]
  constructor
  · rintro ⟨_, hitems, h⟩
    obtain rfl := Except.ok.inj hitems
    obtain ⟨read, hread, h⟩ := bind_eq_ok.mp h
    obtain ⟨_, -, h⟩ := bind_eq_ok.mp h
    obtain ⟨_, hsize, h⟩ := bind_eq_ok.mp h
    obtain ⟨_, hname, h⟩ := bind_eq_ok.mp h
    split_ifs at h with hexists hcreate
    · obtain rfl := Except.ok.inj h
      exact ⟨hread, require_eq_ok.mp hsize, require_eq_ok.mp hname, Or.inl hexists⟩
    · obtain ⟨_, hcreated, h⟩ := bind_eq_ok.mp h
      obtain rfl := Except.ok.inj h
      exact ⟨hread, require_eq_ok.mp hsize, require_eq_ok.mp hname,
        Or.inr ⟨hcreate, require_eq_ok.mp hcreated⟩⟩
  · rintro ⟨hread, hsize, hname, htmux⟩
    have hnonempty := isEmpty_of_validateSessionName hname
    refine ⟨items, rfl, bind_eq_ok.mpr ⟨fields, hread, ?_⟩⟩
    rw [hnonempty, hsize, hname]
    cases hexists : tmux.sessionExists with
    | true => rfl
    | false =>
      obtain ⟨hcreate, hcreated⟩ := htmux.resolve_left (Bool.eq_false_iff.mp hexists)
      rw [hcreate, hcreated]
      rfl

/-- A create request passes when its fields do. -/
theorem createFields_eq_ok_iff {fields : CreateFields} :
    createFields { allowed := true, payload := .map items } = .ok fields ↔
      readFields CreateFields.assign .init items = .ok fields
        ∧ validTerminalSize fields.cols fields.rows = true
        ∧ validateSessionName fields.sessionName = true := by
  rw [createFields, bind_eq_ok]
  constructor
  · rintro ⟨_, hitems, h⟩
    obtain rfl := Except.ok.inj hitems
    obtain ⟨read, hread, h⟩ := bind_eq_ok.mp h
    obtain ⟨_, -, h⟩ := bind_eq_ok.mp h
    obtain ⟨_, hsize, h⟩ := bind_eq_ok.mp h
    obtain ⟨_, hname, h⟩ := bind_eq_ok.mp h
    obtain rfl := Except.ok.inj h
    exact ⟨hread, require_eq_ok.mp hsize, require_eq_ok.mp hname⟩
  · rintro ⟨hread, hsize, hname⟩
    refine ⟨items, rfl, bind_eq_ok.mpr ⟨fields, hread, ?_⟩⟩
    rw [isEmpty_of_validateSessionName hname, hsize, hname]
    rfl

/-- A size that has passed the checks is its two sides. -/
theorem terminalSize_ext {size size' : TerminalSize}
    (h : size.toWindowSize = size'.toWindowSize) : size = size' := by
  cases size
  cases size'
  cases h
  rfl

/-- A resize whose sides are there passes when they are valid. -/
theorem resizeSize_eq_ok_iff {cols rows : UInt64}
    (hread : readFields ResizeFields.assign { cols := none, rows := none } items
      = .ok { cols := some cols, rows := some rows }) (size : TerminalSize) :
    resizeSize { allowed := true, payload := .map items } = .ok size ↔
      validTerminalSize cols rows = true
        ∧ size.toWindowSize = { cols := cols.toUInt16, rows := rows.toUInt16 } := by
  have hitems : CoapRequest.items { allowed := true, payload := .map items } = .ok items := rfl
  rw [resizeSize, hitems]
  change (readFields ResizeFields.assign { cols := none, rows := none } items >>= _) = _ ↔ _
  rw [hread]
  change (if h : validTerminalSize cols rows = true then _ else _) = _ ↔ _
  split_ifs with hvalid
  · rw [Except.ok.injEq, eq_comm]
    exact ⟨fun h => ⟨hvalid, congrArg TerminalSize.toWindowSize h⟩, fun h => terminalSize_ext h.2⟩
  · refine ⟨fun h => ?_, fun h => absurd h.1 hvalid⟩
    cases h

end

/-! ## Every request of the app -/

/-- The agent holds the name that the app means exactly when no byte of it is NUL. -/
theorem bytes_ofString_eq_iff {s : String} :
    (CString.ofString s).bytes = utf8 s ↔ NulFree s := by
  refine ⟨fun h b hb => ?_, bytes_ofString⟩
  rw [← h] at hb
  exact (CString.ofString s).nulFree b hb

/-- The fields that an attach of the app stands for. -/
def appAttach (session : String) (cols rows : Int64) : AttachFields where
  sessionName := .ofString session
  cols := cols.toUInt64
  rows := rows.toUInt64
  createIfMissing := false

/-- Those of a create request; no command is an empty one. -/
def appCreate (session : String) (cols rows : Int64) (command : Option String) : CreateFields where
  sessionName := .ofString session
  command := .ofString (command.getD "")
  cols := cols.toUInt64
  rows := rows.toUInt64

/-- A request of the app, which has access. -/
def appRequest (parser : RequestParser) (payload : List UInt8) : CoapRequest where
  allowed := true
  payload := parser.parse payload

section
variable {encoder : SwiftMapEncoder} {parser : RequestParser} {session : String}
  {command : Option String} {cols rows : Int64} {payload : List UInt8}

/-- The handler's loop reads a dictionary of the app as it reads its entries in the order of the
source. -/
theorem readFields_dictionary {φ : Type} {assign : φ → CString → CborItem → Except RequestError φ}
    (hassign : IndependentKeys assign) {entries : List (Cbor × Cbor)}
    (hdistinct : (entries.map Prod.fst).Nodup) (hnames : DistinctNames (entryItems entries))
    (hpayload : payload = encoder.encode entries) (hlength : payload.length < 2 ^ 64) :
    ∃ items, appRequest parser payload = { allowed := true, payload := .map items }
      ∧ ∀ fields fields', readFields assign fields items = .ok fields'
        ↔ readFields assign fields (pairItems (entryItems entries)) = .ok fields' := by
  obtain rfl := hpayload
  obtain ⟨order, hperm, hparse⟩ := parse_dictionary encoder parser hdistinct hlength
  exact ⟨pairItems order, by rw [appRequest, hparse], readFields_perm hassign hperm hnames⟩

/-- The names of a request's entries are distinct, whatever its fields. -/
theorem distinctNames_session {c r : Cbor} :
    DistinctNames (entryItems
      ([entry "session" (.text (utf8 session)), entry "cols" c, entry "rows" r]
        ++ (command.map fun command => entry "command" (.text (utf8 command))).toList)) := by
  cases command with
  | none =>
    change List.Nodup [CString.ofString "session", .ofString "cols", .ofString "rows"]
    decide +kernel
  | some command =>
    change List.Nodup
      [CString.ofString "session", .ofString "cols", .ofString "rows", .ofString "command"]
    decide +kernel

theorem distinctNames_size {c r : Cbor} :
    DistinctNames (entryItems [entry "cols" c, entry "rows" r]) := by
  change List.Nodup [CString.ofString "cols", .ofString "rows"]
  decide +kernel

theorem attachFields_appRequest (hencode : encodeAttach encoder session cols rows = .ok payload)
    (hlength : payload.length < 2 ^ 64) (tmux : TmuxReplies) (fields : AttachFields) :
    attachFields (appRequest parser payload) tmux = .ok fields ↔
      fields = appAttach session cols rows ∧ (utf8 session).length ≤ 63
        ∧ validTerminalSize cols.toUInt64 rows.toUInt64 = true
        ∧ validateSessionName (.ofString session) = true ∧ tmux.sessionExists = true := by
  obtain ⟨-, hpayload⟩ := sides_eq_ok_iff.mp hencode
  have hnames : DistinctNames (entryItems [entry "session" (.text (utf8 session)),
      entry "cols" (.unsigned cols.toUInt64), entry "rows" (.unsigned rows.toUInt64)]) :=
    @distinctNames_session session none _ _
  obtain ⟨items, hrequest, hread⟩ := readFields_dictionary AttachFields.independentKeys
    (by simp [entry]) hnames hpayload hlength
  rw [hrequest, attachFields_eq_ok_iff, hread, readFields_appAttach]
  constructor
  · rintro ⟨⟨hfits, rfl⟩, hsize, hname, htmux⟩
    exact ⟨rfl, hfits, hsize, hname, htmux.resolve_right fun h => Bool.false_ne_true h.1⟩
  · rintro ⟨rfl, hfits, hsize, hname, htmux⟩
    exact ⟨⟨hfits, rfl⟩, hsize, hname, Or.inl htmux⟩

theorem createFields_appRequest
    (hencode : encodeCreate encoder session cols rows command = .ok payload)
    (hlength : payload.length < 2 ^ 64) (fields : CreateFields) :
    createFields (appRequest parser payload) = .ok fields ↔
      fields = appCreate session cols rows command ∧ (utf8 session).length ≤ 63
        ∧ (∀ c ∈ command, (utf8 c).length ≤ 255)
        ∧ validTerminalSize cols.toUInt64 rows.toUInt64 = true
        ∧ validateSessionName (.ofString session) = true := by
  obtain ⟨-, hpayload⟩ := sides_eq_ok_iff.mp hencode
  have hkeys : ((([entry "session" (.text (utf8 session)), entry "cols" (.unsigned cols.toUInt64),
      entry "rows" (.unsigned rows.toUInt64)]
        ++ (command.map fun command => entry "command" (.text (utf8 command))).toList)).map
          Prod.fst).Nodup := by cases command <;> simp [entry]
  obtain ⟨items, hrequest, hread⟩ := readFields_dictionary CreateFields.independentKeys hkeys
    distinctNames_session hpayload hlength
  rw [hrequest, createFields_eq_ok_iff, hread, readFields_appCreate]
  constructor
  · rintro ⟨⟨⟨hfits, hcommand⟩, rfl⟩, hsize, hname⟩
    exact ⟨rfl, hfits, hcommand, hsize, hname⟩
  · rintro ⟨rfl, hfits, hcommand, hsize, hname⟩
    exact ⟨⟨⟨hfits, hcommand⟩, rfl⟩, hsize, hname⟩

theorem resizeSize_appRequest (hencode : encodeResize encoder cols rows = .ok payload)
    (hlength : payload.length < 2 ^ 64) (size : TerminalSize) :
    resizeSize (appRequest parser payload) = .ok size ↔
      validTerminalSize cols.toUInt64 rows.toUInt64 = true
        ∧ size.toWindowSize
          = { cols := cols.toUInt64.toUInt16, rows := rows.toUInt64.toUInt16 } := by
  obtain ⟨-, hpayload⟩ := sides_eq_ok_iff.mp hencode
  obtain ⟨items, hrequest, hread⟩ := readFields_dictionary ResizeFields.independentKeys
    (by simp [entry]) distinctNames_size hpayload hlength
  rw [hrequest]
  exact resizeSize_eq_ok_iff ((hread _ _).mpr ((readFields_appResize _ _ _).mpr rfl)) size

end

/-- **The requests of the app**, whatever it asks for and in whatever order its dictionaries come
out: a negative side stops it before anything is sent.  What the agent then reads of an attach, a
create or a resize request is what the app has put in, and it is refused exactly when the size is no
valid one, a text is too long, or the name up to its first NUL is none of a session.  The name that
is read is the app's exactly when it has no NUL. -/
theorem app_requests (encoder : SwiftMapEncoder) (parser : RequestParser) (session : String)
    (command : Option String) (cols rows : Int64) :
    ((appAttach session cols rows).sessionName.bytes = utf8 session ↔ NulFree session)
      ∧ ((∃ payload, encodeAttach encoder session cols rows = .ok payload) ↔ Unsigned cols rows)
      ∧ ((∃ payload, encodeCreate encoder session cols rows command = .ok payload)
        ↔ Unsigned cols rows)
      ∧ ((∃ payload, encodeResize encoder cols rows = .ok payload) ↔ Unsigned cols rows)
      ∧ ∀ payload, payload.length < 2 ^ 64 →
        (encodeAttach encoder session cols rows = .ok payload → ∀ tmux fields,
          attachFields (appRequest parser payload) tmux = .ok fields ↔
            fields = appAttach session cols rows ∧ (utf8 session).length ≤ 63
              ∧ validTerminalSize cols.toUInt64 rows.toUInt64 = true
              ∧ validateSessionName (.ofString session) = true ∧ tmux.sessionExists = true)
        ∧ (encodeCreate encoder session cols rows command = .ok payload → ∀ fields,
          createFields (appRequest parser payload) = .ok fields ↔
            fields = appCreate session cols rows command ∧ (utf8 session).length ≤ 63
              ∧ (∀ c ∈ command, (utf8 c).length ≤ 255)
              ∧ validTerminalSize cols.toUInt64 rows.toUInt64 = true
              ∧ validateSessionName (.ofString session) = true)
        ∧ (encodeResize encoder cols rows = .ok payload → ∀ size,
          resizeSize (appRequest parser payload) = .ok size ↔
            validTerminalSize cols.toUInt64 rows.toUInt64 = true
              ∧ size.toWindowSize
                = { cols := cols.toUInt64.toUInt16, rows := rows.toUInt64.toUInt16 }) := by
  have hencodes : ∀ f : Cbor → Cbor → List UInt8,
      (∃ payload, (unsignedInt cols >>= fun c => unsignedInt rows >>= fun r => pure (f c r))
        = .ok payload) ↔ Unsigned cols rows := by
    intro f
    simp only [sides_eq_ok_iff, exists_and_left, exists_eq, and_true]
  exact ⟨bytes_ofString_eq_iff, hencodes _, hencodes _, hencodes _, fun payload hlength =>
    ⟨fun hencode => attachFields_appRequest hencode hlength,
      fun hencode => createFields_appRequest hencode hlength,
      fun hencode => resizeSize_appRequest hencode hlength⟩⟩

/-- An attach to a session that is there, its entries from the last to the first. -/
theorem app_requests_dev :
    ∃ payload, encodeAttach referenceMapEncoder "dev" 80 24 = .ok payload
      ∧ attachFields (appRequest referenceRequestParser payload) sessionThere
        = .ok (appAttach "dev" 80 24) := by
  obtain ⟨-, hattach, -, -, hread⟩ :=
    app_requests referenceMapEncoder referenceRequestParser "dev" none 80 24
  obtain ⟨payload, hpayload⟩ := hattach.mpr ⟨by decide, by decide⟩
  have hlength : payload.length < 2 ^ 64 := by
    rw [(sides_eq_ok_iff.mp hpayload).2]
    decide +kernel
  refine ⟨payload, hpayload, ((hread payload hlength).1 hpayload sessionThere _).mpr ?_⟩
  exact ⟨rfl, by decide +kernel, by decide +kernel, by decide +kernel, rfl⟩

end TmuxRemote
