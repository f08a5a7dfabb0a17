import TmuxRemote.Agent.SessionMap

/-!
# Agent/Requests — attach, create and resize requests (`tmuxremote_coap_attach.c`,
`tmuxremote_coap_create.c`, `tmuxremote_coap_resize.c`)

A request is checked for access, its CBOR map is read pair by pair, and the values are checked; what
passes is acted on.  The payload is given as TinyCBOR presents it: the items of the map in order,
keys and values alternating.  The three handlers share the loop over them (`readFields`) and differ
in the keys they know.
-/

namespace TmuxRemote

/-! ## Payloads -/

/-- An item the cursor stands on.  The content of a text is `none` when it cannot be read. -/
inductive CborItem
  | text (content : Option (List UInt8))
  | unsigned (value : UInt64)
  | boolean (value : Bool)
  /-- Any other item, with all that is nested in it. -/
  | other
  /-- No item: the payload is damaged or ends here. -/
  | malformed

/-- `cbor_value_advance` succeeds. -/
def CborItem.canAdvance : CborItem → Bool
  | text none | malformed => false
  | _ => true

/-- `cbor_value_copy_text_string` into a buffer of `size` bytes. -/
def copyTextString (size : ℕ) (content : Option (List UInt8)) : Option (List UInt8) :=
  content.filter (·.length ≤ size)

/-- What `tmuxremote_init_cbor_parser` and the look at the first item find. -/
inductive RequestPayload
  | invalidFormat
  | missing
  | notMap
  | map (items : List CborItem)

/-- A request as its handler sees it: the outcome of the access check, and the payload. -/
structure CoapRequest where
  allowed : Bool
  payload : RequestPayload

/-- The error responses of the checks that the three handlers make. -/
inductive RequestError
  | accessDenied
  | invalidContentFormat
  | missingPayload
  | expectedMap
  | invalidPayload
  | invalidKey
  | invalidSession
  | invalidCommand
  | missingSessionName
  | missingSize
  | invalidTerminalSize
  | invalidSessionName
  | createFailed
  | sessionNotFound
  deriving DecidableEq

namespace RequestError

/-- The CoAP response code. -/
def code : RequestError → ℕ
  | accessDenied => 403
  | sessionNotFound => 404
  | createFailed => 500
  | _ => 400

/-- The text of the response. -/
def message : RequestError → String
  | accessDenied => "Access denied"
  | invalidContentFormat => "Invalid Content Format"
  | missingPayload => "Missing payload"
  | expectedMap => "Expected map"
  | invalidPayload => "Invalid CBOR payload"
  | invalidKey => "Invalid or oversized key"
  | invalidSession => "Invalid or oversized session"
  | invalidCommand => "Invalid or oversized command"
  | missingSessionName => "Missing session name"
  | missingSize => "Missing cols or rows"
  | invalidTerminalSize => "Invalid terminal size"
  | invalidSessionName => "Invalid session name"
  | createFailed => "Failed to create session"
  | sessionNotFound => "Session not found"

end RequestError

/-- A handler's checks, in order: the first that fails is the answer. -/
def require (check : Bool) (error : RequestError) : Except RequestError Unit :=
  if check then .ok () else .error error

/-- The items of the payload's map. -/
def CoapRequest.items (request : CoapRequest) : Except RequestError (List CborItem) := do
  require request.allowed .accessDenied
  match request.payload with
  | .invalidFormat => .error .invalidContentFormat
  | .missing => .error .missingPayload
  | .notMap => .error .expectedMap
  | .map items => .ok items

/-- The size of `keyBuf`, less its terminator. -/
def keyMax : ℕ := 31

/-- The loop over the map: a pair whose key is no text is skipped, any other is handed to
`assign`. -/
def readFields {φ : Type} (assign : φ → CString → CborItem → Except RequestError φ) :
    φ → List CborItem → Except RequestError φ
  | fields, [] => .ok fields
  | _, [.text content] =>
    .error (if (copyTextString keyMax content).isSome then .invalidPayload else .invalidKey)
  | _, [_] => .error .invalidPayload
  | fields, .text content :: value :: items =>
    match copyTextString keyMax content with
    | none => .error .invalidKey
    | some key => do
      let fields ← assign fields (.ofBytes key) value
      require value.canAdvance .invalidPayload
      readFields assign fields items
  | fields, key :: value :: items => do
    require (key.canAdvance && value.canAdvance) .invalidPayload
    readFields assign fields items

/-- `TMUXREMOTE_MAX_TERM_COLS`, `TMUXREMOTE_MAX_TERM_ROWS` -/
def maxTermSize : UInt64 := 1000

/-- `valid_terminal_size` -/
def validTerminalSize (cols rows : UInt64) : Bool :=
  1 ≤ cols && cols ≤ maxTermSize && 1 ≤ rows && rows ≤ maxTermSize

/-! ## Attach -/

/-- The fields of an attach request, with their defaults. -/
structure AttachFields where
  sessionName : CString
  cols : UInt64
  rows : UInt64
  createIfMissing : Bool

namespace AttachFields

def init : AttachFields where
  sessionName := .ofString ""
  cols := 80
  rows := 24
  createIfMissing := false

/-- A value under its key; other keys, and values of another type, are ignored. -/
def assign (fields : AttachFields) (key : CString) : CborItem → Except RequestError AttachFields
  | .text content =>
    if key = .ofString "session" then
      match copyTextString (sessionNameMax - 1) content with
      | none => .error .invalidSession
      | some name => .ok { fields with sessionName := .ofBytes name }
    else .ok fields
  | .unsigned value =>
    if key = .ofString "cols" then .ok { fields with cols := value }
    else if key = .ofString "rows" then .ok { fields with rows := value }
    else .ok fields
  | .boolean value =>
    if key = .ofString "create" then .ok { fields with createIfMissing := value } else .ok fields
  | _ => .ok fields

end AttachFields

/-- `isalnum(c) || c == '.' || c == '_' || c == '-'` -/
def isSessionNameChar (c : UInt8) : Bool :=
  (0x61 ≤ c && c ≤ 0x7A) || (0x41 ≤ c && c ≤ 0x5A) || CLib.isDigit c || c == 0x2E || c == 0x5F
    || c == 0x2D

/-- `tmuxremote_tmux_validate_session_name` -/
def validateSessionName (name : CString) : Bool :=
  !name.isEmpty && name.bytes.length ≤ 60 && name.bytes.all isSessionNameChar

/-- What tmux answers while the request is handled: `tmuxremote_tmux_session_exists` and
`tmuxremote_tmux_create_session`. -/
structure TmuxReplies where
  sessionExists : Bool
  created : Bool

/-- The checks of the attach handler: the fields of a request that passes them all. -/
def attachFields (request : CoapRequest) (tmux : TmuxReplies) :
    Except RequestError AttachFields := do
  let items ← request.items
  let fields ← readFields AttachFields.assign AttachFields.init items
  require (!fields.sessionName.isEmpty) .missingSessionName
  require (validTerminalSize fields.cols fields.rows) .invalidTerminalSize
  require (validateSessionName fields.sessionName) .invalidSessionName
  if tmux.sessionExists then .ok fields
  else if fields.createIfMissing then do
    require tmux.created .createFailed
    .ok fields
  else .error .sessionNotFound

/-- The answers to an attach request. -/
inductive AttachAnswer
  | rejected (error : RequestError)
  | sessionMapFull
  | attached
  deriving DecidableEq

namespace AttachAnswer

/-- The CoAP response code. -/
def code : AttachAnswer → ℕ
  | rejected error => error.code
  | sessionMapFull => 500
  | attached => 201

/-- The text of an error response. -/
def message : AttachAnswer → Option String
  | rejected error => some error.message
  | sessionMapFull => some "Session map full"
  | attached => none

end AttachAnswer

/-- `handle_request` of the attach endpoint, less the notification of the control streams. -/
def handleAttach (map : SessionMap) (ref : ConnectionRef) (request : CoapRequest)
    (tmux : TmuxReplies) : AttachAnswer × SessionMap :=
  match attachFields request tmux with
  | .error error => (.rejected error, map)
  | .ok fields =>
    match map.set ref fields.sessionName fields.cols.toUInt16 fields.rows.toUInt16 with
    | none => (.sessionMapFull, map)
    | some map' => (.attached, map')

/-! ## Create -/

/-- The fields of a create request, with their defaults. -/
structure CreateFields where
  sessionName : CString
  command : CString
  cols : UInt64
  rows : UInt64

namespace CreateFields

def init : CreateFields where
  sessionName := .ofString ""
  command := .ofString ""
  cols := 80
  rows := 24

/-- A value under its key; other keys, and values of another type, are ignored. -/
def assign (fields : CreateFields) (key : CString) : CborItem → Except RequestError CreateFields
  | .text content =>
    if key = .ofString "session" then
      match copyTextString (sessionNameMax - 1) content with
      | none => .error .invalidSession
      | some name => .ok { fields with sessionName := .ofBytes name }
    else if key = .ofString "command" then
      match copyTextString 255 content with
      | none => .error .invalidCommand
      | some command => .ok { fields with command := .ofBytes command }
    else .ok fields
  | .unsigned value =>
    if key = .ofString "cols" then .ok { fields with cols := value }
    else if key = .ofString "rows" then .ok { fields with rows := value }
    else .ok fields
  | _ => .ok fields

end CreateFields

/-- The checks of the create handler: the fields of a request that passes them all. -/
def createFields (request : CoapRequest) : Except RequestError CreateFields := do
  let items ← request.items
  let fields ← readFields CreateFields.assign CreateFields.init items
  require (!fields.sessionName.isEmpty) .missingSessionName
  require (validTerminalSize fields.cols fields.rows) .invalidTerminalSize
  require (validateSessionName fields.sessionName) .invalidSessionName
  .ok fields

/-! ## Resize -/

/-- `struct winsize`, less the pixels. -/
structure WindowSize where
  cols : UInt16
  rows : UInt16
  deriving DecidableEq

/-- The size of a resize request that has passed the checks. -/
structure TerminalSize extends WindowSize where
  cols_pos : 0 < cols
  rows_pos : 0 < rows

/-- The size of an attach request, as it is stored. -/
def AttachFields.size (fields : AttachFields) : WindowSize where
  cols := fields.cols.toUInt16
  rows := fields.rows.toUInt16

theorem toUInt16_pos {n : UInt64} (hlow : 1 ≤ n) (hhigh : n ≤ maxTermSize) : 0 < n.toUInt16 := by
  rw [UInt64.le_iff_toNat_le] at hlow hhigh
  rw [UInt16.lt_iff_toNat_lt, UInt64.toNat_toUInt16, Nat.mod_eq_of_lt]
  · exact hlow
  · exact hhigh.trans_lt (by decide)

/-- A valid size is positive in `uint16_t` as well. -/
theorem pos_of_validTerminalSize {cols rows : UInt64} (h : validTerminalSize cols rows = true) :
    0 < cols.toUInt16 ∧ 0 < rows.toUInt16 := by
  simp only [validTerminalSize, Bool.and_eq_true, decide_eq_true_iff] at h
  obtain ⟨⟨⟨hcols, hcols'⟩, hrows⟩, hrows'⟩ := h
  exact ⟨toUInt16_pos hcols hcols', toUInt16_pos hrows hrows'⟩

/-- The fields of a resize request: `none` as long as the key has not been read. -/
structure ResizeFields where
  cols : Option UInt64
  rows : Option UInt64

/-- A value under its key; other keys, and values of another type, are ignored. -/
def ResizeFields.assign (fields : ResizeFields) (key : CString) :
    CborItem → Except RequestError ResizeFields
  | .unsigned value =>
    if key = .ofString "cols" then .ok { fields with cols := some value }
    else if key = .ofString "rows" then .ok { fields with rows := some value }
    else .ok fields
  | _ => .ok fields

/-- The checks of the resize handler: the size of a request that passes them all. -/
def resizeSize (request : CoapRequest) : Except RequestError TerminalSize := do
  let items ← request.items
  let fields ← readFields ResizeFields.assign { cols := none, rows := none } items
  match fields.cols, fields.rows with
  | some cols, some rows =>
    if h : validTerminalSize cols rows then
      .ok
        { cols := cols.toUInt16
          rows := rows.toUInt16
          cols_pos := (pos_of_validTerminalSize h).1
          rows_pos := (pos_of_validTerminalSize h).2 }
    else .error .invalidTerminalSize
  | _, _ => .error .missingSize

/-! ## What an answer says -/

theorem bind_eq_ok {ε α β : Type} {x : Except ε α} {f : α → Except ε β} {b : β} :
    (x >>= f) = .ok b ↔ ∃ a, x = .ok a ∧ f a = .ok b := by
  rcases x with e | a
  · exact iff_of_false (by rintro ⟨⟩) fun ⟨a, h, _⟩ => nomatch h
  · refine ⟨fun h => ⟨a, rfl, h⟩, ?_⟩
    rintro ⟨a', h, hf⟩
    obtain rfl := Except.ok.inj h
    exact hf

theorem require_eq_ok {check : Bool} {error : RequestError} {u : Unit} :
    require check error = .ok u ↔ check = true := by
  rcases check with - | - <;> simp [require]

/-- A request that passes the checks names a session as tmux does, in a size it can have. -/
theorem attachFields_ok {request : CoapRequest} {tmux : TmuxReplies} {fields : AttachFields}
    (h : attachFields request tmux = .ok fields) :
    validateSessionName fields.sessionName = true
      ∧ validTerminalSize fields.cols fields.rows = true := by
  rw [attachFields, bind_eq_ok] at h
  obtain ⟨items, -, h⟩ := h
  obtain ⟨read, -, h⟩ := bind_eq_ok.mp h
  obtain ⟨_, -, h⟩ := bind_eq_ok.mp h
  obtain ⟨_, hsize, h⟩ := bind_eq_ok.mp h
  obtain ⟨_, hname, h⟩ := bind_eq_ok.mp h
  have hread : read = fields := by
    split at h
    · exact Except.ok.inj h
    · split at h
      · obtain ⟨_, -, h⟩ := bind_eq_ok.mp h
        exact Except.ok.inj h
      · exact nomatch h
  rw [← hread]
  exact ⟨require_eq_ok.mp hname, require_eq_ok.mp hsize⟩

/-- A valid name fits the buffers it is copied to. -/
theorem length_of_validateSessionName {name : CString} (h : validateSessionName name = true) :
    name.bytes.length ≤ sessionNameMax - 1 := by
  rw [validateSessionName, Bool.and_eq_true, Bool.and_eq_true, decide_eq_true_iff] at h
  exact h.1.2.trans (by decide)

variable {map map' : SessionMap} {ref other : ConnectionRef} {request : CoapRequest}
  {tmux : TmuxReplies} {fields : AttachFields}

theorem handleAttach_error {error : RequestError} (h : attachFields request tmux = .error error) :
    handleAttach map ref request tmux = (.rejected error, map) := by rw [handleAttach, h]

theorem handleAttach_full (hfields : attachFields request tmux = .ok fields)
    (hset : map.set ref fields.sessionName fields.cols.toUInt16 fields.rows.toUInt16 = none) :
    handleAttach map ref request tmux = (.sessionMapFull, map) := by
  simp only [handleAttach, hfields, hset]

theorem handleAttach_attached (hfields : attachFields request tmux = .ok fields)
    (hset : map.set ref fields.sessionName fields.cols.toUInt16 fields.rows.toUInt16 = some map') :
    handleAttach map ref request tmux = (.attached, map') := by
  simp only [handleAttach, hfields, hset]

/-- **What an attach can do**: it is refused, finds the map full, or sets the entry of its
connection. -/
theorem handleAttach_cases (map : SessionMap) (ref : ConnectionRef) (request : CoapRequest)
    (tmux : TmuxReplies) :
    (∃ error, handleAttach map ref request tmux = (.rejected error, map))
      ∨ (handleAttach map ref request tmux = (.sessionMapFull, map) ∧ map.get ref = none ∧ map.Full)
      ∨ ∃ map', handleAttach map ref request tmux = (.attached, map')
        ∧ (∀ other, other ≠ ref → map'.get other = map.get other)
        ∧ ∀ fields, attachFields request tmux = .ok fields →
          map'.get ref = some
            { sessionName := fields.sessionName
              cols := fields.cols.toUInt16
              rows := fields.rows.toUInt16 } := by
  rcases hfields : attachFields request tmux with error | fields
  · exact Or.inl ⟨error, handleAttach_error hfields⟩
  · rcases hset : map.set ref fields.sessionName fields.cols.toUInt16 fields.rows.toUInt16
      with - | map'
    · exact Or.inr (Or.inl ⟨handleAttach_full hfields hset, SessionMap.set_eq_none_iff.mp hset⟩)
    · have hname := length_of_validateSessionName (attachFields_ok hfields).1
      refine Or.inr (Or.inr ⟨map', handleAttach_attached hfields hset,
        fun other hne => SessionMap.get_set_of_ne hset hne, ?_⟩)
      intro stored hstored
      rw [← Except.ok.inj hstored]
      exact SessionMap.get_set_self hset hname

/-- An attach leaves the other connections' entries alone. -/
theorem get_handleAttach_of_ne (hne : other ≠ ref) :
    (handleAttach map ref request tmux).2.get other = map.get other := by
  obtain ⟨error, h⟩ | ⟨h, -⟩ | ⟨map', h, hother, -⟩ := handleAttach_cases map ref request tmux
  · rw [h]
  · rw [h]
  · rw [h, hother other hne]

/-- The keys of the map after an attach. -/
theorem mem_keys_handleAttach (h : other ∈ (handleAttach map ref request tmux).2.keys) :
    other = ref ∨ other ∈ map.keys := by
  by_cases hne : other = ref
  · exact Or.inl hne
  · have hget := @get_handleAttach_of_ne map ref other request tmux hne
    refine Or.inr (Decidable.of_not_not fun hmem => ?_)
    rw [← SlotTable.get_eq_none_iff, ← hget, SlotTable.get_eq_none_iff] at hmem
    exact hmem h

/-- **An attach answered 201 stores its target.** -/
theorem get_handleAttach_self (hfields : attachFields request tmux = .ok fields)
    (hanswer : (handleAttach map ref request tmux).1 = .attached) :
    (handleAttach map ref request tmux).2.get ref = some
      { sessionName := fields.sessionName
        cols := fields.cols.toUInt16
        rows := fields.rows.toUInt16 } := by
  obtain ⟨error, h⟩ | ⟨h, -⟩ | ⟨map', h, -, hself⟩ := handleAttach_cases map ref request tmux
  · rw [h] at hanswer
    exact nomatch hanswer
  · rw [h] at hanswer
    exact nomatch hanswer
  · rw [h]
    exact hself fields hfields

/-- "Session map full" is answered only when other connections hold every slot. -/
theorem full_of_handleAttach (hanswer : (handleAttach map ref request tmux).1 = .sessionMapFull) :
    map.get ref = none ∧ map.Full := by
  obtain ⟨error, h⟩ | ⟨-, hfull⟩ | ⟨map', h, -⟩ := handleAttach_cases map ref request tmux
  · rw [h] at hanswer
    exact nomatch hanswer
  · exact hfull
  · rw [h] at hanswer
    exact nomatch hanswer

/-! ## Requests for example runs -/

/-- An attach to a session, with the default size. -/
def attachTo (sessionName : String) : CoapRequest where
  allowed := true
  payload := .map [.text (some "session".toUTF8.data.toList),
    .text (some sessionName.toUTF8.data.toList)]

/-- The fields of that request. -/
def attachedTo (sessionName : String) : AttachFields :=
  { AttachFields.init with sessionName := .ofString sessionName }

/-- The session exists. -/
def sessionThere : TmuxReplies := { sessionExists := true, created := false }

end TmuxRemote
