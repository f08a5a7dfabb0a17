import TmuxRemote.Wire.SessionListing

/-!
# Wire/ClientRequests — the requests of the command line client (`tmuxremote_client_coap.c`)

The client encodes its requests into buffers of its own and looks at no result of the encoder.  As
long as the encoding fits, the agent's handler reads the fields back, or refuses them by its own
limits.  What does not fit is sent nevertheless, with a length that is not one
(`client_requests_iff`).
-/

namespace TmuxRemote

open Cbor hiding map

/-! ## The client -/

/-- What `nabto_client_coap_set_request_payload` is handed: so many bytes from the start of the
buffer. -/
structure RequestBuffer where
  cborBuf : List UInt8
  cborLen : ℕ

/-- The bytes that are sent. -/
def RequestBuffer.payload (request : RequestBuffer) : List UInt8 :=
  request.cborBuf.take request.cborLen

/-- The client library: whether a request can be created, and the status code of the response;
`none` when the request fails. -/
structure ClientCoap where
  coapNew : Bool
  execute : RequestBuffer → Option ℕ

section

variable (api : BufferEncoderApi) (coap : ClientCoap)

/-- The request is handed over and executed: the value returned, and what was handed over. -/
def executeRequest (encoder : api.Encoder) : Bool × Option RequestBuffer :=
  let request : RequestBuffer :=
    { cborBuf := api.buffer encoder, cborLen := api.bufferSize encoder }
  (coap.execute request == some 201, some request)

/-- `tmuxremote_coap_attach` -/
def coapAttach (session : CString) (cols rows : UInt16) (create : Bool) :
    Bool × Option RequestBuffer :=
  if !coap.coapNew then (false, none)
  else
    let encoder := api.init 256
    let map := api.createMap encoder (if create then 4 else 3)
    let map := api.encodeText map (utf8 "session")
    let map := api.encodeText map session.bytes
    let map := api.encodeText map (utf8 "cols")
    let map := api.encodeUint map cols.toUInt64
    let map := api.encodeText map (utf8 "rows")
    let map := api.encodeUint map rows.toUInt64
    let map :=
      if create then api.encodeBoolean (api.encodeText map (utf8 "create")) true else map
    executeRequest api coap (api.closeContainer encoder map).1

/-- `tmuxremote_coap_create_session` -/
def coapCreateSession (session : CString) (cols rows : UInt16) (command : Option CString) :
    Bool × Option RequestBuffer :=
  if !coap.coapNew then (false, none)
  else
    let encoder := api.init 512
    let map := api.createMap encoder (if command.isSome then 4 else 3)
    let map := api.encodeText map (utf8 "session")
    let map := api.encodeText map session.bytes
    let map := api.encodeText map (utf8 "cols")
    let map := api.encodeUint map cols.toUInt64
    let map := api.encodeText map (utf8 "rows")
    let map := api.encodeUint map rows.toUInt64
    let map :=
      match command with
      | some command => api.encodeText (api.encodeText map (utf8 "command")) command.bytes
      | none => map
    executeRequest api coap (api.closeContainer encoder map).1

end

/-! ## The items that are sent -/

/-- The fields that both requests have. -/
def sessionEntries (session : CString) (cols rows : UInt16) : List (Cbor × Cbor) :=
  [entry "session" (.text session.bytes), entry "cols" (.unsigned cols.toUInt64),
    entry "rows" (.unsigned rows.toUInt64)]

def attachItem (session : CString) (cols rows : UInt16) (create : Bool) : Cbor :=
  .map (sessionEntries session cols rows ++ if create then [entry "create" (.simple 21)] else [])

def createItem (session : CString) (cols rows : UInt16) (command : Option CString) : Cbor :=
  .map (sessionEntries session cols rows
    ++ (command.map fun command => entry "command" (.text command.bytes)).toList)

section
variable {api : BufferEncoderApi} {coap : ClientCoap} {session : CString} {cols rows : UInt16}

/-- A finished item that fits the buffer is what is handed over. -/
theorem executeRequest_of_fits {encoder : api.Encoder} {capacity : ℕ} {item : List UInt8}
    (hstate : api.state encoder = (api.state (api.init capacity)).emit item)
    (hfits : item.length ≤ capacity) :
    (executeRequest api coap encoder).2 = some { cborBuf := item, cborLen := item.length } := by
  have hlength := api.bufferSize_eq encoder
  rw [hstate, api.state_init] at hlength
  rw [executeRequest, EncoderApi.buffer_of_fits hstate hfits, hlength hfits]
  rfl

/-- The encoder of an attach request. -/
theorem state_attach (create : Bool) :
    ∃ encoder, coapAttach api coap session cols rows create
        = (if !coap.coapNew then (false, none) else executeRequest api coap encoder)
      ∧ api.state encoder
        = (api.state (api.init 256)).emit (attachItem session cols rows create).encode := by
  refine ⟨_, rfl, (EncoderApi.closeContainer_spec ?_).1⟩
  cases create <;>
    simp [EncoderState.ext_iff, attachItem, sessionEntries, entry, encode, encodeEntries,
      EncoderState.init]

/-- The encoder of a create request. -/
theorem state_create (command : Option CString) :
    ∃ encoder, coapCreateSession api coap session cols rows command
        = (if !coap.coapNew then (false, none) else executeRequest api coap encoder)
      ∧ api.state encoder
        = (api.state (api.init 512)).emit (createItem session cols rows command).encode := by
  refine ⟨_, rfl, (EncoderApi.closeContainer_spec ?_).1⟩
  cases command <;>
    simp [EncoderState.ext_iff, createItem, sessionEntries, entry, encode, encodeEntries,
      EncoderState.init]

end

/-! ## The agent -/

/-- How a request looks to the agent's handlers. -/
def requestPayload : Option Cbor → RequestPayload
  | none => .notMap
  | some (.map entries) => .map (entries.flatMap fun (key, value) => [cborItem key, cborItem value])
  | some _ => .notMap

/-- The parser of the agent, which does not look into texts. -/
structure RequestParser where
  parse : List UInt8 → RequestPayload
  parse_encode : ∀ v : Cbor, v.Sized → parse v.encode = requestPayload (some v)

/-- A parser that reads the whole item at once. -/
def referenceRequestParser : RequestParser where
  parse := fun payload => requestPayload (Cbor.decode (fun _ => true) payload)
  parse_encode := by
    intro v hsized
    rw [Cbor.decode_encode_of_all (fun _ => rfl) hsized]

/-- The request of a client that has access. -/
def RequestParser.request (parser : RequestParser) (request : RequestBuffer) : CoapRequest where
  allowed := true
  payload := parser.parse request.payload

/-- The refusals of a request that has been read: a field is too long, or not what it should be. -/
def RequestError.Refuses (error : RequestError) : Prop :=
  error ∈ [.invalidSession, .invalidCommand, .missingSessionName, .invalidTerminalSize,
    .invalidSessionName]

instance (error : RequestError) : Decidable error.Refuses := inferInstanceAs (Decidable (_ ∈ _))

/-- A handler does with a request what it should, or refuses it. -/
def ReadAs {φ : Type} (read meant : Except RequestError φ) : Prop :=
  read = meant ∨ ∃ error, read = .error error ∧ error.Refuses

/-- A request is not sent and the failure reported, or it is sent from within its buffer and read as
it was meant. -/
def SentAsMeant {φ : Type} (size : ℕ) (read : RequestBuffer → Except RequestError φ)
    (meant : Except RequestError φ) : Bool × Option RequestBuffer → Prop
  | (returned, none) => returned = false
  | (_, some request) => request.cborLen ≤ size ∧ ReadAs (read request) meant

/-- What becomes of an attach to a session that tmux may have. -/
def AttachFields.meant (fields : AttachFields) (tmux : TmuxReplies) :
    Except RequestError AttachFields :=
  if tmux.sessionExists then .ok fields
  else if !fields.createIfMissing then .error .sessionNotFound
  else if tmux.created then .ok fields
  else .error .createFailed

/-- An attach of the client, whatever tmux answers to the agent. -/
def AttachSentAsMeant (api : BufferEncoderApi) (parser : RequestParser) (coap : ClientCoap)
    (session : CString) (cols rows : UInt16) (create : Bool) : Prop :=
  ∀ tmux, SentAsMeant 256 (fun request => attachFields (parser.request request) tmux)
    (AttachFields.meant
      { sessionName := session
        cols := cols.toUInt64
        rows := rows.toUInt64
        createIfMissing := create } tmux)
    (coapAttach api coap session cols rows create)

/-- A create request of the client; to the agent an empty command is none. -/
def CreateSentAsMeant (api : BufferEncoderApi) (parser : RequestParser) (coap : ClientCoap)
    (session : CString) (cols rows : UInt16) (command : Option CString) : Prop :=
  SentAsMeant 512 (fun request => createFields (parser.request request))
    (.ok
      { sessionName := session
        command := command.getD (.ofString "")
        cols := cols.toUInt64
        rows := rows.toUInt64 })
    (coapCreateSession api coap session cols rows command)

/-! ### The loop over the map -/

section
variable {φ : Type} {assign : φ → CString → CborItem → Except RequestError φ} {fields : φ}

/-- A value that the handler refuses ends the loop. -/
theorem readFields_pair_error {key : String} {value : CborItem} {items : List CborItem}
    {error : RequestError} (hkey : (utf8 key).length ≤ keyMax)
    (hassign : assign fields (.ofString key) value = .error error) :
    readFields assign fields (.text (some (utf8 key)) :: value :: items) = .error error := by
  rw [readFields_key hkey, hassign]
  rfl

end

/-- A check that refuses what it fails keeps a reading. -/
theorem readAs_require {φ : Type} {check : Bool} {error : RequestError}
    {rest meant : Except RequestError φ} (hrefuses : error.Refuses) (hrest : ReadAs rest meant) :
    ReadAs (require check error >>= fun _ => rest) meant := by
  cases check with
  | true => exact hrest
  | false => exact Or.inr ⟨error, rfl, hrefuses⟩

/-- What is done with the fields that should be read. -/
theorem readAs_bind {φ ψ : Type} {read : Except RequestError φ} {fields : φ}
    {f : φ → Except RequestError ψ} {meant : Except RequestError ψ}
    (hread : ReadAs read (.ok fields))
    (hf : ReadAs (f fields) meant) : ReadAs (read >>= f) meant := by
  obtain rfl | ⟨error, rfl, hrefuses⟩ := hread
  · exact hf
  · exact Or.inr ⟨error, rfl, hrefuses⟩

/-- A value that is refused is refused by the handler. -/
theorem readAs_error {φ : Type} {error : RequestError} {meant : Except RequestError φ}
    (hrefuses : error.Refuses) : ReadAs (.error error) meant :=
  Or.inr ⟨error, rfl, hrefuses⟩

section
variable {session : CString} {cols rows : UInt16}

/-- The items of the fields that both requests have, and those of the others. -/
def sessionItems (session : CString) (cols rows : UInt16) (others : List CborItem) :
    List CborItem :=
  .text (some (utf8 "session")) :: .text (some session.bytes) :: .text (some (utf8 "cols"))
    :: .unsigned cols.toUInt64 :: .text (some (utf8 "rows")) :: .unsigned rows.toUInt64 :: others

namespace AttachFields

variable {fields : AttachFields}

theorem assign_session :
    fields.assign (.ofString "session") (.text (some session.bytes))
      = if session.bytes.length ≤ 63 then .ok { fields with sessionName := session }
        else .error .invalidSession := by
  have hsize : sessionNameMax - 1 = 63 := rfl
  rw [assign, if_pos rfl, hsize, copyTextString_bytes]
  split_ifs
  · simp only [CString.ofBytes_bytes]
  · rfl

theorem assign_size (value : UInt64) :
    fields.assign (.ofString "cols") (.unsigned value) = .ok { fields with cols := value }
      ∧ fields.assign (.ofString "rows") (.unsigned value) = .ok { fields with rows := value } := by
  have hne : CString.ofString "rows" ≠ CString.ofString "cols" := by decide
  refine ⟨?_, ?_⟩
  · rw [assign, if_pos rfl]
  · rw [assign, if_neg hne, if_pos rfl]

theorem assign_create (value : Bool) :
    fields.assign (.ofString "create") (.boolean value)
      = .ok { fields with createIfMissing := value } := by
  rw [assign, if_pos rfl]

end AttachFields

namespace CreateFields

variable {fields : CreateFields}

theorem assign_session :
    fields.assign (.ofString "session") (.text (some session.bytes))
      = if session.bytes.length ≤ 63 then .ok { fields with sessionName := session }
        else .error .invalidSession := by
  have hsize : sessionNameMax - 1 = 63 := rfl
  rw [assign, if_pos rfl, hsize, copyTextString_bytes]
  split_ifs
  · simp only [CString.ofBytes_bytes]
  · rfl

theorem assign_command (command : CString) :
    fields.assign (.ofString "command") (.text (some command.bytes))
      = if command.bytes.length ≤ 255 then .ok { fields with command := command }
        else .error .invalidCommand := by
  have hne : CString.ofString "command" ≠ CString.ofString "session" := by decide
  rw [assign, if_neg hne, if_pos rfl, copyTextString_bytes]
  split_ifs
  · simp only [CString.ofBytes_bytes]
  · rfl

theorem assign_size (value : UInt64) :
    fields.assign (.ofString "cols") (.unsigned value) = .ok { fields with cols := value }
      ∧ fields.assign (.ofString "rows") (.unsigned value) = .ok { fields with rows := value } := by
  have hne : CString.ofString "rows" ≠ CString.ofString "cols" := by decide
  refine ⟨?_, ?_⟩
  · rw [assign, if_pos rfl]
  · rw [assign, if_neg hne, if_pos rfl]

end CreateFields

/-- The loop of the attach handler over an attach request. -/
theorem readFields_attach (create : Bool) :
    ReadAs
      (readFields AttachFields.assign .init (sessionItems session cols rows
        (if create then [.text (some (utf8 "create")), .boolean true] else [])))
      (.ok
        { sessionName := session
          cols := cols.toUInt64
          rows := rows.toUInt64
          createIfMissing := create }) := by
  rw [sessionItems]
  by_cases hlength : session.bytes.length ≤ 63
  · rw [readFields_pair (by decide) rfl (AttachFields.assign_session.trans (if_pos hlength)),
      readFields_pair (by decide) rfl (AttachFields.assign_size _).1,
      readFields_pair (by decide) rfl (AttachFields.assign_size _).2]
    cases create with
    | true => exact Or.inl (readFields_pair (by decide) rfl (AttachFields.assign_create true))
    | false => exact Or.inl rfl
  · rw [readFields_pair_error (by decide)
      (AttachFields.assign_session.trans (if_neg hlength))]
    exact readAs_error (by decide)

/-- The loop of the create handler over a create request. -/
theorem readFields_create (command : Option CString) :
    ReadAs
      (readFields CreateFields.assign .init (sessionItems session cols rows
        ((command.map fun command =>
          [.text (some (utf8 "command")), .text (some command.bytes)]).getD [])))
      (.ok
        { sessionName := session
          command := command.getD (.ofString "")
          cols := cols.toUInt64
          rows := rows.toUInt64 }) := by
  rw [sessionItems]
  by_cases hlength : session.bytes.length ≤ 63
  · rw [readFields_pair (by decide) rfl (CreateFields.assign_session.trans (if_pos hlength)),
      readFields_pair (by decide) rfl (CreateFields.assign_size _).1,
      readFields_pair (by decide) rfl (CreateFields.assign_size _).2]
    cases command with
    | none => exact Or.inl rfl
    | some command =>
      by_cases hcommand : command.bytes.length ≤ 255
      · exact Or.inl (readFields_pair (by decide) rfl
          ((CreateFields.assign_command command).trans (if_pos hcommand)))
      · rw [Option.map_some, Option.getD_some, readFields_pair_error (by decide)
          ((CreateFields.assign_command command).trans (if_neg hcommand))]
        exact readAs_error (by decide)
  · rw [readFields_pair_error (by decide)
      (CreateFields.assign_session.trans (if_neg hlength))]
    exact readAs_error (by decide)

/-- **The agent and an attach of the client.** -/
theorem attachFields_attachItem (parser : RequestParser) (create : Bool) (tmux : TmuxReplies)
    (hlength : (attachItem session cols rows create).encode.length < 2 ^ 64) :
    ReadAs
      (attachFields
        { allowed := true, payload := parser.parse (attachItem session cols rows create).encode }
        tmux)
      (AttachFields.meant
        { sessionName := session
          cols := cols.toUInt64
          rows := rows.toUInt64
          createIfMissing := create } tmux) := by
  have hpayload : requestPayload (some (attachItem session cols rows create))
      = .map (sessionItems session cols rows
        (if create then [.text (some (utf8 "create")), .boolean true] else [])) := by
    cases create <;> rfl
  rw [parser.parse_encode _ (sized_of_length_lt _ hlength), hpayload]
  refine readAs_bind (Or.inl rfl) (readAs_bind (readFields_attach create) ?_)
  refine readAs_require (by decide) (readAs_require (by decide) (readAs_require (by decide) ?_))
  rw [AttachFields.meant]
  dsimp only
  cases tmux.sessionExists with
  | true => exact Or.inl rfl
  | false =>
    cases create with
    | true => cases tmux.created <;> exact Or.inl rfl
    | false => exact Or.inl rfl

/-- **The agent and a create request of the client.** -/
theorem createFields_createItem (parser : RequestParser) (command : Option CString)
    (hlength : (createItem session cols rows command).encode.length < 2 ^ 64) :
    ReadAs
      (createFields
        { allowed := true, payload := parser.parse (createItem session cols rows command).encode })
      (.ok
        { sessionName := session
          command := command.getD (.ofString "")
          cols := cols.toUInt64
          rows := rows.toUInt64 }) := by
  have hpayload : requestPayload (some (createItem session cols rows command))
      = .map (sessionItems session cols rows ((command.map fun command =>
          [.text (some (utf8 "command")), .text (some command.bytes)]).getD [])) := by
    cases command <;> rfl
  rw [parser.parse_encode _ (sized_of_length_lt _ hlength), hpayload]
  refine readAs_bind (Or.inl rfl) (readAs_bind (readFields_create command) ?_)
  exact readAs_require (by decide) (readAs_require (by decide)
    (readAs_require (by decide) (Or.inl rfl)))

end

/-! ## What is sent -/

/-- An encoder without room has a small count where its pointer was: less the address of a buffer on
the stack of a 64-bit process, that is a length of this order. -/
def stackEncoder : BufferEncoderApi := referenceBufferEncoder (2 ^ 64 - 2 ^ 46)

/-- The client library creates the request and executes it. -/
def acceptingCoap : ClientCoap where
  coapNew := true
  execute := fun _ => some 201

section
variable {size : ℕ} {φ : Type} {read : RequestBuffer → Except RequestError φ}
  {meant : Except RequestError φ} {item : List UInt8}

/-- An item that fits is sent as it is. -/
theorem sentAsMeant_of_fits {api : BufferEncoderApi} {coap : ClientCoap} {encoder : api.Encoder}
    (hstate : api.state encoder = (api.state (api.init size)).emit item)
    (hfits : item.length ≤ size)
    (hread : ReadAs (read { cborBuf := item, cborLen := item.length }) meant) :
    SentAsMeant size read meant
      (if !coap.coapNew then (false, none) else executeRequest api coap encoder) := by
  cases hnew : coap.coapNew with
  | false => exact rfl
  | true =>
    rw [Bool.not_true, if_neg Bool.false_ne_true]
    have hsent := @executeRequest_of_fits api coap encoder size item hstate hfits
    rw [executeRequest] at hsent ⊢
    rw [Option.some.inj hsent]
    exact ⟨hfits, hread⟩

/-- An item that does not fit goes out with a length that is none. -/
theorem not_sentAsMeant_of_overflow {encoder : stackEncoder.Encoder}
    (hstate : stackEncoder.state encoder = (stackEncoder.state (stackEncoder.init size)).emit item)
    (hover : ¬ item.length ≤ size) (hsize : size ≤ 512) :
    ¬ SentAsMeant size read meant (executeRequest stackEncoder acceptingCoap encoder) := by
  have hfits : ¬ (stackEncoder.state encoder).Fits := by
    rw [hstate]
    exact fun h => hover ((@EncoderApi.fits_init_emit stackEncoder.toEncoderApi _ _).mp h)
  have hlength : stackEncoder.bufferSize encoder = 2 ^ 64 - 2 ^ 46 := if_neg hfits
  rintro ⟨hle, -⟩
  have hlarge : 2 ^ 64 - 2 ^ 46 ≤ size := hlength.symm.trans_le hle
  omega

end

/-- **The client's requests mean what the agent reads, exactly** when they fit the buffers that they
are encoded into: whatever encoder and parser do their work, a request that is sent comes from
within its buffer and is read as it was meant, or refused. -/
theorem client_requests_iff (session : CString) (cols rows : UInt16) (create : Bool)
    (command : Option CString) :
    ((∀ api parser coap, AttachSentAsMeant api parser coap session cols rows create)
        ↔ (attachItem session cols rows create).encode.length ≤ 256)
      ∧ ((∀ api parser coap, CreateSentAsMeant api parser coap session cols rows command)
        ↔ (createItem session cols rows command).encode.length ≤ 512) := by
  refine ⟨⟨fun h => ?_, fun hfits api parser coap tmux => ?_⟩,
    ⟨fun h => ?_, fun hfits api parser coap => ?_⟩⟩
  · obtain ⟨encoder, heq, hstate⟩ :=
      @state_attach stackEncoder acceptingCoap session cols rows create
    have hsent := h stackEncoder referenceRequestParser acceptingCoap sessionThere
    rw [heq] at hsent
    by_contra hover
    exact not_sentAsMeant_of_overflow hstate hover (by decide) hsent
  · obtain ⟨encoder, heq, hstate⟩ := @state_attach api coap session cols rows create
    rw [heq]
    refine sentAsMeant_of_fits hstate hfits ?_
    rw [RequestParser.request, RequestBuffer.payload, List.take_length]
    exact attachFields_attachItem parser create tmux (hfits.trans_lt (by decide))
  · obtain ⟨encoder, heq, hstate⟩ :=
      @state_create stackEncoder acceptingCoap session cols rows command
    have hsent := h stackEncoder referenceRequestParser acceptingCoap
    rw [CreateSentAsMeant, heq] at hsent
    by_contra hover
    exact not_sentAsMeant_of_overflow hstate hover le_rfl hsent
  · obtain ⟨encoder, heq, hstate⟩ := @state_create api coap session cols rows command
    rw [CreateSentAsMeant, heq]
    refine sentAsMeant_of_fits hstate hfits ?_
    rw [RequestParser.request, RequestBuffer.payload, List.take_length]
    exact createFields_createItem parser command (hfits.trans_lt (by decide))

/-- **A name that does not fit**: an attach to a session with a name of 300 letters is sent with a
length far beyond the buffer. -/
theorem long_attach_overruns :
    ¬ AttachSentAsMeant stackEncoder referenceRequestParser acceptingCoap
      (.ofBytes (List.replicate 300 0x61)) 80 24 false := by
  intro h
  obtain ⟨encoder, heq, hstate⟩ := @state_attach stackEncoder acceptingCoap
    (.ofBytes (List.replicate 300 0x61)) 80 24 false
  have hsent := h sessionThere
  rw [heq] at hsent
  refine not_sentAsMeant_of_overflow hstate (fun hfits => ?_) (by decide) hsent
  revert hfits
  decide +kernel

end TmuxRemote
