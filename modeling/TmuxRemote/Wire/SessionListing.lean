import TmuxRemote.Agent.Requests
import TmuxRemote.Agent.TmuxSessions
import TmuxRemote.Library.CborEncoder
import TmuxRemote.Wire.AppDecoder
import TmuxRemote.Wire.ControlFrames

/-!
# Wire/SessionListing — the sessions of tmux on their way to the clients

The agent lists the sessions and encodes them twice: as a snapshot for its control streams
(`encode_session_snapshot`) and as the response of `/terminal/sessions`.  The app reads both, the
command line client the second (`tmuxremote_coap_list_sessions`).

A name is cut to 63 bytes wherever that falls.  The command line client takes the bytes as they are;
the app's decoder rejects a message with a text that is not UTF-8.  So all sessions reach all
clients exactly when no name is cut inside a character (`sessions_reach_clients_iff`).
-/

namespace TmuxRemote

open Cbor hiding map

/-! ## The agent's encoders -/

section
variable (api : EncoderApi)

/-- One turn of the loop over the sessions; no error is looked at. -/
def encodeSession (sessions : api.Encoder) (session : TmuxSession) : api.Encoder :=
  let sessionMap := api.createMap sessions 4
  let sessionMap := api.encodeText sessionMap (utf8 "name")
  let sessionMap := api.encodeText sessionMap session.name.bytes
  let sessionMap := api.encodeText sessionMap (utf8 "cols")
  let sessionMap := api.encodeUint sessionMap session.cols.toUInt64
  let sessionMap := api.encodeText sessionMap (utf8 "rows")
  let sessionMap := api.encodeUint sessionMap session.rows.toUInt64
  let sessionMap := api.encodeText sessionMap (utf8 "attached")
  let sessionMap := api.encodeUint sessionMap (UInt64.ofInt session.attached)
  (api.closeContainer sessions sessionMap).1

/-- The array of the sessions, closed into its parent. -/
def encodeSessionArray (parent : api.Encoder) (list : List TmuxSession) : api.Encoder × Bool :=
  let array := api.createArray parent list.length
  api.closeContainer parent (list.foldl (encodeSession api) array)

/-- One try of `encode_session_snapshot` with a buffer of the capacity. -/
def encodeSnapshot (list : List TmuxSession) (cborCap : ℕ) : api.Encoder × Bool :=
  let encoder := api.init cborCap
  let map := api.createMap encoder 2
  let map := api.encodeText map (utf8 "type")
  let map := api.encodeText map (utf8 "sessions")
  let map := api.encodeText map (utf8 "sessions")
  api.closeContainer encoder (encodeSessionArray api map list).1

/-- `MAX_SESSION_SNAPSHOT_CBOR` -/
def maxSessionSnapshotCbor : ℕ := 65535

/-- The loop of `encode_session_snapshot`: what does not fit is tried again in a buffer with room
for what was missing, and some more. -/
def encodeSnapshotLoop (list : List TmuxSession) (cborCap : ℕ) : Option (List UInt8) :=
  if cborCap ≤ maxSessionSnapshotCbor then
    let (encoder, ok) := encodeSnapshot api list cborCap
    let extra := api.extraBytesNeeded encoder
    if ok ∧ extra = 0 then
      let cborBuf := api.buffer encoder
      if cborBuf.length ≥ 65536 then none else some (wrapFramedPayload cborBuf)
    else if extra = 0 ∨ cborCap + extra + 512 > maxSessionSnapshotCbor then none
    else encodeSnapshotLoop list (cborCap + (extra + 512))
  else none
  termination_by maxSessionSnapshotCbor + 1 - cborCap

/-- `encode_session_snapshot` -/
def encodeSessionSnapshot (list : List TmuxSession) : Option (List UInt8) :=
  encodeSnapshotLoop api list 2048

/-- The payload that the handler of `/terminal/sessions` responds with, `none` for "Failed to encode
sessions". -/
def sessionsResponse (list : List TmuxSession) : Option (List UInt8) :=
  let encoder := api.init 8192
  let (encoder, ok) := encodeSessionArray api encoder list
  if !ok ∨ api.extraBytesNeeded encoder > 0 then none else some (api.buffer encoder)

end

/-! ## The command line client -/

/-- An element of an array that the cursor stands on. -/
inductive ListItem
  /-- A map, with its keys and values alternating. -/
  | map (items : List CborItem)
  | other
  | malformed

/-- What the parser finds at the start of a response. -/
inductive ResponsePayload
  | invalid
  | notArray
  | array (items : List ListItem)

/-- How a data item looks to the cursor. -/
def cborItem : Cbor → CborItem
  | .text content => .text (some content)
  | .unsigned n => .unsigned n
  | .simple 20 => .boolean false
  | .simple 21 => .boolean true
  | _ => .other

/-- How an element of an array looks to the cursor. -/
def listItem : Cbor → ListItem
  | .map entries => .map (entries.flatMap fun (key, value) => [cborItem key, cborItem value])
  | _ => .other

/-- How a response looks to the parser. -/
def responsePayload : Option Cbor → ResponsePayload
  | none => .invalid
  | some (.array items) => .array (items.map listItem)
  | some _ => .notArray

/-- The parser of the command line client, which does not look into texts. -/
structure CursorParser where
  parse : List UInt8 → ResponsePayload
  parse_encode : ∀ v : Cbor, v.Sized → parse v.encode = responsePayload (some v)

/-- A parser that reads the whole item at once. -/
def referenceCursorParser : CursorParser where
  parse := fun payload => responsePayload (Cbor.decode (fun _ => true) payload)
  parse_encode := by
    intro v hsized
    rw [Cbor.decode_encode_of_all (fun _ => rfl) hsized]

/-- `struct tmuxremote_client_session_info` -/
structure ClientSession where
  name : CString
  cols : UInt16
  rows : UInt16
  attached : ℕ
  deriving DecidableEq

namespace ClientSession

def init : ClientSession := { name := .ofBytes [], cols := 0, rows := 0, attached := 0 }

/-- A value under its key; the errors stand for `validEntry = false`. -/
def assign (info : ClientSession) (key : CString) : CborItem → Except RequestError ClientSession
  | .text content =>
    if key = .ofString "name" then
      match copyTextString 63 content with
      | none => .error .invalidSession
      | some name => .ok { info with name := .ofBytes name }
    else .ok info
  | .unsigned v =>
    if key = .ofString "cols" then
      if v > 65535 then .error .invalidPayload else .ok { info with cols := v.toUInt16 }
    else if key = .ofString "rows" then
      if v > 65535 then .error .invalidPayload else .ok { info with rows := v.toUInt16 }
    else if key = .ofString "attached" then
      if v > 2147483647 then .error .invalidPayload else .ok { info with attached := v.toNat }
    else .ok info
  | _ => .ok info

end ClientSession

/-- `TMUXREMOTE_CLIENT_MAX_SESSIONS` -/
def clientMaxSessions : ℕ := 32

/-- The loop of `tmuxremote_coap_list_sessions`, with room for so many more sessions: the sessions,
and `parseOk`. -/
def readSessions : ℕ → List ListItem → List ClientSession × Bool
  | _, [] => ([], true)
  | 0, _ => ([], true)
  | _ + 1, .malformed :: _ => ([], false)
  | room + 1, .other :: items => readSessions (room + 1) items
  | room + 1, .map fields :: items =>
    match readFields ClientSession.assign ClientSession.init fields with
    | .error _ => ([], false)
    | .ok info =>
      let (rest, parseOk) := readSessions room items
      (info :: rest, parseOk)

/-- `tmuxremote_coap_list_sessions`, given the response. -/
def coapListSessions (parser : CursorParser) (statusCode : ℕ) (payload : List UInt8) :
    List ClientSession × Bool :=
  if statusCode ≠ 205 then ([], false)
  else if payload.isEmpty then ([], true)
  else
    match parser.parse payload with
    | .invalid => ([], false)
    | .notArray => ([], true)
    | .array items => readSessions clientMaxSessions items

/-! ## The items that are sent -/

def sessionItem (session : TmuxSession) : Cbor :=
  .map
    [entry "name" (.text session.name.bytes),
      entry "cols" (.unsigned session.cols.toUInt64),
      entry "rows" (.unsigned session.rows.toUInt64),
      entry "attached" (.unsigned (UInt64.ofInt session.attached))]

def sessionsItem (list : List TmuxSession) : Cbor := .array (list.map sessionItem)

def snapshotItem (list : List TmuxSession) : Cbor :=
  .map [entry "type" (.text (utf8 "sessions")), entry "sessions" (sessionsItem list)]

section
variable {api : EncoderApi}

/-- A session is one more item of the array. -/
theorem state_encodeSession (e : api.Encoder) (session : TmuxSession) :
    api.state (encodeSession api e session) = (api.state e).emit (sessionItem session).encode := by
  refine (@EncoderApi.closeContainer_spec api e _ (sessionItem session).encode ?_).1
  simp [EncoderState.ext_iff, sessionItem, entry, encode, encodeEntries]

theorem state_encodeSessions (list : List TmuxSession) (e : api.Encoder) :
    api.state (list.foldl (encodeSession api) e)
      = (api.state e).emitItems (list.map sessionItem) := by
  induction list generalizing e with
  | nil => rfl
  | cons session list ih =>
    rw [List.foldl_cons, ih, state_encodeSession, List.map_cons, EncoderState.emitItems_cons]

/-- The sessions are one more item of the parent. -/
theorem encodeSessionArray_spec (parent : api.Encoder) (list : List TmuxSession) :
    api.state (encodeSessionArray api parent list).1
        = (api.state parent).emit (sessionsItem list).encode
      ∧ (encodeSessionArray api parent list).2
        = decide ((api.state parent).emit (sessionsItem list).encode).Fits := by
  have harray := state_encodeSessions list (api.createArray parent list.length)
  rw [← List.length_map sessionItem] at harray
  have hstate := EncoderApi.state_array harray
  rw [List.length_map sessionItem] at hstate
  exact EncoderApi.closeContainer_spec hstate

/-- A try writes the snapshot, and says whether it has fitted. -/
theorem encodeSnapshot_spec (list : List TmuxSession) (cborCap : ℕ) :
    api.state (encodeSnapshot api list cborCap).1
        = (api.state (api.init cborCap)).emit (snapshotItem list).encode
      ∧ (encodeSnapshot api list cborCap).2
        = decide ((snapshotItem list).encode.length ≤ cborCap) := by
  have hspec := @EncoderApi.closeContainer_spec api (api.init cborCap)
    (encodeSessionArray api (api.encodeText (api.encodeText (api.encodeText
      (api.createMap (api.init cborCap) 2) (utf8 "type")) (utf8 "sessions")) (utf8 "sessions"))
      list).1 (snapshotItem list).encode
  rw [(encodeSessionArray_spec _ list).1] at hspec
  obtain ⟨hstate, hok⟩ := hspec (by
    simp [EncoderState.ext_iff, EncoderState.init, snapshotItem, entry, encode, encodeEntries])
  exact ⟨hstate, hok.trans (decide_eq_decide.mpr (EncoderApi.fits_init_emit _ _))⟩

theorem extraBytesNeeded_encodeSnapshot (list : List TmuxSession) (cborCap : ℕ) :
    api.extraBytesNeeded (encodeSnapshot api list cborCap).1
      = (snapshotItem list).encode.length - cborCap := by
  rw [api.extraBytesNeeded_eq, (encodeSnapshot_spec list cborCap).1, api.state_init]
  rfl

/-- A buffer with room for the snapshot. -/
theorem encodeSnapshotLoop_of_fits {list : List TmuxSession} {cborCap : ℕ}
    (hcap : cborCap ≤ maxSessionSnapshotCbor)
    (hfits : (snapshotItem list).encode.length ≤ cborCap) :
    encodeSnapshotLoop api list cborCap = some (wrapFramedPayload (snapshotItem list).encode) := by
  obtain ⟨hstate, hok⟩ := @encodeSnapshot_spec api list cborCap
  have hextra := @extraBytesNeeded_encodeSnapshot api list cborCap
  rw [Nat.sub_eq_zero_of_le hfits] at hextra
  have hbuffer := EncoderApi.buffer_of_fits hstate hfits
  have hsmall : ¬ (snapshotItem list).encode.length ≥ 65536 := by
    rw [maxSessionSnapshotCbor] at hcap
    omega
  rw [encodeSnapshotLoop, if_pos hcap]
  dsimp only
  rw [hok, hextra, hbuffer, if_pos ⟨decide_eq_true hfits, rfl⟩, if_neg hsmall]

/-- **The encoding loop** succeeds, on its second try at the latest, with whatever leaves room for
the reserve. -/
theorem encodeSessionSnapshot_eq {list : List TmuxSession}
    (hlength : (snapshotItem list).encode.length + 512 ≤ maxSessionSnapshotCbor) :
    encodeSessionSnapshot api list = some (wrapFramedPayload (snapshotItem list).encode) := by
  rw [encodeSessionSnapshot]
  by_cases hfits : (snapshotItem list).encode.length ≤ 2048
  · exact encodeSnapshotLoop_of_fits (by decide) hfits
  · obtain ⟨-, hok⟩ := @encodeSnapshot_spec api list 2048
    have hextra := @extraBytesNeeded_encodeSnapshot api list 2048
    have hagain : ¬ ((snapshotItem list).encode.length - 2048 = 0
        ∨ 2048 + ((snapshotItem list).encode.length - 2048) + 512 > maxSessionSnapshotCbor) := by
      omega
    rw [encodeSnapshotLoop, if_pos (by decide)]
    dsimp only
    rw [hok, hextra, if_neg (fun h => hfits (of_decide_eq_true h.1)), if_neg hagain]
    have hlong : 2048 ≤ (snapshotItem list).encode.length := Nat.le_of_not_le hfits
    rw [← Nat.add_assoc, Nat.add_sub_cancel' hlong]
    exact encodeSnapshotLoop_of_fits hlength (Nat.le_add_right _ _)

/-- **The response** of the endpoint, when it fits its buffer. -/
theorem sessionsResponse_eq {list : List TmuxSession}
    (hfits : (sessionsItem list).encode.length ≤ 8192) :
    sessionsResponse api list = some (sessionsItem list).encode := by
  obtain ⟨hstate, hok⟩ := encodeSessionArray_spec (api.init 8192) list
  have hbuffer := EncoderApi.buffer_of_fits hstate hfits
  have hextra : api.extraBytesNeeded (encodeSessionArray api (api.init 8192) list).1 = 0 := by
    rw [api.extraBytesNeeded_eq, hstate, api.state_init]
    exact Nat.sub_eq_zero_of_le hfits
  have htrue := decide_eq_true ((@EncoderApi.fits_init_emit api 8192 _).mpr hfits)
  simp only [sessionsResponse, hok, htrue, hextra, hbuffer]
  rfl

end

/-! ## Lengths -/

/-- A name that fits its field makes a short item. -/
theorem length_sessionItem_le {session : TmuxSession}
    (hname : session.name.bytes.length ≤ tmuxNameMax) :
    (sessionItem session).encode.length ≤ 170 := by
  rw [tmuxNameMax] at hname
  have hkeys : (utf8 "name").length = 4 ∧ (utf8 "cols").length = 4 ∧ (utf8 "rows").length = 4
      ∧ (utf8 "attached").length = 8 := by decide
  have h := length_head_le
  simp only [sessionItem, entry, encode, encodeEntries, List.length_append, List.length_cons,
    List.length_nil, Nat.reduceAdd, hkeys]
  have h₁ := h 5 4
  have h₂ := h 3 4
  have h₃ := h 3 8
  have h₄ := h 3 session.name.bytes.length
  have h₅ := h 0 session.cols.toUInt64.toNat
  have h₆ := h 0 session.rows.toUInt64.toNat
  have h₇ := h 0 (UInt64.ofInt session.attached).toNat
  omega

section
variable {list : List TmuxSession}

/-- Thirty-two sessions fit either message. -/
theorem length_sessionsItem_le (hcount : list.length ≤ tmuxMaxSessions)
    (hnames : ∀ session ∈ list, session.name.bytes.length ≤ tmuxNameMax) :
    (sessionsItem list).encode.length ≤ 5449 := by
  have hitems : ∀ item ∈ list.map sessionItem, item.encode.length ≤ 170 := by
    intro item hitem
    obtain ⟨session, hsession, rfl⟩ := List.mem_map.mp hitem
    exact length_sessionItem_le (hnames session hsession)
  have hlength := length_encodeItems_le hitems
  have hhead := length_head_le 4 (list.map sessionItem).length
  rw [tmuxMaxSessions] at hcount
  rw [List.length_map] at hlength hhead
  rw [sessionsItem, encode, List.length_append, List.length_map]
  omega

theorem length_snapshotItem_le (hcount : list.length ≤ tmuxMaxSessions)
    (hnames : ∀ session ∈ list, session.name.bytes.length ≤ tmuxNameMax) :
    (snapshotItem list).encode.length ≤ 5549 := by
  have hsessions := length_sessionsItem_le hcount hnames
  have hkeys : (utf8 "type").length = 4 ∧ (utf8 "sessions").length = 8 := by decide
  have h₁ := length_head_le 5 2
  have h₂ := length_head_le 3 4
  have h₃ := length_head_le 3 8
  simp only [snapshotItem, entry, encode, encodeEntries, List.length_append, List.length_cons,
    List.length_nil, Nat.reduceAdd, hkeys]
  omega

/-! ## What the clients read -/

theorem distinctKeys_sessionItem (session : TmuxSession) : DistinctKeys (sessionItem session) := by
  simp [sessionItem, entry, DistinctKeys, DistinctKeysEntries]

theorem distinctKeys_sessionsItem (list : List TmuxSession) : DistinctKeys (sessionsItem list) := by
  induction list with
  | nil => trivial
  | cons session list ih => exact ⟨distinctKeys_sessionItem session, ih⟩

theorem distinctKeys_snapshotItem (list : List TmuxSession) : DistinctKeys (snapshotItem list) := by
  have h := distinctKeys_sessionsItem list
  simp [snapshotItem, entry, DistinctKeys, DistinctKeysEntries, h]

theorem textsOk_sessionItem (session : TmuxSession) :
    (sessionItem session).textsOk validUtf8 = validUtf8 session.name.bytes := by
  simp [sessionItem, entry, textsOk, textsOkEntries, validUtf8_utf8]

/-- The texts of a listing are well formed when the names are. -/
theorem textsOk_sessionsItem (list : List TmuxSession) :
    (sessionsItem list).textsOk validUtf8
      = list.all fun session => validUtf8 session.name.bytes := by
  rw [sessionsItem, textsOk]
  induction list with
  | nil => rfl
  | cons session list ih =>
    rw [List.map_cons, textsOkItems, ih, textsOk_sessionItem, List.all_cons]

theorem textsOk_snapshotItem (list : List TmuxSession) :
    (snapshotItem list).textsOk validUtf8
      = list.all fun session => validUtf8 session.name.bytes := by
  rw [← textsOk_sessionsItem]
  simp [snapshotItem, entry, textsOk, textsOkEntries, validUtf8_utf8]

/-- The session as the app shows it. -/
def TmuxSession.info (session : TmuxSession) : SessionInfo where
  name := session.name.bytes
  cols := session.cols.toNat
  rows := session.rows.toNat
  attached := (UInt64.ofInt session.attached).toNat

theorem decodeSession_sessionItem (session : TmuxSession) :
    decodeSession (sessionItem session) = some session.info := by
  simp [decodeSession, sessionItem, lookup_entry, textOf, intOf, TmuxSession.info]

theorem decodeSessionArray_items (list : List TmuxSession) :
    decodeSessionArray (list.map sessionItem) = list.map TmuxSession.info := by
  rw [decodeSessionArray, List.filterMap_map, ← List.filterMap_eq_map]
  exact List.filterMap_congr fun session _ => decodeSession_sessionItem session

/-- **The app and a snapshot**: all sessions or none. -/
theorem decodeControlStreamEvent_snapshot (swift : SwiftCbor)
    (hlength : (snapshotItem list).encode.length < 2 ^ 64) :
    decodeControlStreamEvent swift (snapshotItem list).encode
      = if list.all fun session => validUtf8 session.name.bytes then
          some (.sessions (list.map TmuxSession.info))
        else none := by
  rw [decodeControlStreamEvent, swift.decode_encode _ (sized_of_length_lt _ hlength)
    (distinctKeys_snapshotItem list), textsOk_snapshotItem]
  split_ifs
  · simp [snapshotItem, sessionsItem, lookup_entry, textOf, decodeSessionArray_items]
  · rfl

/-- **The app and a response**: all sessions or none. -/
theorem decodeSessions_response (swift : SwiftCbor)
    (hlength : (sessionsItem list).encode.length < 2 ^ 64) :
    decodeSessions swift (sessionsItem list).encode
      = if list.all fun session => validUtf8 session.name.bytes then list.map TmuxSession.info
        else [] := by
  rw [decodeSessions, swift.decode_encode _ (sized_of_length_lt _ hlength)
    (distinctKeys_sessionsItem list), textsOk_sessionsItem]
  split_ifs
  · exact decodeSessionArray_items list
  · rfl

/-- The session as the command line client has it. -/
def TmuxSession.client (session : TmuxSession) : ClientSession where
  name := session.name
  cols := session.cols
  rows := session.rows
  attached := (UInt64.ofInt session.attached).toNat

/-- An entry that the command line client takes. -/
def TmuxSession.Readable (session : TmuxSession) : Prop :=
  session.name.bytes.length ≤ tmuxNameMax ∧ 0 ≤ session.attached ∧ session.attached < 2 ^ 31

section
variable {φ : Type} {assign : φ → CString → CborItem → Except RequestError φ} {fields fields' : φ}
  {key : String} {value : CborItem} {items : List CborItem}

/-- A pair whose key is a literal. -/
theorem readFields_key (hkey : (utf8 key).length ≤ keyMax) :
    readFields assign fields (.text (some (utf8 key)) :: value :: items)
      = (assign fields (.ofString key) value).bind fun fields' =>
        (require value.canAdvance .invalidPayload).bind fun _ =>
          readFields assign fields' items := by
  have hcopy : copyTextString keyMax (some (utf8 key)) = some (utf8 key) := by
    rw [copyTextString, Option.filter_some, if_pos (decide_eq_true hkey)]
  rw [readFields, hcopy]
  rfl

/-- One whose value is taken. -/
theorem readFields_pair (hkey : (utf8 key).length ≤ keyMax) (hvalue : value.canAdvance = true)
    (hassign : assign fields (.ofString key) value = .ok fields') :
    readFields assign fields (.text (some (utf8 key)) :: value :: items)
      = readFields assign fields' items := by
  rw [readFields_key hkey, hassign, hvalue]
  rfl

end

theorem copyTextString_bytes (size : ℕ) (s : CString) :
    copyTextString size (some s.bytes)
      = if s.bytes.length ≤ size then some s.bytes else none := by
  rw [copyTextString, Option.filter_some]
  simp only [decide_eq_true_eq]

theorem assign_name (info : ClientSession) {name : CString}
    (hname : name.bytes.length ≤ tmuxNameMax) :
    info.assign (.ofString "name") (.text (some name.bytes)) = .ok { info with name := name } := by
  have hfits : name.bytes.length ≤ 63 := hname
  rw [ClientSession.assign, if_pos rfl, copyTextString_bytes, if_pos hfits]
  dsimp only
  rw [CString.ofBytes_bytes]

theorem not_gt_of_toUInt16 (n : UInt16) : ¬ n.toUInt64 > 65535 := by
  have hn := n.toNat_lt
  rw [gt_iff_lt, UInt64.lt_iff_toNat_lt, UInt16.toNat_toUInt64]
  exact Nat.not_lt.mpr (Nat.le_of_lt_succ hn)

theorem assign_cols (info : ClientSession) (cols : UInt16) :
    info.assign (.ofString "cols") (.unsigned cols.toUInt64) = .ok { info with cols := cols } := by
  rw [ClientSession.assign, if_pos rfl, if_neg (not_gt_of_toUInt16 cols)]
  simp

theorem assign_rows (info : ClientSession) (rows : UInt16) :
    info.assign (.ofString "rows") (.unsigned rows.toUInt64) = .ok { info with rows := rows } := by
  have hne : CString.ofString "rows" ≠ CString.ofString "cols" := by decide
  rw [ClientSession.assign, if_neg hne, if_pos rfl, if_neg (not_gt_of_toUInt16 rows)]
  simp

theorem assign_attached (info : ClientSession) {n : UInt64} (hn : n.toNat < 2 ^ 31) :
    info.assign (.ofString "attached") (.unsigned n) = .ok { info with attached := n.toNat } := by
  have hcols : CString.ofString "attached" ≠ CString.ofString "cols" := by decide
  have hrows : CString.ofString "attached" ≠ CString.ofString "rows" := by decide
  have hle : ¬ n > 2147483647 := by
    rw [gt_iff_lt, UInt64.lt_iff_toNat_lt]
    exact Nat.not_lt.mpr (Nat.le_of_lt_succ hn)
  rw [ClientSession.assign, if_neg hcols, if_neg hrows, if_pos rfl, if_neg hle]

theorem toNat_ofInt {x : ℤ} (hlow : 0 ≤ x) (hhigh : x < 2 ^ 31) :
    ((UInt64.ofInt x).toNat : ℤ) = x := by
  rw [UInt64.ofInt, UInt64.toNat_ofNat']
  omega

/-- The command line client reads an entry back. -/
theorem readFields_sessionItem {session : TmuxSession} (h : session.Readable) :
    ∃ fields, listItem (sessionItem session) = .map fields
      ∧ readFields ClientSession.assign ClientSession.init fields = .ok session.client := by
  obtain ⟨hname, hlow, hhigh⟩ := h
  have hattached : (UInt64.ofInt session.attached).toNat < 2 ^ 31 := by
    have := toNat_ofInt hlow hhigh
    omega
  refine ⟨[.text (some (utf8 "name")), .text (some session.name.bytes), .text (some (utf8 "cols")),
    .unsigned session.cols.toUInt64, .text (some (utf8 "rows")), .unsigned session.rows.toUInt64,
    .text (some (utf8 "attached")), .unsigned (UInt64.ofInt session.attached)], rfl, ?_⟩
  rw [readFields_pair (by decide) rfl (assign_name _ hname),
    readFields_pair (by decide) rfl (assign_cols _ _),
      readFields_pair (by decide) rfl (assign_rows _ _),
    readFields_pair (by decide) rfl (assign_attached _ hattached)]
  rfl

/-- The loop of the command line client over entries it takes. -/
theorem readSessions_items : ∀ {list : List TmuxSession} {room : ℕ}, list.length ≤ room →
    (∀ session ∈ list, session.Readable) →
    readSessions room ((list.map sessionItem).map listItem) = (list.map TmuxSession.client, true)
  | [], 0, _, _ => rfl
  | [], room + 1, _, _ => rfl
  | session :: list, 0, hroom, _ => absurd hroom (Nat.not_succ_le_zero _)
  | session :: list, room + 1, hroom, hall => by
      obtain ⟨hsession, hlist⟩ := List.forall_mem_cons.mp hall
      obtain ⟨fields, hfields, hread⟩ := readFields_sessionItem hsession
      have ih := readSessions_items (Nat.le_of_succ_le_succ hroom) hlist
      rw [List.map_cons, List.map_cons, hfields, readSessions, hread]
      dsimp only
      rw [ih, List.map_cons]

/-- **The command line client and a response**: all sessions, whatever bytes their names have. -/
theorem coapListSessions_response (parser : CursorParser) (hcount : list.length ≤ clientMaxSessions)
    (hall : ∀ session ∈ list, session.Readable)
    (hlength : (sessionsItem list).encode.length < 2 ^ 64) :
    coapListSessions parser 205 (sessionsItem list).encode
      = (list.map TmuxSession.client, true) := by
  have hpos := length_encode_pos (sessionsItem list)
  have hempty : (sessionsItem list).encode.isEmpty = false :=
    List.isEmpty_eq_false_iff.mpr (List.ne_nil_of_length_pos hpos)
  rw [coapListSessions, if_neg (fun h => h rfl), hempty, if_neg Bool.false_ne_true,
    parser.parse_encode _ (sized_of_length_lt _ hlength)]
  exact readSessions_items hcount hall

end

/-! ## All sessions, all clients -/

namespace TmuxTableSession

/-- A session as every client should show it: its name up to the limit of the agent. -/
def shown (s : TmuxTableSession) : SessionInfo where
  name := s.name.bytes.take tmuxNameMax
  cols := s.width.toNat
  rows := s.height.toNat
  attached := s.attached

theorem readable_listed (s : TmuxTableSession) : s.listed.Readable :=
  ⟨List.length_take_le _ _, Int.natCast_nonneg _, Int.ofNat_lt.mpr s.attached_lt⟩

theorem info_listed (s : TmuxTableSession) : s.listed.info = s.shown := by
  obtain ⟨-, hlow, hhigh⟩ := s.readable_listed
  have hattached : (UInt64.ofInt s.listed.attached).toNat = s.attached :=
    Int.natCast_inj.mp (toNat_ofInt hlow hhigh)
  rw [TmuxSession.info, hattached]
  rfl

end TmuxTableSession

/-- What the command line client shows of a session it has read. -/
def ClientSession.shown (session : ClientSession) : SessionInfo where
  name := session.name.bytes
  cols := session.cols.toNat
  rows := session.rows.toNat
  attached := session.attached

/-- Every session reaches every client: the snapshot and the response are encoded, the app reads
from both, and the client from the response, the sessions as they are to be shown. -/
def ReachesClients (api : EncoderApi) (swift : SwiftCbor) (parser : CursorParser)
    (table : List TmuxTableSession) : Prop :=
  let list := tmuxListSessions (some (listing table))
  let shown := table.map TmuxTableSession.shown
  (∃ payload, encodeSessionSnapshot api list = some (wrapFramedPayload payload)
      ∧ decodeControlStreamEvent swift payload = some (.sessions shown))
    ∧ ∃ payload, sessionsResponse api list = some payload ∧ decodeSessions swift payload = shown
      ∧ ∃ sessions, coapListSessions parser 205 payload = (sessions, true)
        ∧ sessions.map ClientSession.shown = shown

theorem wrapFramedPayload_inj {xs ys : List UInt8}
    (h : wrapFramedPayload xs = wrapFramedPayload ys) :
    xs = ys :=
  (List.append_inj h ((Framing.length_lengthBytes _).trans (Framing.length_lengthBytes _).symm)).2

/-- The names are well formed as they are sent. -/
def NamesValid (table : List TmuxTableSession) : Prop :=
  ∀ s ∈ table, validUtf8 (s.name.bytes.take tmuxNameMax) = true

section
variable {api : EncoderApi} {swift : SwiftCbor} {parser : CursorParser}
  {table : List TmuxTableSession}

/-- The sessions of a table as the agent lists them. -/
theorem listed_ok (htable : Listable table) :
    (table.map TmuxTableSession.listed).length ≤ tmuxMaxSessions
      ∧ (∀ session ∈ table.map TmuxTableSession.listed, session.Readable)
      ∧ ∀ session ∈ table.map TmuxTableSession.listed,
        session.name.bytes.length ≤ tmuxNameMax := by
  have hreadable : ∀ session ∈ table.map TmuxTableSession.listed, session.Readable := by
    intro session hsession
    obtain ⟨s, -, rfl⟩ := List.mem_map.mp hsession
    exact s.readable_listed
  refine ⟨?_, hreadable, fun session hsession => (hreadable session hsession).1⟩
  rw [List.length_map]
  exact htable.length_le

theorem info_map_listed (table : List TmuxTableSession) :
    (table.map TmuxTableSession.listed).map TmuxSession.info
      = table.map TmuxTableSession.shown := by
  rw [List.map_map]
  exact List.map_congr_left fun s _ => s.info_listed

theorem all_validUtf8_iff :
    ((table.map TmuxTableSession.listed).all fun session => validUtf8 session.name.bytes) = true
      ↔ NamesValid table := by
  rw [List.all_map, List.all_eq_true]
  exact Iff.rfl

/-- The snapshot of a table, and what the app reads from it. -/
theorem snapshot_listing (htable : Listable table) :
    encodeSessionSnapshot api (tmuxListSessions (some (listing table)))
        = some (wrapFramedPayload (snapshotItem (table.map TmuxTableSession.listed)).encode)
      ∧ decodeControlStreamEvent swift (snapshotItem (table.map TmuxTableSession.listed)).encode
        = if (table.map TmuxTableSession.listed).all
              fun session => validUtf8 session.name.bytes then
            some (.sessions (table.map TmuxTableSession.shown))
          else none := by
  obtain ⟨hcount, -, hnames⟩ := listed_ok htable
  have hlength := length_snapshotItem_le hcount hnames
  rw [tmuxListSessions_listing htable, ← info_map_listed]
  exact ⟨encodeSessionSnapshot_eq (by rw [maxSessionSnapshotCbor]; omega),
    decodeControlStreamEvent_snapshot swift (hlength.trans_lt (by decide))⟩

/-- The response for a table, and what the clients read from it. -/
theorem response_listing (htable : Listable table) :
    sessionsResponse api (tmuxListSessions (some (listing table)))
        = some (sessionsItem (table.map TmuxTableSession.listed)).encode
      ∧ (decodeSessions swift (sessionsItem (table.map TmuxTableSession.listed)).encode
        = if (table.map TmuxTableSession.listed).all
              fun session => validUtf8 session.name.bytes then
            table.map TmuxTableSession.shown
          else [])
      ∧ coapListSessions parser 205 (sessionsItem (table.map TmuxTableSession.listed)).encode
        = ((table.map TmuxTableSession.listed).map TmuxSession.client, true) := by
  obtain ⟨hcount, hreadable, hnames⟩ := listed_ok htable
  have hlength := length_sessionsItem_le hcount hnames
  rw [tmuxListSessions_listing htable, ← info_map_listed]
  exact ⟨sessionsResponse_eq (by omega),
    decodeSessions_response swift (hlength.trans_lt (by decide)),
    coapListSessions_response parser hcount hreadable (hlength.trans_lt (by decide))⟩

/-- One name that is cut inside a character keeps the app from every session of a snapshot. -/
theorem ReachesClients.namesValid (htable : Listable table)
    (h : ReachesClients api swift parser table) : NamesValid table := by
  obtain ⟨⟨payload, hframe, hdecode⟩, -⟩ := h
  obtain ⟨hsnapshot, hevent⟩ := @snapshot_listing api swift table htable
  rw [hsnapshot] at hframe
  obtain rfl := wrapFramedPayload_inj (Option.some.inj hframe)
  by_contra hinvalid
  rw [hevent, if_neg (fun h => hinvalid (all_validUtf8_iff.mp h))] at hdecode
  exact nomatch hdecode

theorem reachesClients_of_namesValid (htable : Listable table) (hnames : NamesValid table) :
    ReachesClients api swift parser table := by
  have hall := all_validUtf8_iff.mpr hnames
  obtain ⟨hsnapshot, hevent⟩ := @snapshot_listing api swift table htable
  obtain ⟨hresponse, hdecode, hclient⟩ := @response_listing api swift parser table htable
  refine ⟨⟨_, hsnapshot, by rw [hevent, if_pos hall]⟩, _, hresponse, by rw [hdecode, if_pos hall],
    _, hclient, ?_⟩
  rw [← info_map_listed, List.map_map]
  rfl

end

/-- **Every session reaches every client** of a table that the agent can list exactly when every
name is well-formed UTF-8 up to its 63rd byte. -/
theorem sessions_reach_clients_iff (api : EncoderApi) (swift : SwiftCbor) (parser : CursorParser)
    (table : List TmuxTableSession) (htable : Listable table) :
    ReachesClients api swift parser table ↔ NamesValid table :=
  ⟨fun h => h.namesValid htable, reachesClients_of_namesValid htable⟩

/-- A session of the default size. -/
def plainSession (name : String) : TmuxTableSession where
  name := .ofString name
  width := 80
  height := 24
  attached := 1
  attached_lt := by decide

theorem sessions_reach_clients_iff_dev :
    ReachesClients referenceEncoder referenceSwiftCbor referenceCursorParser
      [plainSession "dev"] := by
  have htable : Listable [plainSession "dev"] :=
    ⟨by decide, by decide +kernel, by decide +kernel⟩
  exact (sessions_reach_clients_iff _ _ _ _ htable).mpr (by unfold NamesValid; decide +kernel)

/-- A session whose name has a two-byte letter as its bytes 63 and 64, and another session. -/
def cutTable : List TmuxTableSession :=
  [plainSession "dev",
    plainSession "aaaaaaaaaabbbbbbbbbbccccccccccddddddddddeeeeeeeeeeffffffffffggé"]

/-- **A name that is cut inside a letter.**  Both names are well formed; no client of the app is
told of either session. -/
theorem cut_name_hides_sessions :
    Listable cutTable ∧ (∀ s ∈ cutTable, validUtf8 s.name.bytes = true)
      ∧ ¬ ReachesClients referenceEncoder referenceSwiftCbor referenceCursorParser cutTable := by
  have htable : Listable cutTable := ⟨by decide, by decide +kernel, by decide +kernel⟩
  have hcut : ¬ NamesValid cutTable := by
    unfold NamesValid
    decide +kernel
  exact ⟨htable, by decide +kernel, fun h => hcut (h.namesValid htable)⟩

end TmuxRemote
