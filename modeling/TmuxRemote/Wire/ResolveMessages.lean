import Mathlib.Data.List.Perm.Basic
import TmuxRemote.Wire.ControlFrames
import TmuxRemote.Wire.SessionListing

/-!
# Wire/ResolveMessages — answers to prompts (`tmuxremote_prompt_protocol_decode_resolve`)

The app writes a dictionary, whose entries come out in any order; the agent looks its fields up in
whatever order they came.  Under distinct keys a lookup does not depend on the order
(`lookup_perm`), so the agent reads back what the app wrote.  The agent copies texts as C strings:
two texts that agree up to their first NUL are the same to it (`resolve_protocol`).
-/

namespace TmuxRemote

open Cbor hiding map

/-! ## Lookups -/

/-- Every key is a text. -/
def TextKeys (entries : List (Cbor × Cbor)) : Prop := ∀ e ∈ entries, ∃ content, e.1 = .text content

theorem isKey_eq_true_iff {content : List UInt8} {key : Cbor} :
    isKey content key = true ↔ key = .text content := by
  cases key <;> simp [isKey]

/-- Under distinct keys, what is found is what is there. -/
theorem lookup_eq_some_iff {entries : List (Cbor × Cbor)} (hdistinct : (entries.map Prod.fst).Nodup)
    (key : String) (value : Cbor) :
    lookup entries key = some value ↔ entry key value ∈ entries := by
  rw [lookup, Option.map_eq_some_iff]
  constructor
  · rintro ⟨e, hfind, rfl⟩
    have hfound := List.find?_some hfind
    have hkey : e.1 = .text (utf8 key) := isKey_eq_true_iff.mp hfound
    have hmem := List.mem_of_find?_eq_some hfind
    rwa [entry, ← hkey]
  · intro hmem
    obtain ⟨e, hfind⟩ : ∃ e, entries.find? (fun e => isKey (utf8 key) e.1) = some e := by
      rw [← Option.isSome_iff_exists, List.find?_isSome]
      exact ⟨_, hmem, isKey_eq_true_iff.mpr rfl⟩
    have hfound := List.find?_some hfind
    have hkey : e.1 = .text (utf8 key) := isKey_eq_true_iff.mp hfound
    have heq : e = entry key value :=
      List.inj_on_of_nodup_map hdistinct (List.mem_of_find?_eq_some hfind) hmem hkey
    exact ⟨e, hfind, congrArg Prod.snd heq⟩

/-- The order of the entries is of no concern. -/
theorem lookup_perm {entries order : List (Cbor × Cbor)} (hperm : order.Perm entries)
    (hdistinct : (entries.map Prod.fst).Nodup) (key : String) :
    lookup order key = lookup entries key := by
  have hdistinct' : (order.map Prod.fst).Nodup := (hperm.map Prod.fst).nodup_iff.mpr hdistinct
  ext value
  rw [lookup_eq_some_iff hdistinct', lookup_eq_some_iff hdistinct, hperm.mem_iff]

/-! ## The decoder -/

/-- The agent's parser.  `read` is the data item that a payload is the encoding of. -/
structure MapParser where
  read : List UInt8 → Option Cbor
  read_encode : ∀ v : Cbor, v.Sized → read v.encode = some v
  read_nil : read [] = none
  /-- `cbor_parser_init` succeeds, and `cbor_value_is_map`. -/
  isMap : List UInt8 → Bool
  isMap_of_read : ∀ {payload entries}, read payload = some (.map entries) → isMap payload = true
  /-- `cbor_value_map_find_value`; `none` on an error and when there is no such key. -/
  findValue : List UInt8 → String → Option CborItem
  findValue_of_read : ∀ {payload entries}, read payload = some (.map entries) → TextKeys entries →
    (entries.map Prod.fst).Nodup → ∀ key, findValue payload key = (lookup entries key).map cborItem

/-- A parser that reads the whole item first. -/
def referenceMapParser : MapParser where
  read := Cbor.decode fun _ => true
  read_encode := fun v hsized => by
    rw [Cbor.decode_encode_of_all (fun _ => rfl) hsized]
  read_nil := rfl
  isMap := fun payload =>
    match Cbor.decode (fun _ => true) payload with
    | some (.map _) => true
    | _ => false
  isMap_of_read := fun hread => by simp only [hread]
  findValue := fun payload key =>
    match Cbor.decode (fun _ => true) payload with
    | some (.map entries) => (lookup entries key).map cborItem
    | _ => none
  findValue_of_read := fun hread _ _ _ => by simp only [hread]

/-- `tmuxremote_prompt_resolve_message` -/
structure PromptResolveMessage where
  instanceId : Option CString
  decision : Option CString
  keys : Option CString
  deriving DecidableEq

/-- `memset(out, 0, sizeof(*out))` -/
def PromptResolveMessage.zero : PromptResolveMessage := ⟨none, none, none⟩

/-- `tmuxremote_prompt_protocol_free_resolve` -/
def freeResolve (_message : PromptResolveMessage) : PromptResolveMessage := .zero

/-- `map_string` -/
def mapString (parser : MapParser) (payload : List UInt8) (key : String) : Option CString :=
  match parser.findValue payload key with
  | some (.text (some content)) => some (CString.ofBytes content)
  | _ => none

/-- `tmuxremote_prompt_protocol_decode_resolve`, from `cbor_parser_init` on. -/
def decodePayload (parser : MapParser) (payload : List UInt8) : Bool × PromptResolveMessage :=
  if !parser.isMap payload then (false, .zero)
  else if mapString parser payload "type" ≠ some (.ofString "pattern_resolve") then (false, .zero)
  else
    let out : PromptResolveMessage :=
      { instanceId := mapString parser payload "instance_id"
        decision := mapString parser payload "decision"
        keys := mapString parser payload "keys" }
    if out.instanceId = none ∨ out.decision = none then (false, freeResolve out)
    else if out.decision ≠ some (.ofString "action")
      ∧ out.decision ≠ some (.ofString "dismiss") then
      (false, freeResolve out)
    else (true, out)

/-- `tmuxremote_prompt_protocol_decode_resolve`: the value returned, and `*out`. -/
def decodeResolve (parser : MapParser) (framedData : List UInt8) : Bool × PromptResolveMessage :=
  if framedData.length < 4 then (false, .zero)
  else
    let payloadLen := Framing.lengthValue (framedData.take 4)
    -- `payload_len + 4` is a sum of 32 bits
    if payloadLen = 0 ∨ framedData.length < (payloadLen + 4) % 2 ^ 32 then (false, .zero)
    else decodePayload parser ((framedData.drop 4).take payloadLen)

/-! ## The encoder -/

/-- `CBOR.map(map).encode()`, given the entries of the dictionary: it emits them in some order. -/
structure SwiftMapEncoder where
  encode : List (Cbor × Cbor) → List UInt8
  encode_eq : ∀ entries, (entries.map Prod.fst).Nodup →
    ∃ order : List (Cbor × Cbor), order.Perm entries ∧ encode entries = (Cbor.map order).encode

/-- An encoder that starts at the last entry. -/
def referenceMapEncoder : SwiftMapEncoder where
  encode := fun entries => (Cbor.map entries.reverse).encode
  encode_eq := fun entries _ => ⟨entries.reverse, entries.reverse_perm, rfl⟩

/-- The dictionary of `encodePatternResolve`. -/
def resolveEntries (instanceId decision : String) (keys : Option String) : List (Cbor × Cbor) :=
  [entry "type" (.text (utf8 "pattern_resolve")), entry "instance_id" (.text (utf8 instanceId)),
      entry "decision" (.text (utf8 decision))]
    ++ (keys.map fun keys => entry "keys" (.text (utf8 keys))).toList

/-- `encodePatternResolve`; `none` where `UInt32(payload.count)` traps. -/
def encodePatternResolve (encoder : SwiftMapEncoder) (instanceId decision : String)
    (keys : Option String) : Option (List UInt8) :=
  let payload := encoder.encode (resolveEntries instanceId decision keys)
  if payload.length < 2 ^ 32 then some (lengthPrefixed payload) else none

/-! ## What is accepted -/

/-- A text as a C string holds it. -/
def cText (value : Option Cbor) : Option CString := (textOf value).map CString.ofBytes

/-- The message of a map, field by field. -/
def resolveMessage (entries : List (Cbor × Cbor)) : PromptResolveMessage where
  instanceId := cText (lookup entries "instance_id")
  decision := cText (lookup entries "decision")
  keys := cText (lookup entries "keys")

/-- What a map must say, up to the first NUL of each text. -/
structure ResolveAccepted (entries : List (Cbor × Cbor)) : Prop where
  type : cText (lookup entries "type") = some (.ofString "pattern_resolve")
  instanceId : (textOf (lookup entries "instance_id")).isSome = true
  decision : cText (lookup entries "decision") = some (.ofString "action")
    ∨ cText (lookup entries "decision") = some (.ofString "dismiss")

/-- A literal is a text up to its first NUL. -/
theorem ofString_eq (s : String) : CString.ofString s = CString.ofBytes (utf8 s) := rfl

theorem cText_eq_none_iff {value : Option Cbor} : cText value = none ↔ textOf value = none :=
  Option.map_eq_none_iff

theorem ResolveAccepted.decision_ne_none {entries : List (Cbor × Cbor)}
    (h : ResolveAccepted entries) :
    textOf (lookup entries "decision") ≠ none := by
  intro hnone
  rw [← cText_eq_none_iff] at hnone
  obtain haction | hdismiss := h.decision
  · exact nomatch haction.symm.trans hnone
  · exact nomatch hdismiss.symm.trans hnone

section
variable {parser : MapParser} {payload : List UInt8} {entries : List (Cbor × Cbor)}

/-- A simple value does not look like a text. -/
theorem cborItem_simple (n : UInt8) :
    cborItem (.simple n) = .other ∨ ∃ b, cborItem (.simple n) = .boolean b := by
  by_cases hfalse : n = 20
  · exact Or.inr ⟨false, by rw [hfalse]; rfl⟩
  · by_cases htrue : n = 21
    · exact Or.inr ⟨true, by rw [htrue]; rfl⟩
    · exact Or.inl (by simp [cborItem, hfalse, htrue])

theorem mapString_of_read (hread : parser.read payload = some (.map entries))
    (htext : TextKeys entries) (hdistinct : (entries.map Prod.fst).Nodup) (key : String) :
    mapString parser payload key = cText (lookup entries key) := by
  rw [mapString, parser.findValue_of_read hread htext hdistinct, cText]
  cases lookup entries key with
  | none => rfl
  | some value =>
    cases value with
    | simple n =>
      rw [Option.map_some]
      obtain hother | ⟨b, hboolean⟩ := cborItem_simple n
      · rw [hother]
        rfl
      · rw [hboolean]
        rfl
    | _ => rfl

/-- **What is read from a framed map.** -/
theorem decodeResolve_framed (hlength : payload.length < 2 ^ 32)
    (hread : parser.read payload = some (.map entries)) (htext : TextKeys entries)
    (hdistinct : (entries.map Prod.fst).Nodup) :
    (ResolveAccepted entries →
        decodeResolve parser (wrapFramedPayload payload) = (true, resolveMessage entries))
      ∧ (¬ ResolveAccepted entries →
        decodeResolve parser (wrapFramedPayload payload) = (false, .zero)) := by
  have hpos : 0 < payload.length := by
    refine List.length_pos_iff.mpr fun hnil => ?_
    rw [hnil, parser.read_nil] at hread
    exact nomatch hread
  have htotal : (wrapFramedPayload payload).length = 4 + payload.length := by
    rw [wrapFramedPayload, List.length_append, Framing.length_lengthBytes]
  have hvalue : Framing.lengthValue ((wrapFramedPayload payload).take 4) = payload.length := by
    rw [wrapFramedPayload, List.take_left' (Framing.length_lengthBytes _),
      Framing.lengthValue_lengthBytes hlength]
  have hpayload : ((wrapFramedPayload payload).drop 4).take payload.length = payload := by
    rw [wrapFramedPayload, List.drop_left' (Framing.length_lengthBytes _), List.take_length]
  have hframe : ¬ (payload.length = 0
      ∨ (wrapFramedPayload payload).length < (payload.length + 4) % 2 ^ 32) := by
    have := Nat.mod_le (payload.length + 4) (2 ^ 32)
    omega
  have hstring := mapString_of_read hread htext hdistinct
  have hlong : ¬ (wrapFramedPayload payload).length < 4 := by omega
  simp only [decodeResolve, decodePayload, hvalue, hpayload, if_neg hlong, if_neg hframe,
    parser.isMap_of_read hread, hstring, Bool.not_true, Bool.false_eq_true, if_false]
  constructor
  · intro h
    have hpresent : ¬ (cText (lookup entries "instance_id") = none
        ∨ cText (lookup entries "decision") = none) := by
      rw [cText_eq_none_iff, cText_eq_none_iff]
      exact not_or.mpr ⟨Option.isSome_iff_ne_none.mp h.instanceId, h.decision_ne_none⟩
    have hdecision : ¬ (cText (lookup entries "decision") ≠ some (.ofString "action")
        ∧ cText (lookup entries "decision") ≠ some (.ofString "dismiss")) :=
      fun hneither => h.decision.elim hneither.1 hneither.2
    rw [if_neg (not_not.mpr h.type), if_neg hpresent, if_neg hdecision]
    rfl
  · intro hrefused
    split_ifs with htype hpresent hdecision
    · rfl
    · rfl
    · rfl
    · obtain ⟨hid, -⟩ := not_or.mp hpresent
      rw [cText_eq_none_iff, ← ne_eq, ← Option.isSome_iff_ne_none] at hid
      refine absurd ⟨not_not.mp htype, hid, ?_⟩ hrefused
      by_contra hneither
      exact hdecision (not_or.mp hneither)

end

/-- A refused payload leaves nothing. -/
theorem decodePayload_refused (parser : MapParser) (payload : List UInt8)
    (h : (decodePayload parser payload).1 = false) : (decodePayload parser payload).2 = .zero := by
  unfold decodePayload at h ⊢
  dsimp only at h ⊢
  split_ifs at h ⊢ <;> rfl

/-- **A refused frame leaves nothing**, whatever its bytes. -/
theorem decodeResolve_refused (parser : MapParser) (framedData : List UInt8)
    (h : (decodeResolve parser framedData).1 = false) :
    (decodeResolve parser framedData).2 = .zero := by
  unfold decodeResolve at h ⊢
  dsimp only at h ⊢
  split_ifs at h ⊢
  · rfl
  · rfl
  · exact decodePayload_refused parser _ h

/-! ## What the app writes -/

theorem textKeys_resolveEntries (instanceId decision : String) (keys : Option String) :
    TextKeys (resolveEntries instanceId decision keys) := by
  cases keys <;> simp [TextKeys, resolveEntries, entry]

theorem distinct_resolveEntries (instanceId decision : String) (keys : Option String) :
    ((resolveEntries instanceId decision keys).map Prod.fst).Nodup := by
  cases keys <;> simp [resolveEntries, entry]

/-- How long a pair is when it is encoded. -/
def entryLength (e : Cbor × Cbor) : ℕ := e.1.encode.length + e.2.encode.length

theorem length_encodeEntries (entries : List (Cbor × Cbor)) :
    (encodeEntries entries).length = (entries.map entryLength).sum := by
  induction entries with
  | nil => rfl
  | cons e entries ih =>
    rw [encodeEntries, List.length_append, List.length_append, ih, List.map_cons, List.sum_cons,
      entryLength, Nat.add_assoc]

theorem entryLength_entry_le (key : String) (content : List UInt8) :
    entryLength (entry key (.text content)) ≤ (utf8 key).length + content.length + 18 := by
  have hkey := length_head_le 3 (utf8 key).length
  have hvalue := length_head_le 3 content.length
  rw [entryLength, entry, encode, encode, List.length_append, List.length_append]
  omega

/-- The number of bytes in the strings of an answer. -/
def answerLength (instanceId decision : String) (keys : Option String) : ℕ :=
  (utf8 instanceId).length + (utf8 decision).length + (keys.map fun k => (utf8 k).length).getD 0

/-- Only strings of nearly `2 ^ 32` bytes make the conversion of the length trap. -/
theorem encodePatternResolve_isSome (encoder : SwiftMapEncoder) {instanceId decision : String}
    {keys : Option String} (h : answerLength instanceId decision keys + 128 ≤ 2 ^ 32) :
    (encodePatternResolve encoder instanceId decision keys).isSome = true := by
  obtain ⟨order, hperm, hencode⟩ :=
    encoder.encode_eq _ (distinct_resolveEntries instanceId decision keys)
  have hhead := length_head_le 5 order.length
  have hlength : (encoder.encode (resolveEntries instanceId decision keys)).length < 2 ^ 32 := by
    rw [hencode, encode, List.length_append, length_encodeEntries,
      (hperm.map entryLength).sum_nat]
    have htype := entryLength_entry_le "type" (utf8 "pattern_resolve")
    have hid := entryLength_entry_le "instance_id" (utf8 instanceId)
    have hdecision := entryLength_entry_le "decision" (utf8 decision)
    have hnames : (utf8 "type").length = 4 ∧ (utf8 "pattern_resolve").length = 15
      ∧ (utf8 "instance_id").length = 11 ∧ (utf8 "decision").length = 8
      ∧ (utf8 "keys").length = 4 := by decide +kernel
    cases keys with
    | none =>
      simp only [resolveEntries, answerLength, Option.map_none, Option.toList_none, List.append_nil,
        List.map_cons, List.map_nil, List.sum_cons, List.sum_nil, Option.getD_none] at h ⊢
      omega
    | some k =>
      have hkeys := entryLength_entry_le "keys" (utf8 k)
      simp only [resolveEntries, answerLength, Option.map_some, Option.toList_some,
        List.cons_append, List.nil_append, List.map_cons, List.map_nil, List.sum_cons, List.sum_nil,
        Option.getD_some] at h ⊢
      omega
  rw [encodePatternResolve, if_pos hlength]
  rfl

/-- The message of the dictionary is what was put in. -/
theorem resolveMessage_resolveEntries (instanceId decision : String) (keys : Option String) :
    resolveMessage (resolveEntries instanceId decision keys)
      = { instanceId := some (.ofString instanceId)
          decision := some (.ofString decision)
          keys := keys.map .ofString } := by
  cases keys <;> simp [resolveMessage, resolveEntries, lookup_entry, cText, textOf, ofString_eq]

theorem resolveAccepted_resolveEntries {instanceId decision : String} (keys : Option String)
    (hdecision : decision = "action" ∨ decision = "dismiss") :
    ResolveAccepted (resolveEntries instanceId decision keys) where
  type := by simp [resolveEntries, lookup_entry, cText, textOf, ofString_eq]
  instanceId := by simp [resolveEntries, lookup_entry, textOf]
  decision := by
    obtain rfl | rfl := hdecision
    · exact Or.inl (by simp [resolveEntries, lookup_entry, cText, textOf, ofString_eq])
    · exact Or.inr (by simp [resolveEntries, lookup_entry, cText, textOf, ofString_eq])

theorem decodeResolve_encodePatternResolve (parser : MapParser) (encoder : SwiftMapEncoder)
    {instanceId decision : String} {keys : Option String} {frame : List UInt8}
    (hdecision : decision = "action" ∨ decision = "dismiss")
    (hframe : encodePatternResolve encoder instanceId decision keys = some frame) :
    decodeResolve parser frame
      = (true, { instanceId := some (.ofString instanceId)
                 decision := some (.ofString decision)
                 keys := keys.map .ofString }) := by
  have hkeys := distinct_resolveEntries instanceId decision keys
  obtain ⟨order, hperm, hencode⟩ := encoder.encode_eq _ hkeys
  rw [encodePatternResolve, hencode] at hframe
  split_ifs at hframe with hlength
  obtain rfl := Option.some.inj hframe
  have hread := parser.read_encode _ (sized_of_length_lt (Cbor.map order) (by omega))
  have htext : TextKeys order := fun e he =>
    textKeys_resolveEntries instanceId decision keys e (hperm.mem_iff.mp he)
  have hdistinct : (order.map Prod.fst).Nodup := (hperm.map Prod.fst).nodup_iff.mpr hkeys
  have hlookup := lookup_perm hperm hkeys
  have hmessage : resolveMessage order
      = resolveMessage (resolveEntries instanceId decision keys) := by
    simp only [resolveMessage, hlookup]
  have haccepted : ResolveAccepted order := by
    have h := @resolveAccepted_resolveEntries instanceId decision keys hdecision
    exact ⟨by rw [hlookup]; exact h.type, by rw [hlookup]; exact h.instanceId,
      by rw [hlookup]; exact h.decision⟩
  rw [← resolveMessage_resolveEntries, ← hmessage]
  exact (decodeResolve_framed hlength hread htext hdistinct).1 haccepted

/-- No byte of the string is NUL. -/
def NulFree (s : String) : Prop := ∀ b ∈ utf8 s, b ≠ 0

theorem bytes_ofString {s : String} (h : NulFree s) : (CString.ofString s).bytes = utf8 s :=
  CString.ofBytes_of_nulFree h

/-- **Answers to prompts.**  Of a framed map the agent accepts exactly a `pattern_resolve`, a text
being read up to its first NUL, and then holds its fields; of what it refuses it holds nothing.  It
reads back whatever answer the app sends, in whatever order the entries come out. -/
theorem resolve_protocol (parser : MapParser) (encoder : SwiftMapEncoder) :
    (∀ (payload : List UInt8) (entries : List (Cbor × Cbor)), payload.length < 2 ^ 32 →
        parser.read payload = some (.map entries) → TextKeys entries →
        (entries.map Prod.fst).Nodup →
        ((decodeResolve parser (wrapFramedPayload payload)).1 = true ↔ ResolveAccepted entries)
          ∧ ((decodeResolve parser (wrapFramedPayload payload)).1 = true →
            (decodeResolve parser (wrapFramedPayload payload)).2 = resolveMessage entries))
      ∧ (∀ framedData : List UInt8, (decodeResolve parser framedData).1 = false →
        (decodeResolve parser framedData).2 = .zero)
      ∧ ∀ (instanceId decision : String) (keys : Option String),
        NulFree instanceId → (∀ k ∈ keys, NulFree k) → decision = "action" ∨ decision = "dismiss" →
        (answerLength instanceId decision keys + 128 ≤ 2 ^ 32 →
            (encodePatternResolve encoder instanceId decision keys).isSome = true)
          ∧ ∀ frame ∈ encodePatternResolve encoder instanceId decision keys,
            ∃ message, decodeResolve parser frame = (true, message)
              ∧ message.instanceId.map CString.bytes = some (utf8 instanceId)
              ∧ message.decision.map CString.bytes = some (utf8 decision)
              ∧ message.keys.map CString.bytes = keys.map utf8 := by
  refine ⟨fun payload entries hlength hread htext hdistinct => ?_, decodeResolve_refused parser,
    fun instanceId decision keys hid hkeys hdecision =>
      ⟨encodePatternResolve_isSome encoder, fun frame hframe => ?_⟩⟩
  · obtain ⟨haccepted, hrefused⟩ := decodeResolve_framed hlength hread htext hdistinct
    by_cases h : ResolveAccepted entries
    · rw [haccepted h]
      exact ⟨⟨fun _ => h, fun _ => rfl⟩, fun _ => rfl⟩
    · rw [hrefused h]
      exact ⟨⟨nofun, fun h' => absurd h' h⟩, nofun⟩
  · refine ⟨_, decodeResolve_encodePatternResolve parser encoder hdecision hframe, ?_, ?_, ?_⟩
    · rw [Option.map_some, bytes_ofString hid]
    · have hfree : NulFree decision := by
        obtain rfl | rfl := hdecision <;> unfold NulFree <;> decide +kernel
      rw [Option.map_some, bytes_ofString hfree]
    · rw [Option.map_map]
      exact Option.map_congr fun k hk => bytes_ofString (hkeys k hk)

theorem resolve_protocol_choice :
    ∃ frame ∈ encodePatternResolve referenceMapEncoder "abc123" "action" (some "1\n"),
      ∃ message, decodeResolve referenceMapParser frame = (true, message)
        ∧ message.instanceId.map CString.bytes = some (utf8 "abc123")
        ∧ message.decision.map CString.bytes = some (utf8 "action")
        ∧ message.keys.map CString.bytes = (some "1\n").map utf8 := by
  obtain ⟨-, -, hanswers⟩ := resolve_protocol referenceMapParser referenceMapEncoder
  have hid : NulFree "abc123" := by unfold NulFree; decide +kernel
  have hkeys : ∀ k ∈ some "1\n", NulFree k := by
    rintro k ⟨⟩
    unfold NulFree
    decide +kernel
  obtain ⟨hsome, hdecode⟩ := hanswers "abc123" "action" (some "1\n") hid hkeys (Or.inl rfl)
  obtain ⟨frame, hframe⟩ := Option.isSome_iff_exists.mp (hsome (by decide +kernel))
  exact ⟨frame, hframe, hdecode frame hframe⟩

/-- An answer whose type has a NUL and one more letter. -/
def nulTypeEntries : List (Cbor × Cbor) :=
  [entry "type" (.text (utf8 "pattern_resolve" ++ [0, 0x78])),
    entry "instance_id" (.text (utf8 "p1")), entry "decision" (.text (utf8 "dismiss"))]

/-- **A type with a NUL** is accepted, although the text is not `pattern_resolve`. -/
theorem nul_type_accepted :
    TextKeys nulTypeEntries ∧ (nulTypeEntries.map Prod.fst).Nodup
      ∧ referenceMapParser.read (Cbor.map nulTypeEntries).encode = some (.map nulTypeEntries)
      ∧ textOf (lookup nulTypeEntries "type") ≠ some (utf8 "pattern_resolve")
      ∧ (decodeResolve referenceMapParser
          (wrapFramedPayload (Cbor.map nulTypeEntries).encode)).1 = true := by
  refine ⟨?_, ?_, ?_, ?_, by decide +kernel⟩
  · simp [TextKeys, nulTypeEntries, entry]
  · simp [nulTypeEntries, entry]
  · have hlength : (Cbor.map nulTypeEntries).encode.length < 2 ^ 64 := by decide +kernel
    exact referenceMapParser.read_encode _ (sized_of_length_lt _ hlength)
  · simp [nulTypeEntries, lookup_entry, textOf]

/-! ## The region that is parsed -/

/-- What `cbor_parser_init` is given: where its region starts in the frame, and the length. -/
structure ParserRegion where
  start : ℕ
  length : ℕ
  deriving DecidableEq

namespace ParserRegion

/-- The region has only bytes of the buffer. -/
def Inside (region : ParserRegion) (framedLen : ℕ) : Prop :=
  region.start + region.length ≤ framedLen

instance (region : ParserRegion) (framedLen : ℕ) : Decidable (region.Inside framedLen) :=
  inferInstanceAs (Decidable (_ ≤ _))

def bytes (region : ParserRegion) (framedData : List UInt8) : List UInt8 :=
  (framedData.drop region.start).take region.length

end ParserRegion

/-- `tmuxremote_prompt_protocol_decode_resolve`, up to `cbor_parser_init`. -/
def parserRegion (framedData : List UInt8) : Option ParserRegion :=
  if framedData.length < 4 then none
  else
    let payloadLen := Framing.lengthValue (framedData.take 4)
    -- `payload_len + 4` is a sum of 32 bits, which is widened to a `size_t` when it is too late
    if payloadLen = 0 ∨ framedData.length < (payloadLen + 4) % 2 ^ 32 then none
    else some { start := 4, length := payloadLen }

/-- The decoder looks at the frame through the region only. -/
theorem decodeResolve_eq (parser : MapParser) (framedData : List UInt8) :
    decodeResolve parser framedData =
      ((parserRegion framedData).map fun region =>
        decodePayload parser (region.bytes framedData)).getD (false, .zero) := by
  rw [decodeResolve, parserRegion]
  by_cases hshort : framedData.length < 4
  · rw [if_pos hshort, if_pos hshort]
    rfl
  · rw [if_neg hshort, if_neg hshort]
    dsimp only
    by_cases hrefused : Framing.lengthValue (framedData.take 4) = 0
        ∨ framedData.length < (Framing.lengthValue (framedData.take 4) + 4) % 2 ^ 32
    · rw [if_pos hrefused, if_pos hrefused]
      rfl
    · rw [if_neg hrefused, if_neg hrefused]
      rfl

/-- The prefix of a frame: `payload_len`. -/
def framePrefix (framedData : List UInt8) : ℕ := Framing.lengthValue (framedData.take 4)

theorem parserRegion_eq_some_iff {framedData : List UInt8} {region : ParserRegion} :
    parserRegion framedData = some region ↔
      4 ≤ framedData.length ∧ framePrefix framedData ≠ 0
        ∧ (framePrefix framedData + 4) % 2 ^ 32 ≤ framedData.length
        ∧ region = ⟨4, framePrefix framedData⟩ := by
  rw [parserRegion, framePrefix]
  dsimp only
  split_ifs with hshort hrefused
  · exact ⟨nofun, fun h => absurd hshort (Nat.not_lt.mpr h.1)⟩
  · refine ⟨nofun, fun ⟨_, hzero, hfits, _⟩ => ?_⟩
    exact absurd hrefused (not_or.mpr ⟨hzero, Nat.not_lt.mpr hfits⟩)
  · obtain ⟨hzero, hfits⟩ := not_or.mp hrefused
    rw [Option.some_inj, eq_comm]
    exact ⟨fun h => ⟨Nat.not_lt.mp hshort, hzero, Nat.not_lt.mp hfits, h⟩, fun h => h.2.2.2⟩

/-- Four cannot be added to the prefix in 32 bits. -/
def PrefixWraps (framedData : List UInt8) : Prop := 2 ^ 32 - 4 ≤ framePrefix framedData

/-- **The region of the parser lies inside the buffer**, unless the sum wraps around and the buffer
is shorter than its prefix says. -/
theorem parserRegion_inside_iff (framedData : List UInt8) :
    (∀ region ∈ parserRegion framedData, region.Inside framedData.length) ↔
      (4 ≤ framedData.length → PrefixWraps framedData →
        4 + framePrefix framedData ≤ framedData.length) := by
  simp only [Option.mem_def, parserRegion_eq_some_iff]
  constructor
  · intro hinside hfour hwraps
    have hlt : framePrefix framedData < 2 ^ 32 :=
      Framing.lengthValue_lt (List.length_take_of_le hfour)
    rw [PrefixWraps] at hwraps
    -- what is left of the sum is less than four: the check passes
    exact hinside _ ⟨hfour, by omega, by omega, rfl⟩
  · rintro hexcept region ⟨hfour, hzero, hfits, rfl⟩
    by_cases hwraps : PrefixWraps framedData
    · exact hexcept hfour hwraps
    · rw [PrefixWraps] at hwraps
      change 4 + framePrefix framedData ≤ framedData.length
      omega

/-- **Four bytes of ones** are taken for a frame, of which the parser gets `2 ^ 32 - 1` bytes. -/
theorem parserRegion_outside :
    ¬ ∀ framedData : List UInt8,
      ∀ region ∈ parserRegion framedData, region.Inside framedData.length := by
  intro hinside
  have hregion : parserRegion [0xFF, 0xFF, 0xFF, 0xFF] = some ⟨4, 2 ^ 32 - 1⟩ := by decide +kernel
  exact absurd (hinside _ _ hregion) (by decide)

/-- The reader thread takes no prefix above 65536, so its frames are all there. -/
theorem readerThreadFunc_inside (chunks : Chunks) :
    ∀ framed ∈ AgentReader.readerThreadFunc chunks,
      ∀ region ∈ parserRegion framed, region.Inside framed.length := by
  intro framed hframed
  obtain ⟨lengthBuf, payload, rfl, hfour, haccepts, hlength⟩ :=
    Framing.Source.mem_readLoop trivial hframed
  refine (parserRegion_inside_iff _).mpr fun _ _ => ?_
  rw [framePrefix, List.take_left' hfour, List.length_append, hfour, hlength]

end TmuxRemote
