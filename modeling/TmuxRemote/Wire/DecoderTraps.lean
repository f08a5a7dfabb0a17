import TmuxRemote.Library.Trapping
import TmuxRemote.Wire.AppDecoder

/-!
# Wire/DecoderTraps — where a message stops the app (`CBORHelpers.swift`)

`Int(value)` of a `UInt64` traps beyond `Int.max`, and a trap ends the app.  Here are the decoders
of `AppDecoder` with their traps, in the order of the source, over an arbitrary `CBOR.decode`.  Each
one returns exactly when the numbers it converts fit (`…_eq_ok`), and then it returns what
`AppDecoder` says.
-/

open Trapping

namespace TmuxRemote.Swift

/-! ## The decoders -/

/-- `Int.max` -/
def intMax : ℕ := 2 ^ 63 - 1

/-- `Int(value)` -/
def int (value : UInt64) : Except Trap ℕ :=
  if value.toNat ≤ intMax then .ok value.toNat else .error .conversion

/-- `Int(v)` if `case .unsignedInt(let v) = value`, else the default. -/
def intOf (default : ℕ) : Option Cbor → Except Trap ℕ
  | some (.unsigned v) => int v
  | _ => .ok default

/-- One turn of the loop of `decodeSessionArray`; `none` continues it. -/
def decodeSession : Cbor → Except Trap (Option SessionInfo)
  | .map map =>
    match textOf (lookup map "name") with
    | none => .ok none
    | some name => do
      let cols ← intOf 0 (lookup map "cols")
      let rows ← intOf 0 (lookup map "rows")
      let attached ← intOf 0 (lookup map "attached")
      pure (some
        { name := name
          cols := cols
          rows := rows
          attached := attached })
  | _ => .ok none

/-- `decodeSessionArray` -/
def decodeSessionArray (items : List Cbor) : Except Trap (List SessionInfo) :=
  items.filterMapM decodeSession

/-- `decodePatternInstance`; the revision is converted before the actions are looked at. -/
def decodePatternInstance (map : List (Cbor × Cbor)) : Except Trap (Option PatternMatch) :=
  match textOf (lookup map "instance_id"), textOf (lookup map "pattern_id"),
    decodePatternType (lookup map "pattern_type") with
  | some instanceId, some patternId, some patternType => do
    let actions := (itemsOf (lookup map "actions")).filterMap decodeAction
    let revision ← intOf 1 (lookup map "revision")
    if actions.isEmpty then pure none
    else
      pure (some
        { id := instanceId
          patternId := patternId
          patternType := patternType
          prompt := textOf (lookup map "prompt")
          actions := actions
          revision := revision })
  | _, _, _ => .ok none

/-- `decodeControlMessage` -/
def decodeControlMessage (decode : List UInt8 → Option Cbor) (data : List UInt8) :
    Except Trap (List SessionInfo) :=
  match decode data with
  | some (.map outerMap) =>
    if textOf (lookup outerMap "type") = some (utf8 "sessions") then
      match lookup outerMap "sessions" with
      | some (.array items) => decodeSessionArray items
      | _ => .ok []
    else .ok []
  | _ => .ok []

/-- The `switch` of `decodeControlStreamEvent`. -/
def decodeEvent (outerMap : List (Cbor × Cbor)) (typeStr : List UInt8) :
    Except Trap (Option ControlStreamEvent) :=
  if typeStr = utf8 "sessions" then
    match lookup outerMap "sessions" with
    | some (.array items) => do
      let list ← decodeSessionArray items
      pure (some (.sessions list))
    | _ => .ok none
  else if typeStr = utf8 "pattern_present" then do
    let pattern ← decodePatternInstance outerMap
    pure (pattern.map .patternPresent)
  else if typeStr = utf8 "pattern_update" then do
    let pattern ← decodePatternInstance outerMap
    pure (pattern.map .patternUpdate)
  else if typeStr = utf8 "pattern_gone" then
    .ok ((textOf (lookup outerMap "instance_id")).map .patternGone)
  else .ok none

/-- `decodeControlStreamEvent` -/
def decodeControlStreamEvent (decode : List UInt8 → Option Cbor) (data : List UInt8) :
    Except Trap (Option ControlStreamEvent) :=
  match decode data with
  | some (.map outerMap) =>
    match textOf (lookup outerMap "type") with
    | some typeStr => decodeEvent outerMap typeStr
    | none => .ok none
  | _ => .ok none

/-- `decodeSessions` -/
def decodeSessions (decode : List UInt8 → Option Cbor) (data : List UInt8) :
    Except Trap (List SessionInfo) :=
  match decode data with
  | some (.array items) => decodeSessionArray items
  | _ => .ok []

/-! ## The numbers that are converted -/

/-- A field that is no unsigned number, or one an `Int` has. -/
def FieldFits (map : List (Cbor × Cbor)) (key : String) : Prop :=
  ∀ v : UInt64, lookup map key = some (.unsigned v) → v.toNat ≤ intMax

/-- The numbers of a listed session: of an item that is no map, or one without a name, none. -/
def SessionFits (item : Cbor) : Prop :=
  ∀ map, item = .map map → textOf (lookup map "name") ≠ none →
    FieldFits map "cols" ∧ FieldFits map "rows" ∧ FieldFits map "attached"

/-- The numbers of a prompt: its revision, once its identity and its kind are there. -/
def PatternFits (map : List (Cbor × Cbor)) : Prop :=
  textOf (lookup map "instance_id") ≠ none → textOf (lookup map "pattern_id") ≠ none →
    decodePatternType (lookup map "pattern_type") ≠ none → FieldFits map "revision"

/-- The type of a message. -/
def HasType (outerMap : List (Cbor × Cbor)) (type : String) : Prop :=
  textOf (lookup outerMap "type") = some (utf8 type)

/-- Every session of a `sessions` message fits. -/
def SnapshotFits (message : Cbor) : Prop :=
  ∀ outerMap items, message = .map outerMap → HasType outerMap "sessions" →
    lookup outerMap "sessions" = some (.array items) → ∀ item ∈ items, SessionFits item

/-- The revision of a prompt message fits. -/
def PromptFits (message : Cbor) : Prop :=
  ∀ outerMap, message = .map outerMap →
    HasType outerMap "pattern_present" ∨ HasType outerMap "pattern_update" → PatternFits outerMap

/-- Every session of a bare list fits. -/
def ListFits (message : Cbor) : Prop :=
  ∀ items, message = .array items → ∀ item ∈ items, SessionFits item

/-! ## What each decoder returns, and when -/

theorem int_eq_ok {v : UInt64} {n : ℕ} : int v = .ok n ↔ v.toNat ≤ intMax ∧ n = v.toNat := by
  rw [int]
  split_ifs with h
  · exact ⟨fun hn => ⟨h, by injection hn with hn; exact hn.symm⟩, fun hn => by rw [hn.2]⟩
  · exact ⟨fun hn => absurd hn (by simp), fun hn => absurd hn.1 h⟩

theorem intOf_eq_ok (map : List (Cbor × Cbor)) (key : String) (default : ℕ) (n : ℕ) :
    intOf default (lookup map key) = .ok n ↔
      FieldFits map key ∧ n = TmuxRemote.intOf default (lookup map key) := by
  rw [FieldFits]
  generalize lookup map key = field
  rcases field with _ | value
  · exact ok_eq_ok_of (by simp)
  · cases value with
    | unsigned v =>
      have hv : (∀ w : UInt64, some (Cbor.unsigned v) = some (.unsigned w) → w.toNat ≤ intMax) ↔
          v.toNat ≤ intMax := by simp
      rw [hv]
      exact int_eq_ok
    | _ => exact ok_eq_ok_of (by simp)

theorem sessionFits_map {map : List (Cbor × Cbor)} : SessionFits (.map map) ↔
    (textOf (lookup map "name") ≠ none →
      FieldFits map "cols" ∧ FieldFits map "rows" ∧ FieldFits map "attached") := by
  simp [SessionFits]

theorem decodeSession_eq_ok (item : Cbor) (r : Option SessionInfo) :
    decodeSession item = .ok r ↔ SessionFits item ∧ r = TmuxRemote.decodeSession item := by
  cases item with
  | map map =>
    rw [sessionFits_map, decodeSession, TmuxRemote.decodeSession]
    cases textOf (lookup map "name") with
    | none => exact ok_eq_ok_of (by simp)
    | some name =>
      rw [bind_eq_ok_of_spec (intOf_eq_ok map "cols" 0),
        bind_eq_ok_of_spec (intOf_eq_ok map "rows" 0),
        bind_eq_ok_of_spec (intOf_eq_ok map "attached" 0), pure_eq_ok]
      simp [and_assoc, eq_comm]
  | _ => exact ok_eq_ok_of (by simp [SessionFits])

theorem decodeSessionArray_eq_ok (items : List Cbor) (list : List SessionInfo) :
    decodeSessionArray items = .ok list ↔
      (∀ item ∈ items, SessionFits item) ∧ list = TmuxRemote.decodeSessionArray items :=
  filterMapM_eq_ok decodeSession_eq_ok items list

theorem decodePatternInstance_eq_ok (map : List (Cbor × Cbor)) (r : Option PatternMatch) :
    decodePatternInstance map = .ok r ↔
      PatternFits map ∧ r = TmuxRemote.decodePatternInstance map := by
  rw [decodePatternInstance, PatternFits, TmuxRemote.decodePatternInstance]
  cases textOf (lookup map "instance_id") with
  | none => exact ok_eq_ok_of (by simp)
  | some instanceId =>
    cases textOf (lookup map "pattern_id") with
    | none => exact ok_eq_ok_of (by simp)
    | some patternId =>
      cases decodePatternType (lookup map "pattern_type") with
      | none => exact ok_eq_ok_of (by simp)
      | some patternType =>
        change (intOf 1 (lookup map "revision") >>= _) = .ok r ↔ _
        rw [bind_eq_ok_of_spec (intOf_eq_ok map "revision" 1)]
        simp only [ne_eq, reduceCtorEq, not_false_eq_true, forall_const]
        refine and_congr_right fun _ => ?_
        simp only [Option.bind_eq_bind, Option.bind_some]
        split_ifs <;> rw [pure_eq_ok, eq_comm]

/-! ## The functions the app calls -/

theorem snapshotFits_map {outerMap : List (Cbor × Cbor)} : SnapshotFits (.map outerMap) ↔
    (HasType outerMap "sessions" →
      ∀ items, lookup outerMap "sessions" = some (.array items) → ∀ item ∈ items,
        SessionFits item) := by
  refine ⟨fun h htype items => h outerMap items rfl htype, ?_⟩
  rintro h _ items hmap
  cases hmap
  exact fun htype => h htype items

theorem promptFits_map {outerMap : List (Cbor × Cbor)} : PromptFits (.map outerMap) ↔
    (HasType outerMap "pattern_present" ∨ HasType outerMap "pattern_update" →
      PatternFits outerMap) := by
  simp [PromptFits]

theorem decodeSessionArray_returns {items : List Cbor} :
    (∃ list, decodeSessionArray items = .ok list) ↔ ∀ item ∈ items, SessionFits item :=
  returns_iff_of_spec (decodeSessionArray_eq_ok items)

theorem decodePatternInstance_returns {map : List (Cbor × Cbor)} :
    (∃ r, decodePatternInstance map = .ok r) ↔ PatternFits map :=
  returns_iff_of_spec (decodePatternInstance_eq_ok map)

/-- A listing is decoded when its sessions fit. -/
theorem decodeSessions_returns (decode : List UInt8 → Option Cbor) (data : List UInt8) :
    (∃ list, decodeSessions decode data = .ok list) ↔ ∀ v, decode data = some v → ListFits v := by
  rw [decodeSessions]
  generalize decode data = decoded
  rcases decoded with _ | v
  · simp
  · cases v with
    | array items => simpa [ListFits] using decodeSessionArray_returns
    | _ => simp [ListFits]

/-- A control message is decoded when the sessions it lists fit. -/
theorem decodeControlMessage_returns (decode : List UInt8 → Option Cbor) (data : List UInt8) :
    (∃ list, decodeControlMessage decode data = .ok list) ↔
      ∀ v, decode data = some v → SnapshotFits v := by
  rw [decodeControlMessage]
  generalize decode data = decoded
  rcases decoded with _ | v
  · simp
  · cases v with
    | map outerMap =>
      simp only [Option.some.injEq, forall_eq', snapshotFits_map, HasType]
      by_cases htype : textOf (lookup outerMap "type") = some (utf8 "sessions")
      · simp only [htype, if_true, forall_const]
        rcases lookup outerMap "sessions" with _ | value
        · simp
        · cases value with
          | array items => simpa using decodeSessionArray_returns
          | _ => simp
      · simp [htype]
    | _ => simp [SnapshotFits]

/-- The switch returns when the sessions it lists, or the revision of its prompt, fit. -/
theorem decodeEvent_returns {outerMap : List (Cbor × Cbor)} {typeStr : List UInt8}
    (htype : textOf (lookup outerMap "type") = some typeStr) :
    (∃ event, decodeEvent outerMap typeStr = .ok event) ↔
      SnapshotFits (.map outerMap) ∧ PromptFits (.map outerMap) := by
  rw [snapshotFits_map, promptFits_map, decodeEvent]
  simp only [HasType, htype, Option.some.injEq]
  split_ifs with hsessions hpresent hupdate hgone
  · simp only [hsessions, utf8_inj, forall_const]
    rcases lookup outerMap "sessions" with _ | value
    · simp
    · cases value with
      | array items =>
        dsimp only
        rw [returns_bind_pure, decodeSessionArray_returns]
        simp
      | _ => simp
  · rw [returns_bind_pure, decodePatternInstance_returns]
    simp [hpresent]
  · rw [returns_bind_pure, decodePatternInstance_returns]
    simp [hupdate]
  · simp [hsessions, hpresent, hupdate]
  · simp [hsessions, hpresent, hupdate]

/-- An event is decoded when the sessions it lists, or the revision of its prompt, fit. -/
theorem decodeControlStreamEvent_returns (decode : List UInt8 → Option Cbor) (data : List UInt8) :
    (∃ event, decodeControlStreamEvent decode data = .ok event) ↔
      ∀ v, decode data = some v → SnapshotFits v ∧ PromptFits v := by
  rw [decodeControlStreamEvent]
  generalize decode data = decoded
  rcases decoded with _ | v
  · simp
  · cases v with
    | map outerMap =>
      simp only [Option.some.injEq, forall_eq']
      cases htype : textOf (lookup outerMap "type") with
      | none => simp [snapshotFits_map, promptFits_map, HasType, htype]
      | some typeStr => exact decodeEvent_returns htype
    | _ => simp [SnapshotFits, PromptFits]

/-! ## A message that does not stop the app is read as `AppDecoder` says -/

theorem decodeSessions_agrees {swift : SwiftCbor} {data : List UInt8} {list : List SessionInfo}
    (h : decodeSessions swift.decode data = .ok list) :
    list = TmuxRemote.decodeSessions swift data := by
  rw [decodeSessions] at h
  rw [TmuxRemote.decodeSessions]
  generalize swift.decode data = decoded at h ⊢
  rcases decoded with _ | v
  · exact (Except.ok.inj h).symm
  · cases v with
    | array items => exact ((decodeSessionArray_eq_ok items list).mp h).2
    | _ => exact (Except.ok.inj h).symm

theorem decodeControlStreamEvent_agrees {swift : SwiftCbor} {data : List UInt8}
    {event : Option ControlStreamEvent}
    (h : decodeControlStreamEvent swift.decode data = .ok event) :
    event = TmuxRemote.decodeControlStreamEvent swift data := by
  rw [decodeControlStreamEvent] at h
  rw [TmuxRemote.decodeControlStreamEvent]
  generalize swift.decode data = decoded at h ⊢
  rcases decoded with _ | v
  · exact (Except.ok.inj h).symm
  · cases v with
    | map outerMap =>
      dsimp only at h ⊢
      cases htype : textOf (lookup outerMap "type") with
      | none =>
        rw [htype] at h
        exact (Except.ok.inj h).symm
      | some typeStr =>
        rw [htype] at h
        dsimp only [Option.bind_eq_bind, Option.bind_some] at h ⊢
        rw [decodeEvent] at h
        split_ifs at h ⊢ with hsessions hpresent hupdate hgone
        · generalize lookup outerMap "sessions" = field at h ⊢
          rcases field with _ | value
          · exact (Except.ok.inj h).symm
          · cases value with
            | array items => exact eq_of_map_eq_ok (decodeSessionArray_eq_ok items) h
            | _ => exact (Except.ok.inj h).symm
        · exact eq_of_map_eq_ok (decodePatternInstance_eq_ok outerMap) h
        · exact eq_of_map_eq_ok (decodePatternInstance_eq_ok outerMap) h
        · exact (Except.ok.inj h).symm
        · exact (Except.ok.inj h).symm
    | _ => exact (Except.ok.inj h).symm

/-! ## The decoder as a whole -/

/-- Whatever `CBOR.decode` returns, no decoder traps on a message exactly when every number it
converts is one an `Int` has. -/
theorem decoders_return_iff (decode : List UInt8 → Option Cbor) (data : List UInt8) :
    ((∃ event, decodeControlStreamEvent decode data = .ok event) ∧
      (∃ list, decodeControlMessage decode data = .ok list) ∧
      ∃ list, decodeSessions decode data = .ok list) ↔
    ∀ v, decode data = some v → SnapshotFits v ∧ PromptFits v ∧ ListFits v := by
  rw [decodeControlStreamEvent_returns, decodeControlMessage_returns, decodeSessions_returns]
  constructor
  · rintro ⟨hevent, -, hlist⟩ v hv
    exact ⟨(hevent v hv).1, (hevent v hv).2, hlist v hv⟩
  · intro h
    exact ⟨fun v hv => ⟨(h v hv).1, (h v hv).2.1⟩, fun v hv => (h v hv).1,
      fun v hv => (h v hv).2.2⟩

/-- A listing with a window `Int.max + 1` columns wide. -/
def wideSession : Cbor :=
  .map
    [entry "type" (.text (utf8 "sessions")),
      entry "sessions" (.array
        [.map [entry "name" (.text (utf8 "work")), entry "cols" (.unsigned 9223372036854775808)]])]

theorem decode_wideSession : referenceSwiftCbor.decode wideSession.encode = some wideSession := by
  have htexts : wideSession.textsOk validUtf8 = true := by
    simp [wideSession, entry, Cbor.textsOk, Cbor.textsOkEntries, Cbor.textsOkItems, validUtf8_utf8]
  rw [referenceSwiftCbor.decode_encode wideSession ?_ ?_, if_pos htexts]
  · exact Cbor.sized_of_length_lt wideSession (by decide +kernel)
  · simp [wideSession, entry, DistinctKeys, DistinctKeysEntries, DistinctKeysItems]

/-- Such a message stops the app, in either decoder of control messages. -/
theorem wideSession_traps :
    ¬ ((∃ event, decodeControlStreamEvent referenceSwiftCbor.decode wideSession.encode =
        .ok event) ∧
      (∃ list, decodeControlMessage referenceSwiftCbor.decode wideSession.encode = .ok list) ∧
      ∃ list, decodeSessions referenceSwiftCbor.decode wideSession.encode = .ok list) := by
  rintro ⟨-, h, -⟩
  have hfits := (decodeControlMessage_returns _ _).mp h wideSession decode_wideSession
  have hcols := hfits _ _ rfl (by simp [HasType, lookup_entry, textOf])
    (by rw [lookup_entry, lookup_entry]; rfl) _ (List.mem_singleton.mpr rfl) _ rfl
    (by simp [lookup_entry, textOf])
  exact absurd (hcols.1 9223372036854775808 (by rw [lookup_entry, lookup_entry]; rfl)) (by decide)

end TmuxRemote.Swift
