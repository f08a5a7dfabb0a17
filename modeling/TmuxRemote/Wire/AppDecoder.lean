import TmuxRemote.Library.Cbor
import TmuxRemote.Library.CString
import TmuxRemote.Prompt.Instance

/-!
# Wire/AppDecoder — what the app reads from a message (`CBORHelpers.swift`)

SwiftCBOR is not part of the repository: `SwiftCbor` is a decoder of definite-length items that
rejects a message with an ill-formed text.  A Swift string is its UTF-8 bytes.  A decoded map is a
dictionary; its entries have distinct keys.
-/

namespace TmuxRemote

/-! ## SwiftCBOR -/

/-- The bytes of a Swift literal. -/
def utf8 (s : String) : List UInt8 := s.toUTF8.data.toList

/-- The bytes of a well-formed string. -/
def validUtf8 (content : List UInt8) : Bool := (ByteArray.mk content.toArray).validateUTF8

theorem validUtf8_utf8 (s : String) : validUtf8 (utf8 s) = true :=
  ByteArray.validateUTF8_eq_true_iff.mpr s.isValidUTF8

@[simp] theorem utf8_inj {s t : String} : utf8 s = utf8 t ↔ s = t := by
  refine ⟨fun h => ?_, fun h => h ▸ rfl⟩
  have harray := Array.toList_inj.mp h
  exact String.toByteArray_inj.mp (ByteArray.ext harray)

/-- `.utf8String(content) == key` -/
def isKey (content : List UInt8) : Cbor → Bool
  | .text key => key == content
  | _ => false

/-- `map[.utf8String(key)]` -/
def lookup (entries : List (Cbor × Cbor)) (key : String) : Option Cbor :=
  (entries.find? fun entry => isKey (utf8 key) entry.1).map Prod.snd

/-- A pair whose key is a literal. -/
def entry (key : String) (value : Cbor) : Cbor × Cbor := (.text (utf8 key), value)

@[simp] theorem lookup_nil (key : String) : lookup [] key = none := rfl

theorem lookup_entry (k key : String) (value : Cbor) (entries : List (Cbor × Cbor)) :
    lookup (entry k value :: entries) key = if k = key then some value else lookup entries key := by
  rw [lookup, List.find?_cons]
  by_cases h : k = key
  · simp [entry, isKey, h]
  · have hne : isKey (utf8 key) (entry k value).1 = false :=
      beq_eq_false_iff_ne.mpr fun he => h (utf8_inj.mp he)
    rw [hne, if_neg h]
    rfl

mutual

/-- Every map has distinct keys. -/
def DistinctKeys : Cbor → Prop
  | .array items => DistinctKeysItems items
  | .map entries => (entries.map Prod.fst).Nodup ∧ DistinctKeysEntries entries
  | .tag _ item => DistinctKeys item
  | .unsigned _ | .negative _ | .bytes _ | .text _ | .simple _ | .float16 _ | .float32 _
  | .float64 _ => True

def DistinctKeysItems : List Cbor → Prop
  | [] => True
  | item :: items => DistinctKeys item ∧ DistinctKeysItems items

def DistinctKeysEntries : List (Cbor × Cbor) → Prop
  | [] => True
  | (key, value) :: entries => DistinctKeys key ∧ DistinctKeys value ∧ DistinctKeysEntries entries

end

/-- `CBOR.decode` -/
structure SwiftCbor where
  decode : List UInt8 → Option Cbor
  decode_encode : ∀ v : Cbor, v.Sized → DistinctKeys v →
    decode v.encode = if v.textsOk validUtf8 then some v else none

/-- The decoder of the library does what the app relies on. -/
def referenceSwiftCbor : SwiftCbor where
  decode := Cbor.decode validUtf8
  decode_encode := fun _ hsized _ => Cbor.decode_encode validUtf8 hsized

/-! ## Events -/

/-- `SessionInfo` -/
structure SessionInfo where
  name : List UInt8
  cols : ℕ
  rows : ℕ
  attached : ℕ
  deriving DecidableEq

/-- `ResolvedAction`, less its identity. -/
structure ResolvedAction where
  label : List UInt8
  keys : List UInt8
  deriving DecidableEq

/-- `PatternMatch` -/
structure PatternMatch where
  id : List UInt8
  patternId : List UInt8
  patternType : PromptType
  prompt : Option (List UInt8)
  actions : List ResolvedAction
  revision : ℕ
  deriving DecidableEq

/-- `ControlStreamEvent` -/
inductive ControlStreamEvent
  | sessions (list : List SessionInfo)
  | patternPresent (pattern : PatternMatch)
  | patternUpdate (pattern : PatternMatch)
  | patternGone (instanceId : List UInt8)
  deriving DecidableEq

/-! ## Decoding -/

/-- `case .utf8String(let s) = value` -/
def textOf : Option Cbor → Option (List UInt8)
  | some (.text content) => some content
  | _ => none

/-- `Int(v)` if `case .unsignedInt(let v) = value`, else the default.  Beyond `Int.max` the app
traps; no message of the agent has such a number. -/
def intOf (default : ℕ) : Option Cbor → ℕ
  | some (.unsigned n) => n.toNat
  | _ => default

/-- `decodePatternType` -/
def decodePatternType (value : Option Cbor) : Option PromptType := do
  let typeStr ← textOf value
  if typeStr = utf8 "yes_no" then some .yesNo
  else if typeStr = utf8 "numbered_menu" then some .numberedMenu
  else if typeStr = utf8 "accept_reject" then some .acceptReject
  else none

/-- One turn of the loop over the actions; `none` continues it. -/
def decodeAction : Cbor → Option ResolvedAction
  | .map actionMap => do
    let label ← textOf (lookup actionMap "label")
    let keys ← textOf (lookup actionMap "keys")
    some { label := label, keys := keys }
  | _ => none

/-- The items of an array, of anything else none. -/
def itemsOf : Option Cbor → List Cbor
  | some (.array items) => items
  | _ => []

/-- `decodePatternInstance` -/
def decodePatternInstance (map : List (Cbor × Cbor)) : Option PatternMatch := do
  let instanceId ← textOf (lookup map "instance_id")
  let patternId ← textOf (lookup map "pattern_id")
  let patternType ← decodePatternType (lookup map "pattern_type")
  let actions := (itemsOf (lookup map "actions")).filterMap decodeAction
  if actions.isEmpty then none
  else
    some
      { id := instanceId
        patternId := patternId
        patternType := patternType
        prompt := textOf (lookup map "prompt")
        actions := actions
        revision := intOf 1 (lookup map "revision") }

/-- One turn of the loop of `decodeSessionArray`; `none` continues it. -/
def decodeSession : Cbor → Option SessionInfo
  | .map map => do
    let name ← textOf (lookup map "name")
    some
      { name := name
        cols := intOf 0 (lookup map "cols")
        rows := intOf 0 (lookup map "rows")
        attached := intOf 0 (lookup map "attached") }
  | _ => none

/-- `decodeSessionArray` -/
def decodeSessionArray (items : List Cbor) : List SessionInfo := items.filterMap decodeSession

/-- `decodeControlStreamEvent` -/
def decodeControlStreamEvent (swift : SwiftCbor) (data : List UInt8) : Option ControlStreamEvent :=
  match swift.decode data with
  | some (.map outerMap) => do
    let typeStr ← textOf (lookup outerMap "type")
    if typeStr = utf8 "sessions" then
      match lookup outerMap "sessions" with
      | some (.array items) => some (.sessions (decodeSessionArray items))
      | _ => none
    else if typeStr = utf8 "pattern_present" then
      (decodePatternInstance outerMap).map .patternPresent
    else if typeStr = utf8 "pattern_update" then
      (decodePatternInstance outerMap).map .patternUpdate
    else if typeStr = utf8 "pattern_gone" then
      (textOf (lookup outerMap "instance_id")).map .patternGone
    else none
  | _ => none

/-- `decodeSessions` -/
def decodeSessions (swift : SwiftCbor) (data : List UInt8) : List SessionInfo :=
  match swift.decode data with
  | some (.array items) => decodeSessionArray items
  | _ => []

end TmuxRemote
