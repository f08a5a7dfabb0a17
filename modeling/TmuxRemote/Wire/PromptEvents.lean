import TmuxRemote.Library.CborEncoder
import TmuxRemote.Wire.AppDecoder
import TmuxRemote.Wire.ControlFrames

/-!
# Wire/PromptEvents — prompt events from the agent to the app (`tmuxremote_prompt_protocol.c`)

The agent writes an instance item by item and looks only at the closes of its containers.  What it
sends is the encoding of one map, or nothing when that does not fit the buffer
(`encodeInstanceMessage_eq`), and the app reads the instance back from it
(`prompt_events_round_trip`).
-/

namespace TmuxRemote

open Cbor hiding map

/-! ## The encoder -/

/-- `PROMPT_CBOR_MAX` -/
def promptCborMax : ℕ := 8192

/-- `prompt_type_to_string` -/
def promptTypeToString : PromptType → String
  | .numberedMenu => "numbered_menu"
  | .acceptReject => "accept_reject"
  | .yesNo => "yes_no"

section
variable (api : EncoderApi)

/-- One turn of the loop of `encode_actions`. -/
def encodeAction (actions : api.Encoder) (action : PromptAction) : Option api.Encoder :=
  let actionMap := api.createMap actions 2
  let actionMap := api.encodeText actionMap (utf8 "label")
  let actionMap := api.encodeText actionMap action.label.bytes
  let actionMap := api.encodeText actionMap (utf8 "keys")
  let actionMap := api.encodeText actionMap action.keys.bytes
  let (actions, ok) := api.closeContainer actions actionMap
  if ok then some actions else none

/-- `encode_actions` -/
def encodeActions (map : api.Encoder) (inst : PromptInstance) : Option api.Encoder :=
  let map := api.encodeText map (utf8 "actions")
  let actions := api.createArray map inst.actions.length
  match inst.actions.foldlM (encodeAction api) actions with
  | none => none
  | some actions =>
    let (map, ok) := api.closeContainer map actions
    if ok then some map else none

/-- The map that `encode_instance_message` writes, with all but its actions. -/
def openMessage (type : String) (inst : PromptInstance) : api.Encoder :=
  let root := api.init promptCborMax
  let map := api.createMap root 7
  let map := api.encodeText map (utf8 "type")
  let map := api.encodeText map (utf8 type)
  let map := api.encodeText map (utf8 "instance_id")
  let map := api.encodeText map inst.instanceId.text.bytes
  let map := api.encodeText map (utf8 "pattern_id")
  let map := api.encodeText map inst.patternId.bytes
  let map := api.encodeText map (utf8 "pattern_type")
  let map := api.encodeText map (utf8 (promptTypeToString inst.patternType))
  let map := api.encodeText map (utf8 "prompt")
  let map := api.encodeText map inst.prompt.bytes
  let map := api.encodeText map (utf8 "revision")
  api.encodeUint map inst.revision.toUInt64

/-- `encode_instance_message` -/
def encodeInstanceMessage (type : String) (inst : PromptInstance) : Option (List UInt8) :=
  match encodeActions api (openMessage api type inst) inst with
  | none => none
  | some map =>
    let (root, ok) := api.closeContainer (api.init promptCborMax) map
    if ok then some (wrapFramedPayload (api.buffer root)) else none

/-- `tmuxremote_prompt_protocol_encode_present` -/
def encodePresent (inst : PromptInstance) : Option (List UInt8) :=
  encodeInstanceMessage api "pattern_present" inst

/-- `tmuxremote_prompt_protocol_encode_update` -/
def encodeUpdate (inst : PromptInstance) : Option (List UInt8) :=
  encodeInstanceMessage api "pattern_update" inst

/-- `tmuxremote_prompt_protocol_encode_gone`, whose buffer has 128 bytes. -/
def encodeGone (instanceId : InstanceId) : Option (List UInt8) :=
  let root := api.init 128
  let map := api.createMap root 2
  let map := api.encodeText map (utf8 "type")
  let map := api.encodeText map (utf8 "pattern_gone")
  let map := api.encodeText map (utf8 "instance_id")
  let map := api.encodeText map instanceId.text.bytes
  let (root, ok) := api.closeContainer root map
  if ok then some (wrapFramedPayload (api.buffer root)) else none

end

/-! ## The items that are sent -/

def actionItem (action : PromptAction) : Cbor :=
  .map [entry "label" (.text action.label.bytes), entry "keys" (.text action.keys.bytes)]

def instanceItem (type : String) (inst : PromptInstance) : Cbor :=
  .map
    [entry "type" (.text (utf8 type)),
      entry "instance_id" (.text inst.instanceId.text.bytes),
      entry "pattern_id" (.text inst.patternId.bytes),
      entry "pattern_type" (.text (utf8 (promptTypeToString inst.patternType))),
      entry "prompt" (.text inst.prompt.bytes),
      entry "revision" (.unsigned inst.revision.toUInt64),
      entry "actions" (.array (inst.actions.map actionItem))]

def goneItem (instanceId : InstanceId) : Cbor :=
  .map [entry "type" (.text (utf8 "pattern_gone")),
    entry "instance_id" (.text instanceId.text.bytes)]

section
variable {api : EncoderApi}

/-- One action is written, or an error is reported because it does not fit. -/
theorem encodeAction_spec (e : api.Encoder) (action : PromptAction) :
    (∃ e', encodeAction api e action = some e'
        ∧ api.state e' = (api.state e).emit (actionItem action).encode)
      ∨ (encodeAction api e action = none
        ∧ ¬ ((api.state e).emit (actionItem action).encode).Fits) := by
  obtain ⟨hstate, hok⟩ := @EncoderApi.closeContainer_spec api e
    (api.encodeText (api.encodeText (api.encodeText (api.encodeText (api.createMap e 2)
      (utf8 "label")) action.label.bytes) (utf8 "keys")) action.keys.bytes)
    (actionItem action).encode
    (by simp [EncoderState.ext_iff, actionItem, entry, encode, encodeEntries])
  simp only [encodeAction, hok]
  by_cases hfits : ((api.state e).emit (actionItem action).encode).Fits
  · exact Or.inl ⟨_, by simp [hfits], hstate⟩
  · exact Or.inr ⟨by simp [hfits], hfits⟩

/-- **The loop over the actions** writes them all, or stops at one that does not fit. -/
theorem encodeActions_loop : ∀ (actions : List PromptAction) (e : api.Encoder),
    (∃ e', actions.foldlM (encodeAction api) e = some e'
        ∧ api.state e' = (api.state e).emitItems (actions.map actionItem))
      ∨ (actions.foldlM (encodeAction api) e = none
        ∧ ¬ ((api.state e).emitItems (actions.map actionItem)).Fits)
  | [], e => Or.inl ⟨e, rfl, rfl⟩
  | action :: actions, e => by
      rw [List.foldlM_cons, List.map_cons, EncoderState.emitItems_cons]
      obtain ⟨e₁, hsome, hstate⟩ | ⟨hnone, hover⟩ := encodeAction_spec e action
      · rw [hsome, ← hstate]
        exact encodeActions_loop actions e₁
      · rw [hnone]
        exact Or.inr ⟨rfl, fun h => hover (EncoderState.fits_of_emitItems h)⟩

/-- The actions are written as one more pair of the map, or they do not fit. -/
theorem encodeActions_spec (map : api.Encoder) (inst : PromptInstance) :
    let written := ((api.state map).emit (text (utf8 "actions")).encode).emit
      (array (inst.actions.map actionItem)).encode
    (∃ map', encodeActions api map inst = some map' ∧ api.state map' = written)
      ∨ (encodeActions api map inst = none ∧ ¬ written.Fits) := by
  intro written
  set keyed := api.encodeText map (utf8 "actions") with hkeyed
  have hwritten : written
      = (api.state keyed).emit (array (inst.actions.map actionItem)).encode := by
    rw [hkeyed, api.state_encodeText]
  simp only [encodeActions, ← hkeyed, hwritten]
  obtain ⟨actions, hsome, hstate⟩ | ⟨hnone, hover⟩ :=
    encodeActions_loop inst.actions (api.createArray keyed inst.actions.length)
  · rw [← List.length_map actionItem] at hstate
    obtain ⟨hstate', hok⟩ := EncoderApi.closeContainer_spec (EncoderApi.state_array hstate)
    simp only [hsome, hok]
    by_cases hfits : ((api.state keyed).emit (array (inst.actions.map actionItem)).encode).Fits
    · exact Or.inl ⟨_, by simp [hfits], hstate'⟩
    · exact Or.inr ⟨by simp [hfits], hfits⟩
  · rw [EncoderState.emitItems_eq, api.state_createArray] at hover
    refine Or.inr ⟨by simp only [hnone], fun hfits => hover ?_⟩
    rw [EncoderState.Fits] at hfits ⊢
    simpa [encode] using hfits

/-- With the actions the map is complete. -/
theorem state_openMessage (type : String) (inst : PromptInstance) :
    ((api.state (openMessage api type inst)).emit (text (utf8 "actions")).encode).emit
        (array (inst.actions.map actionItem)).encode
      = { (api.state (api.init promptCborMax)) with
          emitted := (api.state (api.init promptCborMax)).emitted ++ (instanceItem type inst).encode
          remaining := 1 } := by
  simp [EncoderState.ext_iff, openMessage, instanceItem, entry, encode, encodeEntries,
    EncoderState.init]

/-- **What is sent**: the frame of the encoded instance, unless it does not fit. -/
theorem encodeInstanceMessage_eq (type : String) (inst : PromptInstance) :
    encodeInstanceMessage api type inst
      = if (instanceItem type inst).encode.length ≤ promptCborMax then
          some (wrapFramedPayload (instanceItem type inst).encode)
        else none := by
  have hactions := encodeActions_spec (openMessage api type inst) inst
  rw [state_openMessage] at hactions
  rw [encodeInstanceMessage]
  obtain ⟨map, hsome, hstate⟩ | ⟨hnone, hover⟩ := hactions
  · obtain ⟨hroot, hok⟩ := EncoderApi.closeContainer_spec hstate
    rw [hsome]
    dsimp only
    rw [hok]
    by_cases hfits : (instanceItem type inst).encode.length ≤ promptCborMax
    · rw [if_pos hfits, if_pos (decide_eq_true ((EncoderApi.fits_init_emit _ _).mpr hfits)),
        EncoderApi.buffer_of_fits hroot hfits]
    · rw [if_neg hfits, decide_eq_false (fun h => hfits ((EncoderApi.fits_init_emit _ _).mp h))]
      rfl
  · rw [hnone, if_neg fun hfits => hover ((@EncoderApi.fits_init_emit api _ _).mpr hfits)]

/-- **What is sent when a prompt is gone**. -/
theorem encodeGone_eq (instanceId : InstanceId) :
    encodeGone api instanceId
      = if (goneItem instanceId).encode.length ≤ 128 then
          some (wrapFramedPayload (goneItem instanceId).encode)
        else none := by
  obtain ⟨hroot, hok⟩ := @EncoderApi.closeContainer_spec api (api.init 128)
    (api.encodeText (api.encodeText (api.encodeText (api.encodeText (api.createMap (api.init 128) 2)
      (utf8 "type")) (utf8 "pattern_gone")) (utf8 "instance_id")) instanceId.text.bytes)
    (goneItem instanceId).encode
    (by simp [EncoderState.ext_iff, goneItem, entry, encode, encodeEntries, EncoderState.init])
  simp only [encodeGone, hok]
  by_cases hfits : (goneItem instanceId).encode.length ≤ 128
  · rw [if_pos hfits, if_pos (decide_eq_true ((EncoderApi.fits_init_emit _ _).mpr hfits)),
      EncoderApi.buffer_of_fits hroot hfits]
  · rw [if_neg hfits, decide_eq_false (fun h => hfits ((EncoderApi.fits_init_emit _ _).mp h))]
    rfl

end

/-! ## Reading back -/

namespace PromptInstance

/-- Every string is well-formed UTF-8. -/
structure ValidTexts (inst : PromptInstance) : Prop where
  instanceId : validUtf8 inst.instanceId.text.bytes = true
  patternId : validUtf8 inst.patternId.bytes = true
  prompt : validUtf8 inst.prompt.bytes = true
  actions : ∀ action ∈ inst.actions,
    validUtf8 action.label.bytes = true ∧ validUtf8 action.keys.bytes = true

/-- The instance as the app holds it. -/
def toMatch (inst : PromptInstance) : PatternMatch where
  id := inst.instanceId.text.bytes
  patternId := inst.patternId.bytes
  patternType := inst.patternType
  prompt := some inst.prompt.bytes
  actions := inst.actions.map fun action =>
    { label := action.label.bytes, keys := action.keys.bytes }
  revision := inst.revision.toNat

end PromptInstance

theorem textsOk_actionItems {actions : List PromptAction} (h : ∀ action ∈ actions,
    validUtf8 action.label.bytes = true ∧ validUtf8 action.keys.bytes = true) :
    textsOkItems validUtf8 (actions.map actionItem) = true := by
  induction actions with
  | nil => rfl
  | cons action actions ih =>
    obtain ⟨hhead, htail⟩ := List.forall_mem_cons.mp h
    rw [List.map_cons, textsOkItems, ih htail]
    simp [actionItem, entry, textsOk, textsOkEntries, validUtf8_utf8, hhead]

theorem textsOk_instanceItem {type : String} {inst : PromptInstance} (h : inst.ValidTexts) :
    (instanceItem type inst).textsOk validUtf8 = true := by
  simp [instanceItem, entry, textsOk, textsOkEntries, validUtf8_utf8, h.instanceId, h.patternId,
    h.prompt, textsOk_actionItems h.actions]

theorem distinctKeys_actionItems (actions : List PromptAction) :
    DistinctKeysItems (actions.map actionItem) := by
  induction actions with
  | nil => trivial
  | cons action actions ih =>
    exact ⟨by simp [actionItem, entry, DistinctKeys, DistinctKeysEntries], ih⟩

theorem distinctKeys_instanceItem (type : String) (inst : PromptInstance) :
    DistinctKeys (instanceItem type inst) := by
  simp [instanceItem, entry, DistinctKeys, DistinctKeysEntries, distinctKeys_actionItems]

theorem decodePatternType_promptTypeToString (type : PromptType) :
    decodePatternType (some (.text (utf8 (promptTypeToString type)))) = some type := by
  cases type <;> simp [decodePatternType, textOf, promptTypeToString]

theorem decodeAction_actionItem (action : PromptAction) :
    decodeAction (actionItem action)
      = some { label := action.label.bytes, keys := action.keys.bytes } := by
  simp [decodeAction, actionItem, lookup_entry, textOf]

/-- The app reads an instance back from the entries of its map. -/
theorem decodePatternInstance_entries {type : String} {inst : PromptInstance}
    {entries : List (Cbor × Cbor)} (hentries : instanceItem type inst = .map entries)
    (hactions : inst.actions ≠ []) : decodePatternInstance entries = some inst.toMatch := by
  obtain rfl := Cbor.map.inj hentries
  have hlist : (inst.actions.map actionItem).filterMap decodeAction = inst.toMatch.actions := by
    rw [List.filterMap_map, PromptInstance.toMatch, ← List.filterMap_eq_map]
    exact List.filterMap_congr fun action _ => decodeAction_actionItem action
  have hsome : inst.toMatch.actions.isEmpty = false := by
    simpa [PromptInstance.toMatch] using hactions
  simp [decodePatternInstance, lookup_entry, textOf, intOf, itemsOf, hlist, hsome,
    decodePatternType_promptTypeToString]
  rfl

/-- The frame's length is that of its payload, and the app reads the event from the payload. -/
def Carries (swift : SwiftCbor) (frame : List UInt8) (event : ControlStreamEvent) : Prop :=
  ∃ payload, frame = Framing.lengthBytes payload.length ++ payload
    ∧ Framing.lengthValue (frame.take 4) = payload.length
    ∧ decodeControlStreamEvent swift payload = some event

/-- A short item with well-formed texts carries what the app reads from it. -/
theorem carries_of_decode {swift : SwiftCbor} {item : Cbor} {event : ControlStreamEvent}
    (hlength : item.encode.length < 2 ^ 32)
    (hdecode : decodeControlStreamEvent swift item.encode = some event) :
    Carries swift (wrapFramedPayload item.encode) event := by
  refine ⟨item.encode, rfl, ?_, hdecode⟩
  rw [wrapFramedPayload, List.take_left' (Framing.length_lengthBytes _),
    Framing.lengthValue_lengthBytes hlength]

/-- The app's library reads an item back. -/
theorem swift_decode {swift : SwiftCbor} {item : Cbor} (hlength : item.encode.length < 2 ^ 32)
    (hdistinct : DistinctKeys item) (htexts : item.textsOk validUtf8 = true) :
    swift.decode item.encode = some item := by
  have hsized := sized_of_length_lt item (hlength.trans (by decide))
  rw [swift.decode_encode item hsized hdistinct, if_pos htexts]

/-- An instance as the payload of either of its events. -/
theorem decodeControlStreamEvent_instance {swift : SwiftCbor} {type : String}
    {inst : PromptInstance}
    (hlength : (instanceItem type inst).encode.length ≤ promptCborMax)
    (hactions : inst.actions ≠ [])
    (htexts : inst.ValidTexts) :
    decodeControlStreamEvent swift (instanceItem type inst).encode
      = if type = "sessions" then none
        else if type = "pattern_present" then some (.patternPresent inst.toMatch)
        else if type = "pattern_update" then some (.patternUpdate inst.toMatch)
        else if type = "pattern_gone" then some (.patternGone inst.instanceId.text.bytes)
        else none := by
  have hdecode := @swift_decode swift _ (hlength.trans_lt (by decide))
    (distinctKeys_instanceItem type inst) (textsOk_instanceItem htexts)
  obtain ⟨entries, hentries⟩ : ∃ entries, instanceItem type inst = .map entries := ⟨_, rfl⟩
  have hpattern := decodePatternInstance_entries hentries hactions
  rw [decodeControlStreamEvent, hdecode, hentries]
  obtain rfl := Cbor.map.inj hentries
  simp [hpattern, lookup_entry, textOf]

/-- **Prompt events reach the app.**  Whatever frame the agent makes of an instance, with one action
at least and well-formed texts, the app reads the instance from it; and it makes none of one that
does not fit its buffer. -/
theorem prompt_events_round_trip (api : EncoderApi) (swift : SwiftCbor) (inst : PromptInstance)
    (hactions : inst.actions ≠ []) (htexts : inst.ValidTexts) :
    (∀ frame, encodePresent api inst = some frame →
      Carries swift frame (.patternPresent inst.toMatch))
      ∧ (∀ frame, encodeUpdate api inst = some frame →
        Carries swift frame (.patternUpdate inst.toMatch))
      ∧ (∀ frame, encodeGone api inst.instanceId = some frame →
        Carries swift frame (.patternGone inst.instanceId.text.bytes))
      ∧ (promptCborMax < (instanceItem "pattern_present" inst).encode.length →
        encodePresent api inst = none)
      ∧ (promptCborMax < (instanceItem "pattern_update" inst).encode.length →
        encodeUpdate api inst = none) := by
  refine ⟨fun frame hframe => ?_, fun frame hframe => ?_, fun frame hframe => ?_, fun hover => ?_,
    fun hover => ?_⟩
  · rw [encodePresent, encodeInstanceMessage_eq] at hframe
    split_ifs at hframe with hfits
    obtain rfl := Option.some.inj hframe
    refine carries_of_decode (hfits.trans_lt (by decide)) ?_
    rw [decodeControlStreamEvent_instance hfits hactions htexts]
    rfl
  · rw [encodeUpdate, encodeInstanceMessage_eq] at hframe
    split_ifs at hframe with hfits
    obtain rfl := Option.some.inj hframe
    refine carries_of_decode (hfits.trans_lt (by decide)) ?_
    rw [decodeControlStreamEvent_instance hfits hactions htexts]
    rfl
  · rw [encodeGone_eq] at hframe
    split_ifs at hframe with hfits
    obtain rfl := Option.some.inj hframe
    have hlength : (goneItem inst.instanceId).encode.length < 2 ^ 32 := hfits.trans_lt (by decide)
    refine carries_of_decode hlength ?_
    rw [decodeControlStreamEvent, swift_decode hlength
      (by simp [goneItem, entry, DistinctKeys, DistinctKeysEntries])
      (by simp [goneItem, entry, textsOk, textsOkEntries, validUtf8_utf8, htexts.instanceId])]
    simp [goneItem, lookup_entry, textOf]
  · rw [encodePresent, encodeInstanceMessage_eq, if_neg (Nat.not_le.mpr hover)]
  · rw [encodeUpdate, encodeInstanceMessage_eq, if_neg (Nat.not_le.mpr hover)]

/-- A question with two answers. -/
def continuePrompt : PromptInstance where
  instanceId := .ofCString (.ofString "p1")
  patternId := .ofString "continue"
  patternType := .yesNo
  prompt := .ofString "Fortsæt?"
  actions := [{ label := .ofString "Yes", keys := .ofString "y" },
    { label := .ofString "No", keys := .ofString "n" }]
  revision := 1
  anchorRow := 0
  actionCount_le := by decide

theorem prompt_events_round_trip_continue :
    ∃ present update gone, encodePresent referenceEncoder continuePrompt = some present
      ∧ Carries referenceSwiftCbor present (.patternPresent continuePrompt.toMatch)
      ∧ encodeUpdate referenceEncoder continuePrompt = some update
      ∧ Carries referenceSwiftCbor update (.patternUpdate continuePrompt.toMatch)
      ∧ encodeGone referenceEncoder continuePrompt.instanceId = some gone
      ∧ Carries referenceSwiftCbor gone (.patternGone continuePrompt.instanceId.text.bytes) := by
  have htexts : continuePrompt.ValidTexts :=
    ⟨by decide +kernel, by decide +kernel, by decide +kernel, by decide +kernel⟩
  obtain ⟨hpresent, hupdate, hgone, -, -⟩ := prompt_events_round_trip referenceEncoder
    referenceSwiftCbor continuePrompt (by simp [continuePrompt]) htexts
  obtain ⟨present, hpresented⟩ := Option.isSome_iff_exists.mp
    (show (encodePresent referenceEncoder continuePrompt).isSome = true by decide +kernel)
  obtain ⟨update, hupdated⟩ := Option.isSome_iff_exists.mp
    (show (encodeUpdate referenceEncoder continuePrompt).isSome = true by decide +kernel)
  obtain ⟨gone, hwent⟩ := Option.isSome_iff_exists.mp
    (show (encodeGone referenceEncoder continuePrompt.instanceId).isSome = true by
      decide +kernel)
  exact ⟨present, update, gone, hpresented, hpresent _ hpresented, hupdated, hupdate _ hupdated,
    hwent, hgone _ hwent⟩

end TmuxRemote
