import Mathlib.Data.Finset.Option
import TmuxRemote.Cli.Renaming
import TmuxRemote.Library.Entries
import TmuxRemote.Library.Positions

/-!
# Cli/OtherBookmarks — what `pair` and `rename` leave of the rest of `devices.json`

Both commands read the list, change or add one entry, and write the list back.  What they read is
less than what is stored when the file is not read or not parsed, when it has more items than the
array has entries, or when an item is no object or does not fit the buffers (`others_kept_iff`).
-/

namespace TmuxRemote

open Positions (without)

/-! ## What is stored -/

/-- The items of the array `devices`. -/
def DevicesFile.items : DevicesFile → List JsonDevice
  | .devices items => items
  | .absent | .unparseable | .noDevices => []

/-- `devices.json`, and what `read_file` makes of it: nothing when it does not open, and the start
of it when reading stops early. -/
structure StoredDevices where
  /-- Absent when there is no file, or it is empty. -/
  file : DevicesFile
  seen : DevicesFile
  seen_absent : file = .absent → seen = .absent

/-- The file is read and parsed, and no item of it is left out. -/
def StoredDevices.ReadWhole (stored : StoredDevices) : Prop :=
  stored.seen = stored.file ∧ stored.file ≠ .unparseable
    ∧ (configLoadDevices stored.file).2.devices.length = stored.file.items.length

/-- A string that fits a buffer. -/
def HasText (size : ℕ) (value : Option CString) : Prop :=
  ∃ text, value = some text ∧ text.bytes.length ≤ size - 1

/-- An object with the five strings of a bookmark. -/
def JsonDevice.IsWhole : JsonDevice → Prop
  | notObject => False
  | object name productId deviceId fingerprint sct =>
    HasText tmuxremoteMaxNameLen name ∧ HasText tmuxremoteMaxNameLen productId
      ∧ HasText tmuxremoteMaxNameLen deviceId ∧ HasText 128 fingerprint
      ∧ HasText tmuxremoteMaxNameLen sct

/-- What is whole is what is written. -/
theorem JsonDevice.isWhole_iff {item : JsonDevice} :
    item.IsWhole ↔ ∃ device : DeviceBookmark, device.json = item := by
  constructor
  · intro h
    cases item with
    | notObject => exact h.elim
    | object name productId deviceId fingerprint sct =>
      obtain ⟨⟨name, rfl, hname⟩, ⟨productId, rfl, hproductId⟩, ⟨deviceId, rfl, hdeviceId⟩,
        ⟨fingerprint, rfl, hfingerprint⟩, sct, rfl, hsct⟩ := h
      exact ⟨⟨⟨name, hname⟩, ⟨productId, hproductId⟩, ⟨deviceId, hdeviceId⟩,
        ⟨fingerprint, hfingerprint⟩, ⟨sct, hsct⟩⟩, rfl⟩
  · rintro ⟨device, rfl⟩
    exact ⟨⟨_, rfl, device.name.fits⟩, ⟨_, rfl, device.productId.fits⟩,
      ⟨_, rfl, device.deviceId.fits⟩, ⟨_, rfl, device.fingerprint.fits⟩, ⟨_, rfl, device.sct.fits⟩⟩

theorem JsonDevice.isSome_bookmark_iff {item : JsonDevice} :
    item.bookmark.isSome = true ↔ item ≠ .notObject := by
  cases item with
  | notObject => exact iff_of_false Bool.false_ne_true fun h => h rfl
  | object => exact iff_of_true rfl JsonDevice.noConfusion

theorem devices_configLoadDevices (file : DevicesFile) :
    (configLoadDevices file).2.devices
      = (file.items.take tmuxremoteMaxDevices).filterMap JsonDevice.bookmark := by
  cases file <;> rfl

/-- No item is left out when there is an entry for each, and each is an object. -/
theorem length_configLoadDevices_iff (file : DevicesFile) :
    (configLoadDevices file).2.devices.length = file.items.length
      ↔ file.items.length ≤ tmuxremoteMaxDevices ∧ ∀ item ∈ file.items, item ≠ .notObject := by
  rw [devices_configLoadDevices]
  have hobjects : (file.items.filterMap JsonDevice.bookmark).length = file.items.length
      ↔ ∀ item ∈ file.items, item ≠ .notObject :=
    List.filterMap_length_eq_length.trans
      (forall₂_congr fun item _ => JsonDevice.isSome_bookmark_iff)
  constructor
  · intro h
    have hroom : file.items.length ≤ tmuxremoteMaxDevices :=
      h.symm.le.trans ((List.length_filterMap_le _ _).trans (List.length_take_le _ _))
    rw [List.take_of_length_le hroom, hobjects] at h
    exact ⟨hroom, h⟩
  · rintro ⟨hroom, h⟩
    rw [List.take_of_length_le hroom, hobjects]
    exact h

/-- The list is the items when none is left out. -/
theorem map_bookmark_items {file : DevicesFile}
    (h : (configLoadDevices file).2.devices.length = file.items.length) :
    file.items.map JsonDevice.bookmark = (configLoadDevices file).2.devices.map some := by
  obtain ⟨hroom, hobjects⟩ := (length_configLoadDevices_iff file).mp h
  rw [devices_configLoadDevices, List.take_of_length_le hroom,
    List.map_filterMap_some_eq_filter_map_isSome, eq_comm, List.filter_eq_self]
  intro bookmark hmem
  obtain ⟨item, hitem, rfl⟩ := List.mem_map.mp hmem
  exact JsonDevice.isSome_bookmark_iff.mpr (hobjects item hitem)

/-- Items that are whole are written as they were read. -/
theorem map_json_of_isWhole {items : List JsonDevice} {devices : List DeviceBookmark}
    (hwhole : ∀ item ∈ items, item.IsWhole)
    (hread : items.map JsonDevice.bookmark = devices.map some) :
    devices.map DeviceBookmark.json = items := by
  obtain ⟨written, rfl⟩ : items ∈ Set.range (List.map DeviceBookmark.json) := by
    rw [Set.range_list_map]
    exact fun item hitem => JsonDevice.isWhole_iff.mp (hwhole item hitem)
  rw [List.map_map] at hread
  have hsome : JsonDevice.bookmark ∘ DeviceBookmark.json = some :=
    funext fun device => device.bookmark_json
  rw [hsome] at hread
  rw [List.map_injective_iff.mpr (Option.some_injective _) hread]

/-! ## The commands -/

/-- A command that saves the list, with what it meets and its arguments. -/
inductive SavingCommand
  | pair (env : PairEnvironment) (args : List CString)
  | rename (env : RenameEnvironment) (args : List CString)

namespace SavingCommand

/-- The file that it writes when it is successful. -/
def written (seen : DevicesFile) : SavingCommand → Option DevicesFile
  | pair env args =>
    let (outcome, file) := cmdPair env seen args
    if outcome = .paired true then some file else none
  | rename env args =>
    let (outcome, file) := cmdRename env seen args
    if outcome = .renamed then some file else none

/-- The place of the bookmark that it replaces or renames, if it does not add one. -/
def changed (config : ClientConfig) : SavingCommand → Finset ℕ
  | pair _ (pairingStr :: _) =>
    let deviceId := (tmuxremoteParsePairingString pairingStr).2.deviceId
    if (config.findDevice deviceId).isSome then
      (config.devices.findIdx? (ClientConfig.isOf deviceId)).toFinset
    else ∅
  | rename _ (currentName :: _) => (config.findDevice currentName).toFinset
  | pair _ [] | rename _ [] => ∅

end SavingCommand

section
variable {file file' : DevicesFile} {config config' : ClientConfig} {device : DeviceBookmark}

/-- **What a successful pairing does**: its bookmark is added to the list, or replaces one. -/
theorem cmdPair_paired {env : PairEnvironment} {args : List CString}
    (h : cmdPair env file args = (.paired true, file')) :
    ∃ pairingStr rest info device config', args = pairingStr :: rest ∧
      tmuxremoteParsePairingString pairingStr = (true, info) ∧
      (if ((configLoadDevices file).2.findDevice info.deviceId).isSome then
        (configLoadDevices file).2.replaceDevice info.deviceId device
        else (configLoadDevices file).2.addDevice device) = some config' ∧
      file' = configSaveDevices config' := by
  obtain _ | ⟨pairingStr, rest⟩ := args
  · exact absurd h (by simp [cmdPair])
  rcases hparse : tmuxremoteParsePairingString pairingStr with ⟨_ | _, info⟩
  · exact absurd h (by simp [cmdPair, hparse])
  have hused : (cmdPair env file (pairingStr :: rest)).1.isUsedUp = true := by
    rw [h]
    rfl
  rw [cmdPair_isUsedUp hparse hused, completePairing] at h
  cases hinvite : env.invite with
  | refused =>
    rw [hinvite] at h
    exact absurd h (by simp)
  | answerLost =>
    rw [hinvite] at h
    exact absurd h (by simp)
  | accepted =>
    simp only [hinvite, Prod.mk.injEq, PairOutcome.paired.injEq] at h
    obtain ⟨config', hconfig, hsaved⟩ := saveList_saved (Prod.ext h.2 h.1)
    exact ⟨pairingStr, rest, info, _, config', rfl, hparse, hconfig, hsaved⟩

/-- One entry is changed, and the others stay as they are. -/
theorem without_sublist_modify (f : DeviceBookmark → DeviceBookmark) (place : ℕ)
    (devices : List DeviceBookmark) :
    (without {place} devices).Sublist (devices.modify place f) := by
  rw [Positions.without_singleton, ← List.eraseIdx_modify_of_eq f]
  exact List.eraseIdx_sublist ..

theorem without_sublist_replaceDevice {deviceId : CString}
    (h : config.replaceDevice deviceId device = some config') :
    (without (config.devices.findIdx? (ClientConfig.isOf deviceId)).toFinset config.devices).Sublist
      config'.devices := by
  obtain ⟨before, x, after, heq, hbefore, hx, heq'⟩ := ClientConfig.devices_of_replaceDevice h
  have hplace : config.devices.findIdx? (ClientConfig.isOf deviceId) = some before.length := by
    rw [heq, List.findIdx?_append, List.findIdx?_eq_none_iff.mpr hbefore, Option.none_or,
      List.findIdx?_cons, if_pos hx, Option.map_some, Nat.zero_add]
  have hmodify : config'.devices = config.devices.modify before.length fun _ => device := by
    rw [heq', heq, Entries.modify_length]
  rw [hplace, Option.toFinset_some, hmodify]
  exact without_sublist_modify _ _ _

theorem without_sublist_addDevice (h : config.addDevice device = some config') :
    (without ∅ config.devices).Sublist config'.devices := by
  rw [Positions.without_empty, ClientConfig.devices_of_addDevice h]
  exact List.sublist_append_left _ _

/-- **What a successful command leaves of the list**: the others, in their order. -/
theorem written_eq_some {command : SavingCommand} (h : command.written file = some file') :
    ∃ config', file' = configSaveDevices config' ∧
      (without (command.changed (configLoadDevices file).2)
        (configLoadDevices file).2.devices).Sublist config'.devices := by
  cases command with
  | pair env args =>
    obtain ⟨houtcome, hfile⟩ := Option.ite_none_right_eq_some.mp h
    obtain ⟨pairingStr, rest, info, device, config', rfl, hparse, hconfig, hsaved⟩ :=
      cmdPair_paired (Prod.ext houtcome (Option.some.inj hfile))
    refine ⟨config', hsaved, ?_⟩
    rw [SavingCommand.changed, hparse]
    dsimp only
    split_ifs at hconfig ⊢ with hfind
    · exact without_sublist_replaceDevice hconfig
    · exact without_sublist_addDevice hconfig
  | rename env args =>
    obtain ⟨houtcome, hfile⟩ := Option.ite_none_right_eq_some.mp h
    obtain ⟨currentName, newName, rest, place, rfl, hfind, hsaved⟩ :=
      cmdRename_renamed (Prod.ext houtcome (Option.some.inj hfile))
    refine ⟨_, hsaved, ?_⟩
    rw [SavingCommand.changed, hfind, Option.toFinset_some]
    exact without_sublist_modify _ _ _

end

/-! ## The other bookmarks are kept -/

/-- Nothing unread is overwritten, and the other bookmarks are written as they were, in order. -/
structure KeepsOthers (stored : StoredDevices) (changed : Finset ℕ) (file' : DevicesFile) :
    Prop where
  readWhole : stored.ReadWhole
  others : (without changed stored.file.items).Sublist file'.items

/-- The file is read, and the list has room for it: its items are objects, no more of them than the
array has entries, and those that do not change are five strings that fit. -/
structure StoredDevices.Fits (stored : StoredDevices) (changed : Finset ℕ) : Prop where
  seen : stored.seen = stored.file
  parses : stored.file ≠ .unparseable
  count : stored.file.items.length ≤ tmuxremoteMaxDevices
  objects : ∀ item ∈ stored.file.items, item ≠ .notObject
  whole : ∀ item ∈ without changed stored.file.items, item.IsWhole

/-- **The other bookmarks are kept, exactly** when the file is read and fits the list. -/
theorem others_kept_iff (stored : StoredDevices) (command : SavingCommand) (file' : DevicesFile)
    (hwritten : command.written stored.seen = some file') :
    KeepsOthers stored (command.changed (configLoadDevices stored.seen).2) file'
      ↔ stored.Fits (command.changed (configLoadDevices stored.seen).2) := by
  obtain ⟨config', rfl, hkept⟩ := written_eq_some hwritten
  constructor
  · rintro ⟨⟨hseen, hparses, hlength⟩, hothers⟩
    obtain ⟨hcount, hobjects⟩ := (length_configLoadDevices_iff stored.file).mp hlength
    refine ⟨hseen, hparses, hcount, hobjects, fun item hitem => ?_⟩
    obtain ⟨device, -, hdevice⟩ := List.mem_map.mp (hothers.subset hitem)
    exact JsonDevice.isWhole_iff.mpr ⟨device, hdevice⟩
  · rintro ⟨hseen, hparses, hcount, hobjects, hwhole⟩
    have hlength := (length_configLoadDevices_iff stored.file).mpr ⟨hcount, hobjects⟩
    refine ⟨⟨hseen, hparses, hlength⟩, ?_⟩
    rw [hseen] at hkept hwhole ⊢
    have hread := congrArg (without (command.changed (configLoadDevices stored.file).2))
      (map_bookmark_items hlength)
    rw [← Positions.map_without, ← Positions.map_without] at hread
    rw [← map_json_of_isWhole hwhole hread]
    exact hkept.map DeviceBookmark.json

/-- A file that has been read. -/
def StoredDevices.ofFile (file : DevicesFile) : StoredDevices := ⟨file, file, id⟩

/-- `tmux-remote rename home attic` -/
def renameHome : SavingCommand :=
  .rename ⟨true, .written⟩ [.ofString "home", .ofString "attic"]

theorem others_kept_iff_attic :
    KeepsOthers (.ofFile (configSaveDevices twoAgents))
      (renameHome.changed (configLoadDevices (configSaveDevices twoAgents)).2)
      (configSaveDevices (twoAgents.rename 0 (.ofString "attic"))) := by
  refine (others_kept_iff (.ofFile (configSaveDevices twoAgents)) renameHome _ rfl).mpr
    ⟨rfl, DevicesFile.noConfusion, by decide, by decide +kernel, fun item hitem => ?_⟩
  have hmem := (Positions.without_sublist _ _).subset hitem
  obtain ⟨device, -, hdevice⟩ := List.mem_map.mp hmem
  exact JsonDevice.isWhole_iff.mpr ⟨device, hdevice⟩

/-- A file that is not parsed is overwritten. -/
theorem unparseable_not_kept :
    ¬ ∀ (stored : StoredDevices) (command : SavingCommand) (file' : DevicesFile),
        command.written stored.seen = some file' →
        KeepsOthers stored (command.changed (configLoadDevices stored.seen).2) file' := by
  intro hall
  let command : SavingCommand :=
    .pair smoothPairing [.ofString "p=pr-a,d=de-b,u=bob,pwd=s3,sct=tk"]
  obtain ⟨file', hwritten⟩ :=
    Option.isSome_iff_exists.mp (by decide +kernel : (command.written .unparseable).isSome = true)
  exact (hall (.ofFile .unparseable) command file' hwritten).readWhole.2.1 rfl

end TmuxRemote
