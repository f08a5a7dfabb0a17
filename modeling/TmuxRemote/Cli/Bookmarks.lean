import TmuxRemote.Library.SlotTable
import TmuxRemote.Wire.PairingString

/-!
# Cli/Bookmarks — the saved agents of the command line client (`tmuxremote_client_config.c`)

`devices.json` is read into an array of `TMUXREMOTE_MAX_DEVICES` bookmarks and written back as a
whole.  JSON is left to cJSON: the file is the value that its text stands for.

A bookmark is looked for under its name, its device id or its place in the list, and replaced under
its device id.
-/

namespace TmuxRemote

open SlotTable (updateFirst)

/-! ## Bookmarks -/

/-- A `char[size]` buffer that holds a string and its terminator. -/
@[ext] structure CharBuffer (size : ℕ) where
  text : CString
  fits : text.bytes.length ≤ size - 1
  deriving DecidableEq

namespace CharBuffer

variable {size : ℕ}

/-- `strncpy` of at most `size - 1` bytes into a buffer whose last byte is NUL. -/
def ofCString (s : CString) : CharBuffer size where
  text := s.truncate (size - 1)
  fits := List.length_take_le (size - 1) s.bytes

/-- A string that fits is copied whole. -/
theorem text_ofCString {s : CString} (h : s.bytes.length ≤ size - 1) :
    (ofCString s : CharBuffer size).text = s := CString.truncate_eq_self h

@[simp] theorem ofCString_text (buffer : CharBuffer size) : ofCString buffer.text = buffer :=
  CharBuffer.ext (text_ofCString buffer.fits)

end CharBuffer

/-- `struct tmuxremote_device_bookmark` -/
@[ext] structure DeviceBookmark where
  name : CharBuffer tmuxremoteMaxNameLen
  productId : CharBuffer tmuxremoteMaxNameLen
  deviceId : CharBuffer tmuxremoteMaxNameLen
  fingerprint : CharBuffer 128
  sct : CharBuffer tmuxremoteMaxNameLen
  deriving DecidableEq

/-- `TMUXREMOTE_MAX_DEVICES` -/
def tmuxremoteMaxDevices : ℕ := 32

/-- `struct tmuxremote_client_config`, less the paths. -/
@[ext] structure ClientConfig where
  devices : List DeviceBookmark
  /-- `devices` is an array of `TMUXREMOTE_MAX_DEVICES` entries. -/
  deviceCount_le : devices.length ≤ tmuxremoteMaxDevices

/-! ## The file -/

/-- An item of the array `devices`: of an object, the values that are strings. -/
inductive JsonDevice
  | notObject
  | object (name productId deviceId fingerprint sct : Option CString)
  deriving DecidableEq

/-- `devices.json` -/
inductive DevicesFile
  /-- There is no file, or it is empty or cannot be read. -/
  | absent
  | unparseable
  /-- A value without an array `devices`. -/
  | noDevices
  | devices (items : List JsonDevice)
  deriving DecidableEq

/-- The bookmark of an item. -/
def JsonDevice.bookmark : JsonDevice → Option DeviceBookmark
  | notObject => none
  | object name productId deviceId fingerprint sct =>
    some
      { name := .ofCString (name.getD default)
        productId := .ofCString (productId.getD default)
        deviceId := .ofCString (deviceId.getD default)
        fingerprint := .ofCString (fingerprint.getD default)
        sct := .ofCString (sct.getD default) }

/-- The item of a bookmark. -/
def DeviceBookmark.json (device : DeviceBookmark) : JsonDevice :=
  .object (some device.name.text) (some device.productId.text) (some device.deviceId.text)
    (some device.fingerprint.text) (some device.sct.text)

@[simp] theorem DeviceBookmark.bookmark_json (device : DeviceBookmark) :
    device.json.bookmark = some device := by
  simp [JsonDevice.bookmark, DeviceBookmark.json]

/-- `tmuxremote_config_load_devices`: what it returns, which no caller looks at, and the list. -/
def configLoadDevices : DevicesFile → Bool × ClientConfig
  | .devices items =>
    (true,
      { devices := (items.take tmuxremoteMaxDevices).filterMap JsonDevice.bookmark
        deviceCount_le := (List.length_filterMap_le _ _).trans (List.length_take_le _ _) })
  | .absent | .noDevices => (true, { devices := [], deviceCount_le := Nat.zero_le _ })
  | .unparseable => (false, { devices := [], deviceCount_le := Nat.zero_le _ })

/-- `tmuxremote_config_save_devices`: the file that is written. -/
def configSaveDevices (config : ClientConfig) : DevicesFile :=
  .devices (config.devices.map DeviceBookmark.json)

/-- **What is saved is loaded.** -/
@[simp] theorem configLoadDevices_save (config : ClientConfig) :
    configLoadDevices (configSaveDevices config) = (true, config) := by
  refine congrArg (Prod.mk true) (ClientConfig.ext ?_)
  have htake : (config.devices.map DeviceBookmark.json).take tmuxremoteMaxDevices
      = config.devices.map DeviceBookmark.json :=
    List.take_of_length_le ((List.length_map _).trans_le config.deviceCount_le)
  simp only [htake, List.filterMap_map]
  exact (List.filterMap_congr fun device _ => device.bookmark_json).trans List.filterMap_some

/-! ## The list -/

/-- `strtol(s, &end, 10)` with `end != s && *end == '\0'`. -/
def strtolWhole (s : List UInt8) : Option ℤ :=
  let unspaced := s.dropWhile CLib.isSpace
  let unsigned :=
    if unspaced.head? == some 0x2D || unspaced.head? == some 0x2B then unspaced.tail else unspaced
  if unsigned.all CLib.isDigit then CLib.strtol s else none

namespace ClientConfig

variable (config : ClientConfig)

/-- The test of the first loop of `tmuxremote_config_find_device`. -/
def isCalled (name : CString) (device : DeviceBookmark) : Bool :=
  device.name.text = name || device.deviceId.text = name

/-- `tmuxremote_config_find_device`: the place in the list. -/
def findDevice (name : CString) : Option ℕ :=
  (config.devices.findIdx? (isCalled name)).or
    ((strtolWhole name.bytes).bind fun idx =>
      if 0 ≤ idx ∧ idx < config.devices.length then some idx.toNat else none)

/-- The list that `tmuxremote_config_add_device` saves; `none` when it is full. -/
def addDevice (device : DeviceBookmark) : Option ClientConfig :=
  if h : config.devices.length ≥ tmuxremoteMaxDevices then none
  else
    some
      { devices := config.devices ++ [device]
        deviceCount_le := by
          rw [List.length_append, List.length_singleton]
          exact Nat.succ_le_of_lt (Nat.lt_of_not_le h) }

/-- Whether a bookmark is that of the device. -/
def isOf (deviceId : CString) (device : DeviceBookmark) : Bool := device.deviceId.text = deviceId

/-- The list that `tmuxremote_config_replace_device` saves; `none` when the device is not in it. -/
def replaceDevice (deviceId : CString) (device : DeviceBookmark) : Option ClientConfig :=
  match h : updateFirst (isOf deviceId) (fun _ => device) config.devices with
  | none => none
  | some devices =>
    some
      { devices := devices
        deviceCount_le := by
          obtain ⟨before, x, after, heq, -, -, rfl⟩ := SlotTable.updateFirst_eq_some h
          have hlength := config.deviceCount_le
          rw [heq] at hlength
          simpa using hlength }

/-- The bookmarks of the other devices. -/
def others (deviceId : CString) : List DeviceBookmark :=
  config.devices.filter fun device => !isOf deviceId device

section
variable {config} {config' : ClientConfig} {device : DeviceBookmark} {deviceId : CString}

theorem devices_addDevice :
    (config.addDevice device).map devices
      = if config.devices.length ≥ tmuxremoteMaxDevices then none
        else some (config.devices ++ [device]) := by
  rw [addDevice]
  split_ifs <;> rfl

theorem devices_replaceDevice :
    (config.replaceDevice deviceId device).map devices
      = updateFirst (isOf deviceId) (fun _ => device) config.devices := by
  rw [replaceDevice]
  split
  · rename_i h
    exact h.symm
  · rename_i h
    exact h.symm

theorem addDevice_eq_none_iff :
    config.addDevice device = none ↔ tmuxremoteMaxDevices ≤ config.devices.length := by
  rw [← Option.map_eq_none_iff, devices_addDevice, ite_eq_left_iff,
    imp_iff_not (Option.some_ne_none _), not_not]

theorem replaceDevice_eq_none_iff :
    config.replaceDevice deviceId device = none
      ↔ ∀ d ∈ config.devices, isOf deviceId d = false := by
  rw [← Option.map_eq_none_iff, devices_replaceDevice, SlotTable.updateFirst_eq_none_iff]

/-- A bookmark is added at the end. -/
theorem devices_of_addDevice (h : config.addDevice device = some config') :
    config'.devices = config.devices ++ [device] := by
  have hdevices := congrArg (Option.map devices) h
  rw [devices_addDevice, Option.map_some, Option.ite_none_left_eq_some] at hdevices
  exact (Option.some.inj hdevices.2).symm

/-- The first bookmark of the device is replaced. -/
theorem devices_of_replaceDevice (h : config.replaceDevice deviceId device = some config') :
    ∃ before replaced after, config.devices = before ++ replaced :: after ∧
      (∀ d ∈ before, isOf deviceId d = false) ∧ isOf deviceId replaced = true ∧
      config'.devices = before ++ device :: after := by
  have hdevices := congrArg (Option.map devices) h
  rw [devices_replaceDevice, Option.map_some] at hdevices
  exact SlotTable.updateFirst_eq_some hdevices

/-- An added bookmark is there, and the others are as before. -/
theorem addDevice_eq_some (h : config.addDevice device = some config')
    (hid : isOf deviceId device = true) :
    device ∈ config'.devices ∧ config'.others deviceId = config.others deviceId := by
  rw [others, devices_of_addDevice h, List.filter_append, List.filter_cons_of_neg (by simp [hid]),
    List.filter_nil, List.append_nil]
  exact ⟨List.mem_append_right _ (List.mem_singleton_self _), rfl⟩

/-- A bookmark that replaces another of its device is there, and the others are as before. -/
theorem replaceDevice_eq_some (h : config.replaceDevice deviceId device = some config')
    (hid : isOf deviceId device = true) :
    device ∈ config'.devices ∧ config'.others deviceId = config.others deviceId := by
  obtain ⟨before, x, after, heq, -, hx, heq'⟩ := devices_of_replaceDevice h
  rw [others, others, heq, heq', List.filter_append, List.filter_append,
    List.filter_cons_of_neg (by simp [hid]), List.filter_cons_of_neg (by simp [hx])]
  exact ⟨List.mem_append_right _ List.mem_cons_self, rfl⟩

/-- A device in the list is found. -/
theorem findDevice_ne_none {d : DeviceBookmark} (hd : d ∈ config.devices)
    (hid : isOf deviceId d = true) : config.findDevice deviceId ≠ none := by
  intro hnone
  rw [findDevice, Option.or_eq_none_iff, List.findIdx?_eq_none_iff] at hnone
  have hcalled : isCalled deviceId d = true := by
    rw [isCalled, Bool.or_eq_true]
    exact Or.inr hid
  exact absurd hcalled (ne_true_of_eq_false (hnone.1 d hd))

end

end ClientConfig

end TmuxRemote
