import TmuxRemote.Cli.Bookmarks
import TmuxRemote.Cli.JsonRoundTrip
import TmuxRemote.Library.StringBuffer

/-!
# Cli/JsonFiles — the JSON texts of the client (`tmuxremote_client_config.c`)

`DevicesFile` is what the text of `devices.json` stands for; here is the text itself, and how it is
read.  **Every list that is saved is the list that is loaded**, byte for byte through the file, and
so over any run of commands that each read the file, change the list and write it
(`loadDevices_run`).  Bytes that are no JSON are loaded as the empty list, with `false`; no command
looks at that, and the next one that writes replaces them.

The options of a connection are handed to the SDK as a JSON text as well: whatever stands in the
four strings, the text says these strings and no more (`buildConnectionOptions_parse`).
-/

namespace TmuxRemote

open CMemory JsonText StringBuffer

/-! ## No NUL in what is printed -/

namespace JsonText

/-- A NUL would be printed as an escape. -/
theorem nulFree_printChar (c : UInt8) : NulFree (printChar c) := by
  rw [printChar]
  split_ifs with hplain
  · refine nulFree_nil.cons ?_
    rintro rfl
    exact absurd hplain.1 (by decide)
  cases hshort : shortEscape c with
  | some letter =>
    refine (nulFree_nil.cons ?_).cons (by decide)
    unfold shortEscape at hshort
    rintro rfl
    split_ifs at hshort with h0 h1 h2 h3 h4 h5
    · obtain rfl := Option.some.inj hshort
      exact absurd h0 (by decide)
    all_goals exact absurd (Option.some.inj hshort) (by decide)
  | none =>
    have hhigh := hexDigit_ne_zero (c.toNat / 16) (by have := c.toNat_lt; omega)
    have hlow := hexDigit_ne_zero (c.toNat % 16) (Nat.mod_lt _ (by norm_num))
    exact (((((nulFree_nil.cons hlow).cons hhigh).cons (by decide)).cons (by decide)).cons
      (by decide)).cons (by decide)

theorem nulFree_printStringPtr (s : CString) : NulFree (printStringPtr s) := by
  have hchars : NulFree (printChars s.bytes) := by
    intro c hc
    obtain ⟨b, -, hb⟩ := List.mem_flatMap.mp hc
    exact nulFree_printChar b c hb
  exact (hchars.append (nulFree_nil.cons (by decide))).cons (by decide)

theorem nulFree_printInt (n : Int32) : NulFree (printInt n) := by
  rintro c hc rfl
  exact absurd (isNumberChar_of_mem_printInt 0 hc) (by decide)

theorem nulFree_indent (format : Bool) (depth : ℕ) : NulFree (indent format depth) := by
  intro c hc
  rw [indent] at hc
  split_ifs at hc
  · obtain rfl := List.eq_of_mem_replicate hc
    decide
  · cases hc

theorem nulFree_separators (format : Bool) :
    NulFree (arraySeparator format) ∧ NulFree (nameSeparator format)
      ∧ NulFree (lineFeed format) := by
  refine ⟨nulFree_of_notMem ?_, nulFree_of_notMem ?_, nulFree_of_notMem ?_⟩ <;> revert format <;>
    decide

/-- The elements of an array have no NUL if each has none. -/
theorem nulFree_printItems {format : Bool} {depth : ℕ} (items : List Json)
    (h : ∀ item ∈ items, NulFree (printValue format depth item)) :
    NulFree (printItems format depth items) := by
  induction items with
  | nil => exact nulFree_nil
  | cons item items ih =>
    rw [List.forall_mem_cons] at h
    by_cases hne : items = []
    · subst hne
      rw [printItems]
      exact h.1
    · rw [printItems_cons item hne]
      exact h.1.append ((nulFree_separators format).1.append (ih h.2))

/-- The members of an object have no NUL if the values have none. -/
theorem nulFree_printMembers {format : Bool} {depth : ℕ} (members : List (CString × Json))
    (h : ∀ member ∈ members, NulFree (printValue format depth member.2)) :
    NulFree (printMembers format depth members) := by
  obtain ⟨-, hname, hfeed⟩ := nulFree_separators format
  induction members with
  | nil => exact nulFree_nil
  | cons member members ih =>
    obtain ⟨name, value⟩ := member
    rw [List.forall_mem_cons] at h
    have hindent := nulFree_indent format depth
    have hnamed := (nulFree_printStringPtr name).append hname
    by_cases hne : members = []
    · subst hne
      rw [printMembers_single]
      exact hindent.append (hnamed.append (h.1.append hfeed))
    · rw [printMembers_cons name value hne]
      exact hindent.append (hnamed.append (h.1.append ((hfeed.append (ih h.2)).cons (by decide))))

/-- **What cJSON prints is one C string.** -/
theorem nulFree_printValue (format : Bool) (depth : ℕ) (item : Json) :
    NulFree (printValue format depth item) := by
  obtain ⟨-, -, hfeed⟩ := nulFree_separators format
  induction item using json_induction generalizing depth with
  | null =>
    rw [printValue]
    exact nulFree_of_notMem (by decide)
  | bool b =>
    cases b <;> rw [printValue] <;> exact nulFree_of_notMem (by decide)
  | number n =>
    rw [printValue]
    exact nulFree_printInt n
  | string s =>
    rw [printValue]
    exact nulFree_printStringPtr s
  | array items ih =>
    have hitems := nulFree_printItems items fun item hitem => ih item hitem (depth + 1)
    rw [printValue]
    exact (hitems.append (nulFree_nil.cons (by decide))).cons (by decide)
  | object members ih =>
    have hmembers := nulFree_printMembers members fun member hmember =>
      ih member hmember (depth + 1)
    rw [printValue]
    exact (((hfeed.append hmembers).append (nulFree_indent format depth)).append
      (nulFree_nil.cons (by decide))).cons (by decide)

/-- The text that a caller of `cJSON_Print` holds. -/
theorem bytes_ofBytes_cJSONPrint (format : Bool) (item : Json) :
    (CString.ofBytes (cJSONPrint format item)).bytes = cJSONPrint format item :=
  CString.ofBytes_of_nulFree (nulFree_printValue format 0 item)

/-- A printed C string is parsed. -/
theorem cJSONParse_print {strtod : Strtod} (hused : ∀ text, (strtod text).2 ≤ text.length)
    (hstrtod : ∀ n, strtod (printInt n) = (n, (printInt n).length)) (format : Bool) (item : Json) :
    cJSONParse strtod (.ofBytes (cJSONPrint format item))
      = .ok (if height item ≤ nestingLimit then some item else none) := by
  rw [cJSONParse, bytes_ofBytes_cJSONPrint]
  exact cJSONParseWithLength_print strtod hused hstrtod format item (endsNumber_cons (by decide) [])

end JsonText

/-! ## `devices.json` -/

/-- A member of an item, if it is a string. -/
def memberString (item : Json) (name : String) : Option CString :=
  getStringValue (getObjectItem (some item) name)

/-- What `tmuxremote_config_load_devices` sees of an item. -/
def JsonDevice.ofJson : Json → JsonDevice
  | .object members =>
    .object (memberString (.object members) "name") (memberString (.object members) "productId")
      (memberString (.object members) "deviceId") (memberString (.object members) "fingerprint")
      (memberString (.object members) "sct")
  | _ => .notObject

/-- What it sees of the whole value. -/
def DevicesFile.ofJson (root : Json) : DevicesFile :=
  match getObjectItem (some root) "devices" with
  | some (.array items) => .devices (items.map JsonDevice.ofJson)
  | _ => .noDevices

/-- `read_file`: of a file that is there, and not empty, what stands in front of the first NUL. -/
def readFile : Option (List UInt8) → Option CString
  | none | some [] => none
  | some bytes => some (.ofBytes bytes)

/-- The value that the text of `devices.json` stands for. -/
def DevicesFile.ofText (strtod : Strtod) (file : Option (List UInt8)) :
    Except ParseFault DevicesFile := do
  match readFile file with
  | none => return .absent
  | some text =>
    match ← cJSONParse strtod text with
    | none => return .unparseable
    | some root => return .ofJson root

/-- `tmuxremote_config_load_devices`, from the bytes of the file. -/
def loadDevices (strtod : Strtod) (file : Option (List UInt8)) :
    Except ParseFault (Bool × ClientConfig) := do
  return configLoadDevices (← DevicesFile.ofText strtod file)

/-- There are bytes in the file that cJSON does not parse. -/
def IsRefused (strtod : Strtod) (file : Option (List UInt8)) : Prop :=
  ∃ text, readFile file = some text ∧ cJSONParse strtod text = .ok none

/-- The object of a bookmark. -/
def DeviceBookmark.toJson (device : DeviceBookmark) : Json :=
  .object
    [(.ofString "name", .string device.name.text),
      (.ofString "productId", .string device.productId.text),
      (.ofString "deviceId", .string device.deviceId.text),
      (.ofString "fingerprint", .string device.fingerprint.text),
      (.ofString "sct", .string device.sct.text)]

/-- The value that `tmuxremote_config_save_devices` builds. -/
def ClientConfig.toJson (config : ClientConfig) : Json :=
  .object [(.ofString "devices", .array (config.devices.map DeviceBookmark.toJson))]

/-- `tmuxremote_config_save_devices`: the bytes that it writes. -/
def saveDevices (config : ClientConfig) : List UInt8 :=
  (CString.ofBytes (cJSONPrint true config.toJson)).bytes

theorem JsonDevice.ofJson_toJson (device : DeviceBookmark) :
    JsonDevice.ofJson device.toJson = device.json := by
  rfl

/-- The value that is built stands for the list that is saved. -/
theorem DevicesFile.ofJson_toJson (config : ClientConfig) :
    DevicesFile.ofJson config.toJson = configSaveDevices config := by
  have hitems : DevicesFile.ofJson config.toJson
      = .devices ((config.devices.map DeviceBookmark.toJson).map JsonDevice.ofJson) := rfl
  rw [hitems, List.map_map, configSaveDevices]
  rfl

/-- The list is nested three deep. -/
theorem height_toJson (config : ClientConfig) : height config.toJson ≤ nestingLimit := by
  have hitems (devices : List DeviceBookmark) :
      itemsHeight (devices.map DeviceBookmark.toJson) ≤ 1 := by
    induction devices with
    | nil => exact Nat.zero_le _
    | cons device devices ih => exact max_le le_rfl ih
  have hheight : height config.toJson
      = max (itemsHeight (config.devices.map DeviceBookmark.toJson) + 1) 0 + 1 := rfl
  have hone := hitems config.devices
  rw [hheight, nestingLimit]
  omega

section

variable {strtod : Strtod}

/-- **Every file is read**, whatever it holds: the parser keeps to its buffer, and what it refuses
is the empty list, with `false`. -/
theorem loadDevices_returns (hused : ∀ text, (strtod text).2 ≤ text.length)
    (file : Option (List UInt8)) :
    ∃ parsed config, loadDevices strtod file = .ok (parsed, config)
      ∧ (parsed = false ↔ IsRefused strtod file) ∧ (parsed = false → config.devices = []) := by
  rw [loadDevices, DevicesFile.ofText]
  cases hread : readFile file with
  | none =>
    refine ⟨true, _, rfl, iff_of_false nofun ?_, nofun⟩
    rintro ⟨text, htext, -⟩
    exact Option.some_ne_none text (htext.symm.trans hread)
  | some text =>
    have hrefused (value : Option Json) (hvalue : cJSONParse strtod text = .ok value) :
        IsRefused strtod file ↔ value = none := by
      refine ⟨?_, fun hnone => ⟨text, hread, hnone ▸ hvalue⟩⟩
      rintro ⟨text', htext', hnone⟩
      obtain rfl := Option.some.inj (hread.symm.trans htext')
      exact Except.ok.inj (hvalue.symm.trans hnone)
    obtain ⟨value, hvalue, -⟩ := cJSONParseWithLength_returns strtod hused (text.bytes ++ [0])
    have hparse : cJSONParse strtod text = .ok value := hvalue
    dsimp only
    rw [hparse, hrefused value hparse]
    cases value with
    | none => exact ⟨false, _, rfl, iff_of_true rfl rfl, fun _ => rfl⟩
    | some root =>
      refine ⟨true, (configLoadDevices (.ofJson root)).2, ?_, iff_of_false nofun nofun, nofun⟩
      have htrue : (configLoadDevices (.ofJson root)).1 = true := by
        rw [DevicesFile.ofJson]
        split <;> rfl
      exact congrArg Except.ok (Prod.ext htrue rfl)

/-- **What is saved is loaded**, through the bytes of the file. -/
theorem loadDevices_saveDevices (hused : ∀ text, (strtod text).2 ≤ text.length)
    (hstrtod : ∀ n, strtod (printInt n) = (n, (printInt n).length)) (config : ClientConfig) :
    loadDevices strtod (some (saveDevices config)) = .ok (true, config) := by
  have hbytes : saveDevices config = cJSONPrint true config.toJson :=
    bytes_ofBytes_cJSONPrint true config.toJson
  have hfile : readFile (some (saveDevices config))
      = some (.ofBytes (cJSONPrint true config.toJson)) := by
    rw [hbytes]
    rfl
  have hparse := cJSONParse_print hused hstrtod true config.toJson
  rw [if_pos (height_toJson config)] at hparse
  rw [loadDevices, DevicesFile.ofText, hfile]
  dsimp only
  rw [hparse]
  simp only [ok_bind, return_eq]
  rw [DevicesFile.ofJson_toJson, configLoadDevices_save]

/-- A change of the list that a command makes; nothing where it does not save. -/
abbrev ListChange := ClientConfig → Option ClientConfig

/-- A command that saves: it reads the file, changes the list and writes it. -/
def saveChange (strtod : Strtod) (file : Option (List UInt8)) (change : ListChange) :
    Except ParseFault (Option (List UInt8)) := do
  match change (← loadDevices strtod file).2 with
  | none => return file
  | some config => return some (saveDevices config)

/-- **Commands through the file are changes of the list**: after any number of them the file holds
the list that the changes make of the first one.  A load fails on bytes that are no JSON and on no
others, and so on none that a command has written. -/
theorem loadDevices_run (strtod : Strtod) (hused : ∀ text, (strtod text).2 ≤ text.length)
    (hstrtod : ∀ n, strtod (printInt n) = (n, (printInt n).length)) (changes : List ListChange)
    (file : Option (List UInt8)) :
    ∃ parsed first last parsed', loadDevices strtod file = .ok (parsed, first)
      ∧ (parsed = false ↔ IsRefused strtod file) ∧ (parsed = false → first.devices = [])
      ∧ changes.foldlM (saveChange strtod) file = .ok last
      ∧ loadDevices strtod last
        = .ok (parsed', changes.foldl (fun config change => (change config).getD config) first)
      ∧ (last = file ∨ parsed' = true) := by
  induction changes generalizing file with
  | nil =>
    obtain ⟨parsed, config, hconfig, hparsed, hempty⟩ := loadDevices_returns hused file
    exact ⟨parsed, config, file, parsed, hconfig, hparsed, hempty, rfl, hconfig, Or.inl rfl⟩
  | cons change changes ih =>
    obtain ⟨parsed, config, hconfig, hparsed, hempty⟩ := loadDevices_returns hused file
    obtain ⟨next, parsedNext, hnext, hload, hsaved⟩ : ∃ next parsedNext,
        saveChange strtod file change = .ok next
        ∧ loadDevices strtod next = .ok (parsedNext, (change config).getD config)
        ∧ (next = file ∨ parsedNext = true) := by
      rw [saveChange, hconfig, ok_bind]
      dsimp only
      cases change config with
      | none => exact ⟨file, parsed, rfl, hconfig, Or.inl rfl⟩
      | some config' =>
        exact ⟨_, true, rfl, loadDevices_saveDevices hused hstrtod config', Or.inr rfl⟩
    obtain ⟨parsedFirst, first, last, parsed', hfirst, -, -, hlast, hfinal, hwritten⟩ := ih next
    obtain ⟨rfl, rfl⟩ := Prod.mk.inj (Except.ok.inj (hfirst.symm.trans hload))
    refine ⟨parsed, config, last, parsed', hconfig, hparsed, hempty, ?_, hfinal, ?_⟩
    · rw [List.foldlM_cons, hnext]
      exact hlast
    · obtain rfl | htrue := hwritten
      · -- the later commands have not written, so the file is loaded as the first one left it
        obtain ⟨rfl, -⟩ := Prod.mk.inj (Except.ok.inj (hfinal.symm.trans hload))
        exact hsaved
      · exact Or.inr htrue

end

/-- A bookmark with a quote in its name. -/
def quotedBookmark : DeviceBookmark where
  name := .ofCString (.ofString "at\"tic")
  productId := .ofCString (.ofString "pr-1")
  deviceId := .ofCString (.ofString "de-1")
  fingerprint := .ofCString default
  sct := .ofCString (.ofString "s")

/-- It is added to a list, and then replaced. -/
def quotedChanges : List ListChange :=
  [fun config => config.addDevice quotedBookmark,
    fun config => config.replaceDevice (.ofString "de-1") quotedBookmark]

/-- A file that is no JSON. -/
def openBrace : Option (List UInt8) :=
  some (CString.ofString "\x7b").bytes

/-- The load fails, and the commands replace the bytes. -/
theorem loadDevices_run_of_quoted :
    ∃ first last, loadDevices wholeStrtod openBrace = .ok (false, first) ∧ first.devices = []
      ∧ quotedChanges.foldlM (saveChange wholeStrtod) openBrace = .ok last
      ∧ loadDevices wholeStrtod last = .ok (true, ⟨[quotedBookmark], by decide⟩) := by
  obtain ⟨parsed, first, last, parsed', hfirst, hparsed, hempty, hlast, hfinal, hwritten⟩ :=
    loadDevices_run wholeStrtod wholeStrtod_used wholeStrtod_printInt quotedChanges openBrace
  have hrefused : IsRefused wholeStrtod openBrace := ⟨.ofString "\x7b", rfl, rfl⟩
  obtain rfl := hparsed.mpr hrefused
  obtain rfl : first = ⟨[], by decide⟩ := ClientConfig.ext (hempty rfl)
  obtain rfl | rfl := hwritten
  · have hlist := (Prod.mk.inj (Except.ok.inj (hfirst.symm.trans hfinal))).2
    cases congrArg (·.devices.length) hlist
  · exact ⟨_, last, hfirst, rfl, hlast, hfinal⟩

/-! ## Connection options -/

/-- The value that `tmuxremote_build_connection_options` builds. -/
def connectionOptions (productId deviceId privateKey sct : CString) : Json :=
  .object
    [(.ofString "ProductId", .string productId), (.ofString "DeviceId", .string deviceId),
      (.ofString "PrivateKey", .string privateKey), (.ofString "ServerConnectToken", .string sct)]

/-- `tmuxremote_build_connection_options` -/
def buildConnectionOptions (productId deviceId privateKey sct : CString) : CString :=
  .ofBytes (cJSONPrint false (connectionOptions productId deviceId privateKey sct))

/-- **The four strings and no more**: no string ends the text of another. -/
theorem buildConnectionOptions_parse {strtod : Strtod}
    (hused : ∀ text, (strtod text).2 ≤ text.length)
    (hstrtod : ∀ n, strtod (printInt n) = (n, (printInt n).length))
    (productId deviceId privateKey sct : CString) :
    cJSONParse strtod (buildConnectionOptions productId deviceId privateKey sct)
      = .ok (some (connectionOptions productId deviceId privateKey sct)) := by
  have hheight : height (connectionOptions productId deviceId privateKey sct) ≤ nestingLimit := by
    have h : height (connectionOptions productId deviceId privateKey sct) = 1 := rfl
    rw [h, nestingLimit]
    norm_num
  have hparse := cJSONParse_print hused hstrtod false
    (connectionOptions productId deviceId privateKey sct)
  rwa [if_pos hheight] at hparse

/-- Other strings make another text. -/
theorem buildConnectionOptions_inj
    {productId deviceId privateKey sct productId' deviceId' privateKey' sct' : CString} :
    buildConnectionOptions productId deviceId privateKey sct
        = buildConnectionOptions productId' deviceId' privateKey' sct'
      ↔ productId = productId' ∧ deviceId = deviceId' ∧ privateKey = privateKey' ∧ sct = sct' := by
  refine ⟨fun h => ?_, fun ⟨hproduct, hdevice, hkey, hsct⟩ => by
    rw [hproduct, hdevice, hkey, hsct]⟩
  have hparse := buildConnectionOptions_parse wholeStrtod_used wholeStrtod_printInt productId
    deviceId privateKey sct
  rw [h, buildConnectionOptions_parse wholeStrtod_used wholeStrtod_printInt] at hparse
  simp only [connectionOptions, Except.ok.injEq, Option.some.injEq, Json.object.injEq,
    List.cons.injEq, Prod.mk.injEq, Json.string.injEq, true_and, and_true] at hparse
  obtain ⟨rfl, rfl, rfl, rfl⟩ := hparse
  exact ⟨rfl, rfl, rfl, rfl⟩

end TmuxRemote
