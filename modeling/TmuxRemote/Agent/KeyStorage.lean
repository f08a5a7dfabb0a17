import Mathlib.Logic.Function.Basic
import TmuxRemote.Library.CString
import TmuxRemote.Library.Guarded

/-!
# Agent/KeyStorage — where the device key is kept (`tmuxremote_keychain.c`)

The private key is in a file or in a slot of the keychain, and `KeychainKey` in `device.json` says
in which of the two.  `--move-device-key` writes the other copy, compares fingerprints, switches the
flag, and only then deletes (`move_keeps_key`).

An agent that starts with the flag set takes its key from the slot, and makes a new one when it gets
none.  It does not ask why: a slot that holds a key and cannot be read is written over
(`start_keeps_key_iff`).

A file and a slot hold a text each.  A storage is named by whether it is the keychain, as in the
source.
-/

namespace TmuxRemote

/-! ## `KeychainKey` -/

/-- `KEYCHAIN_CONFIG_KEY` -/
def keychainConfigKey : CString := .ofString "KeychainKey"

/-- The value of an item of `device.json`. -/
inductive JsonItem
  | bool (value : Bool)
  | string (value : CString)
  | other
  deriving DecidableEq

/-- The object in `device.json`.  A user may edit the file and repeat a name in it; cJSON reads the
first item of a name, and deletes the first. -/
structure DeviceJson where
  items : List (CString × JsonItem)
  /-- A second `KeychainKey` would come to the front when the first one is deleted. -/
  keychainKey_once : (items.map Prod.fst).count keychainConfigKey ≤ 1

namespace DeviceJson

variable (json : DeviceJson)

/-- `cJSON_GetObjectItemCaseSensitive` -/
def item (name : CString) : Option JsonItem := json.items.lookup name

/-- `cJSON_IsBool` and `cJSON_IsTrue` of the item. -/
def keychainKey : Bool := json.item keychainConfigKey = some (.bool true)

/-- `cJSON_DeleteItemFromObjectCaseSensitive` -/
def deleteKeychainKey : List (CString × JsonItem) :=
  json.items.eraseP fun item => item.1 == keychainConfigKey

/-- What is deleted was the only one. -/
theorem keychainConfigKey_notMem_delete :
    keychainConfigKey ∉ json.deleteKeychainKey.map Prod.fst := by
  have herase : json.deleteKeychainKey.map Prod.fst
      = (json.items.map Prod.fst).erase keychainConfigKey := by
    rw [List.erase_eq_eraseP', List.eraseP_map]
    rfl
  rw [herase, ← List.count_eq_zero, List.count_erase_self]
  exact Nat.sub_eq_zero_of_le json.keychainKey_once

/-- `cJSON_DeleteItemFromObjectCaseSensitive` and `cJSON_AddBoolToObject` -/
def setKeychainKey (useKeychain : Bool) : DeviceJson where
  items := json.deleteKeychainKey ++ [(keychainConfigKey, .bool useKeychain)]
  keychainKey_once := by
    rw [List.map_append, List.count_append,
      List.count_eq_zero.mpr json.keychainConfigKey_notMem_delete, List.map_singleton,
      List.count_singleton_self]

@[simp] theorem item_setKeychainKey (useKeychain : Bool) :
    (json.setKeychainKey useKeychain).item keychainConfigKey = some (.bool useKeychain) := by
  have hnone : json.deleteKeychainKey.lookup keychainConfigKey = none := by
    rw [List.lookup_eq_none_iff]
    intro item hitem
    refine bne_iff_ne.mpr fun hname => json.keychainConfigKey_notMem_delete ?_
    exact hname ▸ List.mem_map_of_mem hitem
  rw [item, setKeychainKey, List.lookup_append, hnone, Option.none_or, List.lookup_cons_self]

@[simp] theorem keychainKey_setKeychainKey (useKeychain : Bool) :
    (json.setKeychainKey useKeychain).keychainKey = useKeychain := by
  simp [keychainKey]

end DeviceJson

/-! ## Files -/

/-- What there is of a file that holds a value. -/
inductive StoredFile (α : Type*)
  | absent
  /-- A file that has not been written to its end. -/
  | torn
  | holds (value : α)

/-- How a write of a whole file ends. -/
inductive FileWrite
  | written
  /-- It fails, and the file is as before. -/
  | refused
  /-- It fails midway. -/
  | torn
  deriving DecidableEq

/-- `write_file`: whether it succeeds, and the file then. -/
def StoredFile.write {α : Type*} (file : StoredFile α) (value : α) :
    FileWrite → Bool × StoredFile α
  | .written => (true, .holds value)
  | .refused => (false, file)
  | .torn => (false, .torn)

/-- `string_file_exists` -/
def StoredFile.exists {α : Type*} : StoredFile α → Bool
  | .absent => false
  | .torn | .holds _ => true

/-- `tmuxremote_config_get_keychain_key` -/
def configGetKeychainKey : StoredFile DeviceJson → Bool
  | .holds json => json.keychainKey
  | .absent | .torn => false

/-- `tmuxremote_config_set_keychain_key`; a file that cannot be read is one that is not written. -/
def configSetKeychainKey (write : FileWrite) (useKeychain : Bool) (file : StoredFile DeviceJson) :
    Bool × StoredFile DeviceJson :=
  match file with
  | .holds json => file.write (json.setKeychainKey useKeychain) write
  | .absent | .torn => (false, file)

/-! ## The storages -/

/-- How an operation that changes a place ends; one that fails may leave anything there. -/
inductive Change (α : Type*)
  | done
  | failed (left : α)

/-- The storages of the device key, and the file that says which is in use. -/
structure KeyState where
  /-- The text in the keychain's slot, and in the file. -/
  slots : Bool → Option CString
  /-- `device.json` -/
  config : StoredFile DeviceJson

namespace KeyState

variable (s : KeyState)

/-- The flag that is in force. -/
def configGetKeychainKey : Bool := TmuxRemote.configGetKeychainKey s.config

/-- `tmuxremote_config_set_keychain_key` -/
def configSetKeychainKey (write : FileWrite) (useKeychain : Bool) : Bool × KeyState :=
  let (ok, config) := TmuxRemote.configSetKeychainKey write useKeychain s.config
  (ok, { s with config := config })

def setSlot (useKeychain : Bool) (text : Option CString) : KeyState :=
  { s with slots := Function.update s.slots useKeychain text }

@[simp] theorem setSlot_slots (useKeychain : Bool) (text : Option CString) :
    (s.setSlot useKeychain text).slots useKeychain = text := Function.update_self ..

theorem setSlot_slots_of_ne {useKeychain other : Bool} (h : other ≠ useKeychain)
    (text : Option CString) : (s.setSlot useKeychain text).slots other = s.slots other :=
  Function.update_of_ne h ..

@[simp] theorem setSlot_self (useKeychain : Bool) :
    s.setSlot useKeychain (s.slots useKeychain) = s := by
  rw [setSlot, Function.update_eq_self]

@[simp] theorem setSlot_configGetKeychainKey (useKeychain : Bool) (text : Option CString) :
    (s.setSlot useKeychain text).configGetKeychainKey = s.configGetKeychainKey := rfl

/-- `load_private_key_from_storage`: an empty file does not pass for a key. -/
def loadPrivateKey (read : Bool) (useKeychain : Bool) : Option CString :=
  if read then (s.slots useKeychain).filter fun pem => useKeychain || pem ≠ default else none

/-- `save_private_key_to_storage` -/
def savePrivateKey (saved : Change (Option CString)) (useKeychain : Bool) (pemKey : CString) :
    Bool × KeyState :=
  match saved with
  | .done => (true, s.setSlot useKeychain (some pemKey))
  | .failed left => (false, s.setSlot useKeychain left)

/-- `delete_private_key_from_storage` -/
def deletePrivateKey (deleted : Change (Option CString)) (useKeychain : Bool) : Bool × KeyState :=
  match deleted with
  | .done => (true, s.setSlot useKeychain none)
  | .failed left => (false, s.setSlot useKeychain left)

/-- The key with the fingerprint is in the storage. -/
def Holds (fingerprint : CString → Option CString) (useKeychain : Bool) (f : CString) : Prop :=
  ∃ pem, s.slots useKeychain = some pem ∧ fingerprint pem = some f

end KeyState

/-! ## Moving the key -/

/-- What a move meets: each operation with its outcome. -/
structure MoveOutcomes where
  sourceRead : Bool
  /-- `fingerprint_for_private_key` gets as far as the key. -/
  sourceParsed : Bool
  targetSaved : Change (Option CString)
  targetRead : Bool
  targetParsed : Bool
  /-- `write_file` of `device.json`, which does all or nothing. -/
  configWritten : Bool
  sourceDeleted : Change (Option CString)

section
variable (fingerprint : CString → Option CString)

/-- `fingerprint_for_private_key`, given the fingerprints of the keys. -/
def fingerprintForPrivateKey (parsed : Bool) (pemKey : CString) : Option CString :=
  if parsed then fingerprint pemKey else none

/-- The end of `tmuxremote_move_private_key_storage`, from where the target has been written. -/
def completeMove (env : MoveOutcomes) (sourceUseKeychain targetUseKeychain : Bool)
    (sourceFingerprint : CString) (s : KeyState) : Bool × KeyState :=
  match s.loadPrivateKey env.targetRead targetUseKeychain with
  | none => (false, s)
  | some targetPem =>
    match fingerprintForPrivateKey fingerprint env.targetParsed targetPem with
    | none => (false, s)
    | some targetFingerprint =>
      if sourceFingerprint ≠ targetFingerprint then (false, s)
      else
        match s.configSetKeychainKey (if env.configWritten then .written else .refused)
          targetUseKeychain with
        | (false, s) => (false, s)
        | (true, s) => (true, (s.deletePrivateKey env.sourceDeleted sourceUseKeychain).2)

/-- `tmuxremote_move_private_key_storage` -/
def movePrivateKeyStorage (env : MoveOutcomes) (sourceUseKeychain targetUseKeychain : Bool)
    (s : KeyState) : Bool × KeyState :=
  if sourceUseKeychain = targetUseKeychain then (true, s)
  else
    match s.loadPrivateKey env.sourceRead sourceUseKeychain with
    | none => (false, s)
    | some sourcePem =>
      match fingerprintForPrivateKey fingerprint env.sourceParsed sourcePem with
      | none => (false, s)
      | some sourceFingerprint =>
        match s.savePrivateKey env.targetSaved targetUseKeychain sourcePem with
        | (false, s) => (false, s)
        | (true, s) =>
          completeMove fingerprint env sourceUseKeychain targetUseKeychain sourceFingerprint s

/-! ### What a move leads to -/

/-- What a move to the other storage does: it stops with at most the target written, or it ends with
a key in the target that has the fingerprint of the source's. -/
inductive Moved (source target : Bool) (s : KeyState) : Bool × KeyState → Prop
  | stopped (left : Option CString) : Moved source target s (false, s.setSlot target left)
  | switched {json : DeviceJson} {sourcePem targetPem f : CString} (left : Option CString)
      (hsource : s.slots source = some sourcePem) (hsourceFp : fingerprint sourcePem = some f)
      (htargetFp : fingerprint targetPem = some f) :
      Moved source target s
        (true,
          KeyState.setSlot
            { s.setSlot target (some targetPem) with config := .holds (json.setKeychainKey target) }
            source left)

end

section
variable {fingerprint : CString → Option CString} {s : KeyState} {useKeychain : Bool}
  {pem f : CString}

theorem KeyState.loadPrivateKey_eq_some {read : Bool}
    (h : s.loadPrivateKey read useKeychain = some pem) : s.slots useKeychain = some pem := by
  rw [KeyState.loadPrivateKey, Option.ite_none_right_eq_some] at h
  exact (Option.filter_eq_some_iff.mp h.2).1

theorem fingerprintForPrivateKey_eq_some {parsed : Bool}
    (h : fingerprintForPrivateKey fingerprint parsed pem = some f) : fingerprint pem = some f := by
  rw [fingerprintForPrivateKey, Option.ite_none_right_eq_some] at h
  exact h.2

theorem KeyState.savePrivateKey_eq (s : KeyState) (saved : Change (Option CString))
    (useKeychain : Bool) (pem : CString) :
    ∃ left, s.savePrivateKey saved useKeychain pem = (true, s.setSlot useKeychain (some pem))
      ∨ s.savePrivateKey saved useKeychain pem = (false, s.setSlot useKeychain left) := by
  cases saved with
  | done => exact ⟨none, Or.inl rfl⟩
  | failed left => exact ⟨left, Or.inr rfl⟩

/-- Deleting leaves the other storage and the flag as they are. -/
theorem KeyState.deletePrivateKey_eq (s : KeyState) (deleted : Change (Option CString))
    (useKeychain : Bool) :
      ∃ left, (s.deletePrivateKey deleted useKeychain).2 = s.setSlot useKeychain left := by
  cases deleted with
  | done => exact ⟨none, rfl⟩
  | failed left => exact ⟨left, rfl⟩

theorem KeyState.configSetKeychainKey_eq (written : Bool) :
    s.configSetKeychainKey (if written then .written else .refused) useKeychain = (false, s)
      ∨ ∃ json : DeviceJson,
        s.configSetKeychainKey (if written then .written else .refused) useKeychain
          = (true, { s with config := .holds (json.setKeychainKey useKeychain) }) := by
  obtain ⟨slots, config⟩ := s
  cases config with
  | absent => exact Or.inl rfl
  | torn => exact Or.inl rfl
  | holds json =>
    cases written with
    | false => exact Or.inl rfl
    | true => exact Or.inr ⟨json, rfl⟩

/-- What becomes of a key that has been written to the target. -/
theorem completeMove_moved (env : MoveOutcomes) {source target : Bool}
    (hsource : s.slots source = some pem) (hsourceFp : fingerprint pem = some f) :
    Moved fingerprint source target s
      (completeMove fingerprint env source target f (s.setSlot target (some pem))) := by
  have hstop : Moved fingerprint source target s (false, s.setSlot target (some pem)) :=
    Moved.stopped (some pem)
  rw [completeMove]
  cases hload : (s.setSlot target (some pem)).loadPrivateKey env.targetRead target with
  | none => exact hstop
  | some targetPem =>
    dsimp only
    cases htargetFp : fingerprintForPrivateKey fingerprint env.targetParsed targetPem with
    | none => exact hstop
    | some f' =>
      dsimp only
      by_cases hdiffer : f ≠ f'
      · rw [if_pos hdiffer]
        exact hstop
      · rw [if_neg hdiffer]
        obtain rfl : f = f' := not_not.mp hdiffer
        obtain hset | ⟨json, hset⟩ :=
          (s.setSlot target (some pem)).configSetKeychainKey_eq env.configWritten
        · rw [hset]
          exact hstop
        · rw [hset]
          dsimp only
          obtain ⟨left, hdelete⟩ := KeyState.deletePrivateKey_eq
            { s.setSlot target (some pem) with config := .holds (json.setKeychainKey target) }
            env.sourceDeleted source
          rw [hdelete]
          have hslot := KeyState.loadPrivateKey_eq_some hload
          rw [KeyState.setSlot_slots, Option.some_inj] at hslot
          subst hslot
          exact Moved.switched left hsource hsourceFp (fingerprintForPrivateKey_eq_some htargetFp)

/-- **What a move does**, whichever of its operations fail. -/
theorem movePrivateKeyStorage_moved (fingerprint : CString → Option CString) (env : MoveOutcomes)
    (s : KeyState) {source target : Bool}
    (hne : source ≠ target) :
    Moved fingerprint source target s (movePrivateKeyStorage fingerprint env source target s) := by
  have hstop : Moved fingerprint source target s (false, s) := by
    have h := @Moved.stopped fingerprint source target s (s.slots target)
    rwa [KeyState.setSlot_self] at h
  rw [movePrivateKeyStorage, if_neg hne]
  cases hload : s.loadPrivateKey env.sourceRead source with
  | none => exact hstop
  | some sourcePem =>
    dsimp only
    cases hsourceFp : fingerprintForPrivateKey fingerprint env.sourceParsed sourcePem with
    | none => exact hstop
    | some f =>
      dsimp only
      obtain ⟨left, hsave | hsave⟩ := s.savePrivateKey_eq env.targetSaved target sourcePem
      · rw [hsave]
        exact completeMove_moved env (KeyState.loadPrivateKey_eq_some hload)
          (fingerprintForPrivateKey_eq_some hsourceFp)
      · rw [hsave]
        exact Moved.stopped left

/-- **The device key is never lost.**  Whichever operations of a move fail, the storage in use
afterwards holds the key; a move that fails leaves the flag and the source as they are, and one that
succeeds has the flag on the target. -/
theorem move_keeps_key (fingerprint : CString → Option CString) (env : MoveOutcomes)
    (target : Bool) (s : KeyState) (f : CString)
    (hkey : s.Holds fingerprint s.configGetKeychainKey f) :
    ∃ ok s', movePrivateKeyStorage fingerprint env s.configGetKeychainKey target s = (ok, s')
      ∧ s'.Holds fingerprint s'.configGetKeychainKey f
      ∧ (ok = false → s'.configGetKeychainKey = s.configGetKeychainKey
          ∧ s'.slots s.configGetKeychainKey = s.slots s.configGetKeychainKey)
      ∧ (ok = true → s.configGetKeychainKey ≠ target → s'.configGetKeychainKey = target) := by
  by_cases hne : s.configGetKeychainKey = target
  · refine ⟨true, s, ?_, hkey, nofun, fun _ h => absurd hne h⟩
    rw [movePrivateKeyStorage, if_pos hne]
  · have hmoved := movePrivateKeyStorage_moved fingerprint env s hne
    generalize movePrivateKeyStorage fingerprint env s.configGetKeychainKey target s = result
      at hmoved
    obtain ⟨pem, hslot, hfp⟩ := hkey
    cases hmoved with
    | stopped left =>
      have hsource := s.setSlot_slots_of_ne hne left
      exact ⟨false, _, rfl, ⟨pem, hsource.trans hslot, hfp⟩, fun _ => ⟨rfl, hsource⟩, nofun⟩
    | @switched json sourcePem targetPem f' left hsource hsourceFp htargetFp =>
      obtain rfl : pem = sourcePem := Option.some.inj (hslot.symm.trans hsource)
      obtain rfl : f = f' := Option.some.inj (hfp.symm.trans hsourceFp)
      refine ⟨true, _, rfl, ?_, nofun, fun _ _ => json.keychainKey_setKeychainKey target⟩
      have hflag : (KeyState.setSlot
          { s.setSlot target (some targetPem) with config := .holds (json.setKeychainKey target) }
          s.configGetKeychainKey left).configGetKeychainKey = target :=
        json.keychainKey_setKeychainKey target
      rw [hflag]
      refine ⟨targetPem, ?_, htargetFp⟩
      rw [KeyState.setSlot_slots_of_ne _ (Ne.symm hne)]
      exact KeyState.setSlot_slots ..

/-- A key in the file, and a configuration that has never had the flag. -/
def keyInFile : KeyState where
  slots := Function.update (fun _ => none) false (some (.ofString "key"))
  config := .holds { items := [], keychainKey_once := Nat.zero_le 1 }

/-- A move that cannot delete the file. -/
def moveLeavingSource : MoveOutcomes where
  sourceRead := true
  sourceParsed := true
  targetSaved := .done
  targetRead := true
  targetParsed := true
  configWritten := true
  sourceDeleted := .failed (some (.ofString "ke"))

theorem move_keeps_key_leaving_source :
    ∃ ok s',
      movePrivateKeyStorage some moveLeavingSource keyInFile.configGetKeychainKey true keyInFile
        = (ok, s')
      ∧ s'.Holds some s'.configGetKeychainKey (.ofString "key")
      ∧ (ok = false → s'.configGetKeychainKey = keyInFile.configGetKeychainKey
          ∧ s'.slots keyInFile.configGetKeychainKey
            = keyInFile.slots keyInFile.configGetKeychainKey)
      ∧ (ok = true → keyInFile.configGetKeychainKey ≠ true → s'.configGetKeychainKey = true) :=
  move_keeps_key some moveLeavingSource true keyInFile (.ofString "key")
    ⟨.ofString "key", by decide +kernel, rfl⟩

end

/-! ## Starting with the key in the keychain -/

/-- `OSStatus`, as far as it is told apart. -/
inductive OSStatus
  | errSecItemNotFound
  | errSecDuplicateItem
  | other

/-- `SecItemCopyMatching`, which may fail for reasons of its own. -/
def secItemCopyMatching (fails : Bool) (slot : Option CString) : Except OSStatus CString :=
  if fails then .error .other
  else
    match slot with
    | none => .error .errSecItemNotFound
    | some key => .ok key

/-- `SecItemDelete`, and what is in the slot then. -/
def secItemDelete (fails : Bool) (slot : Option CString) : Except OSStatus Unit × Option CString :=
  if fails then (.error .other, slot)
  else
    match slot with
    | none => (.error .errSecItemNotFound, none)
    | some _ => (.ok (), none)

/-- `SecItemAdd`, and what is in the slot then. -/
def secItemAdd (fails : Bool) (key : CString) (slot : Option CString) :
    Except OSStatus Unit × Option CString :=
  if fails then (.error .other, slot)
  else
    match slot with
    | none => (.ok (), some key)
    | some held => (.error .errSecDuplicateItem, some held)

/-- `tmuxremote_keychain_load_private_key_slot` -/
def keychainLoadPrivateKeySlot (readFails : Bool) (slot : Option CString) : Option CString :=
  (secItemCopyMatching readFails slot).toOption

@[simp] theorem keychainLoadPrivateKeySlot_fails (slot : Option CString) :
    keychainLoadPrivateKeySlot true slot = none := rfl

theorem keychainLoadPrivateKeySlot_eq_some {readFails : Bool} {slot : Option CString}
    {key : CString}
    (h : keychainLoadPrivateKeySlot readFails slot = some key) : slot = some key := by
  cases readFails with
  | true => exact nomatch h
  | false =>
    cases slot with
    | none => exact nomatch h
    | some held => exact h

/-- `tmuxremote_keychain_save_private_key_slot`: nobody looks at how the deletion ends. -/
def keychainSavePrivateKeySlot (prepared deleteFails addFails : Bool) (pemKey : CString)
    (slot : Option CString) : Bool × Option CString :=
  if !prepared then (false, slot)
  else
    match secItemAdd addFails pemKey (secItemDelete deleteFails slot).2 with
    | (.ok (), slot) => (true, slot)
    | (.error _, slot) => (false, slot)

/-- What one start of the agent meets: each operation with its outcome. -/
structure StartOutcomes where
  /-- There is a keychain, and the slot can be named. -/
  account : Bool
  readFails : Bool
  /-- `nabto_device_set_private_key` -/
  keySet : Bool
  /-- `nabto_device_create_private_key` -/
  newKey : Option CString
  /-- The objects that a query is made of. -/
  prepared : Bool
  deleteFails : Bool
  addFails : Bool
  /-- `load_or_create_private_key`: given what is in the file, its result and what is there then. -/
  fileKey : Option CString → Bool × Option CString

/-- How a start ends. -/
structure StartResult where
  ok : Bool
  keychainUsed : Bool
  /-- The key that was generated and stored in the keychain. -/
  stored : Option CString
  /-- What is in the storages then. -/
  slots : Bool → Option CString

/-- `load_or_create_private_key` -/
def loadOrCreateKeyFile (env : StartOutcomes) (slots : Bool → Option CString) : StartResult where
  ok := (env.fileKey (slots false)).1
  keychainUsed := false
  stored := none
  slots := Function.update slots false (env.fileKey (slots false)).2

@[simp] theorem loadOrCreateKeyFile_slots_true (env : StartOutcomes)
    (slots : Bool → Option CString) : (loadOrCreateKeyFile env slots).slots true = slots true := by
  simp [loadOrCreateKeyFile]

/-- `tmuxremote_load_or_create_private_key` -/
def loadOrCreatePrivateKey (env : StartOutcomes) (useKeychain : Bool)
    (slots : Bool → Option CString) : StartResult :=
  if !useKeychain || !env.account then loadOrCreateKeyFile env slots
  else
    match keychainLoadPrivateKeySlot env.readFails (slots true) with
    | some _ => { ok := env.keySet, keychainUsed := env.keySet, stored := none, slots := slots }
    | none =>
      match env.newKey with
      | none => { ok := false, keychainUsed := false, stored := none, slots := slots }
      | some newKey =>
        match keychainSavePrivateKeySlot env.prepared env.deleteFails env.addFails newKey
          (slots true) with
        | (false, slot) =>
          { ok := false, keychainUsed := false, stored := none
            slots := Function.update slots true slot }
        | (true, slot) =>
          { ok := env.keySet, keychainUsed := env.keySet, stored := some newKey
            slots := Function.update slots true slot }

/-- The storages from one start to the next, with `KeychainKey` set. -/
def startStep (slots : Bool → Option CString) (env : StartOutcomes) :
    Option (Bool → Option CString) :=
  some (loadOrCreatePrivateKey env true slots).slots

/-- The start leaves a key in the keychain alone, and stores one of its own only in an empty
slot. -/
def KeepsKey (slots : Bool → Option CString) (env : StartOutcomes) : Prop :=
  (∀ k, slots true = some k → (loadOrCreatePrivateKey env true slots).slots true = some k)
    ∧ ((loadOrCreatePrivateKey env true slots).stored ≠ none → slots true = none)

/-- There is a key that cannot be read but can be deleted, and the start gets as far as that. -/
def DeletesUnread (slots : Bool → Option CString) (env : StartOutcomes) : Prop :=
  slots true ≠ none ∧ env.account = true ∧ env.readFails = true ∧ env.newKey ≠ none
    ∧ env.prepared = true ∧ env.deleteFails = false

section
variable {env : StartOutcomes} {slots : Bool → Option CString} {k : CString}

/-- A save that does not delete leaves a key in the slot alone. -/
theorem keychainSavePrivateKeySlot_held (prepared deleteFails addFails : Bool) (pemKey : CString)
    (h : ¬ (prepared = true ∧ deleteFails = false)) :
    keychainSavePrivateKeySlot prepared deleteFails addFails pemKey (some k) = (false, some k) := by
  cases prepared with
  | false => rfl
  | true =>
    cases deleteFails with
    | false => exact absurd ⟨rfl, rfl⟩ h
    | true => cases addFails <;> rfl

/-- A save that deletes leaves its own key or none. -/
theorem keychainSavePrivateKeySlot_deletes (addFails : Bool) (pemKey : CString)
    (slot : Option CString) :
    keychainSavePrivateKeySlot true false addFails pemKey slot = (true, some pemKey)
      ∨ keychainSavePrivateKeySlot true false addFails pemKey slot = (false, none) := by
  cases addFails with
  | false => cases slot with | none | some => exact Or.inl rfl
  | true => cases slot with | none | some => exact Or.inr rfl

theorem loadOrCreatePrivateKey_kept (hk : slots true = some k) (h : ¬ DeletesUnread slots env) :
    (loadOrCreatePrivateKey env true slots).slots true = some k
      ∧ (loadOrCreatePrivateKey env true slots).stored = none := by
  rw [loadOrCreatePrivateKey, hk]
  cases haccount : env.account with
  | false =>
    exact ⟨(loadOrCreateKeyFile_slots_true env slots).trans hk, rfl⟩
  | true =>
    rw [if_neg (by decide)]
    cases hread : env.readFails with
    | false => exact ⟨hk, rfl⟩
    | true =>
      rw [keychainLoadPrivateKeySlot_fails]
      cases hnew : env.newKey with
      | none => exact ⟨hk, rfl⟩
      | some newKey =>
        have hsave := @keychainSavePrivateKeySlot_held k env.prepared env.deleteFails env.addFails
          newKey fun hdelete =>
            h ⟨by simp [hk], haccount, hread, by simp [hnew], hdelete.1, hdelete.2⟩
        dsimp only
        rw [hsave]
        exact ⟨Function.update_self true (some k) slots, rfl⟩

theorem loadOrCreatePrivateKey_deleted (h : DeletesUnread slots env) :
    (loadOrCreatePrivateKey env true slots).slots true = none
      ∨ (loadOrCreatePrivateKey env true slots).stored ≠ none := by
  obtain ⟨-, haccount, hread, hnew, hprepared, hdelete⟩ := h
  obtain ⟨newKey, hnew⟩ := Option.ne_none_iff_exists'.mp hnew
  rw [loadOrCreatePrivateKey, haccount, hread, hnew, hprepared, hdelete]
  obtain hsave | hsave := keychainSavePrivateKeySlot_deletes env.addFails newKey (slots true)
  · right
    simp [hsave]
  · left
    simp [hsave]

/-- What one start does to a key in the keychain. -/
theorem keepsKey_iff : KeepsKey slots env ↔ ¬ DeletesUnread slots env := by
  constructor
  · rintro ⟨hkept, hstored⟩ hdeletes
    obtain ⟨k, hk⟩ := Option.ne_none_iff_exists'.mp hdeletes.1
    obtain hnone | hnew := loadOrCreatePrivateKey_deleted hdeletes
    · exact nomatch (hkept k hk).symm.trans hnone
    · exact nomatch hk.symm.trans (hstored hnew)
  · intro h
    cases hslot : slots true with
    | none => exact ⟨fun k hk => (nomatch hslot.symm.trans hk), fun _ => hslot⟩
    | some k =>
      obtain ⟨hkept, hstored⟩ := loadOrCreatePrivateKey_kept hslot h
      refine ⟨fun k' hk' => ?_, fun hnew => absurd hstored hnew⟩
      exact hkept.trans (hslot.symm.trans hk')

end

/-- **A key in the keychain survives a start, exactly** unless it cannot be read and the start gets
as far as deleting it. -/
theorem start_keeps_key_iff (slots : Bool → Option CString) (starts : List StartOutcomes) :
    Guarded.AllSteps startStep KeepsKey slots starts
      ↔ Guarded.AllSteps startStep (fun slots env => ¬ DeletesUnread slots env) slots starts :=
  ⟨Guarded.AllSteps.mono fun _ _ => keepsKey_iff.mp,
    Guarded.AllSteps.mono fun _ _ => keepsKey_iff.mpr⟩

/-- A key survives any number of starts that meet this. -/
theorem starts_keep_key {slots slots' : Bool → Option CString} {starts : List StartOutcomes}
    {k : CString} (hslot : slots true = some k)
    (h : Guarded.AllSteps startStep (fun slots env => ¬ DeletesUnread slots env) slots starts)
    (hrun : Guarded.run startStep slots starts = some slots') : slots' true = some k := by
  have hstep (s : Bool → Option CString) (env : StartOutcomes) (s' : Bool → Option CString)
      (hs : s true = some k) (hC : ¬ DeletesUnread s env) (hs' : startStep s env = some s') :
      s' true = some k := by
    rw [← Option.some.inj hs']
    exact (keepsKey_iff.mpr hC).1 k hs
  exact (Guarded.throughout_of_allSteps hstep hslot h).last hrun

/-- A start while the slot cannot be read. -/
def startWhileDenied : StartOutcomes where
  account := true
  readFails := true
  keySet := true
  newKey := some (.ofString "new")
  prepared := true
  deleteFails := false
  addFails := false
  fileKey := fun file => (false, file)

/-- A key that cannot be read is replaced. -/
theorem unread_key_replaced :
    ¬ ∀ (slots : Bool → Option CString) (starts : List StartOutcomes),
        Guarded.AllSteps startStep KeepsKey slots starts := by
  intro hall
  have hkept := (hall (fun _ => some (.ofString "key")) [startWhileDenied]).1.1
    (.ofString "key") rfl
  revert hkept
  decide +kernel

end TmuxRemote
