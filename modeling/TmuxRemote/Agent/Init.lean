import Mathlib.Data.List.Nodup
import TmuxRemote.Agent.IamStateFile
import TmuxRemote.Agent.KeyStorage

/-!
# Agent/Init — setting up a home directory (`tmuxremote_init.c`)

`--init` writes `device.json`, then makes the device key, then writes `iam_state.json`, and takes
nothing back: a step that fails leaves what precedes it, and the last one does not say that it
failed.  Since the next `--init` goes by `device.json` alone, a home directory is set up as a whole
or not at all only as long as what follows that file succeeds (`init_all_or_nothing_iff`).

`save_device_config` and `load_or_create_private_key` are not part of the repository: they are the
parameters `deviceConfig` and `fileKey`.
-/

namespace TmuxRemote

/-! ## What is asked for -/

/-- The line, cut at its newline. -/
def trimNewline (line : List UInt8) : CString := .ofBytes (line.takeWhile (· != 0x0A))

/-- What `init_common` meets: its arguments, what it reads, and each operation with its outcome. -/
structure InitEnvironment where
  productId : Option CString
  deviceId : Option CString
  stdin : List UInt8
  /-- `tmuxremote_device_key_file_path` -/
  keyFilePath : Bool
  /-- `tmuxremote_keychain_available` -/
  keychainAvailable : Bool
  isatty : Bool
  /-- `TMUX_REMOTE_KEY_STORAGE` -/
  keyStorageEnv : Option CString
  /-- The object that `save_device_config` writes of the two ids. -/
  deviceConfig : CString → CString → DeviceJson
  configWrite : FileWrite
  flagWrite : FileWrite
  /-- The second attempt, which falls back to the file. -/
  flagWriteAgain : FileWrite
  /-- `nabto_device_new` -/
  deviceCreated : Bool
  key : StartOutcomes
  /-- `nm_iam_state_user_new` -/
  userCreated : Bool
  /-- `random_password` -/
  password : Option CString
  /-- `nabto_device_create_server_connect_token` -/
  sct : Option CString
  /-- `nm_iam_serializer_state_dump_json` -/
  dumped : Bool
  iamWrite : FileWrite

namespace InitEnvironment

/-- An id from the arguments, or else from the terminal. -/
def readId (arg : Option CString) (stdin : List UInt8) : Option (CString × List UInt8) :=
  match arg.filter (fun id => !id.isEmpty) with
  | some id => some (id.truncate 63, stdin)
  | none => (CLib.fgets 64 stdin).map fun (line, rest) => (trimNewline line, rest)

variable (env : InitEnvironment)

/-- Where the key is to be kept. -/
def wantsKeychain (stdin : List UInt8) : Bool :=
  env.keychainAvailable &&
    if env.isatty then
      match CLib.fgets 16 stdin with
      | some (line, _) =>
        (trimNewline line).bytes.head? != some 0x6E && (trimNewline line).bytes.head? != some 0x4E
      | none => true
    else env.keyStorageEnv = some (.ofString "keychain")

/-- The first part of `init_common`: the ids, and whether the keychain is to be used. -/
def ask : Option (CString × CString × Bool) :=
  match readId env.productId env.stdin with
  | none => none
  | some (pid, stdin) =>
    match readId env.deviceId stdin with
    | none => none
    | some (did, stdin) =>
      if pid.isEmpty || did.isEmpty then none
      else if !env.keyFilePath then none
      else some (pid, did, env.wantsKeychain stdin)

end InitEnvironment

/-! ## What is written -/

/-- The files and the keychain's slot that `--init` is about. -/
structure HomeDir extends KeyState where
  /-- `iam_state.json` -/
  iamState : StoredFile IamState

/-- Persisting the keychain preference: where the key goes then, and `device.json`. -/
def persistKeychainPreference (env : InitEnvironment) (useKeychain : Bool)
    (config : StoredFile DeviceJson) : Bool × StoredFile DeviceJson :=
  match configSetKeychainKey env.flagWrite useKeychain config with
  | (true, config) => (useKeychain, config)
  | (false, config) =>
    if useKeychain then (false, (configSetKeychainKey env.flagWriteAgain false config).2)
    else (false, config)

/-- The name of the first user. -/
def ownerName : CString := .ofString "owner"

/-- The state of a new agent: its owner, invited. -/
def defaultIamState (password sct : Option CString) : IamState where
  users :=
    [{ username := ownerName
       role := .ofString "Owner"
       password := password
       sct := sct
       fingerprints := [] }]
  passwordInvitePairing := true
  nodup_usernames := List.nodup_singleton _

/-- `tmuxremote_iam_create_default_state` and `save_iam_state`, of which nobody hears how they
end. -/
def iamCreateDefaultState (env : InitEnvironment) (file : StoredFile IamState) :
    StoredFile IamState :=
  if !env.userCreated then file
  else if !env.dumped then file
  else (file.write (defaultIamState env.password env.sct) env.iamWrite).2

/-- The rest of `init_common`, from where `device.json` has been written. -/
def createDevice (env : InitEnvironment) (useKeychain : Bool) (home : HomeDir) : Bool × HomeDir :=
  if !env.deviceCreated then (false, home)
  else
    let result := loadOrCreatePrivateKey env.key useKeychain home.slots
    let home := { home with slots := result.slots }
    if !result.ok then (false, home)
    else (true, { home with iamState := iamCreateDefaultState env home.iamState })

/-- `init_common` -/
def initCommon (env : InitEnvironment) (home : HomeDir) : Bool × HomeDir :=
  if home.config.exists then (false, home)
  else
    match env.ask with
    | none => (false, home)
    | some (pid, did, useKeychain) =>
      match home.config.write (env.deviceConfig pid did) env.configWrite with
      | (false, config) => (false, { home with config := config })
      | (true, config) =>
        let (useKeychain, config) := persistKeychainPreference env useKeychain config
        createDevice env useKeychain { home with config := config }

/-! ## All or nothing -/

/-- The file has a user `owner` with the secrets of an invitation. -/
def HasOwnerInvitation : StoredFile IamState → Prop
  | .holds state =>
    ∃ user ∈ state.users, user.username = ownerName ∧ user.password ≠ none ∧ user.sct ≠ none
  | .absent | .torn => False

/-- All is there: the configuration, the key in the storage that it selects, and the owner's
invitation. -/
structure HomeDir.Complete (home : HomeDir) : Prop where
  config : home.config.exists = true
  key : home.slots home.configGetKeychainKey ≠ none
  invitation : HasOwnerInvitation home.iamState

/-- A home directory is complete when `--init` succeeds, and has no configuration when it fails. -/
def AllOrNothing (result : Bool × HomeDir) : Prop :=
  (result.1 = true → result.2.Complete) ∧ (result.1 = false → result.2.config.exists = false)

/-- The invitation is written, or nothing is where one is already. -/
def InvitationLeft (env : InitEnvironment) (home : HomeDir) : Prop :=
  if env.userCreated = true ∧ env.dumped = true ∧ env.iamWrite ≠ .refused then
    env.iamWrite = .written ∧ env.password ≠ none ∧ env.sct ≠ none
  else HasOwnerInvitation home.iamState

/-- What follows `device.json` succeeds.  A key that is to be in the keychain is there, also when it
goes to the file for want of a name for the slot. -/
def RestSucceeds (env : InitEnvironment) (home : HomeDir) (useKeychain : Bool) : Prop :=
  env.deviceCreated = true ∧ (loadOrCreatePrivateKey env.key useKeychain home.slots).ok = true
    ∧ (useKeychain = true → env.key.account = true ∨ home.slots true ≠ none)
    ∧ InvitationLeft env home

/-- `--init` stops before it leaves a file, or all of it succeeds. -/
def InitGoesThrough (env : InitEnvironment) (home : HomeDir) : Prop :=
  match env.ask with
  | none => True
  | some (_, _, useKeychain) =>
    match env.configWrite with
    | .refused => True
    | .torn => False
    | .written => RestSucceeds env home (useKeychain && env.flagWrite = .written)

section
variable {env : InitEnvironment} {home : HomeDir} {useKeychain : Bool}

theorem hasOwnerInvitation_iamCreateDefaultState :
    HasOwnerInvitation (iamCreateDefaultState env home.iamState) ↔ InvitationLeft env home := by
  rw [iamCreateDefaultState, InvitationLeft]
  cases env.userCreated with
  | false => simp
  | true =>
    cases env.dumped with
    | false => simp
    | true =>
      cases env.iamWrite with
      | refused => simp [StoredFile.write]
      | torn => simp [StoredFile.write, HasOwnerInvitation]
      | written => simp [StoredFile.write, HasOwnerInvitation, defaultIamState]

/-- A key that is loaded or made without the keychain is in the file. -/
theorem file_ne_none_of_ok
    (hfileKey : ∀ file, (env.key.fileKey file).1 = true → (env.key.fileKey file).2 ≠ none)
    {slots : Bool → Option CString} (hok : (loadOrCreatePrivateKey env.key false slots).ok = true) :
    (loadOrCreatePrivateKey env.key false slots).slots false ≠ none := by
  have hfile : loadOrCreatePrivateKey env.key false slots = loadOrCreateKeyFile env.key slots := rfl
  rw [hfile] at hok ⊢
  simpa [loadOrCreateKeyFile] using hfileKey _ hok

/-- A save that succeeds leaves the key in the slot. -/
theorem keychainSavePrivateKeySlot_eq_true {prepared deleteFails addFails : Bool} {pemKey : CString}
    {slot slot' : Option CString}
    (h : keychainSavePrivateKeySlot prepared deleteFails addFails pemKey slot = (true, slot')) :
    slot' = some pemKey := by
  rw [keychainSavePrivateKeySlot] at h
  cases prepared with
  | false => exact nomatch congrArg Prod.fst h
  | true =>
    cases addFails with
    | true => exact nomatch congrArg Prod.fst h
    | false =>
      cases hdeleted : (secItemDelete deleteFails slot).2 with
      | none =>
        rw [hdeleted] at h
        exact (congrArg Prod.snd h).symm
      | some held =>
        rw [hdeleted] at h
        exact nomatch congrArg Prod.fst h

/-- A key that is loaded or made with the keychain is there, but for one that went to the file. -/
theorem keychain_ne_none_iff_of_ok {slots : Bool → Option CString}
    (hok : (loadOrCreatePrivateKey env.key true slots).ok = true) :
    (loadOrCreatePrivateKey env.key true slots).slots true ≠ none
      ↔ env.key.account = true ∨ slots true ≠ none := by
  cases haccount : env.key.account with
  | false =>
    have hfile : loadOrCreatePrivateKey env.key true slots = loadOrCreateKeyFile env.key slots := by
      rw [loadOrCreatePrivateKey, haccount]
      rfl
    rw [hfile, loadOrCreateKeyFile_slots_true]
    exact (or_iff_right Bool.false_ne_true).symm
  | true =>
    refine iff_of_true ?_ (Or.inl rfl)
    rw [loadOrCreatePrivateKey, haccount, if_neg (by decide)] at hok ⊢
    cases hread : keychainLoadPrivateKeySlot env.key.readFails (slots true) with
    | some key =>
      have hheld := keychainLoadPrivateKeySlot_eq_some hread
      change slots true ≠ none
      rw [hheld]
      exact Option.some_ne_none key
    | none =>
      rw [hread] at hok
      cases hnew : env.key.newKey with
      | none =>
        rw [hnew] at hok
        exact absurd hok Bool.false_ne_true
      | some newKey =>
        rw [hnew] at hok
        dsimp only at hok ⊢
        cases hsave : keychainSavePrivateKeySlot env.key.prepared env.key.deleteFails
            env.key.addFails newKey (slots true) with
        | mk saved slot =>
          rw [hsave] at hok
          cases saved with
          | false => exact absurd hok Bool.false_ne_true
          | true =>
            rw [keychainSavePrivateKeySlot_eq_true hsave]
            simp

/-- The flag that is in force after the preference has been persisted, or not. -/
theorem persistKeychainPreference_eq (env : InitEnvironment) (useKeychain : Bool)
    {json : DeviceJson}
    (hjson : json.keychainKey = false) :
    (persistKeychainPreference env useKeychain (.holds json)).1
        = (useKeychain && env.flagWrite = .written)
      ∧ configGetKeychainKey (persistKeychainPreference env useKeychain (.holds json)).2
        = (useKeychain && env.flagWrite = .written)
      ∧ (persistKeychainPreference env useKeychain (.holds json)).2.exists = true := by
  have hset (b : Bool) : (json.setKeychainKey b).keychainKey = b :=
    json.keychainKey_setKeychainKey b
  cases hflag : env.flagWrite with
  | written => simp [persistKeychainPreference, hflag, configSetKeychainKey, StoredFile.write,
      configGetKeychainKey, hset, StoredFile.exists]
  | torn => cases useKeychain <;> simp [persistKeychainPreference, hflag, configSetKeychainKey,
      StoredFile.write, configGetKeychainKey, StoredFile.exists]
  | refused =>
    cases useKeychain with
    | false => simp [persistKeychainPreference, hflag, configSetKeychainKey, StoredFile.write,
        configGetKeychainKey, hjson, StoredFile.exists]
    | true => cases hagain : env.flagWriteAgain <;> simp [persistKeychainPreference, hflag, hagain,
        configSetKeychainKey, StoredFile.write, configGetKeychainKey, hjson, hset,
        StoredFile.exists]

/-- The rest of `--init` completes the directory, exactly when all of it succeeds: without that a
configuration is left behind. -/
theorem allOrNothing_createDevice_iff
    (hfileKey : ∀ file, (env.key.fileKey file).1 = true → (env.key.fileKey file).2 ≠ none)
    (hflag : home.configGetKeychainKey = useKeychain) (hexists : home.config.exists = true) :
    AllOrNothing (createDevice env useKeychain home) ↔ RestSucceeds env home useKeychain := by
  rw [createDevice, RestSucceeds]
  cases hcreated : env.deviceCreated with
  | false =>
    exact iff_of_false (fun h => ne_true_of_eq_false (h.2 rfl) hexists) (fun h => nomatch h.1)
  | true =>
    rw [if_neg (by decide), and_iff_right rfl]
    dsimp only
    cases hok : (loadOrCreatePrivateKey env.key useKeychain home.slots).ok with
    | false =>
      exact iff_of_false (fun h => ne_true_of_eq_false (h.2 rfl) hexists) (fun h => nomatch h.1)
    | true =>
      rw [if_neg (by decide), and_iff_right rfl, ← hasOwnerInvitation_iamCreateDefaultState]
      have hkey : (loadOrCreatePrivateKey env.key useKeychain home.slots).slots useKeychain ≠ none
          ↔ (useKeychain = true → env.key.account = true ∨ home.slots true ≠ none) := by
        cases useKeychain with
        | false => exact iff_of_true (file_ne_none_of_ok hfileKey hok) nofun
        | true => exact (keychain_ne_none_iff_of_ok hok).trans (imp_iff_right rfl).symm
      rw [← hkey]
      constructor
      · rintro ⟨hcomplete, -⟩
        obtain ⟨-, hslot, hinvited⟩ := hcomplete rfl
        exact ⟨hflag ▸ hslot, hinvited⟩
      · rintro ⟨hslot, hinvited⟩
        refine ⟨fun _ => ⟨hexists, ?_, hinvited⟩, nofun⟩
        subst hflag
        exact hslot

end

/-- **A home directory is set up as a whole or not at all, exactly** when `--init` stops before it
leaves a file, or all of it succeeds. -/
theorem init_all_or_nothing_iff (env : InitEnvironment) (home : HomeDir)
    (habsent : home.config.exists = false)
    (hconfig : ∀ pid did, (env.deviceConfig pid did).keychainKey = false)
    (hfileKey : ∀ file, (env.key.fileKey file).1 = true → (env.key.fileKey file).2 ≠ none) :
    AllOrNothing (initCommon env home) ↔ InitGoesThrough env home := by
  rw [initCommon, habsent, if_neg Bool.false_ne_true, InitGoesThrough]
  cases hask : env.ask with
  | none => exact iff_of_true ⟨nofun, fun _ => habsent⟩ trivial
  | some asked =>
    obtain ⟨pid, did, useKeychain⟩ := asked
    cases hwrite : env.configWrite with
    | refused => exact iff_of_true ⟨nofun, fun _ => habsent⟩ trivial
    | torn => exact iff_of_false (fun h => ne_true_of_eq_false (h.2 rfl) rfl) id
    | written =>
      obtain ⟨hused, hflag, hexists⟩ :=
        persistKeychainPreference_eq env useKeychain (hconfig pid did)
      dsimp only [StoredFile.write]
      rw [hused]
      exact allOrNothing_createDevice_iff hfileKey hflag hexists

/-- A home directory in which there is nothing. -/
def emptyHome : HomeDir where
  slots := fun _ => none
  config := .absent
  iamState := .absent

/-- `--init pr-a de-b` on a machine without a keychain, where all goes well but perhaps the creation
of the device. -/
def plainInit (deviceCreated : Bool) : InitEnvironment where
  productId := some (.ofString "pr-a")
  deviceId := some (.ofString "de-b")
  stdin := []
  keyFilePath := true
  keychainAvailable := false
  isatty := false
  keyStorageEnv := none
  deviceConfig := fun pid did =>
    { items := [(.ofString "ProductId", .string pid), (.ofString "DeviceId", .string did)]
      keychainKey_once :=
        have hnone : [CString.ofString "ProductId", .ofString "DeviceId"].count keychainConfigKey
            ≤ 1 := by decide
        hnone }
  configWrite := .written
  flagWrite := .written
  flagWriteAgain := .written
  deviceCreated := deviceCreated
  key :=
    { account := false, readFails := false, keySet := true, newKey := none, prepared := true
      deleteFails := false, addFails := false, fileKey := fun _ => (true, some (.ofString "key")) }
  userCreated := true
  password := some (.ofString "s3")
  sct := some (.ofString "tk")
  dumped := true
  iamWrite := .written

theorem init_all_or_nothing_iff_plain : AllOrNothing (initCommon (plainInit true) emptyHome) :=
  (init_all_or_nothing_iff (plainInit true) emptyHome rfl (fun _ _ => rfl) (fun _ _ => nofun)).mpr
    ⟨rfl, rfl, nofun, rfl, nofun, nofun⟩

/-- A device that is not created leaves its configuration behind. -/
theorem failed_init_leaves_config :
    ¬ ∀ (env : InitEnvironment) (home : HomeDir), home.config.exists = false →
        (∀ pid did, (env.deviceConfig pid did).keychainKey = false) →
        (∀ file, (env.key.fileKey file).1 = true → (env.key.fileKey file).2 ≠ none) →
        AllOrNothing (initCommon env home) := by
  intro hall
  have hnothing := (hall (plainInit false) emptyHome rfl (fun _ _ => rfl) (fun _ _ => nofun)).2 rfl
  exact nomatch hnothing

end TmuxRemote
