import TmuxRemote.Cli.Bookmarks

/-!
# Cli/Pairing — using up an invitation (`tmuxremote_pair.c`)

`tmux-remote pair` looks its device up in the list, completes the pairing with the agent, and saves
a bookmark.  The first and the last of these have notions of their own of what is in the list: the
lookup goes by name, device id or place, the replacement by device id, and room for one more is
looked for at the very end.  In between the invitation is used up, and the answer that says so may
be lost (`invitation_saved_iff`).
-/

namespace TmuxRemote

/-! ## The command -/

/-- The optional arguments. -/
structure PairOptions where
  friendlyName : Option CString
  force : Bool
  deriving DecidableEq

/-- The loop over the optional arguments. -/
def parsePairOptions (options : PairOptions) : List CString → PairOptions
  | [] => options
  | arg :: args =>
    if arg = .ofString "--name" then
      match args with
      | [] => options
      | name :: args => parsePairOptions { options with friendlyName := some name } args
    else if arg = .ofString "--force" ∨ arg = .ofString "-f" then
      parsePairOptions { options with force := true } args
    else parsePairOptions options args

/-- What `write_file` does to `devices.json`; a write that fails may leave a part of it. -/
inductive WriteOutcome
  | written
  | failed (left : DevicesFile)

/-- What becomes of the password-invite request. -/
inductive InviteOutcome
  | refused
  /-- The agent has accepted it, and the answer is lost. -/
  | answerLost
  | accepted
  deriving DecidableEq

/-- What the command meets: each call of the client library, and of the file system, with its
outcome. -/
structure PairEnvironment where
  configInit : Bool
  /-- `getchar` -/
  answer : Option UInt8
  clientNew : Bool
  /-- `tmuxremote_config_load_or_create_key` -/
  keyLoaded : Bool
  connectionNew : Bool
  /-- `tmuxremote_build_connection_options` -/
  optionsBuilt : Bool
  optionsSet : Bool
  connected : Bool
  authenticated : Bool
  /-- `tmuxremote_coap_pair_password_invite`, which is true of an answer that says so. -/
  invite : InviteOutcome
  /-- `nabto_client_connection_get_device_fingerprint` -/
  deviceFingerprint : Option CString
  write : WriteOutcome

/-- Where the command ends. -/
inductive PairOutcome
  | usage
  | invalidPairingString
  | noHome
  | aborted
  | noClient
  | noKey
  | noConnection
  | noOptions
  | optionsRefused
  | notConnected
  | notAuthenticated
  /-- No answer has said that the request is accepted; `usedUp` is whether it was. -/
  | notPaired (usedUp : Bool)
  /-- The request is accepted; `saved` is whether the bookmark was. -/
  | paired (saved : Bool)
  deriving DecidableEq

namespace PairOutcome

/-- The exit code. -/
def code : PairOutcome → ℕ
  | paired _ => 0
  | _ => 1

/-- The agent has accepted the request, and the invitation is used up. -/
def isUsedUp : PairOutcome → Bool
  | notPaired usedUp => usedUp
  | paired _ => true
  | _ => false

end PairOutcome

/-- `'y'` or `'Y'` -/
def isYes (ch : Option UInt8) : Bool := ch = some 0x79 || ch = some 0x59

/-- The bookmark that is saved. -/
def newBookmark (env : PairEnvironment) (options : PairOptions) (info : TmuxremotePairingInfo) :
    DeviceBookmark where
  name := .ofCString (options.friendlyName.getD info.deviceId)
  productId := .ofCString info.productId
  deviceId := .ofCString info.deviceId
  fingerprint := .ofCString (env.deviceFingerprint.getD default)
  sct := .ofCString info.sct

/-- The file after a list has been saved, and whether it was. -/
def saveList (write : WriteOutcome) (file : DevicesFile) :
    Option ClientConfig → DevicesFile × Bool
  | none => (file, false)
  | some config =>
    match write with
    | .written => (configSaveDevices config, true)
    | .failed left => (left, false)

/-- What has been saved is written whole. -/
theorem saveList_saved {write : WriteOutcome} {file file' : DevicesFile}
    {list : Option ClientConfig} (h : saveList write file list = (file', true)) :
    ∃ config, list = some config ∧ file' = configSaveDevices config := by
  cases list with
  | none => exact absurd h (by simp [saveList])
  | some config =>
    cases write with
    | failed left => exact absurd h (by simp [saveList])
    | written => exact ⟨config, rfl, (congrArg Prod.fst h).symm⟩

/-- The end of `tmuxremote_cmd_pair`, from the password invitation on. -/
def completePairing (env : PairEnvironment) (file : DevicesFile) (config : ClientConfig)
    (options : PairOptions) (info : TmuxremotePairingInfo) (replacing : Bool) :
    PairOutcome × DevicesFile :=
  match env.invite with
  | .refused => (.notPaired false, file)
  | .answerLost => (.notPaired true, file)
  | .accepted =>
    let bookmark := newBookmark env options info
    let (file, saved) :=
      saveList env.write file
        (if replacing then config.replaceDevice info.deviceId bookmark
          else config.addDevice bookmark)
    (.paired saved, file)

/-- `tmuxremote_cmd_pair`, given the arguments after the command's name: where it ends, and the file
that it leaves. -/
def cmdPair (env : PairEnvironment) (file : DevicesFile) : List CString → PairOutcome × DevicesFile
  | [] => (.usage, file)
  | pairingStr :: args =>
    let options := parsePairOptions { friendlyName := none, force := false } args
    match tmuxremoteParsePairingString pairingStr with
    | (false, _) => (.invalidPairingString, file)
    | (true, info) =>
      if !env.configInit then (.noHome, file)
      else
        let config := (configLoadDevices file).2
        let existing := (config.findDevice info.deviceId).isSome
        if existing && !options.force && !isYes env.answer then (.aborted, file)
        else if !env.clientNew then (.noClient, file)
        else if !env.keyLoaded then (.noKey, file)
        else if !env.connectionNew then (.noConnection, file)
        else if !env.optionsBuilt then (.noOptions, file)
        else if !env.optionsSet then (.optionsRefused, file)
        else if !env.connected then (.notConnected, file)
        else if !env.authenticated then (.notAuthenticated, file)
        else completePairing env file config options info existing

/-! ## What is saved -/

/-- The fields of an invitation that has been read fit their buffers. -/
structure TmuxremotePairingInfo.Fits (info : TmuxremotePairingInfo) : Prop where
  productId : info.productId.bytes.length ≤ tmuxremoteMaxNameLen - 1
  deviceId : info.deviceId.bytes.length ≤ tmuxremoteMaxNameLen - 1
  sct : info.sct.bytes.length ≤ tmuxremoteMaxNameLen - 1

theorem length_copyValue (value : List UInt8) :
    (copyValue value).bytes.length ≤ tmuxremoteMaxNameLen - 1 :=
  List.length_take_le _ _

theorem TmuxremotePairingInfo.Fits.readToken {info : TmuxremotePairingInfo} (h : info.Fits)
    (token : List UInt8) : (readToken info token).Fits := by
  rw [TmuxRemote.readToken]
  split
  · exact h
  · rename_i key value _
    rw [setValue]
    split_ifs
    · exact ⟨length_copyValue value, h.deviceId, h.sct⟩
    · exact ⟨h.productId, length_copyValue value, h.sct⟩
    · exact ⟨h.productId, h.deviceId, h.sct⟩
    · exact ⟨h.productId, h.deviceId, h.sct⟩
    · exact ⟨h.productId, h.deviceId, length_copyValue value⟩
    · exact h

/-- What is read of a pairing string fits. -/
theorem fits_parsePairingString (str : CString) : (tmuxremoteParsePairingString str).2.Fits := by
  have hzero : TmuxremotePairingInfo.Fits ⟨default, default, default, default, default⟩ :=
    ⟨Nat.zero_le _, Nat.zero_le _, Nat.zero_le _⟩
  have hfold (tokens : List (List UInt8)) (start : TmuxremotePairingInfo) (hstart : start.Fits) :
      (tokens.foldl TmuxRemote.readToken start).Fits := by
    induction tokens generalizing start with
    | nil => exact hstart
    | cons token tokens ih => exact ih _ (hstart.readToken token)
  rw [tmuxremoteParsePairingString]
  dsimp only
  split_ifs
  · exact hzero
  · exact hfold _ _ hzero
  · exact hfold _ _ hzero

/-! ## Invitations are not used up for nothing -/

/-- The file holds the list. -/
def Holds (file : DevicesFile) (config : ClientConfig) : Prop :=
  file = configSaveDevices config ∨ file = .absent ∧ config.devices = []

/-- A bookmark of the device carries the invitation. -/
def CarriesInvitation (config : ClientConfig) (info : TmuxremotePairingInfo) : Prop :=
  ∃ d ∈ config.devices, d.deviceId.text = info.deviceId ∧ d.productId.text = info.productId
    ∧ d.sct.text = info.sct

/-- A bookmark of the device carries the invitation, and those of the others are as before. -/
def SavesInvitation (info : TmuxremotePairingInfo) (config config' : ClientConfig) : Prop :=
  CarriesInvitation config' info ∧ config'.others info.deviceId = config.others info.deviceId

/-- The device is in the list; or nothing in the list passes for it, and there is room. -/
def HasPlace (config : ClientConfig) (deviceId : CString) : Prop :=
  (∃ d ∈ config.devices, d.deviceId.text = deviceId)
    ∨ config.findDevice deviceId = none ∧ config.devices.length < tmuxremoteMaxDevices

section
variable {env : PairEnvironment} {file : DevicesFile} {config : ClientConfig}
  {options : PairOptions} {info : TmuxremotePairingInfo}

theorem configLoadDevices_of_holds (h : Holds file config) :
    (configLoadDevices file).2 = config := by
  obtain rfl | ⟨rfl, hempty⟩ := h
  · exact congrArg Prod.snd (configLoadDevices_save config)
  · exact ClientConfig.ext hempty.symm

/-- An invitation that is used up has passed the check. -/
theorem ite_eq_of_isUsedUp {p : Prop} [Decidable p] {outcome : PairOutcome}
    {rest : PairOutcome × DevicesFile} (houtcome : outcome.isUsedUp = false)
    (h : (if p then (outcome, file) else rest).1.isUsedUp = true) :
    (if p then (outcome, file) else rest) = rest := by
  by_cases hp : p
  · rw [if_pos hp, houtcome] at h
    exact nomatch h
  · exact if_neg hp

/-- **What an accepted request leads to**: the end of the command, on the list that was loaded. -/
theorem cmdPair_isUsedUp {pairingStr : CString} {args : List CString}
    (hparse : tmuxremoteParsePairingString pairingStr = (true, info))
    (hused : (cmdPair env file (pairingStr :: args)).1.isUsedUp = true) :
    cmdPair env file (pairingStr :: args)
      = completePairing env file (configLoadDevices file).2
          (parsePairOptions { friendlyName := none, force := false } args) info
          ((configLoadDevices file).2.findDevice info.deviceId).isSome := by
  simp only [cmdPair, hparse] at hused ⊢
  iterate 9
    have hpassed := ite_eq_of_isUsedUp rfl hused
    rw [hpassed] at hused ⊢

theorem newBookmark_spec (env : PairEnvironment) (options : PairOptions) (hfits : info.Fits) :
    (newBookmark env options info).deviceId.text = info.deviceId
      ∧ (newBookmark env options info).productId.text = info.productId
      ∧ (newBookmark env options info).sct.text = info.sct :=
  ⟨CharBuffer.text_ofCString hfits.deviceId, CharBuffer.text_ofCString hfits.productId,
    CharBuffer.text_ofCString hfits.sct⟩

/-- What is not saved is not there. -/
theorem not_savesInvitation {config : ClientConfig}
    (h : ∀ d ∈ config.devices, d.deviceId.text ≠ info.deviceId) :
    ¬ SavesInvitation info config config := by
  rintro ⟨⟨d, hd, hid, -⟩, -⟩
  exact h d hd hid

/-- A list that has been saved carries the invitation. -/
theorem savesInvitation_of_mem {bookmark : DeviceBookmark} {config config' : ClientConfig}
    (hspec : bookmark.deviceId.text = info.deviceId ∧ bookmark.productId.text = info.productId
      ∧ bookmark.sct.text = info.sct)
    (h : bookmark ∈ config'.devices ∧ config'.others info.deviceId = config.others info.deviceId) :
    SavesInvitation info config config' :=
  ⟨⟨bookmark, h.1, hspec⟩, h.2⟩

/-- A device that something passes for has a place when it is in the list itself. -/
theorem hasPlace_iff_of_isSome {deviceId : CString}
    (h : (config.findDevice deviceId).isSome = true) :
    HasPlace config deviceId ↔ ∃ d ∈ config.devices, d.deviceId.text = deviceId := by
  rw [HasPlace, or_iff_left]
  rintro ⟨hnone, -⟩
  exact absurd h (by simp [hnone])

/-- A device that nothing passes for has a place when there is room. -/
theorem hasPlace_iff_of_eq_none {deviceId : CString} (h : config.findDevice deviceId = none) :
    HasPlace config deviceId ↔ config.devices.length < tmuxremoteMaxDevices := by
  rw [HasPlace, or_iff_right, and_iff_right h]
  rintro ⟨d, hd, hid⟩
  exact ClientConfig.findDevice_ne_none hd (decide_eq_true hid) h

/-- The end of the command that replaces a bookmark. -/
theorem replaced_saved_iff (hload : (configLoadDevices file).2 = config) (hfits : info.Fits)
    (hwrite : env.write = .written) :
    SavesInvitation info config (configLoadDevices (saveList env.write file
        (config.replaceDevice info.deviceId (newBookmark env options info))).1).2
      ↔ ∃ d ∈ config.devices, d.deviceId.text = info.deviceId := by
  have hspec := newBookmark_spec env options hfits
  cases hreplace : config.replaceDevice info.deviceId (newBookmark env options info) with
  | none =>
    have hnone := ClientConfig.replaceDevice_eq_none_iff.mp hreplace
    have hother (d : DeviceBookmark) (hd : d ∈ config.devices) : d.deviceId.text ≠ info.deviceId :=
      of_decide_eq_false (hnone d hd)
    rw [saveList, hload]
    refine iff_of_false (not_savesInvitation hother) ?_
    rintro ⟨d, hd, hid⟩
    exact hother d hd hid
  | some config' =>
    simp only [saveList, hwrite, configLoadDevices_save]
    refine iff_of_true (savesInvitation_of_mem hspec
      (ClientConfig.replaceDevice_eq_some hreplace (decide_eq_true hspec.1))) ?_
    by_contra hnone
    refine Option.some_ne_none config' (hreplace.symm.trans ?_)
    exact ClientConfig.replaceDevice_eq_none_iff.mpr fun d hd =>
      decide_eq_false fun hid => hnone ⟨d, hd, hid⟩

/-- The end of the command that adds a bookmark. -/
theorem added_saved_iff (hload : (configLoadDevices file).2 = config) (hfits : info.Fits)
    (hwrite : env.write = .written) (hnone : config.findDevice info.deviceId = none) :
    SavesInvitation info config (configLoadDevices (saveList env.write file
        (config.addDevice (newBookmark env options info))).1).2
      ↔ config.devices.length < tmuxremoteMaxDevices := by
  have hspec := newBookmark_spec env options hfits
  cases hadd : config.addDevice (newBookmark env options info) with
  | none =>
    rw [saveList, hload]
    refine iff_of_false (not_savesInvitation fun d hd hid => ?_)
      (Nat.not_lt_of_le (ClientConfig.addDevice_eq_none_iff.mp hadd))
    exact ClientConfig.findDevice_ne_none hd (decide_eq_true hid) hnone
  | some config' =>
    simp only [saveList, hwrite, configLoadDevices_save]
    refine iff_of_true (savesInvitation_of_mem hspec
      (ClientConfig.addDevice_eq_some hadd (decide_eq_true hspec.1))) ?_
    by_contra hfull
    refine Option.some_ne_none config' (hadd.symm.trans ?_)
    exact ClientConfig.addDevice_eq_none_iff.mpr (Nat.le_of_not_lt hfull)

/-- An accepted invitation is saved when its answer arrives and the device has a place; what is not
answered changes nothing. -/
def SavedWhen (invite : InviteOutcome) (config : ClientConfig) (info : TmuxremotePairingInfo) :
    Prop :=
  match invite with
  | .accepted => HasPlace config info.deviceId
  | .refused | .answerLost => CarriesInvitation config info

/-- **Invitations are used up for something, exactly** when the answer arrives and their device is
in the list, or nothing in the list passes for it and there is room for one more. -/
theorem invitation_saved_iff (env : PairEnvironment) (file : DevicesFile) (config : ClientConfig)
    (pairingStr : CString) (args : List CString) (info : TmuxremotePairingInfo)
    (hholds : Holds file config) (hwrite : env.write = .written)
    (hparse : tmuxremoteParsePairingString pairingStr = (true, info))
    (hused : (cmdPair env file (pairingStr :: args)).1.isUsedUp = true) :
    SavesInvitation info config (configLoadDevices (cmdPair env file (pairingStr :: args)).2).2
      ↔ SavedWhen env.invite config info := by
  have hfits : info.Fits := by
    have h := fits_parsePairingString pairingStr
    rwa [hparse] at h
  have hload := configLoadDevices_of_holds hholds
  have hend := cmdPair_isUsedUp hparse hused
  rw [hload] at hend
  rw [hend] at hused ⊢
  rw [completePairing] at hused ⊢
  cases hinvite : env.invite with
  | refused =>
    rw [hinvite] at hused
    exact nomatch hused
  | answerLost =>
    simp only [hload]
    exact and_iff_left rfl
  | accepted =>
    cases hfind : (config.findDevice info.deviceId).isSome with
    | true =>
      rw [SavedWhen, hasPlace_iff_of_isSome hfind]
      exact replaced_saved_iff hload hfits hwrite
    | false =>
      have hnone : config.findDevice info.deviceId = none := by simpa using hfind
      rw [SavedWhen, hasPlace_iff_of_eq_none hnone]
      exact added_saved_iff hload hfits hwrite hnone

/-- The invitation of `p=pr-a,d=de-b,u=bob,pwd=s3,sct=tk`. -/
def invitationOfDeB : TmuxremotePairingInfo where
  productId := .ofString "pr-a"
  deviceId := .ofString "de-b"
  username := .ofString "bob"
  password := .ofString "s3"
  sct := .ofString "tk"

/-- A pairing in which every call succeeds. -/
def smoothPairing : PairEnvironment where
  configInit := true
  answer := none
  clientNew := true
  keyLoaded := true
  connectionNew := true
  optionsBuilt := true
  optionsSet := true
  connected := true
  authenticated := true
  invite := .accepted
  deviceFingerprint := none
  write := .written

/-- A list of one bookmark, of another device but under the name `de-b`. -/
def namedDeB : ClientConfig where
  devices :=
    [{ name := .ofCString (.ofString "de-b"), productId := .ofCString (.ofString "pr-a")
       deviceId := .ofCString (.ofString "de-a"), fingerprint := .ofCString default
       sct := .ofCString default }]
  deviceCount_le := by decide

/-- One more bookmark, which is the device's own. -/
def ownDeB : ClientConfig where
  devices := namedDeB.devices ++
    [{ name := .ofCString (.ofString "home"), productId := .ofCString (.ofString "pr-a")
       deviceId := .ofCString (.ofString "de-b"), fingerprint := .ofCString default
       sct := .ofCString (.ofString "old") }]
  deviceCount_le := by decide

/-- It is replaced, behind the one that has its id for a name. -/
theorem invitation_saved_iff_replaced :
    SavesInvitation invitationOfDeB ownDeB
      (configLoadDevices (cmdPair smoothPairing (configSaveDevices ownDeB)
        [.ofString "p=pr-a,d=de-b,u=bob,pwd=s3,sct=tk", .ofString "--force"]).2).2 := by
  refine (invitation_saved_iff smoothPairing (configSaveDevices ownDeB) ownDeB _
    [.ofString "--force"] invitationOfDeB (Or.inl rfl) rfl (by decide +kernel)
    (by decide +kernel)).mpr (Or.inl ?_)
  decide +kernel

/-- A device whose id is the name of another one's bookmark is not saved. -/
theorem named_device_not_saved :
    ¬ ∀ (env : PairEnvironment) (file : DevicesFile) (config : ClientConfig)
        (pairingStr : CString) (args : List CString) (info : TmuxremotePairingInfo),
        Holds file config → env.write = .written →
        tmuxremoteParsePairingString pairingStr = (true, info) →
        (cmdPair env file (pairingStr :: args)).1.isUsedUp = true →
        SavesInvitation info config
          (configLoadDevices (cmdPair env file (pairingStr :: args)).2).2 := by
  intro hall
  have hsaved := hall smoothPairing (configSaveDevices namedDeB) namedDeB
    (.ofString "p=pr-a,d=de-b,u=bob,pwd=s3,sct=tk") [.ofString "--force"] invitationOfDeB
    (Or.inl rfl) rfl (by decide +kernel) (by decide +kernel)
  obtain ⟨⟨d, hd, hid, -⟩, -⟩ := hsaved
  revert hid
  revert d
  decide +kernel

end

end TmuxRemote
