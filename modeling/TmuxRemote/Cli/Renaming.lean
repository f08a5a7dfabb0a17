import TmuxRemote.Cli.Pairing

/-!
# Cli/Renaming — another name for a saved agent (`tmuxremote_rename.c`)

`tmux-remote rename` finds a bookmark under a name, a device id or a place, and stores the new name,
cut to its buffer, without a look at the other bookmarks.  What is found afterwards depends on
whether the new name is one of theirs (`rename_meaningful_iff`).
-/

namespace TmuxRemote

/-! ## The command -/

/-- What the command meets. -/
structure RenameEnvironment where
  configInit : Bool
  write : WriteOutcome

/-- Where the command ends. -/
inductive RenameOutcome
  | usage
  | noHome
  | notFound
  | notSaved
  | renamed
  deriving DecidableEq

/-- The exit code. -/
def RenameOutcome.code : RenameOutcome → ℕ
  | .renamed => 0
  | _ => 1

/-- `strncpy` of the new name. -/
def DeviceBookmark.rename (newName : CString) (device : DeviceBookmark) : DeviceBookmark :=
  { device with name := .ofCString newName }

/-- The list with the new name at a place. -/
def ClientConfig.rename (config : ClientConfig) (place : ℕ) (newName : CString) : ClientConfig where
  devices := config.devices.modify place (.rename newName)
  deviceCount_le := (List.length_modify ..).trans_le config.deviceCount_le

/-- `tmuxremote_cmd_rename`, given the arguments after the command's name: where it ends, and the
file that it leaves. -/
def cmdRename (env : RenameEnvironment) (file : DevicesFile) :
    List CString → RenameOutcome × DevicesFile
  | currentName :: newName :: _ =>
    if !env.configInit then (.noHome, file)
    else
      let config := (configLoadDevices file).2
      match config.findDevice currentName with
      | none => (.notFound, file)
      | some dev =>
        let (file, saved) := saveList env.write file (some (config.rename dev newName))
        (if saved then .renamed else .notSaved, file)
  | _ => (.usage, file)

/-- **What a successful rename does**: the bookmark that is found gets the new name. -/
theorem cmdRename_renamed {env : RenameEnvironment} {file file' : DevicesFile} {args : List CString}
    (h : cmdRename env file args = (.renamed, file')) :
    ∃ currentName newName rest place, args = currentName :: newName :: rest ∧
      (configLoadDevices file).2.findDevice currentName = some place ∧
      file' = configSaveDevices ((configLoadDevices file).2.rename place newName) := by
  obtain _ | ⟨currentName, _ | ⟨newName, rest⟩⟩ := args
  · exact absurd h (by simp [cmdRename])
  · exact absurd h (by simp [cmdRename])
  rw [cmdRename] at h
  split_ifs at h with hinit
  · exact absurd h (by simp)
  dsimp only at h
  cases hfind : (configLoadDevices file).2.findDevice currentName with
  | none =>
    rw [hfind] at h
    exact absurd h (by simp)
  | some place =>
    simp only [hfind] at h
    obtain ⟨houtcome, hfile⟩ := Prod.mk.inj h
    have hsaved := by_contra fun hfailed =>
      RenameOutcome.noConfusion (ite_eq_left_iff.mp houtcome hfailed)
    obtain ⟨config, hconfig, hwritten⟩ := saveList_saved (Prod.ext hfile hsaved)
    obtain rfl := Option.some.inj hconfig
    exact ⟨currentName, newName, rest, place, rfl, hfind, hwritten⟩

/-! ## What is found -/

namespace ClientConfig

variable {config : ClientConfig} {name newName : CString} {place j : ℕ} {d : DeviceBookmark}

theorem isCalled_eq_false_iff :
    isCalled name d = false ↔ d.name.text ≠ name ∧ d.deviceId.text ≠ name := by
  rw [isCalled, Bool.or_eq_false_iff, decide_eq_false_iff_not, decide_eq_false_iff_not]

theorem isCalled_name (d : DeviceBookmark) : isCalled d.name.text d = true := by
  rw [isCalled, decide_eq_true rfl, Bool.true_or]

theorem isCalled_deviceId (d : DeviceBookmark) : isCalled d.deviceId.text d = true := by
  rw [isCalled, decide_eq_true rfl, Bool.or_true]

/-- A bookmark is found under what it is called unless one before it is called so. -/
theorem findDevice_eq_some_iff (hd : config.devices[j]? = some d)
    (hcalled : isCalled name d = true) :
    config.findDevice name = some j ↔
      ∀ k e, k < j → config.devices[k]? = some e → isCalled name e = false := by
  obtain ⟨hj, hget⟩ := List.getElem?_eq_some_iff.mp hd
  have hsome : (config.devices.findIdx? (isCalled name)).isSome = true := by
    rw [List.findIdx?_isSome, List.any_eq_true]
    exact ⟨d, List.mem_of_getElem? hd, hcalled⟩
  rw [findDevice, Option.or_of_isSome hsome, List.findIdx?_eq_some_iff_getElem]
  constructor
  · rintro ⟨_, -, hbefore⟩ k e hk he
    obtain ⟨hlt, rfl⟩ := List.getElem?_eq_some_iff.mp he
    exact Bool.eq_false_iff.mpr (hbefore k hk)
  · intro hbefore
    refine ⟨hj, hget ▸ hcalled, fun k hk => ?_⟩
    have hlt : k < config.devices.length := hk.trans hj
    rw [hbefore k _ hk (List.getElem?_eq_getElem hlt)]
    exact Bool.false_ne_true

/-- What is found is in the list. -/
theorem getElem?_of_findDevice (h : config.findDevice name = some place) :
    ∃ d, config.devices[place]? = some d := by
  suffices hlt : place < config.devices.length from ⟨_, List.getElem?_eq_getElem hlt⟩
  rw [findDevice, Option.or_eq_some_iff] at h
  obtain h | ⟨-, h⟩ := h
  · obtain ⟨hlt, -⟩ := List.findIdx?_eq_some_iff_getElem.mp h
    exact hlt
  · obtain ⟨idx, -, hrange⟩ := Option.bind_eq_some_iff.mp h
    obtain ⟨⟨hlow, hhigh⟩, hto⟩ := Option.ite_none_right_eq_some.mp hrange
    rw [← Option.some.inj hto]
    exact (Int.toNat_lt hlow).mpr hhigh

/-- What nothing is called is a place. -/
theorem findDevice_of_not_called (hnone : ∀ e ∈ config.devices, isCalled name e = false)
    (hplace : place < config.devices.length) :
    config.findDevice name = some place ↔ strtolWhole name.bytes = some (place : ℤ) := by
  have hidx : config.devices.findIdx? (isCalled name) = none := List.findIdx?_eq_none_iff.mpr hnone
  rw [findDevice, hidx, Option.none_or, Option.bind_eq_some_iff]
  constructor
  · rintro ⟨idx, hidx, hrange⟩
    obtain ⟨⟨hlow, -⟩, hto⟩ := Option.ite_none_right_eq_some.mp hrange
    rw [hidx, ← Option.some.inj hto, Int.toNat_of_nonneg hlow]
  · intro h
    refine ⟨place, h, ?_⟩
    rw [if_pos ⟨Int.natCast_nonneg place, Int.ofNat_lt.mpr hplace⟩, Int.toNat_natCast]

/-- What does not fit a buffer is no bookmark's. -/
theorem isCalled_of_long (hlong : tmuxremoteMaxNameLen - 1 < name.bytes.length)
    (d : DeviceBookmark) : isCalled name d = false := by
  have hne (buffer : CharBuffer tmuxremoteMaxNameLen) : buffer.text ≠ name := by
    rintro rfl
    exact absurd buffer.fits (Nat.not_le_of_lt hlong)
  exact isCalled_eq_false_iff.mpr ⟨hne d.name, hne d.deviceId⟩

theorem getElem?_rename_self (newName : CString) (hd : config.devices[place]? = some d) :
    (config.rename place newName).devices[place]? = some (d.rename newName) := by
  rw [rename, List.getElem?_modify_eq, hd]
  rfl

theorem getElem?_rename_of_ne (newName : CString) (h : place ≠ j) :
    (config.rename place newName).devices[j]? = config.devices[j]? :=
  List.getElem?_modify_ne _ _ h

end ClientConfig

/-! ## Names keep their meaning -/

/-- The new name finds the bookmark that was renamed, and every other one is found under its name
and under its device id. -/
structure KeepsNames (config : ClientConfig) (place : ℕ) (newName : CString) : Prop where
  found : config.findDevice newName = some place
  others : ∀ j d, j ≠ place → config.devices[j]? = some d →
    config.findDevice d.name.text = some j ∧ config.findDevice d.deviceId.text = some j

/-- Each bookmark is found under its own name. -/
def FoundByName (config : ClientConfig) : Prop :=
  ∀ j d, config.devices[j]? = some d → config.findDevice d.name.text = some j

/-- The new name is for the bookmark at the place: no earlier one is called so, or it is too long
to be kept and its digits are the place. -/
def LeadsTo (config : ClientConfig) (place : ℕ) (newName : CString) : Prop :=
  if newName.bytes.length ≤ tmuxremoteMaxNameLen - 1 then
    ∀ k e, k < place → config.devices[k]? = some e → ClientConfig.isCalled newName e = false
  else strtolWhole newName.bytes = some (place : ℤ)

/-- The list has room for the new name at the place. -/
structure HasRoomForName (config : ClientConfig) (place : ℕ) (newName : CString) : Prop where
  leadsTo : LeadsTo config place newName
  /-- No later bookmark is called what is kept of the new name. -/
  later : ∀ j d, place < j → config.devices[j]? = some d →
    ClientConfig.isCalled (newName.truncate (tmuxremoteMaxNameLen - 1)) d = false
  /-- The device ids of the others lead to them, the old name apart. -/
  deviceIds : ∀ j d k e, j ≠ place → config.devices[j]? = some d → k < j →
    config.devices[k]? = some e →
      e.deviceId.text ≠ d.deviceId.text ∧ (k ≠ place → e.name.text ≠ d.deviceId.text)

section
variable {config : ClientConfig} {newName : CString} {place : ℕ} {renamed : DeviceBookmark}

open ClientConfig

theorem findDevice_rename_iff (hplace : config.devices[place]? = some renamed) :
    (config.rename place newName).findDevice newName = some place
      ↔ LeadsTo config place newName := by
  rw [LeadsTo]
  split_ifs with hfits
  · have hcalled : isCalled newName (renamed.rename newName) = true := by
      have htext : (renamed.rename newName).name.text = newName := CharBuffer.text_ofCString hfits
      rw [isCalled, decide_eq_true htext, Bool.true_or]
    rw [findDevice_eq_some_iff (getElem?_rename_self newName hplace) hcalled]
    refine forall₂_congr fun k e => forall_congr' fun hk => ?_
    rw [getElem?_rename_of_ne newName (Nat.ne_of_gt hk)]
  · obtain ⟨hlt, -⟩ := List.getElem?_eq_some_iff.mp hplace
    exact findDevice_of_not_called
      (fun e _ => isCalled_of_long (Nat.lt_of_not_le hfits) e)
      (hlt.trans_eq (List.length_modify ..).symm)

/-- Another bookmark is found under what it is called unless one before it is called so, the renamed
one with its new name. -/
theorem findDevice_rename_iff_of_ne {name : CString} {j : ℕ} {d : DeviceBookmark}
    (hplace : config.devices[place]? = some renamed) (hj : j ≠ place)
    (hd : config.devices[j]? = some d) (hcalled : isCalled name d = true) :
    (config.rename place newName).findDevice name = some j ↔
      (place < j → isCalled name (renamed.rename newName) = false) ∧
        ∀ k e, k < j → k ≠ place → config.devices[k]? = some e → isCalled name e = false := by
  rw [findDevice_eq_some_iff ((getElem?_rename_of_ne newName hj.symm).trans hd) hcalled]
  constructor
  · intro hbefore
    exact ⟨fun hk => hbefore place _ hk (getElem?_rename_self newName hplace),
      fun k e hk hne he => hbefore k e hk ((getElem?_rename_of_ne newName hne.symm).trans he)⟩
  · rintro ⟨hself, hothers⟩ k e hk he
    obtain rfl | hne := eq_or_ne k place
    · obtain rfl := Option.some.inj ((getElem?_rename_self newName hplace).symm.trans he)
      exact hself hk
    · exact hothers k e hk hne ((getElem?_rename_of_ne newName hne.symm).symm.trans he)

/-- With room for the new name, another bookmark is found under its name and its device id. -/
theorem findDevice_rename_of_hasRoom {j : ℕ} {d : DeviceBookmark} (hnames : FoundByName config)
    (hroom : HasRoomForName config place newName) (hplace : config.devices[place]? = some renamed)
    (hj : j ≠ place) (hd : config.devices[j]? = some d) :
    (config.rename place newName).findDevice d.name.text = some j
      ∧ (config.rename place newName).findDevice d.deviceId.text = some j := by
  have hname := (findDevice_eq_some_iff hd (isCalled_name d)).mp (hnames j d hd)
  have hlater (hk : place < j) := isCalled_eq_false_iff.mp (hroom.later j d hk hd)
  rw [findDevice_rename_iff_of_ne hplace hj hd (isCalled_name d),
    findDevice_rename_iff_of_ne hplace hj hd (isCalled_deviceId d)]
  refine ⟨⟨fun hk => ?_, fun k e hk _ he => hname k e hk he⟩, fun hk => ?_, fun k e hk hne he => ?_⟩
  · exact isCalled_eq_false_iff.mpr
      ⟨(hlater hk).1.symm, (isCalled_eq_false_iff.mp (hname place renamed hk hplace)).2⟩
  · exact isCalled_eq_false_iff.mpr
      ⟨(hlater hk).2.symm, (hroom.deviceIds j d place renamed hj hd hk hplace).1⟩
  · obtain ⟨hid, hother⟩ := hroom.deviceIds j d k e hj hd hk he
    exact isCalled_eq_false_iff.mpr ⟨hother hne, hid⟩

/-- What the other bookmarks are found under is neither the new name nor an earlier device id. -/
theorem hasRoomForName_of_keepsNames (hplace : config.devices[place]? = some renamed)
    (h : KeepsNames (config.rename place newName) place newName) :
    HasRoomForName config place newName := by
  have hothers {j : ℕ} {d : DeviceBookmark} (hj : j ≠ place) (hd : config.devices[j]? = some d) :=
    (h.others j d hj ((getElem?_rename_of_ne newName hj.symm).trans hd)).imp
      (findDevice_rename_iff_of_ne hplace hj hd (isCalled_name d)).mp
      (findDevice_rename_iff_of_ne hplace hj hd (isCalled_deviceId d)).mp
  refine ⟨(findDevice_rename_iff hplace).mp h.found, fun j d hk hd => ?_,
    fun j d k e hj hd hk he => ?_⟩
  · obtain ⟨⟨hname, -⟩, hid, -⟩ := hothers (Nat.ne_of_gt hk) hd
    exact isCalled_eq_false_iff.mpr ⟨(isCalled_eq_false_iff.mp (hname hk)).1.symm,
      (isCalled_eq_false_iff.mp (hid hk)).1.symm⟩
  · obtain ⟨-, hself, hid⟩ := hothers hj hd
    obtain rfl | hne := eq_or_ne k place
    · obtain rfl := Option.some.inj (hplace.symm.trans he)
      exact ⟨(isCalled_eq_false_iff.mp (hself hk)).2, fun hne => absurd rfl hne⟩
    · obtain ⟨hname, hdeviceId⟩ := isCalled_eq_false_iff.mp (hid k e hk hne he)
      exact ⟨hdeviceId, fun _ => hname⟩

/-- There is room for a name that fits and that nothing is called, where the device ids lead to
their bookmarks. -/
theorem hasRoomForName_of_fresh (place : ℕ)
    (hfits : newName.bytes.length ≤ tmuxremoteMaxNameLen - 1)
    (hfresh : ∀ d ∈ config.devices, isCalled newName d = false)
    (hids : ∀ j d, config.devices[j]? = some d → config.findDevice d.deviceId.text = some j) :
    HasRoomForName config place newName := by
  refine ⟨?_, fun j d _ hd => ?_, fun j d k e _ hd hk he => ?_⟩
  · rw [LeadsTo, if_pos hfits]
    exact fun k e _ he => hfresh e (List.mem_of_getElem? he)
  · rw [CString.truncate_eq_self hfits]
    exact hfresh d (List.mem_of_getElem? hd)
  · have hbefore := (findDevice_eq_some_iff hd (isCalled_deviceId d)).mp (hids j d hd) k e hk he
    obtain ⟨hname, hid⟩ := isCalled_eq_false_iff.mp hbefore
    exact ⟨hid, fun _ => hname⟩

end

/-- **Renaming keeps names meaningful, exactly** when the list has room for the new name: it is not
what a bookmark before is called, nor, cut to the buffer, what one behind is called, and the device
ids of the others were already found. -/
theorem rename_meaningful_iff (env : RenameEnvironment) (file file' : DevicesFile)
    (currentName newName : CString) (rest : List CString) (place : ℕ)
    (hrename : cmdRename env file (currentName :: newName :: rest) = (.renamed, file'))
    (hnames : FoundByName (configLoadDevices file).2)
    (hfind : (configLoadDevices file).2.findDevice currentName = some place) :
    KeepsNames (configLoadDevices file').2 place newName
      ↔ HasRoomForName (configLoadDevices file).2 place newName := by
  obtain ⟨current, new, others, i, hargs, hi, rfl⟩ := cmdRename_renamed hrename
  cases hargs
  obtain rfl := Option.some.inj (hfind.symm.trans hi)
  obtain ⟨renamed, hplace⟩ := ClientConfig.getElem?_of_findDevice hfind
  rw [configLoadDevices_save]
  exact ⟨hasRoomForName_of_keepsNames hplace, fun hroom =>
    ⟨(findDevice_rename_iff hplace).mpr hroom.leadsTo, fun j d hj hd =>
      findDevice_rename_of_hasRoom hnames hroom hplace hj
        ((ClientConfig.getElem?_rename_of_ne newName hj.symm).symm.trans hd)⟩⟩

/-- A bookmark of a name and a device id. -/
def bookmarkOf (name deviceId : String) : DeviceBookmark where
  name := .ofCString (.ofString name)
  productId := .ofCString (.ofString "pr-a")
  deviceId := .ofCString (.ofString deviceId)
  fingerprint := .ofCString default
  sct := .ofCString default

/-- Two agents. -/
def twoAgents : ClientConfig where
  devices := [bookmarkOf "home" "de-a", bookmarkOf "work" "de-b"]
  deviceCount_le := by decide

/-- Both are found by their names and by their device ids. -/
theorem twoAgents_found (j : ℕ) (d : DeviceBookmark) (hd : twoAgents.devices[j]? = some d) :
    twoAgents.findDevice d.name.text = some j ∧ twoAgents.findDevice d.deviceId.text = some j := by
  obtain _ | _ | j := j
  · obtain rfl := Option.some.inj hd
    decide +kernel
  · obtain rfl := Option.some.inj hd
    decide +kernel
  · exact absurd hd (Option.some_ne_none d).symm

theorem rename_meaningful_iff_attic :
    KeepsNames
      (configLoadDevices (cmdRename ⟨true, .written⟩ (configSaveDevices twoAgents)
        [.ofString "home", .ofString "attic"]).2).2 0 (.ofString "attic") := by
  have hload := configLoadDevices_save twoAgents
  refine (rename_meaningful_iff ⟨true, .written⟩ (configSaveDevices twoAgents) _ (.ofString "home")
    (.ofString "attic") [] 0 rfl (fun j d hd => ?_) (by decide +kernel)).mpr ?_
  · rw [hload] at hd ⊢
    exact (twoAgents_found j d hd).1
  · rw [hload]
    exact hasRoomForName_of_fresh 0 (by decide +kernel) (by decide +kernel) fun j d hd =>
      (twoAgents_found j d hd).2

/-- The name of another agent is taken, and leads there. -/
theorem taken_name_not_meaningful :
    ¬ ∀ (env : RenameEnvironment) (file file' : DevicesFile) (currentName newName : CString)
        (rest : List CString) (place : ℕ),
        cmdRename env file (currentName :: newName :: rest) = (.renamed, file') →
        FoundByName (configLoadDevices file).2 →
        (configLoadDevices file).2.findDevice currentName = some place →
        KeepsNames (configLoadDevices file').2 place newName := by
  intro hall
  have hnames : FoundByName (configLoadDevices (configSaveDevices twoAgents)).2 := by
    rw [configLoadDevices_save]
    exact fun j d hd => (twoAgents_found j d hd).1
  have hkeeps := hall ⟨true, .written⟩ (configSaveDevices twoAgents) _ (.ofString "work")
    (.ofString "home") [] 1 rfl hnames (by decide +kernel)
  exact absurd hkeeps.found (by decide +kernel)

end TmuxRemote
