import TmuxRemote.Ios.DeviceList
import TmuxRemote.Library.History
import TmuxRemote.Library.Keyed

/-!
# Ios/Resume — what the app opens when it is launched (`BookmarkStore.swift`, `ResumeLogic.swift`)

The store keeps the devices and the id of the last one, and writes both to the defaults with every
change; a launch reads them back.  The app resumes a session exactly if it was the last one that was
opened on a saved device, and the device has since been neither removed, paired again, nor found
without the session (`resume_iff`).  When the last device is removed, no older one takes its place.

`JSONEncoder` and `JSONDecoder` are not part of the repository.  Dates are left out.
-/

namespace TmuxRemote

open DeviceList History Keyed

/-- `bookmark.lastSession = session` -/
def DeviceList.DeviceBookmark.withSession (bookmark : DeviceBookmark) (session : Option String) :
    DeviceBookmark := { bookmark with lastSession := session }

@[simp] theorem DeviceList.DeviceBookmark.withSession_deviceId (bookmark : DeviceBookmark)
    (session : Option String) : (bookmark.withSession session).deviceId = bookmark.deviceId := rfl

theorem DeviceList.DeviceBookmark.eq_withSession_iff {bookmark bookmark' : DeviceBookmark}
    {session : Option String} :
    bookmark = bookmark'.withSession session ↔
      bookmark.lastSession = session ∧ bookmark.withSession none = bookmark'.withSession none := by
  constructor
  · rintro rfl
    exact ⟨rfl, rfl⟩
  · rintro ⟨rfl, h⟩
    exact congrArg (·.withSession bookmark.lastSession) h

/-! ## The store -/

/-- `JSONEncoder` and `JSONDecoder`, as the store sets them up. -/
structure DeviceCoder (δ : Type*) where
  encode : List DeviceBookmark → Option δ
  decode : δ → Option (List DeviceBookmark)

/-- Devices can be encoded, and are decoded to what they were. -/
def DeviceCoder.Faithful {δ : Type*} (coder : DeviceCoder δ) : Prop :=
  ∀ devices, ∃ data, coder.encode devices = some data ∧ coder.decode data = some devices

/-- What stands in the `UserDefaults` under `devicesKey` and `lastDeviceKey`. -/
structure StoreDefaults (δ : Type*) where
  devices : Option δ
  lastDevice : Option String

/-- `BookmarkStore` -/
structure BookmarkStore (δ : Type*) where
  defaults : StoreDefaults δ
  devices : List DeviceBookmark

/-- `LaunchDestination` -/
inductive LaunchDestination
  | resumeSession (bookmark : DeviceBookmark) (session : String)
  | deviceList
  deriving DecidableEq

/-- `resolveLaunchDestination` -/
def resolveLaunchDestination (devices : List DeviceBookmark) (lastDeviceId : Option String) :
    LaunchDestination :=
  match lastDeviceId with
  | none => .deviceList
  | some lastDeviceId =>
    match lookup DeviceBookmark.deviceId lastDeviceId devices with
    | none => .deviceList
    | some bookmark =>
      match bookmark.lastSession with
      | none => .deviceList
      | some session => .resumeSession bookmark session

namespace BookmarkStore

variable {δ : Type*} (coder : DeviceCoder δ) (store : BookmarkStore δ)

/-- `lastDeviceId` -/
def lastDeviceId : Option String := store.defaults.lastDevice

/-- The setter of `lastDeviceId`. -/
def setLastDeviceId (id : Option String) : BookmarkStore δ :=
  { store with defaults := { store.defaults with lastDevice := id } }

/-- `load()` -/
def load : BookmarkStore δ :=
  match store.defaults.devices with
  | none => { store with devices := [] }
  | some data => { store with devices := (coder.decode data).getD [] }

/-- `init(defaults:)` -/
def init (defaults : StoreDefaults δ) : BookmarkStore δ := load coder ⟨defaults, []⟩

/-- `save()` -/
def save : BookmarkStore δ :=
  match coder.encode store.devices with
  | none => store
  | some data => { store with defaults := { store.defaults with devices := some data } }

/-- `devices.firstIndex(where: { $0.deviceId == id })` -/
def firstIndex (id : String) : Option ℕ := store.devices.findIdx? (·.deviceId = id)

/-- `addDevice(_:)` -/
def addDevice (bookmark : DeviceBookmark) : BookmarkStore δ :=
  match store.firstIndex bookmark.deviceId with
  | some index => save coder { store with devices := store.devices.set index bookmark }
  | none => save coder { store with devices := store.devices ++ [bookmark] }

/-- `if lastDeviceId == id { lastDeviceId = nil }` -/
def forgetLast (id : String) : BookmarkStore δ :=
  if store.lastDeviceId = some id then store.setLastDeviceId none else store

/-- `removeDevice(id:)` -/
def removeDevice (id : String) : BookmarkStore δ :=
  let store := { store with devices := store.devices.filter (·.deviceId ≠ id) }
  save coder (store.forgetLast id)

/-- `updateLastSession(deviceId:session:)` -/
def updateLastSession (deviceId session : String) : BookmarkStore δ :=
  match store.firstIndex deviceId with
  | none => store
  | some index =>
    let devices := store.devices.modify index (·.withSession (some session))
    save coder ({ store with devices := devices }.setLastDeviceId (some deviceId))

/-- `clearLastSession(deviceId:)` -/
def clearLastSession (deviceId : String) : BookmarkStore δ :=
  match store.firstIndex deviceId with
  | none => store
  | some index =>
    let devices := store.devices.modify index (·.withSession none)
    save coder ({ store with devices := devices }.forgetLast deviceId)

/-- `bookmark(for:)` -/
def bookmark (deviceId : String) : Option DeviceBookmark :=
  lookup DeviceBookmark.deviceId deviceId store.devices

end BookmarkStore

/-- What `RootView` starts with: the store is read from the defaults. -/
def launch {δ : Type*} (coder : DeviceCoder δ) (defaults : StoreDefaults δ) : LaunchDestination :=
  let store := BookmarkStore.init coder defaults
  resolveLaunchDestination store.devices store.lastDeviceId

/-- The bookmark that `pair(info:)` returns. -/
def pairedBookmark (productId deviceId sct fingerprint : String) : DeviceBookmark where
  productId := productId
  deviceId := deviceId
  fingerprint := fingerprint
  sct := sct
  name := deviceId
  lastSession := none

@[simp] theorem pairedBookmark_deviceId (productId deviceId sct fingerprint : String) :
    (pairedBookmark productId deviceId sct fingerprint).deviceId = deviceId := rfl

/-- What happens to the store. -/
inductive StoreCall
  /-- The app was killed, and is launched again. -/
  | launch
  /-- `doPairing` adds what it got. -/
  | pair (productId deviceId sct fingerprint : String)
  | removeDevice (id : String)
  /-- `connectAndAttach` comes to its end. -/
  | updateLastSession (deviceId session : String)
  /-- The session is not found. -/
  | clearLastSession (deviceId : String)
  deriving DecidableEq

namespace BookmarkStore

variable {δ : Type*} (coder : DeviceCoder δ)

def step (store : BookmarkStore δ) : StoreCall → BookmarkStore δ
  | .launch => init coder store.defaults
  | .pair productId deviceId sct fingerprint =>
    store.addDevice coder (pairedBookmark productId deviceId sct fingerprint)
  | .removeDevice id => store.removeDevice coder id
  | .updateLastSession deviceId session => store.updateLastSession coder deviceId session
  | .clearLastSession deviceId => store.clearLastSession coder deviceId

/-- The store of a fresh installation after some calls, the latest first. -/
def after : List StoreCall → BookmarkStore δ
  | [] => init coder ⟨none, none⟩
  | call :: past => step coder (after past) call

/-! ## What each call does to the store -/

variable {coder} (store : BookmarkStore δ)

/-- Saving writes the bookmarks and says nothing of which was last. -/
@[simp] theorem lastDeviceId_save : (store.save coder).lastDeviceId = store.lastDeviceId := by
  rw [save]
  split
  · rfl
  · rfl

@[simp] theorem bookmark_save (id : String) :
    (store.save coder).bookmark id = store.bookmark id := by
  rw [save]
  split
  · rfl
  · rfl

/-- What was saved is what the next launch reads. -/
theorem init_save (hcoder : coder.Faithful) :
    init coder (store.save coder).defaults = store.save coder := by
  obtain ⟨data, hencode, hdecode⟩ := hcoder store.devices
  have hsave : store.save coder
      = ⟨⟨some data, store.defaults.lastDevice⟩, store.devices⟩ := by
    rw [save, hencode]
  rw [hsave, init, load]
  simp [hdecode]

/-- The last device is forgotten if it is this one. -/
theorem lastDeviceId_forgetLast (id : String) :
    (store.forgetLast id).lastDeviceId
      = if store.lastDeviceId = some id then none else store.lastDeviceId := by
  rw [forgetLast, apply_ite lastDeviceId]
  rfl

@[simp] theorem bookmark_forgetLast (id id' : String) :
    (store.forgetLast id).bookmark id' = store.bookmark id' := by
  rw [forgetLast]
  split_ifs
  · rfl
  · rfl

@[simp] theorem lastDeviceId_addDevice (bookmark : DeviceBookmark) :
    (store.addDevice coder bookmark).lastDeviceId = store.lastDeviceId := by
  rw [addDevice]
  split
  · exact lastDeviceId_save _
  · exact lastDeviceId_save _

/-- A device is added in the place of its old bookmark, session and all. -/
theorem bookmark_addDevice (bookmark : DeviceBookmark) (id : String) :
    (store.addDevice coder bookmark).bookmark id
      = if id = bookmark.deviceId then some bookmark else store.bookmark id := by
  rw [addDevice]
  split
  · rename_i index hindex
    rw [bookmark_save]
    exact lookup_set hindex id
  · rename_i hindex
    rw [bookmark_save]
    exact lookup_concat hindex id

theorem lastDeviceId_removeDevice (id : String) :
    (store.removeDevice coder id).lastDeviceId
      = if store.lastDeviceId = some id then none else store.lastDeviceId := by
  rw [removeDevice, lastDeviceId_save, lastDeviceId_forgetLast]
  rfl

/-- Its bookmark is gone, and the others stay. -/
theorem bookmark_removeDevice (id id' : String) :
    (store.removeDevice coder id).bookmark id' = if id' = id then none else store.bookmark id' := by
  rw [removeDevice, bookmark_save, bookmark_forgetLast]
  exact lookup_filter_ne id id' store.devices

/-- A visit makes the device the last one, if it is bookmarked. -/
theorem lastDeviceId_updateLastSession (deviceId session : String) :
    (store.updateLastSession coder deviceId session).lastDeviceId
      = if (store.bookmark deviceId).isSome then some deviceId else store.lastDeviceId := by
  rw [updateLastSession, bookmark]
  split
  · rename_i hindex
    rw [lookup_eq_none hindex]
    rfl
  · rename_i index hindex
    obtain ⟨device, hdevice⟩ := exists_lookup hindex
    rw [hdevice, lastDeviceId_save]
    rfl

/-- Its bookmark keeps the session. -/
theorem bookmark_updateLastSession (deviceId session id : String) :
    (store.updateLastSession coder deviceId session).bookmark id
      = if id = deviceId then
          (store.bookmark deviceId).map (·.withSession (some session))
        else store.bookmark id := by
  rw [updateLastSession]
  split
  · rename_i hindex
    rw [bookmark, bookmark, lookup_eq_none hindex]
    split_ifs with hid
    · rw [hid, lookup_eq_none hindex, Option.map_none]
    · rfl
  · rename_i index hindex
    rw [bookmark_save]
    refine lookup_modify hindex (fun device hdevice => ?_) id
    exact (device.withSession_deviceId _).trans hdevice

/-- A session that has ended is not resumed: the last device is forgotten with it. -/
theorem lastDeviceId_clearLastSession (deviceId : String) :
    (store.clearLastSession coder deviceId).lastDeviceId
      = if (store.bookmark deviceId).isSome ∧ store.lastDeviceId = some deviceId then none
        else store.lastDeviceId := by
  rw [clearLastSession, bookmark]
  split
  · rename_i hindex
    rw [lookup_eq_none hindex, if_neg (by simp)]
  · rename_i index hindex
    obtain ⟨device, hdevice⟩ := exists_lookup hindex
    rw [hdevice, lastDeviceId_save, lastDeviceId_forgetLast]
    simp only [Option.isSome_some, true_and]
    rfl

/-- Its bookmark keeps the device without a session. -/
theorem bookmark_clearLastSession (deviceId id : String) :
    (store.clearLastSession coder deviceId).bookmark id
      = if id = deviceId then
          (store.bookmark deviceId).map (·.withSession none)
        else store.bookmark id := by
  rw [clearLastSession]
  split
  · rename_i hindex
    rw [bookmark, bookmark, lookup_eq_none hindex]
    split_ifs with hid
    · rw [hid, lookup_eq_none hindex, Option.map_none]
    · rfl
  · rename_i index hindex
    rw [bookmark_save, bookmark_forgetLast]
    refine lookup_modify hindex (fun device hdevice => ?_) id
    exact (device.withSession_deviceId _).trans hdevice

/-- **What is stored is what is in memory** after every call, so a start finds it again. -/
theorem init_step (hcoder : coder.Faithful) {store : BookmarkStore δ}
    (hstore : init coder store.defaults = store) (call : StoreCall) :
    init coder (store.step coder call).defaults = store.step coder call := by
  cases call with
  | launch =>
    rw [step, hstore]
    exact hstore
  | pair productId deviceId sct fingerprint =>
    rw [step, addDevice]
    split
    · exact init_save _ hcoder
    · exact init_save _ hcoder
  | removeDevice id =>
    rw [step, removeDevice]
    exact init_save _ hcoder
  | updateLastSession deviceId session =>
    rw [step, updateLastSession]
    split
    · exact hstore
    · exact init_save _ hcoder
  | clearLastSession deviceId =>
    rw [step, clearLastSession]
    split
    · exact hstore
    · exact init_save _ hcoder

/-- **Nothing is lost when the app is killed**: a launch finds the store as it was. -/
theorem init_after (hcoder : coder.Faithful) (history : List StoreCall) :
    init coder (after coder history).defaults = after coder history := by
  induction history with
  | nil => rfl
  | cons call past ih => exact init_step hcoder ih call

end BookmarkStore

/-! ## What the calls say -/

namespace StoreCall

/-- The device is added, as this bookmark. -/
def Pairs (bookmark : DeviceBookmark) : StoreCall → Prop
  | .pair productId deviceId sct fingerprint =>
    pairedBookmark productId deviceId sct fingerprint = bookmark
  | .launch | .removeDevice _ | .updateLastSession _ _ | .clearLastSession _ => False

/-- The device is neither added nor removed. -/
def Retains (id : String) : StoreCall → Prop
  | .pair _ deviceId _ _ => deviceId ≠ id
  | .removeDevice removed => removed ≠ id
  | .launch | .updateLastSession _ _ | .clearLastSession _ => True

/-- The device is added. -/
def PairsDevice (id : String) : StoreCall → Prop
  | .pair _ deviceId _ _ => deviceId = id
  | .launch | .removeDevice _ | .updateLastSession _ _ | .clearLastSession _ => False

end StoreCall

namespace StoreCall

instance (bookmark : DeviceBookmark) : DecidablePred (Pairs bookmark)
  | .pair _ _ _ _ => inferInstanceAs (Decidable (_ = _))
  | .launch | .removeDevice _ | .updateLastSession _ _ | .clearLastSession _ =>
    inferInstanceAs (Decidable False)

instance (id : String) : DecidablePred (Retains id)
  | .pair _ _ _ _ | .removeDevice _ => inferInstanceAs (Decidable (_ ≠ _))
  | .launch | .updateLastSession _ _ | .clearLastSession _ => inferInstanceAs (Decidable True)

instance (id : String) : DecidablePred (PairsDevice id)
  | .pair _ _ _ _ => inferInstanceAs (Decidable (_ = _))
  | .launch | .removeDevice _ | .updateLastSession _ _ | .clearLastSession _ =>
    inferInstanceAs (Decidable False)

end StoreCall

/-- The device was added last as this bookmark, and was not removed since. -/
def SavedAs (bookmark : DeviceBookmark) : List StoreCall → Prop :=
  Since (fun _ call => call.Pairs bookmark) fun _ call => call.Retains bookmark.deviceId

/-- The device was added, and was not removed since. -/
def Saved (id : String) : List StoreCall → Prop :=
  Since (fun _ call => call.PairsDevice id) fun _ call => call.Retains id

/-- The session was opened on the device, which was saved as the bookmark says. -/
def Opened (bookmark : DeviceBookmark) (session : String) (past : List StoreCall)
    (call : StoreCall) : Prop :=
  call = .updateLastSession bookmark.deviceId session ∧ SavedAs (bookmark.withSession none) past

/-- The call leaves it to the device to be resumed: it is not removed, paired again or found without
its session, and no session is opened on a saved device. -/
def Spares (id : String) (past : List StoreCall) : StoreCall → Prop
  | .launch => True
  | .pair _ deviceId _ _ => deviceId ≠ id
  | .removeDevice removed => removed ≠ id
  | .updateLastSession opened _ => ¬ Saved opened past
  | .clearLastSession cleared => cleared ≠ id

instance (bookmark : DeviceBookmark) : DecidablePred (SavedAs bookmark) :=
  inferInstanceAs (DecidablePred (Since _ _))

instance (id : String) : DecidablePred (Saved id) := inferInstanceAs (DecidablePred (Since _ _))

instance (bookmark : DeviceBookmark) (session : String) (past : List StoreCall) :
    DecidablePred (Opened bookmark session past) :=
  fun _ => inferInstanceAs (Decidable (_ ∧ _))

instance (id : String) (past : List StoreCall) : DecidablePred (Spares id past)
  | .launch => inferInstanceAs (Decidable True)
  | .updateLastSession opened _ => inferInstanceAs (Decidable (¬ Saved opened past))
  | .pair _ _ _ _ | .removeDevice _ | .clearLastSession _ => inferInstanceAs (Decidable (_ ≠ _))

section

variable {δ : Type*} {coder : DeviceCoder δ}

open BookmarkStore

/-- A start of the app changes nothing. -/
theorem after_launch (hcoder : coder.Faithful) (past : List StoreCall) :
    after coder (.launch :: past) = after coder past := init_after hcoder past

/-- What is saved of a device, but for its session. -/
def identity (store : BookmarkStore δ) (id : String) : Option DeviceBookmark :=
  (store.bookmark id).map (·.withSession none)

/-- It is changed by adding and by removing the device. -/
theorem identity_cons (hcoder : coder.Faithful) (call : StoreCall) (past : List StoreCall)
    (id : String) :
    identity (after coder (call :: past)) id
      = match call with
        | .pair productId deviceId sct fingerprint =>
          if id = deviceId then some (pairedBookmark productId deviceId sct fingerprint)
          else identity (after coder past) id
        | .removeDevice removed =>
          if id = removed then none else identity (after coder past) id
        | .launch | .updateLastSession _ _ | .clearLastSession _ =>
          identity (after coder past) id := by
  cases call with
  | launch => rw [after_launch hcoder]
  | pair productId deviceId sct fingerprint =>
    rw [after, step, identity, bookmark_addDevice, apply_ite (Option.map _)]
    rfl
  | removeDevice removed =>
    rw [after, step, identity, bookmark_removeDevice, apply_ite (Option.map _)]
    rfl
  | updateLastSession deviceId session =>
    rw [after, step, identity, bookmark_updateLastSession]
    split_ifs with hid
    · rw [hid, Option.map_map]
      rfl
    · rfl
  | clearLastSession deviceId =>
    rw [after, step, identity, bookmark_clearLastSession]
    split_ifs with hid
    · rw [hid, Option.map_map]
      rfl
    · rfl

/-- The saved devices are those added and not removed. -/
theorem isSome_bookmark_iff (hcoder : coder.Faithful) (id : String) (history : List StoreCall) :
    ((after coder history).bookmark id).isSome ↔ Saved id history := by
  rw [← Option.isSome_map]
  refine holds_iff_since (fun history => (identity (after coder history) id).isSome) nofun
    (fun past call => ?_) history
  rw [identity_cons hcoder]
  cases call with
  | pair productId deviceId sct fingerprint =>
    by_cases hid : id = deviceId
    · simp [StoreCall.PairsDevice, hid]
    · simp [StoreCall.PairsDevice, StoreCall.Retains, hid, Ne.symm hid]
  | removeDevice removed =>
    by_cases hid : id = removed
    · simp [StoreCall.PairsDevice, StoreCall.Retains, hid]
    · simp [StoreCall.PairsDevice, StoreCall.Retains, hid, Ne.symm hid]
  | _ => simp [StoreCall.PairsDevice, StoreCall.Retains]

/-- What is saved of a device, but for its session, is what it was added as. -/
theorem identity_eq_some_iff (hcoder : coder.Faithful) (bookmark : DeviceBookmark)
    (history : List StoreCall) :
    identity (after coder history) bookmark.deviceId = some bookmark
      ↔ SavedAs bookmark history := by
  refine holds_iff_since
    (fun history => identity (after coder history) bookmark.deviceId = some bookmark) nofun
    (fun past call => ?_) history
  rw [identity_cons hcoder]
  cases call with
  | pair productId deviceId sct fingerprint =>
    by_cases hid : bookmark.deviceId = deviceId
    · simp [StoreCall.Pairs, StoreCall.Retains, hid]
    · have hother : pairedBookmark productId deviceId sct fingerprint ≠ bookmark :=
        fun h => hid (congrArg DeviceBookmark.deviceId h).symm
      simp [StoreCall.Pairs, StoreCall.Retains, hid, Ne.symm hid, hother]
  | removeDevice removed =>
    by_cases hid : bookmark.deviceId = removed
    · simp [StoreCall.Pairs, StoreCall.Retains, hid]
    · simp [StoreCall.Pairs, StoreCall.Retains, hid, Ne.symm hid]
  | _ => simp [StoreCall.Pairs, StoreCall.Retains]

/-! ## What is resumed -/

/-- The session of the last device is resumed. -/
def Resumes (bookmark : DeviceBookmark) (session : String) (store : BookmarkStore δ) : Prop :=
  store.lastDeviceId = some bookmark.deviceId
    ∧ store.bookmark bookmark.deviceId = some bookmark ∧ bookmark.lastSession = some session

theorem resolveLaunchDestination_iff {store : BookmarkStore δ} {bookmark : DeviceBookmark}
    {session : String} :
    resolveLaunchDestination store.devices store.lastDeviceId = .resumeSession bookmark session
      ↔ Resumes bookmark session store := by
  rw [resolveLaunchDestination.eq_def, Resumes]
  cases store.lastDeviceId with
  | none => simp
  | some last =>
    cases hfound : lookup DeviceBookmark.deviceId last store.devices with
    | none =>
      dsimp only
      rw [hfound]
      refine iff_of_false nofun ?_
      rintro ⟨hlast, hsome, -⟩
      rw [BookmarkStore.bookmark, ← Option.some.inj hlast, hfound] at hsome
      exact nomatch hsome
    | some found =>
      have hid : found.deviceId = last := key_of_lookup hfound
      dsimp only
      rw [hfound]
      dsimp only
      constructor
      · intro h
        cases hopen : found.lastSession with
        | none =>
          rw [hopen] at h
          exact nomatch h
        | some opened =>
          rw [hopen] at h
          obtain ⟨rfl, rfl⟩ := LaunchDestination.resumeSession.inj h
          rw [hid]
          exact ⟨rfl, hfound, hopen⟩
      · rintro ⟨hlast, hsome, hopen⟩
        rw [BookmarkStore.bookmark, ← Option.some.inj hlast, hfound] at hsome
        obtain rfl := Option.some.inj hsome
        rw [hopen]

/-- **What one call does to what is resumed.** -/
theorem resumes_cons (hcoder : coder.Faithful) (bookmark : DeviceBookmark) (session : String)
    (past : List StoreCall) (call : StoreCall) :
    Resumes bookmark session (after coder (call :: past))
      ↔ (bookmark.lastSession = some session ∧ Opened bookmark session past call)
        ∨ (Spares bookmark.deviceId past call ∧ Resumes bookmark session (after coder past)) := by
  cases call with
  | launch =>
    rw [after_launch hcoder]
    simp [Opened, Spares]
  | pair productId deviceId sct fingerprint =>
    rw [after, step, Resumes, Resumes, lastDeviceId_addDevice, bookmark_addDevice]
    by_cases hid : bookmark.deviceId = deviceId
    · -- what is added has no session
      simp only [Opened, Spares, hid, pairedBookmark_deviceId, reduceCtorEq, false_and, and_false,
        ne_eq, not_true_eq_false, or_self, iff_false, if_true, Option.some.injEq]
      rintro ⟨-, rfl, hsession⟩
      exact nomatch hsession
    · simp [Opened, Spares, hid, Ne.symm hid]
  | removeDevice removed =>
    rw [after, step, Resumes, Resumes, lastDeviceId_removeDevice, bookmark_removeDevice]
    by_cases hid : bookmark.deviceId = removed
    · simp [Opened, Spares, hid]
    · simp only [Opened, Spares, hid, Ne.symm hid, reduceCtorEq, false_and, and_false, false_or,
        ne_eq, not_false_eq_true, true_and, if_false]
      refine and_congr_left fun _ => ?_
      split_ifs with hlast
      · simp [hlast, Ne.symm hid]
      · rfl
  | updateLastSession opened session' =>
    rw [after, step, Resumes, Resumes, lastDeviceId_updateLastSession, bookmark_updateLastSession]
    simp only [Opened, Spares, ← isSome_bookmark_iff hcoder, ← identity_eq_some_iff hcoder,
      identity, DeviceBookmark.withSession_deviceId, StoreCall.updateLastSession.injEq]
    cases hopened : (after coder past).bookmark opened with
    | none =>
      by_cases hid : bookmark.deviceId = opened
      · simp [hid, hopened]
      · simp [hid, Ne.symm hid]
    | some device =>
      by_cases hid : bookmark.deviceId = opened
      · simp only [hid, hopened, Option.isSome_some, if_true, Option.map_some, Option.some.injEq,
          true_and, not_true_eq_false, false_and, or_false]
        constructor
        · rintro ⟨rfl, hsession⟩
          exact ⟨hsession, Option.some.inj hsession, rfl⟩
        · rintro ⟨hsession, rfl, hidentity⟩
          exact ⟨(DeviceBookmark.eq_withSession_iff.mpr ⟨hsession, hidentity.symm⟩).symm, hsession⟩
      · simp [hid, Ne.symm hid]
  | clearLastSession cleared =>
    rw [after, step, Resumes, Resumes, lastDeviceId_clearLastSession, bookmark_clearLastSession]
    by_cases hid : bookmark.deviceId = cleared
    · simp only [Opened, Spares, hid, reduceCtorEq, false_and, and_false, ne_eq,
        not_true_eq_false, or_self, iff_false, if_true]
      rintro ⟨-, hsome, hsession⟩
      obtain ⟨found, -, rfl⟩ := Option.map_eq_some_iff.mp hsome
      exact nomatch hsession
    · simp only [Opened, Spares, hid, Ne.symm hid, reduceCtorEq, false_and, and_false, false_or,
        ne_eq, not_false_eq_true, true_and, if_false]
      refine and_congr_left fun _ => ?_
      split_ifs with hlast
      · simp [hlast.2, Ne.symm hid]
      · rfl

end

/-- **The app resumes what was opened last.**  Whatever was paired, removed, opened and not found,
and whenever the app is killed, a launch resumes a session of a device exactly if the session was
opened on the device while that was saved, and since then the device was neither removed, paired
again nor found without the session, and no session was opened on a saved device. -/
theorem resume_iff {δ : Type*} (coder : DeviceCoder δ) (hcoder : coder.Faithful)
    (history : List StoreCall) (bookmark : DeviceBookmark) (session : String) :
    launch coder (BookmarkStore.after coder history).defaults = .resumeSession bookmark session
      ↔ bookmark.lastSession = some session
        ∧ Since (Opened bookmark session) (Spares bookmark.deviceId) history := by
  rw [launch, BookmarkStore.init_after hcoder, resolveLaunchDestination_iff]
  by_cases hsession : bookmark.lastSession = some session
  · rw [and_iff_right hsession]
    refine holds_iff_since
      (fun history => Resumes bookmark session (BookmarkStore.after coder history)) nofun
      (fun past call => ?_) history
    rw [resumes_cons hcoder, and_iff_right hsession]
  · exact iff_of_false (fun h => hsession h.2.2) (fun h => hsession h.1)

/-- A coder that keeps the devices as they are. -/
def plainCoder : DeviceCoder (List DeviceBookmark) := ⟨some, some⟩

/-- Of two agents one is opened, the app is launched again, and a session on a third one that is not
saved, and a missing one on the other, are tried in vain.  The latest comes first. -/
def visits : List StoreCall :=
  [.clearLastSession "de-b", .updateLastSession "de-c" "main", .launch,
    .updateLastSession "de-a" "work", .pair "pr-1" "de-b" "t2" "f2",
    .updateLastSession "de-a" "main", .pair "pr-1" "de-a" "t1" "f1"]

theorem resume_iff_visits :
    launch plainCoder (BookmarkStore.after plainCoder visits).defaults = .resumeSession
      ((pairedBookmark "pr-1" "de-a" "t1" "f1").withSession (some "work")) "work" :=
  (resume_iff plainCoder (fun devices => ⟨devices, rfl, rfl⟩) visits _ "work").mpr
    ⟨rfl, by decide⟩

end TmuxRemote
