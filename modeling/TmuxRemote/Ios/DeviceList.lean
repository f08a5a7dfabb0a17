import TmuxRemote.Library.Positions
import TmuxRemote.Library.Trapping

/-!
# Ios/DeviceList — deleting saved devices (`DeviceListView.swift`, `BookmarkStore.swift`)

`deleteDevices(at:)` walks the offsets upwards and reads each in the list that the earlier passes
have shortened.  The first device goes as it should; the second offset then stands for the device
after the one meant, and the one meant stays (`deletesExactly_iff`).

A device id is an ASCII text, so `==` is equality.  The dates of a bookmark are left out.
-/

open Trapping Positions

namespace TmuxRemote.DeviceList

/-- `DeviceBookmark` -/
structure DeviceBookmark where
  productId : String
  deviceId : String
  fingerprint : String
  sct : String
  name : String
  lastSession : Option String
  deriving DecidableEq

/-- `BookmarkStore` and what the view does beside it. -/
structure View where
  devices : List DeviceBookmark
  lastDeviceId : Option String
  expandedDevices : Finset String
  /-- The device ids `connectionManager.disconnect` was called with. -/
  disconnected : List String

namespace View

variable (view : View)

/-- `removeDevice(id:)` -/
def removeDevice (id : String) : View :=
  { view with
    devices := view.devices.filter fun device => device.deviceId ≠ id
    lastDeviceId := if view.lastDeviceId = some id then none else view.lastDeviceId }

/-- One pass of the loop of `deleteDevices(at:)`. -/
def deleteDevice (index : ℕ) : Except Trap View :=
  match view.devices[index]? with
  | none => .error .index
  | some device =>
    let collapsed :=
      { view with
        expandedDevices := view.expandedDevices.erase device.deviceId
        disconnected := view.disconnected ++ [device.deviceId] }
    .ok (collapsed.removeDevice device.deviceId)

/-- `deleteDevices(at:)`; an `IndexSet` is walked upwards. -/
def deleteDevices (offsets : Finset ℕ) : Except Trap View := offsets.sort.foldlM deleteDevice view

/-- No index is out of range, and the devices at the offsets, and no others, are deleted and
disconnected. -/
def DeletesExactly (offsets : Finset ℕ) : Prop :=
  ∃ view', view.deleteDevices offsets = .ok view' ∧
    view'.devices = without offsets view.devices ∧
    ∀ id, id ∈ view'.disconnected ↔ id ∈ view.disconnected ∨
      ∃ index ∈ offsets, ∃ device, view.devices[index]? = some device ∧ device.deviceId = id

/-- No two devices have one id. -/
def DistinctIds : Prop := (view.devices.map DeviceBookmark.deviceId).Nodup

variable {view} {view' : View}

/-! ## One pass -/

/-- A pass in range deletes the device it reads. -/
theorem deleteDevice_eq (hids : view.DistinctIds) {index : ℕ} {device : DeviceBookmark}
    (hdevice : view.devices[index]? = some device) :
    ∃ view', view.deleteDevice index = .ok view' ∧
      view'.devices = view.devices.eraseIdx index ∧
      view'.disconnected = view.disconnected ++ [device.deviceId] := by
  refine ⟨_, by rw [deleteDevice, hdevice], ?_, rfl⟩
  exact filter_ne_eq_eraseIdx hids hdevice

/-- A pass that returns was in range. -/
theorem exists_device_of_deleteDevice {index : ℕ} (h : view.deleteDevice index = .ok view') :
    ∃ device, view.devices[index]? = some device := by
  rw [deleteDevice] at h
  cases hdevice : view.devices[index]? with
  | none =>
    rw [hdevice] at h
    exact absurd h (by simp)
  | some device => exact ⟨device, rfl⟩

theorem devices_of_deleteDevice (hids : view.DistinctIds) {index : ℕ}
    (h : view.deleteDevice index = .ok view') :
    view'.devices = view.devices.eraseIdx index := by
  obtain ⟨device, hdevice⟩ := exists_device_of_deleteDevice h
  obtain ⟨after, hafter, hdevices, -⟩ := deleteDevice_eq hids hdevice
  rw [h] at hafter
  rw [Except.ok.inj hafter]
  exact hdevices

theorem distinctIds_of_deleteDevice (hids : view.DistinctIds) {index : ℕ}
    (h : view.deleteDevice index = .ok view') : view'.DistinctIds := by
  rw [DistinctIds, devices_of_deleteDevice hids h]
  exact ((List.eraseIdx_sublist _ _).map _).nodup hids

/-! ## All passes -/

/-- What stands before every offset stays where it is. -/
theorem getElem?_of_deleteDevices {offsets : List ℕ} {position : ℕ}
    (hoffsets : ∀ index ∈ offsets, position < index) (hids : view.DistinctIds)
    (h : offsets.foldlM deleteDevice view = .ok view') :
    view'.devices[position]? = view.devices[position]? := by
  induction offsets generalizing view with
  | nil =>
    rw [List.foldlM_nil, pure_eq_ok] at h
    rw [h]
  | cons index offsets ih =>
    rw [List.foldlM_cons, bind_eq_ok] at h
    obtain ⟨middle, hmiddle, hrest⟩ := h
    rw [List.forall_mem_cons] at hoffsets
    rw [ih hoffsets.2 (distinctIds_of_deleteDevice hids hmiddle) hrest,
      devices_of_deleteDevice hids hmiddle, List.getElem?_eraseIdx_of_lt hoffsets.1]

/-- The device at the second offset is not deleted: the first pass moves it before that offset, and
later passes look further on. -/
theorem second_mem_of_deleteDevices {first second : ℕ} {offsets : List ℕ}
    (hsorted : (first :: second :: offsets).Pairwise (· < ·)) (hids : view.DistinctIds)
    {device : DeviceBookmark} (hdevice : view.devices[second]? = some device)
    (h : (first :: second :: offsets).foldlM deleteDevice view = .ok view') :
    device ∈ view'.devices := by
  rw [List.foldlM_cons, bind_eq_ok] at h
  obtain ⟨middle, hmiddle, hrest⟩ := h
  rw [List.pairwise_cons, List.pairwise_cons] at hsorted
  obtain ⟨hfirst, hsecond, -⟩ := hsorted
  have hlt : first < second := hfirst second (by simp)
  have hlater : ∀ index ∈ second :: offsets, second - 1 < index := by
    rw [List.forall_mem_cons]
    refine ⟨by omega, fun index hindex => ?_⟩
    have := hsecond index hindex
    omega
  have hmoved : middle.devices[second - 1]? = some device := by
    rw [devices_of_deleteDevice hids hmiddle, List.getElem?_eraseIdx_of_ge (by omega),
      Nat.sub_add_cancel (by omega), hdevice]
  refine List.mem_of_getElem? (i := second - 1) ?_
  rw [getElem?_of_deleteDevices hlater (distinctIds_of_deleteDevice hids hmiddle) hrest, hmoved]

/-! ## The offsets the loop is right for -/

theorem deletesExactly_empty (view : View) : view.DeletesExactly ∅ := by
  refine ⟨view, ?_, (without_empty view.devices).symm, fun id => by simp⟩
  rw [deleteDevices, Finset.sort_empty]
  rfl

theorem deletesExactly_singleton (hids : view.DistinctIds) {index : ℕ}
    (hindex : index < view.devices.length) : view.DeletesExactly {index} := by
  have hdevice := List.getElem?_eq_getElem hindex
  obtain ⟨view', hview', hdevices, hdisconnected⟩ := deleteDevice_eq hids hdevice
  refine ⟨view', ?_, hdevices.trans (without_singleton index view.devices).symm, fun id => ?_⟩
  · rw [deleteDevices, Finset.sort_singleton, List.foldlM_cons, hview']
    rfl
  · rw [hdisconnected, List.mem_append, List.mem_singleton]
    simp [hdevice, eq_comm]

/-- With a second offset, the device there is kept. -/
theorem not_deletesExactly (hids : view.DistinctIds) {offsets : Finset ℕ}
    (hoffsets : ∀ index ∈ offsets, index < view.devices.length) (hmany : 1 < offsets.card) :
    ¬ view.DeletesExactly offsets := by
  rintro ⟨view', hview', hdevices, -⟩
  have hsplit : ∃ first second rest, offsets.sort (· ≤ ·) = first :: second :: rest := by
    rw [← Finset.length_sort (· ≤ ·)] at hmany
    rcases hsort : offsets.sort (· ≤ ·) with _ | ⟨first, _ | ⟨second, rest⟩⟩
    · simp [hsort] at hmany
    · simp [hsort] at hmany
    · exact ⟨first, second, rest, rfl⟩
  obtain ⟨first, second, rest, hsort⟩ := hsplit
  have hsecond : second ∈ offsets := (Finset.mem_sort (· ≤ ·)).mp (by simp [hsort])
  have hlt := hoffsets second hsecond
  have hdevice := List.getElem?_eq_getElem hlt
  have hkept : view.devices[second] ∈ view'.devices :=
    second_mem_of_deleteDevices (hsort ▸ offsets.sortedLT_sort.pairwise) hids hdevice
      (hsort ▸ hview')
  rw [hdevices, mem_without] at hkept
  obtain ⟨index, hindex, hget⟩ := hkept
  have hnodup : view.devices.Nodup := hids.of_map _
  have hsame : second = index := (List.getElem?_inj hlt hnodup).mp (hdevice.trans hget.symm)
  exact hindex (hsame ▸ hsecond)

/-- With distinct ids and offsets in range, exactly the devices at the offsets are deleted when
there is at most one offset, and never when there are more. -/
theorem deletesExactly_iff (view : View) (offsets : Finset ℕ) (hids : view.DistinctIds)
    (hoffsets : ∀ index ∈ offsets, index < view.devices.length) :
    view.DeletesExactly offsets ↔ offsets.card ≤ 1 := by
  constructor
  · intro h
    by_contra hmany
    exact not_deletesExactly hids hoffsets (by omega) h
  · intro hone
    obtain ⟨index, hsub⟩ := Finset.card_le_one_iff_subset_singleton.mp hone
    obtain rfl | rfl := Finset.subset_singleton_iff.mp hsub
    · exact deletesExactly_empty view
    · exact deletesExactly_singleton hids (hoffsets index (by simp))

end View

/-- A saved device. -/
def deviceNamed (id : String) : DeviceBookmark where
  productId := "pr-1"
  deviceId := id
  fingerprint := "fp"
  sct := "sct"
  name := id
  lastSession := none

/-- Three saved devices, none connected. -/
def threeDevices : View where
  devices := [deviceNamed "de-a", deviceNamed "de-b", deviceNamed "de-c"]
  lastDeviceId := none
  expandedDevices := ∅
  disconnected := []

theorem deletesExactly_iff_three : threeDevices.DeletesExactly {1} ↔ ({1} : Finset ℕ).card ≤ 1 :=
  View.deletesExactly_iff threeDevices {1} (by unfold View.DistinctIds; decide)
    (by decide)

/-- Deleting the first two of three devices deletes the first and the last. -/
theorem deleteDevices_first_two : ¬ threeDevices.DeletesExactly {0, 1} := by
  rintro ⟨view', hview', hdevices, -⟩
  have hlast : deviceNamed "de-c" ∈ without {0, 1} threeDevices.devices := by decide
  have hgone : ∀ after, threeDevices.deleteDevices {0, 1} = .ok after →
      after.devices = [deviceNamed "de-b"] := by
    intro after hafter
    have hsort : ({0, 1} : Finset ℕ).sort = [0, 1] := by
      rw [Finset.sort_insert (· ≤ ·) (by decide) (by decide), Finset.sort_singleton]
    rw [View.deleteDevices, hsort] at hafter
    exact (Except.ok.inj hafter) ▸ by decide
  rw [← hdevices, hgone view' hview'] at hlast
  exact absurd hlast (by decide)

end TmuxRemote.DeviceList
