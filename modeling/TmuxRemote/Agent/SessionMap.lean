import TmuxRemote.Library.CString
import TmuxRemote.Library.SlotTable

/-!
# Agent/SessionMap — the target session of each connection (`tmuxremote_session.c`)

Eight slots, each free (`!valid`) or holding the session a connection has attached to.  The loops of
the four operations are those of a slot table, so the map is one: each operation is an update of
`get` at one connection.
-/

namespace TmuxRemote

/-- `NabtoDeviceConnectionRef` -/
abbrev ConnectionRef := UInt64

/-- `TMUXREMOTE_MAX_SESSIONS` -/
def maxSessions : ℕ := 8

/-- `TMUXREMOTE_SESSION_NAME_MAX` -/
def sessionNameMax : ℕ := 64

/-- `tmuxremote_session_entry`; the connection is the key it is held under. -/
structure SessionEntry where
  sessionName : CString
  cols : UInt16
  rows : UInt16
  deriving DecidableEq

/-- `tmuxremote_session_map` -/
abbrev SessionMap := SlotTable ConnectionRef SessionEntry maxSessions

namespace SessionMap

/-- `tmuxremote_session_map_init` -/
def init : SessionMap := SlotTable.empty ConnectionRef SessionEntry maxSessions

/-- `tmuxremote_session_set`; `none` when it returns false. -/
def set (map : SessionMap) (ref : ConnectionRef) (sessionName : CString) (cols rows : UInt16) :
    Option SessionMap :=
  map.put ref
    { sessionName := sessionName.truncate (sessionNameMax - 1), cols := cols, rows := rows }

/-- `tmuxremote_session_update_size`; `none` when it returns false. -/
def updateSize (map : SessionMap) (ref : ConnectionRef) (cols rows : UInt16) : Option SessionMap :=
  map.modify ref fun entry => { entry with cols := cols, rows := rows }

/-- `tmuxremote_session_remove` -/
def remove (map : SessionMap) (ref : ConnectionRef) : SessionMap := map.erase ref

variable {map map' : SessionMap} {ref other : ConnectionRef} {sessionName : CString}
  {cols rows : UInt16}

/-- **What a set stores**: a name that fits the buffer is stored whole. -/
theorem get_set_self (h : map.set ref sessionName cols rows = some map')
    (hname : sessionName.bytes.length ≤ sessionNameMax - 1) :
    map'.get ref = some { sessionName := sessionName, cols := cols, rows := rows } := by
  rw [SlotTable.get_put h, Function.update_self, CString.truncate_eq_self hname]

theorem get_set_of_ne (h : map.set ref sessionName cols rows = some map') (hne : other ≠ ref) :
    map'.get other = map.get other := by
  rw [SlotTable.get_put h, Function.update_of_ne hne]

@[simp] theorem get_remove_self : (map.remove ref).get ref = none := by
  rw [remove, SlotTable.get_erase, Function.update_self]

theorem get_remove_of_ne (hne : other ≠ ref) : (map.remove ref).get other = map.get other := by
  rw [remove, SlotTable.get_erase, Function.update_of_ne hne]

/-- **When a set fails**: another connection holds every slot. -/
theorem set_eq_none_iff :
    map.set ref sessionName cols rows = none ↔ map.get ref = none ∧ map.Full := by
  rw [set, SlotTable.put_eq_none_iff, SlotTable.get_eq_none_iff]

end SessionMap

end TmuxRemote
