import TmuxRemote.Agent.SessionMap

/-!
# Agent/SessionTable — the array behind the session map (`tmuxremote_session.c`)

`SessionMap` has no two sessions of one connection by its type.  Here is the array itself, eight
entries with a `valid` flag, with the loops of the source.  It represents a `SessionMap` after any
calls (`exists_represents`), so what the map knows is what the calls so far have left
(`sessionTable_refines`).
-/

open SlotTable

namespace TmuxRemote

/-- `tmuxremote_session_entry`, with its flag; the name as the string in its buffer. -/
structure SessionSlot where
  connectionRef : ConnectionRef
  sessionName : CString
  cols : UInt16
  rows : UInt16
  valid : Bool
  deriving DecidableEq

namespace SessionSlot

/-- `memset` of an entry. -/
def zero : SessionSlot where
  connectionRef := 0
  sessionName := .ofBytes []
  cols := 0
  rows := 0
  valid := false

/-- `valid && connectionRef == ref` -/
def isFor (ref : ConnectionRef) (slot : SessionSlot) : Bool :=
  slot.valid && slot.connectionRef == ref

/-- What `tmuxremote_session_set` writes to an entry of the connection. -/
def store (sessionName : CString) (cols rows : UInt16) (slot : SessionSlot) : SessionSlot :=
  { slot with
    sessionName := sessionName.truncate (sessionNameMax - 1)
    cols := cols
    rows := rows }

/-- What it writes to a free one. -/
def fill (ref : ConnectionRef) (sessionName : CString) (cols rows : UInt16) (slot : SessionSlot) :
    SessionSlot :=
  { slot.store sessionName cols rows with
    connectionRef := ref
    valid := true }

/-- What `tmuxremote_session_update_size` writes. -/
def resize (cols rows : UInt16) (slot : SessionSlot) : SessionSlot :=
  { slot with
    cols := cols
    rows := rows }

/-- The session in the entry. -/
def session (slot : SessionSlot) : SessionEntry where
  sessionName := slot.sessionName
  cols := slot.cols
  rows := slot.rows

/-- What the entry stands for. -/
def held (slot : SessionSlot) : Option (ConnectionRef × SessionEntry) :=
  if slot.valid then some (slot.connectionRef, slot.session) else none

end SessionSlot

/-- `tmuxremote_session_map`, less its mutex, which every call holds. -/
structure SessionTable where
  entries : List SessionSlot
  deriving DecidableEq

namespace SessionTable

/-- `tmuxremote_session_map_init` -/
def init : SessionTable := ⟨List.replicate maxSessions .zero⟩

variable (table : SessionTable) (ref : ConnectionRef)

/-- `tmuxremote_session_set` -/
def set (sessionName : CString) (cols rows : UInt16) : Bool × SessionTable :=
  match updateFirst (SessionSlot.isFor ref) (.store sessionName cols rows) table.entries with
  | some entries => (true, ⟨entries⟩)
  | none =>
    match updateFirst (!·.valid) (.fill ref sessionName cols rows) table.entries with
    | some entries => (true, ⟨entries⟩)
    | none => (false, table)

/-- `tmuxremote_session_get`: the entry copied out. -/
def get : Option SessionSlot := table.entries.find? (SessionSlot.isFor ref)

/-- `tmuxremote_session_update_size` -/
def updateSize (cols rows : UInt16) : Bool × SessionTable :=
  match updateFirst (SessionSlot.isFor ref) (.resize cols rows) table.entries with
  | some entries => (true, ⟨entries⟩)
  | none => (false, table)

/-- `tmuxremote_session_remove` -/
def remove : SessionTable :=
  ⟨table.entries.map fun slot => if slot.isFor ref then .zero else slot⟩

end SessionTable

/-! ## Calls and what they leave -/

/-- A session name that fits its buffer. -/
structure SessionName where
  text : CString
  fits : text.bytes.length ≤ sessionNameMax - 1

/-- A call of one of the operations. -/
inductive SessionCall
  | set (ref : ConnectionRef) (name : SessionName) (cols rows : UInt16)
  | get (ref : ConnectionRef)
  | updateSize (ref : ConnectionRef) (cols rows : UInt16)
  | remove (ref : ConnectionRef)

/-- The connection a call is about. -/
def SessionCall.ref : SessionCall → ConnectionRef
  | .set ref _ _ _ | .get ref | .updateSize ref _ _ | .remove ref => ref

namespace SessionTable

/-- What a call returns, true for a `remove`, and the table after it. -/
def call (table : SessionTable) : SessionCall → Bool × SessionTable
  | .set ref name cols rows => table.set ref name.text cols rows
  | .get ref => ((table.get ref).isSome, table)
  | .updateSize ref cols rows => table.updateSize ref cols rows
  | .remove ref => (true, table.remove ref)

/-- The calls made and what each returned, the last one first. -/
abbrev History := List (SessionCall × Bool)

/-- One call more. -/
def step (state : SessionTable × History) (next : SessionCall) : SessionTable × History :=
  ((state.1.call next).2, (next, (state.1.call next).1) :: state.2)

/-- Calls from `tmuxremote_session_map_init` on. -/
def run (calls : List SessionCall) : SessionTable × History := calls.foldl step (init, [])

/-- The name of the last successful set since the last remove. -/
def lastName (ref : ConnectionRef) : History → Option CString
  | [] => none
  | (.set r name _ _, true) :: history => if r = ref then some name.text else lastName ref history
  | (.remove r, _) :: history => if r = ref then none else lastName ref history
  | _ :: history => lastName ref history

/-- The size of the last successful set or update since the last remove. -/
def lastSize (ref : ConnectionRef) : History → Option (UInt16 × UInt16)
  | [] => none
  | (.set r _ cols rows, true) :: history =>
    if r = ref then some (cols, rows) else lastSize ref history
  | (.updateSize r cols rows, true) :: history =>
    if r = ref then some (cols, rows) else lastSize ref history
  | (.remove r, _) :: history => if r = ref then none else lastSize ref history
  | _ :: history => lastSize ref history

end SessionTable

/-! ## The map the array represents -/

namespace SessionSlot

variable {slot : SessionSlot} {ref : ConnectionRef}

theorem holds_held : holds ref slot.held = slot.isFor ref := by
  rw [held, isFor]
  rcases slot.valid with - | -
  · rfl
  · exact holds_some ref _

theorem isNone_held : slot.held.isNone = !slot.valid := by
  rw [held]
  rcases slot.valid with - | - <;> rfl

theorem isFor_eq_true : slot.isFor ref = true ↔ slot.valid = true ∧ slot.connectionRef = ref := by
  rw [isFor, Bool.and_eq_true, beq_iff_eq]

/-- An entry of the connection stands for its session. -/
theorem held_of_isFor (h : slot.isFor ref = true) : slot.held = some (ref, slot.session) := by
  obtain ⟨hvalid, rfl⟩ := isFor_eq_true.mp h
  rw [held, if_pos hvalid]

theorem valueAt_held :
    valueAt ref slot.held = if slot.isFor ref then some slot.session else none := by
  rcases h : slot.isFor ref with - | -
  · rw [valueAt_eq_none_iff.mpr (holds_held.trans h)]
    rfl
  · rw [held_of_isFor h, valueAt_some, if_pos rfl]
    rfl

/-- The entry of a session. -/
def ofSession (ref : ConnectionRef) (session : SessionEntry) : SessionSlot where
  connectionRef := ref
  sessionName := session.sessionName
  cols := session.cols
  rows := session.rows
  valid := true

theorem eq_ofSession (h : slot.isFor ref = true) : slot = ofSession ref slot.session := by
  obtain ⟨hvalid, rfl⟩ := isFor_eq_true.mp h
  obtain ⟨connectionRef, sessionName, cols, rows, valid⟩ := slot
  obtain rfl : valid = true := hvalid
  rfl

end SessionSlot

namespace SessionTable

/-- The slots of the map are what the entries stand for. -/
def Represents (table : SessionTable) (map : SessionMap) : Prop :=
  map.slots = table.entries.map SessionSlot.held

variable {table : SessionTable} {map : SessionMap} {ref : ConnectionRef}

theorem represents_init : Represents init .init := by
  rw [Represents, init, List.map_replicate]
  rfl

/-- The entry a search finds is the one the map has. -/
theorem get_eq (h : Represents table map) (ref : ConnectionRef) :
    table.get ref = (map.get ref).map (.ofSession ref) := by
  rw [SlotTable.get, h, get]
  induction table.entries with
  | nil => rfl
  | cons slot slots ih =>
    rw [List.map_cons, List.findSome?_cons, SessionSlot.valueAt_held]
    rcases hslot : slot.isFor ref with - | -
    · rw [List.find?_cons_of_neg (by simp [hslot]), ih]
      rfl
    · rw [List.find?_cons_of_pos hslot]
      exact congrArg some (SessionSlot.eq_ofSession hslot)

/-- The session a set stores. -/
def stored (sessionName : CString) (cols rows : UInt16) : SessionEntry where
  sessionName := sessionName.truncate (sessionNameMax - 1)
  cols := cols
  rows := rows

/-- The first pass of a set, over what the entries stand for. -/
theorem updateFirst_store (sessionName : CString) (cols rows : UInt16) :
    updateFirst (holds ref) (fun _ => some (ref, stored sessionName cols rows))
        (table.entries.map SessionSlot.held)
      = (updateFirst (SessionSlot.isFor ref) (.store sessionName cols rows) table.entries).map
          (List.map SessionSlot.held) := by
  refine updateFirst_map (fun _ => SessionSlot.holds_held) (fun slot hslot => ?_) table.entries
  have hstored : (slot.store sessionName cols rows).isFor ref = true := hslot
  exact (SessionSlot.held_of_isFor hstored).symm

/-- The second pass. -/
theorem updateFirst_fill (sessionName : CString) (cols rows : UInt16) :
    updateFirst Option.isNone (fun _ => some (ref, stored sessionName cols rows))
        (table.entries.map SessionSlot.held)
      = (updateFirst (!·.valid) (.fill ref sessionName cols rows) table.entries).map
          (List.map SessionSlot.held) :=
  updateFirst_map (fun _ => SessionSlot.isNone_held) (fun _ _ => rfl) table.entries

theorem updateFirst_resize (cols rows : UInt16) :
    updateFirst (holds ref)
        (Option.map
          (Prod.map id fun entry : SessionEntry => { entry with cols := cols, rows := rows }))
        (table.entries.map SessionSlot.held)
      = (updateFirst (SessionSlot.isFor ref) (.resize cols rows) table.entries).map
          (List.map SessionSlot.held) := by
  refine updateFirst_map (fun _ => SessionSlot.holds_held) (fun slot hslot => ?_) table.entries
  have hresized : (slot.resize cols rows).isFor ref = true := hslot
  rw [SessionSlot.held_of_isFor hslot, SessionSlot.held_of_isFor hresized]
  rfl

/-- A set of the array is a set of the map. -/
theorem represents_set (h : Represents table map) (sessionName : CString) (cols rows : UInt16) :
    (map.set ref sessionName cols rows = none ∧
        table.set ref sessionName cols rows = (false, table))
      ∨ ∃ table' map', map.set ref sessionName cols rows = some map' ∧
          table.set ref sessionName cols rows = (true, table') ∧ Represents table' map' := by
  have hput : (map.set ref sessionName cols rows).map SlotTable.slots
      = putSlots ref (stored sessionName cols rows) map.slots := map_slots_put ..
  rw [h, putSlots, updateFirst_store, updateFirst_fill] at hput
  rw [set]
  cases hheld :
    updateFirst (SessionSlot.isFor ref) (.store sessionName cols rows) table.entries with
  | some entries =>
    rw [hheld, Option.map_some, Option.orElse_some, Option.map_eq_some_iff] at hput
    obtain ⟨map', hmap', hslots⟩ := hput
    exact .inr ⟨⟨entries⟩, map', hmap', rfl, hslots⟩
  | none =>
    rw [hheld, Option.map_none, Option.orElse_none] at hput
    cases hfree : updateFirst (!·.valid) (.fill ref sessionName cols rows) table.entries with
    | some entries =>
      rw [hfree, Option.map_some, Option.map_eq_some_iff] at hput
      obtain ⟨map', hmap', hslots⟩ := hput
      exact .inr ⟨⟨entries⟩, map', hmap', rfl, hslots⟩
    | none =>
      rw [hfree, Option.map_none, Option.map_eq_none_iff] at hput
      exact .inl ⟨hput, rfl⟩

/-- An update of the array is an update of the map. -/
theorem represents_updateSize (h : Represents table map) (cols rows : UInt16) :
    (map.updateSize ref cols rows = none ∧ table.updateSize ref cols rows = (false, table))
      ∨ ∃ table' map', map.updateSize ref cols rows = some map' ∧
          table.updateSize ref cols rows = (true, table') ∧ Represents table' map' := by
  have hmodify : (map.updateSize ref cols rows).map SlotTable.slots = _ := map_slots_modify ..
  rw [h, updateFirst_resize] at hmodify
  rw [updateSize]
  cases hheld : updateFirst (SessionSlot.isFor ref) (.resize cols rows) table.entries with
  | some entries =>
    rw [hheld, Option.map_some, Option.map_eq_some_iff] at hmodify
    obtain ⟨map', hmap', hslots⟩ := hmodify
    exact .inr ⟨⟨entries⟩, map', hmap', rfl, hslots⟩
  | none =>
    rw [hheld, Option.map_none, Option.map_eq_none_iff] at hmodify
    exact .inl ⟨hmodify, rfl⟩

/-- A remove of the array is a remove of the map. -/
theorem represents_remove (h : Represents table map) (ref : ConnectionRef) :
    Represents (table.remove ref) (map.remove ref) := by
  change (map.slots.map fun slot => if holds ref slot then none else slot)
    = (table.entries.map fun slot => if slot.isFor ref then .zero else slot).map SessionSlot.held
  rw [h, List.map_map, List.map_map]
  refine List.map_congr_left fun slot _ => ?_
  rw [Function.comp_apply, Function.comp_apply, SessionSlot.holds_held]
  split_ifs <;> rfl

/-! ## What the calls so far have left -/

/-- What the map has for a connection is what the history has left. -/
def Recalls (map : SessionMap) (history : History) : Prop :=
  ∀ ref, (map.get ref).map SessionEntry.sessionName = lastName ref history ∧
    (map.get ref).map (fun entry => (entry.cols, entry.rows)) = lastSize ref history

variable {history : History}

theorem recalls_init : Recalls .init [] := by
  intro ref
  have hget : SlotTable.get SessionMap.init ref = none := rfl
  rw [hget]
  exact ⟨rfl, rfl⟩

theorem recalls_set {map' : SessionMap} (h : Recalls map history) {name : SessionName}
    {cols rows : UInt16} (hset : map.set ref name.text cols rows = some map') :
    Recalls map' ((.set ref name cols rows, true) :: history) := by
  intro other
  rw [lastName, lastSize]
  by_cases hother : ref = other
  · rw [if_pos hother, if_pos hother, ← hother, SessionMap.get_set_self hset name.fits]
    exact ⟨rfl, rfl⟩
  · rw [if_neg hother, if_neg hother, SessionMap.get_set_of_ne hset (Ne.symm hother)]
    exact h other

theorem recalls_updateSize {map' : SessionMap} (h : Recalls map history) {cols rows : UInt16}
    (hupdate : map.updateSize ref cols rows = some map') :
    Recalls map' ((.updateSize ref cols rows, true) :: history) := by
  intro other
  change _ = lastName other history ∧
    _ = if ref = other then some (cols, rows) else lastSize other history
  rw [get_modify hupdate]
  by_cases hother : ref = other
  · subst hother
    -- A size is changed only where there is a session.
    have hheld : map.get ref ≠ none := by
      intro hnone
      rw [SessionMap.updateSize, modify_eq_none_iff.mpr (get_eq_none_iff.mp hnone)] at hupdate
      exact absurd hupdate (by simp)
    obtain ⟨entry, hentry⟩ := Option.ne_none_iff_exists'.mp hheld
    rw [if_pos rfl, Function.update_self, ← (h ref).1, hentry]
    exact ⟨rfl, rfl⟩
  · rw [if_neg hother, Function.update_of_ne (Ne.symm hother)]
    exact h other

theorem recalls_remove (h : Recalls map history) (ref : ConnectionRef) :
    Recalls (map.remove ref) ((.remove ref, true) :: history) := by
  intro other
  rw [lastName, lastSize]
  by_cases hother : ref = other
  · rw [if_pos hother, if_pos hother, ← hother, SessionMap.get_remove_self]
    exact ⟨rfl, rfl⟩
  · rw [if_neg hother, if_neg hother, SessionMap.get_remove_of_ne (Ne.symm hother)]
    exact h other

/-- The table is a map that recalls the history. -/
def Tracks (state : SessionTable × History) : Prop :=
  ∃ map, Represents state.1 map ∧ Recalls map state.2

theorem tracks_step {state : SessionTable × History} (h : Tracks state) (next : SessionCall) :
    Tracks (step state next) := by
  obtain ⟨map, hmap, hrecalls⟩ := h
  cases next with
  | set ref name cols rows =>
    obtain ⟨-, hset⟩ | ⟨table', map', hmap', hset, hrep⟩ := represents_set hmap name.text cols rows
    · rw [step, call, hset]
      exact ⟨map, hmap, hrecalls⟩
    · rw [step, call, hset]
      exact ⟨map', hrep, recalls_set hrecalls hmap'⟩
  | get ref => exact ⟨map, hmap, hrecalls⟩
  | updateSize ref cols rows =>
    obtain ⟨-, hupdate⟩ | ⟨table', map', hmap', hupdate, hrep⟩ :=
      represents_updateSize hmap cols rows
    · rw [step, call, hupdate]
      exact ⟨map, hmap, hrecalls⟩
    · rw [step, call, hupdate]
      exact ⟨map', hrep, recalls_updateSize hrecalls hmap'⟩
  | remove ref => exact ⟨map.remove ref, represents_remove hmap ref, recalls_remove hrecalls ref⟩

/-- After any calls the array is a map that recalls them. -/
theorem tracks_run (calls : List SessionCall) : Tracks (run calls) := by
  have hfold : ∀ state, Tracks state → Tracks (calls.foldl step state) := by
    induction calls with
    | nil => exact fun state h => h
    | cons next calls ih => exact fun state h => ih _ (tracks_step h next)
  exact hfold _ ⟨.init, represents_init, recalls_init⟩

/-! ## Each call -/

/-- The connections of the valid entries are different. -/
theorem nodup_valid (h : Represents table map) :
    ((table.entries.filter SessionSlot.valid).map SessionSlot.connectionRef).Nodup := by
  have hkeys : heldKeys map.slots
      = (table.entries.filter SessionSlot.valid).map SessionSlot.connectionRef := by
    rw [h]
    induction table.entries with
    | nil => rfl
    | cons slot slots ih =>
      rw [List.map_cons, SessionSlot.held]
      rcases hvalid : slot.valid with - | -
      · rw [List.filter_cons_of_neg (by simp [hvalid])]
        exact ih
      · rw [List.filter_cons_of_pos hvalid, if_pos rfl, heldKeys_cons_some, ih]
        rfl
  rw [← hkeys]
  exact map.nodup_keys

/-- A connection other than the one a call is about keeps its entry. -/
theorem get_call_of_ne (h : Represents table map) {next : SessionCall} {other : ConnectionRef}
    (hne : other ≠ next.ref) : (table.call next).2.get other = table.get other := by
  cases next with
  | set ref name cols rows =>
    obtain ⟨-, hset⟩ | ⟨table', map', hmap', hset, hrep⟩ := represents_set h name.text cols rows
    · rw [call, hset]
    · rw [call, hset, get_eq hrep, get_eq h, SessionMap.get_set_of_ne hmap' hne]
  | get ref => rfl
  | updateSize ref cols rows =>
    obtain ⟨-, hupdate⟩ | ⟨table', map', hmap', hupdate, hrep⟩ := represents_updateSize h cols rows
    · rw [call, hupdate]
    · have hother : other ≠ ref := hne
      rw [call, hupdate, get_eq hrep, get_eq h, get_modify hmap', Function.update_of_ne hother]
  | remove ref =>
    have hother : other ≠ ref := hne
    rw [call, get_eq (represents_remove h ref), get_eq h, SessionMap.get_remove_of_ne hother]

/-- As many other connections as there are entries have one. -/
def OthersHold (table : SessionTable) (ref : ConnectionRef) : Prop :=
  ∃ others : Finset ConnectionRef, others.card = maxSessions ∧ ref ∉ others ∧
    ∀ other ∈ others, table.get other ≠ none

theorem get_eq_none_iff (h : Represents table map) : table.get ref = none ↔ map.get ref = none := by
  rw [get_eq h, Option.map_eq_none_iff]

/-- A set fails when the connection has no entry and the others have all. -/
theorem set_fails_iff (h : Represents table map) (sessionName : CString) (cols rows : UInt16) :
    (table.set ref sessionName cols rows).1 = false
      ↔ table.get ref = none ∧ OthersHold table ref := by
  have hmap : map.set ref sessionName cols rows = none ↔
      table.get ref = none ∧ OthersHold table ref := by
    simp only [SessionMap.set, put_eq_none_iff, notMem_and_full_iff, OthersHold, get_eq_none_iff h,
      Ne]
  rw [← hmap]
  obtain ⟨hnone, hset⟩ | ⟨table', map', hmap', hset, -⟩ := represents_set h sessionName cols rows
  · rw [hset, hnone]
    simp
  · rw [hset, hmap']
    simp

theorem set_eq_of_fails {sessionName : CString} {cols rows : UInt16}
    (h : (table.set ref sessionName cols rows).1 = false) :
    (table.set ref sessionName cols rows).2 = table := by
  rw [set] at h ⊢
  split at h
  · exact absurd h (by simp)
  · split at h
    · exact absurd h (by simp)
    · simp [*]

/-- An update succeeds when the connection has an entry. -/
theorem updateSize_succeeds_iff (h : Represents table map) (cols rows : UInt16) :
    (table.updateSize ref cols rows).1 = true ↔ table.get ref ≠ none := by
  have hmap : map.updateSize ref cols rows = none ↔ table.get ref = none := by
    rw [SessionMap.updateSize, modify_eq_none_iff, get_eq_none_iff h, SlotTable.get_eq_none_iff]
  rw [Ne, ← hmap]
  obtain ⟨hnone, hupdate⟩ | ⟨table', map', hmap', hupdate, -⟩ := represents_updateSize h cols rows
  · rw [hupdate, hnone]
    simp
  · rw [hupdate, hmap']
    simp

/-- **The session map is a bounded finite map.**  After any calls: no connection has two valid
entries; an entry is the name and the size that the calls so far have left; a set fails when the
connection has none and the others have all, and then it changes nothing; an update succeeds when
the connection has one; no call changes the entry of another connection. -/
theorem sessionTable_refines (calls : List SessionCall) :
    (((run calls).1.entries.filter SessionSlot.valid).map SessionSlot.connectionRef).Nodup ∧
    (∀ ref, ((run calls).1.get ref).map SessionSlot.sessionName = lastName ref (run calls).2 ∧
      ((run calls).1.get ref).map (fun slot => (slot.cols, slot.rows))
        = lastSize ref (run calls).2) ∧
    (∀ ref (name : SessionName) cols rows,
      (((run calls).1.set ref name.text cols rows).1 = false ↔
        (run calls).1.get ref = none ∧ OthersHold (run calls).1 ref) ∧
      (((run calls).1.set ref name.text cols rows).1 = false →
        ((run calls).1.set ref name.text cols rows).2 = (run calls).1)) ∧
    (∀ ref cols rows,
      ((run calls).1.updateSize ref cols rows).1 = true ↔ (run calls).1.get ref ≠ none) ∧
    ∀ next other, other ≠ SessionCall.ref next →
      ((run calls).1.call next).2.get other = (run calls).1.get other := by
  obtain ⟨map, hmap, hrecalls⟩ := tracks_run calls
  refine ⟨nodup_valid hmap, fun ref => ?_, fun ref name cols rows => ?_, fun ref cols rows => ?_,
    fun next other hne => get_call_of_ne hmap hne⟩
  · rw [get_eq hmap, Option.map_map, Option.map_map]
    exact hrecalls ref
  · exact ⟨set_fails_iff hmap name.text cols rows, set_eq_of_fails⟩
  · exact updateSize_succeeds_iff hmap cols rows

end SessionTable

end TmuxRemote
