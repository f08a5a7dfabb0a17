import Mathlib.Data.Finset.Card
import Mathlib.Data.List.Nodup
import Mathlib.Data.List.Perm.Subperm
import Mathlib.Logic.Function.Basic

/-!
# Library/SlotTable — a fixed array of slots as a bounded finite map

`n` slots, each free or holding a value under a key.  The operations are the loops a program runs
over such an array: act on the first slot that fits and leave (`updateFirst`), or sweep them all.
That no key is held twice is part of the type, and the operations keep it.

Seen from outside the table is the map `get`: `put` and `erase` update it at one key, and `put`
fails exactly when the key is new and no slot is free (`put_eq_none_iff`).
-/

namespace SlotTable

/-- Act on the first element that fits and leave; `none` when there is none. -/
def updateFirst {σ : Type*} (fits : σ → Bool) (f : σ → σ) : List σ → Option (List σ)
  | [] => none
  | x :: xs => if fits x then some (f x :: xs) else (updateFirst fits f xs).map (x :: ·)

section

variable {σ : Type*} {fits : σ → Bool} {f : σ → σ}

theorem updateFirst_eq_some {xs ys : List σ} (h : updateFirst fits f xs = some ys) :
    ∃ before x after, xs = before ++ x :: after ∧ (∀ y ∈ before, fits y = false)
      ∧ fits x = true ∧ ys = before ++ f x :: after := by
  induction xs generalizing ys with
  | nil => exact absurd h (Option.some_ne_none ys).symm
  | cons x xs ih =>
    rcases hfits : fits x with - | -
    · rw [updateFirst, hfits, if_neg Bool.false_ne_true, Option.map_eq_some_iff] at h
      obtain ⟨zs, hzs, rfl⟩ := h
      obtain ⟨before, y, after, rfl, hbefore, hy, rfl⟩ := ih hzs
      refine ⟨x :: before, y, after, rfl, ?_, hy, rfl⟩
      rw [List.forall_mem_cons]
      exact ⟨hfits, hbefore⟩
    · rw [updateFirst, if_pos hfits] at h
      exact ⟨[], x, xs, rfl, fun y hy => absurd hy List.not_mem_nil, hfits,
        (Option.some.inj h).symm⟩

theorem updateFirst_eq_none_iff {xs : List σ} :
    updateFirst fits f xs = none ↔ ∀ x ∈ xs, fits x = false := by
  induction xs with
  | nil => simp [updateFirst]
  | cons x xs ih =>
    rcases hfits : fits x with - | -
    · simp [updateFirst, hfits, ih]
    · simp [updateFirst, hfits]

/-- The same loop over what the elements stand for. -/
theorem updateFirst_map {τ : Type*} {fits' : τ → Bool} {f' : τ → τ} {g : σ → τ}
    (hfits : ∀ x, fits' (g x) = fits x) (hf : ∀ x, fits x = true → f' (g x) = g (f x))
    (xs : List σ) : updateFirst fits' f' (xs.map g) = (updateFirst fits f xs).map (List.map g) := by
  induction xs with
  | nil => rfl
  | cons x xs ih =>
    rw [List.map_cons, updateFirst, updateFirst, hfits]
    rcases hx : fits x with - | -
    · rw [if_neg Bool.false_ne_true, if_neg Bool.false_ne_true, ih, Option.map_map, Option.map_map]
      rfl
    · rw [if_pos rfl, if_pos rfl, hf x hx]
      rfl

end

section

variable {κ β : Type*}

/-- The keys held, in the order of the slots. -/
def heldKeys (slots : List (Option (κ × β))) : List κ := slots.filterMap (Option.map Prod.fst)

@[simp] theorem heldKeys_nil : heldKeys ([] : List (Option (κ × β))) = [] := rfl

@[simp] theorem heldKeys_cons_none (slots : List (Option (κ × β))) :
    heldKeys (none :: slots) = heldKeys slots := rfl

@[simp] theorem heldKeys_cons_some (entry : κ × β) (slots : List (Option (κ × β))) :
    heldKeys (some entry :: slots) = entry.1 :: heldKeys slots := rfl

@[simp] theorem heldKeys_append (xs ys : List (Option (κ × β))) :
    heldKeys (xs ++ ys) = heldKeys xs ++ heldKeys ys := List.filterMap_append

/-- Every slot is held exactly when there are as many keys as slots. -/
theorem length_heldKeys_eq_iff (slots : List (Option (κ × β))) :
    (heldKeys slots).length = slots.length ↔ ∀ slot ∈ slots, slot.isNone = false := by
  induction slots with
  | nil => simp
  | cons slot slots ih =>
    rcases slot with - | entry
    · have hle : (heldKeys slots).length ≤ slots.length := List.length_filterMap_le _ _
      refine ⟨fun h => ?_, fun h => absurd (h none List.mem_cons_self) (by simp)⟩
      rw [heldKeys_cons_none, List.length_cons] at h
      omega
    · rw [heldKeys_cons_some, List.length_cons, List.length_cons, Nat.add_right_cancel_iff, ih,
        List.forall_mem_cons]
      exact (and_iff_right rfl).symm

variable [DecidableEq κ]

/-- The value in a slot, if it is held under the key. -/
def valueAt (k : κ) (slot : Option (κ × β)) : Option β :=
  slot.bind fun entry => if entry.1 = k then some entry.2 else none

/-- The slot is held under the key. -/
def holds (k : κ) (slot : Option (κ × β)) : Bool := slot.any (·.1 = k)

@[simp] theorem valueAt_none (k : κ) : valueAt k (none : Option (κ × β)) = none := rfl

@[simp] theorem valueAt_some (k : κ) (entry : κ × β) :
    valueAt k (some entry) = if entry.1 = k then some entry.2 else none := rfl

@[simp] theorem holds_none (k : κ) : holds k (none : Option (κ × β)) = false := rfl

@[simp] theorem holds_some (k : κ) (entry : κ × β) :
    holds k (some entry) = decide (entry.1 = k) := rfl

theorem valueAt_eq_none_iff {k : κ} {slot : Option (κ × β)} :
    valueAt k slot = none ↔ holds k slot = false := by
  rcases slot with - | entry <;> simp

/-- A slot held under one key has nothing to show under another. -/
theorem valueAt_of_holds {k k' : κ} {slot : Option (κ × β)} (h : holds k slot = true)
    (hne : k' ≠ k) : valueAt k' slot = none := by
  rcases slot with - | entry
  · rfl
  · rw [holds_some, decide_eq_true_iff] at h
    exact if_neg fun hk => hne (hk.symm.trans h)

theorem mem_heldKeys {k : κ} {slots : List (Option (κ × β))} :
    k ∈ heldKeys slots ↔ ∃ slot ∈ slots, holds k slot = true := by
  simp [heldKeys, holds, Option.any_eq_true, List.mem_filterMap]

end

end SlotTable

open SlotTable in
/-- `n` slots, each free or holding a value, no two under the same key. -/
structure SlotTable (κ β : Type*) (n : ℕ) where
  slots : List (Option (κ × β))
  length_slots : slots.length = n
  nodup_keys : (heldKeys slots).Nodup

namespace SlotTable

variable {κ β : Type*} {n : ℕ}

/-- All slots free. -/
def empty (κ β : Type*) (n : ℕ) : SlotTable κ β n where
  slots := List.replicate n none
  length_slots := List.length_replicate
  nodup_keys := by
    rw [heldKeys, List.filterMap_replicate_of_none rfl]
    exact List.nodup_nil

/-- The keys held. -/
def keys (t : SlotTable κ β n) : List κ := heldKeys t.slots

/-- No slot is free. -/
def Full (t : SlotTable κ β n) : Prop := t.keys.length = n

theorem full_iff {t : SlotTable κ β n} : t.Full ↔ ∀ slot ∈ t.slots, slot.isNone = false := by
  rw [Full, keys, ← length_heldKeys_eq_iff, t.length_slots]

theorem length_keys_le (t : SlotTable κ β n) : t.keys.length ≤ n :=
  (List.length_filterMap_le _ _).trans_eq t.length_slots

variable [DecidableEq κ]

/-- The value of the first slot held under the key. -/
def get (t : SlotTable κ β n) (k : κ) : Option β := t.slots.findSome? (valueAt k)

theorem get_eq_none_iff {t : SlotTable κ β n} {k : κ} : t.get k = none ↔ k ∉ t.keys := by
  rw [get, List.findSome?_eq_none_iff, keys, mem_heldKeys, not_exists]
  refine forall_congr' fun slot => ?_
  rcases slot with - | entry
  · simp
  · simp [eq_comm]

/-- The loops of a table update: the slot held under the key, else the first free one. -/
def putSlots (k : κ) (v : β) (slots : List (Option (κ × β))) : Option (List (Option (κ × β))) :=
  (updateFirst (holds k) (fun _ => some (k, v)) slots).orElse fun _ =>
    updateFirst Option.isNone (fun _ => some (k, v)) slots

/-- **What a table update does**: one slot, held under the key or free, comes to hold the value. -/
theorem putSlots_eq_some {k : κ} {v : β} {slots slots' : List (Option (κ × β))}
    (h : putSlots k v slots = some slots') :
    ∃ before slot after, slots = before ++ slot :: after ∧ slots' = before ++ some (k, v) :: after
      ∧ (∀ y ∈ before, holds k y = false) ∧
        (holds k slot = true ∨ slot = none ∧ ∀ y ∈ slots, holds k y = false) := by
  rcases hheld : updateFirst (holds k) (fun _ => some (k, v)) slots with - | zs
  · rw [putSlots, hheld, Option.orElse_none] at h
    obtain ⟨before, slot, after, rfl, -, hfree, rfl⟩ := updateFirst_eq_some h
    have hnew := updateFirst_eq_none_iff.mp hheld
    refine ⟨before, slot, after, rfl, rfl, ?_, Or.inr ⟨Option.isNone_iff_eq_none.mp hfree, hnew⟩⟩
    exact fun y hy => hnew y (List.mem_append_left _ hy)
  · rw [putSlots, hheld, Option.orElse_some, Option.some.injEq] at h
    obtain ⟨before, slot, after, rfl, hbefore, hslot, rfl⟩ := updateFirst_eq_some hheld
    exact ⟨before, slot, after, rfl, h.symm, hbefore, Or.inl hslot⟩

theorem length_putSlots {k : κ} {v : β} {slots slots' : List (Option (κ × β))}
    (h : putSlots k v slots = some slots') : slots'.length = slots.length := by
  obtain ⟨before, slot, after, rfl, rfl, -, -⟩ := putSlots_eq_some h
  rw [List.length_append, List.length_append, List.length_cons, List.length_cons]

theorem nodup_putSlots {k : κ} {v : β} {slots slots' : List (Option (κ × β))}
    (hnodup : (heldKeys slots).Nodup) (h : putSlots k v slots = some slots') :
    (heldKeys slots').Nodup := by
  obtain ⟨before, slot, after, rfl, rfl, -, hslot⟩ := putSlots_eq_some h
  rcases hslot with hheld | ⟨rfl, hnew⟩
  · rcases slot with - | ⟨k', v'⟩
    · exact absurd hheld (by simp)
    · obtain rfl : k' = k := by simpa using hheld
      rw [heldKeys_append, heldKeys_cons_some] at hnodup ⊢
      exact hnodup
  · have hnotMem : k ∉ heldKeys (before ++ none :: after) := by
      rw [mem_heldKeys]
      push Not
      exact fun slot hmem => by simp [hnew slot hmem]
    rw [heldKeys_append, heldKeys_cons_none] at hnodup hnotMem
    rw [heldKeys_append, heldKeys_cons_some, List.nodup_middle, List.nodup_cons]
    exact ⟨hnotMem, hnodup⟩

/-- Set the value under the key; `none` when the key is new and no slot is free. -/
def put (t : SlotTable κ β n) (k : κ) (v : β) : Option (SlotTable κ β n) :=
  match h : putSlots k v t.slots with
  | none => none
  | some slots => some
    { slots := slots
      length_slots := (length_putSlots h).trans t.length_slots
      nodup_keys := nodup_putSlots t.nodup_keys h }

/-- A put runs the loops of an update on the slots. -/
theorem map_slots_put (t : SlotTable κ β n) (k : κ) (v : β) :
    (t.put k v).map slots = putSlots k v t.slots := by
  rw [put]
  split <;> simp [*]

theorem put_eq_some {t t' : SlotTable κ β n} {k : κ} {v : β} (h : t.put k v = some t') :
    putSlots k v t.slots = some t'.slots := by
  rw [put] at h
  split at h
  · exact absurd h (Option.some_ne_none t').symm
  · obtain rfl := Option.some.inj h
    assumption

/-- **A put is an update of the map.** -/
theorem get_put {t t' : SlotTable κ β n} {k : κ} {v : β} (h : t.put k v = some t') :
    t'.get = Function.update t.get k (some v) := by
  obtain ⟨before, slot, after, hslots, hslots', hbefore, hslot⟩ := putSlots_eq_some (put_eq_some h)
  funext k'
  rw [get, hslots', List.findSome?_append, List.findSome?_cons]
  rcases eq_or_ne k' k with rfl | hne
  · rw [Function.update_self, List.findSome?_eq_none_iff.mpr fun y hy =>
      valueAt_eq_none_iff.mpr (hbefore y hy)]
    simp
  · have hother : valueAt k' slot = none := by
      rcases hslot with hheld | ⟨rfl, -⟩
      · exact valueAt_of_holds hheld hne
      · rfl
    have hput : valueAt k' (some (k, v)) = none := if_neg hne.symm
    rw [Function.update_of_ne hne, get, hslots, List.findSome?_append, List.findSome?_cons, hother,
      hput]

/-- **When a put fails**: the key is new and no slot is free. -/
theorem put_eq_none_iff {t : SlotTable κ β n} {k : κ} {v : β} :
    t.put k v = none ↔ k ∉ t.keys ∧ t.Full := by
  have hput : t.put k v = none ↔ putSlots k v t.slots = none := by
    rw [put]
    split <;> simp [*]
  have hheld : k ∉ t.keys ↔ updateFirst (holds k) (fun _ => some (k, v)) t.slots = none := by
    rw [updateFirst_eq_none_iff, keys, mem_heldKeys]
    simp
  rw [hput, hheld, full_iff, ← updateFirst_eq_none_iff, putSlots]
  rcases updateFirst (holds k) (fun _ => some (k, v)) t.slots with - | slots
  · exact (and_iff_right rfl).symm
  · simp

/-- Seen from outside: the key is new, and as many others as there are slots are not. -/
theorem notMem_and_full_iff {t : SlotTable κ β n} {k : κ} :
    k ∉ t.keys ∧ t.Full ↔ t.get k = none ∧
      ∃ others : Finset κ, others.card = n ∧ k ∉ others ∧ ∀ other ∈ others, t.get other ≠ none := by
  rw [get_eq_none_iff]
  refine and_congr_right fun hk => ?_
  have hcount : t.keys.toFinset.card = t.keys.length := List.toFinset_card_of_nodup t.nodup_keys
  constructor
  · intro hfull
    refine ⟨t.keys.toFinset, ?_, fun h => hk (List.mem_toFinset.mp h), fun other hother => ?_⟩
    · exact hcount.trans hfull
    · rw [Ne, get_eq_none_iff, not_not]
      exact List.mem_toFinset.mp hother
  · rintro ⟨others, hcard, -, hothers⟩
    have hsub : others ⊆ t.keys.toFinset := by
      intro other hother
      have := hothers other hother
      rw [Ne, get_eq_none_iff, not_not] at this
      exact List.mem_toFinset.mpr this
    refine le_antisymm t.length_keys_le ?_
    calc
      n = others.card := hcard.symm
      _ ≤ t.keys.toFinset.card := Finset.card_le_card hsub
      _ = t.keys.length := hcount

/-! ## Changing a value in place -/

theorem heldKeys_modify {k : κ} {f : β → β} {slots slots' : List (Option (κ × β))}
    (h : updateFirst (holds k) (Option.map (Prod.map id f)) slots = some slots') :
    heldKeys slots' = heldKeys slots := by
  obtain ⟨before, slot, after, rfl, -, -, rfl⟩ := updateFirst_eq_some h
  rcases slot with - | entry <;> simp

theorem length_modify {k : κ} {f : β → β} {slots slots' : List (Option (κ × β))}
    (h : updateFirst (holds k) (Option.map (Prod.map id f)) slots = some slots') :
    slots'.length = slots.length := by
  obtain ⟨before, slot, after, rfl, -, -, rfl⟩ := updateFirst_eq_some h
  rw [List.length_append, List.length_append, List.length_cons, List.length_cons]

/-- Change the value under the key; `none` when there is none. -/
def modify (t : SlotTable κ β n) (k : κ) (f : β → β) : Option (SlotTable κ β n) :=
  match h : updateFirst (holds k) (Option.map (Prod.map id f)) t.slots with
  | none => none
  | some slots => some
    { slots := slots
      length_slots := (length_modify h).trans t.length_slots
      nodup_keys := by
        rw [heldKeys_modify h]
        exact t.nodup_keys }

/-- A change in place leaves the keys alone. -/
theorem keys_modify {t t' : SlotTable κ β n} {k : κ} {f : β → β} (h : t.modify k f = some t') :
    t'.keys = t.keys := by
  rw [modify] at h
  split at h
  · exact absurd h (Option.some_ne_none t').symm
  · rename_i slots hslots
    obtain rfl := Option.some.inj h
    exact heldKeys_modify hslots

/-- A change in place runs its loop on the slots. -/
theorem map_slots_modify (t : SlotTable κ β n) (k : κ) (f : β → β) :
    (t.modify k f).map slots = updateFirst (holds k) (Option.map (Prod.map id f)) t.slots := by
  rw [modify]
  split <;> simp [*]

/-- There is nothing to change exactly under a key that is not there. -/
theorem modify_eq_none_iff {t : SlotTable κ β n} {k : κ} {f : β → β} :
    t.modify k f = none ↔ k ∉ t.keys := by
  rw [← Option.map_eq_none_iff, map_slots_modify, updateFirst_eq_none_iff, keys, mem_heldKeys]
  simp

/-- **A change in place is an update of the map.** -/
theorem get_modify {t t' : SlotTable κ β n} {k : κ} {f : β → β} (h : t.modify k f = some t') :
    t'.get = Function.update t.get k ((t.get k).map f) := by
  have hslots := map_slots_modify t k f
  rw [h, Option.map_some, eq_comm] at hslots
  obtain ⟨before, slot, after, hold, hbefore, hslot, hnew⟩ := updateFirst_eq_some hslots
  obtain _ | ⟨held, v⟩ := slot
  · exact absurd hslot (by simp)
  obtain rfl : held = k := by simpa using hslot
  have hskip : before.findSome? (valueAt held) = none :=
    List.findSome?_eq_none_iff.mpr fun y hy => valueAt_eq_none_iff.mpr (hbefore y hy)
  funext k'
  rcases eq_or_ne k' held with rfl | hne
  · rw [Function.update_self, get, get, hold, hnew, List.findSome?_append, List.findSome?_append,
      hskip]
    simp
  · rw [Function.update_of_ne hne, get, get, hold, hnew, List.findSome?_append,
      List.findSome?_append]
    simp [hne.symm]

/-! ## Freeing a slot -/

theorem heldKeys_erase (k : κ) (slots : List (Option (κ × β))) :
    heldKeys (slots.map fun slot => if holds k slot then none else slot)
      = (heldKeys slots).filter (· ≠ k) := by
  induction slots with
  | nil => rfl
  | cons slot slots ih =>
    rcases slot with - | entry
    · simpa using ih
    · rcases eq_or_ne entry.1 k with hk | hk
      · simpa [hk] using ih
      · simpa [hk] using ih

/-- Free every slot held under the key. -/
def erase (t : SlotTable κ β n) (k : κ) : SlotTable κ β n where
  slots := t.slots.map fun slot => if holds k slot then none else slot
  length_slots := (List.length_map _).trans t.length_slots
  nodup_keys := by
    rw [heldKeys_erase]
    exact t.nodup_keys.filter _

theorem keys_erase (t : SlotTable κ β n) (k : κ) : (t.erase k).keys = t.keys.filter (· ≠ k) :=
  heldKeys_erase k t.slots

/-- Under a key that is not there, nothing is freed. -/
theorem erase_of_notMem {t : SlotTable κ β n} {k : κ} (h : k ∉ t.keys) : t.erase k = t := by
  have hslots : t.slots.map (fun slot => if holds k slot then none else slot) = t.slots := by
    refine (List.map_congr_left fun slot hslot => if_neg fun hholds => ?_).trans (List.map_id _)
    exact h (mem_heldKeys.mpr ⟨slot, hslot, hholds⟩)
  obtain ⟨slots, hlength, hnodup⟩ := t
  rw [erase]
  congr 1

/-- **An erase is an update of the map.** -/
theorem get_erase (t : SlotTable κ β n) (k : κ) :
    (t.erase k).get = Function.update t.get k none := by
  funext k'
  rcases eq_or_ne k' k with rfl | hne
  · rw [Function.update_self, get_eq_none_iff, keys, erase, heldKeys_erase]
    simp
  · rw [Function.update_of_ne hne, get, get, erase, List.findSome?_map]
    refine congrArg (fun look => List.findSome? look t.slots) (funext fun slot => ?_)
    rcases hheld : holds k slot with - | -
    · simp [hheld]
    · simp [hheld, valueAt_of_holds hheld hne]

end SlotTable
