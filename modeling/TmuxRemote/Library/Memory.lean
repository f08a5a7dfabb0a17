import Mathlib.Data.Int.Init
import TmuxRemote.Library.CString

/-!
# Library/Memory — `int` arithmetic and memory blocks, checked

A C program at the level at which it can go wrong: an `int` result outside 32 bits, or an access
outside a block, is a fault.  Where the operands are in range the operations are the plain ones
(`int32_eq`, `store_eq`, `memset_eq`, `memcpy_eq`, `readString_eq`), so a program shown to be free
of faults computes what its model without checks does.
-/

namespace CMemory

/-- What the C standard leaves undefined. -/
inductive Fault
  | intOverflow
  | outOfBounds
  deriving DecidableEq

/-- The result of an `int` operation. -/
def int32 (x : ℤ) : Except Fault ℤ :=
  if -2 ^ 31 ≤ x ∧ x < 2 ^ 31 then .ok x else .error .intOverflow

section

variable {α : Type*}

/-- `block[offset] = value` -/
def store (block : List α) (offset : ℤ) (value : α) : Except Fault (List α) :=
  if 0 ≤ offset ∧ offset < block.length then .ok (block.set offset.toNat value)
  else .error .outOfBounds

/-- `block[offset]` up to `block[offset + count - 1]`. -/
def load (block : List α) (offset count : ℤ) : Except Fault (List α) :=
  if 0 ≤ offset ∧ 0 ≤ count ∧ offset + count ≤ block.length then
    .ok ((block.drop offset.toNat).take count.toNat)
  else .error .outOfBounds

/-- `count` elements of a block are overwritten. -/
def overwrite (block : List α) (offset : ℤ) (values : List α) : Except Fault (List α) :=
  if 0 ≤ offset ∧ offset + values.length ≤ block.length then
    .ok (block.take offset.toNat ++ values ++ block.drop (offset.toNat + values.length))
  else .error .outOfBounds

/-- `memset(block + offset, value, count)` -/
def memset (block : List α) (offset : ℤ) (value : α) (count : ℤ) : Except Fault (List α) :=
  if 0 ≤ count then overwrite block offset (List.replicate count.toNat value)
  else .error .outOfBounds

/-- `memcpy(block + offset, source + start, count)`, and `memmove` within one block. -/
def memcpy (block : List α) (offset : ℤ) (source : List α) (start count : ℤ) :
    Except Fault (List α) := do
  overwrite block offset (← load source start count)

end

/-- A buffer read as a string: it must have a terminator. -/
def readString (block : List UInt8) : Except Fault CString :=
  if 0 ∈ block then .ok (.ofBytes block) else .error .outOfBounds

@[simp] theorem ok_bind {ε α β : Type} (a : α) (f : α → Except ε β) : (Except.ok a >>= f) = f a :=
  rfl

@[simp] theorem return_eq {ε α : Type*} (a : α) : (pure a : Except ε α) = .ok a := rfl

/-- A loop none of whose rounds fails. -/
theorem mapM_eq {ε α β : Type} {f : α → Except ε β} {g : α → β} {l : List α}
    (h : ∀ a ∈ l, f a = .ok (g a)) : l.mapM f = .ok (l.map g) := by
  induction l with
  | nil => rfl
  | cons a l ih =>
    rw [List.mapM_cons, h a List.mem_cons_self, ok_bind,
      ih fun b hb => h b (List.mem_cons_of_mem a hb), ok_bind, return_eq, List.map_cons]

/-! ## In range -/

/-- A sum that fits is its value. -/
theorem int32_eq {x : ℤ} (h : -2 ^ 31 ≤ x ∧ x < 2 ^ 31) : int32 x = .ok x := if_pos h

section

variable {α : Type*} {block source : List α} {offset start count : ℕ}

/-- A store within the block succeeds, and so do the operations below, within their bounds. -/
theorem store_eq (value : α) (h : offset < block.length) :
    store block offset value = .ok (block.set offset value) := by
  rw [store, if_pos (by omega), Int.toNat_natCast]

theorem load_eq (h : offset + count ≤ block.length) :
    load block offset count = .ok ((block.drop offset).take count) := by
  rw [load, if_pos (by omega), Int.toNat_natCast, Int.toNat_natCast]

theorem overwrite_eq {values : List α} (h : offset + values.length ≤ block.length) :
    overwrite block offset values
      = .ok (block.take offset ++ values ++ block.drop (offset + values.length)) := by
  rw [overwrite, if_pos (by omega), Int.toNat_natCast]

theorem memset_eq (value : α) (h : offset + count ≤ block.length) :
    memset block offset value count
      = .ok (block.take offset ++ List.replicate count value ++ block.drop (offset + count)) := by
  rw [memset, if_pos (Int.natCast_nonneg count), Int.toNat_natCast, overwrite_eq,
    List.length_replicate]
  rwa [List.length_replicate]

/-- Both the bytes that are read and those that are written lie within their blocks. -/
theorem memcpy_eq (hdst : offset + count ≤ block.length) (hsrc : start + count ≤ source.length) :
    memcpy block offset source start count
      = .ok (block.take offset ++ (source.drop start).take count
        ++ block.drop (offset + count)) := by
  have hlength : ((source.drop start).take count).length = count := by
    rw [List.length_take, List.length_drop]
    omega
  rw [memcpy, load_eq hsrc]
  refine (overwrite_eq (by rwa [hlength])).trans ?_
  rw [hlength]

end

/-- A string is read up to its terminator, which has to be there. -/
theorem readString_eq {block : List UInt8} (h : 0 ∈ block) :
    readString block = .ok (.ofBytes block) := if_pos h

end CMemory
