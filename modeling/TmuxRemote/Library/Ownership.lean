import Mathlib.Data.List.Nodup
import Mathlib.Data.List.Perm.Basic

/-!
# Library/Ownership — blocks that are held once or freed once

Blocks are numbered as they are allocated.  The heap keeps what has been freed, every time it was;
what is held is for the program to say.  `Balanced` is that the two together are all the blocks
there are, each of them once: none is leaked, held twice, or freed twice.  The rules below are for
allocating, freeing and handing on; with nothing held, every block was freed once
(`Balanced.count_released`).
-/

namespace Ownership

structure Heap where
  /-- The number of the next block. -/
  next : ℕ
  /-- The blocks that were freed, one entry each time. -/
  released : List ℕ
  deriving DecidableEq

namespace Heap

variable (heap : Heap)

/-- A new heap. -/
def empty : Heap := ⟨0, []⟩

/-- So many new blocks. -/
def allocate (count : ℕ) : Heap := { heap with next := heap.next + count }

/-- The blocks that `allocate` gives. -/
def fresh (count : ℕ) : List ℕ := List.range' heap.next count

/-- The blocks are freed. -/
def release (blocks : List ℕ) : Heap := { heap with released := heap.released ++ blocks }

@[simp] theorem allocate_next (count : ℕ) : (heap.allocate count).next = heap.next + count := rfl

@[simp] theorem allocate_released (count : ℕ) : (heap.allocate count).released = heap.released :=
  rfl

@[simp] theorem release_next (blocks : List ℕ) : (heap.release blocks).next = heap.next := rfl

@[simp] theorem release_nil : heap.release [] = heap := by
  rw [release, List.append_nil]

end Heap

/-- Every block is held once, or was freed once. -/
def Balanced (heap : Heap) (held : List ℕ) : Prop :=
  (heap.released ++ held).Perm (List.range heap.next)

namespace Balanced

variable {heap : Heap} {held held' : List ℕ}

theorem empty : Balanced Heap.empty [] := .nil

/-- It does not matter who holds what. -/
theorem perm (h : Balanced heap held) (hperm : held.Perm held') : Balanced heap held' :=
  (hperm.symm.append_left heap.released).trans h

theorem allocate (h : Balanced heap held) (count : ℕ) :
    Balanced (heap.allocate count) (held ++ heap.fresh count) := by
  have hrange : List.range (heap.next + count)
      = List.range heap.next ++ List.range' heap.next count := by
    rw [List.range_eq_range', List.range_eq_range', ← List.range'_append_1, Nat.zero_add]
  rw [Balanced, Heap.allocate_released, Heap.allocate_next, hrange, ← List.append_assoc]
  exact List.Perm.append_right _ h

theorem release {freed : List ℕ} (h : Balanced heap (freed ++ held)) :
    Balanced (heap.release freed) held := by
  rw [Balanced, Heap.release, List.append_assoc]
  exact h

/-- No block is freed twice. -/
theorem nodup_released (h : Balanced heap held) : heap.released.Nodup :=
  (h.nodup_iff.mpr List.nodup_range).of_append_left

/-- With nothing held, every block was freed once. -/
theorem count_released (h : Balanced heap []) {block : ℕ} (hblock : block < heap.next) :
    heap.released.count block = 1 := by
  have hmem : block ∈ heap.released := by
    rw [← List.append_nil heap.released]
    exact h.mem_iff.mpr (List.mem_range.mpr hblock)
  exact List.count_eq_one_of_mem h.nodup_released hmem

end Balanced

end Ownership
