import Mathlib.Data.List.Nodup
import Mathlib.Logic.Function.Basic

/-!
# Library/LinkedQueue — a queue of linked nodes with a head and a tail

Nodes are taken off at the head and put behind the tail.  The pointers stand for a list of nodes
(`Represents`): head and tail are null together, and from the head one comes to the tail.
-/

/-- The two pointers, and where each node points. -/
structure LinkedQueue (ν : Type*) where
  head : Option ν
  tail : Option ν
  next : ν → Option ν

namespace LinkedQueue

variable {ν : Type*}

/-- No node. -/
def empty : LinkedQueue ν where
  head := none
  tail := none
  next := fun _ => none

/-- The nodes from a pointer on. -/
def Links (next : ν → Option ν) : Option ν → List ν → Prop
  | start, [] => start = none
  | start, n :: ns => start = some n ∧ Links next (next n) ns

/-- The list of nodes that the pointers stand for. -/
structure Represents (q : LinkedQueue ν) (ns : List ν) : Prop where
  links : Links q.next q.head ns
  tail : q.tail = ns.getLast?
  nodup : ns.Nodup

theorem represents_empty : (empty : LinkedQueue ν).Represents [] := ⟨rfl, rfl, List.nodup_nil⟩

section
variable {q : LinkedQueue ν} {ns : List ν}

theorem links_congr {next next' : ν → Option ν} (h : ∀ n ∈ ns, next' n = next n) {start : Option ν}
    (hlinks : Links next start ns) : Links next' start ns := by
  induction ns generalizing start with
  | nil => exact hlinks
  | cons n ns ih =>
    obtain ⟨hn, hns⟩ := List.forall_mem_cons.mp h
    exact ⟨hlinks.1, ih hns (hn ▸ hlinks.2)⟩

/-- **Head and tail are null together**, and only when there is no node. -/
theorem Represents.head_eq (h : q.Represents ns) : q.head = ns.head? := by
  cases ns with
  | nil => exact h.links
  | cons n ns => exact h.links.1

theorem Represents.head_eq_none_iff (h : q.Represents ns) : q.head = none ↔ ns = [] := by
  rw [h.head_eq, List.head?_eq_none_iff]

theorem Represents.tail_eq_none_iff (h : q.Represents ns) : q.tail = none ↔ ns = [] := by
  rw [h.tail, List.getLast?_eq_none_iff]

end

/-- A new node goes behind the tail. -/
def enqueue [DecidableEq ν] (q : LinkedQueue ν) (n : ν) : LinkedQueue ν :=
  match q.tail with
  | some t =>
    { head := q.head
      tail := some n
      next := Function.update (Function.update q.next n none) t (some n) }
  | none =>
    { head := some n
      tail := some n
      next := Function.update q.next n none }

/-- The node at the head is taken off. -/
def dequeue (q : LinkedQueue ν) : Option (ν × LinkedQueue ν) :=
  q.head.map fun n =>
    (n, { head := q.next n, tail := if (q.next n).isNone then none else q.tail, next := q.next })

section
variable {q : LinkedQueue ν} {ns : List ν}

/-- One more link at the end. -/
theorem links_concat [DecidableEq ν] {next : ν → Option ν} {n t : ν} (hn : next n = none) :
    ∀ {ns : List ν} {start : Option ν}, Links next start (ns ++ [t]) → n ∉ ns ++ [t] →
      (ns ++ [t]).Nodup → Links (Function.update next t (some n)) start (ns ++ [t] ++ [n])
  | [], start, hlinks, hfresh, _ => by
    rw [List.nil_append, List.mem_singleton] at hfresh
    refine ⟨hlinks.1, ?_, ?_⟩
    · exact Function.update_self _ _ _
    · rw [Function.update_of_ne hfresh, hn]
      rfl
  | m :: ns, start, hlinks, hfresh, hnodup => by
    rw [List.cons_append, List.mem_cons, not_or] at hfresh
    rw [List.cons_append, List.nodup_cons] at hnodup
    have hm : m ≠ t := by
      rintro rfl
      exact hnodup.1 (List.mem_append_right _ (List.mem_singleton_self m))
    refine ⟨hlinks.1, ?_⟩
    rw [Function.update_of_ne hm]
    exact links_concat hn hlinks.2 hfresh.2 hnodup.2

/-- **A node is put behind the others.** -/
theorem Represents.enqueue [DecidableEq ν] (h : q.Represents ns) {n : ν} (hfresh : n ∉ ns) :
    (q.enqueue n).Represents (ns ++ [n]) := by
  have hnodup : (ns ++ [n]).Nodup :=
    List.nodup_append.mpr ⟨h.nodup, List.nodup_singleton n, fun a ha b hb hab =>
      hfresh (List.mem_singleton.mp hb ▸ hab ▸ ha)⟩
  have hblank : Links (Function.update q.next n none) q.head ns := by
    refine links_congr (fun m hm => ?_) h.links
    exact Function.update_of_ne (ne_of_mem_of_not_mem hm hfresh) _ _
  rw [LinkedQueue.enqueue]
  obtain rfl | ⟨init, t, rfl⟩ := List.eq_nil_or_concat' ns
  · rw [h.tail_eq_none_iff.mpr rfl]
    exact ⟨⟨rfl, Function.update_self _ _ _⟩, rfl, hnodup⟩
  · have htail : q.tail = some t := by rw [h.tail, List.getLast?_concat]
    rw [htail]
    exact ⟨links_concat (Function.update_self _ _ _) hblank hfresh h.nodup,
      List.getLast?_concat.symm, hnodup⟩

/-- **The first node is taken off.** -/
theorem Represents.dequeue {n : ν} (h : q.Represents (n :: ns)) :
    ∃ q', q.dequeue = some (n, q') ∧ q'.Represents ns := by
  have hhead : q.head = some n := h.links.1
  have hlinks : Links q.next (q.next n) ns := h.links.2
  have hnodup := (List.nodup_cons.mp h.nodup).2
  refine ⟨_, by rw [LinkedQueue.dequeue, hhead]; rfl, hlinks, ?_, hnodup⟩
  cases ns with
  | nil =>
    have hnone : q.next n = none := hlinks
    change (if (q.next n).isNone then none else q.tail) = _
    rw [hnone]
    rfl
  | cons m ns =>
    have hsome : q.next n = some m := hlinks.1
    change (if (q.next n).isNone then none else q.tail) = _
    rw [hsome, h.tail, List.getLast?_cons_cons]
    rfl

theorem Represents.dequeue_nil (h : q.Represents []) : q.dequeue = none := by
  rw [LinkedQueue.dequeue, h.head_eq_none_iff.mpr rfl]
  rfl

end

end LinkedQueue
