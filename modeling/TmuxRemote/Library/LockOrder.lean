import Mathlib.Data.List.Nodup
import Mathlib.Data.Set.Basic
import Mathlib.Logic.Function.Basic
import TmuxRemote.Library.Guarded

/-!
# Library/LockOrder — threads that lock, create, join and await, and an order against deadlocks

Each thread has a list of operations ahead of it.  A mutex has one holder at most; a join waits for
the end of a thread that was created.  A thread that serves others pauses between two pieces of its
work, and what it has done for them is there for those that await it as soon as it does.

Mutexes and threads have levels.  An operation that waits is **in order** if what it waits for is
above its thread and above every mutex that the thread holds.  In a deadlock one operation is not in
order (`exists_not_inOrder`), since otherwise each thread would wait for something below what the
thread in its way waits for.  Where no thread can go on, those that are not at their end are in a
deadlock (`deadlocked_of_stuck`).

`Neutral` says of a piece of a program that it gives back what it takes; pieces are put together by
`Neutral.append`, `Neutral.flatMap` and `Neutral.locked`.
-/

namespace LockOrder

variable {M ι : Type*}

/-! ## Threads -/

/-- What a thread does that others may have to wait for. -/
inductive Op (M ι : Type*)
  | acquire (m : M)
  | release (m : M)
  | create (j : ι)
  | join (j : ι)
  /-- The thread is between two pieces of its work. -/
  | pause
  /-- It waits until another one is not in a piece of its work. -/
  | await (j : ι)

structure Threads (M ι : Type*) where
  started : ι → Bool
  holder : M → Option ι
  todo : ι → List (Op M ι)

namespace Threads

/-- Some threads are there, and nothing is locked. -/
def init (started : ι → Bool) (programs : ι → List (Op M ι)) : Threads M ι where
  started := started
  holder _ := none
  todo := programs

/-- The thread is not at its end. -/
def Runs (s : Threads M ι) (i : ι) : Prop := s.started i = true ∧ s.todo i ≠ []

/-- The thread is in a piece of its work. -/
def busy (s : Threads M ι) (i : ι) : Bool :=
  s.started i &&
    match s.todo i with
    | [] | .pause :: _ => false
    | _ => true

theorem runs_of_busy {s : Threads M ι} {i : ι} (h : s.busy i = true) : s.Runs i := by
  obtain ⟨hstarted, hbusy⟩ := Bool.and_eq_true_iff.mp h
  refine ⟨hstarted, fun hnil => ?_⟩
  rw [hnil] at hbusy
  exact Bool.false_ne_true hbusy

section

variable [DecidableEq M] [DecidableEq ι]

/-- The thread is behind its next operation. -/
def goOn (s : Threads M ι) (i : ι) (rest : List (Op M ι)) : Threads M ι :=
  { s with todo := Function.update s.todo i rest }

/-- The next operation of a thread; `none` where it has none, or waits. -/
def step (s : Threads M ι) (i : ι) : Option (Threads M ι) :=
  if !s.started i then none
  else
    match s.todo i with
    | [] => none
    | .acquire m :: rest =>
      if (s.holder m).isSome then none
      else some { s.goOn i rest with holder := Function.update s.holder m (some i) }
    | .release m :: rest =>
      some { s.goOn i rest with holder := Function.update s.holder m none }
    | .create j :: rest =>
      some { s.goOn i rest with started := Function.update s.started j true }
    | .join j :: rest =>
      if s.started j && !(s.todo j).isEmpty then none else some (s.goOn i rest)
    | .pause :: rest => some (s.goOn i rest)
    | .await j :: rest => if s.busy j then none else some (s.goOn i rest)

/-- No thread can go on. -/
def Stuck (s : Threads M ι) : Prop := ∀ i, s.step i = none

end

variable (s : Threads M ι)

/-- One thread is in the way of another. -/
inductive WaitsFor (i k : ι) : Prop
  | lock {m : M} {rest : List (Op M ι)} (hnext : s.todo i = .acquire m :: rest)
      (hholder : s.holder m = some k)
  | join {rest : List (Op M ι)} (hnext : s.todo i = .join k :: rest) (hruns : s.Runs k)
  | await {rest : List (Op M ι)} (hnext : s.todo i = .await k :: rest) (hbusy : s.busy k = true)

/-- Threads that wait for each other, and for none besides. -/
def Deadlocked (D : Set ι) : Prop := D.Nonempty ∧ ∀ i ∈ D, ∃ k ∈ D, s.WaitsFor i k

end Threads

/-! ## Programs -/

section

variable [DecidableEq M]

/-- The mutexes that a thread holds after the operation. -/
def Op.after (held : List M) : Op M ι → List M
  | acquire m => m :: held
  | release m => held.erase m
  | create _ | join _ | pause | await _ => held

/-- Only what is held is released. -/
def Op.Fits (held : List M) : Op M ι → Prop
  | release m => m ∈ held
  | acquire _ | create _ | join _ | pause | await _ => True

variable (P : List M → Op M ι → Prop)

/-- Each operation fits, and meets a condition on the mutexes that are held then. -/
def Allowed : List M → List (Op M ι) → Prop
  | _, [] => True
  | held, op :: ops => op.Fits held ∧ P held op ∧ Allowed (op.after held) ops

/-- So does each one of these, and in the end the same mutexes are held. -/
structure Neutral (held : List M) (ops : List (Op M ι)) : Prop where
  allowed : Allowed P held ops
  after : ops.foldl Op.after held = held

/-- What is done with a mutex held. -/
def locked (m : M) (body : List (Op M ι)) : List (Op M ι) := .acquire m :: body ++ [.release m]

variable {P} {held : List M} {xs ys : List (Op M ι)}

theorem allowed_append :
    Allowed P held (xs ++ ys) ↔ Allowed P held xs ∧ Allowed P (xs.foldl Op.after held) ys := by
  induction xs generalizing held with
  | nil => exact (iff_of_eq (true_and _)).symm
  | cons op xs ih =>
    rw [List.cons_append, Allowed, Allowed, ih, List.foldl_cons, and_assoc, and_assoc]

namespace Neutral

theorem nil : Neutral P held [] := ⟨trivial, rfl⟩

theorem append (hx : Neutral P held xs) (hy : Neutral P held ys) : Neutral P held (xs ++ ys) where
  allowed := allowed_append.mpr ⟨hx.allowed, by rw [hx.after]; exact hy.allowed⟩
  after := by rw [List.foldl_append, hx.after, hy.after]

theorem flatMap {α : Type*} {l : List α} {f : α → List (Op M ι)}
    (h : ∀ a ∈ l, Neutral P held (f a)) : Neutral P held (l.flatMap f) := by
  induction l with
  | nil => exact nil
  | cons a l ih =>
    obtain ⟨ha, hl⟩ := List.forall_mem_cons.mp h
    exact ha.append (ih hl)

/-- One operation that leaves what is held as it is. -/
theorem single {op : Op M ι} (hfits : op.Fits held) (hP : P held op)
    (hafter : op.after held = held) : Neutral P held [op] :=
  ⟨⟨hfits, hP, trivial⟩, hafter⟩

theorem locked {m : M} {body : List (Op M ι)} (hacquire : P held (.acquire m))
    (hbody : Neutral P (m :: held) body) (hrelease : P (m :: held) (.release m)) :
    Neutral P held (locked m body) where
  allowed := by
    refine ⟨trivial, hacquire, allowed_append.mpr ⟨hbody.allowed, ?_⟩⟩
    rw [Op.after, hbody.after]
    exact ⟨List.mem_cons_self, hrelease, trivial⟩
  after := by
    rw [LockOrder.locked, List.cons_append, List.foldl_cons, List.foldl_append, Op.after,
      hbody.after]
    exact List.erase_cons_head m held

end Neutral

end

/-! ## Runs -/

namespace Threads

section

variable [DecidableEq M] (P : ι → List M → Op M ι → Prop)

/-- The invariant: each thread holds what its program says, and goes on by it. -/
structure Keeps (s : Threads M ι) (held : ι → List M) : Prop where
  holds : ∀ i m, m ∈ held i ↔ s.holder m = some i
  nodup : ∀ i, (held i).Nodup
  allowed : ∀ i, Allowed (P i) (held i) (s.todo i)
  ends : ∀ i, (s.todo i).foldl Op.after (held i) = []
  started : ∀ i, held i ≠ [] → s.started i = true

variable {P} {s s' : Threads M ι} {held : ι → List M}

theorem keeps_init {started : ι → Bool} {programs : ι → List (Op M ι)}
    (h : ∀ i, Neutral (P i) [] (programs i)) : Keeps P (init started programs) fun _ => [] where
  holds _ _ := iff_of_false List.not_mem_nil nofun
  nodup _ := List.nodup_nil
  allowed i := (h i).allowed
  ends i := (h i).after
  started _ hne := absurd rfl hne

variable [DecidableEq ι] {i : ι} {op : Op M ι} {rest : List (Op M ι)}

/-- The program of the thread is behind the operation, those of the others are as they were. -/
theorem Keeps.behind (h : Keeps P s held) (htodo : s.todo i = op :: rest) (j : ι) :
    Allowed (P j) (Function.update held i (op.after (held i)) j) ((s.goOn i rest).todo j)
      ∧ ((s.goOn i rest).todo j).foldl Op.after (Function.update held i (op.after (held i)) j)
        = [] := by
  dsimp only [goOn]
  by_cases hj : j = i
  · have hallowed := h.allowed i
    have hends := h.ends i
    rw [htodo] at hallowed hends
    rw [hj, Function.update_self, Function.update_self]
    exact ⟨hallowed.2.2, hends⟩
  · rw [Function.update_of_ne hj, Function.update_of_ne hj]
    exact ⟨h.allowed j, h.ends j⟩

/-- A thread that holds something, the one that has gone on among them, was started. -/
theorem Keeps.started_update (h : Keeps P s held) (hstarted : s.started i = true) {next : List M}
    (j : ι) (hne : Function.update held i next j ≠ []) : s.started j = true := by
  by_cases hj : j = i
  · rwa [hj]
  · rw [Function.update_of_ne hj] at hne
    exact h.started j hne

/-- A mutex that no thread has is taken. -/
theorem Keeps.acquire (h : Keeps P s held) {m : M} (hstarted : s.started i = true)
    (htodo : s.todo i = .acquire m :: rest) (hfree : s.holder m = none) :
    Keeps P { s.goOn i rest with holder := Function.update s.holder m (some i) }
      (Function.update held i (m :: held i)) := by
  have hnew (j : ι) : m ∉ held j := fun hm => by
    rw [h.holds j m, hfree] at hm
    exact nomatch hm
  refine ⟨fun j m' => ?_, fun j => ?_, fun j => (h.behind htodo j).1, fun j => (h.behind htodo j).2,
    h.started_update hstarted⟩
  · dsimp only
    by_cases hm : m' = m
    · rw [hm, Function.update_self]
      by_cases hj : j = i
      · rw [hj, Function.update_self]
        exact iff_of_true List.mem_cons_self rfl
      · rw [Function.update_of_ne hj]
        exact iff_of_false (hnew j) fun heq => hj (Option.some.inj heq).symm
    · rw [Function.update_of_ne hm]
      by_cases hj : j = i
      · rw [hj, Function.update_self, List.mem_cons, h.holds]
        exact or_iff_right hm
      · rw [Function.update_of_ne hj]
        exact h.holds j m'
  · by_cases hj : j = i
    · rw [hj, Function.update_self]
      exact List.nodup_cons.mpr ⟨hnew i, h.nodup i⟩
    · rw [Function.update_of_ne hj]
      exact h.nodup j

/-- A mutex that the thread has is given back. -/
theorem Keeps.release (h : Keeps P s held) {m : M} (hstarted : s.started i = true)
    (htodo : s.todo i = .release m :: rest) :
    Keeps P { s.goOn i rest with holder := Function.update s.holder m none }
      (Function.update held i ((held i).erase m)) := by
  have hholder : s.holder m = some i := by
    have hallowed := h.allowed i
    rw [htodo] at hallowed
    exact (h.holds i m).mp hallowed.1
  refine ⟨fun j m' => ?_, fun j => ?_, fun j => (h.behind htodo j).1, fun j => (h.behind htodo j).2,
    h.started_update hstarted⟩
  · dsimp only
    by_cases hm : m' = m
    · rw [hm, Function.update_self]
      by_cases hj : j = i
      · rw [hj, Function.update_self]
        exact iff_of_false (h.nodup i).not_mem_erase nofun
      · rw [Function.update_of_ne hj, h.holds, hholder]
        exact iff_of_false (fun heq => hj (Option.some.inj heq).symm) nofun
    · rw [Function.update_of_ne hm]
      by_cases hj : j = i
      · rw [hj, Function.update_self, List.mem_erase_of_ne hm, h.holds]
      · rw [Function.update_of_ne hj]
        exact h.holds j m'
  · by_cases hj : j = i
    · rw [hj, Function.update_self]
      exact (h.nodup i).erase m
    · rw [Function.update_of_ne hj]
      exact h.nodup j

/-- Another operation leaves every mutex with its holder. -/
theorem Keeps.goOn (h : Keeps P s held) (htodo : s.todo i = op :: rest)
    (hafter : op.after (held i) = held i) : Keeps P (s.goOn i rest) held := by
  have hbehind := h.behind htodo
  rw [hafter, Function.update_eq_self] at hbehind
  exact ⟨h.holds, h.nodup, fun j => (hbehind j).1, fun j => (hbehind j).2, h.started⟩

/-- **What a step keeps.** -/
theorem Keeps.step (h : Keeps P s held) (hstep : s.step i = some s') :
    ∃ held', Keeps P s' held' := by
  rw [Threads.step] at hstep
  obtain ⟨hnot, hstep⟩ := Option.ite_none_left_eq_some.mp hstep
  have hstarted : s.started i = true := by simpa using hnot
  cases htodo : s.todo i with
  | nil =>
    rw [htodo] at hstep
    exact nomatch hstep
  | cons op rest =>
    rw [htodo] at hstep
    cases op with
    | acquire m =>
      obtain ⟨hfree, heq⟩ := Option.ite_none_left_eq_some.mp hstep
      obtain rfl := Option.some.inj heq
      exact ⟨_, h.acquire hstarted htodo (by simpa using hfree)⟩
    | release m =>
      obtain rfl := Option.some.inj hstep
      exact ⟨_, h.release hstarted htodo⟩
    | create k =>
      obtain rfl := Option.some.inj hstep
      have hnext := h.goOn htodo rfl
      refine ⟨held, hnext.holds, hnext.nodup, hnext.allowed, hnext.ends, fun j hne => ?_⟩
      dsimp only
      by_cases hk : j = k
      · rw [hk, Function.update_self]
      · rw [Function.update_of_ne hk]
        exact h.started j hne
    | join k =>
      obtain ⟨-, heq⟩ := Option.ite_none_left_eq_some.mp hstep
      obtain rfl := Option.some.inj heq
      exact ⟨held, h.goOn htodo rfl⟩
    | pause =>
      obtain rfl := Option.some.inj hstep
      exact ⟨held, h.goOn htodo rfl⟩
    | await k =>
      obtain ⟨-, heq⟩ := Option.ite_none_left_eq_some.mp hstep
      obtain rfl := Option.some.inj heq
      exact ⟨held, h.goOn htodo rfl⟩

/-- What each step keeps, a run keeps. -/
theorem keeps_run {started : ι → Bool} {programs : ι → List (Op M ι)}
    (h : ∀ i, Neutral (P i) [] (programs i)) {run : List ι}
    (hrun : Guarded.run step (init started programs) run = some s) : ∃ held, Keeps P s held := by
  refine Guarded.run_invariant (I := fun s => ∃ held, Keeps P s held) ?_ ⟨_, keeps_init h⟩ hrun
  rintro s i s' ⟨held, hkeeps⟩ hstep
  exact hkeeps.step hstep

/-- **Where no thread can go on**, those that are not at their end wait for each other. -/
theorem Keeps.deadlocked_of_stuck (h : Keeps P s held) (hstuck : s.Stuck)
    (hruns : ∃ i, s.Runs i) : s.Deadlocked {i | s.Runs i} := by
  refine ⟨hruns, fun i hi => ?_⟩
  obtain ⟨hstarted, hne⟩ : s.Runs i := hi
  have hnone := hstuck i
  rw [Threads.step, hstarted, Bool.not_true, if_neg Bool.false_ne_true] at hnone
  cases htodo : s.todo i with
  | nil => exact absurd htodo hne
  | cons op rest =>
    rw [htodo] at hnone
    cases op with
    | acquire m =>
      cases hholder : s.holder m with
      | none => exact absurd hnone (by simp [hholder])
      | some k =>
        have hmem : m ∈ held k := (h.holds k m).mpr hholder
        have hends := h.ends k
        refine ⟨k, ⟨h.started k (List.ne_nil_of_mem hmem), fun hnil => ?_⟩, .lock htodo hholder⟩
        rw [hnil] at hends
        exact List.ne_nil_of_mem hmem hends
    | release m => exact absurd hnone (by simp)
    | create j => exact absurd hnone (by simp)
    | join k =>
      by_cases hwait : s.started k && !(s.todo k).isEmpty
      · have hk : s.Runs k := by simpa [Runs] using hwait
        exact ⟨k, hk, .join htodo hk⟩
      · exact absurd hnone (by simp [hwait])
    | pause => exact absurd hnone (by simp)
    | await k =>
      cases hbusy : s.busy k with
      | false => exact absurd hnone (by simp [hbusy])
      | true => exact ⟨k, runs_of_busy hbusy, .await htodo hbusy⟩

end

/-! ## Levels -/

section

variable (lockLevel : M → ℕ) (threadLevel : ι → ℕ)

/-- The operation does not wait, or waits for something above its thread and what it holds. -/
def InOrder (i : ι) (held : List M) : Op M ι → Prop
  | .acquire m => threadLevel i < lockLevel m ∧ ∀ h ∈ held, lockLevel h < lockLevel m
  | .join j | .await j => threadLevel i < threadLevel j ∧ ∀ h ∈ held, lockLevel h < threadLevel j
  | .release _ | .create _ | .pause => True

/-- The level of what an operation waits for. -/
def awaited : Op M ι → ℕ
  | .acquire m => lockLevel m
  | .join j | .await j => threadLevel j
  | .release _ | .create _ | .pause => 0

variable {lockLevel threadLevel} {s : Threads M ι} {held : ι → List M}

/-- A thread in the way of another one waits for something above what that waits for. -/
theorem awaited_lt (hholds : ∀ i m, m ∈ held i ↔ s.holder m = some i) {i k l : ι}
    {op next : Op M ι} {rest later : List (Op M ι)} (htodo : s.todo i = op :: rest)
    (hwaits : s.WaitsFor i k) (hnext : s.todo k = next :: later)
    (horder : InOrder lockLevel threadLevel k (held k) next) (hk : s.WaitsFor k l) :
    awaited lockLevel threadLevel op < awaited lockLevel threadLevel next := by
  have habove : threadLevel k < awaited lockLevel threadLevel next
      ∧ ∀ h ∈ held k, lockLevel h < awaited lockLevel threadLevel next := by
    cases hk with
    | lock hlock =>
      obtain ⟨rfl, -⟩ := List.cons.inj (hnext.symm.trans hlock)
      exact horder
    | join hjoin =>
      obtain ⟨rfl, -⟩ := List.cons.inj (hnext.symm.trans hjoin)
      exact horder
    | await hawait =>
      obtain ⟨rfl, -⟩ := List.cons.inj (hnext.symm.trans hawait)
      exact horder
  cases hwaits with
  | lock hlock hholder =>
    obtain ⟨rfl, -⟩ := List.cons.inj (htodo.symm.trans hlock)
    exact habove.2 _ ((hholds k _).mpr hholder)
  | join hjoin =>
    obtain ⟨rfl, -⟩ := List.cons.inj (htodo.symm.trans hjoin)
    exact habove.1
  | await hawait =>
    obtain ⟨rfl, -⟩ := List.cons.inj (htodo.symm.trans hawait)
    exact habove.1

variable [DecidableEq M] {P : ι → List M → Op M ι → Prop}

/-- **In a deadlock one operation is not in order.** -/
theorem Keeps.exists_not_inOrder (h : Keeps P s held) {bound : ℕ}
    (hlock : ∀ m, lockLevel m ≤ bound) (hthread : ∀ i, threadLevel i ≤ bound) {D : Set ι}
    (hD : s.Deadlocked D) :
    ∃ i ∈ D, ∃ op rest, s.todo i = op :: rest ∧ P i (held i) op
      ∧ ¬ InOrder lockLevel threadLevel i (held i) op := by
  by_contra hnone
  push Not at hnone
  have hnext {i : ι} (hi : i ∈ D) : ∃ op rest, s.todo i = op :: rest
      ∧ InOrder lockLevel threadLevel i (held i) op := by
    obtain ⟨k, -, hwaits⟩ := hD.2 i hi
    obtain ⟨op, rest, htodo⟩ : ∃ op rest, s.todo i = op :: rest := by
      cases hwaits with
      | lock hnext _ => exact ⟨_, _, hnext⟩
      | join hnext _ => exact ⟨_, _, hnext⟩
      | await hnext _ => exact ⟨_, _, hnext⟩
    have hallowed := h.allowed i
    rw [htodo] at hallowed
    exact ⟨op, rest, htodo, hnone i hi op rest htodo hallowed.2.1⟩
  have hle (op : Op M ι) : awaited lockLevel threadLevel op ≤ bound := by
    cases op with
    | acquire m => exact hlock m
    | join j => exact hthread j
    | await j => exact hthread j
    | release _ => exact Nat.zero_le bound
    | create _ => exact Nat.zero_le bound
    | pause => exact Nat.zero_le bound
  -- by induction on how far below the bound a thread in the deadlock waits
  have hdescend : ∀ n, ∀ i ∈ D, ∀ op rest, s.todo i = op :: rest →
      bound - awaited lockLevel threadLevel op ≠ n := by
    intro n
    induction n using Nat.strong_induction_on with
    | _ n ih =>
      rintro i hi op rest htodo rfl
      obtain ⟨k, hk, hwaits⟩ := hD.2 i hi
      obtain ⟨next, later, hlater, horder⟩ := hnext hk
      obtain ⟨l, -, hkwaits⟩ := hD.2 k hk
      have hlt := awaited_lt h.holds htodo hwaits hlater horder hkwaits
      have hbound := hle next
      exact ih _ (by omega) k hk next later hlater rfl
  obtain ⟨i, hi⟩ := hD.1
  obtain ⟨op, rest, htodo, -⟩ := hnext hi
  exact hdescend _ i hi op rest htodo rfl

end

end Threads

end LockOrder
