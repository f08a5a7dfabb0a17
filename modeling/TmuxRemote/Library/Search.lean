import Mathlib.Data.Nat.Find
import Mathlib.Data.List.Basic

/-!
# Library/Search — the first hit of a nested search

A search goes through a list and, for each of its elements, through the numbers below a bound from
the greatest down.  What it finds is the first hit: no element before has one, and the element
itself has none at a greater number (`search_eq_some_iff`).  The order of the search is thereby an
order on pairs (`IsFirst`), in which every set of hits has a first element.
-/

namespace Search

/-- The pair comes first among those with the property: least at the first place, greatest at the
second. -/
def IsFirst (P : ℕ → ℕ → Prop) (i j : ℕ) : Prop :=
  P i j ∧ ∀ i' j', P i' j' → i < i' ∨ (i = i' ∧ j' ≤ j)

section
variable {P Q : ℕ → ℕ → Prop} {i j i' j' : ℕ}

theorem IsFirst.unique (h : IsFirst P i j) (h' : IsFirst P i' j') : i = i' ∧ j = j' := by
  have hle := h.2 i' j' h'.1
  have hge := h'.2 i j h.1
  omega

/-- A first pair that is in the smaller set is first there. -/
theorem IsFirst.mono (h : IsFirst P i j) (hQ : Q i j) (hsub : ∀ i j, Q i j → P i j) :
    IsFirst Q i j := ⟨hQ, fun i' j' hhit => h.2 i' j' (hsub i' j' hhit)⟩

theorem isFirst_congr (h : ∀ i j, P i j ↔ Q i j) : IsFirst P i j ↔ IsFirst Q i j := by
  have heq : P = Q := funext fun i => funext fun j => propext (h i j)
  rw [heq]

/-- **There is a first pair**, where the second places are bounded. -/
theorem exists_isFirst {n : ℕ} (hbound : ∀ i j, P i j → j < n) (h : ∃ i j, P i j) :
    ∃ i j, IsFirst P i j := by
  classical
  obtain ⟨i, hi, hleast⟩ : ∃ i, (∃ j, P i j) ∧ ∀ i' < i, ¬ ∃ j, P i' j :=
    ⟨Nat.find h, Nat.find_spec h, fun i' hlt => Nat.find_min h hlt⟩
  obtain ⟨j, hj⟩ := hi
  have hhit : P i (Nat.findGreatest (P i) n) :=
    Nat.findGreatest_spec (Nat.le_of_lt (hbound i j hj)) hj
  refine ⟨i, Nat.findGreatest (P i) n, hhit, fun i' j' hhit' => ?_⟩
  rcases Nat.lt_trichotomy i i' with hlt | rfl | hgt
  · exact .inl hlt
  · exact .inr ⟨rfl, Nat.le_findGreatest (Nat.le_of_lt (hbound i j' hhit')) hhit'⟩
  · exact absurd ⟨j', hhit'⟩ (hleast i' hgt)

end

/-! ## Searching -/

section
variable {α β : Type*}

/-- The search. -/
def search (f : α → ℕ → Option β) (n : ℕ) (xs : List α) : Option β :=
  xs.findSome? fun a => (List.range n).reverse.findSome? (f a)

/-- What the search comes by at a pair. -/
def hitAt (f : α → ℕ → Option β) (n : ℕ) (xs : List α) (i j : ℕ) : Option β :=
  if j < n then xs[i]?.bind fun a => f a j else none

/-- There is something at the pair. -/
def Hits (f : α → ℕ → Option β) (n : ℕ) (xs : List α) (i j : ℕ) : Prop :=
  (hitAt f n xs i j).isSome

variable {f : α → ℕ → Option β} {n : ℕ} {xs : List α} {b : β} {i j : ℕ}

theorem hits_iff : Hits f n xs i j ↔ ∃ b, hitAt f n xs i j = some b := Option.isSome_iff_exists

theorem hitAt_eq_some_iff :
    hitAt f n xs i j = some b ↔ j < n ∧ ∃ a, xs[i]? = some a ∧ f a j = some b := by
  rw [hitAt]
  split_ifs with hj
  · rw [Option.bind_eq_some_iff]
    exact ⟨fun h => ⟨hj, h⟩, fun h => h.2⟩
  · exact ⟨fun h => absurd h (by simp), fun h => absurd h.1 hj⟩

/-- From the greatest number down. -/
theorem findSome?_down_eq_some_iff {g : ℕ → Option β} :
    (List.range n).reverse.findSome? g = some b
      ↔ ∃ j < n, g j = some b ∧ ∀ j' < n, (g j').isSome → j' ≤ j := by
  induction n with
  | zero => exact ⟨fun h => absurd h (by simp), fun ⟨j, hj, _⟩ => absurd hj (Nat.not_lt_zero j)⟩
  | succ n ih =>
    rw [List.range_succ, List.reverse_append, List.reverse_singleton, List.singleton_append]
    cases htop : g n with
    | some c =>
      rw [List.findSome?_cons_of_isSome (by rw [htop]; rfl), htop]
      constructor
      · intro h
        exact ⟨n, Nat.lt_succ_self n, htop.trans h, fun j' hj' _ => Nat.le_of_lt_succ hj'⟩
      · rintro ⟨j, hj, hg, hmax⟩
        have hle := hmax n (Nat.lt_succ_self n) (by rw [htop]; rfl)
        obtain rfl : j = n := by omega
        exact htop.symm.trans hg
    | none =>
      rw [List.findSome?_cons_of_isNone (by rw [htop]; rfl), ih]
      have hbelow {j : ℕ} (hj : j < n + 1) (hg : (g j).isSome) : j < n := by
        rcases Nat.lt_succ_iff_lt_or_eq.mp hj with hlt | rfl
        · exact hlt
        · rw [htop] at hg
          exact absurd hg (by simp)
      constructor
      · rintro ⟨j, hj, hg, hmax⟩
        exact ⟨j, Nat.lt_succ_of_lt hj, hg, fun j' hj' hsome => hmax j' (hbelow hj' hsome) hsome⟩
      · rintro ⟨j, hj, hg, hmax⟩
        refine ⟨j, hbelow hj (by rw [hg]; rfl), hg, fun j' hj' => hmax j' (Nat.lt_succ_of_lt hj')⟩

/-- **The search finds the first hit.** -/
theorem search_eq_some_iff :
    search f n xs = some b
      ↔ ∃ i j, IsFirst (Hits f n xs) i j ∧ hitAt f n xs i j = some b := by
  induction xs with
  | nil =>
    have hnone (i j : ℕ) : hitAt f n [] i j = none := by
      rw [hitAt]
      split_ifs <;> rfl
    refine ⟨fun h => absurd h (by simp [search]), fun ⟨i, j, _, h⟩ => ?_⟩
    rw [hnone] at h
    exact absurd h (by simp)
  | cons a xs ih =>
    have hhead (j : ℕ) : hitAt f n (a :: xs) 0 j = if j < n then f a j else none := rfl
    have htail (i j : ℕ) : hitAt f n (a :: xs) (i + 1) j = hitAt f n xs i j := rfl
    cases hrow : (List.range n).reverse.findSome? (f a) with
    | some c =>
      obtain ⟨j, hj, hc, hmax⟩ := findSome?_down_eq_some_iff.mp hrow
      have hfirst : IsFirst (Hits f n (a :: xs)) 0 j := by
        refine ⟨by rw [Hits, hhead, if_pos hj, hc]; rfl, fun i' j' hhit => ?_⟩
        cases i' with
        | zero =>
          rw [Hits, hhead] at hhit
          split_ifs at hhit with hj'
          · exact .inr ⟨rfl, hmax j' hj' hhit⟩
          · exact absurd hhit (by simp)
        | succ i' => exact .inl (Nat.succ_pos i')
      have hat : hitAt f n (a :: xs) 0 j = some c := by rw [hhead, if_pos hj, hc]
      rw [search, List.findSome?_cons_of_isSome (by rw [hrow]; rfl), hrow]
      constructor
      · intro h
        exact ⟨0, j, hfirst, hat.trans h⟩
      · rintro ⟨i', j', hfirst', hb⟩
        obtain ⟨rfl, rfl⟩ := hfirst.unique hfirst'
        exact hat.symm.trans hb
    | none =>
      have hmiss (j : ℕ) : hitAt f n (a :: xs) 0 j = none := by
        rw [hhead]
        split_ifs with hj
        · exact List.findSome?_eq_none_iff.mp hrow j (by simpa using hj)
        · rfl
      have hshift (i j : ℕ) : IsFirst (Hits f n (a :: xs)) (i + 1) j
          ↔ IsFirst (Hits f n xs) i j := by
        constructor
        · intro h
          refine ⟨h.1, fun i' j' hhit => ?_⟩
          have := h.2 (i' + 1) j' hhit
          omega
        · intro h
          refine ⟨h.1, fun i' j' hhit => ?_⟩
          cases i' with
          | zero =>
            rw [Hits, hmiss] at hhit
            exact absurd hhit (by simp)
          | succ i' =>
            have := h.2 i' j' hhit
            omega
      rw [search, List.findSome?_cons_of_isNone (by rw [hrow]; rfl)]
      refine ih.trans ⟨fun ⟨i, j, hfirst, hb⟩ => ⟨i + 1, j, (hshift i j).mpr hfirst, hb⟩, ?_⟩
      rintro ⟨i, j, hfirst, hb⟩
      cases i with
      | zero =>
        rw [hmiss] at hb
        exact absurd hb (by simp)
      | succ i => exact ⟨i, j, (hshift i j).mp hfirst, hb⟩

end

end Search
