import Mathlib.Data.Nat.Notation

/-!
# Library/Handover — what one thread makes and notes, and another one takes over

A thread is started first and noted in a flag afterwards; whoever joins it looks at the flag
(`Joinable`).  A resource is made first and noted afterwards; whoever gives it back looks at the
note (`Held`).  Both go well if the one who makes and notes has finished before the other one looks:
in `Joinable.join` and `Held.release` nobody is `noting`.
-/

/-- A thread, its flag, and whether the join is passed; `noting` stands between the start and the
note of it. -/
structure Joinable (absent live noted noting joined : Bool) : Prop where
  known : absent = true ∨ noted = true ∨ noting = true ∨ joined = true
  ended : joined = true → live = false

namespace Joinable

variable {absent live live' noted noting joined : Bool}

theorem unstarted : Joinable true live false false false :=
  ⟨Or.inl rfl, fun h => absurd h Bool.false_ne_true⟩

/-- A thread still alive has not been joined. -/
theorem not_joined (h : Joinable absent true noted noting joined) : joined = false := by
  cases joined with
  | false => rfl
  | true => exact absurd (h.ended rfl).symm Bool.false_ne_true

/-- A thread still alive takes a step. -/
theorem go (h : Joinable false true noted noting joined) :
    Joinable false live' noted noting joined where
  known := h.known
  ended hjoined := absurd (h.not_joined.symm.trans hjoined) Bool.false_ne_true

/-- The thread is started. -/
theorem start (hjoined : joined = false) : Joinable false true noted true joined where
  known := Or.inr (Or.inr (Or.inl rfl))
  ended h := absurd (hjoined.symm.trans h) Bool.false_ne_true

/-- The start is noted. -/
theorem note (h : Joinable absent live noted true joined) :
    Joinable absent live true false joined where
  known := Or.inr (Or.inl rfl)
  ended := h.ended

/-- **The join.**  Whoever looks at the flag once it is settled waits for the thread, if there was
one. -/
theorem join (h : Joinable absent live noted false false) (habsent : absent = true → live = false)
    (hwait : noted = true → live = false) : Joinable absent live false false true where
  known := Or.inr (Or.inr (Or.inr rfl))
  ended _ := by
    rcases h.known with h | h | h | h
    · exact habsent h
    · exact hwait h
    · exact absurd h Bool.false_ne_true
    · exact absurd h Bool.false_ne_true

end Joinable

/-- How often a resource was made and given back, and the note of it; `noting` stands between the
making and the note of it. -/
structure Held (made : ℕ) (noted : Bool) (given : ℕ) (noting released : Bool) : Prop where
  count : made = noted.toNat + given + noting.toNat
  le_one : made ≤ 1
  kept : released = false → given = 0
  gone : released = true → noted = false

namespace Held

variable {made given : ℕ} {noted noting released : Bool}

theorem unmade : Held 0 false 0 false false := ⟨rfl, Nat.zero_le 1, fun _ => rfl, fun _ => rfl⟩

/-- The resource is made. -/
theorem make (h : Held 0 noted given false released) (hreleased : released = false) :
    Held 1 noted given true released where
  count := by
    have hcount := h.count
    rw [Bool.toNat_false] at hcount
    rw [Bool.toNat_true]
    omega
  le_one := Nat.le_refl 1
  kept := h.kept
  gone hgone := absurd (hreleased.symm.trans hgone) Bool.false_ne_true

/-- It is noted. -/
theorem note (h : Held made noted given true released) (hreleased : released = false) :
    Held made true given false released where
  count := by
    have hcount := h.count
    have hle := h.le_one
    rw [Bool.toNat_true] at hcount
    rw [Bool.toNat_true, Bool.toNat_false]
    omega
  le_one := h.le_one
  kept := h.kept
  gone hgone := absurd (hreleased.symm.trans hgone) Bool.false_ne_true

/-- **The release.**  Whoever looks at the note once it is settled gives back what was made. -/
theorem release (h : Held made noted given false false) :
    Held made false (given + noted.toNat) false true where
  count := by
    have hcount := h.count
    rw [Bool.toNat_false] at hcount ⊢
    omega
  le_one := h.le_one
  kept hkept := absurd hkept.symm Bool.false_ne_true
  gone _ := rfl

/-- What has been released was given back as often as it was made. -/
theorem given_eq (h : Held made noted given false true) : given = made := by
  have hcount := h.count
  rw [h.gone rfl, Bool.toNat_false] at hcount
  omega

end Held
