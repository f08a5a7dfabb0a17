import Mathlib.Data.List.Basic
import Mathlib.Tactic.Common

/-!
# Library/Trapping — programs that a failed check stops

`Except ε α` as the outcome of a pure program in a language whose checked operations stop it: `.ok`
is a return, `.error` the trap.  A specification of such a program says exactly when it returns and
what: `p = .ok r ↔ safe ∧ r = value`.  The rules below compose specifications of that form.
-/

namespace Trapping

/-- What stops a program: a number its type does not have, an index past the end. -/
inductive Trap
  | conversion
  | index
  deriving DecidableEq

variable {ε α β : Type}

@[simp] theorem pure_eq_ok {a r : α} : (pure a : Except ε α) = .ok r ↔ a = r :=
  ⟨fun h => by injection h, fun h => congrArg Except.ok h⟩

/-- The specification of a return. -/
theorem ok_eq_ok_of {safe : Prop} (hsafe : safe) {a r : α} :
    (.ok a : Except ε α) = .ok r ↔ safe ∧ r = a := by
  rw [Except.ok.injEq, eq_comm]
  exact ⟨fun h => ⟨hsafe, h⟩, And.right⟩

/-- That of a trap. -/
theorem error_eq_ok_of {safe : Prop} (hnot : ¬ safe) {e : ε} {a r : α} :
    (.error e : Except ε α) = .ok r ↔ safe ∧ r = a :=
  ⟨fun h => (by cases h), fun h => absurd h.1 hnot⟩

/-- What runs after a return sees what was returned. -/
theorem bind_eq_ok {p : Except ε α} {f : α → Except ε β} {r : β} :
    p >>= f = .ok r ↔ ∃ a, p = .ok a ∧ f a = .ok r := by
  cases p with
  | ok a => exact ⟨fun h => ⟨a, rfl, h⟩, fun ⟨b, hb, hf⟩ => by cases hb; exact hf⟩
  | error e => exact ⟨fun h => (by cases h), fun ⟨b, hb, _⟩ => (by cases hb)⟩

/-- After a program with a specification, the rest runs on its value. -/
theorem bind_eq_ok_of_spec {p : Except ε α} {f : α → Except ε β} {safe : Prop} {value : α}
    (hp : ∀ a, p = .ok a ↔ safe ∧ a = value) {r : β} :
    p >>= f = .ok r ↔ safe ∧ f value = .ok r := by
  rw [bind_eq_ok]
  refine ⟨?_, fun ⟨hsafe, hf⟩ => ⟨value, (hp value).mpr ⟨hsafe, rfl⟩, hf⟩⟩
  rintro ⟨a, ha, hf⟩
  obtain ⟨hsafe, rfl⟩ := (hp a).mp ha
  exact ⟨hsafe, hf⟩

/-- A program with a specification returns exactly when it is safe. -/
theorem returns_iff_of_spec {p : Except ε α} {safe : Prop} {value : α}
    (hp : ∀ a, p = .ok a ↔ safe ∧ a = value) : (∃ a, p = .ok a) ↔ safe := by
  refine ⟨?_, fun hsafe => ⟨value, (hp value).mpr ⟨hsafe, rfl⟩⟩⟩
  rintro ⟨a, ha⟩
  exact ((hp a).mp ha).1

/-- What is only computed from a returned value stops nothing. -/
theorem returns_map {p : Except ε α} {f : α → β} :
    (∃ r, f <$> p = .ok r) ↔ ∃ a, p = .ok a := by
  cases p with
  | ok a => exact ⟨fun _ => ⟨a, rfl⟩, fun _ => ⟨f a, rfl⟩⟩
  | error e => exact ⟨fun ⟨r, h⟩ => absurd h (by simp), fun ⟨a, h⟩ => absurd h (by simp)⟩

/-- The same in `do` notation. -/
theorem returns_bind_pure {p : Except ε α} {f : α → β} :
    (∃ r, (p >>= fun a => pure (f a)) = .ok r) ↔ ∃ a, p = .ok a := by
  rw [bind_pure_comp]
  exact returns_map

/-- What is computed from a returned value is computed from the specified one. -/
theorem eq_of_map_eq_ok {p : Except ε α} {f : α → β} {safe : Prop} {value : α}
    (hp : ∀ a, p = .ok a ↔ safe ∧ a = value) {b : β} (h : f <$> p = .ok b) : b = f value := by
  obtain ⟨a, ha⟩ := returns_map.mp ⟨b, h⟩
  rw [ha] at h
  rw [← ((hp a).mp ha).2]
  exact (Except.ok.inj h).symm

/-- A loop that keeps some of its items returns when every turn does. -/
theorem filterMapM_eq_ok {turn : α → Except ε (Option β)} {safe : α → Prop} {value : α → Option β}
    (hturn : ∀ a r, turn a = .ok r ↔ safe a ∧ r = value a) (items : List α) (kept : List β) :
    items.filterMapM turn = .ok kept ↔ (∀ a ∈ items, safe a) ∧ kept = items.filterMap value := by
  induction items generalizing kept with
  | nil =>
    rw [List.filterMapM_nil, pure_eq_ok]
    exact ⟨fun h => ⟨by simp, h.symm⟩, fun h => h.2.symm⟩
  | cons a items ih =>
    rw [List.filterMapM_cons, bind_eq_ok_of_spec (hturn a), List.forall_mem_cons, and_assoc]
    refine and_congr_right fun _ => ?_
    cases h : value a with
    | none => rw [List.filterMap_cons_none h]; exact ih kept
    | some b =>
      rw [List.filterMap_cons_some h]
      change (items.filterMapM turn >>= fun rest => pure (b :: rest)) = .ok kept ↔ _
      rw [bind_eq_ok_of_spec ih, pure_eq_ok, eq_comm]

end Trapping
