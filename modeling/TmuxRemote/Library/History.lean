import Mathlib.Logic.Basic

/-!
# Library/History — what has held since something happened

A history is a list of events, the latest first.  `Since P Q` says that an event met `P` and every
later one met `Q`; both may look at what came before the event.  `holds_iff_since` says a property
of where a history leads without any state, from what one event does to the property.
-/

namespace History

variable {α : Type*} (P Q : List α → α → Prop)

/-- An event met `P`, and every later one met `Q`. -/
def Since : List α → Prop
  | [] => False
  | event :: past => P past event ∨ (Q past event ∧ Since past)

instance decidableSince [∀ past event, Decidable (P past event)]
    [∀ past event, Decidable (Q past event)] : ∀ history, Decidable (Since P Q history)
  | [] => inferInstanceAs (Decidable False)
  | event :: past =>
    have : Decidable (Since P Q past) := decidableSince past
    inferInstanceAs (Decidable (P past event ∨ (Q past event ∧ Since P Q past)))

variable {P Q}

/-- **What `P` brings about and `Q` keeps**, and nothing else, holds since `P`. -/
theorem holds_iff_since (Holds : List α → Prop) (hnil : ¬ Holds [])
    (hcons : ∀ past event, Holds (event :: past) ↔ P past event ∨ (Q past event ∧ Holds past))
    (history : List α) : Holds history ↔ Since P Q history := by
  induction history with
  | nil => exact iff_of_false hnil id
  | cons event past ih => rw [hcons, ih, Since]

end History
