import Mathlib.Data.List.Infix

/-!
# Library/Joined — two texts with a separator between them

Joining forgets which separator is the one between the texts: a pair whose left text goes on past a
separator of the right one is joined to the same (`join_eq_join_iff`).  There are no other
coincidences when no end of the separator begins it.
-/

namespace Joined

variable {α : Type} {sep left right left' right' : List α}

/-- The left text, the separator, the right text. -/
def join (sep left right : List α) : List α := left ++ (sep ++ right)

/-- The second pair is the first, split at a later separator. -/
def Later (sep left right left' right' : List α) : Prop :=
  ∃ between, left' = left ++ (sep ++ between) ∧ right = between ++ (sep ++ right')

/-- No proper end of the separator begins it. -/
def Unbordered (sep : List α) : Prop :=
  ∀ border, border ≠ [] → border <+: sep → border <:+ sep → border = sep

/-- A separator whose first character occurs once. -/
theorem unbordered_cons {a : α} {l : List α} (ha : a ∉ l) : Unbordered (a :: l) := by
  rintro (_ | ⟨b, border⟩) hne hprefix hsuffix
  · exact absurd rfl hne
  obtain rfl : b = a := (List.cons_prefix_cons.mp hprefix).1
  rcases List.suffix_cons_iff.mp hsuffix with heq | hshort
  · exact heq
  · exact absurd (hshort.subset List.mem_cons_self) ha

theorem join_eq_of_later (h : Later sep left right left' right') :
    join sep left right = join sep left' right' := by
  obtain ⟨between, rfl, rfl⟩ := h
  simp only [join, List.append_assoc]

/-- What stands before a separator of a text that begins with one is nothing, or has that first
separator. -/
theorem eq_nil_or_of_sep_append_eq (hsep : Unbordered sep) {shift : List α}
    (h : sep ++ right = shift ++ (sep ++ right')) :
    shift = [] ∨ ∃ between, shift = sep ++ between ∧ right = between ++ (sep ++ right') := by
  obtain ⟨between, hshift, hright⟩ | ⟨border, hborder, htail⟩ := List.append_eq_append_iff.mp h
  · exact .inr ⟨between, hshift, hright⟩
  -- The shift ends inside the first separator; the rest of it is a border.
  have hsuffix : border <:+ sep := ⟨shift, hborder.symm⟩
  have hprefix : border <+: sep :=
    List.prefix_of_prefix_length_le ⟨right, htail.symm⟩ (List.prefix_append sep right')
      hsuffix.length_le
  by_cases hnil : border = []
  · refine .inr ⟨[], ?_, ?_⟩
    · rw [hborder, hnil, List.append_nil, List.append_nil]
    · rw [htail, hnil, List.nil_append, List.nil_append]
  · refine .inl ?_
    rw [hsep border hnil hprefix hsuffix] at hborder
    exact List.self_eq_append_left.mp hborder

/-- Two pairs are joined to one text when they are one pair, or one is the other split later. -/
theorem join_eq_join_iff (hsep : Unbordered sep) :
    join sep left right = join sep left' right' ↔
      (left = left' ∧ right = right') ∨ Later sep left right left' right' ∨
        Later sep left' right' left right := by
  constructor
  · intro h
    obtain ⟨shift, hleft, htail⟩ | ⟨shift, hleft, htail⟩ := List.append_eq_append_iff.mp h
    · obtain rfl | ⟨between, rfl, hright⟩ := eq_nil_or_of_sep_append_eq hsep htail
      · exact .inl ⟨by simpa using hleft.symm, by simpa using htail⟩
      · exact .inr (.inl ⟨between, hleft, hright⟩)
    · obtain rfl | ⟨between, rfl, hright⟩ := eq_nil_or_of_sep_append_eq hsep htail
      · exact .inl ⟨by simpa using hleft, by simpa using htail.symm⟩
      · exact .inr (.inr ⟨between, hleft, hright⟩)
  · rintro (⟨rfl, rfl⟩ | h | h)
    · rfl
    · exact join_eq_of_later h
    · exact (join_eq_of_later h).symm

end Joined
