import Mathlib.Data.List.Basic

/-!
# Library/Cursor — a text read through an offset

A parser looks at a buffer from an offset on.  `Reads content offset text rest` says what it sees:
first `text`, behind it `rest`.  A text of several parts is read part by part (`Reads.left`,
`Reads.right`), and with the first element of a text the offset is inside the buffer (`Reads.lt`).
-/

namespace Cursor

variable {α : Type*} {content text part rest : List α} {offset : ℕ} {c : α}

/-- From `offset` on the buffer holds `text`, and then `rest`. -/
def Reads (content : List α) (offset : ℕ) (text rest : List α) : Prop :=
  content.drop offset = text ++ rest

/-- The first part of a text. -/
theorem Reads.left (h : Reads content offset (text ++ part) rest) :
    Reads content offset text (part ++ rest) := by
  rw [Reads, h, List.append_assoc]

/-- The part behind it. -/
theorem Reads.right (h : Reads content offset (text ++ part) rest) :
    Reads content (offset + text.length) part rest := by
  rw [Reads, ← List.drop_drop, h, List.append_assoc, List.drop_left]

/-- A text and the part behind it. -/
theorem Reads.join (h : Reads content offset text (part ++ rest)) :
    Reads content offset (text ++ part) rest := by
  rw [Reads, h, List.append_assoc]

/-- The text behind the first element. -/
theorem Reads.tail (h : Reads content offset (c :: text) rest) :
    Reads content (offset + 1) text rest := by
  have hright : Reads content offset ([c] ++ text) rest := h
  exact hright.right

/-- What is behind a text is read from there on. -/
theorem Reads.behind (h : Reads content offset text (part ++ rest)) :
    Reads content (offset + text.length) part rest := by
  rw [Reads, ← List.drop_drop, h, List.drop_left]

theorem Reads.getElem? (h : Reads content offset (c :: text) rest) : content[offset]? = some c := by
  rw [← List.head?_drop, h]
  rfl

theorem Reads.getElem?_rest (h : Reads content offset text (c :: rest)) :
    content[offset + text.length]? = some c := by
  have hbehind : Reads content offset text ([c] ++ rest) := h
  exact hbehind.behind.getElem?

theorem Reads.lt (h : Reads content offset (c :: text) rest) : offset < content.length :=
  (List.getElem?_eq_some_iff.mp h.getElem?).1

theorem Reads.le_length (h : Reads content offset text rest) (hoffset : offset ≤ content.length) :
    offset + text.length + rest.length = content.length := by
  have hlength := congrArg List.length h
  rw [List.length_drop, List.length_append] at hlength
  omega

end Cursor
