import Mathlib.Data.List.DropRight

/-!
# Library/Utf8 — the bytes of a text

A byte of ASCII is the whole of its character, so cutting the spaces off the bytes is cutting them
off the text.
-/

namespace Utf8

/-- The bytes of characters. -/
def encode (chars : List Char) : List UInt8 := chars.flatMap String.utf8EncodeChar

/-- The bytes are those of some text. -/
def WellFormed (bytes : List UInt8) : Prop := ∃ chars, encode chars = bytes

theorem encode_append (xs ys : List Char) : encode (xs ++ ys) = encode xs ++ encode ys :=
  List.flatMap_append

theorem encode_cons (c : Char) (chars : List Char) :
    encode (c :: chars) = String.utf8EncodeChar c ++ encode chars :=
  List.flatMap_cons

theorem encode_singleton (c : Char) :
    encode [c] = String.utf8EncodeChar c := List.flatMap_singleton _ _

/-- A byte of ASCII is the whole of its character. -/
theorem toNat_of_mem_utf8EncodeChar {b : UInt8} {c : Char} (hb : b ∈ String.utf8EncodeChar c)
    (hascii : b.toNat < 128) : c.toNat = b.toNat := by
  have hval : c.toNat = c.val.toNat := rfl
  have hbyte : ∀ n, (UInt8.ofNat n).toNat = n % 256 := fun n => UInt8.toNat_ofNat'
  rw [String.utf8EncodeChar] at hb
  split_ifs at hb <;> simp only [List.mem_cons, List.not_mem_nil, or_false] at hb
  · rw [hb, hbyte]
    omega
  · obtain rfl | rfl := hb <;> rw [hbyte] at hascii <;> omega
  · obtain rfl | rfl | rfl := hb <;> rw [hbyte] at hascii <;> omega
  · obtain rfl | rfl | rfl | rfl := hb <;> rw [hbyte] at hascii <;> omega

/-- The bytes of a text without its trailing spaces. -/
theorem rdropWhile_encode (chars : List Char) :
    (encode chars).rdropWhile (· == 0x20) = encode (chars.rdropWhile (· == ' ')) := by
  induction chars using List.reverseRecOn with
  | nil => rfl
  | append_singleton chars c ih =>
    rw [encode_append, encode_singleton, List.rdropWhile_concat]
    split_ifs with hspace
    · have hbytes : String.utf8EncodeChar c = [0x20] := by
        rw [beq_iff_eq.mp hspace]
        decide
      rw [hbytes, List.rdropWhile_concat_pos _ _ _ rfl, ih]
    · -- the last byte is not a space
      have hne : String.utf8EncodeChar c ≠ [] := String.utf8EncodeChar_ne_nil
      have hlast : (String.utf8EncodeChar c).getLast hne ≠ 0x20 := by
        intro heq
        have hmem : (0x20 : UInt8) ∈ String.utf8EncodeChar c := heq ▸ List.getLast_mem hne
        have hchar := toNat_of_mem_utf8EncodeChar hmem (by decide)
        refine hspace (beq_iff_eq.mpr (Char.toNat_inj.mp ?_))
        rw [hchar]
        rfl
      rw [encode_append, encode_singleton]
      refine List.rdropWhile_eq_self_iff.mpr fun hl hdrop => hlast ?_
      rw [List.getLast_append_of_ne_nil _ hne] at hdrop
      exact beq_iff_eq.mp hdrop

theorem wellFormed_encode (chars : List Char) : WellFormed (encode chars) := ⟨chars, rfl⟩

/-- **Well-formed text stays so** without its trailing spaces. -/
theorem WellFormed.rdropWhile {bytes : List UInt8} (h : WellFormed bytes) :
    WellFormed (bytes.rdropWhile (· == 0x20)) := by
  obtain ⟨chars, rfl⟩ := h
  rw [rdropWhile_encode]
  exact wellFormed_encode _

end Utf8
