import TmuxRemote.Cli.JsonBounds
import TmuxRemote.Library.Trapping

/-!
# Cli/JsonStrings — what cJSON prints of a string it reads back

Since no check of the parser fails (`cJSONParseWithLength_returns`) the lemmas here and in
`JsonRoundTrip` follow the returns only: if a parser returns at the text of a value, then it returns
that value.  Here the value is a string, with its escapes; what may stand in front of a value and
behind it comes after that.
-/

namespace TmuxRemote

namespace JsonText

open CMemory Cursor Trapping

variable {content text rest : List UInt8} {offset : ℕ}

/-! ## Strings -/

section Strings

variable {capacity stop rounds p : ℕ} {output : List UInt8}

theorem byteAt_reads {c : UInt8} (h : Reads content offset (c :: text) rest) :
    byteAt content offset = .ok c := by
  rw [byteAt, h.getElem?]

theorem emit_eq_ok {bytes written : List UInt8} (h : emit capacity output bytes = .ok written) :
    written = output ++ bytes := by
  rw [emit] at h
  split_ifs at h
  exact (Except.ok.inj h).symm

/-- The forms of a printed character: itself, an escape of one letter, an escape of four digits. -/
theorem printChar_cases (c : UInt8) :
    (printChar c = [c] ∧ c ≠ 0x22 ∧ c ≠ 0x5C)
      ∨ (∃ letter, printChar c = [0x5C, letter] ∧ unescapeLetter letter = some c)
      ∨ (printChar c = [0x5C, 0x75, 0x30, 0x30, hexDigit (c.toNat / 16), hexDigit (c.toNat % 16)]
        ∧ c.toNat < 32) := by
  by_cases hplain : 31 < c ∧ c ≠ 0x22 ∧ c ≠ 0x5C
  · exact .inl ⟨by rw [printChar, if_pos hplain], hplain.2⟩
  refine .inr ?_
  rw [printChar, if_neg hplain]
  cases hshort : shortEscape c with
  | some letter =>
    refine .inl ⟨letter, rfl, ?_⟩
    unfold shortEscape at hshort
    split_ifs at hshort with h0 h1 h2 h3 h4 h5 <;> obtain rfl := Option.some.inj hshort
    · obtain rfl | rfl := h0 <;> rfl
    all_goals subst c; rfl
  | none =>
    refine .inr ⟨rfl, ?_⟩
    have hquote : c ≠ 0x22 ∧ c ≠ 0x5C := by
      unfold shortEscape at hshort
      split_ifs at hshort with h0
      exact not_or.mp h0
    have hle : ¬ 31 < c := fun h => hplain ⟨h, hquote⟩
    rw [UInt8.lt_iff_toNat_lt, Nat.not_lt] at hle
    exact Nat.lt_succ_of_le hle

theorem hexValue_hexDigit {d : ℕ} (h : d < 16) : hexValue (hexDigit d) = some d := by
  revert d
  decide

/-- A digit closes no string and escapes nothing. -/
theorem hexDigit_ne {d : ℕ} (h : d < 16) : hexDigit d ≠ 0x22 ∧ hexDigit d ≠ 0x5C := by
  revert d
  decide

/-- A printed character is passed over by the first loop. -/
theorem stringEnd_printChar (c : UInt8) {s : List UInt8} {length skipped : ℕ}
    (h : stringEnd s = some (length, skipped)) :
    ∃ skipped', stringEnd (printChar c ++ s) = some ((printChar c).length + length, skipped') := by
  obtain ⟨hchar, hquote, hescape⟩ | ⟨letter, hchar, -⟩ | ⟨hchar, hlt⟩ := printChar_cases c
  · exact ⟨skipped, by rw [hchar, List.singleton_append, stringEnd_cons hquote hescape, h,
      Option.map_some, List.length_singleton, Nat.add_comm]⟩
  · exact ⟨skipped + 1, by rw [hchar, List.cons_append, List.singleton_append, stringEnd_escape, h,
      Option.map_some, List.length_cons, List.length_singleton, Nat.add_comm]⟩
  · have hhigh := hexDigit_ne (show c.toNat / 16 < 16 by omega)
    have hlow := hexDigit_ne (show c.toNat % 16 < 16 by omega)
    refine ⟨skipped + 1, ?_⟩
    rw [hchar]
    simp only [List.cons_append, List.nil_append]
    rw [stringEnd_escape, stringEnd_cons (by decide) (by decide),
      stringEnd_cons (by decide) (by decide), stringEnd_cons hhigh.1 hhigh.2,
      stringEnd_cons hlow.1 hlow.2, h]
    simp only [Option.map_some, List.length_cons, List.length_nil, Option.some.injEq,
      Prod.mk.injEq, and_true]
    omega

/-- The first loop finds the closing quote of a printed string. -/
theorem stringEnd_printChars (s rest : List UInt8) :
    ∃ skipped,
      stringEnd (printChars s ++ 0x22 :: rest) = some ((printChars s).length, skipped) := by
  induction s with
  | nil => exact ⟨0, by rw [stringEnd.eq_def]; rfl⟩
  | cons c s ih =>
    obtain ⟨skipped, h⟩ := ih
    obtain ⟨skipped', h'⟩ := stringEnd_printChar c h
    refine ⟨skipped', ?_⟩
    rw [printChars, List.flatMap_cons, List.append_assoc, List.length_append]
    exact h'

/-- The four digits of a control character. -/
theorem parseHex4_printed {n : ℕ} (hn : n < 32)
    (h : Reads content p ([0x30, 0x30, hexDigit (n / 16), hexDigit (n % 16)] ++ text) rest) :
    parseHex4 content p = .ok n := by
  have hdigits : ∀ d : ℕ, d < 16 → hexValue (hexDigit d) = some d := fun d => hexValue_hexDigit
  have hzero : hexValue 0x30 = some 0 := rfl
  simp only [List.cons_append, List.nil_append] at h
  rw [parseHex4]
  simp only [parseHex, byteAt_reads h, byteAt_reads h.tail, byteAt_reads h.tail.tail,
    byteAt_reads h.tail.tail.tail, hzero, hdigits (n / 16) (by omega), hdigits (n % 16) (by omega),
    ok_bind]
  congr 1
  omega

/-- An escape of one letter. -/
theorem parseEscape_letter {c letter : UInt8} (hletter : unescapeLetter letter = some c)
    (h : Reads content p ([0x5C, letter] ++ text) rest) :
    parseEscape content p stop = .ok (some ([c], 2)) := by
  have hread : Reads content (p + 1) (letter :: text) rest := h.tail
  rw [parseEscape, byteAt_reads hread, ok_bind, hletter]
  rfl

/-- What is written for a code point below 32. -/
theorem utf8Bytes_control {c : UInt8} (hlt : c.toNat < 32) : utf8Bytes c.toNat = some [c] := by
  have hmask : c.toNat &&& 0x7F = c.toNat := by
    rw [show 0x7F = 2 ^ 7 - 1 from rfl, Nat.and_two_pow_sub_one_eq_mod]
    exact Nat.mod_eq_of_lt (by omega)
  rw [utf8Bytes, if_pos (by omega), hmask, UInt8.ofNat_toNat]

/-- An escape of four digits. -/
theorem parseEscape_digits {c : UInt8} (hlt : c.toNat < 32)
    (h : Reads content p ([0x5C, 0x75, 0x30, 0x30, hexDigit (c.toNat / 16),
      hexDigit (c.toNat % 16)] ++ text) rest) (hstop : p + 6 ≤ stop) :
    parseEscape content p stop = .ok (some ([c], 6)) := by
  have hletter : unescapeLetter 0x75 = none := rfl
  have hread : Reads content (p + 1) (0x75 :: [0x30, 0x30, hexDigit (c.toNat / 16),
    hexDigit (c.toNat % 16)] ++ text) rest := h.tail
  have hcode : utf16Literal content p stop = .ok (some (c.toNat, 6)) := by
    rw [utf16Literal, if_neg (by omega), parseHex4_printed hlt hread.tail]
    simp only [ok_bind, return_eq]
    rw [if_neg (by omega), if_neg (by omega)]
  rw [parseEscape, byteAt_reads hread, ok_bind, hletter, hcode]
  simp only [ok_bind, utf8Bytes_control hlt]
  rfl

/-- **The second loop undoes a printed character**: it goes on behind it, with the character
written. -/
theorem unescape_printChar (c : UInt8) {r : Option (List UInt8)}
    (h : Reads content p (printChar c ++ text) rest) (hstop : p + (printChar c).length ≤ stop)
    (hr : unescape content capacity stop rounds p output = .ok r) :
    ∃ rounds', unescape content capacity stop rounds' (p + (printChar c).length) (output ++ [c])
      = .ok r := by
  cases rounds with
  | zero => cases hr
  | succ rounds =>
    refine ⟨rounds, ?_⟩
    rw [unescape] at hr
    obtain ⟨hchar, -, hplain⟩ | ⟨letter, hchar, hletter⟩ | ⟨hchar, hlt⟩ := printChar_cases c <;>
      rw [hchar] at h hstop ⊢
    · rw [if_pos (Nat.lt_of_succ_le hstop), byteAt_reads h, ok_bind, if_pos hplain,
        bind_eq_ok] at hr
      obtain ⟨written, hwritten, hr⟩ := hr
      rwa [emit_eq_ok hwritten] at hr
    · rw [if_pos (by rw [List.length_cons] at hstop; omega), byteAt_reads h, ok_bind,
        if_neg (by decide), parseEscape_letter hletter h, ok_bind, bind_eq_ok] at hr
      obtain ⟨written, hwritten, hr⟩ := hr
      rwa [emit_eq_ok hwritten] at hr
    · rw [if_pos (by rw [List.length_cons] at hstop; omega), byteAt_reads h, ok_bind,
        if_neg (by decide), parseEscape_digits hlt h hstop, ok_bind, bind_eq_ok] at hr
      obtain ⟨written, hwritten, hr⟩ := hr
      rwa [emit_eq_ok hwritten] at hr

/-- The second loop undoes a printed text. -/
theorem unescape_printChars (s : List UInt8) {r : Option (List UInt8)}
    (h : Reads content p (printChars s) rest) (hstop : p + (printChars s).length = stop)
    (hr : unescape content capacity stop rounds p output = .ok r) :
    r = some (output ++ s ++ [0]) := by
  induction s generalizing rounds p output with
  | nil =>
    cases rounds with
    | zero => cases hr
    | succ rounds =>
      have hend : p = stop := hstop
      rw [unescape, if_neg (by omega), bind_eq_ok] at hr
      obtain ⟨written, hwritten, hr⟩ := hr
      rw [List.append_nil, ← emit_eq_ok hwritten]
      exact (Except.ok.inj hr).symm
  | cons c s ih =>
    rw [printChars, List.flatMap_cons] at h hstop
    rw [List.length_append, ← Nat.add_assoc] at hstop
    obtain ⟨rounds', hnext⟩ := unescape_printChar c h (by omega) hr
    rw [ih h.right hstop hnext, List.append_assoc output, List.singleton_append]

/-- **A printed string is read back.** -/
theorem parseString_print (s : CString) (h : Reads content offset (printStringPtr s) rest) :
    parseString content offset
      = .ok (some (s, offset + (printStringPtr s).length)) := by
  have htext : Reads content (offset + 1) (printChars s.bytes ++ [0x22]) rest := h.tail
  obtain ⟨r, hr, -⟩ := parseString_returns h.lt
  have hlength : (printStringPtr s).length = 1 + (printChars s.bytes).length + 1 := by
    rw [printStringPtr, List.length_cons, List.length_append, List.length_singleton]
    omega
  obtain ⟨skipped, hend⟩ := stringEnd_printChars s.bytes rest
  have hdrop : content.drop (offset + 1) = printChars s.bytes ++ 0x22 :: rest := by
    rw [htext, List.append_assoc, List.singleton_append]
  rw [hr, hlength]
  rw [parseString, byteAt_reads h, ok_bind, if_neg (by decide), hdrop, hend] at hr
  dsimp only at hr
  rw [bind_eq_ok] at hr
  obtain ⟨output, houtput, hr⟩ := hr
  rw [unescape_printChars s.bytes htext.left rfl houtput, List.nil_append] at hr
  dsimp only at hr
  rw [CString.ofBytes_terminated, return_eq] at hr
  rw [← hr]
  congr 3
  omega

end Strings

/-! ## What stands in front of a value and behind it -/

/-- White space. -/
def Blank (s : List UInt8) : Prop := ∀ c ∈ s, c ≤ 32

theorem blank_nil : Blank [] := by
  rintro c ⟨⟩

theorem Blank.append {s t : List UInt8} (hs : Blank s) (ht : Blank t) : Blank (s ++ t) :=
  fun c hc => (List.mem_append.mp hc).elim (hs c) (ht c)

theorem blank_indent (format : Bool) (depth : ℕ) : Blank (indent format depth) := by
  intro c hc
  rw [indent] at hc
  split_ifs at hc
  · obtain rfl := List.eq_of_mem_replicate hc
    decide
  · cases hc

theorem blank_lineFeed (format : Bool) : Blank (lineFeed format) := by
  cases format
  · exact blank_nil
  · rintro c (_ | ⟨_, ⟨⟩⟩)
    decide

/-- **White space is skipped**, up to the first other byte. -/
theorem bufferSkipWhitespace_reads {spaces : List UInt8} {c : UInt8} (hspaces : Blank spaces)
    (hc : 32 < c) (h : Reads content offset spaces (c :: rest)) :
    bufferSkipWhitespace content offset = offset + spaces.length := by
  have hc' : ¬ c ≤ 32 := UInt8.not_le.mpr hc
  have hbehind := List.getElem?_eq_some_iff.mp h.getElem?_rest
  have hstop : ((content.drop offset).takeWhile (· ≤ 32)).length = spaces.length := by
    rw [h, List.takeWhile_append_of_pos fun b hb => by simpa using hspaces b hb,
      List.takeWhile_cons_of_neg (by simpa using hc'), List.append_nil]
  rw [bufferSkipWhitespace, if_neg (by obtain ⟨hlt, -⟩ := hbehind; omega)]
  dsimp only
  rw [hstop, if_neg (by obtain ⟨hlt, -⟩ := hbehind; omega)]

/-- Where no white space stands nothing is skipped. -/
theorem bufferSkipWhitespace_eq {c : UInt8} (hc : 32 < c)
    (h : Reads content offset (c :: text) rest) : bufferSkipWhitespace content offset = offset :=
  bufferSkipWhitespace_reads blank_nil hc h

theorem isAt_reads {c : UInt8} (h : Reads content offset (c :: text) rest) (d : UInt8) :
    isAt content offset d = (c == d) := by
  rw [isAt, h.getElem?]
  rfl

theorem arraySeparator_eq (format : Bool) :
    ∃ spaces, Blank spaces ∧ arraySeparator format = 0x2C :: spaces := by
  cases format
  · exact ⟨[], blank_nil, rfl⟩
  · refine ⟨[0x20], ?_, rfl⟩
    rintro c (_ | ⟨_, ⟨⟩⟩)
    decide

theorem nameSeparator_eq (format : Bool) :
    ∃ spaces, Blank spaces ∧ nameSeparator format = 0x3A :: spaces := by
  cases format
  · exact ⟨[], blank_nil, rfl⟩
  · refine ⟨[0x09], ?_, rfl⟩
    rintro c (_ | ⟨_, ⟨⟩⟩)
    decide

/-- What a number ends in front of. -/
def EndsNumber (s : List UInt8) : Prop := ∀ c ∈ s.head?, isNumberChar c = false

theorem endsNumber_cons {c : UInt8} (hc : isNumberChar c = false) (s : List UInt8) :
    EndsNumber (c :: s) := by
  rintro d ⟨⟩
  exact hc

theorem isNumberChar_of_le {c : UInt8} (hc : c ≤ 32) : isNumberChar c = false := by
  have hlt := UInt8.le_iff_toNat_le.mp hc
  have hne : ∀ d : UInt8, 32 < d.toNat → (c == d) = false := by
    intro d hd
    rw [beq_eq_false_iff_ne]
    rintro rfl
    exact absurd hlt (by simpa using hd)
  rw [isNumberChar, hne 0x2B (by decide), hne 0x2D (by decide), hne 0x65 (by decide),
    hne 0x45 (by decide), hne 0x2E (by decide)]
  have hdigit : CLib.isDigit c = false := by
    rw [CLib.isDigit, Bool.and_eq_false_iff]
    exact .inl (decide_eq_false (UInt8.not_le.mpr (UInt8.lt_of_le_of_lt hc (by decide))))
  rw [hdigit]
  rfl

/-- White space, and then something that belongs to no number. -/
theorem Blank.endsNumber {s : List UInt8} {c : UInt8} (hs : Blank s) (hc : isNumberChar c = false)
    (rest : List UInt8) : EndsNumber (s ++ c :: rest) := by
  cases s with
  | nil => exact endsNumber_cons hc rest
  | cons d s => exact endsNumber_cons (isNumberChar_of_le (hs d List.mem_cons_self)) _

/-- A byte that a value may begin with. -/
def BeginsValue (c : UInt8) : Prop := 32 < c ∧ c ≠ 0x5D ∧ c ≠ 0x7D ∧ c < 0x80

instance (c : UInt8) : Decidable (BeginsValue c) := by
  unfold BeginsValue
  infer_instance

/-- A text that a value may begin with. -/
def Begins (s : List UInt8) : Prop := ∃ c text, s = c :: text ∧ BeginsValue c

theorem Begins.append {s : List UInt8} (h : Begins s) (t : List UInt8) : Begins (s ++ t) := by
  obtain ⟨c, text, rfl, hc⟩ := h
  exact ⟨c, text ++ t, rfl, hc⟩

theorem isNumberChar_of_mem_printInt {n : Int32} : ∀ c ∈ printInt n, isNumberChar c = true := by
  have hdigit : ∀ c ∈ CLib.decimal n.toInt.natAbs, isNumberChar c = true := by
    intro c hc
    rw [isNumberChar, CLib.isDigit_of_mem_decimal c hc]
    rfl
  intro c hc
  rw [printInt] at hc
  split_ifs at hc
  · rcases List.mem_cons.mp hc with rfl | hc
    · decide
    · exact hdigit c hc
  · exact hdigit c hc

/-- A number begins with its sign or with a digit. -/
theorem printInt_begins (n : Int32) :
    ∃ c text, printInt n = c :: text ∧ (c = 0x2D ∨ CLib.isDigit c = true) := by
  rw [printInt]
  split_ifs
  · exact ⟨0x2D, _, rfl, .inl rfl⟩
  · obtain ⟨c, text, h⟩ := List.exists_cons_of_ne_nil (CLib.decimal_ne_nil n.toInt.natAbs)
    exact ⟨c, text, h, .inr (CLib.isDigit_of_mem_decimal c (h ▸ List.mem_cons_self))⟩

theorem beginsValue_of_isDigit {c : UInt8} (h : CLib.isDigit c = true) : BeginsValue c := by
  rw [CLib.isDigit, Bool.and_eq_true, decide_eq_true_eq, decide_eq_true_eq] at h
  obtain ⟨hmin, hmax⟩ := h
  have hlow : (32 : UInt8) < 0x30 := by decide
  have hhigh : (0x39 : UInt8) < 0x80 := by decide
  refine ⟨UInt8.lt_of_lt_of_le hlow hmin, ?_, ?_, UInt8.lt_of_le_of_lt hmax hhigh⟩
  · rintro rfl
    exact absurd hmax (by decide)
  · rintro rfl
    exact absurd hmax (by decide)

/-- The first byte of a printed value. -/
theorem printValue_begins (format : Bool) (depth : ℕ) (item : Json) :
    Begins (printValue format depth item) := by
  cases item with
  | null => exact ⟨_, _, by rw [printValue], by decide⟩
  | bool b => cases b <;> exact ⟨_, _, by rw [printValue], by decide⟩
  | number n =>
    obtain ⟨c, text, h, hc⟩ := printInt_begins n
    refine ⟨c, text, by rw [printValue, h], ?_⟩
    obtain rfl | hc := hc
    · decide
    · exact beginsValue_of_isDigit hc
  | string s => exact ⟨_, _, by rw [printValue, printStringPtr], by decide⟩
  | array items => exact ⟨_, _, by rw [printValue], by decide⟩
  | object members => exact ⟨_, _, by rw [printValue], by decide⟩

end JsonText

end TmuxRemote
