import TmuxRemote.Cli.JsonText

/-!
# Cli/JsonBounds — the parser stays in its buffers

A parser that is given an offset of the buffer stops, none of its checks fails, and where it accepts
it has moved on to another offset of the buffer (`JsonText.Returns`).  So no check fails whatever
the text is, and what is accepted is nested no deeper than the limit
(`cJSONParseWithLength_returns`).
-/

namespace TmuxRemote

namespace JsonText

open CMemory Cursor

/-! ## What every parser keeps

**The specification of a parser**: it stops, no check of it fails, and where it accepts it has moved
on, to an offset of the buffer. -/

section

variable {content : List UInt8} {offset : ℕ}

/-- What a parser at `offset` keeps, and `P` of what it accepts. -/
def Returns {α : Type} (content : List UInt8) (offset : ℕ) (P : α → Prop)
    (parsed : Except ParseFault (Parsed α)) : Prop :=
  ∃ r, parsed = .ok r ∧ ∀ a stop, r = some (a, stop) → offset < stop ∧ stop ≤ content.length ∧ P a

theorem Returns.none {α : Type} {P : α → Prop} : Returns content offset P (.ok none) :=
  ⟨.none, rfl, fun _ _ h => absurd h (by simp)⟩

theorem Returns.some {α : Type} {P : α → Prop} {a : α} {stop : ℕ} (hlt : offset < stop)
    (hle : stop ≤ content.length) (ha : P a) : Returns content offset P (.ok (some (a, stop))) := by
  refine ⟨_, rfl, ?_⟩
  rintro b stop' heq
  obtain ⟨rfl, rfl⟩ := Prod.mk.inj (Option.some.inj heq)
  exact ⟨hlt, hle, ha⟩

/-- What is made of a result. -/
theorem Returns.map {α β : Type} {P : α → Prop} {Q : β → Prop} {start : ℕ}
    {parsed : Except ParseFault (Parsed α)} (h : Returns content start P parsed) (f : α → β)
    (hstart : offset ≤ start) (hQ : ∀ a, P a → Q (f a)) :
    Returns content offset Q (do return (← parsed).map fun (a, stop) => (f a, stop)) := by
  obtain ⟨r, rfl, hr⟩ := h
  cases r with
  | none => exact Returns.none
  | some r =>
    obtain ⟨hlt, hle, ha⟩ := hr r.1 r.2 rfl
    exact Returns.some (by omega) hle (hQ _ ha)

theorem byteAt_eq (h : offset < content.length) : byteAt content offset = .ok content[offset] := by
  rw [byteAt, List.getElem?_eq_getElem h]

theorem lt_of_isAt {c : UInt8} (h : isAt content offset c = true) : offset < content.length :=
  (List.getElem?_eq_some_iff.mp (beq_iff_eq.mp h)).1

theorem le_of_literalAt {literal : List UInt8} (h : literalAt content offset literal = true) :
    offset + literal.length ≤ content.length :=
  of_decide_eq_true (Bool.and_eq_true_iff.mp h).1

theorem le_bufferSkipWhitespace (content : List UInt8) (offset : ℕ) :
    offset ≤ bufferSkipWhitespace content offset := by
  rw [bufferSkipWhitespace]
  split_ifs with hend
  · exact le_rfl
  · dsimp only
    split_ifs <;> omega

theorem bufferSkipWhitespace_lt (h : offset < content.length) :
    bufferSkipWhitespace content offset < content.length := by
  have hspace := (List.takeWhile_sublist (l := content.drop offset)
    (fun c : UInt8 => decide (c ≤ 32))).length_le
  rw [List.length_drop] at hspace
  rw [bufferSkipWhitespace, if_neg (by omega)]
  dsimp only
  split_ifs <;> omega

end

/-! ## Strings

The output of a string has room for one byte less than its escapes make the text shorter.  **An
escape never writes more than the count of escapes has left for it** (`Room`), even one of a `\u`
whose six bytes end in the middle of the next escape. -/

section

variable {content : List UInt8} {offset stop capacity total : ℕ} {output : List UInt8}

/-- What the first loop of `parse_string` counts in a text: one for every escape and for every other
byte. -/
def units : List UInt8 → ℕ
  | [] => 0
  | c :: rest =>
    if c = 0x5C then
      match rest with
      | [] => 1
      | _ :: rest => units rest + 1
    else units rest + 1

theorem units_cons (h : c ≠ 0x5C) (rest : List UInt8) : units (c :: rest) = units rest + 1 := by
  rw [units.eq_def]
  exact if_neg h

theorem units_escape (c : UInt8) (rest : List UInt8) :
    units (0x5C :: c :: rest) = units rest + 1 := by
  rw [units.eq_def]
  rfl

theorem stringEnd_escape (c : UInt8) (rest : List UInt8) :
    stringEnd (0x5C :: c :: rest)
      = (stringEnd rest).map fun (length, skipped) => (length + 2, skipped + 1) := by
  rw [stringEnd.eq_def]
  rfl

theorem stringEnd_cons {c : UInt8} (hquote : c ≠ 0x22) (hescape : c ≠ 0x5C) (rest : List UInt8) :
    stringEnd (c :: rest)
      = (stringEnd rest).map fun (length, skipped) => (length + 1, skipped) := by
  rw [stringEnd.eq_def]
  exact (if_neg hquote).trans (if_neg hescape)

/-- What the first loop finds: the text in front of the closing quote, and its escapes. -/
theorem stringEnd_spec (s : List UInt8) {length skipped : ℕ}
    (h : stringEnd s = some (length, skipped)) :
    ∃ text rest, s = text ++ 0x22 :: rest ∧ text.length = length
      ∧ units text + skipped = length := by
  induction s using stringEnd.induct generalizing length skipped with
  | case1 => cases h
  | case2 rest =>
    rw [stringEnd.eq_def] at h
    obtain ⟨rfl, rfl⟩ := Prod.mk.inj (Option.some.inj h)
    exact ⟨[], rest, rfl, rfl, rfl⟩
  | case3 => cases h
  | case4 d rest _ ih =>
    rw [stringEnd_escape, Option.map_eq_some_iff] at h
    obtain ⟨⟨length', skipped'⟩, h, hr⟩ := h
    obtain ⟨rfl, rfl⟩ := Prod.mk.inj hr
    obtain ⟨text, behind, rfl, hlength, hunits⟩ := ih h
    refine ⟨0x5C :: d :: text, behind, rfl, ?_, ?_⟩
    · rw [List.length_cons, List.length_cons, hlength]
    · rw [units_escape]
      omega
  | case5 c rest hquote hescape ih =>
    rw [stringEnd_cons hquote hescape, Option.map_eq_some_iff] at h
    obtain ⟨⟨length', skipped'⟩, h, hr⟩ := h
    obtain ⟨rfl, rfl⟩ := Prod.mk.inj hr
    obtain ⟨text, behind, rfl, hlength, hunits⟩ := ih h
    refine ⟨c :: text, behind, rfl, ?_, ?_⟩
    · rw [List.length_cons, hlength]
    · rw [units_cons hescape]
      omega

/-- Behind so much output, what is left of a text has room in a total; of an escape the first loop
has counted its backslash may be behind. -/
def Room (total written : ℕ) (s : List UInt8) : Prop :=
  written + units s ≤ total ∨ ∃ c rest, s = c :: rest ∧ written + 1 + units rest ≤ total

theorem Room.le {written : ℕ} {s : List UInt8} (h : Room total written s) : written ≤ total := by
  rcases h with h | ⟨c, rest, -, h⟩ <;> omega

theorem Room.mono {written less : ℕ} {s : List UInt8} (h : Room total written s)
    (hless : less ≤ written) : Room total less s := by
  rcases h with h | ⟨c, rest, rfl, h⟩
  · exact .inl (by omega)
  · exact .inr ⟨c, rest, rfl, by omega⟩

/-- A byte that is no backslash has room for itself. -/
theorem Room.byte {written : ℕ} {c : UInt8} {s : List UInt8} (hc : c ≠ 0x5C)
    (h : Room total written (c :: s)) : Room total (written + 1) s := by
  rcases h with h | ⟨d, rest, heq, h⟩
  · rw [units_cons hc] at h
    exact .inl (by omega)
  · obtain ⟨rfl, rfl⟩ := List.cons.inj heq
    exact .inl h

theorem Room.drop_one {written : ℕ} {c : UInt8} {s : List UInt8} (h : Room total written (c :: s)) :
    Room total written s := by
  by_cases hc : c = 0x5C
  · subst hc
    rcases h with h | ⟨d, rest, heq, h⟩
    · cases s with
      | nil => exact .inl (by rw [units]; exact le_trans (Nat.le_add_right _ _) h)
      | cons d s =>
        rw [units_escape] at h
        exact .inr ⟨d, s, rfl, by omega⟩
    · obtain ⟨rfl, rfl⟩ := List.cons.inj heq
      exact .inl (by omega)
  · exact (h.byte hc).mono (Nat.le_succ _)

/-- **Two bytes have room for one**, whatever they are; so has a single one. -/
theorem Room.drop_two {written : ℕ} {c : UInt8} {s : List UInt8} (h : Room total written (c :: s)) :
    Room total (written + 1) s.tail := by
  have hplain : Room total (written + 1) s → Room total (written + 1) s.tail := fun h => by
    cases s with
    | nil => exact h
    | cons d s => exact h.drop_one
  by_cases hc : c = 0x5C
  · subst hc
    rcases h with h | ⟨d, rest, heq, h⟩
    · cases s with
      | nil => exact .inl h
      | cons d s =>
        rw [units_escape] at h
        exact .inl (by rw [List.tail_cons]; omega)
    · obtain ⟨rfl, rfl⟩ := List.cons.inj heq
      exact hplain (.inl h)
  · exact hplain (h.byte hc)

/-- So the first half of an even number of bytes has room. -/
theorem Room.drop {written : ℕ} (n : ℕ) {s : List UInt8} (h : Room total written s)
    (hs : 2 * n ≤ s.length) : Room total (written + n) (s.drop (2 * n)) := by
  induction n generalizing written s with
  | zero => exact h
  | succ n ih =>
    obtain ⟨c, s, rfl⟩ := List.exists_cons_of_length_pos (by omega : 0 < s.length)
    obtain ⟨d, s, rfl⟩ := List.exists_cons_of_length_pos (by rw [List.length_cons] at hs; omega :
      0 < s.length)
    have hs' : 2 * n ≤ s.length := by
      rw [List.length_cons, List.length_cons] at hs
      omega
    have hnext := ih h.drop_two hs'
    rwa [Nat.add_right_comm] at hnext

theorem emit_eq {bytes : List UInt8} (h : output.length + bytes.length ≤ capacity) :
    emit capacity output bytes = .ok (output ++ bytes) := if_pos h

/-! ### Escapes -/

theorem hexValue_lt {c : UInt8} {digit : ℕ} (h : hexValue c = some digit) : digit < 16 := by
  have := c.toNat_lt
  unfold hexValue at h
  split_ifs at h with h0 h1 h2 <;> simp only [Option.some.injEq] at h <;>
    simp only [UInt8.le_iff_toNat_le, UInt8.toNat_ofNat] at * <;> omega

theorem parseHex_returns (digits : ℕ) {i h : ℕ} (hi : i + digits ≤ content.length) :
    ∃ r, parseHex content digits i h = .ok r
      ∧ ∀ n, h < 16 ^ n → r < 16 ^ (n + digits) := by
  induction digits generalizing i h with
  | zero => exact ⟨h, rfl, fun n hn => hn⟩
  | succ digits ih =>
    rw [parseHex, byteAt_eq (by omega), ok_bind]
    cases hdigit : hexValue content[i] with
    | none => exact ⟨0, rfl, fun n _ => by positivity⟩
    | some digit =>
      obtain ⟨r, hr, hbound⟩ := ih (i := i + 1) (h := 16 * h + digit) (by omega)
      refine ⟨r, hr, fun n hn => ?_⟩
      have hlt := hexValue_lt hdigit
      have hnext := hbound (n + 1) (by rw [pow_succ]; omega)
      rwa [show n + 1 + digits = n + (digits + 1) by omega] at hnext

theorem parseHex4_returns {i : ℕ} (hi : i + 4 ≤ content.length) :
    ∃ r, parseHex4 content i = .ok r ∧ r < 0x10000 := by
  obtain ⟨r, hr, hbound⟩ := parseHex_returns 4 (h := 0) hi
  exact ⟨r, hr, hbound 0 (by norm_num)⟩

/-- A literal of six bytes is a code point of 16 bits; one of twelve is whole. -/
theorem utf16Literal_returns {p : ℕ} (hstop : stop ≤ content.length) :
    ∃ r, utf16Literal content p stop = .ok r ∧ ∀ codepoint length, r = some (codepoint, length) →
      p + length ≤ stop ∧ (length = 6 ∧ codepoint < 0x10000 ∨ length = 12) := by
  have hnone : ∀ codepoint length, (none : Option (ℕ × ℕ)) = some (codepoint, length) →
      p + length ≤ stop ∧ (length = 6 ∧ codepoint < 0x10000 ∨ length = 12) :=
    fun _ _ h => absurd h (by simp)
  unfold utf16Literal
  by_cases hsix : stop < p + 6
  · exact ⟨none, by rw [if_pos hsix]; rfl, hnone⟩
  obtain ⟨first, hfirst, hlt⟩ := @parseHex4_returns content (p + 2) (by omega)
  rw [if_neg hsix, hfirst]
  simp only [ok_bind, return_eq]
  by_cases hlow : 0xDC00 ≤ first ∧ first ≤ 0xDFFF
  · exact ⟨none, by rw [if_pos hlow], hnone⟩
  rw [if_neg hlow]
  by_cases hhigh : 0xD800 ≤ first ∧ first ≤ 0xDBFF
  · rw [if_pos hhigh]
    by_cases htwelve : stop < p + 6 + 6
    · exact ⟨none, by rw [if_pos htwelve], hnone⟩
    obtain ⟨second, hsecond, -⟩ := @parseHex4_returns content (p + 6 + 2) (by omega)
    rw [if_neg htwelve, byteAt_eq (by omega), byteAt_eq (by omega), hsecond]
    simp only [ok_bind]
    split_ifs
    · exact ⟨none, rfl, hnone⟩
    · exact ⟨none, rfl, hnone⟩
    · exact ⟨none, rfl, hnone⟩
    · refine ⟨_, rfl, ?_⟩
      rintro codepoint length ⟨⟩
      exact ⟨by omega, .inr rfl⟩
  · rw [if_neg hhigh]
    refine ⟨_, rfl, ?_⟩
    rintro codepoint length ⟨⟩
    exact ⟨by omega, .inl ⟨rfl, hlt⟩⟩

theorem length_utf8Bytes {codepoint : ℕ} {bytes : List UInt8}
    (h : utf8Bytes codepoint = some bytes) :
    bytes.length ≤ 4 ∧ (codepoint < 0x10000 → bytes.length ≤ 3) := by
  unfold utf8Bytes at h
  split_ifs at h <;> (obtain rfl := Option.some.inj h; simp <;> omega)

/-- An escape writes one byte for two, or at most half as many as it is long. -/
theorem parseEscape_returns {p : ℕ} (hp : p < stop) (hstop : stop < content.length) :
    ∃ r, parseEscape content p stop = .ok r ∧ ∀ bytes length, r = some (bytes, length) →
      bytes.length = 1 ∧ length = 2
        ∨ p + length ≤ stop ∧ ∃ n, 0 < n ∧ length = 2 * n ∧ bytes.length ≤ n := by
  have hnone : ∀ bytes length, (none : Option (List UInt8 × ℕ)) = some (bytes, length) →
      bytes.length = 1 ∧ length = 2
        ∨ p + length ≤ stop ∧ ∃ n, 0 < n ∧ length = 2 * n ∧ bytes.length ≤ n :=
    fun _ _ h => absurd h (by simp)
  rw [parseEscape, byteAt_eq (by omega), ok_bind]
  cases unescapeLetter content[p + 1] with
  | some c =>
    refine ⟨_, rfl, ?_⟩
    rintro bytes length ⟨⟩
    exact .inl ⟨rfl, rfl⟩
  | none =>
    dsimp only
    split_ifs
    · exact ⟨none, rfl, hnone⟩
    obtain ⟨r, hr, hbound⟩ := utf16Literal_returns (p := p) hstop.le
    rw [hr]
    simp only [ok_bind]
    obtain _ | ⟨codepoint, length⟩ := r
    · exact ⟨none, rfl, hnone⟩
    obtain ⟨hle, hlength⟩ := hbound codepoint length rfl
    refine ⟨_, rfl, ?_⟩
    rintro bytes length' h
    obtain ⟨written, hwritten, heq⟩ := Option.map_eq_some_iff.mp h
    obtain ⟨rfl, rfl⟩ := Prod.mk.inj heq
    obtain ⟨hfour, hthree⟩ := length_utf8Bytes hwritten
    refine .inr ⟨hle, ?_⟩
    obtain ⟨rfl, hlt⟩ | rfl := hlength
    · exact ⟨3, by omega, rfl, hthree hlt⟩
    · exact ⟨6, by omega, rfl, by omega⟩

/-- The text that the second loop has still in front of it. -/
def ahead (content : List UInt8) (stop p : ℕ) : List UInt8 := (content.take stop).drop p

theorem ahead_eq_cons {p : ℕ} (hp : p < stop) (hstop : stop < content.length) :
    ahead content stop p = content[p] :: ahead content stop (p + 1) := by
  rw [ahead, List.drop_eq_getElem_cons (by rw [List.length_take]; omega), List.getElem_take]
  rfl

theorem length_ahead {p : ℕ} (hstop : stop < content.length) :
    (ahead content stop p).length = stop - p := by
  rw [ahead, List.length_drop, List.length_take, Nat.min_eq_left hstop.le]

theorem drop_ahead (p n : ℕ) : (ahead content stop p).drop n = ahead content stop (p + n) := by
  rw [ahead, List.drop_drop, ahead]

/-- What an escape writes has room. -/
theorem Room.escape {p written : ℕ} (hp : p < stop) (hstop : stop < content.length)
    {bytes : List UInt8} {length : ℕ} (h : Room total written (ahead content stop p))
    (hescape : bytes.length = 1 ∧ length = 2
      ∨ p + length ≤ stop ∧ ∃ n, 0 < n ∧ length = 2 * n ∧ bytes.length ≤ n) :
    Room total (written + bytes.length) (ahead content stop (p + length)) := by
  obtain ⟨hbytes, rfl⟩ | ⟨hle, n, -, rfl, hbytes⟩ := hescape
  · rw [ahead_eq_cons hp hstop] at h
    have hnext := h.drop_two
    rw [← List.drop_one, drop_ahead] at hnext
    rw [hbytes]
    exact hnext
  · have hnext := h.drop n (by rw [length_ahead hstop]; omega)
    rw [drop_ahead] at hnext
    exact hnext.mono (by omega)

/-- **The second loop of `parse_string` ends and stays inside its block**, from any point at which
the rest of the text has room. -/
theorem unescape_returns (hstop : stop < content.length) (hcapacity : total < capacity) :
    ∀ rounds p output, stop - p < rounds → Room total output.length (ahead content stop p) →
      ∃ r, unescape content capacity stop rounds p output = .ok r := by
  intro rounds
  induction rounds with
  | zero => intro p output hrounds; omega
  | succ rounds ih =>
    intro p output hrounds hroom
    rw [unescape]
    by_cases hp : p < stop
    · rw [if_pos hp, byteAt_eq (by omega), ok_bind]
      by_cases hc : content[p] = 0x5C
      · obtain ⟨r, hr, hescape⟩ := parseEscape_returns hp hstop
        rw [if_neg (not_not.mpr hc), hr, ok_bind]
        obtain _ | ⟨bytes, length⟩ := r
        · exact ⟨none, rfl⟩
        · have hnext := hroom.escape hp hstop (hescape bytes length rfl)
          rw [← List.length_append] at hnext
          have hle := hnext.le
          rw [List.length_append] at hle
          have hlength : 0 < length := by
            obtain ⟨-, rfl⟩ | ⟨-, n, hn, rfl, -⟩ := hescape bytes length rfl <;> omega
          dsimp only
          rw [emit_eq (by omega), ok_bind]
          exact ih _ _ (by omega) hnext
      · rw [ahead_eq_cons hp hstop] at hroom
        have hnext := hroom.byte hc
        have hle := hnext.le
        rw [if_pos hc, emit_eq (by rw [List.length_singleton]; omega), ok_bind]
        refine ih _ _ (by omega) ?_
        rwa [List.length_append, List.length_singleton]
    · have hle := hroom.le
      rw [if_neg hp, emit_eq (by rw [List.length_singleton]; omega), ok_bind]
      exact ⟨_, rfl⟩

/-- `parse_string` keeps what a parser keeps. -/
theorem parseString_returns (h : offset < content.length) :
    Returns content offset (fun _ => True) (parseString content offset) := by
  rw [parseString, byteAt_eq h, ok_bind]
  split_ifs
  · exact Returns.none
  cases hend : stringEnd (content.drop (offset + 1)) with
  | none => exact Returns.none
  | some found =>
    obtain ⟨length, skipped⟩ := found
    obtain ⟨text, rest, htext, hlength, hunits⟩ := stringEnd_spec _ hend
    have hcontent := congrArg List.length htext
    rw [List.length_drop, List.length_append, List.length_cons] at hcontent
    have hahead : ahead content (offset + 1 + length) (offset + 1) = text := by
      rw [ahead, List.drop_take, htext, Nat.add_sub_cancel_left, List.take_left' hlength]
    obtain ⟨r, hr⟩ := @unescape_returns content (offset + 1 + length)
      (offset + 1 + length - offset - skipped + 1) (units text) (by omega) (by omega) (length + 1)
      (offset + 1) [] (by omega)
      (by rw [hahead]; exact .inl (by rw [List.length_nil, Nat.zero_add]))
    dsimp only
    rw [hr, ok_bind]
    cases r with
    | none => exact Returns.none
    | some output => exact Returns.some (by omega) (by omega) trivial

end

/-! ## Values -/

section

variable {strtod : Strtod} {content : List UInt8} {offset levels : ℕ} {parse : Parser Json}

theorem parseNumber_returns (hstrtod : ∀ text, (strtod text).2 ≤ text.length)
    (hoffset : offset ≤ content.length) :
    Returns content offset (fun item => height item ≤ levels)
      (parseNumber strtod content offset) := by
  have hused := hstrtod ((content.drop offset).takeWhile isNumberChar)
  have htext := (List.takeWhile_sublist (l := content.drop offset) isNumberChar).length_le
  rw [List.length_drop] at htext
  rw [parseNumber]
  split_ifs
  · exact Returns.none
  · exact Returns.some (by omega) (by omega) (Nat.zero_le _)

/-- The loop of `parse_array` has a round for every offset. -/
theorem parseElements_returns
    (hparse : ∀ o, Returns content o (fun item => height item ≤ levels) (parse o)) (rounds : ℕ)
    (hoffset : offset < content.length) (hrounds : content.length ≤ offset + rounds) :
    Returns content offset (fun items => itemsHeight items ≤ levels)
      (parseElements content parse rounds offset) := by
  induction rounds generalizing offset with
  | zero => omega
  | succ rounds ih =>
    rw [parseElements]
    obtain ⟨r, hr, hitem⟩ := hparse (bufferSkipWhitespace content (offset + 1))
    have hstart := le_bufferSkipWhitespace content (offset + 1)
    rw [hr, ok_bind]
    obtain _ | ⟨item, stop⟩ := r
    · exact Returns.none
    obtain ⟨hlt, -, hheight⟩ := hitem item stop rfl
    have hstop := le_bufferSkipWhitespace content stop
    dsimp only
    split_ifs with hcomma hclose
    · refine (ih (lt_of_isAt hcomma) (by omega)).map (item :: ·) (by omega) fun items hitems => ?_
      exact max_le hheight hitems
    · exact Returns.some (by omega) (lt_of_isAt hclose) (max_le hheight (Nat.zero_le _))
    · exact Returns.none

/-- The loop of `parse_object`. -/
theorem parseMembers_returns
    (hparse : ∀ o, Returns content o (fun item => height item ≤ levels) (parse o)) (rounds : ℕ)
    (hoffset : offset < content.length) (hrounds : content.length ≤ offset + rounds) :
    Returns content offset (fun members => membersHeight members ≤ levels)
      (parseMembers content parse rounds offset) := by
  induction rounds generalizing offset with
  | zero => omega
  | succ rounds ih =>
    rw [parseMembers]
    split_ifs with hend
    · exact Returns.none
    have hstart := le_bufferSkipWhitespace content (offset + 1)
    obtain ⟨r, hr, hname⟩ := parseString_returns (bufferSkipWhitespace_lt (Nat.lt_of_not_le hend))
    rw [hr, ok_bind]
    obtain _ | ⟨name, behind⟩ := r
    · exact Returns.none
    obtain ⟨hname, -, -⟩ := hname name behind rfl
    have hbehind := le_bufferSkipWhitespace content behind
    dsimp only
    split_ifs with hcolon
    swap
    · exact Returns.none
    have hvalue := le_bufferSkipWhitespace content (bufferSkipWhitespace content behind + 1)
    obtain ⟨r, hr, hitem⟩ := hparse
      (bufferSkipWhitespace content (bufferSkipWhitespace content behind + 1))
    rw [hr, ok_bind]
    obtain _ | ⟨value, stop⟩ := r
    · exact Returns.none
    obtain ⟨hlt, -, hheight⟩ := hitem value stop rfl
    have hstop := le_bufferSkipWhitespace content stop
    dsimp only
    split_ifs with hcomma hclose
    · refine (ih (lt_of_isAt hcomma) (by omega)).map ((name, value) :: ·) (by omega)
        fun members hmembers => ?_
      exact max_le hheight hmembers
    · exact Returns.some (by omega) (lt_of_isAt hclose) (max_le hheight (Nat.zero_le _))
    · exact Returns.none

/-- `parse_array` at an offset of the buffer. -/
theorem parseArray_returns (hoffset : offset < content.length)
    (hparse : ∀ o, Returns content o (fun item => height item ≤ levels) (parse o)) :
    Returns content offset (fun item => height item ≤ levels + 1)
      (parseArray content (some parse) offset) := by
  rw [parseArray, byteAt_eq hoffset]
  have hstart := le_bufferSkipWhitespace content (offset + 1)
  simp only [ok_bind]
  split_ifs with hbracket hclose hend
  · exact Returns.none
  · exact Returns.some (by omega) (lt_of_isAt hclose) (Nat.succ_le_succ (Nat.zero_le _))
  · exact Returns.none
  · exact (parseElements_returns hparse content.length (by omega) (by omega)).map Json.array
      (by omega) fun items hitems => Nat.succ_le_succ hitems

/-- `parse_object` -/
theorem parseObject_returns
    (hparse : ∀ o, Returns content o (fun item => height item ≤ levels) (parse o)) :
    Returns content offset (fun item => height item ≤ levels + 1)
      (parseObject content (some parse) offset) := by
  rw [parseObject]
  have hstart := le_bufferSkipWhitespace content (offset + 1)
  dsimp only
  split_ifs with hbrace hclose hend
  · exact Returns.some (by omega) (lt_of_isAt hclose) (Nat.succ_le_succ (Nat.zero_le _))
  · exact Returns.none
  · exact (parseMembers_returns hparse content.length (by omega) (by omega)).map Json.object
      (by omega) fun members hmembers => Nat.succ_le_succ hmembers
  · exact Returns.none

/-- `parse_value`, if what is nested in it keeps the specification one level further down. -/
theorem parseNested_returns (hstrtod : ∀ text, (strtod text).2 ≤ text.length)
    {nested : Option (Parser Json)}
    (hnested : ∀ parse ∈ nested, ∃ below, levels = below + 1 ∧
      ∀ o, Returns content o (fun item => height item ≤ below) (parse o)) :
    Returns content offset (fun item => height item ≤ levels)
      (parseNested strtod content nested offset) := by
  rw [parseNested]
  split_ifs with hnull hfalse htrue
  · exact Returns.some (by omega) (le_of_literalAt hnull) (Nat.zero_le _)
  · exact Returns.some (by omega) (le_of_literalAt hfalse) (Nat.zero_le _)
  · exact Returns.some (by omega) (le_of_literalAt htrue) (Nat.zero_le _)
  cases hc : content[offset]? with
  | none => exact Returns.none
  | some c =>
    have hoffset := (List.getElem?_eq_some_iff.mp hc).1
    dsimp only
    split_ifs
    · exact (parseString_returns hoffset).map Json.string le_rfl fun _ _ => Nat.zero_le _
    · exact parseNumber_returns hstrtod hoffset.le
    · cases nested with
      | none => exact Returns.none
      | some parse =>
        obtain ⟨below, rfl, hparse⟩ := hnested parse rfl
        exact parseArray_returns hoffset hparse
    · cases nested with
      | none => exact Returns.none
      | some parse =>
        obtain ⟨below, rfl, hparse⟩ := hnested parse rfl
        exact parseObject_returns hparse
    · exact Returns.none

/-- `parse_value` at every offset, even one behind the buffer. -/
theorem parseValue_returns (hstrtod : ∀ text, (strtod text).2 ≤ text.length) (levels offset : ℕ) :
    Returns content offset (fun item => height item ≤ levels)
      (parseValue strtod content levels offset) := by
  induction levels generalizing offset with
  | zero => exact parseNested_returns hstrtod fun _ h => absurd h (by simp)
  | succ levels ih =>
    refine parseNested_returns hstrtod fun parse h => ⟨levels, rfl, ?_⟩
    obtain rfl := Option.mem_some_iff.mp h
    exact ih

end

/-- **Parsing is safe**: whatever the text is, it ends without a read outside the buffer and without
a write outside the block of a string; and what it accepts is nested no deeper than the limit. -/
theorem cJSONParseWithLength_returns (strtod : Strtod)
    (hstrtod : ∀ text, (strtod text).2 ≤ text.length) (content : List UInt8) :
    ∃ r, cJSONParseWithLength strtod content = .ok r
      ∧ ∀ item, r = some item → height item ≤ nestingLimit := by
  rw [cJSONParseWithLength]
  split_ifs
  · exact ⟨none, rfl, fun _ h => absurd h (by simp)⟩
  obtain ⟨r, hr, hitem⟩ := @parseValue_returns strtod content hstrtod nestingLimit
    (bufferSkipWhitespace content (skipUtf8Bom content))
  rw [hr, ok_bind]
  refine ⟨_, rfl, fun item h => ?_⟩
  obtain ⟨⟨item', stop⟩, hmem, rfl⟩ := Option.map_eq_some_iff.mp h
  exact (hitem item' stop hmem).2.2

/-- A `strtod` for whole numbers: a sign, and the digits behind it. -/
def wholeStrtod : Strtod := fun text =>
  let sign := (text.take 1).takeWhile fun c => c == 0x2D || c == 0x2B
  let digits := (text.drop sign.length).takeWhile CLib.isDigit
  let value : ℤ := CLib.digitsValue digits
  let signed := if sign = [0x2D] then -value else value
  if digits.isEmpty then (0, 0)
  else (Int32.ofInt (max (-2 ^ 31) (min (2 ^ 31 - 1) signed)), sign.length + digits.length)

theorem wholeStrtod_used (text : List UInt8) : (wholeStrtod text).2 ≤ text.length := by
  have hsign := (List.takeWhile_sublist (l := text.take 1)
    fun c => c == 0x2D || c == 0x2B).length_le
  have hdigits := (List.takeWhile_sublist (l := text.drop ((text.take 1).takeWhile
    fun c => c == 0x2D || c == 0x2B).length) CLib.isDigit).length_le
  rw [List.length_take] at hsign
  rw [List.length_drop] at hdigits
  unfold wholeStrtod
  dsimp only
  split_ifs <;> dsimp only <;> omega

/-- An object with an array of a number and an escaped string, cut off before its end. -/
theorem cJSONParseWithLength_returns_of_cut :
    ∃ r, cJSONParseWithLength wholeStrtod
        [0x7B, 0x22, 0x6B, 0x22, 0x3A, 0x5B, 0x31, 0x32, 0x2C, 0x22, 0x5C, 0x75, 0x30, 0x30] = .ok r
      ∧ ∀ item, r = some item → height item ≤ nestingLimit :=
  cJSONParseWithLength_returns wholeStrtod wholeStrtod_used _

end JsonText

end TmuxRemote
