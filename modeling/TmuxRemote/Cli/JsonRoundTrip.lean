import TmuxRemote.Cli.JsonStrings

/-!
# Cli/JsonRoundTrip — what cJSON prints it reads back

**Parsing a printed value gives the value again**, formatted or not, as long as it is not nested
deeper than the parser goes (`cJSONParseWithLength_print`), by induction on the value.
-/

namespace TmuxRemote

namespace JsonText

open CMemory Cursor Trapping

variable {content text rest : List UInt8} {offset : ℕ}

/-! ## Values -/

section Values

variable {strtod : Strtod} {format : Bool} {depth levels rounds : ℕ} {nested : Option (Parser Json)}

theorem literalAt_reads (h : Reads content offset text rest)
    (hoffset : offset ≤ content.length) : literalAt content offset text = true := by
  have hlength := h.le_length hoffset
  rw [literalAt, Bool.and_eq_true, decide_eq_true_eq, h, List.take_left, beq_self_eq_true]
  exact ⟨by omega, rfl⟩

theorem literalAt_ne {c d : UInt8} (h : Reads content offset (c :: text) rest) (hcd : c ≠ d)
    (literal : List UInt8) : literalAt content offset (d :: literal) = false := by
  rw [literalAt, Bool.and_eq_false_iff]
  refine .inr (beq_eq_false_iff_ne.mpr ?_)
  rw [h, List.length_cons, List.cons_append, List.take_succ_cons]
  exact fun heq => hcd (List.cons.inj heq).1

/-- A value that begins with none of the literals' letters is parsed by its first byte. -/
theorem parseNested_reads {c : UInt8} (h : Reads content offset (c :: text) rest)
    (hnull : c ≠ 0x6E) (hfalse : c ≠ 0x66) (htrue : c ≠ 0x74) :
    parseNested strtod content nested offset
      = if c = 0x22 then do
          return (← parseString content offset).map fun (s, offset) => (.string s, offset)
        else if c = 0x2D ∨ CLib.isDigit c then parseNumber strtod content offset
        else if c = 0x5B then parseArray content nested offset
        else if c = 0x7B then parseObject content nested offset
        else .ok none := by
  have hskip : ∀ a b : Except ParseFault (Parsed Json), (if false = true then a else b) = b :=
    fun _ _ => if_neg (by decide)
  rw [parseNested, literalAt_ne h hnull, literalAt_ne h hfalse, literalAt_ne h htrue, hskip, hskip,
    hskip, h.getElem?]

/-- **A printed number is read back**, if `strtod` reads it back. -/
theorem parseNumber_print (hstrtod : ∀ n, strtod (printInt n) = (n, (printInt n).length))
    (n : Int32) (h : Reads content offset (printInt n) rest) (hrest : EndsNumber rest) :
    parseNumber strtod content offset
      = .ok (some (.number n, offset + (printInt n).length)) := by
  have htext : (content.drop offset).takeWhile isNumberChar = printInt n := by
    rw [h, List.takeWhile_append_of_pos isNumberChar_of_mem_printInt]
    cases rest with
    | nil => rw [List.takeWhile_nil, List.append_nil]
    | cons c rest =>
      rw [List.takeWhile_cons_of_neg (by rw [hrest c rfl]; decide), List.append_nil]
  obtain ⟨c, tail, hcons, -⟩ := printInt_begins n
  rw [parseNumber, htext, hstrtod, if_neg]
  rw [hcons]
  exact Nat.succ_ne_zero _

theorem parseNested_number (hstrtod : ∀ n, strtod (printInt n) = (n, (printInt n).length))
    (n : Int32) (h : Reads content offset (printInt n) rest) (hrest : EndsNumber rest) :
    parseNested strtod content nested offset
      = .ok (some (.number n, offset + (printInt n).length)) := by
  obtain ⟨c, tail, hcons, hc⟩ := printInt_begins n
  have hread := h
  rw [hcons] at hread
  have hletter : c ≠ 0x6E ∧ c ≠ 0x66 ∧ c ≠ 0x74 ∧ c ≠ 0x22 := by
    obtain rfl | hc := hc
    · decide
    · refine ⟨?_, ?_, ?_, ?_⟩ <;> rintro rfl <;> exact absurd hc (by decide)
  rw [parseNested_reads hread hletter.1 hletter.2.1 hletter.2.2.1, if_neg hletter.2.2.2,
    if_pos hc, parseNumber_print hstrtod n h hrest]

theorem parseNested_string (s : CString) (h : Reads content offset (printStringPtr s) rest) :
    parseNested strtod content nested offset
      = .ok (some (.string s, offset + (printStringPtr s).length)) := by
  rw [parseNested_reads h (by decide) (by decide) (by decide), if_pos rfl, parseString_print s h]
  rfl

/-- The result for something that is accepted where it `fits` into the levels left. -/
def kept {α : Type} (fits : Prop) [Decidable fits] (a : α) (stop : ℕ) : Parsed α :=
  if fits then some (a, stop) else none

theorem kept_congr {α : Type} {fits fits' : Prop} [Decidable fits] [Decidable fits'] {a : α}
    {stop stop' : ℕ} (hfits : fits ↔ fits') (hstop : stop = stop') :
    kept fits a stop = kept fits' a stop' := by
  rw [hstop, kept, kept]
  exact if_congr hfits rfl rfl

theorem kept_map {α β : Type} {fits : Prop} [Decidable fits] {a : α} {stop : ℕ} (f : α → β) :
    ((kept fits a stop).map fun (a, stop) => (f a, stop)) = kept fits (f a) stop := by
  rw [kept, kept]
  split_ifs <;> rfl

/-! ### Arrays -/

section

variable {parse : Parser Json} {start stop finish : ℕ} {item : Json} {items : List Json}
  {fits fits' : Prop} [Decidable fits] [Decidable fits']

/-- The loop of `parse_array` at the last element. -/
theorem parseElements_last {r : Parsed (List Json)}
    (hstart : bufferSkipWhitespace content (offset + 1) = start)
    (hitem : ∀ r, parse start = .ok r → r = kept fits item stop)
    (hclose : Reads content stop [0x5D] rest)
    (hr : parseElements content parse rounds offset = .ok r) : r = kept fits [item] (stop + 1) := by
  cases rounds with
  | zero => cases hr
  | succ rounds =>
    rw [parseElements, hstart, bind_eq_ok] at hr
    obtain ⟨r', hr', hr⟩ := hr
    rw [hitem r' hr', kept] at hr
    rw [kept]
    split_ifs at hr ⊢
    · dsimp only at hr
      rw [bufferSkipWhitespace_eq (by decide) hclose, isAt_reads hclose, isAt_reads hclose,
        if_neg (by decide), if_pos (by decide)] at hr
      exact (Except.ok.inj hr).symm
    · exact (Except.ok.inj hr).symm

/-- The loop of `parse_array` at an element with others behind it. -/
theorem parseElements_next {r : Parsed (List Json)}
    (hstart : bufferSkipWhitespace content (offset + 1) = start)
    (hitem : ∀ r, parse start = .ok r → r = kept fits item stop)
    (hcomma : Reads content stop [0x2C] rest)
    (hitems : ∀ rounds r, parseElements content parse rounds stop = .ok r →
      r = kept fits' items finish)
    (hr : parseElements content parse rounds offset = .ok r) :
    r = kept (fits ∧ fits') (item :: items) finish := by
  cases rounds with
  | zero => cases hr
  | succ rounds =>
    rw [parseElements, hstart, bind_eq_ok] at hr
    obtain ⟨r', hr', hr⟩ := hr
    rw [hitem r' hr', kept] at hr
    by_cases hfits : fits
    · rw [if_pos hfits] at hr
      dsimp only at hr
      rw [bufferSkipWhitespace_eq (by decide) hcomma, isAt_reads hcomma, if_pos (by decide),
        bind_eq_ok] at hr
      obtain ⟨r', hr', hr⟩ := hr
      rw [hitems _ r' hr', return_eq, kept_map] at hr
      rw [← Except.ok.inj hr]
      exact kept_congr (by rw [and_iff_right hfits]) rfl
    · rw [if_neg hfits] at hr
      rw [kept, if_neg fun h => hfits h.1]
      exact (Except.ok.inj hr).symm

/-- `parse_array` of the empty array. -/
theorem parseArray_empty (h : Reads content offset [0x5B, 0x5D] rest) :
    parseArray content (some parse) offset = .ok (some (.array [], offset + 2)) := by
  have hclose : Reads content (offset + 1) [0x5D] rest := h.tail
  rw [parseArray, byteAt_reads h]
  simp only [ok_bind]
  rw [if_neg (by decide), bufferSkipWhitespace_eq (by decide) hclose, isAt_reads hclose,
    if_pos (by decide)]
  rfl

/-- `parse_array` with an element. -/
theorem parseArray_reads {c : UInt8} {r : Parsed Json}
    (h : Reads content offset (0x5B :: c :: text) rest) (hc : BeginsValue c)
    (hitems : ∀ rounds r, parseElements content parse rounds offset = .ok r →
      r = kept fits items finish)
    (hr : parseArray content (some parse) offset = .ok r) :
    r = kept fits (.array items) finish := by
  have hfirst : Reads content (offset + 1) (c :: text) rest := h.tail
  rw [parseArray, byteAt_reads h] at hr
  simp only [ok_bind] at hr
  rw [if_neg (by decide), bufferSkipWhitespace_eq hc.1 hfirst, isAt_reads hfirst,
    if_neg (by simpa using hc.2.1), if_neg (by have := hfirst.lt; omega), bind_eq_ok] at hr
  obtain ⟨r', hr', hr⟩ := hr
  rw [hitems _ r' hr', return_eq, kept_map] at hr
  exact (Except.ok.inj hr).symm

/-! ### Objects -/

variable {name : CString} {value : Json} {members : List (CString × Json)} {close : ℕ}

/-- The name of a member and its value; the rest of the turn is left. -/
theorem parseMembers_member {r : Parsed (List (CString × Json))} (hlt : offset + 1 < content.length)
    (hstart : bufferSkipWhitespace content (offset + 1) = start)
    (hname : Reads content start (printStringPtr name ++ nameSeparator format) text)
    (hbegins : Begins text)
    (hitem : ∀ r, parse (start + (printStringPtr name ++ nameSeparator format).length) = .ok r →
      r = kept fits value stop)
    (hstop : bufferSkipWhitespace content stop = close)
    (hr : parseMembers content parse (rounds + 1) offset = .ok r) :
    (¬ fits ∧ r = none) ∨ (fits ∧ (if isAt content close 0x2C then do
        return (← parseMembers content parse rounds close).map fun (members, offset) =>
          ((name, value) :: members, offset)
      else if isAt content close 0x7D then return some ([(name, value)], close + 1)
      else return none) = .ok r) := by
  obtain ⟨spaces, hspaces, hseparator⟩ := nameSeparator_eq format
  obtain ⟨c, text, rfl, hc⟩ := hbegins
  rw [hseparator] at hname hitem
  have hcolon := hname.right
  rw [parseMembers, if_neg (by omega), hstart, parseString_print name hname.left, ok_bind] at hr
  dsimp only at hr
  rw [bufferSkipWhitespace_eq (by decide) hcolon, isAt_reads hcolon, if_pos (by decide),
    bufferSkipWhitespace_reads hspaces hc.1 hcolon.tail, bind_eq_ok] at hr
  obtain ⟨r', hr', hr⟩ := hr
  rw [List.length_append, List.length_cons] at hitem
  rw [hitem r' (by rw [← hr']; congr 1; omega), kept] at hr
  by_cases hfits : fits
  · rw [if_pos hfits] at hr
    dsimp only at hr
    rw [hstop] at hr
    exact .inr ⟨hfits, hr⟩
  · rw [if_neg hfits] at hr
    exact .inl ⟨hfits, (Except.ok.inj hr).symm⟩

/-- The loop of `parse_object` at the last member. -/
theorem parseMembers_last {r : Parsed (List (CString × Json))} (hlt : offset + 1 < content.length)
    (hstart : bufferSkipWhitespace content (offset + 1) = start)
    (hname : Reads content start (printStringPtr name ++ nameSeparator format) text)
    (hbegins : Begins text)
    (hitem : ∀ r, parse (start + (printStringPtr name ++ nameSeparator format).length) = .ok r →
      r = kept fits value stop)
    (hstop : bufferSkipWhitespace content stop = close) (hclose : Reads content close [0x7D] rest)
    (hr : parseMembers content parse rounds offset = .ok r) :
    r = kept fits [(name, value)] (close + 1) := by
  cases rounds with
  | zero => cases hr
  | succ rounds =>
    obtain ⟨hfits, rfl⟩ | ⟨hfits, hr⟩ :=
      parseMembers_member hlt hstart hname hbegins hitem hstop hr
    · rw [kept, if_neg hfits]
    · rw [isAt_reads hclose, isAt_reads hclose, if_neg (by decide), if_pos (by decide)] at hr
      rw [kept, if_pos hfits]
      exact (Except.ok.inj hr).symm

/-- The loop of `parse_object` at a member with others behind it. -/
theorem parseMembers_next {r : Parsed (List (CString × Json))} (hlt : offset + 1 < content.length)
    (hstart : bufferSkipWhitespace content (offset + 1) = start)
    (hname : Reads content start (printStringPtr name ++ nameSeparator format) text)
    (hbegins : Begins text)
    (hitem : ∀ r, parse (start + (printStringPtr name ++ nameSeparator format).length) = .ok r →
      r = kept fits value stop)
    (hcomma : Reads content stop [0x2C] rest)
    (hmembers : ∀ rounds r, parseMembers content parse rounds stop = .ok r →
      r = kept fits' members finish)
    (hr : parseMembers content parse rounds offset = .ok r) :
    r = kept (fits ∧ fits') ((name, value) :: members) finish := by
  cases rounds with
  | zero => cases hr
  | succ rounds =>
    obtain ⟨hfits, rfl⟩ | ⟨hfits, hr⟩ :=
      parseMembers_member hlt hstart hname hbegins hitem
        (bufferSkipWhitespace_eq (by decide) hcomma) hr
    · rw [kept, if_neg fun h => hfits h.1]
    · rw [isAt_reads hcomma, if_pos (by decide), bind_eq_ok] at hr
      obtain ⟨r', hr', hr⟩ := hr
      rw [hmembers _ r' hr', return_eq, kept_map] at hr
      rw [← Except.ok.inj hr]
      exact kept_congr (by rw [and_iff_right hfits]) rfl

/-- `parse_object` of an empty object. -/
theorem parseObject_empty {spaces : List UInt8} (hspaces : Blank spaces)
    (h : Reads content offset (0x7B :: (spaces ++ [0x7D])) rest) :
    parseObject content (some parse) offset
      = .ok (some (.object [], offset + (0x7B :: (spaces ++ [0x7D])).length)) := by
  have hspaced : Reads content (offset + 1) (spaces ++ [0x7D]) rest := h.tail
  have hclose := hspaced.right
  rw [parseObject, isAt_reads h]
  dsimp only
  rw [if_pos (by decide), bufferSkipWhitespace_reads hspaces (by decide) hspaced.left,
    isAt_reads hclose, if_pos (by decide), List.length_cons, List.length_append,
    List.length_singleton, return_eq]
  congr 3
  omega

/-- `parse_object` with a member. -/
theorem parseObject_reads {spaces : List UInt8} {r : Parsed Json} (hspaces : Blank spaces)
    (h : Reads content offset (0x7B :: (spaces ++ 0x22 :: text)) rest)
    (hmembers : ∀ rounds offset' r, offset' + 1 = offset + 1 + spaces.length →
      parseMembers content parse rounds offset' = .ok r → r = kept fits members finish)
    (hr : parseObject content (some parse) offset = .ok r) :
    r = kept fits (.object members) finish := by
  have hspaced : Reads content (offset + 1) (spaces ++ 0x22 :: text) rest := h.tail
  have hname := hspaced.right
  rw [parseObject, isAt_reads h] at hr
  dsimp only at hr
  rw [if_pos (by decide), bufferSkipWhitespace_reads hspaces (by decide) hspaced.left,
    isAt_reads hname, if_neg (by decide), if_neg (by have := hname.lt; omega), bind_eq_ok] at hr
  obtain ⟨r', hr', hr⟩ := hr
  rw [hmembers _ _ r' (by omega) hr', return_eq, kept_map] at hr
  exact (Except.ok.inj hr).symm

end

/-! ### Every value -/

theorem printItems_cons (item : Json) {items : List Json} (h : items ≠ []) :
    printItems format depth (item :: items)
      = printValue format depth item
        ++ (arraySeparator format ++ printItems format depth items) := by
  cases items with
  | nil => exact absurd rfl h
  | cons next items => rw [printItems, List.append_assoc]

theorem printMembers_cons (name : CString) (value : Json) {members : List (CString × Json)}
    (h : members ≠ []) :
    printMembers format depth ((name, value) :: members)
      = indent format depth ++ (printStringPtr name ++ nameSeparator format
        ++ (printValue format depth value ++ (0x2C :: (lineFeed format
        ++ printMembers format depth members)))) := by
  cases members with
  | nil => exact absurd rfl h
  | cons next members =>
    rw [printMembers]
    simp only [List.append_assoc, List.cons_append, List.nil_append]

/-- A value without others in it. -/
theorem parseNested_scalar (hstrtod : ∀ n, strtod (printInt n) = (n, (printInt n).length))
    {item : Json} (hitem : height item = 0)
    (h : Reads content offset (printValue format depth item) rest) (hrest : EndsNumber rest) :
    parseNested strtod content nested offset
      = .ok (some (item, offset + (printValue format depth item).length)) := by
  have hoffset : offset ≤ content.length := by
    obtain ⟨c, text, hcons, -⟩ := printValue_begins format depth item
    rw [hcons] at h
    exact h.lt.le
  cases item with
  | null =>
    rw [printValue] at h ⊢
    rw [parseNested, literalAt_reads h hoffset]
    rfl
  | bool b =>
    cases b <;> rw [printValue] at h ⊢ <;> rw [parseNested, literalAt_ne h (by decide)]
    · rw [literalAt_reads h hoffset]
      rfl
    · rw [literalAt_ne h (by decide), literalAt_reads h hoffset]
      rfl
  | number n =>
    rw [printValue] at h ⊢
    exact parseNested_number hstrtod n h hrest
  | string s =>
    rw [printValue] at h ⊢
    exact parseNested_string s h
  | array items => exact absurd hitem (Nat.succ_ne_zero _)
  | object members => exact absurd hitem (Nat.succ_ne_zero _)

/-- `parse_value` at an array. -/
theorem parseNested_array (h : Reads content offset (0x5B :: text) rest) :
    parseNested strtod content nested offset = parseArray content nested offset := by
  rw [parseNested_reads h (by decide) (by decide) (by decide), if_neg (by decide),
    if_neg (by decide), if_pos rfl]

/-- `parse_value` at an object. -/
theorem parseNested_object (h : Reads content offset (0x7B :: text) rest) :
    parseNested strtod content nested offset = parseObject content nested offset := by
  rw [parseNested_reads h (by decide) (by decide) (by decide), if_neg (by decide),
    if_neg (by decide), if_neg (by decide), if_pos rfl]

/-- A value that is read back wherever its text stands: exactly where it fits into the levels. -/
def ReadsBack (strtod : Strtod) (format : Bool) (content : List UInt8) (item : Json) : Prop :=
  ∀ (depth levels offset : ℕ) (rest : List UInt8) (r : Parsed Json),
    Reads content offset (printValue format depth item) rest → EndsNumber rest →
    parseValue strtod content levels offset = .ok r →
    r = kept (height item ≤ levels) item (offset + (printValue format depth item).length)

theorem printMembers_single (name : CString) (value : Json) :
    printMembers format depth [(name, value)]
      = indent format depth ++ (printStringPtr name ++ nameSeparator format
        ++ (printValue format depth value ++ lineFeed format)) := by
  rw [printMembers]
  simp only [List.append_assoc]

/-- The white space in front of a value is skipped. -/
theorem bufferSkipWhitespace_value {spaces behind : List UInt8} {item : Json}
    (hspaces : Blank spaces) (h : Reads content offset spaces behind)
    (hitem : Reads content (offset + spaces.length) (printValue format depth item) rest) :
    bufferSkipWhitespace content offset = offset + spaces.length := by
  obtain ⟨c, text, hcons, hc⟩ := printValue_begins format depth item
  have hbehind : content.drop (offset + spaces.length) = behind := by
    rw [← List.drop_drop, h, List.drop_left]
  rw [Reads, hbehind, hcons, List.cons_append] at hitem
  rw [hitem] at h
  exact bufferSkipWhitespace_reads hspaces hc.1 h

/-- The elements of an array are read back if each is. -/
theorem parseElements_print (items : List Json)
    (hitems : ∀ item ∈ items, ReadsBack strtod format content item) (hne : items ≠ [])
    {spaces : List UInt8} {r : Parsed (List Json)} (hspaces : Blank spaces)
    (h : Reads content (offset + 1) (spaces ++ printItems format depth items) (0x5D :: rest))
    (hr : parseElements content (parseValue strtod content levels) rounds offset = .ok r) :
    r = kept (itemsHeight items ≤ levels) items
      (offset + 1 + (spaces ++ printItems format depth items).length + 1) := by
  induction items generalizing offset spaces rounds r with
  | nil => exact absurd rfl hne
  | cons item items ih =>
    rw [List.forall_mem_cons] at hitems
    cases items with
    | nil =>
      rw [printItems] at h ⊢
      refine (parseElements_last (bufferSkipWhitespace_value hspaces h.left h.right)
        (fun r => hitems.1 _ _ _ _ r h.right (endsNumber_cons (by decide) rest))
        h.right.behind hr).trans ?_
      refine kept_congr (by rw [itemsHeight, itemsHeight, Nat.max_zero]) ?_
      rw [List.length_append]
      omega
    | cons next items =>
      have hcons := @printItems_cons format depth item _ (List.cons_ne_nil next items)
      obtain ⟨blank, hblank, hseparator⟩ := arraySeparator_eq format
      rw [hcons, hseparator, List.cons_append] at h ⊢
      have hitem := h.right.left
      have hcomma := h.right.right
      refine (parseElements_next (bufferSkipWhitespace_value hspaces h.left hitem)
        (fun r => hitems.1 _ _ _ _ r hitem (endsNumber_cons (by decide) _))
        hcomma (fun rounds r => ih hitems.2 (List.cons_ne_nil next items) hblank hcomma.tail)
        hr).trans ?_
      refine kept_congr max_le_iff.symm ?_
      simp only [List.length_append, List.length_cons]
      omega

/-- The members of an object are read back if each value is. -/
theorem parseMembers_print (members : List (CString × Json))
    (hmembers : ∀ member ∈ members, ReadsBack strtod format content member.2) (hne : members ≠ [])
    {start : ℕ} {spaces closing : List UInt8} {r : Parsed (List (CString × Json))}
    (hspaces : Blank spaces) (hclosing : Blank closing) (hlt : offset + 1 < content.length)
    (hstart : bufferSkipWhitespace content (offset + 1) = bufferSkipWhitespace content start)
    (h : Reads content start (spaces ++ printMembers format depth members)
      (closing ++ 0x7D :: rest))
    (hr : parseMembers content (parseValue strtod content levels) rounds offset = .ok r) :
    r = kept (membersHeight members ≤ levels) members
      (start + (spaces ++ printMembers format depth members).length + closing.length + 1) := by
  induction members generalizing offset start spaces rounds r with
  | nil => exact absurd rfl hne
  | cons member members ih =>
    obtain ⟨name, value⟩ := member
    rw [List.forall_mem_cons] at hmembers
    have hindent := hspaces.append (blank_indent format depth)
    have hbegins := printValue_begins format depth value
    cases members with
    | nil =>
      rw [printMembers_single, ← List.append_assoc spaces] at h ⊢
      have hskip := hstart.trans (bufferSkipWhitespace_reads hindent (by decide) h.left)
      have hclosed := (blank_lineFeed format).append hclosing
      have hbehind := h.right.right.right.join
      have hclose : Reads content _ [0x7D] rest := hbehind.behind
      have hitem := fun r => hmembers.1 _ levels _ _ r h.right.right.left
        (by rw [← List.append_assoc]; exact hclosed.endsNumber (by decide) rest)
      refine (parseMembers_last hlt hskip h.right.left ((hbegins.append _).append _) hitem
        (bufferSkipWhitespace_reads hclosed (by decide) hbehind)
        hclose hr).trans ?_
      refine kept_congr (by rw [membersHeight, membersHeight, Nat.max_zero]) ?_
      simp only [List.length_append]
      omega
    | cons next members =>
      rw [printMembers_cons name value (List.cons_ne_nil next members),
        ← List.append_assoc spaces] at h ⊢
      have hskip := hstart.trans (bufferSkipWhitespace_reads hindent (by decide) h.left)
      have hcomma := h.right.right.right
      have hitem := fun r => hmembers.1 _ levels _ _ r h.right.right.left
        (endsNumber_cons (by decide) _)
      have hlength := hcomma.tail.le_length hcomma.lt
      simp only [List.length_append, List.length_cons] at hlength
      refine (parseMembers_next hlt hskip h.right.left ((hbegins.append _).append _) hitem
        hcomma (fun rounds r => ih hmembers.2 (List.cons_ne_nil next members)
          (blank_lineFeed format) (by simp only [List.length_append]; omega) rfl hcomma.tail)
        hr).trans ?_
      refine kept_congr max_le_iff.symm ?_
      simp only [List.length_append, List.length_cons]
      omega

/-- A value without others in it is read back. -/
theorem readsBack_scalar (hstrtod : ∀ n, strtod (printInt n) = (n, (printInt n).length))
    {item : Json} (hitem : height item = 0) : ReadsBack strtod format content item := by
  intro depth levels offset rest r h hrest hr
  have hlevels : height item ≤ levels := hitem ▸ Nat.zero_le levels
  rw [kept, if_pos hlevels]
  cases levels <;>
    exact (Except.ok.inj ((parseNested_scalar hstrtod hitem h hrest).symm.trans hr)).symm

/-- An array is read back if its elements are. -/
theorem readsBack_array {items : List Json}
    (hitems : ∀ item ∈ items, ReadsBack strtod format content item) :
    ReadsBack strtod format content (.array items) := by
  intro depth levels offset rest r h hrest hr
  rw [printValue] at h ⊢
  cases levels with
  | zero =>
    rw [parseValue, parseNested_array h] at hr
    exact (Except.ok.inj hr).symm
  | succ levels =>
    rw [parseValue, parseNested_array h] at hr
    cases items with
    | nil =>
      rw [printItems, List.nil_append] at h
      exact (Except.ok.inj ((parseArray_empty h).symm.trans hr)).symm
    | cons item items =>
      have hbegins : Begins (printItems format (depth + 1) (item :: items)) := by
        have hitem := printValue_begins format (depth + 1) item
        cases items with
        | nil => rwa [printItems]
        | cons next items => exact ((hitem.append _).append _)
      obtain ⟨c, text, hcons, hc⟩ := hbegins
      have hread := h
      rw [hcons] at hread
      refine (parseArray_reads hread hc (fun rounds r => parseElements_print (item :: items) hitems
        (List.cons_ne_nil item items) blank_nil h.tail.left) hr).trans ?_
      refine kept_congr Nat.succ_le_succ_iff.symm ?_
      simp only [List.nil_append, List.length_append, List.length_cons, List.length_nil]
      omega

theorem printMembers_begins {members : List (CString × Json)} (h : members ≠ []) :
    ∃ text, printMembers format depth members = indent format depth ++ 0x22 :: text := by
  obtain ⟨⟨name, value⟩, members, rfl⟩ := List.exists_cons_of_ne_nil h
  cases members with
  | nil => exact ⟨_, by rw [printMembers_single]; rfl⟩
  | cons next members =>
    exact ⟨_, by rw [printMembers_cons name value (List.cons_ne_nil next members)]; rfl⟩

/-- An object is read back if the values of its members are. -/
theorem readsBack_object {members : List (CString × Json)}
    (hmembers : ∀ member ∈ members, ReadsBack strtod format content member.2) :
    ReadsBack strtod format content (.object members) := by
  intro depth levels offset rest r h hrest hr
  rw [printValue] at h ⊢
  cases levels with
  | zero =>
    rw [parseValue, parseNested_object h] at hr
    exact (Except.ok.inj hr).symm
  | succ levels =>
    rw [parseValue, parseNested_object h] at hr
    have hfeed := blank_lineFeed format
    have hindent := blank_indent format depth
    by_cases hne : members = []
    · subst hne
      rw [printMembers, List.append_nil] at h ⊢
      exact (Except.ok.inj ((parseObject_empty (hfeed.append hindent) h).symm.trans hr)).symm
    · obtain ⟨text, htext⟩ := @printMembers_begins format (depth + 1) _ hne
      have hspaces := hfeed.append (blank_indent format (depth + 1))
      have hread := h
      rw [htext] at hread
      simp only [List.append_assoc, List.cons_append] at hread
      rw [← List.append_assoc (lineFeed format)] at hread
      have hfirst := hread.tail
      have hinside : Reads content (offset + 1) (lineFeed format
          ++ printMembers format (depth + 1) members) (indent format depth ++ 0x7D :: rest) := by
        have htail := h.tail
        rw [List.append_assoc] at htail
        have hleft := htail.left
        rwa [List.append_assoc] at hleft
      have hskip := bufferSkipWhitespace_reads hspaces (by decide) hfirst.left
      have hquote : Reads content _ (0x22 :: _) rest := hfirst.right
      have hloop (rounds offset' : ℕ) (r : Parsed (List (CString × Json)))
          (hoffset : offset' + 1
            = offset + 1 + (lineFeed format ++ indent format (depth + 1)).length)
          (hr : parseMembers content (parseValue strtod content levels) rounds offset' = .ok r) :
          r = kept (membersHeight members ≤ levels) members
            (offset + 1 + (lineFeed format ++ printMembers format (depth + 1) members).length
              + (indent format depth).length + 1) := by
        rw [← hoffset] at hquote hskip
        exact parseMembers_print members hmembers hne hfeed hindent hquote.lt
          ((bufferSkipWhitespace_eq (by decide) hquote).trans hskip.symm) hinside hr
      refine (parseObject_reads hspaces hread hloop hr).trans ?_
      refine kept_congr Nat.succ_le_succ_iff.symm ?_
      simp only [List.length_append, List.length_cons, List.length_nil]
      omega

/-- Every value is read back. -/
theorem readsBack (hstrtod : ∀ n, strtod (printInt n) = (n, (printInt n).length)) (item : Json) :
    ReadsBack strtod format content item := by
  induction item using json_induction with
  | null => exact readsBack_scalar hstrtod rfl
  | bool => exact readsBack_scalar hstrtod rfl
  | number => exact readsBack_scalar hstrtod rfl
  | string => exact readsBack_scalar hstrtod rfl
  | array items ih => exact readsBack_array ih
  | object members ih => exact readsBack_object ih

/-- **What cJSON prints it reads back**: the value itself, if it is nested no deeper than the parser
goes, and otherwise nothing. -/
theorem cJSONParseWithLength_print (strtod : Strtod)
    (hused : ∀ text, (strtod text).2 ≤ text.length)
    (hstrtod : ∀ n, strtod (printInt n) = (n, (printInt n).length)) (format : Bool) (item : Json)
    {behind : List UInt8} (hbehind : EndsNumber behind) :
    cJSONParseWithLength strtod (cJSONPrint format item ++ behind)
      = .ok (if height item ≤ nestingLimit then some item else none) := by
  obtain ⟨c, text, hcons, hc⟩ := printValue_begins format 0 item
  have hread : Reads (cJSONPrint format item ++ behind) 0 (printValue format 0 item) behind := rfl
  have hbom : skipUtf8Bom (cJSONPrint format item ++ behind) = 0 := by
    rw [skipUtf8Bom, if_neg]
    rintro ⟨-, h⟩
    rw [cJSONPrint, hcons] at h
    obtain ⟨rfl, -⟩ := List.cons.inj h
    exact absurd hc (by decide)
  have hskip : bufferSkipWhitespace (cJSONPrint format item ++ behind) 0 = 0 := by
    rw [hcons] at hread
    exact bufferSkipWhitespace_eq hc.1 hread
  obtain ⟨r, hr, -⟩ :=
    @parseValue_returns strtod (cJSONPrint format item ++ behind) hused nestingLimit 0
  rw [cJSONParseWithLength, if_neg (by rw [cJSONPrint, hcons]; exact Nat.succ_ne_zero _), hbom,
    hskip, hr, ok_bind, readsBack hstrtod item 0 nestingLimit 0 behind r hread hbehind hr, kept]
  split_ifs <;> rfl

/-- The `strtod` for whole numbers reads every printed number back. -/
theorem wholeStrtod_printInt (n : Int32) :
    wholeStrtod (printInt n) = (n, (printInt n).length) := by
  have hclamp : Int32.ofInt (max (-2 ^ 31) (min (2 ^ 31 - 1) n.toInt)) = n := by
    have hmin := n.le_toInt
    have hmax := n.toInt_lt
    rw [min_eq_right (by omega), max_eq_right (by omega), Int32.ofInt_toInt]
  have hdigits : (CLib.decimal n.toInt.natAbs).takeWhile CLib.isDigit
      = CLib.decimal n.toInt.natAbs :=
    List.takeWhile_eq_self_iff.mpr CLib.isDigit_of_mem_decimal
  have hne : ¬ (CLib.decimal n.toInt.natAbs).isEmpty = true := by
    rw [List.isEmpty_iff]
    exact CLib.decimal_ne_nil n.toInt.natAbs
  unfold wholeStrtod
  rw [printInt]
  split_ifs with hneg
  · have hsign : ((0x2D :: CLib.decimal n.toInt.natAbs).take 1).takeWhile
        (fun c => c == 0x2D || c == 0x2B) = [0x2D] := rfl
    have hvalue : -(n.toInt.natAbs : ℤ) = n.toInt := by omega
    dsimp only
    rw [hsign, List.length_singleton, List.drop_one, List.tail_cons, hdigits, if_neg hne,
      if_pos rfl, CLib.digitsValue_decimal, hvalue, hclamp, List.length_cons, Nat.add_comm]
  · obtain ⟨c, text, hcons⟩ := List.exists_cons_of_ne_nil (CLib.decimal_ne_nil n.toInt.natAbs)
    have hsign : ((CLib.decimal n.toInt.natAbs).take 1).takeWhile
        (fun c => c == 0x2D || c == 0x2B) = [] := by
      have hc := CLib.isDigit_of_mem_decimal c (hcons ▸ List.mem_cons_self)
      rw [hcons, List.take_succ_cons, List.take_zero, List.takeWhile_cons_of_neg]
      rintro h
      obtain rfl | rfl : c = 0x2D ∨ c = 0x2B := by simpa using h
      · exact absurd hc (by decide)
      · exact absurd hc (by decide)
    have hvalue : (n.toInt.natAbs : ℤ) = n.toInt := by omega
    dsimp only
    rw [hsign, List.length_nil, List.drop_zero, hdigits, if_neg hne, if_neg (by decide),
      CLib.digitsValue_decimal, hvalue, hclamp, Nat.zero_add]

/-- A formatted object with a negative number and an escaped string. -/
theorem cJSONParseWithLength_print_of_agents :
    cJSONParseWithLength wholeStrtod
        (cJSONPrint true
          (.object [(.ofString "n", .array [.number (-12), .string (.ofString "a\n")])]) ++ [0])
      = .ok (some (.object [(.ofString "n", .array [.number (-12), .string (.ofString "a\n")])])) :=
  cJSONParseWithLength_print wholeStrtod wholeStrtod_used wholeStrtod_printInt true _
    (endsNumber_cons (by decide) [])

end Values

end JsonText

end TmuxRemote
