import Mathlib.Data.List.DropRight
import Mathlib.Logic.Function.Basic
import TmuxRemote.Agent.IamStateFile
import TmuxRemote.Library.CString
import TmuxRemote.Library.Graphemes
import TmuxRemote.Library.Split
import TmuxRemote.Library.Utf8

/-!
# Wire/PairingString — invitations, and the two parsers of them

`--add-user` prints one line; the command line client cuts it at bytes and the app at characters.
The client copies each value into 64 bytes, and a username may be longer.  To the app a separator is
a character of its own only if nothing in an id combines with it.  Nothing else keeps an invitation
from being used (`invitation_usable_iff`).

A string of the app is its scalars; the agent and the client have its UTF-8 bytes.
-/

namespace TmuxRemote

open Split Grapheme

/-! ## What the agent prints -/

/-- The bytes of a string. -/
def utf8Bytes (s : List Char) : List UInt8 := s.flatMap String.utf8EncodeChar

/-- The string as the agent and the client hold it. -/
def cString (s : List Char) : CString := .ofBytes (utf8Bytes s)

/-- The values of an invitation. -/
structure Invitation where
  productId : List Char
  deviceId : List Char
  username : List Char
  password : List Char
  sct : List Char

/-- The line that `tmuxremote_do_add_user` prints, less its indentation. -/
def Invitation.line (inv : Invitation) : List Char :=
  'p' :: '=' :: (inv.productId ++ ',' :: 'd' :: '=' :: (inv.deviceId ++ ',' :: 'u' :: '=' ::
    (inv.username ++ ',' :: 'p' :: 'w' :: 'd' :: '=' :: (inv.password ++ ',' :: 's' :: 'c' :: 't' ::
      '=' :: inv.sct))))

/-! ## The command line client -/

/-- `struct tmuxremote_pairing_info` -/
structure TmuxremotePairingInfo where
  productId : CString
  deviceId : CString
  username : CString
  password : CString
  sct : CString
  deriving DecidableEq

/-- `TMUXREMOTE_MAX_NAME_LEN` -/
def tmuxremoteMaxNameLen : ℕ := 64

/-- `strncpy(field, value, sizeof(field) - 1)` into a field whose last byte is NUL. -/
def copyValue (value : List UInt8) : CString :=
  (CString.ofBytes value).truncate (tmuxremoteMaxNameLen - 1)

/-- The value is copied into the field of its key, if there is one. -/
def setValue (info : TmuxremotePairingInfo) (key value : List UInt8) : TmuxremotePairingInfo :=
  if key = "p".toUTF8.data.toList then { info with productId := copyValue value }
  else if key = "d".toUTF8.data.toList then { info with deviceId := copyValue value }
  else if key = "u".toUTF8.data.toList then { info with username := copyValue value }
  else if key = "pwd".toUTF8.data.toList then { info with password := copyValue value }
  else if key = "sct".toUTF8.data.toList then { info with sct := copyValue value }
  else info

/-- What is done with a token. -/
def readToken (info : TmuxremotePairingInfo) (token : List UInt8) : TmuxremotePairingInfo :=
  match cutAt 61 token with
  | none => info
  | some (key, value) => setValue info key value

/-- `tmuxremote_parse_pairing_string`: the value returned, and `*info`.  The loop ends at an empty
last token, with which nothing would be done. -/
def tmuxremoteParsePairingString (str : CString) : Bool × TmuxremotePairingInfo :=
  let zero : TmuxremotePairingInfo := ⟨default, default, default, default, default⟩
  if str.isEmpty then (false, zero)
  else
    let info := (pieces 44 str.bytes).foldl readToken zero
    if info.productId.isEmpty || info.deviceId.isEmpty || info.username.isEmpty
        || info.password.isEmpty || info.sct.isEmpty then
      (false, info)
    else (true, info)

/-! ## The app -/

/-- `.whitespacesAndNewlines` -/
def isWhitespaceOrNewline (c : Char) : Bool :=
  let v := c.toNat
  (9 ≤ v && v ≤ 13) || v == 0x20 || v == 0x85 || v == 0xa0 || v == 0x1680
    || (0x2000 ≤ v && v ≤ 0x200a) || v == 0x2028 || v == 0x2029 || v == 0x202f || v == 0x205f
    || v == 0x3000

/-- `trimmingCharacters(in: .whitespacesAndNewlines)` -/
def trimmingCharacters (s : List Char) : List Char :=
  (s.dropWhile isWhitespaceOrNewline).rdropWhile isWhitespaceOrNewline

/-- `split(separator: sep)`, which omits empty pieces. -/
def split (sep : List Char) (s : List (List Char)) : List (List (List Char)) :=
  (pieces sep s).filter (· ≠ [])

/-- `split(separator: sep, maxSplits: 1)`: the first piece that is not empty, and what is behind the
separator after it unless that is empty. -/
def splitOnce (sep : List Char) (s : List (List Char)) : List (List (List Char)) :=
  let s := s.dropWhile (· = sep)
  match cutAt sep s with
  | none => if s = [] then [] else [s]
  | some (first, rest) => if rest = [] then [first] else [first, rest]

/-- `[String: String]` -/
abbrev Fields := List Char → Option (List Char)

/-- What is done with a part. -/
def readPart (fields : Fields) (part : List (List Char)) : Fields :=
  match splitOnce ['='] part with
  | [key, value] => Function.update fields key.flatten (some value.flatten)
  | _ => fields

/-- `PairingInfo` -/
structure PairingInfo where
  productId : List Char
  deviceId : List Char
  username : List Char
  password : List Char
  sct : List Char
  deriving DecidableEq

/-- The values of an invitation, whose username may be left out. -/
def pairingInfoOf (fields : Fields) : Option PairingInfo := do
  let productId ← fields ['p']
  let deviceId ← fields ['d']
  let password ← fields ['p', 'w', 'd']
  let sct ← fields ['s', 'c', 't']
  let username := (fields ['u']).getD ['o', 'w', 'n', 'e', 'r']
  if username = [] then none
  else
    some
      { productId := productId
        deviceId := deviceId
        username := username
        password := password
        sct := sct }

/-- `PairingInfo.parse`.  A character is a separator if it is that scalar alone; no other string is
canonically equivalent to one of the literals here. -/
def PairingInfo.parse (props : Properties) (string : List Char) : Option PairingInfo :=
  let trimmed := trimmingCharacters string
  if trimmed = [] then none
  else pairingInfoOf ((split [','] (characters props trimmed)).foldl readPart fun _ => none)

/-! ## Bytes of the text -/

theorem utf8Bytes_append (s t : List Char) : utf8Bytes (s ++ t) = utf8Bytes s ++ utf8Bytes t :=
  Utf8.encode_append s t

theorem utf8Bytes_cons (c : Char) (s : List Char) :
    utf8Bytes (c :: s) = String.utf8EncodeChar c ++ utf8Bytes s :=
  Utf8.encode_cons c s

/-- A scalar of ASCII occurs where its byte does. -/
theorem mem_of_mem_utf8Bytes {b : UInt8} {s : List Char} (hb : b ∈ utf8Bytes s)
    (hascii : b.toNat < 128) : Char.ofNat b.toNat ∈ s := by
  obtain ⟨c, hc, hbc⟩ := List.mem_flatMap.mp hb
  rwa [← Utf8.toNat_of_mem_utf8EncodeChar hbc hascii, Char.ofNat_toNat]

theorem utf8Bytes_ne_nil {s : List Char} (h : s ≠ []) : utf8Bytes s ≠ [] := by
  obtain ⟨c, s, rfl⟩ := List.exists_cons_of_ne_nil h
  rw [utf8Bytes_cons]
  exact List.append_ne_nil_of_left_ne_nil String.utf8EncodeChar_ne_nil _

theorem comma_notMem {s : List Char} (h : ',' ∉ s) : (44 : UInt8) ∉ utf8Bytes s :=
  fun hmem => h (mem_of_mem_utf8Bytes hmem (by decide))

theorem bytes_cString {s : List Char} (h : '\x00' ∉ s) : (cString s).bytes = utf8Bytes s := by
  refine CString.ofBytes_of_nulFree fun b hb hzero => h ?_
  subst hzero
  exact mem_of_mem_utf8Bytes hb (by decide)

/-! ## Invitations -/

/-- A product or device id. -/
structure IsId (s : List Char) : Prop where
  ne_nil : s ≠ []
  comma : ',' ∉ s
  nul : '\x00' ∉ s
  length_le : (utf8Bytes s).length ≤ 63

/-- A password or token. -/
structure IsCode (s : List Char) : Prop where
  ne_nil : s ≠ []
  alphanum : ∀ c ∈ s, c.isAlphanum = true
  length_le : (utf8Bytes s).length ≤ 63

/-- What `--add-user` prints is made of such values. -/
structure Invitation.Printed (inv : Invitation) : Prop where
  productId : IsId inv.productId
  deviceId : IsId inv.deviceId
  nul : '\x00' ∉ inv.username
  username : validateUsername (cString inv.username) = true
  password : IsCode inv.password
  sct : IsCode inv.sct

/-- A value of printable ASCII without a comma. -/
def PlainValue (s : List Char) : Prop := s ≠ [] ∧ ∀ c ∈ s, Plain c ∧ c ≠ ','

theorem isAlphanum_range {c : Char} (h : c.isAlphanum = true) : 48 ≤ c.toNat ∧ c.toNat < 127 := by
  change ((decide (c.val ≥ 'A'.val ∧ c.val ≤ 'Z'.val) || (c.val ≥ 'a'.val && c.val ≤ 'z'.val))
    || (c.val ≥ '0'.val && c.val ≤ '9'.val)) = true at h
  simp only [Bool.or_eq_true, Bool.and_eq_true, decide_eq_true_eq, ge_iff_le,
    UInt32.le_iff_toNat_le] at h
  change ((65 ≤ c.toNat ∧ c.toNat ≤ 90) ∨ (97 ≤ c.toNat ∧ c.toNat ≤ 122))
    ∨ (48 ≤ c.toNat ∧ c.toNat ≤ 57) at h
  omega

theorem IsCode.plainValue {s : List Char} (h : IsCode s) : PlainValue s := by
  refine ⟨h.ne_nil, fun c hc => ⟨?_, ?_⟩⟩
  · obtain ⟨hlow, hhigh⟩ := isAlphanum_range (h.alphanum c hc)
    exact ⟨by omega, hhigh⟩
  · rintro rfl
    exact absurd (h.alphanum _ hc) (by decide)

/-- No character of a username is as low as a comma, and none is beyond ASCII. -/
theorem isUsernameChar_range {b : UInt8} (h : isUsernameChar b = true) :
    44 < b.toNat ∧ b.toNat < 127 := by
  simp only [isUsernameChar, CLib.isDigit, Bool.or_eq_true, Bool.and_eq_true, decide_eq_true_eq,
    beq_iff_eq, UInt8.le_iff_toNat_le, ← UInt8.toNat_inj, UInt8.reduceToNat] at h
  omega

theorem plainValue_of_validateUsername {s : List Char} (hnul : '\x00' ∉ s)
    (h : validateUsername (cString s) = true) : PlainValue s := by
  rw [validateUsername, Bool.and_eq_true, bytes_cString hnul, List.all_eq_true] at h
  obtain ⟨hne, hall⟩ := h
  refine ⟨fun hnil => ?_, fun c hc => ?_⟩
  · rw [hnil] at hne
    exact absurd hne (by decide)
  · obtain ⟨b, hb⟩ := List.exists_mem_of_ne_nil _ (@String.utf8EncodeChar_ne_nil c)
    obtain ⟨hlow, hhigh⟩ := isUsernameChar_range (hall b (List.mem_flatMap.mpr ⟨c, hc, hb⟩))
    have hval := Utf8.toNat_of_mem_utf8EncodeChar hb (by omega)
    refine ⟨by rw [Plain]; omega, ?_⟩
    rintro rfl
    have : (',' : Char).toNat = 44 := rfl
    omega

/-! ## What the client reads -/

/-- A token is its key, the first `=` and its value. -/
theorem readToken_append {key : List UInt8} (h : 61 ∉ key) (info : TmuxremotePairingInfo)
    (value : List UInt8) : readToken info (key ++ 61 :: value) = setValue info key value := by
  rw [readToken, cutAt_append h]

/-- The line, byte by byte. -/
theorem utf8Bytes_line (inv : Invitation) :
    utf8Bytes inv.line
      = ([112] ++ 61 :: utf8Bytes inv.productId) ++ 44 :: (([100] ++ 61 :: utf8Bytes inv.deviceId)
        ++ 44 :: (([117] ++ 61 :: utf8Bytes inv.username)
        ++ 44 :: (([112, 119, 100] ++ 61 :: utf8Bytes inv.password)
        ++ 44 :: ([115, 99, 116] ++ 61 :: utf8Bytes inv.sct)))) := by
  simp only [Invitation.line, utf8Bytes_cons, utf8Bytes_append]
  rfl

section
variable {inv : Invitation}

/-- A value without a comma makes a token without one. -/
theorem comma_notMem_token {key : List UInt8} (hkey : 44 ∉ key) {value : List Char}
    (hvalue : ',' ∉ value) : 44 ∉ key ++ 61 :: utf8Bytes value := by
  rw [List.mem_append, List.mem_cons]
  rintro (h | h | h)
  · exact hkey h
  · exact absurd h (by decide)
  · exact comma_notMem hvalue h

theorem PlainValue.comma {s : List Char} (h : PlainValue s) :
    ',' ∉ s := fun hmem => (h.2 _ hmem).2 rfl

theorem PlainValue.nul {s : List Char} (h : PlainValue s) : '\x00' ∉ s :=
  fun hmem => absurd (h.2 _ hmem).1 (by simp [Plain])

theorem isEmpty_cString {s : List Char} (hne : s ≠ []) (hnul : '\x00' ∉ s) :
    (cString s).isEmpty = false := by
  rw [CString.isEmpty, bytes_cString hnul]
  exact List.isEmpty_eq_false_iff.mpr (utf8Bytes_ne_nil hne)

theorem copyValue_eq {s : List Char} (hnul : '\x00' ∉ s) (hlength : (utf8Bytes s).length ≤ 63) :
    copyValue (utf8Bytes s) = cString s :=
  CString.truncate_eq_self (by rwa [← bytes_cString hnul] at hlength)

/-- What the client holds of an invitation. -/
theorem parsePairingString_line (h : inv.Printed) :
    tmuxremoteParsePairingString (cString inv.line)
      = (true,
        { productId := cString inv.productId
          deviceId := cString inv.deviceId
          username := (cString inv.username).truncate (tmuxremoteMaxNameLen - 1)
          password := cString inv.password
          sct := cString inv.sct }) := by
  have husername := plainValue_of_validateUsername h.nul h.username
  have hpassword := h.password.plainValue
  have hsct := h.sct.plainValue
  have hbytes : (cString inv.line).bytes = utf8Bytes inv.line := by
    refine bytes_cString ?_
    simp [Invitation.line, h.productId.nul, h.deviceId.nul, h.nul, hpassword.nul, hsct.nul]
  have htokens : pieces 44 (utf8Bytes inv.line)
      = [[112] ++ 61 :: utf8Bytes inv.productId, [100] ++ 61 :: utf8Bytes inv.deviceId,
        [117] ++ 61 :: utf8Bytes inv.username, [112, 119, 100] ++ 61 :: utf8Bytes inv.password,
        [115, 99, 116] ++ 61 :: utf8Bytes inv.sct] := by
    rw [utf8Bytes_line, pieces_append (comma_notMem_token (by decide) h.productId.comma),
      pieces_append (comma_notMem_token (by decide) h.deviceId.comma),
      pieces_append (comma_notMem_token (by decide) husername.comma),
      pieces_append (comma_notMem_token (by decide) hpassword.comma),
      pieces_of_notMem (comma_notMem_token (by decide) hsct.comma)]
  have hline : (cString inv.line).isEmpty = false := by
    rw [CString.isEmpty, hbytes, utf8Bytes_line]
    rfl
  have hinfo : ∀ zero, (pieces 44 (cString inv.line).bytes).foldl readToken zero
      = { productId := cString inv.productId
          deviceId := cString inv.deviceId
          username := (cString inv.username).truncate (tmuxremoteMaxNameLen - 1)
          password := cString inv.password
          sct := cString inv.sct } := by
    intro zero
    rw [hbytes, htokens, ← copyValue_eq h.productId.nul h.productId.length_le,
      ← copyValue_eq h.deviceId.nul h.deviceId.length_le,
      ← copyValue_eq hpassword.nul h.password.length_le,
      ← copyValue_eq hsct.nul h.sct.length_le]
    simp only [List.foldl_cons, List.foldl_nil, readToken_append (by decide : (61 : UInt8) ∉ [112]),
      readToken_append (by decide : (61 : UInt8) ∉ [100]),
      readToken_append (by decide : (61 : UInt8) ∉ [117]),
      readToken_append (by decide : (61 : UInt8) ∉ [112, 119, 100]),
      readToken_append (by decide : (61 : UInt8) ∉ [115, 99, 116])]
    rfl
  rw [tmuxremoteParsePairingString, hline]
  simp only [Bool.false_eq_true, if_false, hinfo, tmuxremoteMaxNameLen,
    CString.isEmpty_truncate_succ, isEmpty_cString h.productId.ne_nil h.productId.nul,
    isEmpty_cString h.deviceId.ne_nil h.deviceId.nul, isEmpty_cString husername.1 h.nul,
    isEmpty_cString hpassword.1 hpassword.nul, isEmpty_cString hsct.1 hsct.nul, Bool.or_self]

end

/-! ## What the app reads -/

section
variable {props : Properties} {k d : Char} {value key t : List Char}

/-- How the characters of a part begin when it is a value with a key of one letter. -/
structure PartOf (props : Properties) (k : Char) (value behind : List Char)
    (part : List (List Char)) : Prop where
  text : part.flatten = k :: '=' :: (value ++ behind)
  apart : ¬ Combining props value → ∃ rest, part = [k] :: ['='] :: rest
  joined : Combining props value → ∃ d more rest, part = [k] :: ('=' :: d :: more) :: rest

theorem combining_append (hvalue : value ≠ []) :
    Combining props (value ++ t) ↔ Combining props value := by
  rw [Combining, Combining, List.head?_append_of_ne_nil _ hvalue]

theorem prepending_append (hvalue : value ≠ []) :
    Prepending props (key ++ value) ↔ Prepending props value := by
  rw [Prepending, Prepending, List.getLast?_append_of_ne_nil _ hvalue]

/-- A part that holds more than its first character holds the second one. -/
theorem exists_part_eq {second : List Char} {rest part more : List (List Char)} {c : Char}
    (hall : [k] :: second :: rest = part ++ more) (htext : part.flatten = k :: c :: t) :
    ∃ rest', part = [k] :: second :: rest' := by
  match part, hall with
  | [], _ => exact nomatch htext
  | [first], hall =>
    obtain rfl := (List.cons.inj hall).1
    exact nomatch htext
  | first :: second' :: rest', hall =>
    obtain ⟨hfirst, hall⟩ := List.cons.inj hall
    obtain ⟨hsecond, -⟩ := List.cons.inj hall
    exact ⟨rest', by rw [hfirst, hsecond]⟩

/-- A list of characters that holds the beginning of a line is as the line. -/
theorem partOf_of_prefix {behind : List Char} {part more : List (List Char)} (hk : Plain k)
    (hvalue : value ≠ []) (htext : part.flatten = k :: '=' :: (value ++ behind))
    (hall : characters props (k :: '=' :: (value ++ t)) = part ++ more) :
    PartOf props k value behind part := by
  have heq : Plain '=' := by simp [Plain]
  rw [characters_cons_plain hk heq] at hall
  refine ⟨htext, fun hapart => ?_, fun hjoined => ?_⟩
  · rw [← combining_append (t := t) hvalue] at hapart
    rw [characters_cons heq hapart (List.append_ne_nil_of_left_ne_nil hvalue t)] at hall
    exact exists_part_eq hall htext
  · rw [← combining_append (t := t) hvalue] at hjoined
    obtain ⟨d, more', rest, hcharacters⟩ := characters_cons_combining heq hjoined
    rw [hcharacters] at hall
    exact ⟨d, more', exists_part_eq hall htext⟩

/-- The first part of a line, and those that follow. -/
theorem exists_first_part (hk : Plain k) (hcomma : k ≠ ',') (hvalue : value ≠ [])
    (hfree : ',' ∉ value) (hd : Plain d) (t : List Char) :
    ∃ part parts behind,
      pieces [','] (characters props (k :: '=' :: (value ++ ',' :: d :: t))) = part :: parts
        ∧ PartOf props k value behind part
        ∧ (behind = [] ↔ ¬ Prepending props value)
        ∧ (¬ Prepending props value → parts = pieces [','] (characters props (d :: t)))
        ∧ (Prepending props value → parts = (pieces [','] (characters props (d :: t))).tail) := by
  have hne : k :: '=' :: value ≠ [] := List.cons_ne_nil _ _
  have hlast : Prepending props (k :: '=' :: value) ↔ Prepending props value :=
    @prepending_append props value [k, '='] hvalue
  have hnone : ',' ∉ k :: '=' :: value := by
    simp [hfree, Ne.symm hcomma]
  have hpart' : ∀ part : List (List Char), part.flatten = k :: '=' :: value → [','] ∉ part :=
    fun part htext hmem => hnone
      (htext ▸ List.mem_flatten.mpr ⟨[','], hmem, List.mem_singleton_self _⟩)
  obtain ⟨hsplit, hglued⟩ := @characters_append props ',' d (k :: '=' :: value) hne
    (by simp [Plain]) hd t
  rw [hlast] at hsplit hglued
  by_cases hprepend : Prepending props value
  · obtain ⟨before, last, hlast', htext, hall⟩ := hglued hprepend
    have hbefore : [','] ∉ before ++ [last ++ [',']] := by
      rw [List.mem_append, List.mem_singleton]
      rintro (hmem | heq)
      · refine hnone ?_
        rw [htext, List.mem_append]
        exact Or.inl (List.mem_flatten.mpr ⟨[','], hmem, List.mem_singleton_self _⟩)
      · exact hlast' (List.append_left_eq_self.mp heq.symm)
    obtain ⟨piece, rest, more, hpieces, happend, hmore⟩ :=
      exists_pieces_append hbefore (characters props (d :: t))
    have hall' : characters props (k :: '=' :: (value ++ ',' :: d :: t))
        = (before ++ [last ++ [',']]) ++ characters props (d :: t) := by
      rw [List.append_assoc, List.singleton_append]
      exact hall
    refine ⟨before ++ [last ++ [',']] ++ piece, rest, ',' :: piece.flatten, ?_, ?_,
      ⟨nofun, fun h => absurd hprepend h⟩, fun h => absurd hprepend h,
      fun _ => by rw [hpieces, List.tail_cons]⟩
    · rw [hall', happend]
    · have hprefix : characters props (k :: '=' :: (value ++ ',' :: d :: t))
          = (before ++ [last ++ [',']] ++ piece) ++ more := by
        rw [hall', hmore, ← List.append_assoc]
      refine partOf_of_prefix hk hvalue ?_ hprefix
      have hflatten : (before ++ [last ++ [',']] ++ piece).flatten
          = (before.flatten ++ last) ++ ',' :: piece.flatten := by simp
      rw [hflatten, ← htext]
      rfl
  · have hall := hsplit hprepend
    have hpart := flatten_characters props (k :: '=' :: value)
    refine ⟨characters props (k :: '=' :: value), pieces [','] (characters props (d :: t)), [], ?_,
      ?_, ⟨fun _ => hprepend, fun _ => rfl⟩, fun _ => rfl, fun h => absurd h hprepend⟩
    · exact (congrArg _ hall).trans (pieces_append (hpart' _ hpart))
    · exact partOf_of_prefix hk hvalue (by rw [hpart, List.append_nil]) hall

/-- What a part without a lone `=` behind its letter does to the fields is done to none that is
asked for. -/
theorem readPart_joined {behind : List Char} {part : List (List Char)} (hk : k ≠ '=')
    (h : PartOf props k value behind part) (hjoined : Combining props value) (fields : Fields) :
    readPart fields part = fields
      ∨ ∃ more v, readPart fields part = Function.update fields (k :: '=' :: more) (some v) := by
  obtain ⟨d, more, rest, rfl⟩ := h.joined hjoined
  have hdrop : ([k] :: ('=' :: d :: more) :: rest).dropWhile (· = ['='])
      = [k] :: ('=' :: d :: more) :: rest :=
    List.dropWhile_cons_of_neg (by simpa using hk)
  rw [readPart, splitOnce, hdrop]
  by_cases hmem : ['='] ∈ rest
  · obtain ⟨xs, ys, rfl, hxs⟩ := List.eq_append_cons_of_mem hmem
    have hnone : ['='] ∉ [k] :: ('=' :: d :: more) :: xs := by
      simp [hxs, Ne.symm hk]
    have hcut : cutAt ['='] ([k] :: ('=' :: d :: more) :: (xs ++ ['='] :: ys))
        = some ([k] :: ('=' :: d :: more) :: xs, ys) := cutAt_append hnone
    rw [hcut]
    by_cases hys : ys = []
    · exact Or.inl (by simp only [if_pos hys])
    · exact Or.inr ⟨_, _, by simp only [if_neg hys]; rfl⟩
  · have hnone : ['='] ∉ [k] :: ('=' :: d :: more) :: rest := by
      simp [hmem, Ne.symm hk]
    rw [cutAt_of_notMem hnone]
    exact Or.inl rfl

/-- A part with a lone `=` behind its letter sets the field of that letter. -/
theorem readPart_apart {behind : List Char} {part : List (List Char)} (hk : k ≠ '=')
    (hvalue : value ≠ []) (h : PartOf props k value behind part) (hapart : ¬ Combining props value)
    (fields : Fields) :
    readPart fields part = Function.update fields [k] (some (value ++ behind)) := by
  obtain ⟨rest, rfl⟩ := h.apart hapart
  have htext : rest.flatten = value ++ behind := by simpa using h.text
  have hrest : rest ≠ [] := by
    rintro rfl
    exact List.append_ne_nil_of_left_ne_nil hvalue behind htext.symm
  have hcut : cutAt ['='] ([k] :: ['='] :: rest) = some ([[k]], rest) := by
    have hmem : ['='] ∉ [[k]] := by simpa using Ne.symm hk
    exact cutAt_append hmem
  have hdrop : ([k] :: ['='] :: rest).dropWhile (· = ['=']) = [k] :: ['='] :: rest :=
    List.dropWhile_cons_of_neg (by simpa using hk)
  rw [readPart, splitOnce, hdrop, hcut]
  simp only [if_neg hrest, htext, List.flatten_singleton]

/-- A part of printable ASCII sets the field of its key. -/
theorem readPart_plain (hkey : key ≠ []) (hfree : '=' ∉ key) (hvalue : value ≠ [])
    (fields : Fields) :
    readPart fields ((key ++ '=' :: value).map fun c => [c])
      = Function.update fields key (some value) := by
  obtain ⟨k, key, rfl⟩ := List.exists_cons_of_ne_nil hkey
  have hflatten : ∀ s : List Char, (s.map fun c => [c]).flatten = s := fun s => by
    rw [← List.flatMap_def, List.flatMap_singleton']
  have hsingle : ∀ s : List Char, '=' ∉ s → ['='] ∉ s.map fun c => [c] := fun s hs hmem => by
    obtain ⟨c, hc, heq⟩ := List.mem_map.mp hmem
    exact hs (List.singleton_inj.mp heq ▸ hc)
  have hk : k ≠ '=' := fun h => hfree (h ▸ List.mem_cons_self)
  have hdrop : ((k :: key ++ '=' :: value).map fun c => [c]).dropWhile (· = ['='])
      = (k :: key ++ '=' :: value).map fun c => [c] :=
    List.dropWhile_cons_of_neg (by simpa using hk)
  have hcut : cutAt ['='] ((k :: key ++ '=' :: value).map fun c => [c])
      = some ((k :: key).map fun c => [c], value.map fun c => [c]) := by
    rw [List.map_append]
    exact cutAt_append (hsingle _ hfree)
  rw [readPart, splitOnce, hdrop, hcut]
  simp only [List.map_eq_nil_iff, if_neg hvalue, hflatten]

/-! ### The fields of a line -/

/-- A key that no part sets. -/
def Unset (key : List Char) (parts : List (List (List Char))) : Prop :=
  ∀ part ∈ parts, ∀ fields, readPart fields part key = fields key

theorem Unset.foldl {parts : List (List (List Char))} (h : Unset key parts) (fields : Fields) :
    parts.foldl readPart fields key = fields key := by
  induction parts generalizing fields with
  | nil => rfl
  | cons part parts ih =>
    obtain ⟨hpart, hparts⟩ := List.forall_mem_cons.mp h
    rw [List.foldl_cons, ih hparts, hpart]

theorem Unset.tail {parts : List (List (List Char))} (h : Unset key parts) : Unset key parts.tail :=
  fun part hpart => h part (List.mem_of_mem_tail hpart)

/-- An empty part sets nothing. -/
theorem foldl_split (sep : List Char) (s : List (List Char)) (fields : Fields) :
    (split sep s).foldl readPart fields = (pieces sep s).foldl readPart fields := by
  rw [split]
  generalize pieces sep s = parts
  induction parts generalizing fields with
  | nil => rfl
  | cons part parts ih =>
    by_cases hpart : part = []
    · subst hpart
      rw [List.filter_cons_of_neg (by simp), List.foldl_cons]
      exact ih fields
    · rw [List.filter_cons_of_pos (by simpa using hpart), List.foldl_cons, List.foldl_cons]
      exact ih _

/-- The part of a value with a key. -/
def plainPart (key value : List Char) : List (List Char) := (key ++ '=' :: value).map fun c => [c]

theorem comma_notMem_plainPart (hkey : ',' ∉ key) (hvalue : ',' ∉ value) :
    [','] ∉ plainPart key value := by
  intro hmem
  obtain ⟨c, hc, heq⟩ := List.mem_map.mp hmem
  rw [List.singleton_inj.mp heq, List.mem_append, List.mem_cons] at hc
  obtain h | h | h := hc
  · exact hkey h
  · exact absurd h (by decide)
  · exact hvalue h

/-- The last three values are printable ASCII. -/
theorem pieces_tail {username password sct : List Char} (husername : PlainValue username)
    (hpassword : PlainValue password) (hsct : PlainValue sct) :
    pieces [','] (characters props ('u' :: '=' :: (username ++ ',' :: 'p' :: 'w' :: 'd' :: '='
        :: (password ++ ',' :: 's' :: 'c' :: 't' :: '=' :: sct))))
      = [plainPart ['u'] username, plainPart ['p', 'w', 'd'] password,
        plainPart ['s', 'c', 't'] sct] := by
  have hplain : ∀ c ∈ 'u' :: '=' :: (username ++ ',' :: 'p' :: 'w' :: 'd' :: '='
      :: (password ++ ',' :: 's' :: 'c' :: 't' :: '=' :: sct)), Plain c := by
    have hcomma : Plain ',' := by decide
    have heq : Plain '=' := by decide
    have hkeys : Plain 'u' ∧ Plain 'p' ∧ Plain 'w' ∧ Plain 'd' ∧ Plain 's' ∧ Plain 'c'
        ∧ Plain 't' := by
      decide
    have hvalues := fun c hc => (husername.2 c hc).1
    have hvalues' := fun c hc => (hpassword.2 c hc).1
    have hvalues'' := fun c hc => (hsct.2 c hc).1
    simp only [List.forall_mem_cons, List.forall_mem_append]
    tauto
  have hsplit : ('u' :: '=' :: (username ++ ',' :: 'p' :: 'w' :: 'd' :: '='
      :: (password ++ ',' :: 's' :: 'c' :: 't' :: '=' :: sct))).map (fun c => [c])
      = plainPart ['u'] username ++ [','] :: (plainPart ['p', 'w', 'd'] password
        ++ [','] :: plainPart ['s', 'c', 't'] sct) := by
    simp [plainPart]
  rw [characters_of_plain hplain, hsplit,
    pieces_append (comma_notMem_plainPart (by decide) husername.comma),
    pieces_append (comma_notMem_plainPart (by decide) hpassword.comma),
    pieces_of_notMem (comma_notMem_plainPart (by decide) hsct.comma)]

/-- Nothing of an id becomes part of a separator. -/
def StandsAlone (props : Properties) (id : List Char) : Prop :=
  ¬ Combining props id ∧ ¬ Prepending props id

/-- A part sets no field of another letter. -/
theorem PartOf.readPart_of_head {behind : List Char} {part : List (List Char)}
    (h : PartOf props k value behind part) (hk : k ≠ '=') (hvalue : value ≠ [])
    (hkey : key.head? ≠ some k) (fields : Fields) : readPart fields part key = fields key := by
  have hother : ∀ more, key ≠ k :: more := fun more he => hkey (he ▸ rfl)
  by_cases hjoined : Combining props value
  · obtain hsame | ⟨more, v, hset⟩ := readPart_joined hk h hjoined fields
    · rw [hsame]
    · rw [hset, Function.update_of_ne (hother _)]
  · rw [readPart_apart hk hvalue h hjoined, Function.update_of_ne (hother [])]

/-- The field of the letter has the value exactly when the id stands alone. -/
theorem PartOf.readPart_eq_some_iff {behind : List Char} {part : List (List Char)}
    (h : PartOf props k value behind part) (hk : k ≠ '=') (hvalue : value ≠ [])
    (hbehind : behind = [] ↔ ¬ Prepending props value) {fields : Fields}
    (hnone : fields [k] = none) :
    readPart fields part [k] = some value ↔ StandsAlone props value := by
  by_cases hjoined : Combining props value
  · have hunset : readPart fields part [k] = none := by
      obtain hsame | ⟨more, v, hset⟩ := readPart_joined hk h hjoined fields
      · rw [hsame, hnone]
      · rw [hset, Function.update_of_ne (by simp), hnone]
    rw [hunset]
    exact ⟨nofun, fun halone => absurd hjoined halone.1⟩
  · rw [readPart_apart hk hvalue h hjoined, Function.update_self, Option.some_inj,
      List.append_right_eq_self, hbehind]
    exact ⟨fun hlast => ⟨hjoined, hlast⟩, fun halone => halone.2⟩

theorem unset_plainPart {key' value : List Char} (hne : key ≠ key') (hkey : key' ≠ [])
    (hfree : '=' ∉ key') (hvalue : value ≠ []) (fields : Fields) :
    readPart fields (plainPart key' value) key = fields key := by
  rw [plainPart, readPart_plain hkey hfree hvalue, Function.update_of_ne hne]

end

section
variable {props : Properties} {inv : Invitation}

/-- The fields that the app reads from an invitation. -/
def Invitation.fields (props : Properties) (inv : Invitation) : Fields :=
  (split [','] (characters props inv.line)).foldl readPart fun _ => none

/-- The line from the key of the username on, less its letter. -/
def Invitation.tail (inv : Invitation) : List Char :=
  '=' :: (inv.username ++ ',' :: 'p' :: 'w' :: 'd' :: '=' :: (inv.password ++ ',' :: 's' :: 'c' ::
    't' :: '=' :: inv.sct))

/-- **The fields of an invitation.** -/
theorem Invitation.Printed.fields_eq (h : inv.Printed) :
    (inv.fields props ['p'] = some inv.productId ↔ StandsAlone props inv.productId)
      ∧ (StandsAlone props inv.productId →
        (inv.fields props ['d'] = some inv.deviceId ↔ StandsAlone props inv.deviceId))
      ∧ (StandsAlone props inv.productId → StandsAlone props inv.deviceId →
        inv.fields props ['u'] = some inv.username
          ∧ inv.fields props ['p', 'w', 'd'] = some inv.password
          ∧ inv.fields props ['s', 'c', 't'] = some inv.sct) := by
  have husername := plainValue_of_validateUsername h.nul h.username
  have hpassword := h.password.plainValue
  have hsct := h.sct.plainValue
  obtain ⟨part, parts, behind, hpieces, hpart, hbehind, hapart, hglued⟩ :=
    @exists_first_part props 'p' 'd' inv.productId (by decide) (by decide) h.productId.ne_nil
      h.productId.comma (by decide) ('=' :: (inv.deviceId ++ ',' :: 'u' :: inv.tail))
  obtain ⟨part', parts', behind', hpieces', hpart', hbehind', hapart', hglued'⟩ :=
    @exists_first_part props 'd' 'u' inv.deviceId (by decide) (by decide) h.deviceId.ne_nil
      h.deviceId.comma (by decide) inv.tail
  have htail : pieces [','] (characters props ('u' :: inv.tail))
      = [plainPart ['u'] inv.username, plainPart ['p', 'w', 'd'] inv.password,
        plainPart ['s', 'c', 't'] inv.sct] := pieces_tail husername hpassword hsct
  have hfields : inv.fields props = (part :: parts).foldl readPart fun _ => none :=
    (foldl_split _ _ _).trans (congrArg (List.foldl readPart fun _ => none) hpieces)
  -- no part but its own sets the field of an id
  have hunset' : ∀ key, key ≠ ['u'] → key ≠ ['p', 'w', 'd'] → key ≠ ['s', 'c', 't'] →
      Unset key parts' := by
    intro key hu hp hs
    have hall : Unset key (pieces [','] (characters props ('u' :: inv.tail))) := by
      rw [htail]
      simp only [Unset, List.forall_mem_cons]
      exact ⟨unset_plainPart hu (by decide) (by decide) husername.1,
        unset_plainPart hp (by decide) (by decide) hpassword.1,
        unset_plainPart hs (by decide) (by decide) hsct.1, nofun⟩
    by_cases hprepend : Prepending props inv.deviceId
    · exact hglued' hprepend ▸ hall.tail
    · exact hapart' hprepend ▸ hall
  have hunset : Unset ['p'] parts := by
    have hall : Unset ['p'] (part' :: parts') :=
      List.forall_mem_cons.mpr ⟨hpart'.readPart_of_head (by decide) h.deviceId.ne_nil (by decide),
        hunset' _ (by decide) (by decide) (by decide)⟩
    by_cases hprepend : Prepending props inv.productId
    · exact hglued hprepend ▸ hpieces' ▸ hall.tail
    · exact hapart hprepend ▸ hpieces' ▸ hall
  refine ⟨?_, fun hproduct => ?_, fun hproduct hdevice => ?_⟩
  · rw [hfields, List.foldl_cons, hunset.foldl]
    exact hpart.readPart_eq_some_iff (by decide) h.productId.ne_nil hbehind rfl
  · rw [hfields, List.foldl_cons, (hapart hproduct.2).trans hpieces', List.foldl_cons,
      (hunset' _ (by decide) (by decide) (by decide)).foldl]
    refine hpart'.readPart_eq_some_iff (by decide) h.deviceId.ne_nil hbehind' ?_
    exact hpart.readPart_of_head (by decide) h.productId.ne_nil (by decide) _
  · rw [hfields, List.foldl_cons, (hapart hproduct.2).trans hpieces', List.foldl_cons,
      (hapart' hdevice.2).trans htail]
    simp only [List.foldl_cons, List.foldl_nil, plainPart,
      readPart_plain (by decide : ['u'] ≠ []) (by decide) husername.1,
      readPart_plain (by decide : ['p', 'w', 'd'] ≠ []) (by decide) hpassword.1,
      readPart_plain (by decide : ['s', 'c', 't'] ≠ []) (by decide) hsct.1]
    exact ⟨rfl, rfl, rfl⟩

/-- White space at the ends of a line would be cut off, but there is none. -/
theorem Invitation.Printed.trimmingCharacters_line (h : inv.Printed) :
    trimmingCharacters inv.line = inv.line := by
  have hfirst : inv.line.dropWhile isWhitespaceOrNewline = inv.line :=
    List.dropWhile_cons_of_neg (by decide)
  have hsuffix : inv.sct <:+ inv.line :=
    ⟨'p' :: '=' :: (inv.productId ++ ',' :: 'd' :: '=' :: (inv.deviceId ++ ',' :: 'u' :: '=' ::
      (inv.username ++ ',' :: 'p' :: 'w' :: 'd' :: '=' ::
        (inv.password ++ [',', 's', 'c', 't', '='])))),
      by simp [Invitation.line]⟩
  rw [trimmingCharacters, hfirst, List.rdropWhile_eq_self_iff]
  intro hne
  rw [← hsuffix.getLast h.sct.ne_nil]
  obtain ⟨hlow, hhigh⟩ := isAlphanum_range (h.sct.alphanum _ (List.getLast_mem h.sct.ne_nil))
  simp only [isWhitespaceOrNewline, Bool.or_eq_true, Bool.and_eq_true, decide_eq_true_eq,
    beq_iff_eq]
  omega

/-- What the app makes of an invitation. -/
theorem Invitation.Printed.parse_line_iff (h : inv.Printed) :
    PairingInfo.parse props inv.line
        = some
          { productId := inv.productId
            deviceId := inv.deviceId
            username := inv.username
            password := inv.password
            sct := inv.sct }
      ↔ StandsAlone props inv.productId ∧ StandsAlone props inv.deviceId := by
  obtain ⟨hproduct, hdevice, hrest⟩ := @Invitation.Printed.fields_eq props inv h
  have husername := (plainValue_of_validateUsername h.nul h.username).1
  have hline : inv.line ≠ [] := List.cons_ne_nil _ _
  have hparse : PairingInfo.parse props inv.line = pairingInfoOf (inv.fields props) := by
    rw [PairingInfo.parse, h.trimmingCharacters_line]
    exact if_neg hline
  rw [hparse]
  constructor
  · intro hsome
    simp only [pairingInfoOf, Option.bind_eq_bind, Option.bind_eq_some_iff] at hsome
    obtain ⟨p, hp, d, hd, w, hw, s, hs, hsome⟩ := hsome
    split_ifs at hsome
    obtain ⟨rfl, rfl, -⟩ := PairingInfo.mk.inj (Option.some.inj hsome)
    have halone := hproduct.mp hp
    exact ⟨halone, (hdevice halone).mp hd⟩
  · rintro ⟨halone, halone'⟩
    obtain ⟨hu, hp, hs⟩ := hrest halone halone'
    simp only [pairingInfoOf, hproduct.mpr halone, (hdevice halone).mpr halone', hu, hp, hs,
      Option.bind_eq_bind, Option.bind_some, Option.getD_some, if_neg husername]

/-- Both parsers return the values of the invitation. -/
def Usable (props : Properties) (inv : Invitation) : Prop :=
  tmuxremoteParsePairingString (cString inv.line)
      = (true,
        { productId := cString inv.productId
          deviceId := cString inv.deviceId
          username := cString inv.username
          password := cString inv.password
          sct := cString inv.sct })
    ∧ PairingInfo.parse props inv.line
      = some
        { productId := inv.productId
          deviceId := inv.deviceId
          username := inv.username
          password := inv.password
          sct := inv.sct }

/-- A username is kept whole when it fits its field. -/
theorem truncate_username_eq_iff {s : List Char} (hnul : '\x00' ∉ s) :
    (cString s).truncate (tmuxremoteMaxNameLen - 1) = cString s ↔ (utf8Bytes s).length ≤ 63 := by
  rw [← bytes_cString hnul]
  refine ⟨fun h => ?_, fun h => CString.truncate_eq_self h⟩
  have hlength := List.length_take_le 63 (cString s).bytes
  rwa [show (cString s).bytes.take 63 = (cString s).bytes from congrArg CString.bytes h] at hlength

/-- **An invitation can be used** by both clients exactly when its username has at most 63 bytes and
no scalar of an id becomes part of the separator next to it. -/
theorem invitation_usable_iff (props : Properties) (inv : Invitation) (h : inv.Printed) :
    Usable props inv
      ↔ (utf8Bytes inv.username).length ≤ 63 ∧ StandsAlone props inv.productId
        ∧ StandsAlone props inv.deviceId := by
  rw [Usable, parsePairingString_line h, h.parse_line_iff, ← truncate_username_eq_iff h.nul]
  refine and_congr_left fun _ => ⟨fun he => ?_, fun he => by rw [he]⟩
  exact (TmuxremotePairingInfo.mk.inj (Prod.mk.inj he).2).2.2.1

end

/-- An invitation for a username, from an agent with short ids. -/
def invitationFor (username : List Char) : Invitation where
  productId := ['p', 'r', '-', 'x']
  deviceId := ['d', 'e', '-', 'y']
  username := username
  password := ['s', '3']
  sct := ['t', 'k']

theorem printed_invitationFor {username : List Char} (hnul : '\x00' ∉ username)
    (h : validateUsername (cString username) = true) : (invitationFor username).Printed where
  productId := show IsId ['p', 'r', '-', 'x'] from ⟨by decide, by decide, by decide, by decide⟩
  deviceId := show IsId ['d', 'e', '-', 'y'] from ⟨by decide, by decide, by decide, by decide⟩
  nul := hnul
  username := h
  password := show IsCode ['s', '3'] from ⟨by decide, by simp, by decide⟩
  sct := show IsCode ['t', 'k'] from ⟨by decide, by simp, by decide⟩

theorem invitation_usable_iff_tablet :
    Usable latinProperties (invitationFor ['t', 'a', 'b', 'l', 'e', 't']) := by
  have halone : ∀ c d e f : Char, Plain c → Plain f → StandsAlone latinProperties [c, d, e, f] := by
    intro c d e f hc hf
    simp [StandsAlone, Combining, Prepending, latinProperties.clusterBreak_plain hc,
      latinProperties.clusterBreak_plain hf, ClusterBreak.combines]
  exact (invitation_usable_iff latinProperties _
    (printed_invitationFor (by decide) (by decide))).mpr
    ⟨by decide, halone _ _ _ _ (by decide) (by decide), halone _ _ _ _ (by decide) (by decide)⟩

/-- **A username of 64 letters** is printed, and the client keeps 63 of them. -/
theorem long_username_cut :
    (invitationFor (List.replicate 64 'a')).Printed
      ∧ ¬ Usable latinProperties (invitationFor (List.replicate 64 'a')) := by
  have hnul : '\x00' ∉ List.replicate 64 'a' := by decide
  have hprinted := printed_invitationFor hnul (by decide)
  refine ⟨hprinted, fun husable => ?_⟩
  have hclient := (parsePairingString_line hprinted).symm.trans husable.1
  have husername := (TmuxremotePairingInfo.mk.inj (Prod.mk.inj hclient).2).2.2.1
  exact absurd ((truncate_username_eq_iff hnul).mp husername) (by decide)

end TmuxRemote
