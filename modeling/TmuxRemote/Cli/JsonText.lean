import Mathlib.Tactic.NormNum
import Mathlib.Tactic.Positivity
import TmuxRemote.Library.Cursor
import TmuxRemote.Library.Memory
import TmuxRemote.Prompt.Identity
import TmuxRemote.Prompt.PatternConfig

/-!
# Cli/JsonText — JSON text as cJSON writes and reads it (`3rdparty/cjson/cJSON.c`)

The client keeps its agents in `devices.json` and hands the SDK its connection options as JSON; both
texts are printed, and the first is parsed again, by the cJSON it carries along.

The parser works on a buffer with an offset.  Reads that the source guards with
`can_access_at_index` cannot leave the buffer; the others are checked here, as are the writes to the
output of a string, which is allocated from a count of the escapes in it.

`strtod` is the C library's.  Where the text is not accepted the offset is not kept: no caller looks
at `cJSON_GetErrorPtr`.
-/

namespace TmuxRemote

namespace JsonText

open CMemory Cursor

/-! ## Printing -/

/-- The character behind the backslash, of those that have an escape of their own. -/
def shortEscape (c : UInt8) : Option UInt8 :=
  if c = 0x22 ∨ c = 0x5C then some c
  else if c = 0x08 then some 0x62
  else if c = 0x0C then some 0x66
  else if c = 0x0A then some 0x6E
  else if c = 0x0D then some 0x72
  else if c = 0x09 then some 0x74
  else none

/-- A character as `print_string_ptr` writes it; the last form is `"u%04x"`. -/
def printChar (c : UInt8) : List UInt8 :=
  if 31 < c ∧ c ≠ 0x22 ∧ c ≠ 0x5C then [c]
  else
    match shortEscape c with
    | some letter => [0x5C, letter]
    | none => [0x5C, 0x75, 0x30, 0x30, hexDigit (c.toNat / 16), hexDigit (c.toNat % 16)]

/-- What `print_string_ptr` writes between the quotes. -/
def printChars (s : List UInt8) : List UInt8 := s.flatMap printChar

/-- `print_string_ptr` -/
def printStringPtr (s : CString) : List UInt8 := 0x22 :: (printChars s.bytes ++ [0x22])

/-- `sprintf("%d", item->valueint)` -/
def printInt (n : Int32) : List UInt8 :=
  if n.toInt < 0 then 0x2D :: CLib.decimal n.toInt.natAbs else CLib.decimal n.toInt.natAbs

/-- `depth` tabs, where the print is a formatted one. -/
def indent (format : Bool) (depth : ℕ) : List UInt8 :=
  if format then List.replicate depth 0x09 else []

/-- What stands between the elements of an array. -/
def arraySeparator (format : Bool) : List UInt8 := if format then [0x2C, 0x20] else [0x2C]

/-- What stands behind a name. -/
def nameSeparator (format : Bool) : List UInt8 := if format then [0x3A, 0x09] else [0x3A]

/-- The line feeds of a formatted object. -/
def lineFeed (format : Bool) : List UInt8 := if format then [0x0A] else []

mutual

/-- `print_value`; of numbers those that are equal to their `valueint`. -/
def printValue (format : Bool) (depth : ℕ) : Json → List UInt8
  | .null => [0x6E, 0x75, 0x6C, 0x6C]
  | .bool false => [0x66, 0x61, 0x6C, 0x73, 0x65]
  | .bool true => [0x74, 0x72, 0x75, 0x65]
  | .number valueint => printInt valueint
  | .string valuestring => printStringPtr valuestring
  | .array items => 0x5B :: (printItems format (depth + 1) items ++ [0x5D])
  | .object members =>
    0x7B :: (lineFeed format ++ printMembers format (depth + 1) members ++ indent format depth
      ++ [0x7D])

/-- The elements of `print_array`. -/
def printItems (format : Bool) (depth : ℕ) : List Json → List UInt8
  | [] => []
  | [item] => printValue format depth item
  | item :: next :: items =>
    printValue format depth item ++ arraySeparator format ++ printItems format depth (next :: items)

/-- The members of `print_object`. -/
def printMembers (format : Bool) (depth : ℕ) : List (CString × Json) → List UInt8
  | [] => []
  | [(name, value)] =>
    indent format depth ++ printStringPtr name ++ nameSeparator format
      ++ printValue format depth value ++ lineFeed format
  | (name, value) :: next :: members =>
    indent format depth ++ printStringPtr name ++ nameSeparator format
      ++ printValue format depth value ++ [0x2C] ++ lineFeed format
      ++ printMembers format depth (next :: members)

end

/-- `cJSON_Print` and `cJSON_PrintUnformatted` -/
def cJSONPrint (format : Bool) (item : Json) : List UInt8 := printValue format 0 item

/-! ## Parsing -/

/-- What the parser must not do, and a loop of the model that has used up its rounds. -/
inductive ParseFault
  | readsOutside
  | writesOutside
  | unending
  deriving DecidableEq

/-- What is parsed and the offset behind it; nothing where the source returns false. -/
abbrev Parsed (α : Type) := Option (α × ℕ)

/-- A parser of one thing, from an offset on. -/
abbrev Parser (α : Type) := ℕ → Except ParseFault (Parsed α)

/-- `CJSON_NESTING_LIMIT` -/
def nestingLimit : ℕ := 1000

/-- A byte that is read without a look at the length of the buffer. -/
def byteAt (content : List UInt8) (i : ℕ) : Except ParseFault UInt8 :=
  match content[i]? with
  | some c => .ok c
  | none => .error .readsOutside

/-- `can_access_at_index(buffer, 0) && buffer_at_offset(buffer)[0] == c` -/
def isAt (content : List UInt8) (offset : ℕ) (c : UInt8) : Bool := content[offset]? == some c

/-- `can_read(buffer, n) && strncmp(buffer_at_offset(buffer), literal, n) == 0` -/
def literalAt (content : List UInt8) (offset : ℕ) (literal : List UInt8) : Bool :=
  offset + literal.length ≤ content.length && (content.drop offset).take literal.length == literal

/-- `buffer_skip_whitespace` -/
def bufferSkipWhitespace (content : List UInt8) (offset : ℕ) : ℕ :=
  if content.length ≤ offset then offset
  else
    let stop := offset + ((content.drop offset).takeWhile (· ≤ 32)).length
    if stop = content.length then stop - 1 else stop

/-- `skip_utf8_bom` -/
def skipUtf8Bom (content : List UInt8) : ℕ :=
  if 4 < content.length ∧ content.take 3 = [0xEF, 0xBB, 0xBF] then 3 else 0

/-- A digit of `parse_hex4`. -/
def hexValue (c : UInt8) : Option ℕ :=
  if 0x30 ≤ c ∧ c ≤ 0x39 then some (c.toNat - 0x30)
  else if 0x41 ≤ c ∧ c ≤ 0x46 then some (10 + c.toNat - 0x41)
  else if 0x61 ≤ c ∧ c ≤ 0x66 then some (10 + c.toNat - 0x61)
  else none

/-- The loop of `parse_hex4`, which gives up with zero at what is no digit. -/
def parseHex (content : List UInt8) : ℕ → ℕ → ℕ → Except ParseFault ℕ
  | 0, _, h => .ok h
  | digits + 1, i, h => do
    match hexValue (← byteAt content i) with
    | some digit => parseHex content digits (i + 1) (16 * h + digit)
    | none => .ok 0

/-- `parse_hex4` -/
def parseHex4 (content : List UInt8) (i : ℕ) : Except ParseFault ℕ := parseHex content 4 i 0

/-- The code point of `utf16_literal_to_utf8` and the length of its sequence; `stop` is
`input_end`. -/
def utf16Literal (content : List UInt8) (p stop : ℕ) : Except ParseFault (Option (ℕ × ℕ)) := do
  if stop < p + 6 then return none
  let first ← parseHex4 content (p + 2)
  if 0xDC00 ≤ first ∧ first ≤ 0xDFFF then return none
  if 0xD800 ≤ first ∧ first ≤ 0xDBFF then
    if stop < p + 6 + 6 then return none
    if (← byteAt content (p + 6)) ≠ 0x5C then return none
    if (← byteAt content (p + 6 + 1)) ≠ 0x75 then return none
    let second ← parseHex4 content (p + 6 + 2)
    if second < 0xDC00 ∨ 0xDFFF < second then return none
    return some (0x10000 + ((first &&& 0x3FF) <<< 10 ||| second &&& 0x3FF), 12)
  return some (first, 6)

/-- A byte `10xxxxxx` of `utf16_literal_to_utf8`. -/
def continuation (codepoint : ℕ) : UInt8 := UInt8.ofNat ((codepoint ||| 0x80) &&& 0xBF)

/-- What `utf16_literal_to_utf8` writes. -/
def utf8Bytes (codepoint : ℕ) : Option (List UInt8) :=
  if codepoint < 0x80 then some [UInt8.ofNat (codepoint &&& 0x7F)]
  else if codepoint < 0x800 then
    some [UInt8.ofNat ((codepoint >>> 6 ||| 0xC0) &&& 0xFF), continuation codepoint]
  else if codepoint < 0x10000 then
    some [UInt8.ofNat ((codepoint >>> 12 ||| 0xE0) &&& 0xFF), continuation (codepoint >>> 6),
      continuation codepoint]
  else if codepoint ≤ 0x10FFFF then
    some [UInt8.ofNat ((codepoint >>> 18 ||| 0xF0) &&& 0xFF), continuation (codepoint >>> 12),
      continuation (codepoint >>> 6), continuation codepoint]
  else none

/-- What an escape of one letter stands for. -/
def unescapeLetter (letter : UInt8) : Option UInt8 :=
  if letter = 0x62 then some 0x08
  else if letter = 0x66 then some 0x0C
  else if letter = 0x6E then some 0x0A
  else if letter = 0x72 then some 0x0D
  else if letter = 0x74 then some 0x09
  else if letter = 0x22 ∨ letter = 0x5C ∨ letter = 0x2F then some letter
  else none

/-- Bytes written behind `output`, in a block of `capacity` bytes. -/
def emit (capacity : ℕ) (output bytes : List UInt8) : Except ParseFault (List UInt8) :=
  if output.length + bytes.length ≤ capacity then .ok (output ++ bytes) else .error .writesOutside

/-- An escape at `p`: what it writes, and its length. -/
def parseEscape (content : List UInt8) (p stop : ℕ) :
    Except ParseFault (Option (List UInt8 × ℕ)) := do
  let letter ← byteAt content (p + 1)
  match unescapeLetter letter with
  | some c => return some ([c], 2)
  | none =>
    if letter ≠ 0x75 then return none
    match ← utf16Literal content p stop with
    | none => return none
    | some (codepoint, length) => return (utf8Bytes codepoint).map fun bytes => (bytes, length)

/-- The second loop of `parse_string`, from `input_pointer` to `input_end`, and the terminator. -/
def unescape (content : List UInt8) (capacity stop : ℕ) :
    ℕ → ℕ → List UInt8 → Except ParseFault (Option (List UInt8))
  | 0, _, _ => .error .unending
  | rounds + 1, p, output => do
    if p < stop then
      let c ← byteAt content p
      if c ≠ 0x5C then unescape content capacity stop rounds (p + 1) (← emit capacity output [c])
      else
        match ← parseEscape content p stop with
        | none => return none
        | some (bytes, length) =>
          unescape content capacity stop rounds (p + length) (← emit capacity output bytes)
    else return some (← emit capacity output [0])

/-- The first loop of `parse_string`, behind the opening quote: the bytes up to the closing one, and
the escapes among them. -/
def stringEnd : List UInt8 → Option (ℕ × ℕ)
  | [] => none
  | c :: rest =>
    if c = 0x22 then some (0, 0)
    else if c = 0x5C then
      match rest with
      | [] => none
      | _ :: rest => (stringEnd rest).map fun (length, skipped) => (length + 2, skipped + 1)
    else (stringEnd rest).map fun (length, skipped) => (length + 1, skipped)

/-- `parse_string` -/
def parseString (content : List UInt8) : Parser CString := fun offset => do
  if (← byteAt content offset) ≠ 0x22 then return none
  match stringEnd (content.drop (offset + 1)) with
  | none => return none
  | some (length, skipped) =>
    let stop := offset + 1 + length
    -- `allocation_length + sizeof("")`
    let capacity := stop - offset - skipped + 1
    match ← unescape content capacity stop (length + 1) (offset + 1) [] with
    | none => return none
    | some output => return some (.ofBytes output, stop + 1)

/-- `strtod` of a text: the number, saturated to an `int`, and the bytes it has used. -/
abbrev Strtod := List UInt8 → Int32 × ℕ

/-- The characters that `parse_number` copies. -/
def isNumberChar (c : UInt8) : Bool :=
  CLib.isDigit c || c == 0x2B || c == 0x2D || c == 0x65 || c == 0x45 || c == 0x2E

/-- `parse_number` -/
def parseNumber (strtod : Strtod) (content : List UInt8) : Parser Json := fun offset =>
  let text := (content.drop offset).takeWhile isNumberChar
  if (strtod text).2 = 0 then .ok none
  else .ok (some (.number (strtod text).1, offset + (strtod text).2))

/-- The loop of `parse_array`, from in front of an element. -/
def parseElements (content : List UInt8) (parse : Parser Json) :
    ℕ → Parser (List Json)
  | 0, _ => .error .unending
  | rounds + 1, offset => do
    match ← parse (bufferSkipWhitespace content (offset + 1)) with
    | none => return none
    | some (item, offset) =>
      let offset := bufferSkipWhitespace content offset
      if isAt content offset 0x2C then
        return (← parseElements content parse rounds offset).map fun (items, offset) =>
          (item :: items, offset)
      else if isAt content offset 0x5D then return some ([item], offset + 1)
      else return none

/-- `parse_array`; `parse` is `parse_value` one level down, if there is one. -/
def parseArray (content : List UInt8) (parse : Option (Parser Json)) :
    Parser Json := fun offset => do
  match parse with
  | none => return none
  | some parse =>
    if (← byteAt content offset) ≠ 0x5B then return none
    let start := bufferSkipWhitespace content (offset + 1)
    if isAt content start 0x5D then return some (.array [], start + 1)
    if content.length ≤ start then return none
    return (← parseElements content parse content.length (start - 1)).map fun (items, offset) =>
      (.array items, offset)

/-- The loop of `parse_object`, from in front of a member. -/
def parseMembers (content : List UInt8) (parse : Parser Json) :
    ℕ → Parser (List (CString × Json))
  | 0, _ => .error .unending
  | rounds + 1, offset => do
    if content.length ≤ offset + 1 then return none
    match ← parseString content (bufferSkipWhitespace content (offset + 1)) with
    | none => return none
    | some (name, offset) =>
      let offset := bufferSkipWhitespace content offset
      if isAt content offset 0x3A then
        match ← parse (bufferSkipWhitespace content (offset + 1)) with
        | none => return none
        | some (value, offset) =>
          let offset := bufferSkipWhitespace content offset
          if isAt content offset 0x2C then
            return (← parseMembers content parse rounds offset).map fun (members, offset) =>
              ((name, value) :: members, offset)
          else if isAt content offset 0x7D then return some ([(name, value)], offset + 1)
          else return none
      else return none

/-- `parse_object` -/
def parseObject (content : List UInt8) (parse : Option (Parser Json)) :
    Parser Json := fun offset => do
  match parse with
  | none => return none
  | some parse =>
    if isAt content offset 0x7B then
      let start := bufferSkipWhitespace content (offset + 1)
      if isAt content start 0x7D then return some (.object [], start + 1)
      if content.length ≤ start then return none
      return (← parseMembers content parse content.length (start - 1)).map fun (members, offset) =>
        (.object members, offset)
    else return none

/-- `parse_value`, with `parse` for what is nested in it. -/
def parseNested (strtod : Strtod) (content : List UInt8) (parse : Option (Parser Json)) :
    Parser Json := fun offset =>
  if literalAt content offset [0x6E, 0x75, 0x6C, 0x6C] then .ok (some (.null, offset + 4))
  else if literalAt content offset [0x66, 0x61, 0x6C, 0x73, 0x65] then
    .ok (some (.bool false, offset + 5))
  else if literalAt content offset [0x74, 0x72, 0x75, 0x65] then
    .ok (some (.bool true, offset + 4))
  else
    match content[offset]? with
    | none => .ok none
    | some c =>
      if c = 0x22 then do
        return (← parseString content offset).map fun (s, offset) => (.string s, offset)
      else if c = 0x2D ∨ CLib.isDigit c then parseNumber strtod content offset
      else if c = 0x5B then parseArray content parse offset
      else if c = 0x7B then parseObject content parse offset
      else .ok none

/-- `parse_value`, with so many levels left of `CJSON_NESTING_LIMIT`. -/
def parseValue (strtod : Strtod) (content : List UInt8) : ℕ → Parser Json
  | 0 => parseNested strtod content none
  | levels + 1 => parseNested strtod content (some (parseValue strtod content levels))

/-- `cJSON_ParseWithLength` -/
def cJSONParseWithLength (strtod : Strtod) (content : List UInt8) :
    Except ParseFault (Option Json) := do
  if content.length = 0 then return none
  return (← parseValue strtod content nestingLimit
    (bufferSkipWhitespace content (skipUtf8Bom content))).map Prod.fst

/-- `cJSON_Parse`: the terminator is part of the buffer. -/
def cJSONParse (strtod : Strtod) (value : CString) : Except ParseFault (Option Json) :=
  cJSONParseWithLength strtod (value.bytes ++ [0])

/-! ## Nesting -/

mutual

/-- How many arrays and objects lie around what lies deepest. -/
def height : Json → ℕ
  | .null => 0
  | .bool _ => 0
  | .number _ => 0
  | .string _ => 0
  | .array items => itemsHeight items + 1
  | .object members => membersHeight members + 1

/-- The tallest of several elements. -/
def itemsHeight : List Json → ℕ
  | [] => 0
  | item :: items => max (height item) (itemsHeight items)

/-- The tallest of several members. -/
def membersHeight : List (CString × Json) → ℕ
  | [] => 0
  | (_, value) :: members => max (height value) (membersHeight members)

end

/-- **Induction over a value**, through its elements and the values of its members. -/
theorem json_induction {motive : Json → Prop} (null : motive .null) (bool : ∀ b, motive (.bool b))
    (number : ∀ n, motive (.number n)) (string : ∀ s, motive (.string s))
    (array : ∀ items, (∀ item ∈ items, motive item) → motive (.array items))
    (object : ∀ members : List (CString × Json), (∀ member ∈ members, motive member.2) →
      motive (.object members)) : ∀ item, motive item
  | .null => null
  | .bool b => bool b
  | .number n => number n
  | .string s => string s
  | .array items =>
    array items fun item _ => json_induction null bool number string array object item
  | .object members =>
    object members fun member _ => json_induction null bool number string array object member.2
termination_by item => sizeOf item
decreasing_by
  · have := List.sizeOf_lt_of_mem ‹item ∈ items›
    simp only [Json.array.sizeOf_spec]
    omega
  · have := List.sizeOf_lt_of_mem ‹member ∈ members›
    have hsnd : sizeOf member.2 < sizeOf member := by
      obtain ⟨name, value⟩ := member
      simp only [Prod.mk.sizeOf_spec]
      omega
    simp only [Json.object.sizeOf_spec]
    omega

end JsonText

end TmuxRemote
