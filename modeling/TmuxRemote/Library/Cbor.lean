import TmuxRemote.Library.BigEndian

/-!
# Library/Cbor — data items and their definite-length encoding (RFC 8949)

An item starts with its major type and an argument, which is a number, a length or a count; strings,
items and entries follow.  `encode` writes every argument in its shortest form, `decodeItem` reads
any definite-length encoding, with a check of its own on the content of text strings.  Reading back
what was written yields the item, or nothing if one of its texts fails the check
(`decodeItem_encode`).
-/

/-- A data item. -/
inductive Cbor
  | unsigned (n : UInt64)
  /-- The number `-1 - n`. -/
  | negative (n : UInt64)
  | bytes (content : List UInt8)
  | text (content : List UInt8)
  | array (items : List Cbor)
  | map (entries : List (Cbor × Cbor))
  | tag (number : UInt64) (item : Cbor)
  | simple (value : UInt8)
  | float16 (bits : UInt16)
  | float32 (bits : UInt32)
  | float64 (bits : UInt64)
  deriving Inhabited

namespace Cbor

/-! ## Heads -/

/-- The first byte of an item. -/
def initialByte (major info : ℕ) : UInt8 := UInt8.ofNat (32 * major + info)

/-- A head whose argument takes `2 ^ k` bytes. -/
def wideHead (major k argument : ℕ) : List UInt8 :=
  initialByte major (24 + k) :: BigEndian.toBytes (2 ^ k) argument

/-- A head with the argument in its shortest form. -/
def head (major argument : ℕ) : List UInt8 :=
  if argument < 24 then [initialByte major argument]
  else if argument < 2 ^ 8 then wideHead major 0 argument
  else if argument < 2 ^ 16 then wideHead major 1 argument
  else if argument < 2 ^ 32 then wideHead major 2 argument
  else wideHead major 3 argument

/-- A head as it is read; `wide` is the `k` of a wide head. -/
structure Head where
  major : ℕ
  wide : Option ℕ
  argument : ℕ

/-- The first `n` bytes, and the rest. -/
def takeBytes (n : ℕ) (input : List UInt8) : Option (List UInt8 × List UInt8) :=
  if n ≤ input.length then some (input.take n, input.drop n) else none

def decodeHead : List UInt8 → Option (Head × List UInt8)
  | [] => none
  | b :: input =>
    let major := b.toNat / 32
    let info := b.toNat % 32
    if info < 24 then some ({ major := major, wide := none, argument := info }, input)
    else if info < 28 then
      (takeBytes (2 ^ (info - 24)) input).map fun (argument, rest) =>
        ({ major := major, wide := some (info - 24), argument := BigEndian.value argument }, rest)
    else none

theorem takeBytes_append (xs rest : List UInt8) :
    takeBytes xs.length (xs ++ rest) = some (xs, rest) := by
  have hle : xs.length ≤ (xs ++ rest).length := by
    rw [List.length_append]
    omega
  rw [takeBytes, if_pos hle, List.take_left, List.drop_left]

theorem toNat_initialByte {major info : ℕ} (hmajor : major < 8) (hinfo : info < 32) :
    (initialByte major info).toNat = 32 * major + info := by
  rw [initialByte, UInt8.toNat_ofNat']
  omega

theorem decodeHead_wideHead {major k argument : ℕ} (hmajor : major < 8) (hk : k < 4)
    (hfits : argument < 256 ^ 2 ^ k) (rest : List UInt8) :
    decodeHead (wideHead major k argument ++ rest)
      = some ({ major := major, wide := some k, argument := argument }, rest) := by
  have htake := takeBytes_append (BigEndian.toBytes (2 ^ k) argument) rest
  rw [BigEndian.length_toBytes] at htake
  have hbyte := toNat_initialByte hmajor (show 24 + k < 32 by omega)
  have hdiv : (32 * major + (24 + k)) / 32 = major := by omega
  have hmod : (32 * major + (24 + k)) % 32 = 24 + k := by omega
  have hsub : 24 + k - 24 = k := by omega
  simp only [wideHead, List.cons_append, decodeHead, hbyte, hdiv, hmod, hsub, htake,
    Option.map_some, BigEndian.value_toBytes hfits]
  rw [if_neg (by omega), if_pos (by omega)]

/-- **A head is read back.** -/
theorem decodeHead_head {major argument : ℕ} (hmajor : major < 8) (hfits : argument < 2 ^ 64)
    (rest : List UInt8) :
    ∃ wide, decodeHead (head major argument ++ rest)
        = some ({ major := major, wide := wide, argument := argument }, rest)
      ∧ (argument < 2 ^ 8 → wide = none ∨ wide = some 0) := by
  rw [head]
  split_ifs with h₁ h₂ h₃ h₄
  · refine ⟨none, ?_, fun _ => Or.inl rfl⟩
    have hbyte := toNat_initialByte hmajor (show argument < 32 by omega)
    have hdiv : (32 * major + argument) / 32 = major := by omega
    have hmod : (32 * major + argument) % 32 = argument := by omega
    simp only [List.singleton_append, decodeHead, hbyte, hdiv, hmod, if_pos h₁]
  · exact ⟨some 0, decodeHead_wideHead hmajor (by omega) (by simpa using h₂) rest,
      fun _ => Or.inr rfl⟩
  · exact ⟨some 1, decodeHead_wideHead hmajor (by omega) (by simpa using h₃) rest,
      fun h => absurd h h₂⟩
  · exact ⟨some 2, decodeHead_wideHead hmajor (by omega) (by simpa using h₄) rest,
      fun h => absurd h h₂⟩
  · exact ⟨some 3, decodeHead_wideHead hmajor (by omega) (by simpa using hfits) rest,
      fun h => absurd h h₂⟩

theorem length_head_pos (major argument : ℕ) : 0 < (head major argument).length := by
  rw [head]
  split_ifs <;> exact Nat.succ_pos _

theorem length_head_le (major argument : ℕ) : (head major argument).length ≤ 9 := by
  rw [head]
  split_ifs <;> simp [wideHead]

/-- The bytes of a head, which its argument alone decides. -/
def headSize (argument : ℕ) : ℕ :=
  if argument < 24 then 1
  else if argument < 2 ^ 8 then 2
  else if argument < 2 ^ 16 then 3
  else if argument < 2 ^ 32 then 5
  else 9

theorem length_head (major argument : ℕ) : (head major argument).length = headSize argument := by
  rw [head, headSize]
  split_ifs <;> simp [wideHead]

theorem headSize_mono {m n : ℕ} (h : m ≤ n) : headSize m ≤ headSize n := by
  rw [headSize, headSize]
  split_ifs <;> omega

/-! ## Items -/

mutual

/-- The encoding of an item. -/
def encode : Cbor → List UInt8
  | unsigned n => head 0 n.toNat
  | negative n => head 1 n.toNat
  | bytes content => head 2 content.length ++ content
  | text content => head 3 content.length ++ content
  | array items => head 4 items.length ++ encodeItems items
  | map entries => head 5 entries.length ++ encodeEntries entries
  | tag number item => head 6 number.toNat ++ encode item
  | simple value => head 7 value.toNat
  | float16 bits => wideHead 7 1 bits.toNat
  | float32 bits => wideHead 7 2 bits.toNat
  | float64 bits => wideHead 7 3 bits.toNat

def encodeItems : List Cbor → List UInt8
  | [] => []
  | item :: items => encode item ++ encodeItems items

def encodeEntries : List (Cbor × Cbor) → List UInt8
  | [] => []
  | (key, value) :: entries => encode key ++ encode value ++ encodeEntries entries

end

mutual

/-- Every length and count fits an argument. -/
def Sized : Cbor → Prop
  | bytes content | text content => content.length < 2 ^ 64
  | array items => items.length < 2 ^ 64 ∧ SizedItems items
  | map entries => entries.length < 2 ^ 64 ∧ SizedEntries entries
  | tag _ item => Sized item
  | unsigned _ | negative _ | simple _ | float16 _ | float32 _ | float64 _ => True

def SizedItems : List Cbor → Prop
  | [] => True
  | item :: items => Sized item ∧ SizedItems items

def SizedEntries : List (Cbor × Cbor) → Prop
  | [] => True
  | (key, value) :: entries => Sized key ∧ Sized value ∧ SizedEntries entries

end

mutual

/-- Every text passes the check. -/
def textsOk (check : List UInt8 → Bool) : Cbor → Bool
  | text content => check content
  | array items => textsOkItems check items
  | map entries => textsOkEntries check entries
  | tag _ item => textsOk check item
  | unsigned _ | negative _ | bytes _ | simple _ | float16 _ | float32 _ | float64 _ => true

def textsOkItems (check : List UInt8 → Bool) : List Cbor → Bool
  | [] => true
  | item :: items => textsOk check item && textsOkItems check items

def textsOkEntries (check : List UInt8 → Bool) : List (Cbor × Cbor) → Bool
  | [] => true
  | (key, value) :: entries =>
    textsOk check key && textsOk check value && textsOkEntries check entries

end

mutual

/-- No text fails a check that none fails. -/
theorem textsOk_of_all {check : List UInt8 → Bool} (h : ∀ content, check content = true) :
    ∀ v : Cbor, v.textsOk check = true
  | text content => h content
  | array items => textsOkItems_of_all h items
  | map entries => textsOkEntries_of_all h entries
  | tag _ item => textsOk_of_all h item
  | unsigned _ | negative _ | bytes _ | simple _ | float16 _ | float32 _ | float64 _ => rfl

theorem textsOkItems_of_all {check : List UInt8 → Bool} (h : ∀ content, check content = true) :
    ∀ items : List Cbor, textsOkItems check items = true
  | [] => rfl
  | item :: items => by
      rw [textsOkItems, textsOk_of_all h item, textsOkItems_of_all h items]
      rfl

theorem textsOkEntries_of_all {check : List UInt8 → Bool} (h : ∀ content, check content = true) :
    ∀ entries : List (Cbor × Cbor), textsOkEntries check entries = true
  | [] => rfl
  | (key, value) :: entries => by
      rw [textsOkEntries, textsOk_of_all h key, textsOk_of_all h value,
        textsOkEntries_of_all h entries]
      rfl

end

/-! ## Decoding -/

/-- So many items of one kind. -/
def decodeMany {α : Type} (decode : List UInt8 → Option (α × List UInt8)) :
    ℕ → List UInt8 → Option (List α × List UInt8)
  | 0, input => some ([], input)
  | count + 1, input => do
    let (item, rest) ← decode input
    let (items, rest) ← decodeMany decode count rest
    some (item :: items, rest)

/-- A key and its value. -/
def decodeEntry (decode : List UInt8 → Option (Cbor × List UInt8)) (input : List UInt8) :
    Option ((Cbor × Cbor) × List UInt8) := do
  let (key, rest) ← decode input
  let (value, rest) ← decode rest
  some ((key, value), rest)

/-- A simple value or a floating-point number. -/
def decodeSpecial (head : Head) : Option Cbor :=
  match head.wide with
  | none | some 0 => some (simple (UInt8.ofNat head.argument))
  | some 1 => some (float16 (UInt16.ofNat head.argument))
  | some 2 => some (float32 (UInt32.ofNat head.argument))
  | some _ => some (float64 (UInt64.ofNat head.argument))

/-- The item at the start of the input, and what follows it; `fuel` bounds the nesting. -/
def decodeItem (check : List UInt8 → Bool) : ℕ → List UInt8 → Option (Cbor × List UInt8)
  | 0, _ => none
  | fuel + 1, input => do
    let (head, rest) ← decodeHead input
    match head.major with
    | 0 => some (unsigned (UInt64.ofNat head.argument), rest)
    | 1 => some (negative (UInt64.ofNat head.argument), rest)
    | 2 =>
      let (content, rest) ← takeBytes head.argument rest
      some (bytes content, rest)
    | 3 =>
      let (content, rest) ← takeBytes head.argument rest
      if check content then some (text content, rest) else none
    | 4 =>
      let (items, rest) ← decodeMany (decodeItem check fuel) head.argument rest
      some (array items, rest)
    | 5 =>
      let (entries, rest) ← decodeMany (decodeEntry (decodeItem check fuel)) head.argument rest
      some (map entries, rest)
    | 6 =>
      let (item, rest) ← decodeItem check fuel rest
      some (tag (UInt64.ofNat head.argument) item, rest)
    | _ => (decodeSpecial head).map fun item => (item, rest)

/-- The item at the start of the input. -/
def decode (check : List UInt8 → Bool) (input : List UInt8) : Option Cbor :=
  (decodeItem check input.length input).map Prod.fst

/-! ## Reading back -/

theorem decodeMany_succ {α : Type} {decode : List UInt8 → Option (α × List UInt8)} {count : ℕ}
    {input : List UInt8} :
    decodeMany decode (count + 1) input
      = (decode input).bind fun (item, rest) =>
          (decodeMany decode count rest).map fun (items, rest) => (item :: items, rest) := by
  rw [decodeMany]
  cases decode input with
  | none => rfl
  | some first =>
    dsimp only [Option.bind_eq_bind, Option.bind_some]
    cases decodeMany decode count first.2 <;> rfl

theorem length_encode_pos (v : Cbor) : 0 < v.encode.length := by
  cases v <;> simp only [encode, wideHead, List.length_append, List.length_cons] <;>
    first
    | exact length_head_pos _ _
    | exact Nat.succ_pos _
    | exact Nat.add_pos_left (length_head_pos _ _) _

/-- There are no more items than bytes. -/
theorem length_le_encodeItems (items : List Cbor) : items.length ≤ (encodeItems items).length := by
  induction items with
  | nil => exact Nat.le_refl _
  | cons item items ih =>
    have hpos := length_encode_pos item
    rw [List.length_cons, encodeItems, List.length_append]
    omega

theorem length_le_encodeEntries (entries : List (Cbor × Cbor)) :
    entries.length ≤ (encodeEntries entries).length := by
  induction entries with
  | nil => exact Nat.le_refl _
  | cons entry entries ih =>
    obtain ⟨key, value⟩ := entry
    have hpos := length_encode_pos key
    rw [List.length_cons, encodeEntries, List.length_append, List.length_append]
    omega

/-- The length of a list of items of bounded length. -/
theorem length_encodeItems_le {bound : ℕ} {items : List Cbor}
    (h : ∀ item ∈ items, item.encode.length ≤ bound) :
    (encodeItems items).length ≤ items.length * bound := by
  induction items with
  | nil => exact Nat.zero_le _
  | cons item items ih =>
    obtain ⟨hitem, hitems⟩ := List.forall_mem_cons.mp h
    rw [encodeItems, List.length_append, List.length_cons, Nat.succ_mul]
    have := ih hitems
    omega

mutual

/-- What has an encoding of fewer than `2 ^ 64` bytes has lengths and counts below that. -/
theorem sized_of_length_lt : ∀ v : Cbor, v.encode.length < 2 ^ 64 → v.Sized
  | unsigned _, _ | negative _, _ | simple _, _ | float16 _, _ | float32 _, _ | float64 _, _ => by
      rw [Sized]
      trivial
  | bytes content, h | text content, h => by
      rw [encode, List.length_append] at h
      rw [Sized]
      omega
  | array items, h => by
      rw [encode, List.length_append] at h
      have hcount := length_le_encodeItems items
      rw [Sized]
      exact ⟨by omega, sizedItems_of_length_lt items (by omega)⟩
  | map entries, h => by
      rw [encode, List.length_append] at h
      have hcount := length_le_encodeEntries entries
      rw [Sized]
      exact ⟨by omega, sizedEntries_of_length_lt entries (by omega)⟩
  | tag _ item, h => by
      rw [encode, List.length_append] at h
      rw [Sized]
      exact sized_of_length_lt item (by omega)

theorem sizedItems_of_length_lt : ∀ items : List Cbor, (encodeItems items).length < 2 ^ 64 →
    SizedItems items
  | [], _ => trivial
  | item :: items, h => by
      rw [encodeItems, List.length_append] at h
      exact ⟨sized_of_length_lt item (by omega), sizedItems_of_length_lt items (by omega)⟩

theorem sizedEntries_of_length_lt : ∀ entries : List (Cbor × Cbor),
    (encodeEntries entries).length < 2 ^ 64 → SizedEntries entries
  | [], _ => trivial
  | (key, value) :: entries, h => by
      rw [encodeEntries, List.length_append, List.length_append] at h
      exact ⟨sized_of_length_lt key (by omega), sized_of_length_lt value (by omega),
        sizedEntries_of_length_lt entries (by omega)⟩

end

section
variable (check : List UInt8 → Bool)

mutual

/-- **Reading back** an encoded item, whatever follows it. -/
theorem decodeItem_encode : ∀ (v : Cbor) {fuel : ℕ} (rest : List UInt8), v.Sized →
    v.encode.length ≤ fuel →
    decodeItem check fuel (v.encode ++ rest)
      = if v.textsOk check then some (v, rest) else none
  | v, 0, _, _, hfuel => absurd (length_encode_pos v) (Nat.not_lt.mpr hfuel)
  | unsigned n, fuel + 1, rest, _, _ => by
      obtain ⟨wide, hhead, -⟩ := decodeHead_head (show 0 < 8 by omega) n.toNat_lt rest
      simp [decodeItem, encode, textsOk, hhead]
  | negative n, fuel + 1, rest, _, _ => by
      obtain ⟨wide, hhead, -⟩ := decodeHead_head (show 1 < 8 by omega) n.toNat_lt rest
      simp [decodeItem, encode, textsOk, hhead]
  | bytes content, fuel + 1, rest, hsized, _ => by
      obtain ⟨wide, hhead, -⟩ := decodeHead_head (show 2 < 8 by omega) hsized (content ++ rest)
      simp [decodeItem, encode, textsOk, hhead, takeBytes_append]
  | text content, fuel + 1, rest, hsized, _ => by
      obtain ⟨wide, hhead, -⟩ := decodeHead_head (show 3 < 8 by omega) hsized (content ++ rest)
      rw [textsOk]
      simp [decodeItem, encode, hhead, takeBytes_append]
  | array items, fuel + 1, rest, hsized, hfuel => by
      obtain ⟨wide, hhead, -⟩ :=
        decodeHead_head (show 4 < 8 by omega) hsized.1 (encodeItems items ++ rest)
      have hpos := length_head_pos 4 items.length
      rw [encode, List.length_append] at hfuel
      have hitems := decodeMany_encodeItems items rest hsized.2
        (show (encodeItems items).length ≤ fuel by omega)
      rw [textsOk]
      simp only [decodeItem, encode, List.append_assoc, hhead, Option.bind_eq_bind,
        Option.bind_some, hitems]
      split_ifs <;> rfl
  | map entries, fuel + 1, rest, hsized, hfuel => by
      obtain ⟨wide, hhead, -⟩ :=
        decodeHead_head (show 5 < 8 by omega) hsized.1 (encodeEntries entries ++ rest)
      have hpos := length_head_pos 5 entries.length
      rw [encode, List.length_append] at hfuel
      have hentries := decodeMany_encodeEntries entries rest hsized.2
        (show (encodeEntries entries).length ≤ fuel by omega)
      rw [textsOk]
      simp only [decodeItem, encode, List.append_assoc, hhead, Option.bind_eq_bind,
        Option.bind_some, hentries]
      split_ifs <;> rfl
  | tag number item, fuel + 1, rest, hsized, hfuel => by
      obtain ⟨wide, hhead, -⟩ :=
        decodeHead_head (show 6 < 8 by omega) number.toNat_lt (item.encode ++ rest)
      have hpos := length_head_pos 6 number.toNat
      rw [encode, List.length_append] at hfuel
      have hitem := decodeItem_encode item rest hsized (show item.encode.length ≤ fuel by omega)
      rw [textsOk]
      simp only [decodeItem, encode, List.append_assoc, hhead, Option.bind_eq_bind,
        Option.bind_some, hitem, UInt64.ofNat_toNat]
      split_ifs <;> rfl
  | simple value, fuel + 1, rest, _, _ => by
      have hvalue := value.toNat_lt
      obtain ⟨wide, hhead, hwide⟩ := decodeHead_head (show 7 < 8 by omega)
        (show value.toNat < 2 ^ 64 by omega) rest
      obtain rfl | rfl := hwide hvalue <;>
        simp [decodeItem, encode, textsOk, hhead, decodeSpecial]
  | float16 bits, fuel + 1, rest, _, _ => by
      have hhead := decodeHead_wideHead (show 7 < 8 by omega) (show 1 < 4 by omega)
        (show bits.toNat < 256 ^ 2 ^ 1 from bits.toNat_lt) rest
      simp [decodeItem, encode, textsOk, hhead, decodeSpecial]
  | float32 bits, fuel + 1, rest, _, _ => by
      have hhead := decodeHead_wideHead (show 7 < 8 by omega) (show 2 < 4 by omega)
        (show bits.toNat < 256 ^ 2 ^ 2 from bits.toNat_lt) rest
      simp [decodeItem, encode, textsOk, hhead, decodeSpecial]
  | float64 bits, fuel + 1, rest, _, _ => by
      have hhead := decodeHead_wideHead (show 7 < 8 by omega) (show 3 < 4 by omega)
        (show bits.toNat < 256 ^ 2 ^ 3 from bits.toNat_lt) rest
      simp [decodeItem, encode, textsOk, hhead, decodeSpecial]

theorem decodeMany_encodeItems : ∀ (items : List Cbor) {fuel : ℕ} (rest : List UInt8),
    SizedItems items → (encodeItems items).length ≤ fuel →
    decodeMany (decodeItem check fuel) items.length (encodeItems items ++ rest)
      = if textsOkItems check items then some (items, rest) else none
  | [], fuel, rest, _, _ => rfl
  | item :: items, fuel, rest, hsized, hfuel => by
      rw [encodeItems, List.length_append] at hfuel
      have hitem := decodeItem_encode item (encodeItems items ++ rest) hsized.1
        (show item.encode.length ≤ fuel by omega)
      have hitems := decodeMany_encodeItems items rest hsized.2
        (show (encodeItems items).length ≤ fuel by omega)
      rw [List.length_cons, encodeItems, List.append_assoc, decodeMany_succ, hitem, textsOkItems]
      cases item.textsOk check with
      | false => rfl
      | true =>
        simp only [if_true, Option.bind_some, hitems, Bool.true_and]
        split_ifs <;> rfl

theorem decodeMany_encodeEntries : ∀ (entries : List (Cbor × Cbor)) {fuel : ℕ} (rest : List UInt8),
    SizedEntries entries → (encodeEntries entries).length ≤ fuel →
    decodeMany (decodeEntry (decodeItem check fuel)) entries.length (encodeEntries entries ++ rest)
      = if textsOkEntries check entries then some (entries, rest) else none
  | [], fuel, rest, _, _ => rfl
  | (key, value) :: entries, fuel, rest, hsized, hfuel => by
      rw [encodeEntries, List.length_append, List.length_append] at hfuel
      have hkey := decodeItem_encode key (value.encode ++ (encodeEntries entries ++ rest)) hsized.1
        (show key.encode.length ≤ fuel by omega)
      have hvalue := decodeItem_encode value (encodeEntries entries ++ rest) hsized.2.1
        (show value.encode.length ≤ fuel by omega)
      have hentries := decodeMany_encodeEntries entries rest hsized.2.2
        (show (encodeEntries entries).length ≤ fuel by omega)
      rw [List.length_cons, encodeEntries, List.append_assoc, List.append_assoc, decodeMany_succ,
        decodeEntry, hkey, textsOkEntries]
      cases key.textsOk check with
      | false => rfl
      | true =>
        simp only [if_true, Option.bind_eq_bind, Option.bind_some, hvalue, Bool.true_and]
        cases value.textsOk check with
        | false => rfl
        | true =>
          simp only [if_true, Option.bind_some, hentries, Bool.true_and]
          split_ifs <;> rfl

end

/-- **The round trip**: a decoder reads back exactly the items whose texts pass its check. -/
theorem decode_encode {v : Cbor} (hsized : v.Sized) :
    decode check v.encode = if v.textsOk check then some v else none := by
  have hitem := decodeItem_encode check v [] hsized (Nat.le_refl _)
  rw [List.append_nil] at hitem
  rw [decode, hitem]
  split_ifs <;> rfl

end

/-- A reader that takes every text reads back what was written. -/
theorem decode_encode_of_all {check : List UInt8 → Bool} (h : ∀ content, check content = true)
    {v : Cbor} (hsized : v.Sized) : decode check v.encode = some v := by
  rw [decode_encode check hsized, if_pos (textsOk_of_all h v)]

end Cbor
