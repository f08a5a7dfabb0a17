import Mathlib.Data.List.Forall2
import TmuxRemote.Library.CString
import TmuxRemote.Library.Joined

/-!
# Agent/KeyNames — the names device keys are stored under (`tmuxremote_keychain.c`)

A key file is named after the two ids of the device with `_` between them, each with `_` for what is
no filename character; a slot of the keychain is named `p=…,d=…`.  Either name is two texts joined,
and so is that of another device whose ids divide the same text later (`keyNames_injective_iff`).

Memory does not run out here.
-/

open Joined

namespace TmuxRemote

/-! ## File names -/

/-- `isalnum` -/
def isAlnum (c : UInt8) : Bool :=
  (0x61 ≤ c && c ≤ 0x7A) || (0x41 ≤ c && c ≤ 0x5A) || CLib.isDigit c

/-- `tmuxremote_is_key_component_char` -/
def isKeyComponentChar (c : UInt8) : Bool := isAlnum c || c == 0x2D || c == 0x5F || c == 0x2E

/-- One turn of the loop of `tmuxremote_sanitize_key_component`. -/
def sanitizeChar (c : UInt8) : UInt8 := if isKeyComponentChar c then c else 0x5F

theorem sanitizeChar_ne_zero (c : UInt8) : sanitizeChar c ≠ 0 := by
  rw [sanitizeChar]
  split_ifs with h
  · rintro rfl
    exact absurd h (by decide)
  · decide

/-- `tmuxremote_sanitize_key_component`; a `NULL` is `none`. -/
def sanitizeKeyComponent (input : Option CString) : CString :=
  let src := (input.filter fun s => !s.isEmpty).getD (.ofString "unknown")
  { bytes := src.bytes.map sanitizeChar
    nulFree := fun b hb => by
      obtain ⟨c, -, rfl⟩ := List.mem_map.mp hb
      exact sanitizeChar_ne_zero c }

/-- `INT_MAX`, beyond which `snprintf` fails. -/
def maxPrinted : ℕ := 2 ^ 31 - 1

/-- `snprintf(NULL, 0, …)`, `malloc` and `snprintf`. -/
def printed (text : CString) : Option CString :=
  if text.bytes.length ≤ maxPrinted then some text else none

/-- `tmuxremote_device_key_file_path` -/
def deviceKeyFilePath (homeDir productId deviceId : Option CString) : Option CString := do
  let homeDir ← homeDir
  printed <| homeDir.append <| (CString.ofString "/keys/").append <|
    (sanitizeKeyComponent productId).append <| (CString.ofString "_").append <|
    (sanitizeKeyComponent deviceId).append <| .ofString ".key"

/-- `tmuxremote_keychain_account_for_device` -/
def keychainAccountForDevice (productId deviceId : Option CString) : Option CString := do
  let productId ← productId.filter fun s => !s.isEmpty
  let deviceId ← deviceId.filter fun s => !s.isEmpty
  printed <|
    (CString.ofString "p=").append <| productId.append <| (CString.ofString ",d=").append deviceId

/-! ## Device identities -/

/-- The ids of a device, neither of them empty. -/
@[ext] structure DeviceIdentity where
  productId : CString
  deviceId : CString
  productId_ne : productId.isEmpty = false
  deviceId_ne : deviceId.isEmpty = false
  deriving DecidableEq

namespace DeviceIdentity

variable (homeDir : CString) (a b : DeviceIdentity)

/-- The key file of a device. -/
def keyFile : Option CString := deviceKeyFilePath homeDir a.productId a.deviceId

/-- The keychain account of a device. -/
def account : Option CString := keychainAccountForDevice a.productId a.deviceId

/-- Two devices have one key file. -/
def ShareFile : Prop := ∃ path, a.keyFile homeDir = some path ∧ b.keyFile homeDir = some path

/-- Two devices have one keychain account. -/
def ShareAccount : Prop := ∃ account, a.account = some account ∧ b.account = some account

/-! ## Which devices have one account -/

/-- The ids divide one text at different places: what follows a `,d=` of the device id of `a`
follows the product id of `b`. -/
def AccountLater : Prop := Later (CString.ofString ",d=").bytes
  a.productId.bytes a.deviceId.bytes b.productId.bytes b.deviceId.bytes

end DeviceIdentity

/-- A name is printed whole or not at all. -/
theorem printed_eq_some {text path : CString} :
    printed text = some path ↔ text.bytes.length ≤ maxPrinted ∧ text = path := by
  rw [printed]
  split_ifs with h
  · simp [h]
  · simp [h]

/-- Two printed texts are one when they are printed from one text that is not too long. -/
theorem exists_printed_iff {s t : CString} :
    (∃ path, printed s = some path ∧ printed t = some path) ↔
      s.bytes.length ≤ maxPrinted ∧ s = t := by
  simp only [printed_eq_some]
  constructor
  · rintro ⟨path, ⟨hlength, rfl⟩, -, ht⟩
    exact ⟨hlength, ht.symm⟩
  · rintro ⟨hlength, rfl⟩
    exact ⟨s, ⟨hlength, rfl⟩, hlength, rfl⟩

theorem filter_not_isEmpty {s : CString} (hs : s.isEmpty = false) :
    (some s).filter (fun s => !s.isEmpty) = some s := by
  rw [Option.filter_some, hs]
  rfl

theorem bytes_sanitizeKeyComponent {s : CString} (hs : s.isEmpty = false) :
    (sanitizeKeyComponent (some s)).bytes = s.bytes.map sanitizeChar := by
  change (((some s).filter fun s => !s.isEmpty).getD _).bytes.map sanitizeChar = _
  rw [filter_not_isEmpty hs]
  rfl

namespace DeviceIdentity

variable {homeDir : CString} {a b : DeviceIdentity}

/-- Two identities are one if their bytes are. -/
theorem ext_bytes_iff : a = b ↔
    a.productId.bytes = b.productId.bytes ∧ a.deviceId.bytes = b.deviceId.bytes := by
  rw [DeviceIdentity.ext_iff, CString.bytes_inj, CString.bytes_inj]

/-- **Two identities share an account** if they are one, or one has the separator later in the same
name, and the name can be printed. -/
theorem shareAccount_iff : ShareAccount a b ↔
    5 + a.productId.bytes.length + a.deviceId.bytes.length ≤ maxPrinted ∧
      (a = b ∨ AccountLater a b ∨ AccountLater b a) := by
  have hsep : (CString.ofString ",d=").bytes = [0x2C, 0x64, 0x3D] := by decide
  have hunbordered : Unbordered (CString.ofString ",d=").bytes := by
    rw [hsep]
    exact unbordered_cons (by decide)
  simp only [ShareAccount, account, keychainAccountForDevice, filter_not_isEmpty, productId_ne,
    deviceId_ne, Option.bind_eq_bind, Option.bind_some]
  rw [exists_printed_iff, ext_bytes_iff, AccountLater, AccountLater, ← join_eq_join_iff hunbordered]
  refine and_congr ?_ ?_
  · have hp : (CString.ofString "p=").bytes.length = 2 := by decide
    have hd : (CString.ofString ",d=").bytes.length = 3 := by decide
    simp only [CString.append, List.length_append, hp, hd]
    omega
  · rw [← CString.bytes_inj]
    simp only [CString.append, join, List.append_cancel_left_eq]

end DeviceIdentity

/-! ## Which devices have one key file -/

/-- Written as `_` in a file name. -/
def ReadsUnderscore (c : UInt8) : Prop := isKeyComponentChar c = false ∨ c = 0x5F

/-- Written as the same character in a file name. -/
def LooksLike (c c' : UInt8) : Prop := c = c' ∨ ReadsUnderscore c ∧ ReadsUnderscore c'

/-- Character by character written the same in a file name. -/
abbrev Alike (s s' : List UInt8) : Prop := List.Forall₂ LooksLike s s'

theorem sanitizeChar_eq_underscore {c : UInt8} : sanitizeChar c = 0x5F ↔ ReadsUnderscore c := by
  rw [sanitizeChar, ReadsUnderscore]
  split_ifs with h <;> simp [h]

/-- Two characters look alike if they are one, or both read as `_`. -/
theorem sanitizeChar_eq_iff {c c' : UInt8} : sanitizeChar c = sanitizeChar c' ↔ LooksLike c c' := by
  by_cases hc : ReadsUnderscore c
  · rw [sanitizeChar_eq_underscore.mpr hc, eq_comm, sanitizeChar_eq_underscore, LooksLike]
    constructor
    · exact fun hc' => .inr ⟨hc, hc'⟩
    · rintro (rfl | ⟨-, hc'⟩)
      · exact hc
      · exact hc'
  · have hkept : sanitizeChar c = c := by
      rw [ReadsUnderscore, not_or, Bool.not_eq_false] at hc
      rw [sanitizeChar, if_pos hc.1]
    constructor
    · intro h
      have hc' : ¬ ReadsUnderscore c' := by
        rw [← sanitizeChar_eq_underscore, ← h, sanitizeChar_eq_underscore]
        exact hc
      rw [ReadsUnderscore, not_or, Bool.not_eq_false] at hc'
      rw [hkept, sanitizeChar, if_pos hc'.1] at h
      exact .inl h
    · rintro (rfl | ⟨hc', -⟩)
      · rfl
      · exact absurd hc' hc

theorem map_sanitizeChar_eq_iff {s s' : List UInt8} :
    s.map sanitizeChar = s'.map sanitizeChar ↔ Alike s s' := by
  rw [← List.forall₂_eq_eq_eq, List.forall₂_map_left_iff, List.forall₂_map_right_iff]
  simp only [sanitizeChar_eq_iff]

/-- In file names, the second pair of ids is the first, split at a later `_`. -/
def AlikeLater (left right left' right' : List UInt8) : Prop :=
  ∃ start c between, left' = start ++ c :: between ∧ Alike left start ∧ ReadsUnderscore c ∧
    ∃ between' c' rest, right = between' ++ c' :: rest ∧ Alike between' between ∧
      ReadsUnderscore c' ∧ Alike rest right'

theorem later_map_sanitizeChar {left right left' right' : List UInt8} :
    Later [0x5F] (left.map sanitizeChar) (right.map sanitizeChar) (left'.map sanitizeChar)
      (right'.map sanitizeChar) ↔ AlikeLater left right left' right' := by
  constructor
  · rintro ⟨middle, hleft, hright⟩
    obtain ⟨start, tail, rfl, hstart, htail⟩ := List.map_eq_append_iff.mp hleft
    obtain ⟨c, between, rfl, hc, hbetween⟩ := List.map_eq_cons_iff.mp htail
    obtain ⟨between', tail', rfl, hbetween', htail'⟩ := List.map_eq_append_iff.mp hright
    obtain ⟨c', rest, rfl, hc', hrest⟩ := List.map_eq_cons_iff.mp htail'
    exact ⟨start, c, between, rfl, map_sanitizeChar_eq_iff.mp hstart.symm,
      sanitizeChar_eq_underscore.mp hc, between', c', rest, rfl,
      map_sanitizeChar_eq_iff.mp (hbetween'.trans hbetween.symm),
      sanitizeChar_eq_underscore.mp hc', map_sanitizeChar_eq_iff.mp hrest⟩
  · rintro ⟨start, c, between, rfl, hstart, hc, between', c', rest, rfl, hbetween, hc', hrest⟩
    refine ⟨between.map sanitizeChar, ?_, ?_⟩
    · rw [List.map_append, List.map_cons, sanitizeChar_eq_underscore.mpr hc,
        map_sanitizeChar_eq_iff.mpr hstart]
      rfl
    · rw [List.map_append, List.map_cons, sanitizeChar_eq_underscore.mpr hc',
        map_sanitizeChar_eq_iff.mpr hrest, map_sanitizeChar_eq_iff.mpr hbetween]
      rfl

namespace DeviceIdentity

variable (homeDir : CString) (a b : DeviceIdentity)

/-- The ids are written the same in file names. -/
def FileAlike : Prop :=
  Alike a.productId.bytes b.productId.bytes ∧ Alike a.deviceId.bytes b.deviceId.bytes

/-- In file names the ids divide one text at different places. -/
def FileLater : Prop :=
  AlikeLater a.productId.bytes a.deviceId.bytes b.productId.bytes b.deviceId.bytes

variable {homeDir} {a b}

/-- **Two identities share a file** on the same condition, up to characters that look alike. -/
theorem shareFile_iff : ShareFile homeDir a b ↔
    homeDir.bytes.length + 11 + a.productId.bytes.length + a.deviceId.bytes.length ≤ maxPrinted ∧
      (FileAlike a b ∨ FileLater a b ∨ FileLater b a) := by
  have hsep : (CString.ofString "_").bytes = [0x5F] := by decide
  have hunbordered : Unbordered (CString.ofString "_").bytes := by
    rw [hsep]
    exact unbordered_cons (by decide)
  have hjoin := @join_eq_join_iff _ _ (a.productId.bytes.map sanitizeChar)
    (a.deviceId.bytes.map sanitizeChar) (b.productId.bytes.map sanitizeChar)
    (b.deviceId.bytes.map sanitizeChar) hunbordered
  rw [hsep, later_map_sanitizeChar, later_map_sanitizeChar, map_sanitizeChar_eq_iff,
    map_sanitizeChar_eq_iff] at hjoin
  simp only [ShareFile, keyFile, deviceKeyFilePath, Option.bind_eq_bind, Option.bind_some]
  rw [exists_printed_iff, FileAlike, FileLater, FileLater, ← hjoin]
  refine and_congr ?_ ?_
  · have hkeys : (CString.ofString "/keys/").bytes.length = 6 := by decide
    have hkey : (CString.ofString ".key").bytes.length = 4 := by decide
    simp only [CString.append, List.length_append, hkeys, hkey, hsep, List.length_singleton,
      bytes_sanitizeKeyComponent a.productId_ne, bytes_sanitizeKeyComponent a.deviceId_ne,
      List.length_map]
    omega
  · rw [← CString.bytes_inj]
    simp only [CString.append, join, List.append_cancel_left_eq, hsep,
      bytes_sanitizeKeyComponent, productId_ne, deviceId_ne]
    rw [← List.append_assoc, ← List.append_assoc, ← List.append_assoc, ← List.append_assoc,
      List.append_cancel_right_eq, List.append_assoc, List.append_assoc]

/-! ## When the names tell two devices apart -/

variable (homeDir a b)

/-- The file names of two devices are written the same, and are not too long to be written. -/
def FilesMeet : Prop :=
  homeDir.bytes.length + 11 + a.productId.bytes.length + a.deviceId.bytes.length ≤ maxPrinted ∧
    (FileAlike a b ∨ FileLater a b ∨ FileLater b a)

/-- The accounts of two devices are written the same, and are not too long to be written. -/
def AccountsMeet : Prop :=
  5 + a.productId.bytes.length + a.deviceId.bytes.length ≤ maxPrinted ∧
    (AccountLater a b ∨ AccountLater b a)

/-- Two different devices have different key files and different accounts exactly when their ids are
not written the same in either. -/
theorem keyNames_injective_iff :
    ((ShareFile homeDir a b → a = b) ∧ (ShareAccount a b → a = b)) ↔
      a = b ∨ ¬ FilesMeet homeDir a b ∧ ¬ AccountsMeet a b := by
  rw [shareFile_iff, shareAccount_iff, ← FilesMeet]
  by_cases hab : a = b
  · exact ⟨fun _ => .inl hab, fun _ => ⟨fun _ => hab, fun _ => hab⟩⟩
  · simp only [hab, false_or, imp_false, AccountsMeet]

/-- A device. -/
def named (productId deviceId : String) (hp : (CString.ofString productId).isEmpty = false)
    (hd : (CString.ofString deviceId).isEmpty = false) : DeviceIdentity where
  productId := .ofString productId
  deviceId := .ofString deviceId
  productId_ne := hp
  deviceId_ne := hd

/-- Devices `b_c` of product `a` and `c` of product `a_b` have one key file; devices `y,d=z` of
product `x` and `z` of product `x,d=y` have one account. -/
theorem keyNames_collide :
    ¬ ((ShareFile (.ofString "/home/u/.tmux-remote") (named "a" "b_c" (by decide) (by decide))
        (named "a_b" "c" (by decide) (by decide)) →
      named "a" "b_c" (by decide) (by decide) = named "a_b" "c" (by decide) (by decide))) ∧
    ¬ ((ShareAccount (named "x" "y,d=z" (by decide) (by decide))
        (named "x,d=y" "z" (by decide) (by decide)) →
      named "x" "y,d=z" (by decide) (by decide) = named "x,d=y" "z" (by decide) (by decide))) := by
  constructor
  · intro h
    have hsame := h ⟨.ofString "/home/u/.tmux-remote/keys/a_b_c.key", by decide +kernel,
      by decide +kernel⟩
    exact absurd hsame (by decide)
  · intro h
    have hsame := h ⟨.ofString "p=x,d=y,d=z", by decide +kernel, by decide +kernel⟩
    exact absurd hsame (by decide)

end DeviceIdentity

end TmuxRemote
