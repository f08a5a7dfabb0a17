import TmuxRemote.Prompt.Rules

/-!
# Prompt/Identity — the instance id of a candidate (`build_instance_id`)

The id is a 64-bit FNV-1a hash in hexadecimal.  The hash runs over the fields one after the other,
with neither lengths nor separators between them: `identityBytes` is the byte sequence it sees.

What that sequence determines is settled by two fixed-width fields.  The type is four bytes of which
the last is `0`, and no string contains a `0`, so the pattern id and the type can be read back; the
anchor row is the last four bytes.  Between them stands the *running text*, the prompt followed by
label and keys of every action, and its field boundaries are lost.
-/

namespace TmuxRemote

open CLib

/-! ## The hash and the id -/

/-- `fnv1a64` -/
def fnv1a64 (data : List UInt8) (seed : UInt64) : UInt64 :=
  data.foldl (fun hash b => (hash ^^^ b.toUInt64) * 1099511628211) seed

theorem fnv1a64_append (xs ys : List UInt8) (seed : UInt64) :
    fnv1a64 (xs ++ ys) seed = fnv1a64 ys (fnv1a64 xs seed) := List.foldl_append

/-- The bytes of an enumeration or an `int` in memory. -/
def PromptType.bytes (t : PromptType) : List UInt8 := leBytes 4 t.value

/-- The bytes of `anchor_row` in memory. -/
def rowBytes (row : Int32) : List UInt8 := leBytes 4 row.toUInt32.toNat

/-- The hash `build_instance_id` computes, field by field. -/
def instanceHash (c : PromptCandidate) : UInt64 :=
  let hash := fnv1a64 c.patternId.bytes 1469598103934665603
  let hash := fnv1a64 c.patternType.bytes hash
  let hash := fnv1a64 c.prompt.bytes hash
  let hash := c.actions.foldl
    (fun hash action => fnv1a64 action.keys.bytes (fnv1a64 action.label.bytes hash)) hash
  fnv1a64 (rowBytes c.anchorRow) hash

/-- One digit of `%x`. -/
def hexDigit (n : ℕ) : UInt8 := UInt8.ofNat (if n < 10 then 0x30 + n else 0x61 + (n - 10))

theorem hexDigit_ne_zero : ∀ n < 16, hexDigit n ≠ 0 := by decide

/-- `snprintf(…, "%016" PRIx64, hash)` -/
def hex16 (hash : UInt64) : List UInt8 :=
  (List.range 16).map fun i => hexDigit (hash.toNat / 16 ^ (15 - i) % 16)

/-- `build_instance_id` -/
def buildInstanceId (c : PromptCandidate) : InstanceId :=
  InstanceId.ofCString (CString.ofBytes (hex16 (instanceHash c)))

/-! ## The byte sequence under the hash -/

/-- Label and keys of every action, one after the other. -/
def actionText : List PromptAction → List UInt8
  | [] => []
  | action :: actions => action.label.bytes ++ action.keys.bytes ++ actionText actions

/-- The prompt and every action as they follow one another. -/
def runningText (c : PromptCandidate) : List UInt8 := c.prompt.bytes ++ actionText c.actions

/-- The byte sequence `build_instance_id` feeds to FNV-1a. -/
def identityBytes (c : PromptCandidate) : List UInt8 :=
  c.patternId.bytes ++ (c.patternType.bytes ++ (runningText c ++ rowBytes c.anchorRow))

theorem fnv1a64_actionText (actions : List PromptAction) (seed : UInt64) :
    fnv1a64 (actionText actions) seed
      = actions.foldl
          (fun hash action => fnv1a64 action.keys.bytes (fnv1a64 action.label.bytes hash))
          seed := by
  induction actions generalizing seed with
  | nil => rfl
  | cons action actions ih =>
    rw [actionText, fnv1a64_append, fnv1a64_append, ih, List.foldl_cons]

/-- The field-by-field hash is the hash of the concatenation. -/
theorem instanceHash_eq (c : PromptCandidate) :
    instanceHash c = fnv1a64 (identityBytes c) 1469598103934665603 := by
  rw [identityBytes, runningText, fnv1a64_append, fnv1a64_append, fnv1a64_append, fnv1a64_append,
    fnv1a64_actionText]
  rfl

/-! ## Reading the sequence back -/

/-- The lengths of the fields of the running text. -/
def fieldLengths (c : PromptCandidate) : ℕ × List (ℕ × ℕ) :=
  (c.prompt.bytes.length,
    c.actions.map fun action => (action.label.bytes.length, action.keys.bytes.length))

theorem rowBytes_injective : Function.Injective rowBytes := by
  intro r s h
  have hnat : r.toUInt32.toNat = s.toUInt32.toNat :=
    leBytes_injOn r.toUInt32.toNat_lt s.toUInt32.toNat_lt h
  have hbits : r.toUInt32 = s.toUInt32 := UInt32.toNat_inj.mp hnat
  rw [← Int32.toInt32_toUInt32 r, hbits, Int32.toInt32_toUInt32]

theorem length_rowBytes (row : Int32) : (rowBytes row).length = 4 := length_leBytes _ _

theorem PromptType.bytes_injective : Function.Injective PromptType.bytes := by
  intro s t h
  cases s <;> cases t <;> first | rfl | exact absurd h (by decide)

/-- The type ends in a zero byte. -/
theorem PromptType.exists_bytes_eq (t : PromptType) :
    ∃ low : List UInt8, low.length = 3 ∧ t.bytes = low ++ [0] := by
  cases t
  · exact ⟨[0, 0, 0], rfl, rfl⟩
  · exact ⟨[1, 0, 0], rfl, rfl⟩
  · exact ⟨[2, 0, 0], rfl, rfl⟩

theorem actionText_nulFree (actions : List PromptAction) : ∀ b ∈ actionText actions, b ≠ 0 := by
  induction actions with
  | nil => exact fun b hb => absurd hb List.not_mem_nil
  | cons action actions ih =>
    intro b hb
    rw [actionText, List.mem_append, List.mem_append] at hb
    rcases hb with (hb | hb) | hb
    · exact action.label.nulFree b hb
    · exact action.keys.nulFree b hb
    · exact ih b hb

theorem runningText_nulFree (c : PromptCandidate) : ∀ b ∈ runningText c, b ≠ 0 := by
  intro b hb
  rcases List.mem_append.mp hb with hb | hb
  · exact c.prompt.nulFree b hb
  · exact actionText_nulFree c.actions b hb

/-- **What the sequence determines**: pattern id, type, running text and anchor row — no more. -/
theorem identityBytes_eq_iff {c d : PromptCandidate} :
    identityBytes c = identityBytes d
      ↔ c.patternId = d.patternId ∧ c.patternType = d.patternType
        ∧ runningText c = runningText d ∧ c.anchorRow = d.anchorRow := by
  constructor
  · intro h
    rw [identityBytes, identityBytes, ← List.append_assoc, ← List.append_assoc,
      ← List.append_assoc, ← List.append_assoc] at h
    -- the anchor row is the last four bytes
    obtain ⟨hfront, hrow⟩ := List.append_inj' h (by rw [length_rowBytes, length_rowBytes])
    -- the running text is what follows the last zero byte, the last of the type
    obtain ⟨lowc, hlenc, htypec⟩ := c.patternType.exists_bytes_eq
    obtain ⟨lowd, hlend, htyped⟩ := d.patternType.exists_bytes_eq
    have hfront' : (c.patternId.bytes ++ lowc) ++ 0 :: runningText c
        = (d.patternId.bytes ++ lowd) ++ 0 :: runningText d := by
      rw [htypec, htyped] at hfront
      simpa only [List.append_assoc, List.cons_append, List.nil_append] using hfront
    obtain ⟨htag, htext⟩ :=
      append_zero_inj (runningText_nulFree c) (runningText_nulFree d) hfront'
    obtain ⟨hid, hlow⟩ := List.append_inj' htag (by rw [hlenc, hlend])
    refine ⟨CString.bytes_inj.mp hid, PromptType.bytes_injective ?_, htext, rowBytes_injective hrow⟩
    rw [htypec, htyped, hlow]
  · rintro ⟨hid, htype, htext, hrow⟩
    rw [identityBytes, identityBytes, hid, htype, htext, hrow]

/-- The lengths cut the text of the actions. -/
theorem actionText_inj {as bs : List PromptAction} (htext : actionText as = actionText bs)
    (hlen : as.map (fun a => (a.label.bytes.length, a.keys.bytes.length))
      = bs.map fun a => (a.label.bytes.length, a.keys.bytes.length)) : as = bs := by
  induction as generalizing bs with
  | nil => rw [List.map_nil] at hlen; exact (List.map_eq_nil_iff.mp hlen.symm).symm
  | cons a as ih =>
    cases bs with
    | nil => rw [List.map_nil, List.map_eq_nil_iff] at hlen; exact hlen
    | cons b bs =>
      rw [List.map_cons, List.map_cons, List.cons.injEq, Prod.mk.injEq] at hlen
      obtain ⟨⟨hlabelLen, hkeysLen⟩, hlen⟩ := hlen
      rw [actionText, actionText] at htext
      obtain ⟨hab, htext⟩ := List.append_inj htext (by
        rw [List.length_append, List.length_append, hlabelLen, hkeysLen])
      obtain ⟨hlabel, hkeys⟩ := List.append_inj hab hlabelLen
      have hact : a = b :=
        PromptAction.ext (CString.bytes_inj.mp hlabel) (CString.bytes_inj.mp hkeys)
      rw [hact, ih htext hlen]

/-- Running text and field lengths together give the prompt and the actions back. -/
theorem runningText_inj {c d : PromptCandidate} (htext : runningText c = runningText d)
    (hlen : fieldLengths c = fieldLengths d) : c.prompt = d.prompt ∧ c.actions = d.actions := by
  rw [fieldLengths, fieldLengths, Prod.mk.injEq] at hlen
  obtain ⟨hprompt, hactions⟩ := List.append_inj htext hlen.1
  exact ⟨CString.bytes_inj.mp hprompt, actionText_inj hactions hlen.2⟩

/-! ## When the id separates two candidates -/

/-- **The id separates two candidates** from each other exactly when candidates that agree in
pattern id, type, anchor row and running text also cut that text at the same places. -/
theorem identity_separates_iff (c d : PromptCandidate) :
    (identityBytes c = identityBytes d → c.toInstance.sameSemantics d.toInstance = true)
      ↔ (c.patternId = d.patternId → c.patternType = d.patternType → c.anchorRow = d.anchorRow →
          runningText c = runningText d → fieldLengths c = fieldLengths d) := by
  rw [PromptCandidate.sameSemantics_toInstance, identityBytes_eq_iff]
  constructor
  · intro h hid htype hrow htext
    rw [h ⟨hid, htype, htext, hrow⟩]
  · rintro h ⟨hid, htype, htext, hrow⟩
    obtain ⟨hprompt, hactions⟩ := runningText_inj htext (h hid htype hrow htext)
    exact PromptCandidate.ext hid htype hprompt hactions hrow

/-- The menu whose first option reads `a1b` and whose second reads `c`. -/
def firstLongMenu : PromptCandidate where
  patternId := menuRule.patternId
  patternType := .numberedMenu
  prompt := CString.ofString "Pick"
  actions := [⟨CString.ofString "a1b", CString.ofString "1"⟩,
    ⟨CString.ofString "c", CString.ofString "2"⟩]
  anchorRow := 0
  actionCount_le := by decide

/-- The menu whose first option reads `a` and whose second reads `b1c`. -/
def secondLongMenu : PromptCandidate where
  patternId := menuRule.patternId
  patternType := .numberedMenu
  prompt := CString.ofString "Pick"
  actions := [⟨CString.ofString "a", CString.ofString "1"⟩,
    ⟨CString.ofString "b1c", CString.ofString "2"⟩]
  anchorRow := 0
  actionCount_le := by decide

/-- **Two menus with one identity**: the same rule reads both off a screen, label and key bytes
run together to `a1b1c2` in both, and so do the ids. -/
theorem identity_collides :
    rulesetMatch (fun _ => none) [menuRule] (screenOf 3 8 "Pick\r\n1. a1b\r\n2. c")
        = some firstLongMenu
      ∧ rulesetMatch (fun _ => none) [menuRule] (screenOf 3 8 "Pick\r\n1. a\r\n2. b1c")
        = some secondLongMenu
      ∧ ¬ (identityBytes firstLongMenu = identityBytes secondLongMenu →
            firstLongMenu.toInstance.sameSemantics secondLongMenu.toInstance = true)
      ∧ buildInstanceId firstLongMenu = buildInstanceId secondLongMenu := by
  refine ⟨by decide +kernel, by decide +kernel, ?_, by decide +kernel⟩
  rw [PromptCandidate.sameSemantics_toInstance]
  decide +kernel

end TmuxRemote
