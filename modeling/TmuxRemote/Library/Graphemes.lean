import Mathlib.Data.List.Basic

/-!
# Library/Graphemes — text cut into characters (Unicode text segmentation)

A character of a string is an extended grapheme cluster.  The rules are stated here; the properties
of the scalars that they look at are Unicode data, of which only what holds of printable ASCII is
used.  A rule looks back over the current cluster only: what makes a rule apply is never cut off
from the scalar it is applied at.
-/

namespace Grapheme

/-! ## Properties of scalars -/

/-- `Grapheme_Cluster_Break` -/
inductive ClusterBreak
  | cr | lf | control | extend | zwj | spacingMark | prepend
  | l | v | t | lv | lvt
  | regionalIndicator
  | other
  deriving DecidableEq

/-- `Indic_Conjunct_Break` -/
inductive ConjunctBreak
  | consonant | extend | linker | none
  deriving DecidableEq

/-- Printable ASCII. -/
def Plain (c : Char) : Prop := 0x20 ≤ c.toNat ∧ c.toNat < 0x7f

instance : DecidablePred Plain := fun _ => inferInstanceAs (Decidable (_ ∧ _))

/-- The Unicode data. -/
structure Properties where
  clusterBreak : Char → ClusterBreak
  conjunctBreak : Char → ConjunctBreak
  pictographic : Char → Bool
  clusterBreak_plain : ∀ {c}, Plain c → clusterBreak c = .other
  conjunctBreak_plain : ∀ {c}, Plain c → conjunctBreak c = .none
  pictographic_plain : ∀ {c}, Plain c → pictographic c = false

namespace ClusterBreak

def isControl (b : ClusterBreak) : Bool := b = .control || b = .cr || b = .lf

/-- The parts of a Hangul syllable. -/
def joinsHangul : ClusterBreak → ClusterBreak → Bool
  | .l, next => next = .l || next = .v || next = .lv || next = .lvt
  | .lv, next | .v, next => next = .v || next = .t
  | .lvt, next | .t, next => next = .t
  | _, _ => false

/-- A scalar that is part of the character before it. -/
def combines (b : ClusterBreak) : Bool := b = .extend || b = .zwj || b = .spacingMark

end ClusterBreak

/-! ## Characters -/

section
variable (props : Properties)

/-- A consonant behind a linker behind a consonant. -/
def joinsConjunct (cluster : List Char) (next : Char) : Bool :=
  let marks := cluster.takeWhile fun c =>
    props.conjunctBreak c = .extend || props.conjunctBreak c = .linker
  let base := cluster.drop marks.length
  props.conjunctBreak next = .consonant && marks.any (fun c => props.conjunctBreak c = .linker)
    && base.head?.any (fun c => props.conjunctBreak c = .consonant)

/-- A pictograph behind a joiner behind a pictograph. -/
def joinsPictograph : List Char → Char → Bool
  | [], _ => false
  | prev :: before, next =>
    let base := before.dropWhile fun c => props.clusterBreak c = .extend
    props.clusterBreak prev = .zwj && props.pictographic next && base.head?.any props.pictographic

/-- The scalar is part of the current cluster, whose scalars are listed from the last one back. -/
def joins : List Char → Char → Bool
  | [], _ => false
  | prev :: before, next =>
    let b := props.clusterBreak prev
    let b' := props.clusterBreak next
    if b = .cr ∧ b' = .lf then true
    else if b.isControl || b'.isControl then false
    else if b.joinsHangul b' then true
    else if b'.combines then true
    else if b = .prepend then true
    else if b = .regionalIndicator ∧ b' = .regionalIndicator then
      ((prev :: before).takeWhile
        fun c => props.clusterBreak c = .regionalIndicator).length % 2 == 1
    else joinsConjunct props (prev :: before) next || joinsPictograph props (prev :: before) next

/-- The characters of the rest, the current one first. -/
def charactersFrom : List Char → List Char → List (List Char)
  | cluster, [] => [cluster.reverse]
  | cluster, c :: s =>
    if joins props cluster c then charactersFrom (c :: cluster) s
    else cluster.reverse :: charactersFrom [c] s

/-- The characters of a string. -/
def characters : List Char → List (List Char)
  | [] => []
  | c :: s => charactersFrom props [c] s

/-- The characters that are complete, and the one that is not. -/
def cutLast : List Char → List Char → List (List Char) × List Char
  | cluster, [] => ([], cluster)
  | cluster, c :: s =>
    if joins props cluster c then cutLast (c :: cluster) s
    else
      let (complete, last) := cutLast [c] s
      (cluster.reverse :: complete, last)

end

variable {props : Properties} {c d : Char} {cluster before s t : List Char}

theorem charactersFrom_append (props : Properties) (cluster s t : List Char) :
    charactersFrom props cluster (s ++ t)
      = (cutLast props cluster s).1 ++ charactersFrom props (cutLast props cluster s).2 t := by
  induction s generalizing cluster with
  | nil => rfl
  | cons c s ih =>
    rw [List.cons_append, charactersFrom, cutLast]
    split_ifs
    · exact ih (c :: cluster)
    · rw [ih [c]]
      rfl

/-- Nothing is lost or moved. -/
theorem flatten_charactersFrom (props : Properties) (cluster s : List Char) :
    (charactersFrom props cluster s).flatten = cluster.reverse ++ s := by
  induction s generalizing cluster with
  | nil => simp [charactersFrom]
  | cons c s ih =>
    rw [charactersFrom]
    split_ifs
    · rw [ih, List.reverse_cons, List.append_assoc, List.singleton_append]
    · rw [List.flatten_cons, ih, List.reverse_singleton, List.singleton_append]

@[simp] theorem flatten_characters (props : Properties) (s : List Char) :
    (characters props s).flatten = s := by
  cases s with
  | nil => rfl
  | cons c s => exact flatten_charactersFrom props [c] s

/-- What is complete lacks the last character only. -/
theorem flatten_cutLast (props : Properties) (cluster s : List Char) :
    (cutLast props cluster s).1.flatten ++ (cutLast props cluster s).2.reverse
      = cluster.reverse ++ s := by
  have h := flatten_charactersFrom props cluster s
  rw [← List.append_nil s, charactersFrom_append, charactersFrom, List.flatten_append,
    List.flatten_singleton, List.append_nil] at h
  exact h

/-- The current cluster ends with the last scalar. -/
theorem head?_cutLast (h : cluster ≠ []) (s : List Char) :
    (cutLast props cluster s).2.head? = (cluster.reverse ++ s).getLast? := by
  induction s generalizing cluster with
  | nil =>
    rw [cutLast, List.append_nil, List.getLast?_reverse]
  | cons c s ih =>
    rw [cutLast]
    split_ifs
    · rw [ih (List.cons_ne_nil c cluster), List.reverse_cons, List.append_assoc,
        List.singleton_append]
    · rw [ih (List.cons_ne_nil c []), List.reverse_singleton, List.singleton_append,
        List.getLast?_append_of_ne_nil _ (List.cons_ne_nil c s)]

/-! ## Boundaries next to printable ASCII -/

/-- The string begins with a scalar that becomes part of a character before it. -/
def Combining (props : Properties) (s : List Char) : Prop :=
  ∃ c, s.head? = some c ∧ (props.clusterBreak c).combines = true

/-- The string ends with a scalar that becomes part of a character behind it. -/
def Prepending (props : Properties) (s : List Char) : Prop :=
  ∃ c, s.getLast? = some c ∧ props.clusterBreak c = .prepend

/-- Behind printable ASCII a scalar begins a character unless it combines. -/
theorem joins_of_plain_last (hc : Plain c) (d : Char) :
    joins props (c :: before) d = (props.clusterBreak d).combines := by
  have hmarks : joinsConjunct props (c :: before) d = false := by
    simp [joinsConjunct, props.conjunctBreak_plain hc]
  have hemoji : joinsPictograph props (c :: before) d = false := by
    simp [joinsPictograph, props.clusterBreak_plain hc]
  rw [joins, props.clusterBreak_plain hc, hmarks, hemoji]
  cases props.clusterBreak d <;> rfl

/-- Printable ASCII begins a character unless what is before it prepends. -/
theorem joins_plain (hd : Plain d) :
    joins props (c :: before) d = decide (props.clusterBreak c = .prepend) := by
  have hmarks : joinsConjunct props (c :: before) d = false := by
    simp [joinsConjunct, props.conjunctBreak_plain hd]
  have hemoji : joinsPictograph props (c :: before) d = false := by
    simp [joinsPictograph, props.pictographic_plain hd]
  rw [joins, props.clusterBreak_plain hd, hmarks, hemoji]
  cases props.clusterBreak c <;> rfl

/-- Two printable scalars are two characters. -/
theorem characters_cons_plain (hc : Plain c) (hd : Plain d) (t : List Char) :
    characters props (c :: d :: t) = [c] :: characters props (d :: t) := by
  rw [characters, charactersFrom, joins_plain hd, props.clusterBreak_plain hc]
  rfl

/-- A printable scalar before a string that does not combine with it. -/
theorem characters_cons (hc : Plain c) (hs : ¬ Combining props s) (hne : s ≠ []) :
    characters props (c :: s) = [c] :: characters props s := by
  obtain ⟨d, s, rfl⟩ := List.exists_cons_of_ne_nil hne
  have hd : (props.clusterBreak d).combines = false :=
    Bool.eq_false_iff.mpr fun h => hs ⟨d, rfl, h⟩
  rw [characters, charactersFrom, joins_of_plain_last hc, hd]
  rfl

/-- The current cluster is the beginning of the next character. -/
theorem charactersFrom_eq_cons (props : Properties) (cluster s : List Char) :
    ∃ more rest, charactersFrom props cluster s = (cluster.reverse ++ more) :: rest := by
  induction s generalizing cluster with
  | nil => exact ⟨[], [], by rw [charactersFrom, List.append_nil]⟩
  | cons c s ih =>
    rw [charactersFrom]
    split_ifs
    · obtain ⟨more, rest, h⟩ := ih (c :: cluster)
      exact ⟨c :: more, rest, by rw [h, List.reverse_cons, List.append_assoc,
        List.singleton_append]⟩
    · exact ⟨[], _, by rw [List.append_nil]⟩

/-- A printable scalar before a string that combines with it. -/
theorem characters_cons_combining (hc : Plain c) (hs : Combining props s) :
    ∃ d more rest, characters props (c :: s) = (c :: d :: more) :: rest := by
  obtain ⟨d, hd, hcombines⟩ := hs
  obtain ⟨s, rfl⟩ := List.head?_eq_some_iff.mp hd
  obtain ⟨more, rest, h⟩ := charactersFrom_eq_cons props [d, c] s
  refine ⟨d, more, rest, ?_⟩
  rw [characters, charactersFrom, joins_of_plain_last hc, hcombines, if_pos rfl, h]
  rfl

/-- Printable ASCII behind a string: its last character is complete, or takes the scalar in. -/
theorem characters_append (hs : s ≠ []) (hc : Plain c) (hd : Plain d) (t : List Char) :
    (¬ Prepending props s →
        characters props (s ++ c :: d :: t)
          = characters props s ++ [c] :: characters props (d :: t))
      ∧ (Prepending props s → ∃ before last, last ≠ [] ∧ s = before.flatten ++ last
        ∧ characters props (s ++ c :: d :: t)
          = before ++ (last ++ [c]) :: characters props (d :: t)) := by
  obtain ⟨e, s, rfl⟩ := List.exists_cons_of_ne_nil hs
  have hhead := @head?_cutLast props [e] (List.cons_ne_nil e []) s
  have hflatten := flatten_cutLast props [e] s
  have hall := charactersFrom_append props [e] s []
  rw [List.reverse_singleton, List.singleton_append] at hhead hflatten
  rw [List.append_nil, charactersFrom] at hall
  rw [characters, List.cons_append, characters, charactersFrom_append, hall]
  generalize cutLast props [e] s = cut at hhead hflatten
  obtain ⟨complete, last⟩ := cut
  obtain ⟨l, last, rfl⟩ : ∃ l last', last = l :: last' := by
    refine List.exists_cons_of_ne_nil fun hnil => ?_
    rw [hnil] at hhead
    exact absurd (List.getLast?_eq_none_iff.mp hhead.symm) hs
  have hrest : ∀ cluster, charactersFrom props (c :: cluster) (d :: t)
      = (c :: cluster).reverse :: characters props (d :: t) := by
    intro cluster
    rw [charactersFrom, joins_plain hd, props.clusterBreak_plain hc]
    rfl
  have hlast : (e :: s).getLast? = some l := hhead.symm
  rw [charactersFrom, joins_plain hc]
  constructor
  · intro hplain
    have hne : decide (props.clusterBreak l = .prepend) = false :=
      decide_eq_false fun h => hplain ⟨l, hlast, h⟩
    rw [hne, if_neg Bool.false_ne_true, hrest, List.append_assoc]
    rfl
  · rintro ⟨l', hl', hprepend⟩
    obtain rfl := Option.some.inj (hlast.symm.trans hl')
    refine ⟨complete, (l :: last).reverse, by simp, hflatten.symm, ?_⟩
    rw [decide_eq_true hprepend, if_pos rfl, hrest, List.reverse_cons]

/-- Every scalar of printable ASCII text is a character. -/
theorem characters_of_plain : ∀ {s : List Char}, (∀ c ∈ s, Plain c) →
    characters props s = s.map fun c => [c]
  | [], _ => rfl
  | [_], _ => rfl
  | c :: d :: s, h => by
      obtain ⟨hc, hs⟩ := List.forall_mem_cons.mp h
      rw [characters_cons_plain hc (hs d List.mem_cons_self), characters_of_plain hs]
      rfl

/-! ## Data -/

/-- The data of the scalars up to the combining diacritical marks, `U+036F`, and none of the
others. -/
def latinProperties : Properties where
  clusterBreak c :=
    if c.toNat = 0x0d then .cr
    else if c.toNat = 0x0a then .lf
    else if c.toNat < 0x20 ∨ (0x7f ≤ c.toNat ∧ c.toNat < 0xa0) ∨ c.toNat = 0xad then .control
    else if 0x300 ≤ c.toNat ∧ c.toNat ≤ 0x36f then .extend
    else .other
  conjunctBreak c := if 0x300 ≤ c.toNat ∧ c.toNat ≤ 0x36f then .extend else .none
  pictographic c := c.toNat = 0xa9 ∨ c.toNat = 0xae
  clusterBreak_plain := by
    rintro c ⟨hlow, hhigh⟩
    rw [if_neg (by omega), if_neg (by omega), if_neg (by omega), if_neg (by omega)]
  conjunctBreak_plain := by
    rintro c ⟨hlow, hhigh⟩
    exact if_neg (by omega)
  pictographic_plain := by
    rintro c ⟨hlow, hhigh⟩
    exact decide_eq_false (by omega)

end Grapheme
