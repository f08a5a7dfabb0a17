import Mathlib.Data.List.Basic

/-!
# Library/CappedWalk — a walk over a list that acts on the first `n` hits

A loop over a linked list that collects into an array of fixed size stops at its first `n` hits.
`cappedWalk n p f l` is the list after such a walk: `f` has been applied to the first `n` elements
that satisfy `p`.  With room for every hit it is a map (`cappedWalk_eq_map`); beyond the cap the
list is as it was (`cappedWalk_append`).
-/

variable {α : Type*}

/-- `f` on the first `n` elements that satisfy `p`. -/
def cappedWalk (n : ℕ) (p : α → Bool) (f : α → α) : List α → List α
  | [] => []
  | a :: l =>
    match n with
    | 0 => a :: l
    | n + 1 => if p a then f a :: cappedWalk n p f l else a :: cappedWalk (n + 1) p f l

section

variable {n : ℕ} {p : α → Bool} {f : α → α} {l : List α}

@[simp] theorem cappedWalk_nil : cappedWalk n p f [] = [] := by rw [cappedWalk]

@[simp] theorem cappedWalk_zero : cappedWalk 0 p f l = l := by cases l <;> rfl

theorem cappedWalk_cons_pos {a : α} (ha : p a = true) :
    cappedWalk (n + 1) p f (a :: l) = f a :: cappedWalk n p f l := by rw [cappedWalk, if_pos ha]

theorem cappedWalk_cons_neg {a : α} (ha : p a = false) :
    cappedWalk n p f (a :: l) = a :: cappedWalk n p f l := by
  cases n with
  | zero => rw [cappedWalk_zero, cappedWalk_zero]
  | succ n => rw [cappedWalk, if_neg (ha ▸ Bool.false_ne_true)]

/-- The rest of the list is walked with what the first part leaves of the cap. -/
theorem cappedWalk_append (pre rest : List α) :
    cappedWalk n p f (pre ++ rest)
      = cappedWalk n p f pre ++ cappedWalk (n - pre.countP p) p f rest := by
  induction pre generalizing n with
  | nil => rfl
  | cons a pre ih =>
    rw [List.cons_append]
    cases ha : p a with
    | false =>
      rw [cappedWalk_cons_neg ha, cappedWalk_cons_neg ha, ih,
        List.countP_cons_of_neg (by simp [ha])]
      rfl
    | true =>
      cases n with
      | zero => simp
      | succ n =>
        rw [cappedWalk_cons_pos ha, cappedWalk_cons_pos ha, ih, List.countP_cons_of_pos ha,
          Nat.add_sub_add_right]
        rfl

/-- **Room for every hit.** -/
theorem cappedWalk_eq_map (h : l.countP p ≤ n) :
    cappedWalk n p f l = l.map fun a => if p a then f a else a := by
  induction l generalizing n with
  | nil => rw [cappedWalk_nil, List.map_nil]
  | cons a l ih =>
    cases ha : p a with
    | false =>
      rw [List.countP_cons_of_neg (by simp [ha])] at h
      rw [cappedWalk_cons_neg ha, ih h, List.map_cons, if_neg (by simp [ha])]
    | true =>
      rw [List.countP_cons_of_pos ha] at h
      obtain ⟨n, rfl⟩ : ∃ m, n = m + 1 := ⟨n - 1, by omega⟩
      rw [cappedWalk_cons_pos ha, ih (by omega), List.map_cons, if_pos ha]

/-- What a walk leaves is acted on or was there. -/
theorem mem_of_mem_cappedWalk {b : α} (hb : b ∈ cappedWalk n p f l) :
    (∃ a ∈ l, p a = true ∧ b = f a) ∨ b ∈ l := by
  induction l generalizing n with
  | nil => exact absurd hb (by simp)
  | cons a l ih =>
    have htail {m : ℕ} (hb : b ∈ cappedWalk m p f l) :
        (∃ a' ∈ a :: l, p a' = true ∧ b = f a') ∨ b ∈ a :: l :=
      (ih hb).imp (fun ⟨a', ha', h⟩ => ⟨a', List.mem_cons_of_mem a ha', h⟩)
        (List.mem_cons_of_mem a)
    cases ha : p a with
    | false =>
      rw [cappedWalk_cons_neg ha] at hb
      obtain rfl | hb := List.mem_cons.mp hb
      · exact Or.inr List.mem_cons_self
      · exact htail hb
    | true =>
      cases n with
      | zero =>
        rw [cappedWalk_zero] at hb
        exact Or.inr hb
      | succ n =>
        rw [cappedWalk_cons_pos ha] at hb
        obtain rfl | hb := List.mem_cons.mp hb
        · exact Or.inl ⟨a, List.mem_cons_self, ha, rfl⟩
        · exact htail hb

/-- What does not hit is left as it is. -/
theorem mem_cappedWalk_of_neg {a : α} (ha : a ∈ l) (hp : p a = false) : a ∈ cappedWalk n p f l := by
  obtain ⟨pre, rest, rfl⟩ := List.append_of_mem ha
  rw [cappedWalk_append, cappedWalk_cons_neg hp]
  exact List.mem_append_right _ List.mem_cons_self

/-- With room for one, some hit is acted on. -/
theorem exists_mem_cappedWalk (hn : n ≠ 0) (hl : ∃ a ∈ l, p a = true) :
    ∃ a ∈ l, p a = true ∧ f a ∈ cappedWalk n p f l := by
  obtain ⟨n, rfl⟩ := Nat.exists_eq_succ_of_ne_zero hn
  induction l with
  | nil => exact absurd hl (by simp)
  | cons a l ih =>
    cases ha : p a with
    | true =>
      refine ⟨a, List.mem_cons_self, ha, ?_⟩
      rw [cappedWalk_cons_pos ha]
      exact List.mem_cons_self
    | false =>
      obtain ⟨b, hb, hpb⟩ := hl
      have hbl : b ∈ l := (List.mem_cons.mp hb).resolve_left fun h => by simp [h, ha] at hpb
      obtain ⟨c, hc, hpc, hfc⟩ := ih ⟨b, hbl, hpb⟩
      refine ⟨c, List.mem_cons_of_mem a hc, hpc, ?_⟩
      rw [cappedWalk_cons_neg ha]
      exact List.mem_cons_of_mem a hfc

/-- What the action keeps is counted as before. -/
theorem countP_cappedWalk {q : α → Bool} (hf : ∀ a, q (f a) = q a) :
    (cappedWalk n p f l).countP q = l.countP q := by
  induction l generalizing n with
  | nil => simp
  | cons a l ih =>
    cases ha : p a with
    | false => rw [cappedWalk_cons_neg ha, List.countP_cons, ih, List.countP_cons]
    | true =>
      cases n with
      | zero => simp
      | succ n => rw [cappedWalk_cons_pos ha, List.countP_cons, ih, hf, List.countP_cons]

/-- A second walk after the same hits finds them where the first one found them. -/
theorem cappedWalk_cappedWalk {g : α → α} (hf : ∀ a, p a = true → p (f a) = true) :
    cappedWalk n p g (cappedWalk n p f l) = cappedWalk n p (g ∘ f) l := by
  induction l generalizing n with
  | nil => simp
  | cons a l ih =>
    cases ha : p a with
    | false => rw [cappedWalk_cons_neg ha, cappedWalk_cons_neg ha, ih, cappedWalk_cons_neg ha]
    | true =>
      cases n with
      | zero => simp
      | succ n =>
        rw [cappedWalk_cons_pos ha, cappedWalk_cons_pos (hf a ha), ih, cappedWalk_cons_pos ha]
        rfl

/-- Walks with hits that agree on the list do the same. -/
theorem cappedWalk_congr {q : α → Bool} (h : ∀ a ∈ l, p a = q a) :
    cappedWalk n p f l = cappedWalk n q f l := by
  induction l generalizing n with
  | nil => simp
  | cons a l ih =>
    have hrest (m : ℕ) : cappedWalk m p f l = cappedWalk m q f l :=
      ih fun b hb => h b (List.mem_cons_of_mem a hb)
    have hpq := h a List.mem_cons_self
    cases ha : p a with
    | false => rw [cappedWalk_cons_neg ha, cappedWalk_cons_neg (hpq ▸ ha), hrest]
    | true =>
      cases n with
      | zero => simp
      | succ n => rw [cappedWalk_cons_pos ha, cappedWalk_cons_pos (hpq ▸ ha), hrest]

/-- The walks so far split the list where they reach the cap. -/
theorem exists_append_countP_eq (h : n ≤ l.countP p) :
    ∃ pre rest, l = pre ++ rest ∧ pre.countP p = n := by
  induction l generalizing n with
  | nil => exact ⟨[], [], rfl, (Nat.le_zero.mp h).symm⟩
  | cons a l ih =>
    cases n with
    | zero => exact ⟨[], a :: l, rfl, rfl⟩
    | succ n =>
      cases ha : p a with
      | false =>
        rw [List.countP_cons_of_neg (by simp [ha])] at h
        obtain ⟨pre, rest, rfl, hpre⟩ := ih h
        exact ⟨a :: pre, rest, rfl, by rw [List.countP_cons_of_neg (by simp [ha]), hpre]⟩
      | true =>
        rw [List.countP_cons_of_pos ha] at h
        obtain ⟨pre, rest, rfl, hpre⟩ := ih (Nat.le_of_succ_le_succ h)
        exact ⟨a :: pre, rest, rfl, by rw [List.countP_cons_of_pos ha, hpre]⟩

end
