import Mathlib.Data.List.Nodup

/-!
# Library/FirstSeen — a table of the first `n` things that were seen

Batches come in, no thing twice in one of them.  The things that a table has not are reported, and
fill it up as long as there is room.  The table has the first `n` things ever seen (`learn_seen`):
one that gets a place is reported once, and any other is reported with every batch it is in
(`timesReported_concat`).
-/

namespace FirstSeen

variable {α : Type*} [DecidableEq α] (n : ℕ)

/-- What the batch has and the table has not. -/
def unknown (table batch : List α) : List α := batch.filter (· ∉ table)

/-- The table after the batch. -/
def learn (table batch : List α) : List α := (table ++ unknown table batch).take n

/-- What was seen, in the order in which it was first seen. -/
def seen (start : List α) (batches : List (List α)) : List α := (start ++ batches.flatten).eraseDups

/-- How often a thing is reported, where what is seen at the start is not. -/
def timesReported (start : List α) (batches : List (List α)) (a : α) : ℕ :=
  if a ∈ (seen start batches).take n then if a ∈ start then 0 else 1
  else batches.countP (a ∈ ·)

variable {n} {start batch : List α} {batches : List (List α)} {a : α}

theorem eraseDups_eq_self (h : batch.Nodup) : batch.eraseDups = batch := by
  induction batch with
  | nil => rfl
  | cons a batch ih =>
    obtain ⟨hnotin, hnodup⟩ := List.nodup_cons.mp h
    have hfilter : (batch.filter fun b => !b == a) = batch := by
      refine List.filter_eq_self.mpr fun b hb => ?_
      have hne : b ≠ a := fun heq => hnotin (heq ▸ hb)
      simpa using hne
    rw [List.eraseDups_cons, hfilter, ih hnodup]

theorem mem_unknown {table : List α} : a ∈ unknown table batch ↔ a ∈ batch ∧ a ∉ table := by
  rw [unknown, List.mem_filter, decide_eq_true_eq]

theorem nodup_unknown {table : List α} (h : batch.Nodup) : (unknown table batch).Nodup :=
  h.filter _

theorem mem_seen : a ∈ seen start batches ↔ a ∈ start ∨ ∃ batch ∈ batches, a ∈ batch := by
  rw [seen, List.mem_eraseDups, List.mem_append, List.mem_flatten]

@[simp] theorem seen_nil (h : start.Nodup) : seen start [] = start := by
  rw [seen, List.flatten_nil, List.append_nil, eraseDups_eq_self h]

@[simp] theorem timesReported_nil (h : start.Nodup) (a : α) : timesReported n start [] a = 0 := by
  rw [timesReported, seen_nil h]
  split_ifs with htable hstart
  · rfl
  · exact absurd (List.mem_of_mem_take htable) hstart
  · rfl

theorem seen_concat (hbatch : batch.Nodup) :
    seen start (batches ++ [batch])
      = seen start batches ++ unknown (seen start batches) batch := by
  have hrest : batch.removeAll (start ++ batches.flatten)
      = unknown (seen start batches) batch := by
    rw [List.removeAll, unknown]
    refine List.filter_congr fun b _ => ?_
    rw [seen, List.elem_eq_contains, Bool.eq_iff_iff]
    simp only [Bool.not_eq_eq_eq_not, Bool.not_true, decide_eq_true_eq, List.mem_eraseDups]
    rw [← Bool.not_eq_true, List.contains_iff_mem]
  rw [seen, List.flatten_concat, ← List.append_assoc, List.eraseDups_append, hrest, ← seen,
    eraseDups_eq_self (nodup_unknown hbatch)]

/-- With room left, everything that was seen is in the table. -/
theorem take_seen_of_mem_concat (hbatch : batch.Nodup)
    (hnew : a ∈ (seen start (batches ++ [batch])).take n) (hold : a ∉ (seen start batches).take n) :
    (seen start batches).take n = seen start batches := by
  refine List.take_of_length_le (Nat.not_lt.mp fun hlt => hold ?_)
  rwa [seen_concat hbatch, List.take_append_of_le_length (Nat.le_of_lt hlt)] at hnew

/-- **The table has the first things seen.** -/
theorem learn_seen (hbatch : batch.Nodup) :
    learn n ((seen start batches).take n) batch = (seen start (batches ++ [batch])).take n := by
  rw [learn, seen_concat hbatch]
  obtain hlt | hle := Nat.lt_or_ge n (seen start batches).length
  · have hlength : ((seen start batches).take n).length = n := by
      rw [List.length_take]
      omega
    rw [List.take_append_of_le_length (Nat.le_of_eq hlength.symm), List.take_take, Nat.min_self,
      List.take_append_of_le_length (Nat.le_of_lt hlt)]
  · rw [List.take_of_length_le hle]

/-- **One batch more**: what it is reported for. -/
theorem timesReported_concat (hbatch : batch.Nodup) (a : α) :
    timesReported n start (batches ++ [batch]) a
      = timesReported n start batches a
        + (unknown ((seen start batches).take n) batch).count a := by
  have hreported : (unknown ((seen start batches).take n) batch).count a
      = if a ∈ batch ∧ a ∉ (seen start batches).take n then 1 else 0 := by
    rw [(nodup_unknown hbatch).count]
    exact if_congr mem_unknown rfl rfl
  have hkeeps : (seen start batches).take n <+: (seen start (batches ++ [batch])).take n := by
    rw [seen_concat hbatch, List.take_append]
    exact List.prefix_append _ _
  rw [hreported, timesReported, timesReported]
  by_cases hold : a ∈ (seen start batches).take n
  · have hknown : ¬ (a ∈ batch ∧ a ∉ (seen start batches).take n) := fun h => h.2 hold
    rw [if_pos (hkeeps.subset hold), if_pos hold, if_neg hknown, Nat.add_zero]
  · rw [if_neg hold]
    by_cases hnew : a ∈ (seen start (batches ++ [batch])).take n
    · -- there was room, and `a` was not seen before
      have hunseen : a ∉ seen start batches := take_seen_of_mem_concat hbatch hnew hold ▸ hold
      have hbatches : batches.countP (a ∈ ·) = 0 := by
        rw [List.countP_eq_zero]
        intro b hb hab
        exact hunseen (mem_seen.mpr (.inr ⟨b, hb, of_decide_eq_true hab⟩))
      have hmem : a ∈ batch := by
        have hseen := List.mem_of_mem_take hnew
        rw [seen_concat hbatch, List.mem_append] at hseen
        exact (mem_unknown.mp (hseen.resolve_left hunseen)).1
      rw [if_pos hnew, if_neg fun h => hunseen (mem_seen.mpr (.inl h)), if_pos ⟨hmem, hold⟩,
        hbatches]
    · rw [if_neg hnew, List.countP_append, List.countP_singleton]
      simp only [hold, not_false_eq_true, and_true, decide_eq_true_eq]

end FirstSeen
