import Mathlib.Algebra.BigOperators.Group.List.Basic
import Mathlib.Algebra.GroupWithZero.Nat
import Mathlib.Algebra.Order.BigOperators.Group.List
import Mathlib.Data.List.DropRight
import Mathlib.Logic.Function.Iterate

/-!
# Library/Sheet — characters printed on an endless sheet

A sheet has rows of a fixed width and no end.  Characters are put one after the other, and a line
feed goes to the next row.  A screen of some height is a window that follows the printing head down:
it shows the last rows, once there are more than it has room for.

What the window shows of lines that were printed is compared with the lines themselves
(`Laid.shown_iff`): a line that is longer than a row takes up more than one of them, and each such
row shifts the lines below by one.
-/

/-- An endless sheet, and the position of the printing head, which counts cells from the start. -/
structure Sheet (α : Type*) where
  look : ℕ → α
  pos : ℕ

namespace Sheet

variable {α : Type*}

/-! ## Printing -/

/-- Put a character. -/
def put (t : Sheet α) (a : α) : Sheet α :=
  { look := Function.update t.look t.pos a, pos := t.pos + 1 }

@[simp] theorem put_pos (t : Sheet α) (a : α) : (t.put a).pos = t.pos + 1 := rfl

theorem put_look (t : Sheet α) (a : α) : (t.put a).look = Function.update t.look t.pos a := rfl

/-- Put characters one after the other. -/
def puts (t : Sheet α) (xs : List α) : Sheet α := xs.foldl put t

/-- Go to the next row. -/
def lineFeed (width : ℕ) (t : Sheet α) : Sheet α := { t with pos := (t.pos / width + 1) * width }

/-- The rows that have gone out of a window of some height. -/
def scrolled (width height : ℕ) (t : Sheet α) : ℕ := t.pos / width + 1 - height

/-- One row of the sheet. -/
def row (width : ℕ) (t : Sheet α) (i : ℕ) : List α :=
  (List.range width).map fun j => t.look (i * width + j)

@[simp] theorem length_row (width : ℕ) (t : Sheet α) (i : ℕ) : (t.row width i).length = width := by
  rw [row, List.length_map, List.length_range]

@[simp] theorem puts_nil (t : Sheet α) : t.puts [] = t := rfl

theorem puts_cons (t : Sheet α) (a : α) (xs : List α) : t.puts (a :: xs) = (t.put a).puts xs := rfl

@[simp] theorem pos_puts (t : Sheet α) (xs : List α) : (t.puts xs).pos = t.pos + xs.length := by
  induction xs generalizing t with
  | nil => rfl
  | cons a xs ih =>
    rw [puts_cons, ih, List.length_cons, put_pos]
    omega

/-- Behind the head nothing changes. -/
theorem look_puts_of_lt {t : Sheet α} {i : ℕ} (xs : List α) (h : i < t.pos) :
    (t.puts xs).look i = t.look i := by
  induction xs generalizing t with
  | nil => rfl
  | cons a xs ih =>
    rw [puts_cons, ih (Nat.lt_succ_of_lt h), put_look]
    exact Function.update_of_ne (Nat.ne_of_lt h) _ _

/-- Where the characters went. -/
theorem look_puts_add {t : Sheet α} {xs : List α} {j : ℕ} {a : α} (h : xs[j]? = some a) :
    (t.puts xs).look (t.pos + j) = a := by
  induction xs generalizing t j with
  | nil => exact nomatch h
  | cons b xs ih =>
    rw [puts_cons]
    cases j with
    | zero =>
      obtain rfl := Option.some.inj h
      rw [Nat.add_zero, look_puts_of_lt xs (Nat.lt_succ_self _), put_look]
      exact Function.update_self _ _ _
    | succ j =>
      have hpos : t.pos + (j + 1) = (t.put b).pos + j := by
        rw [put_pos]
        omega
      rw [hpos]
      exact ih h

/-- Ahead of the head nothing changes. -/
theorem look_puts_of_le {t : Sheet α} {xs : List α} {i : ℕ} (h : t.pos + xs.length ≤ i) :
    (t.puts xs).look i = t.look i := by
  induction xs generalizing t with
  | nil => rfl
  | cons a xs ih =>
    rw [List.length_cons] at h
    have hnext : (t.put a).pos + xs.length ≤ i := by
      rw [put_pos]
      omega
    rw [puts_cons, ih hnext, put_look]
    exact Function.update_of_ne (by omega) _ _

/-! ## Line feeds -/

@[simp] theorem look_lineFeeds (width n : ℕ) (t : Sheet α) :
    ((lineFeed width)^[n] t).look = t.look := by
  induction n generalizing t with
  | zero => rfl
  | succ n ih => exact ih (t.lineFeed width)

/-- A line feed goes down by one row. -/
theorem pos_lineFeeds_div {width : ℕ} (hwidth : 0 < width) (n : ℕ) (t : Sheet α) :
    ((lineFeed width)^[n] t).pos / width = t.pos / width + n := by
  induction n generalizing t with
  | zero => rfl
  | succ n ih =>
    rw [Function.iterate_succ_apply, ih, lineFeed, Nat.mul_div_cancel _ hwidth]
    omega

/-! ## Lines -/

/-- The rows that the lines before line `i` fill: so far line `i` is shifted. -/
def shiftOf (width : ℕ) (lines : List (List α)) (i : ℕ) : ℕ :=
  ((lines.take i).map fun line => line.length / width).sum

/-- The row in which line `i` starts. -/
def startRow (width : ℕ) (lines : List (List α)) (i : ℕ) : ℕ := i + shiftOf width lines i

/-- A sheet that has the lines and nothing else, the head on the row below. -/
structure Laid (width : ℕ) (blank : α) (lines : List (List α)) (t : Sheet α) : Prop where
  pos : t.pos = startRow width lines lines.length * width
  look_line : ∀ {i j text a}, lines[i]? = some text → text[j]? = some a →
    t.look (startRow width lines i * width + j) = a
  look_rest : ∀ {k}, (∀ i line j, lines[i]? = some line → j < line.length →
    k ≠ startRow width lines i * width + j) → t.look k = blank

section
variable {width : ℕ} {blank : α} {lines : List (List α)} {t : Sheet α}

theorem shiftOf_concat_of_le {i : ℕ} (line : List α) (h : i ≤ lines.length) :
    shiftOf width (lines ++ [line]) i = shiftOf width lines i := by
  rw [shiftOf, shiftOf, List.take_append_of_le_length h]

theorem shiftOf_succ {i : ℕ} {line : List α} (h : lines[i]? = some line) :
    shiftOf width lines (i + 1) = shiftOf width lines i + line.length / width := by
  rw [shiftOf, shiftOf, List.take_add_one, h, Option.toList_some, List.map_append, List.sum_append,
    List.map_singleton, List.sum_singleton]

theorem shiftOf_mono (width : ℕ) (lines : List (List α)) : Monotone (shiftOf width lines) := by
  refine monotone_nat_of_le_succ fun i => ?_
  cases hline : lines[i]? with
  | none =>
    have hlen := List.getElem?_eq_none_iff.mp hline
    rw [shiftOf, shiftOf, List.take_of_length_le hlen, List.take_of_length_le (by omega)]
  | some line =>
    rw [shiftOf_succ hline]
    exact Nat.le_add_right _ _

/-- A line ends before the next one starts. -/
theorem line_end_le (hwidth : 0 < width) {i j : ℕ} {line : List α} (h : lines[i]? = some line)
    (hij : i < j) :
    startRow width lines i * width + line.length < startRow width lines j * width := by
  have hshift := shiftOf_mono width lines hij
  rw [Nat.succ_eq_add_one, shiftOf_succ h] at hshift
  have hrows : startRow width lines i + (line.length / width + 1) ≤ startRow width lines j := by
    rw [startRow, startRow]
    omega
  calc startRow width lines i * width + line.length
      < startRow width lines i * width + (line.length / width + 1) * width := by
        have hlt : line.length < line.length / width * width + width := Nat.lt_div_mul_add hwidth
        rw [Nat.succ_mul]
        omega
    _ = (startRow width lines i + (line.length / width + 1)) * width := (Nat.add_mul _ _ _).symm
    _ ≤ startRow width lines j * width := Nat.mul_le_mul_right _ hrows

/-- Nothing has been printed yet. -/
theorem laid_nil (hlook : ∀ k, t.look k = blank) (hpos : t.pos = 0) : Laid width blank [] t where
  pos := hpos.trans (Nat.zero_mul width).symm
  look_line := nofun
  look_rest := fun _ => hlook _

/-- **One more line**, at the head of its row. -/
theorem Laid.puts (h : Laid width blank lines t) (hwidth : 0 < width) (line : List α) :
    Laid width blank (lines ++ [line]) ((t.puts line).lineFeed width) := by
  have hstart {i : ℕ} (hi : i ≤ lines.length) :
      startRow width (lines ++ [line]) i = startRow width lines i := by
    rw [startRow, startRow, shiftOf_concat_of_le line hi]
  have hlast : (lines ++ [line])[lines.length]? = some line := List.getElem?_concat_length
  have hpos : t.pos = startRow width (lines ++ [line]) lines.length * width := by
    rw [hstart le_rfl, h.pos]
  have hgrow {i : ℕ} {l : List α} (hi : lines[i]? = some l) :
      i < lines.length ∧ (lines ++ [line])[i]? = some l := by
    have hlt := (List.getElem?_eq_some_iff.mp hi).1
    exact ⟨hlt, (List.getElem?_append_left hlt).trans hi⟩
  refine ⟨?_, ?_, ?_⟩
  · have hrow : (t.puts line).pos / width
        = startRow width (lines ++ [line]) lines.length + line.length / width := by
      rw [pos_puts, hpos, Nat.mul_comm, Nat.mul_add_div hwidth]
    have hnext : startRow width (lines ++ [line]) (lines.length + 1)
        = startRow width (lines ++ [line]) lines.length + line.length / width + 1 := by
      rw [startRow, shiftOf_succ hlast, startRow]
      omega
    rw [List.length_append, List.length_singleton, hnext, ← hrow]
    rfl
  · intro i j l a hi hj
    by_cases hlt : i < lines.length
    · rw [List.getElem?_append_left hlt] at hi
      have hbefore := line_end_le hwidth hi hlt
      have hin := (List.getElem?_eq_some_iff.mp hj).1
      rw [hstart hlt.le, ← h.look_line hi hj]
      refine look_puts_of_lt line ?_
      rw [h.pos]
      omega
    · obtain ⟨rfl, rfl⟩ : i = lines.length ∧ l = line := by
        have hlength := (List.getElem?_eq_some_iff.mp hi).1
        rw [List.length_append, List.length_singleton] at hlength
        have heq : i = lines.length := by omega
        rw [heq, hlast] at hi
        exact ⟨heq, (Option.some.inj hi).symm⟩
      rw [← hpos]
      exact look_puts_add hj
  · intro k hk
    have hold : t.look k = blank := h.look_rest fun i l j hi hj => by
      obtain ⟨hlt, hi'⟩ := hgrow hi
      rw [← hstart hlt.le]
      exact hk i l j hi' hj
    obtain hlt | hle := Nat.lt_or_ge k t.pos
    · exact (look_puts_of_lt line hlt).trans hold
    · obtain hin | hout := Nat.lt_or_ge k (t.pos + line.length)
      · refine absurd ?_ (hk _ line (k - t.pos) hlast (by omega))
        rw [← hpos]
        omega
      · exact (look_puts_of_le hout).trans hold

end

/-! ## Rows without their trailing blanks -/

section
variable {p : α → Bool}

theorem rdropWhile_append_of_all {xs ys : List α} (h : ∀ y ∈ ys, p y = true) :
    (xs ++ ys).rdropWhile p = xs.rdropWhile p := by
  induction ys using List.reverseRecOn with
  | nil => rw [List.append_nil]
  | append_singleton ys y ih =>
    obtain ⟨hys, hy⟩ := List.forall_mem_append.mp h
    rw [← List.append_assoc, List.rdropWhile_concat_pos _ _ _ (hy y (List.mem_singleton_self y)),
      ih hys]

theorem rdropWhile_congr {q : α → Bool} {xs : List α} (h : ∀ x ∈ xs, p x = q x) :
    xs.rdropWhile p = xs.rdropWhile q := by
  induction xs using List.reverseRecOn with
  | nil => rfl
  | append_singleton xs x ih =>
    obtain ⟨hxs, hx⟩ := List.forall_mem_append.mp h
    rw [List.rdropWhile_concat, List.rdropWhile_concat, hx x (List.mem_singleton_self x), ih hxs]

/-- What is dropped is blank. -/
theorem exists_eq_rdropWhile_append (p : α → Bool) (xs : List α) :
    ∃ ys, xs = xs.rdropWhile p ++ ys ∧ ∀ y ∈ ys, p y = true :=
  ⟨xs.rtakeWhile p, List.rdropWhile_append_rtakeWhile.symm, fun _ hy => List.mem_rtakeWhile_imp hy⟩

/-- A prefix that has all that is not blank. -/
theorem rdropWhile_take {xs : List α} {n : ℕ} (h : (xs.rdropWhile p).length ≤ n) :
    (xs.take n).rdropWhile p = xs.rdropWhile p := by
  obtain ⟨ys, heq, hys⟩ := exists_eq_rdropWhile_append p xs
  have htake : xs.take n = xs.rdropWhile p ++ ys.take (n - (xs.rdropWhile p).length) := by
    conv_lhs => rw [heq]
    rw [List.take_append, List.take_of_length_le h]
  rw [htake, rdropWhile_append_of_all fun y hy => hys y (List.mem_of_mem_take hy),
    List.rdropWhile_idempotent]

/-- Whatever is not blank is kept. -/
theorem lt_length_rdropWhile {xs : List α} {j : ℕ} {a : α} (hj : xs[j]? = some a)
    (ha : p a = false) : j < (xs.rdropWhile p).length := by
  obtain ⟨ys, heq, hys⟩ := exists_eq_rdropWhile_append p xs
  by_contra hle
  rw [heq, List.getElem?_append_right (Nat.not_lt.mp hle)] at hj
  exact absurd (hys a (List.mem_of_getElem? hj)) (Bool.eq_false_iff.mp ha)

end

/-! ## Where a shifted text is the text itself -/

/-- Of `n` entries, entry `i` stands at `i + w i`, and all else is blank.  Seen from `shift` on,
each entry stands at its own place just where those that are not blank are shifted by as much. -/
theorem shifted_iff {β : Type*} {blank : β} {n height shift : ℕ} {f e : ℕ → β} {w : ℕ → ℕ}
    (hmono : Monotone w) (hplaced : ∀ i < n, f (i + w i) = e i)
    (hrest : ∀ v, f v ≠ blank → ∃ i < n, v = i + w i) (hbeyond : ∀ i, n ≤ i → e i = blank)
    (hn : n ≤ height) (hfits : ∀ i < n, i + w i < height + shift) :
    (∀ r < height, f (r + shift) = e r) ↔ ∀ i < n, e i ≠ blank → w i = shift := by
  constructor
  · intro hsame i hi hne
    -- from the last entry upwards
    induction hd : n - i using Nat.strong_induction_on generalizing i with
    | _ d ih =>
      subst hd
      have hbelow {k : ℕ} (hk : k < n) (hik : i < k) (hkne : e k ≠ blank) : w k = shift :=
        ih (n - k) (by omega) k hk hkne rfl
      -- the entry that is seen at place `i`
      have hseen := hsame i (by omega)
      obtain ⟨k, hk, heq⟩ := hrest (i + shift) (by rwa [hseen])
      have hkne : e k ≠ blank := by rwa [← hplaced k hk, ← heq, hseen]
      obtain hlt | rfl | hgt := Nat.lt_trichotomy k i
      · -- entry `i` itself is seen further down, where another entry should be
        have hplace := hplaced i hi
        have hwk := hmono hlt.le
        have hdown := hsame (i + w i - shift) (by have := hfits i hi; omega)
        rw [Nat.sub_add_cancel (by omega), hplace] at hdown
        have hdown_lt : i + w i - shift < n := by
          by_contra hge
          exact hne (hdown.trans (hbeyond _ (Nat.not_lt.mp hge)))
        have hdown_w := hbelow hdown_lt (by omega) (by rwa [← hdown])
        have hwi := hmono (show i ≤ i + w i - shift by omega)
        omega
      · omega
      · have := hbelow hk hgt hkne
        omega
  · intro hshift r hr
    by_cases hblank : e r = blank
    · rw [hblank]
      by_contra hne
      obtain ⟨i, hi, heq⟩ := hrest _ hne
      have hine : e i ≠ blank := by rwa [← hplaced i hi, ← heq]
      have hri : r = i := by
        have := hshift i hi hine
        omega
      exact hine (hri ▸ hblank)
    · have hrn : r < n := by
        by_contra hge
        exact hblank (hbeyond r (Nat.not_lt.mp hge))
      rw [← hplaced r hrn, hshift r hrn hblank]

section
variable {width : ℕ} {blank : α} {p : α → Bool} {lines : List (List α)} {t : Sheet α}

theorem startRow_lt {i j : ℕ} (hij : i < j) : startRow width lines i < startRow width lines j := by
  have hshift := shiftOf_mono width lines hij.le
  rw [startRow, startRow]
  omega

/-- To the right of a line that is shorter than a row. -/
theorem Laid.look_right (h : Laid width blank lines t) (hwidth : 0 < width) {i j : ℕ}
    {line : List α} (hi : lines[i]? = some line) (hline : line.length ≤ j) (hj : j < width) :
    t.look (startRow width lines i * width + j) = blank := by
  refine h.look_rest fun i' line' j' hi' hj' heq => ?_
  obtain hlt | rfl | hgt := Nat.lt_trichotomy i' i
  · have := line_end_le hwidth hi' hlt
    omega
  · rw [hi] at hi'
    obtain rfl := Option.some.inj hi'
    omega
  · have hrow : (startRow width lines i + 1) * width ≤ startRow width lines i' * width :=
      Nat.mul_le_mul_right _ (startRow_lt hgt)
    rw [Nat.succ_mul] at hrow
    omega

/-- The row that a line starts in. -/
theorem Laid.row_startRow (h : Laid width blank lines t) (hwidth : 0 < width) {i : ℕ}
    {line : List α} (hi : lines[i]? = some line) :
    t.row width (startRow width lines i)
      = line.take width ++ List.replicate (width - line.length) blank := by
  refine List.ext_getElem? fun j => ?_
  by_cases hj : j < width
  · rw [row, List.getElem?_map, List.getElem?_range hj, Option.map_some, List.getElem?_append,
      List.length_take]
    split_ifs with hin
    · have hline : j < line.length := by omega
      rw [List.getElem?_take_of_lt hj, List.getElem?_eq_getElem hline]
      exact congrArg some (h.look_line hi (List.getElem?_eq_getElem hline))
    · rw [List.getElem?_replicate_of_lt (by omega)]
      exact congrArg some (h.look_right hwidth hi (by omega) hj)
  · have hright : (line.take width ++ List.replicate (width - line.length) blank).length ≤ j := by
      rw [List.length_append, List.length_take, List.length_replicate]
      omega
    rw [List.getElem?_eq_none hright, List.getElem?_eq_none (by rw [length_row]; omega)]

theorem Laid.rdropWhile_row (h : Laid width blank lines t) (hwidth : 0 < width)
    (hblank : p blank = true) {i : ℕ} {line : List α} (hi : lines[i]? = some line)
    (hfits : (line.rdropWhile p).length ≤ width) :
    (t.row width (startRow width lines i)).rdropWhile p = line.rdropWhile p := by
  rw [h.row_startRow hwidth hi, rdropWhile_append_of_all, rdropWhile_take hfits]
  intro y hy
  rw [List.eq_of_mem_replicate hy]
  exact hblank

/-- A row that is not blank is the start of a line. -/
theorem Laid.exists_of_row (h : Laid width blank lines t) (hwidth : 0 < width)
    (hblank : p blank = true) (hfits : ∀ line ∈ lines, (line.rdropWhile p).length ≤ width) {v : ℕ}
    (hv : (t.row width v).rdropWhile p ≠ []) :
    ∃ i < lines.length, v = startRow width lines i := by
  rw [ne_eq, List.rdropWhile_eq_nil_iff, row] at hv
  obtain ⟨j, hj, hlook⟩ : ∃ j < width, p (t.look (v * width + j)) = false := by
    by_contra hnone
    refine hv fun x hx => ?_
    obtain ⟨j, hj, rfl⟩ := List.mem_map.mp hx
    by_contra hx
    exact hnone ⟨j, List.mem_range.mp hj, (Bool.not_eq_true _).mp hx⟩
  obtain ⟨i, line, j', hi, hj', heq⟩ : ∃ i line j', lines[i]? = some line ∧ j' < line.length
      ∧ v * width + j = startRow width lines i * width + j' := by
    by_contra hnone
    have hrest : t.look (v * width + j) = blank :=
      h.look_rest fun i line j' hi hj' heq => hnone ⟨i, line, j', hi, hj', heq⟩
    rw [hrest, hblank] at hlook
    exact Bool.noConfusion hlook
  have hread := h.look_line hi (List.getElem?_eq_getElem hj')
  rw [← heq] at hread
  rw [hread] at hlook
  have hkept := lt_length_rdropWhile (List.getElem?_eq_getElem hj') hlook
  have hline := hfits line (List.mem_of_getElem? hi)
  refine ⟨i, (List.getElem?_eq_some_iff.mp hi).1, ?_⟩
  -- both columns are inside a row
  have hdiv := congrArg (· / width) heq
  simp only [Nat.mul_comm _ width, Nat.mul_add_div hwidth, Nat.div_eq_of_lt hj,
    Nat.div_eq_of_lt (hkept.trans_le hline), Nat.add_zero] at hdiv
  exact hdiv

/-- **What a window shows of a text.**  It shows the lines as they are just where each fits into a
row, and those that are not blank are shifted by as many rows as have gone out of the window. -/
theorem Laid.shown_iff (h : Laid width blank lines t) (hwidth : 0 < width) (hblank : p blank = true)
    {height shift : ℕ} (hheight : lines.length ≤ height)
    (hrows : startRow width lines lines.length ≤ height + shift) :
    (∀ r < height, (t.row width (r + shift)).rdropWhile p = ((lines[r]?).getD []).rdropWhile p) ↔
      (∀ line ∈ lines, (line.rdropWhile p).length ≤ width)
        ∧ ∀ i line, lines[i]? = some line → line.rdropWhile p ≠ [] →
          shiftOf width lines i = shift := by
  have hiff (hfits : ∀ line ∈ lines, (line.rdropWhile p).length ≤ width) :=
    @shifted_iff (List α) [] lines.length height shift (fun v => (t.row width v).rdropWhile p)
      (fun i => ((lines[i]?).getD []).rdropWhile p) (shiftOf width lines)
      (shiftOf_mono width lines)
      (fun i hi => by
        have hline := List.getElem?_eq_getElem hi
        rw [hline, Option.getD_some]
        exact h.rdropWhile_row hwidth hblank hline (hfits _ (List.getElem_mem hi)))
      (fun v hv => h.exists_of_row hwidth hblank hfits hv)
      (fun i hi => by rw [List.getElem?_eq_none hi, Option.getD_none, List.rdropWhile_nil])
      hheight
      (fun i hi => (startRow_lt hi).trans_le hrows)
  constructor
  · intro hshown
    have hfits : ∀ line ∈ lines, (line.rdropWhile p).length ≤ width := by
      intro line hline
      obtain ⟨r, hr, rfl⟩ := List.getElem_of_mem hline
      have hsame := hshown r (hr.trans_le hheight)
      rw [List.getElem?_eq_getElem hr, Option.getD_some] at hsame
      have hle : ((t.row width (r + shift)).rdropWhile p).length
          ≤ (t.row width (r + shift)).length :=
        (List.rdropWhile_prefix p _).length_le
      rwa [hsame, length_row] at hle
    refine ⟨hfits, fun i line hi hne => (hiff hfits).mp hshown i ?_ ?_⟩
    · exact (List.getElem?_eq_some_iff.mp hi).1
    · rwa [hi, Option.getD_some]
  · rintro ⟨hfits, hshift⟩
    refine (hiff hfits).mpr fun i hi hne => hshift i _ (List.getElem?_eq_getElem hi) ?_
    rwa [List.getElem?_eq_getElem hi, Option.getD_some] at hne

end

end Sheet

/-! ## A row that is printed over and over -/

namespace Strip

variable {α : Type*}

/-- What characters leave on a row of `width` cells when they are put from column `start` on, the
head starting over at the end of the row: the last characters, and the old ones where none was
put. -/
structure Overprinted (width start : ℕ) (xs old new : List α) : Prop where
  length : new.length = width
  look_new : ∀ {i a}, xs[i]? = some a → xs.length ≤ i + width →
    new[(start + i) % width]? = some a
  look_old : ∀ {j}, j < width → (∀ i < xs.length, (start + i) % width ≠ j) → new[j]? = old[j]?

section
variable {width start : ℕ} {xs old new : List α}

theorem overprinted_nil (hold : old.length = width) : Overprinted width start [] old old where
  length := hold
  look_new := nofun
  look_old := fun _ _ => rfl

/-- Two columns are the same only a row apart. -/
theorem mod_ne {i j : ℕ} (hij : i < j) (hj : j < i + width) :
    (start + i) % width ≠ (start + j) % width := by
  intro heq
  have hdvd : width ∣ start + j - (start + i) :=
    Nat.dvd_of_mod_eq_zero (Nat.sub_mod_eq_zero_of_mod_eq heq.symm)
  have := Nat.le_of_dvd (by omega) hdvd
  omega

/-- The last character that went to a column. -/
theorem exists_last (start : ℕ) {n i : ℕ} (hwidth : 0 < width) (hi : i < n) :
    ∃ i', i ≤ i' ∧ i' < n ∧ n ≤ i' + width ∧ (start + i') % width = (start + i) % width := by
  have hmod := Nat.mod_add_div (n - 1 - i) width
  have hlt := Nat.mod_lt (n - 1 - i) hwidth
  refine ⟨i + width * ((n - 1 - i) / width), by omega, by omega, by omega, ?_⟩
  rw [← Nat.add_assoc, Nat.add_mul_mod_self_left]

/-- **One more character.** -/
theorem Overprinted.put (h : Overprinted width start xs old new) (hwidth : 0 < width) (a : α) :
    Overprinted width start (xs ++ [a]) old (new.set ((start + xs.length) % width) a) where
  length := by rw [List.length_set, h.length]
  look_new := by
    intro i b hi hlast
    rw [List.length_append, List.length_singleton] at hlast
    by_cases hlt : i < xs.length
    · rw [List.getElem?_append_left hlt] at hi
      rw [List.getElem?_set_ne (mod_ne hlt (by omega)).symm]
      exact h.look_new hi (by omega)
    · have hlength := (List.getElem?_eq_some_iff.mp hi).1
      rw [List.length_append, List.length_singleton] at hlength
      obtain rfl : i = xs.length := by omega
      rw [List.getElem?_concat_length] at hi
      rw [List.getElem?_set_self (by rw [h.length]; exact Nat.mod_lt _ hwidth), hi]
  look_old := by
    intro j hj hnone
    rw [List.length_append, List.length_singleton] at hnone
    rw [List.getElem?_set_ne (hnone _ (Nat.lt_succ_self _))]
    exact h.look_old hj fun i hi => hnone i (Nat.lt_succ_of_lt hi)

/-- **When the row is left as it was**: the last characters were there already. -/
theorem Overprinted.eq_iff (h : Overprinted width start xs old new) (hwidth : 0 < width)
    (hold : old.length = width) :
    new = old ↔ ∀ i a, xs[i]? = some a → xs.length ≤ i + width →
      old[(start + i) % width]? = some a := by
  constructor
  · rintro rfl i a hi hlast
    exact h.look_new hi hlast
  · intro hthere
    refine List.ext_getElem? fun j => ?_
    by_cases hj : j < width
    · by_cases hput : ∀ i < xs.length, (start + i) % width ≠ j
      · exact h.look_old hj hput
      · push Not at hput
        obtain ⟨i, hi, rfl⟩ := hput
        obtain ⟨i', -, hi', hlast, hcol⟩ := exists_last start hwidth hi
        have hx := List.getElem?_eq_getElem hi'
        rw [← hcol, h.look_new hx hlast, hthere i' _ hx hlast]
    · rw [List.getElem?_eq_none (by rw [h.length]; omega), List.getElem?_eq_none (by omega)]

/-- A column that no character has gone to. -/
theorem Overprinted.look_blank {blank : α}
    (h : Overprinted width 0 xs (List.replicate width blank) new) {j : ℕ} (hj : j < width)
    (hnone : xs.length ≤ j) : new[j]? = some blank := by
  rw [h.look_old hj, List.getElem?_replicate_of_lt hj]
  intro i hi
  rw [Nat.zero_add, Nat.mod_eq_of_lt (by omega)]
  omega

/-- A column that one character has gone to. -/
theorem Overprinted.look_once (h : Overprinted width 0 xs old new) {j : ℕ} (hj : j < xs.length)
    (hcol : j < width) (hlast : xs.length ≤ j + width) : new[j]? = xs[j]? := by
  have hx := List.getElem?_eq_getElem hj
  have hnew := h.look_new hx hlast
  rw [Nat.zero_add, Nat.mod_eq_of_lt hcol] at hnew
  rw [hnew, hx]

/-- A column that a later character has gone to, of a text whose later characters are blank. -/
theorem Overprinted.look_again {blank : α} {p : α → Bool} (h : Overprinted width 0 xs old new)
    (hwidth : 0 < width) (hxs : ∀ a ∈ xs, p a = true → a = blank)
    (hfits : (xs.rdropWhile p).length ≤ width) {j : ℕ} (hcol : j < width)
    (hlater : j + width < xs.length) : new[j]? = some blank := by
  obtain ⟨i, hij, hi, hlast, hmod⟩ := exists_last 0 hwidth (show j < xs.length by omega)
  have hx := List.getElem?_eq_getElem hi
  have hnew := h.look_new hx hlast
  rw [hmod, Nat.zero_add, Nat.mod_eq_of_lt hcol] at hnew
  have hblank : p xs[i] = true := by
    by_contra hkept
    have := Sheet.lt_length_rdropWhile hx ((Bool.not_eq_true _).mp hkept)
    -- `i` is in the first row, and in the same column: it is `j`, which is not the last
    rw [Nat.zero_add, Nat.zero_add, Nat.mod_eq_of_lt (by omega), Nat.mod_eq_of_lt hcol] at hmod
    omega
  rw [hnew, hxs _ (List.getElem_mem hi) hblank]

/-- **When the row shows the text**: it fits, and what is printed over is blank. -/
theorem Overprinted.rdropWhile_eq_iff {blank : α} {p : α → Bool}
    (h : Overprinted width 0 xs (List.replicate width blank) new) (hwidth : 0 < width)
    (hblank : p blank = true) (hxs : ∀ a ∈ xs, p a = true → a = blank) :
    new.rdropWhile p = xs.rdropWhile p ↔
      (xs.rdropWhile p).length ≤ width ∧ ∀ a ∈ xs.take (xs.length - width), a = blank := by
  constructor
  · intro hsame
    have hnew : new.rdropWhile p <+: new := List.rdropWhile_prefix p _
    have hfits : (xs.rdropWhile p).length ≤ width := by
      rw [← hsame, ← h.length]
      exact hnew.length_le
    refine ⟨hfits, fun a ha => ?_⟩
    by_contra hne
    obtain ⟨j, hj, rfl⟩ := List.getElem_of_mem ha
    rw [List.length_take] at hj
    have hx : xs[j]? = some (xs.take (xs.length - width))[j] := by
      rw [List.getElem_take]
      exact List.getElem?_eq_getElem (by omega)
    have hkept : j < (xs.rdropWhile p).length :=
      Sheet.lt_length_rdropWhile hx ((Bool.not_eq_true _).mp fun hp =>
        hne (hxs _ (List.mem_of_getElem? hx) hp))
    have hover := h.look_again hwidth hxs hfits (by omega : j < width) (by omega)
    -- the column is among those that both texts keep
    have hold : xs.rdropWhile p <+: xs := List.rdropWhile_prefix p _
    have hread := List.prefix_iff_getElem?.mp hold j hkept
    have hread' := List.prefix_iff_getElem?.mp hnew j (hsame.symm ▸ hkept)
    rw [hover] at hread'
    rw [hx] at hread
    simp only [hsame] at hread'
    exact hne ((Option.some.inj hread).trans (Option.some.inj hread').symm)
  · rintro ⟨hfits, hover⟩
    have hrow : new = xs.take width ++ List.replicate (width - xs.length) blank := by
      refine List.ext_getElem? fun j => ?_
      by_cases hj : j < width
      · rw [List.getElem?_append, List.length_take]
        split_ifs with hin
        · have hx := List.getElem?_eq_getElem (show j < xs.length by omega)
          rw [List.getElem?_take_of_lt hj]
          by_cases hagain : j + width < xs.length
          · have hmem : xs[j] ∈ xs.take (xs.length - width) := by
              refine List.mem_of_getElem? (i := j) ?_
              rw [List.getElem?_take_of_lt (by omega), hx]
            rw [h.look_again hwidth hxs hfits hj hagain, hx, hover _ hmem]
          · exact h.look_once (by omega) hj (by omega)
        · rw [h.look_blank hj (by omega), List.getElem?_replicate_of_lt (by omega)]
      · rw [List.getElem?_eq_none (by rw [h.length]; omega), List.getElem?_eq_none]
        rw [List.length_append, List.length_take, List.length_replicate]
        omega
    rw [hrow, Sheet.rdropWhile_append_of_all, Sheet.rdropWhile_take hfits]
    intro y hy
    rw [List.eq_of_mem_replicate hy]
    exact hblank

end

end Strip
