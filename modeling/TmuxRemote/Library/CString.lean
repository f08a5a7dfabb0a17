import Mathlib.Algebra.Order.Ring.Int
import Mathlib.Data.List.DropRight

/-!
# Library/CString — C strings, the classes of `ctype.h`, `strtol`, `fgets`, little-endian bytes

A C string is its bytes before the terminating NUL; that none of them is NUL is part of the type, so
reading a buffer as a string (`ofBytes`) cuts it at the first NUL as every `str*` function does.
-/

/-- The bytes of a C string before its terminator. -/
@[ext] structure CString where
  bytes : List UInt8
  nulFree : ∀ b ∈ bytes, b ≠ 0
  deriving DecidableEq

namespace CString

/-- A buffer read as a C string: everything before the first NUL. -/
def ofBytes (buffer : List UInt8) : CString where
  bytes := buffer.takeWhile (· != 0)
  nulFree := fun b hb => by simpa using List.mem_takeWhile_imp hb

/-- A string literal. -/
def ofString (s : String) : CString := ofBytes s.toUTF8.data.toList

instance : Inhabited CString := ⟨ofBytes []⟩

/-- `s[0] == '\0'`. -/
def isEmpty (s : CString) : Bool := s.bytes.isEmpty

/-- `strncpy` into a buffer of `n + 1` bytes whose last byte is then set to NUL. -/
def truncate (n : ℕ) (s : CString) : CString where
  bytes := s.bytes.take n
  nulFree := fun b hb => s.nulFree b (List.mem_of_mem_take hb)

/-- The bytes from offset `start` up to `stop`, copied out and terminated. -/
def substring (s : CString) (start stop : ℕ) : CString where
  bytes := (s.bytes.drop start).take (stop - start)
  nulFree := fun b hb => s.nulFree b (List.mem_of_mem_drop (List.mem_of_mem_take hb))

/-- The two strings one after the other. -/
def append (s t : CString) : CString where
  bytes := s.bytes ++ t.bytes
  nulFree := fun b hb => (List.mem_append.mp hb).elim (s.nulFree b) (t.nulFree b)

theorem bytes_injective : Function.Injective CString.bytes := fun _ _ h => CString.ext h

@[simp] theorem bytes_inj {s t : CString} : s.bytes = t.bytes ↔ s = t := bytes_injective.eq_iff

/-- A string shorter than the buffer is copied whole. -/
theorem truncate_eq_self {n : ℕ} {s : CString} (h : s.bytes.length ≤ n) : s.truncate n = s :=
  CString.ext (List.take_of_length_le h)

/-- A string without a NUL is read back whole. -/
theorem ofBytes_of_nulFree {buffer : List UInt8} (h : ∀ b ∈ buffer, b ≠ 0) :
    (ofBytes buffer).bytes = buffer :=
  List.takeWhile_eq_self_iff.mpr fun b hb => by simpa using h b hb

@[simp] theorem ofBytes_bytes (s : CString) : ofBytes s.bytes = s :=
  CString.ext (ofBytes_of_nulFree s.nulFree)

/-- A terminated buffer is read up to its terminator. -/
theorem ofBytes_terminated (s : CString) (rest : List UInt8) :
    ofBytes (s.bytes ++ 0 :: rest) = s := by
  have hplain : ∀ b ∈ s.bytes, (b != 0) = true := fun b hb => by simpa using s.nulFree b hb
  refine CString.ext ?_
  change (s.bytes ++ 0 :: rest).takeWhile (· != 0) = s.bytes
  rw [List.takeWhile_append_of_pos hplain, List.takeWhile_cons_of_neg (by decide),
    List.append_nil]

/-- A buffer with room for a byte keeps a string non-empty. -/
theorem isEmpty_truncate_succ (n : ℕ) (s : CString) :
    (s.truncate (n + 1)).isEmpty = s.isEmpty := by
  obtain ⟨bytes, -⟩ := s
  cases bytes <;> rfl

end CString

namespace CLib

/-! ## Character classes in the C locale -/

/-- `isdigit`. -/
def isDigit (c : UInt8) : Bool := 0x30 ≤ c && c ≤ 0x39

/-- `isspace`: space, and `\t` up to `\r`. -/
def isSpace (c : UInt8) : Bool := c == 0x20 || (0x09 ≤ c && c ≤ 0x0D)

/-- `isprint`. -/
def isPrint (c : UInt8) : Bool := 0x20 ≤ c && c ≤ 0x7E

/-! ## `strtol` in base ten -/

/-- The value of a run of digits, most significant first. -/
def digitsValue (digits : List UInt8) : ℕ :=
  digits.foldl (fun value c => 10 * value + (c.toNat - 0x30)) 0

/-- `strtol(s, &end, 10)`: white space, an optional sign, digits; `none` when no digit was read
(`end == s`).  The saturation at `LONG_MAX` is not modelled: the callers compare the result with
bounds far below it. -/
def strtol (s : List UInt8) : Option ℤ :=
  let unspaced := s.dropWhile isSpace
  let negative := unspaced.head? == some 0x2D
  let unsigned := if negative || unspaced.head? == some 0x2B then unspaced.tail else unspaced
  let digits := unsigned.takeWhile isDigit
  if digits.isEmpty then none
  else some (if negative then -(digitsValue digits : ℤ) else digitsValue digits)

/-- The 32-bit two's complement reading of an integer: what an `int` sum wraps to. -/
def wrapInt32 (x : ℤ) : ℤ := x.bmod (2 ^ 32)

/-- A sum that fits an `int` does not wrap. -/
theorem wrapInt32_eq_self {x : ℤ} (hmin : -2 ^ 31 ≤ x) (hmax : x < 2 ^ 31) : wrapInt32 x = x :=
  Int.bmod_eq_of_le_mul_two (by omega) (by omega)

/-- `(int)strtol(s, NULL, 10)`, which is what `atoi` does; `strtol` saturates at the bounds of
`long`. -/
def atoi (s : List UInt8) : ℤ :=
  wrapInt32 (max (-2 ^ 63) (min (2 ^ 63 - 1) ((strtol s).getD 0)))

/-- `%d` of a number that is not negative. -/
def decimal (n : ℕ) : List UInt8 :=
  if n < 10 then [UInt8.ofNat (0x30 + n)] else decimal (n / 10) ++ [UInt8.ofNat (0x30 + n % 10)]

theorem isDigit_of_lt {d : ℕ} (h : d < 10) : isDigit (UInt8.ofNat (0x30 + d)) = true := by
  have hnat : (UInt8.ofNat (0x30 + d)).toNat = 0x30 + d := by
    rw [UInt8.toNat_ofNat']
    omega
  simp only [isDigit, Bool.and_eq_true, decide_eq_true_iff, UInt8.le_iff_toNat_le, hnat]
  exact ⟨Nat.le_add_right _ _, by change 0x30 + d ≤ 0x39; omega⟩

theorem isDigit_of_mem_decimal {n : ℕ} : ∀ c ∈ decimal n, isDigit c = true := by
  fun_induction decimal n with
  | case1 n h =>
    intro c hc
    rw [List.mem_singleton.mp hc]
    exact isDigit_of_lt h
  | case2 n h ih =>
    intro c hc
    obtain hc | hc := List.mem_append.mp hc
    · exact ih c hc
    · rw [List.mem_singleton.mp hc]
      exact isDigit_of_lt (Nat.mod_lt _ (by omega))

theorem decimal_ne_nil (n : ℕ) : decimal n ≠ [] := by
  rw [decimal]
  split_ifs <;> simp

/-- A number is written with as many digits as it has. -/
theorem length_decimal_le {n k : ℕ} (h : n < 10 ^ (k + 1)) : (decimal n).length ≤ k + 1 := by
  fun_induction decimal n generalizing k with
  | case1 n hone => exact Nat.le_add_left 1 k
  | case2 n hmore ih =>
    cases k with
    | zero => exact absurd h hmore
    | succ k =>
      rw [List.length_append, List.length_singleton]
      exact Nat.succ_le_succ (ih (by rw [Nat.pow_succ] at h; omega))

theorem toNat_digit {d : ℕ} (h : d < 10) : (UInt8.ofNat (0x30 + d)).toNat - 0x30 = d := by
  rw [UInt8.toNat_ofNat']
  omega

/-- The digits of a number are worth it. -/
theorem digitsValue_decimal (n : ℕ) : digitsValue (decimal n) = n := by
  fun_induction decimal n with
  | case1 n h => simp only [digitsValue, List.foldl_cons, List.foldl_nil, toNat_digit h]; omega
  | case2 n h ih =>
    rw [digitsValue] at ih
    rw [digitsValue, List.foldl_append, ih, List.foldl_cons, List.foldl_nil,
      toNat_digit (Nat.mod_lt _ (by omega))]
    omega

theorem not_isSpace_of_isDigit {c : UInt8} (h : isDigit c = true) : isSpace c = false := by
  simp only [isDigit, Bool.and_eq_true, decide_eq_true_iff, UInt8.le_iff_toNat_le] at h
  simp only [isSpace, Bool.or_eq_false_iff, beq_eq_false_iff_ne, Bool.and_eq_false_iff,
    decide_eq_false_iff_not, UInt8.le_iff_toNat_le, ne_eq, ← UInt8.toNat_inj]
  obtain ⟨hlow, hhigh⟩ := h
  replace hlow : 0x30 ≤ c.toNat := hlow
  refine ⟨?_, Or.inr ?_⟩
  · change ¬ c.toNat = 0x20
    omega
  · change ¬ c.toNat ≤ 0x0D
    omega

/-- **Numbers survive** being written and read. -/
theorem strtol_decimal (n : ℕ) : strtol (decimal n) = some (n : ℤ) := by
  have hdigits := @isDigit_of_mem_decimal n
  obtain ⟨c, cs, hcs⟩ := List.exists_cons_of_ne_nil (decimal_ne_nil n)
  have hc : isDigit c = true := hdigits c (by rw [hcs]; exact List.mem_cons_self)
  have hunspaced : (decimal n).dropWhile isSpace = decimal n := by
    rw [hcs, List.dropWhile_cons_of_neg
      (by rw [not_isSpace_of_isDigit hc]; exact Bool.false_ne_true)]
  have hhead (b : UInt8) (hb : isDigit b = false) : ((decimal n).head? == some b) = false := by
    rw [hcs, List.head?_cons]
    refine beq_eq_false_iff_ne.mpr fun he => ?_
    rw [Option.some.inj he, hb] at hc
    exact Bool.false_ne_true hc
  have htake : (decimal n).takeWhile isDigit = decimal n := List.takeWhile_eq_self_iff.mpr hdigits
  simp only [strtol, hunspaced, hhead 0x2D rfl, hhead 0x2B rfl, Bool.or_self, htake, if_false,
    Bool.false_eq_true, List.isEmpty_iff, decimal_ne_nil, digitsValue_decimal]

theorem atoi_decimal {n : ℕ} (h : n < 2 ^ 31) : atoi (decimal n) = n := by
  rw [atoi, strtol_decimal, Option.getD_some, wrapInt32_eq_self] <;> omega

/-! ## Zero-terminated tails -/

/-- What follows the last zero byte can be told from what precedes it. -/
theorem append_zero_inj {xs ys s t : List UInt8} (hs : ∀ b ∈ s, b ≠ 0) (ht : ∀ b ∈ t, b ≠ 0)
    (h : xs ++ 0 :: s = ys ++ 0 :: t) : xs = ys ∧ s = t := by
  have hlast (zs u : List UInt8) (hu : ∀ b ∈ u, b ≠ 0) :
      (zs ++ 0 :: u).rtakeWhile (· != 0) = u := by
    rw [List.rtakeWhile, List.reverse_append, List.reverse_cons, List.append_assoc,
      List.takeWhile_append_of_pos, List.singleton_append, List.takeWhile_cons_of_neg,
      List.append_nil, List.reverse_reverse]
    · simp
    · intro b hb
      simpa using hu b (List.mem_reverse.mp hb)
  have hst : s = t := by rw [← hlast xs s hs, h, hlast ys t ht]
  subst hst
  exact ⟨List.append_cancel_right h, rfl⟩

/-! ## Little-endian bytes -/

/-- The `w` little-endian bytes of `n`. -/
def leBytes : ℕ → ℕ → List UInt8
  | 0, _ => []
  | w + 1, n => UInt8.ofNat (n % 256) :: leBytes w (n / 256)

@[simp] theorem length_leBytes (w n : ℕ) : (leBytes w n).length = w := by
  induction w generalizing n with
  | zero => rfl
  | succ w ih => simp only [leBytes, List.length_cons, ih]

/-- The bytes determine the number up to the width. -/
theorem leBytes_injOn {w m n : ℕ} (hm : m < 256 ^ w) (hn : n < 256 ^ w)
    (h : leBytes w m = leBytes w n) : m = n := by
  induction w generalizing m n with
  | zero => simp only [pow_zero, Nat.lt_one_iff] at hm hn; rw [hm, hn]
  | succ w ih =>
    obtain ⟨hlow, hhigh⟩ := List.cons.inj h
    have hlow' : m % 256 = n % 256 := by
      have := congrArg UInt8.toNat hlow
      simpa using this
    have hdiv : m / 256 = n / 256 := by
      rw [pow_succ] at hm hn
      exact ih (Nat.div_lt_of_lt_mul (by omega)) (Nat.div_lt_of_lt_mul (by omega)) hhigh
    omega

/-! ## Reading a line -/

/-- `fgets` of a buffer of `size` bytes: the line, up to and with its newline, and the rest. -/
def fgets (size : ℕ) (stdin : List UInt8) : Option (List UInt8 × List UInt8) :=
  if stdin.isEmpty then none
  else
    let window := stdin.take (size - 1)
    let line := window.take (window.idxOf 0x0A + 1)
    some (line, stdin.drop line.length)

end CLib
