import Mathlib.Algebra.Group.Nat.Even
import Mathlib.Data.List.Induction

/-!
# Library/BigEndian — numbers as big-endian bytes of a fixed width
-/

namespace BigEndian

/-- The `w` big-endian bytes of `n`, which is taken modulo `256 ^ w`. -/
def toBytes : ℕ → ℕ → List UInt8
  | 0, _ => []
  | w + 1, n => toBytes w (n / 256) ++ [UInt8.ofNat n]

/-- The number that big-endian bytes stand for. -/
def value (bytes : List UInt8) : ℕ := bytes.foldl (fun n b => 256 * n + b.toNat) 0

@[simp] theorem length_toBytes (w n : ℕ) : (toBytes w n).length = w := by
  induction w generalizing n with
  | zero => rfl
  | succ w ih => rw [toBytes, List.length_append, ih, List.length_singleton]

/-- The bytes are worth the number they were made from, if it fits. -/
theorem value_toBytes {w n : ℕ} (h : n < 256 ^ w) : value (toBytes w n) = n := by
  induction w generalizing n with
  | zero =>
    rw [Nat.pow_zero] at h
    have hzero : n = 0 := by omega
    rw [hzero]
    rfl
  | succ w ih =>
    have hdiv : n / 256 < 256 ^ w := Nat.div_lt_of_lt_mul (by rwa [Nat.mul_comm, ← Nat.pow_succ])
    have hvalue := ih hdiv
    rw [value] at hvalue
    rw [toBytes, value, List.foldl_append, hvalue, List.foldl_cons, List.foldl_nil,
      UInt8.toNat_ofNat']
    omega

/-- The value fits the bytes. -/
theorem value_lt (bytes : List UInt8) : value bytes < 256 ^ bytes.length := by
  induction bytes using List.reverseRecOn with
  | nil => exact Nat.one_pos
  | append_singleton bytes b ih =>
    have hb := b.toNat_lt
    rw [value] at ih ⊢
    rw [List.foldl_append, List.foldl_cons, List.foldl_nil, List.length_append,
      List.length_singleton, Nat.pow_succ]
    omega

end BigEndian
