import Mathlib.Data.Int.Log
import Mathlib.Tactic

namespace DbcNode

/-- The integer next to a number, and the even one of two that are as
near. -/
def roundEven (q : ℚ) : ℤ :=
  if Int.fract q < 1 / 2 then ⌊q⌋
  else if 1 / 2 < Int.fract q then ⌊q⌋ + 1
  else if ⌊q⌋ % 2 = 0 then ⌊q⌋
  else ⌊q⌋ + 1

/-- The distance of two numbers of `p` binary digits next to each other,
where `q` is. -/
def binaryUnit (p : ℕ) (q : ℚ) : ℚ := 2 ^ (Int.log 2 |q| + 1 - p)

/-- The number of `p` binary digits next to `q`, and the one that ends in 0
of two that are as near. The exponent has no bounds. -/
def roundBits (p : ℕ) (q : ℚ) : ℚ := roundEven (q / binaryUnit p q) * binaryUnit p q

section RoundEven
variable {q : ℚ} {n : ℤ}

theorem roundEven_floor (q : ℚ) : roundEven q = ⌊q⌋ ∨ roundEven q = ⌊q⌋ + 1 ∧ (⌊q⌋ : ℚ) < q := by
  have whole := Int.floor_add_fract q
  unfold roundEven
  split
  · exact Or.inl rfl
  split
  · exact Or.inr ⟨rfl, by linarith⟩
  split
  · exact Or.inl rfl
  · exact Or.inr ⟨rfl, by linarith⟩

theorem le_roundEven (above : (n : ℚ) ≤ q) : n ≤ roundEven q := by
  have low := Int.le_floor.mpr above
  rcases roundEven_floor q with same | ⟨same, _⟩ <;> omega

theorem roundEven_le (below : q ≤ n) : roundEven q ≤ n := by
  rcases roundEven_floor q with same | ⟨same, inside⟩
  · rw [same]
    exact_mod_cast (Int.floor_le q).trans below
  · rw [same]
    have less : (⌊q⌋ : ℚ) < n := inside.trans_le below
    exact_mod_cast less

theorem roundEven_int (n : ℤ) : roundEven n = n := le_antisymm (roundEven_le le_rfl) (le_roundEven le_rfl)

/-- An even number is reached from half of the way on. -/
theorem roundEven_lt_iff (even : n % 2 = 0) : roundEven q < n ↔ q < n - 1 / 2 := by
  have whole := Int.floor_add_fract q
  have small := Int.fract_lt_one q
  have positive := Int.fract_nonneg q
  have cast {a b : ℤ} : a < b ↔ (a : ℚ) + 1 ≤ b := by
    rw [← Int.add_one_le_iff]
    exact_mod_cast Iff.rfl
  unfold roundEven
  split
  · rw [cast]
    constructor
    · intro less
      linarith
    · intro less
      have step : (⌊q⌋ : ℚ) < n := by linarith
      exact cast.mp (by exact_mod_cast step)
  split
  · constructor
    · intro less
      have step := cast.mp less
      push_cast at step
      linarith
    · intro less
      have step : (⌊q⌋ : ℚ) + 1 < n := by linarith
      exact_mod_cast step
  have half : Int.fract q = 1 / 2 := le_antisymm (not_lt.mp ‹_›) (not_lt.mp ‹_›)
  have parts : q < n - 1 / 2 ↔ ⌊q⌋ + 1 < n := by
    rw [cast]
    push_cast
    constructor
    · intro less
      have step : (⌊q⌋ : ℚ) + 1 < n := by linarith
      have := cast.mp (show ⌊q⌋ + 1 < n by exact_mod_cast step)
      push_cast at this
      exact this
    · intro less
      linarith
  rw [parts]
  split <;> omega

end RoundEven

section RoundBits
variable {p : ℕ} {q : ℚ} {m : ℤ}

theorem binaryUnit_pos (p : ℕ) (q : ℚ) : 0 < binaryUnit p q := zpow_pos (by norm_num) _

theorem two_zpow_split (e : ℤ) (p : ℕ) : (2 : ℚ) ^ (e + 1 - p) * 2 ^ p = 2 ^ (e + 1) := by
  rw [← zpow_natCast, ← zpow_add₀ (by norm_num)]
  congr 1
  ring

/-- A positive number is between two powers of 2, and so is what it is
rounded to. -/
theorem roundBits_range (digits : 1 ≤ p) (positive : 0 < q) :
    (2 : ℚ) ^ Int.log 2 q ≤ roundBits p q ∧ roundBits p q ≤ 2 ^ (Int.log 2 q + 1) := by
  have unit := binaryUnit_pos p q
  have whole : binaryUnit p q * 2 ^ p = 2 ^ (Int.log 2 q + 1) := by
    rw [binaryUnit, abs_of_pos positive]
    exact two_zpow_split _ _
  have half : binaryUnit p q * 2 ^ (p - 1) = 2 ^ Int.log 2 q := by
    have twice : (2 : ℚ) ^ p = 2 ^ (p - 1) * 2 := by
      rw [← pow_succ, Nat.sub_add_cancel digits]
    have double : (2 : ℚ) ^ (Int.log 2 q + 1) = 2 ^ Int.log 2 q * 2 := zpow_add_one₀ (by norm_num) _
    rw [twice, double, ← mul_assoc] at whole
    exact mul_right_cancel₀ (by norm_num) whole
  have low := Int.zpow_log_le_self (b := 2) (by norm_num) positive
  have high := Int.lt_zpow_succ_log_self (b := 2) (by norm_num) q
  push_cast at low high
  constructor
  · have reached : ((2 ^ (p - 1) : ℤ) : ℚ) ≤ q / binaryUnit p q := by
      rw [le_div_iff₀ unit]
      push_cast
      rw [mul_comm, half]
      exact low
    have rounded : ((2 ^ (p - 1) : ℤ) : ℚ) ≤ roundEven (q / binaryUnit p q) := by
      exact_mod_cast le_roundEven reached
    push_cast at rounded
    rw [← half, roundBits, mul_comm]
    exact mul_le_mul_of_nonneg_right rounded unit.le
  · have reached : q / binaryUnit p q ≤ ((2 ^ p : ℤ) : ℚ) := by
      rw [div_le_iff₀ unit]
      push_cast
      rw [mul_comm, whole]
      exact high.le
    have rounded : (roundEven (q / binaryUnit p q) : ℚ) ≤ ((2 ^ p : ℤ) : ℚ) := by
      exact_mod_cast roundEven_le reached
    push_cast at rounded
    rw [← whole, roundBits, mul_comm (binaryUnit p q)]
    exact mul_le_mul_of_nonneg_right rounded unit.le

theorem roundBits_pos (digits : 1 ≤ p) (positive : 0 < q) : 0 < roundBits p q :=
  (zpow_pos (by norm_num) _).trans_le (roundBits_range digits positive).1

theorem roundBits_zero (p : ℕ) : roundBits p 0 = 0 := by
  rw [roundBits, zero_div]
  change ((roundEven ((0 : ℤ) : ℚ) : ℤ) : ℚ) * _ = 0
  rw [roundEven_int, Int.cast_zero, zero_mul]

/-- An integer with no more digits stays as it is. -/
theorem roundBits_natCast {n : ℕ} (small : n < 2 ^ p) : roundBits p n = n := by
  rcases Nat.eq_zero_or_pos n with rfl | positive
  · exact roundBits_zero p
  have log : Int.log 2 |(n : ℚ)| = Nat.log 2 n := by
    rw [Nat.abs_cast]
    exact Int.log_natCast 2 n
  have below : Nat.log 2 n < p := Nat.log_lt_of_lt_pow positive.ne' small
  have unit := binaryUnit_pos p (n : ℚ)
  have scaled : (n : ℚ) / binaryUnit p n = ((n * 2 ^ (p - (Nat.log 2 n + 1)) : ℕ) : ℤ) := by
    rw [div_eq_iff unit.ne', binaryUnit, log]
    push_cast
    rw [mul_assoc, ← zpow_natCast, ← zpow_add₀ (by norm_num), Nat.cast_sub below]
    push_cast
    rw [show (p : ℤ) - ((Nat.log 2 n : ℤ) + 1) + ((Nat.log 2 n : ℤ) + 1 - p) = 0 by ring, zpow_zero, mul_one]
  rw [roundBits, scaled, roundEven_int, ← scaled, div_mul_cancel₀ _ unit.ne']

/-- Where rounding begins to reach a number of `p` digits that ends in 0,
between a half and 1. -/
theorem roundBits_lt_iff (digits : 1 ≤ p) (positive : 0 < q) (even : m % 2 = 0) (low : 2 ^ (p - 1) < m)
    (high : m ≤ 2 ^ p) : roundBits p q < m / 2 ^ p ↔ q < (m - 1 / 2) / 2 ^ p := by
  have power : (0 : ℚ) < 2 ^ p := by positivity
  have twice : (2 : ℚ) ^ p = 2 ^ (p - 1) * 2 := by
    rw [← pow_succ, Nat.sub_add_cancel digits]
  have above : (2 : ℚ) ^ (p - 1) + 1 ≤ m := by exact_mod_cast Int.add_one_le_iff.mpr low
  have below : (m : ℚ) ≤ 2 ^ p := by exact_mod_cast high
  obtain ⟨least, most⟩ := roundBits_range digits positive
  have from_ := Int.zpow_log_le_self (b := 2) (by norm_num) positive
  have to_ := Int.lt_zpow_succ_log_self (b := 2) (by norm_num) q
  push_cast at from_ to_
  rcases lt_trichotomy (Int.log 2 q) (-1) with small | same | large
  · -- both sides are at most a half
    have half : (2 : ℚ) ^ (Int.log 2 q + 1) ≤ 1 / 2 := by
      calc (2 : ℚ) ^ (Int.log 2 q + 1) ≤ 2 ^ (-1 : ℤ) := zpow_le_zpow_right₀ (by norm_num) (by omega)
        _ = 1 / 2 := by norm_num
    refine iff_of_true ?_ ?_
    · rw [lt_div_iff₀ power]
      nlinarith
    · rw [lt_div_iff₀ power]
      nlinarith
  · have unit : binaryUnit p q * 2 ^ p = 1 := by
      rw [binaryUnit, abs_of_pos positive, two_zpow_split, same]
      norm_num
    have scaled : q / binaryUnit p q = q * 2 ^ p := by
      rw [div_eq_iff (binaryUnit_pos p q).ne', mul_assoc, mul_comm (2 ^ p : ℚ), unit, mul_one]
    rw [roundBits, scaled, lt_div_iff₀ power, mul_assoc, unit, mul_one, lt_div_iff₀ power]
    rw [← roundEven_lt_iff even]
    exact_mod_cast Iff.rfl
  · have one : (1 : ℚ) ≤ 2 ^ Int.log 2 q := one_le_zpow₀ (by norm_num) (by omega)
    refine iff_of_false ?_ ?_
    · rw [not_lt, div_le_iff₀ power]
      nlinarith
    · rw [not_lt, div_le_iff₀ power]
      nlinarith

end RoundBits

end DbcNode
