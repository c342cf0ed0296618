import Mathlib

/-!
# Rounding to binary floating point

The nearest number with a given number of significant bits, ties to even, of a non-negative
rational. The exponent is not bounded: what is rounded here is neither tiny nor huge.
-/

namespace EmsDnp3

/-- The nearest integer, ties to even. -/
def roundHalfEven (q : ℚ) : ℤ :=
  let remainder := q - ⌊q⌋
  if remainder < 1 / 2 then ⌊q⌋
  else if 1 / 2 < remainder then ⌊q⌋ + 1
  else if ⌊q⌋ % 2 = 0 then ⌊q⌋ else ⌊q⌋ + 1

/-- The weight of the last of `precision` bits of `q`. -/
def lastBit (precision : ℕ) (q : ℚ) : ℚ := 2 ^ (Int.log 2 q + 1 - precision)

/-- The nearest number of `precision` bits. -/
def roundBits (precision : ℕ) (q : ℚ) : ℚ :=
  if q ≤ 0 then 0 else lastBit precision q * roundHalfEven (q / lastBit precision q)

/-- A `double`. -/
def binary64 (q : ℚ) : ℚ := roundBits 53 q

/-- A `float`. -/
def binary32 (q : ℚ) : ℚ := roundBits 24 q

theorem floor_le_roundHalfEven (q : ℚ) : ⌊q⌋ ≤ roundHalfEven q := by
  unfold roundHalfEven
  dsimp only
  split_ifs <;> omega

/-- Rounding does not pass an integer. -/
theorem roundHalfEven_le_int {q : ℚ} {n : ℤ} (below : q ≤ n) : roundHalfEven q ≤ n := by
  have floor : ⌊q⌋ ≤ n := by exact_mod_cast (Int.floor_le q).trans below
  have next (half : ¬ q - ⌊q⌋ < 1 / 2) : ⌊q⌋ + 1 ≤ n := by
    have strict : (⌊q⌋ : ℚ) < n := by linarith
    exact_mod_cast strict
  unfold roundHalfEven
  dsimp only
  split_ifs with small large
  · exact floor
  · exact next small
  · exact floor
  · exact next small

theorem le_roundHalfEven_int {q : ℚ} {n : ℤ} (above : n ≤ q) : n ≤ roundHalfEven q :=
  (Int.le_floor.mpr above).trans (floor_le_roundHalfEven q)

theorem lastBit_pos (precision : ℕ) (q : ℚ) : 0 < lastBit precision q := zpow_pos (by norm_num) _

/-- A multiple of the last bit stays a lower bound. -/
theorem mul_le_roundBits {precision : ℕ} {q : ℚ} {n : ℤ} (positive : 0 < q)
    (below : lastBit precision q * n ≤ q) : lastBit precision q * n ≤ roundBits precision q := by
  have unit := lastBit_pos precision q
  rw [roundBits, if_neg (not_le.mpr positive)]
  apply mul_le_mul_of_nonneg_left _ unit.le
  have floor : n ≤ ⌊q / lastBit precision q⌋ := by
    rw [Int.le_floor, le_div_iff₀ unit, mul_comm]
    exact below
  exact_mod_cast floor.trans (floor_le_roundHalfEven _)

/-- A number whose bits the result has room for stays a lower bound. -/
theorem mul_zpow_le_roundBits (precision : ℕ) {q : ℚ} {m k : ℤ} (positive : 0 < q)
    (room : Int.log 2 q + 1 - precision ≤ k) (below : (m : ℚ) * 2 ^ k ≤ q) :
    (m : ℚ) * 2 ^ k ≤ roundBits precision q := by
  obtain ⟨shift, shifted⟩ := Int.le.dest room
  have split : (m : ℚ) * 2 ^ k = lastBit precision q * ((m * 2 ^ shift : ℤ) : ℚ) := by
    rw [← shifted, zpow_add₀ (by norm_num), zpow_natCast, lastBit]
    push_cast
    ring
  rw [split]
  exact mul_le_roundBits positive (split.symm.le.trans below)

/-- A power of two stays a lower bound. -/
theorem pow_le_roundBits (precision : ℕ) {q : ℚ} {e : ℤ} (some_ : 0 < precision) (below : (2 : ℚ) ^ e ≤ q) :
    (2 : ℚ) ^ e ≤ roundBits precision q := by
  have positive : 0 < q := (zpow_pos (by norm_num) e).trans_le below
  have exponent : e ≤ Int.log 2 q := (Int.zpow_le_iff_le_log (by norm_num) positive).mp (by exact_mod_cast below)
  have binade : (2 : ℚ) ^ Int.log 2 q ≤ q := by exact_mod_cast Int.zpow_log_le_self (by norm_num) positive
  have split : lastBit precision q * ((2 ^ (precision - 1) : ℕ) : ℤ) = (2 : ℚ) ^ Int.log 2 q := by
    rw [lastBit]
    push_cast
    rw [← zpow_natCast, ← zpow_add₀ (by norm_num)]
    congr 1
    omega
  calc (2 : ℚ) ^ e ≤ 2 ^ Int.log 2 q := zpow_le_zpow_right₀ (by norm_num) exponent
    _ = lastBit precision q * ((2 ^ (precision - 1) : ℕ) : ℤ) := split.symm
    _ ≤ roundBits precision q := mul_le_roundBits positive (split.le.trans binade)

end EmsDnp3
