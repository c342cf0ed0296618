import EmsDnp3.Base.Rounding

/-!
# Double precision

IEEE 754 `double` as Python's `float` computes with it: exact rationals rounded to 53 bits, no finer than the
subnormals, with two infinities and one value that is not a number. Zero has no sign.
-/

namespace EmsDnp3

/-- A binary64 value. The sign of a zero and the payload of a NaN are left out: nothing here depends on them. -/
inductive Double where
  | nan
  | infinite (negative : Bool)
  | finite (value : ℚ)
deriving DecidableEq

namespace Double

/-! ## Rounding -/

/-- The weight of the last bit at a magnitude. -/
def unit (q : ℚ) : ℚ := 2 ^ max (Int.log 2 q - 52) (-1074)

/-- The nearest double of a rational, its exponent not bounded from above. Integers of 53 bits are exact. -/
def nearest (q : ℚ) : ℚ :=
  if q.den = 1 ∧ q.num.natAbs ≤ 2 ^ 53 then q
  else if 0 ≤ q then unit q * roundHalfEven (q / unit q)
  else -(unit (-q) * roundHalfEven (-q / unit (-q)))

def exponentLimit : ℕ := 1024

/-- From here on a result is infinite. -/
def limit : ℚ := ((2 ^ exponentLimit : ℕ) : ℚ)

/-- The double of an exact result. -/
def round (q : ℚ) : Double :=
  let r := nearest q
  if -limit < r ∧ r < limit then .finite r else .infinite (q < 0)

/-! ## Operations -/

def isFinite : Double → Bool
  | .finite _ => true
  | _ => false

/-- `x <= y`; a NaN is not below anything. -/
def le : Double → Double → Bool
  | .nan, _ => false
  | _, .nan => false
  | .infinite true, _ => true
  | _, .infinite false => true
  | .finite a, .finite b => a ≤ b
  | _, _ => false

/-- `x < y`; a NaN is not below anything. -/
def lt : Double → Double → Bool
  | .nan, _ => false
  | _, .nan => false
  | .finite a, .finite b => a < b
  | .infinite a, .infinite b => a && !b
  | .infinite a, _ => a
  | _, .infinite b => !b

def neg : Double → Double
  | .nan => .nan
  | .infinite negative => .infinite !negative
  | .finite a => .finite (-a)

/-- `x + y` -/
def add : Double → Double → Double
  | .finite a, .finite b => round (a + b)
  | .nan, _ => .nan
  | _, .nan => .nan
  | .infinite a, .infinite b => if a = b then .infinite a else .nan
  | .infinite a, _ => .infinite a
  | _, .infinite b => .infinite b

def sub (x y : Double) : Double := add x (neg y)

/-- The sign of a value that is not zero. -/
def isNegative : Double → Bool
  | .nan => false
  | .infinite negative => negative
  | .finite a => a < 0

def mul : Double → Double → Double
  | .finite a, .finite b => round (a * b)
  | .nan, _ => .nan
  | _, .nan => .nan
  | x, y => if x = .finite 0 ∨ y = .finite 0 then .nan else .infinite (x.isNegative != y.isNegative)

/-- `x / y`; by zero it raises `ZeroDivisionError`. -/
def div : Double → Double → Option Double
  | _, .finite 0 => none
  | .finite a, .finite b => some (round (a / b))
  | .nan, _ => some .nan
  | _, .nan => some .nan
  | .finite _, .infinite _ => some (.finite 0)
  | .infinite a, y => some (if y.isFinite then .infinite (a != y.isNegative) else .nan)

/-! ## Bounds -/

theorem roundHalfEven_le (q : ℚ) : (roundHalfEven q : ℚ) ≤ q + 1 := by
  have floor := Int.floor_le q
  unfold roundHalfEven
  dsimp only
  split_ifs <;> push_cast <;> linarith

theorem unit_pos (q : ℚ) : 0 < unit q := zpow_pos (by norm_num) _

/-- The last bit of a number from one on is no larger than the number. -/
theorem unit_le {q : ℚ} (large : 1 ≤ q) : unit q ≤ q := by
  have positive : 0 < q := by linarith
  have log : 0 ≤ Int.log 2 q := by
    apply (Int.zpow_le_iff_le_log (by norm_num) positive).mp
    simpa using large
  calc unit q ≤ 2 ^ Int.log 2 q := zpow_le_zpow_right₀ (by norm_num) (by omega)
    _ ≤ q := by exact_mod_cast Int.zpow_log_le_self (by norm_num) positive

/-- One is a lower bound that rounding keeps. -/
theorem one_le_nearest {q : ℚ} (large : 1 ≤ q) : 1 ≤ nearest q := by
  have positive : 0 < q := by linarith
  have unitPos := unit_pos q
  have log : 0 ≤ Int.log 2 q := by
    apply (Int.zpow_le_iff_le_log (by norm_num) positive).mp
    simpa using large
  unfold nearest
  split
  · exact large
  rw [if_pos positive.le]
  -- a power of two below `q` is a multiple of the last bit
  have split : unit q * ((2 ^ min (Int.log 2 q + 1074).toNat 52 : ℕ) : ℚ) = 2 ^ Int.log 2 q := by
    rw [unit]
    push_cast
    rw [← zpow_natCast, ← zpow_add₀ (by norm_num)]
    congr 1
    omega
  have power : (2 : ℚ) ^ Int.log 2 q ≤ q := by exact_mod_cast Int.zpow_log_le_self (by norm_num) positive
  have floor : ((2 ^ min (Int.log 2 q + 1074).toNat 52 : ℕ) : ℤ) ≤ ⌊q / unit q⌋ := by
    rw [Int.le_floor, le_div_iff₀ unitPos, mul_comm]
    push_cast at split ⊢
    rw [split]
    exact power
  calc (1 : ℚ) ≤ 2 ^ Int.log 2 q := one_le_zpow₀ (by norm_num) log
    _ = unit q * ((2 ^ min (Int.log 2 q + 1074).toNat 52 : ℕ) : ℚ) := split.symm
    _ ≤ unit q * roundHalfEven (q / unit q) := by
      apply mul_le_mul_of_nonneg_left _ unitPos.le
      exact_mod_cast floor.trans (floor_le_roundHalfEven _)

/-- Rounding at most doubles a value from one on. -/
theorem nearest_le {q : ℚ} (large : 1 ≤ q) : nearest q ≤ 2 * q := by
  have positive : 0 < q := by linarith
  have unitPos := unit_pos q
  unfold nearest
  split
  · linarith
  rw [if_pos positive.le]
  calc unit q * roundHalfEven (q / unit q) ≤ unit q * (q / unit q + 1) :=
        mul_le_mul_of_nonneg_left (roundHalfEven_le _) unitPos.le
    _ = q + unit q := by field_simp
    _ ≤ 2 * q := by linarith [unit_le large]

/-- Between integers of 52 bits a result stays between them. -/
theorem nearest_between {q : ℚ} {m n : ℕ} (positive : 1 ≤ m) (above : m ≤ q) (below : q ≤ n) (room : n < 2 ^ 52) :
    m ≤ nearest q ∧ nearest q ≤ n := by
  have one : (1 : ℚ) ≤ q := le_trans (by exact_mod_cast positive) above
  have large : (0 : ℚ) < q := by linarith
  have unitPos := unit_pos q
  have low : 0 ≤ Int.log 2 q := by
    apply (Int.zpow_le_iff_le_log (by norm_num) large).mp
    simpa using one
  have high : Int.log 2 q < 52 := by
    apply (Int.lt_zpow_iff_log_lt (by norm_num) large).mp
    have below52 : (n : ℚ) < 2 ^ 52 := by exact_mod_cast room
    push_cast
    exact_mod_cast below.trans_lt below52
  unfold nearest
  split
  · exact ⟨above, below⟩
  rw [if_pos large.le]
  -- an integer is a multiple of the last bit
  have whole (k : ℕ) : (k : ℚ) = unit q * ((k * 2 ^ (52 - Int.log 2 q).toNat : ℕ) : ℤ) := by
    have split : unit q * ((2 ^ (52 - Int.log 2 q).toNat : ℕ) : ℚ) = 1 := by
      rw [unit]
      push_cast
      rw [← zpow_natCast, ← zpow_add₀ (by norm_num)]
      have cancels : max (Int.log 2 q - 52) (-1074) + ((52 - Int.log 2 q).toNat : ℤ) = 0 := by omega
      rw [cancels, zpow_zero]
    push_cast at split ⊢
    linear_combination (-(k : ℚ)) * split
  constructor
  · rw [whole m] at above ⊢
    apply mul_le_mul_of_nonneg_left _ unitPos.le
    exact_mod_cast le_roundHalfEven_int ((le_div_iff₀' unitPos).mpr above)
  · rw [whole n] at below ⊢
    apply mul_le_mul_of_nonneg_left _ unitPos.le
    exact_mod_cast roundHalfEven_le_int ((div_le_iff₀' unitPos).mpr below)

theorem pow_lt_limit {n : ℕ} (small : n < exponentLimit) : (2 : ℚ) ^ n < limit := by
  have power : 2 ^ n < 2 ^ exponentLimit := Nat.pow_lt_pow_right (by norm_num) small
  unfold limit
  exact_mod_cast power

/-- A result of moderate size is finite and positive. -/
theorem round_moderate {q : ℚ} (low : 1 ≤ q) (high : q ≤ 2 ^ 53) : ∃ r, round q = .finite r ∧ 1 ≤ r := by
  have least := one_le_nearest low
  have most := nearest_le low
  have room : (2 : ℚ) * 2 ^ 53 < limit := by
    have power := pow_lt_limit (n := 54) (by decide)
    linarith
  have positive : (0 : ℚ) < 2 ^ 53 := by norm_num
  refine ⟨nearest q, ?_, least⟩
  unfold round
  exact if_pos ⟨by linarith, by linarith⟩

end Double

end EmsDnp3
