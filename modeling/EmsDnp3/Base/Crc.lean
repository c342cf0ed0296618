import Mathlib

/-!
# Reflected polynomial division

A shift register of any width that divides by a polynomial, lowest bit first. A shift is linear, so the low bits of a
register, which leave it, and the others, which only move, count apart: that is why a table of the low bits does.
-/

namespace EmsDnp3

namespace Crc

variable {w : Nat} (polynomial : BitVec w)

/-- One bit. -/
def shift (value : BitVec w) : BitVec w := (value >>> 1) ^^^ (if value.getLsbD 0 then polynomial else 0#w)

/-- One step of the register is linear. -/
theorem shift_xor (a b : BitVec w) : shift polynomial (a ^^^ b) = shift polynomial a ^^^ shift polynomial b := by
  unfold shift
  rw [BitVec.ushiftRight_xor_distrib, BitVec.getLsbD_xor]
  cases a.getLsbD 0 <;> cases b.getLsbD 0
  · simp
  · simp [BitVec.xor_assoc]
  · simp only [Bool.bne_false, if_true, Bool.false_eq_true, if_false, BitVec.xor_zero]
    rw [BitVec.xor_assoc, BitVec.xor_comm (b >>> 1), ← BitVec.xor_assoc]
  · simp only [bne_self_eq_false, Bool.false_eq_true, if_false, if_true, BitVec.xor_zero]
    rw [BitVec.xor_assoc, BitVec.xor_comm polynomial, BitVec.xor_assoc, BitVec.xor_self, BitVec.xor_zero]

theorem iterate_xor (n : Nat) (a b : BitVec w) :
    (shift polynomial)^[n] (a ^^^ b) = (shift polynomial)^[n] a ^^^ (shift polynomial)^[n] b := by
  induction n generalizing a b with
  | zero => rfl
  | succ n ih => rw [Function.iterate_succ_apply, shift_xor, ih, ← Function.iterate_succ_apply, ← Function.iterate_succ_apply]

/-- Without low bits a register only moves. -/
theorem iterate_high {n : Nat} {value : BitVec w} (clear : ∀ i < n, value.getLsbD i = false) :
    (shift polynomial)^[n] value = value >>> n := by
  induction n generalizing value with
  | zero => simp
  | succ n ih =>
    have first : shift polynomial value = value >>> 1 := by
      unfold shift
      rw [clear 0 (Nat.succ_pos n), if_neg (by simp), BitVec.xor_zero]
    have rest : ∀ i < n, (value >>> 1).getLsbD i = false := by
      intro i inside
      rw [BitVec.getLsbD_ushiftRight]
      exact clear (1 + i) (by omega)
    rw [Function.iterate_succ_apply, first, ih rest, ← BitVec.shiftRight_add, Nat.add_comm]

/-- The low bits and the others. -/
theorem split_low (n : Nat) (value : BitVec w) :
    value = (value.setWidth n).setWidth w ^^^ (value ^^^ (value.setWidth n).setWidth w) := by
  rw [BitVec.xor_comm value, ← BitVec.xor_assoc, BitVec.xor_self, BitVec.zero_xor]

/-- A table of what the low bits become divides that many bits at once. -/
theorem iterate_table {n : Nat} {entry : BitVec n → BitVec w}
    (entries : ∀ low, entry low = (shift polynomial)^[n] (low.setWidth w)) (value : BitVec w) :
    (shift polynomial)^[n] value = entry (value.setWidth n) ^^^ (value >>> n) := by
  have clear : ∀ i < n, (value ^^^ (value.setWidth n).setWidth w).getLsbD i = false := by
    intro i inside
    rw [BitVec.getLsbD_xor, BitVec.getLsbD_setWidth, BitVec.getLsbD_setWidth]
    by_cases fits : i < w
    · simp [inside, fits]
    · simp [fits, BitVec.getLsbD_of_ge value i (Nat.le_of_not_lt fits)]
  have moved : (value ^^^ (value.setWidth n).setWidth w) >>> n = value >>> n := by
    apply BitVec.eq_of_getLsbD_eq
    intro i inside
    simp [BitVec.getLsbD_ushiftRight, BitVec.getLsbD_setWidth]
  conv_lhs => rw [split_low n value]
  rw [iterate_xor, iterate_high polynomial clear, moved, entries]

end Crc

end EmsDnp3
