import EmsDnp3.Json.Dump

/-!
# Decimal numbers

The digits that `decimal` writes: no leading zero, and as many as the number needs.
-/

namespace EmsDnp3

def isDigit (c : CodePoint) : Bool := 0x30 ≤ c.val && c.val ≤ 0x39

theorem isDigit_digitPoint (d : Fin 10) : isDigit (digitPoint d) = true := by
  revert d
  decide

/-- The last digit, and the digits before it. -/
theorem decimal_eq (n : Nat) :
    decimal n = (if n < 10 then [] else decimal (n / 10)) ++ [digitPoint ⟨n % 10, Nat.mod_lt _ (by decide)⟩] := by
  have point : ∀ d : Fin 10, CodePoint.ofChar (Nat.digitChar d.val) = digitPoint d := by decide
  by_cases small : n < 10
  · have last := point ⟨n % 10, Nat.mod_lt _ (by decide)⟩
    rw [if_pos small, decimal, Nat.toDigits_of_lt_base small, List.map_singleton, List.nil_append, ← last]
    simp only [Nat.mod_eq_of_lt small]
  · rw [if_neg small, decimal, Nat.toDigits_of_base_le (by decide) (by omega), List.map_append, List.map_singleton,
      ← point ⟨n % 10, Nat.mod_lt _ (by decide)⟩]
    rfl

/-- A number is written in digits only. -/
theorem decimal_isDigit {n : Nat} {c : CodePoint} (mem : c ∈ decimal n) : isDigit c = true := by
  induction n using Nat.strongRecOn with
  | ind n ih =>
    rw [decimal_eq] at mem
    rcases List.mem_append.mp mem with front | last
    · split at front
      · cases front
      · exact ih (n / 10) (by omega) front
    · rw [List.mem_singleton.mp last]
      exact isDigit_digitPoint _

/-- A positive number starts with a digit that is not zero. -/
theorem decimal_cons {n : Nat} (positive : 0 < n) : ∃ first rest, decimal n = first :: rest ∧ first.val ≠ 0x30 := by
  induction n using Nat.strongRecOn with
  | ind n ih =>
    rw [decimal_eq]
    by_cases small : n < 10
    · refine ⟨_, [], by rw [if_pos small, List.nil_append], ?_⟩
      show 0x30 + n % 10 ≠ 0x30
      omega
    · obtain ⟨first, rest, split, nonzero⟩ := ih (n / 10) (by omega) (by omega)
      exact ⟨first, _, by rw [if_neg small, split, List.cons_append], nonzero⟩

/-- A number below a power of ten has no more digits than that power has zeros. -/
theorem length_decimal_le {n k : Nat} (small : n < 10 ^ (k + 1)) : (decimal n).length ≤ k + 1 := by
  rw [decimal, List.length_map]
  exact (Nat.length_toDigits_le_iff (by decide) (Nat.succ_pos k)).mpr small

/-- The number that digits denote. -/
def digitsValue (t : Text) : Nat := t.foldl (fun n c => 10 * n + (c.val - 0x30)) 0

/-- The digits of a number are worth the number. -/
theorem digitsValue_decimal (n : Nat) : digitsValue (decimal n) = n := by
  induction n using Nat.strongRecOn with
  | ind n ih =>
    have last : (digitPoint ⟨n % 10, Nat.mod_lt _ (by decide)⟩).val - 0x30 = n % 10 := by
      show 0x30 + n % 10 - 0x30 = n % 10
      omega
    rw [decimal_eq, digitsValue, List.foldl_append, List.foldl_cons, List.foldl_nil, last]
    split
    · rw [List.foldl_nil]
      omega
    · rw [← digitsValue, ih (n / 10) (by omega)]
      omega

theorem decimal_injective : Function.Injective decimal :=
  Function.LeftInverse.injective digitsValue_decimal

end EmsDnp3
