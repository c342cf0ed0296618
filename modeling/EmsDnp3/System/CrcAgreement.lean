import EmsDnp3.Base.Crc
import EmsDnp3.Native.Crc
import EmsDnp3.Python.TraceLink

/-!
# One checksum

`_crc` of `trace.py` shifts bit by bit, `CRC::CalcCrc` reads a table. The table holds what eight shifts make of each
byte, so both come to the same value wherever the loop of the stack returns: its counter wraps before it has passed an
input of 4 GiB.
-/

namespace EmsDnp3

namespace CrcAgreement

open Native Python

/-- The polynomial of DNP3, reflected. -/
def polynomial : BitVec 16 := 0xA6BC#16

/-- The 256 constants are right. -/
theorem crcEntry_eq (index : BitVec 8) : crcEntry index = (Crc.shift polynomial)^[8] (index.setWidth 16) := by
  have entries : ∀ k : Fin 256, crcEntry (.ofFin k) = (Crc.shift polynomial)^[8] (BitVec.setWidth 16 (.ofFin (w := 8) k)) := by
    decide +kernel
  exact entries index.toFin

/-- The index is the low byte. -/
theorem setWidth_and_low (value : BitVec 16) : (value &&& 0xFF#16).setWidth 8 = value.setWidth 8 := by
  rw [BitVec.setWidth_and]
  exact BitVec.and_allOnes

/-- A byte has no high bits. -/
theorem shift_byte (octet : Byte) : BitVec.ofNat 16 octet.val >>> 8 = 0#16 := by
  revert octet
  decide +kernel

/-- One byte: eight shifts are one entry of the table. -/
theorem crcByte_eq (crc : BitVec 16) (octet : Byte) :
    crcByte crc octet = crcEntry (((crc ^^^ BitVec.ofNat 16 octet.val) &&& 0xFF#16).setWidth 8) ^^^ (crc >>> 8) := by
  have table := Crc.iterate_table polynomial crcEntry_eq (crc ^^^ BitVec.ofNat 16 octet.val)
  rw [BitVec.ushiftRight_xor_distrib, shift_byte, BitVec.xor_zero] at table
  rw [setWidth_and_low]
  exact table

/-- The loop from a place inside an input that the counter can pass. -/
theorem calcCrcFrom_eq {input : List Byte} (short : input.length < 2 ^ 32) {left : Nat} {i : BitVec 32}
    (place : i.toNat + left = input.length) (crc : BitVec 16) :
    calcCrcFrom input (left + 1) i crc = some (~~~ (input.drop i.toNat).foldl crcByte crc) := by
  induction left generalizing i crc with
  | zero =>
    rw [calcCrcFrom, dif_neg (by omega), List.drop_eq_nil_of_le (by omega)]
    rfl
  | succ left ih =>
    have inside : i.toNat < input.length := by omega
    have next : (i + 1).toNat = i.toNat + 1 := by
      rw [BitVec.toNat_add]
      exact Nat.mod_eq_of_lt (by simp; omega)
    rw [calcCrcFrom, dif_pos inside]
    dsimp only
    rw [ih (by omega), next, List.drop_eq_getElem_cons inside, List.foldl_cons, crcByte_eq, List.get_eq_getElem]

/-- The counter does not pass 4 GiB. -/
theorem calcCrcFrom_none {input : List Byte} (long : 2 ^ 32 ≤ input.length) (fuel : Nat) (i : BitVec 32)
    (crc : BitVec 16) : calcCrcFrom input fuel i crc = none := by
  induction fuel generalizing i crc with
  | zero => rfl
  | succ fuel ih =>
    have inside : i.toNat < input.length := i.isLt.trans_le long
    rw [calcCrcFrom, dif_pos inside]
    exact ih _ _

/-- `CalcCrc` returns what `_crc` returns on every input that is shorter than 4 GiB, and on no other one. -/
theorem calcCrc_eq_crc (input : List Byte) :
    (∃ fuel, calcCrc fuel input = some (.ofFin (crc input))) ↔ input.length < 2 ^ 32 := by
  constructor
  · rintro ⟨fuel, returned⟩
    by_contra long
    rw [calcCrc, calcCrcFrom_none (Nat.le_of_not_lt long)] at returned
    cases returned
  · intro short
    exact ⟨input.length + 1, calcCrcFrom_eq short (Nat.zero_add _) 0⟩

/-- 4 GiB of zeros. -/
theorem calcCrc_endless : ¬ ∃ fuel, calcCrc fuel (List.replicate (2 ^ 32) 0) = some (.ofFin (crc (List.replicate (2 ^ 32) 0))) := by
  rintro ⟨fuel, returned⟩
  rw [calcCrc, calcCrcFrom_none (by rw [List.length_replicate])] at returned
  cases returned

end CrcAgreement

end EmsDnp3
