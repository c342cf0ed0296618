import Mathlib

/-!
# Bitmaps over 64-bit words

A set of small numbers kept as the bits of a word array: `bits[offset / 64]` under the mask
`1 << (offset % 64)`. Testing after setting is all a client needs; word arithmetic stays here.
-/

namespace EmsDnp3

/-- A bitmap, `std::vector<std::uint64_t>`. -/
abbrev Bitmap := List (BitVec 64)

namespace Bitmap

/-- A bitmap of `n` clear words. -/
def clear (n : Nat) : Bitmap := List.replicate n 0

/-- `std::uint64_t{1} << (offset % 64U)` -/
def mask (offset : Nat) : BitVec 64 := 1#64 <<< (offset % 64)

/-- `(bits[word] & mask) != 0U` -/
def test (bits : Bitmap) (offset : Nat) : Bool := (bits.getD (offset / 64) 0 &&& mask offset) ≠ 0

/-- `bits[word] |= mask` -/
def insert (bits : Bitmap) (offset : Nat) : Bitmap :=
  bits.set (offset / 64) (bits.getD (offset / 64) 0 ||| mask offset)

/-- The mask of an offset has the one bit of that offset. -/
theorem mask_getLsbD (offset i : Nat) (hi : i < 64) :
    (mask offset).getLsbD i = decide (i = offset % 64) := by
  have : offset % 64 < 64 := Nat.mod_lt _ (by decide)
  simp only [mask, BitVec.getLsbD_shiftLeft, hi, BitVec.getLsbD_one]
  by_cases h : i = offset % 64
  · simp [h]
  · by_cases less : i < offset % 64
    · simp [h, less]
    · have : i - offset % 64 ≠ 0 := by omega
      simp [h, this]

/-- The test reads one bit of one word. -/
theorem test_eq (bits : Bitmap) (offset : Nat) :
    test bits offset = (bits.getD (offset / 64) 0).getLsbD (offset % 64) := by
  have bound : offset % 64 < 64 := Nat.mod_lt _ (by decide)
  generalize hw : bits.getD (offset / 64) 0 = w
  cases hb : w.getLsbD (offset % 64) with
  | true =>
    have : w &&& mask offset ≠ 0 := by
      intro zero
      have h := congrArg (fun v : BitVec 64 => v.getLsbD (offset % 64)) zero
      simp [mask_getLsbD _ _ bound, hb] at h
    rw [test, hw, decide_eq_true this]
  | false =>
    have : w &&& mask offset = 0 := by
      apply BitVec.eq_of_getLsbD_eq
      intro i hi
      rw [BitVec.getLsbD_and, mask_getLsbD _ _ hi]
      by_cases h : i = offset % 64
      · simp [h, hb]
      · simp [h]
    rw [test, hw, decide_eq_false (not_not_intro this)]

@[simp] theorem test_clear (n offset : Nat) : test (clear n) offset = false := by
  have word : (clear n).getD (offset / 64) 0 = 0 := by
    unfold clear
    rw [List.getD_eq_getElem?_getD, List.getElem?_replicate]
    split <;> rfl
  rw [test_eq, word]
  simp

@[simp] theorem length_insert (bits : Bitmap) (offset : Nat) : (insert bits offset).length = bits.length := by
  simp [insert]

/-- Setting a bit in range is seen by its own test and by no other. -/
theorem test_insert {bits : Bitmap} {offset : Nat} (bound : offset / 64 < bits.length) (other : Nat) :
    test (insert bits offset) other = (decide (other = offset) || test bits other) := by
  rw [test_eq, test_eq]
  have otherBound : other % 64 < 64 := Nat.mod_lt _ (by decide)
  by_cases word : offset / 64 = other / 64
  · have read : (insert bits offset).getD (other / 64) 0 = bits.getD (offset / 64) 0 ||| mask offset := by
      rw [insert, List.getD_eq_getElem?_getD, ← word, List.getElem?_set_self bound, Option.getD_some]
    rw [read, ← word, BitVec.getLsbD_or, mask_getLsbD _ _ otherBound]
    have same : other % 64 = offset % 64 ↔ other = offset := by omega
    simp [same, Bool.or_comm]
  · have read : (insert bits offset).getD (other / 64) 0 = bits.getD (other / 64) 0 := by
      rw [insert, List.getD_eq_getElem?_getD, List.getElem?_set_ne word, ← List.getD_eq_getElem?_getD]
    have ne : other ≠ offset := by omega
    rw [read, decide_eq_false ne, Bool.false_or]

/-- The number of set bits. -/
def count (bits : Bitmap) : Nat := (List.range (64 * bits.length)).countP (test bits)

@[simp] theorem count_clear (n : Nat) : count (clear n) = 0 := by
  simp [count]

/-- One more element satisfies a predicate that is widened by it. -/
theorem countP_or_eq {l : List Nat} {p : Nat → Bool} {a : Nat} (nodup : l.Nodup) (mem : a ∈ l) (fresh : p a = false) :
    l.countP (fun x => decide (x = a) || p x) = l.countP p + 1 := by
  induction l with
  | nil => cases mem
  | cons x rest ih =>
    rw [List.nodup_cons] at nodup
    by_cases here : x = a
    · subst here
      have others : rest.countP (fun y => decide (y = x) || p y) = rest.countP p := by
        refine List.countP_congr fun y later => ?_
        have different : y ≠ x := fun same => nodup.1 (same ▸ later)
        simp [different]
      simp [others, fresh]
    · have later : a ∈ rest := (List.mem_cons.mp mem).resolve_left (Ne.symm here)
      simp only [List.countP_cons, ih nodup.2 later, decide_eq_false here, Bool.false_or]
      omega

/-- Setting a clear bit in range adds one. -/
theorem count_insert {bits : Bitmap} {offset : Nat} (bound : offset / 64 < bits.length)
    (clear : test bits offset = false) : count (insert bits offset) = count bits + 1 := by
  have mem : offset ∈ List.range (64 * bits.length) := List.mem_range.mpr (by omega)
  have widened : test (insert bits offset) = fun x => decide (x = offset) || test bits x :=
    funext fun x => test_insert bound x
  rw [count, length_insert, widened, countP_or_eq List.nodup_range mem clear, count]

end Bitmap

end EmsDnp3
