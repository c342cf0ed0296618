import EmsDnp3.Base.Utf8Grammar

/-!
# Parts of an encoded text

The encoding of a sequence, the text of a start of the octets, and the number of octets.
-/

namespace EmsDnp3.Utf8

/-- The octets of two texts are one behind the other. -/
theorem encode_append {s t : Text} {first second : List Byte} (one : encode s = some first) (two : encode t = some second) :
    encode (s ++ t) = some (first ++ second) := by
  induction s generalizing first with
  | nil =>
    obtain rfl := Option.some.inj one
    exact two
  | cons c s ih =>
    rw [encode] at one
    split at one
    · next head tail here there =>
      obtain rfl := Option.some.inj one
      rw [List.cons_append, encode, here, ih there, List.append_assoc]
    · cases one

theorem encode_inj {s t : Text} {octets : List Byte} (one : encode s = some octets) (two : encode t = some octets) : s = t :=
  Option.some.inj ((decode_encode one).symm.trans (decode_encode two))

/-- The start of an encoded text that is an encoding itself is that of a start of the text. -/
theorem encode_split {s t : Text} {first second : List Byte} (both : encode t = some (first ++ second))
    (one : encode s = some first) : ∃ rest, t = s ++ rest ∧ encode rest = some second := by
  have formed := (wellFormed_iff_encode.mpr ⟨s, one⟩).tail (wellFormed_iff_encode.mpr ⟨t, both⟩)
  obtain ⟨rest, two⟩ := wellFormed_iff_encode.mp formed
  exact ⟨rest, encode_inj both (encode_append one two), two⟩

/-- The number of octets of a code point. -/
def pointSize (c : CodePoint) : Nat :=
  if c.val < 0x80 then 1 else if c.val < 0x800 then 2 else if c.val < 0x10000 then 3 else 4

def encodedSize (t : Text) : Nat := (t.map pointSize).sum

@[simp] theorem encodedSize_nil : encodedSize [] = 0 := rfl

@[simp] theorem encodedSize_cons (c : CodePoint) (t : Text) : encodedSize (c :: t) = pointSize c + encodedSize t := rfl

@[simp] theorem encodedSize_append (s t : Text) : encodedSize (s ++ t) = encodedSize s + encodedSize t := by
  simp [encodedSize]

/-- The octets of a code point. -/
theorem length_encodePoint {c : CodePoint} {octets : List Byte} (encoded : encodePoint c = some octets) :
    octets.length = pointSize c := by
  unfold encodePoint at encoded
  unfold pointSize
  split at encoded
  · cases encoded
  · split at encoded
    · next small =>
      obtain rfl := Option.some.inj encoded
      rw [if_pos small]
      rfl
    · next small =>
      rw [if_neg small]
      split at encoded
      · next two =>
        obtain rfl := Option.some.inj encoded
        rw [if_pos two]
        rfl
      · next two =>
        rw [if_neg two]
        split at encoded
        · next three =>
          obtain rfl := Option.some.inj encoded
          rw [if_pos three]
          rfl
        · next three =>
          obtain rfl := Option.some.inj encoded
          rw [if_neg three]
          rfl

/-- A text takes as many octets as its size says. -/
theorem length_encode {t : Text} {octets : List Byte} (encoded : encode t = some octets) :
    octets.length = encodedSize t := by
  induction t generalizing octets with
  | nil =>
    obtain rfl := Option.some.inj encoded
    rfl
  | cons c t ih =>
    rw [encode] at encoded
    split at encoded
    · next head tail here there =>
      obtain rfl := Option.some.inj encoded
      rw [List.length_append, length_encodePoint here, ih there, encodedSize_cons]
    · cases encoded

/-- No code point takes more than four octets. -/
theorem pointSize_le (c : CodePoint) : pointSize c ≤ 4 := by
  unfold pointSize
  split
  · omega
  · split
    · omega
    · split <;> omega

/-- A text takes at most four octets for each code point. -/
theorem encodedSize_le (t : Text) : encodedSize t ≤ 4 * t.length := by
  induction t with
  | nil => exact Nat.le_refl 0
  | cons c t ih =>
    have := pointSize_le c
    rw [encodedSize_cons, List.length_cons]
    omega

end EmsDnp3.Utf8
