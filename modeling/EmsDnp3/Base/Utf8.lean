import EmsDnp3.Base.Bytes

/-!
# UTF-8

`str.encode("utf-8")` and `bytes.decode("utf-8")`, both strict: a lone surrogate has no
encoding, and overlong forms, surrogates and values past `U+10FFFF` do not decode. The two
are inverse to each other (`decode_encode`, `encode_decode`).
-/

namespace EmsDnp3.Utf8

def isSurrogate (c : CodePoint) : Bool := 0xD800 ≤ c.val && c.val ≤ 0xDFFF

/-- The encoding of one code point. -/
def encodePoint (c : CodePoint) : Option (List Byte) :=
  if isSurrogate c then none
  else if c.val < 0x80 then some [.ofNat c.val]
  else if c.val < 0x800 then some [.ofNat (0xC0 + c.val / 64), .ofNat (0x80 + c.val % 64)]
  else if c.val < 0x10000 then
    some [.ofNat (0xE0 + c.val / 4096), .ofNat (0x80 + c.val / 64 % 64), .ofNat (0x80 + c.val % 64)]
  else
    some [.ofNat (0xF0 + c.val / 262144), .ofNat (0x80 + c.val / 4096 % 64), .ofNat (0x80 + c.val / 64 % 64),
      .ofNat (0x80 + c.val % 64)]

/-- `str.encode("utf-8")`; `none` is `UnicodeEncodeError`. -/
def encode : Text → Option (List Byte)
  | [] => some []
  | c :: rest =>
    match encodePoint c, encode rest with
    | some bytes, some more => some (bytes ++ more)
    | _, _ => none

def isContinuation (b : Byte) : Bool := 0x80 ≤ b.val && b.val ≤ 0xBF

/-- The second byte of a longer sequence is restricted after four of the lead bytes. -/
def secondOk (a b : Byte) : Bool :=
  isContinuation b && !(a.val = 0xE0 && b.val < 0xA0) && !(a.val = 0xED && 0xA0 ≤ b.val)
    && !(a.val = 0xF0 && b.val < 0x90) && !(a.val = 0xF4 && 0x90 ≤ b.val)

/-- The code point at the head of a byte string and the length of its sequence. -/
def decodeHead : List Byte → Option (CodePoint × Nat)
  | [] => none
  | a :: rest =>
    if a.val < 0x80 then some (.ofNat a.val, 1)
    else if 0xC2 ≤ a.val ∧ a.val ≤ 0xDF then
      match rest with
      | b :: _ => if isContinuation b then some (.ofNat ((a.val - 0xC0) * 64 + (b.val - 0x80)), 2) else none
      | [] => none
    else if 0xE0 ≤ a.val ∧ a.val ≤ 0xEF then
      match rest with
      | b :: c :: _ =>
        if secondOk a b && isContinuation c then
          some (.ofNat ((a.val - 0xE0) * 4096 + (b.val - 0x80) * 64 + (c.val - 0x80)), 3)
        else none
      | _ => none
    else if 0xF0 ≤ a.val ∧ a.val ≤ 0xF4 then
      match rest with
      | b :: c :: d :: _ =>
        if secondOk a b && isContinuation c && isContinuation d then
          some (.ofNat ((a.val - 0xF0) * 262144 + (b.val - 0x80) * 4096 + (c.val - 0x80) * 64 + (d.val - 0x80)), 4)
        else none
      | _ => none
    else none

/-- Decoding with a bound on the number of code points. -/
def decodeUpTo : Nat → List Byte → Option Text
  | _, [] => some []
  | 0, _ :: _ => none
  | fuel + 1, bytes@(_ :: _) =>
    match decodeHead bytes with
    | none => none
    | some (c, length) => (decodeUpTo fuel (bytes.drop length)).map fun rest => c :: rest

/-- `bytes.decode("utf-8")`; `none` is `UnicodeDecodeError`. -/
def decode (bytes : List Byte) : Option Text := decodeUpTo bytes.length bytes

theorem ofNat_val_of_lt {n : Nat} (small : n < 256) : (Byte.ofNat n).val = n := Nat.mod_eq_of_lt small

theorem point_ofNat_val_of_lt {n : Nat} (small : n < 0x110000) : (CodePoint.ofNat n).val = n :=
  Nat.mod_eq_of_lt small

/-- Distinct numbers below the limit are distinct code points. -/
theorem point_ofNat_eq {n : Nat} {c : CodePoint} (same : n = c.val) : CodePoint.ofNat n = c :=
  Fin.ext ((point_ofNat_val_of_lt (same ▸ c.isLt)).trans same)

section
variable {a b c d : Byte} (rest : List Byte)

theorem decodeHead_one (ascii : a.val < 0x80) : decodeHead (a :: rest) = some (.ofNat a.val, 1) := if_pos ascii

theorem decodeHead_two (lead : 0xC2 ≤ a.val ∧ a.val ≤ 0xDF) (second : isContinuation b = true) :
    decodeHead (a :: b :: rest) = some (.ofNat ((a.val - 0xC0) * 64 + (b.val - 0x80)), 2) := by
  rw [decodeHead, if_neg (by omega), if_pos lead]
  exact if_pos second

/-- Three octets, the second one as the first asks. -/
theorem decodeHead_three (lead : 0xE0 ≤ a.val ∧ a.val ≤ 0xEF) (second : secondOk a b = true)
    (third : isContinuation c = true) :
    decodeHead (a :: b :: c :: rest) =
      some (.ofNat ((a.val - 0xE0) * 4096 + (b.val - 0x80) * 64 + (c.val - 0x80)), 3) := by
  rw [decodeHead, if_neg (by omega), if_neg (by omega), if_pos lead]
  exact if_pos (by simp [second, third])

/-- Four octets, the second one as the first asks. -/
theorem decodeHead_four (lead : 0xF0 ≤ a.val ∧ a.val ≤ 0xF4) (second : secondOk a b = true)
    (third : isContinuation c = true) (fourth : isContinuation d = true) :
    decodeHead (a :: b :: c :: d :: rest) = some (.ofNat
      ((a.val - 0xF0) * 262144 + (b.val - 0x80) * 4096 + (c.val - 0x80) * 64 + (d.val - 0x80)), 4) := by
  rw [decodeHead, if_neg (by omega), if_neg (by omega), if_neg (by omega), if_pos lead]
  exact if_pos (by simp [second, third, fourth])

end

theorem isContinuation_iff {b : Byte} : isContinuation b = true ↔ 0x80 ≤ b.val ∧ b.val ≤ 0xBF := by
  simp [isContinuation]

/-- No overlong form, no surrogate, and nothing above the last code point. -/
theorem secondOk_iff {a b : Byte} : secondOk a b = true ↔
    (0x80 ≤ b.val ∧ b.val ≤ 0xBF) ∧ (a.val = 0xE0 → 0xA0 ≤ b.val) ∧ (a.val = 0xED → b.val < 0xA0) ∧
      (a.val = 0xF0 → 0x90 ≤ b.val) ∧ (a.val = 0xF4 → b.val < 0x90) := by
  simp [secondOk, isContinuation, and_assoc, imp_iff_not_or]

/-- An encoded code point is read back, whatever follows. -/
theorem decodeHead_encodePoint {c : CodePoint} {bytes : List Byte} (encoded : encodePoint c = some bytes)
    (rest : List Byte) : decodeHead (bytes ++ rest) = some (c, bytes.length) := by
  have bound := c.isLt
  have byte : ∀ {n : Nat}, n < 256 → (Byte.ofNat n).val = n := ofNat_val_of_lt
  unfold encodePoint at encoded
  split at encoded
  · cases encoded
  next plain =>
  have plain : ¬ (0xD800 ≤ c.val ∧ c.val ≤ 0xDFFF) := by simpa [isSurrogate] using plain
  split at encoded
  · next one =>
    obtain rfl := Option.some.inj encoded
    refine (decodeHead_one rest (by rw [byte (by omega)]; omega)).trans ?_
    rw [point_ofNat_eq (byte (by omega))]
    rfl
  split at encoded
  · next two =>
    obtain rfl := Option.some.inj encoded
    have ha := byte (n := 0xC0 + c.val / 64) (by omega)
    have hb := byte (n := 0x80 + c.val % 64) (by omega)
    refine (decodeHead_two rest (by omega) (isContinuation_iff.mpr (by omega))).trans ?_
    rw [point_ofNat_eq (c := c) (by omega)]
    rfl
  split at encoded
  · next three =>
    obtain rfl := Option.some.inj encoded
    have ha := byte (n := 0xE0 + c.val / 4096) (by omega)
    have hb := byte (n := 0x80 + c.val / 64 % 64) (by omega)
    have hc := byte (n := 0x80 + c.val % 64) (by omega)
    refine (decodeHead_three rest (by omega) (secondOk_iff.mpr (by omega))
      (isContinuation_iff.mpr (by omega))).trans ?_
    rw [point_ofNat_eq (c := c) (by omega)]
    rfl
  · obtain rfl := Option.some.inj encoded
    have ha := byte (n := 0xF0 + c.val / 262144) (by omega)
    have hb := byte (n := 0x80 + c.val / 4096 % 64) (by omega)
    have hc := byte (n := 0x80 + c.val / 64 % 64) (by omega)
    have hd := byte (n := 0x80 + c.val % 64) (by omega)
    refine (decodeHead_four rest (by omega) (secondOk_iff.mpr (by omega))
      (isContinuation_iff.mpr (by omega)) (isContinuation_iff.mpr (by omega))).trans ?_
    rw [point_ofNat_eq (c := c) (by omega)]
    rfl

section
variable {c : CodePoint}

theorem encodePoint_one (value : c.val < 0x80) : encodePoint c = some [.ofNat c.val] := by
  rw [encodePoint, if_neg (by simp [isSurrogate]; omega), if_pos value]

theorem encodePoint_two (low : 0x80 ≤ c.val) (high : c.val < 0x800) :
    encodePoint c = some [.ofNat (0xC0 + c.val / 64), .ofNat (0x80 + c.val % 64)] := by
  rw [encodePoint, if_neg (by simp [isSurrogate]; omega), if_neg (by omega), if_pos high]

/-- Up to 0xFFFF, but no surrogate: three octets. -/
theorem encodePoint_three (low : 0x800 ≤ c.val) (high : c.val < 0x10000)
    (plain : c.val < 0xD800 ∨ 0xDFFF < c.val) :
    encodePoint c = some [.ofNat (0xE0 + c.val / 4096), .ofNat (0x80 + c.val / 64 % 64),
      .ofNat (0x80 + c.val % 64)] := by
  rw [encodePoint, if_neg (by simp [isSurrogate]; omega), if_neg (by omega), if_neg (by omega), if_pos high]

theorem encodePoint_four (low : 0x10000 ≤ c.val) :
    encodePoint c = some [.ofNat (0xF0 + c.val / 262144), .ofNat (0x80 + c.val / 4096 % 64),
      .ofNat (0x80 + c.val / 64 % 64), .ofNat (0x80 + c.val % 64)] := by
  rw [encodePoint, if_neg (by simp [isSurrogate]; omega), if_neg (by omega), if_neg (by omega), if_neg (by omega)]

end

theorem byte_ofNat_eq {n : Nat} {b : Byte} (same : n = b.val) : Byte.ofNat n = b :=
  Fin.ext ((ofNat_val_of_lt (same ▸ b.isLt)).trans same)

/-- What is read at the head of a byte string is the encoding of the code point. -/
theorem encodePoint_decodeHead {bytes : List Byte} {c : CodePoint} {length : Nat}
    (read : decodeHead bytes = some (c, length)) :
    encodePoint c = some (bytes.take length) ∧ 0 < length ∧ length ≤ bytes.length := by
  cases bytes with
  | nil => cases read
  | cons a rest =>
    simp only [decodeHead] at read
    split at read
    · next ascii =>
      obtain ⟨rfl, rfl⟩ := Prod.mk.inj (Option.some.inj read)
      have value := point_ofNat_val_of_lt (n := a.val) (by omega)
      refine ⟨?_, by decide, by simp⟩
      rw [encodePoint_one (by omega), value, byte_ofNat_eq rfl]
      rfl
    split at read
    · next lead =>
      split at read
      · next b rest =>
        split at read
        · next second =>
          rw [isContinuation_iff] at second
          obtain ⟨rfl, rfl⟩ := Prod.mk.inj (Option.some.inj read)
          have value := point_ofNat_val_of_lt (n := (a.val - 0xC0) * 64 + (b.val - 0x80)) (by omega)
          refine ⟨?_, by decide, by simp⟩
          rw [encodePoint_two (by omega) (by omega), byte_ofNat_eq (b := a) (by omega),
            byte_ofNat_eq (b := b) (by omega)]
          rfl
        · cases read
      · cases read
    split at read
    · next lead =>
      split at read
      · next b d rest =>
        split at read
        · next both =>
          rw [Bool.and_eq_true, secondOk_iff, isContinuation_iff] at both
          obtain ⟨rfl, rfl⟩ := Prod.mk.inj (Option.some.inj read)
          have value := point_ofNat_val_of_lt
            (n := (a.val - 0xE0) * 4096 + (b.val - 0x80) * 64 + (d.val - 0x80)) (by omega)
          refine ⟨?_, by decide, by simp⟩
          rw [encodePoint_three (by omega) (by omega) (by omega), byte_ofNat_eq (b := a) (by omega),
            byte_ofNat_eq (b := b) (by omega), byte_ofNat_eq (b := d) (by omega)]
          rfl
        · cases read
      · cases read
    split at read
    · next lead =>
      split at read
      · next b d e rest =>
        split at read
        · next all =>
          rw [Bool.and_eq_true, Bool.and_eq_true, secondOk_iff, isContinuation_iff, isContinuation_iff] at all
          obtain ⟨rfl, rfl⟩ := Prod.mk.inj (Option.some.inj read)
          have value := point_ofNat_val_of_lt
            (n := (a.val - 0xF0) * 262144 + (b.val - 0x80) * 4096 + (d.val - 0x80) * 64 + (e.val - 0x80)) (by omega)
          refine ⟨?_, by decide, by simp⟩
          rw [encodePoint_four (by omega), byte_ofNat_eq (b := a) (by omega), byte_ofNat_eq (b := b) (by omega),
            byte_ofNat_eq (b := d) (by omega), byte_ofNat_eq (b := e) (by omega)]
          rfl
        · cases read
      · cases read
    · cases read

/-- Encoded text is read back. -/
theorem decode_encode {text : Text} {bytes : List Byte} (encoded : encode text = some bytes) :
    decode bytes = some text := by
  suffices ∀ fuel, bytes.length ≤ fuel → decodeUpTo fuel bytes = some text from this _ (Nat.le_refl _)
  induction text generalizing bytes with
  | nil =>
    obtain rfl := Option.some.inj encoded
    intro fuel _
    cases fuel <;> rfl
  | cons c rest ih =>
    rw [encode] at encoded
    split at encoded
    · next head more here there =>
      obtain rfl := Option.some.inj encoded
      intro fuel enough
      have read := decodeHead_encodePoint here more
      obtain ⟨-, positive, -⟩ := encodePoint_decodeHead read
      rw [List.length_append] at enough
      cases fuel with
      | zero => omega
      | succ fuel =>
        cases split : head ++ more with
        | nil => simp [split, decodeHead] at read
        | cons a tail =>
          rw [decodeUpTo, ← split, read]
          simp [ih there fuel (by omega)]
    · cases encoded

/-- Decoded bytes are the encoding of the text. -/
theorem encode_decode {bytes : List Byte} {text : Text} (decoded : decode bytes = some text) :
    encode text = some bytes := by
  suffices ∀ fuel, decodeUpTo fuel bytes = some text → encode text = some bytes from this _ decoded
  clear decoded
  intro fuel
  induction fuel generalizing bytes text with
  | zero =>
    cases bytes with
    | nil => rintro ⟨⟩; rfl
    | cons a rest => intro decoded; cases decoded
  | succ fuel ih =>
    cases bytes with
    | nil => rintro ⟨⟩; rfl
    | cons a rest =>
      intro decoded
      rw [decodeUpTo] at decoded
      split at decoded
      · cases decoded
      · next c length read =>
        obtain ⟨tail, more, rfl⟩ := Option.map_eq_some_iff.mp decoded
        rw [encode, (encodePoint_decodeHead read).1, ih more]
        simp

end EmsDnp3.Utf8
