import EmsDnp3.Base.Utf8

/-!
# The grammar of UTF-8

The octet ranges of RFC 3629, section 4, as a table. A character is an octet string that one
row derives, and well-formed octets are a sequence of characters. The codec of `Base.Utf8`
reads and writes exactly these (`isChar_iff_encodePoint`, `wellFormed_iff_encode`). Characters
are self-delimiting, so the well-formed prefixes of an octet string form a chain.
-/

namespace EmsDnp3.Utf8

/-- One row for each alternative of `UTF8-char`: the range of each octet. -/
def alternatives : List (List (Nat × Nat)) :=
  [[(0x00, 0x7F)],
    [(0xC2, 0xDF), (0x80, 0xBF)],
    [(0xE0, 0xE0), (0xA0, 0xBF), (0x80, 0xBF)],
    [(0xE1, 0xEC), (0x80, 0xBF), (0x80, 0xBF)],
    [(0xED, 0xED), (0x80, 0x9F), (0x80, 0xBF)],
    [(0xEE, 0xEF), (0x80, 0xBF), (0x80, 0xBF)],
    [(0xF0, 0xF0), (0x90, 0xBF), (0x80, 0xBF), (0x80, 0xBF)],
    [(0xF1, 0xF3), (0x80, 0xBF), (0x80, 0xBF), (0x80, 0xBF)],
    [(0xF4, 0xF4), (0x80, 0x8F), (0x80, 0xBF), (0x80, 0xBF)]]

/-- An octet in a range of the table. -/
def InRange (octet : Byte) (range : Nat × Nat) : Prop := range.1 ≤ octet.val ∧ octet.val ≤ range.2

instance (octet : Byte) (range : Nat × Nat) : Decidable (InRange octet range) := inferInstanceAs (Decidable (_ ∧ _))

/-- `UTF8-char` -/
def IsChar (octets : List Byte) : Prop := ∃ row ∈ alternatives, List.Forall₂ InRange octets row

/-- `UTF8-octets = *( UTF8-char )` -/
inductive WellFormed : List Byte → Prop where
  | nil : WellFormed []
  | cons {char rest : List Byte} : IsChar char → WellFormed rest → WellFormed (char ++ rest)

/-- What an encoder writes for a code point is derived by the row of its range. -/
theorem isChar_of_encodePoint {c : CodePoint} {octets : List Byte} (encoded : encodePoint c = some octets) :
    IsChar octets := by
  have bound := c.isLt
  have byte : ∀ {n : Nat}, n < 256 → (Byte.ofNat n).val = n := ofNat_val_of_lt
  unfold encodePoint at encoded
  split at encoded
  · cases encoded
  next plain =>
  have plain : ¬ (0xD800 ≤ c.val ∧ c.val ≤ 0xDFFF) := by simpa [isSurrogate] using plain
  split at encoded
  · next one =>
    obtain rfl := Option.some.inj encoded
    have ha := byte (n := c.val) (by omega)
    exact ⟨_, .head _, .cons ⟨Nat.zero_le _, by simp only; omega⟩ .nil⟩
  split at encoded
  · next two =>
    obtain rfl := Option.some.inj encoded
    have ha := byte (n := 0xC0 + c.val / 64) (by omega)
    have hb := byte (n := 0x80 + c.val % 64) (by omega)
    simp only [IsChar, alternatives, List.mem_cons, List.not_mem_nil, or_false, exists_eq_or_imp, exists_eq_left,
      List.forall₂_cons, List.forall₂_nil_right_iff, InRange]
    simp
    omega
  split at encoded
  · next three =>
    obtain rfl := Option.some.inj encoded
    have ha := byte (n := 0xE0 + c.val / 4096) (by omega)
    have hb := byte (n := 0x80 + c.val / 64 % 64) (by omega)
    have hc := byte (n := 0x80 + c.val % 64) (by omega)
    simp only [IsChar, alternatives, List.mem_cons, List.not_mem_nil, or_false, exists_eq_or_imp, exists_eq_left,
      List.forall₂_cons, List.forall₂_nil_right_iff, InRange]
    simp
    omega
  · obtain rfl := Option.some.inj encoded
    have ha := byte (n := 0xF0 + c.val / 262144) (by omega)
    have hb := byte (n := 0x80 + c.val / 4096 % 64) (by omega)
    have hc := byte (n := 0x80 + c.val / 64 % 64) (by omega)
    have hd := byte (n := 0x80 + c.val % 64) (by omega)
    simp only [IsChar, alternatives, List.mem_cons, List.not_mem_nil, or_false, exists_eq_or_imp, exists_eq_left,
      List.forall₂_cons, List.forall₂_nil_right_iff, InRange]
    simp
    omega

/-- A character by the number of its octets. -/
theorem IsChar.cases {octets : List Byte} (char : IsChar octets) :
    (∃ a, octets = [a] ∧ a.val < 0x80) ∨
      (∃ a b, octets = [a, b] ∧ (0xC2 ≤ a.val ∧ a.val ≤ 0xDF) ∧ isContinuation b = true) ∨
      (∃ a b c, octets = [a, b, c] ∧ (0xE0 ≤ a.val ∧ a.val ≤ 0xEF) ∧ secondOk a b = true ∧
        isContinuation c = true) ∨
      ∃ a b c d, octets = [a, b, c, d] ∧ (0xF0 ≤ a.val ∧ a.val ≤ 0xF4) ∧ secondOk a b = true ∧
        isContinuation c = true ∧ isContinuation d = true := by
  simp only [secondOk_iff, isContinuation_iff]
  obtain ⟨row, mem, derives⟩ := char
  match octets, row, derives with
  | [], [], _ => simp [alternatives] at mem
  | [a], [first], .cons one .nil =>
    simp only [alternatives, List.mem_cons, List.cons.injEq, reduceCtorEq, and_false, and_true, List.not_mem_nil,
      or_false] at mem
    subst mem
    exact .inl ⟨a, rfl, by unfold InRange at one; omega⟩
  | [a, b], [first, second], .cons one (.cons two .nil) =>
    simp only [alternatives, List.mem_cons, List.cons.injEq, reduceCtorEq, and_false, and_true,
      List.not_mem_nil, or_false, false_or] at mem
    obtain ⟨rfl, rfl⟩ := mem
    exact .inr (.inl ⟨a, b, rfl, one, two⟩)
  | [a, b, c], [first, second, third], .cons one (.cons two (.cons three .nil)) =>
    simp only [alternatives, List.mem_cons, List.cons.injEq, reduceCtorEq, and_false, and_true,
      List.not_mem_nil, or_false, false_or] at mem
    unfold InRange at one two three
    refine .inr (.inr (.inl ⟨a, b, c, rfl, ?_⟩))
    obtain ⟨rfl, rfl, rfl⟩ | ⟨rfl, rfl, rfl⟩ | ⟨rfl, rfl, rfl⟩ | ⟨rfl, rfl, rfl⟩ := mem <;> omega
  | [a, b, c, d], [first, second, third, fourth], .cons one (.cons two (.cons three (.cons four .nil))) =>
    simp only [alternatives, List.mem_cons, List.cons.injEq, reduceCtorEq, and_false, and_true,
      List.not_mem_nil, or_false, false_or] at mem
    unfold InRange at one two three four
    refine .inr (.inr (.inr ⟨a, b, c, d, rfl, ?_⟩))
    obtain ⟨rfl, rfl, rfl, rfl⟩ | ⟨rfl, rfl, rfl, rfl⟩ | ⟨rfl, rfl, rfl, rfl⟩ := mem <;> omega
  | _ :: _ :: _ :: _ :: _ :: _, _ :: _ :: _ :: _ :: _ :: _, _ =>
    simp [alternatives] at mem

/-- A decoder reads a character as a whole, whatever follows. -/
theorem IsChar.decodeHead {char : List Byte} (derived : IsChar char) (rest : List Byte) :
    ∃ c, decodeHead (char ++ rest) = some (c, char.length) := by
  obtain ⟨a, rfl, one⟩ | ⟨a, b, rfl, two, second⟩ | ⟨a, b, c, rfl, three, second, third⟩ |
    ⟨a, b, c, d, rfl, four, second, third, fourth⟩ := derived.cases
  · exact ⟨_, decodeHead_one rest one⟩
  · exact ⟨_, decodeHead_two rest two second⟩
  · exact ⟨_, decodeHead_three rest three second third⟩
  · exact ⟨_, decodeHead_four rest four second third fourth⟩

/-- What a decoder reads at the head of an octet string is a character. -/
theorem isChar_of_decodeHead {octets : List Byte} {c : CodePoint} {length : Nat}
    (read : decodeHead octets = some (c, length)) : IsChar (octets.take length) :=
  isChar_of_encodePoint (encodePoint_decodeHead read).1

/-- **Characters** are the encodings of code points. -/
theorem isChar_iff_encodePoint {octets : List Byte} : IsChar octets ↔ ∃ c, encodePoint c = some octets := by
  constructor
  · intro char
    obtain ⟨c, read⟩ := char.decodeHead []
    refine ⟨c, ?_⟩
    rw [(encodePoint_decodeHead read).1, List.append_nil, List.take_length]
  · rintro ⟨c, encoded⟩
    exact isChar_of_encodePoint encoded

/-- **Well-formed octets** are the encodings of texts. -/
theorem wellFormed_iff_encode {octets : List Byte} : WellFormed octets ↔ ∃ text, encode text = some octets := by
  constructor
  · intro formed
    induction formed with
    | nil => exact ⟨[], rfl⟩
    | cons char _ ih =>
      obtain ⟨c, head⟩ := isChar_iff_encodePoint.mp char
      obtain ⟨text, tail⟩ := ih
      exact ⟨c :: text, by rw [encode, head, tail]⟩
  · rintro ⟨text, encoded⟩
    induction text generalizing octets with
    | nil =>
      obtain rfl := Option.some.inj encoded
      exact .nil
    | cons c text ih =>
      rw [encode] at encoded
      split at encoded
      · next head tail here there =>
        obtain rfl := Option.some.inj encoded
        exact .cons (isChar_of_encodePoint here) (ih there)
      · cases encoded

/-- No character is empty. -/
theorem IsChar.length_pos {char : List Byte} (derived : IsChar char) : 0 < char.length := by
  obtain ⟨c, read⟩ := derived.decodeHead []
  exact (encodePoint_decodeHead read).2.1

/-- Characters are self-delimiting. -/
theorem IsChar.append_inj {one two rest more : List Byte} (first : IsChar one) (second : IsChar two)
    (same : one ++ rest = two ++ more) : one = two ∧ rest = more := by
  obtain ⟨c, read⟩ := first.decodeHead rest
  obtain ⟨d, again⟩ := second.decodeHead more
  rw [same, again] at read
  exact List.append_inj same (Prod.mk.inj (Option.some.inj read)).2.symm

/-- Well-formed octets that are not empty start with a character. -/
theorem WellFormed.head {octets : List Byte} (formed : WellFormed octets) (some : octets ≠ []) :
    ∃ char rest, octets = char ++ rest ∧ IsChar char ∧ WellFormed rest := by
  cases formed with
  | nil => exact absurd rfl some
  | cons char rest => exact ⟨_, _, rfl, char, rest⟩

/-- What follows a well-formed prefix of well-formed octets is well formed. -/
theorem WellFormed.tail {first second : List Byte} (one : WellFormed first) (both : WellFormed (first ++ second)) :
    WellFormed second := by
  induction one with
  | nil => exact both
  | @cons char rest derived _ ih =>
    have some : char ++ rest ++ second ≠ [] := by
      intro none
      have := derived.length_pos
      simp_all
    obtain ⟨char', rest', same, derived', formed⟩ := both.head some
    rw [List.append_assoc] at same
    obtain ⟨-, rfl⟩ := derived.append_inj derived' same
    exact ih formed

end EmsDnp3.Utf8
