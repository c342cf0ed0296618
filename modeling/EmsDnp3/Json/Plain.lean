import EmsDnp3.Base.Utf8
import EmsDnp3.Json.Decimal

/-!
# JSON that can be written as UTF-8

`dump` with the strict error handler raises on a string that is not UTF-8. Such a string is a text with
a surrogate here, and a value is plain when its text has none; then its bytes exist.
-/

namespace EmsDnp3

/-- A text without surrogates, which is one that UTF-8 can encode. -/
def PlainText (t : Text) : Prop := ∀ c ∈ t, Utf8.isSurrogate c = false

instance (t : Text) : Decidable (PlainText t) := List.decidableBAll _ t

@[simp] theorem plainText_nil : PlainText [] := by
  intro c member
  cases member

@[simp] theorem plainText_cons {c : CodePoint} {t : Text} :
    PlainText (c :: t) ↔ Utf8.isSurrogate c = false ∧ PlainText t := List.forall_mem_cons

@[simp] theorem plainText_append {s t : Text} : PlainText (s ++ t) ↔ PlainText s ∧ PlainText t :=
  List.forall_mem_append

theorem isSurrogate_of_small {c : CodePoint} (small : c.val < 0xD800) : Utf8.isSurrogate c = false := by
  simp only [Utf8.isSurrogate, Bool.and_eq_false_iff, decide_eq_false_iff_not]
  omega

/-- A `Char` is never a surrogate. -/
@[simp] theorem plainText_text (s : String) : PlainText (text s) := by
  intro c member
  obtain ⟨character, -, rfl⟩ := List.mem_map.mp member
  have valid := character.valid
  simp only [UInt32.isValidChar, Nat.isValidChar] at valid
  have value : (CodePoint.ofChar character).val = character.val.toNat := rfl
  simp only [Utf8.isSurrogate, Bool.and_eq_false_iff, decide_eq_false_iff_not, value]
  omega

@[simp] theorem plainText_decimal (n : Nat) : PlainText (decimal n) := by
  intro c member
  have digit := decimal_isDigit member
  simp only [isDigit, Bool.and_eq_true, decide_eq_true_eq] at digit
  apply isSurrogate_of_small
  omega

theorem plainText_digits (digits : List (Fin 10)) : PlainText (digits.map digitPoint) := by
  intro c member
  obtain ⟨d, -, rfl⟩ := List.mem_map.mp member
  apply isSurrogate_of_small
  show 0x30 + d.val < 0xD800
  omega

namespace Utf8

/-- A code point can be encoded exactly where it is no surrogate. -/
theorem encodePoint_isSome {c : CodePoint} : (encodePoint c).isSome = true ↔ isSurrogate c = false := by
  unfold encodePoint
  split
  · simp [*]
  · repeat' split
    all_goals simp [*]

/-- Exactly the plain texts have bytes. -/
theorem encode_isSome {t : Text} : (encode t).isSome = true ↔ PlainText t := by
  induction t with
  | nil => simp [encode]
  | cons c rest ih =>
    rw [plainText_cons, ← encodePoint_isSome, ← ih, encode]
    cases encodePoint c <;> cases encode rest <;> simp

end Utf8

namespace Json

/-- A value whose text can be encoded. -/
def Plain (v : Json) : Prop := PlainText (dump v)

instance (v : Json) : Decidable (Plain v) := inferInstanceAs (Decidable (PlainText _))

/-- An escape can be encoded where the character can. -/
theorem plainText_escape {c : CodePoint} : PlainText (escape c) ↔ Utf8.isSurrogate c = false := by
  have hex : ∀ d : Fin 16, Utf8.isSurrogate (hexPoint d) = false := by decide
  have short : ∀ special letter : CodePoint, special.val < 0x80 → letter.val < 0x80 → c = special →
      (PlainText [backslash, letter] ↔ Utf8.isSurrogate c = false) := by
    intro special letter low small same
    rw [plainText_cons, plainText_cons, isSurrogate_of_small (show letter.val < 0xD800 by omega),
      isSurrogate_of_small (show c.val < 0xD800 by rw [same]; omega)]
    exact iff_of_true ⟨by decide, rfl, plainText_nil⟩ rfl
  unfold escape
  split
  · next same => exact short _ _ (by decide) (by decide) same
  split
  · next same => exact short _ _ (by decide) (by decide) same
  split
  · next same => exact short _ _ (by decide) (by decide) same
  split
  · next same => exact short _ _ (by decide) (by decide) same
  split
  · next same => exact short _ _ (by decide) (by decide) same
  split
  · next same => exact short _ _ (by decide) (by decide) same
  split
  · next same => exact short _ _ (by decide) (by decide) same
  split
  · next control =>
    have plain : Utf8.isSurrogate c = false := isSurrogate_of_small (by omega)
    simp only [plainText_cons, hex, plainText_nil, plain, and_true, iff_true]
    decide
  · simp

@[simp] theorem plainText_dumpString {s : Text} : PlainText (dumpString s) ↔ PlainText s := by
  have marks : Utf8.isSurrogate quote = false := by decide
  simp only [dumpString, plainText_cons, plainText_append, plainText_nil, marks, true_and, and_true]
  induction s with
  | nil => simp
  | cons c rest ih => simp [ih, plainText_escape]

@[simp] theorem plain_null : Plain .null := plainText_text _

@[simp] theorem plain_bool (b : Bool) : Plain (.bool b) := by
  cases b
  · exact plainText_text _
  · exact plainText_text _

@[simp] theorem plain_int (n : Int) : Plain (.int n) := by
  unfold Plain dump dumpInt
  split <;> simp

@[simp] theorem plain_nat (n : Nat) : Plain (.nat n) := plain_int n

@[simp] theorem plain_float (x : FloatLit) : Plain (.float x) := by
  have exponent : PlainText (dumpExponent x.exponent) := by
    unfold dumpExponent
    split
    · simp
    · split <;> simp [plainText_digits, -List.map_cons]
  unfold Plain dump dumpFloat
  split <;> split <;> simp [exponent, plainText_digits]

@[simp] theorem plain_str {s : Text} : Plain (.str s) ↔ PlainText s := by
  unfold Plain dump
  exact plainText_dumpString

theorem plainText_dumpItems {xs : List Json} : PlainText (dumpItems xs) ↔ ∀ x ∈ xs, Plain x := by
  induction xs with
  | nil => simp [dumpItems]
  | cons x rest ih => simp [dumpItems, ih, Plain]

/-- Members can be written where each key and each value can. -/
theorem plainText_dumpMembers {ms : List (Text × Json)} :
    PlainText (dumpMembers ms) ↔ ∀ m ∈ ms, PlainText m.1 ∧ Plain m.2 := by
  induction ms with
  | nil => simp [dumpMembers]
  | cons m rest ih => simp [dumpMembers, ih, Plain, and_assoc]

@[simp] theorem plain_arr {xs : List Json} : Plain (.arr xs) ↔ ∀ x ∈ xs, Plain x := by
  cases xs with
  | nil => simp [Plain, dump]
  | cons x rest => simp [Plain, dump, plainText_dumpItems]

@[simp] theorem plain_obj {ms : List (Text × Json)} : Plain (.obj ms) ↔ ∀ m ∈ ms, PlainText m.1 ∧ Plain m.2 := by
  cases ms with
  | nil => simp [Plain, dump]
  | cons m rest => simp [Plain, dump, plainText_dumpMembers, and_assoc]

/-- The keys that the code writes are literals. -/
@[simp] theorem plain_object {ms : List (String × Json)} : Plain (.object ms) ↔ ∀ m ∈ ms, Plain m.2 := by
  unfold object
  rw [plain_obj, List.forall_mem_map]
  simp

@[simp] theorem plain_ofOption {α : Type} {encode : α → Json} {x : Option α} :
    Plain (.ofOption encode x) ↔ ∀ a ∈ x, Plain (encode a) := by
  cases x <;> simp [ofOption]

/-- A member of a plain object is plain. -/
theorem Plain.get? {v x : Json} {key : Text} (plain : Plain v) (here : v.get? key = some x) : Plain x := by
  cases v with
  | obj members =>
    obtain ⟨m, found, rfl⟩ := Option.map_eq_some_iff.mp here
    exact (plain_obj.mp plain m (List.mem_of_find?_eq_some found)).2
  | _ => cases here

/-- The keys of an object that can be written can be encoded. -/
theorem Plain.keys {v : Json} {key : Text} (plain : Plain v) (member : key ∈ v.keys) : PlainText key := by
  cases v with
  | obj members =>
    obtain ⟨m, inside, rfl⟩ := List.mem_map.mp member
    exact (plain_obj.mp plain m inside).1
  | _ => cases member

/-! ## One line -/

/-- A text without control characters. -/
def Printable (t : Text) : Prop := ∀ c ∈ t, 0x20 ≤ c.val

@[simp] theorem printable_nil : Printable [] := by
  intro c member
  cases member

@[simp] theorem printable_cons {c : CodePoint} {t : Text} : Printable (c :: t) ↔ 0x20 ≤ c.val ∧ Printable t :=
  List.forall_mem_cons

@[simp] theorem printable_append {s t : Text} : Printable (s ++ t) ↔ Printable s ∧ Printable t := List.forall_mem_append

instance (t : Text) : Decidable (Printable t) := List.decidableBAll _ t

theorem printable_decimal (n : Nat) : Printable (decimal n) := by
  intro c member
  have digit := decimal_isDigit member
  simp only [isDigit, Bool.and_eq_true, decide_eq_true_eq] at digit
  omega

theorem printable_digits (digits : List (Fin 10)) : Printable (digits.map digitPoint) := by
  intro c member
  obtain ⟨d, -, rfl⟩ := List.mem_map.mp member
  show 0x20 ≤ 0x30 + d.val
  omega

/-- An escape has no control characters. -/
theorem printable_escape (c : CodePoint) : Printable (escape c) := by
  have hex : ∀ d : Fin 16, 0x20 ≤ (hexPoint d).val := by decide
  unfold escape
  split
  · decide
  split
  · decide
  split
  · decide
  split
  · decide
  split
  · decide
  split
  · decide
  split
  · decide
  split
  · simp only [printable_cons, hex, printable_nil, and_true]
    decide
  · next special =>
    rw [printable_cons]
    exact ⟨by omega, printable_nil⟩

/-- A string is written without control characters, so a line stays one line. -/
theorem printable_dumpString (s : Text) : Printable (dumpString s) := by
  have mark : 0x20 ≤ quote.val := by decide
  rw [dumpString, printable_append, printable_cons, printable_cons]
  refine ⟨⟨mark, ?_⟩, mark, printable_nil⟩
  intro c member
  obtain ⟨d, -, inside⟩ := List.mem_flatMap.mp member
  exact printable_escape d c inside

/-- An integer is written without control characters. -/
theorem printable_dumpInt (n : Int) : Printable (dumpInt n) := by
  unfold dumpInt
  split
  · exact printable_append.mpr ⟨by decide, printable_decimal _⟩
  · exact printable_decimal _

/-- A float is written without control characters. -/
theorem printable_dumpFloat (x : FloatLit) : Printable (dumpFloat x) := by
  have minus : Printable (text "-") := by decide
  have dot : Printable (text ".") := by decide
  have mark : Printable (text "e") := by decide
  have exponent : Printable (dumpExponent x.exponent) := by
    unfold dumpExponent
    split
    · exact printable_nil
    · split
      · exact printable_append.mpr ⟨printable_append.mpr ⟨mark, minus⟩, printable_digits _⟩
      · exact printable_append.mpr ⟨printable_append.mpr ⟨mark, printable_nil⟩, printable_digits _⟩
  unfold dumpFloat
  simp only [printable_append]
  refine ⟨⟨⟨?_, printable_decimal _⟩, ?_⟩, exponent⟩
  · split
    · exact minus
    · exact printable_nil
  · split
    · exact printable_nil
    · exact printable_append.mpr ⟨dot, printable_digits _⟩

mutual

/-- The compact text of a value has no line break. -/
theorem printable_dump : ∀ v : Json, Printable (dump v)
  | .null => by decide
  | .bool true => by decide
  | .bool false => by decide
  | .int n => printable_dumpInt n
  | .float x => printable_dumpFloat x
  | .str s => printable_dumpString s
  | .arr [] => by decide
  | .arr (x :: xs) => by
    rw [dump, printable_append, printable_append]
    exact ⟨⟨by decide, printable_dump x⟩, printable_dumpItems xs⟩
  | .obj [] => by decide
  | .obj ((k, x) :: ms) => by
    rw [dump]
    simp only [printable_append]
    exact ⟨⟨⟨⟨by decide, printable_dumpString k⟩, by decide⟩, printable_dump x⟩, printable_dumpMembers ms⟩

/-- Elements are written without control characters. -/
theorem printable_dumpItems : ∀ xs : List Json, Printable (dumpItems xs)
  | [] => by decide
  | x :: xs => by
    rw [dumpItems, printable_append, printable_append]
    exact ⟨⟨by decide, printable_dump x⟩, printable_dumpItems xs⟩

/-- Members are written without control characters. -/
theorem printable_dumpMembers : ∀ ms : List (Text × Json), Printable (dumpMembers ms)
  | [] => by decide
  | (k, x) :: ms => by
    rw [dumpMembers]
    simp only [printable_append]
    exact ⟨⟨⟨⟨by decide, printable_dumpString k⟩, by decide⟩, printable_dump x⟩, printable_dumpMembers ms⟩

end

/-- A printable character has no control octet. -/
theorem encodePoint_printable {c : CodePoint} {bytes : List Byte} (printable : 0x20 ≤ c.val)
    (encoded : Utf8.encodePoint c = some bytes) : ∀ b ∈ bytes, 0x20 ≤ b.val := by
  have bound := c.isLt
  have byte : ∀ {n : Nat}, n < 256 → (Byte.ofNat n).val = n := Utf8.ofNat_val_of_lt
  unfold Utf8.encodePoint at encoded
  split at encoded
  · cases encoded
  split at encoded
  · obtain rfl := Option.some.inj encoded
    simp only [List.forall_mem_cons, List.not_mem_nil, IsEmpty.forall_iff, implies_true, and_true]
    rw [byte (by omega)]
    exact printable
  split at encoded
  · obtain rfl := Option.some.inj encoded
    simp only [List.forall_mem_cons, List.not_mem_nil, IsEmpty.forall_iff, implies_true, and_true]
    rw [byte (by omega), byte (by omega)]
    omega
  split at encoded
  · obtain rfl := Option.some.inj encoded
    simp only [List.forall_mem_cons, List.not_mem_nil, IsEmpty.forall_iff, implies_true, and_true]
    rw [byte (by omega), byte (by omega), byte (by omega)]
    omega
  · obtain rfl := Option.some.inj encoded
    simp only [List.forall_mem_cons, List.not_mem_nil, IsEmpty.forall_iff, implies_true, and_true]
    rw [byte (by omega), byte (by omega), byte (by omega), byte (by omega)]
    omega

/-- Nor have its bytes. -/
theorem encode_printable {t : Text} {bytes : List Byte} (printable : Printable t) (encoded : Utf8.encode t = some bytes) :
    ∀ b ∈ bytes, 0x20 ≤ b.val := by
  induction t generalizing bytes with
  | nil =>
    obtain rfl := Option.some.inj encoded
    intro b member
    cases member
  | cons c rest ih =>
    obtain ⟨first, others⟩ := printable_cons.mp printable
    rw [Utf8.encode] at encoded
    split at encoded
    · next here more =>
      obtain rfl := Option.some.inj encoded
      exact List.forall_mem_append.mpr ⟨encodePoint_printable first here, ih others more⟩
    · cases encoded

end Json

end EmsDnp3
