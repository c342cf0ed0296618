import Mathlib

/-!
# JSON values and Python text

Both ends of the pipe exchange JSON. The value type is shared by the C++ and the
Python models: integers are exact, a number written with a fraction or an exponent
is kept as its literal (`FloatLit`), so no model computes with binary floating point.
A Python `str` is a sequence of code points that may hold lone surrogates
(`json.loads` produces them from `\ud800`), hence `Text` and not `String`.
-/

namespace EmsDnp3

/-- A Unicode code point, lone surrogates included. -/
abbrev CodePoint := Fin 0x110000

instance neZero_codePoints : NeZero 0x110000 := ⟨by decide⟩

instance neZero_octets : NeZero 256 := ⟨by decide⟩

instance neZero_digits : NeZero 10 := ⟨by decide⟩

instance lawfulBEq_codePoint : LawfulBEq CodePoint := inferInstance

/-- A Python `str`; a `std::string` of valid UTF-8 is one without surrogates. -/
abbrev Text := List CodePoint

theorem charToNat_lt (c : Char) : c.toNat < 0x110000 := by
  have h := c.valid
  simp only [UInt32.isValidChar, Nat.isValidChar] at h
  have e : c.toNat = c.val.toNat := rfl
  omega

def CodePoint.ofNat (n : Nat) : CodePoint := ⟨n % 0x110000, Nat.mod_lt _ (by decide)⟩

def CodePoint.ofChar (c : Char) : CodePoint := ⟨c.toNat, charToNat_lt c⟩

/-- The text of a string literal. -/
def text (s : String) : Text := s.toList.map CodePoint.ofChar

instance : Coe String Text := ⟨text⟩

theorem CodePoint.ofChar_injective : Function.Injective CodePoint.ofChar := by
  intro a b same
  exact Char.toNat_inj.mp (Fin.mk.inj same)

/-- Literals are compared as strings. -/
@[simp] theorem text_inj {a b : String} : text a = text b ↔ a = b := by
  rw [text, text, List.map_inj_right fun _ _ same => CodePoint.ofChar_injective same, String.toList_inj]

/-- A JSON number with a fraction or an exponent, digit by digit as written. -/
structure FloatLit where
  negative : Bool
  whole : Nat
  fraction : List (Fin 10)
  exponent : Option (Bool × Fin 10 × List (Fin 10))
  isFloat : fraction ≠ [] ∨ exponent.isSome
deriving DecidableEq

/-- A literal such as `0.0` has a fraction. -/
theorem FloatLit.zero_isFloat :
    ([0] : List (Fin 10)) ≠ [] ∨ (none : Option (Bool × Fin 10 × List (Fin 10))).isSome = true :=
  .inl (List.cons_ne_nil _ _)

/-- JSON values. Member order is the order of the text; readers look members up by key. -/
inductive Json where
  | null
  | bool (value : Bool)
  | int (value : Int)
  | float (value : FloatLit)
  | str (value : Text)
  | arr (items : List Json)
  | obj (members : List (Text × Json))

namespace Json

/-- The member `key` of an object (`dict.get`, `json::find`); nothing on other values. -/
def get? : Json → Text → Option Json
  | .obj members, key => (members.find? fun m => m.1 = key).map (·.2)
  | _, _ => none

/-- The keys of an object. -/
def keys : Json → List Text
  | .obj members => members.map (·.1)
  | _ => []

def isObj : Json → Bool
  | .obj _ => true
  | _ => false

/-- Objects are written with string keys. -/
def object (members : List (String × Json)) : Json :=
  .obj (members.map fun m => (text m.1, m.2))

@[simp] theorem get?_object_nil (key : Text) : (object []).get? key = none := rfl

@[simp] theorem get?_object_cons (k key : String) (v : Json) (members : List (String × Json)) :
    (object ((k, v) :: members)).get? key = if k = key then some v else (object members).get? key := by
  simp only [object, get?, List.map_cons, List.find?_cons, text_inj]
  by_cases same : k = key
  · simp [same]
  · simp [same]

/-- A member is found exactly if its name is there. -/
theorem get?_object_isNone {members : List (String × Json)} {key : String} :
    ((object members).get? key).isNone = false ↔ key ∈ members.map (·.1) := by
  induction members with
  | nil => simp
  | cons m members ih =>
    obtain ⟨k, v⟩ := m
    rw [get?_object_cons, List.map_cons, List.mem_cons]
    by_cases same : k = key
    · simp [same]
    · rw [if_neg same, ih]
      constructor
      · exact .inr
      · rintro (rfl | inside)
        · exact absurd rfl same
        · exact inside

/-- A C++ or Python non-negative integer. -/
def nat (n : Nat) : Json := .int n

/-- A value that may be absent is written as `null`. -/
def ofOption {α : Type} (encode : α → Json) : Option α → Json
  | some a => encode a
  | none => .null

mutual

/-- Structural equality of values. -/
def beq : Json → Json → Bool
  | .null, .null => true
  | .bool a, .bool b => a == b
  | .int a, .int b => a == b
  | .float a, .float b => a == b
  | .str a, .str b => a == b
  | .arr xs, .arr ys => beqItems xs ys
  | .obj xs, .obj ys => beqMembers xs ys
  | _, _ => false

/-- Elements are compared one by one. -/
def beqItems : List Json → List Json → Bool
  | [], [] => true
  | x :: xs, y :: ys => beq x y && beqItems xs ys
  | _, _ => false

/-- Members are compared one by one, in their order. -/
def beqMembers : List (Text × Json) → List (Text × Json) → Bool
  | [], [] => true
  | (k, x) :: xs, (l, y) :: ys => k == l && beq x y && beqMembers xs ys
  | _, _ => false

end

mutual

/-- The comparison decides equality. -/
theorem beq_iff : ∀ {a b : Json}, beq a b = true ↔ a = b
  | .null, b => by cases b <;> simp [beq]
  | .bool a, b => by cases b <;> simp [beq]
  | .int a, b => by cases b <;> simp [beq]
  | .float a, b => by cases b <;> simp [beq]
  | .str a, b => by cases b <;> simp [beq]
  | .arr xs, b => by
    cases b <;> simp only [beq, reduceCtorEq, Bool.false_eq_true]
    rw [beqItems_iff, Json.arr.injEq]
  | .obj xs, b => by
    cases b <;> simp only [beq, reduceCtorEq, Bool.false_eq_true]
    rw [beqMembers_iff, Json.obj.injEq]

/-- The comparison of elements decides equality. -/
theorem beqItems_iff : ∀ {xs ys : List Json}, beqItems xs ys = true ↔ xs = ys
  | [], ys => by cases ys <;> simp [beqItems]
  | x :: xs, ys => by
    cases ys with
    | nil => simp [beqItems]
    | cons y ys => rw [beqItems, Bool.and_eq_true, beq_iff, beqItems_iff, List.cons.injEq]

/-- The comparison of members decides equality. -/
theorem beqMembers_iff : ∀ {xs ys : List (Text × Json)}, beqMembers xs ys = true ↔ xs = ys
  | [], ys => by cases ys <;> simp [beqMembers]
  | (k, x) :: xs, ys => by
    cases ys with
    | nil => simp [beqMembers]
    | cons m ys =>
      obtain ⟨l, y⟩ := m
      rw [beqMembers, Bool.and_eq_true, Bool.and_eq_true, beq_iff_eq, beq_iff, beqMembers_iff,
        List.cons.injEq, Prod.mk.injEq]

end

instance : DecidableEq Json := fun _ _ => decidable_of_iff _ beq_iff

end Json

end EmsDnp3
