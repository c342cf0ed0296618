import EmsDnp3.Json.Parse

/-!
# The grammar of JSON

What RFC 8259 derives, with the number of containers around the innermost value. The grammar knows no limits: keys may
repeat, numbers may be of any length.
-/

namespace EmsDnp3.Json.Grammar

/-- `ws` -/
def IsBlanks (t : Text) : Prop := ∀ c ∈ t, isBlank c = true

/-! ## Numbers -/

def IsDigit (c : CodePoint) : Prop := (digitValue? c).isSome = true

/-- `1*DIGIT` -/
def IsDigits (t : Text) : Prop := t ≠ [] ∧ ∀ c ∈ t, IsDigit c

/-- `int`: a zero stands alone. -/
inductive IsWhole : Text → Prop
  | zero : IsWhole [point '0']
  | digits {c : CodePoint} {rest : Text} (first : IsDigit c) (notZero : c ≠ point '0') (others : ∀ d ∈ rest, IsDigit d) :
    IsWhole (c :: rest)

/-- `[ frac ]` -/
inductive IsFraction : Text → Prop
  | absent : IsFraction []
  | digits {t : Text} (digits : IsDigits t) : IsFraction (point '.' :: t)

/-- `[ exp ]` -/
inductive IsExponent : Text → Prop
  | absent : IsExponent []
  | digits {e : CodePoint} {sign t : Text} (letter : e = point 'e' ∨ e = point 'E')
    (signed : sign = [] ∨ sign = [point '+'] ∨ sign = [point '-']) (digits : IsDigits t) : IsExponent (e :: (sign ++ t))

/-- `number` -/
inductive IsNumber : Text → Prop
  | parts {sign whole fraction exponent : Text} (signed : sign = [] ∨ sign = [point '-']) (isWhole : IsWhole whole)
    (isFraction : IsFraction fraction) (isExponent : IsExponent exponent) :
    IsNumber (sign ++ (whole ++ (fraction ++ exponent)))

/-! ## Strings -/

/-- `*char` -/
inductive IsChars : Text → Prop
  | nil : IsChars []
  | unescaped {c : CodePoint} {rest : Text} (notQuote : c ≠ point '"') (notBackslash : c ≠ point '\\')
    (notControl : 0x20 ≤ c.val) (more : IsChars rest) : IsChars (c :: rest)
  | escape {e : CodePoint} {rest : Text} (known : (simpleEscape? e).isSome = true) (more : IsChars rest) :
    IsChars (point '\\' :: e :: rest)
  | unicode {digits rest : Text} (four : digits.length = 4) (hex : ∀ c ∈ digits, (hexValue? c).isSome = true)
    (more : IsChars rest) : IsChars (point '\\' :: point 'u' :: (digits ++ rest))

/-- `string` -/
def IsString (t : Text) : Prop := ∃ chars, IsChars chars ∧ t = point '"' :: (chars ++ [point '"'])

/-! ## Values -/

/-- The nonterminals of RFC 8259 that nest. -/
inductive Kind where
  | value
  /-- A value between blanks. -/
  | element
  | elements
  | members

/-- What is derived, and how deep it is. -/
inductive Derives : Kind → Text → Nat → Prop
  | word {t : Text} (known : t ∈ ["null", "true", "false"].map text) : Derives .value t 0
  | number {t : Text} (isNumber : IsNumber t) : Derives .value t 0
  | string {t : Text} (isString : IsString t) : Derives .value t 0
  | emptyArray {blanks : Text} (isBlanks : IsBlanks blanks) : Derives .value (point '[' :: (blanks ++ [point ']'])) 1
  | array {t : Text} {d : Nat} (elements : Derives .elements t d) :
    Derives .value (point '[' :: (t ++ [point ']'])) (d + 1)
  | emptyObject {blanks : Text} (isBlanks : IsBlanks blanks) :
    Derives .value (point '\x7b' :: (blanks ++ [point '\x7d'])) 1
  | object {t : Text} {d : Nat} (members : Derives .members t d) :
    Derives .value (point '\x7b' :: (t ++ [point '\x7d'])) (d + 1)
  | element {before t after : Text} {d : Nat} (isBefore : IsBlanks before) (value : Derives .value t d)
    (isAfter : IsBlanks after) : Derives .element (before ++ (t ++ after)) d
  | lastElement {t : Text} {d : Nat} (element : Derives .element t d) : Derives .elements t d
  | elements {first rest : Text} {d e : Nat} (element : Derives .element first d) (others : Derives .elements rest e) :
    Derives .elements (first ++ point ',' :: rest) (max d e)
  | lastMember {before key after t : Text} {d : Nat} (isBefore : IsBlanks before) (isKey : IsString key)
    (isAfter : IsBlanks after) (element : Derives .element t d) :
    Derives .members (before ++ (key ++ (after ++ point ':' :: t))) d
  | members {before key after first rest : Text} {d e : Nat} (isBefore : IsBlanks before) (isKey : IsString key)
    (isAfter : IsBlanks after) (element : Derives .element first d) (others : Derives .members rest e) :
    Derives .members (before ++ (key ++ (after ++ point ':' :: (first ++ point ',' :: rest)))) (max d e)

/-- `JSON-text` -/
def IsText (t : Text) (d : Nat) : Prop := Derives .element t d

end EmsDnp3.Json.Grammar
