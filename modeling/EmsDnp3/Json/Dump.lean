import EmsDnp3.Json.Value

/-!
# Compact JSON text

`json.dumps(value, ensure_ascii=False, separators=(",", ":"))` and `nlohmann::json::dump`
write the same text: no blanks, the two-letter escapes where JSON has one, `\u00xx` for the
other control characters, every other code point as itself.
-/

namespace EmsDnp3

/-- A decimal digit as a code point. -/
def digitPoint (d : Fin 10) : CodePoint := ⟨0x30 + d.val, by omega⟩

/-- A number below sixteen as a lower-case hexadecimal digit. -/
def hexPoint (d : Fin 16) : CodePoint :=
  if d.val < 10 then ⟨0x30 + d.val, by omega⟩ else ⟨0x57 + d.val, by omega⟩

theorem CodePoint.highDigit_lt (c : CodePoint) : c.val / 16 % 16 < 16 := Nat.mod_lt _ (by decide)

theorem CodePoint.lowDigit_lt (c : CodePoint) : c.val % 16 < 16 := Nat.mod_lt _ (by decide)

/-- A natural number in decimal. -/
def decimal (n : Nat) : Text := (Nat.toDigits 10 n).map CodePoint.ofChar

namespace Json

def quote : CodePoint := 0x22
def backslash : CodePoint := 0x5C

/-- How a code point stands inside a string literal. -/
def escape (c : CodePoint) : Text :=
  if c = 0x22 then [backslash, 0x22]
  else if c = 0x5C then [backslash, 0x5C]
  else if c = 0x08 then [backslash, 0x62]
  else if c = 0x0C then [backslash, 0x66]
  else if c = 0x0A then [backslash, 0x6E]
  else if c = 0x0D then [backslash, 0x72]
  else if c = 0x09 then [backslash, 0x74]
  else if c.val < 0x20 then
    [backslash, 0x75, 0x30, 0x30, hexPoint ⟨c.val / 16 % 16, c.highDigit_lt⟩, hexPoint ⟨c.val % 16, c.lowDigit_lt⟩]
  else [c]

def dumpString (s : Text) : Text := quote :: s.flatMap escape ++ [quote]

def dumpInt (n : Int) : Text :=
  if n < 0 then text "-" ++ decimal n.natAbs else decimal n.natAbs

/-- The exponent, where there is one. -/
def dumpExponent : Option (Bool × Fin 10 × List (Fin 10)) → Text
  | none => []
  | some (negative, d, ds) =>
    text "e" ++ (if negative then text "-" else []) ++ (d :: ds).map digitPoint

/-- A float literal as it was read. -/
def dumpFloat (x : FloatLit) : Text :=
  (if x.negative then text "-" else []) ++ decimal x.whole
    ++ (if x.fraction = [] then [] else text "." ++ x.fraction.map digitPoint)
    ++ dumpExponent x.exponent

mutual

/-- The compact text of a value. -/
def dump : Json → Text
  | .null => text "null"
  | .bool true => text "true"
  | .bool false => text "false"
  | .int n => dumpInt n
  | .float x => dumpFloat x
  | .str s => dumpString s
  | .arr [] => text "[]"
  | .arr (x :: xs) => text "[" ++ dump x ++ dumpItems xs
  | .obj [] => text "\x7b\x7d"
  | .obj ((k, x) :: ms) => text "\x7b" ++ dumpString k ++ text ":" ++ dump x ++ dumpMembers ms

/-- The items after the first, and the closing bracket. -/
def dumpItems : List Json → Text
  | [] => text "]"
  | x :: xs => text "," ++ dump x ++ dumpItems xs

/-- The members after the first, and the closing brace. -/
def dumpMembers : List (Text × Json) → Text
  | [] => text "\x7d"
  | (k, x) :: ms => text "," ++ dumpString k ++ text ":" ++ dump x ++ dumpMembers ms

end

end Json

end EmsDnp3
