import EmsDnp3.Base.Bytes
import EmsDnp3.Json.Decimal

/-!
# Parsing JSON

`json.loads(text, object_pairs_hook=.., parse_constant=..)` with the two hooks that both ends of
the client use: a repeated key and a non-finite number are errors. `none` stands for the
`ValueError` of every failure. The recursion is bounded by the length of the text.
-/

namespace EmsDnp3.Json

/-- The code point of a character. -/
def point (c : Char) : CodePoint := .ofChar c

def isBlank (c : CodePoint) : Bool := c = point ' ' || c = point '\t' || c = point '\n' || c = point '\r'

/-- The text after leading blanks. -/
def skip : Text → Text
  | [] => []
  | c :: rest => if isBlank c then skip rest else c :: rest

/-! ## Numbers -/

def digitValue? (c : CodePoint) : Option (Fin 10) :=
  if h : 0x30 ≤ c.val ∧ c.val ≤ 0x39 then some ⟨c.val - 0x30, by omega⟩ else none

/-- The digits at the head of a text. -/
def spanDigits : Text → List (Fin 10) × Text
  | [] => ([], [])
  | c :: rest =>
    match digitValue? c with
    | some d => (d :: (spanDigits rest).1, (spanDigits rest).2)
    | none => ([], c :: rest)

def ofDigits (digits : List (Fin 10)) : Nat := digits.foldl (fun n d => 10 * n + d.val) 0

/-- The whole part: a zero stands alone. -/
def wholePart : Text → Option (List (Fin 10) × Text)
  | [] => none
  | c :: rest =>
    match digitValue? c with
    | none => none
    | some d => if d.val = 0 then some ([d], rest) else some (d :: (spanDigits rest).1, (spanDigits rest).2)

/-- The digits after a point; without one, or without digits, nothing is consumed. -/
def fractionPart (t : Text) : List (Fin 10) × Text :=
  match t with
  | [] => ([], [])
  | c :: rest =>
    if c = point '.' then
      match spanDigits rest with
      | ([], _) => ([], t)
      | (digits, more) => (digits, more)
    else ([], t)

/-- The digits of an exponent. -/
def exponentDigits (negative : Bool) (rest : Text) : Option ((Bool × Fin 10 × List (Fin 10)) × Text) :=
  match spanDigits rest with
  | ([], _) => none
  | (d :: digits, more) => some ((negative, d, digits), more)

/-- The sign and the digits of an exponent. -/
def exponentAfter? : Text → Option ((Bool × Fin 10 × List (Fin 10)) × Text)
  | [] => none
  | sign :: more =>
    if sign = point '-' then exponentDigits true more
    else if sign = point '+' then exponentDigits false more
    else exponentDigits false (sign :: more)

/-- The exponent; without digits, nothing is consumed. -/
def exponentPart (t : Text) : Option (Bool × Fin 10 × List (Fin 10)) × Text :=
  match t with
  | [] => (none, [])
  | e :: rest =>
    if e = point 'e' || e = point 'E' then
      match exponentAfter? rest with
      | some (exponent, more) => (some exponent, more)
      | none => (none, t)
    else (none, t)

/-- The limit of `int(text)`. -/
def maxIntDigits : Nat := 4300

/-- A number with its sign already read. -/
def unsigned (negative : Bool) (t : Text) : Option (Json × Text) :=
  match wholePart t with
  | none => none
  | some (whole, rest) =>
    let fraction := fractionPart rest
    let exponent := exponentPart fraction.2
    if isFloat : fraction.1 ≠ [] ∨ exponent.1.isSome then
      some (.float ⟨negative, ofDigits whole, fraction.1, exponent.1, isFloat⟩, exponent.2)
    else if maxIntDigits < whole.length then none
    else some (.int (if negative then -(ofDigits whole : Int) else ofDigits whole), rest)

/-- A number, with or without its sign. -/
def number (t : Text) : Option (Json × Text) :=
  match t with
  | [] => none
  | c :: rest => if c = point '-' then unsigned true rest else unsigned false t

/-! ## Strings -/

/-- An escape of two characters. -/
def simpleEscape? (c : CodePoint) : Option CodePoint :=
  if c = point '"' then some (point '"')
  else if c = point '\\' then some (point '\\')
  else if c = point '/' then some (point '/')
  else if c = point 'b' then some (.ofNat 0x08)
  else if c = point 'f' then some (.ofNat 0x0C)
  else if c = point 'n' then some (.ofNat 0x0A)
  else if c = point 'r' then some (.ofNat 0x0D)
  else if c = point 't' then some (.ofNat 0x09)
  else none

/-- Four hexadecimal digits. -/
def fourHex? : Text → Option (Nat × Text)
  | a :: b :: c :: d :: rest =>
    match hexByte? a b, hexByte? c d with
    | some high, some low => some (256 * high.val + low.val, rest)
    | _, _ => none
  | _ => none

/-- The second half of a surrogate pair, if one follows. -/
def lowSurrogate? : Text → Option (Option (Nat × Text))
  | backslash :: u :: rest =>
    if backslash = point '\\' ∧ u = point 'u' then
      match fourHex? rest with
      | none => none
      | some (low, more) => if 0xDC00 ≤ low ∧ low ≤ 0xDFFF then some (some (low, more)) else some none
    else some none
  | _ => some none

/-- The rest of a `\u` escape; a pair of surrogates is one code point, a single one stays. -/
def unicodeEscape? (t : Text) : Option (CodePoint × Text) :=
  match fourHex? t with
  | none => none
  | some (high, rest) =>
    if 0xD800 ≤ high ∧ high ≤ 0xDBFF then
      match lowSurrogate? rest with
      | none => none
      | some none => some (.ofNat high, rest)
      | some (some (low, more)) => some (.ofNat (0x10000 + (high - 0xD800) * 0x400 + (low - 0xDC00)), more)
    else some (.ofNat high, rest)

/-- A string after its opening quote. -/
def stringBody : Nat → Text → Option (Text × Text)
  | 0, _ => none
  | _ + 1, [] => none
  | fuel + 1, c :: rest =>
    if c = point '"' then some ([], rest)
    else if c = point '\\' then
      match rest with
      | [] => none
      | e :: more =>
        if e = point 'u' then
          match unicodeEscape? more with
          | none => none
          | some (d, after) => (stringBody fuel after).map fun r => (d :: r.1, r.2)
        else
          match simpleEscape? e with
          | none => none
          | some d => (stringBody fuel more).map fun r => (d :: r.1, r.2)
    else if c.val < 0x20 then none
    else (stringBody fuel rest).map fun r => (c :: r.1, r.2)

/-- A string that starts here. -/
def string (t : Text) : Option (Text × Text) :=
  match t with
  | [] => none
  | c :: rest => if c = point '"' then stringBody (rest.length + 1) rest else none

/-! ## Values -/

/-- The text after a word. -/
def after? : Text → Text → Option Text
  | [], t => some t
  | _ :: _, [] => none
  | w :: word, c :: rest => if w = c then after? word rest else none

/-- `null`, `true`, `false`, or a number. -/
def scalar (t : Text) : Option (Json × Text) :=
  match after? (text "null") t with
  | some rest => some (.null, rest)
  | none =>
    match after? (text "true") t with
    | some rest => some (.bool true, rest)
    | none =>
      match after? (text "false") t with
      | some rest => some (.bool false, rest)
      | none => number t

/-- `_reject_duplicate_keys` -/
def rejectDuplicateKeys (members : List (Text × Json)) : Option Json :=
  if (members.map (·.1)).Nodup then some (.obj members) else none

mutual

/-- `scan_once` -/
def value : Nat → Text → Option (Json × Text)
  | 0, _ => none
  | _ + 1, [] => none
  | fuel + 1, c :: rest =>
    if c = point '"' then (stringBody (rest.length + 1) rest).map fun r => (.str r.1, r.2)
    else if c = point '[' then
      match skip rest with
      | [] => none
      | d :: more =>
        if d = point ']' then some (.arr [], more)
        else (items fuel (d :: more)).map fun r => (.arr r.1, r.2)
    else if c = point '\x7b' then
      match skip rest with
      | [] => none
      | d :: more =>
        if d = point '\x7d' then some (.obj [], more)
        else
          match members fuel (d :: more) with
          | none => none
          | some (found, after) => (rejectDuplicateKeys found).map fun v => (v, after)
    else scalar (c :: rest)

/-- The items of an array up to its bracket. -/
def items : Nat → Text → Option (List Json × Text)
  | 0, _ => none
  | fuel + 1, t =>
    match value fuel t with
    | none => none
    | some (x, rest) =>
      match skip rest with
      | [] => none
      | d :: more =>
        if d = point ',' then (items fuel (skip more)).map fun r => (x :: r.1, r.2)
        else if d = point ']' then some ([x], more)
        else none

/-- The members of an object up to its brace. -/
def members : Nat → Text → Option (List (Text × Json) × Text)
  | 0, _ => none
  | fuel + 1, t =>
    match string t with
    | none => none
    | some (key, rest) =>
      match skip rest with
      | [] => none
      | colon :: rest =>
        if colon = point ':' then
          match value fuel (skip rest) with
          | none => none
          | some (x, rest) =>
            match skip rest with
            | [] => none
            | d :: more =>
              if d = point ',' then (members fuel (skip more)).map fun r => ((key, x) :: r.1, r.2)
              else if d = point '\x7d' then some ([(key, x)], more)
              else none
        else none

end

/-- `json.loads` -/
def loads (t : Text) : Option Json :=
  match value (2 * t.length + 2) (skip t) with
  | some (v, rest) => if skip rest = [] then some v else none
  | none => none

end EmsDnp3.Json
