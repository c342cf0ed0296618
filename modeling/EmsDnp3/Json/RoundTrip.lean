import EmsDnp3.Json.Parse

/-!
# Reading what was written

The parser gives back every value from its compact text (`value_dump`, `loads_dump`). A number
has no end mark of its own, so it is read back only before a character that cannot continue it.
-/

namespace EmsDnp3.Json

/-- No character that could continue a number. -/
def ends : Text → Bool
  | [] => true
  | c :: _ => !isDigit c && c ≠ point '.' && c ≠ point 'e' && c ≠ point 'E'

/-! ## Numbers -/

@[simp] theorem digitValue?_digitPoint (d : Fin 10) : digitValue? (digitPoint d) = some d := by
  revert d
  decide

theorem digitValue?_eq_none {c : CodePoint} : digitValue? c = none ↔ isDigit c = false := by
  unfold digitValue? isDigit
  split
  · next digit => simp [digit]
  · next other => simpa using other

/-- Digits are taken up to the first character that is none. -/
theorem spanDigits_map (digits : List (Fin 10)) {r : Text} (stop : ∀ c ∈ r.head?, isDigit c = false) :
    spanDigits (digits.map digitPoint ++ r) = (digits, r) := by
  induction digits with
  | nil =>
    cases r with
    | nil => rfl
    | cons c rest =>
      have none_ : digitValue? c = none := digitValue?_eq_none.mpr (stop c rfl)
      simp [spanDigits, none_]
  | cons d digits ih => simp [spanDigits, ih]

theorem ofDigits_append (digits : List (Fin 10)) (d : Fin 10) :
    ofDigits (digits ++ [d]) = 10 * ofDigits digits + d.val := by
  simp [ofDigits]

/-- The digits of a number: a zero only where the number is zero. -/
theorem exists_digits (n : Nat) :
    ∃ d digits, decimal n = (d :: digits).map digitPoint ∧ ofDigits (d :: digits) = n ∧ (d.val = 0 → digits = []) := by
  induction n using Nat.strongRecOn with
  | ind n ih =>
    rw [decimal_eq]
    by_cases small : n < 10
    · refine ⟨⟨n % 10, Nat.mod_lt _ (by decide)⟩, [], by rw [if_pos small]; rfl, ?_, fun _ => rfl⟩
      simp [ofDigits, Nat.mod_eq_of_lt small]
    · obtain ⟨d, digits, shape, value, zero⟩ := ih (n / 10) (by omega)
      refine ⟨d, digits ++ [⟨n % 10, Nat.mod_lt _ (by decide)⟩], ?_, ?_, ?_⟩
      · rw [if_neg small, shape]
        simp
      · rw [← List.cons_append, ofDigits_append, value]
        exact Nat.div_add_mod n 10
      · intro first
        rw [zero first] at value
        simp [ofDigits, first] at value
        omega

theorem head_of_ends {r : Text} (stop : ends r = true) : ∀ c ∈ r.head?, isDigit c = false := by
  cases r with
  | nil => simp
  | cons c rest =>
    simp only [ends, Bool.and_eq_true, Bool.not_eq_true'] at stop
    simpa using stop.1.1.1

/-- The whole part of a number is read back. -/
theorem wholePart_decimal (n : Nat) {r : Text} (stop : ∀ c ∈ r.head?, isDigit c = false) :
    ∃ digits, wholePart (decimal n ++ r) = some (digits, r) ∧ ofDigits digits = n ∧
      digits.length = (decimal n).length := by
  obtain ⟨d, digits, shape, value, zero⟩ := exists_digits n
  refine ⟨d :: digits, ?_, value, by rw [shape, List.length_map]⟩
  rw [shape, List.map_cons, List.cons_append, wholePart, digitValue?_digitPoint]
  by_cases first : d.val = 0
  · simp [first, zero first]
  · simp [first, spanDigits_map digits stop]

theorem fractionPart_other {c : CodePoint} {r : Text} (other : c ≠ point '.') :
    fractionPart (c :: r) = ([], c :: r) := if_neg other

theorem fractionPart_ends {r : Text} (stop : ends r = true) : fractionPart r = ([], r) := by
  cases r with
  | nil => rfl
  | cons c rest =>
    simp only [ends, Bool.and_eq_true, decide_eq_true_eq] at stop
    exact fractionPart_other stop.1.1.2

/-- The digits behind a point are the fraction. -/
theorem fractionPart_digits {digits : List (Fin 10)} (some_ : digits ≠ []) {r : Text}
    (stop : ∀ c ∈ r.head?, isDigit c = false) :
    fractionPart (text "." ++ digits.map digitPoint ++ r) = (digits, r) := by
  have shape : text "." ++ digits.map digitPoint ++ r = point '.' :: (digits.map digitPoint ++ r) := rfl
  rw [shape, fractionPart, if_pos rfl, spanDigits_map digits stop]
  cases digits with
  | nil => exact absurd rfl some_
  | cons d digits => rfl

theorem exponentPart_ends {r : Text} (stop : ends r = true) : exponentPart r = (none, r) := by
  cases r with
  | nil => rfl
  | cons c rest =>
    simp only [ends, Bool.and_eq_true, decide_eq_true_eq] at stop
    simp [exponentPart, stop.1.2, stop.2]

/-- The digits of an exponent are read as they were written. -/
theorem exponentDigits_digits (negative : Bool) (d : Fin 10) (digits : List (Fin 10)) {r : Text}
    (stop : ∀ c ∈ r.head?, isDigit c = false) :
    exponentDigits negative ((d :: digits).map digitPoint ++ r) = some ((negative, d, digits), r) := by
  rw [exponentDigits, spanDigits_map _ stop]

theorem digitPoint_ne {d : Fin 10} : digitPoint d ≠ point '-' ∧ digitPoint d ≠ point '+' := by
  revert d
  decide

/-- An exponent is read as it was written. -/
theorem exponentPart_dump (exponent : Option (Bool × Fin 10 × List (Fin 10))) {r : Text} (stop : ends r = true) :
    exponentPart (dumpExponent exponent ++ r) = (exponent, r) := by
  match exponent with
  | none => exact exponentPart_ends stop
  | some (true, d, digits) =>
    have shape : dumpExponent (some (true, d, digits)) ++ r
        = point 'e' :: point '-' :: ((d :: digits).map digitPoint ++ r) := rfl
    rw [shape]
    simp [exponentPart, exponentAfter?, exponentDigits_digits true d digits (head_of_ends stop), -List.map_cons]
  | some (false, d, digits) =>
    have shape : dumpExponent (some (false, d, digits)) ++ r
        = point 'e' :: digitPoint d :: (digits.map digitPoint ++ r) := rfl
    have read := exponentDigits_digits false d digits (head_of_ends stop)
    rw [List.map_cons, List.cons_append] at read
    rw [shape]
    simp [exponentPart, exponentAfter?, digitPoint_ne, read]

/-- What is written after the whole part. -/
def fractionText (x : FloatLit) : Text :=
  if x.fraction = [] then [] else text "." ++ x.fraction.map digitPoint

/-- Neither an exponent nor an end starts with a digit. -/
theorem head_exponent (exponent : Option (Bool × Fin 10 × List (Fin 10))) {r : Text} (stop : ends r = true) :
    ∀ c ∈ (dumpExponent exponent ++ r).head?, isDigit c = false := by
  match exponent with
  | none => exact head_of_ends stop
  | some (negative, d, digits) =>
    have shape : (dumpExponent (some (negative, d, digits)) ++ r).head? = some (point 'e') := by
      simp [dumpExponent, text, point]
    rw [shape]
    rintro c ⟨⟩
    decide

/-- A fraction keeps its first character whatever follows. -/
theorem head_fraction (x : FloatLit) {r : Text} (stop : ends r = true) :
    ∀ c ∈ (fractionText x ++ (dumpExponent x.exponent ++ r)).head?, isDigit c = false := by
  unfold fractionText
  split
  · exact head_exponent x.exponent stop
  · have shape : ((text "." ++ x.fraction.map digitPoint) ++ (dumpExponent x.exponent ++ r)).head?
        = some (point '.') := by simp [text, point]
    rw [shape]
    rintro c ⟨⟩
    decide

/-- A fraction is read as it was written. -/
theorem fractionPart_dump (x : FloatLit) {r : Text} (stop : ends r = true) :
    fractionPart (fractionText x ++ (dumpExponent x.exponent ++ r))
      = (x.fraction, dumpExponent x.exponent ++ r) := by
  unfold fractionText
  split
  · next empty =>
    rw [List.nil_append, empty]
    match h : x.exponent with
    | none => exact fractionPart_ends stop
    | some (negative, d, digits) =>
      have shape : dumpExponent (some (negative, d, digits)) ++ r = point 'e' ::
          ((if negative then text "-" else []) ++ (d :: digits).map digitPoint ++ r) := by
        simp [dumpExponent, text, point]
      rw [shape, fractionPart_other (by decide)]
  · next some_ => exact fractionPart_digits some_ (head_exponent x.exponent stop)

/-- The digits of an integer are read as that integer. -/
theorem unsigned_int (negative : Bool) {n : Nat} (short : (decimal n).length ≤ maxIntDigits) {r : Text}
    (stop : ends r = true) :
    unsigned negative (decimal n ++ r) = some (.int (if negative then -(n : Int) else n), r) := by
  obtain ⟨digits, read, value, length⟩ := wholePart_decimal n (head_of_ends stop)
  rw [unsigned, read]
  simp only [fractionPart_ends stop, exponentPart_ends stop, value]
  rw [dif_neg (by simp), if_neg (by omega)]

/-- The three parts of a float are read as that float. -/
theorem unsigned_float (x : FloatLit) {r : Text} (stop : ends r = true) :
    unsigned x.negative (decimal x.whole ++ (fractionText x ++ (dumpExponent x.exponent ++ r)))
      = some (.float x, r) := by
  obtain ⟨digits, read, value, -⟩ := wholePart_decimal x.whole (head_fraction x stop)
  rw [unsigned, read]
  simp only [fractionPart_dump x stop, exponentPart_dump x.exponent stop, value]
  rw [dif_pos x.isFloat]

/-- A decimal number starts with a digit. -/
theorem head_decimal (n : Nat) : ∃ d rest, decimal n = digitPoint d :: rest := by
  obtain ⟨d, digits, shape, -, -⟩ := exists_digits n
  exact ⟨d, digits.map digitPoint, shape⟩

/-- The sign is read first. -/
theorem number_unsigned (negative : Bool) (n : Nat) (r : Text) :
    number ((if negative then text "-" else []) ++ (decimal n ++ r)) = unsigned negative (decimal n ++ r) := by
  cases negative with
  | true => rfl
  | false =>
    obtain ⟨d, rest, shape⟩ := head_decimal n
    rw [shape]
    exact if_neg digitPoint_ne.1

/-- A number starts with a sign or a digit. -/
def startsNumber (c : CodePoint) : Prop := c = point '-' ∨ ∃ d, c = digitPoint d

/-- A number starts with a digit or a sign. -/
theorem head_number (negative : Bool) (n : Nat) (r : Text) :
    ∃ c rest, (if negative then text "-" else []) ++ (decimal n ++ r) = c :: rest ∧ startsNumber c := by
  cases negative with
  | true => exact ⟨point '-', _, rfl, .inl rfl⟩
  | false =>
    obtain ⟨d, rest, shape⟩ := head_decimal n
    exact ⟨digitPoint d, rest ++ r, by rw [shape]; rfl, .inr ⟨d, rfl⟩⟩

theorem startsNumber.ne {c : CodePoint} (start : startsNumber c) {e : CodePoint}
    (other : e ≠ point '-' ∧ ∀ d, e ≠ digitPoint d) : c ≠ e := by
  rcases start with rfl | ⟨d, rfl⟩
  · exact other.1.symm
  · exact (other.2 d).symm

/-- None of the three words starts like a number. -/
theorem scalar_number {c : CodePoint} (start : startsNumber c) (rest : Text) : scalar (c :: rest) = number (c :: rest) := by
  have skips : ∀ (w : CodePoint) (ws : Text), (w ≠ point '-' ∧ ∀ d, w ≠ digitPoint d) →
      after? (w :: ws) (c :: rest) = none := by
    intro w ws other
    exact if_neg (start.ne other).symm
  have null : text "null" = point 'n' :: text "ull" := rfl
  have true_ : text "true" = point 't' :: text "rue" := rfl
  have false_ : text "false" = point 'f' :: text "alse" := rfl
  rw [scalar, null, true_, false_, skips _ _ (by decide), skips _ _ (by decide), skips _ _ (by decide)]

/-- A value that starts like a number is one. -/
theorem value_number (fuel : Nat) {c : CodePoint} (start : startsNumber c) (rest : Text) :
    value (fuel + 1) (c :: rest) = number (c :: rest) := by
  rw [value, if_neg (start.ne (by decide)), if_neg (start.ne (by decide)), if_neg (start.ne (by decide)),
    scalar_number start]

theorem dumpInt_append (n : Int) (r : Text) :
    dumpInt n ++ r = (if decide (n < 0) then text "-" else []) ++ (decimal n.natAbs ++ r) := by
  unfold dumpInt
  by_cases negative : n < 0
  · simp [negative]
  · simp [negative]

theorem dumpFloat_append (x : FloatLit) (r : Text) :
    dumpFloat x ++ r = (if x.negative then text "-" else [])
      ++ (decimal x.whole ++ (fractionText x ++ (dumpExponent x.exponent ++ r))) := by
  simp [dumpFloat, fractionText]

/-- An integer is read as it was written. -/
theorem value_int (fuel : Nat) {n : Int} (short : (decimal n.natAbs).length ≤ maxIntDigits) {r : Text}
    (stop : ends r = true) : value (fuel + 1) (dumpInt n ++ r) = some (.int n, r) := by
  obtain ⟨c, rest, shape, start⟩ := head_number (decide (n < 0)) n.natAbs r
  rw [dumpInt_append, shape, value_number fuel start, ← shape, number_unsigned, unsigned_int _ short stop]
  by_cases negative : n < 0
  · have value : -(n.natAbs : Int) = n := by omega
    rw [decide_eq_true negative, if_pos rfl, value]
  · have value : (n.natAbs : Int) = n := by omega
    rw [decide_eq_false negative, if_neg Bool.false_ne_true, value]

theorem value_float (fuel : Nat) (x : FloatLit) {r : Text} (stop : ends r = true) :
    value (fuel + 1) (dumpFloat x ++ r) = some (.float x, r) := by
  obtain ⟨c, rest, shape, start⟩ :=
    head_number x.negative x.whole (fractionText x ++ (dumpExponent x.exponent ++ r))
  rw [dumpFloat_append, shape, value_number fuel start, ← shape, number_unsigned, unsigned_float x stop]

/-! ## Strings -/

theorem hexValue?_hexPoint (d : Fin 16) : hexValue? (hexPoint d) = some d := by
  revert d
  decide

/-- The four digits of an escaped control character have its value. -/
theorem fourHex?_control {c : CodePoint} (control : c.val < 0x20) (r : Text) :
    fourHex? (.ofNat 0x30 :: .ofNat 0x30 :: hexPoint ⟨c.val / 16 % 16, c.highDigit_lt⟩
      :: hexPoint ⟨c.val % 16, c.lowDigit_lt⟩ :: r) = some (c.val, r) := by
  have zero : hexValue? (.ofNat 0x30) = some ⟨0, by decide⟩ := by decide
  simp only [fourHex?, hexByte?, zero, hexValue?_hexPoint, Option.some.injEq, Prod.mk.injEq, and_true]
  omega

/-- An escape of two characters, as it is written. -/
def shortEscape? (c : CodePoint) : Option CodePoint :=
  if c = point '"' then some (point '"')
  else if c = point '\\' then some (point '\\')
  else if c = .ofNat 0x08 then some (point 'b')
  else if c = .ofNat 0x0C then some (point 'f')
  else if c = .ofNat 0x0A then some (point 'n')
  else if c = .ofNat 0x0D then some (point 'r')
  else if c = .ofNat 0x09 then some (point 't')
  else none

/-- A short escape is read as its character. -/
theorem escape_short {c e : CodePoint} (short : shortEscape? c = some e) :
    escape c = [point '\\', e] ∧ simpleEscape? e = some c ∧ e ≠ point 'u' := by
  unfold shortEscape? at short
  repeat' split at short
  all_goals first | (cases short; done) | skip
  all_goals
    next h =>
      subst h
      obtain rfl := Option.some.inj short
      decide

/-- What has no short escape is written as it is, or by its four digits. -/
theorem escape_long {c : CodePoint} (long : shortEscape? c = none) :
    escape c = if c.val < 0x20 then
        [point '\\', point 'u', .ofNat 0x30, .ofNat 0x30, hexPoint ⟨c.val / 16 % 16, c.highDigit_lt⟩,
          hexPoint ⟨c.val % 16, c.lowDigit_lt⟩]
      else [c] := by
  unfold shortEscape? at long
  unfold escape
  repeat' split at long
  all_goals first | (cases long; done) | skip
  next quoted slashed h08 h0C h0A h0D h09 =>
    exact (if_neg quoted).trans ((if_neg slashed).trans ((if_neg h08).trans ((if_neg h0C).trans
      ((if_neg h0A).trans ((if_neg h0D).trans (if_neg h09))))))

/-- One written code point is read back. -/
theorem stringBody_escape {fuel : Nat} (c : CodePoint) (r : Text) :
    stringBody (fuel + 1) (escape c ++ r) = (stringBody fuel r).map fun s => (c :: s.1, s.2) := by
  match short : shortEscape? c with
  | some e =>
    obtain ⟨written, read, other⟩ := escape_short short
    rw [written]
    show stringBody (fuel + 1) (point '\\' :: e :: r) = _
    rw [stringBody, if_neg (by decide), if_pos rfl]
    simp only [if_neg other, read]
  | none =>
    rw [escape_long short]
    by_cases control : c.val < 0x20
    · have read : unicodeEscape? (.ofNat 0x30 :: .ofNat 0x30 :: hexPoint ⟨c.val / 16 % 16, c.highDigit_lt⟩
          :: hexPoint ⟨c.val % 16, c.lowDigit_lt⟩ :: r) = some (c, r) := by
        have value : CodePoint.ofNat c.val = c := Fin.ext (Nat.mod_eq_of_lt c.isLt)
        rw [unicodeEscape?, fourHex?_control control]
        simp only [if_neg (show ¬ (0xD800 ≤ c.val ∧ c.val ≤ 0xDBFF) by omega), value]
      rw [if_pos control]
      rw [List.cons_append, List.cons_append, List.cons_append, List.cons_append, List.cons_append, List.cons_append,
        List.nil_append, stringBody, if_neg (by decide), if_pos rfl]
      simp only [if_true, read]
    · rw [if_neg control]
      have quoted : c ≠ point '"' := by
        rintro rfl
        simp [shortEscape?] at short
      have slashed : c ≠ point '\\' := by
        rintro rfl
        rw [shortEscape?, if_neg quoted, if_pos rfl] at short
        cases short
      rw [List.cons_append, List.nil_append, stringBody.eq_def]
      simp only [if_neg quoted, if_neg slashed, if_neg control]

/-- A character takes one place at least. -/
theorem escape_length (c : CodePoint) : 1 ≤ (escape c).length := by
  match short : shortEscape? c with
  | some e => simp [(escape_short short).1]
  | none =>
    rw [escape_long short]
    split <;> simp

/-- The characters of a string are read as they were written. -/
theorem stringBody_dump {s r : Text} {fuel : Nat} (enough : (s.flatMap escape).length < fuel) :
    stringBody fuel (s.flatMap escape ++ quote :: r) = some (s, r) := by
  induction s generalizing fuel with
  | nil =>
    cases fuel with
    | zero => simp at enough
    | succ fuel => rfl
  | cons c s ih =>
    have one := escape_length c
    rw [List.flatMap_cons, List.length_append] at enough
    cases fuel with
    | zero => omega
    | succ fuel =>
      rw [List.flatMap_cons, List.append_assoc, stringBody_escape, ih (by omega)]
      rfl

theorem dumpString_append (s r : Text) : dumpString s ++ r = quote :: (s.flatMap escape ++ quote :: r) := by
  simp [dumpString]

theorem string_dump (s r : Text) : string (dumpString s ++ r) = some (s, r) := by
  rw [dumpString_append, string, if_pos (show quote = point '"' by decide)]
  apply stringBody_dump
  simp

/-! ## Values -/

mutual

/-- A value that survives the parser: no integer past the limit, no key twice. -/
def Writable : Json → Prop
  | .int n => (decimal n.natAbs).length ≤ maxIntDigits
  | .arr xs => WritableItems xs
  | .obj ms => (ms.map (·.1)).Nodup ∧ WritableMembers ms
  | _ => True

/-- Elements that can be written and read again. -/
def WritableItems : List Json → Prop
  | [] => True
  | x :: xs => Writable x ∧ WritableItems xs

/-- Members that can be written and read again. -/
def WritableMembers : List (Text × Json) → Prop
  | [] => True
  | (_, x) :: ms => Writable x ∧ WritableMembers ms

end

theorem skip_cons {c : CodePoint} {r : Text} (mark : isBlank c = false) : skip (c :: r) = c :: r := by
  rw [skip, mark]
  rfl

/-- No value is written with a leading blank, and none with what closes an array or an object. -/
theorem head_dump (v : Json) :
    ∃ c rest, dump v = c :: rest ∧ isBlank c = false ∧ c ≠ point ']' ∧ c ≠ point '\x7d' := by
  have number : ∀ {c}, startsNumber c → isBlank c = false ∧ c ≠ point ']' ∧ c ≠ point '\x7d' := by
    rintro c (rfl | ⟨d, rfl⟩)
    · decide
    · revert d
      decide
  cases v with
  | null => exact ⟨point 'n', text "ull", rfl, by decide⟩
  | bool b =>
    cases b
    · exact ⟨point 'f', text "alse", rfl, by decide⟩
    · exact ⟨point 't', text "rue", rfl, by decide⟩
  | int n =>
    obtain ⟨c, rest, shape, start⟩ := head_number (decide (n < 0)) n.natAbs []
    exact ⟨c, rest, by rw [dump, ← List.append_nil (dumpInt n), dumpInt_append, shape], number start⟩
  | float x =>
    obtain ⟨c, rest, shape, start⟩ := head_number x.negative x.whole (fractionText x ++ (dumpExponent x.exponent ++ []))
    exact ⟨c, rest, by rw [dump, ← List.append_nil (dumpFloat x), dumpFloat_append, shape], number start⟩
  | str s => exact ⟨quote, _, rfl, by decide⟩
  | arr items =>
    rcases items with _ | ⟨x, xs⟩
    · exact ⟨point '[', text "]", rfl, by decide⟩
    · exact ⟨point '[', dump x ++ dumpItems xs, by simp [dump, text, point], by decide⟩
  | obj members =>
    rcases members with _ | ⟨⟨k, x⟩, ms⟩
    · exact ⟨point '\x7b', text "\x7d", rfl, by decide⟩
    · exact ⟨point '\x7b', dumpString k ++ text ":" ++ dump x ++ dumpMembers ms, by simp [dump, text, point], by decide⟩

/-- A list of items as it stands after the bracket. -/
def dumpList : List Json → Text
  | [] => []
  | x :: xs => dump x ++ dumpItems xs

/-- Members as they stand after the brace. -/
def dumpEntries : List (Text × Json) → Text
  | [] => []
  | (k, x) :: ms => dumpString k ++ (point ':' :: (dump x ++ dumpMembers ms))

theorem skip_dump (v : Json) (r : Text) : skip (dump v ++ r) = dump v ++ r := by
  obtain ⟨c, rest, shape, mark, -, -⟩ := head_dump v
  rw [shape]
  exact skip_cons mark

theorem dump_length_pos (v : Json) : 1 ≤ (dump v).length := by
  obtain ⟨c, rest, shape, -⟩ := head_dump v
  simp [shape]

/-- What may follow a value inside an array or an object ends a number. -/
theorem ends_items (xs : List Json) (r : Text) : ends (dumpItems xs ++ r) = true := by
  cases xs with
  | nil => rfl
  | cons x xs => simp [dumpItems, text, ends, point, isDigit, CodePoint.ofChar]

theorem ends_members (ms : List (Text × Json)) (r : Text) : ends (dumpMembers ms ++ r) = true := by
  cases ms with
  | nil => rfl
  | cons m ms => simp [dumpMembers, text, ends, point, isDigit, CodePoint.ofChar]

theorem dumpItems_cons (y : Json) (ys : List Json) (r : Text) :
    dumpItems (y :: ys) ++ r = point ',' :: (dumpList (y :: ys) ++ r) := by
  simp [dumpItems, dumpList, text, point]

theorem dumpMembers_cons (m : Text × Json) (ms : List (Text × Json)) (r : Text) :
    dumpMembers (m :: ms) ++ r = point ',' :: (dumpEntries (m :: ms) ++ r) := by
  obtain ⟨k, x⟩ := m
  simp [dumpMembers, dumpEntries, text, point]

theorem dumpArr_append (x : Json) (xs : List Json) (r : Text) :
    dump (.arr (x :: xs)) ++ r = point '[' :: (dumpList (x :: xs) ++ r) := by
  simp [dump, dumpList, text, point]

theorem dumpObj_append (m : Text × Json) (ms : List (Text × Json)) (r : Text) :
    dump (.obj (m :: ms)) ++ r = point '\x7b' :: (dumpEntries (m :: ms) ++ r) := by
  obtain ⟨k, x⟩ := m
  simp [dump, dumpEntries, text, point]

theorem skip_entries (m : Text × Json) (ms : List (Text × Json)) (r : Text) :
    ∃ rest, dumpEntries (m :: ms) ++ r = quote :: rest := by
  obtain ⟨k, x⟩ := m
  exact ⟨_, by rw [dumpEntries, List.append_assoc, dumpString_append]⟩

mutual

/-- A written value is read back. -/
theorem value_dump : ∀ {v : Json}, Writable v → ∀ {fuel : Nat} {r : Text}, ends r = true →
    (dump v).length < fuel → value fuel (dump v ++ r) = some (v, r)
  | _, _, 0, _, _, enough => absurd enough (Nat.not_lt_zero _)
  | .null, _, _ + 1, _, _, _ => rfl
  | .bool true, _, _ + 1, _, _, _ => rfl
  | .bool false, _, _ + 1, _, _, _ => rfl
  | .int n, short, fuel + 1, r, stop, _ => value_int fuel short stop
  | .float x, _, fuel + 1, r, stop, _ => value_float fuel x stop
  | .str s, _, fuel + 1, r, _, _ => by
    rw [dump, dumpString_append, value, if_pos (show quote = point '"' by decide), stringBody_dump]
    · rfl
    · simp
  | .arr [], _, _ + 1, _, _, _ => rfl
  | .arr (x :: xs), writable, fuel + 1, r, _, enough => by
    have length := congrArg List.length (dumpArr_append x xs [])
    simp only [List.append_nil, List.length_cons] at length
    have read := @items_dump (x :: xs) writable (by simp) fuel r (by omega)
    obtain ⟨c, rest, shape, mark, open_, -⟩ := head_dump x
    have start : dumpList (x :: xs) ++ r = c :: (rest ++ dumpItems xs ++ r) := by simp [dumpList, shape]
    rw [start] at read
    rw [dumpArr_append, start, value, if_neg (by decide), if_pos rfl, skip_cons mark]
    simp only [if_neg open_, read, Option.map_some]
  | .obj [], _, _ + 1, _, _, _ => rfl
  | .obj (m :: ms), writable, fuel + 1, r, _, enough => by
    have length := congrArg List.length (dumpObj_append m ms [])
    simp only [List.append_nil, List.length_cons] at length
    have read := @members_dump (m :: ms) writable.2 (by simp) fuel r (by omega)
    obtain ⟨rest, start⟩ := skip_entries m ms r
    rw [start] at read
    rw [dumpObj_append, start, value, if_neg (by decide), if_neg (by decide), if_pos rfl, skip_cons (by decide)]
    simp only [if_neg (show quote ≠ point '\x7d' by decide), read, rejectDuplicateKeys, if_pos writable.1,
      Option.map_some]

/-- The elements that were written are read again. -/
theorem items_dump : ∀ {xs : List Json}, WritableItems xs → xs ≠ [] → ∀ {fuel : Nat} {r : Text},
    (dumpList xs).length < fuel → items fuel (dumpList xs ++ r) = some (xs, r)
  | _, _, _, 0, _, enough => absurd enough (Nat.not_lt_zero _)
  | [], _, some_, _ + 1, _, _ => absurd rfl some_
  | [x], writable, _, fuel + 1, r, enough => by
    have close : (text "]").length = 1 := rfl
    simp only [dumpList, dumpItems, List.length_append, close] at enough
    rw [dumpList, List.append_assoc, items, value_dump writable.1 (ends_items [] r) (by omega)]
    rfl
  | x :: y :: ys, writable, _, fuel + 1, r, enough => by
    have length := congrArg List.length (dumpItems_cons y ys [])
    have one := dump_length_pos x
    simp only [List.append_nil, List.length_cons] at length
    rw [dumpList, List.length_append] at enough
    obtain ⟨c, rest, shape, mark, -⟩ := head_dump y
    have start : dumpList (y :: ys) ++ r = c :: (rest ++ dumpItems ys ++ r) := by simp [dumpList, shape]
    have read := @items_dump (y :: ys) writable.2 (by simp) fuel r (by omega)
    rw [dumpList, List.append_assoc, items, value_dump writable.1 (ends_items (y :: ys) r) (by omega),
      dumpItems_cons]
    simp only [skip_cons (show isBlank (point ',') = false by decide), if_true, start, skip_cons mark]
    rw [← start, read]
    rfl

/-- The members that were written are read again. -/
theorem members_dump : ∀ {ms : List (Text × Json)}, WritableMembers ms → ms ≠ [] → ∀ {fuel : Nat} {r : Text},
    (dumpEntries ms).length < fuel → members fuel (dumpEntries ms ++ r) = some (ms, r)
  | _, _, _, 0, _, enough => absurd enough (Nat.not_lt_zero _)
  | [], _, some_, _ + 1, _, _ => absurd rfl some_
  | [(k, x)], writable, _, fuel + 1, r, enough => by
    simp only [dumpEntries, List.length_append, List.length_cons] at enough
    have read := value_dump writable.1 (ends_members [] r) (show (dump x).length < fuel by omega)
    rw [dumpEntries, List.append_assoc, members, string_dump, List.cons_append, List.append_assoc]
    simp only [skip_cons (show isBlank (point ':') = false by decide), if_true, skip_dump, read]
    rfl
  | (k, x) :: m :: ms, writable, _, fuel + 1, r, enough => by
    have length := congrArg List.length (dumpMembers_cons m ms [])
    simp only [List.append_nil, List.length_cons] at length
    simp only [dumpEntries, List.length_append, List.length_cons] at enough
    have first := value_dump writable.1 (ends_members (m :: ms) r) (show (dump x).length < fuel by omega)
    have read := @members_dump (m :: ms) writable.2 (by simp) fuel r (by omega)
    obtain ⟨rest, start⟩ := skip_entries m ms r
    rw [dumpEntries, List.append_assoc, members, string_dump, List.cons_append, List.append_assoc]
    simp only [skip_cons (show isBlank (point ':') = false by decide), if_true, skip_dump, first]
    rw [dumpMembers_cons, start]
    simp only [skip_cons (show isBlank (point ',') = false by decide), if_true,
      skip_cons (show isBlank quote = false by decide)]
    rw [← start, read]
    rfl

end

/-- `json.loads(json.dumps(v))`, with blanks after the text. -/
theorem loads_dump {v : Json} (writable : Writable v) {r : Text} (blank : skip r = []) (stop : ends r = true) :
    loads (dump v ++ r) = some v := by
  rw [loads, skip_dump, value_dump writable stop]
  · simp [blank]
  · simp
    omega

end EmsDnp3.Json
