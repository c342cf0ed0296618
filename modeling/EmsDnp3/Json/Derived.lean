import EmsDnp3.Json.Depth
import EmsDnp3.Json.Grammar

/-!
# The parser and the grammar

Whatever `json.loads` reads is a JSON text of the grammar, as deep as its value. The converse fails: the hooks of the
client refuse repeated keys, and `int` refuses long numbers.
-/

namespace EmsDnp3.Json

open Grammar

/-- What is skipped is blank. -/
theorem skip_split (t : Text) : ∃ blanks, IsBlanks blanks ∧ t = blanks ++ skip t := by
  induction t with
  | nil => exact ⟨[], nofun, rfl⟩
  | cons c t ih =>
    by_cases blank : isBlank c = true
    · obtain ⟨blanks, all, split⟩ := ih
      refine ⟨c :: blanks, List.forall_mem_cons.mpr ⟨blank, all⟩, ?_⟩
      rw [skip, if_pos blank, List.cons_append, ← split]
    · exact ⟨[], nofun, by rw [skip, if_neg blank, List.nil_append]⟩

/-! ## Numbers -/

/-- What is taken are digits. -/
theorem spanDigits_split (t : Text) : ∃ front, (∀ c ∈ front, IsDigit c) ∧ t = front ++ (spanDigits t).2 ∧
    front.length = (spanDigits t).1.length := by
  induction t with
  | nil => exact ⟨[], nofun, rfl, rfl⟩
  | cons c t ih =>
    rw [spanDigits]
    split
    · next d digit =>
      obtain ⟨front, all, split, same⟩ := ih
      have isDigit : IsDigit c := by rw [IsDigit, digit]; rfl
      refine ⟨c :: front, List.forall_mem_cons.mpr ⟨isDigit, all⟩, ?_, ?_⟩
      · rw [List.cons_append, ← split]
      · rw [List.length_cons, List.length_cons, same]
    · exact ⟨[], nofun, rfl, rfl⟩

/-- At least one digit was read. -/
theorem isDigits_of_span {t rest : Text} {d : Fin 10} {digits : List (Fin 10)} (read : spanDigits t = (d :: digits, rest)) :
    ∃ front, IsDigits front ∧ t = front ++ rest := by
  obtain ⟨front, all, split, same⟩ := spanDigits_split t
  rw [read] at split same
  refine ⟨front, ⟨?_, all⟩, split⟩
  rintro rfl
  cases same

/-- The integer part that is read is one of the grammar. -/
theorem isWhole_of_wholePart {t rest : Text} {digits : List (Fin 10)} (read : wholePart t = some (digits, rest)) :
    ∃ front, IsWhole front ∧ t = front ++ rest := by
  unfold wholePart at read
  split at read
  · cases read
  · next c t =>
    split at read
    · cases read
    · next d digit =>
      have isDigit : IsDigit c := by rw [IsDigit, digit]; rfl
      split at read
      · next zero =>
        obtain ⟨-, rfl⟩ := Prod.mk.inj (Option.some.inj read)
        have isZero : c = point '0' := by
          unfold digitValue? at digit
          split at digit
          · next bounds =>
            obtain rfl := Option.some.inj digit
            have value : c.val - 0x30 = 0 := zero
            exact Fin.ext (by change c.val = 0x30; omega)
          · cases digit
        exact ⟨[c], isZero ▸ .zero, rfl⟩
      · next notZero =>
        obtain ⟨-, rfl⟩ := Prod.mk.inj (Option.some.inj read)
        obtain ⟨front, all, split, -⟩ := spanDigits_split t
        refine ⟨c :: front, .digits isDigit ?_ all, by rw [List.cons_append, ← split]⟩
        rintro rfl
        have zero : d = 0 := (Option.some.inj digit).symm
        exact notZero (congrArg Fin.val zero)

/-- A fraction part is a fraction, or there is none. -/
theorem isFraction_of_fractionPart (t : Text) : ∃ front, IsFraction front ∧ t = front ++ (fractionPart t).2 := by
  unfold fractionPart
  split
  · exact ⟨[], .absent, rfl⟩
  · next c t =>
    split
    · next dot =>
      split
      · exact ⟨[], .absent, rfl⟩
      · next digits more notEmpty read =>
        cases digits with
        | nil => exact (notEmpty rfl).elim
        | cons d digits =>
          obtain ⟨front, isDigits, split⟩ := isDigits_of_span read
          exact ⟨point '.' :: front, .digits isDigits, by rw [dot, List.cons_append, ← split]⟩
    · exact ⟨[], .absent, rfl⟩

/-- An exponent part is an exponent, or there is none. -/
theorem isExponent_of_exponentPart (t : Text) : ∃ front, IsExponent front ∧ t = front ++ (exponentPart t).2 := by
  have digits {negative : Bool} {t rest : Text} {exponent : Bool × Fin 10 × List (Fin 10)}
      (read : exponentDigits negative t = some (exponent, rest)) : ∃ front, IsDigits front ∧ t = front ++ rest := by
    unfold exponentDigits at read
    split at read
    · cases read
    · next span =>
      obtain ⟨-, rfl⟩ := Prod.mk.inj (Option.some.inj read)
      exact isDigits_of_span span
  unfold exponentPart
  split
  · exact ⟨[], .absent, rfl⟩
  · next e t =>
    split
    · next isE =>
      rw [Bool.or_eq_true, decide_eq_true_eq, decide_eq_true_eq] at isE
      split
      · next exponent more read =>
        unfold exponentAfter? at read
        split at read
        · cases read
        · next sign after =>
          split at read
          · next minus =>
            obtain ⟨front, isDigits, split⟩ := digits read
            exact ⟨e :: ([point '-'] ++ front), .digits isE (.inr (.inr rfl)) isDigits, by rw [minus, split]; rfl⟩
          split at read
          · next plus =>
            obtain ⟨front, isDigits, split⟩ := digits read
            exact ⟨e :: ([point '+'] ++ front), .digits isE (.inr (.inl rfl)) isDigits, by rw [plus, split]; rfl⟩
          · obtain ⟨front, isDigits, split⟩ := digits read
            exact ⟨e :: ([] ++ front), .digits isE (.inl rfl) isDigits, by rw [split]; rfl⟩
      · exact ⟨[], .absent, rfl⟩
    · exact ⟨[], .absent, rfl⟩

/-- The three parts behind a sign are a number. -/
theorem isNumber_of_unsigned {negative : Bool} {t rest sign : Text} {v : Json} (read : unsigned negative t = some (v, rest))
    (signed : sign = [] ∨ sign = [point '-']) : ∃ front, IsNumber front ∧ sign ++ t = front ++ rest := by
  unfold unsigned at read
  split at read
  · cases read
  · next whole after isWhole =>
    obtain ⟨front, isWhole, split⟩ := isWhole_of_wholePart isWhole
    dsimp only at read
    split at read
    · obtain ⟨-, rfl⟩ := Prod.mk.inj (Option.some.inj read)
      obtain ⟨fraction, isFraction, splitFraction⟩ := isFraction_of_fractionPart after
      obtain ⟨exponent, isExponent, splitExponent⟩ := isExponent_of_exponentPart (fractionPart after).2
      refine ⟨_, .parts signed isWhole isFraction isExponent, ?_⟩
      rw [List.append_assoc, List.append_assoc, List.append_assoc, ← splitExponent, ← splitFraction, ← split]
    · split at read
      · cases read
      · obtain ⟨-, rfl⟩ := Prod.mk.inj (Option.some.inj read)
        refine ⟨_, .parts signed isWhole .absent .absent, ?_⟩
        rw [List.append_assoc, List.append_assoc, List.append_nil, List.nil_append, ← split]

/-- What is read as a number is one. -/
theorem isNumber_of_number {t rest : Text} {v : Json} (read : number t = some (v, rest)) :
    ∃ front, IsNumber front ∧ t = front ++ rest := by
  unfold number at read
  split at read
  · cases read
  · split at read
    · next minus =>
      obtain ⟨front, isNumber, split⟩ := isNumber_of_unsigned read (.inr rfl)
      exact ⟨front, isNumber, by rw [minus, ← split]; rfl⟩
    · exact isNumber_of_unsigned read (.inl rfl)

/-! ## Strings -/

/-- Four characters were read, and they are hexadecimal digits. -/
theorem fourHex?_split {t rest : Text} {n : Nat} (read : fourHex? t = some (n, rest)) :
    ∃ digits, digits.length = 4 ∧ (∀ c ∈ digits, (hexValue? c).isSome = true) ∧ t = digits ++ rest := by
  have pair {a b : CodePoint} {byte : Byte} (isByte : hexByte? a b = some byte) :
      (hexValue? a).isSome = true ∧ (hexValue? b).isSome = true := by
    unfold hexByte? at isByte
    split at isByte
    · next high low => exact ⟨by rw [high]; rfl, by rw [low]; rfl⟩
    · cases isByte
  unfold fourHex? at read
  split at read
  · next a b c d rest =>
    split at read
    · next high low =>
      obtain ⟨-, rfl⟩ := Prod.mk.inj (Option.some.inj read)
      obtain ⟨isA, isB⟩ := pair high
      obtain ⟨isC, isD⟩ := pair low
      refine ⟨[a, b, c, d], rfl, ?_, rfl⟩
      simp [isA, isB, isC, isD]
    · cases read
  · cases read

/-- One escape, or two where a pair of surrogates is read as one code point. -/
theorem unicodeEscape?_split {t rest : Text} {c : CodePoint} (read : unicodeEscape? t = some (c, rest)) :
    ∃ front, t = front ++ rest ∧
      ∀ tail, IsChars tail → IsChars (point '\\' :: point 'u' :: (front ++ tail)) := by
  unfold unicodeEscape? at read
  split at read
  · cases read
  · next high after first =>
    obtain ⟨digits, four, hex, split⟩ := fourHex?_split first
    split at read
    · split at read
      · cases read
      · obtain ⟨-, rfl⟩ := Prod.mk.inj (Option.some.inj read)
        exact ⟨digits, split, fun tail chars => .unicode four hex chars⟩
      · next low more second =>
        obtain ⟨-, rfl⟩ := Prod.mk.inj (Option.some.inj read)
        unfold lowSurrogate? at second
        split at second
        · next backslash u behind =>
          split at second
          · next escapes =>
            split at second
            · cases second
            · next lowRead =>
              split at second
              · obtain ⟨-, rfl⟩ := Prod.mk.inj (Option.some.inj (Option.some.inj second))
                obtain ⟨others, fourLow, hexLow, splitLow⟩ := fourHex?_split lowRead
                refine ⟨digits ++ point '\\' :: point 'u' :: others, ?_, fun tail chars => ?_⟩
                · rw [split, escapes.1, escapes.2, splitLow, List.append_assoc]
                  rfl
                · rw [List.append_assoc]
                  exact .unicode four hex (.unicode fourLow hexLow chars)
              · cases second
          · cases second
        · cases second
    · obtain ⟨-, rfl⟩ := Prod.mk.inj (Option.some.inj read)
      exact ⟨digits, split, fun tail chars => .unicode four hex chars⟩

/-- What is read up to the closing quote are characters and escapes of a string. -/
theorem isChars_of_stringBody {fuel : Nat} {t s rest : Text} (read : stringBody fuel t = some (s, rest)) :
    ∃ chars, IsChars chars ∧ t = chars ++ point '"' :: rest := by
  induction fuel generalizing t s with
  | zero => cases read
  | succ fuel ih =>
    match t with
    | [] => cases read
    | c :: t =>
      rw [stringBody.eq_def] at read
      dsimp only at read
      split at read
      · next quote =>
        obtain ⟨-, rfl⟩ := Prod.mk.inj (Option.some.inj read)
        exact ⟨[], .nil, by rw [quote]; rfl⟩
      next notQuote =>
      split at read
      · next backslash =>
        split at read
        · cases read
        · next e more =>
          split at read
          · next isU =>
            split at read
            · cases read
            · next d after escape =>
              obtain ⟨⟨s', rest'⟩, body, same⟩ := Option.map_eq_some_iff.mp read
              obtain ⟨-, rfl⟩ := Prod.mk.inj same
              obtain ⟨chars, isChars, split⟩ := ih body
              obtain ⟨front, splitEscape, extends_⟩ := unicodeEscape?_split escape
              refine ⟨_, extends_ chars isChars, ?_⟩
              rw [backslash, isU, splitEscape, split, List.cons_append, List.cons_append, List.append_assoc]
          · split at read
            · cases read
            · next d escape =>
              obtain ⟨⟨s', rest'⟩, body, same⟩ := Option.map_eq_some_iff.mp read
              obtain ⟨-, rfl⟩ := Prod.mk.inj same
              obtain ⟨chars, isChars, split⟩ := ih body
              refine ⟨_, .escape (by rw [escape]; rfl) isChars, ?_⟩
              rw [backslash, split]
              rfl
      next notBackslash =>
      split at read
      · cases read
      · next notControl =>
        obtain ⟨⟨s', rest'⟩, body, same⟩ := Option.map_eq_some_iff.mp read
        obtain ⟨-, rfl⟩ := Prod.mk.inj same
        obtain ⟨chars, isChars, split⟩ := ih body
        exact ⟨_, .unescaped notQuote notBackslash (Nat.le_of_not_lt notControl) isChars, by rw [split]; rfl⟩

/-- With its opening quote it is a string. -/
theorem isString_of_body {fuel : Nat} {t s rest : Text} (read : stringBody fuel t = some (s, rest)) :
    ∃ front, IsString front ∧ point '"' :: t = front ++ rest := by
  obtain ⟨chars, isChars, split⟩ := isChars_of_stringBody read
  refine ⟨_, ⟨chars, isChars, rfl⟩, ?_⟩
  rw [split, List.cons_append, List.append_assoc]
  rfl

/-- What is read as a string is one. -/
theorem isString_of_string {t s rest : Text} (read : string t = some (s, rest)) :
    ∃ front, IsString front ∧ t = front ++ rest := by
  unfold string at read
  split at read
  · cases read
  · split at read
    · next quote =>
      subst quote
      exact isString_of_body read
    · cases read

/-! ## Values -/

/-- The word that is passed over stands there. -/
theorem after?_split {word t rest : Text} (read : after? word t = some rest) : t = word ++ rest := by
  induction word generalizing t with
  | nil => exact Option.some.inj read
  | cons w word ih =>
    match t with
    | [] => cases read
    | c :: t =>
      rw [after?] at read
      split at read
      · next same => rw [List.cons_append, same, ← ih read]
      · cases read

/-- What is read as a scalar is a value without depth. -/
theorem derives_scalar {t rest : Text} {v : Json} (read : scalar t = some (v, rest)) :
    ∃ front, Derives .value front v.depth ∧ t = front ++ rest := by
  rw [scalar_depth read]
  unfold scalar at read
  split at read
  · next word =>
    obtain ⟨-, rfl⟩ := Prod.mk.inj (Option.some.inj read)
    exact ⟨_, .word (by simp), after?_split word⟩
  split at read
  · next word =>
    obtain ⟨-, rfl⟩ := Prod.mk.inj (Option.some.inj read)
    exact ⟨_, .word (by simp), after?_split word⟩
  split at read
  · next word =>
    obtain ⟨-, rfl⟩ := Prod.mk.inj (Option.some.inj read)
    exact ⟨_, .word (by simp), after?_split word⟩
  · obtain ⟨front, isNumber, split⟩ := isNumber_of_number read
    exact ⟨front, .number isNumber, split⟩

/-- What the parser reads with this fuel is derived. -/
structure DerivedAt (fuel : Nat) : Prop where
  value : ∀ {t v rest}, Json.value fuel t = some (v, rest) →
    ∃ front, Derives .value front v.depth ∧ t = front ++ rest
  items : ∀ {t xs rest}, Json.items fuel t = some (xs, rest) → ∀ before, IsBlanks before →
    ∃ front, Derives .elements front (depthItems xs) ∧ before ++ t = front ++ point ']' :: rest
  members : ∀ {t ms rest}, Json.members fuel t = some (ms, rest) → ∀ before, IsBlanks before →
    ∃ front, Derives .members front (depthMembers ms) ∧ before ++ t = front ++ point '\x7d' :: rest

/-- A container whose first character after blanks closes it. -/
theorem closed_split {t more : Text} {d : CodePoint} (read : skip t = d :: more) :
    ∃ blanks, IsBlanks blanks ∧ t = blanks ++ d :: more := by
  obtain ⟨blanks, isBlanks, split⟩ := skip_split t
  exact ⟨blanks, isBlanks, read ▸ split⟩

/-- What is read as a value is derived, at its own depth. -/
theorem DerivedAt.value_succ {fuel : Nat} (ih : DerivedAt fuel) {t rest : Text} {v : Json}
    (read : Json.value (fuel + 1) t = some (v, rest)) : ∃ front, Derives .value front v.depth ∧ t = front ++ rest := by
  match t with
  | [] => simp [Json.value] at read
  | c :: t =>
    rw [Json.value] at read
    split at read
    · next quote =>
      obtain ⟨⟨s, rest'⟩, body, same⟩ := Option.map_eq_some_iff.mp read
      obtain ⟨rfl, rfl⟩ := Prod.mk.inj same
      obtain ⟨front, isString, split⟩ := isString_of_body body
      exact ⟨front, .string isString, quote ▸ split⟩
    split at read
    · next bracket =>
      split at read
      · cases read
      · next d more open_ =>
        obtain ⟨blanks, isBlanks, split⟩ := closed_split open_
        split at read
        · next close =>
          obtain ⟨rfl, rfl⟩ := Prod.mk.inj (Option.some.inj read)
          refine ⟨_, .emptyArray isBlanks, ?_⟩
          rw [bracket, split, close, List.cons_append, List.append_assoc]
          rfl
        · obtain ⟨⟨xs, rest'⟩, inner, same⟩ := Option.map_eq_some_iff.mp read
          obtain ⟨rfl, rfl⟩ := Prod.mk.inj same
          obtain ⟨front, elements, whole⟩ := ih.items inner blanks isBlanks
          refine ⟨_, .array elements, ?_⟩
          rw [bracket, split, whole, List.cons_append, List.append_assoc]
          rfl
    split at read
    · next brace =>
      split at read
      · cases read
      · next d more open_ =>
        obtain ⟨blanks, isBlanks, split⟩ := closed_split open_
        split at read
        · next close =>
          obtain ⟨rfl, rfl⟩ := Prod.mk.inj (Option.some.inj read)
          refine ⟨_, .emptyObject isBlanks, ?_⟩
          rw [brace, split, close, List.cons_append, List.append_assoc]
          rfl
        · split at read
          · cases read
          · next ms after inner =>
            obtain ⟨w, kept, same⟩ := Option.map_eq_some_iff.mp read
            obtain ⟨rfl, rfl⟩ := Prod.mk.inj same
            unfold rejectDuplicateKeys at kept
            split at kept
            · obtain rfl := Option.some.inj kept
              obtain ⟨front, members, whole⟩ := ih.members inner blanks isBlanks
              refine ⟨_, .object members, ?_⟩
              rw [brace, split, whole, List.cons_append, List.append_assoc]
              rfl
            · cases kept
    · exact derives_scalar read

/-- The elements that are read are derived, blanks in front of them included. -/
theorem DerivedAt.items_succ {fuel : Nat} (ih : DerivedAt fuel) {t rest : Text} {xs : List Json}
    (read : Json.items (fuel + 1) t = some (xs, rest)) (before : Text) (isBefore : IsBlanks before) :
    ∃ front, Derives .elements front (depthItems xs) ∧ before ++ t = front ++ point ']' :: rest := by
  rw [Json.items] at read
  split at read
  · cases read
  · next x after first =>
    obtain ⟨value, derived, split⟩ := ih.value first
    split at read
    · cases read
    · next d more next_ =>
      obtain ⟨blanks, isBlanks, splitAfter⟩ := closed_split next_
      have element : Derives .element (before ++ (value ++ blanks)) x.depth := .element isBefore derived isBlanks
      have here : before ++ t = before ++ (value ++ blanks) ++ d :: more := by
        rw [split, splitAfter, List.append_assoc, List.append_assoc]
      split at read
      · next comma =>
        obtain ⟨⟨ys, rest'⟩, others, same⟩ := Option.map_eq_some_iff.mp read
        obtain ⟨rfl, rfl⟩ := Prod.mk.inj same
        obtain ⟨space, isSpace_, splitMore⟩ := skip_split more
        obtain ⟨front, elements, whole⟩ := ih.items others space isSpace_
        refine ⟨_, .elements element elements, ?_⟩
        rw [here, comma, splitMore, whole]
        simp only [List.append_assoc, List.cons_append]
      · split at read
        · next close =>
          obtain ⟨rfl, rfl⟩ := Prod.mk.inj (Option.some.inj read)
          have last : Derives .element (before ++ (value ++ blanks)) (depthItems [x]) := by
            simpa [depthItems] using element
          exact ⟨_, .lastElement last, by rw [here, close]⟩
        · cases read

/-- The members that are read are derived, blanks in front of them included. -/
theorem DerivedAt.members_succ {fuel : Nat} (ih : DerivedAt fuel) {t rest : Text} {ms : List (Text × Json)}
    (read : Json.members (fuel + 1) t = some (ms, rest)) (before : Text) (isBefore : IsBlanks before) :
    ∃ front, Derives .members front (depthMembers ms) ∧ before ++ t = front ++ point '\x7d' :: rest := by
  rw [Json.members] at read
  split at read
  · cases read
  · next key afterKey named =>
    obtain ⟨name, isName, splitKey⟩ := isString_of_string named
    split at read
    · cases read
    · next colon behind mark =>
      obtain ⟨gap, isGap, splitMark⟩ := closed_split mark
      split at read
      · next isColon =>
        obtain ⟨lead, isLead, splitBehind⟩ := skip_split behind
        split at read
        · cases read
        · next x after first =>
          obtain ⟨value, derived, split⟩ := ih.value first
          split at read
          · cases read
          · next d more next_ =>
            obtain ⟨blanks, isBlanks, splitAfter⟩ := closed_split next_
            have element : Derives .element (lead ++ (value ++ blanks)) x.depth := .element isLead derived isBlanks
            have here : before ++ t = before ++ (name ++ (gap ++ point ':' :: (lead ++ (value ++ blanks) ++ d :: more))) := by
              rw [splitKey, splitMark, isColon, splitBehind, split, splitAfter, List.append_assoc, List.append_assoc]
            split at read
            · next comma =>
              obtain ⟨⟨others, rest'⟩, inner, same⟩ := Option.map_eq_some_iff.mp read
              obtain ⟨rfl, rfl⟩ := Prod.mk.inj same
              obtain ⟨space, isSpace_, splitMore⟩ := skip_split more
              obtain ⟨front, members, whole⟩ := ih.members inner space isSpace_
              refine ⟨_, .members isBefore isName isGap element members, ?_⟩
              rw [here, comma, splitMore, whole]
              simp only [List.append_assoc, List.cons_append]
            · split at read
              · next close =>
                obtain ⟨rfl, rfl⟩ := Prod.mk.inj (Option.some.inj read)
                have last : Derives .element (lead ++ (value ++ blanks)) (depthMembers [(key, x)]) := by
                  simpa [depthMembers] using element
                refine ⟨_, .lastMember isBefore isName isGap last, ?_⟩
                rw [here, close]
                simp only [List.append_assoc, List.cons_append]
              · cases read
      · cases read

/-- Everything that is parsed is derived, by induction on the fuel. -/
theorem derivedAt (fuel : Nat) : DerivedAt fuel := by
  induction fuel with
  | zero => exact ⟨fun read => by simp [value] at read, fun read => by simp [items] at read,
      fun read => by simp [members] at read⟩
  | succ fuel ih => exact ⟨ih.value_succ, ih.items_succ, ih.members_succ⟩

/-- What `json.loads` reads is a JSON text. -/
theorem isText_of_loads {t : Text} {v : Json} (read : loads t = some v) : IsText t v.depth := by
  unfold loads at read
  split at read
  · next w rest found =>
    split at read
    · next empty =>
      obtain rfl := Option.some.inj read
      obtain ⟨before, isBefore, split⟩ := skip_split t
      obtain ⟨front, derived, splitSkip⟩ := (derivedAt _).value found
      obtain ⟨after, isAfter, splitRest⟩ := skip_split rest
      have whole : t = before ++ (front ++ after) := by
        rw [empty, List.append_nil] at splitRest
        rw [splitRest] at splitSkip
        rw [split, splitSkip]
      exact whole ▸ .element isBefore derived isAfter
    · cases read
  · cases read

end EmsDnp3.Json
