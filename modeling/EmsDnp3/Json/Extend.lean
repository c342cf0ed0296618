import EmsDnp3.Json.RoundTrip

/-!
# Parsing the start of a text

A value that the parser found at the head of a text is found there whatever follows the text
(`value_append`). So no proper start of a written object parses: what does parse reaches the
closing brace (`loads_take`).
-/

namespace EmsDnp3.Json

variable {t rest q : Text} {d : CodePoint}

/-- The character behind the blanks does not depend on what follows the text. -/
theorem skip_append (found : skip t = d :: rest) (q : Text) : skip (t ++ q) = d :: (rest ++ q) := by
  induction t with
  | nil => cases found
  | cons c t ih =>
    rw [List.cons_append, skip]
    rw [skip] at found
    by_cases blank : isBlank c
    · rw [if_pos blank] at found ⊢
      exact ih found
    · rw [if_neg blank] at found ⊢
      obtain ⟨rfl, rfl⟩ := List.cons.inj found
      rfl

/-- After a value comes a blank, or the mark itself. -/
theorem ends_of_skip (found : skip t = d :: rest) (stop : ends (d :: rest) = true) : t ≠ [] ∧ ends t = true := by
  cases t with
  | nil => cases found
  | cons c t =>
    refine ⟨by simp, ?_⟩
    rw [skip] at found
    by_cases blank : isBlank c
    · simp only [isBlank, Bool.or_eq_true, decide_eq_true_eq] at blank
      rcases blank with ((rfl | rfl) | rfl) | rfl <;> rfl
    · rw [if_neg blank] at found
      rwa [found]

/-- A word that is there as a whole is found whatever follows. -/
theorem after?_append {word : Text} (found : after? word t = some rest) (q : Text) :
    after? word (t ++ q) = some (rest ++ q) := by
  induction word generalizing t with
  | nil =>
    obtain rfl := Option.some.inj found
    cases t <;> rfl
  | cons w word ih =>
    cases t with
    | nil => cases found
    | cons c t =>
      rw [after?] at found
      rw [List.cons_append, after?]
      split at found
      · next same =>
        rw [if_pos same]
        exact ih found
      · cases found

/-! ## Numbers -/

/-- Digits that end inside the text end there whatever follows. -/
theorem spanDigits_append {digits : List (Fin 10)} (found : spanDigits t = (digits, d :: rest)) (q : Text) :
    spanDigits (t ++ q) = (digits, d :: (rest ++ q)) := by
  induction t generalizing digits with
  | nil => cases found
  | cons c t ih =>
    rw [List.cons_append, spanDigits]
    rw [spanDigits] at found
    cases value : digitValue? c with
    | none =>
      simp only [value, Prod.mk.injEq, List.cons.injEq] at found ⊢
      obtain ⟨rfl, rfl, rfl⟩ := found
      exact ⟨rfl, rfl, rfl⟩
    | some x =>
      simp only [value, Prod.mk.injEq] at found ⊢
      obtain ⟨rfl, more⟩ := found
      have tail := ih (Prod.ext rfl more)
      rw [tail]
      exact ⟨rfl, rfl⟩

/-- An integer part that ends inside the text ends there whatever follows. -/
theorem wholePart_append {digits : List (Fin 10)} (found : wholePart t = some (digits, d :: rest)) (q : Text) :
    wholePart (t ++ q) = some (digits, d :: (rest ++ q)) := by
  cases t with
  | nil => cases found
  | cons c t =>
    rw [List.cons_append, wholePart]
    rw [wholePart] at found
    cases value : digitValue? c with
    | none => simp [value] at found
    | some x =>
      simp only [value] at found ⊢
      split at found
      · next zero =>
        rw [if_pos zero]
        simp only [Option.some.injEq, Prod.mk.injEq] at found
        obtain ⟨rfl, rfl⟩ := found
        rfl
      · next nonzero =>
        rw [if_neg nonzero]
        simp only [Option.some.injEq, Prod.mk.injEq] at found
        obtain ⟨rfl, more⟩ := found
        rw [spanDigits_append (Prod.ext rfl more) q]

/-- The digits of an exponent that end inside the text end there whatever follows. -/
theorem exponentDigits_append {negative : Bool} {x : Bool × Fin 10 × List (Fin 10)}
    (found : exponentDigits negative t = some (x, d :: rest)) (q : Text) :
    exponentDigits negative (t ++ q) = some (x, d :: (rest ++ q)) := by
  unfold exponentDigits at found ⊢
  match span : spanDigits t with
  | ([], _) => simp [span] at found
  | (c :: digits, more) =>
    simp only [span, Option.some.injEq, Prod.mk.injEq] at found
    obtain ⟨rfl, rfl⟩ := found
    rw [spanDigits_append span q]

/-- An exponent that ends inside the text ends there whatever follows. -/
theorem exponentAfter?_append {x : Bool × Fin 10 × List (Fin 10)}
    (found : exponentAfter? t = some (x, d :: rest)) (q : Text) :
    exponentAfter? (t ++ q) = some (x, d :: (rest ++ q)) := by
  cases t with
  | nil => cases found
  | cons sign t =>
    rw [exponentAfter?] at found
    rw [List.cons_append, exponentAfter?]
    by_cases minus : sign = point '-'
    · rw [if_pos minus] at found ⊢
      exact exponentDigits_append found q
    by_cases plus : sign = point '+'
    · rw [if_neg minus, if_pos plus] at found ⊢
      exact exponentDigits_append found q
    · rw [if_neg minus, if_neg plus] at found ⊢
      exact exponentDigits_append found q

/-- The exponent part stops before a character that no number has. -/
theorem exponentPart_append {x : Option (Bool × Fin 10 × List (Fin 10))} (found : exponentPart t = (x, d :: rest))
    (stop : ends (d :: rest) = true) (q : Text) : exponentPart (t ++ q) = (x, d :: (rest ++ q)) := by
  -- without an exponent the text is left as it was, and its head cannot start one
  have absent : t = d :: rest → exponentPart (t ++ q) = (none, d :: (rest ++ q)) := by
    rintro rfl
    exact exponentPart_ends (r := d :: (rest ++ q)) stop
  cases t with
  | nil => cases found
  | cons e t =>
    rw [exponentPart] at found
    split at found
    · next mark =>
      cases after : exponentAfter? t with
      | some part =>
        obtain ⟨exponent, more⟩ := part
        simp only [after, Prod.mk.injEq] at found
        obtain ⟨rfl, rfl⟩ := found
        rw [List.cons_append, exponentPart, if_pos mark, exponentAfter?_append after q]
      | none =>
        simp only [after, Prod.mk.injEq] at found
        obtain ⟨rfl, same⟩ := found
        exact absent same
    · simp only [Prod.mk.injEq] at found
      obtain ⟨rfl, same⟩ := found
      exact absent same

/-- A fraction that left a text with an exponent in it is there whatever follows. -/
theorem fractionPart_append {digits : List (Fin 10)} (found : fractionPart t = (digits, d :: rest))
    (some_ : digits ≠ [] ∨ d ≠ point '.') (q : Text) : fractionPart (t ++ q) = (digits, d :: (rest ++ q)) := by
  cases t with
  | nil => cases found
  | cons c t =>
    rw [fractionPart] at found
    split at found
    · next dot =>
      rcases span : spanDigits t with ⟨_ | ⟨x, xs⟩, more⟩
      · simp only [span, Prod.mk.injEq, List.cons.injEq] at found
        obtain ⟨rfl, rfl, rfl⟩ := found
        exact absurd dot (some_.resolve_left (by simp))
      · simp only [span, Prod.mk.injEq] at found
        obtain ⟨rfl, rfl⟩ := found
        rw [List.cons_append, fractionPart, if_pos dot, spanDigits_append span q]
    · next other =>
      simp only [Prod.mk.injEq, List.cons.injEq] at found
      obtain ⟨rfl, rfl, rfl⟩ := found
      exact fractionPart_other other

theorem exponentPart_dot (r : Text) : exponentPart (point '.' :: r) = (none, point '.' :: r) := by
  rw [exponentPart, if_neg (by decide)]

/-- A number that ends inside the text is the same in a longer one. -/
theorem unsigned_append {negative : Bool} {w : Json} (found : unsigned negative t = some (w, d :: rest))
    (stop : ends (d :: rest) = true) (q : Text) : unsigned negative (t ++ q) = some (w, d :: (rest ++ q)) := by
  have more : ends (d :: (rest ++ q)) = true := stop
  unfold unsigned at found ⊢
  cases whole : wholePart t with
  | none => simp [whole] at found
  | some part =>
    obtain ⟨digits, after⟩ := part
    simp only [whole] at found
    generalize fraction : fractionPart after = f at found
    obtain ⟨fractionDigits, fractionRest⟩ := f
    generalize exponent : exponentPart fractionRest = e at found
    obtain ⟨exponentDigits, exponentRest⟩ := e
    split at found
    · next isFloat =>
      simp only [Option.some.injEq, Prod.mk.injEq] at found
      obtain ⟨rfl, rfl⟩ := found
      -- each part leaves something, since the next one does
      rcases fractionRest with _ | ⟨c, fractionRest⟩
      · cases exponent
      have dot : fractionDigits ≠ [] ∨ c ≠ point '.' := by
        rcases isFloat with digits | exponential
        · exact .inl digits
        · right
          rintro rfl
          rw [exponentPart_dot] at exponent
          cases exponent
          cases exponential
      rcases after with _ | ⟨a, after⟩
      · cases fraction
      have extended := fractionPart_append fraction dot q
      have exponentExtended := exponentPart_append exponent stop q
      rw [List.cons_append] at extended exponentExtended
      rw [wholePart_append whole q]
      simp only [extended, exponentExtended]
      rw [dif_pos isFloat]
    · split at found
      · cases found
      · next short =>
        simp only [Option.some.injEq, Prod.mk.injEq] at found
        obtain ⟨rfl, rfl⟩ := found
        rw [wholePart_append whole q]
        simp only [fractionPart_ends more, exponentPart_ends more]
        rw [dif_neg (by simp), if_neg short]

/-- A number that ends inside the text is the same whatever follows. -/
theorem number_append {w : Json} (found : number t = some (w, d :: rest)) (stop : ends (d :: rest) = true)
    (q : Text) : number (t ++ q) = some (w, d :: (rest ++ q)) := by
  cases t with
  | nil => cases found
  | cons c t =>
    rw [number] at found
    rw [List.cons_append, number]
    split at found
    · next minus =>
      rw [if_pos minus]
      exact unsigned_append found stop q
    · next plain =>
      rw [if_neg plain]
      exact unsigned_append found stop q

/-- A number starts with a digit or a sign. -/
theorem number_starts {w : Json} {c : CodePoint} (found : number (c :: t) = some (w, rest)) : startsNumber c := by
  rw [number] at found
  split at found
  · next minus => exact .inl minus
  · right
    rw [unsigned, wholePart] at found
    cases value : digitValue? c with
    | none => simp [value] at found
    | some x =>
      refine ⟨x, ?_⟩
      unfold digitValue? at value
      split at value
      · next digit =>
        obtain rfl := Option.some.inj value
        exact Fin.ext (by simp [digitPoint]; omega)
      · cases value

/-! ## Strings -/

/-- Four digits are the same in a longer text. -/
theorem fourHex?_append {n : Nat} (found : fourHex? t = some (n, rest)) (q : Text) :
    fourHex? (t ++ q) = some (n, rest ++ q) := by
  match t with
  | [] | [_] | [_, _] | [_, _, _] => cases found
  | a :: b :: c :: e :: t =>
    rw [fourHex?] at found
    show fourHex? (a :: b :: c :: e :: (t ++ q)) = _
    rw [fourHex?]
    split at found
    · next high low h l =>
      simp only [Option.some.injEq, Prod.mk.injEq] at found
      obtain ⟨rfl, rfl⟩ := found
      rfl
    · cases found

/-- A pair of escapes is the same in a longer text. -/
theorem lowSurrogate?_pair {low : Nat} (found : lowSurrogate? t = some (some (low, rest))) (q : Text) :
    lowSurrogate? (t ++ q) = some (some (low, rest ++ q)) := by
  match t with
  | [] | [_] => cases found
  | c :: u :: t =>
    show lowSurrogate? (c :: u :: (t ++ q)) = _
    rw [lowSurrogate?] at found ⊢
    split at found
    · next escape =>
      rw [if_pos escape]
      match hex : fourHex? t with
      | none => simp [hex] at found
      | some (n, more) =>
        rw [fourHex?_append hex q]
        simp only [hex] at found
        split at found
        · next pairs =>
          simp only [Option.some.injEq, Prod.mk.injEq] at found
          obtain ⟨rfl, rfl⟩ := found
          exact if_pos pairs
        · cases found
    · cases found

/-- A string that goes on to its end after a first surrogate shows that no second one follows. -/
theorem lowSurrogate?_single (found : lowSurrogate? t = some none) (closed : ∃ fuel, (stringBody fuel t).isSome)
    (q : Text) : lowSurrogate? (t ++ q) = some none := by
  match t with
  | [] =>
    obtain ⟨fuel, closed⟩ := closed
    cases fuel <;> cases closed
  | [c] =>
    have other : c ≠ point '\\' := by
      rintro rfl
      obtain ⟨fuel, closed⟩ := closed
      cases fuel <;> cases closed
    cases q with
    | nil => rfl
    | cons u q =>
      show lowSurrogate? (c :: u :: q) = _
      rw [lowSurrogate?, if_neg (fun both => other both.1)]
  | c :: u :: t =>
    show lowSurrogate? (c :: u :: (t ++ q)) = _
    rw [lowSurrogate?] at found ⊢
    split at found
    · next escape =>
      rw [if_pos escape]
      match hex : fourHex? t with
      | none => simp [hex] at found
      | some (n, more) =>
        rw [fourHex?_append hex q]
        simp only [hex] at found
        split at found
        · cases found
        · next single => exact if_neg single
    · next plain => rw [if_neg plain]

/-- An escape is decided in front of the closing quote. -/
theorem unicodeEscape?_append {c : CodePoint} (found : unicodeEscape? t = some (c, rest))
    (closed : ∃ fuel, (stringBody fuel rest).isSome) (q : Text) :
    unicodeEscape? (t ++ q) = some (c, rest ++ q) := by
  unfold unicodeEscape? at found ⊢
  match hex : fourHex? t with
  | none => simp [hex] at found
  | some (high, after) =>
    rw [fourHex?_append hex q]
    simp only [hex] at found
    simp only
    split at found
    · next surrogate =>
      rw [if_pos surrogate]
      match second : lowSurrogate? after with
      | none => simp [second] at found
      | some none =>
        simp only [second, Option.some.injEq, Prod.mk.injEq] at found
        obtain ⟨rfl, rfl⟩ := found
        rw [lowSurrogate?_single second closed q]
      | some (some (low, more)) =>
        simp only [second, Option.some.injEq, Prod.mk.injEq] at found
        obtain ⟨rfl, rfl⟩ := found
        rw [lowSurrogate?_pair second q]
    · next plain =>
      simp only [Option.some.injEq, Prod.mk.injEq] at found
      obtain ⟨rfl, rfl⟩ := found
      rw [if_neg plain]

/-- A string that is closed is the same in a longer text. -/
theorem stringBody_append {fuel : Nat} {s : Text} (found : stringBody fuel t = some (s, rest)) {more : Nat}
    (enough : fuel ≤ more) (q : Text) : stringBody more (t ++ q) = some (s, rest ++ q) := by
  induction fuel generalizing t s more with
  | zero => cases found
  | succ fuel ih =>
    obtain ⟨more, rfl⟩ : ∃ n, more = n + 1 := ⟨more - 1, by omega⟩
    have enough : fuel ≤ more := by omega
    -- the character just read is put before the rest of the string
    have cons : ∀ {d : CodePoint} {after : Text},
        ((stringBody fuel after).map fun r => (d :: r.1, r.2)) = some (s, rest) →
        ((stringBody more (after ++ q)).map fun r => (d :: r.1, r.2)) = some (s, rest ++ q) ∧
          ∃ fuel, (stringBody fuel after).isSome := by
      intro d after body
      obtain ⟨⟨tail, left⟩, read, whole⟩ := Option.map_eq_some_iff.mp body
      simp only [Prod.mk.injEq] at whole
      obtain ⟨rfl, rfl⟩ := whole
      exact ⟨by rw [ih read enough]; rfl, fuel, by rw [read]; rfl⟩
    cases t with
    | nil => cases found
    | cons c t =>
      rw [stringBody.eq_def] at found
      rw [List.cons_append, stringBody.eq_def]
      simp only at found ⊢
      by_cases close : c = point '"'
      · simp only [if_pos close, Option.some.injEq, Prod.mk.injEq] at found ⊢
        obtain ⟨rfl, rfl⟩ := found
        exact ⟨rfl, rfl⟩
      rw [if_neg close] at found ⊢
      by_cases slash : c = point '\\'
      · rw [if_pos slash] at found ⊢
        cases t with
        | nil => cases found
        | cons e t =>
          simp only [List.cons_append] at found ⊢
          by_cases unicode : e = point 'u'
          · rw [if_pos unicode] at found ⊢
            cases escape : unicodeEscape? t with
            | none => simp [escape] at found
            | some part =>
              obtain ⟨d, after⟩ := part
              simp only [escape] at found
              obtain ⟨read, closed⟩ := cons found
              rw [unicodeEscape?_append escape closed q]
              exact read
          · rw [if_neg unicode] at found ⊢
            cases escape : simpleEscape? e with
            | none => simp [escape] at found
            | some d =>
              simp only [escape] at found
              exact (cons found).1
      rw [if_neg slash] at found ⊢
      by_cases control : c.val < 0x20
      · simp [control] at found
      · rw [if_neg control] at found ⊢
        exact (cons found).1

/-- A string with its quotes is the same whatever follows. -/
theorem string_append {s : Text} (found : string t = some (s, rest)) (q : Text) :
    string (t ++ q) = some (s, rest ++ q) := by
  cases t with
  | nil => cases found
  | cons c t =>
    rw [string] at found
    rw [List.cons_append, string]
    split at found
    · next open_ =>
      rw [if_pos open_]
      exact stringBody_append found (by simp) q
    · cases found

/-! ## Values -/

/-- A value whose end the text shows: no number, or one before a character that no number has. -/
def Closed (v : Json) (rest : Text) : Prop :=
  ((∀ n, v ≠ .int n) ∧ ∀ x, v ≠ .float x) ∨ (rest ≠ [] ∧ ends rest = true)

theorem closed_of_skip {v : Json} (found : skip t = d :: rest) (stop : ends (d :: rest) = true) : Closed v t :=
  .inr (ends_of_skip found stop)

/-- A number is an integer or a float. -/
theorem number_kind {v : Json} (found : number t = some (v, rest)) : (∃ n, v = .int n) ∨ ∃ x, v = .float x := by
  have unsigned_kind : ∀ {negative : Bool} {t : Text}, unsigned negative t = some (v, rest) →
      (∃ n, v = .int n) ∨ ∃ x, v = .float x := by
    intro negative t found
    unfold unsigned at found
    split at found
    · cases found
    · simp only at found
      split at found
      · exact .inr ⟨_, (Prod.mk.inj (Option.some.inj found)).1.symm⟩
      · split at found
        · cases found
        · exact .inl ⟨_, (Prod.mk.inj (Option.some.inj found)).1.symm⟩
  cases t with
  | nil => cases found
  | cons c t =>
    rw [number] at found
    split at found
    · exact unsigned_kind found
    · exact unsigned_kind found

/-- A closed scalar is the same in a longer text. -/
theorem scalar_append {v : Json} (found : scalar t = some (v, rest)) (closed : Closed v rest) (q : Text) :
    scalar (t ++ q) = some (v, rest ++ q) := by
  have word : ∀ {w : Text}, after? w t = some rest → after? w (t ++ q) = some (rest ++ q) :=
    fun found => after?_append found q
  cases t with
  | nil => cases found
  | cons c t =>
    by_cases numeric : number (c :: t) = some (v, rest)
    · have start := number_starts numeric
      obtain ⟨some_, stop⟩ : rest ≠ [] ∧ ends rest = true := by
        rcases closed with ⟨noInt, noFloat⟩ | shown
        · rcases number_kind numeric with ⟨n, same⟩ | ⟨x, same⟩
          · exact absurd same (noInt n)
          · exact absurd same (noFloat x)
        · exact shown
      obtain ⟨d, rest, rfl⟩ := List.exists_cons_of_ne_nil some_
      rw [List.cons_append, scalar_number start, ← List.cons_append]
      exact number_append numeric stop q
    · unfold scalar at found ⊢
      cases null : after? (text "null") (c :: t) with
      | some after =>
        simp only [null, Option.some.injEq, Prod.mk.injEq] at found
        obtain ⟨rfl, rfl⟩ := found
        rw [word null]
      | none =>
        simp only [null] at found
        cases true_ : after? (text "true") (c :: t) with
        | some after =>
          simp only [true_, Option.some.injEq, Prod.mk.injEq] at found
          obtain ⟨rfl, rfl⟩ := found
          have other : after? (text "null") (c :: t ++ q) = none := by
            have head : point 't' = c := by
              by_contra different
              exact absurd (true_.symm.trans (if_neg different)) (by simp)
            exact if_neg (by rw [← head]; decide)
          rw [other, word true_]
        | none =>
          simp only [true_] at found
          cases false_ : after? (text "false") (c :: t) with
          | some after =>
            simp only [false_, Option.some.injEq, Prod.mk.injEq] at found
            obtain ⟨rfl, rfl⟩ := found
            have head : point 'f' = c := by
              by_contra different
              exact absurd (false_.symm.trans (if_neg different)) (by simp)
            have noNull : after? (text "null") (c :: t ++ q) = none := if_neg (by rw [← head]; decide)
            have noTrue : after? (text "true") (c :: t ++ q) = none := if_neg (by rw [← head]; decide)
            rw [noNull, noTrue, word false_]
          | none =>
            simp only [false_] at found
            exact absurd found numeric

theorem ends_comma (r : Text) : ends (point ',' :: r) = true := rfl

theorem ends_bracket (r : Text) : ends (point ']' :: r) = true := rfl

theorem ends_brace (r : Text) : ends (point '\x7d' :: r) = true := rfl

@[simp] theorem value_nil (fuel : Nat) : value fuel [] = none := by
  cases fuel <;> simp [value]

@[simp] theorem items_nil (fuel : Nat) : items fuel [] = none := by
  cases fuel <;> simp [items]

@[simp] theorem members_nil (fuel : Nat) : members fuel [] = none := by
  cases fuel <;> simp [members, string]

theorem skip_append_of_ne (some_ : skip t ≠ []) (q : Text) : skip (t ++ q) = skip t ++ q := by
  obtain ⟨d, rest, found⟩ := List.exists_cons_of_ne_nil some_
  rw [skip_append found q, found, List.cons_append]

/-- What the parser finds within `fuel` at the head of a text it finds with more fuel, whatever follows. -/
structure Extends (fuel : Nat) (q : Text) : Prop where
  value : ∀ {t : Text} {v : Json} {rest : Text}, value fuel t = some (v, rest) → Closed v rest →
    ∀ {more : Nat}, fuel ≤ more → Json.value more (t ++ q) = some (v, rest ++ q)
  items : ∀ {t : Text} {xs : List Json} {rest : Text}, items fuel t = some (xs, rest) →
    ∀ {more : Nat}, fuel ≤ more → Json.items more (t ++ q) = some (xs, rest ++ q)
  members : ∀ {t : Text} {ms : List (Text × Json)} {rest : Text}, members fuel t = some (ms, rest) →
    ∀ {more : Nat}, fuel ≤ more → Json.members more (t ++ q) = some (ms, rest ++ q)

section
variable {fuel more : Nat} (ih : Extends fuel q)
include ih

/-- A closed value is read the same in a longer text, and with more fuel. -/
theorem Extends.value_succ {v : Json} (found : Json.value (fuel + 1) t = some (v, rest)) (closed : Closed v rest)
    (enough : fuel ≤ more) : Json.value (more + 1) (t ++ q) = some (v, rest ++ q) := by
  cases t with
  | nil => simp at found
  | cons c t =>
    rw [Json.value] at found
    rw [List.cons_append, Json.value]
    by_cases quoted : c = point '"'
    · rw [if_pos quoted] at found ⊢
      obtain ⟨⟨s, left⟩, read, whole⟩ := Option.map_eq_some_iff.mp found
      simp only [Prod.mk.injEq] at whole
      obtain ⟨rfl, rfl⟩ := whole
      rw [stringBody_append read (by simp) q]
      rfl
    rw [if_neg quoted] at found ⊢
    by_cases bracket : c = point '['
    · rw [if_pos bracket] at found ⊢
      cases following : skip t with
      | nil => simp [following] at found
      | cons d after =>
        simp only [following] at found
        simp only [skip_append following q]
        split at found
        · next close =>
          simp only [Option.some.injEq, Prod.mk.injEq] at found
          obtain ⟨rfl, rfl⟩ := found
          rw [if_pos close]
        · next open_ =>
          obtain ⟨⟨xs, left⟩, read, whole⟩ := Option.map_eq_some_iff.mp found
          simp only [Prod.mk.injEq] at whole
          obtain ⟨rfl, rfl⟩ := whole
          rw [if_neg open_, ← List.cons_append, ih.items read enough]
          rfl
    rw [if_neg bracket] at found ⊢
    by_cases brace : c = point '\x7b'
    · rw [if_pos brace] at found ⊢
      cases following : skip t with
      | nil => simp [following] at found
      | cons d after =>
        simp only [following] at found
        simp only [skip_append following q]
        split at found
        · next close =>
          simp only [Option.some.injEq, Prod.mk.injEq] at found
          obtain ⟨rfl, rfl⟩ := found
          rw [if_pos close]
        · next open_ =>
          rw [if_neg open_, ← List.cons_append]
          cases read : Json.members fuel (d :: after) with
          | none => simp [read] at found
          | some part =>
            obtain ⟨ms, left⟩ := part
            simp only [read] at found
            obtain ⟨w, unique, whole⟩ := Option.map_eq_some_iff.mp found
            simp only [Prod.mk.injEq] at whole
            obtain ⟨rfl, rfl⟩ := whole
            rw [ih.members read enough]
            simp only [unique, Option.map_some]
    rw [if_neg brace] at found ⊢
    rw [← List.cons_append]
    exact scalar_append found closed q

/-- The elements of an array are the same whatever follows. -/
theorem Extends.items_succ {xs : List Json} (found : Json.items (fuel + 1) t = some (xs, rest))
    (enough : fuel ≤ more) : Json.items (more + 1) (t ++ q) = some (xs, rest ++ q) := by
  rw [Json.items] at found ⊢
  cases read : Json.value fuel t with
  | none => simp [read] at found
  | some part =>
    obtain ⟨x, left⟩ := part
    simp only [read] at found
    cases following : skip left with
    | nil => simp [following] at found
    | cons d after =>
      simp only [following] at found
      by_cases comma : d = point ','
      · subst comma
        rw [if_pos rfl] at found
        obtain ⟨⟨ys, left⟩, tail, whole⟩ := Option.map_eq_some_iff.mp found
        simp only [Prod.mk.injEq] at whole
        obtain ⟨rfl, rfl⟩ := whole
        have some_ : skip after ≠ [] := by
          intro empty
          simp [empty] at tail
        rw [ih.value read (closed_of_skip following (ends_comma _)) enough]
        simp only [skip_append following q, if_true]
        rw [skip_append_of_ne some_ q, ih.items tail enough]
        rfl
      · rw [if_neg comma] at found
        split at found
        · next close =>
          simp only [Option.some.injEq, Prod.mk.injEq] at found
          obtain ⟨rfl, rfl⟩ := found
          rw [ih.value read (closed_of_skip following (close ▸ ends_bracket _)) enough]
          simp only [skip_append following q, if_neg comma, if_pos close]
        · cases found

/-- The members of an object are the same whatever follows. -/
theorem Extends.members_succ {ms : List (Text × Json)} (found : Json.members (fuel + 1) t = some (ms, rest))
    (enough : fuel ≤ more) : Json.members (more + 1) (t ++ q) = some (ms, rest ++ q) := by
  rw [Json.members] at found ⊢
  cases key : string t with
  | none => simp [key] at found
  | some part =>
    obtain ⟨k, left⟩ := part
    simp only [key] at found
    rw [string_append key q]
    cases between : skip left with
    | nil => simp [between] at found
    | cons colon left =>
      simp only [between] at found
      simp only [skip_append between q]
      split at found
      · next colon =>
        rw [if_pos colon]
        cases read : Json.value fuel (skip left) with
        | none => simp [read] at found
        | some part =>
          obtain ⟨x, left'⟩ := part
          simp only [read] at found
          have some_ : skip left ≠ [] := by
            intro empty
            simp [empty] at read
          rw [skip_append_of_ne some_ q]
          cases following : skip left' with
          | nil => simp [following] at found
          | cons d after =>
            simp only [following] at found
            by_cases comma : d = point ','
            · subst comma
              rw [if_pos rfl] at found
              obtain ⟨⟨ys, left⟩, tail, whole⟩ := Option.map_eq_some_iff.mp found
              simp only [Prod.mk.injEq] at whole
              obtain ⟨rfl, rfl⟩ := whole
              have some_ : skip after ≠ [] := by
                intro empty
                simp [empty] at tail
              rw [ih.value read (closed_of_skip following (ends_comma _)) enough]
              simp only [skip_append following q, if_true]
              rw [skip_append_of_ne some_ q, ih.members tail enough]
              rfl
            · rw [if_neg comma] at found
              split at found
              · next close =>
                simp only [Option.some.injEq, Prod.mk.injEq] at found
                obtain ⟨rfl, rfl⟩ := found
                rw [ih.value read (closed_of_skip following (close ▸ ends_brace _)) enough]
                simp only [skip_append following q, if_neg comma, if_pos close]
              · cases found
      · cases found

end

/-- What is read and closed is read the same in every longer text, by induction on the fuel. -/
theorem extends_all (fuel : Nat) (q : Text) : Extends fuel q := by
  induction fuel with
  | zero => exact ⟨fun found => by simp [value] at found, fun found => by simp [items] at found,
      fun found => by simp [members] at found⟩
  | succ fuel ih =>
    refine ⟨?_, ?_, ?_⟩
    · rintro t v rest found closed (_ | more) enough
      · exact absurd enough (Nat.not_succ_le_zero _)
      · exact ih.value_succ found closed (Nat.le_of_succ_le_succ enough)
    · rintro t xs rest found (_ | more) enough
      · exact absurd enough (Nat.not_succ_le_zero _)
      · exact ih.items_succ found (Nat.le_of_succ_le_succ enough)
    · rintro t ms rest found (_ | more) enough
      · exact absurd enough (Nat.not_succ_le_zero _)
      · exact ih.members_succ found (Nat.le_of_succ_le_succ enough)

/-- No number starts with a brace. -/
theorem value_brace {fuel : Nat} {v : Json} (found : value fuel (point '\x7b' :: t) = some (v, rest)) :
    Closed v rest := by
  cases fuel with
  | zero => simp [value] at found
  | succ fuel =>
    left
    rw [value, if_neg (by decide), if_neg (by decide), if_pos rfl] at found
    have object : ∃ ms, v = .obj ms := by
      split at found
      · cases found
      · split at found
        · exact ⟨_, (Prod.mk.inj (Option.some.inj found)).1.symm⟩
        · split at found
          · cases found
          · obtain ⟨w, unique, whole⟩ := Option.map_eq_some_iff.mp found
            rw [rejectDuplicateKeys] at unique
            split at unique
            · obtain rfl := Option.some.inj unique
              exact ⟨_, (Prod.mk.inj whole).1.symm⟩
            · cases unique
    obtain ⟨ms, rfl⟩ := object
    exact ⟨by simp, by simp⟩

theorem dump_obj_head (ms : List (Text × Json)) : ∃ rest, dump (.obj ms) = point '\x7b' :: rest := by
  cases ms with
  | nil => exact ⟨text "\x7d", rfl⟩
  | cons m ms =>
    obtain ⟨k, x⟩ := m
    exact ⟨dumpString k ++ text ":" ++ dump x ++ dumpMembers ms, by simp [dump, text, point]⟩

/-- A start of a written object that parses holds the whole object, and parses to it. -/
theorem loads_start {ms : List (Text × Json)} {w : Json} {p r : Text} (writable : Writable (.obj ms))
    (stop : ends r = true) (start : p ++ q = dump (.obj ms) ++ r) (read : loads p = some w) :
    w = .obj ms ∧ ∃ more, p = dump (.obj ms) ++ more := by
  obtain ⟨body, brace⟩ := dump_obj_head ms
  cases p with
  | nil => simp [loads, skip] at read
  | cons c p =>
    obtain rfl : c = point '\x7b' := by
      rw [brace] at start
      exact (List.cons.inj start).1
    rw [loads, skip_cons (by decide)] at read
    split at read
    · next v left found =>
      split at read
      · obtain rfl := Option.some.inj read
        have whole := (extends_all _ q).value found (value_brace found)
          (Nat.le_add_right _ ((dump (.obj ms)).length + 1))
        rw [start, value_dump writable stop (by omega)] at whole
        simp only [Option.some.injEq, Prod.mk.injEq] at whole
        obtain ⟨rfl, rfl⟩ := whole
        refine ⟨rfl, left, ?_⟩
        rw [← List.append_assoc] at start
        exact List.append_cancel_right start
      · cases read
    · cases read

end EmsDnp3.Json
