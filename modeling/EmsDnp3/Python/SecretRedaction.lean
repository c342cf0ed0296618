import EmsDnp3.Python.SecretFields

/-!
# What `redact_text` shows of a secret value

A value without quotes is replaced as a whole, and the text behind it is redacted as it would be behind any other
value. A value with a quote is replaced only up to it, since the pattern ends at the escaped quote too: what stands
behind the quote is left in the evidence.
-/

namespace EmsDnp3.Python

open Json (DumpsOptions)

/-! ## Values without quotes -/

/-- A secret field behind a place outside of strings is redacted, whatever stands before it. -/
theorem sub_secret {A R key blanks more value : Text} (outside : scan .outside A = some .outside)
    (named : IsSecretKey key) (blank : ∀ c ∈ blanks, isSpace c = true) (blank' : ∀ c ∈ more, isSpace c = true)
    (plain : Json.quote ∉ value) :
    sub jsonSecretPattern (A ++ (secretText key blanks more value ++ R)) =
      sub jsonSecretPattern A ++ (redactedSecret key blanks more ++ sub jsonSecretPattern R) := by
  obtain ⟨l, begins⟩ : ∃ l, secretText key blanks more value = Json.quote :: l := by
    obtain ⟨k, -, rfl⟩ := named
    exact ⟨_, rfl⟩
  have matched : SecretMatch (Json.quote :: l) (redactedSecret key blanks more) :=
    ⟨key, blanks, more, value, named, blank, blank', plain, begins.symm, rfl⟩
  rw [begins]
  refine jsonSecretPattern_recognises.substitute_append matched ?_ none
  rintro A' ⟨front, rfl⟩ some_ _ _ C ⟨key', blanks', more', value', named', space, space', plain', rfl, rfl⟩ -
  rw [scan_append] at outside
  obtain ⟨place, -, ends⟩ := Option.bind_eq_some_iff.mp outside
  exact secretText_across some_ ends named' space space' plain'

/-- The field with its value as `json.dumps` writes them. -/
theorem member_secret (o : DumpsOptions) {name : Text} (isSecret : name ∈ secretNames) (value : Text) :
    o.member name (o.string value) =
      secretText (Json.quote :: (name ++ [Json.quote])) o.beforeColon o.afterColon (value.flatMap o.escaped) := by
  have unescaped : ∀ name ∈ secretNames, name.flatMap Json.escape = name ∧ name.flatMap Json.escapeAscii = name := by
    decide +kernel
  have same : name.flatMap o.escaped = name := by
    unfold DumpsOptions.escaped
    cases o.ensureAscii
    · exact (unescaped name isSecret).1
    · exact (unescaped name isSecret).2
  rw [member_eq, DumpsOptions.string, DumpsOptions.string, same]
  simp [secretText, fieldText]

theorem isSecretKey {name : Text} (isSecret : name ∈ secretNames) :
    IsSecretKey (Json.quote :: (name ++ [Json.quote])) := by
  have folded : ∀ name ∈ secretNames, name.map fold = name := by decide +kernel
  refine ⟨name, ?_, rfl⟩
  rw [IsSecretName, folded name isSecret]
  exact isSecret

theorem textOf_outside (lines : List Line) : scan .outside (textOf lines) = some .outside := by
  induction lines with
  | nil => rfl
  | cons l lines ih =>
    rw [textOf, List.flatMap_cons, ← textOf, scan_append, scan_append, (whole_dumps l.options 0 l.document).1,
      Option.bind_some, scan_blanks l.blank (.inl rfl), Option.bind_some, ih]

/-- The first substitution leaves the same text for any two values without quotes. -/
theorem sub_secretLines (s : SecretLines) {value other : Text} (plain : Json.quote ∉ value)
    (plain' : Json.quote ∉ other) :
    sub jsonSecretPattern (s.text value) = sub jsonSecretPattern (s.text other) := by
  obtain ⟨front, back, same, outside⟩ := s.field.splits s.options 0
  have colonBlank := fun c (inside : c ∈ s.options.beforeColon) =>
    isSpace_blanks (s.options.colonBlank c (List.mem_append_left _ inside))
  have colonBlank' := fun c (inside : c ∈ s.options.afterColon) =>
    isSpace_blanks (s.options.colonBlank c (List.mem_append_right _ inside))
  have before : scan .outside (textOf s.front ++ front) = some .outside := by
    rw [scan_append, textOf_outside, Option.bind_some, outside .outside (.inl rfl)]
  have left {value : Text} (plain : Json.quote ∉ value) : sub jsonSecretPattern (s.text value) =
      sub jsonSecretPattern (textOf s.front ++ front) ++
        (redactedSecret (Json.quote :: (s.field.name ++ [Json.quote])) s.options.beforeColon s.options.afterColon ++
          sub jsonSecretPattern (back ++ (s.gap ++ textOf s.back))) := by
    have split : s.text value = textOf s.front ++ front ++
        (secretText (Json.quote :: (s.field.name ++ [Json.quote])) s.options.beforeColon s.options.afterColon
          (value.flatMap s.options.escaped) ++ (back ++ (s.gap ++ textOf s.back))) := by
      rw [SecretLines.text, textOf, List.flatMap_append, List.flatMap_cons, ← textOf, ← textOf, same,
        member_secret s.options s.field.isSecret]
      simp only [List.append_assoc]
    rw [split, sub_secret before (isSecretKey s.field.isSecret) colonBlank colonBlank' (quote_mem_escaped _ plain)]
  rw [left plain, left plain']

/-! ## Values with a quote -/

section
variable {isWord : CodePoint → Bool}

/-- A text of one document with a secret field: a name is followed by a quote, and the last character stands in no
name. -/
structure Sealed (Q : Text) : Prop where
  short : Q.length < 32
  names : (Q.tails.all fun A => (text "bearer" :: secretNames).all fun word =>
    (A.take word.length).map fold != word || (A.drop word.length).head? == some Json.quote) = true
  last : ∃ Q₀ e, Q = Q₀ ++ [e] ∧ isHexDigit e = false ∧ ((text "bearer" :: secretNames).all fun word => fold e ∉ word) = true

/-- The last character of a sealed text ends each of its suffixes. -/
theorem Sealed.ends {Q A : Text} (closed : Sealed Q) (suffix : A <:+ Q) (some_ : A ≠ []) :
    ∃ A₀ e, A = A₀ ++ [e] ∧ isHexDigit e = false ∧ ∀ word ∈ text "bearer" :: secretNames, fold e ∉ word := by
  obtain ⟨Q₀, e, rfl, notHex, foreign⟩ := closed.last
  obtain ⟨A₀, e', rfl⟩ := (List.eq_nil_or_concat' A).resolve_left some_
  obtain rfl := List.singleton_suffix_append_singleton_iff.mp ((List.suffix_append A₀ [e']).trans suffix)
  exact ⟨A₀, e', rfl, notHex, fun word member => of_decide_eq_true (List.all_eq_true.mp foreign word member)⟩

/-- Behind a name in a sealed text stands a quote. -/
theorem Sealed.behind {Q A R behind k : Text} (closed : Sealed Q) (suffix : A <:+ Q) (some_ : A ≠ [])
    (named : k.map fold ∈ text "bearer" :: secretNames) (same : A ++ R = k ++ behind) :
    ∃ rest, behind = Json.quote :: rest := by
  have checked := List.all_eq_true.mp (List.all_eq_true.mp closed.names A ((List.mem_tails _ _).mpr suffix)) _ named
  obtain ⟨A₀, e, whole, -, foreign⟩ := closed.ends suffix some_
  have outer : e ∉ k := fun inside => foreign _ named (List.mem_map_of_mem inside)
  rcases List.append_eq_append_iff.mp same with ⟨z, rfl, -⟩ | ⟨z, rfl, rfl⟩
  · rw [whole] at outer
    simp at outer
  · rw [List.length_map, List.take_left, List.drop_left, bne_self_eq_false, Bool.false_or, beq_iff_eq] at checked
    cases z with
    | nil => cases checked
    | cons c z =>
      obtain rfl := Option.some.inj checked
      exact ⟨z ++ R, rfl⟩

/-- The last three substitutions leave a sealed text as it is. -/
theorem sealed_assignment {Q : Text} (closed : Sealed Q) {before : Option CodePoint} {A : Text} (suffix : A <:+ Q)
    (some_ : A ≠ []) (R : Text) : assignmentSecretPattern isWord before (A ++ R) = none := by
  refine Option.eq_none_iff_forall_ne_some.mpr fun ⟨n, replacement⟩ found => ?_
  unfold assignmentSecretPattern at found
  split at found
  · obtain ⟨behind, name, found'⟩ := Option.bind_eq_some_iff.mp found
    obtain ⟨word, member, matched⟩ := List.exists_of_findSome?_eq_some name
    obtain ⟨k, rfl, same⟩ := foldedWord_iff.mp matched
    obtain ⟨rest, rfl⟩ := closed.behind suffix some_ (List.mem_cons_of_mem _ member) same
    obtain ⟨value, sign, -⟩ := Option.bind_eq_some_iff.mp found'
    rw [spaces, List.dropWhile_cons, isSpace_quote, literal_iff] at sign
    cases (List.cons.inj sign).1
  · cases found

/-- A text that is sealed holds no safety token. -/
theorem sealed_hex {Q : Text} (closed : Sealed Q) {before : Option CodePoint} {A : Text} (suffix : A <:+ Q)
    (some_ : A ≠ []) (R : Text) : hexSafetyTokenPattern isWord before (A ++ R) = none := by
  obtain ⟨A₀, e, rfl, notHex, -⟩ := closed.ends suffix some_
  unfold hexSafetyTokenPattern
  refine if_neg fun digits => ?_
  simp only [Bool.and_eq_true] at digits
  have short := suffix.length_le.trans_lt closed.short
  have inside : e ∈ ((A₀ ++ [e]) ++ R).take 32 := by
    rw [List.take_append, List.take_of_length_le short.le]
    simp
  have hex := List.all_eq_true.mp digits.1.2 e inside
  rw [notHex] at hex
  cases hex

/-- A text that is sealed holds no bearer token. -/
theorem sealed_bearer {Q : Text} (closed : Sealed Q) {before : Option CodePoint} {A : Text} (suffix : A <:+ Q)
    (some_ : A ≠ []) (R : Text) : bearerPattern isWord before (A ++ R) = none := by
  refine Option.eq_none_iff_forall_ne_some.mpr fun ⟨n, replacement⟩ found => ?_
  unfold bearerPattern at found
  split at found
  · obtain ⟨behind, name, found'⟩ := Option.bind_eq_some_iff.mp found
    obtain ⟨k, word, same⟩ := foldedWord_iff.mp name
    obtain ⟨rest, rfl⟩ := closed.behind suffix some_ (word ▸ List.mem_cons_self) same
    simp [spaces, List.dropWhile_cons, isSpace_quote] at found'
  · cases found

/-- What is put for an assignment is not empty. -/
theorem assignment_long {before : Option CodePoint} {t : Text} {n : Nat} {replacement : Text}
    (found : assignmentSecretPattern isWord before t = some (n, replacement)) : 2 ≤ replacement.length := by
  unfold assignmentSecretPattern at found
  split at found
  · obtain ⟨behind, -, found₁⟩ := Option.bind_eq_some_iff.mp found
    obtain ⟨value, -, found₂⟩ := Option.bind_eq_some_iff.mp found₁
    dsimp only at found₂
    split at found₂
    · obtain ⟨-, rfl⟩ := Prod.mk.inj (Option.some.inj found₂)
      have mark : (text "=<redacted>").length = 11 := by decide
      rw [List.length_append, mark]
      omega
    · cases found₂
  · cases found

/-- What is put for a safety token is not empty. -/
theorem hex_long {before : Option CodePoint} {t : Text} {n : Nat} {replacement : Text}
    (found : hexSafetyTokenPattern isWord before t = some (n, replacement)) : 2 ≤ replacement.length := by
  unfold hexSafetyTokenPattern at found
  split at found
  · obtain ⟨-, rfl⟩ := Prod.mk.inj (Option.some.inj found)
    decide
  · cases found

/-- What is put for a bearer token is not empty. -/
theorem bearer_long {before : Option CodePoint} {t : Text} {n : Nat} {replacement : Text}
    (found : bearerPattern isWord before t = some (n, replacement)) : 2 ≤ replacement.length := by
  unfold bearerPattern at found
  split at found
  · obtain ⟨behind, -, found₁⟩ := Option.bind_eq_some_iff.mp found
    dsimp only at found₁
    split at found₁
    · obtain ⟨-, rfl⟩ := Prod.mk.inj (Option.some.inj found₁)
      decide
    · cases found₁
  · cases found

/-- Behind a sealed text the last three substitutions go on by themselves, and do not make a long rest short. -/
theorem redactPlain_sealed (isWord : CodePoint → Bool) {Q : Text} (closed : Sealed Q) (R : Text) :
    ∃ rest, redactPlain isWord (Q ++ R) = Q ++ rest ∧ (R = [] → rest = []) ∧ (2 ≤ R.length → 2 ≤ rest.length) := by
  have step (m : Matcher CodePoint) (inert : ∀ before A, A <:+ Q → A ≠ [] → ∀ R, m before (A ++ R) = none)
      (long : ∀ before t n replacement, m before t = some (n, replacement) → 2 ≤ replacement.length) (R : Text) :
      ∃ rest, sub m (Q ++ R) = Q ++ rest ∧ (R = [] → rest = []) ∧ (2 ≤ R.length → 2 ≤ rest.length) := by
    refine ⟨substitute m 0 (lastOf none Q) R, ?_, ?_, substitute_length long R⟩
    · exact substitute_inert fun before A suffix some_ => inert before A suffix some_ R
    · rintro rfl
      rfl
  obtain ⟨R₁, first, none₁, long₁⟩ := step (assignmentSecretPattern isWord)
    (fun _ _ suffix some_ => sealed_assignment closed suffix some_) (fun _ _ _ _ => assignment_long) R
  obtain ⟨R₂, second, none₂, long₂⟩ := step (hexSafetyTokenPattern isWord)
    (fun _ _ suffix some_ => sealed_hex closed suffix some_) (fun _ _ _ _ => hex_long) R₁
  obtain ⟨R₃, third, none₃, long₃⟩ := step (bearerPattern isWord)
    (fun _ _ suffix some_ => sealed_bearer closed suffix some_) (fun _ _ _ _ => bearer_long) R₂
  refine ⟨R₃, ?_, fun none_ => none₃ (none₂ (none₁ none_)), fun long => long₃ (long₂ (long₁ long))⟩
  rw [redactPlain, first, second, third]

/-- The number of omitted characters can be read off the message. -/
theorem omission_append {m n : Nat} {a b : Text} (same : omission m ++ a = omission n ++ b) : m = n := by
  have digits (n : Nat) (a : Text) : ∃ c rest, isDigit c = false ∧
      omission n ++ a = text "\n... <" ++ (decimal n ++ c :: rest) := by
    have blank : text " characters omitted by evidence bound> ...\n" =
        .ofNat 0x20 :: text "characters omitted by evidence bound> ...\n" := by decide +kernel
    refine ⟨.ofNat 0x20, text "characters omitted by evidence bound> ...\n" ++ a, by decide, ?_⟩
    rw [omission, blank, List.append_assoc, List.append_assoc, List.cons_append]
  obtain ⟨c, rest, stop, left⟩ := digits m a
  obtain ⟨c', rest', stop', right⟩ := digits n b
  rw [left, right, List.append_cancel_left_eq] at same
  have front (n : Nat) {c : CodePoint} (stop : isDigit c = false) (rest : Text) :
      (decimal n ++ c :: rest).takeWhile isDigit = decimal n := by
    rw [List.takeWhile_append_of_pos fun _ inside => decimal_isDigit inside, List.takeWhile_cons, stop]
    simp
  apply decimal_injective
  rw [← front m stop rest, same, front n stop' rest']

/-- Texts of different lengths stay different under the bound. -/
theorem bounded_ne {t t' : Text} (shorter : t.length < t'.length) (maximumChars : Nat) :
    bounded maximumChars t ≠ bounded maximumChars t' := by
  intro same
  have message (n : Nat) : 0 < (omission n).length := by
    rw [omission, List.length_append, List.length_append]
    have front : (text "\n... <").length = 6 := by decide
    omega
  unfold bounded at same
  split at same
  · next fits =>
    split at same
    · rw [same] at shorter
      exact absurd shorter (lt_irrefl _)
    · next cut =>
      have length := congrArg List.length same
      have part := message (t'.length - maximumChars)
      dsimp only at length
      rw [List.length_append, List.length_append, List.length_take] at length
      split at length
      · omega
      · rw [List.rtake, List.length_drop] at length
        omega
  · next cut =>
    rw [if_neg (by omega)] at same
    dsimp only at same
    rw [List.append_assoc, List.append_assoc] at same
    have omitted := omission_append (List.append_inj same (by simp only [List.length_take]; omega)).2
    omega

end

def passwordKey : Text := Json.quote :: (text "password" ++ [Json.quote])

/-- `{"password": …}` -/
def passwordLine : SecretLines where
  front := []
  options := DumpsOptions.default
  field := { frames := [], before := [], name := text "password", after := [], isSecret := by decide +kernel }
  gap := []
  blank := Json.noBlanks
  back := []

/-- The line of a password. -/
theorem passwordLine_text (value : Text) : passwordLine.text value =
    [0x7B] ++ (secretText passwordKey [] [0x20] (value.flatMap Json.escapeAscii) ++
      [0x7D]) := by
  have isSecret : text "password" ∈ secretNames := by decide +kernel
  have member := member_secret DumpsOptions.default isSecret value
  have document : passwordLine.text value = DumpsOptions.default.wrapped 0x7B 0x7D 0
      [DumpsOptions.default.member (text "password") (DumpsOptions.default.string value)] ++ [] ++ [] := by
    rw [SecretLines.text, textOf, List.flatMap_append, List.flatMap_cons]
    rfl
  rw [document, member]
  simp only [DumpsOptions.wrapped, DumpsOptions.joined, DumpsOptions.newline, DumpsOptions.default, List.append_nil,
    List.nil_append, List.flatMap_nil, reduceCtorEq, if_false]
  rfl

/-- A value with a quote is not replaced behind the quote. -/
theorem redactText_quote (isWord : CodePoint → Bool) (maximumChars : Nat) {value : Text} (quoted : Json.quote ∈ value) :
    redactText isWord maximumChars (passwordLine.text value) ≠
      redactText isWord maximumChars (passwordLine.text []) := by
  obtain ⟨before, after, rfl, plain⟩ := List.eq_append_cons_of_mem quoted
  have key : IsSecretKey passwordKey := isSecretKey (by decide +kernel)
  have opened : scan .outside [0x7B] = some .outside := whole_brackets.2.2.1.1
  have space : ∀ c ∈ [(0x20 : CodePoint)], isSpace c = true := by
    intro c inside
    rw [List.mem_singleton.mp inside]
    decide
  have left {X : Text} (plain : Json.quote ∉ X) (R : Text) :
      sub jsonSecretPattern ([0x7B] ++ (secretText passwordKey [] [0x20] X ++ R)) =
        text "\x7b\"password\": \"<redacted>\"" ++ sub jsonSecretPattern R := by
    have prefix_ : sub jsonSecretPattern [0x7B] ++
        redactedSecret passwordKey [] [0x20] =
          text "\x7b\"password\": \"<redacted>\"" := by decide +kernel
    rw [sub_secret opened key (fun c inside => by cases inside) space plain, ← List.append_assoc, prefix_]
  have escaped : (before ++ Json.quote :: after).flatMap Json.escapeAscii =
      (before.flatMap Json.escapeAscii ++ [Json.backslash]) ++ Json.quote :: after.flatMap Json.escapeAscii := by
    have one : Json.escapeAscii Json.quote = [Json.backslash, Json.quote] := by decide +kernel
    rw [List.flatMap_append, List.flatMap_cons, one]
    simp
  have plain' : Json.quote ∉ before.flatMap Json.escapeAscii ++ [Json.backslash] := by
    rw [List.mem_append, not_or]
    exact ⟨quote_mem_escaped DumpsOptions.default plain, by decide⟩
  have value_ : sub jsonSecretPattern (passwordLine.text (before ++ Json.quote :: after)) =
      text "\x7b\"password\": \"<redacted>\"" ++
        sub jsonSecretPattern (after.flatMap Json.escapeAscii ++ [Json.quote, 0x7D]) := by
    rw [passwordLine_text, escaped, ← left plain']
    simp [secretText]
  have empty : sub jsonSecretPattern (passwordLine.text []) = text "\x7b\"password\": \"<redacted>\"\x7d" := by
    decide +kernel
  have open_ : Sealed (text "\x7b\"password\": \"<redacted>\"") :=
    ⟨by decide +kernel, by decide +kernel, text "\x7b\"password\": \"<redacted>", Json.quote, by decide +kernel,
      by decide, by decide +kernel⟩
  have whole : Sealed (text "\x7b\"password\": \"<redacted>\"\x7d") :=
    ⟨by decide +kernel, by decide +kernel, text "\x7b\"password\": \"<redacted>\"", 0x7D, by decide +kernel, by decide,
      by decide +kernel⟩
  obtain ⟨rest, shown, -, long⟩ := redactPlain_sealed isWord open_
    (sub jsonSecretPattern (after.flatMap Json.escapeAscii ++ [Json.quote, 0x7D]))
  obtain ⟨none_, shown', nothing, -⟩ := redactPlain_sealed isWord whole []
  obtain rfl := nothing rfl
  have replaced (before : Option CodePoint) (t : Text) (n : Nat) (replacement : Text)
      (found : jsonSecretPattern before t = some (n, replacement)) : 2 ≤ replacement.length := by
    obtain ⟨_, _, ⟨key, blanks, more, X, -, -, -, -, -, rfl⟩, -⟩ := (jsonSecretPattern_recognises ..).mp found
    have mark : (text "<redacted>").length = 10 := by decide
    rw [redactedSecret, List.length_append, List.length_append, mark]
    omega
  have enough := long (substitute_length replaced _ (by simp))
  rw [redactText, redactText, value_, empty, shown]
  rw [List.append_nil] at shown'
  rw [shown']
  refine (bounded_ne ?_ maximumChars).symm
  have lengths : (text "\x7b\"password\": \"<redacted>\"\x7d").length =
      (text "\x7b\"password\": \"<redacted>\"").length + 1 := by decide
  rw [List.length_append, lengths]
  omega

/-- The evidence is the same for a value as for any value without quotes if and only if the value has none. -/
theorem secret_hidden (isWord : CodePoint → Bool) (maximumChars : Nat) (value : Text) :
    (∀ (s : SecretLines) (other : Text), Json.quote ∉ other →
      redactText isWord maximumChars (s.text value) = redactText isWord maximumChars (s.text other)) ↔
      Json.quote ∉ value := by
  constructor
  · intro same quoted
    exact redactText_quote isWord maximumChars quoted (same passwordLine [] (by simp))
  · intro plain s other plain'
    rw [redactText, sub_secretLines s plain plain', ← redactText]

/-- Behind its quote the value `a"b` is left in the evidence. -/
theorem secret_left : ¬ ∀ (s : SecretLines) (value other : Text),
    redactText isAsciiWord maxReportTextChars (s.text value) =
      redactText isAsciiWord maxReportTextChars (s.text other) := by
  intro same
  have equal := same passwordLine (text "a\"b") (text "a\"c")
  revert equal
  decide +kernel

end EmsDnp3.Python
