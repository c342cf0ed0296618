import EmsDnp3.Json.Dumps
import EmsDnp3.Python.Redaction

/-!
# Matches of the secret pattern

A match has four quotes that belong to no escape: two around the key, one that opens the value, and the next quote
of any kind, which ends the match. The third of them is behind a colon. A scanner that follows the strings of a text
tells where such a match can begin: only in a key, and never so that it reaches into a later field.
-/

namespace EmsDnp3.Python

/-! ## The pattern -/

/-- A redacted name in some mixture of cases. -/
def IsSecretName (k : Text) : Prop := k.map fold ∈ secretNames

theorem fold_quote : fold Json.quote = Json.quote := by decide

theorem fold_backslash : fold Json.backslash = Json.backslash := by decide

/-- Names are written without escapes. -/
theorem IsSecretName.plain {k : Text} (named : IsSecretName k) : Json.quote ∉ k ∧ Json.backslash ∉ k := by
  have all : ∀ name ∈ secretNames, Json.quote ∉ name ∧ Json.backslash ∉ name := by decide
  obtain ⟨noQuote, noBackslash⟩ := all _ named
  constructor
  · intro inside
    exact noQuote (fold_quote ▸ List.mem_map_of_mem inside)
  · intro inside
    exact noBackslash (fold_backslash ▸ List.mem_map_of_mem inside)

/-- A name between quotes. -/
def IsSecretKey (key : Text) : Prop := ∃ k, IsSecretName k ∧ key = Json.quote :: (k ++ [Json.quote])

/-- A word is matched whatever its case. -/
theorem foldedWord_iff {word t rest : Text} :
    foldedWord word t = some rest ↔ ∃ k, k.map fold = word ∧ t = k ++ rest := by
  unfold foldedWord
  constructor
  · intro found
    split at found
    · next same =>
      obtain rfl := Option.some.inj found
      exact ⟨t.take word.length, same, (List.take_append_drop _ t).symm⟩
    · cases found
  · rintro ⟨k, rfl, rfl⟩
    rw [List.length_map, List.take_left, List.drop_left, if_pos rfl]

/-- A secret key is matched whatever its case. -/
theorem secretKey_iff {t rest : Text} : secretKey t = some rest ↔ ∃ key, IsSecretKey key ∧ t = key ++ rest := by
  have each {name t rest : Text} : (foldedWord name t).bind (literal [Json.quote]) = some rest ↔
      ∃ k, k.map fold = name ∧ t = k ++ Json.quote :: rest := by
    rw [Option.bind_eq_some_iff]
    constructor
    · rintro ⟨t', word, close⟩
      obtain ⟨k, named, rfl⟩ := foldedWord_iff.mp word
      exact ⟨k, named, by rw [literal_iff.mp close]; rfl⟩
    · rintro ⟨k, named, rfl⟩
      exact ⟨_, foldedWord_iff.mpr ⟨k, named, rfl⟩, literal_iff.mpr rfl⟩
  constructor
  · intro found
    obtain ⟨t', open_, found'⟩ := Option.bind_eq_some_iff.mp found
    obtain ⟨name, member, matched⟩ := List.exists_of_findSome?_eq_some found'
    obtain ⟨k, named, rfl⟩ := each.mp matched
    rw [literal_iff] at open_
    obtain rfl := named
    exact ⟨_, ⟨k, member, rfl⟩, by rw [open_]; simp⟩
  · rintro ⟨key, ⟨k, named, rfl⟩, rfl⟩
    refine Option.bind_eq_some_iff.mpr ⟨k ++ Json.quote :: rest, literal_iff.mpr (by simp), ?_⟩
    have here : (foldedWord (k.map fold) (k ++ Json.quote :: rest)).bind (literal [Json.quote]) = some rest :=
      each.mpr ⟨k, rfl, rfl⟩
    have some_ : (secretNames.findSome? fun name =>
        (foldedWord name (k ++ Json.quote :: rest)).bind (literal [Json.quote])).isSome := by
      rw [List.findSome?_isSome_iff]
      exact ⟨_, named, by rw [here]; rfl⟩
    obtain ⟨rest', found⟩ := Option.isSome_iff_exists.mp some_
    -- Two names that end at a quote end at the same one.
    obtain ⟨name, member, matched⟩ := List.exists_of_findSome?_eq_some found
    obtain ⟨k', rfl, same⟩ := each.mp matched
    have plain := IsSecretName.plain named
    have plain' : Json.quote ∉ k' := (IsSecretName.plain (k := k') member).1
    rcases split_quote plain.1 same with ⟨-, rfl⟩ | ⟨B, rfl, -⟩
    · exact found
    · simp at plain'

/-- The matched part of a secret field with this value. -/
def secretText (key blanks more value : Text) : Text := fieldText key blanks more ++ (value ++ [Json.quote])

/-- What replaces it. -/
def redactedSecret (key blanks more : Text) : Text := fieldText key blanks more ++ text "<redacted>" ++ [Json.quote]

/-- A secret field as far as it is matched, and what replaces it. -/
def SecretMatch (matched replacement : Text) : Prop :=
  ∃ key blanks more value, IsSecretKey key ∧ (∀ c ∈ blanks, isSpace c = true) ∧ (∀ c ∈ more, isSpace c = true) ∧
    Json.quote ∉ value ∧ matched = secretText key blanks more value ∧ replacement = redactedSecret key blanks more

/-- The pattern matches exactly its matches. -/
theorem jsonSecretPattern_recognises : Recognises jsonSecretPattern SecretMatch := by
  have shape (key blanks more value rest : Text) : secretText key blanks more value ++ rest =
      fieldText key blanks more ++ (value ++ Json.quote :: rest) := by simp [secretText]
  have parts (key blanks more value rest : Text) :
      ((secretText key blanks more value ++ rest).length - rest.length,
        consumed (secretText key blanks more value ++ rest) (value ++ Json.quote :: rest) ++ text "<redacted>" ++
          [Json.quote]) =
      ((secretText key blanks more value).length, redactedSecret key blanks more) := by
    rw [List.length_append, Nat.add_sub_cancel, shape, consumed_append]
    rfl
  intro before t n replacement
  unfold jsonSecretPattern
  constructor
  · intro found
    obtain ⟨value, start, inside⟩ := Option.bind_eq_some_iff.mp found
    obtain ⟨key, blanks, more, named, blank, blank', rfl⟩ := (fieldStart_iff fun _ _ => secretKey_iff).mp start
    obtain ⟨rest, close, result⟩ := Option.bind_eq_some_iff.mp inside
    rw [literal_iff] at close
    obtain ⟨X, plain, rfl⟩ : ∃ X, Json.quote ∉ X ∧ value = X ++ Json.quote :: rest := by
      refine ⟨value.takeWhile (· ≠ Json.quote), ?_, ?_⟩
      · intro member
        have other := List.mem_takeWhile_imp member
        simp at other
      · rw [← List.singleton_append, ← close]
        exact List.takeWhile_append_dropWhile.symm
    rw [← shape] at result
    obtain ⟨rfl, rfl⟩ := Prod.mk.inj ((parts ..).symm.trans (Option.some.inj result))
    exact ⟨_, rest, ⟨key, blanks, more, X, named, blank, blank', plain, rfl, rfl⟩, (shape ..).symm, rfl⟩
  · rintro ⟨_, rest, ⟨key, blanks, more, value, named, blank, blank', plain, rfl, rfl⟩, rfl, rfl⟩
    refine Option.bind_eq_some_iff.mpr ⟨value ++ Json.quote :: rest, ?_, ?_⟩
    · exact (fieldStart_iff fun _ _ => secretKey_iff).mpr ⟨key, blanks, more, named, blank, blank', (shape ..)⟩
    · refine Option.bind_eq_some_iff.mpr ⟨rest, ?_, congrArg some (parts ..)⟩
      have all : ∀ c ∈ value, (decide (c ≠ Json.quote)) = true := by
        intro c member
        rw [decide_eq_true_eq]
        rintro rfl
        exact plain member
      rw [List.dropWhile_append_of_pos all]
      simp

/-! ## Places in a JSON text -/

/-- Where a place is: outside of strings, there behind a colon, in a string, or behind a backslash in one. -/
inductive Place where
  | outside
  | behindColon
  | inside
  | escaped
deriving DecidableEq

/-- What stands outside of strings, apart from blanks and colons. -/
def outsidePoints : Text := Json.scalarPoints ++ text "\x7b\x7d[],"

/-- The next place; nothing where a character does not stand outside of strings. -/
def Place.next : Place → CodePoint → Option Place
  | .inside, c => if c = Json.quote then some .outside else if c = Json.backslash then some .escaped else some .inside
  | .escaped, _ => some .inside
  | place, c =>
    if c = Json.quote then some .inside
    else if c = colon then some .behindColon
    else if isSpace c then some place
    else if c ∈ outsidePoints then some .outside
    else none

/-- The place behind a text. -/
def scan (place : Place) (t : Text) : Option Place := t.foldlM Place.next place

@[simp] theorem scan_nil (place : Place) : scan place [] = some place := rfl

theorem scan_cons (place : Place) (c : CodePoint) (t : Text) :
    scan place (c :: t) = (place.next c).bind fun place' => scan place' t := List.foldlM_cons

theorem scan_append (place : Place) (a b : Text) :
    scan place (a ++ b) = (scan place a).bind fun place' => scan place' b := List.foldlM_append

/-- A text without quotes does not leave a string. -/
theorem scan_inside {t : Text} (plain : Json.quote ∉ t) {place : Place} (within : place = .inside ∨ place = .escaped) :
    ∃ place', scan place t = some place' ∧ (place' = .inside ∨ place' = .escaped) := by
  induction t generalizing place with
  | nil => exact ⟨place, rfl, within⟩
  | cons c t ih =>
    rw [List.mem_cons, not_or] at plain
    rcases within with rfl | rfl
    · rw [scan_cons, Place.next, if_neg (Ne.symm plain.1)]
      split
      · exact ih plain.2 (.inr rfl)
      · exact ih plain.2 (.inl rfl)
    · exact ih plain.2 (.inl rfl)

/-- Blanks move no place outside. -/
theorem scan_spaces {blanks : Text} (blank : ∀ c ∈ blanks, isSpace c = true) {place : Place}
    (out : place = .outside ∨ place = .behindColon) : scan place blanks = some place := by
  induction blanks with
  | nil => rfl
  | cons c blanks ih =>
    have space := blank c List.mem_cons_self
    have notQuote : c ≠ Json.quote := by
      rintro rfl
      rw [isSpace_quote] at space
      cases space
    have notColon : c ≠ colon := by
      rintro rfl
      rw [isSpace_colon] at space
      cases space
    have stays : place.next c = some place := by
      rcases out with rfl | rfl <;> rw [Place.next, if_neg notQuote, if_neg notColon, if_pos space]
      all_goals simp
    rw [scan_cons, stays]
    exact ih fun d member => blank d (List.mem_cons_of_mem _ member)

theorem fold_space {c : CodePoint} (space : isSpace c = true) : fold c = c := by
  unfold isSpace at space
  unfold fold
  simp only [Bool.or_eq_true, Bool.and_eq_true, decide_eq_true_eq] at space
  split_ifs
  all_goals first | rfl | omega

/-- Each name has an underscore, a `p` or a `c`, and these do not stand outside of strings. -/
def foreignPoint (c : CodePoint) : Bool := c = 0x5F || c = 0x70 || c = 0x63

/-- Outside a string there is no foreign character. -/
theorem next_foreign {c : CodePoint} (isForeign : foreignPoint (fold c) = true) {place : Place}
    (out : place = .outside ∨ place = .behindColon) : place.next c = none := by
  have known : (outsidePoints.all fun d => !foreignPoint (fold d)) = true := by decide
  have notQuote : c ≠ Json.quote := by
    rintro rfl
    revert isForeign
    decide
  have notColon : c ≠ colon := by
    rintro rfl
    revert isForeign
    decide
  have notSpace : isSpace c ≠ true := by
    intro space
    rw [fold_space space] at isForeign
    simp only [foreignPoint, Bool.or_eq_true, decide_eq_true_eq] at isForeign
    rcases isForeign with (rfl | rfl) | rfl <;> revert space <;> decide
  have notKnown : c ∉ outsidePoints := by
    intro member
    have ordinary := List.all_eq_true.mp known c member
    rw [isForeign] at ordinary
    cases ordinary
  rcases out with rfl | rfl <;> rw [Place.next, if_neg notQuote, if_neg notColon, if_neg notSpace, if_neg notKnown]
  all_goals simp

/-- Only a quote opens a string. -/
theorem next_outside {c : CodePoint} (notQuote : c ≠ Json.quote) {place place' : Place}
    (out : place = .outside ∨ place = .behindColon) (step : place.next c = some place') :
    place' = .outside ∨ place' = .behindColon := by
  have cases_ : place.next c = if c = colon then some .behindColon else if isSpace c then some place
      else if c ∈ outsidePoints then some .outside else none := by
    rcases out with rfl | rfl <;> rw [Place.next, if_neg notQuote]
    all_goals simp
  rw [cases_] at step
  split_ifs at step
  · exact .inr (Option.some.inj step).symm
  · exact (Option.some.inj step) ▸ out
  · exact .inl (Option.some.inj step).symm

/-- No name can stand outside of strings. -/
theorem scan_secretName {k : Text} (named : IsSecretName k) {place : Place}
    (out : place = .outside ∨ place = .behindColon) : scan place k = none := by
  have foreign : ∀ name ∈ secretNames, (name.any fun c => foreignPoint c) = true := by decide
  have reaches (t : Text) (plain : Json.quote ∉ t) (some_ : ∃ d ∈ t, foreignPoint (fold d) = true) :
      ∀ place : Place, place = .outside ∨ place = .behindColon → scan place t = none := by
    induction t with
    | nil => simp at some_
    | cons c t ih =>
      intro place out
      rw [List.mem_cons, not_or] at plain
      rw [scan_cons]
      cases step : place.next c with
      | none => rfl
      | some place' =>
        refine ih plain.2 ?_ place' (next_outside (Ne.symm plain.1) out step)
        obtain ⟨d, member, isForeign⟩ := some_
        rcases List.mem_cons.mp member with rfl | later
        · rw [next_foreign isForeign out] at step
          cases step
        · exact ⟨d, later, isForeign⟩
  obtain ⟨c, member, isForeign⟩ := List.any_eq_true.mp (foreign _ named)
  obtain ⟨d, isIn, rfl⟩ := List.mem_map.mp member
  exact reaches k named.plain.1 ⟨d, isIn, isForeign⟩ place out

/-- A text without quotes and backslashes does not leave a string and ends in no escape. -/
theorem scan_unescaped {t : Text} (noQuote : Json.quote ∉ t) (noBackslash : Json.backslash ∉ t) :
    scan .inside t = some .inside := by
  induction t with
  | nil => rfl
  | cons c t ih =>
    rw [List.mem_cons, not_or] at noQuote noBackslash
    rw [scan_cons, Place.next, if_neg (Ne.symm noQuote.1), if_neg (Ne.symm noBackslash.1)]
    exact ih noQuote.2 noBackslash.2

theorem next_quote (place : Place) :
    place.next Json.quote = some (if place = .inside then .outside else .inside) := by
  cases place <;> rfl

/-- A name behind a quote ends inside of a string. -/
theorem scan_key {k : Text} (named : IsSecretName k) {place place' : Place}
    (ends : scan place (Json.quote :: k) = some place') : place' = .inside := by
  rw [scan_cons, next_quote, Option.bind_some] at ends
  split at ends
  · rw [scan_secretName named (.inl rfl)] at ends
    cases ends
  · rw [scan_unescaped named.plain.1 named.plain.2] at ends
    exact (Option.some.inj ends).symm

/-- A colon between blanks leads behind it. -/
theorem scan_colon {blanks more : Text} (blank : ∀ c ∈ blanks, isSpace c = true) (blank' : ∀ c ∈ more, isSpace c = true)
    {place : Place} (out : place = .outside ∨ place = .behindColon) :
    scan place (blanks ++ colon :: more) = some .behindColon := by
  rw [scan_append, scan_spaces blank out, Option.bind_some, scan_cons]
  have step : place.next colon = some .behindColon := by rcases out with rfl | rfl <;> rfl
  rw [step, Option.bind_some, scan_spaces blank' (.inr rfl)]

/-- A match does not reach into a text that follows a place outside of strings and not behind a colon. -/
theorem secretText_across {A C key blanks more value : Text} (some_ : A ≠ []) {place : Place}
    (ends : scan place A = some .outside) (named : IsSecretKey key) (blank : ∀ c ∈ blanks, isSpace c = true)
    (blank' : ∀ c ∈ more, isSpace c = true) (plain : Json.quote ∉ value) :
    secretText key blanks more value ≠ A ++ Json.quote :: C := by
  intro whole
  obtain ⟨k, named, rfl⟩ := named
  have shape : [] ++ Json.quote :: (k ++ Json.quote :: ((blanks ++ colon :: more) ++
      Json.quote :: (value ++ Json.quote :: []))) = A ++ Json.quote :: C := by
    rw [← whole]
    simp [secretText, fieldText]
  have noQuote : Json.quote ∉ blanks ++ colon :: more := by
    rw [List.mem_append, List.mem_cons]
    rintro (inside | inside | inside)
    · exact quote_not_mem_spaces blank inside
    · cases inside
    · exact quote_not_mem_spaces blank' inside
  rcases split_quote (by simp) shape with ⟨first, -⟩ | ⟨B₁, first, second⟩
  · exact some_ first
  rw [first, List.nil_append] at ends
  rcases split_quote named.plain.1 second with ⟨rfl, -⟩ | ⟨B₂, rfl, third⟩
  · cases scan_key named ends
  rw [← List.cons_append, scan_append] at ends
  obtain ⟨place₁, key, ends₁⟩ := Option.bind_eq_some_iff.mp ends
  obtain rfl := scan_key named key
  rw [scan_cons, next_quote, if_pos rfl, Option.bind_some] at ends₁
  rcases split_quote noQuote third with ⟨rfl, -⟩ | ⟨B₃, rfl, fourth⟩
  · rw [scan_colon blank blank' (.inl rfl)] at ends₁
    cases ends₁
  rw [scan_append, scan_colon blank blank' (.inl rfl), Option.bind_some, scan_cons, next_quote, if_neg (by decide),
    Option.bind_some] at ends₁
  rcases split_quote plain fourth with ⟨rfl, -⟩ | ⟨B₄, -, fifth⟩
  · obtain ⟨place₂, reached, within⟩ := scan_inside plain (.inl rfl)
    rw [reached] at ends₁
    obtain rfl := Option.some.inj ends₁
    rcases within with outside | outside <;> cases outside
  · simp at fifth

end EmsDnp3.Python
