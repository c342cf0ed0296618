import EmsDnp3.Python.TailBuffer

/-!
# What the diagnostic tail shows of a token

The tail is cut at a byte and then redacted. A token field that is whole in the tail is redacted, whatever stands
around it: no match that begins before it can reach into it, since it follows a brace, a comma or a blank. A field
whose key has lost its opening quote is not recognised, and the digits that are left of its token are shown.
-/

namespace EmsDnp3.Python

/-! ## The pattern -/

/-- Thirty-two hexadecimal digits. -/
def IsTokenText (digits : Text) : Prop := digits.length = 32 ∧ ∀ c ∈ digits, isHexDigit c = true

/-- The matched part of a token field. -/
def tokenText (blanks more digits : Text) : Text := fieldText tokenKey blanks more ++ (digits ++ [Json.quote])

/-- What replaces it. -/
def redactedField (blanks more : Text) : Text := fieldText tokenKey blanks more ++ text "<redacted>" ++ [Json.quote]

/-- A token field: blanks, a colon and the digits in quotes. -/
theorem tokenField?_iff {t value rest : Text} : tokenField? t = some (value, rest) ↔
    ∃ blanks more digits, (∀ c ∈ blanks, isSpace c = true) ∧ (∀ c ∈ more, isSpace c = true) ∧ IsTokenText digits ∧
      t = fieldText tokenKey blanks more ++ value ∧ value = digits ++ Json.quote :: rest := by
  have isKey (t rest : Text) : literal tokenKey t = some rest ↔ ∃ k, k = tokenKey ∧ t = k ++ rest := by simp
  unfold tokenField?
  constructor
  · intro found
    obtain ⟨value', start, inside⟩ := Option.bind_eq_some_iff.mp found
    obtain ⟨k, blanks, more, rfl, blank, blank', rfl⟩ := (fieldStart_iff isKey).mp start
    split at inside
    · next token =>
      obtain ⟨rest', close, result⟩ := Option.bind_eq_some_iff.mp inside
      rw [literal_iff] at close
      obtain ⟨rfl, rfl⟩ := Prod.mk.inj (Option.some.inj result)
      simp only [Bool.and_eq_true, decide_eq_true_eq, List.all_eq_true] at token
      refine ⟨blanks, more, value'.take 32, blank, blank', token, rfl, ?_⟩
      have split := List.take_append_drop 32 value'
      rw [close] at split
      exact split.symm
    · cases inside
  · rintro ⟨blanks, more, digits, blank, blank', ⟨length, hex⟩, rfl, rfl⟩
    have start : fieldStart (literal tokenKey) (fieldText tokenKey blanks more ++ (digits ++ Json.quote :: rest)) =
        some (digits ++ Json.quote :: rest) :=
      (fieldStart_iff isKey).mpr ⟨tokenKey, blanks, more, rfl, blank, blank', rfl⟩
    refine Option.bind_eq_some_iff.mpr ⟨_, start, ?_⟩
    have front : (digits ++ Json.quote :: rest).take 32 = digits := by
      rw [← length]
      exact List.take_left
    have back : (digits ++ Json.quote :: rest).drop 32 = Json.quote :: rest := by
      rw [← length]
      exact List.drop_left
    rw [front, back, if_pos (by simpa [length] using hex)]
    exact Option.bind_eq_some_iff.mpr ⟨rest, literal_iff.mpr rfl, rfl⟩

/-- A token field as far as it is matched, and what replaces it. -/
def TokenMatch (matched replacement : Text) : Prop :=
  ∃ blanks more digits, (∀ c ∈ blanks, isSpace c = true) ∧ (∀ c ∈ more, isSpace c = true) ∧ IsTokenText digits ∧
    matched = tokenText blanks more digits ∧ replacement = redactedField blanks more

/-- The pattern matches exactly its matches. -/
theorem pattern_recognises : Recognises diagnosticTokenPattern TokenMatch := by
  have shape (blanks more digits rest : Text) : fieldText tokenKey blanks more ++ (digits ++ Json.quote :: rest) =
      tokenText blanks more digits ++ rest := by simp [tokenText]
  have parts (blanks more digits rest : Text) :
      ((tokenText blanks more digits ++ rest).length - rest.length,
        consumed (tokenText blanks more digits ++ rest) (digits ++ Json.quote :: rest) ++ text "<redacted>" ++
          [Json.quote]) =
      ((tokenText blanks more digits).length, redactedField blanks more) := by
    rw [List.length_append, Nat.add_sub_cancel, ← shape, consumed_append]
    rfl
  intro before t n replacement
  unfold diagnosticTokenPattern
  constructor
  · intro found
    obtain ⟨⟨value, rest⟩, field, found⟩ := Option.bind_eq_some_iff.mp found
    obtain ⟨blanks, more, digits, blank, blank', token, rfl, rfl⟩ := tokenField?_iff.mp field
    rw [shape] at found
    obtain ⟨rfl, rfl⟩ := Prod.mk.inj ((parts blanks more digits rest).symm.trans (Option.some.inj found))
    exact ⟨_, rest, ⟨blanks, more, digits, blank, blank', token, rfl, rfl⟩, shape .., rfl⟩
  · rintro ⟨_, rest, ⟨blanks, more, digits, blank, blank', token, rfl, rfl⟩, rfl, rfl⟩
    refine Option.bind_eq_some_iff.mpr ⟨(digits ++ Json.quote :: rest, rest), ?_, ?_⟩
    · exact tokenField?_iff.mpr ⟨blanks, more, digits, blank, blank', token, (shape ..).symm, rfl⟩
    · exact congrArg some (parts blanks more digits rest)

/-- A character that is never followed by a later quote of a match: a key ends in `n`, a token in a digit. -/
def Delimits (c : CodePoint) : Prop := c ≠ .ofNat 0x6E ∧ isHexDigit c = false

theorem quote_not_mem_token {digits : Text} (token : IsTokenText digits) : Json.quote ∉ digits := by
  intro inside
  have hex := token.2 _ inside
  revert hex
  decide

/-- A match that goes across the seam would have its second, third or fourth quote there. -/
theorem tokenText_across {A C blanks more digits : Text} (some_ : A ≠ []) (ends : ∀ c, [c] <:+ A → Delimits c)
    (next : ∀ c ∈ C.head?, isHexDigit c = false) (blank : ∀ c ∈ blanks, isSpace c = true)
    (blank' : ∀ c ∈ more, isSpace c = true) (token : IsTokenText digits) :
    tokenText blanks more digits ≠ A ++ Json.quote :: C := by
  intro whole
  have shape : [] ++ Json.quote :: (text "safety_token" ++ Json.quote :: ((blanks ++ colon :: more) ++
      Json.quote :: (digits ++ Json.quote :: []))) = A ++ Json.quote :: C := by
    rw [← whole]
    simp [tokenText, fieldText, tokenKey]
  have plain : Json.quote ∉ blanks ++ colon :: more := by
    rw [List.mem_append, List.mem_cons]
    rintro (inside | inside | inside)
    · exact quote_not_mem_spaces blank inside
    · cases inside
    · exact quote_not_mem_spaces blank' inside
  have count := token.1
  have hex := token.2
  rcases split_quote (by simp) shape with ⟨first, -⟩ | ⟨B₁, first, second⟩
  · exact some_ first
  rcases split_quote (by decide) second with ⟨key, -⟩ | ⟨B₂, rfl, third⟩
  · have last : [.ofNat 0x6E] <:+ A := by
      rw [first, key]
      decide
    exact (ends _ last).1 rfl
  rcases split_quote plain third with ⟨-, opened⟩ | ⟨B₃, rfl, fourth⟩
  · cases digits with
    | nil => cases count
    | cons d digits =>
      have digit := next d (by rw [opened]; rfl)
      rw [hex d List.mem_cons_self] at digit
      cases digit
  rcases split_quote (quote_not_mem_token token) fourth with ⟨rfl, -⟩ | ⟨B₄, -, fifth⟩
  · rcases List.eq_nil_or_concat B₃ with rfl | ⟨front, d, rfl⟩
    · cases count
    · have last : [d] <:+ A := by
        rw [first]
        exact ⟨Json.quote :: (text "safety_token" ++ Json.quote :: (blanks ++ colon :: more ++ Json.quote :: front)),
          by simp⟩
      have digit := (ends _ last).2
      rw [hex d (by simp)] at digit
      cases digit
  · simp at fifth

/-- The redaction of `text`. -/
def redactTail (t : Text) : Text := substitute diagnosticTokenPattern 0 none t

/-- A token field behind a delimiter is redacted, whatever stands before it. -/
theorem redactTail_field {A blanks more digits : Text} (ends : ∀ c, [c] <:+ A → Delimits c)
    (blank : ∀ c ∈ blanks, isSpace c = true) (blank' : ∀ c ∈ more, isSpace c = true) (token : IsTokenText digits)
    (R : Text) :
    redactTail (A ++ (tokenText blanks more digits ++ R)) =
      redactTail A ++ (redactedField blanks more ++ redactTail R) := by
  have begins : ∃ l, tokenText blanks more digits = Json.quote :: .ofNat 0x73 :: l := ⟨_, rfl⟩
  obtain ⟨l, begins⟩ := begins
  have matched : TokenMatch (Json.quote :: .ofNat 0x73 :: l) (redactedField blanks more) :=
    ⟨blanks, more, digits, blank, blank', token, begins.symm, rfl⟩
  rw [begins]
  refine pattern_recognises.substitute_append matched ?_ none
  rintro A' suffix some_ _ _ C ⟨blanks', more', digits', space, space', token', rfl, rfl⟩ inside
  refine tokenText_across some_ (fun c last => ends c (last.trans suffix)) ?_ space space' token'
  intro c head
  cases C with
  | nil => cases head
  | cons c' C =>
    obtain ⟨rest, same⟩ := inside
    obtain ⟨rfl, -⟩ := List.cons.inj same
    obtain rfl := Option.some.inj head
    decide

/-- Behind its first character a text with no `s` has no key in it. -/
theorem redactTail_inert {c : CodePoint} {u : Text} (plain : .ofNat 0x73 ∉ u) (Y : Text) :
    redactTail (c :: u ++ Json.quote :: Y) = c :: u ++ redactTail (Json.quote :: Y) := by
  rw [redactTail, substitute_inert, substitute_before pattern_recognises.free none, ← redactTail]
  intro before A' suffix some_
  refine Option.eq_none_iff_forall_ne_some.mpr fun ⟨n, replacement⟩ found => ?_
  obtain ⟨_, rest, ⟨blanks, more, digits, -, -, -, rfl, -⟩, same, -⟩ := (pattern_recognises ..).mp found
  have key : ∃ more, A' ++ Json.quote :: Y = Json.quote :: .ofNat 0x73 :: more := ⟨_, same⟩
  obtain ⟨more, key⟩ := key
  cases A' with
  | nil => exact some_ rfl
  | cons a A' =>
    have seam := (List.cons.inj key).2
    cases A' with
    | nil => cases (List.cons.inj seam).1
    | cons b A' =>
      obtain ⟨rfl, -⟩ := List.cons.inj seam
      apply plain
      rcases List.suffix_cons_iff.mp suffix with whole | part
      · rw [← (List.cons.inj whole).2]
        exact List.mem_cons_self
      · exact part.subset (List.mem_cons_of_mem _ List.mem_cons_self)

end EmsDnp3.Python
