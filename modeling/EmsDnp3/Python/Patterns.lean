import EmsDnp3.Base.Bytes
import EmsDnp3.Base.Substitute

/-!
# Parts of patterns

What the redaction patterns of `client.py` and `evidence.py` share: the classes of characters, and the start of a
JSON string field, `"key"`, blanks, a colon, blanks and a quote. A pattern is modelled by a function from the text
at a place to the text behind its match; none of these needs to go back.
-/

namespace EmsDnp3.Python

def colon : CodePoint := 0x3A

/-- `\s` in a `str` pattern, which is `str.isspace`. -/
def isSpace (c : CodePoint) : Bool :=
  (0x09 ≤ c.val && c.val ≤ 0x0D) || (0x1C ≤ c.val && c.val ≤ 0x20) || c.val = 0x85 || c.val = 0xA0 || c.val = 0x1680 ||
    (0x2000 ≤ c.val && c.val ≤ 0x200A) || c.val = 0x2028 || c.val = 0x2029 || c.val = 0x202F || c.val = 0x205F ||
    c.val = 0x3000

/-- `[0-9a-fA-F]` -/
def isHexDigit (c : CodePoint) : Bool := (hexValue? c).isSome

/-- `s` itself. -/
def literal (s : Text) (t : Text) : Option Text := t.dropPrefix? s

/-- `\s*` -/
def spaces (t : Text) : Text := t.dropWhile isSpace

/-- A quoted key, `\s*:\s*"`. -/
def fieldStart (key : Text → Option Text) (t : Text) : Option Text := do
  let t ← key t
  let t ← literal [colon] (spaces t)
  literal [Json.quote] (spaces t)

/-- The matched part of a text with this rest. -/
def consumed (t rest : Text) : Text := t.take (t.length - rest.length)

theorem consumed_append (front rest : Text) : consumed (front ++ rest) rest = front := by
  rw [consumed, List.length_append, Nat.add_sub_cancel, List.take_left]

@[simp] theorem literal_iff {s t rest : Text} : literal s t = some rest ↔ t = s ++ rest := by
  simp [literal, List.dropPrefix?_eq_some_iff]

/-- The text of a field up to its value. -/
def fieldText (key : Text) (blanks more : Text) : Text := key ++ (blanks ++ colon :: (more ++ [Json.quote]))

theorem spaces_append {blanks : Text} (blank : ∀ c ∈ blanks, isSpace c = true) {c : CodePoint} (ink : isSpace c = false)
    (rest : Text) : spaces (blanks ++ c :: rest) = c :: rest := by
  rw [spaces, List.dropWhile_append_of_pos blank, List.dropWhile_cons, ink]
  rfl

theorem isSpace_colon : isSpace colon = false := by decide

theorem isSpace_quote : isSpace Json.quote = false := by decide

theorem quote_not_mem_spaces {blanks : Text} (blank : ∀ c ∈ blanks, isSpace c = true) : Json.quote ∉ blanks := by
  intro inside
  have space := blank _ inside
  rw [isSpace_quote] at space
  cases space

/-- A match of `fieldStart` is a key, blanks, a colon, blanks and a quote. -/
theorem fieldStart_iff {key : Text → Option Text} {Key : Text → Prop}
    (isKey : ∀ t rest, key t = some rest ↔ ∃ k, Key k ∧ t = k ++ rest) {t rest : Text} :
    fieldStart key t = some rest ↔ ∃ k blanks more, Key k ∧ (∀ c ∈ blanks, isSpace c = true) ∧
      (∀ c ∈ more, isSpace c = true) ∧ t = fieldText k blanks more ++ rest := by
  unfold fieldStart fieldText
  constructor
  · intro found
    obtain ⟨t₁, first, found⟩ := Option.bind_eq_some_iff.mp found
    obtain ⟨t₂, second, third⟩ := Option.bind_eq_some_iff.mp found
    obtain ⟨k, named, rfl⟩ := (isKey _ _).mp first
    rw [literal_iff] at second third
    refine ⟨k, t₁.takeWhile isSpace, t₂.takeWhile isSpace, named, ?_, ?_, ?_⟩
    · exact fun c inside => List.mem_takeWhile_imp inside
    · exact fun c inside => List.mem_takeWhile_imp inside
    · have one := List.takeWhile_append_dropWhile (p := isSpace) (l := t₁)
      have two := List.takeWhile_append_dropWhile (p := isSpace) (l := t₂)
      rw [← spaces, second] at one
      rw [← spaces, third] at two
      simp only [List.append_assoc, List.cons_append, List.nil_append] at one two ⊢
      rw [two, one]
  · rintro ⟨k, blanks, more, named, blank, blank', rfl⟩
    have first : key (k ++ (blanks ++ colon :: (more ++ [Json.quote])) ++ rest) =
        some (blanks ++ colon :: (more ++ Json.quote :: rest)) := (isKey _ _).mpr ⟨k, named, by simp⟩
    refine Option.bind_eq_some_iff.mpr ⟨_, first, ?_⟩
    rw [spaces_append blank isSpace_colon]
    refine Option.bind_eq_some_iff.mpr ⟨more ++ Json.quote :: rest, literal_iff.mpr rfl, ?_⟩
    rw [spaces_append blank' isSpace_quote]
    exact literal_iff.mpr rfl

/-- A part before a quote, in a text that has its first quote behind `X`. -/
theorem split_quote {X Y A C : Text} (plain : Json.quote ∉ X) (same : X ++ Json.quote :: Y = A ++ Json.quote :: C) :
    (A = X ∧ C = Y) ∨ ∃ B, A = X ++ Json.quote :: B ∧ Y = B ++ Json.quote :: C := by
  rcases List.append_eq_append_iff.mp same with ⟨B, rfl, rest⟩ | ⟨B, rfl, rest⟩
  · cases B with
    | nil =>
      left
      simpa using rest.symm
    | cons c B =>
      obtain ⟨rfl, tail⟩ := List.cons.inj rest
      exact .inr ⟨B, rfl, tail⟩
  · cases B with
    | nil =>
      left
      simpa using rest
    | cons c B =>
      obtain ⟨rfl, -⟩ := List.cons.inj rest
      simp at plain

end EmsDnp3.Python
