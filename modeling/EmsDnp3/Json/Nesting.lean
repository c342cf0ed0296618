import EmsDnp3.Json.Grammar

/-!
# Counting brackets

A scanner that follows a text without parsing it: it tells the inside of string literals from the outside, counts the
brackets outside and stops where more are open than it allows. What it makes of a closing bracket without an open one
is up to it. On a JSON text it finds the depth of the grammar.
-/

namespace EmsDnp3.Json

/-- Where the scanner is. -/
inductive ScanMode where
  | outside
  | quoted
  | escaped
deriving DecidableEq, Repr

def isOpening (c : CodePoint) : Bool := c = point '\x7b' || c = point '['

def isClosing (c : CodePoint) : Bool := c = point '\x7d' || c = point ']'

/-- More than `maximum` brackets are open at once. -/
def nestsBeyond (close : Int → Int) (maximum : Int) : ScanMode → Int → Text → Bool
  | _, _, [] => false
  | .escaped, depth, _ :: rest => nestsBeyond close maximum .quoted depth rest
  | .quoted, depth, c :: rest =>
    if c = point '\\' then nestsBeyond close maximum .escaped depth rest
    else if c = point '"' then nestsBeyond close maximum .outside depth rest
    else nestsBeyond close maximum .quoted depth rest
  | .outside, depth, c :: rest =>
    if c = point '"' then nestsBeyond close maximum .quoted depth rest
    else if isOpening c then decide (maximum < depth + 1) || nestsBeyond close maximum .outside (depth + 1) rest
    else if isClosing c then nestsBeyond close maximum .outside (close depth) rest
    else nestsBeyond close maximum .outside depth rest

section
variable {close : Int → Int} {maximum depth : Int}

/-- A character that is no structure. -/
def IsFiller (c : CodePoint) : Prop := c ≠ point '"' ∧ isOpening c = false ∧ isClosing c = false

/-- What is neither a quote nor a bracket is passed over. -/
theorem nests_filler {t : Text} (fills : ∀ c ∈ t, IsFiller c) (rest : Text) :
    nestsBeyond close maximum .outside depth (t ++ rest) = nestsBeyond close maximum .outside depth rest := by
  induction t with
  | nil => rfl
  | cons c t ih =>
    obtain ⟨notQuote, notOpening, notClosing⟩ := fills c List.mem_cons_self
    rw [List.cons_append, nestsBeyond, if_neg notQuote, if_neg (by simp [notOpening]), if_neg (by simp [notClosing])]
    exact ih fun d mem => fills d (List.mem_cons_of_mem _ mem)

/-! ## Fillers -/

/-- Other characters are fillers, given by their numbers. -/
theorem isFiller_of_val {c : CodePoint} (known : c.val ≠ 0x22 ∧ c.val ≠ 0x5B ∧ c.val ≠ 0x5D ∧ c.val ≠ 0x7B ∧ c.val ≠ 0x7D) :
    IsFiller c := by
  have apart {d : CodePoint} (differs : c.val ≠ d.val) : c ≠ d := fun same => differs (congrArg Fin.val same)
  obtain ⟨quote, bracket, closeBracket, brace, closeBrace⟩ := known
  refine ⟨apart quote, ?_, ?_⟩
  · simpa [isOpening] using ⟨apart brace, apart bracket⟩
  · simpa [isClosing] using ⟨apart closeBrace, apart closeBracket⟩

theorem isBlank_filler {c : CodePoint} (blank : isBlank c = true) : IsFiller c := by
  unfold isBlank at blank
  simp only [Bool.or_eq_true, decide_eq_true_eq] at blank
  obtain ((rfl | rfl) | rfl) | rfl := blank <;> exact isFiller_of_val (by decide)

theorem isDigit_filler {c : CodePoint} (digit : Grammar.IsDigit c) : IsFiller c := by
  unfold Grammar.IsDigit digitValue? at digit
  split at digit
  · next bounds => exact isFiller_of_val (by omega)
  · cases digit

/-- The three words are passed over. -/
theorem word_filler {t : Text} (known : t ∈ ["null", "true", "false"].map text) : ∀ c ∈ t, IsFiller c := by
  have letters : ∀ t ∈ ["null", "true", "false"].map text, (t.all fun c => 0x61 ≤ c.val && c.val ≤ 0x7A) = true := by
    decide
  intro c mem
  have letter := List.all_eq_true.mp (letters t known) c mem
  simp only [Bool.and_eq_true, decide_eq_true_eq] at letter
  exact isFiller_of_val (by omega)

theorem whole_filler {t : Text} (isWhole : Grammar.IsWhole t) : ∀ c ∈ t, IsFiller c := by
  cases isWhole with
  | zero => exact List.forall_mem_singleton.mpr (isFiller_of_val (by decide))
  | digits first _ others =>
    exact List.forall_mem_cons.mpr ⟨isDigit_filler first, fun d mem => isDigit_filler (others d mem)⟩

theorem fraction_filler {t : Text} (isFraction : Grammar.IsFraction t) : ∀ c ∈ t, IsFiller c := by
  cases isFraction with
  | absent => nofun
  | digits digits =>
    exact List.forall_mem_cons.mpr ⟨isFiller_of_val (by decide), fun d mem => isDigit_filler (digits.2 d mem)⟩

/-- An exponent is passed over. -/
theorem exponent_filler {t : Text} (isExponent : Grammar.IsExponent t) : ∀ c ∈ t, IsFiller c := by
  cases isExponent with
  | absent => nofun
  | digits letter signed digits =>
    refine List.forall_mem_cons.mpr ⟨?_, List.forall_mem_append.mpr ⟨?_, fun d mem => isDigit_filler (digits.2 d mem)⟩⟩
    · obtain rfl | rfl := letter <;> exact isFiller_of_val (by decide)
    · intro c mem
      obtain rfl | rfl | rfl := signed
      · cases mem
      · rw [List.mem_singleton.mp mem]
        exact isFiller_of_val (by decide)
      · rw [List.mem_singleton.mp mem]
        exact isFiller_of_val (by decide)

/-- A number is passed over. -/
theorem number_filler {t : Text} (isNumber : Grammar.IsNumber t) : ∀ c ∈ t, IsFiller c := by
  obtain ⟨signed, isWhole, isFraction, isExponent⟩ := isNumber
  refine List.forall_mem_append.mpr ⟨?_, List.forall_mem_append.mpr ⟨whole_filler isWhole,
    List.forall_mem_append.mpr ⟨fraction_filler isFraction, exponent_filler isExponent⟩⟩⟩
  intro c mem
  obtain rfl | rfl := signed
  · cases mem
  · rw [List.mem_singleton.mp mem]
    exact isFiller_of_val (by decide)

/-! ## Strings -/

/-- Inside a string everything but a quote and a backslash is passed over. -/
theorem nests_plain {t : Text} (plain : ∀ c ∈ t, c ≠ point '"' ∧ c ≠ point '\\') (rest : Text) :
    nestsBeyond close maximum .quoted depth (t ++ rest) = nestsBeyond close maximum .quoted depth rest := by
  induction t with
  | nil => rfl
  | cons c t ih =>
    obtain ⟨notQuote, notBackslash⟩ := plain c List.mem_cons_self
    rw [List.cons_append, nestsBeyond, if_neg notBackslash, if_neg notQuote]
    exact ih fun d mem => plain d (List.mem_cons_of_mem _ mem)

/-- After an escape the scanner is where it was, whatever the escape hides. -/
theorem nests_chars {t : Text} (chars : Grammar.IsChars t) (rest : Text) :
    nestsBeyond close maximum .quoted depth (t ++ rest) = nestsBeyond close maximum .quoted depth rest := by
  induction chars with
  | nil => rfl
  | unescaped notQuote notBackslash _ _ ih =>
    rw [List.cons_append, nestsBeyond, if_neg notBackslash, if_neg notQuote, ih]
  | escape _ _ ih => rw [List.cons_append, List.cons_append, nestsBeyond, if_pos rfl, nestsBeyond, ih]
  | @unicode digits _ _ hex _ ih =>
    have plain : ∀ c ∈ digits, c ≠ point '"' ∧ c ≠ point '\\' := by
      intro c mem
      have digit := hex c mem
      constructor
      · rintro rfl
        cases digit
      · rintro rfl
        cases digit
    rw [List.cons_append, List.cons_append, nestsBeyond, if_pos rfl, nestsBeyond, List.append_assoc, nests_plain plain, ih]

/-- A string is passed over, whatever brackets it holds. -/
theorem nests_string {t : Text} (isString : Grammar.IsString t) (rest : Text) :
    nestsBeyond close maximum .outside depth (t ++ rest) = nestsBeyond close maximum .outside depth rest := by
  obtain ⟨chars, isChars, rfl⟩ := isString
  rw [List.cons_append, nestsBeyond, if_pos rfl, List.append_assoc, nests_chars isChars, List.singleton_append, nestsBeyond,
    if_neg (by decide), if_pos rfl]

/-! ## Values -/

/-- The brackets of a container around what is `d` deep. -/
theorem nests_container (law : ∀ k, 0 ≤ k → close (k + 1) = k) {opening closing : CodePoint} {t : Text} {d : Nat}
    (opens : opening ≠ point '"' ∧ isOpening opening = true)
    (closes : closing ≠ point '"' ∧ isOpening closing = false ∧ isClosing closing = true) (low : 0 ≤ depth)
    (contents : depth + 1 ≤ maximum → ∀ rest, nestsBeyond close maximum .outside (depth + 1) (t ++ rest) =
      (decide (maximum < depth + 1 + d) || nestsBeyond close maximum .outside (depth + 1) rest)) (rest : Text) :
    nestsBeyond close maximum .outside depth (opening :: (t ++ [closing]) ++ rest) =
      (decide (maximum < depth + (d + 1 : Nat)) || nestsBeyond close maximum .outside depth rest) := by
  rw [List.cons_append, List.append_assoc, List.singleton_append, nestsBeyond, if_neg opens.1, if_pos opens.2]
  by_cases full : maximum < depth + 1
  · rw [decide_eq_true full, decide_eq_true (by push_cast; omega)]
    rfl
  · rw [decide_eq_false full, Bool.false_or, contents (by omega), nestsBeyond, if_neg closes.1,
      if_neg (by simp [closes.2.1]), if_pos closes.2.2, law depth low]
    congr 2
    push_cast
    exact propext (by omega)

/-- The deeper of two parts. -/
theorem decide_lt_max (first second : Nat) (other : Bool) :
    (decide (maximum < depth + first) || (decide (maximum < depth + second) || other)) =
      (decide (maximum < depth + (max first second : Nat)) || other) := by
  rw [← Bool.or_assoc, ← Bool.decide_or]
  congr 2
  push_cast
  exact propext (by omega)

/-- What is derived is skipped, unless it is too deep. -/
theorem nests_derives (law : ∀ k, 0 ≤ k → close (k + 1) = k) {kind : Grammar.Kind} {t : Text} {d : Nat}
    (derived : Grammar.Derives kind t d) (low : 0 ≤ depth) (high : depth ≤ maximum) (rest : Text) :
    nestsBeyond close maximum .outside depth (t ++ rest) =
      (decide (maximum < depth + d) || nestsBeyond close maximum .outside depth rest) := by
  have flat : decide (maximum < depth + (0 : Nat)) = false := decide_eq_false (by push_cast; omega)
  have comma : IsFiller (point ',') := isFiller_of_val (by decide)
  have colon : IsFiller (point ':') := isFiller_of_val (by decide)
  induction derived generalizing depth rest with
  | word known => rw [nests_filler (word_filler known), flat, Bool.false_or]
  | number isNumber => rw [nests_filler (number_filler isNumber), flat, Bool.false_or]
  | string isString => rw [nests_string isString, flat, Bool.false_or]
  | emptyArray isBlanks =>
    refine nests_container law (d := 0) (by decide) (by decide) low (fun fits rest => ?_) rest
    rw [nests_filler fun c mem => isBlank_filler (isBlanks c mem), decide_eq_false (by push_cast; omega), Bool.false_or]
  | emptyObject isBlanks =>
    refine nests_container law (d := 0) (by decide) (by decide) low (fun fits rest => ?_) rest
    rw [nests_filler fun c mem => isBlank_filler (isBlanks c mem), decide_eq_false (by push_cast; omega), Bool.false_or]
  | array _ ih =>
    exact nests_container law (by decide) (by decide) low
      (fun fits rest => ih (by omega) fits rest (decide_eq_false (by push_cast; omega))) rest
  | object _ ih =>
    exact nests_container law (by decide) (by decide) low
      (fun fits rest => ih (by omega) fits rest (decide_eq_false (by push_cast; omega))) rest
  | element isBefore _ isAfter ih =>
    rw [List.append_assoc, nests_filler fun c mem => isBlank_filler (isBefore c mem), List.append_assoc, ih low high _ flat,
      nests_filler fun c mem => isBlank_filler (isAfter c mem)]
  | lastElement _ ih => exact ih low high rest flat
  | elements _ _ first others =>
    rw [List.append_assoc, first low high _ flat, List.cons_append, ← List.singleton_append,
      nests_filler (List.forall_mem_singleton.mpr comma), others low high _ flat, decide_lt_max]
  | lastMember isBefore isKey isAfter _ ih =>
    rw [List.append_assoc, nests_filler fun c mem => isBlank_filler (isBefore c mem), List.append_assoc, nests_string isKey,
      List.append_assoc, nests_filler fun c mem => isBlank_filler (isAfter c mem), List.cons_append,
      ← List.singleton_append, nests_filler (List.forall_mem_singleton.mpr colon), ih low high _ flat]
  | members isBefore isKey isAfter _ _ first others =>
    rw [List.append_assoc, nests_filler fun c mem => isBlank_filler (isBefore c mem), List.append_assoc, nests_string isKey,
      List.append_assoc, nests_filler fun c mem => isBlank_filler (isAfter c mem), List.cons_append,
      ← List.singleton_append, nests_filler (List.forall_mem_singleton.mpr colon), List.append_assoc,
      first low high _ flat, List.cons_append, ← List.singleton_append,
      nests_filler (List.forall_mem_singleton.mpr comma), others low high _ flat, decide_lt_max]

/-- On a JSON text the scanner finds the depth of the grammar. -/
theorem nests_text (law : ∀ k, 0 ≤ k → close (k + 1) = k) {t : Text} {d : Nat} (json : Grammar.IsText t d) (maximum : Nat) :
    nestsBeyond close maximum .outside 0 t = decide (maximum < d) := by
  have all := nests_derives law json (le_refl 0) (Int.natCast_nonneg maximum) []
  rw [List.append_nil, nestsBeyond, Bool.or_false, zero_add] at all
  simpa using all

end

end EmsDnp3.Json
