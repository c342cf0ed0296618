import EmsDnp3.Json.Derived
import EmsDnp3.Native.JsonLineProtocol
import EmsDnp3.Python.JsonDepth

/-!
# Two depth checks

The host scans the bytes of a request, the client the text of a response. Bytes of a longer UTF-8 sequence are no
structure, so both are the scanner of `Json.Nesting`, and on a JSON text both find the depth of the grammar.
-/

namespace EmsDnp3

namespace DepthAgreement

open Json Native Python

/-- A bracket that closes nothing is ignored. -/
def closeAtMost (depth : Int) : Int := if 0 < depth then depth - 1 else depth

/-- The flags of the host for a place; outside of a string nothing reads the second one. -/
def inString : ScanMode → Bool
  | .outside => false
  | _ => true

/-- The scanner stands behind a backslash. -/
def isEscaped : ScanMode → Bool
  | .escaped => true
  | _ => false

variable {maximum depth : Nat}

/-- A byte outside of ASCII is no structure. -/
theorem depthExceeded_high {b : Byte} (high : 0x80 ≤ b.val) (quoted escaped : Bool) (rest : List Byte) :
    depthExceeded maximum quoted escaped depth (b :: rest) =
      depthExceeded maximum quoted (escaped && !quoted) depth rest := by
  have apart (n : Byte) (low : n.val < 0x80) : b ≠ n := by
    rintro rfl
    omega
  cases quoted with
  | true =>
    cases escaped with
    | true => rw [depthExceeded]; rfl
    | false => rw [depthExceeded, if_neg (apart _ (by decide)), decide_eq_true (apart _ (by decide))]; rfl
  | false =>
    rw [depthExceeded, if_neg (apart _ (by decide)), if_neg, if_neg, Bool.not_false, Bool.and_true]
    · rintro ⟨bracket, -⟩
      exact bracket.elim (apart _ (by decide)) (apart _ (by decide))
    · exact fun bracket => bracket.elim (apart _ (by decide)) (apart _ (by decide))

/-- The bytes of a longer sequence. -/
theorem depthExceeded_sequence {bytes : List Byte} (high : ∀ b ∈ bytes, 0x80 ≤ b.val) {quoted escaped : Bool}
    (settled : (escaped && !quoted) = escaped) (rest : List Byte) :
    depthExceeded maximum quoted escaped depth (bytes ++ rest) = depthExceeded maximum quoted escaped depth rest := by
  induction bytes with
  | nil => rfl
  | cons b bytes ih =>
    rw [List.cons_append, depthExceeded_high (high b List.mem_cons_self), settled]
    exact ih fun c mem => high c (List.mem_cons_of_mem _ mem)

/-- A point beyond ASCII is written with high octets only, so it never looks like a bracket. -/
theorem encodePoint_high {c : CodePoint} {bytes : List Byte} (encodes : Utf8.encodePoint c = some bytes)
    (high : 0x80 ≤ c.val) : ∃ b more, bytes = b :: more ∧ ∀ x ∈ b :: more, 0x80 ≤ x.val := by
  have bound := c.isLt
  unfold Utf8.encodePoint at encodes
  split at encodes
  · cases encodes
  split at encodes
  · omega
  split at encodes
  · obtain rfl := Option.some.inj encodes
    refine ⟨_, _, rfl, ?_⟩
    simp only [List.forall_mem_cons, List.not_mem_nil, false_implies, implies_true, and_true, Byte.ofNat]
    omega
  split at encodes
  · obtain rfl := Option.some.inj encodes
    refine ⟨_, _, rfl, ?_⟩
    simp only [List.forall_mem_cons, List.not_mem_nil, false_implies, implies_true, and_true, Byte.ofNat]
    omega
  · obtain rfl := Option.some.inj encodes
    refine ⟨_, _, rfl, ?_⟩
    simp only [List.forall_mem_cons, List.not_mem_nil, false_implies, implies_true, and_true, Byte.ofNat]
    omega

/-- An ASCII character is its byte. -/
theorem ofNat_eq_iff {c d : CodePoint} {b : Byte} (ascii : c.val < 0x80) (same : b.val = d.val) :
    Byte.ofNat c.val = b ↔ c = d := by
  rw [Fin.ext_iff, Fin.ext_iff, ← same]
  change c.val % 256 = b.val ↔ c.val = b.val
  rw [Nat.mod_eq_of_lt (by omega)]

/-- One ASCII character, whose byte the host compares where the scanner compares the character. -/
theorem depthExceeded_ascii {c : CodePoint} {b : Byte} {t : Text} {bytes : List Byte}
    (backslash : b = 0x5C ↔ c = point '\\') (quote : b = 0x22 ↔ c = point '"')
    (opening : (b = 0x7B ∨ b = 0x5B) ↔ isOpening c = true) (closing : (b = 0x7D ∨ b = 0x5D) ↔ isClosing c = true)
    (rest : ∀ place (depth : Nat), depthExceeded maximum (inString place) (isEscaped place) depth bytes =
      nestsBeyond closeAtMost maximum place depth t) (place : ScanMode) (depth : Nat) :
    depthExceeded maximum (inString place) (isEscaped place) depth (b :: bytes) =
      nestsBeyond closeAtMost maximum place depth (c :: t) := by
  cases place with
  | escaped =>
    rw [nestsBeyond]
    exact rest .quoted depth
  | quoted =>
    change depthExceeded maximum true false depth (b :: bytes) = _
    rw [nestsBeyond, depthExceeded]
    simp only [backslash]
    split
    · exact rest .escaped depth
    split
    · next isQuote =>
      rw [decide_eq_false (not_not.mpr (quote.mpr isQuote))]
      exact rest .outside depth
    · next notQuote =>
      have other : b ≠ 0x22 := fun isQuote => notQuote (quote.mp isQuote)
      rw [decide_eq_true other]
      exact rest .quoted depth
  | outside =>
    change depthExceeded maximum false false depth (b :: bytes) = _
    rw [nestsBeyond, depthExceeded]
    simp only [quote, opening, closing]
    split
    · exact rest .quoted depth
    split
    · by_cases full : maximum < depth + 1
      · rw [if_pos full, decide_eq_true (by omega), Bool.true_or]
      · rw [if_neg full, decide_eq_false (by omega), Bool.false_or]
        exact rest .outside (depth + 1)
    by_cases isClosed : isClosing c = true
    · rw [if_pos isClosed]
      by_cases some_ : 0 < depth
      · have less : closeAtMost depth = ((depth - 1 : Nat) : Int) := by
          rw [closeAtMost, if_pos (by omega)]
          omega
        rw [if_pos ⟨isClosed, some_⟩, less]
        exact rest .outside (depth - 1)
      · have same : closeAtMost depth = depth := by rw [closeAtMost, if_neg (by omega)]
        rw [if_neg fun both => some_ both.2, same]
        exact rest .outside depth
    · rw [if_neg isClosed, if_neg fun both => isClosed both.1]
      exact rest .outside depth

/-- The check of the host is a scanner. -/
theorem depthExceeded_eq {t : Text} {bytes : List Byte} (encodes : Utf8.encode t = some bytes) (place : ScanMode)
    (depth : Nat) : depthExceeded maximum (inString place) (isEscaped place) depth bytes =
      nestsBeyond closeAtMost maximum place depth t := by
  induction t generalizing place depth bytes with
  | nil =>
    obtain rfl := Option.some.inj encodes
    rw [nestsBeyond, depthExceeded]
  | cons c t ih =>
    rw [Utf8.encode] at encodes
    split at encodes
    · next first rest ofPoint ofRest =>
      obtain rfl := Option.some.inj encodes
      have ih := fun place depth => ih ofRest place depth
      by_cases ascii : c.val < 0x80
      · rw [Utf8.encodePoint_one ascii] at ofPoint
        obtain rfl := Option.some.inj ofPoint
        have backslash : Byte.ofNat c.val = 0x5C ↔ c = point '\\' := ofNat_eq_iff ascii rfl
        have quote : Byte.ofNat c.val = 0x22 ↔ c = point '"' := ofNat_eq_iff ascii rfl
        have opening : (Byte.ofNat c.val = 0x7B ∨ Byte.ofNat c.val = 0x5B) ↔ isOpening c = true := by
          rw [isOpening, Bool.or_eq_true, decide_eq_true_eq, decide_eq_true_eq]
          exact or_congr (ofNat_eq_iff ascii rfl) (ofNat_eq_iff ascii rfl)
        have closing : (Byte.ofNat c.val = 0x7D ∨ Byte.ofNat c.val = 0x5D) ↔ isClosing c = true := by
          rw [isClosing, Bool.or_eq_true, decide_eq_true_eq, decide_eq_true_eq]
          exact or_congr (ofNat_eq_iff ascii rfl) (ofNat_eq_iff ascii rfl)
        exact depthExceeded_ascii backslash quote opening closing ih place depth
      · obtain ⟨b, more, rfl, high⟩ := encodePoint_high ofPoint (Nat.le_of_not_lt ascii)
        have apart {d : CodePoint} (low : d.val < 0x80) : c ≠ d := by
          rintro rfl
          exact ascii low
        have filler : IsFiller c := by
          refine isFiller_of_val ⟨?_, ?_, ?_, ?_, ?_⟩ <;> omega
        rw [List.cons_append, depthExceeded_high (high b List.mem_cons_self),
          depthExceeded_sequence (fun x mem => high x (List.mem_cons_of_mem _ mem)) (by simp)]
        cases place with
        | escaped =>
          rw [nestsBeyond]
          exact ih .quoted depth
        | quoted =>
          rw [nestsBeyond, if_neg (apart (by decide)), if_neg filler.1]
          exact ih .quoted depth
        | outside =>
          rw [nestsBeyond, if_neg filler.1, if_neg (by simp [filler.2.1]), if_neg (by simp [filler.2.2])]
          exact ih .outside depth
    · cases encodes

/-- The host's scanner measures the depth of a JSON text. -/
theorem exceedsJsonDepth_text {t : Text} {d : Nat} (json : Grammar.IsText t d) {bytes : List Byte}
    (encodes : Utf8.encode t = some bytes) (maximum : Nat) : exceedsJsonDepth bytes maximum = decide (maximum < d) := by
  have law : ∀ k, 0 ≤ k → closeAtMost (k + 1) = k := by
    intro k low
    rw [closeAtMost, if_pos (by omega), Int.add_sub_cancel]
  have scans : exceedsJsonDepth bytes maximum = nestsBeyond closeAtMost maximum .outside 0 t :=
    depthExceeded_eq encodes .outside 0
  rw [scans, nests_text law json]

/-- The client's scanner measures the depth of a JSON text. -/
theorem validateJsonDepth_text {t : Text} {d : Nat} (json : Grammar.IsText t d) :
    validateJsonDepth t = if maxJsonDepth < d then .error depthViolation else .ok () := by
  rw [validateJsonDepth_eq, nests_text (fun k _ => Int.add_sub_cancel k 1) json]
  simp only [decide_eq_true_eq]

/-- On a JSON text, the check of the host under every limit and the check of the client under its own one tell whether
the text is deeper than the limit. -/
theorem depth_guards_agree {t : Text} {d : Nat} (json : Grammar.IsText t d) :
    (∀ bytes, Utf8.encode t = some bytes → ∀ maximum, exceedsJsonDepth bytes maximum = true ↔ maximum < d) ∧
      validateJsonDepth t = if 64 < d then .error "response JSON nesting exceeds 64 levels" else .ok () := by
  refine ⟨fun bytes encodes maximum => ?_, validateJsonDepth_text json⟩
  rw [exceedsJsonDepth_text json encodes, decide_eq_true_iff]

/-- `["\"["]`: the second bracket is behind an escaped quote. -/
def quotedBracket : Text := text "[\"\\\"[\"]"

/-- A bracket inside a string nests nothing. -/
theorem quotedBracket_isText : Grammar.IsText quotedBracket 1 := by
  have blank : Grammar.IsBlanks [] := nofun
  have chars : Grammar.IsChars (text "\\\"[") :=
    .escape (by decide) (.unescaped (by decide) (by decide) (by decide) .nil)
  have string : Grammar.Derives .element ([] ++ (text "\"\\\"[\"" ++ [])) 0 :=
    .element blank (.string ⟨_, chars, by decide⟩) blank
  have array := Grammar.Derives.element blank (.array (.lastElement string)) blank
  exact array

theorem depth_guards_agree_quotedBracket :
    (∀ bytes, Utf8.encode quotedBracket = some bytes → ∀ maximum, exceedsJsonDepth bytes maximum = true ↔ maximum < 1) ∧
      validateJsonDepth quotedBracket = .ok () :=
  ⟨(depth_guards_agree quotedBracket_isText).1, (depth_guards_agree quotedBracket_isText).2⟩

/-- A value that is read behind either check is at most 64 deep, and no such value is held back. -/
theorem depth_of_read {t : Text} {v : Json} (read : loads t = some v) {bytes : List Byte}
    (encodes : Utf8.encode t = some bytes) :
    (validateJsonDepth t = .ok () ↔ v.depth ≤ 64) ∧ (exceedsJsonDepth bytes kMaxJsonDepth = false ↔ v.depth ≤ 64) := by
  have json := isText_of_loads read
  rw [validateJsonDepth_text json, exceedsJsonDepth_text json encodes, decide_eq_false_iff_not, kMaxJsonDepth, not_lt]
  refine ⟨?_, Iff.rfl⟩
  split
  · next deep => exact iff_of_false nofun (Nat.not_le_of_lt deep)
  · next fits => exact iff_of_true rfl (Nat.le_of_not_lt fits)

end DepthAgreement

end EmsDnp3
