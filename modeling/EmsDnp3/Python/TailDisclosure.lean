import EmsDnp3.Python.TailRedaction

/-!
# When the diagnostic tail shows a token

Response lines are given by their token fields: the bytes in front of each, up to the brace, the comma or the blank
that precedes its key, and the blanks around its colon. `text` is the same for any two tokens unless the cut falls
inside a field, behind the opening quote of its key and before the end of its token: then the key is not
recognised and the digits behind the cut are shown.
-/

namespace EmsDnp3.Python

/-- The bytes of an ASCII text. -/
def asciiBytes (s : Text) : List Byte := s.map fun c => .ofNat c.val

def quoteByte : Byte := .ofNat 0x22

/-- Blanks of JSON. -/
def jsonBlanks : List Byte := octets [0x20, 0x09, 0x0A, 0x0D]

/-- What a key follows: `{`, `,` or a blank. -/
def keyDelimiters : List Byte := octets [0x7B, 0x2C] ++ jsonBlanks

/-- A token field of a response line and the bytes in front of it, back to the field before. -/
structure TokenField where
  front : List Byte
  delimiter : Byte
  blanks : List Byte
  more : List Byte
  delimits : delimiter ∈ keyDelimiters
  blank : ∀ b ∈ blanks, b ∈ jsonBlanks
  blank' : ∀ b ∈ more, b ∈ jsonBlanks

namespace TokenField

def lead (f : TokenField) : List Byte := f.front ++ [f.delimiter]

/-- The field up to its token. -/
def opener (f : TokenField) : List Byte :=
  asciiBytes tokenKey ++ (f.blanks ++ .ofNat 0x3A :: (f.more ++ [quoteByte]))

end TokenField

/-- The lines with a token in their fields. -/
def fill (token tail : List Byte) : List TokenField → List Byte
  | [] => tail
  | f :: rest => f.lead ++ (f.opener ++ (token ++ quoteByte :: fill token tail rest))

/-- The length of the lines. -/
def filledLength (tail : List Byte) : List TokenField → Nat
  | [] => tail.length
  | f :: rest => f.lead.length + f.opener.length + 33 + filledLength tail rest

/-- The first `cut` bytes end inside a field, behind its first quote and before the last digit of its token. -/
def CutInside : Nat → List TokenField → Prop
  | _, [] => False
  | cut, f :: rest =>
    (f.lead.length < cut ∧ cut < f.lead.length + f.opener.length + 32) ∨
      CutInside (cut - (f.lead.length + f.opener.length + 33)) rest

/-- Thirty-two hexadecimal digits, as bytes. -/
def IsToken (token : List Byte) : Prop :=
  token.length = 32 ∧ ∀ b ∈ token, b.val < 0x80 ∧ isHexDigit (Utf8.asciiPoint b) = true

theorem IsToken.isTokenText {token : List Byte} (valid : IsToken token) : IsTokenText (token.map Utf8.asciiPoint) := by
  refine ⟨by rw [List.length_map, valid.1], fun c inside => ?_⟩
  obtain ⟨b, member, rfl⟩ := List.mem_map.mp inside
  exact (valid.2 b member).2

theorem isSpace_jsonBlanks {blanks : List Byte} (blank : ∀ b ∈ blanks, b ∈ jsonBlanks) :
    ∀ c ∈ blanks.map Utf8.asciiPoint, isSpace c = true := by
  have each : ∀ b ∈ jsonBlanks, isSpace (Utf8.asciiPoint b) = true := by
    simp [jsonBlanks, octets, Byte.ofNat, Utf8.asciiPoint, CodePoint.ofNat, isSpace]
  intro c inside
  obtain ⟨b, member, rfl⟩ := List.mem_map.mp inside
  exact each b (blank b member)

set_option maxRecDepth 4000 in
theorem delimits_keyDelimiters : ∀ b ∈ keyDelimiters, b.val < 0x80 ∧ Delimits (Utf8.asciiPoint b) := by
  unfold Delimits
  decide

theorem jsonBlanks_ascii : ∀ b ∈ jsonBlanks, b.val < 0x80 := by simp [jsonBlanks, octets, Byte.ofNat]

set_option maxRecDepth 4000 in
theorem tokenKey_ascii :
    (∀ b ∈ asciiBytes tokenKey, b.val < 0x80) ∧ (asciiBytes tokenKey).map Utf8.asciiPoint = tokenKey := by
  decide

namespace TokenField
variable (f : TokenField)

theorem opener_ascii : ∀ b ∈ f.opener, b.val < 0x80 := by
  intro b inside
  simp only [opener, List.mem_append, List.mem_cons, List.not_mem_nil, or_false] at inside
  rcases inside with key | blank | rfl | blank | rfl
  · exact tokenKey_ascii.1 b key
  · exact jsonBlanks_ascii b (f.blank b blank)
  · decide
  · exact jsonBlanks_ascii b (f.blank' b blank)
  · decide

theorem opener_text : f.opener.map Utf8.asciiPoint =
    fieldText tokenKey (f.blanks.map Utf8.asciiPoint) (f.more.map Utf8.asciiPoint) := by
  simp only [opener, fieldText, List.map_append, List.map_cons, tokenKey_ascii.2]
  rfl

theorem lead_ends {before : List Byte} {b : Byte} (last : [b] <:+ before ++ f.lead) : b ∈ keyDelimiters := by
  rw [TokenField.lead, ← List.append_assoc] at last
  obtain rfl := List.singleton_suffix_append_singleton_iff.mp last
  exact f.delimits

end TokenField

/-- Tokens of one length give texts of one length. -/
theorem fill_length {token : List Byte} (valid : IsToken token) (tail : List Byte) (fields : List TokenField) :
    (fill token tail fields).length = filledLength tail fields := by
  induction fields with
  | nil => rfl
  | cons f rest ih =>
    simp only [fill, filledLength, List.length_append, List.length_cons, ih, valid.1]
    omega

/-- Behind the digits of the first token. -/
theorem fill_drop {token : List Byte} (valid : IsToken token) {tail : List Byte} {f : TokenField}
    {rest : List TokenField} {cut : Nat} (behind : f.lead.length + f.opener.length + 32 ≤ cut) :
    (fill token tail (f :: rest)).drop cut =
      (quoteByte :: fill token tail rest).drop (cut - (f.lead.length + f.opener.length + 32)) := by
  have whole : fill token tail (f :: rest) = (f.lead ++ f.opener ++ token) ++ quoteByte :: fill token tail rest := by
    simp [fill]
  have length : (f.lead ++ f.opener ++ token).length = f.lead.length + f.opener.length + 32 := by
    rw [List.length_append, List.length_append, valid.1]
  rw [whole, List.drop_append, length, List.drop_eq_nil_of_le (length.le.trans behind), List.nil_append]

theorem not_cutInside_zero (fields : List TokenField) : ¬ CutInside 0 fields := by
  induction fields with
  | nil => exact id
  | cons f rest ih =>
    rintro (⟨after, -⟩ | later)
    · cases after
    · rw [Nat.zero_sub] at later
      exact ih later

/-- What `text` shows of some bytes. -/
def shown (bytes : List Byte) : Text := redactTail (Utf8.decodeReplace bytes)

/-- What is shown of a whole field does not depend on its token. -/
theorem shown_field {token A : List Byte} (valid : IsToken token) (ends : ∀ b, [b] <:+ A → b ∈ keyDelimiters)
    (f : TokenField) (rest : List Byte) :
    shown (A ++ (f.opener ++ (token ++ quoteByte :: rest))) =
      shown A ++ (redactedField (f.blanks.map Utf8.asciiPoint) (f.more.map Utf8.asciiPoint) ++ shown rest) := by
  have ascii : ∀ b ∈ f.opener ++ (token ++ [quoteByte]), b.val < 0x80 := by
    intro b inside
    simp only [List.mem_append, List.mem_singleton] at inside
    rcases inside with opener | digit | rfl
    · exact f.opener_ascii b opener
    · exact (valid.2 b digit).1
    · decide
  have bytes : A ++ (f.opener ++ (token ++ quoteByte :: rest)) = A ++ ((f.opener ++ (token ++ [quoteByte])) ++ rest) := by
    simp
  have points : (f.opener ++ (token ++ [quoteByte])).map Utf8.asciiPoint =
      tokenText (f.blanks.map Utf8.asciiPoint) (f.more.map Utf8.asciiPoint) (token.map Utf8.asciiPoint) := by
    rw [List.map_append, f.opener_text, List.map_append]
    rfl
  have some_ : f.opener ++ (token ++ [quoteByte]) ≠ [] := by simp
  have seam : ∀ c, [c] <:+ Utf8.decodeReplace A → Delimits c := by
    intro c last
    rcases List.eq_nil_or_concat' A with rfl | ⟨front, b, rfl⟩
    · have length := last.length_le
      cases length
    · obtain ⟨small, delimits⟩ := delimits_keyDelimiters b (ends b (List.suffix_append _ _))
      rw [Utf8.decodeReplace_append small] at last
      obtain rfl := List.singleton_suffix_append_singleton_iff.mp last
      exact delimits
  rw [shown, bytes, Utf8.decodeReplace_ascii ascii some_, points,
    redactTail_field seam (isSpace_jsonBlanks f.blank) (isSpace_jsonBlanks f.blank') valid.isTokenText, shown, shown]

/-- Lines that are whole show the same for any token. -/
theorem shown_fill {token token' : List Byte} (valid : IsToken token) (valid' : IsToken token') (tail : List Byte)
    (fields : List TokenField) (before : List Byte) :
    shown (before ++ fill token tail fields) = shown (before ++ fill token' tail fields) := by
  induction fields generalizing before with
  | nil => rfl
  | cons f rest ih =>
    have after := ih []
    rw [List.nil_append, List.nil_append] at after
    rw [fill, fill, ← List.append_assoc before, ← List.append_assoc before, shown_field valid fun b => f.lead_ends,
      shown_field valid' fun b => f.lead_ends, after]

/-- Where the cut does not fall inside a field, what is left shows the same for any token. -/
theorem shown_drop {token token' : List Byte} (valid : IsToken token) (valid' : IsToken token') (tail : List Byte)
    {fields : List TokenField} {cut : Nat} (outside : ¬ CutInside cut fields) :
    shown ((fill token tail fields).drop cut) = shown ((fill token' tail fields).drop cut) := by
  induction fields generalizing cut with
  | nil => rfl
  | cons f rest ih =>
    rw [CutInside, not_or, not_and_or, not_lt, not_lt] at outside
    obtain ⟨here, later⟩ := outside
    rcases here with before | behind
    · -- The field is whole.
      have ends : ∀ b, [b] <:+ f.lead.drop cut → b ∈ keyDelimiters := fun b last =>
        f.lead_ends (last.trans ((List.drop_suffix cut f.lead).trans (List.suffix_append [] f.lead)))
      have after := shown_fill valid valid' tail rest []
      rw [List.nil_append, List.nil_append] at after
      rw [fill, fill, List.drop_append_of_le_length before, List.drop_append_of_le_length before, shown_field valid ends,
        shown_field valid' ends, after]
    · -- The closing quote of the field is the most that is left of it.
      rw [fill_drop valid behind, fill_drop valid' behind]
      cases more : cut - (f.lead.length + f.opener.length + 32) with
      | zero => exact shown_fill valid valid' tail rest [quoteByte]
      | succ more' =>
        have next : cut - (f.lead.length + f.opener.length + 33) = more' := by omega
        rw [next] at later
        exact ih later

/-- The token of one digit. -/
def repeated (digit : Byte) : List Byte := List.replicate 32 digit

set_option maxRecDepth 4000 in
theorem isToken_repeated : IsToken (repeated (.ofNat 0x30)) ∧ IsToken (repeated (.ofNat 0x31)) := by
  unfold IsToken
  decide

set_option maxRecDepth 4000 in
/-- The example digit does not occur behind the start of the key. -/
theorem TokenField.plain_opener (f : TokenField) {digit : Byte} (other : Utf8.asciiPoint digit ≠ .ofNat 0x73) :
    ∀ b ∈ (f.opener ++ repeated digit).drop 2, Utf8.asciiPoint b ≠ .ofNat 0x73 := by
  have key : ∃ k, asciiBytes tokenKey = quoteByte :: .ofNat 0x73 :: k ∧ ∀ b ∈ k, Utf8.asciiPoint b ≠ .ofNat 0x73 :=
    ⟨asciiBytes (tokenKey.drop 2), by decide, by decide⟩
  have blanks : ∀ b ∈ jsonBlanks, Utf8.asciiPoint b ≠ .ofNat 0x73 := by
    simp [jsonBlanks, octets, Byte.ofNat, Utf8.asciiPoint, CodePoint.ofNat]
  obtain ⟨k, isKey, plain⟩ := key
  intro b inside
  have split : (f.opener ++ repeated digit).drop 2 =
      k ++ (f.blanks ++ .ofNat 0x3A :: (f.more ++ [quoteByte])) ++ repeated digit := by
    rw [opener, isKey]
    rfl
  rw [split] at inside
  simp only [List.mem_append, List.mem_cons, List.not_mem_nil, or_false] at inside
  rcases inside with (inKey | blank | rfl | blank | rfl) | inToken
  · exact plain b inKey
  · exact blanks b (f.blank b blank)
  · decide
  · exact blanks b (f.blank' b blank)
  · decide
  · rw [List.eq_of_mem_replicate inToken]
    exact other

/-- A field that has lost its first quote has no `s` behind its first character, so that nothing in it is redacted. -/
theorem shown_broken (f : TokenField) {digit : Byte} (ascii : digit.val < 0x80)
    (other : Utf8.asciiPoint digit ≠ .ofNat 0x73) {cut : Nat} (after : 0 < cut) (before : cut < f.opener.length + 32)
    (rest : List Byte) :
    shown ((f.opener ++ (repeated digit ++ quoteByte :: rest)).drop cut) =
      ((f.opener ++ List.replicate 31 digit).drop cut).map Utf8.asciiPoint ++
        Utf8.asciiPoint digit :: redactTail (Json.quote :: Utf8.decodeReplace rest) := by
  have inside : cut ≤ (f.opener ++ List.replicate 31 digit).length := by
    rw [List.length_append, List.length_replicate]
    omega
  have whole : f.opener ++ repeated digit = f.opener ++ List.replicate 31 digit ++ [digit] := by
    rw [repeated, List.replicate_succ', ← List.append_assoc]
  have field : (f.opener ++ repeated digit).drop cut = (f.opener ++ List.replicate 31 digit).drop cut ++ [digit] := by
    rw [whole, List.drop_append_of_le_length inside]
  have shape : (f.opener ++ (repeated digit ++ quoteByte :: rest)).drop cut =
      (f.opener ++ repeated digit).drop cut ++ quoteByte :: rest := by
    rw [← List.append_assoc, List.drop_append_of_le_length]
    rw [whole, List.length_append]
    exact inside.trans (Nat.le_add_right _ _)
  have small : ∀ b ∈ (f.opener ++ repeated digit).drop cut, b.val < 0x80 := by
    intro b member
    rcases List.mem_append.mp (List.mem_of_mem_drop member) with opener | digits
    · exact f.opener_ascii b opener
    · rw [List.eq_of_mem_replicate digits]
      exact ascii
  have some_ : (f.opener ++ repeated digit).drop cut ≠ [] := by
    rw [field]
    exact List.append_ne_nil_of_right_ne_nil _ (List.cons_ne_nil _ _)
  have decoded := Utf8.decodeReplace_ascii small some_ [] (quoteByte :: rest)
  obtain ⟨b, more, bytes⟩ := List.exists_cons_of_ne_nil some_
  have plain : .ofNat 0x73 ∉ more.map Utf8.asciiPoint := by
    have later : more = (f.opener ++ repeated digit).drop (cut + 1) := by
      rw [← List.drop_drop, bytes]
      rfl
    intro member
    obtain ⟨c, isIn, same⟩ := List.mem_map.mp member
    have second : c ∈ (f.opener ++ repeated digit).drop 2 := by
      rw [later, show cut + 1 = 2 + (cut - 1) by omega, ← List.drop_drop] at isIn
      exact List.mem_of_mem_drop isIn
    exact f.plain_opener other c second same
  have quoted : Utf8.decodeReplace (quoteByte :: rest) = Json.quote :: Utf8.decodeReplace rest :=
    Utf8.decodeReplace_append (by decide) [] rest
  have points : Utf8.asciiPoint b :: more.map Utf8.asciiPoint =
      ((f.opener ++ List.replicate 31 digit).drop cut).map Utf8.asciiPoint ++ [Utf8.asciiPoint digit] := by
    rw [← List.map_cons, ← bytes, field, List.map_append]
    rfl
  calc shown ((f.opener ++ (repeated digit ++ quoteByte :: rest)).drop cut)
      = redactTail (Utf8.asciiPoint b :: more.map Utf8.asciiPoint ++ Json.quote :: Utf8.decodeReplace rest) := by
        rw [shown, shape, ← quoted, ← List.map_cons, ← bytes]
        exact congrArg redactTail decoded
    _ = Utf8.asciiPoint b :: more.map Utf8.asciiPoint ++ redactTail (Json.quote :: Utf8.decodeReplace rest) :=
        redactTail_inert plain _
    _ = _ := by
        rw [points, List.append_assoc]
        rfl

/-- Where the cut falls inside a field, the digits behind it are shown. -/
theorem shown_inside {tail : List Byte} {fields : List TokenField} {cut : Nat} (inside : CutInside cut fields) :
    shown ((fill (repeated (.ofNat 0x30)) tail fields).drop cut) ≠
      shown ((fill (repeated (.ofNat 0x31)) tail fields).drop cut) := by
  induction fields generalizing cut with
  | nil => exact inside.elim
  | cons f rest ih =>
    have behind (digit : Byte) {n : Nat} (after : f.lead.length ≤ n) : (fill (repeated digit) tail (f :: rest)).drop n =
        (f.opener ++ (repeated digit ++ quoteByte :: fill (repeated digit) tail rest)).drop (n - f.lead.length) := by
      rw [fill, List.drop_append, List.drop_eq_nil_of_le after, List.nil_append]
    rcases inside with ⟨after, before⟩ | later
    · rw [behind _ after.le, behind _ after.le]
      rw [shown_broken f (by decide) (by decide) (by omega) (by omega),
        shown_broken f (by decide) (by decide) (by omega) (by omega)]
      intro same
      have parts := List.append_inj same (by simp)
      exact absurd (List.cons.inj parts.2).1 (by decide)
    · cases more : cut - (f.lead.length + f.opener.length + 33) with
      | zero =>
        rw [more] at later
        exact (not_cutInside_zero rest later).elim
      | succ n =>
        have next : cut - (f.lead.length + f.opener.length + 32) = n + 1 + 1 := by omega
        rw [fill_drop isToken_repeated.1 (by omega), fill_drop isToken_repeated.2 (by omega), next]
        rw [more] at later
        exact ih later

/-- A token is shown if and only if the cut falls inside a field. -/
theorem token_hidden {split : List Byte → List (List Byte)} (splits : ∀ bytes, (split bytes).flatten = bytes)
    (capacity : Nat) (fields : List TokenField) (tail : List Byte) :
    (∀ token token', IsToken token → IsToken token' →
      (TailBuffer.of capacity (split (fill token tail fields))).text =
        (TailBuffer.of capacity (split (fill token' tail fields))).text) ↔
      ¬ CutInside (filledLength tail fields - capacity) fields := by
  have text {token : List Byte} (valid : IsToken token) : (TailBuffer.of capacity (split (fill token tail fields))).text =
      shown ((fill token tail fields).drop (filledLength tail fields - capacity)) := by
    rw [TailBuffer.text, (TailBuffer.of_spec ..).2.1, splits, List.rtake, fill_length valid]
    rfl
  constructor
  · intro same inside
    have equal := same _ _ isToken_repeated.1 isToken_repeated.2
    rw [text isToken_repeated.1, text isToken_repeated.2] at equal
    exact shown_inside inside equal
  · intro outside token token' valid valid'
    rw [text valid, text valid', shown_drop valid valid' tail outside]

/-- A token field without blanks. -/
def TokenField.plain (front : List Byte) : TokenField where
  front := front
  delimiter := .ofNat 0x7B
  blanks := []
  more := []
  delimits := by decide +kernel
  blank := by simp
  blank' := by simp

/-- A tail that holds the whole field shows no digit of the token. -/
theorem token_hidden_example :
    (∀ token token', IsToken token → IsToken token' →
      (TailBuffer.of 20 [fill token [.ofNat 0x7D] [.plain []]]).text =
        (TailBuffer.of 20 [fill token' [.ofNat 0x7D] [.plain []]]).text) ↔
      ¬ CutInside (filledLength [.ofNat 0x7D] [.plain []] - 20) [.plain []] :=
  @token_hidden (fun bytes => [bytes]) (fun _ => List.flatten_singleton) 20 [.plain []] [.ofNat 0x7D]

/-- The last twenty bytes of `{"safety_token":"…"}` are eighteen digits of the token, a quote and a brace. -/
theorem token_shown : ¬ ∀ token token', IsToken token → IsToken token' →
    (TailBuffer.of 20 [fill token [.ofNat 0x7D] [.plain []]]).text =
      (TailBuffer.of 20 [fill token' [.ofNat 0x7D] [.plain []]]).text := by
  intro same
  have equal := same _ _ isToken_repeated.1 isToken_repeated.2
  revert equal
  decide +kernel

end EmsDnp3.Python
