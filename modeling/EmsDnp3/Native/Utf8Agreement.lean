import EmsDnp3.Base.Utf8Grammar
import EmsDnp3.Native.JsonLineProtocol
import EmsDnp3.Native.TraceCopy

/-!
# The two UTF-8 automata

`is_valid_utf8` checks a request line and `copy_utf8` bounds a log text. The first accepts
exactly the grammar of RFC 3629. The second is modelled here on memory, where a read or a write
outside of the source string and of the target is a fault.
-/

namespace EmsDnp3.Native

open Utf8 (IsChar WellFormed decodeHead)

/-! ## `is_valid_utf8` -/

section
variable {a : Byte} {fuel : Nat}

theorem leadByte_two (two : 0xC0 ≤ a.val ∧ a.val ≤ 0xDF) : leadByte a = some (1, a.val % 32, 0x80) :=
  if_pos (by omega)

theorem leadByte_three (three : 0xE0 ≤ a.val ∧ a.val ≤ 0xEF) : leadByte a = some (2, a.val % 16, 0x800) :=
  (if_neg (by omega)).trans (if_pos (by omega))

theorem leadByte_four (four : 0xF0 ≤ a.val ∧ a.val ≤ 0xF7) : leadByte a = some (3, a.val % 8, 0x10000) :=
  (if_neg (by omega)).trans ((if_neg (by omega)).trans (if_pos (by omega)))

theorem leadByte_none (neither : a.val < 0xC0 ∨ 0xF7 < a.val) : leadByte a = none := by
  have bound := a.isLt
  exact (if_neg (by omega)).trans ((if_neg (by omega)).trans (if_neg (by omega)))

/-- The point that the loop collects behind a lead byte. -/
def collectedPoint (bits : Nat) (continuation : List Byte) : Nat :=
  continuation.foldl (fun point next => 64 * point + next.val % 64) bits

/-- One turn behind a lead byte. -/
theorem validUtf8From_lead {count bits minimum : Nat} {rest : List Byte} (high : 0x80 ≤ a.val)
    (lead : leadByte a = some (count, bits, minimum)) : validUtf8From (fuel + 1) (a :: rest) = true ↔
      (count ≤ rest.length ∧ ∀ next ∈ rest.take count, next.val / 64 = 2) ∧
        (minimum ≤ collectedPoint bits (rest.take count) ∧ collectedPoint bits (rest.take count) ≤ 0x10FFFF ∧
          ¬ (0xD800 ≤ collectedPoint bits (rest.take count) ∧
            collectedPoint bits (rest.take count) ≤ 0xDFFF)) ∧
        validUtf8From fuel (rest.drop count) = true := by
  rw [validUtf8From, if_neg (by omega), lead]
  unfold collectedPoint
  simp only [List.length_take]
  split
  · next broken =>
    refine iff_of_false Bool.false_ne_true fun ⟨⟨long, all⟩, _⟩ => ?_
    obtain short | bad := broken
    · omega
    · exact bad all
  next whole =>
  obtain ⟨long, all⟩ := not_or.mp whole
  split
  · next outside =>
    refine iff_of_false Bool.false_ne_true fun ⟨_, ⟨low, high, plain⟩, _⟩ => ?_
    obtain small | large | surrogate := outside
    · omega
    · omega
    · exact plain surrogate
  next inside =>
  have both : count ≤ rest.length ∧ ∀ next ∈ rest.take count, next.val / 64 = 2 :=
    ⟨by omega, Decidable.not_not.mp all⟩
  exact ⟨fun more => ⟨both, by omega, more⟩, fun ⟨_, _, more⟩ => more⟩

/-- One turn of the loop passes one character of the grammar. -/
theorem validUtf8From_succ {rest : List Byte} : validUtf8From (fuel + 1) (a :: rest) = true ↔
    ∃ char more, a :: rest = char ++ more ∧ IsChar char ∧ validUtf8From fuel more = true := by
  have bound := a.isLt
  constructor
  · intro accepted
    by_cases one : a.val < 0x80
    · rw [validUtf8From, if_pos (by omega)] at accepted
      exact ⟨[a], rest, rfl, Utf8.isChar_of_decodeHead (Utf8.decodeHead_one [] one), accepted⟩
    by_cases two : 0xC0 ≤ a.val ∧ a.val ≤ 0xDF
    · obtain ⟨⟨long, all⟩, point, more⟩ := (validUtf8From_lead (by omega) (leadByte_two two)).mp accepted
      match rest with
      | b :: tail =>
        simp only [List.take_succ_cons, List.take_zero, List.forall_mem_singleton, collectedPoint, List.foldl_cons,
          List.foldl_nil] at all point
        refine ⟨[a, b], tail, rfl, ?_, more⟩
        exact Utf8.isChar_of_decodeHead (Utf8.decodeHead_two [] (by omega) (Utf8.isContinuation_iff.mpr (by omega)))
    by_cases three : 0xE0 ≤ a.val ∧ a.val ≤ 0xEF
    · obtain ⟨⟨long, all⟩, point, more⟩ := (validUtf8From_lead (by omega) (leadByte_three three)).mp accepted
      match rest with
      | [_] => simp at long
      | b :: c :: tail =>
        simp only [List.take_succ_cons, List.take_zero, List.forall_mem_cons, collectedPoint,
          List.foldl_cons, List.foldl_nil] at all point
        refine ⟨[a, b, c], tail, rfl, ?_, more⟩
        exact Utf8.isChar_of_decodeHead (Utf8.decodeHead_three [] (by omega) (Utf8.secondOk_iff.mpr (by omega))
          (Utf8.isContinuation_iff.mpr (by omega)))
    by_cases four : 0xF0 ≤ a.val ∧ a.val ≤ 0xF7
    · obtain ⟨⟨long, all⟩, point, more⟩ := (validUtf8From_lead (by omega) (leadByte_four four)).mp accepted
      match rest with
      | [_] => simp at long
      | [_, _] => simp at long
      | b :: c :: d :: tail =>
        simp only [List.take_succ_cons, List.take_zero, List.forall_mem_cons, collectedPoint,
          List.foldl_cons, List.foldl_nil] at all point
        refine ⟨[a, b, c, d], tail, rfl, ?_, more⟩
        exact Utf8.isChar_of_decodeHead (Utf8.decodeHead_four [] (by omega) (Utf8.secondOk_iff.mpr (by omega))
          (Utf8.isContinuation_iff.mpr (by omega)) (Utf8.isContinuation_iff.mpr (by omega)))
    · rw [validUtf8From, if_neg (by omega), leadByte_none (by omega)] at accepted
      cases accepted
  · rintro ⟨char, more, same, derived, accepted⟩
    obtain ⟨a', rfl, one⟩ | ⟨a', b, rfl, two, second⟩ | ⟨a', b, c, rfl, three, second, third⟩ |
      ⟨a', b, c, d, rfl, four, second, third, fourth⟩ := derived.cases <;>
      simp only [List.cons_append, List.nil_append, List.cons.injEq] at same <;> obtain ⟨rfl, rfl⟩ := same
    · rwa [validUtf8From, if_pos (by omega)]
    · rw [Utf8.isContinuation_iff] at second
      refine (validUtf8From_lead (by omega) (leadByte_two (by omega))).mpr ⟨⟨by simp, ?_⟩, ?_, accepted⟩
      · simp only [List.take_succ_cons, List.take_zero, List.forall_mem_singleton]
        omega
      · simp only [List.take_succ_cons, List.take_zero, collectedPoint, List.foldl_cons,
          List.foldl_nil]
        omega
    · rw [Utf8.secondOk_iff] at second
      rw [Utf8.isContinuation_iff] at third
      refine (validUtf8From_lead (by omega) (leadByte_three three)).mpr ⟨⟨by simp, ?_⟩, ?_, accepted⟩
      · simp only [List.take_succ_cons, List.take_zero, List.forall_mem_cons, List.not_mem_nil, false_imp_iff,
          implies_true, and_true]
        omega
      · simp only [List.take_succ_cons, List.take_zero, collectedPoint, List.foldl_cons,
          List.foldl_nil]
        omega
    · rw [Utf8.secondOk_iff] at second
      rw [Utf8.isContinuation_iff] at third fourth
      refine (validUtf8From_lead (by omega) (leadByte_four (by omega))).mpr ⟨⟨by simp, ?_⟩, ?_, accepted⟩
      · simp only [List.take_succ_cons, List.take_zero, List.forall_mem_cons, List.not_mem_nil, false_imp_iff,
          implies_true, and_true]
        omega
      · simp only [List.take_succ_cons, List.take_zero, collectedPoint, List.foldl_cons,
          List.foldl_nil]
        omega

end

/-- The loop accepts the grammar. -/
theorem validUtf8From_iff {fuel : Nat} {input : List Byte} (enough : input.length ≤ fuel) :
    validUtf8From fuel input = true ↔ WellFormed input := by
  induction fuel generalizing input with
  | zero =>
    obtain rfl := List.length_eq_zero_iff.mp (Nat.le_zero.mp enough)
    exact iff_of_true rfl .nil
  | succ fuel ih =>
    cases input with
    | nil => exact iff_of_true rfl .nil
    | cons a rest =>
      rw [validUtf8From_succ]
      constructor
      · rintro ⟨char, more, same, derived, accepted⟩
        have size := congrArg List.length same
        have := derived.length_pos
        rw [List.length_append] at size
        rw [same]
        exact .cons derived ((ih (by omega)).mp accepted)
      · intro formed
        obtain ⟨char, more, same, derived, formed⟩ := formed.head (List.cons_ne_nil _ _)
        have size := congrArg List.length same
        have := derived.length_pos
        rw [List.length_append] at size
        exact ⟨char, more, same, derived, (ih (by omega)).mpr formed⟩

/-- `is_valid_utf8` accepts the grammar. -/
theorem isValidUtf8_iff {input : List Byte} : isValidUtf8 input = true ↔ WellFormed input :=
  validUtf8From_iff le_rfl

/-! ## `copy_utf8` on memory -/

/-- What a NUL-terminated string occupies. -/
def CString.memory (source : CString) : List Byte := source.bytes ++ [Byte.ofNat 0]

/-- `target[index] = value`; `none` is a write outside of the target. -/
def store (target : List Byte) (index : Nat) (value : Byte) : Option (List Byte) :=
  if index < target.length then some (target.set index value) else none

/-- `std::memcpy(target + written, source + read, length)` -/
def memcpy (source : List Byte) : (target : List Byte) → (written read length : Nat) → Option (List Byte)
  | target, _, _, 0 => some target
  | target, written, read, length + 1 =>
    match source[read]? with
    | none => none
    | some value => (store target written value).bind fun target => memcpy source target (written + 1) (read + 1) length

/-- The test of the byte behind `first` at `index`. -/
def validNext (first next : Byte) (index : Nat) : Bool :=
  (0x80 ≤ next.val && next.val ≤ 0xBF) &&
    (index ≠ 1 || (!(first.val = 0xE0 && next.val < 0xA0) && !(first.val = 0xED && 0xA0 ≤ next.val)
      && !(first.val = 0xF0 && next.val < 0x90) && !(first.val = 0xF4 && 0x90 ≤ next.val)))

/-- The turns of the inner loop from `index` on; `none` is a read outside of the source. -/
def continuationValid (source : List Byte) (read : Nat) (first : Byte) : (turns index : Nat) → Option Bool
  | 0, _ => some true
  | turns + 1, index =>
    match source[read + index]? with
    | none => none
    | some next =>
      if validNext first next index then continuationValid source read first turns (index + 1) else some false

/-- The terminator, and the return. -/
def finishCopy (target : List Byte) (written : Nat) (changed : Bool) : Option (List Byte × Bool) :=
  (store target written (Byte.ofNat 0)).map fun target => (target, changed)

/-- The outer loop. A fault is `none`, and so are turns that run out. -/
def copyFrom (source : List Byte) (maximum : Nat) :
    (turns read written : Nat) → (target : List Byte) → (changed : Bool) → Option (List Byte × Bool)
  | 0, _, _, _, _ => none
  | turns + 1, read, written, target, changed =>
    match source[read]? with
    | none => none
    | some first =>
      if first = Byte.ofNat 0 then finishCopy target written changed
      else
        let length := sequenceLength first
        let valid :=
          if first.val < 0x80 ∨ 1 < length then continuationValid source read first (length - 1) 1 else some false
        match valid with
        | none => none
        | some false =>
          if written = maximum then finishCopy target written true
          else
            (store target written (Byte.ofNat 0x3F)).bind fun target =>
              copyFrom source maximum turns (read + 1) (written + 1) target true
        | some true =>
          if maximum - written < length then finishCopy target written true
          else
            (memcpy source target written read length).bind fun target =>
              copyFrom source maximum turns (read + length) (written + length) target changed

/-- `copy_utf8` -/
def copyUtf8In (source : Option (List Byte)) (target : List Byte) (maximum : Nat) : Option (List Byte × Bool) :=
  match source with
  | none => finishCopy target 0 true
  | some source => copyFrom source maximum source.length 0 0 target false

/-- A write inside of the target changes one byte. -/
theorem store_append (out free : List Byte) (old value : Byte) :
    store (out ++ old :: free) out.length value = some (out ++ value :: free) := by
  unfold store
  rw [if_pos (by rw [List.length_append, List.length_cons]; omega), List.set_append_right _ _ le_rfl, Nat.sub_self]
  rfl

/-- A copy of a chunk that stands in the source and fits into the target. -/
theorem memcpy_append (past chunk future out free : List Byte) (room : chunk.length ≤ free.length) :
    memcpy (past ++ (chunk ++ future)) (out ++ free) out.length past.length chunk.length =
      some (out ++ chunk ++ free.drop chunk.length) := by
  induction chunk generalizing past out free with
  | nil => rw [List.append_nil]; rfl
  | cons value chunk ih =>
    cases free with
    | nil => simp at room
    | cons old free =>
      have read : (past ++ (value :: chunk ++ future))[past.length]? = some value := by simp
      rw [List.length_cons, memcpy, read]
      simp only [store_append, Option.bind_some]
      have next := ih (past ++ [value]) (out ++ [value]) free (Nat.le_of_succ_le_succ room)
      simpa using next

/-- The inner loop reads no further than the terminator, which ends it. -/
theorem continuationValid_eq (past : List Byte) (first : Byte) (rest : List Byte) (turns index : Nat)
    (positive : 0 < index) (inside : index ≤ rest.length + 1) :
    continuationValid (past ++ first :: (rest ++ [Byte.ofNat 0])) past.length first turns index =
      some ((List.range' index turns).all (continuesAt first rest)) := by
  induction turns generalizing index with
  | zero => rfl
  | succ turns ih =>
    have read : (past ++ first :: (rest ++ [Byte.ofNat 0]))[past.length + index]? =
        some (rest.getD (index - 1) (Byte.ofNat 0)) := by
      obtain ⟨offset, rfl⟩ : ∃ offset, index = offset + 1 := ⟨index - 1, by omega⟩
      rw [List.getElem?_append_right (Nat.le_add_right _ _), Nat.add_sub_cancel_left, List.getElem?_cons_succ,
        Nat.add_sub_cancel, List.getD_eq_getElem?_getD]
      by_cases last : offset = rest.length
      · simp [last]
      · rw [List.getElem?_append_left (by omega), List.getElem?_eq_getElem (by omega)]
        rfl
    have test : validNext first (rest.getD (index - 1) (Byte.ofNat 0)) index = continuesAt first rest index := rfl
    rw [continuationValid, read, List.range'_succ, List.all_cons]
    simp only [test]
    cases continues : continuesAt first rest index with
    | false => rfl
    | true =>
      have before : index ≤ rest.length := by
        by_contra beyond
        have := (continuesAt_iff.mp continues).1
        rw [List.getD_eq_default _ _ (by omega), not_isContinuation_nul] at this
        cases this
      rw [if_pos rfl, ih (index + 1) (by omega) (by omega), Bool.true_and]

/-- A sequence that is valid ends before the terminator. -/
theorem sequenceLength_le {first : Byte} {rest : List Byte} (valid : validSequence first rest = true) :
    0 < sequenceLength first ∧ sequenceLength first ≤ rest.length + 1 := by
  obtain ⟨c, head⟩ := validSequence_decodes valid
  exact (Utf8.encodePoint_decodeHead head).2

/-- What the loop has written stays. -/
theorem copyLoop_grows (maximum fuel : Nat) (source target : List Byte) (changed : Bool) :
    target <+: (copyLoop maximum fuel source target changed).1 := by
  induction fuel generalizing source target changed with
  | zero => exact List.prefix_rfl
  | succ fuel ih =>
    cases source with
    | nil => exact List.prefix_rfl
    | cons first rest =>
      unfold copyLoop
      dsimp only
      split_ifs
      · exact List.prefix_rfl
      · exact (List.prefix_append _ _).trans (ih _ _ _)
      · exact List.prefix_rfl
      · exact (List.prefix_append _ _).trans (ih _ _ _)

/-- The terminator goes behind what is written. -/
theorem finishCopy_append (out free : List Byte) (flag : Bool) (room : 0 < free.length) :
    finishCopy (out ++ free) out.length flag =
      some (out ++ Byte.ofNat 0 :: free.drop (out.length - out.length + 1), flag) := by
  cases free with
  | nil => simp at room
  | cons old free =>
    rw [finishCopy, store_append, Nat.sub_self]
    rfl

/-- The loop on memory does not fault and ends with what the loop on lists writes, the terminator, and
the rest of the target as it was. -/
theorem copyFrom_eq (maximum fuel turns : Nat) (past source out free : List Byte) (changed : Bool)
    (noNul : ∀ b ∈ source, b ≠ Byte.ofNat 0) (fuelled : source.length ≤ fuel) (enough : source.length < turns)
    (fits : out.length ≤ maximum) (room : maximum < out.length + free.length) :
    copyFrom (past ++ (source ++ [Byte.ofNat 0])) maximum turns past.length out.length (out ++ free) changed =
      some ((copyLoop maximum fuel source out changed).1 ++ Byte.ofNat 0 ::
          free.drop ((copyLoop maximum fuel source out changed).1.length - out.length + 1),
        (copyLoop maximum fuel source out changed).2) := by
  induction fuel generalizing turns past source out free changed with
  | zero =>
    obtain rfl := List.length_eq_zero_iff.mp (Nat.le_zero.mp fuelled)
    obtain ⟨turns, rfl⟩ : ∃ more, turns = more + 1 := ⟨turns - 1, by simp at enough; omega⟩
    rw [copyFrom]
    simp only [List.nil_append, List.getElem?_concat_length, if_true]
    exact finishCopy_append out free changed (by omega)
  | succ fuel ih =>
    obtain ⟨turns, rfl⟩ : ∃ more, turns = more + 1 := ⟨turns - 1, by omega⟩
    cases source with
    | nil =>
      rw [copyFrom]
      simp only [List.nil_append, List.getElem?_concat_length, if_true]
      exact finishCopy_append out free changed (by omega)
    | cons first rest =>
      rw [List.length_cons] at fuelled enough
      have read : (past ++ (first :: rest ++ [Byte.ofNat 0]))[past.length]? = some first := by simp
      have test : (if first.val < 0x80 ∨ 1 < sequenceLength first then
          continuationValid (past ++ (first :: rest ++ [Byte.ofNat 0])) past.length first (sequenceLength first - 1) 1
        else some false) = some (validSequence first rest) := by
        rw [List.cons_append, continuationValid_eq past first rest _ 1 (by omega) (by omega)]
        split
        · next lead => simp [validSequence, lead]
        · next lead => simp [validSequence, lead]
      rw [copyFrom, read, copyLoop]
      dsimp only
      rw [if_neg (noNul first List.mem_cons_self), test]
      cases valid : validSequence first rest with
      | false =>
        simp only [Bool.not_false, if_true]
        split
        · exact finishCopy_append out free true (by omega)
        · next more =>
          cases free with
          | nil => simp at room; omega
          | cons old free =>
            rw [List.length_cons] at room
            have next := ih turns (past ++ [first]) rest (out ++ [Byte.ofNat 0x3F]) free true
              (fun b mem => noNul b (List.mem_cons_of_mem _ mem)) (by omega) (by omega)
              (by rw [List.length_append, List.length_singleton]; omega)
              (by rw [List.length_append, List.length_singleton]; omega)
            have grown := (copyLoop_grows maximum fuel rest (out ++ [Byte.ofNat 0x3F]) true).length_le
            simp only [List.append_assoc, List.length_append, List.length_singleton, List.singleton_append]
              at next grown
            rw [store_append, Option.bind_some, List.cons_append, next, List.drop_succ_cons]
            congr 5
            omega
      | true =>
        simp only [Bool.not_true, Bool.false_eq_true, if_false]
        split
        · exact finishCopy_append out free true (by omega)
        · next more =>
          obtain ⟨positive, inside⟩ := sequenceLength_le valid
          generalize chunk_eq : (first :: rest).take (sequenceLength first) = chunk
          generalize later_eq : (first :: rest).drop (sequenceLength first) = later
          have whole : first :: rest = chunk ++ later := by rw [← chunk_eq, ← later_eq, List.take_append_drop]
          have taken : sequenceLength first = chunk.length := by
            rw [← chunk_eq, List.length_take, List.length_cons]
            omega
          have size := congrArg List.length whole
          rw [List.length_append, List.length_cons] at size
          have next := ih turns (past ++ chunk) later (out ++ chunk) (free.drop chunk.length) changed
            (fun b mem => noNul b (by rw [whole]; exact List.mem_append_right _ mem)) (by omega) (by omega)
            (by rw [List.length_append]; omega) (by rw [List.length_append, List.length_drop]; omega)
          have grown := (copyLoop_grows maximum fuel later (out ++ chunk) changed).length_le
          simp only [List.append_assoc, List.length_append, List.drop_drop] at next grown
          rw [taken, whole, List.append_assoc, memcpy_append past chunk _ out free (by omega), Option.bind_some,
            List.append_assoc, next]
          congr 5
          omega

/-- `copy_utf8` on memory does not fault, and copies what `copyUtf8` does. -/
theorem copyUtf8In_eq (source : CString) (maximum : Nat) (target : List Byte) (size : target.length = maximum + 1) :
    copyUtf8In (some source.memory) target maximum =
      some ((copyUtf8 (some source) maximum).1 ++ Byte.ofNat 0 ::
          target.drop ((copyUtf8 (some source) maximum).1.length + 1), (copyUtf8 (some source) maximum).2) := by
  have enough : source.bytes.length < source.memory.length := by simp [CString.memory]
  exact copyFrom_eq maximum source.bytes.length source.memory.length [] source.bytes [] target false source.noNul
    le_rfl enough (Nat.zero_le _) (by simp [size])

/-! ## What is copied -/

/-- A character of the grammar is a valid sequence. -/
theorem validSequence_of_isChar {first : Byte} {rest char more : List Byte} (derived : IsChar char)
    (same : first :: rest = char ++ more) :
    validSequence first rest = true ∧ sequenceLength first = char.length := by
  obtain ⟨a, rfl, one⟩ | ⟨a, b, rfl, two, second⟩ | ⟨a, b, c, rfl, three, second, third⟩ |
    ⟨a, b, c, d, rfl, four, second, third, fourth⟩ := derived.cases <;>
    simp only [List.cons_append, List.nil_append, List.cons.injEq] at same <;> obtain ⟨rfl, rfl⟩ := same
  · have length : sequenceLength first = 1 := by
      unfold sequenceLength
      repeat rw [if_neg (by omega)]
    simp [validSequence, length, one]
  · have length : sequenceLength first = 2 := if_pos two
    have next : continuesAt first (b :: more) 1 = true := by
      refine continuesAt_iff.mpr ⟨second, fun _ => Utf8.secondOk_iff.mpr ?_⟩
      have range := Utf8.isContinuation_iff.mp second
      simp only [Nat.sub_self, List.getD_cons_zero]
      omega
    simp [validSequence, length, next]
  · have length : sequenceLength first = 3 := (if_neg (by omega)).trans (if_pos three)
    have next : continuesAt first (b :: c :: more) 1 = true :=
      continuesAt_iff.mpr ⟨Utf8.isContinuation_iff.mpr (Utf8.secondOk_iff.mp second).1, fun _ => second⟩
    have afterNext : continuesAt first (b :: c :: more) 2 = true := continuesAt_iff.mpr ⟨third, by omega⟩
    simp [validSequence, length, next, afterNext, List.range']
  · have length : sequenceLength first = 4 :=
      (if_neg (by omega)).trans ((if_neg (by omega)).trans (if_pos four))
    have next : continuesAt first (b :: c :: d :: more) 1 = true :=
      continuesAt_iff.mpr ⟨Utf8.isContinuation_iff.mpr (Utf8.secondOk_iff.mp second).1, fun _ => second⟩
    have afterNext : continuesAt first (b :: c :: d :: more) 2 = true := continuesAt_iff.mpr ⟨third, by omega⟩
    have last : continuesAt first (b :: c :: d :: more) 3 = true := continuesAt_iff.mpr ⟨fourth, by omega⟩
    simp [validSequence, length, next, afterNext, last, List.range']

/-- The loop writes no NUL. -/
theorem copyLoop_noNul (maximum fuel : Nat) (source target : List Byte) (changed : Bool)
    (noNul : ∀ b ∈ source, b ≠ Byte.ofNat 0) (written : ∀ b ∈ target, b ≠ Byte.ofNat 0) :
    ∀ b ∈ (copyLoop maximum fuel source target changed).1, b ≠ Byte.ofNat 0 := by
  induction fuel generalizing source target changed with
  | zero => exact written
  | succ fuel ih =>
    cases source with
    | nil => exact written
    | cons first rest =>
      unfold copyLoop
      dsimp only
      split_ifs
      · exact written
      · refine ih _ _ _ (fun b mem => noNul b (List.mem_cons_of_mem _ mem)) fun b mem => ?_
        obtain old | new := List.mem_append.mp mem
        · exact written b old
        · rw [List.mem_singleton.mp new]
          decide
      · exact written
      · refine ih _ _ _ (fun b mem => noNul b (List.mem_of_mem_drop mem)) fun b mem => ?_
        obtain old | new := List.mem_append.mp mem
        · exact written b old
        · exact noNul b (List.mem_of_mem_take new)

/-- Of well-formed input the loop copies whole characters, as long as the next one fits. -/
theorem copyLoop_wellFormed (maximum fuel : Nat) (source target : List Byte) (changed : Bool)
    (enough : source.length ≤ fuel) (fits : target.length ≤ maximum) (formed : WellFormed source) :
    ∃ front, front <+: source ∧ (copyLoop maximum fuel source target changed).1 = target ++ front ∧
      ∀ other, other <+: source → WellFormed other → target.length + other.length ≤ maximum → other <+: front := by
  induction fuel generalizing source target changed with
  | zero =>
    obtain rfl := List.length_eq_zero_iff.mp (Nat.le_zero.mp enough)
    exact ⟨[], List.prefix_rfl, (List.append_nil _).symm, fun other before _ _ => before⟩
  | succ fuel ih =>
    cases source with
    | nil => exact ⟨[], List.prefix_rfl, (List.append_nil _).symm, fun other before _ _ => before⟩
    | cons first rest =>
      obtain ⟨char, more, same, derived, formed⟩ := formed.head (List.cons_ne_nil _ _)
      obtain ⟨valid, length⟩ := validSequence_of_isChar derived same
      have positive := derived.length_pos
      have size := congrArg List.length same
      rw [List.length_append, List.length_cons] at size
      rw [List.length_cons] at enough
      -- a well-formed prefix is empty or starts with the same character
      have starts : ∀ other, other <+: first :: rest → WellFormed other →
          other = [] ∨ ∃ tail, other = char ++ tail ∧ tail <+: more ∧ WellFormed tail := by
        rintro other ⟨behind, joined⟩ whole
        by_cases none : other = []
        · exact .inl none
        · obtain ⟨char', tail, rfl, derived', formed'⟩ := whole.head none
          rw [same, List.append_assoc] at joined
          obtain ⟨rfl, inside⟩ := derived'.append_inj derived joined
          exact .inr ⟨tail, rfl, ⟨behind, inside⟩, formed'⟩
      unfold copyLoop
      dsimp only
      rw [valid, length]
      simp only [Bool.not_true, Bool.false_eq_true, if_false]
      split
      · next full =>
        refine ⟨[], List.nil_prefix, (List.append_nil _).symm, fun other before whole small => ?_⟩
        obtain rfl | ⟨tail, rfl, -, -⟩ := starts other before whole
        · exact List.prefix_rfl
        · rw [List.length_append] at small
          omega
      · next room =>
        rw [same, List.take_left, List.drop_left]
        obtain ⟨front, before, copied, longest⟩ := ih more (target ++ char) changed (by omega)
          (by rw [List.length_append]; omega) formed
        refine ⟨char ++ front, (List.prefix_append_right_inj char).mpr before, ?_, fun other start whole small => ?_⟩
        · rw [copied, List.append_assoc]
        · rw [← same] at start
          obtain rfl | ⟨tail, rfl, inside, rest⟩ := starts other start whole
          · exact List.nil_prefix
          · rw [List.length_append] at small
            refine (List.prefix_append_right_inj char).mpr (longest tail inside rest ?_)
            rw [List.length_append]
            omega

/-- **UTF-8 handling.** -/
theorem utf8_handled :
    (∀ input, isValidUtf8 input = true ↔ WellFormed input) ∧
      ∀ (source : CString) (maximum : Nat) (target : List Byte), target.length = maximum + 1 →
        ∃ output changed,
          copyUtf8In (some source.memory) target maximum =
            some (output ++ Byte.ofNat 0 :: target.drop (output.length + 1), changed) ∧
          output.length ≤ maximum ∧ (∀ b ∈ output, b ≠ Byte.ofNat 0) ∧ isValidUtf8 output = true ∧
          (changed = false ↔ output = source.bytes) ∧
          (isValidUtf8 source.bytes = true → output <+: source.bytes ∧
            ∀ whole, whole <+: source.bytes → WellFormed whole → whole.length ≤ maximum → whole <+: output) := by
  refine ⟨fun input => isValidUtf8_iff, fun source maximum target size => ?_⟩
  obtain ⟨bounded, utf8, faithful⟩ := copyUtf8_spec (some source) maximum
  refine ⟨_, _, copyUtf8In_eq source maximum target size, bounded, ?_, ?_, ?_, fun valid => ?_⟩
  · exact copyLoop_noNul maximum _ source.bytes [] false source.noNul (by simp)
  · exact isValidUtf8_iff.mpr (Utf8.wellFormed_iff_encode.mpr utf8)
  · rw [Option.map_some, ne_eq, Option.some.injEq] at faithful
    rw [← Bool.not_eq_true, faithful, Decidable.not_not, eq_comm]
  · obtain ⟨front, before, copied, longest⟩ := copyLoop_wellFormed maximum source.bytes.length source.bytes [] false
      le_rfl (Nat.zero_le _) (isValidUtf8_iff.mp valid)
    rw [List.nil_append] at copied
    simp only [List.length_nil, Nat.zero_add] at longest
    change (copyUtf8 (some source) maximum).1 = front at copied
    rw [copied]
    exact ⟨before, longest⟩

/-- `aé` in two bytes: the second character is left out, and the rest of the target stays. -/
theorem utf8_handled_cut :
    copyUtf8In (some (octets [0x61, 0xC3, 0xA9, 0])) (octets [1, 2, 3]) 2 = some (octets [0x61, 0, 3], true) ∧
      ∃ output changed, copyUtf8In (some (octets [0x61, 0xC3, 0xA9, 0])) (octets [1, 2, 3]) 2 =
          some (output ++ Byte.ofNat 0 :: (octets [1, 2, 3]).drop (output.length + 1), changed) ∧ output.length ≤ 2 := by
  obtain ⟨output, changed, copied, bounded, -⟩ :=
    utf8_handled.2 ⟨octets [0x61, 0xC3, 0xA9], by simp [octets, Byte.ofNat]⟩ 2 (octets [1, 2, 3]) (by decide)
  exact ⟨by decide, output, changed, copied, bounded⟩

end EmsDnp3.Native
