import EmsDnp3.Native.ProtocolTrace

/-!
# Bounded UTF-8 copies

`copy_utf8` writes at most `maximum` bytes of well-formed UTF-8 whatever it reads, and reports
a change exactly when the copy is not the source.
-/

namespace EmsDnp3.Native

/-- A test of the byte at `index` of a list that is long enough. -/
theorem continuesAt_iff {first : Byte} {rest : List Byte} {index : Nat} : continuesAt first rest index = true ↔
    Utf8.isContinuation (rest.getD (index - 1) (Byte.ofNat 0)) = true ∧
      (index = 1 → Utf8.secondOk first (rest.getD (index - 1) (Byte.ofNat 0)) = true) := by
  generalize next_eq : rest.getD (index - 1) (Byte.ofNat 0) = next
  simp only [continuesAt, next_eq]
  by_cases one : index = 1
  · simp [one, Utf8.secondOk, Utf8.isContinuation]
    tauto
  · simp [one, Utf8.isContinuation]

/-- The NUL behind the last byte continues nothing. -/
theorem not_isContinuation_nul : Utf8.isContinuation (Byte.ofNat 0) = false := by decide

/-- A valid sequence is what the decoder reads at the head. -/
theorem validSequence_decodes {first : Byte} {rest : List Byte} (valid : validSequence first rest = true) :
    ∃ c, Utf8.decodeHead (first :: rest) = some (c, sequenceLength first) := by
  have nul := not_isContinuation_nul
  simp only [validSequence, Bool.and_eq_true, Bool.or_eq_true, decide_eq_true_eq] at valid
  obtain ⟨lead, all⟩ := valid
  by_cases ascii : first.val < 0x80
  · have one : sequenceLength first = 1 := by
      unfold sequenceLength
      repeat rw [if_neg (by omega)]
    exact ⟨_, by rw [one]; exact Utf8.decodeHead_one rest ascii⟩
  unfold sequenceLength at lead all ⊢
  split at all
  · next two =>
    simp only [Nat.add_one_sub_one, List.range'_one, List.all_cons, List.all_nil, Bool.and_true] at all
    obtain ⟨second, -⟩ := continuesAt_iff.mp all
    cases rest with
    | nil => simp [nul] at second
    | cons b rest => exact ⟨_, by rw [if_pos two]; exact Utf8.decodeHead_two rest two second⟩
  split at all
  · next notTwo three =>
    have tests : continuesAt first rest 1 = true ∧ continuesAt first rest 2 = true := by
      simpa [List.range'] using all
    obtain ⟨-, second⟩ := continuesAt_iff.mp tests.1
    obtain ⟨third, -⟩ := continuesAt_iff.mp tests.2
    match rest, second, third with
    | [], second, third => simp [nul] at third
    | [b], second, third => simp [nul] at third
    | b :: c :: rest, second, third =>
      exact ⟨_, by rw [if_neg notTwo, if_pos three]; exact Utf8.decodeHead_three rest three (second rfl) third⟩
  split at all
  · next notTwo notThree four =>
    have tests : continuesAt first rest 1 = true ∧ continuesAt first rest 2 = true ∧ continuesAt first rest 3 = true := by
      simpa [List.range'] using all
    obtain ⟨-, second⟩ := continuesAt_iff.mp tests.1
    obtain ⟨third, -⟩ := continuesAt_iff.mp tests.2.1
    obtain ⟨fourth, -⟩ := continuesAt_iff.mp tests.2.2
    match rest, second, third, fourth with
    | [], second, third, fourth => simp [nul] at third
    | [b], second, third, fourth => simp [nul] at third
    | [b, c], second, third, fourth => simp [nul] at fourth
    | b :: c :: d :: rest, second, third, fourth =>
      exact ⟨_, by
        rw [if_neg notTwo, if_neg notThree, if_pos four]
        exact Utf8.decodeHead_four rest four (second rfl) third fourth⟩
  · next notTwo notThree notFour =>
    rw [if_neg notTwo, if_neg notThree, if_neg notFour] at lead
    omega

/-- A byte that starts no valid sequence is not a question mark. -/
theorem ne_questionMark_of_invalid {first : Byte} {rest : List Byte} (invalid : validSequence first rest = false) :
    first ≠ Byte.ofNat 0x3F := by
  rintro rfl
  have valid : validSequence (Byte.ofNat 0x3F) rest = true := by
    have one : sequenceLength (Byte.ofNat 0x3F) = 1 := by decide
    simp only [validSequence, one]
    rfl
  rw [valid] at invalid
  cases invalid

/-- Well-formed UTF-8. -/
def IsUtf8 (bytes : List Byte) : Prop := ∃ text, Utf8.encode text = some bytes

/-- Well-formed text next to well-formed text. -/
theorem IsUtf8.append {first second : List Byte} (one : IsUtf8 first) (two : IsUtf8 second) :
    IsUtf8 (first ++ second) := by
  obtain ⟨start, encoded⟩ := one
  obtain ⟨rest, more⟩ := two
  refine ⟨start ++ rest, ?_⟩
  induction start generalizing first with
  | nil =>
    obtain rfl := Option.some.inj encoded
    exact more
  | cons c start ih =>
    rw [Utf8.encode] at encoded
    split at encoded
    · next head tail here there =>
      obtain rfl := Option.some.inj encoded
      rw [List.cons_append, Utf8.encode, here, ih there, List.append_assoc]
    · cases encoded

theorem IsUtf8.point {c : CodePoint} {bytes : List Byte} (encoded : Utf8.encodePoint c = some bytes) : IsUtf8 bytes :=
  ⟨[c], by simp [Utf8.encode, encoded]⟩

/-- The loop: bounded, well formed, and `changed` says whether what was read so far is not what was
written. Both have the same length, so a later byte cannot make up for an earlier one. -/
theorem copyLoop_spec (maximum fuel : Nat) (source target : List Byte) (changed : Bool) (enough : source.length ≤ fuel)
    (fits : target.length ≤ maximum) (valid : IsUtf8 target) :
    (copyLoop maximum fuel source target changed).1.length ≤ maximum ∧
      IsUtf8 (copyLoop maximum fuel source target changed).1 ∧
      ∀ past : List Byte, past.length = target.length → (changed = true ↔ past ≠ target) →
        ((copyLoop maximum fuel source target changed).2 = true ↔
          past ++ source ≠ (copyLoop maximum fuel source target changed).1) := by
  induction fuel generalizing source target changed with
  | zero =>
    obtain rfl := List.length_eq_zero_iff.mp (Nat.le_zero.mp enough)
    refine ⟨fits, valid, fun past _ same => ?_⟩
    rw [List.append_nil]
    exact same
  | succ fuel ih =>
    cases source with
    | nil =>
      refine ⟨fits, valid, fun past _ same => ?_⟩
      rw [List.append_nil]
      exact same
    | cons first rest =>
      rw [List.length_cons] at enough
      -- a copy that stops is shorter than the source
      have stops : ∀ past : List Byte, past.length = target.length → (true = true ↔ past ++ first :: rest ≠ target) := by
        intro past size
        refine iff_of_true rfl fun same => ?_
        have := congrArg List.length same
        rw [List.length_append, List.length_cons] at this
        omega
      unfold copyLoop
      cases sequence : validSequence first rest with
      | false =>
        simp only [Bool.not_false, if_true]
        split
        · exact ⟨fits, valid, fun past size _ => stops past size⟩
        · next room =>
          have mark : IsUtf8 [Byte.ofNat 0x3F] := .point (c := CodePoint.ofNat 0x3F) (by decide)
          obtain ⟨bounded, utf8, faithful⟩ := ih rest (target ++ [Byte.ofNat 0x3F]) true (by omega)
            (by rw [List.length_append, List.length_singleton]; omega) (valid.append mark)
          refine ⟨bounded, utf8, fun past size _ => ?_⟩
          have replaced : past ++ [first] ≠ target ++ [Byte.ofNat 0x3F] := by
            intro same
            have last := (List.append_inj' same rfl).2
            exact ne_questionMark_of_invalid sequence (List.singleton_inj.mp last)
          have := faithful (past ++ [first]) (by simp [size]) (iff_of_true rfl replaced)
          rwa [List.append_assoc] at this
      | true =>
        obtain ⟨c, head⟩ := validSequence_decodes sequence
        obtain ⟨encoded, positive, inside⟩ := Utf8.encodePoint_decodeHead head
        simp only [Bool.not_true, Bool.false_eq_true, if_false]
        split
        · exact ⟨fits, valid, fun past size _ => stops past size⟩
        · next room =>
          have taken : ((first :: rest).take (sequenceLength first)).length = sequenceLength first := by
            rw [List.length_take]
            omega
          obtain ⟨bounded, utf8, faithful⟩ := ih ((first :: rest).drop (sequenceLength first))
            (target ++ (first :: rest).take (sequenceLength first)) changed
            (by rw [List.length_drop, List.length_cons]; omega) (by rw [List.length_append, taken]; omega)
            (valid.append (.point encoded))
          refine ⟨bounded, utf8, fun past size same => ?_⟩
          have := faithful (past ++ (first :: rest).take (sequenceLength first))
            (by rw [List.length_append, List.length_append, size]) (same.trans (List.append_left_inj _).not.symm)
          rwa [List.append_assoc, List.take_append_drop] at this

/-- **Bounded copies.** -/
theorem copyUtf8_spec (source : Option CString) (maximum : Nat) :
    (copyUtf8 source maximum).1.length ≤ maximum ∧ IsUtf8 (copyUtf8 source maximum).1 ∧
      ((copyUtf8 source maximum).2 = true ↔ source.map (·.bytes) ≠ some (copyUtf8 source maximum).1) := by
  have empty : IsUtf8 [] := ⟨[], rfl⟩
  cases source with
  | none => exact ⟨Nat.zero_le _, empty, by simp [copyUtf8]⟩
  | some source =>
    obtain ⟨bounded, utf8, faithful⟩ := copyLoop_spec maximum source.bytes.length source.bytes [] false le_rfl
      (Nat.zero_le _) empty
    refine ⟨bounded, utf8, ?_⟩
    have := faithful [] rfl (by simp)
    rw [Option.map_some, ne_eq, Option.some.injEq]
    exact this

end EmsDnp3.Native
