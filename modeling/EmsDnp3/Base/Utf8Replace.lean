import EmsDnp3.Base.Utf8

/-!
# UTF-8 with replacement

`bytes.decode("utf-8", errors="replace")`: a sequence that does not decode is replaced by one `U+FFFD`, as far as
it could have been the start of one that does. An ASCII byte is never part of such a sequence, so a text can be
decoded in two parts there.
-/

namespace EmsDnp3.Utf8

/-- The length of a sequence that does not decode. -/
def brokenLength : List Byte → Nat
  | [] => 1
  | a :: rest =>
    if 0xE0 ≤ a.val ∧ a.val ≤ 0xEF then
      match rest with
      | b :: _ => if secondOk a b then 2 else 1
      | [] => 1
    else if 0xF0 ≤ a.val ∧ a.val ≤ 0xF4 then
      match rest with
      | b :: c :: _ => if secondOk a b then if isContinuation c then 3 else 2 else 1
      | [b] => if secondOk a b then 2 else 1
      | [] => 1
    else 1

/-- The code point that the head of a byte string becomes, and how many bytes it takes. -/
def replaceHead (bytes : List Byte) : CodePoint × Nat :=
  (decodeHead bytes).getD (.ofNat 0xFFFD, brokenLength bytes)

/-- The decoder, one character or one replacement at a time. -/
def decodeReplaceUpTo : Nat → List Byte → Text
  | fuel + 1, bytes@(_ :: _) => (replaceHead bytes).1 :: decodeReplaceUpTo fuel (bytes.drop (replaceHead bytes).2)
  | _, _ => []

/-- `bytes.decode("utf-8", errors="replace")` -/
def decodeReplace (bytes : List Byte) : Text := decodeReplaceUpTo bytes.length bytes

/-- An ASCII byte as a code point. -/
def asciiPoint (b : Byte) : CodePoint := .ofNat b.val

theorem brokenLength_pos (bytes : List Byte) : 0 < brokenLength bytes := by
  unfold brokenLength
  repeat' split
  all_goals decide

theorem replaceHead_pos (bytes : List Byte) : 0 < (replaceHead bytes).2 := by
  unfold replaceHead
  cases read : decodeHead bytes with
  | none => exact brokenLength_pos bytes
  | some result => exact (encodePoint_decodeHead read).2.1

/-- Fuel for every octet is enough. -/
theorem decodeReplaceUpTo_eq {fuel more : Nat} {bytes : List Byte} (enough : bytes.length ≤ fuel)
    (also_ : bytes.length ≤ more) : decodeReplaceUpTo fuel bytes = decodeReplaceUpTo more bytes := by
  induction fuel generalizing more bytes with
  | zero =>
    obtain rfl := List.length_eq_zero_iff.mp (Nat.le_zero.mp enough)
    cases more <;> rfl
  | succ fuel ih =>
    cases bytes with
    | nil => cases more <;> rfl
    | cons a rest =>
      have positive := replaceHead_pos (a :: rest)
      rw [List.length_cons] at enough also_
      obtain ⟨more, rfl⟩ : ∃ n, more = n + 1 := ⟨more - 1, by omega⟩
      rw [decodeReplaceUpTo, decodeReplaceUpTo]
      refine congrArg _ (ih ?_ ?_)
      · rw [List.length_drop, List.length_cons]
        omega
      · rw [List.length_drop, List.length_cons]
        omega

theorem decodeReplace_cons (a : Byte) (rest : List Byte) : decodeReplace (a :: rest) =
    (replaceHead (a :: rest)).1 :: decodeReplace ((a :: rest).drop (replaceHead (a :: rest)).2) := by
  have positive := replaceHead_pos (a :: rest)
  rw [decodeReplace, List.length_cons, decodeReplaceUpTo, decodeReplace]
  refine congrArg _ (decodeReplaceUpTo_eq ?_ (Nat.le_refl _))
  rw [List.length_drop, List.length_cons]
  omega

section
variable {a : Byte}

theorem replaceHead_ascii (ascii : a.val < 0x80) (rest : List Byte) : replaceHead (a :: rest) = (asciiPoint a, 1) := by
  rw [replaceHead, decodeHead_one rest ascii]
  rfl

/-- An ASCII byte never belongs to the sequence before it. -/
theorem replaceHead_append (ascii : a.val < 0x80) {bytes : List Byte} (some_ : bytes ≠ []) (rest : List Byte) :
    replaceHead (bytes ++ a :: rest) = replaceHead bytes ∧ (replaceHead bytes).2 ≤ bytes.length := by
  have other : isContinuation a = false := by
    simp only [isContinuation, Bool.and_eq_false_iff, decide_eq_false_iff_not]
    omega
  have second (b : Byte) : secondOk b a = false := by simp [secondOk, other]
  rcases bytes with _ | ⟨b, _ | ⟨c, _ | ⟨d, _ | ⟨e, more⟩⟩⟩⟩
  · exact absurd rfl some_
  · rcases rest with _ | ⟨r, _ | ⟨s, t⟩⟩ <;> simp only [replaceHead, decodeHead, brokenLength, List.cons_append,
      List.nil_append, other, second, Bool.false_and, Bool.false_eq_true, if_false] <;> split_ifs <;> simp
  · rcases rest with _ | ⟨r, t⟩ <;> simp only [replaceHead, decodeHead, brokenLength, List.cons_append,
      List.nil_append, other, Bool.and_false, Bool.false_and, Bool.false_eq_true, if_false] <;> split_ifs <;> simp
  · simp only [replaceHead, decodeHead, brokenLength, List.cons_append, List.nil_append, other, Bool.and_false,
      Bool.false_eq_true, if_false]
    split_ifs <;> simp
  · simp only [replaceHead, decodeHead, brokenLength, List.cons_append]
    split_ifs <;> simp

/-- At an ASCII byte a text is decoded in two parts. -/
theorem decodeReplace_append (ascii : a.val < 0x80) (bytes rest : List Byte) :
    decodeReplace (bytes ++ a :: rest) = decodeReplace bytes ++ asciiPoint a :: decodeReplace rest := by
  induction size : bytes.length using Nat.strongRecOn generalizing bytes with
  | ind size ih =>
    cases bytes with
    | nil =>
      rw [List.nil_append, decodeReplace_cons, replaceHead_ascii ascii]
      rfl
    | cons b more =>
      obtain ⟨same, inside⟩ := replaceHead_append ascii (List.cons_ne_nil b more) rest
      have positive := replaceHead_pos (b :: more)
      rw [decodeReplace_cons b more, List.cons_append, decodeReplace_cons, ← List.cons_append, same,
        List.drop_append_of_le_length inside, List.cons_append]
      refine congrArg _ (ih _ ?_ _ rfl)
      rw [← size, List.length_drop, List.length_cons]
      omega

/-- ASCII in the middle is decoded on its own: it ends whatever stands in front of it. -/
theorem decodeReplace_ascii {bytes : List Byte} (ascii : ∀ b ∈ bytes, b.val < 0x80) (some_ : bytes ≠ [])
    (front rest : List Byte) :
    decodeReplace (front ++ (bytes ++ rest)) = decodeReplace front ++ (bytes.map asciiPoint ++ decodeReplace rest) := by
  induction bytes generalizing front with
  | nil => exact absurd rfl some_
  | cons b more ih =>
    rw [List.cons_append, decodeReplace_append (ascii b List.mem_cons_self), List.map_cons, List.cons_append]
    refine congrArg (fun tail => decodeReplace front ++ asciiPoint b :: tail) ?_
    cases more with
    | nil => rfl
    | cons c more => exact ih (fun c inside => ascii c (List.mem_cons_of_mem _ inside)) (List.cons_ne_nil c more) []

end

end EmsDnp3.Utf8
