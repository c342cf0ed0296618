import EmsDnp3.Base.Utf8Replace
import EmsDnp3.Python.Patterns

/-!
# The diagnostic tail

`_TailBuffer` of `client.py`: chunks are appended, bytes before the last `capacity` are dropped, and `text` decodes
what is left and redacts the token fields in it.
-/

namespace EmsDnp3.Python

/-- `"safety_token"`, with its quotes. -/
def tokenKey : Text := Json.quote :: text "safety_token" ++ [Json.quote]

/-- The rest behind a token field, and where its token begins. -/
def tokenField? (t : Text) : Option (Text × Text) := do
  let value ← fieldStart (literal tokenKey) t
  if (value.take 32).length = 32 && (value.take 32).all isHexDigit then
    let rest ← literal [Json.quote] (value.drop 32)
    return (value, rest)
  else none

/-- `_DIAGNOSTIC_SAFETY_TOKEN_PATTERN` with its replacement. -/
def diagnosticTokenPattern : Matcher CodePoint := fun _ t => do
  let (value, rest) ← tokenField? t
  return (t.length - rest.length, consumed t value ++ text "<redacted>" ++ [Json.quote])

/-- `_TailBuffer` -/
structure TailBuffer where
  capacity : Nat
  chunks : List (List Byte) := []
  size : Nat := 0
deriving DecidableEq

namespace TailBuffer

/-- The loop of `append`: it ends with the chunk that is cut, or with no overflow. -/
def trim (capacity : Nat) : List (List Byte) → Nat → List (List Byte) × Nat
  | [], size => ([], size)
  | first :: rest, size =>
    if capacity < size then
      let overflow := size - capacity
      if first.length ≤ overflow then trim capacity rest (size - first.length)
      else (first.drop overflow :: rest, size - overflow)
    else (first :: rest, size)

/-- An empty chunk changes nothing; any other is kept and the front trimmed. -/
def append (chunk : List Byte) (b : TailBuffer) : TailBuffer :=
  if chunk = [] then b
  else
    let (chunks, size) := trim b.capacity (b.chunks ++ [chunk]) (b.size + chunk.length)
    { b with chunks, size }

/-- `text` -/
def text (b : TailBuffer) : Text :=
  substitute diagnosticTokenPattern 0 none (Utf8.decodeReplace b.chunks.flatten)

/-- A buffer of this capacity after these chunks. -/
def of (capacity : Nat) (chunks : List (List Byte)) : TailBuffer :=
  chunks.foldl (fun b chunk => b.append chunk) { capacity }

/-- Trimming leaves the last octets, up to the capacity. -/
theorem trim_spec (capacity : Nat) (chunks : List (List Byte)) :
    (trim capacity chunks chunks.flatten.length).1.flatten = chunks.flatten.rtake capacity ∧
      (trim capacity chunks chunks.flatten.length).2 = (chunks.flatten.rtake capacity).length := by
  induction chunks with
  | nil => simp [trim, List.rtake]
  | cons first rest ih =>
    have whole : (first :: rest).flatten.length = first.length + rest.flatten.length := by simp
    rw [trim, whole]
    split
    · next overflows =>
      dsimp only
      split
      · next all =>
        have dropped : (first :: rest).flatten.rtake capacity = rest.flatten.rtake capacity := by
          rw [List.rtake, List.rtake, whole, List.flatten_cons, List.drop_append, List.drop_eq_nil_of_le (by omega),
            List.nil_append]
          congr 1
          omega
        rw [Nat.add_sub_cancel_left, dropped]
        exact ih
      · next part =>
        have dropped : (first :: rest).flatten.rtake capacity =
            first.drop (first.length + rest.flatten.length - capacity) ++ rest.flatten := by
          rw [List.rtake, whole, List.flatten_cons, List.drop_append_of_le_length (by omega)]
        rw [dropped]
        refine ⟨rfl, ?_⟩
        rw [List.length_append, List.length_drop]
        omega
    · next fits =>
      have all : (first :: rest).flatten.rtake capacity = (first :: rest).flatten := by
        rw [List.rtake, whole, Nat.sub_eq_zero_of_le (by omega), List.drop_zero]
      rw [all]
      exact ⟨rfl, whole.symm⟩

/-- The buffer holds the last bytes of all that was appended. -/
theorem of_spec (capacity : Nat) (chunks : List (List Byte)) :
    (of capacity chunks).capacity = capacity ∧ (of capacity chunks).chunks.flatten = chunks.flatten.rtake capacity ∧
      (of capacity chunks).size = (chunks.flatten.rtake capacity).length := by
  induction chunks using List.reverseRecOn with
  | nil => simp [of, List.rtake]
  | append_singleton chunks chunk ih =>
    obtain ⟨same, bytes, size⟩ := ih
    rw [of, List.foldl_append, List.foldl_cons, List.foldl_nil, ← of, append]
    split
    · next none_ =>
      rw [none_, List.flatten_append]
      simpa using ⟨same, bytes, size⟩
    · have held : ((of capacity chunks).chunks ++ [chunk]).flatten = chunks.flatten.rtake capacity ++ chunk := by
        rw [List.flatten_append, bytes]
        simp
      have length : (of capacity chunks).size + chunk.length = ((of capacity chunks).chunks ++ [chunk]).flatten.length := by
        rw [held, size, List.length_append]
      have last : (chunks.flatten.rtake capacity ++ chunk).rtake capacity = (chunks ++ [chunk]).flatten.rtake capacity := by
        rw [List.flatten_append, List.flatten_singleton, List.rtake, List.rtake, List.rtake, List.length_append,
          List.length_drop, List.length_append]
        rw [← List.drop_append_of_le_length (by omega), List.drop_drop]
        congr 1
        omega
      have trimmed := trim_spec capacity ((of capacity chunks).chunks ++ [chunk])
      rw [held, last] at trimmed
      dsimp only
      rw [length, same, held]
      exact ⟨rfl, trimmed⟩

end TailBuffer

end EmsDnp3.Python
