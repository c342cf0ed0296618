import Mathlib

/-!
# A window over the last accepted keys

A stream of keys in which a key is refused while it stands among the last `n` accepted ones.
`accepted n keys` is the history of the accepted keys, and its last `n` are the window.
-/

namespace EmsDnp3

namespace Recent

section
variable {α : Type} {n : Nat} {history : List α} {key : α}

theorem length_rtake_le : (history.rtake n).length ≤ n := by
  rw [List.rtake, List.length_drop]
  omega

theorem length_rtake : (history.rtake n).length = min n history.length := by
  rw [List.rtake, List.length_drop]
  omega

/-- A window that is not full takes the key at its end. -/
theorem rtake_concat_of_lt (room : (history.rtake n).length < n) :
    (history ++ [key]).rtake n = history.rtake n ++ [key] := by
  rw [length_rtake] at room
  have short : history.length < n := by omega
  rw [List.rtake, List.rtake, List.length_append, List.length_singleton, Nat.sub_eq_zero_of_le short,
    Nat.sub_eq_zero_of_le short.le, List.drop_zero, List.drop_zero]

/-- A full one gives up its oldest key. -/
theorem rtake_concat_of_eq (positive : 0 < n) (full : (history.rtake n).length = n) :
    (history ++ [key]).rtake n = (history.rtake n).tail ++ [key] := by
  rw [length_rtake] at full
  have long : n ≤ history.length := by omega
  rw [List.rtake, List.rtake, List.length_append, List.length_singleton, List.tail_drop,
    List.drop_append_of_le_length (by omega), Nat.sub_add_comm long]

end

variable {α : Type} [DecidableEq α] {n : Nat} {history : List α} {key : α}

/-- One more key. -/
def accept (n : Nat) (history : List α) (key : α) : List α :=
  if key ∈ history.rtake n then history else history ++ [key]

/-- The accepted keys, oldest first. -/
def accepted (n : Nat) (keys : List α) : List α := keys.foldl (accept n) []

theorem accepted_concat (keys : List α) (key : α) : accepted n (keys ++ [key]) = accept n (accepted n keys) key :=
  List.foldl_concat ..

end Recent

end EmsDnp3
