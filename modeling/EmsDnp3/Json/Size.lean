import EmsDnp3.Base.Utf8Parts
import EmsDnp3.Json.Decimal

/-!
# The size of a text

How many octets the compact text of a value takes at most.
-/

namespace EmsDnp3.Json

open Utf8 (pointSize encodedSize encodedSize_append encodedSize_cons)

def size (v : Json) : Nat := encodedSize (dump v)

theorem pointSize_ascii {c : CodePoint} (ascii : c.val < 0x80) : pointSize c = 1 := if_pos ascii

/-- Every character takes an octet at least. -/
theorem pointSize_pos (c : CodePoint) : 1 ≤ pointSize c := by
  unfold pointSize
  split
  · exact Nat.le_refl 1
  · split
    · omega
    · split <;> omega

/-- No control characters but blanks. -/
def NoControls (s : Text) : Prop := ∀ c ∈ s, 0x20 ≤ c.val ∨ c ∈ text "\t\n\r"

/-- What is escaped then takes two octets. -/
theorem size_escape {c : CodePoint} (plain : 0x20 ≤ c.val ∨ c ∈ text "\t\n\r") :
    encodedSize (escape c) ≤ 2 * pointSize c := by
  have two {d : CodePoint} (ascii : d.val < 0x80) : encodedSize [backslash, d] ≤ 2 * pointSize c := by
    have pos := pointSize_pos c
    simp only [encodedSize_cons, pointSize_ascii ascii, pointSize_ascii (show backslash.val < 0x80 by decide), Utf8.encodedSize_nil]
    omega
  unfold escape
  split
  · exact two (by decide)
  split
  · exact two (by decide)
  split
  · exact two (by decide)
  split
  · exact two (by decide)
  split
  · exact two (by decide)
  split
  · exact two (by decide)
  split
  · exact two (by decide)
  split
  · next line return_ tab control =>
    exfalso
    obtain high | blank := plain
    · omega
    · rw [show text "\t\n\r" = [0x09, 0x0A, 0x0D] by decide +kernel] at blank
      simp only [List.mem_cons, List.not_mem_nil, or_false] at blank
      obtain same | same | same := blank
      · exact tab same
      · exact line same
      · exact return_ same
  · simp only [encodedSize_cons, Utf8.encodedSize_nil]
    omega

/-- Without control characters an escape doubles a character at most. -/
theorem size_dumpString {s : Text} (plain : NoControls s) : encodedSize (dumpString s) ≤ 2 + 2 * encodedSize s := by
  have inside : encodedSize (s.flatMap escape) ≤ 2 * encodedSize s := by
    induction s with
    | nil => exact Nat.le_refl 0
    | cons c s ih =>
      have first := size_escape (plain c List.mem_cons_self)
      have others := ih fun d mem => plain d (List.mem_cons_of_mem _ mem)
      rw [List.flatMap_cons, encodedSize_append, encodedSize_cons]
      omega
  have mark : pointSize quote = 1 := pointSize_ascii (by decide)
  rw [dumpString, encodedSize_append, encodedSize_cons, encodedSize_cons, mark, Utf8.encodedSize_nil]
  omega

theorem size_str {s : Text} (plain : NoControls s) : size (.str s) ≤ 2 + 2 * encodedSize s := size_dumpString plain

theorem size_bool (b : Bool) : size (.bool b) ≤ 5 := by
  cases b <;> decide

/-- A text of ASCII takes one octet for each character. -/
theorem encodedSize_ascii {t : Text} (ascii : ∀ c ∈ t, c.val < 0x80) : encodedSize t = t.length := by
  induction t with
  | nil => rfl
  | cons c t ih =>
    rw [encodedSize_cons, pointSize_ascii (ascii c List.mem_cons_self), ih fun d mem => ascii d (List.mem_cons_of_mem _ mem),
      List.length_cons, Nat.add_comm]

/-- A number takes an octet for each digit. -/
theorem size_nat {n k : Nat} (small : n < 10 ^ (k + 1)) : size (.nat n) ≤ k + 1 := by
  have digits : size (.nat n) = (decimal n).length := by
    apply encodedSize_ascii
    intro c mem
    have digit := decimal_isDigit mem
    simp only [isDigit, Bool.and_eq_true, decide_eq_true_eq] at digit
    omega
  rw [digits]
  exact length_decimal_le small

/-- Elements take their own octets and a comma each. -/
theorem size_items (items : List Json) : encodedSize (dumpItems items) ≤ 1 + (items.map fun x => size x + 1).sum := by
  induction items with
  | nil => decide
  | cons x items ih =>
    have comma : encodedSize (text ",") = 1 := by decide
    rw [dumpItems, encodedSize_append, encodedSize_append, comma, List.map_cons, List.sum_cons, ← size]
    omega

/-- An array takes its elements and two brackets. -/
theorem size_arr (items : List Json) : size (.arr items) ≤ 2 + (items.map fun x => size x + 1).sum := by
  cases items with
  | nil => decide
  | cons x items =>
    have bracket : encodedSize (text "[") = 1 := by decide
    have others := size_items items
    rw [size, dump, encodedSize_append, encodedSize_append, bracket, List.map_cons, List.sum_cons, ← size]
    omega

/-- Members take their keys, their values and the marks between them. -/
theorem size_members (members : List (Text × Json)) :
    encodedSize (dumpMembers members) ≤ 1 + (members.map fun m => encodedSize (dumpString m.1) + 2 + size m.2).sum := by
  induction members with
  | nil => decide
  | cons m members ih =>
    have comma : encodedSize (text ",") = 1 := by decide
    have colon : encodedSize (text ":") = 1 := by decide
    rw [dumpMembers, encodedSize_append, encodedSize_append, encodedSize_append, encodedSize_append, comma, colon,
      List.map_cons, List.sum_cons, ← size]
    omega

/-- An object takes its members and two braces. -/
theorem size_obj (members : List (Text × Json)) :
    size (.obj members) ≤ 2 + (members.map fun m => encodedSize (dumpString m.1) + 2 + size m.2).sum := by
  cases members with
  | nil => decide
  | cons m members =>
    have brace : encodedSize (text "\x7b") = 1 := by decide
    have colon : encodedSize (text ":") = 1 := by decide
    have others := size_members members
    rw [size, dump, encodedSize_append, encodedSize_append, encodedSize_append, encodedSize_append, brace, colon,
      List.map_cons, List.sum_cons, ← size]
    omega

/-- An object whose keys take at most `k` octets. -/
theorem size_object {members : List (String × Json)} {k : Nat}
    (short : ∀ key ∈ members.map (·.1), encodedSize (dumpString (text key)) ≤ k) :
    size (.object members) ≤ 2 + (members.map fun m => k + 2 + size m.2).sum := by
  refine (size_obj _).trans (Nat.add_le_add_left ?_ 2)
  rw [List.map_map]
  apply List.sum_le_sum
  intro m mem
  have key := short m.1 (List.mem_map_of_mem mem)
  show encodedSize (dumpString (text m.1)) + 2 + size m.2 ≤ k + 2 + size m.2
  omega

end EmsDnp3.Json
