import EmsDnp3.Base.Dict
import EmsDnp3.Python.Patterns

/-!
# Python text

`str.strip()`, `sorted` of a list of strings, and a text that falls back on another.
-/

namespace EmsDnp3.Python

/-- `value.strip()` -/
def strip (value : Text) : Text := (value.dropWhile isSpace).rdropWhile isSpace

/-- `sorted(..)` -/
def sorted (texts : List Text) : List Text := texts.insertionSort fun a b => ¬ b < a

theorem sorted_eq_nil {texts : List Text} : sorted texts = [] ↔ texts = [] := by
  unfold sorted
  rw [← List.length_eq_zero_iff, List.length_insertionSort, List.length_eq_zero_iff]

/-- The status of each capability. -/
abbrev Statuses := Dict Text Text

/-- `configured or fallback`; the empty string is false. -/
def orElse (configured fallback : Option Text) : Option Text :=
  match configured with
  | some [] => fallback
  | some value => some value
  | none => fallback

end EmsDnp3.Python
