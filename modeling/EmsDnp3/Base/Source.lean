import Mathlib

/-!
# Streams that arrive in pieces

A source is the list of the pieces still to come, some of them possibly empty. A reader takes one
element at a time; what it sees depends on the elements alone (`next_eq_some`, `next_eq_none`), not on
where the pieces end.
-/

namespace EmsDnp3

/-- The pieces that are still to come, as the pipe hands them over. -/
abbrev Source (α : Type) := List (List α)

namespace Source

variable {α : Type}

/-- What is still to come. -/
def contents (source : Source α) : List α := source.flatten

/-- The next element and the source after it; `none` at the end. -/
def next : Source α → Option (α × Source α)
  | [] => none
  | [] :: rest => next rest
  | (a :: piece) :: rest => some (a, piece :: rest)

@[simp] theorem contents_nil : contents ([] : Source α) = [] := rfl

theorem next_eq_none {source : Source α} : next source = none ↔ contents source = [] := by
  induction source with
  | nil => simp [next]
  | cons piece rest ih =>
    cases piece with
    | nil => simpa [next, contents] using ih
    | cons a piece => simp [next, contents]

/-- The next element is the first of what is to come. -/
theorem contents_of_next {source after : Source α} {a : α} (found : next source = some (a, after)) :
    contents source = a :: contents after := by
  induction source with
  | nil => cases found
  | cons piece rest ih =>
    cases piece with
    | nil => exact ih found
    | cons b piece =>
      obtain ⟨rfl, rfl⟩ := Prod.mk.inj (Option.some.inj found)
      rfl

/-- The next one is the first of what is left, wherever the pieces are cut. -/
theorem next_eq_some {source : Source α} {a : α} {more : List α} (first : contents source = a :: more) :
    ∃ after, next source = some (a, after) ∧ contents after = more := by
  cases found : next source with
  | none =>
    rw [next_eq_none.mp found] at first
    cases first
  | some pair =>
    obtain ⟨b, after⟩ := pair
    rw [contents_of_next found] at first
    obtain ⟨rfl, rest⟩ := List.cons.inj first
    exact ⟨after, rfl, rest⟩

/-- Every element that is taken leaves fewer behind. -/
theorem next_shorter {source after : Source α} {a : α} (found : next source = some (a, after)) :
    after.contents.length < source.contents.length := by
  rw [contents_of_next found]
  exact Nat.lt_succ_self _

end Source

end EmsDnp3
