import Mathlib

/-!
# Counting falls from two sources

A signal is up or down, and a counter counts how often it falls. The counter reads the history of the signal
in order, some time after it happened, and now and then glimpses the signal as it is. A glimpse runs ahead of
the reading. Where the first state still unread agrees with the glimpse no fall is counted twice.
-/

namespace EmsDnp3

/-- How often a history falls that begins after `prev`. -/
def falls : Bool → List Bool → Nat
  | _, [] => 0
  | prev, up :: rest => (if prev && !up then 1 else 0) + falls up rest

@[simp] theorem falls_nil (prev : Bool) : falls prev [] = 0 := rfl

@[simp] theorem falls_cons (prev up : Bool) (rest : List Bool) :
    falls prev (up :: rest) = (if prev && !up then 1 else 0) + falls up rest := rfl

theorem falls_append (prev : Bool) (l m : List Bool) : falls prev (l ++ m) = falls prev l + falls (l.getLastD prev) m := by
  induction l generalizing prev with
  | nil => simp
  | cons up rest ih =>
    rw [List.cons_append, falls_cons, falls_cons, ih, List.getLastD_cons]
    omega

/-- A part that stays up has no fall. -/
theorem falls_all_up {l : List Bool} (up : ∀ b ∈ l, b = true) (m : List Bool) : falls true (l ++ m) = falls true m := by
  induction l with
  | nil => rfl
  | cons b rest ih =>
    obtain rfl := up b List.mem_cons_self
    simpa using ih fun b inside => up b (List.mem_cons_of_mem _ inside)

theorem getLastD_all_up {l : List Bool} (up : ∀ b ∈ l, b = true) : l.getLastD true = true := by
  rw [List.getLastD_eq_getLast?]
  cases last : l.getLast? with
  | none => rfl
  | some b => exact up b (List.mem_of_getLast? last)

/-- The state that was seen last, and the falls so far. -/
structure FallCounter where
  up : Bool
  count : Nat

namespace FallCounter

/-- The counter is told a state, read or glimpsed. -/
def note (c : FallCounter) (up : Bool) : FallCounter := { up, count := c.count + if c.up && !up then 1 else 0 }

/-- Noting one state after another counts the falls of the whole list. -/
theorem notes (c : FallCounter) (l : List Bool) :
    l.foldl note c = { up := l.getLastD c.up, count := c.count + falls c.up l } := by
  induction l generalizing c with
  | nil => rfl
  | cons up rest ih =>
    rw [List.foldl_cons, ih, falls_cons, List.getLastD_cons]
    simp [note, Nat.add_assoc]

/-- A counter beside the history of a signal that was up: `read` has been told to it, `pending` is taken and
not told yet, `unread` is still to be taken; `glimpse` is the last one, if nothing was taken after it. -/
inductive Agrees (read pending unread : List Bool) (glimpse : Option Bool) (c : FallCounter) : Prop where
  /-- The counter is where the reading is. -/
  | level (up : c.up = read.getLastD true) (count : c.count = falls true read) (same : ∀ g ∈ glimpse, g = c.up)
  /-- A glimpse showed the state that comes next. -/
  | ahead (up : c.up ≠ read.getLastD true) (rest : List Bool) (next : pending ++ unread = c.up :: rest)
      (count : c.count = falls true (read ++ [c.up])) (glimpsed : pending = [] → glimpse = some c.up)

section
variable {c : FallCounter} {read pending unread : List Bool} {glimpse : Option Bool}

theorem agrees_start (unread : List Bool) : Agrees [] [] unread none { up := true, count := 0 } :=
  .level rfl rfl nofun

/-- The signal goes on. -/
theorem Agrees.record (h : Agrees read pending unread glimpse c) (more : List Bool) :
    Agrees read pending (unread ++ more) glimpse c := by
  cases h with
  | level up count same => exact .level up count same
  | ahead up rest next count glimpsed =>
    refine .ahead up (rest ++ more) ?_ count glimpsed
    rw [← List.append_assoc, next, List.cons_append]

/-- Some of the history is taken, to be told later. -/
theorem Agrees.take (h : Agrees read pending unread glimpse c) {taken left : List Bool} (split : unread = taken ++ left) :
    Agrees read (pending ++ taken) left (if taken = [] then glimpse else none) c := by
  subst split
  cases h with
  | level up count same =>
    refine .level up count ?_
    split
    · exact same
    · exact nofun
  | ahead up rest next count glimpsed =>
    refine .ahead up rest (by rw [List.append_assoc, next]) count ?_
    intro nothing
    obtain ⟨none_, rfl⟩ := List.append_eq_nil_iff.mp nothing
    rw [if_pos rfl]
    exact glimpsed none_

/-- All that was recorded has been taken and is told now: the counter is level again. -/
theorem Agrees.tell (h : Agrees read pending [] glimpse c) (glimpsed : pending ≠ [] → glimpse = none) :
    (pending.foldl note c).up = (read ++ pending).getLastD true ∧
      (pending.foldl note c).count = falls true (read ++ pending) ∧ ∀ g ∈ glimpse, g = (pending.foldl note c).up := by
  have last : (read ++ pending).getLastD true = pending.getLastD (read.getLastD true) := by
    cases pending <;> simp [List.getLastD_eq_getLast?, List.getLast?_append, List.getLast?_cons]
  rw [notes, last, falls_append]
  cases h with
  | level up count same =>
    rw [up, count]
    refine ⟨rfl, rfl, ?_⟩
    cases pending with
    | nil => rwa [up] at same
    | cons b rest =>
      rw [glimpsed (by simp)]
      exact nofun
  | ahead up rest next count seen =>
    rw [List.append_nil] at next
    subst next
    rw [glimpsed (by simp), count, falls_append]
    refine ⟨by simp only [List.getLastD_cons], ?_, nofun⟩
    simp only [falls_cons, falls_nil]
    cases c.up <;> simp [Nat.add_assoc]

/-- A glimpse of the signal by a level counter, when nothing is pending. -/
theorem level_glimpse {now : Bool} (up : c.up = read.getLastD true) (count : c.count = falls true read)
    (clear : now = c.up ∨ unread.head? = some now) : Agrees read [] unread (some now) (c.note now) := by
  by_cases same : now = c.up
  · refine .level ?_ ?_ ?_
    · exact same.trans up
    · simp [note, same, count]
    · simp [note]
  · obtain ⟨rest, next⟩ := List.head?_eq_some_iff.mp (clear.resolve_left same)
    refine .ahead ?_ rest next ?_ fun _ => rfl
    · rw [← up]
      exact same
    · rw [falls_append, ← up, note, count]
      simp

/-- The count that a counter ends with that is not told what is pending. -/
theorem Agrees.settled (h : Agrees read pending unread glimpse c) (taken : pending ≠ [] → glimpse = none)
    (quiet : falls c.up pending = 0) : c.count = falls true (read ++ pending ++ glimpse.toList) := by
  cases h with
  | level up count same =>
    rw [List.append_assoc, falls_append, ← up, falls_append, quiet, count]
    cases pending with
    | nil =>
      cases glimpse with
      | none => simp
      | some g =>
        obtain rfl := same g rfl
        simp
    | cons b rest => simp [taken]
  | ahead up rest next count glimpsed =>
    cases pending with
    | nil => rw [glimpsed rfl, count, List.append_nil, Option.toList_some]
    | cons b rest' =>
      obtain ⟨rfl, -⟩ := List.cons.inj next
      have later : falls c.up rest' = 0 := by simpa using quiet
      rw [taken (by simp), count, Option.toList_none, List.append_nil, falls_append, falls_append]
      simp only [falls_cons, falls_nil, later]

end

end FallCounter

end EmsDnp3
