import Mathlib

/-!
# Ring buffers

A fixed number of slots, the slot of the oldest element and the number of elements. A push
into a full ring overwrites the oldest element. `toList` is the queue that the ring holds,
and every operation is described by what it does to that queue.
-/

namespace EmsDnp3

/-- A buffer of fixed size, the place of its oldest entry, and how many there are. -/
structure Ring (α : Type) where
  slots : List α
  head : Nat
  queued : Nat
  inside : head < slots.length
  fits : queued ≤ slots.length

namespace Ring

variable {α : Type} (r : Ring α)

def capacity : Nat := r.slots.length

theorem capacity_pos : 0 < r.capacity := Nat.zero_lt_of_lt r.inside

/-- The slot `offset` places behind the oldest element. -/
def slot (offset : Nat) : Fin r.slots.length := ⟨(r.head + offset) % r.slots.length, Nat.mod_lt _ r.capacity_pos⟩

/-- The queue, oldest element first. -/
def toList : List α := (List.range r.queued).map fun offset => r.slots.get (r.slot offset)

/-- An empty ring of `n` slots. -/
def make (n : Nat) (positive : 0 < n) (blank : α) : Ring α where
  slots := List.replicate n blank
  head := 0
  queued := 0
  inside := by rwa [List.length_replicate]
  fits := Nat.zero_le _

/-- The oldest element leaves. -/
def discard : Ring α where
  slots := r.slots
  head := (r.head + 1) % r.slots.length
  queued := r.queued - 1
  inside := Nat.mod_lt _ r.capacity_pos
  fits := (Nat.sub_le _ _).trans r.fits

/-- A new element in the first free slot. -/
def append (x : α) (room : r.queued < r.slots.length) : Ring α where
  slots := r.slots.set (r.slot r.queued) x
  head := r.head
  queued := r.queued + 1
  inside := by rw [List.length_set]; exact r.inside
  fits := by rw [List.length_set]; exact room

/-- A new element, in the place of the oldest if the ring is full. -/
def push (x : α) : Ring α :=
  if room : r.queued < r.slots.length then r.append x room
  else r.discard.append x (by
    have := r.fits
    have := r.inside
    show r.queued - 1 < r.slots.length
    omega)

/-- The oldest `n` elements, one after the other. -/
def takeFront : Nat → Ring α → List α × Ring α
  | 0, r => ([], r)
  | n + 1, r =>
    let (taken, rest) := takeFront n r.discard
    (r.slots.get (r.slot 0) :: taken, rest)

@[simp] theorem length_toList : r.toList.length = r.queued := by simp [toList]

@[simp] theorem capacity_discard : r.discard.capacity = r.capacity := rfl

@[simp] theorem queued_discard : r.discard.queued = r.queued - 1 := rfl

@[simp] theorem capacity_append (x : α) (room : r.queued < r.slots.length) :
    (r.append x room).capacity = r.capacity := List.length_set

@[simp] theorem capacity_push (x : α) : (r.push x).capacity = r.capacity := by
  unfold push
  split <;> simp

@[simp] theorem capacity_make (n : Nat) (positive : 0 < n) (blank : α) : (make n positive blank).capacity = n :=
  List.length_replicate

@[simp] theorem toList_make (n : Nat) (positive : 0 < n) (blank : α) : (make n positive blank).toList = [] := rfl

/-- Without the oldest entry every other one moves one place forward. -/
theorem slot_discard (offset : Nat) : (r.discard.slot offset).val = (r.slot (offset + 1)).val := by
  show ((r.head + 1) % r.slots.length + offset) % r.slots.length = (r.head + (offset + 1)) % r.slots.length
  rw [Nat.mod_add_mod, Nat.add_assoc, Nat.add_comm 1]

/-- Slots within one round are different. -/
theorem slot_inj {i j : Nat} (hi : i < r.slots.length) (hj : j < r.slots.length) (same : (r.slot i).val = (r.slot j).val) :
    i = j := by
  have congr : r.head + i ≡ r.head + j [MOD r.slots.length] := same
  exact (Nat.ModEq.add_left_cancel' _ congr).eq_of_lt_of_lt hi hj

/-- The oldest entry is the first of the list. -/
theorem toList_discard : r.discard.toList = r.toList.tail := by
  rw [toList, toList]
  cases count : r.queued with
  | zero => simp [count]
  | succ n =>
    rw [List.range_succ_eq_map, List.map_cons, List.tail_cons, List.map_map, queued_discard, count, Nat.succ_sub_one]
    apply List.map_congr_left
    intro offset _
    exact congrArg r.slots.get (Fin.ext (r.slot_discard offset))

/-- A new entry is the last of the list. -/
theorem toList_append (x : α) (room : r.queued < r.slots.length) : (r.append x room).toList = r.toList ++ [x] := by
  have size : (r.append x room).slots.length = r.slots.length := List.length_set
  have place : ∀ offset, ((r.append x room).slot offset).val = (r.slot offset).val := by
    intro offset
    show (r.head + offset) % (r.append x room).slots.length = (r.head + offset) % r.slots.length
    rw [size]
  have read : ∀ offset, (r.append x room).slots.get ((r.append x room).slot offset) =
      if (r.slot r.queued).val = (r.slot offset).val then x else r.slots.get (r.slot offset) := by
    intro offset
    rw [List.get_eq_getElem, List.get_eq_getElem]
    simp only [place]
    show (r.slots.set _ x)[_] = _
    rw [List.getElem_set]
  rw [toList, toList, append, List.range_succ, List.map_append, List.map_singleton]
  congr 1
  · apply List.map_congr_left
    intro offset mem
    have small := List.mem_range.mp mem
    refine (read offset).trans (if_neg fun same => ?_)
    have := r.slot_inj room (by omega) same
    omega
  · rw [List.singleton_inj]
    exact (read r.queued).trans (if_pos rfl)

/-- A push appends; into a full ring, the oldest element leaves first. -/
theorem toList_push (x : α) :
    (r.push x).toList = (if r.queued = r.capacity then r.toList.tail else r.toList) ++ [x] := by
  have := r.fits
  unfold push
  split
  · next room => rw [toList_append, if_neg (by rw [capacity]; omega)]
  · next full => rw [toList_append, toList_discard, if_pos (by rw [capacity]; omega)]

@[simp] theorem capacity_takeFront (n : Nat) : (takeFront n r).2.capacity = r.capacity := by
  induction n generalizing r with
  | zero => rfl
  | succ n ih => exact (ih r.discard).trans r.capacity_discard

/-- The entries that are taken are the oldest ones. -/
theorem takeFront_fst {n : Nat} (enough : n ≤ r.queued) : (takeFront n r).1 = r.toList.take n := by
  induction n generalizing r with
  | zero => rfl
  | succ n ih =>
    have split : r.toList = r.slots.get (r.slot 0) :: r.discard.toList := by
      rw [toList_discard, toList]
      obtain ⟨m, count⟩ := Nat.exists_eq_add_of_lt (show 0 < r.queued by omega)
      rw [count, List.range_succ_eq_map, List.map_cons, List.tail_cons]
    rw [split, List.take_succ_cons, ← ih r.discard (by rw [queued_discard]; omega)]
    rfl

/-- The entries that stay are the others. -/
theorem takeFront_snd (n : Nat) : (takeFront n r).2.toList = r.toList.drop n := by
  induction n generalizing r with
  | zero => rfl
  | succ n ih =>
    refine (ih r.discard).trans ?_
    rw [toList_discard, List.drop_tail, Nat.add_comm]

end Ring

end EmsDnp3
