import Mathlib

/-!
# Disjoint intervals by comparing neighbours

Labelled intervals of naturals, both ends included. In a list sorted by label and start it is enough
to compare neighbours: if none touches the one before it under the same label, no two intervals of
the list intersect (`clear_iff_pairwise`), and sorting does not change which lists pass (`clear_sorted_iff`).
-/

namespace EmsDnp3.Intervals

/-- No common point under one label. -/
def Apart {α κ : Type} (label : α → κ) (start stop : α → Nat) (a b : α) : Prop :=
  label a = label b → stop a < start b ∨ stop b < start a

theorem Apart.symm {α κ : Type} {label : α → κ} {start stop : α → Nat} {a b : α} (apart : Apart label start stop a b) :
    Apart label start stop b a :=
  fun same => (apart same.symm).symm

section
variable {α κ : Type} [LinearOrder κ] (label : α → κ) (start stop : α → Nat)

/-- The order of the sort: by label, then by start. -/
def Before (a b : α) : Prop := label a < label b ∨ (label a = label b ∧ start a ≤ start b)

/-- No interval starts at or before the end of the one before it, under the same label. -/
def clear : List α → Bool
  | previous :: current :: rest =>
    !(decide (label previous = label current) && decide (start current ≤ stop previous)) && clear (current :: rest)
  | _ => true

end

variable {α κ : Type} [LinearOrder κ] {label : α → κ} {start stop : α → Nat}

theorem Before.total (a b : α) : Before label start a b ∨ Before label start b a := by
  rcases lt_trichotomy (label a) (label b) with less | same | more
  · exact Or.inl (Or.inl less)
  · exact (le_total (start a) (start b)).imp (fun le => Or.inr ⟨same, le⟩) (fun le => Or.inr ⟨same.symm, le⟩)
  · exact Or.inr (Or.inl more)

/-- The order goes on. -/
theorem Before.trans {a b c : α} (first : Before label start a b) (second : Before label start b c) :
    Before label start a c := by
  rcases first with less | ⟨same, le⟩
  · rcases second with less' | ⟨same', -⟩
    · exact Or.inl (less.trans less')
    · exact Or.inl (same' ▸ less)
  · rcases second with less' | ⟨same', le'⟩
    · exact Or.inl (same ▸ less')
    · exact Or.inr ⟨same.trans same', le.trans le'⟩

/-- Sorted intervals are apart when the first ends before the second starts. -/
theorem Before.apart_iff {a b : α} (before : Before label start a b) (proper : start b ≤ stop b) :
    Apart label start stop a b ↔ ¬ (label a = label b ∧ start b ≤ stop a) := by
  constructor
  · rintro apart ⟨same, touch⟩
    have order : start a ≤ start b := by
      rcases before with less | ⟨-, le⟩
      · exact absurd same (ne_of_lt less)
      · exact le
    rcases apart same with above | below <;> omega
  · intro free same
    left
    by_contra touch
    exact free ⟨same, by omega⟩

/-- Apart from the next, which is before the third: apart from the third. -/
theorem Apart.trans {a b c : α} (first : Before label start a b) (second : Before label start b c)
    (proper : start b ≤ stop b) (apart : Apart label start stop a b) : Apart label start stop a c := by
  intro same
  have middle : label a = label b ∧ start a ≤ start b := by
    rcases first with less | here
    · rcases second with less' | ⟨same', -⟩
      · exact absurd same (ne_of_lt (less.trans less'))
      · exact absurd (same.trans same'.symm) (ne_of_lt less)
    · exact here
  have order : start b ≤ start c := by
    rcases second with less | ⟨-, le⟩
    · exact absurd (middle.1.symm.trans same) (ne_of_lt less)
    · exact le
  rcases apart middle.1 with above | below
  · exact Or.inl (by omega)
  · omega

/-- A list is clear where its first two intervals are, and the rest is. -/
theorem clear_cons_cons (previous current : α) (rest : List α) :
    clear label start stop (previous :: current :: rest) = true ↔
      ¬ (label previous = label current ∧ start current ≤ stop previous) ∧
        clear label start stop (current :: rest) = true := by
  rw [clear, Bool.and_eq_true, Bool.not_eq_true', Bool.and_eq_false_iff, decide_eq_false_iff_not,
    decide_eq_false_iff_not, not_and_or]

/-- **In a sorted list neighbours are enough.** -/
theorem clear_iff_pairwise {intervals : List α} (sorted : intervals.Pairwise (Before label start))
    (proper : ∀ a ∈ intervals, start a ≤ stop a) :
    clear label start stop intervals = true ↔ intervals.Pairwise (Apart label start stop) := by
  induction intervals with
  | nil => simp [clear]
  | cons a rest ih =>
    obtain ⟨first, sortedRest⟩ := List.pairwise_cons.mp sorted
    obtain ⟨-, properRest⟩ := List.forall_mem_cons.mp proper
    cases rest with
    | nil => simp [clear]
    | cons b rest =>
      have before := first b List.mem_cons_self
      have properHead := properRest b List.mem_cons_self
      rw [clear_cons_cons, ← before.apart_iff properHead, ih sortedRest properRest, List.pairwise_cons (l := b :: rest)]
      constructor
      · rintro ⟨apart, others⟩
        refine ⟨?_, others⟩
        intro c inside
        rcases List.mem_cons.mp inside with rfl | later
        · exact apart
        · exact apart.trans before ((List.pairwise_cons.mp sortedRest).1 c later) properHead
      · rintro ⟨apart, others⟩
        exact ⟨apart b List.mem_cons_self, others⟩

/-- The neighbours of any sorted arrangement decide about the whole list. -/
theorem clear_sorted_iff {intervals sorted : List α} (perm : sorted.Perm intervals)
    (order : sorted.Pairwise (Before label start)) (proper : ∀ a ∈ intervals, start a ≤ stop a) :
    clear label start stop sorted = true ↔ intervals.Pairwise (Apart label start stop) := by
  rw [clear_iff_pairwise order fun a inside => proper a (perm.mem_iff.mp inside)]
  exact perm.pairwise_iff Apart.symm

end EmsDnp3.Intervals
