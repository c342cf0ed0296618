import Mathlib

/-!
# Substitution of matches

`re.sub`: from left to right, each match that does not overlap an earlier one is replaced. A matcher sees the
symbol before its place and the rest of the text from there; it gives the length of its match and the replacement.
A match of no symbols counts as none.
-/

namespace EmsDnp3

variable {α : Type}

/-- What a matcher finds at a place. -/
abbrev Matcher (α : Type) := Option α → List α → Option (Nat × List α)

/-- The text from a place on; the next `skip` symbols belong to the last match. -/
@[grind] def substitute (m : Matcher α) : Nat → Option α → List α → List α
  | _, _, [] => []
  | skip + 1, _, c :: rest => substitute m skip (some c) rest
  | 0, before, c :: rest =>
    match m before (c :: rest) with
    | some (n + 1, replacement) => replacement ++ substitute m n (some c) rest
    | _ => c :: substitute m 0 (some c) rest

/-- The symbol before the place behind `l`. -/
def lastOf (before : Option α) (l : List α) : Option α := l.getLast?.or before

@[simp] theorem lastOf_nil (before : Option α) : lastOf before [] = before := rfl

theorem lastOf_cons (before : Option α) (c : α) (l : List α) : lastOf before (c :: l) = lastOf (some c) l := by
  cases l <;> simp [lastOf, List.getLast?_cons]

section
variable {m : Matcher α} {before : Option α} {l rest : List α}

theorem substitute_skip : substitute m l.length before (l ++ rest) = substitute m 0 (lastOf before l) rest := by
  induction l generalizing before with
  | nil => rfl
  | cons c l ih => rw [List.length_cons, List.cons_append, substitute, ih, lastOf_cons]

/-- A match is replaced as a whole. -/
theorem substitute_match {replacement : List α} (some_ : l ≠ [])
    (found : m before (l ++ rest) = some (l.length, replacement)) :
    substitute m 0 before (l ++ rest) = replacement ++ substitute m 0 (lastOf before l) rest := by
  cases l with
  | nil => exact absurd rfl some_
  | cons c l =>
    rw [List.cons_append, List.length_cons] at found
    rw [List.cons_append, substitute, found]
    dsimp only
    rw [substitute_skip, lastOf_cons]

theorem substitute_none {c : α} (found : m before (c :: rest) = none) :
    substitute m 0 before (c :: rest) = c :: substitute m 0 (some c) rest := by
  rw [substitute, found]

/-- Where no match goes across, a text is substituted in two parts. -/
theorem substitute_append {skip : Nat} {A R : List α} (inside : skip ≤ A.length)
    (same : ∀ before A', A' <:+ A → A' ≠ [] → m before (A' ++ R) = m before A')
    (bounded : ∀ before A' n replacement, m before A' = some (n, replacement) → n ≤ A'.length) :
    substitute m skip before (A ++ R) = substitute m skip before A ++ substitute m 0 (lastOf before A) R := by
  induction A generalizing skip before with
  | nil =>
    obtain rfl := Nat.le_zero.mp inside
    simp [substitute]
  | cons c A ih =>
    have tail {skip : Nat} {before : Option α} (inside : skip ≤ A.length) :
        substitute m skip before (A ++ R) = substitute m skip before A ++ substitute m 0 (lastOf before A) R :=
      ih inside fun before A' suffix => same before A' (suffix.trans (List.suffix_cons c A))
    rw [List.length_cons] at inside
    rw [lastOf_cons, List.cons_append]
    cases skip with
    | succ skip =>
      rw [substitute, substitute]
      apply tail
      omega
    | zero =>
      have here := same before (c :: A) List.suffix_rfl (List.cons_ne_nil c A)
      rw [List.cons_append] at here
      rw [substitute, substitute, here]
      split
      · next n replacement found =>
        have bound := bounded before (c :: A) _ _ found
        rw [List.length_cons] at bound
        rw [tail (by omega), List.append_assoc]
      · rw [tail (Nat.zero_le _), List.cons_append]

/-- Where nothing matches, nothing changes. -/
theorem substitute_inert {A R : List α} (inert : ∀ before A', A' <:+ A → A' ≠ [] → m before (A' ++ R) = none) :
    substitute m 0 before (A ++ R) = A ++ substitute m 0 (lastOf before A) R := by
  induction A generalizing before with
  | nil => rfl
  | cons c A ih =>
    have here := inert before (c :: A) List.suffix_rfl (List.cons_ne_nil c A)
    rw [List.cons_append] at here
    rw [List.cons_append, substitute_none here, lastOf_cons,
      ih fun before A' suffix => inert before A' (suffix.trans (List.suffix_cons c A))]
    rfl

/-- Long replacements do not make a text short. -/
theorem substitute_length {k : Nat}
    (long : ∀ before t n replacement, m before t = some (n, replacement) → k ≤ replacement.length)
    (t : List α) (enough : k ≤ t.length) : k ≤ (substitute m 0 before t).length := by
  induction t generalizing before k with
  | nil => exact enough
  | cons c rest ih =>
    rw [substitute]
    split
    · next n replacement found =>
      rw [List.length_append]
      exact (long _ _ _ _ found).trans (Nat.le_add_right _ _)
    · rw [List.length_cons] at enough ⊢
      have shorter : k - 1 ≤ rest.length := by omega
      have tail : k - 1 ≤ (substitute m 0 (some c) rest).length :=
        ih (fun before t n replacement found => (Nat.sub_le k 1).trans (long before t n replacement found)) shorter
      omega

/-- A matcher that does not look at the symbol before its place. -/
theorem substitute_before (free : ∀ before before' t, m before t = m before' t) (before' : Option α) (t : List α) :
    substitute m 0 before t = substitute m 0 before' t := by
  cases t with
  | nil => rfl
  | cons c rest => rw [substitute, substitute, free before before']

end

/-! ## Matchers that look at their match only -/

/-- A matcher finds the texts of a relation, with their replacements. -/
def Recognises (m : Matcher α) (M : List α → List α → Prop) : Prop :=
  ∀ before t n r, m before t = some (n, r) ↔ ∃ l rest, M l r ∧ t = l ++ rest ∧ n = l.length

namespace Recognises
variable {m : Matcher α} {M : List α → List α → Prop}

/-- A text of the language is found at its place, and replaced. -/
theorem found (known : Recognises m M) {l r : List α} (matched : M l r) (before : Option α) (rest : List α) :
    m before (l ++ rest) = some (l.length, r) :=
  (known ..).mpr ⟨l, rest, matched, rfl, rfl⟩

theorem free (known : Recognises m M) (before before' : Option α) (t : List α) : m before t = m before' t :=
  Option.ext fun ⟨n, r⟩ => (known before t n r).trans (known before' t n r).symm

theorem bounded (known : Recognises m M) {before : Option α} {t : List α} {n : Nat} {r : List α}
    (here : m before t = some (n, r)) : n ≤ t.length := by
  obtain ⟨l, rest, -, rfl, rfl⟩ := (known ..).mp here
  rw [List.length_append]
  exact Nat.le_add_right _ _

/-- Where no text of the relation goes across a place, the matcher does not look across it. -/
theorem append (known : Recognises m M) {A R : List α} {c : α}
    (clear : ∀ l r C, M l r → C <+: R → l ≠ A ++ c :: C) (before : Option α) :
    m before (A ++ c :: R) = m before A := by
  refine Option.ext fun ⟨n, r⟩ => ?_
  rw [known, known]
  constructor
  · rintro ⟨l, rest, matched, same, length⟩
    rcases List.append_eq_append_iff.mp same with ⟨C, whole, tail⟩ | ⟨C, whole, -⟩
    · cases C with
      | nil => exact ⟨l, [], matched, by simpa using whole.symm, length⟩
      | cons c' C =>
        obtain ⟨rfl, tail⟩ := List.cons.inj tail
        exact absurd whole (clear l r C matched ⟨rest, (List.cons.inj tail.symm).2⟩)
    · exact ⟨l, C, matched, whole, length⟩
  · rintro ⟨l, rest, matched, rfl, length⟩
    exact ⟨l, rest ++ _, matched, List.append_assoc .., length⟩

/-- A match that none before it reaches is replaced, and the texts around it are substituted each by itself. -/
theorem substitute_append (known : Recognises m M) {A R l r : List α} {c : α} (matched : M (c :: l) r)
    (clear : ∀ A', A' <:+ A → A' ≠ [] → ∀ l' r' C, M l' r' → C <+: l ++ R → l' ≠ A' ++ c :: C) (before : Option α) :
    substitute m 0 before (A ++ (c :: l ++ R)) = substitute m 0 before A ++ (r ++ substitute m 0 none R) := by
  have seam : ∀ before A', A' <:+ A → A' ≠ [] → m before (A' ++ (c :: l ++ R)) = m before A' :=
    fun before A' suffix some_ => known.append (clear A' suffix some_) before
  rw [EmsDnp3.substitute_append (Nat.zero_le _) seam fun _ _ _ _ => known.bounded,
    substitute_match (List.cons_ne_nil c l) (known.found matched _ R), substitute_before known.free none R]

end Recognises

end EmsDnp3
