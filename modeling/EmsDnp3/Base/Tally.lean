import Mathlib

/-!
# Tallies of a stream

Two ways a stream is summarised while it is read. A stream is held against a finite set of
expected elements by three counters: how many expected elements were seen, how many of them
came again, and how many elements were not expected (`Tallied`). The names in a stream are
counted in a table that takes no name beyond a limit (`Counted`), or split it into groups.
-/

namespace EmsDnp3

variable {α : Type} [DecidableEq α]

/-- The three counters of a stream `l` held against the expected elements. -/
structure Tallied (expected : α → Prop) [DecidablePred expected] (l : List α)
    (unique duplicates unmatched : Nat) : Prop where
  unique_eq : unique = (l.toFinset.filter expected).card
  matched_eq : unique + duplicates = l.countP expected
  unmatched_eq : unmatched = l.countP fun a => ¬ expected a

namespace Tallied

variable {expected : α → Prop} [DecidablePred expected] {l : List α} {a : α}
  {unique duplicates unmatched : Nat}

theorem nil : Tallied expected [] 0 0 0 := ⟨by simp, by simp, by simp⟩

theorem toFinset_concat (l : List α) (a : α) : (l ++ [a]).toFinset = insert a l.toFinset := by
  ext x
  simp

/-- An element that nobody expects counts as unmatched. -/
theorem concat_unmatched (t : Tallied expected l unique duplicates unmatched) (outside : ¬ expected a) :
    Tallied expected (l ++ [a]) unique duplicates (unmatched + 1) := by
  refine ⟨?_, ?_, ?_⟩
  · rw [toFinset_concat, Finset.filter_insert, if_neg outside, t.unique_eq]
  · simp [List.countP_append, outside, t.matched_eq]
  · simp [List.countP_append, outside, t.unmatched_eq]

/-- An expected element that was there before counts as a duplicate. -/
theorem concat_duplicate (t : Tallied expected l unique duplicates unmatched) (inside : expected a)
    (again : a ∈ l) : Tallied expected (l ++ [a]) unique (duplicates + 1) unmatched := by
  refine ⟨?_, ?_, ?_⟩
  · rw [toFinset_concat, Finset.insert_eq_of_mem (List.mem_toFinset.mpr again), t.unique_eq]
  · simp [List.countP_append, inside, ← t.matched_eq, Nat.add_assoc]
  · simp [List.countP_append, inside, t.unmatched_eq]

/-- An expected element that is new counts as unique. -/
theorem concat_unique (t : Tallied expected l unique duplicates unmatched) (inside : expected a)
    (fresh : a ∉ l) : Tallied expected (l ++ [a]) (unique + 1) duplicates unmatched := by
  refine ⟨?_, ?_, ?_⟩
  · have new : a ∉ l.toFinset.filter expected := by simp [fresh]
    rw [toFinset_concat, Finset.filter_insert, if_pos inside, Finset.card_insert_of_notMem new, t.unique_eq]
  · simp only [List.countP_append, List.countP_singleton, inside, decide_true, if_true, ← t.matched_eq]
    omega
  · simp [List.countP_append, inside, t.unmatched_eq]

theorem length_eq (t : Tallied expected l unique duplicates unmatched) :
    unique + duplicates + unmatched = l.length := by
  have both := l.length_eq_countP_add_countP (p := fun a => decide (expected a))
  have outside : l.countP (fun a => ¬ expected a) = l.countP fun a => ¬ (decide (expected a)) = true := by
    simp
  rw [t.matched_eq, t.unmatched_eq, outside, ← both]

/-- Without an unmatched element all were expected. -/
theorem expected_of_unmatched (t : Tallied expected l unique duplicates 0) : ∀ a ∈ l, expected a := by
  intro a mem
  by_contra outside
  have := List.countP_eq_zero.mp t.unmatched_eq.symm a mem
  simp [outside] at this

theorem filter_eq (all : ∀ a ∈ l, expected a) : l.toFinset.filter expected = l.toFinset :=
  Finset.filter_true_of_mem fun a mem => all a (List.mem_toFinset.mp mem)

/-- With nothing repeated and nothing unexpected there are as many elements as distinct ones. -/
theorem nodup_of_single (t : Tallied expected l unique 0 0) : l.Nodup := by
  have all := t.expected_of_unmatched
  have total := t.length_eq
  have card : l.toFinset.card = l.length := by
    rw [← filter_eq all, ← t.unique_eq]
    omega
  exact Multiset.toFinset_card_eq_card_iff_nodup.mp card

/-- **The counters decide exactness**: every expected element was seen, none again and nothing
else came exactly when each expected element occurs once and no other at all. -/
theorem exact_iff (t : Tallied expected l unique duplicates unmatched) {points : List α}
    (nodup : points.Nodup) (points_iff : ∀ a, a ∈ points ↔ expected a) :
    (points.length ≤ unique ∧ duplicates = 0 ∧ unmatched = 0) ↔
      ∀ a, l.count a = if expected a then 1 else 0 := by
  have points_card : points.length = points.toFinset.card := (List.toFinset_card_of_nodup nodup).symm
  constructor
  · rintro ⟨full, rfl, rfl⟩
    have all := t.expected_of_unmatched
    have subset : l.toFinset ⊆ points.toFinset := by
      intro a mem
      exact List.mem_toFinset.mpr ((points_iff a).mpr (all a (List.mem_toFinset.mp mem)))
    have equal : l.toFinset = points.toFinset := by
      refine Finset.eq_of_subset_of_card_le subset ?_
      rwa [← points_card, ← filter_eq all, ← t.unique_eq]
    intro a
    have mem_iff : a ∈ l ↔ expected a := by
      rw [← points_iff, ← List.mem_toFinset, equal, List.mem_toFinset]
    by_cases member : a ∈ l
    · rw [if_pos (mem_iff.mp member), List.count_eq_one_of_mem t.nodup_of_single member]
    · rw [if_neg fun h => member (mem_iff.mpr h), List.count_eq_zero_of_not_mem member]
  · intro counts
    have distinct : l.Nodup := by
      refine List.nodup_iff_count_le_one.mpr fun a => ?_
      rw [counts a]
      split <;> omega
    have mem_iff : ∀ a, a ∈ l ↔ expected a := by
      intro a
      rw [← List.count_pos_iff, counts a]
      split <;> simp_all
    have same := filter_eq fun a mem => (mem_iff a).mp mem
    have card : unique = l.length := by
      rw [t.unique_eq, same, List.toFinset_card_of_nodup distinct]
    have equal : l.toFinset = points.toFinset := by
      ext a
      simp [mem_iff, points_iff]
    have total := t.length_eq
    refine ⟨?_, by omega, by omega⟩
    rw [points_card, ← equal, ← same, ← t.unique_eq]

/-- As many elements as expected ones, none again and nothing else: the same elements. -/
theorem perm_iff (t : Tallied expected l unique duplicates unmatched) {points : List α} (nodup : points.Nodup)
    (points_iff : ∀ a, a ∈ points ↔ expected a) :
    (l.length = points.length ∧ duplicates + unmatched = 0) ↔ l.Perm points := by
  have counts : (∀ a, l.count a = if expected a then 1 else 0) ↔ l.Perm points := by
    rw [List.perm_iff_count]
    refine forall_congr' fun a => ?_
    by_cases member : a ∈ points
    · rw [if_pos ((points_iff a).mp member), List.count_eq_one_of_mem nodup member]
    · rw [if_neg fun h => member ((points_iff a).mpr h), List.count_eq_zero_of_not_mem member]
  rw [← counts, ← t.exact_iff nodup points_iff]
  have total := t.length_eq
  constructor
  · rintro ⟨length, none⟩
    exact ⟨by omega, by omega, by omega⟩
  · rintro ⟨full, rfl, rfl⟩
    have same := counts.mp ((t.exact_iff nodup points_iff).mp ⟨full, rfl, rfl⟩)
    exact ⟨same.length_eq, rfl⟩

end Tallied

/-- The groups of a stream by name, one after the other, are the stream in another order. -/
theorem flatMap_filter_perm {β : Type} (name : β → α) {names : List α} (nodup : names.Nodup) {l : List β}
    (named : ∀ b ∈ l, name b ∈ names) : (names.flatMap fun k => l.filter fun b => name b = k).Perm l := by
  induction names generalizing l with
  | nil =>
    have empty : l = [] := List.eq_nil_iff_forall_not_mem.mpr fun b member => List.not_mem_nil (named b member)
    simp [empty]
  | cons k rest ih =>
    obtain ⟨fresh, nodup⟩ := List.nodup_cons.mp nodup
    have others : ∀ b ∈ l.filter (fun b => ¬ name b = k), name b ∈ rest := by
      intro b member
      obtain ⟨inside, other⟩ := List.mem_filter.mp member
      exact (List.mem_cons.mp (named b inside)).resolve_left (by simpa using other)
    have groups : (rest.flatMap fun k' => l.filter fun b => name b = k') =
        rest.flatMap fun k' => (l.filter fun b => ¬ name b = k).filter fun b => name b = k' := by
      refine List.flatMap_congr fun k' member => ?_
      rw [List.filter_filter]
      refine List.filter_congr fun b _ => ?_
      by_cases here : name b = k'
      · have apart : ¬ k' = k := fun same => fresh (same ▸ member)
        simp [here, apart]
      · simp [here]
    rw [List.flatMap_cons, groups]
    refine ((ih nodup others).append_left _).trans ?_
    simpa using List.filter_append_perm (fun b => decide (name b = k)) l

/-- A table of counts by name. -/
abbrev Counts (α : Type) := List (α × Nat)

namespace Counts

def names (table : Counts α) : List α := table.map (·.1)

def total (table : Counts α) : Nat := (table.map (·.2)).sum

/-- The count of a name, if it has one. -/
def find (table : Counts α) (name : α) : Option Nat := (table.find? fun e => e.1 = name).map (·.2)

/-- One more of a name that is already counted. -/
def bump (table : Counts α) (name : α) : Counts α :=
  table.map fun e => if e.1 = name then (e.1, e.2 + 1) else e

/-- `++table[name]`: a name without a count starts at zero. -/
def increment (table : Counts α) (name : α) : Counts α :=
  if (table.find name).isSome then table.bump name else table ++ [(name, 1)]

@[simp] theorem names_bump (table : Counts α) (name : α) : (table.bump name).names = table.names := by
  simp only [bump, names, List.map_map]
  refine List.map_congr_left fun e _ => ?_
  simp only [Function.comp_apply]
  split <;> rfl

omit [DecidableEq α] in
@[simp] theorem length_names (table : Counts α) : table.names.length = table.length := by simp [names]

/-- A name that has no entry is not counted. -/
theorem bump_of_notMem {table : Counts α} {name : α} (absent : name ∉ table.names) : table.bump name = table := by
  have same : ∀ e ∈ table, (if e.1 = name then (e.1, e.2 + 1) else e) = e := by
    intro e mem
    refine if_neg fun here => absent ?_
    rw [← here]
    exact List.mem_map_of_mem mem
  rw [bump, List.map_congr_left same, List.map_id']

/-- A name that has an entry is counted once. -/
theorem total_bump {table : Counts α} {name : α} (nodup : table.names.Nodup) (present : name ∈ table.names) :
    (table.bump name).total = table.total + 1 := by
  induction table with
  | nil => simp [names] at present
  | cons e rest ih =>
    have split : Counts.names (e :: rest) = e.1 :: Counts.names rest := rfl
    rw [split, List.nodup_cons] at nodup
    rw [split, List.mem_cons] at present
    have bumpCons : bump (e :: rest) name = (if e.1 = name then (e.1, e.2 + 1) else e) :: bump rest name := rfl
    have totalCons : ∀ (e : α × Nat) (t : Counts α), total (e :: t) = e.2 + total t := fun _ _ => by simp [total]
    rw [bumpCons, totalCons, totalCons]
    by_cases here : e.1 = name
    · rw [if_pos here, bump_of_notMem (here ▸ nodup.1)]
      omega
    · rw [if_neg here, ih nodup.2 (present.resolve_left (Ne.symm here))]
      omega

theorem find_eq_none_iff {table : Counts α} {name : α} : table.find name = none ↔ name ∉ table.names := by
  simp only [find, names, Option.map_eq_none_iff, List.find?_eq_none, decide_eq_true_eq, List.mem_map]
  exact ⟨fun h ⟨e, mem, same⟩ => h e mem same, fun h e mem same => h ⟨e, mem, same⟩⟩

/-- A count is part of the sum. -/
theorem le_total {table : Counts α} {name : α} {count : Nat} (found : table.find name = some count) :
    name ∈ table.names ∧ count ≤ table.total := by
  obtain ⟨e, first, rfl⟩ := Option.map_eq_some_iff.mp found
  have mem := List.mem_of_find?_eq_some first
  have here : e.1 = name := by simpa using List.find?_some first
  refine ⟨?_, List.single_le_sum (by simp) _ (List.mem_map_of_mem mem)⟩
  rw [← here]
  exact List.mem_map_of_mem mem

end Counts

/-- A table that counts the names of `l` and takes at most `limit` of them. -/
structure Counted (limit : Nat) (l : List α) (table : Counts α) : Prop where
  nodup : table.names.Nodup
  subset : table.names ⊆ l
  within : l.toFinset.card ≤ limit → l ⊆ table.names
  full : limit < l.toFinset.card → table.length = limit
  total_le : table.total ≤ l.length
  total_eq : l.toFinset.card ≤ limit → table.total = l.length

namespace Counted

variable {limit : Nat} {l : List α} {table : Counts α} {name : α} {count : Nat}

theorem nil : Counted limit ([] : List α) [] :=
  ⟨by simp [Counts.names], by simp [Counts.names], by simp, by simp, by simp [Counts.total], by simp [Counts.total]⟩

/-- While the names fit, the table has them all. -/
theorem card_eq (c : Counted limit l table) (fits : l.toFinset.card ≤ limit) : l.toFinset.card = table.length := by
  have equal : table.names.toFinset = l.toFinset := by
    ext x
    simp only [List.mem_toFinset]
    exact ⟨fun h => c.subset h, fun h => c.within fits h⟩
  rw [← equal, List.toFinset_card_of_nodup c.nodup, Counts.length_names]

theorem card_concat_mono (l : List α) (name : α) : l.toFinset.card ≤ (l ++ [name]).toFinset.card := by
  rw [Tallied.toFinset_concat]
  exact Finset.card_le_card (Finset.subset_insert _ _)

/-- A name that has a count gets one more. -/
theorem bump (c : Counted limit l table) (present : name ∈ table.names) :
    Counted limit (l ++ [name]) (table.bump name) := by
  have card : (l ++ [name]).toFinset.card = l.toFinset.card := by
    rw [Tallied.toFinset_concat, Finset.insert_eq_of_mem (List.mem_toFinset.mpr (c.subset present))]
  have total := Counts.total_bump c.nodup present
  have total_le := c.total_le
  refine ⟨by simpa using c.nodup, ?_, ?_, ?_, ?_, ?_⟩
  · rw [Counts.names_bump]
    exact fun x mem => List.mem_append_left _ (c.subset mem)
  · rw [card, Counts.names_bump]
    intro fits x mem
    rcases List.mem_append.mp mem with old | new
    · exact c.within fits old
    · rwa [List.mem_singleton.mp new]
  · rw [card]
    intro exceeds
    simpa [Counts.bump] using c.full exceeds
  · simp only [List.length_append, List.length_singleton]
    omega
  · rw [card]
    intro fits
    rw [total, c.total_eq fits, List.length_append, List.length_singleton]

/-- A new name is entered while there is room. -/
theorem enter (c : Counted limit l table) (absent : name ∉ table.names) (room : table.length < limit) :
    Counted limit (l ++ [name]) (table ++ [(name, 1)]) ∧ (l ++ [name]).toFinset.card ≤ limit := by
  have fits : l.toFinset.card ≤ limit := by
    by_contra exceeds
    have := c.full (by omega)
    omega
  have fresh : name ∉ l.toFinset := fun mem => absent (c.within fits (List.mem_toFinset.mp mem))
  have card : (l ++ [name]).toFinset.card ≤ limit := by
    rw [Tallied.toFinset_concat, Finset.card_insert_of_notMem fresh, c.card_eq fits]
    omega
  have names : Counts.names (table ++ [(name, 1)]) = table.names ++ [name] := by simp [Counts.names]
  have total : Counts.total (table ++ [(name, 1)]) = table.total + 1 := by simp [Counts.total]
  have total_eq := c.total_eq fits
  refine ⟨⟨?_, ?_, ?_, fun exceeds => absurd card (by omega), ?_, fun _ => ?_⟩, card⟩
  · rw [names]
    exact List.Nodup.append c.nodup (by simp) (by simpa using absent)
  · rw [names]
    exact List.append_subset.mpr ⟨fun x mem => List.mem_append_left _ (c.subset mem), by simp⟩
  · rw [names]
    intro _ x mem
    rcases List.mem_append.mp mem with old | new
    · exact List.mem_append_left _ (c.within fits old)
    · exact List.mem_append_right _ new
  · simp [total, total_eq]
  · simp [total, total_eq]

/-- A new name is refused by a full table, and then the stream has more names than the limit. -/
theorem refuse (c : Counted limit l table) (absent : name ∉ table.names) (noRoom : limit ≤ table.length) :
    Counted limit (l ++ [name]) table ∧ limit < (l ++ [name]).toFinset.card := by
  have mono := card_concat_mono l name
  have exceeds : limit < (l ++ [name]).toFinset.card := by
    by_cases fits : l.toFinset.card ≤ limit
    · have fresh : name ∉ l.toFinset := fun mem => absent (c.within fits (List.mem_toFinset.mp mem))
      rw [Tallied.toFinset_concat, Finset.card_insert_of_notMem fresh, c.card_eq fits]
      omega
    · omega
  have exact_limit : table.length = limit := by
    by_cases fits : l.toFinset.card ≤ limit
    · have := c.card_eq fits
      omega
    · exact c.full (by omega)
  refine ⟨⟨c.nodup, fun x mem => List.mem_append_left _ (c.subset mem), fun fits => absurd exceeds (by omega),
    fun _ => exact_limit, ?_, fun fits => absurd exceeds (by omega)⟩, exceeds⟩
  have := c.total_le
  simp only [List.length_append, List.length_singleton]
  omega

end Counted

end EmsDnp3
