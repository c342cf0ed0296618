import EmsDnp3.Native.MeasurementCapture

/-!
# The expected points of a static set

The ranges of a static set name a finite set of points. The capture keeps it as one bitmap
per range; `Seen` reads the bitmaps back as a set of points, and one pass of the loop over
the ranges (`markRanges`) answers and updates that set.
-/

namespace EmsDnp3.Native

/-- The kind and index of an object; some objects have no index. -/
structure Point where
  kind : Text
  index : Option PointIndex
deriving DecidableEq

def CaptureMeasurement.point (m : CaptureMeasurement) : Point := ⟨m.kind, m.index⟩

namespace CapturePointRange

def Holds (r : CapturePointRange) (kind : Text) (index : PointIndex) : Prop :=
  r.kind = kind ∧ r.start ≤ index ∧ index ≤ r.stop

instance (r : CapturePointRange) (kind : Text) (index : PointIndex) : Decidable (r.Holds kind index) :=
  inferInstanceAs (Decidable (_ ∧ _ ∧ _))

/-- The points of a range, in order. -/
def points (r : CapturePointRange) : List Point :=
  (List.range r.count).map fun k => ⟨r.kind, some (PointIndex.ofNat (r.start.val + k))⟩

theorem Apart.not_both {a b : CapturePointRange} (apart : a.Apart b) {kind : Text} {index : PointIndex}
    (inA : a.Holds kind index) (inB : b.Holds kind index) : False := by
  rcases apart (inA.1.trans inB.1.symm) with above | above
  · exact absurd (lt_of_lt_of_le above inB.2.1) (not_lt_of_ge inA.2.2)
  · exact absurd (lt_of_lt_of_le above inA.2.1) (not_lt_of_ge inB.2.2)

/-- The points of a range are those it covers. -/
theorem mem_points {r : CapturePointRange} {p : Point} :
    p ∈ r.points ↔ ∃ index, p = ⟨r.kind, some index⟩ ∧ r.Holds r.kind index := by
  have ordered : r.start.val ≤ r.stop.val := r.ordered
  have bound := r.stop.isLt
  simp only [points, List.mem_map, List.mem_range, count]
  constructor
  · rintro ⟨k, less, rfl⟩
    have small := PointIndex.val_ofNat (n := r.start.val + k) (by omega)
    refine ⟨_, rfl, rfl, ?_, ?_⟩
    · rw [Fin.le_def, small]
      omega
    · rw [Fin.le_def, small]
      omega
  · rintro ⟨index, rfl, -, low, high⟩
    have low : r.start.val ≤ index.val := low
    have high : index.val ≤ r.stop.val := high
    refine ⟨index.val - r.start.val, by omega, ?_⟩
    have : PointIndex.ofNat (r.start.val + (index.val - r.start.val)) = index := by
      apply Fin.ext
      rw [PointIndex.val_ofNat (by omega)]
      omega
    rw [this]

/-- A range lists no point twice. -/
theorem points_nodup (r : CapturePointRange) : r.points.Nodup := by
  have ordered : r.start.val ≤ r.stop.val := r.ordered
  have bound := r.stop.isLt
  refine List.Nodup.map_on ?_ List.nodup_range
  intro a ha b hb same
  rw [List.mem_range, count] at ha hb
  have same := congrArg Fin.val (Option.some.inj (Point.mk.inj same).2)
  change (r.start.val + a) % 65536 = (r.start.val + b) % 65536 at same
  rw [Nat.mod_eq_of_lt (by omega), Nat.mod_eq_of_lt (by omega)] at same
  omega

end CapturePointRange

/-- A point is expected when some range holds it; an object without an index never is. -/
def Expected (ranges : List CapturePointRange) : Point → Prop
  | ⟨kind, some index⟩ => ∃ r ∈ ranges, r.Holds kind index
  | ⟨_, none⟩ => False

instance (ranges : List CapturePointRange) : DecidablePred (Expected ranges)
  | ⟨_, some _⟩ => inferInstanceAs (Decidable (∃ r ∈ ranges, _))
  | ⟨_, none⟩ => inferInstanceAs (Decidable False)

def expectedPoints (ranges : List CapturePointRange) : List Point := ranges.flatMap (·.points)

/-- A point is listed exactly if it is expected. -/
theorem mem_expectedPoints (ranges : List CapturePointRange) (p : Point) :
    p ∈ expectedPoints ranges ↔ Expected ranges p := by
  obtain ⟨kind, index⟩ := p
  simp only [expectedPoints, List.mem_flatMap, CapturePointRange.mem_points]
  cases index with
  | none => simp [Expected]
  | some index =>
    constructor
    · rintro ⟨r, mem, other, same, holds⟩
      obtain ⟨rfl, index⟩ := Point.mk.inj same
      exact ⟨r, mem, Option.some.inj index ▸ holds⟩
    · rintro ⟨r, mem, holds⟩
      obtain rfl := holds.1
      exact ⟨r, mem, index, rfl, holds⟩

/-- Disjoint ranges list no point twice. -/
theorem expectedPoints_nodup {ranges : List CapturePointRange}
    (apart : ranges.Pairwise CapturePointRange.Apart) : (expectedPoints ranges).Nodup := by
  refine List.nodup_flatMap.mpr ⟨fun r _ => r.points_nodup, apart.imp fun {a b} apart => ?_⟩
  intro p inA inB
  obtain ⟨index, rfl, holdsA⟩ := CapturePointRange.mem_points.mp inA
  obtain ⟨other, same, holdsB⟩ := CapturePointRange.mem_points.mp inB
  obtain ⟨kind, index⟩ := Point.mk.inj same
  obtain rfl := Option.some.inj index
  exact apart.not_both holdsA (kind ▸ holdsB)

theorem expectedPoints_length (ranges : List CapturePointRange) :
    (expectedPoints ranges).length = (ranges.map (·.count)).sum := by
  simp [expectedPoints, CapturePointRange.points, List.length_flatMap]

/-! ## The bitmaps as a set of points -/

/-- Every range has a bit for each of its points. -/
def RangeState.Wide (r : RangeState) : Prop := r.bits.length = (r.range.count + 63) / 64

/-- The bit of a point is set in the range that holds it. -/
def Seen (ranges : List RangeState) (kind : Text) (index : PointIndex) : Prop :=
  ∃ r ∈ ranges, r.range.Holds kind index ∧ r.bits.test (index.val - r.range.start.val) = true

/-- A point is marked in the first range or in a later one. -/
theorem Seen.cons {r : RangeState} {rest : List RangeState} {kind : Text} {index : PointIndex} :
    Seen (r :: rest) kind index ↔
      (r.range.Holds kind index ∧ r.bits.test (index.val - r.range.start.val) = true) ∨ Seen rest kind index := by
  simp [Seen]

/-- What marking a point does to the ranges. -/
structure Marked (kind : Text) (index : PointIndex) (before after : List RangeState) : Prop where
  held : ∃ r ∈ before, r.range.Holds kind index
  fresh : ¬ Seen before kind index
  ranges : after.map (·.range) = before.map (·.range)
  wide : ∀ r ∈ after, r.Wide
  seen : ∀ k i, Seen after k i ↔ (k = kind ∧ i = index) ∨ Seen before k i

namespace Capture

variable {kind : Text} {index : PointIndex}

/-- The loop body, by whether the range holds the point. -/
theorem markRanges_cons (r : RangeState) (rest : List RangeState) :
    markRanges kind index (r :: rest) =
      if r.range.Holds kind index then
        if r.bits.test (index.val - r.range.start.val) then some (true, r :: rest)
        else some (false, { r with bits := r.bits.insert (index.val - r.range.start.val) } :: rest)
      else (markRanges kind index rest).map fun found => (found.1, r :: found.2) := by
  have outside_iff : (r.range.kind ≠ kind ∨ index < r.range.start ∨ r.range.stop < index) ↔
      ¬ r.range.Holds kind index := by
    simp only [CapturePointRange.Holds, not_and_or, not_le, ne_eq]
  by_cases holds : r.range.Holds kind index
  · rw [markRanges, if_neg fun out => outside_iff.mp out holds, if_pos holds]
  · rw [markRanges, if_pos (outside_iff.mpr holds), if_neg holds]

/-- What is marked nowhere lies in no range. -/
theorem markRanges_none {ranges : List RangeState} (none : markRanges kind index ranges = none) :
    ∀ r ∈ ranges, ¬ r.range.Holds kind index := by
  induction ranges with
  | nil => simp
  | cons r rest ih =>
    rw [markRanges_cons] at none
    split at none
    · split at none <;> cases none
    · next outside => exact List.forall_mem_cons.mpr ⟨outside, ih (Option.map_eq_none_iff.mp none)⟩

/-- A repeated mark is of a point already seen. -/
theorem markRanges_seen {ranges after : List RangeState} (marked : markRanges kind index ranges = some (true, after)) :
    Seen ranges kind index := by
  induction ranges generalizing after with
  | nil => cases marked
  | cons r rest ih =>
    rw [markRanges_cons] at marked
    rw [Seen.cons]
    split at marked
    · next holds =>
      split at marked
      · next bit => exact Or.inl ⟨holds, bit⟩
      · simp at marked
    · obtain ⟨found, later, same⟩ := Option.map_eq_some_iff.mp marked
      obtain ⟨flag, -⟩ := Prod.mk.inj same
      have below : markRanges kind index rest = some (true, found.2) := by rw [later, ← flag]
      exact Or.inr (ih below)

/-- A point whose bit was clear: only that bit changes. -/
theorem markRanges_fresh {ranges after : List RangeState}
    (apart : (ranges.map (·.range)).Pairwise CapturePointRange.Apart) (wide : ∀ r ∈ ranges, r.Wide)
    (marked : markRanges kind index ranges = some (false, after)) : Marked kind index ranges after := by
  induction ranges generalizing after with
  | nil => cases marked
  | cons r rest ih =>
    rw [List.map_cons, List.pairwise_cons] at apart
    rw [List.forall_mem_cons] at wide
    rw [markRanges_cons] at marked
    split at marked
    · next holds =>
      split at marked
      · simp at marked
      · next bit =>
        obtain ⟨-, rfl⟩ := Prod.mk.inj (Option.some.inj marked)
        have alone : ∀ q ∈ rest, ¬ q.range.Holds kind index := fun q mem other =>
          (apart.1 q.range (List.mem_map_of_mem mem)).not_both holds other
        have low : r.range.start.val ≤ index.val := holds.2.1
        have high : index.val ≤ r.range.stop.val := holds.2.2
        have bound : (index.val - r.range.start.val) / 64 < r.bits.length := by
          rw [show r.bits.length = _ from wide.1, CapturePointRange.count]
          omega
        refine ⟨⟨r, List.mem_cons_self, holds⟩, ?_, rfl, ?_, ?_⟩
        · rw [Seen.cons]
          rintro (here | ⟨q, mem, other, -⟩)
          · exact bit here.2
          · exact alone q mem other
        · refine List.forall_mem_cons.mpr ⟨?_, wide.2⟩
          simpa [RangeState.Wide] using wide.1
        · intro k i
          rw [Seen.cons, Seen.cons]
          simp only [Bitmap.test_insert bound, Bool.or_eq_true, decide_eq_true_eq]
          constructor
          · rintro (⟨here, same | old⟩ | there)
            · have low' : r.range.start.val ≤ i.val := here.2.1
              exact Or.inl ⟨here.1.symm.trans holds.1, Fin.ext (by omega)⟩
            · exact Or.inr (Or.inl ⟨here, old⟩)
            · exact Or.inr (Or.inr there)
          · rintro (⟨rfl, rfl⟩ | ⟨here, old⟩ | there)
            · exact Or.inl ⟨holds, Or.inl rfl⟩
            · exact Or.inl ⟨here, Or.inr old⟩
            · exact Or.inr there
    · next outside =>
      obtain ⟨found, later, same⟩ := Option.map_eq_some_iff.mp marked
      obtain ⟨flag, rfl⟩ := Prod.mk.inj same
      have below : markRanges kind index rest = some (false, found.2) := by rw [later, ← flag]
      have tail := ih apart.2 wide.2 below
      obtain ⟨holder, mem, holds⟩ := tail.held
      refine ⟨⟨holder, List.mem_cons_of_mem _ mem, holds⟩, ?_, ?_, ?_, ?_⟩
      · rw [Seen.cons]
        rintro (here | there)
        · exact outside here.1
        · exact tail.fresh there
      · simp [tail.ranges]
      · exact List.forall_mem_cons.mpr ⟨wide.1, tail.wide⟩
      · intro k i
        rw [Seen.cons, Seen.cons, tail.seen]
        exact or_left_comm

end Capture

/-- The bitmaps and counters of a static set after the points `l`. -/
structure PointsTracked (expected : List CapturePointRange) (ranges : List RangeState)
    (unique duplicates unmatched : Nat) (l : List Point) : Prop where
  states : ranges.map (·.range) = expected
  wide : ∀ r ∈ ranges, r.Wide
  seen : ∀ kind index, Seen ranges kind index ↔ Expected expected ⟨kind, some index⟩ ∧ (⟨kind, some index⟩ : Point) ∈ l
  tally : Tallied (Expected expected) l unique duplicates unmatched

namespace PointsTracked

variable {expected : List CapturePointRange} {ranges after : List RangeState}
  {unique duplicates unmatched : Nat} {l : List Point} {p : Point} {kind : Text} {index : PointIndex}

/-- A point outside the ranges is unmatched. -/
theorem miss (t : PointsTracked expected ranges unique duplicates unmatched l) (outside : ¬ Expected expected p) :
    PointsTracked expected ranges unique duplicates (unmatched + 1) (l ++ [p]) :=
  { t with
    seen := by
      intro k i
      rw [t.seen, List.mem_append, List.mem_singleton]
      refine and_congr_right fun inside => (or_iff_left ?_).symm
      rintro rfl
      exact outside inside
    tally := t.tally.concat_unmatched outside }

/-- A point that was seen is a duplicate. -/
theorem again (t : PointsTracked expected ranges unique duplicates unmatched l) (seen : Seen ranges kind index) :
    PointsTracked expected ranges unique (duplicates + 1) unmatched (l ++ [⟨kind, some index⟩]) := by
  obtain ⟨inside, before⟩ := (t.seen kind index).mp seen
  refine { t with seen := fun k i => ?_, tally := t.tally.concat_duplicate inside before }
  rw [t.seen, List.mem_append, List.mem_singleton]
  refine and_congr_right fun _ => (or_iff_left_of_imp ?_).symm
  intro same
  exact same ▸ before

/-- A point that was not is unique. -/
theorem mark (t : PointsTracked expected ranges unique duplicates unmatched l)
    (marked : Marked kind index ranges after) :
    PointsTracked expected after (unique + 1) duplicates unmatched (l ++ [⟨kind, some index⟩]) := by
  have inside : Expected expected ⟨kind, some index⟩ := by
    obtain ⟨r, mem, holds⟩ := marked.held
    exact ⟨r.range, t.states ▸ List.mem_map_of_mem mem, holds⟩
  have fresh : (⟨kind, some index⟩ : Point) ∉ l := fun mem => marked.fresh ((t.seen _ _).mpr ⟨inside, mem⟩)
  refine ⟨marked.ranges.trans t.states, marked.wide, fun k i => ?_, t.tally.concat_unique inside fresh⟩
  rw [marked.seen, t.seen, List.mem_append, List.mem_singleton, Point.mk.injEq, Option.some.injEq]
  constructor
  · rintro (⟨rfl, rfl⟩ | ⟨old, before⟩)
    · exact ⟨inside, Or.inr ⟨rfl, rfl⟩⟩
    · exact ⟨old, Or.inl before⟩
  · rintro ⟨old, before | here⟩
    · exact Or.inr ⟨old, before⟩
    · exact Or.inl here

end PointsTracked

end EmsDnp3.Native
