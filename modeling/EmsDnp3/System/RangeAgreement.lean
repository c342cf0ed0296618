import EmsDnp3.Base.Intervals
import EmsDnp3.Native.RequestConfig
import EmsDnp3.Python.CaptureModels

/-!
# Point ranges on both sides

The host parses `expected.point_ranges` and the client builds a `CapturePointRange` from each object of
a profile and checks the list in `CaptureConfig`. Both compare neighbours of a sorted list only. Each
accepts exactly the lists of `WellFormedRanges`, where every pair of ranges is compared.
-/

namespace EmsDnp3

namespace Python

/-- The checks of `CaptureConfig.__post_init__` on the ranges of a `static_set` capture. -/
def checkStaticRanges (ranges : List CapturePointRange) : Except PyError Unit := do
  rejectIf (256 < ranges.length) (.value "point_ranges may contain at most 256 ranges")
  rejectIf ranges.isEmpty (.value "static_set capture requires point_ranges")
  rejectIf (1000000 < (ranges.map (·.pointCount)).sum)
    (.value "static_set expected set may contain at most 1000000 points")
  rejectIf (!noOverlap (ranges.insertionSort fun a b => rangeKeyLe a b = true))
    (.value "point_ranges must not overlap for the same point kind")

/-- The ranges of a profile, as `CaptureConfig` takes them. -/
def staticRanges (items : List Json) : Except PyError (List CapturePointRange) := do
  let ranges ← items.mapM CapturePointRange.ofMapping
  checkStaticRanges ranges
  return ranges

end Python

namespace RangeAgreement

/-- One point range as it is meant. -/
structure Entry where
  kind : Text
  start : Nat
  stop : Nat

/-- `item` is an object with the members of `entry` and no other, of a known kind and in range. -/
structure Entry.Describes (entry : Entry) (item : Json) : Prop where
  object : item.isObj = true
  fields : ∀ key ∈ item.keys, key ∈ ["kind", "start", "stop"].map text
  kindHere : item.get? "kind" = some (.str entry.kind)
  startHere : item.get? "start" = some (.nat entry.start)
  stopHere : item.get? "stop" = some (.nat entry.stop)
  known : entry.kind ∈ Native.knownKinds.map text
  ordered : entry.start ≤ entry.stop
  bounded : entry.stop ≤ 65535

/-- No common point of one kind. -/
def Entry.Apart (a b : Entry) : Prop := a.kind = b.kind → a.stop < b.start ∨ b.stop < a.start

/-- One to 256 well-formed ranges of at most a million points, no two of one kind with a common point. -/
structure WellFormedRanges (items : List Json) (entries : List Entry) : Prop where
  each : List.Forall₂ Entry.Describes entries items
  length : 1 ≤ items.length ∧ items.length ≤ 256
  total : (entries.map fun e => e.stop - e.start + 1).sum ≤ 1000000
  apart : entries.Pairwise Entry.Apart

/-! ## The host -/

/-- A parsed range as an entry. -/
def Entry.ofNative (r : Native.CapturePointRange) : Entry := ⟨r.kind, r.start.val, r.stop.val⟩

/-- An object passes if it has only allowed members. -/
theorem rejectUnknownFields_ok {item : Json} {allowed : List String} {parent : Text} :
    Native.rejectUnknownFields item allowed parent = .ok () ↔
      item.isObj = true ∧ ∀ key ∈ item.keys, key ∈ allowed.map text := by
  cases item with
  | obj members =>
    rw [Native.rejectUnknownFields]
    constructor
    · intro ok
      split at ok
      · cases ok
      · next none =>
        refine ⟨rfl, fun key inside => ?_⟩
        obtain ⟨m, mem, rfl⟩ := List.mem_map.mp inside
        simpa using List.find?_eq_none.mp none m mem
    · rintro ⟨-, known⟩
      have none : members.find? (fun m => !(allowed.map text).contains m.1) = none := by
        apply List.find?_eq_none.mpr
        intro m mem
        simpa using known m.1 (List.mem_map_of_mem mem)
      rw [none]
  | _ =>
    constructor
    · rintro ⟨⟩
    · rintro ⟨⟨⟩, -⟩

/-- A required number is read exactly if it is within its bounds. -/
theorem readUnsigned_required {item : Json} {key : String} {field : Text} {maximum n : Nat} (small : maximum ≤ 65535) :
    Native.readUnsigned item key field 0 maximum 0 true = .ok n ↔ item.get? key = some (.nat n) ∧ n ≤ maximum := by
  constructor
  · intro ok
    unfold Native.readUnsigned at ok
    split at ok
    · cases ok
    · next value here =>
      split at ok
      · cases ok
      · next m read =>
        obtain ⟨rfl, -, -⟩ := Native.integer?_some.mp read
        split at ok
        · cases ok
        · next inside =>
          have low : 0 ≤ m := by omega
          obtain rfl := Except.ok.inj ok
          constructor
          · rw [here, Json.nat, Int.toNat_of_nonneg low]
          · omega
  · rintro ⟨here, high⟩
    have machine : n < 2 ^ 64 := lt_of_le_of_lt (high.trans small) (by norm_num)
    exact mapError_ok_iff.mp (Native.Request.readUnsigned_ok here (Nat.zero_le n) high machine)

/-- A token is read exactly if it is printable. -/
theorem readToken_ok {item : Json} {key : String} {field value : Text} {maximum : Nat} :
    Native.readToken item key field maximum = .ok value ↔
      item.get? key = some (.str value) ∧ Native.isPrintableAsciiToken value maximum = true := by
  unfold Native.readToken
  constructor
  · intro ok
    split at ok
    · cases ok
    · next read here =>
      split at ok
      · next printable =>
        obtain rfl := Except.ok.inj ok
        exact ⟨here, printable⟩
      · cases ok
    · cases ok
  · rintro ⟨here, printable⟩
    rw [here]
    exact if_pos printable

/-- Every known kind is a token. -/
theorem knownKinds_printable : ∀ kind ∈ Native.knownKinds.map text, Native.isPrintableAsciiToken kind 64 = true := by
  decide

theorem isKnownKind_iff {kind : Text} : Native.isKnownKind kind = true ↔ kind ∈ Native.knownKinds.map text := by
  rw [Native.isKnownKind, List.contains_iff_mem]

/-- The host reads an item as the range it describes. -/
theorem parsePointRange_ok {index : Nat} {item : Json} {r : Native.CapturePointRange} :
    Native.parsePointRange index item = .ok r ↔ (Entry.ofNative r).Describes item := by
  unfold Native.parsePointRange
  dsimp only
  constructor
  · intro ok
    obtain ⟨_, shape, ok⟩ := ok_bind_iff.mp ok
    obtain ⟨kind, token, ok⟩ := ok_bind_iff.mp ok
    obtain ⟨_, known, ok⟩ := ok_bind_iff.mp ok
    obtain ⟨start, readStart, ok⟩ := ok_bind_iff.mp ok
    obtain ⟨stop, readStop, ok⟩ := ok_bind_iff.mp ok
    obtain ⟨object, fields⟩ := rejectUnknownFields_ok.mp shape
    obtain ⟨startHere, startSmall⟩ := (readUnsigned_required le_rfl).mp readStart
    obtain ⟨stopHere, stopSmall⟩ := (readUnsigned_required le_rfl).mp readStop
    split at ok
    · next ordered =>
      obtain rfl := ok_pure_iff.mp ok
      have startVal := Native.PointIndex.val_ofNat startSmall
      have stopVal := Native.PointIndex.val_ofNat stopSmall
      rw [Fin.le_def, startVal, stopVal] at ordered
      refine ⟨object, fields, (readToken_ok.mp token).1, ?_, ?_, ?_, ?_, ?_⟩
      · simpa only [Entry.ofNative, startVal] using startHere
      · simpa only [Entry.ofNative, stopVal] using stopHere
      · apply isKnownKind_iff.mp
        rw [rejectIf_ok, Bool.not_eq_false'] at known
        exact known
      · simpa only [Entry.ofNative, startVal, stopVal] using ordered
      · simpa only [Entry.ofNative, stopVal] using stopSmall
    · cases ok
  · intro described
    have ordered : r.start.val ≤ r.stop.val := described.ordered
    have bounded : r.stop.val ≤ 65535 := described.bounded
    rw [rejectUnknownFields_ok.mpr ⟨described.object, described.fields⟩, ok_bind,
      readToken_ok.mpr ⟨described.kindHere, knownKinds_printable _ described.known⟩, ok_bind,
      rejectIf_pass (by rw [isKnownKind_iff.mpr described.known]; rfl), ok_bind,
      (readUnsigned_required le_rfl).mpr ⟨described.startHere, ordered.trans bounded⟩, ok_bind,
      (readUnsigned_required le_rfl).mpr ⟨described.stopHere, bounded⟩, ok_bind]
    have start : Native.PointIndex.ofNat (Entry.ofNative r).start = r.start := Fin.ext (Native.PointIndex.val_ofNat (ordered.trans bounded))
    have stop : Native.PointIndex.ofNat (Entry.ofNative r).stop = r.stop := Fin.ext (Native.PointIndex.val_ofNat bounded)
    simp only [start, stop, Fin.le_def, ordered, dif_pos]
    rfl

/-- Entries that are described are ranges of the host. -/
theorem exists_native {entries : List Entry} {items : List Json} (each : List.Forall₂ Entry.Describes entries items) :
    ∃ ranges : List Native.CapturePointRange, entries = ranges.map Entry.ofNative := by
  induction each with
  | nil => exact ⟨[], rfl⟩
  | @cons entry item entries items described _ ih =>
    obtain ⟨ranges, rfl⟩ := ih
    have ordered := described.ordered
    have bounded := described.bounded
    exact ⟨⟨entry.kind, ⟨entry.start, by omega⟩, ⟨entry.stop, by omega⟩, described.ordered⟩ :: ranges, rfl⟩

/-- The host accepts exactly lists that describe ranges, within the limit. -/
theorem parseRangeItems_ok {index total : Nat} {items : List Json} {ranges : List Native.CapturePointRange}
    (few : total ≤ 1000000) :
    Native.parseRangeItems index total items = .ok ranges ↔
      List.Forall₂ Entry.Describes (ranges.map Entry.ofNative) items ∧ total + (ranges.map (·.count)).sum ≤ 1000000 := by
  induction items generalizing index total ranges with
  | nil =>
    rw [Native.parseRangeItems]
    constructor
    · intro ok
      obtain rfl := Except.ok.inj ok
      exact ⟨List.Forall₂.nil, few⟩
    · rintro ⟨none, -⟩
      rw [List.map_eq_nil_iff.mp (List.forall₂_nil_right_iff.mp none)]
  | cons item items ih =>
    rw [Native.parseRangeItems]
    constructor
    · intro ok
      obtain ⟨range, parsed, ok⟩ := ok_bind_iff.mp ok
      obtain ⟨_, fits, ok⟩ := ok_bind_iff.mp ok
      obtain ⟨rest, more, ok⟩ := ok_bind_iff.mp ok
      obtain rfl := ok_pure_iff.mp ok
      have size : range.count ≤ 65536 := by
        have := range.stop.isLt
        unfold Native.CapturePointRange.count
        omega
      rw [rejectIf_ok, decide_eq_false_iff_not, Native.kMaximumExpectedPoints] at fits
      obtain ⟨each, sum⟩ := (ih (by omega)).mp more
      refine ⟨List.Forall₂.cons (parsePointRange_ok.mp parsed) each, ?_⟩
      rw [List.map_cons, List.sum_cons]
      omega
    · rintro ⟨each, sum⟩
      obtain ⟨range, rest, rfl⟩ : ∃ range rest, ranges = range :: rest := by
        cases ranges with
        | nil => cases each
        | cons range rest => exact ⟨range, rest, rfl⟩
      obtain ⟨first, each⟩ := List.forall₂_cons.mp each
      rw [List.map_cons, List.sum_cons] at sum
      rw [parsePointRange_ok.mpr first, ok_bind,
        rejectIf_pass (by rw [decide_eq_false_iff_not, Native.kMaximumExpectedPoints]; omega), ok_bind,
        (ih (by omega)).mpr ⟨each, by omega⟩, ok_bind]
      rfl

/-- The order of `std::sort`, read on the intervals. -/
theorem rangeBefore_iff (a b : Native.CapturePointRange) :
    Native.rangeBefore b a = false ↔
      Intervals.Before Native.CapturePointRange.kind (fun r => r.start.val) a b := by
  simp only [Native.rangeBefore, Intervals.Before, Bool.or_eq_false_iff, Bool.and_eq_false_iff, decide_eq_false_iff_not,
    not_lt, Fin.le_def]
  constructor
  · rintro ⟨le, other | start⟩
    · exact Or.inl (lt_of_le_of_ne le (Ne.symm other))
    · exact (lt_or_eq_of_le le).imp_right fun same => ⟨same, start⟩
  · rintro (less | ⟨same, start⟩)
    · exact ⟨le_of_lt less, Or.inl (ne_of_gt less)⟩
    · exact ⟨le_of_eq same, Or.inr start⟩

/-- The host's check of neighbours is the general one. -/
theorem rejectOverlaps_clear (ranges : List Native.CapturePointRange) :
    Native.rejectOverlaps ranges = .ok () ↔
      Intervals.clear Native.CapturePointRange.kind (fun r => r.start.val) (fun r => r.stop.val) ranges = true := by
  induction ranges with
  | nil => simp [Native.rejectOverlaps, Intervals.clear]
  | cons previous rest ih =>
    cases rest with
    | nil => simp [Native.rejectOverlaps, Intervals.clear]
    | cons current rest =>
      rw [Native.rejectOverlaps, Intervals.clear_cons_cons]
      split
      · next touch => simp [touch.1, Fin.le_def.mp touch.2]
      · next free => exact ih.trans (and_iff_right free).symm

/-- The host's neighbour check decides about every pair. -/
theorem rejectOverlaps_sorted (ranges : List Native.CapturePointRange) :
    Native.rejectOverlaps (Native.sortRanges ranges) = .ok () ↔ (ranges.map Entry.ofNative).Pairwise Entry.Apart := by
  have : Std.Total fun a b : Native.CapturePointRange => Native.rangeBefore b a = false := ⟨Native.rangeBefore_total⟩
  have : IsTrans Native.CapturePointRange fun a b => Native.rangeBefore b a = false :=
    ⟨fun _ _ _ => Native.rangeBefore_trans⟩
  have order : (Native.sortRanges ranges).Pairwise
      (Intervals.Before Native.CapturePointRange.kind fun r => r.start.val) := by
    apply (List.pairwise_insertionSort _ ranges).imp
    intro a b le
    exact (rangeBefore_iff a b).mp le
  have perm : (Native.sortRanges ranges).Perm ranges := List.perm_insertionSort _ ranges
  rw [rejectOverlaps_clear, Intervals.clear_sorted_iff perm order fun r _ => r.ordered, List.pairwise_map]
  rfl

/-- **The host accepts exactly the well-formed lists.** -/
theorem parsePointRanges_iff (items : List Json) :
    (∃ ranges, Native.parsePointRanges (.object [("point_ranges", .arr items)]) = .ok ranges) ↔
      ∃ entries, WellFormedRanges items entries := by
  have fields : Native.rejectUnknownFields (.object [("point_ranges", .arr items)]) ["point_ranges"] "expected" = .ok () := by
    apply rejectUnknownFields_ok.mpr
    simp [Json.object, Json.keys, Json.isObj]
  have here : (Json.object [("point_ranges", .arr items)]).get? (text "point_ranges") = some (.arr items) := by simp
  have array : Native.readArray (.object [("point_ranges", .arr items)]) "point_ranges" "expected.point_ranges" =
      .ok items := by
    rw [Native.readArray, here]
  have counts (ranges : List Native.CapturePointRange) :
      ((ranges.map Entry.ofNative).map fun e => e.stop - e.start + 1).sum = (ranges.map (·.count)).sum := by
    rw [List.map_map]
    rfl
  unfold Native.parsePointRanges
  rw [fields, ok_bind, array, ok_bind]
  constructor
  · rintro ⟨ranges, ok⟩
    obtain ⟨_, length, ok⟩ := ok_bind_iff.mp ok
    obtain ⟨output, parsed, ok⟩ := ok_bind_iff.mp ok
    obtain ⟨_, disjoint, -⟩ := ok_bind_iff.mp ok
    obtain ⟨each, total⟩ := (parseRangeItems_ok (by omega)).mp parsed
    rw [rejectIf_ok, Bool.or_eq_false_iff, decide_eq_false_iff_not, decide_eq_false_iff_not, Native.kMaximumRanges] at length
    have nonempty := List.length_pos_iff.mpr length.1
    refine ⟨output.map Entry.ofNative, each, ⟨nonempty, by omega⟩, ?_, (rejectOverlaps_sorted output).mp disjoint⟩
    rw [counts]
    omega
  · rintro ⟨entries, well⟩
    obtain ⟨output, rfl⟩ := exists_native well.each
    have total := well.total
    rw [counts] at total
    have length : (decide (items = []) || decide (Native.kMaximumRanges < items.length)) = false := by
      rw [Bool.or_eq_false_iff, decide_eq_false_iff_not, decide_eq_false_iff_not, Native.kMaximumRanges]
      exact ⟨List.length_pos_iff.mp well.length.1, by have := well.length.2; omega⟩
    rw [rejectIf_pass length, ok_bind, (parseRangeItems_ok (by omega)).mpr ⟨well.each, by omega⟩, ok_bind,
      (rejectOverlaps_sorted output).mpr well.apart, ok_bind]
    exact ⟨_, rfl⟩

/-! ## The client -/

/-- A range of the client as an entry. -/
def Entry.ofPython (r : Python.CapturePointRange) : Entry := ⟨r.kind, r.start, r.stop⟩

/-- Membership in a set of names: `value` is one of them. -/
theorem inSet_names {value : Json} {names : List String} :
    Python.inSet value (names.map fun name => .str (text name)) = .ok true ↔ ∃ name ∈ names.map text, value = .str name := by
  have member : (names.map fun name => Json.str (text name)).contains value = true ↔
      ∃ name ∈ names.map text, value = .str name := by
    rw [List.contains_iff_mem, List.mem_map]
    constructor
    · rintro ⟨name, inside, rfl⟩
      exact ⟨text name, List.mem_map_of_mem inside, rfl⟩
    · rintro ⟨_, inside, rfl⟩
      obtain ⟨name, named, rfl⟩ := List.mem_map.mp inside
      exact ⟨name, named, rfl⟩
  cases value with
  | arr items => simp [Python.inSet]
  | obj members => simp [Python.inSet]
  | _ => rw [← member]; simp [Python.inSet]

/-- The client's numbers are unsigned and bounded. -/
theorem unsignedInteger_ok {value : Json} {name : String} {minimum maximum n : Nat} :
    Python.unsignedInteger value name minimum maximum = .ok n ↔ value = .nat n ∧ minimum ≤ n ∧ n ≤ maximum := by
  constructor
  · intro ok
    unfold Python.unsignedInteger at ok
    split at ok
    · next m =>
      split at ok
      · next inside =>
        obtain rfl := Except.ok.inj ok
        refine ⟨?_, by omega, by omega⟩
        rw [Json.nat, Int.toNat_of_nonneg (by omega)]
      · cases ok
    · cases ok
  · rintro ⟨rfl, low, high⟩
    exact Python.unsignedInteger_ok low high

/-- A range is made of its three values. -/
theorem make_ok {kind start stop : Json} {r : Python.CapturePointRange} :
    Python.CapturePointRange.make kind start stop = .ok r ↔
      kind = .str r.kind ∧ start = .nat r.start ∧ stop = .nat r.stop := by
  unfold Python.CapturePointRange.make
  constructor
  · intro ok
    obtain ⟨known, isKnown, ok⟩ := ok_bind_iff.mp ok
    obtain ⟨_, accepted, ok⟩ := ok_bind_iff.mp ok
    obtain ⟨first, readStart, ok⟩ := ok_bind_iff.mp ok
    obtain ⟨last, readStop, made⟩ := ok_bind_iff.mp ok
    obtain ⟨rfl, -, -⟩ := unsignedInteger_ok.mp readStart
    obtain ⟨rfl, -, -⟩ := unsignedInteger_ok.mp readStop
    rw [rejectIf_ok, Bool.not_eq_false'] at accepted
    subst accepted
    obtain ⟨name, -, rfl⟩ := inSet_names.mp isKnown
    dsimp only at made
    split at made
    · obtain rfl := ok_pure_iff.mp made
      exact ⟨rfl, rfl, rfl⟩
    · cases made
  · rintro ⟨rfl, rfl, rfl⟩
    have known : Python.inSet (.str r.kind) (Python.capturePointKinds.map fun name => .str (text name)) = .ok true :=
      inSet_names.mpr ⟨r.kind, r.known, rfl⟩
    rw [known, ok_bind, Bool.not_true, rejectIf_pass rfl, ok_bind,
      unsignedInteger_ok.mpr ⟨rfl, Nat.zero_le _, r.ordered.trans r.bounded⟩, ok_bind,
      unsignedInteger_ok.mpr ⟨rfl, Nat.zero_le _, r.bounded⟩, ok_bind]
    dsimp only
    rw [dif_pos ⟨r.known, r.ordered, r.bounded⟩]
    rfl

/-- The client reads an item as the range it describes. -/
theorem ofMapping_ok {item : Json} {r : Python.CapturePointRange} :
    Python.CapturePointRange.ofMapping item = .ok r ↔ (Entry.ofPython r).Describes item := by
  have fields : (item.keys.any fun key => !(["kind", "start", "stop"].map text).contains key) = false ↔
      ∀ key ∈ item.keys, key ∈ ["kind", "start", "stop"].map text := by
    simp only [List.any_eq_false, Bool.not_eq_true', Bool.not_eq_false, List.contains_iff_mem]
  unfold Python.CapturePointRange.ofMapping
  constructor
  · intro ok
    obtain ⟨_, object, ok⟩ := ok_bind_iff.mp ok
    obtain ⟨_, known, ok⟩ := ok_bind_iff.mp ok
    rw [rejectIf_ok, Bool.not_eq_false'] at object
    rw [rejectIf_ok, fields] at known
    split at ok
    · next kind start stop kindHere startHere stopHere =>
      obtain ⟨rfl, rfl, rfl⟩ := make_ok.mp ok
      exact ⟨object, known, kindHere, startHere, stopHere, r.known, r.ordered, r.bounded⟩
    · cases ok
  · intro described
    rw [rejectIf_pass (by rw [described.object]; rfl), ok_bind, rejectIf_pass (fields.mpr described.fields), ok_bind,
      described.kindHere, described.startHere, described.stopHere]
    exact make_ok.mpr ⟨rfl, rfl, rfl⟩

/-- The client accepts exactly lists that describe ranges. -/
theorem mapM_ofMapping {items : List Json} {ranges : List Python.CapturePointRange} :
    items.mapM Python.CapturePointRange.ofMapping = .ok ranges ↔
      List.Forall₂ Entry.Describes (ranges.map Entry.ofPython) items := by
  induction items generalizing ranges with
  | nil =>
    rw [List.mapM_nil]
    constructor
    · intro ok
      obtain rfl := ok_pure_iff.mp ok
      exact List.Forall₂.nil
    · intro none
      rw [List.map_eq_nil_iff.mp (List.forall₂_nil_right_iff.mp none)]
      rfl
  | cons item items ih =>
    rw [List.mapM_cons]
    constructor
    · intro ok
      obtain ⟨r, read, ok⟩ := ok_bind_iff.mp ok
      obtain ⟨rest, more, ok⟩ := ok_bind_iff.mp ok
      obtain rfl := ok_pure_iff.mp ok
      exact List.Forall₂.cons (ofMapping_ok.mp read) (ih.mp more)
    · intro each
      obtain ⟨r, rest, rfl⟩ : ∃ r rest, ranges = r :: rest := by
        cases ranges with
        | nil => cases each
        | cons r rest => exact ⟨r, rest, rfl⟩
      obtain ⟨first, each⟩ := List.forall₂_cons.mp each
      rw [ofMapping_ok.mpr first, ok_bind, ih.mpr each, ok_bind]
      rfl

/-- The key of `sorted`, read on the intervals. -/
theorem rangeKeyLe_iff (a b : Python.CapturePointRange) :
    Python.rangeKeyLe a b = true ↔
      Intervals.Before Python.CapturePointRange.kind Python.CapturePointRange.start a b := by
  simp only [Python.rangeKeyLe, Intervals.Before, Bool.or_eq_true, Bool.and_eq_true, decide_eq_true_eq]

/-- The client's check of neighbours is the general one. -/
theorem noOverlap_clear (ranges : List Python.CapturePointRange) :
    Python.noOverlap ranges = true ↔
      Intervals.clear Python.CapturePointRange.kind Python.CapturePointRange.start Python.CapturePointRange.stop
        ranges = true := by
  induction ranges with
  | nil => simp [Python.noOverlap, Intervals.clear]
  | cons previous rest ih =>
    cases rest with
    | nil => simp [Python.noOverlap, Intervals.clear]
    | cons current rest =>
      rw [Intervals.clear_cons_cons, Python.noOverlap, Bool.and_eq_true, ih]
      simp only [Bool.not_eq_true', Bool.and_eq_false_iff, decide_eq_false_iff_not, not_and_or]

/-- The client's neighbour check decides about every pair. -/
theorem noOverlap_sorted (ranges : List Python.CapturePointRange) :
    Python.noOverlap (ranges.insertionSort fun a b => Python.rangeKeyLe a b = true) = true ↔
      (ranges.map Entry.ofPython).Pairwise Entry.Apart := by
  have : Std.Total fun a b : Python.CapturePointRange => Python.rangeKeyLe a b = true := by
    constructor
    intro a b
    rw [rangeKeyLe_iff, rangeKeyLe_iff]
    exact Intervals.Before.total a b
  have : IsTrans Python.CapturePointRange fun a b => Python.rangeKeyLe a b = true := by
    constructor
    intro a b c ab bc
    rw [rangeKeyLe_iff] at ab bc ⊢
    exact ab.trans bc
  have order : (ranges.insertionSort fun a b => Python.rangeKeyLe a b = true).Pairwise
      (Intervals.Before Python.CapturePointRange.kind Python.CapturePointRange.start) := by
    apply (List.pairwise_insertionSort _ ranges).imp
    intro a b le
    exact (rangeKeyLe_iff a b).mp le
  rw [noOverlap_clear, Intervals.clear_sorted_iff (List.perm_insertionSort _ ranges) order fun r _ => r.ordered,
    List.pairwise_map]
  rfl

/-- Entries that are described are ranges of the client. -/
theorem exists_python {entries : List Entry} {items : List Json} (each : List.Forall₂ Entry.Describes entries items) :
    ∃ ranges : List Python.CapturePointRange, entries = ranges.map Entry.ofPython := by
  induction each with
  | nil => exact ⟨[], rfl⟩
  | @cons entry item entries items described _ ih =>
    obtain ⟨ranges, rfl⟩ := ih
    exact ⟨⟨entry.kind, entry.start, entry.stop, described.known, described.ordered, described.bounded⟩ :: ranges, rfl⟩

/-- What the client checks of a static set. -/
theorem checkStaticRanges_ok {ranges : List Python.CapturePointRange} :
    Python.checkStaticRanges ranges = .ok () ↔
      (1 ≤ ranges.length ∧ ranges.length ≤ 256) ∧ (ranges.map (·.pointCount)).sum ≤ 1000000 ∧
        (ranges.map Entry.ofPython).Pairwise Entry.Apart := by
  unfold Python.checkStaticRanges
  rw [← noOverlap_sorted]
  constructor
  · intro ok
    obtain ⟨_, few, ok⟩ := ok_bind_iff.mp ok
    obtain ⟨_, nonempty, ok⟩ := ok_bind_iff.mp ok
    obtain ⟨_, total, apart⟩ := ok_bind_iff.mp ok
    rw [rejectIf_ok, decide_eq_false_iff_not] at few total
    rw [rejectIf_ok, List.isEmpty_eq_false_iff] at nonempty
    rw [rejectIf_ok, Bool.not_eq_false'] at apart
    exact ⟨⟨List.length_pos_iff.mpr nonempty, by omega⟩, by omega, apart⟩
  · rintro ⟨length, total, apart⟩
    rw [rejectIf_pass (by rw [decide_eq_false_iff_not]; omega), ok_bind,
      rejectIf_pass (List.isEmpty_eq_false_iff.mpr (List.length_pos_iff.mp length.1)), ok_bind,
      rejectIf_pass (by rw [decide_eq_false_iff_not]; omega), ok_bind, apart]
    rfl

/-- The ranges that pass are those of some `static_set` configuration. -/
theorem checkStaticRanges_config {ranges : List Python.CapturePointRange} :
    Python.checkStaticRanges ranges = .ok () ↔
      ∃ config : Python.CaptureConfig, config.mode = .staticSet ∧ config.pointRanges = ranges := by
  rw [checkStaticRanges_ok, ← noOverlap_sorted]
  constructor
  · rintro ⟨length, total, apart⟩
    refine ⟨{ mode := .staticSet, sources := [.solicited], durationLimitMs := 100, pointRanges := ranges,
              eventManifest := none, mismatchSampleLimit := 100, queueCapacity := 4096, sourcesOk := by decide,
              duration := by decide, sample := by decide, capacity := by decide, rangeCount := length.2,
              static := fun _ => ⟨List.length_pos_iff.mp length.1, rfl, total, apart⟩, event := nofun,
              observation := nofun }, rfl, rfl⟩
  · rintro ⟨config, mode, rfl⟩
    obtain ⟨nonempty, -, total, apart⟩ := config.static mode
    exact ⟨⟨List.length_pos_iff.mpr nonempty, config.rangeCount⟩, total, apart⟩

/-- What it accepts as one. -/
theorem staticRanges_ok {items : List Json} {ranges : List Python.CapturePointRange} :
    Python.staticRanges items = .ok ranges ↔
      items.mapM Python.CapturePointRange.ofMapping = .ok ranges ∧ Python.checkStaticRanges ranges = .ok () := by
  unfold Python.staticRanges
  constructor
  · intro ok
    obtain ⟨output, read, ok⟩ := ok_bind_iff.mp ok
    obtain ⟨_, checked, ok⟩ := ok_bind_iff.mp ok
    obtain rfl := ok_pure_iff.mp ok
    exact ⟨read, checked⟩
  · rintro ⟨read, checked⟩
    rw [read, ok_bind, checked, ok_bind]
    rfl

/-- **The client accepts exactly the well-formed lists.** -/
theorem staticRanges_iff (items : List Json) :
    (∃ ranges, Python.staticRanges items = .ok ranges) ↔ ∃ entries, WellFormedRanges items entries := by
  have counts (ranges : List Python.CapturePointRange) :
      ((ranges.map Entry.ofPython).map fun e => e.stop - e.start + 1).sum = (ranges.map (·.pointCount)).sum := by
    rw [List.map_map]
    rfl
  constructor
  · rintro ⟨ranges, ok⟩
    obtain ⟨read, checked⟩ := staticRanges_ok.mp ok
    obtain ⟨length, total, apart⟩ := checkStaticRanges_ok.mp checked
    have each := mapM_ofMapping.mp read
    have same := each.length_eq
    rw [List.length_map] at same
    exact ⟨ranges.map Entry.ofPython, each, same ▸ length, (counts ranges).symm ▸ total, apart⟩
  · rintro ⟨entries, well⟩
    obtain ⟨ranges, rfl⟩ := exists_python well.each
    have same := well.each.length_eq
    rw [List.length_map] at same
    refine ⟨ranges, staticRanges_ok.mpr ⟨mapM_ofMapping.mpr well.each, checkStaticRanges_ok.mpr ⟨?_, ?_, well.apart⟩⟩⟩
    · exact same.symm ▸ well.length
    · exact counts ranges ▸ well.total

/-- The host and the client accept the same arrays of point ranges: one to 256 well-formed ranges within the
limit of points, no two of one kind with a common point. The client then has a configuration with them. -/
theorem ranges_agree (items : List Json) :
    ((∃ ranges, Native.parsePointRanges (.object [("point_ranges", .arr items)]) = .ok ranges) ↔
        ∃ entries, WellFormedRanges items entries) ∧
      ((∃ ranges, Python.staticRanges items = .ok ranges) ↔ ∃ entries, WellFormedRanges items entries) ∧
      ∀ ranges, Python.staticRanges items = .ok ranges ↔
        items.mapM Python.CapturePointRange.ofMapping = .ok ranges ∧
          ∃ config : Python.CaptureConfig, config.mode = .staticSet ∧ config.pointRanges = ranges := by
  refine ⟨parsePointRanges_iff items, staticRanges_iff items, fun ranges => ?_⟩
  rw [staticRanges_ok, checkStaticRanges_config]

end RangeAgreement

end EmsDnp3
