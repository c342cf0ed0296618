import EmsDnp3.Native.ReadConfig

/-!
# Event classes

What `parse_event_classes` of `ReadConfig.cpp` accepts. It reads a class with `get<int>()`, so the
comparison with 1 and 3 sees the low 32 bits of a 64-bit number: `parseEventClasses_ok` says what is
accepted in terms of these bits, and `parseEventClasses_exact` when that is what the array says.
-/

namespace EmsDnp3.Native

/-- `value` is an array of one to three distinct classes, and the bits of `mask` are these classes. -/
def SelectsClasses (value : Json) (mask : BitVec 8) : Prop :=
  ∃ classes : List Int, value = .arr (classes.map .int) ∧ (1 ≤ classes.length ∧ classes.length ≤ 3) ∧
    classes.Nodup ∧ (∀ n ∈ classes, n = 1 ∨ n = 2 ∨ n = 3) ∧
    ∀ bit : Nat, mask.getLsbD bit = true ↔ (bit : Int) ∈ classes

/-- An array of one to three 64-bit integers whose remainders modulo 2^32 are distinct classes, though
some of the integers is none. -/
def WrapsToClasses (value : Json) : Prop :=
  ∃ items : List Int, value = .arr (items.map .int) ∧ (1 ≤ items.length ∧ items.length ≤ 3) ∧
    (∀ n ∈ items, -(2 ^ 63) ≤ n ∧ n < 2 ^ 64) ∧ (items.map (· % 2 ^ 32)).Nodup ∧
    (∀ n ∈ items, n % 2 ^ 32 = 1 ∨ n % 2 ^ 32 = 2 ∨ n % 2 ^ 32 = 3) ∧ ∃ n ∈ items, n < 1 ∨ 3 < n

namespace Request

/-- What the narrowed integers `items` add to the bits of a mask. -/
structure Selected (items : List Int) (mask output : BitVec 8) : Prop where
  machine : ∀ n ∈ items, -(2 ^ 63) ≤ n ∧ n < 2 ^ 64
  classes : ∀ n ∈ items, n % 2 ^ 32 = 1 ∨ n % 2 ^ 32 = 2 ∨ n % 2 ^ 32 = 3
  distinct : (items.map (· % 2 ^ 32)).Nodup
  fresh : ∀ n ∈ items, mask.getLsbD (n % 2 ^ 32).toNat = false
  bits : ∀ bit, output.getLsbD bit = true ↔ mask.getLsbD bit = true ∨ ∃ n ∈ items, (n % 2 ^ 32).toNat = bit

/-- `get<int>()` by cases: the remainder itself, or the remainder less 2^32. -/
theorem getInt_def (n : Int) : getInt n = if n % 2 ^ 32 < 2 ^ 31 then n % 2 ^ 32 else n % 2 ^ 32 - 2 ^ 32 :=
  Int.bmod_def n (2 ^ 32)

/-- Only a remainder of 1, 2 or 3 is a class after `get<int>()`. -/
theorem getInt_class {n : Int} : 1 ≤ getInt n ∧ getInt n ≤ 3 ↔ n % 2 ^ 32 = 1 ∨ n % 2 ^ 32 = 2 ∨ n % 2 ^ 32 = 3 := by
  rw [getInt_def]
  split <;> omega

theorem getInt_eq {n : Int} (isClass : n % 2 ^ 32 = 1 ∨ n % 2 ^ 32 = 2 ∨ n % 2 ^ 32 = 3) : getInt n = n % 2 ^ 32 := by
  rw [getInt_def]
  exact if_pos (by omega)

/-- The bit of a class, alone. -/
theorem getLsbD_classBit {k : Nat} (small : k < 8) (bit : Nat) : ((1#8 <<< k).getLsbD bit = true) ↔ k = bit := by
  simp only [BitVec.getLsbD_shiftLeft, BitVec.getLsbD_one, Bool.and_eq_true, decide_eq_true_eq,
    Bool.not_eq_true', decide_eq_false_iff_not]
  omega

/-- No bit in common with a single bit. -/
theorem and_classBit {mask : BitVec 8} {k : Nat} (small : k < 8) :
    mask &&& (1#8 <<< k) = 0#8 ↔ mask.getLsbD k = false := by
  constructor
  · intro none
    have at_ := congrArg (fun m => BitVec.getLsbD m k) none
    simpa [(getLsbD_classBit small k).mpr rfl] using at_
  · intro off
    apply BitVec.eq_of_getLsbD_eq
    intro bit _
    rw [BitVec.getLsbD_and, BitVec.getLsbD_zero, Bool.and_eq_false_iff]
    by_cases same : k = bit
    · exact Or.inl (same ▸ off)
    · exact Or.inr (by simpa [same] using getLsbD_classBit small bit)

/-- The first item takes its bit, and the rest follow on the mask with it. -/
theorem Selected.cons_iff {n : Int} {items : List Int} {mask output : BitVec 8}
    (isClass : n % 2 ^ 32 = 1 ∨ n % 2 ^ 32 = 2 ∨ n % 2 ^ 32 = 3) (machine : -(2 ^ 63) ≤ n ∧ n < 2 ^ 64) :
    Selected (n :: items) mask output ↔
      mask.getLsbD (n % 2 ^ 32).toNat = false ∧
        Selected items (mask ||| (1#8 <<< (n % 2 ^ 32).toNat)) output := by
  have small : (n % 2 ^ 32).toNat < 8 := by omega
  have joined : ∀ bit, (mask ||| (1#8 <<< (n % 2 ^ 32).toNat)).getLsbD bit = true ↔
      mask.getLsbD bit = true ∨ (n % 2 ^ 32).toNat = bit := by
    intro bit
    rw [BitVec.getLsbD_or, Bool.or_eq_true, getLsbD_classBit small]
  constructor
  · intro selected
    refine ⟨selected.fresh n List.mem_cons_self, ⟨?_, ?_, ?_, ?_, ?_⟩⟩
    · exact fun m inside => selected.machine m (List.mem_cons_of_mem _ inside)
    · exact fun m inside => selected.classes m (List.mem_cons_of_mem _ inside)
    · exact (List.nodup_cons.mp selected.distinct).2
    · intro m inside
      rw [Bool.eq_false_iff]
      intro taken
      rcases (joined _).mp taken with old | same
      · exact Bool.eq_false_iff.mp (selected.fresh m (List.mem_cons_of_mem _ inside)) old
      · have classes := selected.classes m (List.mem_cons_of_mem _ inside)
        apply (List.nodup_cons.mp selected.distinct).1
        refine List.mem_map.mpr ⟨m, inside, ?_⟩
        dsimp only
        omega
    · intro bit
      rw [selected.bits, joined]
      simp only [List.mem_cons, exists_eq_or_imp, or_assoc]
  · rintro ⟨off, selected⟩
    refine ⟨?_, ?_, ?_, ?_, ?_⟩
    · exact List.forall_mem_cons.mpr ⟨machine, selected.machine⟩
    · exact List.forall_mem_cons.mpr ⟨isClass, selected.classes⟩
    · apply List.nodup_cons.mpr
      refine ⟨?_, selected.distinct⟩
      intro again
      obtain ⟨m, inside, same⟩ := List.mem_map.mp again
      have := selected.fresh m inside
      rw [Bool.eq_false_iff] at this
      exact this ((joined _).mpr (Or.inr (by rw [same])))
    · intro m inside
      rcases List.mem_cons.mp inside with rfl | inside
      · exact off
      · have := selected.fresh m inside
        rw [Bool.eq_false_iff] at this ⊢
        exact fun old => this ((joined _).mpr (Or.inl old))
    · intro bit
      rw [selected.bits, joined]
      simp only [List.mem_cons, exists_eq_or_imp, or_assoc]

/-- The loop accepts the integers whose low 32 bits are distinct new classes. -/
theorem parseClassItems_ok {index : Nat} {mask output : BitVec 8} {values : List Json} :
    parseClassItems index mask values = .ok output ↔
      ∃ items : List Int, values = items.map .int ∧ Selected items mask output := by
  induction values generalizing index mask with
  | nil =>
    constructor
    · intro ok
      obtain rfl := Except.ok.inj ok
      exact ⟨[], rfl, by simp, by simp, by simp, by simp, by simp⟩
    · rintro ⟨items, none, selected⟩
      obtain rfl := List.map_eq_nil_iff.mp none.symm
      have : output = mask := by
        apply BitVec.eq_of_getLsbD_eq
        intro bit _
        exact Bool.eq_iff_iff.mpr (by simpa using selected.bits bit)
      rw [this]
      rfl
  | cons value values ih =>
    rw [parseClassItems]
    constructor
    · intro ok
      split at ok
      · cases ok
      next n read =>
      obtain ⟨rfl, machine⟩ := integer?_some.mp read
      obtain ⟨_, range, ok⟩ := ok_bind_iff.mp ok
      obtain ⟨_, unused, ok⟩ := ok_bind_iff.mp ok
      have isClass : n % 2 ^ 32 = 1 ∨ n % 2 ^ 32 = 2 ∨ n % 2 ^ 32 = 3 := by
        apply getInt_class.mp
        simp only [rejectIf_ok, Bool.or_eq_false_iff, decide_eq_false_iff_not] at range
        omega
      have small : (n % 2 ^ 32).toNat < 8 := by omega
      obtain ⟨items, rfl, selected⟩ := ih.mp ok
      rw [getInt_eq isClass] at unused selected
      refine ⟨n :: items, rfl, (Selected.cons_iff isClass machine).mpr ⟨?_, selected⟩⟩
      exact (and_classBit small).mp (by simpa using unused)
    · rintro ⟨items, split, selected⟩
      obtain ⟨n, items, rfl, rfl, rfl⟩ : ∃ n rest, items = n :: rest ∧ value = .int n ∧ values = rest.map .int := by
        cases items with
        | nil => cases split
        | cons n rest => exact ⟨n, rest, rfl, (List.cons.inj split).1, (List.cons.inj split).2⟩
      have machine := selected.machine n List.mem_cons_self
      have isClass := selected.classes n List.mem_cons_self
      have small : (n % 2 ^ 32).toNat < 8 := by omega
      obtain ⟨off, selected⟩ := (Selected.cons_iff isClass machine).mp selected
      rw [integer?_some.mpr ⟨rfl, machine⟩]
      dsimp only
      rw [getInt_eq isClass, rejectIf_pass (by simp only [Bool.or_eq_false_iff, decide_eq_false_iff_not]; omega),
        ok_bind, rejectIf_pass (by simpa using (and_classBit small).mpr off), ok_bind]
      exact ih.mpr ⟨items, rfl, selected⟩

/-- **What is accepted**: one to three integers whose low 32 bits are distinct classes. -/
theorem parseEventClasses_ok {params value : Json} {output mask : BitVec 8} (here : params.get? "classes" = some value) :
    parseEventClasses params output = .ok mask ↔
      ∃ items : List Int, value = .arr (items.map .int) ∧ (1 ≤ items.length ∧ items.length ≤ 3) ∧
        Selected items 0#8 mask := by
  unfold parseEventClasses
  rw [here]
  constructor
  · intro ok
    split at ok
    · next absent => cases absent
    · next classes present =>
      obtain rfl := Option.some.inj present
      obtain ⟨_, length, ok⟩ := ok_bind_iff.mp ok
      obtain ⟨items, rfl, selected⟩ := parseClassItems_ok.mp ok
      refine ⟨items, rfl, ?_, selected⟩
      simp only [rejectIf_ok, Bool.or_eq_false_iff, decide_eq_false_iff_not, List.length_map, List.map_eq_nil_iff] at length
      have := List.length_pos_iff.mpr length.1
      omega
    · cases ok
  · rintro ⟨items, rfl, length, selected⟩
    have nonempty : items ≠ [] := List.length_pos_iff.mp length.1
    dsimp only
    rw [rejectIf_pass (by simp [nonempty]; omega), ok_bind]
    exact parseClassItems_ok.mpr ⟨items, rfl, selected⟩

/-- Distinct classes have a mask. -/
theorem exists_selected {items : List Int} (machine : ∀ n ∈ items, -(2 ^ 63) ≤ n ∧ n < 2 ^ 64)
    (classes : ∀ n ∈ items, n % 2 ^ 32 = 1 ∨ n % 2 ^ 32 = 2 ∨ n % 2 ^ 32 = 3)
    (distinct : (items.map (· % 2 ^ 32)).Nodup) {mask : BitVec 8}
    (fresh : ∀ n ∈ items, mask.getLsbD (n % 2 ^ 32).toNat = false) : ∃ output, Selected items mask output := by
  induction items generalizing mask with
  | nil => exact ⟨mask, by simp, by simp, by simp, by simp, by simp⟩
  | cons n items ih =>
    obtain ⟨machineHead, machineRest⟩ := List.forall_mem_cons.mp machine
    obtain ⟨isClass, classesRest⟩ := List.forall_mem_cons.mp classes
    obtain ⟨other, distinctRest⟩ := List.nodup_cons.mp distinct
    have small : (n % 2 ^ 32).toNat < 8 := by omega
    have freshRest : ∀ m ∈ items, (mask ||| (1#8 <<< (n % 2 ^ 32).toNat)).getLsbD (m % 2 ^ 32).toNat = false := by
      intro m inside
      rw [BitVec.getLsbD_or, fresh m (List.mem_cons_of_mem _ inside), Bool.false_or, Bool.eq_false_iff]
      intro taken
      have same := (getLsbD_classBit small _).mp taken
      have := classesRest m inside
      apply other
      refine List.mem_map.mpr ⟨m, inside, ?_⟩
      dsimp only
      omega
    obtain ⟨output, selected⟩ := ih machineRest classesRest distinctRest freshRest
    exact ⟨output, (Selected.cons_iff isClass machineHead).mpr ⟨fresh n List.mem_cons_self, selected⟩⟩

/-- A class is its own remainder. -/
theorem class_emod {n : Int} (isClass : n = 1 ∨ n = 2 ∨ n = 3) : n % 2 ^ 32 = n := by omega

/-- Integers that are classes themselves: the mask has their bits. -/
theorem selected_classes {items : List Int} {mask : BitVec 8} (classes : ∀ n ∈ items, n = 1 ∨ n = 2 ∨ n = 3) :
    Selected items 0#8 mask ↔ items.Nodup ∧ ∀ bit : Nat, mask.getLsbD bit = true ↔ (bit : Int) ∈ items := by
  have low : items.map (· % 2 ^ 32) = items := by
    rw [List.map_congr_left fun n inside => class_emod (classes n inside)]
    exact List.map_id items
  have bit_iff : ∀ bit : Nat, (∃ n ∈ items, (n % 2 ^ 32).toNat = bit) ↔ (bit : Int) ∈ items := by
    intro bit
    constructor
    · rintro ⟨n, inside, rfl⟩
      have isClass := classes n inside
      rw [class_emod isClass, Int.toNat_of_nonneg (by omega)]
      exact inside
    · intro inside
      exact ⟨bit, inside, by rw [class_emod (classes _ inside), Int.toNat_natCast]⟩
  constructor
  · intro selected
    refine ⟨low ▸ selected.distinct, fun bit => ?_⟩
    rw [selected.bits, bit_iff]
    simp
  · rintro ⟨distinct, bits⟩
    refine ⟨?_, ?_, low.symm ▸ distinct, by simp, fun bit => ?_⟩
    · intro n inside
      have := classes n inside
      omega
    · intro n inside
      rw [class_emod (classes n inside)]
      exact classes n inside
    · rw [bits, bit_iff]
      simp

/-- The parser accepts an array of distinct classes, and nothing else, with exactly their bits, unless the
array holds a 64-bit integer that `get<int>()` turns into a class. -/
theorem parseEventClasses_exact (params value : Json) (output : BitVec 8)
    (here : params.get? "classes" = some value) :
    (∀ mask, parseEventClasses params output = .ok mask ↔ SelectsClasses value mask) ↔ ¬ WrapsToClasses value := by
  constructor
  · rintro exact_ ⟨items, rfl, length, machine, distinct, classes, n, inside, outside⟩
    obtain ⟨mask, selected⟩ : ∃ mask, Selected items 0#8 mask := exists_selected machine classes distinct (by simp)
    obtain ⟨items', same, -, -, classes', -⟩ :=
      (exact_ mask).mp ((parseEventClasses_ok here).mpr ⟨items, rfl, length, selected⟩)
    obtain rfl : items = items' := (List.map_inj_right fun _ _ => Json.int.inj).mp (Json.arr.inj same)
    have := classes' n inside
    omega
  · intro plain mask
    rw [parseEventClasses_ok here]
    constructor
    · rintro ⟨items, rfl, length, selected⟩
      have classes : ∀ n ∈ items, n = 1 ∨ n = 2 ∨ n = 3 := by
        intro n inside
        by_contra other
        exact plain ⟨items, rfl, length, selected.machine, selected.distinct, selected.classes, n, inside, by omega⟩
      obtain ⟨distinct, bits⟩ := (selected_classes classes).mp selected
      exact ⟨items, rfl, length, distinct, classes, bits⟩
    · rintro ⟨items, rfl, length, distinct, classes, bits⟩
      exact ⟨items, rfl, length, (selected_classes classes).mpr ⟨distinct, bits⟩⟩

/-- Two classes in any order select their bits. -/
theorem parseEventClasses_exact_example :
    parseEventClasses (.object [("classes", .arr [.int 3, .int 1])]) 0x0E#8 = .ok 0x0A#8 ↔
      SelectsClasses (.arr [.int 3, .int 1]) 0x0A#8 := by
  apply (parseEventClasses_exact _ (.arr [.int 3, .int 1]) 0x0E#8 (by decide)).mpr
  rintro ⟨items, same, -, -, -, -, n, inside, outside⟩
  have : items = [3, 1] := by
    apply (List.map_inj_right fun _ _ => Json.int.inj).mp
    exact (Json.arr.inj same).symm
  subst this
  simp at inside
  omega

/-- 2^32 + 1 is taken for class 1. -/
theorem parseEventClasses_wraps :
    parseEventClasses (.object [("classes", .arr [.int 4294967297])]) 0x0E#8 = .ok 0x02#8 ∧
      ¬ SelectsClasses (.arr [.int 4294967297]) 0x02#8 := by
  constructor
  · decide
  · rintro ⟨classes, same, -, -, small, -⟩
    obtain rfl : classes = [4294967297] := by
      apply (List.map_inj_right fun _ _ => Json.int.inj).mp
      exact (Json.arr.inj same).symm
    have := small 4294967297 List.mem_cons_self
    omega

end Request

end EmsDnp3.Native
