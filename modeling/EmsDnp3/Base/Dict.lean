import Mathlib

/-!
# Dictionaries in insertion order

A dictionary as the list of its items. A key that is set again keeps its place.
-/

namespace EmsDnp3

/-- The items of a dictionary, the first of a key counting. -/
abbrev Dict (κ α : Type) := List (κ × α)

namespace Dict

variable {κ α β : Type} [DecidableEq κ]

/-- `d.get(key)` -/
def get? (d : Dict κ α) (key : κ) : Option α := (d.find? fun item => item.1 = key).map (·.2)

/-- `d[key] = value` -/
def set (d : Dict κ α) (key : κ) (value : α) : Dict κ α :=
  match d with
  | [] => [(key, value)]
  | (k, v) :: rest => if k = key then (k, value) :: rest else (k, v) :: set rest key value

/-- `a == b` of two dictionaries. -/
def same [DecidableEq α] (a b : Dict κ α) : Bool := a.length = b.length && a.all fun item => b.get? item.1 = some item.2

@[simp] theorem get?_nil (key : κ) : get? ([] : Dict κ α) key = none := rfl

theorem get?_cons (k key : κ) (v : α) (d : Dict κ α) :
    get? ((k, v) :: d) key = if k = key then some v else get? d key := by
  unfold get?
  rw [List.find?_cons]
  by_cases same : k = key <;> simp [same]

/-- What is read behind a write: the new value at its key, and what was there at every other. -/
theorem get?_set (d : Dict κ α) (key other : κ) (value : α) :
    (d.set key value).get? other = if key = other then some value else d.get? other := by
  induction d with
  | nil => rw [set, get?_cons]
  | cons item rest ih =>
    obtain ⟨k, v⟩ := item
    rw [set]
    split
    · next same =>
      subst same
      rw [get?_cons, get?_cons]
      split <;> rfl
    · next differs =>
      rw [get?_cons, get?_cons, ih]
      split
      · next here =>
        subst here
        rw [if_neg (Ne.symm differs)]
      · rfl

/-- What is there is an item. -/
theorem mem_of_get? {d : Dict κ α} {key : κ} {value : α} (found : d.get? key = some value) : (key, value) ∈ d := by
  obtain ⟨⟨k, v⟩, first, rfl⟩ := Option.map_eq_some_iff.mp found
  have here : k = key := by simpa using List.find?_some first
  exact here ▸ List.mem_of_find?_eq_some first

theorem get?_eq_none_iff {d : Dict κ α} {key : κ} : d.get? key = none ↔ key ∉ d.map (·.1) := by
  rw [get?, Option.map_eq_none_iff, List.find?_eq_none]
  simp only [decide_eq_true_eq, List.mem_map, not_exists, not_and]

/-- One value under every key. -/
theorem getD_get?_const {ι : Type} (items : List ι) (f : ι → κ) (value : α) (key : κ) :
    (get? (items.map fun item => (f item, value)) key).getD value = value := by
  cases found : get? (items.map fun item => (f item, value)) key with
  | none => rfl
  | some other =>
    obtain ⟨item, -, same⟩ := List.mem_map.mp (mem_of_get? found)
    exact (Prod.mk.inj same).2.symm

/-- A new key goes to the end, a known one stays where it is. -/
theorem keys_set (d : Dict κ α) (key : κ) (value : α) :
    (d.set key value).map (·.1) = if key ∈ d.map (·.1) then d.map (·.1) else d.map (·.1) ++ [key] := by
  induction d with
  | nil => simp [set]
  | cons item rest ih =>
    obtain ⟨k, v⟩ := item
    rw [set]
    by_cases same : k = key
    · simp [same]
    · rw [if_neg same, List.map_cons, ih]
      by_cases there : key ∈ rest.map (·.1)
      · simp [there]
      · simp [there, Ne.symm same]

theorem nodup_set {d : Dict κ α} (distinct : (d.map (·.1)).Nodup) (key : κ) (value : α) :
    ((d.set key value).map (·.1)).Nodup := by
  rw [keys_set]
  split
  · exact distinct
  · next absent => exact List.nodup_append'.mpr ⟨distinct, List.nodup_singleton key, by simpa using absent⟩

end Dict

end EmsDnp3
