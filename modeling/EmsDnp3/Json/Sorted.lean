import EmsDnp3.Base.Utf8
import EmsDnp3.Json.Dump

/-!
# Sorted keys

`json.dumps(value, sort_keys=True)`: the members of every object in the order of their keys.
-/

namespace EmsDnp3.Json

mutual

/-- `sort_keys=True` at every level. -/
def sortKeys : Json → Json
  | .arr items => .arr (sortItems items)
  | .obj members => .obj ((sortMembers members).insertionSort fun a b => ¬ b.1 < a.1)
  | v => v

def sortItems : List Json → List Json
  | [] => []
  | v :: rest => sortKeys v :: sortItems rest

def sortMembers : List (Text × Json) → List (Text × Json)
  | [] => []
  | (key, v) :: rest => (key, sortKeys v) :: sortMembers rest

end

/-- The compact text with sorted keys in UTF-8; a lone surrogate does not encode. -/
def canonical (v : Json) : Option (List Byte) := Utf8.encode (dump (sortKeys v))

mutual

/-- The keys are sorted everywhere. -/
def KeysSorted : Json → Prop
  | .arr items => ItemsSorted items
  | .obj members => (members.map (·.1)).Pairwise (fun a b => ¬ b < a) ∧ MembersSorted members
  | _ => True

def ItemsSorted : List Json → Prop
  | [] => True
  | v :: rest => KeysSorted v ∧ ItemsSorted rest

def MembersSorted : List (Text × Json) → Prop
  | [] => True
  | (_, v) :: rest => KeysSorted v ∧ MembersSorted rest

end

mutual

theorem sortKeys_of_sorted : ∀ {v : Json}, KeysSorted v → sortKeys v = v
  | .arr items, sorted => by rw [sortKeys, sortItems_of_sorted sorted]
  | .obj members, sorted => by
    obtain ⟨keys, inner⟩ := sorted
    rw [sortKeys, sortMembers_of_sorted inner]
    rw [List.pairwise_map] at keys
    rw [keys.insertionSort_eq]
  | .null, _ => rfl
  | .bool _, _ => rfl
  | .int _, _ => rfl
  | .float _, _ => rfl
  | .str _, _ => rfl

theorem sortItems_of_sorted : ∀ {items : List Json}, ItemsSorted items → sortItems items = items
  | [], _ => rfl
  | _ :: _, sorted => by rw [sortItems, sortKeys_of_sorted sorted.1, sortItems_of_sorted sorted.2]

theorem sortMembers_of_sorted : ∀ {members : List (Text × Json)}, MembersSorted members → sortMembers members = members
  | [], _ => rfl
  | _ :: _, sorted => by rw [sortMembers, sortKeys_of_sorted sorted.1, sortMembers_of_sorted sorted.2]

end

theorem itemsSorted_map {α : Type} {f : α → Json} {items : List α} (each : ∀ a ∈ items, KeysSorted (f a)) :
    ItemsSorted (items.map f) := by
  induction items with
  | nil => trivial
  | cons a items ih => exact ⟨each a List.mem_cons_self, ih fun b mem => each b (List.mem_cons_of_mem _ mem)⟩

theorem canonical_of_sorted {v : Json} (sorted : KeysSorted v) : canonical v = Utf8.encode (dump v) := by
  rw [canonical, sortKeys_of_sorted sorted]

end EmsDnp3.Json
