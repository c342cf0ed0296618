import Mathlib

/-!
# Directories

Named files and the sum of their sizes. A file is replaced as a whole, as a rename over it does.
-/

namespace EmsDnp3

universe u v

/-- The files of a directory by name. -/
abbrev Directory (ν : Type u) (β : Type v) := AList fun _ : ν => List β

namespace Directory

variable {ν : Type u} {β : Type v}

/-- The sizes of all files together. -/
def totalSize (d : Directory ν β) : Nat := (d.entries.map fun file => file.2.length).sum

@[simp] theorem totalSize_empty : totalSize (∅ : Directory ν β) = 0 := rfl

variable [DecidableEq ν]

/-- The size of a file, or nothing where there is none. -/
def fileSize (name : ν) (d : Directory ν β) : Nat := (d.lookup name).elim 0 List.length

theorem fileSize_eq {name : ν} {d : Directory ν β} {bytes : List β} (here : d.lookup name = some bytes) :
    d.fileSize name = bytes.length := by
  rw [fileSize, here]
  rfl

/-- Removing a file takes its size off the total. -/
theorem totalSize_erase (name : ν) (d : Directory ν β) : totalSize (d.erase name) + d.fileSize name = d.totalSize := by
  have sizes (files : List (Sigma fun _ : ν => List β)) : ((files.kerase name).map fun file => file.2.length).sum +
      (files.dlookup name).elim 0 List.length = (files.map fun file => file.2.length).sum := by
    induction files with
    | nil => rfl
    | cons file rest ih =>
      by_cases same : name = file.1
      · subst same
        rw [List.kerase_cons_eq rfl, List.dlookup_cons_eq, List.map_cons, List.sum_cons, Nat.add_comm]
        rfl
      · rw [List.kerase_cons_ne same, List.dlookup_cons_ne _ _ same, List.map_cons, List.map_cons, List.sum_cons,
          List.sum_cons, ← ih, Nat.add_assoc]
  exact sizes d.entries

/-- Writing a file puts the new size in the place of the old one. -/
theorem totalSize_insert (name : ν) (bytes : List β) (d : Directory ν β) :
    totalSize (d.insert name bytes) + d.fileSize name = d.totalSize + bytes.length := by
  have without := totalSize_erase name d
  have with_ : totalSize (d.insert name bytes) = bytes.length + totalSize (d.erase name) := by
    rw [totalSize, AList.entries_insert, List.map_cons, List.sum_cons]
    rfl
  omega

end Directory

end EmsDnp3
