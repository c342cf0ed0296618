import EmsDnp3.Json.Value

/-!
# Relative POSIX paths

`PurePosixPath` of a relative path: its parts, without empty ones and single dots, and the text that
they are joined to. On names that a file system can have the two are inverse to each other.
-/

namespace EmsDnp3.PosixPath

def slash : CodePoint := CodePoint.ofChar '/'

/-- A part that is dropped: nothing between two slashes, or a single dot. -/
def isDropped (part : Text) : Bool := part = [] || part = text "."

/-- `PurePosixPath(value).parts` of a relative path. -/
def parts (value : Text) : List Text := (value.splitOn slash).filter fun part => !isDropped part

/-- `PurePosixPath(value).is_absolute()` -/
def isAbsolute (value : Text) : Bool := value.head? = some slash

/-- `as_posix()` of a relative path. -/
def asPosix (names : List Text) : Text := if names = [] then text "." else [slash].intercalate names

/-- The name of an entry of a directory. -/
structure IsName (name : Text) : Prop where
  kept : isDropped name = false
  noSlash : slash ∉ name
  notParent : name ≠ text ".."

theorem IsName.ne_nil {name : Text} (is : IsName name) : name ≠ [] := by
  rintro rfl
  have := is.kept
  simp [isDropped] at this

theorem asPosix_of_ne {names : List Text} (some_ : names ≠ []) : asPosix names = [slash].intercalate names :=
  if_neg some_

section
variable {names : List Text} (named : ∀ name ∈ names, IsName name) (some_ : names ≠ [])
include named some_

/-- A path of names is read back. -/
theorem parts_asPosix : parts (asPosix names) = names := by
  rw [asPosix_of_ne some_, parts, List.splitOn_intercalate slash (fun name mem => (named name mem).noSlash) some_]
  apply List.filter_eq_self.mpr
  intro name mem
  rw [(named name mem).kept]
  rfl

/-- A path that was built from names is relative. -/
theorem asPosix_relative : isAbsolute (asPosix names) = false := by
  match names with
  | name :: rest =>
    have first := named name List.mem_cons_self
    match name with
    | [] => exact absurd rfl first.ne_nil
    | c :: name =>
      have head : c ≠ slash := fun same => first.noSlash (same ▸ List.mem_cons_self)
      have start : ∃ more, [slash].intercalate ((c :: name) :: rest) = c :: more := by
        cases rest with
        | nil => exact ⟨name, List.intercalate_singleton⟩
        | cons second rest => exact ⟨_, List.intercalate_cons_cons⟩
      obtain ⟨more, start⟩ := start
      rw [asPosix_of_ne some_, start, isAbsolute, List.head?_cons]
      simpa using head

end

/-- The characters of a path are slashes and those of its names. -/
theorem mem_asPosix {names : List Text} (some_ : names ≠ []) {c : CodePoint} (mem : c ∈ asPosix names) :
    c = slash ∨ ∃ name ∈ names, c ∈ name := by
  rw [asPosix_of_ne some_] at mem
  induction names with
  | nil => exact absurd rfl some_
  | cons name rest ih =>
    cases rest with
    | nil =>
      rw [List.intercalate_singleton] at mem
      exact .inr ⟨name, List.mem_cons_self, mem⟩
    | cons second rest =>
      rw [List.intercalate_cons_cons, List.append_assoc] at mem
      obtain own | behind := List.mem_append.mp mem
      · exact .inr ⟨name, List.mem_cons_self, own⟩
      obtain separator | later := List.mem_append.mp behind
      · exact .inl (List.mem_singleton.mp separator)
      · obtain is | ⟨other, among, inside⟩ := ih (List.cons_ne_nil _ _) later
        · exact .inl is
        · exact .inr ⟨other, List.mem_cons_of_mem _ among, inside⟩

/-- Different names are different texts. -/
theorem asPosix_injective {one two : List Text} (first : ∀ name ∈ one, IsName name) (second : ∀ name ∈ two, IsName name)
    (some_ : one ≠ []) (other : two ≠ []) (same : asPosix one = asPosix two) : one = two := by
  rw [← parts_asPosix first some_, same, parts_asPosix second other]

end EmsDnp3.PosixPath
