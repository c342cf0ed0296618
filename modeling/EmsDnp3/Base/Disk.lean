import EmsDnp3.Base.Bytes
import EmsDnp3.Base.Program

/-!
# Files and the calls on them

Names lead to nodes, and nodes hold bytes: a name that is replaced or removed leaves its node to whoever has it open.
Every call may fail without effect. A file is written byte after byte, so a partial write is a state in between.
-/

namespace EmsDnp3

/-- `FileNotFoundError`, `FileExistsError`, and every other `OSError`. -/
inductive OsError where
  | fileNotFound
  | fileExists
  | other
deriving DecidableEq

/-- A name leads to a node, or it is a link to nothing. -/
inductive Entry where
  | file (node : Nat)
  | dangling
deriving DecidableEq

/-- Names and the nodes they stand for, the bytes of every node, and the first node that was never used. -/
structure Disk (π : Type) where
  entries : π → Option Entry
  contents : Nat → List Byte
  next : Nat

/-- What a name stands for. -/
inductive Slot where
  | absent
  | dangling
  | file (bytes : List Byte)
deriving DecidableEq

/-- The system calls that the programs make. -/
inductive FileOp (π : Type) where
  | mkdirs
  | openFile (path : π)
  | lstat (path : π)
  | read (node : Nat) (size : Nat)
  | create (path : π)
  | append (node : Nat) (byte : Byte)
  | sync (node : Nat)
  | rename (source target : π)
  | unlink (path : π)

/-- What a call returns. -/
abbrev FileOp.Value {π : Type} : FileOp π → Type
  | .openFile _ => Nat
  | .create _ => Nat
  | .read _ _ => List Byte
  | _ => Unit

abbrev FileOp.Answer {π : Type} (op : FileOp π) : Type := Except OsError op.Value

/-- Programs on files. -/
abbrev FileProgram (π ε α : Type) := Program (FileOp π) FileOp.Answer ε α

namespace Disk

variable {π : Type}

/-- What stands under a name. -/
def slot (d : Disk π) (path : π) : Slot :=
  match d.entries path with
  | none => .absent
  | some .dangling => .dangling
  | some (.file node) => .file (d.contents node)

/-- Nodes that names lead to have been made. -/
def WellFormed (d : Disk π) : Prop := ∀ path node, d.entries path = some (.file node) → node < d.next

/-- The only name of a node. -/
structure Names (d : Disk π) (path : π) (node : Nat) : Prop where
  here : d.entries path = some (.file node)
  only : ∀ other, d.entries other = some (.file node) → other = path

section
variable {d d' : Disk π} {path : π}

theorem slot_eq_absent : d.slot path = .absent ↔ d.entries path = none := by
  unfold slot
  split <;> simp_all

theorem Names.slot {node : Nat} (names : d.Names path node) : d.slot path = .file (d.contents node) := by
  simp only [Disk.slot, names.here]

/-- A name shows the same while its entry and the bytes of its node stay. -/
theorem slot_congr (entry : d'.entries path = d.entries path)
    (contents : ∀ node, d.entries path = some (.file node) → d'.contents node = d.contents node) :
    d'.slot path = d.slot path := by
  unfold slot
  rw [entry]
  split
  · rfl
  · rfl
  · next node here => rw [contents node here]

end

/-- The node holds these bytes now. -/
def write (d : Disk π) (node : Nat) (bytes : List Byte) : Disk π :=
  { d with contents := Function.update d.contents node bytes }

variable [DecidableEq π]

/-- A new node under a name. -/
def add (d : Disk π) (path : π) : Disk π :=
  ⟨Function.update d.entries path (some (.file d.next)), Function.update d.contents d.next [], d.next + 1⟩

/-- A name is taken away; the bytes of its node stay. -/
def erase (d : Disk π) (path : π) : Disk π := { d with entries := Function.update d.entries path none }

/-- The entry goes to the target, in the place of whatever stood there. -/
def move (d : Disk π) (source target : π) (entry : Entry) : Disk π :=
  { d with entries := Function.update (Function.update d.entries source none) target (some entry) }

section
variable (d : Disk π) (path source target : π) (node : Nat) (bytes : List Byte) (entry : Entry)

omit [DecidableEq π] in
@[simp] theorem entries_write : (d.write node bytes).entries = d.entries := rfl

omit [DecidableEq π] in
@[simp] theorem contents_write : (d.write node bytes).contents = Function.update d.contents node bytes := rfl

omit [DecidableEq π] in
@[simp] theorem next_write : (d.write node bytes).next = d.next := rfl

@[simp] theorem entries_add : (d.add path).entries = Function.update d.entries path (some (.file d.next)) := rfl

@[simp] theorem contents_add : (d.add path).contents = Function.update d.contents d.next [] := rfl

@[simp] theorem next_add : (d.add path).next = d.next + 1 := rfl

@[simp] theorem entries_erase : (d.erase path).entries = Function.update d.entries path none := rfl

@[simp] theorem contents_erase : (d.erase path).contents = d.contents := rfl

@[simp] theorem next_erase : (d.erase path).next = d.next := rfl

@[simp] theorem entries_move : (d.move source target entry).entries =
    Function.update (Function.update d.entries source none) target (some entry) := rfl

@[simp] theorem contents_move : (d.move source target entry).contents = d.contents := rfl

@[simp] theorem next_move : (d.move source target entry).next = d.next := rfl

end

/-- What a call does when nothing goes wrong. -/
def outcome (d : Disk π) : (op : FileOp π) → op.Answer × Disk π
  | .mkdirs => (.ok (), d)
  | .openFile path =>
    match d.entries path with
    | some (.file node) => (.ok node, d)
    | _ => (.error .fileNotFound, d)
  | .lstat path => if d.entries path = none then (.error .fileNotFound, d) else (.ok (), d)
  | .read node size => (.ok ((d.contents node).take size), d)
  | .create path =>
    match d.entries path with
    | none => (.ok d.next, d.add path)
    | some _ => (.error .fileExists, d)
  | .append node byte => (.ok (), d.write node (d.contents node ++ [byte]))
  | .sync _ => (.ok (), d)
  | .rename source target =>
    match d.entries source with
    | some entry => (.ok (), d.move source target entry)
    | none => (.error .fileNotFound, d)
  | .unlink path =>
    match d.entries path with
    | some _ => (.ok (), d.erase path)
    | none => (.error .fileNotFound, d)

/-- What a call can do. -/
def Does (d : Disk π) (op : FileOp π) (answer : op.Answer) (d' : Disk π) : Prop :=
  d.outcome op = (answer, d') ∨ answer = .error .other ∧ d' = d

theorem does_outcome (d : Disk π) (op : FileOp π) : d.Does op (d.outcome op).1 (d.outcome op).2 := .inl rfl

variable {d d' : Disk π} {path other : π}

/-! ## The outcomes of each call -/

/-- Directories are made beside the names that count here. -/
theorem does_mkdirs {answer : Except OsError Unit} (does : d.Does .mkdirs answer d') : d' = d := by
  rcases does with normal | ⟨-, rfl⟩
  · exact (Prod.mk.inj normal).2.symm
  · rfl

/-- Opening changes nothing; a name without a file is reported, unless the call fails. -/
theorem does_openFile {answer : Except OsError Nat} (does : d.Does (.openFile path) answer d') :
    d' = d ∧ ((∃ node, d.entries path = some (.file node) ∧ answer = .ok node) ∨
      ((∀ node, d.entries path ≠ some (.file node)) ∧ answer = .error .fileNotFound) ∨ answer = .error .other) := by
  rcases does with normal | ⟨rfl, rfl⟩
  · rw [outcome] at normal
    split at normal
    · next node here =>
      obtain ⟨rfl, rfl⟩ := Prod.mk.inj normal
      exact ⟨rfl, .inl ⟨node, here, rfl⟩⟩
    · next none_ =>
      obtain ⟨rfl, rfl⟩ := Prod.mk.inj normal
      exact ⟨rfl, .inr (.inl ⟨none_, rfl⟩)⟩
  · exact ⟨rfl, .inr (.inr rfl)⟩

/-- Asking for a name changes nothing, and only a free name is reported as not found. -/
theorem does_lstat {answer : Except OsError Unit} (does : d.Does (.lstat path) answer d') :
    d' = d ∧ (answer = .error .fileNotFound → d.entries path = none) := by
  rcases does with normal | ⟨rfl, rfl⟩
  · rw [outcome] at normal
    split at normal
    · next none_ =>
      obtain ⟨rfl, rfl⟩ := Prod.mk.inj normal
      exact ⟨rfl, fun _ => none_⟩
    · obtain ⟨rfl, rfl⟩ := Prod.mk.inj normal
      exact ⟨rfl, fun wrong => by cases wrong⟩
  · exact ⟨rfl, fun wrong => by cases wrong⟩

/-- Reading changes nothing and returns the first bytes, or it fails. -/
theorem does_read {node size : Nat} {answer : Except OsError (List Byte)} (does : d.Does (.read node size) answer d') :
    d' = d ∧ (answer = .ok ((d.contents node).take size) ∨ answer = .error .other) := by
  rcases does with normal | ⟨rfl, rfl⟩
  · obtain ⟨rfl, rfl⟩ := Prod.mk.inj normal
    exact ⟨rfl, .inl rfl⟩
  · exact ⟨rfl, .inr rfl⟩

/-- A new file is made under a free name only, and it is empty. -/
theorem does_create {answer : Except OsError Nat} (does : d.Does (.create path) answer d') :
    answer = .ok d.next ∧ d.entries path = none ∧ d' = d.add path ∨
      d' = d ∧ (answer = .error .fileExists ∧ d.entries path ≠ none ∨ answer = .error .other) := by
  rcases does with normal | ⟨rfl, rfl⟩
  · rw [outcome] at normal
    split at normal
    · next free =>
      obtain ⟨rfl, rfl⟩ := Prod.mk.inj normal
      exact .inl ⟨rfl, free, rfl⟩
    · next taken =>
      obtain ⟨rfl, rfl⟩ := Prod.mk.inj normal
      exact .inr ⟨rfl, .inl ⟨rfl, by simp [taken]⟩⟩
  · exact .inr ⟨rfl, .inr rfl⟩

theorem does_append {node : Nat} {byte : Byte} {answer : Except OsError Unit} (does : d.Does (.append node byte) answer d') :
    answer = .ok () ∧ d' = d.write node (d.contents node ++ [byte]) ∨ answer = .error .other ∧ d' = d := by
  rcases does with normal | failed
  · obtain ⟨rfl, rfl⟩ := Prod.mk.inj normal
    exact .inl ⟨rfl, rfl⟩
  · exact .inr failed

/-- Flushing changes nothing that a program can see. -/
theorem does_sync {node : Nat} {answer : Except OsError Unit} (does : d.Does (.sync node) answer d') :
    d' = d ∧ (answer = .ok () ∨ answer = .error .other) := by
  rcases does with normal | ⟨rfl, rfl⟩
  · obtain ⟨rfl, rfl⟩ := Prod.mk.inj normal
    exact ⟨rfl, .inl rfl⟩
  · exact ⟨rfl, .inr rfl⟩

/-- A name is moved as a whole, or not at all. -/
theorem does_rename {source target : π} {answer : Except OsError Unit} (does : d.Does (.rename source target) answer d') :
    (∃ entry, d.entries source = some entry ∧ answer = .ok () ∧ d' = d.move source target entry) ∨
      d' = d ∧ (answer = .error .fileNotFound ∧ d.entries source = none ∨ answer = .error .other) := by
  rcases does with normal | ⟨rfl, rfl⟩
  · rw [outcome] at normal
    split at normal
    · next entry here =>
      obtain ⟨rfl, rfl⟩ := Prod.mk.inj normal
      exact .inl ⟨entry, here, rfl, rfl⟩
    · next free =>
      obtain ⟨rfl, rfl⟩ := Prod.mk.inj normal
      exact .inr ⟨rfl, .inl ⟨rfl, free⟩⟩
  · exact .inr ⟨rfl, .inr rfl⟩

/-- A name is taken away, or it stays. -/
theorem does_unlink {answer : Except OsError Unit} (does : d.Does (.unlink path) answer d') :
    answer = .ok () ∧ d.entries path ≠ none ∧ d' = d.erase path ∨
      d' = d ∧ (answer = .error .fileNotFound ∧ d.entries path = none ∨ answer = .error .other) := by
  rcases does with normal | ⟨rfl, rfl⟩
  · rw [outcome] at normal
    split at normal
    · next entry here =>
      obtain ⟨rfl, rfl⟩ := Prod.mk.inj normal
      exact .inl ⟨rfl, by simp [here], rfl⟩
    · next free =>
      obtain ⟨rfl, rfl⟩ := Prod.mk.inj normal
      exact .inr ⟨rfl, .inl ⟨rfl, free⟩⟩
  · exact .inr ⟨rfl, .inr rfl⟩

/-! ## What a name stands for after a call -/

/-- A new file has a fresh node, so the nodes in use stay below the next one. -/
theorem WellFormed.add (formed : d.WellFormed) (path : π) : (d.add path).WellFormed := by
  intro q n here
  rw [entries_add, Function.update_apply] at here
  rw [next_add]
  split at here
  · obtain rfl : d.next = n := by simpa using here
    exact Nat.lt_succ_self _
  · exact (formed q n here).trans (Nat.lt_succ_self _)

/-- The new file is the only name of its node. -/
theorem names_add (formed : d.WellFormed) (path : π) : (d.add path).Names path d.next := by
  constructor
  · exact Function.update_self ..
  · intro q here
    by_contra differs
    have old : d.entries q = some (.file d.next) := by rwa [entries_add, Function.update_of_ne differs] at here
    exact Nat.lt_irrefl _ (formed q _ old)

theorem slot_add (path : π) : (d.add path).slot path = .file [] := by
  simp [slot]

/-- The other names show what they showed before a file was made. -/
theorem slot_add_other (formed : d.WellFormed) (differs : other ≠ path) : (d.add path).slot other = d.slot other := by
  refine slot_congr (Function.update_of_ne differs _ _) fun n here => Function.update_of_ne ?_ _ _
  rintro rfl
  exact Nat.lt_irrefl _ (formed _ _ here)

omit [DecidableEq π] in
theorem WellFormed.write (formed : d.WellFormed) (node : Nat) (bytes : List Byte) : (d.write node bytes).WellFormed := formed

section
omit [DecidableEq π]
variable {node : Nat} (names : d.Names path node) (bytes : List Byte)
include names

theorem Names.write : (d.write node bytes).Names path node := ⟨names.here, names.only⟩

/-- The other names show what they showed before the write. -/
theorem Names.slot_write_other (differs : other ≠ path) : (d.write node bytes).slot other = d.slot other := by
  refine slot_congr rfl fun n here => Function.update_of_ne ?_ _ _
  rintro rfl
  exact differs (names.only _ here)

end

theorem slot_erase (path : π) : (d.erase path).slot path = .absent := by
  simp [slot]

/-- The other names show what they showed before one was taken away. -/
theorem slot_erase_other (differs : other ≠ path) : (d.erase path).slot other = d.slot other :=
  slot_congr (Function.update_of_ne differs _ _) fun _ _ => rfl

/-- A name less brings no node into use. -/
theorem WellFormed.erase (formed : d.WellFormed) (path : π) : (d.erase path).WellFormed := by
  intro q n here
  rw [entries_erase, Function.update_apply] at here
  split at here
  · cases here
  · exact formed q n here

section
variable {source target : π} {entry : Entry}

theorem slot_move (here : d.entries source = some entry) : (d.move source target entry).slot target = d.slot source := by
  simp only [slot, entries_move, contents_move, Function.update_self, here]

/-- Neither source nor target: the name shows what it showed. -/
theorem slot_move_other (moved : other ≠ source) (replaced : other ≠ target) :
    (d.move source target entry).slot other = d.slot other := by
  refine slot_congr ?_ fun _ _ => rfl
  rw [entries_move, Function.update_of_ne replaced, Function.update_of_ne moved]

/-- A name that is moved brings no node into use. -/
theorem WellFormed.move (formed : d.WellFormed) (here : d.entries source = some entry) :
    (d.move source target entry).WellFormed := by
  intro q n there
  simp only [entries_move, Function.update_apply] at there
  split at there
  · rw [there] at here
    exact formed source n here
  · split at there
    · cases there
    · exact formed q n there

end

/-! ## Writing a new file -/

/-- A call whose failure is raised. -/
def call (op : FileOp π) : FileProgram π OsError op.Value := .act op Program.ofExcept

/-- `os.write` of the rest, one byte after another, so that a stop can fall between any two. -/
def writeBytes (node : Nat) : List Byte → FileProgram π OsError Unit
  | [] => .ok ()
  | byte :: rest => do
    let _ ← call (.append node byte)
    writeBytes node rest

/-- `path.unlink(missing_ok=True)` with its errors ignored. -/
def tryUnlink {ε : Type} (path : π) : FileProgram π ε Unit := do
  let _ ← Program.perform (.unlink path)
  return

/-- A new file with these bytes. What fails removes what stands under the name, unless a file stood there before. -/
def writeNew (path : π) (bytes : List Byte) : FileProgram π OsError Unit :=
  Program.handle (do
      let node ← call (.create path)
      writeBytes node bytes
      let _ ← call (.sync node)
      return)
    fun
      | .fileExists => .raise .fileExists
      | _ => do
        tryUnlink path
        .raise .other

/-- Everything but one name is as it was. -/
structure Only (d : Disk π) (path : π) (d' : Disk π) : Prop where
  formed : d'.WellFormed
  others : ∀ other, other ≠ path → d'.slot other = d.slot other

omit [DecidableEq π] in
theorem Only.refl (formed : d.WellFormed) (path : π) : d.Only path d := ⟨formed, fun _ _ => rfl⟩

omit [DecidableEq π] in
theorem Only.trans {d'' : Disk π} (one : d.Only path d') (two : d'.Only path d'') : d.Only path d'' :=
  ⟨two.formed, fun other differs => (two.others other differs).trans (one.others other differs)⟩

theorem Only.erase (formed : d.WellFormed) (path : π) : d.Only path (d.erase path) :=
  ⟨formed.erase path, fun _ differs => slot_erase_other differs⟩

/-- What stands under the name while its file is written: as before, nothing, or a start of the file where nothing was. -/
structure Writing (d : Disk π) (path : π) (bytes : List Byte) (d' : Disk π) : Prop extends d.Only path d' where
  here : d'.slot path = d.slot path ∨ d'.slot path = .absent ∨
    d.slot path = .absent ∧ ∃ front, front <+: bytes ∧ d'.slot path = .file front

omit [DecidableEq π] in
theorem Writing.refl (formed : d.WellFormed) (path : π) (bytes : List Byte) : d.Writing path bytes d :=
  ⟨.refl formed path, .inl rfl⟩

/-- A node that is being written, under its only name. -/
structure Holding (d : Disk π) (path : π) (node : Nat) (front : List Byte) (d' : Disk π) : Prop extends d.Only path d' where
  free : d.slot path = .absent
  names : d'.Names path node
  written : d'.contents node = front

omit [DecidableEq π] in
theorem Holding.slot {node : Nat} {front : List Byte} (holding : d.Holding path node front d') : d'.slot path = .file front := by
  rw [holding.names.slot, holding.written]

omit [DecidableEq π] in
theorem Holding.writing {node : Nat} {front bytes : List Byte} (holding : d.Holding path node front d')
    (starts : front <+: bytes) : d.Writing path bytes d' :=
  ⟨holding.toOnly, .inr (.inr ⟨holding.free, front, starts, holding.slot⟩)⟩

omit [DecidableEq π] in
/-- One byte more in the node that is held. -/
theorem Holding.append {node : Nat} {front : List Byte} (holding : d.Holding path node front d') (byte : Byte) :
    d.Holding path node (front ++ [byte]) (d'.write node (d'.contents node ++ [byte])) where
  formed := holding.formed.write node _
  others other differs := (holding.names.slot_write_other _ differs).trans (holding.others other differs)
  free := holding.free
  names := holding.names.write _
  written := by rw [contents_write, Function.update_self, holding.written]

/-- A file that has just been made holds nothing yet. -/
theorem holding_add (formed : d.WellFormed) (free : d.entries path = none) : d.Holding path d.next [] (d.add path) where
  formed := formed.add path
  others _ differs := slot_add_other formed differs
  free := slot_eq_absent.mpr free
  names := names_add formed path
  written := Function.update_self ..

/-- Whatever happens on the way, the file holds a beginning of the bytes, and all of them at the end. -/
theorem always_writeBytes {path : π} {node : Nat} {front rest bytes : List Byte} (starts : front ++ rest = bytes)
    (holding : d.Holding path node front d') :
    (writeBytes node rest).Always Does (d.Writing path bytes)
      (fun
        | .ok _, s => d.Holding path node bytes s
        | .error e, s => e ≠ .fileExists ∧ d.Writing path bytes s) d' := by
  induction rest generalizing front d' with
  | nil =>
    obtain rfl : front = bytes := by rw [← starts, List.append_nil]
    exact holding
  | cons byte rest ih =>
    have now : d.Writing path bytes d' := holding.writing ⟨byte :: rest, starts⟩
    refine ⟨now, fun answer t does => ?_⟩
    obtain ⟨rfl, rfl⟩ | ⟨rfl, rfl⟩ := does_append does
    · exact ih (by rw [List.append_assoc]; exact starts) (holding.append byte)
    · exact ⟨by simp, now⟩

/-- A removal whose failure is ignored: the name is gone, or the disk is as it was. -/
theorem always_tryUnlink {ε : Type} {path : π} {inv : Disk π → Prop} (now : inv d) :
    (tryUnlink path : FileProgram π ε Unit).Always Does inv
      (fun r s => r = .ok () ∧ (s = d ∨ d.entries path ≠ none ∧ s = d.erase path)) d := by
  refine ⟨now, fun answer t does => ?_⟩
  obtain ⟨-, here, rfl⟩ | ⟨rfl, -⟩ := does_unlink does
  · exact ⟨rfl, .inr ⟨here, rfl⟩⟩
  · exact ⟨rfl, .inl rfl⟩

/-- What comes out of `writeNew`: a new file is whole or not reported; a file that stood there is left alone, except
where the call to make the new one failed in another way. -/
def Written (d : Disk π) (path : π) (bytes : List Byte) : Except OsError Unit → Disk π → Prop
  | .ok _, s => d.Only path s ∧ d.slot path = .absent ∧ s.slot path = .file bytes
  | .error .fileExists, s => s = d ∧ d.slot path ≠ .absent
  | .error e, s => e = .other ∧ d.Writing path bytes s

/-- Whatever happens on the way, a new file holds a beginning of its bytes and no other name changes. -/
theorem always_writeNew (formed : d.WellFormed) (path : π) (bytes : List Byte) :
    (writeNew path bytes).Always Does (d.Writing path bytes) (d.Written path bytes) d := by
  have start : d.Writing path bytes d := .refl formed path bytes
  -- what is left behind is removed, or stays
  have cleanup {s : Disk π} (writing : d.Writing path bytes s) :
      (do tryUnlink path; .raise .other : FileProgram π OsError Unit).Always Does (d.Writing path bytes)
        (d.Written path bytes) s := by
    have erased : d.Writing path bytes (s.erase path) :=
      ⟨writing.toOnly.trans (.erase writing.formed path), .inr (.inl (slot_erase path))⟩
    refine Program.always_bind ((always_tryUnlink writing).mono (fun _ => id) ?_)
    rintro r t ⟨rfl, rfl | ⟨-, rfl⟩⟩
    · exact ⟨rfl, writing⟩
    · exact ⟨rfl, erased⟩
  apply Program.always_handle
  refine ⟨start, fun answer t does => ?_⟩
  obtain ⟨rfl, free, rfl⟩ | ⟨rfl, ⟨rfl, taken⟩ | rfl⟩ := does_create does
  · have holding := holding_add formed free
    refine Program.always_bind (p := writeBytes d.next bytes)
      ((always_writeBytes (List.nil_append bytes) holding).mono (fun _ => id) ?_)
    rintro (e | _) s after
    · obtain ⟨other, now⟩ := after
      cases e with
      | fileExists => exact absurd rfl other
      | fileNotFound => exact cleanup now
      | other => exact cleanup now
    · have now : d.Writing path bytes s := after.writing List.prefix_rfl
      refine ⟨now, fun answer u does => ?_⟩
      obtain ⟨rfl, rfl | rfl⟩ := does_sync does
      · exact ⟨after.toOnly, after.free, after.slot⟩
      · exact cleanup now
  · exact ⟨rfl, mt slot_eq_absent.mp taken⟩
  · exact cleanup start

/-! ## Runs in which nothing goes wrong -/

theorem run_call (op : FileOp π) (d : Disk π) : (call op).run outcome d = d.outcome op :=
  Program.run_ofExcept ..

/-- Without a failure all bytes are written. -/
theorem run_writeBytes (node : Nat) (bytes : List Byte) (d : Disk π) :
    (writeBytes node bytes).run outcome d = (.ok (), d.write node (d.contents node ++ bytes)) := by
  induction bytes generalizing d with
  | nil =>
    rw [List.append_nil, write, Function.update_eq_self]
    rfl
  | cons byte rest ih =>
    refine (ih (d.write node (d.contents node ++ [byte]))).trans ?_
    simp [write]

/-- Without a failure a file is made under a free name. -/
theorem run_writeNew (bytes : List Byte) (free : d.slot path = .absent) :
    ∃ t, (writeNew path bytes).run outcome d = (.ok (), t) := by
  have created : (call (.create path)).run outcome d = (.ok d.next, d.add path) := by
    rw [run_call]
    simp only [outcome, slot_eq_absent.mp free]
  refine ⟨(d.add path).write d.next ((d.add path).contents d.next ++ bytes), Program.run_handle_ok ?_⟩
  refine (Program.run_bind_ok created).trans ((Program.run_bind_ok (run_writeBytes ..)).trans ?_)
  exact Program.run_bind_ok (run_call ..)

/-- A name that is taken is refused. -/
theorem run_writeNew_taken (bytes : List Byte) (taken : d.slot path ≠ .absent) :
    (writeNew path bytes).run outcome d = (.error .fileExists, d) := by
  have failed : (call (.create path)).run outcome d = (.error .fileExists, d) := by
    rw [run_call, outcome]
    split
    · next free => exact absurd (slot_eq_absent.mpr free) taken
    · rfl
  exact Program.run_handle_error (Program.run_bind_error failed)

theorem run_tryUnlink {ε : Type} (path : π) (d : Disk π) :
    ∃ t, (tryUnlink path : FileProgram π ε Unit).run outcome d = (.ok (), t) :=
  ⟨(d.outcome (.unlink path)).2, rfl⟩

end Disk

end EmsDnp3
