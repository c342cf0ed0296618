import EmsDnp3.Base.Bytes
import EmsDnp3.Base.Directory
import EmsDnp3.Base.Except
import EmsDnp3.Json.Decimal

/-!
# The evidence of a soak run

`_EvidenceWriter` of `soak.py` and the directory that it writes. Each call to the file system may fail without
effect; the answers that a call gets are inputs. `Path.exists` has a third answer: it says that there is no file
when the `stat` in it fails with an error that the interpreter takes for absence (since Python 3.14 that is every
`OSError`). The temporary file of `_atomic_write` is gone after the call.
-/

namespace EmsDnp3.Python

/-- The files of a run's directory. -/
inductive EvidenceFile where
  | preflight
  | anchor
  | checkpoint (sequence : Nat)
  | finalReport
deriving DecidableEq

/-- `f"{sequence:08d}"` -/
def eightDigits (sequence : Nat) : Text := List.replicate (8 - (decimal sequence).length) 0x30 ++ decimal sequence

/-- The name of the file in the evidence directory. -/
def EvidenceFile.name : EvidenceFile → Text
  | .preflight => text "preflight.json"
  | .anchor => text "checkpoint-anchor.json"
  | .checkpoint sequence => text "checkpoint-" ++ eightDigits sequence ++ text ".json"
  | .finalReport => text "final-report.json"

/-- The fields of `profile.soak` that the writer reads. -/
structure EvidenceLimits where
  maxCheckpoints : Nat
  maxEvidenceBytes : Nat
  minFreeDiskBytes : Nat
  /-- The profile's own bound. -/
  keepsTwo : 2 ≤ maxCheckpoints

/-- `_encoded_json`, which may raise, and the hexadecimal SHA-256 digest. -/
structure EvidenceTools where
  encode : Json → Option (List Byte)
  sha256 : List Byte → Text

/-- How writing evidence fails. -/
inductive EvidenceError where
  | runner (message : String)
  | os
  | encode
  | index
deriving DecidableEq

/-- A result, or an exception where there is none. -/
def orRaise {α : Type} (e : EvidenceError) : Option α → Except EvidenceError α
  | some a => .ok a
  | none => .error e

theorem orRaise_ok {α : Type} {e : EvidenceError} {result : Option α} {a : α} :
    orRaise e result = .ok a ↔ result = some a := by
  cases result <;> simp [orRaise]

/-- What `Path.exists` does: it answers, it says that there is no file, or it raises. -/
inductive Probe where
  | answers
  | saysAbsent
  | raises
deriving DecidableEq

/-- What the file system answers to one `_write`; a `Bool` is whether the call works. -/
structure WriteAnswers where
  free : Option Nat
  probe : Probe := .answers
  stat : Bool := true
  create : Bool := true
  write : Bool := true
  replace : Bool := true

/-- What the file system answers while a checkpoint is written. -/
structure CheckpointAnswers where
  anchor : WriteAnswers
  unlink : Bool := true
  file : WriteAnswers
  stat : Bool := true
  /-- `_utc_now()` -/
  updatedUtc : Text

/-- An entry of the deque `checkpoints`. -/
structure RetainedCheckpoint where
  sequence : Nat
  path : Text
  digest : Text
  size : Nat
deriving DecidableEq

/-- The writer; `directory` is what its directory holds. -/
structure EvidenceWriter where
  directory : Directory Text Byte := ∅
  totalBytes : Int := 0
  checkpoints : List RetainedCheckpoint := []
  previousSha256 : Option Text := none

namespace EvidenceWriter

variable (tools : EvidenceTools) (limits : EvidenceLimits)

/-- `target.stat().st_size if target.exists() else 0` -/
def oldSize (answers : WriteAnswers) (name : Text) (w : EvidenceWriter) : Except EvidenceError Nat :=
  match answers.probe with
  | .raises => .error .os
  | .saysAbsent => .ok 0
  | .answers =>
    match w.directory.lookup name with
    | none => .ok 0
    | some bytes => if answers.stat then .ok bytes.length else .error .os

/-- `_write` up to the end of `_atomic_write`: the bytes written and the new total. -/
def prepare (answers : WriteAnswers) (name : Text) (value : Json) (pendingRemovalBytes : Nat) (w : EvidenceWriter) :
    Except EvidenceError (List Byte × Int) := do
  let encoded ← orRaise .encode (tools.encode value)
  rejectIf (!(0 ≤ (pendingRemovalBytes : Int) && (pendingRemovalBytes : Int) ≤ w.totalBytes))
    (.runner "invalid pending evidence rotation size")
  let free ← orRaise .os answers.free
  rejectIf (free < limits.minFreeDiskBytes + encoded.length) (.runner "free disk is below the configured reserve")
  let oldSize ← w.oldSize answers name
  let projected := w.totalBytes - oldSize - pendingRemovalBytes + encoded.length
  rejectIf (limits.maxEvidenceBytes < projected) (.runner "evidence byte limit would be exceeded")
  rejectIf (!(answers.create && answers.write && answers.replace)) .os
  return (encoded, w.totalBytes - oldSize + encoded.length)

/-- `_write`, with the digest that it returns. -/
def write (answers : WriteAnswers) (name : Text) (value : Json) (pendingRemovalBytes : Nat) (w : EvidenceWriter) :
    Except EvidenceError Text × EvidenceWriter :=
  match w.prepare tools limits answers name value pendingRemovalBytes with
  | .error e => (.error e, w)
  | .ok (encoded, totalBytes) =>
    (.ok (tools.sha256 encoded), { w with directory := w.directory.insert name encoded, totalBytes })

/-- The anchor that remembers the removed checkpoint. -/
def anchorValue (old : RetainedCheckpoint) (nextSequence : Nat) (updatedUtc : Text) : Json :=
  .object [("schema_version", .nat 1), ("last_removed_sequence", .nat old.sequence),
    ("last_removed_sha256", .str old.digest), ("next_sequence", .nat nextSequence), ("updated_utc", .str updatedUtc)]

/-- The rotation at the start of `write_checkpoint`. -/
def rotate (answers : CheckpointAnswers) (sequence : Nat) (w : EvidenceWriter) : Except EvidenceError Unit × EvidenceWriter :=
  if limits.maxCheckpoints ≤ w.checkpoints.length then
    match w.checkpoints with
    | [] => (.error .index, w)
    | old :: rest =>
      let nextSequence := (rest.head?.map RetainedCheckpoint.sequence).getD sequence
      match w.write tools limits answers.anchor EvidenceFile.anchor.name
        (anchorValue old nextSequence answers.updatedUtc) old.size with
      | (.error e, w) => (.error e, w)
      | (.ok _, w) =>
        if answers.unlink then
          (.ok (), { w with
            directory := w.directory.erase old.path, totalBytes := w.totalBytes - old.size, checkpoints := rest })
        else (.error (.runner "cannot remove rotated checkpoint"), w)
  else (.ok (), w)

/-- `checkpoint[key] = value` -/
def setItem (key : Text) (value : Json) : List (Text × Json) → List (Text × Json)
  | [] => [(key, value)]
  | member :: rest => if member.1 = key then (key, value) :: rest else member :: setItem key value rest

/-- The checkpoint with its place in the chain. -/
def checkpointValue (sequence : Nat) (value : List (Text × Json)) (previous : Option Text) : Json :=
  .obj (setItem (text "previous_checkpoint_sha256") (.ofOption .str previous)
    (setItem (text "checkpoint_sequence") (.nat sequence) value))

/-- `write_checkpoint`: rotate, then write the next file and book it. -/
def writeCheckpoint (answers : CheckpointAnswers) (sequence : Nat) (value : List (Text × Json)) (w : EvidenceWriter) :
    Except EvidenceError Unit × EvidenceWriter :=
  match w.rotate tools limits answers sequence with
  | (.error e, w) => (.error e, w)
  | (.ok _, w) =>
    let target := (EvidenceFile.checkpoint sequence).name
    match w.write tools limits answers.file target (checkpointValue sequence value w.previousSha256) 0 with
    | (.error e, w) => (.error e, w)
    | (.ok digest, w) =>
      if answers.stat then
        (.ok (), { w with
          checkpoints := w.checkpoints ++ [⟨sequence, target, digest, w.directory.fileSize target⟩]
          previousSha256 := some digest })
      else (.error .os, w)

def writePreflight (answers : WriteAnswers) (value : Json) (w : EvidenceWriter) : Except EvidenceError Unit × EvidenceWriter :=
  let written := w.write tools limits answers EvidenceFile.preflight.name value 0
  (written.1.map fun _ => (), written.2)

def writeFinal (answers : WriteAnswers) (value : Json) (w : EvidenceWriter) : Except EvidenceError Unit × EvidenceWriter :=
  let written := w.write tools limits answers EvidenceFile.finalReport.name value 0
  (written.1.map fun _ => (), written.2)

end EvidenceWriter

end EmsDnp3.Python
