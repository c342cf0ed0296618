import EmsDnp3.Base.PosixPath
import EmsDnp3.Base.Rounding
import EmsDnp3.Json.Depth
import EmsDnp3.Python.CaptureModels
import EmsDnp3.Python.Texts

/-!
# Verifying an unpacked package

`verify_unpacked_package` of `package_verify.py` on a tree of regular files and directories. What it raises
is named by its place in the code. The hash, the decimal digits of `\d` and the room that the interpreter has
for nested JSON are parameters. `read_text` also unifies line ends, which are blanks to the JSON scanner or an
error inside of a string either way.
-/

namespace EmsDnp3.Python.Package

open PosixPath (slash parts asPosix isAbsolute IsName)

def manifestName : Text := "package-manifest.json"
def maxManifestBytes : Nat := 16 * 1024 * 1024
def manifestScope : Text := "all packaged files except package-manifest.json"

/-! ## The tree -/

/-- What stands at a path. -/
inductive Content where
  | file (bytes : List Byte)
  | directory
deriving DecidableEq

/-- What `rglob("*")` visits below the root, in its order: the names of the path and what is there. -/
structure Tree where
  entries : List (List Text × Content)
  nodup : (entries.map (·.1)).Nodup
  names : ∀ entry ∈ entries, entry.1 ≠ [] ∧ ∀ name ∈ entry.1, IsName name
  sizes : ∀ path bytes, (path, Content.file bytes) ∈ entries → bytes.length < 2 ^ 63

namespace Tree

/-- What stands at a path. -/
def lookup (tree : Tree) (path : List Text) : Option Content :=
  (tree.entries.find? fun entry => entry.1 = path).map (·.2)

/-- The files but the manifest. -/
def files (tree : Tree) : List (List Text × List Byte) :=
  tree.entries.filterMap fun entry =>
    match entry.2 with
    | .file bytes => if entry.1 = [manifestName] then none else some (entry.1, bytes)
    | .directory => none

end Tree

/-! ## What is raised -/

/-- Why a manifest cannot be read. -/
inductive ManifestProblem where
  | os
  | size
  | unicode
  | json
deriving DecidableEq, Repr

/-- Why a path is not safe. -/
inductive PathProblem where
  | notPosix
  | unsafePath (value : Text)
  | drivePrefix (value : Text)
deriving DecidableEq

/-- The messages of `PackageVerificationError`. -/
inductive PackageMessage where
  | manifestInvalid (problem : ManifestProblem)
  | manifestFields
  | schemaVersion
  | packageVersion
  | scope
  | filesNotArray
  | fileEntry
  | path (problem : PathProblem)
  | hashesItself
  | invalidSize (relative : Text)
  | invalidSha256 (relative : Text)
  | duplicatePath (relative : Text)
  | fileSet (missing extra : List Text)
  | sizeMismatch (relative : Text)
  | sha256Mismatch (relative : Text)
deriving DecidableEq

/-- How verification fails: a package error, or an exception that leaks. -/
inductive VerifyError where
  | package (message : PackageMessage)
  | index
  | recursion
deriving DecidableEq

/-! ## The manifest -/

/-- `value == n` for a positive `n`, of an `int`, a `bool` or a `float`. -/
def equalsNat (value : Json) (n : Nat) : Bool :=
  match value with
  | .int m => m = n
  | .bool b => b && n = 1
  | .float x => !x.negative && binary64 x.magnitude = n
  | _ => false

/-- `set(value) == {..}` of a dictionary. -/
def hasFields (value : Json) (fields : List String) : Bool :=
  value.isObj && value.keys.all (fields.map text).contains && (fields.map text).all value.keys.contains

/-- The digits that `\d` matches. -/
structure DecimalDigits where
  digit : CodePoint → Bool
  dot : digit (CodePoint.ofChar '.') = false
  ascii : ∀ c, isDigit c = true → digit c = true

/-- `re.fullmatch(r"^\d+\.\d+\.\d+$", value)` -/
def isVersion (digits : DecimalDigits) (value : Text) : Bool :=
  match value.splitOn (CodePoint.ofChar '.') with
  | [major, minor, patch] => [major, minor, patch].all fun part => part ≠ [] && part.all digits.digit
  | _ => false

/-- `_safe_relative_path`; the first part of a path without parts is an `IndexError`. -/
def safeRelativePath (value : Json) : Except VerifyError Text :=
  match value with
  | .str value =>
    if value = [] || value.contains (CodePoint.ofChar '\\') then .error (.package (.path .notPosix))
    else if isAbsolute value || (parts value).any fun part => part = [] || part = text "." || part = text ".." then
      .error (.package (.path (.unsafePath value)))
    else
      match parts value with
      | [] => .error .index
      | first :: _ =>
        if first.contains (CodePoint.ofChar ':') then .error (.package (.path (.drivePrefix value)))
        else .ok (asPosix (parts value))
  | _ => .error (.package (.path .notPosix))

/-- What the manifest says about one file. -/
structure ManifestEntry where
  path : Text
  size : Nat
  sha256 : Text
deriving DecidableEq

/-- One turn of the loop over the entries. -/
def readEntry (expected : List ManifestEntry) (entry : Json) : Except VerifyError ManifestEntry := do
  rejectIf (!hasFields entry ["path", "size_bytes", "sha256"]) (.package .fileEntry)
  let relative ← safeRelativePath ((entry.get? "path").getD .null)
  rejectIf (relative = manifestName) (.package .hashesItself)
  match (entry.get? "size_bytes").bind natural? with
  | none => .error (.package (.invalidSize relative))
  | some size =>
    match (entry.get? "sha256").getD .null with
    | .str sha256 =>
      rejectIf (!isLowerSha256 sha256) (.package (.invalidSha256 relative))
      rejectIf ((expected.map (·.path)).contains relative) (.package (.duplicatePath relative))
      return { path := relative, size, sha256 }
    | _ => .error (.package (.invalidSha256 relative))

/-- The loop over the entries, after those of `expected`. -/
def readEntries (expected : List ManifestEntry) : List Json → Except VerifyError (List ManifestEntry)
  | [] => .ok expected
  | entry :: rest => do readEntries (expected ++ [← readEntry expected entry]) rest

/-- The checks of the members but `files`. -/
def readHeader (digits : DecimalDigits) (manifest : Json) : Except VerifyError (Text × List Json) := do
  rejectIf (!hasFields manifest ["schema_version", "package_version", "manifest_scope", "files"])
    (.package .manifestFields)
  rejectIf (!equalsNat ((manifest.get? "schema_version").getD .null) 1) (.package .schemaVersion)
  match (manifest.get? "package_version").getD .null with
  | .str version =>
    rejectIf (!isVersion digits version) (.package .packageVersion)
    rejectIf ((manifest.get? "manifest_scope").getD .null ≠ .str manifestScope) (.package .scope)
    match (manifest.get? "files").getD .null with
    | .arr (entry :: rest) => return (version, entry :: rest)
    | _ => .error (.package .filesNotArray)
  | _ => .error (.package .packageVersion)

/-- The file of the manifest, read and parsed. -/
def readManifest (limit : Nat) (tree : Tree) : Except VerifyError Json :=
  match tree.lookup [manifestName] with
  | some (.file bytes) =>
    if bytes.length = 0 ∨ maxManifestBytes < bytes.length then .error (.package (.manifestInvalid .size))
    else
      match Utf8.decode bytes with
      | none => .error (.package (.manifestInvalid .unicode))
      | some t =>
        match Json.loadsWithin limit t with
        | .ok manifest => .ok manifest
        | .error .value => .error (.package (.manifestInvalid .json))
        | .error .recursion => .error .recursion
  | _ => .error (.package (.manifestInvalid .os))

/-! ## The comparison -/

/-- One turn of the loop over the files. -/
def compareFile (sha256 : List Byte → Text) (expected : List ManifestEntry) (file : List Text × List Byte) :
    Except VerifyError Unit :=
  match expected.find? fun entry => entry.path = asPosix file.1 with
  | none => .ok ()
  | some entry => do
    rejectIf (file.2.length ≠ entry.size) (.package (.sizeMismatch (asPosix file.1)))
    rejectIf (sha256 file.2 ≠ entry.sha256) (.package (.sha256Mismatch (asPosix file.1)))

/-- The two sets of paths, then the files one by one. -/
def compareFiles (sha256 : List Byte → Text) (tree : Tree) (expected : List ManifestEntry) : Except VerifyError Unit := do
  let actual := tree.files.map fun file => asPosix file.1
  let missing := sorted ((expected.map (·.path)).filter fun path => !actual.contains path)
  let extra := sorted (actual.filter fun path => !(expected.map (·.path)).contains path)
  rejectIf (missing ≠ [] || extra ≠ []) (.package (.fileSet missing extra))
  tree.files.forM (compareFile sha256 expected)

/-- `verify_unpacked_package`: the version and the number of files. -/
def verify (sha256 : List Byte → Text) (digits : DecimalDigits) (limit : Nat) (tree : Tree) :
    Except VerifyError (Text × Nat) := do
  let manifest ← readManifest limit tree
  let (version, entries) ← readHeader digits manifest
  let expected ← readEntries [] entries
  compareFiles sha256 tree expected
  return (version, tree.files.length)

end EmsDnp3.Python.Package
