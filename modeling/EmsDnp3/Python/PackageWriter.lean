import EmsDnp3.Json.DumpsRoundTrip
import EmsDnp3.Python.PackageExact

/-!
# The manifest that is shipped

`write_package_manifest` of `create_deterministic_zip.py`. What it leaves in a tree is accepted there, and rejected
in every tree with other files.
-/

namespace EmsDnp3.Python.Package

open PosixPath (slash parts asPosix isAbsolute IsName)

/-- `json.dumps(.., ensure_ascii=False, indent=2)` -/
def manifestOptions : Json.DumpsOptions where
  ensureAscii := false
  indent := some [0x20, 0x20]
  afterComma := []
  beforeColon := []
  afterColon := [0x20]
  floatRepr := Json.dumpFloat
  indentBlank := Json.twoBlanks
  commaBlank := Json.noBlanks
  colonBlank := Json.oneBlank
  floatPoints := Json.dumpFloat_points

/-- The members of an entry, by key. -/
def entryJson (entry : ManifestEntry) : Json :=
  .object [("path", .str entry.path), ("sha256", .str entry.sha256), ("size_bytes", .nat entry.size)]

/-- The members of the manifest, by key. -/
def manifestJson (version : Text) (entries : List ManifestEntry) : Json :=
  .object [("files", .arr (entries.map entryJson)), ("manifest_scope", .str manifestScope),
    ("package_version", .str version), ("schema_version", .nat 1)]

/-- `_staged_files`, after the manifest is unlinked. -/
def stagedFiles (tree : Tree) : List (List Text × List Byte) :=
  tree.files.insertionSort fun one two => ¬ asPosix two.1 < asPosix one.1

/-- `write_package_manifest`: the bytes of the manifest. A directory is not unlinked, and a lone surrogate is not
encoded. -/
def writeManifest (sha256 : List Byte → Text) (tree : Tree) (version : Text) : Option (List Byte) :=
  match tree.lookup [manifestName] with
  | some .directory => none
  | _ => Utf8.encode (manifestOptions.dumps 0 (manifestJson version ((stagedFiles tree).map (listed sha256))) ++ [0x0A])

/-! ## It is read back -/

theorem manifestOptions_literal : manifestOptions.Literal := ⟨rfl, fun _ => rfl⟩

theorem mem_stagedFiles {tree : Tree} {file : List Text × List Byte} : file ∈ stagedFiles tree ↔ file ∈ tree.files :=
  (List.perm_insertionSort _ _).mem_iff

/-- A manifest can be written. -/
theorem manifestJson_writable (version : Text) {entries : List ManifestEntry}
    (small : ∀ e ∈ entries, e.size < 2 ^ 63) : Json.Writable (manifestJson version entries) := by
  have digits {n : Nat} (fits : n < 2 ^ 63) : (decimal n).length ≤ Json.maxIntDigits :=
    (length_decimal_le (k := 18) (by omega)).trans (by decide)
  have items : Json.WritableItems (entries.map entryJson) := by
    induction entries with
    | nil => trivial
    | cons e entries ih =>
      refine ⟨⟨?_, trivial, trivial, ?_, trivial⟩, ih fun later mem => small later (List.mem_cons_of_mem _ mem)⟩
      · simp [text_inj]
      · exact digits (small e List.mem_cons_self)
  refine ⟨?_, items, trivial, trivial, ?_, trivial⟩
  · simp [text_inj]
  · exact digits (by decide)

/-- A manifest nests three levels. -/
theorem manifestJson_depth (version : Text) (entries : List ManifestEntry) :
    (manifestJson version entries).depth ≤ 3 := by
  have items : Json.depthItems (entries.map entryJson) ≤ 1 := by
    induction entries with
    | nil => exact Nat.zero_le 1
    | cons e entries ih =>
      rw [List.map_cons, Json.depthItems]
      exact max_le (by simp [entryJson, Json.object, Json.depth, Json.depthMembers, Json.nat]) ih
  simp only [manifestJson, Json.object, List.map_cons, List.map_nil, Json.depth, Json.depthMembers, Json.nat]
  omega

/-- The header of a written manifest is accepted. -/
theorem header_manifestJson {digits : DecimalDigits} {version : Text} (form : isVersion digits version = true)
    {entries : List ManifestEntry} (some_ : entries ≠ []) :
    Header digits (manifestJson version entries) version (entries.map entryJson) where
  fields := by simp [hasFields, manifestJson, Json.object, Json.isObj, Json.keys, text_inj]
  schema := ⟨.nat 1, by simp [manifestJson], by decide⟩
  numbered := by simp [manifestJson]
  versionForm := form
  scope := by simp [manifestJson]
  files := by simp [manifestJson]
  nonempty := by simpa using some_

/-- The entries of a written manifest are found behind its header. -/
theorem items_of_header {digits : DecimalDigits} {version other : Text} {entries : List ManifestEntry}
    {items : List Json} (header : Header digits (manifestJson version entries) other items) :
    items = entries.map entryJson := by
  have files := header.files
  simpa [manifestJson, eq_comm] using files

/-- The text of a path without backslash and colon is safe. -/
theorem safePath_asPosix {names : List Text} (some_ : names ≠ []) (named : ∀ name ∈ names, IsName name)
    (plain : ∀ name ∈ names, CodePoint.ofChar '\\' ∉ name ∧ CodePoint.ofChar ':' ∉ name) : SafePath (asPosix names) where
  posix := by
    intro mem
    obtain slash_ | ⟨name, among, inside⟩ := PosixPath.mem_asPosix some_ mem
    · exact absurd slash_ (by decide)
    · exact (plain name among).1 inside
  relative := PosixPath.asPosix_relative named some_
  inside := by
    rw [PosixPath.parts_asPosix named some_]
    exact fun parent => (named _ parent).notParent rfl
  named := by
    rw [PosixPath.parts_asPosix named some_]
    exact some_
  noDrive := by
    rw [PosixPath.parts_asPosix named some_]
    exact fun first head => (plain first (List.mem_of_head? head)).2

/-- A tree that is packed and what arrives with its manifest. -/
structure Shipped (sha256 : List Byte → Text) (digits : DecimalDigits) (limit : Nat) (packed arrived : Tree)
    (version : Text) : Prop where
  nonempty : packed.files ≠ []
  plain : ∀ file ∈ packed.files, ∀ name ∈ file.1, CodePoint.ofChar '\\' ∉ name ∧ CodePoint.ofChar ':' ∉ name
  versionForm : isVersion digits version = true
  hex : ∀ bytes, isLowerSha256 (sha256 bytes) = true
  collisionFree : ∀ one ∈ packed.files, ∀ two ∈ arrived.files, sha256 one.2 = sha256 two.2 → one.2 = two.2
  room : 3 ≤ limit
  manifest : ∃ bytes, writeManifest sha256 packed version = some bytes ∧ bytes.length ≤ maxManifestBytes ∧
    arrived.lookup [manifestName] = some (.file bytes)

section
variable {sha256 : List Byte → Text} {digits : DecimalDigits} {limit : Nat} {packed arrived : Tree} {version : Text}

theorem isName_manifest : IsName manifestName := ⟨by decide, by decide, by decide⟩

/-- The entry of a file is accepted. -/
theorem entryOf_listed {file : List Text × List Byte} (among : file ∈ packed.files)
    (plain : ∀ name ∈ file.1, CodePoint.ofChar '\\' ∉ name ∧ CodePoint.ofChar ':' ∉ name)
    (hex : isLowerSha256 (sha256 file.2) = true) : EntryOf (entryJson (listed sha256 file)) (listed sha256 file) := by
  obtain ⟨mem, other⟩ := packed.mem_files.mp among
  obtain ⟨some_, named⟩ := packed.names _ mem
  refine ⟨?_, ⟨asPosix file.1, ?_, safePath_asPosix some_ named plain, ?_⟩, ?_, ?_, ?_, hex⟩
  · simp [hasFields, entryJson, Json.object, Json.isObj, Json.keys, text_inj]
  · simp [entryJson, listed]
  · rw [PosixPath.parts_asPosix named some_]
    rfl
  · intro same
    have manifest : ∀ name ∈ [manifestName], IsName name := by
      rintro _ (⟨⟩ | ⟨_, ⟨⟩⟩)
      exact isName_manifest
    have one : asPosix [manifestName] = manifestName := by
      rw [PosixPath.asPosix_of_ne (List.cons_ne_nil _ _), List.intercalate_singleton]
    exact other (PosixPath.asPosix_injective named manifest some_ (List.cons_ne_nil _ _) (same.trans one.symm))
  · simp [entryJson]
  · simp [entryJson]

/-- The entries that the manifest of a tree lists. -/
def written (sha256 : List Byte → Text) (packed : Tree) : List ManifestEntry := (stagedFiles packed).map (listed sha256)

theorem Shipped.each (shipped : Shipped sha256 digits limit packed arrived version) :
    ∀ e ∈ written sha256 packed, EntryOf (entryJson e) e := by
  intro e mem
  obtain ⟨file, staged, rfl⟩ := List.mem_map.mp mem
  have among := mem_stagedFiles.mp staged
  exact entryOf_listed among (shipped.plain file among) (shipped.hex file.2)

/-- The written entries are read back in order. -/
theorem Shipped.listing (shipped : Shipped sha256 digits limit packed arrived version) :
    Listing ((written sha256 packed).map entryJson) (written sha256 packed) := by
  constructor
  · rw [List.forall₂_map_left_iff, List.forall₂_same]
    exact shipped.each
  · rw [written, List.map_map]
    exact ((List.perm_insertionSort _ packed.files).map _).nodup_iff.mpr packed.files_nodup

/-- The manifest arrives as it was written. -/
theorem Shipped.reads (shipped : Shipped sha256 digits limit packed arrived version) :
    ∃ t, ManifestText arrived t ∧ Json.loads t = some (manifestJson version (written sha256 packed)) := by
  obtain ⟨bytes, wrote, small, stands⟩ := shipped.manifest
  have encoded : Utf8.encode (manifestOptions.dumps 0 (manifestJson version (written sha256 packed)) ++ [0x0A]) =
      some bytes := by
    unfold writeManifest at wrote
    split at wrote
    · cases wrote
    · exact wrote
  have writable : Json.Writable (manifestJson version (written sha256 packed)) := by
    apply manifestJson_writable
    intro e mem
    obtain ⟨⟨path, content⟩, staged, rfl⟩ := List.mem_map.mp mem
    exact packed.sizes path content (packed.mem_files.mp (mem_stagedFiles.mp staged)).1
  have decoded := Utf8.decode_encode encoded
  refine ⟨_, ⟨bytes, stands, ?_, small, decoded⟩, ?_⟩
  · rintro rfl
    have empty := Option.some.inj decoded
    simp at empty
  · exact Json.DumpsOptions.loads_dumps manifestOptions_literal writable (by decide) (by decide)

/-- A shipped manifest leaks nothing. -/
theorem Shipped.safe (shipped : Shipped sha256 digits limit packed arrived version) : ¬ Leaks digits limit arrived := by
  obtain ⟨t, read, loaded⟩ := shipped.reads
  rintro ⟨other, readOther, cause⟩
  obtain rfl := read.unique readOther
  obtain deep | ⟨manifest, v, items, loadedOther, header, front, entry, back, entries, shape, -, bad⟩ := cause
  · rw [Json.tooDeep_of_loads loaded, decide_eq_true_eq] at deep
    have shallow := manifestJson_depth version (written sha256 packed)
    have room := shipped.room
    omega
  · obtain rfl := Option.some.inj (loadedOther.symm.trans loaded)
    obtain rfl := items_of_header header
    obtain ⟨e, one⟩ : ∃ e, EntryOf entry e := by
      have among : entry ∈ (written sha256 packed).map entryJson := by simp [shape]
      obtain ⟨e, mem, rfl⟩ := List.mem_map.mp among
      exact ⟨e, shipped.each e mem⟩
    obtain ⟨value, isPath, safe, -⟩ := one.path
    obtain ⟨_, empty, -, -, -, none⟩ := bad.path
    obtain rfl := Json.str.inj (Option.some.inj (isPath.symm.trans empty))
    exact safe.named none

/-- The files of a tree are told apart by what a manifest says about them. -/
theorem listed_inj {one two : List Text × List Byte} (first : one ∈ packed.files) (second : two ∈ arrived.files)
    (collisionFree : sha256 one.2 = sha256 two.2 → one.2 = two.2) (same : listed sha256 one = listed sha256 two) :
    one = two := by
  rw [listed, listed, ManifestEntry.mk.injEq] at same
  exact Prod.ext (Tree.asPosix_inj first second same.1) (collisionFree same.2.2)

/-- Accepted with the same files, and rejected with any other. -/
theorem Shipped.verified (shipped : Shipped sha256 digits limit packed arrived version) :
    ((∀ file, file ∈ arrived.files ↔ file ∈ packed.files) →
      verify sha256 digits limit arrived = .ok (version, arrived.files.length)) ∧
    ((∃ file, ¬ (file ∈ arrived.files ↔ file ∈ packed.files)) →
      ∃ message, verify sha256 digits limit arrived = .error (.package message)) := by
  obtain ⟨t, read, loaded⟩ := shipped.reads
  have exact_ : Exact sha256 digits limit arrived := exact_iff.mpr shipped.safe
  have inWritten {e : ManifestEntry} : e ∈ written sha256 packed ↔ e ∈ packed.files.map (listed sha256) :=
    ((List.perm_insertionSort _ packed.files).map _).mem_iff
  have some_ : written sha256 packed ≠ [] := by
    intro none
    have length : packed.files.length = 0 := by
      rw [← List.length_insertionSort (fun one two => ¬ asPosix two.1 < asPosix one.1), ← List.length_map (listed sha256)]
      exact congrArg List.length none
    exact shipped.nonempty (List.length_eq_zero_iff.mp length)
  constructor
  · intro same
    refine (exact_.accepted _ _).mpr ⟨⟨t, _, _, _, read, loaded, header_manifestJson shipped.versionForm some_,
      shipped.listing, fun e => ?_⟩, rfl⟩
    rw [inWritten]
    simp only [List.mem_map, same]
  · rintro ⟨file, differs⟩
    cases outcome : verify sha256 digits limit arrived with
    | error error =>
      obtain ⟨message, rfl⟩ := exact_.rejected _ outcome
      exact ⟨message, rfl⟩
    | ok result =>
      exfalso
      obtain ⟨v, count⟩ := result
      obtain ⟨⟨other, manifest, items, entries, readOther, loadedOther, header, listing, same⟩, -⟩ :=
        (exact_.accepted _ _).mp outcome
      obtain rfl := read.unique readOther
      obtain rfl := Option.some.inj (loadedOther.symm.trans loaded)
      obtain rfl := items_of_header header
      obtain rfl := listing.unique shipped.listing
      apply differs
      constructor
      · intro present
        obtain ⟨own, among, equal⟩ := List.mem_map.mp (inWritten.mp ((same _).mpr (List.mem_map_of_mem present)))
        exact listed_inj among present (shipped.collisionFree own among file present) equal ▸ among
      · intro among
        obtain ⟨other, present, equal⟩ := List.mem_map.mp ((same _).mp (inWritten.mpr (List.mem_map_of_mem among)))
        exact listed_inj among present (shipped.collisionFree file among other present) equal.symm ▸ present

end

/-- Verification is exact but for the leaks, and a shipped manifest is accepted with its own files only. -/
theorem package_verified (sha256 : List Byte → Text) (digits : DecimalDigits) (limit : Nat) :
    (∀ tree, Exact sha256 digits limit tree ↔ ¬ Leaks digits limit tree) ∧
    ∀ packed arrived version, Shipped sha256 digits limit packed arrived version →
      ((∀ file, file ∈ arrived.files ↔ file ∈ packed.files) →
        verify sha256 digits limit arrived = .ok (version, arrived.files.length)) ∧
      ((∃ file, ¬ (file ∈ arrived.files ↔ file ∈ packed.files)) →
        ∃ message, verify sha256 digits limit arrived = .error (.package message)) := by
  constructor
  · intro tree
    exact exact_iff
  · intro packed arrived version shipped
    exact shipped.verified

/-! ## A package of one file -/

def asciiDigits : DecimalDigits where
  digit := isDigit
  dot := by decide
  ascii := fun _ digit => digit

/-- SHA-256 on the bytes of two letters. -/
def letterDigest (bytes : List Byte) : Text :=
  if bytes = [0x61] then text "ca978112ca1bbdcafac231b39a23dc4da786eff8147c4e72b9807785afee48bb"
  else text "3e23e8160039594a33894f6564e1b1348bbd7a0088d42c4acb73eeaed59c009d"

theorem isName_a : IsName (text "a") := ⟨by decide, by decide, by decide⟩

/-- The file `a` with one letter in it. -/
def packedLetter (letter : Byte) : Tree where
  entries := [([text "a"], .file [letter])]
  nodup := by simp
  names := by
    simp only [List.mem_singleton, forall_eq, ne_eq, List.cons_ne_nil, not_false_iff, true_and]
    exact isName_a
  sizes := by simp

def letterManifest : List Byte := (writeManifest letterDigest (packedLetter 0x61) (text "1.0.0")).getD []

theorem letterManifest_short : ∃ bytes, writeManifest letterDigest (packedLetter 0x61) (text "1.0.0") = some bytes ∧
    bytes.length ≤ 1000 := by
  have short : (writeManifest letterDigest (packedLetter 0x61) (text "1.0.0")).any (fun bytes => bytes.length ≤ 1000) =
      true := by
    decide +kernel
  obtain ⟨bytes, wrote, length⟩ := Option.any_eq_true _ _ |>.mp short
  exact ⟨bytes, wrote, of_decide_eq_true length⟩

theorem letterManifest_written :
    writeManifest letterDigest (packedLetter 0x61) (text "1.0.0") = some letterManifest := by
  obtain ⟨bytes, wrote, -⟩ := letterManifest_short
  rw [letterManifest, wrote, Option.getD_some]

theorem letterManifest_length : letterManifest.length ≤ 1000 := by
  obtain ⟨bytes, wrote, length⟩ := letterManifest_short
  rwa [letterManifest, wrote, Option.getD_some]

theorem letterPath_ne : text "a" ≠ manifestName := by simp [manifestName]

theorem letterPaths_nodup : ([[text "a"], [manifestName]] : List (List Text)).Nodup := by simp [letterPath_ne]

section
variable (letter : Byte)

theorem arrivedLetter_names : ∀ entry ∈ ([([text "a"], .file [letter]), ([manifestName], .file letterManifest)] :
    List (List Text × Content)), entry.1 ≠ [] ∧ ∀ name ∈ entry.1, IsName name := by
  simp only [List.mem_cons, List.not_mem_nil, or_false, forall_eq_or_imp, forall_eq, ne_eq, List.cons_ne_nil,
    not_false_iff, true_and]
  exact ⟨isName_a, isName_manifest⟩

/-- All files are small. -/
theorem arrivedLetter_sizes : ∀ path bytes, (path, Content.file bytes) ∈
    ([([text "a"], .file [letter]), ([manifestName], .file letterManifest)] : List (List Text × Content)) →
      bytes.length < 2 ^ 63 := by
  intro path bytes mem
  simp only [List.mem_cons, List.not_mem_nil, or_false, Prod.mk.injEq, Content.file.injEq] at mem
  obtain ⟨-, same⟩ | ⟨-, same⟩ := mem
  · rw [same]
    exact Nat.one_lt_two_pow (by decide)
  · have short := letterManifest_length
    rw [← same] at short
    omega

/-- The same file beside the manifest of the letter `a`. -/
def arrivedLetter : Tree where
  entries := [([text "a"], .file [letter]), ([manifestName], .file letterManifest)]
  nodup := letterPaths_nodup
  names := arrivedLetter_names letter
  sizes := arrivedLetter_sizes letter

end

theorem files_packedLetter (letter : Byte) : (packedLetter letter).files = [([text "a"], [letter])] := by
  simp [Tree.files, packedLetter, letterPath_ne]

theorem files_arrivedLetter (letter : Byte) : (arrivedLetter letter).files = [([text "a"], [letter])] := by
  simp [Tree.files, arrivedLetter, letterPath_ne]

/-- The package that was shipped, intact or altered. -/
theorem shippedLetter (letter : Byte) (known : letter = 0x61 ∨ letter = 0x62) :
    Shipped letterDigest asciiDigits 1000 (packedLetter 0x61) (arrivedLetter letter) (text "1.0.0") where
  nonempty := by simp [files_packedLetter]
  plain := by
    simp only [files_packedLetter, List.mem_singleton, forall_eq]
    exact ⟨by decide, by decide⟩
  versionForm := by decide
  hex := by
    intro bytes
    unfold letterDigest
    split <;> decide
  collisionFree := by
    simp only [files_packedLetter, files_arrivedLetter, List.mem_singleton, forall_eq]
    obtain rfl | rfl := known <;> decide
  room := by decide
  manifest := by
    refine ⟨letterManifest, letterManifest_written, letterManifest_length.trans (by decide), ?_⟩
    exact (arrivedLetter letter).lookup_eq_some (List.mem_cons_of_mem _ List.mem_cons_self)

/-- The letter arrives, or another one does. -/
theorem package_verified_letter :
    verify letterDigest asciiDigits 1000 (arrivedLetter 0x61) = .ok (text "1.0.0", 1) ∧
    ∃ message, verify letterDigest asciiDigits 1000 (arrivedLetter 0x62) = .error (.package message) := by
  have intact := (package_verified letterDigest asciiDigits 1000).2 _ _ _ (shippedLetter 0x61 (.inl rfl))
  have changed := (package_verified letterDigest asciiDigits 1000).2 _ _ _ (shippedLetter 0x62 (.inr rfl))
  simp only [files_packedLetter, files_arrivedLetter, List.mem_singleton] at intact changed
  exact ⟨intact.1 fun _ => trivial, changed.2 ⟨([text "a"], [0x62]), by simp⟩⟩

/-! ## A path that normalises to nothing -/

def dotManifest : Text :=
  text "\x7b\"schema_version\": 1, \"package_version\": \"1.0.0\", " ++
    text "\"manifest_scope\": \"all packaged files except package-manifest.json\", " ++
    text "\"files\": [\x7b\"path\": \".\", \"size_bytes\": 0, \"sha256\": \"\"\x7d]\x7d"

def dotBytes : List Byte := (Utf8.encode dotManifest).getD []

theorem dotBytes_length : dotBytes.length ≤ 1000 := by decide +kernel

/-- Nothing but a manifest with the path `.` in it. -/
def dotTree : Tree where
  entries := [([manifestName], .file dotBytes)]
  nodup := by simp
  names := by
    simp only [List.mem_singleton, forall_eq, ne_eq, List.cons_ne_nil, not_false_iff, true_and]
    exact isName_manifest
  sizes := by
    intro path bytes mem
    have short := dotBytes_length
    rw [← Content.file.inj (Prod.mk.inj (List.mem_singleton.mp mem)).2] at short
    omega

/-- The `IndexError` of `pure.parts[0]` leaves the verifier. -/
theorem verify_dot :
    verify letterDigest asciiDigits 1000 dotTree = .error .index ∧ ¬ Exact letterDigest asciiDigits 1000 dotTree := by
  have index : verify letterDigest asciiDigits 1000 dotTree = .error .index := by decide +kernel
  refine ⟨index, fun exact_ => ?_⟩
  obtain ⟨message, other⟩ := exact_.rejected _ index
  cases other

end EmsDnp3.Python.Package
