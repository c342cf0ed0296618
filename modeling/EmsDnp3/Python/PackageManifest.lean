import EmsDnp3.Base.Except
import EmsDnp3.Python.PackageVerify

/-!
# What the verifier accepts

The well-formed manifest as a statement of its own, and the trees that match one. The two places where
another exception comes out of the verifier are conditions on the text of the manifest.
-/

namespace EmsDnp3.Python.Package

open PosixPath (slash parts asPosix isAbsolute IsName)

/-! ## The format -/

/-- A relative path that stays below the root. -/
structure SafePath (value : Text) : Prop where
  posix : CodePoint.ofChar '\\' ∉ value
  relative : isAbsolute value = false
  inside : text ".." ∉ parts value
  named : parts value ≠ []
  noDrive : ∀ first ∈ (parts value).head?, CodePoint.ofChar ':' ∉ first

/-- An entry of the manifest. -/
structure EntryOf (entry : Json) (listed : ManifestEntry) : Prop where
  fields : hasFields entry ["path", "size_bytes", "sha256"] = true
  path : ∃ value, entry.get? "path" = some (.str value) ∧ SafePath value ∧ listed.path = asPosix (parts value)
  notManifest : listed.path ≠ manifestName
  size : entry.get? "size_bytes" = some (.nat listed.size)
  sha256 : entry.get? "sha256" = some (.str listed.sha256)
  hex : isLowerSha256 listed.sha256 = true

/-- The members of the manifest, its files still unread. -/
structure Header (digits : DecimalDigits) (manifest : Json) (version : Text) (items : List Json) : Prop where
  fields : hasFields manifest ["schema_version", "package_version", "manifest_scope", "files"] = true
  schema : ∃ value, manifest.get? "schema_version" = some value ∧ equalsNat value 1 = true
  numbered : manifest.get? "package_version" = some (.str version)
  versionForm : isVersion digits version = true
  scope : manifest.get? "manifest_scope" = some (.str manifestScope)
  files : manifest.get? "files" = some (.arr items)
  nonempty : items ≠ []

/-- Files, one entry each, under different paths. -/
structure Listing (items : List Json) (entries : List ManifestEntry) : Prop where
  each : List.Forall₂ EntryOf items entries
  distinct : (entries.map (·.path)).Nodup

/-- The text of the manifest, if it can be read. -/
structure ManifestText (tree : Tree) (t : Text) : Prop where
  read : ∃ bytes, tree.lookup [manifestName] = some (.file bytes) ∧ bytes ≠ [] ∧ bytes.length ≤ maxManifestBytes ∧
    Utf8.decode bytes = some t

theorem ManifestText.unique {tree : Tree} {t other : Text} (read : ManifestText tree t)
    (again : ManifestText tree other) : t = other := by
  obtain ⟨bytes, stands, -, -, decoded⟩ := read
  obtain ⟨same, there, -, -, decodedSame⟩ := again
  obtain rfl := Content.file.inj (Option.some.inj (stands.symm.trans there))
  exact Option.some.inj (decoded.symm.trans decodedSame)

/-- An entry describes one file. -/
theorem EntryOf.unique {entry : Json} {e other : ManifestEntry} (one : EntryOf entry e) (two : EntryOf entry other) :
    e = other := by
  obtain ⟨value, isPath, -, path⟩ := one.path
  obtain ⟨again, samePath, -, otherPath⟩ := two.path
  obtain rfl := Json.str.inj (Option.some.inj (isPath.symm.trans samePath))
  have size := Json.int.inj (Option.some.inj (one.size.symm.trans two.size))
  have sha256 := Json.str.inj (Option.some.inj (one.sha256.symm.trans two.sha256))
  cases e
  cases other
  rw [ManifestEntry.mk.injEq]
  exact ⟨path.trans otherPath.symm, Int.ofNat_inj.mp size, sha256⟩

/-- A list is read as one list of entries. -/
theorem Listing.unique {items : List Json} {entries others : List ManifestEntry} (one : Listing items entries)
    (two : Listing items others) : entries = others := by
  have each := one.each
  have same := two.each
  clear one two
  induction each generalizing others with
  | nil =>
    cases same
    rfl
  | cons first _ ih =>
    cases same with
    | cons again rest => rw [first.unique again, ih rest]

/-- What a manifest must say about a file. -/
def listed (sha256 : List Byte → Text) (file : List Text × List Byte) : ManifestEntry :=
  { path := asPosix file.1, size := file.2.length, sha256 := sha256 file.2 }

/-- A well-formed manifest that lists exactly the files of the tree. -/
def Matches (sha256 : List Byte → Text) (digits : DecimalDigits) (tree : Tree) (version : Text) : Prop :=
  ∃ t manifest items entries, ManifestText tree t ∧ Json.loads t = some manifest ∧
    Header digits manifest version items ∧ Listing items entries ∧
    ∀ e, e ∈ entries ↔ e ∈ tree.files.map (listed sha256)

/-! ## The two leaks -/

/-- An entry whose path normalises to nothing. -/
structure Degenerate (entry : Json) : Prop where
  fields : hasFields entry ["path", "size_bytes", "sha256"] = true
  path : ∃ value, entry.get? "path" = some (.str value) ∧ value ≠ [] ∧ CodePoint.ofChar '\\' ∉ value ∧
    isAbsolute value = false ∧ parts value = []

/-- The manifest is nested deeper than the interpreter can follow, or a path that normalises to nothing comes
before every other error. -/
def Leaks (digits : DecimalDigits) (limit : Nat) (tree : Tree) : Prop :=
  ∃ t, ManifestText tree t ∧ (Json.tooDeep limit t = true ∨
    ∃ manifest version items, Json.loads t = some manifest ∧ Header digits manifest version items ∧
      ∃ front entry back entries, items = front ++ entry :: back ∧ Listing front entries ∧ Degenerate entry)

/-- A `PackageVerificationError` -/
def VerifyError.IsPackage (error : VerifyError) : Prop := ∃ message, error = .package message

/-! ## Paths -/

theorem parts_all_kept (value : Text) : ∀ part ∈ parts value, PosixPath.isDropped part = false := by
  intro part mem
  have kept := (List.mem_filter.mp mem).2
  simpa using kept

/-- Only `..` is left to find among the parts. -/
theorem unsafe_part_iff (value : Text) :
    ((parts value).any fun part => part = [] || part = text "." || part = text "..") = true ↔ text ".." ∈ parts value := by
  constructor
  · intro found
    obtain ⟨part, mem, bad⟩ := List.any_eq_true.mp found
    have kept := parts_all_kept value part mem
    simp only [PosixPath.isDropped, Bool.or_eq_false_iff, decide_eq_false_iff_not] at kept
    simp only [kept.1, kept.2, decide_false, Bool.false_or, decide_eq_true_eq] at bad
    exact bad ▸ mem
  · intro mem
    apply List.any_eq_true.mpr
    exact ⟨_, mem, by simp⟩

/-- A path is accepted exactly if it is safe. -/
theorem safeRelativePath_ok_iff {value : Json} {relative : Text} :
    safeRelativePath value = .ok relative ↔ ∃ t, value = .str t ∧ SafePath t ∧ relative = asPosix (parts t) := by
  constructor
  · intro ok
    unfold safeRelativePath at ok
    split at ok
    · next t =>
      split at ok
      · cases ok
      next posix =>
      split at ok
      · cases ok
      next safe =>
      split at ok
      · cases ok
      next first rest shape =>
      split at ok
      · cases ok
      next drive =>
      simp only [Bool.or_eq_true, decide_eq_true_eq, List.contains_iff_mem, not_or] at posix
      rw [Bool.or_eq_true, not_or, Bool.not_eq_true] at safe
      refine ⟨t, rfl, ⟨posix.2, safe.1, ?_, by simp [shape], ?_⟩, (Except.ok.inj ok).symm⟩
      · intro parent
        exact safe.2 ((unsafe_part_iff t).mpr parent)
      · intro head among
        rw [shape] at among
        obtain rfl := Option.some.inj among
        simpa using drive
    · cases ok
  · rintro ⟨t, rfl, safe, rfl⟩
    unfold safeRelativePath
    have some_ : t ≠ [] := by
      rintro rfl
      exact safe.named rfl
    have kept : ¬ ((parts t).any fun part => part = [] || part = text "." || part = text "..") = true :=
      fun found => safe.inside ((unsafe_part_iff t).mp found)
    dsimp only
    rw [if_neg (by simpa [some_] using safe.posix), if_neg (by rw [safe.relative, Bool.false_or]; exact kept)]
    split
    · next none => exact absurd none safe.named
    · next first rest shape =>
      have drive := safe.noDrive first (by rw [shape]; rfl)
      rw [if_neg (by simpa using drive)]

/-- What is raised over a path is a package error, but for a path without parts. -/
theorem safeRelativePath_error {value : Json} {error : VerifyError} (raised : safeRelativePath value = .error error) :
    error.IsPackage ∨
      error = .index ∧ ∃ t, value = .str t ∧ t ≠ [] ∧ CodePoint.ofChar '\\' ∉ t ∧ isAbsolute t = false ∧ parts t = [] := by
  unfold safeRelativePath at raised
  split at raised
  · next t =>
    split at raised
    · exact .inl ⟨_, (Except.error.inj raised).symm⟩
    next posix =>
    split at raised
    · exact .inl ⟨_, (Except.error.inj raised).symm⟩
    next safe =>
    split at raised
    · next shape =>
      simp only [Bool.or_eq_true, decide_eq_true_eq, List.contains_iff_mem, not_or] at posix
      rw [Bool.or_eq_true, not_or, Bool.not_eq_true] at safe
      exact .inr ⟨(Except.error.inj raised).symm, t, rfl, posix.1, posix.2, safe.1, shape⟩
    · split at raised
      · exact .inl ⟨_, (Except.error.inj raised).symm⟩
      · cases raised
  · exact .inl ⟨_, (Except.error.inj raised).symm⟩

/-- A path without parts leaks an `IndexError`. -/
theorem safeRelativePath_index {t : Text} (some_ : t ≠ []) (posix : CodePoint.ofChar '\\' ∉ t)
    (relative : isAbsolute t = false) (none : parts t = []) : safeRelativePath (.str t) = .error .index := by
  unfold safeRelativePath
  dsimp only
  rw [if_neg (by simpa [some_] using posix), if_neg (by rw [relative, none]; simp)]
  split
  · rfl
  · next first rest shape => simp [none] at shape

/-! ## One entry -/

/-- A natural number is an integer that is not negative. -/
theorem natural?_iff {value : Json} {n : Nat} : natural? value = some n ↔ value = .nat n := by
  constructor
  · intro found
    cases value with
    | int m =>
      simp only [natural?] at found
      split_ifs at found with natural
      obtain rfl := Option.some.inj found
      rw [Json.nat, Int.toNat_of_nonneg natural]
    | _ => simp [natural?] at found
  · rintro rfl
    simp [natural?, Json.nat]

/-- An entry is accepted exactly if it is one and its path is new. -/
theorem readEntry_ok_iff {expected : List ManifestEntry} {entry : Json} {e : ManifestEntry} :
    readEntry expected entry = .ok e ↔ EntryOf entry e ∧ e.path ∉ expected.map (·.path) := by
  constructor
  · intro ok
    unfold readEntry at ok
    obtain ⟨_, fields, ok⟩ := ok_bind_iff.mp ok
    obtain ⟨relative, path, ok⟩ := ok_bind_iff.mp ok
    obtain ⟨_, other, ok⟩ := ok_bind_iff.mp ok
    have fields := rejectIf_ok.mp fields
    have other := rejectIf_ok.mp other
    obtain ⟨value, isPath, safe, normal⟩ := safeRelativePath_ok_iff.mp path
    split at ok
    · cases ok
    next size sized =>
    split at ok
    · next sha256 hash =>
      obtain ⟨_, hex, ok⟩ := ok_bind_iff.mp ok
      obtain ⟨_, fresh, ok⟩ := ok_bind_iff.mp ok
      obtain rfl := ok_pure_iff.mp ok
      have hex := rejectIf_ok.mp hex
      have fresh := rejectIf_ok.mp fresh
      obtain ⟨member, read, natural⟩ := Option.bind_eq_some_iff.mp sized
      refine ⟨⟨by simpa using fields, ⟨value, ?_, safe, normal⟩, by simpa using other, ?_, ?_, by simpa using hex⟩, ?_⟩
      · cases read : entry.get? (text "path") with
        | none => simp [read] at isPath
        | some found => simpa [read] using isPath
      · rw [read, natural?_iff.mp natural]
      · cases read : entry.get? (text "sha256") with
        | none => simp [read] at hash
        | some found => simpa [read] using hash
      · simpa [List.contains_iff_mem] using fresh
    · cases ok
  · rintro ⟨⟨fields, ⟨value, isPath, safe, normal⟩, other, size, sha256, hex⟩, fresh⟩
    unfold readEntry
    rw [rejectIf_pass (by simp [fields]), ok_bind, isPath, Option.getD_some,
      safeRelativePath_ok_iff.mpr ⟨value, rfl, safe, rfl⟩, ok_bind, ← normal,
      rejectIf_pass (by simpa using other), ok_bind, size, Option.bind_some, natural?_iff.mpr rfl]
    dsimp only
    rw [sha256, Option.getD_some]
    dsimp only
    rw [rejectIf_pass (by simp [hex]), ok_bind, rejectIf_pass (by simpa [List.contains_iff_mem] using fresh), ok_bind]
    rfl

/-- Every error of an entry is a package error, but for a path that normalises to nothing. -/
theorem readEntry_error {expected : List ManifestEntry} {entry : Json} {error : VerifyError}
    (raised : readEntry expected entry = .error error) :
    error.IsPackage ∨ error = .index ∧ Degenerate entry := by
  unfold readEntry at raised
  by_cases fields : hasFields entry ["path", "size_bytes", "sha256"] = true
  · rw [rejectIf_pass (by simp [fields]), ok_bind] at raised
    cases path : safeRelativePath ((entry.get? "path").getD .null) with
    | error inner =>
      rw [path] at raised
      obtain rfl := Except.error.inj raised
      obtain package | ⟨rfl, t, value, some_, posix, relative, none⟩ := safeRelativePath_error path
      · exact .inl package
      · refine .inr ⟨rfl, fields, t, ?_, some_, posix, relative, none⟩
        cases read : entry.get? (text "path") with
        | none => simp [read] at value
        | some found => simpa [read] using value
    | ok relative =>
      left
      rw [path, ok_bind] at raised
      refine (?_ : ErrorsAre VerifyError.IsPackage _) error raised
      refine errorsAre_bind (errorsAre_rejectIf ⟨_, rfl⟩) fun _ _ => ?_
      split
      · exact errorsAre_error ⟨_, rfl⟩
      · split
        · refine errorsAre_bind (errorsAre_rejectIf ⟨_, rfl⟩) fun _ _ => ?_
          exact errorsAre_bind (errorsAre_rejectIf ⟨_, rfl⟩) fun _ _ => errorsAre_ok
        · exact errorsAre_error ⟨_, rfl⟩
  · left
    rw [Bool.not_eq_true] at fields
    rw [fields] at raised
    exact ⟨_, (Except.error.inj raised).symm⟩

/-- An entry without path parts leaks. -/
theorem readEntry_degenerate (expected : List ManifestEntry) {entry : Json} (bad : Degenerate entry) :
    readEntry expected entry = .error .index := by
  obtain ⟨fields, value, isPath, some_, posix, relative, none⟩ := bad
  unfold readEntry
  rw [rejectIf_pass (by simp [fields]), ok_bind, isPath, Option.getD_some,
    safeRelativePath_index some_ posix relative none]
  rfl

/-! ## All entries -/

/-- A fresh path keeps the paths different. -/
theorem distinct_snoc {expected : List ManifestEntry} (distinct : (expected.map (·.path)).Nodup) {e : ManifestEntry}
    (fresh : e.path ∉ expected.map (·.path)) : ((expected ++ [e]).map (·.path)).Nodup := by
  rw [List.map_append, List.nodup_append]
  refine ⟨distinct, List.nodup_singleton _, ?_⟩
  rintro path among _ single rfl
  obtain rfl := List.mem_singleton.mp single
  exact fresh among

/-- Entries are accepted exactly if they list distinct paths. -/
theorem readEntries_ok_iff {items : List Json} {expected all : List ManifestEntry}
    (distinct : (expected.map (·.path)).Nodup) :
    readEntries expected items = .ok all ↔
      ∃ entries, all = expected ++ entries ∧ List.Forall₂ EntryOf items entries ∧ (all.map (·.path)).Nodup := by
  induction items generalizing expected with
  | nil =>
    constructor
    · intro ok
      obtain rfl := Except.ok.inj ok
      exact ⟨[], (List.append_nil _).symm, .nil, distinct⟩
    · rintro ⟨_, rfl, ⟨⟩, -⟩
      rw [List.append_nil, readEntries]
  | cons entry rest ih =>
    constructor
    · intro ok
      obtain ⟨e, first, later⟩ := ok_bind_iff.mp ok
      obtain ⟨one, fresh⟩ := readEntry_ok_iff.mp first
      obtain ⟨entries, rfl, each, unique⟩ := (ih (distinct_snoc distinct fresh)).mp later
      exact ⟨e :: entries, List.append_assoc _ _ _, .cons one each, unique⟩
    · rintro ⟨_, rfl, each, unique⟩
      cases each with
      | @cons _ e _ entries one each =>
        have fresh : e.path ∉ expected.map (·.path) := by
          rw [List.map_append, List.nodup_append] at unique
          exact fun among => unique.2.2 _ among _ List.mem_cons_self rfl
        rw [readEntries, readEntry_ok_iff.mpr ⟨one, fresh⟩, ok_bind]
        exact (ih (distinct_snoc distinct fresh)).mpr ⟨entries, by simp, each, unique⟩

/-- Every error of the loop is a package error, but for a degenerate entry that it reaches. -/
theorem readEntries_error {items : List Json} {expected : List ManifestEntry} {error : VerifyError}
    (distinct : (expected.map (·.path)).Nodup) (raised : readEntries expected items = .error error) :
    error.IsPackage ∨ error = .index ∧ ∃ front entry back entries, items = front ++ entry :: back ∧
      List.Forall₂ EntryOf front entries ∧ ((expected ++ entries).map (·.path)).Nodup ∧ Degenerate entry := by
  induction items generalizing expected with
  | nil => cases raised
  | cons entry rest ih =>
    rw [readEntries] at raised
    cases first : readEntry expected entry with
    | error inner =>
      rw [first] at raised
      obtain rfl := Except.error.inj raised
      obtain package | ⟨rfl, bad⟩ := readEntry_error first
      · exact .inl package
      · exact .inr ⟨rfl, [], entry, rest, [], rfl, .nil, by simpa using distinct, bad⟩
    | ok e =>
      rw [first, ok_bind] at raised
      obtain ⟨one, fresh⟩ := readEntry_ok_iff.mp first
      obtain package | ⟨rfl, front, bad, back, entries, rfl, each, unique, degenerate⟩ :=
        ih (distinct_snoc distinct fresh) raised
      · exact .inl package
      · exact .inr ⟨rfl, entry :: front, bad, back, e :: entries, rfl, .cons one each, by simpa using unique,
          degenerate⟩

theorem readEntries_append (expected : List ManifestEntry) (front back : List Json) :
    readEntries expected (front ++ back) = readEntries expected front >>= fun all => readEntries all back := by
  induction front generalizing expected with
  | nil => rfl
  | cons entry front ih =>
    rw [List.cons_append, readEntries, readEntries]
    cases readEntry expected entry with
    | error e => rfl
    | ok e => rw [ok_bind, ok_bind, ih]

/-- The first degenerate entry leaks, whatever follows it. -/
theorem readEntries_degenerate {front back : List Json} {entry : Json} {entries : List ManifestEntry}
    (listing : Listing front entries) (bad : Degenerate entry) :
    readEntries [] (front ++ entry :: back) = .error .index := by
  have ok : readEntries [] front = .ok entries :=
    (readEntries_ok_iff (by simp)).mpr ⟨entries, rfl, listing.each, listing.distinct⟩
  rw [readEntries_append, ok, ok_bind, readEntries, readEntry_degenerate entries bad]
  rfl

/-! ## The members of the manifest -/

/-- A header is accepted exactly if it is one. -/
theorem readHeader_ok_iff {digits : DecimalDigits} {manifest : Json} {version : Text} {items : List Json} :
    readHeader digits manifest = .ok (version, items) ↔ Header digits manifest version items := by
  constructor
  · intro ok
    unfold readHeader at ok
    obtain ⟨_, fields, ok⟩ := ok_bind_iff.mp ok
    obtain ⟨_, schema, ok⟩ := ok_bind_iff.mp ok
    have fields := rejectIf_ok.mp fields
    have schema := rejectIf_ok.mp schema
    split at ok
    · next found isVersion =>
      obtain ⟨_, form, ok⟩ := ok_bind_iff.mp ok
      obtain ⟨_, scope, ok⟩ := ok_bind_iff.mp ok
      have form := rejectIf_ok.mp form
      have scope := rejectIf_ok.mp scope
      split at ok
      · next first rest isFiles =>
        obtain ⟨rfl, rfl⟩ := Prod.mk.inj (ok_pure_iff.mp ok)
        refine ⟨by simpa using fields, ?_, ?_, by simpa using form, ?_, ?_, List.cons_ne_nil _ _⟩
        · cases read : manifest.get? (text "schema_version") with
          | none => simp [read, equalsNat] at schema
          | some value => exact ⟨value, rfl, by simpa [read] using schema⟩
        · cases read : manifest.get? (text "package_version") with
          | none => simp [read] at isVersion
          | some value => simpa [read] using isVersion
        · cases read : manifest.get? (text "manifest_scope") with
          | none => simp [read] at scope
          | some value => simpa [read] using scope
        · cases read : manifest.get? (text "files") with
          | none => simp [read] at isFiles
          | some value => simpa [read] using isFiles
      · cases ok
    · cases ok
  · rintro ⟨fields, ⟨value, schema, one⟩, numbered, form, scope, files, nonempty⟩
    unfold readHeader
    rw [rejectIf_pass (by simp [fields]), ok_bind, schema, Option.getD_some, rejectIf_pass (by simp [one]), ok_bind,
      numbered, Option.getD_some]
    dsimp only
    rw [rejectIf_pass (by simp [form]), ok_bind, scope, rejectIf_pass (by simp), ok_bind, files, Option.getD_some]
    cases items with
    | nil => exact absurd rfl nonempty
    | cons first rest => rfl

/-- A header that is refused is a package error. -/
theorem readHeader_errors (digits : DecimalDigits) (manifest : Json) :
    ErrorsAre VerifyError.IsPackage (readHeader digits manifest) := by
  unfold readHeader
  refine errorsAre_bind (errorsAre_rejectIf ⟨_, rfl⟩) fun _ _ => ?_
  refine errorsAre_bind (errorsAre_rejectIf ⟨_, rfl⟩) fun _ _ => ?_
  split
  · refine errorsAre_bind (errorsAre_rejectIf ⟨_, rfl⟩) fun _ _ => ?_
    refine errorsAre_bind (errorsAre_rejectIf ⟨_, rfl⟩) fun _ _ => ?_
    split
    · exact errorsAre_ok
    · exact errorsAre_error ⟨_, rfl⟩
  · exact errorsAre_error ⟨_, rfl⟩

/-! ## The text of the manifest -/

/-- What is read of a tree whose manifest is text. -/
theorem readManifest_of_text {limit : Nat} {tree : Tree} {t : Text} (read : ManifestText tree t) :
    readManifest limit tree =
      match Json.loadsWithin limit t with
      | .ok manifest => .ok manifest
      | .error .value => .error (.package (.manifestInvalid .json))
      | .error .recursion => .error .recursion := by
  obtain ⟨bytes, stands, some_, small, decoded⟩ := read
  have size : ¬ (bytes.length = 0 ∨ maxManifestBytes < bytes.length) := by
    rw [List.length_eq_zero_iff, not_or, not_lt]
    exact ⟨some_, small⟩
  unfold readManifest
  cases loaded : Json.loadsWithin limit t with
  | ok manifest => simp only [stands, if_neg size, decoded, loaded]
  | error e => cases e <;> simp only [stands, if_neg size, decoded, loaded]

/-- Without a text the manifest is invalid. -/
theorem readManifest_or_text (limit : Nat) (tree : Tree) :
    (∃ problem, readManifest limit tree = .error (.package (.manifestInvalid problem))) ∨ ∃ t, ManifestText tree t := by
  unfold readManifest
  split
  · next bytes stands =>
    split
    · exact .inl ⟨_, rfl⟩
    · next size =>
      rw [not_or, List.length_eq_zero_iff, not_lt] at size
      split
      · exact .inl ⟨_, rfl⟩
      · next t decoded => exact .inr ⟨t, bytes, stands, size.1, size.2, decoded⟩
  · exact .inl ⟨_, rfl⟩

end EmsDnp3.Python.Package
