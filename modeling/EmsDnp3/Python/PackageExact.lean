import EmsDnp3.Python.PackageManifest

/-!
# Exactness of package verification

A tree is accepted exactly when its manifest is well-formed and lists its files, and everything else is a package
error, unless the manifest leaks.
-/

namespace EmsDnp3.Python.Package

open PosixPath (slash parts asPosix isAbsolute IsName)

/-! ## The files -/

namespace Tree
variable (tree : Tree)

/-- The files of a tree are its entries but the manifest. -/
theorem mem_files {path : List Text} {bytes : List Byte} :
    (path, bytes) ∈ tree.files ↔ (path, Content.file bytes) ∈ tree.entries ∧ path ≠ [manifestName] := by
  unfold files
  rw [List.mem_filterMap]
  constructor
  · rintro ⟨⟨where_, content⟩, mem, kept⟩
    cases content with
    | file stored =>
      dsimp only at kept
      split_ifs at kept with manifest
      obtain ⟨rfl, rfl⟩ := Prod.mk.inj (Option.some.inj kept)
      exact ⟨mem, manifest⟩
    | directory => cases kept
  · rintro ⟨mem, other⟩
    exact ⟨_, mem, if_neg other⟩

/-- A path holds one thing. -/
theorem entries_unique {path : List Text} {one two : Content} (first : (path, one) ∈ tree.entries)
    (second : (path, two) ∈ tree.entries) : one = two :=
  (Prod.mk.inj (List.inj_on_of_nodup_map tree.nodup first second rfl)).2

/-- An entry is found by its path. -/
theorem lookup_eq_some {path : List Text} {content : Content} (mem : (path, content) ∈ tree.entries) :
    tree.lookup path = some content := by
  unfold lookup
  cases found : tree.entries.find? fun entry => entry.1 = path with
  | none => exact absurd (List.find?_eq_none.mp found _ mem) (by simp)
  | some entry =>
    have here : entry.1 = path := by simpa using List.find?_some found
    obtain ⟨where_, other⟩ := entry
    subst here
    rw [Option.map_some, tree.entries_unique (List.mem_of_find?_eq_some found) mem]

/-- The text of a path tells the files of two trees apart. -/
theorem asPosix_inj {tree other : Tree} {one two : List Text × List Byte} (first : one ∈ tree.files)
    (second : two ∈ other.files) (same : asPosix one.1 = asPosix two.1) : one.1 = two.1 := by
  obtain ⟨some_, named⟩ := tree.names _ ((tree.mem_files).mp first).1
  obtain ⟨others, known⟩ := other.names _ ((other.mem_files).mp second).1
  exact PosixPath.asPosix_injective named known some_ others same

/-- A file is known by the text of its path. -/
theorem file_unique {one two : List Text × List Byte} (first : one ∈ tree.files) (second : two ∈ tree.files)
    (same : asPosix one.1 = asPosix two.1) : one = two := by
  have path := asPosix_inj first second same
  obtain ⟨p, bytes⟩ := one
  obtain ⟨_, others⟩ := two
  obtain rfl := path
  have content := tree.entries_unique ((tree.mem_files).mp first).1 ((tree.mem_files).mp second).1
  rw [Content.file.inj content]

/-- Different files have different names in the manifest. -/
theorem files_nodup : (tree.files.map fun file => asPosix file.1).Nodup := by
  have filtered : tree.files.Nodup := by
    unfold files
    apply List.Nodup.filterMap
    · rintro ⟨p, one⟩ ⟨q, two⟩ file first second
      cases one <;> cases two <;> simp only [Option.mem_def, reduceCtorEq] at first second
      split_ifs at first second
      rw [Option.some.injEq] at first second
      obtain ⟨rfl, rfl⟩ := Prod.mk.inj (first.trans second.symm)
      rfl
    · exact List.Nodup.of_map _ tree.nodup
  exact (List.nodup_map_iff_inj_on filtered).mpr fun one first two second same => tree.file_unique first second same

end Tree

/-! ## The comparison -/

/-- A file passes exactly if its entry has its size and digest. -/
theorem compareFile_ok_iff {sha256 : List Byte → Text} {expected : List ManifestEntry}
    {file : List Text × List Byte} : compareFile sha256 expected file = .ok () ↔
      ∀ entry ∈ expected.find? fun entry => entry.path = asPosix file.1, entry = listed sha256 file := by
  unfold compareFile
  split
  · next none => simp [none]
  · next entry found =>
    have path : entry.path = asPosix file.1 := by simpa using List.find?_some found
    rw [found]
    constructor
    · intro ok same mem
      obtain rfl := Option.some.inj mem
      obtain ⟨_, size, hash⟩ := ok_bind_iff.mp ok
      have size := rejectIf_ok.mp size
      have hash := rejectIf_ok.mp hash
      simp only [ne_eq, decide_not, Bool.not_eq_false', decide_eq_true_eq] at size hash
      cases entry
      rw [listed, ManifestEntry.mk.injEq]
      exact ⟨path, size.symm, hash.symm⟩
    · intro same
      obtain rfl := same entry rfl
      rw [rejectIf_pass (by simp [listed]), ok_bind, rejectIf_pass (by simp [listed])]

/-- Under different paths an entry is found by its path. -/
theorem find_path_iff {expected : List ManifestEntry} (distinct : (expected.map (·.path)).Nodup) {path : Text}
    {e : ManifestEntry} : expected.find? (fun entry => entry.path = path) = some e ↔ e ∈ expected ∧ e.path = path := by
  constructor
  · intro found
    exact ⟨List.mem_of_find?_eq_some found, by simpa using List.find?_some found⟩
  · rintro ⟨mem, rfl⟩
    cases found : expected.find? fun entry => entry.path = e.path with
    | none => exact absurd (List.find?_eq_none.mp found e mem) (by simp)
    | some other =>
      have path : other.path = e.path := by simpa using List.find?_some found
      rw [List.inj_on_of_nodup_map distinct (List.mem_of_find?_eq_some found) mem path]

/-- The comparison passes exactly when the entries are those of the files. -/
theorem compareFiles_ok_iff {sha256 : List Byte → Text} {tree : Tree} {expected : List ManifestEntry}
    (distinct : (expected.map (·.path)).Nodup) :
    compareFiles sha256 tree expected = .ok () ↔ ∀ e, e ∈ expected ↔ e ∈ tree.files.map (listed sha256) := by
  have sets : (sorted ((expected.map (·.path)).filter fun path => !(tree.files.map fun file => asPosix file.1).contains path)
      ≠ [] || sorted ((tree.files.map fun file => asPosix file.1).filter fun path =>
        !(expected.map (·.path)).contains path) ≠ []) = false ↔
      ∀ path, path ∈ expected.map (·.path) ↔ path ∈ tree.files.map fun file => asPosix file.1 := by
    simp only [Bool.or_eq_false_iff, decide_eq_false_iff_not, ne_eq, not_not, sorted_eq_nil, List.filter_eq_nil_iff,
      Bool.not_eq_true', Bool.not_eq_false, List.contains_iff_mem]
    exact ⟨fun both path => ⟨both.1 path, both.2 path⟩, fun same => ⟨fun p => (same p).mp, fun p => (same p).mpr⟩⟩
  unfold compareFiles
  rw [ok_bind_iff]
  simp only [rejectIf_ok, sets, forM_ok_iff, compareFile_ok_iff]
  constructor
  · rintro ⟨_, paths, each⟩ e
    constructor
    · intro mem
      obtain ⟨file, among, path⟩ := List.mem_map.mp ((paths e.path).mp (List.mem_map_of_mem mem))
      rw [each file among e ((find_path_iff distinct).mpr ⟨mem, path.symm⟩)]
      exact List.mem_map_of_mem among
    · intro mem
      obtain ⟨file, among, rfl⟩ := List.mem_map.mp mem
      obtain ⟨e, known, path⟩ := List.mem_map.mp ((paths (asPosix file.1)).mpr
        (List.mem_map_of_mem (f := fun file => asPosix file.1) among))
      rw [← each file among e ((find_path_iff distinct).mpr ⟨known, path⟩)]
      exact known
  · intro same
    refine ⟨(), ?_, ?_⟩
    · intro path
      simp only [List.mem_map]
      constructor
      · rintro ⟨e, mem, rfl⟩
        obtain ⟨file, among, rfl⟩ := List.mem_map.mp ((same e).mp mem)
        exact ⟨file, among, rfl⟩
      · rintro ⟨file, among, rfl⟩
        exact ⟨_, (same _).mpr (List.mem_map_of_mem among), rfl⟩
    · intro file among e found
      obtain ⟨mem, path⟩ := (find_path_iff distinct).mp found
      obtain ⟨other, present, rfl⟩ := List.mem_map.mp ((same e).mp mem)
      rw [tree.file_unique present among path]

/-- A file that does not pass is a package error. -/
theorem compareFiles_errors (sha256 : List Byte → Text) (tree : Tree) (expected : List ManifestEntry) :
    ErrorsAre VerifyError.IsPackage (compareFiles sha256 tree expected) := by
  unfold compareFiles
  refine errorsAre_bind (errorsAre_rejectIf ⟨_, rfl⟩) fun _ _ => ?_
  apply errorsAre_forM
  intro file _
  unfold compareFile
  split
  · exact errorsAre_ok
  · exact errorsAre_bind (errorsAre_rejectIf ⟨_, rfl⟩) fun _ _ => errorsAre_rejectIf ⟨_, rfl⟩

/-! ## Exactness -/

/-- Accepted exactly on a match, and otherwise a package error. -/
structure Exact (sha256 : List Byte → Text) (digits : DecimalDigits) (limit : Nat) (tree : Tree) : Prop where
  accepted : ∀ version count, verify sha256 digits limit tree = .ok (version, count) ↔
    Matches sha256 digits tree version ∧ count = tree.files.length
  rejected : ErrorsAre VerifyError.IsPackage (verify sha256 digits limit tree)

section
variable {sha256 : List Byte → Text} {digits : DecimalDigits} {limit : Nat} {tree : Tree}

/-- What is raised besides package errors comes from a leak. -/
theorem verify_error {error : VerifyError} (raised : verify sha256 digits limit tree = .error error) :
    error.IsPackage ∨ Leaks digits limit tree := by
  obtain ⟨problem, invalid⟩ | ⟨t, read⟩ := readManifest_or_text limit tree
  · unfold verify at raised
    rw [invalid] at raised
    exact .inl ⟨_, (Except.error.inj raised).symm⟩
  by_cases deep : Json.tooDeep limit t = true
  · exact .inr ⟨t, read, .inl deep⟩
  unfold verify at raised
  rw [readManifest_of_text read, Json.loadsWithin, if_neg deep] at raised
  cases loaded : Json.loads t with
  | none =>
    rw [loaded] at raised
    exact .inl ⟨_, (Except.error.inj raised).symm⟩
  | some manifest =>
    rw [loaded] at raised
    dsimp only at raised
    rw [ok_bind] at raised
    cases header : readHeader digits manifest with
    | error inner =>
      rw [header] at raised
      obtain rfl := Except.error.inj raised
      exact .inl (readHeader_errors digits manifest _ header)
    | ok found =>
      obtain ⟨version, items⟩ := found
      rw [header, ok_bind] at raised
      dsimp only at raised
      cases entries : readEntries [] items with
      | error inner =>
        rw [entries] at raised
        obtain rfl := Except.error.inj raised
        obtain package | ⟨rfl, front, entry, back, known, shape, each, distinct, bad⟩ :=
          readEntries_error (by simp) entries
        · exact .inl package
        · exact .inr ⟨t, read, .inr ⟨manifest, version, items, loaded, readHeader_ok_iff.mp header, front, entry,
            back, known, shape, ⟨each, distinct⟩, bad⟩⟩
      | ok expected =>
        rw [entries, ok_bind] at raised
        refine .inl ((errorsAre_bind (compareFiles_errors sha256 tree expected) fun _ _ => ?_) _ raised)
        exact errorsAre_ok

/-- A leak raises something else. -/
theorem verify_leak (leak : Leaks digits limit tree) :
    verify sha256 digits limit tree = .error .recursion ∨ verify sha256 digits limit tree = .error .index := by
  obtain ⟨t, read, cause⟩ := leak
  unfold verify
  rw [readManifest_of_text read, Json.loadsWithin]
  by_cases deep : Json.tooDeep limit t = true
  · rw [if_pos deep]
    exact .inl rfl
  · obtain tooDeep | ⟨manifest, version, items, loaded, header, front, entry, back, entries, rfl, listing, bad⟩ := cause
    · exact absurd tooDeep deep
    · rw [if_neg deep, loaded]
      dsimp only
      rw [ok_bind, readHeader_ok_iff.mpr header, ok_bind]
      dsimp only
      rw [readEntries_degenerate listing bad]
      exact .inr rfl

/-- What is verified matches. -/
theorem verify_ok {version : Text} {count : Nat} (ok : verify sha256 digits limit tree = .ok (version, count)) :
    Matches sha256 digits tree version ∧ count = tree.files.length := by
  unfold verify at ok
  obtain ⟨manifest, parsed, ok⟩ := ok_bind_iff.mp ok
  obtain ⟨⟨found, items⟩, header, ok⟩ := ok_bind_iff.mp ok
  obtain ⟨expected, entries, ok⟩ := ok_bind_iff.mp ok
  obtain ⟨_, compared, ok⟩ := ok_bind_iff.mp ok
  obtain ⟨rfl, rfl⟩ := Prod.mk.inj (ok_pure_iff.mp ok)
  obtain ⟨problem, invalid⟩ | ⟨t, read⟩ := readManifest_or_text limit tree
  · rw [invalid] at parsed
    cases parsed
  have loaded : Json.loads t = some manifest := by
    rw [readManifest_of_text read] at parsed
    split at parsed
    · next found within =>
      obtain rfl := Except.ok.inj parsed
      exact (Json.loadsWithin_ok_iff.mp within).1
    · cases parsed
    · cases parsed
  obtain ⟨_, rfl, each, distinct⟩ := (readEntries_ok_iff (by simp)).mp entries
  exact ⟨⟨t, manifest, items, expected, read, loaded, readHeader_ok_iff.mp header, ⟨each, distinct⟩,
    (compareFiles_ok_iff distinct).mp compared⟩, rfl⟩

/-- What matches is verified, unless an exception leaks. -/
theorem verify_matches {version : Text} (fits : Matches sha256 digits tree version)
    (safe : ¬ Leaks digits limit tree) : verify sha256 digits limit tree = .ok (version, tree.files.length) := by
  obtain ⟨t, manifest, items, entries, read, loaded, header, listing, same⟩ := fits
  have shallow : ¬ Json.tooDeep limit t = true := fun deep => safe ⟨t, read, .inl deep⟩
  have all : readEntries [] items = .ok entries :=
    (readEntries_ok_iff (by simp)).mpr ⟨entries, rfl, listing.each, listing.distinct⟩
  unfold verify
  rw [readManifest_of_text read, Json.loadsWithin, if_neg shallow, loaded]
  dsimp only
  rw [ok_bind, readHeader_ok_iff.mpr header, ok_bind]
  dsimp only
  rw [all, ok_bind, (compareFiles_ok_iff listing.distinct).mpr same, ok_bind]
  rfl

/-- Verification is exact as long as nothing leaks. -/
theorem exact_iff : Exact sha256 digits limit tree ↔ ¬ Leaks digits limit tree := by
  constructor
  · intro exact_ leak
    have raises : verify sha256 digits limit tree = .error .recursion ∨ verify sha256 digits limit tree = .error .index :=
      verify_leak leak
    obtain recursion | index := raises
    · obtain ⟨message, other⟩ := exact_.rejected _ recursion
      cases other
    · obtain ⟨message, other⟩ := exact_.rejected _ index
      cases other
  · intro safe
    refine ⟨fun version count => ⟨verify_ok, ?_⟩, fun error raised => ?_⟩
    · rintro ⟨fits, rfl⟩
      exact verify_matches fits safe
    · exact (verify_error raised).resolve_right safe

end

end EmsDnp3.Python.Package
