import EmsDnp3.Native.CommandOperation

/-!
# Requests and results

Every command of an accepted batch has a key of its own: the position of its header in the command
set, and its index. A list of results is counted against these keys; the counts tell whether it
is the requested points in some order.
-/

namespace EmsDnp3.Native

/-! ## Keys -/

/-- The header index stands above sixteen bits of point index. -/
theorem pointKey_eq (headerIndex : Nat) (index : PointIndex) : pointKey headerIndex index = headerIndex * 65536 + index.val := by
  unfold pointKey
  rw [← Nat.shiftLeft_add_eq_or_of_lt (i := 16) index.isLt, Nat.shiftLeft_eq]

theorem pointKey_inj {h h' : Nat} {i i' : PointIndex} : pointKey h i = pointKey h' i' ↔ h = h' ∧ i = i' := by
  have bound := i.isLt
  have bound' := i'.isLt
  rw [pointKey_eq, pointKey_eq, Fin.ext_iff]
  omega

section Build

variable (format : NumberFormat) (commands : List CommandPoint)

/-- The kinds that have commands, in the order of the headers. -/
def presentKinds (kinds : List CommandKind) : List CommandKind := kinds.filter fun kind => grouped commands kind ≠ []

/-- The position of the header of a kind. -/
def headerOf (kind : CommandKind) : Nat := (presentKinds commands commandKinds).idxOf kind

/-- The key that a command's result comes back under. -/
def requestKey (command : CommandPoint) : Nat := pointKey (headerOf commands command.kind) command.index

def headerFor (kind : CommandKind) : CommandHeader :=
  ⟨kind, (grouped commands kind).map fun entry => (entry.1.object, entry.1.index)⟩

/-- What is noted for a command: its key and the request. -/
def requestEntry (entry : CommandPoint × Nat) : Nat × Json :=
  (requestKey commands entry.1, requestedPointJson format entry.1 entry.2)

/-- What is built after the kinds `kinds`. -/
def builtAfter (kinds : List CommandKind) : BuiltCommands where
  commandSet := (presentKinds commands kinds).map (headerFor commands)
  metadata := (kinds.flatMap (grouped commands)).map (requestEntry format commands)
  headerIndex := (presentKinds commands kinds).length

variable {format commands}

/-- The index of a header is the number of kinds present before it. -/
theorem headerOf_eq {before after : List CommandKind} {kind : CommandKind} (split : before ++ kind :: after = commandKinds)
    (present : grouped commands kind ≠ []) : headerOf commands kind = (presentKinds commands before).length := by
  have nodup : (before ++ kind :: after).Nodup := by
    rw [split]
    decide
  have fresh : kind ∉ presentKinds commands before := by
    intro member
    have inside := (List.mem_filter.mp member).1
    exact (List.nodup_append.mp nodup).2.2 kind inside kind List.mem_cons_self rfl
  have parts : presentKinds commands commandKinds =
      presentKinds commands before ++ kind :: presentKinds commands after := by
    simp [← split, presentKinds, present]
  rw [headerOf, parts, List.idxOf_append_of_notMem fresh, List.idxOf_cons_self, Nat.add_zero]

/-- New keys go to the end, in order. -/
theorem emplace_all {metadata entries : CommandMetadata} (nodup : ((metadata ++ entries).map (·.1)).Nodup) :
    entries.foldl CommandMetadata.emplace metadata = metadata ++ entries := by
  induction entries generalizing metadata with
  | nil => simp
  | cons entry rest ih =>
    have fresh : metadata.any (·.1 = entry.1) = false := by
      apply List.any_eq_false.mpr
      intro other member same
      have apart := (List.nodup_append.mp (by simpa using nodup)).2.2
      exact apart other.1 (List.mem_map_of_mem member) entry.1 (by simp) (by simpa using same)
    rw [List.foldl_cons, CommandMetadata.emplace, fresh, if_neg Bool.false_ne_true, ih (by simpa using nodup)]
    simp

/-- Adding the header of the next kind. -/
theorem addHeader_builtAfter {before after : List CommandKind} {kind : CommandKind}
    (split : before ++ kind :: after = commandKinds)
    (nodup : (((before ++ [kind]).flatMap (grouped commands)).map fun e => requestKey commands e.1).Nodup) :
    (builtAfter format commands before).addHeader format commands kind = builtAfter format commands (before ++ [kind]) := by
  unfold BuiltCommands.addHeader
  dsimp only
  by_cases empty : grouped commands kind = []
  · rw [if_pos empty]
    simp [builtAfter, presentKinds, empty]
  · rw [if_neg empty]
    have position := headerOf_eq split empty
    have kinds : ∀ e ∈ grouped commands kind, e.1.kind = kind := fun e member => by simpa using (List.mem_filter.mp member).2
    have entries : (grouped commands kind).foldl (fun metadata entry => metadata.emplace
          (pointKey (builtAfter format commands before).headerIndex entry.1.index, requestedPointJson format entry.1 entry.2))
          (builtAfter format commands before).metadata =
        ((grouped commands kind).map (requestEntry format commands)).foldl CommandMetadata.emplace
          (builtAfter format commands before).metadata := by
      rw [List.foldl_map]
      refine List.foldl_ext _ _ _ fun metadata entry member => ?_
      simp only [requestEntry, requestKey, kinds entry member, position, builtAfter]
    have distinct : (((builtAfter format commands before).metadata ++
        (grouped commands kind).map (requestEntry format commands)).map (·.1)).Nodup := by
      simpa [builtAfter, requestEntry, Function.comp_def] using nodup
    rw [entries, emplace_all distinct]
    simp [builtAfter, presentKinds, headerFor, empty]

theorem grouped_perm : (commandKinds.flatMap (grouped commands)).Perm commands.zipIdx := by
  refine flatMap_filter_perm (fun entry : CommandPoint × Nat => entry.1.kind) (by decide) fun entry _ => ?_
  cases entry.1.kind <;> decide

theorem mem_grouped {command : CommandPoint} {ordinal : Nat} (here : commands[ordinal]? = some command) :
    (command, ordinal) ∈ grouped commands command.kind := by
  apply List.mem_filter.mpr
  exact ⟨List.mem_zipIdx_iff_getElem?.mpr here, by simp⟩

/-- A kind with a command is present. -/
theorem mem_presentKinds {command : CommandPoint} (inside : command ∈ commands) :
    command.kind ∈ presentKinds commands commandKinds := by
  obtain ⟨ordinal, here⟩ := List.mem_iff_getElem?.mp inside
  have some_ : grouped commands command.kind ≠ [] := List.ne_nil_of_mem (mem_grouped here)
  apply List.mem_filter.mpr
  refine ⟨?_, by simpa using some_⟩
  cases command.kind <;> decide

/-- Two commands with one key are of one kind and index. -/
theorem requestKey_inj {a b : CommandPoint} (inside : a ∈ commands) (same : requestKey commands a = requestKey commands b) :
    (a.kind, a.index) = (b.kind, b.index) := by
  obtain ⟨header, index⟩ := pointKey_inj.mp same
  exact Prod.ext ((List.idxOf_inj (mem_presentKinds inside)).mp header) index

/-- The keys of a batch are distinct. -/
theorem requestKeys_nodup (distinct : (commands.map fun c => (c.kind, c.index)).Nodup) :
    (commands.map (requestKey commands)).Nodup := by
  have pairs := (List.nodup_map_iff_inj_on (List.Nodup.of_map _ distinct)).mp distinct
  refine (List.nodup_map_iff_inj_on (List.Nodup.of_map _ distinct)).mpr fun a insideA b insideB same => ?_
  exact pairs a insideA b insideB (requestKey_inj insideA same)

/-- The keys of the entries are those of the commands. -/
theorem entryKeys_perm :
    ((commandKinds.flatMap (grouped commands)).map fun e => requestKey commands e.1).Perm
      (commands.map (requestKey commands)) := by
  have mapped := (@grouped_perm commands).map fun e => requestKey commands e.1
  have fst : (commands.zipIdx.map fun e => requestKey commands e.1) = commands.map (requestKey commands) := by
    rw [← Function.comp_def (requestKey commands) Prod.fst, ← List.map_map, List.zipIdx_map_fst]
  rwa [fst] at mapped

/-- Adding the headers of all kinds. -/
theorem foldl_addHeader (distinct : (commands.map fun c => (c.kind, c.index)).Nodup) {before after : List CommandKind}
    (split : before ++ after = commandKinds) :
    after.foldl (BuiltCommands.addHeader format commands) (builtAfter format commands before) =
      builtAfter format commands commandKinds := by
  induction after generalizing before with
  | nil =>
    rw [List.append_nil] at split
    rw [List.foldl_nil, split]
  | cons kind rest ih =>
    have again : (before ++ [kind]) ++ rest = commandKinds := by simpa using split
    have whole : ((commandKinds.flatMap (grouped commands)).map fun e => requestKey commands e.1).Nodup :=
      entryKeys_perm.nodup_iff.mpr (requestKeys_nodup distinct)
    rw [← again, List.flatMap_append, List.map_append] at whole
    rw [List.foldl_cons, addHeader_builtAfter split (List.nodup_append.mp whole).1, ih again]

end Build

/-- Each request has an entry, under its own key, of the header its object is in; the entry names its ordinal. -/
structure Correlates (format : NumberFormat) (commands : List CommandPoint) (built : BuiltCommands) : Prop where
  expected : built.expectedPoints = commands.length
  entries : built.metadata.length = commands.length
  keys : (built.metadata.map (·.1)).Perm (commands.map (requestKey commands))
  distinct : (commands.map (requestKey commands)).Nodup
  headers : ∀ command ∈ commands, ∃ header, built.commandSet[headerOf commands command.kind]? = some header ∧
    header.kind = command.kind ∧ (command.object, command.index) ∈ header.items
  requested : ∀ ordinal command, commands[ordinal]? = some command →
    built.metadata.find (requestKey commands command) = some (requestedPointJson format command ordinal)
  ordinals : ∀ ordinal command, commands[ordinal]? = some command → ∃ entry,
    built.metadata.find (requestKey commands command) = some entry ∧ entry.get? (text "request_ordinal") = some (.nat ordinal)

/-- Where keys are not repeated every entry is found. -/
theorem CommandMetadata.find_of_mem {metadata : CommandMetadata} (nodup : (metadata.map (·.1)).Nodup) {entry : Nat × Json}
    (member : entry ∈ metadata) : metadata.find entry.1 = some entry.2 := by
  unfold CommandMetadata.find
  have found : metadata.find? (fun e => e.1 = entry.1) = some entry := by
    obtain ⟨found, here⟩ : ∃ found, metadata.find? (fun e => e.1 = entry.1) = some found := by
      apply Option.isSome_iff_exists.mp
      exact List.find?_isSome.mpr ⟨entry, member, by simp⟩
    have same : found.1 = entry.1 := by simpa using List.find?_some here
    rw [here, List.inj_on_of_nodup_map nodup (List.mem_of_find?_eq_some here) member same]
  rw [found]
  rfl

/-- What `build_command_set` notes correlates the request. -/
theorem buildCommandSet_correlates (format : NumberFormat) {config : CommandConfig} (valid : config.Valid) :
    Correlates format config.commands (buildCommandSet format config) := by
  have built : buildCommandSet format config =
      { builtAfter format config.commands commandKinds with expectedPoints := config.commands.length } := by
    unfold buildCommandSet
    rw [← foldl_addHeader valid.distinct (List.nil_append commandKinds)]
    rfl
  rw [built]
  have distinct := requestKeys_nodup valid.distinct
  have keys : ((builtAfter format config.commands commandKinds).metadata.map (·.1)).Perm
      (config.commands.map (requestKey config.commands)) := by
    simpa [builtAfter, requestEntry, Function.comp_def] using @entryKeys_perm config.commands
  have requested : ∀ ordinal command, config.commands[ordinal]? = some command →
      (builtAfter format config.commands commandKinds).metadata.find (requestKey config.commands command) =
        some (requestedPointJson format command ordinal) := by
    intro ordinal command here
    have member : (requestKey config.commands command, requestedPointJson format command ordinal) ∈
        (builtAfter format config.commands commandKinds).metadata := by
      apply List.mem_map.mpr
      refine ⟨(command, ordinal), List.mem_flatMap.mpr ⟨command.kind, ?_, mem_grouped here⟩, rfl⟩
      cases command.kind <;> decide
    exact CommandMetadata.find_of_mem (keys.nodup_iff.mpr distinct) member
  refine ⟨rfl, ?_, keys, distinct, fun command inside => ?_, requested, fun ordinal command here => ?_⟩
  · simpa using keys.length_eq
  · have present := mem_presentKinds inside
    have bound := List.idxOf_lt_length_of_mem present
    obtain ⟨ordinal, here⟩ := List.mem_iff_getElem?.mp inside
    refine ⟨headerFor config.commands command.kind, ?_, rfl, ?_⟩
    · simp only [builtAfter, List.getElem?_map]
      rw [headerOf, List.getElem?_eq_getElem bound, List.getElem_idxOf]
      rfl
    · exact List.mem_map_of_mem (f := fun entry : CommandPoint × Nat => (entry.1.object, entry.1.index)) (mem_grouped here)
  · exact ⟨_, requested ordinal command here, by simp [requestedPointJson]⟩

/-! ## Results -/

/-- What is counted of the results `points`. -/
structure CommandTally.Of (metadata : CommandMetadata) (points : List CommandPointResult) (t : CommandTally) : Prop where
  serialized : t.serialized = points.map (commandPointJson metadata)
  success : t.successCount = points.countP (·.succeeded)
  readback : t.manualReadbackCount = points.countP fun p => commandStatusRequiresManualReadback2012 p.status.raw
  returned : ∀ key, key ∈ t.returnedKeys ↔ key ∈ points.map (·.key) ∧ (metadata.find key).isSome = true
  correlation : ∃ duplicates unmatched, t.correlationErrorCount = duplicates + unmatched ∧
    Tallied (fun key => (metadata.find key).isSome = true) (points.map (·.key)) t.returnedKeys.length duplicates unmatched

/-- The tally of one result more. -/
theorem CommandTally.Of.add {metadata : CommandMetadata} {points : List CommandPointResult} {t : CommandTally}
    (of : t.Of metadata points) (point : CommandPointResult) : (t.add metadata point).Of metadata (points ++ [point]) := by
  obtain ⟨duplicates, unmatched, errors, tallied⟩ := of.correlation
  have success : (t.add metadata point).successCount = (points ++ [point]).countP (·.succeeded) := by
    simp only [CommandTally.add, List.countP_append, List.countP_singleton, of.success]
    split <;> simp_all
  have readback : (t.add metadata point).manualReadbackCount =
      (points ++ [point]).countP fun p => commandStatusRequiresManualReadback2012 p.status.raw := by
    simp only [CommandTally.add, List.countP_append, List.countP_singleton, of.readback]
    split <;> simp_all
  refine ⟨by simp [CommandTally.add, of.serialized], success, readback, ?_, ?_⟩
  · intro key
    simp only [CommandTally.add]
    cases requested : (metadata.find point.key).isSome with
    | false =>
      simp only [Option.isNone_iff_eq_none, Option.isSome_eq_false_iff] at requested
      by_cases same : key = point.key
      · simp [same, of.returned, requested]
      · simp [same, of.returned, requested]
    | true =>
      have known : (metadata.find point.key).isNone = false := by simpa using requested
      by_cases same : key = point.key
      · subst same
        by_cases again : point.key ∈ t.returnedKeys <;> simp [known, again, requested]
      · by_cases again : point.key ∈ t.returnedKeys <;> simp [known, again, same, of.returned]
  · simp only [CommandTally.add, List.map_append, List.map_singleton]
    cases requested : (metadata.find point.key).isSome with
    | false =>
      have foreign : (metadata.find point.key).isNone = true := by simpa using requested
      refine ⟨duplicates, unmatched + 1, by simp [foreign, errors, Nat.add_assoc], ?_⟩
      simpa [foreign] using tallied.concat_unmatched (a := point.key) (by simp [requested])
    | true =>
      have known : (metadata.find point.key).isNone = false := by simpa using requested
      by_cases again : point.key ∈ t.returnedKeys
      · refine ⟨duplicates + 1, unmatched, by simp [known, again, errors]; omega, ?_⟩
        simpa [known, again] using tallied.concat_duplicate requested ((of.returned _).mp again).1
      · refine ⟨duplicates, unmatched, by simp [known, again, errors], ?_⟩
        have fresh : point.key ∉ points.map (·.key) := fun member => again ((of.returned _).mpr ⟨member, requested⟩)
        simpa [known, again] using tallied.concat_unique requested fresh

theorem CommandTally.of_all (metadata : CommandMetadata) (points : List CommandPointResult) :
    (points.foldl (CommandTally.add metadata) {}).Of metadata points := by
  induction points using List.reverseRecOn with
  | nil => exact ⟨rfl, rfl, rfl, by simp, 0, 0, rfl, Tallied.nil⟩
  | append_singleton points point ih =>
    rw [List.foldl_append]
    exact ih.add point

/-- The results are the requested points, in some order, exactly when as many came as were
requested and none was in error. -/
theorem CommandTally.Of.perm_iff {metadata : CommandMetadata} {points : List CommandPointResult} {t : CommandTally}
    (of : t.Of metadata points) {keys : List Nat} (nodup : keys.Nodup)
    (requested : ∀ key, key ∈ keys ↔ (metadata.find key).isSome = true) :
    (points.length = keys.length ∧ t.correlationErrorCount = 0) ↔ (points.map (·.key)).Perm keys := by
  obtain ⟨duplicates, unmatched, errors, tallied⟩ := of.correlation
  rw [← tallied.perm_iff nodup requested, errors, List.length_map]

/-- A key is known exactly if it is a command's. -/
theorem Correlates.mem_keys {format : NumberFormat} {commands : List CommandPoint} {built : BuiltCommands}
    (c : Correlates format commands built) (key : Nat) :
    key ∈ commands.map (requestKey commands) ↔ (built.metadata.find key).isSome = true := by
  rw [← c.keys.mem_iff]
  simp [CommandMetadata.find]

end EmsDnp3.Native
