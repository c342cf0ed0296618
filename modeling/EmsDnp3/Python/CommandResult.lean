import EmsDnp3.Python.Loading
import EmsDnp3.Python.PackageVerify
import EmsDnp3.Python.Requests

/-!
# Command results in the client

`CommandPointResult.from_mapping`, `CommandTaskResult.from_mapping` and `_validate_command_correlation`: what the client
checks before it believes the host that a batch of commands was executed. A parsed result carries what was checked.
-/

namespace EmsDnp3.Python

/-- `_COMMAND_STATUS_2012_NAMES` -/
def commandStatusNames2012 : List (Nat × String) :=
  [(0, "SUCCESS"), (1, "TIMEOUT"), (2, "NO_SELECT"), (3, "FORMAT_ERROR"), (4, "NOT_SUPPORTED"), (5, "ALREADY_ACTIVE"),
   (6, "HARDWARE_ERROR"), (7, "LOCAL"), (8, "TOO_MANY_OBJS"), (9, "NOT_AUTHORIZED"), (10, "AUTOMATION_INHIBIT"),
   (11, "PROCESSING_LIMITED"), (12, "OUT_OF_RANGE"), (126, "NON_PARTICIPATING"), (127, "UNDEFINED")]

/-- `_command_status_name_2012` -/
def commandStatusName2012 (raw : Nat) : String :=
  ((commandStatusNames2012.find? fun entry => entry.1 = raw).map (·.2)).getD "RESERVED"

/-- `bool(value)`; a literal within half of the smallest double of zero is read as zero. -/
def truthy : Json → Bool
  | .null => false
  | .bool b => b
  | .int n => n ≠ 0
  | .float x => 1 / 2 ^ 1075 < x.magnitude
  | .str s => s ≠ []
  | .arr items => items ≠ []
  | .obj members => members ≠ []

/-- `value == n` for an `int` that is not negative. -/
def equalsIndex (value : Json) (n : Nat) : Bool :=
  match value with
  | .int m => m = n
  | .bool b => b.toNat = n
  | .float x => (n = 0 || !x.negative) && binary64 x.magnitude = n
  | _ => false

/-! ## Fields -/

/-- `required.difference(value)`, sorted, and the error when something is missing. -/
def requireFields (value : Json) (required : List String) (what : String) : Except PyError Unit :=
  let missing := (required.filter fun (key : String) => (value.get? (text key)).isNone).mergeSort fun a b => a ≤ b
  rejectIf (missing ≠ []) (.value (what ++ " is missing fields: " ++ ", ".intercalate missing))

/-- `type(value[key]) is int` and not negative. -/
def naturalField (value : Json) (key message : String) : Except PyError Nat :=
  match natural? (field value key) with
  | some n => .ok n
  | none => .error (.value message)

/-- A string that is not empty. -/
def nameField (value : Json) (key message : String) : Except PyError Text :=
  match field value key with
  | .str s => if s = [] then .error (.value message) else .ok s
  | _ => .error (.value message)

/-- A field that must be a boolean. -/
def booleanField (value : Json) (key message : String) : Except PyError Bool :=
  match field value key with
  | .bool b => .ok b
  | _ => .error (.value message)

/-- A field that must be an object. -/
def objectField (value : Json) (key message : String) : Except PyError Json :=
  match field value key with
  | .obj members => .ok (.obj members)
  | _ => .error (.value message)

def arrayField (value : Json) (key message : String) : Except PyError (List Json) :=
  match field value key with
  | .arr items => .ok items
  | _ => .error (.value message)

/-- `tuple(parse(item) for item in items if isinstance(item, Mapping))`, and the check that nothing was left out. -/
def parseObjects {α : Type} (parse : Json → Except PyError α) (items : List Json) (message : String) :
    Except PyError (List α) := do
  let parsed ← (items.filter Json.isObj).mapM parse
  rejectIf (parsed.length ≠ items.length) (.value message)
  return parsed

/-! ## A point -/

/-- `CommandPointResult`. -/
structure CommandPointResult where
  headerIndex : Nat
  index : Nat
  state : Text
  stateRaw : Nat
  status : Text
  statusRaw : Nat
  requested : Option Json
  raw : Json
  statusOk : statusRaw ≤ 127 ∧ status = text (commandStatusName2012 statusRaw)

namespace CommandPointResult

def requiredFields : List String :=
  ["header_index", "index", "state", "state_raw", "status", "status_raw", "status_edition", "status_backend",
   "status_reserved_2012", "status_wire_raw_unambiguous", "requested"]

section
variable (point : CommandPointResult)

/-- Whether the status code is reserved in the edition. -/
def statusReserved2012 : Bool := 13 ≤ point.statusRaw && point.statusRaw ≤ 125

/-- Whether the code is the one on the wire; 127 stands for any unknown one. -/
def statusWireRawUnambiguous : Bool :=
  truthy ((point.raw.get? "status_wire_raw_unambiguous").getD (.bool (point.statusRaw ≠ 127)))

/-- Whether the point has to be read back by hand. -/
def requiresManualReadback : Bool :=
  point.statusRaw = 1 || point.statusReserved2012 || !point.statusWireRawUnambiguous

end

/-- `requested` is an object or `null`. -/
def requestedOf (value : Json) : Except PyError (Option Json) :=
  match field value "requested" with
  | .null => .ok none
  | .obj members => .ok (some (.obj members))
  | _ => .error (.value "command point requested field must be an object or null")

/-- `CommandPointResult.from_mapping`. -/
def fromMapping (value : Json) : Except PyError CommandPointResult := do
  requireFields value requiredFields "command point result"
  let headerIndex ← naturalField value "header_index" "command point field 'header_index' must be non-negative"
  let index ← naturalField value "index" "command point field 'index' must be non-negative"
  let stateRaw ← naturalField value "state_raw" "command point field 'state_raw' must be non-negative"
  let statusRaw ← naturalField value "status_raw" "command point field 'status_raw' must be non-negative"
  let state ← nameField value "state" "command point field 'state' must be a string"
  let status ← nameField value "status" "command point field 'status' must be a string"
  let ⟨range⟩ ← require (statusRaw ≤ 127) (PyError.value "command point status_raw must be between 0 and 127")
  let ⟨named⟩ ← require (status = text (commandStatusName2012 statusRaw)) (PyError.value
    s!"command point status does not match IEEE 1815-2012: raw={statusRaw}, expected='{commandStatusName2012 statusRaw}'")
  rejectIf (field value "status_edition" ≠ .str "IEEE1815-2012")
    (.value "command point status_edition must be IEEE1815-2012")
  let _ ← nameField value "status_backend" "command point status_backend must be a string"
  rejectIf (field value "status_reserved_2012" ≠ .bool (13 ≤ statusRaw && statusRaw ≤ 125))
    (.value "command point status_reserved_2012 is inconsistent with status_raw")
  rejectIf (field value "status_wire_raw_unambiguous" ≠ .bool (statusRaw ≠ 127))
    (.value "command point status_wire_raw_unambiguous is inconsistent with the OpenDNP3 3.1.2 decoded status")
  let requested ← requestedOf value
  return { headerIndex, index, state, stateRaw, status, statusRaw, requested, raw := value, statusOk := ⟨range, named⟩ }

/-- `(point.header_index, point.index)` -/
def key (point : CommandPointResult) : Nat × Nat := (point.headerIndex, point.index)

def succeeded (point : CommandPointResult) : Bool := point.state = text "SUCCESS" && point.statusRaw = 0

end CommandPointResult

/-! ## A task -/

/-- `CommandTaskResult`. -/
structure CommandTaskResult where
  taskId : Nat
  mode : Text
  taskStatus : Text
  taskStarted : Bool
  taskDestroyed : Bool
  allSuccess : Bool
  executionUncertain : Bool
  pointResults : List CommandPointResult
  summary : Json
  timings : Json
  raw : Json
  positive : 0 < taskId
  distinct : (pointResults.map (·.key)).Nodup

namespace CommandTaskResult

/-- The fields a command result must have. -/
def requiredFields : List String :=
  ["task_id", "mode", "response_mode", "task_status", "task_started", "task_destroyed", "all_success",
   "execution_uncertain", "point_results", "summary", "timings"]

def summaryCount (summary : Json) (key : String) : Except PyError Nat :=
  naturalField summary key s!"command summary field '{key}' must be non-negative"

/-- `CommandTaskResult.from_mapping`. -/
def fromMapping (value : Json) : Except PyError CommandTaskResult := do
  requireFields value requiredFields "command result"
  let taskId ← naturalField value "task_id" "command task_id must be a positive integer"
  let ⟨positive⟩ ← require (0 < taskId) (PyError.value "command task_id must be a positive integer")
  let mode ← nameField value "mode" "command field 'mode' must be a string"
  let taskStatus ← nameField value "task_status" "command field 'task_status' must be a string"
  rejectIf (field value "response_mode" ≠ .str "response") (.value "command response_mode must be 'response'")
  let taskStarted ← booleanField value "task_started" "command field 'task_started' must be boolean"
  let taskDestroyed ← booleanField value "task_destroyed" "command field 'task_destroyed' must be boolean"
  let allSuccess ← booleanField value "all_success" "command field 'all_success' must be boolean"
  let executionUncertain ← booleanField value "execution_uncertain" "command field 'execution_uncertain' must be boolean"
  let items ← arrayField value "point_results" "command point_results must be an array"
  let summary ← objectField value "summary" "command summary must be an object"
  let timings ← objectField value "timings" "command timings must be an object"
  let points ← parseObjects CommandPointResult.fromMapping items "command result contains a non-object point result"
  let requestedPoints ← summaryCount summary "requested_points"
  let returnedPoints ← summaryCount summary "returned_points"
  let successfulPoints ← summaryCount summary "successful_points"
  let failedPoints ← summaryCount summary "failed_points"
  rejectIf (returnedPoints ≠ points.length) (.value "command summary returned_points does not match point_results")
  rejectIf (successfulPoints + failedPoints ≠ returnedPoints)
    (.value "command summary successful/failed counts are inconsistent")
  let successful := points.countP (·.succeeded)
  rejectIf (successful ≠ successfulPoints) (.value "command summary successful_points does not match point_results")
  let expectedAllSuccess : Bool :=
    taskStatus = text "SUCCESS" && taskStarted && requestedPoints = points.length && successful = points.length
  rejectIf (allSuccess ≠ expectedAllSuccess) (.value "command all_success is inconsistent with task/point results")
  let ⟨distinct⟩ ← require ((points.map (·.key)).Nodup)
    (PyError.value "command result repeats a header/index point result")
  return { taskId, mode, taskStatus, taskStarted, taskDestroyed, allSuccess, executionUncertain, pointResults := points,
           summary, timings, raw := value, positive, distinct }

end CommandTaskResult

/-! ## The correlation with the request -/

/-- `request_ordinal`, a position in the batch. -/
def ordinalOf (requested : Json) (size : Nat) : Except PyError Nat :=
  match natural? (field requested "request_ordinal") with
  | some ordinal => if ordinal < size then .ok ordinal else .error (.value "command request_ordinal is invalid")
  | none => .error (.value "command request_ordinal is invalid")

/-- One turn of the loop: the ordinal that the point was sent under. -/
def correlatePoint (commands : List Command) (seen : List Nat) (point : CommandPointResult) : Except PyError Nat :=
  match point.requested with
  | none => .error (.value "command point result is missing request correlation")
  | some requested => do
    let ordinal ← ordinalOf requested commands.length
    rejectIf (seen.contains ordinal) (.value "command result repeats a request_ordinal")
    match commands[ordinal]? with
    | none => throw (.value "command request_ordinal is invalid")
    | some expected =>
      rejectIf (point.index ≠ expected.identity.2 || field requested "type" ≠ .str expected.identity.1
          || !equalsIndex (field requested "index") expected.identity.2)
        (.value "command result request correlation does not match the submitted type/index")
      return ordinal

/-- The loop: `seen_ordinals` at its end, the last one first. -/
def correlatePoints (commands : List Command) : List Nat → List CommandPointResult → Except PyError (List Nat)
  | seen, [] => .ok seen
  | seen, point :: rest => do
    let ordinal ← correlatePoint commands seen point
    correlatePoints commands (ordinal :: seen) rest

/-- `_validate_command_correlation`; the mode that came is not quoted in the error. -/
def validateCommandCorrelation (operation : Text) (commands : List Command) (result : CommandTaskResult) :
    Except PyError Unit := do
  rejectIf (result.mode ≠ operation) (.value "command result mode does not match")
  rejectIf (result.pointResults.length ≠ commands.length)
    (.value "command point_results count does not match the submitted batch")
  let seen ← correlatePoints commands [] result.pointResults
  rejectIf (!(List.range commands.length).all seen.contains)
    (.value "command result does not correlate every submitted point")

/-! ## What is accepted -/

namespace CommandPointResult

variable {value : Json} {point : CommandPointResult}

/-- A point that was read keeps the mapping it was read from. -/
theorem fromMapping_ok (parsed : fromMapping value = .ok point) :
    point.raw = value ∧ field value "status_wire_raw_unambiguous" = .bool (point.statusRaw ≠ 127) := by
  obtain ⟨-, -, parsed⟩ := ok_bind_iff.mp parsed
  obtain ⟨headerIndex, -, parsed⟩ := ok_bind_iff.mp parsed
  obtain ⟨index, -, parsed⟩ := ok_bind_iff.mp parsed
  obtain ⟨stateRaw, -, parsed⟩ := ok_bind_iff.mp parsed
  obtain ⟨statusRaw, -, parsed⟩ := ok_bind_iff.mp parsed
  obtain ⟨state, -, parsed⟩ := ok_bind_iff.mp parsed
  obtain ⟨status, -, parsed⟩ := ok_bind_iff.mp parsed
  obtain ⟨⟨range⟩, -, parsed⟩ := ok_bind_iff.mp parsed
  obtain ⟨⟨named⟩, -, parsed⟩ := ok_bind_iff.mp parsed
  obtain ⟨-, -, parsed⟩ := ok_bind_iff.mp parsed
  obtain ⟨-, -, parsed⟩ := ok_bind_iff.mp parsed
  obtain ⟨-, -, parsed⟩ := ok_bind_iff.mp parsed
  obtain ⟨_, unambiguous, parsed⟩ := ok_bind_iff.mp parsed
  obtain ⟨requested, -, parsed⟩ := ok_bind_iff.mp parsed
  obtain rfl := ok_pure_iff.mp parsed
  exact ⟨rfl, by simpa using rejectIf_ok.mp unambiguous⟩

/-- The decision of a parsed point rests on its status alone. -/
theorem requiresManualReadback_iff (parsed : fromMapping value = .ok point) :
    point.requiresManualReadback = true ↔ point.statusRaw = 1 ∨ 13 ≤ point.statusRaw ∧ point.statusRaw ≠ 126 := by
  obtain ⟨raw, unambiguous⟩ := fromMapping_ok parsed
  have bound := point.statusOk.1
  have wire : point.statusWireRawUnambiguous = decide (point.statusRaw ≠ 127) := by
    unfold statusWireRawUnambiguous
    rw [raw]
    unfold field at unambiguous
    cases here : value.get? (text "status_wire_raw_unambiguous") with
    | none => rfl
    | some v =>
      rw [here, Option.getD_some] at unambiguous
      rw [Option.getD_some, unambiguous]
      rfl
  unfold requiresManualReadback statusReserved2012
  rw [wire]
  simp
  omega

end CommandPointResult

/-- The point answers the command sent at a position of the batch. -/
structure Answers (commands : List Command) (ordinal : Nat) (point : CommandPointResult) : Prop where
  intro ::
  requested : ∃ requested, point.requested = some requested ∧ field requested "request_ordinal" = .nat ordinal ∧
    ∃ command, commands[ordinal]? = some command ∧ point.index = command.identity.2 ∧
      field requested "type" = .str command.identity.1 ∧ equalsIndex (field requested "index") command.identity.2 = true

/-- A natural number is an integer that is not negative. -/
theorem natural?_eq_some {value : Json} {n : Nat} : natural? value = some n ↔ value = .nat n := by
  unfold natural? Json.nat
  split
  · next m =>
    by_cases positive : 0 ≤ m
    · rw [if_pos positive]
      simp only [Option.some.injEq, Json.int.injEq]
      omega
    · rw [if_neg positive]
      simp only [Json.int.injEq, reduceCtorEq, false_iff]
      omega
  · next other => exact iff_of_false nofun fun same => other n same

/-- The ordinal names a command of the batch. -/
theorem ordinalOf_ok {requested : Json} {size ordinal : Nat} :
    ordinalOf requested size = .ok ordinal ↔ field requested "request_ordinal" = .nat ordinal ∧ ordinal < size := by
  unfold ordinalOf
  rw [← natural?_eq_some]
  cases natural? (field requested "request_ordinal") with
  | none => simp
  | some n =>
    by_cases inside : n < size
    · simp only [if_pos inside, Except.ok.injEq, Option.some.injEq]
      exact ⟨fun same => ⟨same, same ▸ inside⟩, And.left⟩
    · simp only [if_neg inside, reduceCtorEq, Option.some.injEq, false_iff]
      rintro ⟨rfl, below⟩
      exact inside below

/-- A point is accepted exactly if it answers a command not answered before. -/
theorem correlatePoint_ok {commands : List Command} {seen : List Nat} {point : CommandPointResult} {ordinal : Nat} :
    correlatePoint commands seen point = .ok ordinal ↔ ordinal ∉ seen ∧ Answers commands ordinal point := by
  unfold correlatePoint
  cases here : point.requested with
  | none =>
    refine iff_of_false nofun ?_
    rintro ⟨-, ⟨_, some_, -⟩⟩
    rw [here] at some_
    cases some_
  | some requested =>
    dsimp only
    constructor
    · intro ran
      obtain ⟨n, found, ran⟩ := ok_bind_iff.mp ran
      obtain ⟨_, fresh, ran⟩ := ok_bind_iff.mp ran
      obtain ⟨named, inside⟩ := ordinalOf_ok.mp found
      cases sent : commands[n]? with
      | none =>
        rw [List.getElem?_eq_none_iff] at sent
        omega
      | some command =>
        rw [sent] at ran
        obtain ⟨_, same, ran⟩ := ok_bind_iff.mp ran
        obtain rfl := ok_pure_iff.mp ran
        have same := rejectIf_ok.mp same
        simp only [Bool.or_eq_false_iff, decide_eq_false_iff_not, not_not, Bool.not_eq_false'] at same
        exact ⟨by simpa using rejectIf_ok.mp fresh, ⟨requested, here, named, command, sent, same.1.1, same.1.2, same.2⟩⟩
    · rintro ⟨fresh, ⟨_, some_, named, command, sent, index, type, indexed⟩⟩
      obtain rfl := Option.some.inj (here.symm.trans some_)
      have inside : ordinal < commands.length := (List.getElem?_eq_some_iff.mp sent).1
      refine ok_bind_iff.mpr ⟨ordinal, ordinalOf_ok.mpr ⟨named, inside⟩, ok_bind_iff.mpr ⟨(), ?_, ?_⟩⟩
      · exact rejectIf_pass (by simpa using fresh)
      · rw [sent]
        refine ok_bind_iff.mpr ⟨(), rejectIf_pass ?_, rfl⟩
        simp [index, type, indexed]

/-- The loop passes with the ordinals of the points, each for the first time. -/
theorem correlatePoints_ok {commands : List Command} {seen all : List Nat} {points : List CommandPointResult} :
    correlatePoints commands seen points = .ok all ↔
      ∃ ordinals, all = ordinals.reverse ++ seen ∧ (∀ n ∈ ordinals, n ∉ seen) ∧ ordinals.Nodup ∧
        List.Forall₂ (Answers commands) ordinals points := by
  induction points generalizing seen with
  | nil =>
    simp only [correlatePoints, Except.ok.injEq, List.forall₂_nil_right_iff]
    constructor
    · rintro rfl
      exact ⟨[], rfl, by simp, List.nodup_nil, rfl⟩
    · rintro ⟨_, rfl, -, -, rfl⟩
      rfl
  | cons point rest ih =>
    simp only [correlatePoints, ok_bind_iff, correlatePoint_ok, ih]
    constructor
    · rintro ⟨n, ⟨fresh, first⟩, ordinals, rfl, apart, nodup, more⟩
      refine ⟨n :: ordinals, by simp, ?_, ?_, .cons first more⟩
      · intro m member
        rcases List.mem_cons.mp member with rfl | later
        · exact fresh
        · exact fun old => apart m later (List.mem_cons_of_mem _ old)
      · exact List.nodup_cons.mpr ⟨fun again => apart n again List.mem_cons_self, nodup⟩
    · rintro ⟨_, rfl, apart, nodup, all⟩
      cases all with
      | @cons n _ ordinals _ first more =>
        obtain ⟨once, nodup⟩ := List.nodup_cons.mp nodup
        refine ⟨n, ⟨apart n List.mem_cons_self, first⟩, ordinals, by simp, ?_, nodup, more⟩
        intro m member old
        rcases List.mem_cons.mp old with rfl | old
        · exact once member
        · exact apart m (List.mem_cons_of_mem _ member) old

/-- The points of a result are the answers to the commands of a batch, in some order: one to each. -/
structure AnswersBatch (operation : Text) (commands : List Command) (result : CommandTaskResult) : Prop where
  mode : result.mode = operation
  points : ∃ ordinals : List Nat, ordinals.Perm (List.range commands.length) ∧
    List.Forall₂ (Answers commands) ordinals result.pointResults

/-- A result is accepted exactly if it answers the batch. -/
theorem validateCommandCorrelation_ok {operation : Text} {commands : List Command} {result : CommandTaskResult} :
    validateCommandCorrelation operation commands result = .ok () ↔ AnswersBatch operation commands result := by
  unfold validateCommandCorrelation
  constructor
  · intro ran
    obtain ⟨_, mode, ran⟩ := ok_bind_iff.mp ran
    obtain ⟨_, count, ran⟩ := ok_bind_iff.mp ran
    obtain ⟨all, correlated, covers⟩ := ok_bind_iff.mp ran
    obtain ⟨ordinals, rfl, -, nodup, answers⟩ := correlatePoints_ok.mp correlated
    refine ⟨by simpa using rejectIf_ok.mp mode, ordinals, ?_, answers⟩
    have covers := rejectIf_ok.mp covers
    have length : ordinals.length = commands.length :=
      answers.length_eq.trans (by simpa using rejectIf_ok.mp count)
    have inside : List.range commands.length ⊆ ordinals := by
      intro n member
      simp only [Bool.not_eq_false', List.all_eq_true, List.append_nil, List.contains_eq_mem, List.mem_reverse,
        decide_eq_true_eq] at covers
      exact covers n member
    have part := (List.nodup_range).subperm inside
    exact (part.perm_of_length_le (by simp [length])).symm
  · rintro ⟨mode, ordinals, perm, answers⟩
    have length : result.pointResults.length = commands.length := by
      rw [← answers.length_eq, perm.length_eq, List.length_range]
    refine ok_bind_iff.mpr ⟨(), rejectIf_pass (by simpa using mode), ok_bind_iff.mpr ⟨(), ?_, ?_⟩⟩
    · exact rejectIf_pass (by simpa using length)
    · refine ok_bind_iff.mpr ⟨_, correlatePoints_ok.mpr ⟨ordinals, rfl, by simp, ?_, answers⟩, rejectIf_pass ?_⟩
      · exact perm.nodup_iff.mpr List.nodup_range
      · simp [perm.mem_iff]

end EmsDnp3.Python
