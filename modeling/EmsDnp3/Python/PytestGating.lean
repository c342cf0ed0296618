import EmsDnp3.Base.Except
import EmsDnp3.Python.CaptureModels
import EmsDnp3.Python.Texts

/-!
# Gating of collected tests

`pytest_collection_modifyitems` of `pytest_plugin.py`: which marks it adds to the collected items, and what it
refuses. Options and environment variables come as `config` holds them; the reasons of marks and errors keep their data.
-/

namespace EmsDnp3.Python.Plugin

/-! ## Items and configuration -/

/-- An argument of a marker. -/
inductive MarkerArg where
  | str (value : Text)
  | other
deriving DecidableEq

/-- A marker of a test. -/
structure Marker where
  name : Text
  args : List MarkerArg
deriving DecidableEq

/-- A collected test with its markers, the closest first. -/
structure Item where
  nodeid : Text
  markers : List Marker
deriving DecidableEq

/-- `item.get_closest_marker(name) is not None` -/
def Item.has (item : Item) (name : String) : Bool := item.markers.any fun marker => marker.name = text name

/-- `item.iter_markers(name)` -/
def Item.iterMarkers (item : Item) (name : String) : List Marker :=
  item.markers.filter fun marker => marker.name = text name

/-- The value of xdist's `numprocesses`. -/
inductive Workers where
  | count (n : Int)
  | word (value : Text)
deriving DecidableEq

/-- Options, environment variables and the maps that `pytest_configure` stores. -/
structure Config where
  cachedSimulator : Option Bool
  simulator : Bool
  simulatorVariable : Option Text
  simulatorIni : Bool
  unknownPolicy : Option Text
  unknownPolicyVariable : Option Text
  allowStateChanging : Bool
  allowStateChangingVariable : Option Text
  operatorId : Option Text
  operatorIdVariable : Option Text
  dutId : Option Text
  dutIdVariable : Option Text
  xdistWorkerVariable : Option Text
  numprocesses : Option Workers
  picsCapabilities : Option Statuses
  capabilityIds : Option (List Text)
  frameworkStatuses : Option Statuses

/-! ## Marks and errors -/

/-- Why a test is skipped. -/
inductive SkipReason where
  | locked
  | notReady (statuses : Statuses)
  | unknown (ids : List Text) (noPics : Bool)
  | notApplicable (ids : List Text)
  | unsupportedOnly
deriving DecidableEq

/-- A mark that is added to an item; `xfail` comes with `run=False`. -/
inductive Mark where
  | simulator
  | skip (reason : SkipReason)
  | xfail (reason : SkipReason)
deriving DecidableEq

/-- What is wrong with a test at collection. -/
inductive CollectionProblem where
  | notDut
  | identity
  | markerArguments
  | markerSyntax (id : Text)
  | markerUnknown (id : Text)
  | noMarker
  | unknown (ids : List Text) (noPics : Bool)
deriving DecidableEq

/-- Why the run is refused as a whole. -/
inductive UsageError where
  | unknownPolicy
  | simulator
  | xdist
  | collection (errors : List (Text × CollectionProblem))
deriving DecidableEq

/-! ## The settings -/

def trueValues : List Text := ["1", "true", "yes", "on"]
def falseValues : List Text := ["0", "false", "no", "off"]

/-- The statuses of a capability that may be tested. -/
def readyStatuses : List Text :=
  ["IMPLEMENTED_UNVERIFIED", "VERIFIED_UNIT", "VERIFIED_INTEROP", "VERIFIED_CONFORMANCE"]

/-- What becomes of a test whose capability is unknown. -/
inductive Policy where
  | xfail
  | skip
  | error

/-- `_unknown_policy` -/
def unknownPolicy (config : Config) : Except UsageError Policy :=
  match orElse config.unknownPolicy (some (config.unknownPolicyVariable.getD "xfail")) with
  | some configured =>
    if configured = text "xfail" then .ok .xfail
    else if configured = text "skip" then .ok .skip
    else if configured = text "error" then .ok .error
    else .error .unknownPolicy
  | none => .error .unknownPolicy

/-- `_simulator_enabled` -/
def simulatorEnabled (config : Config) : Except UsageError Bool :=
  match config.cachedSimulator with
  | some cached => .ok cached
  | none =>
    if config.simulator then .ok true
    else
      match config.simulatorVariable with
      | some raw =>
        let value := lower (strip raw)
        if (trueValues ++ falseValues).contains value then .ok (trueValues.contains value) else .error .simulator
      | none => .ok config.simulatorIni

/-- `_state_changing_authorized` -/
def stateChangingAuthorized (config : Config) : Except UsageError Bool := do
  let simulator ← simulatorEnabled config
  return simulator || config.allowStateChanging ||
    trueValues.contains (lower (strip (config.allowStateChangingVariable.getD [])))

/-- `_xdist_active` -/
def xdistActive (config : Config) : Bool :=
  config.xdistWorkerVariable.getD [] ≠ [] ||
    !([none, some (.count 0), some (.word "0")] : List (Option Workers)).contains config.numprocesses

/-- The settings that were resolved. -/
structure Setting where
  policy : Policy
  authorized : Bool
  simulator : Bool

/-- What is resolved before the loop. -/
def setting (config : Config) : Except UsageError Setting := do
  let policy ← unknownPolicy config
  let authorized ← stateChangingAuthorized config
  let simulator ← simulatorEnabled config
  return { policy, authorized, simulator }

/-- The operator: the option, else the variable. -/
def operatorId (config : Config) : Option Text := orElse config.operatorId config.operatorIdVariable
def dutId (config : Config) : Option Text := orElse config.dutId config.dutIdVariable

/-! ## One item -/

def isIdPoint (c : CodePoint) : Bool := isDigit c || (0x41 ≤ c.val && c.val ≤ 0x5A)
def isIdSeparator (c : CodePoint) : Bool := (text "._-").contains c

/-- `^[A-Z0-9]+(?:[._-][A-Z0-9]+)*$` -/
def isCapabilityId (id : Text) : Bool :=
  (id.splitOnP isIdSeparator).all fun part => part ≠ [] && part.all isIdPoint

/-- The loop over the capability markers. -/
def capabilityIds (known : Option (List Text)) : List Marker → Except CollectionProblem (List Text)
  | [] => .ok []
  | marker :: rest =>
    match marker.args with
    | [.str (c :: id)] => do
      rejectIf (!isCapabilityId (c :: id)) (.markerSyntax (c :: id))
      rejectIf (known.any fun ids => !ids.contains (c :: id)) (.markerUnknown (c :: id))
      return (c :: id) :: (← capabilityIds known rest)
    | _ => .error .markerArguments

/-- The status of a capability in the framework. -/
def frameworkStatus (config : Config) (id : Text) : Option Text :=
  config.frameworkStatuses.bind fun statuses => statuses.get? id

def frameworkReady (config : Config) (id : Text) : Bool := (frameworkStatus config id).any readyStatuses.contains

/-- The status of a capability in the device's PICS. -/
def picsStatus (config : Config) (id : Text) : Text :=
  (config.picsCapabilities.bind fun statuses => statuses.get? id).getD "UNKNOWN"

/-- What happens to a DUT item with these capabilities. -/
def gate (config : Config) (setting : Setting) (unsupported : Bool) (ids : List Text) :
    List Mark × Option CollectionProblem :=
  let notReady := sorted (ids.filter fun id => !frameworkReady config id).dedup
  if notReady ≠ [] then
    ([.skip (.notReady (notReady.map fun id => (id, (frameworkStatus config id).getD "MISSING")))], none)
  else
    let unknown := sorted (ids.filter fun id => picsStatus config id = text "UNKNOWN").dedup
    if unknown ≠ [] && !setting.simulator then
      let noPics := config.picsCapabilities.isNone
      match setting.policy with
      | .error => ([], some (.unknown unknown noPics))
      | .skip => ([.skip (.unknown unknown noPics)], none)
      | .xfail => ([.xfail (.unknown unknown noPics)], none)
    else
      let notSupported := sorted (ids.filter fun id => picsStatus config id = text "NOT_SUPPORTED").dedup
      if notSupported ≠ [] && !unsupported then ([.skip (.notApplicable notSupported)], none)
      else if unsupported && notSupported = [] then ([.skip .unsupportedOnly], none)
      else ([], none)

/-- The part of the loop body about DUT items. -/
def visitDut (config : Config) (setting : Setting) (item : Item) : List Mark × Option CollectionProblem :=
  match capabilityIds config.capabilityIds (item.iterMarkers "dnp3_capability") with
  | .error problem => ([], some problem)
  | .ok [] => ([], some .noMarker)
  | .ok (id :: ids) => gate config setting (item.has "dnp3_unsupported_behavior") (id :: ids)

/-- One turn of the loop: the marks that are added, and the error that is collected. -/
def visit (config : Config) (setting : Setting) (item : Item) : List Mark × Option CollectionProblem :=
  let simulator := if setting.simulator then [Mark.simulator] else []
  let stateChanging := item.has "dnp3_state_changing"
  let dut := item.has "dnp3_dut"
  if stateChanging && !dut then (simulator, some .notDut)
  else if stateChanging && setting.authorized && !setting.simulator &&
      ((operatorId config).getD [] = [] || (dutId config).getD [] = []) then (simulator, some .identity)
  else
    let locked := if stateChanging && !setting.authorized then [Mark.skip .locked] else []
    if !dut then (simulator ++ locked, none)
    else
      let (marks, problem) := visitDut config setting item
      (simulator ++ locked ++ marks, problem)

/-- `pytest_collection_modifyitems`: the items with the marks added to each. -/
def modifyItems (config : Config) (items : List Item) : Except UsageError (List (Item × List Mark)) := do
  let setting ← setting config
  rejectIf (setting.authorized && !setting.simulator && xdistActive config &&
    items.any fun item => item.has "dnp3_state_changing") .xdist
  let errors := items.filterMap fun item => (visit config setting item).2.map fun problem => (item.nodeid, problem)
  rejectIf (!errors.isEmpty) (.collection errors)
  return items.map fun item => (item, (visit config setting item).1)

/-! ## What runs -/

/-- A mark that keeps a test from running. -/
def Mark.blocks : Mark → Bool
  | .simulator => false
  | .skip _ => true
  | .xfail _ => true

def LeftRunnable (marks : List Mark) : Prop := ∀ mark ∈ marks, mark.blocks = false

/-- The capabilities of a DUT item allow it to run. -/
structure CapabilitiesAllow (config : Config) (simulator unsupported : Bool) (ids : List Text) : Prop where
  ready : ∀ id ∈ ids, ∃ statuses ∈ config.frameworkStatuses, ∃ status ∈ statuses.get? id, status ∈ readyStatuses
  answered : simulator = false → ∀ id ∈ ids, picsStatus config id ≠ text "UNKNOWN"
  supported : ((∀ id ∈ ids, picsStatus config id ≠ text "NOT_SUPPORTED") ∧ unsupported = false) ∨
    ((∃ id ∈ ids, picsStatus config id = text "NOT_SUPPORTED") ∧ unsupported = true)

/-- The capabilities that an item declares, all of them known. -/
structure Declares (config : Config) (item : Item) (ids : List Text) : Prop where
  each : List.Forall₂ (fun marker id => marker.args = [.str id]) (item.iterMarkers "dnp3_capability") ids
  nonempty : ids ≠ []
  known : ∀ known ∈ config.capabilityIds, ∀ id ∈ ids, id ∈ known

/-- A state change is unlocked. -/
structure Unlocked (config : Config) (setting : Setting) : Prop where
  authorized : setting.authorized = true
  operator : setting.simulator = false → (operatorId config).getD [] ≠ []
  dut : setting.simulator = false → (dutId config).getD [] ≠ []
  alone : setting.simulator = false → xdistActive config = false

/-- What may run: what touches no device, or a DUT test that its capabilities allow and, where it changes state,
that is unlocked. -/
def Runnable (config : Config) (setting : Setting) (item : Item) : Prop :=
  (item.has "dnp3_dut" = false ∧ item.has "dnp3_state_changing" = false) ∨
    (item.has "dnp3_dut" = true ∧
      (∃ ids, Declares config item ids ∧
        CapabilitiesAllow config setting.simulator (item.has "dnp3_unsupported_behavior") ids) ∧
      (item.has "dnp3_state_changing" = true → Unlocked config setting))

theorem leftRunnable_append {one two : List Mark} : LeftRunnable (one ++ two) ↔ LeftRunnable one ∧ LeftRunnable two :=
  List.forall_mem_append

theorem not_leftRunnable_skip (reason : SkipReason) : ¬ LeftRunnable [.skip reason] := by simp [LeftRunnable, Mark.blocks]

/-- An expected failure keeps a test from running: it is set not to run. -/
theorem not_leftRunnable_xfail (reason : SkipReason) : ¬ LeftRunnable [.xfail reason] := by
  simp [LeftRunnable, Mark.blocks]

theorem leftRunnable_nil : LeftRunnable [] := by simp [LeftRunnable]

/-- Nothing is listed where nothing is found. -/
theorem sorted_filter_eq_nil {ids : List Text} {p : Text → Bool} :
    sorted (ids.filter p).dedup = [] ↔ ∀ id ∈ ids, p id = false := by
  rw [sorted_eq_nil, List.dedup_eq_nil, List.filter_eq_nil_iff]
  simp only [Bool.not_eq_true]

/-- The framework is ready if the status is one of the ready ones. -/
theorem frameworkReady_iff {config : Config} {id : Text} : frameworkReady config id = true ↔
    ∃ statuses ∈ config.frameworkStatuses, ∃ status ∈ statuses.get? id, status ∈ readyStatuses := by
  unfold frameworkReady frameworkStatus
  cases config.frameworkStatuses with
  | none => simp
  | some statuses => cases found : statuses.get? id <;> simp [found]

theorem allReady_iff {config : Config} {ids : List Text} : (∀ id ∈ ids, (!frameworkReady config id) = false) ↔
    ∀ id ∈ ids, ∃ statuses ∈ config.frameworkStatuses, ∃ status ∈ statuses.get? id, status ∈ readyStatuses := by
  simp only [Bool.not_eq_false', frameworkReady_iff]

/-- Without an error, exactly an allowed item gets no mark. -/
theorem gate_runs {config : Config} {setting : Setting} {unsupported : Bool} {ids : List Text}
    (clean : (gate config setting unsupported ids).2 = none) :
    LeftRunnable (gate config setting unsupported ids).1 ↔ CapabilitiesAllow config setting.simulator unsupported ids := by
  unfold gate at clean ⊢
  dsimp only at clean ⊢
  by_cases ready : sorted (ids.filter fun id => !frameworkReady config id).dedup = []
  case neg =>
    rw [if_pos ready]
    refine iff_of_false (not_leftRunnable_skip _) fun allow => ready ?_
    rw [sorted_filter_eq_nil]
    exact allReady_iff.mpr allow.ready
  rw [if_neg (not_not.mpr ready)] at clean ⊢
  rw [sorted_filter_eq_nil, allReady_iff] at ready
  by_cases open_ : sorted (ids.filter fun id => picsStatus config id = text "UNKNOWN").dedup ≠ [] ∧
      setting.simulator = false
  · -- A capability without an answer, on a device: every policy keeps the test from running.
    have answered : ¬ CapabilitiesAllow config setting.simulator unsupported ids := by
      intro allow
      apply open_.1
      rw [sorted_filter_eq_nil]
      intro id mem
      exact decide_eq_false (allow.answered open_.2 id mem)
    rw [if_pos (by simpa using open_)] at clean ⊢
    split at clean
    · cases clean
    · exact iff_of_false (not_leftRunnable_skip _) answered
    · exact iff_of_false (not_leftRunnable_xfail _) answered
  rw [if_neg (by simpa using open_)] at clean ⊢
  have answered : setting.simulator = false → ∀ id ∈ ids, picsStatus config id ≠ text "UNKNOWN" := by
    intro device
    have none : sorted (ids.filter fun id => picsStatus config id = text "UNKNOWN").dedup = [] :=
      not_not.mp fun some_ => open_ ⟨some_, device⟩
    rw [sorted_filter_eq_nil] at none
    exact fun id mem => of_decide_eq_false (none id mem)
  have refused : sorted (ids.filter fun id => picsStatus config id = text "NOT_SUPPORTED").dedup = [] ↔
      ∀ id ∈ ids, picsStatus config id ≠ text "NOT_SUPPORTED" := by
    rw [sorted_filter_eq_nil]
    simp only [decide_eq_false_iff_not, ne_eq]
  by_cases none : sorted (ids.filter fun id => picsStatus config id = text "NOT_SUPPORTED").dedup = []
  · have never : ¬ ∃ id ∈ ids, picsStatus config id = text "NOT_SUPPORTED" := by
      rintro ⟨id, mem, bad⟩
      exact refused.mp none id mem bad
    rw [if_neg (by simp [none])]
    cases unsupported with
    | true =>
      rw [if_pos (by simp [none])]
      refine iff_of_false (not_leftRunnable_skip _) fun allow => ?_
      obtain ⟨-, impossible⟩ | ⟨found, -⟩ := allow.supported
      · cases impossible
      · exact never found
    | false =>
      rw [if_neg (by simp)]
      exact iff_of_true leftRunnable_nil ⟨ready, answered, .inl ⟨refused.mp none, rfl⟩⟩
  · have found : ∃ id ∈ ids, picsStatus config id = text "NOT_SUPPORTED" := by
      by_contra never
      simp only [not_exists, not_and] at never
      exact none (refused.mpr never)
    cases unsupported with
    | true =>
      rw [if_neg (by simp), if_neg (by simpa using none)]
      exact iff_of_true leftRunnable_nil ⟨ready, answered, .inr ⟨found, rfl⟩⟩
    | false =>
      rw [if_pos (by simpa using none)]
      refine iff_of_false (not_leftRunnable_skip _) fun allow => ?_
      obtain ⟨never, -⟩ | ⟨-, impossible⟩ := allow.supported
      · obtain ⟨id, mem, bad⟩ := found
        exact never id mem bad
      · cases impossible

/-- The markers that the loop accepts declare known capabilities. -/
theorem capabilityIds_ok {known : Option (List Text)} {markers : List Marker} {ids : List Text}
    (ok : capabilityIds known markers = .ok ids) :
    List.Forall₂ (fun marker id => marker.args = [.str id]) markers ids ∧ ∀ set ∈ known, ∀ id ∈ ids, id ∈ set := by
  induction markers generalizing ids with
  | nil =>
    obtain rfl := Except.ok.inj ok
    exact ⟨.nil, by simp⟩
  | cons marker rest ih =>
    unfold capabilityIds at ok
    split at ok
    · next c id args =>
      obtain ⟨_, -, ok⟩ := ok_bind_iff.mp ok
      obtain ⟨_, present, ok⟩ := ok_bind_iff.mp ok
      obtain ⟨later, more, ok⟩ := ok_bind_iff.mp ok
      obtain rfl := ok_pure_iff.mp ok
      obtain ⟨each, members⟩ := ih more
      have present := rejectIf_ok.mp present
      refine ⟨.cons args each, fun set among => List.forall_mem_cons.mpr ⟨?_, members set among⟩⟩
      obtain rfl := among
      simpa using present
    · cases ok

/-- Markers declare one list of capabilities. -/
theorem declared_unique {markers : List Marker} {ids others : List Text}
    (one : List.Forall₂ (fun marker id => marker.args = [.str id]) markers ids)
    (two : List.Forall₂ (fun marker id => marker.args = [.str id]) markers others) : ids = others := by
  induction one generalizing others with
  | nil =>
    cases two
    rfl
  | cons first _ ih =>
    cases two with
    | cons again rest =>
      have same : [MarkerArg.str _] = [.str _] := first.symm.trans again
      rw [List.cons.injEq, MarkerArg.str.injEq] at same
      rw [same.1, ih rest]

/-- Without an error, a DUT item gets no mark exactly when it declares capabilities that allow it. -/
theorem visitDut_runs {config : Config} {setting : Setting} {item : Item}
    (clean : (visitDut config setting item).2 = none) :
    LeftRunnable (visitDut config setting item).1 ↔ ∃ ids, Declares config item ids ∧
      CapabilitiesAllow config setting.simulator (item.has "dnp3_unsupported_behavior") ids := by
  unfold visitDut at clean ⊢
  split at clean
  · cases clean
  · cases clean
  · next id ids read =>
    obtain ⟨each, known⟩ := capabilityIds_ok read
    rw [gate_runs clean]
    constructor
    · exact fun allow => ⟨id :: ids, ⟨each, List.cons_ne_nil _ _, known⟩, allow⟩
    · rintro ⟨others, declared, allow⟩
      rw [declared_unique each declared.each]
      exact allow

theorem leftRunnable_simulator (simulator : Bool) : LeftRunnable (if simulator then [Mark.simulator] else []) := by
  cases simulator <;> simp [LeftRunnable, Mark.blocks]

theorem leftRunnable_locked (locked : Bool) : LeftRunnable (if locked then [Mark.skip .locked] else []) ↔ locked = false := by
  cases locked <;> simp [LeftRunnable, Mark.blocks]

/-- Without an error, exactly what may run gets no blocking mark. -/
theorem visit_runs {config : Config} {setting : Setting} {item : Item} (clean : (visit config setting item).2 = none)
    (alone : setting.authorized = true → setting.simulator = false → item.has "dnp3_state_changing" = true →
      xdistActive config = false) :
    LeftRunnable (visit config setting item).1 ↔ Runnable config setting item := by
  unfold visit at clean ⊢
  dsimp only at clean ⊢
  split at clean
  · cases clean
  next declared =>
  rw [if_neg declared]
  split at clean
  · cases clean
  next identified =>
  rw [if_neg identified]
  unfold Runnable
  cases dut : item.has "dnp3_dut" with
  | false =>
    have quiet : item.has "dnp3_state_changing" = false := by simpa [dut] using declared
    rw [if_pos Bool.not_false, leftRunnable_append]
    refine iff_of_true ⟨leftRunnable_simulator _, ?_⟩ (.inl ⟨rfl, quiet⟩)
    rw [leftRunnable_locked, quiet]
    rfl
  | true =>
    have unlocked : (item.has "dnp3_state_changing" && !setting.authorized) = false ↔
        (item.has "dnp3_state_changing" = true → Unlocked config setting) := by
      constructor
      · intro open_ changes
        have authorized : setting.authorized = true := by simpa [changes] using open_
        have ids : setting.simulator = false → (operatorId config).getD [] ≠ [] ∧ (dutId config).getD [] ≠ [] := by
          intro device
          simpa [changes, authorized, device] using identified
        exact ⟨authorized, fun device => (ids device).1, fun device => (ids device).2,
          fun device => alone authorized device changes⟩
      · intro allowed
        cases changes : item.has "dnp3_state_changing" with
        | false => rfl
        | true =>
          rw [(allowed changes).authorized]
          rfl
    rw [dut, if_neg (by simp)] at clean
    rw [if_neg (by simp), leftRunnable_append, leftRunnable_append, leftRunnable_locked, unlocked, visitDut_runs clean]
    constructor
    · rintro ⟨⟨-, allowed⟩, capable⟩
      exact .inr ⟨rfl, capable, allowed⟩
    · rintro (⟨impossible, -⟩ | ⟨-, capable, allowed⟩)
      · cases impossible
      · exact ⟨⟨leftRunnable_simulator _, allowed⟩, capable⟩

/-- Where the collection is not refused, exactly what may run is left runnable. -/
theorem gating {config : Config} {items : List Item} {out : List (Item × List Mark)}
    (accepted : modifyItems config items = .ok out) :
    ∃ setting, Plugin.setting config = .ok setting ∧ out.map (·.1) = items ∧
      ∀ entry ∈ out, LeftRunnable entry.2 ↔ Runnable config setting entry.1 := by
  unfold modifyItems at accepted
  obtain ⟨setting, resolved, accepted⟩ := ok_bind_iff.mp accepted
  obtain ⟨_, alone, accepted⟩ := ok_bind_iff.mp accepted
  obtain ⟨_, clean, accepted⟩ := ok_bind_iff.mp accepted
  obtain rfl := ok_pure_iff.mp accepted
  have alone := rejectIf_ok.mp alone
  have clean := rejectIf_ok.mp clean
  refine ⟨setting, resolved, ?_, ?_⟩
  · rw [List.map_map]
    exact List.map_id items
  · intro entry mem
    obtain ⟨item, among, rfl⟩ := List.mem_map.mp mem
    apply visit_runs
    · rw [Bool.not_eq_false', List.isEmpty_iff, List.filterMap_eq_nil_iff] at clean
      simpa using clean item among
    · intro authorized device changes
      have some_ : (items.any fun item => item.has "dnp3_state_changing") = true :=
        List.any_eq_true.mpr ⟨item, among, changes⟩
      simpa [authorized, device, some_] using alone

/-! ## A read test and a control test, without authorization -/

def capabilityMarker (id : String) : Marker := { name := "dnp3_capability", args := [.str id] }

/-- A laboratory that has not authorized control. -/
def labConfig : Config where
  cachedSimulator := some false
  simulator := false
  simulatorVariable := none
  simulatorIni := false
  unknownPolicy := none
  unknownPolicyVariable := none
  allowStateChanging := false
  allowStateChangingVariable := none
  operatorId := none
  operatorIdVariable := none
  dutId := none
  dutIdVariable := none
  xdistWorkerVariable := none
  numprocesses := none
  picsCapabilities := some [("APP.FC.01.READ", "SUPPORTED"), ("APP.FC.03.SELECT", "SUPPORTED")]
  capabilityIds := some ["APP.FC.01.READ", "APP.FC.03.SELECT"]
  frameworkStatuses := some [("APP.FC.01.READ", "VERIFIED_UNIT"), ("APP.FC.03.SELECT", "VERIFIED_UNIT")]

def readTest : Item where
  nodeid := "test_supported"
  markers := [capabilityMarker "APP.FC.01.READ", { name := "dnp3_dut", args := [] }]

def controlTest : Item where
  nodeid := "test_control"
  markers := [{ name := "dnp3_state_changing", args := [] }, capabilityMarker "APP.FC.03.SELECT",
    { name := "dnp3_dut", args := [] }]

/-- The read runs and the control does not. -/
theorem gating_lab : ∃ setting, Plugin.setting labConfig = .ok setting ∧ Runnable labConfig setting readTest ∧
    ¬ Runnable labConfig setting controlTest := by
  have accepted : modifyItems labConfig [readTest, controlTest] =
      .ok [(readTest, []), (controlTest, [.skip .locked])] := by decide +kernel
  obtain ⟨setting, resolved, -, each⟩ := gating accepted
  refine ⟨setting, resolved, ?_, ?_⟩
  · exact (each _ List.mem_cons_self).mp leftRunnable_nil
  · intro run
    exact not_leftRunnable_skip _ ((each _ (List.mem_cons_of_mem _ List.mem_cons_self)).mpr run)

end EmsDnp3.Python.Plugin
