import EmsDnp3.Python.PerformanceRequests
import EmsDnp3.Python.PerformanceSuite

/-!
# The verdict of the performance suite

What a passing report says about the iterations behind it. Each measurement that returns adds one expected population
to the totals, and a run that fails anywhere leaves a failure in its report.
-/

namespace EmsDnp3.Python

open Effect

/-! ## Populations -/

/-- Equal dictionaries have the same keys. -/
theorem Population.keys_of_equals {actual : Population} {expected : Counts} (same : actual.equals expected = true)
    {key : Text} : key ∈ expected.items.map (·.1) ↔ key ∈ actual.items.map (·.1) := by
  unfold equals at same
  rw [Bool.and_eq_true, decide_eq_true_eq, List.all_eq_true] at same
  have subset : actual.items.map (·.1) ⊆ expected.items.map (·.1) := by
    intro key mem
    obtain ⟨item, inside, rfl⟩ := List.mem_map.mp mem
    obtain ⟨n, found, -⟩ := (Option.any_eq_true _ _).mp (same.2 item inside)
    exact List.mem_map_of_mem (Dict.mem_of_get? found)
  have fits : (expected.items.map (·.1)).length ≤ (actual.items.map (·.1)).length := by
    rw [List.length_map, List.length_map, same.1]
  exact ((actual.distinct.subperm subset).perm_of_length_le fits).mem_iff.symm

/-- What the items of an equal dictionary are. -/
theorem Population.item_of_equals {actual : Population} {expected : Counts} (same : actual.equals expected = true)
    {key : Text} {value : Json} (mem : (key, value) ∈ actual.items) :
    ∃ n, expected.items.get? key = some n ∧ truncated value = some (n : Int) := by
  unfold equals at same
  rw [Bool.and_eq_true, List.all_eq_true] at same
  obtain ⟨n, found, equal⟩ := (Option.any_eq_true _ _).mp (same.2 _ mem)
  exact ⟨n, found, truncated_of_equalsCount equal⟩

/-- A loop that adds items with distinct keys. -/
theorem accumulate_items {items : Dict Text Json} (distinct : (items.map (·.1)).Nodup) {count : Text → Nat}
    (counts : ∀ key value, (key, value) ∈ items → truncated value = some (count key : Int))
    {target result : Dict Text Int}
    (ok : items.foldlM (fun target item =>
      match truncated item.2 with
      | some n => Except.ok (target.set item.1 ((target.get? item.1).getD 0 + n))
      | none => Except.error (Fault.exception "count is no number")) target = .ok result) (key : Text) :
    result.get? key =
      if key ∈ items.map (·.1) then some ((target.get? key).getD 0 + (count key : Int)) else target.get? key := by
  induction items generalizing target with
  | nil =>
    rw [List.foldlM_nil] at ok
    rw [← ok_pure_iff.mp ok]
    rfl
  | cons item rest ih =>
    obtain ⟨k, value⟩ := item
    rw [List.map_cons, List.nodup_cons] at distinct
    rw [List.foldlM_cons] at ok
    dsimp only at ok
    rw [counts k value List.mem_cons_self] at ok
    have more := ih distinct.2 (fun key value mem => counts key value (List.mem_cons_of_mem _ mem)) ok
    rw [more, Dict.get?_set, List.map_cons]
    by_cases here : k = key
    · subst here
      simp [distinct.1]
    · have other : key ∈ k :: rest.map (·.1) ↔ key ∈ rest.map (·.1) := by simp [Ne.symm here]
      simp only [other, if_neg here]

/-- An expected population is added. -/
theorem accumulate_ok {actual : Population} {expected : Counts} (same : actual.equals expected = true)
    {target result : Dict Text Int} (ok : accumulate target (some actual) = .ok result) (key : Text) :
    result.get? key = match expected.items.get? key with
      | some n => some ((target.get? key).getD 0 + n)
      | none => target.get? key := by
  have counts : ∀ key value, (key, value) ∈ actual.items →
      truncated value = some (((expected.items.get? key).getD 0 : Nat) : Int) := by
    intro key value mem
    obtain ⟨n, found, cut⟩ := Population.item_of_equals same mem
    rw [found]
    exact cut
  rw [accumulate_items actual.distinct counts ok key]
  cases found : expected.items.get? key with
  | none =>
    have absent := Dict.get?_eq_none_iff.mp found
    rw [Population.keys_of_equals same] at absent
    exact if_neg absent
  | some n =>
    have present := List.mem_map_of_mem (f := (·.1)) (Dict.mem_of_get? found)
    rw [Population.keys_of_equals same] at present
    exact if_pos present

/-- So many times a population. -/
def scaled (times : Nat) (expected : Counts) (key : Text) : Option Int :=
  if times = 0 then none else (expected.items.get? key).map fun n => ((times * n : Nat) : Int)

/-- One iteration more adds the expected population once more. -/
theorem scaled_succ {times : Nat} {expected : Counts} {target : Dict Text Int} {key : Text}
    (before : target.get? key = scaled times expected key) :
    (match expected.items.get? key with
      | some n => some ((target.get? key).getD 0 + (n : Int))
      | none => target.get? key) = scaled (times + 1) expected key := by
  unfold scaled at before ⊢
  rw [if_neg (Nat.succ_ne_zero _)]
  cases found : expected.items.get? key with
  | none => simp [before, found]
  | some n =>
    rw [before, found, Option.map_some, Option.map_some]
    dsimp only
    by_cases none_ : times = 0
    · simp [none_]
    · rw [if_neg none_, Option.getD_some, Nat.succ_mul, Nat.cast_add]

/-! ## Measurements -/

/-- The local variables after so many measurements. -/
structure Measured.After (s : ReadPerformanceScenario) (times : Nat) (m : Measured) : Prop where
  completed : m.completedIterations = times
  received : m.receivedObjects = times * s.expectedObjectsPerIteration.val
  byKind : ∀ key, m.receivedByKind.get? key = scaled times s.expectedByKind key
  byGroupVariation : ∀ key, m.receivedByGroupVariation.get? key = scaled times s.expectedByGroupVariation key
  latencies : m.latencies.length = times

theorem Measured.after_zero (s : ReadPerformanceScenario) : Measured.After s 0 {} :=
  ⟨rfl, (Nat.zero_mul _).symm, fun _ => rfl, fun _ => rfl, rfl⟩

section
variable {σ : Type} {client : SuiteClient σ} {s : ReadPerformanceScenario}

/-- One measurement that returns. -/
theorem measurement_ok {w w' : σ × Measured} {run : ReadTaskResult × Option CaptureResult}
    (ok : measurement client s w = .ok run w') :
    s.Fulfilled run ∧ w'.2.captureResults = w.2.captureResults ++ run.2.toList ∧
      ∀ times, w.2.After s times → w'.2.After s (times + 1) := by
  unfold measurement at ok
  obtain ⟨before, w₁, sampled, ok⟩ := bind_ok_iff.mp ok
  obtain ⟨result, w₂, iterated, ok⟩ := bind_ok_iff.mp ok
  obtain ⟨after, w₃, sampled', ok⟩ := bind_ok_iff.mp ok
  obtain ⟨_, w₄, samples, ok⟩ := bind_ok_iff.mp ok
  obtain ⟨percentage, w₅, cpu, ok⟩ := bind_ok_iff.mp ok
  obtain ⟨_, w₆, percentages, ok⟩ := bind_ok_iff.mp ok
  obtain ⟨duration, w₇, timed, ok⟩ := bind_ok_iff.mp ok
  obtain ⟨_, w₈, totals, ok⟩ := bind_ok_iff.mp ok
  obtain ⟨m, w₉, locals, ok⟩ := bind_ok_iff.mp ok
  obtain ⟨kinds, w₁₀, ofKinds, ok⟩ := bind_ok_iff.mp ok
  obtain ⟨_, w₁₁, kindsSet, ok⟩ := bind_ok_iff.mp ok
  obtain ⟨groups, w₁₂, ofGroups, ok⟩ := bind_ok_iff.mp ok
  obtain ⟨_, w₁₃, groupsSet, ok⟩ := bind_ok_iff.mp ok
  obtain ⟨_, w₁₄, last, ok⟩ := bind_ok_iff.mp ok
  obtain ⟨rfl, rfl⟩ := pure_ok_iff.mp ok
  have fulfilled := executeIteration_ok (onFst_ok_iff.mp iterated).1
  -- what the assignments make of the local variables
  have start : w.2 = w₃.2 :=
    (onFst_ok_iff.mp sampled).2.trans ((onFst_ok_iff.mp iterated).2.trans (onFst_ok_iff.mp sampled').2)
  obtain ⟨-, same₅⟩ := outcome_ok_iff.mp cpu
  obtain ⟨-, same₇⟩ := outcome_ok_iff.mp timed
  obtain ⟨same₉, same₉'⟩ := snd_ok_iff.mp locals
  obtain ⟨kindsOf, same₁₀⟩ := outcome_ok_iff.mp ofKinds
  obtain ⟨groupsOf, same₁₂⟩ := outcome_ok_iff.mp ofGroups
  have before_ : m = (w.2.addSamples before after |>.addPercentage percentage |>.addResult duration result.1) := by
    rw [← same₉, ← (onSnd_ok_iff.mp totals).2, ← same₇, ← (onSnd_ok_iff.mp percentages).2, ← same₅,
      ← (onSnd_ok_iff.mp samples).2, ← start]
  have after_ : w₁₄.2 = (m.setByKind kinds |>.setByGroupVariation groups |>.complete result.2) := by
    rw [← (onSnd_ok_iff.mp last).2, ← (onSnd_ok_iff.mp groupsSet).2, ← same₁₂, ← (onSnd_ok_iff.mp kindsSet).2,
      ← same₁₀, ← same₉', same₉]
  obtain ⟨actualKinds, someKinds, sameKinds⟩ := fulfilled.byKind
  obtain ⟨actualGroups, someGroups, sameGroups⟩ := fulfilled.byGroupVariation
  rw [someKinds] at kindsOf
  rw [someGroups] at groupsOf
  rw [after_]
  subst before_
  refine ⟨fulfilled, rfl, fun times m => ?_⟩
  constructor
  · exact congrArg (· + 1) m.completed
  · change w.2.receivedObjects + result.1.receivedTotal = _
    rw [m.received, fulfilled.received, Nat.succ_mul]
  · intro key
    exact (accumulate_ok sameKinds kindsOf key).trans (scaled_succ (m.byKind key))
  · intro key
    exact (accumulate_ok sameGroups groupsOf key).trans (scaled_succ (m.byGroupVariation key))
  · change (w.2.latencies ++ [duration]).length = _
    rw [List.length_append, m.latencies, List.length_singleton]

/-- Measurements that return, one after the other. -/
theorem measurement_times {n : Nat} {w w' : σ × Measured} {runs : List (ReadTaskResult × Option CaptureResult)}
    (chain : Times (measurement client s) n w runs w') :
    w'.2.captureResults = w.2.captureResults ++ runs.flatMap (·.2.toList) ∧
      ∀ times, w.2.After s times → w'.2.After s (times + n) := by
  induction chain with
  | zero => simp
  | succ first rest ih =>
    obtain ⟨-, captures, step⟩ := measurement_ok first
    refine ⟨by rw [ih.1, captures, List.append_assoc, List.flatMap_cons], fun times m => ?_⟩
    have after := ih.2 (times + 1) (step times m)
    rwa [Nat.add_right_comm] at after

/-- An attempt that returns is the call itself. -/
theorem attempt_ok {α : Type} {x : EStateM Fault σ α} {a : α} {w w' : σ} (ok : attempt x w = .ok (.ok a) w') :
    x w = .ok a w' := by
  obtain ⟨result, _, settled, ok⟩ := bind_ok_iff.mp ok
  cases result with
  | ok b =>
    obtain ⟨same, rfl⟩ := pure_ok_iff.mp ok
    obtain rfl := Except.ok.inj same
    exact settle_ok_iff.mp settled
  | error e =>
    dsimp only at ok
    split at ok
    · cases (pure_ok_iff.mp ok).1
    · exact (throw_ok_iff.mp ok).elim

/-- Without a failure every measurement has returned. -/
theorem measurements_ok {n : Nat} {w w' : σ × Measured} (ok : measurements client s n w = .ok [] w') :
    ∃ runs, Times (measurement client s) n w runs w' := by
  induction n generalizing w with
  | zero =>
    obtain ⟨-, rfl⟩ := pure_ok_iff.mp ok
    exact ⟨[], .zero w⟩
  | succ n ih =>
    obtain ⟨result, w₁, first, ok⟩ := bind_ok_iff.mp ok
    cases result with
    | ok run =>
      obtain ⟨runs, rest⟩ := ih ok
      exact ⟨run :: runs, .succ (attempt_ok first) rest⟩
    | error e => cases (pure_ok_iff.mp ok).1

/-- Without a failure every warm-up has returned. -/
theorem warmUps_ok {n : Nat} {w w' : σ} (ok : warmUps client s n w = .ok [] w') :
    ∃ runs, Times (executeIteration client.toReadClient s) n w runs w' := by
  induction n generalizing w with
  | zero =>
    obtain ⟨-, rfl⟩ := pure_ok_iff.mp ok
    exact ⟨[], .zero w⟩
  | succ n ih =>
    obtain ⟨result, w₁, first, ok⟩ := bind_ok_iff.mp ok
    cases result with
    | ok run =>
      obtain ⟨runs, rest⟩ := ih ok
      exact ⟨run :: runs, .succ (attempt_ok first) rest⟩
    | error e => cases (pure_ok_iff.mp ok).1

/-! ## The verdict -/

/-- What lies behind a passing scenario. -/
structure ScenarioPassed (client : SuiteClient σ) (thresholds : PerformanceThresholds) (s : ReadPerformanceScenario)
    (w : σ) (r : ScenarioReport) (w' : σ) : Prop where
  /-- Every iteration has returned with the expected population, and its capture is complete. -/
  iterations : ∃ warm w₁ runs m, Times (executeIteration client.toReadClient s) s.warmupIterations.val w warm w₁ ∧
    Times (measurement client s) s.measurementIterations.val (w₁, {}) runs (w', m) ∧
    (∀ run ∈ warm ++ runs, s.Fulfilled run) ∧ r.captures = runs.flatMap (·.2.toList)
  failures : r.failures = []
  captures : ∀ c ∈ r.captures, c.Complete
  captured : s.capture.isSome = true → r.captures.length = s.measurementIterations.val
  completed : r.completedIterations = s.measurementIterations.val
  received : r.receivedObjects = s.measurementIterations.val * s.expectedObjectsPerIteration.val
  byKind : ∀ key, r.receivedByKind.get? key =
    (s.expectedByKind.items.get? key).map fun n => ((s.measurementIterations.val * n : Nat) : Int)
  byGroupVariation : ∀ key, r.receivedByGroupVariation.get? key =
    (s.expectedByGroupVariation.items.get? key).map fun n => ((s.measurementIterations.val * n : Nat) : Int)
  latencies : LatencyWithin r.taskLatencyMs thresholds
  resources : ∃ resources, r.resources = some resources ∧ ResourcesWithin resources thresholds
  checked : thresholdChecks r.taskLatencyMs r.resources thresholds = .ok r.thresholdChecks
  thresholds : ∀ check ∈ r.thresholdChecks, check.passed = true

theorem scaled_pos {times : Nat} (positive : 1 ≤ times) (expected : Counts) (key : Text) :
    scaled times expected key = (expected.items.get? key).map fun n => ((times * n : Nat) : Int) :=
  if_neg (by omega)

/-- The captures of iterations that were to be captured. -/
theorem captures_length {runs : List (ReadTaskResult × Option CaptureResult)} (on : s.capture.isSome = true)
    (fulfilled : ∀ run ∈ runs, s.Fulfilled run) : (runs.flatMap (·.2.toList)).length = runs.length := by
  induction runs with
  | nil => rfl
  | cons run runs ih =>
    obtain ⟨capture, some_⟩ := Option.isSome_iff_exists.mp ((fulfilled run List.mem_cons_self).captured.trans on)
    rw [List.flatMap_cons, List.length_append, ih fun r mem => fulfilled r (List.mem_cons_of_mem _ mem), some_,
      List.length_cons]
    exact Nat.add_comm _ _

/-- A scenario that is reported as passed. -/
theorem runScenario_passed {sum : List Double → Double} {thresholds : PerformanceThresholds} {w w' : σ}
    {r : ScenarioReport} (ok : runScenario sum client thresholds s w = .ok r w') :
    r.scenarioId = s.scenarioId ∧ (r.passed = true → ScenarioPassed client thresholds s w r w') := by
  obtain ⟨failures, w₁, warm, ok⟩ := bind_ok_iff.mp ok
  obtain ⟨⟨found, m⟩, w₂, measured, ok⟩ := bind_ok_iff.mp ok
  obtain ⟨report, rfl⟩ := outcome_ok_iff.mp ok
  obtain ⟨resources, -, report⟩ := ok_bind_iff.mp report
  obtain ⟨latency, -, report⟩ := ok_bind_iff.mp report
  obtain ⟨checks, checked, report⟩ := ok_bind_iff.mp report
  rw [← ok_pure_iff.mp report]
  refine ⟨rfl, fun passed => ?_⟩
  rw [Bool.and_eq_true, decide_eq_true_eq, List.all_eq_true] at passed
  obtain ⟨none_, thresholds⟩ := passed
  subst none_
  rw [locally_ok_iff] at measured
  -- a failed warm-up would be the failure that is reported
  split at measured
  · next noFailure =>
    subst noFailure
    obtain ⟨warmRuns, warmChain⟩ := warmUps_ok warm
    obtain ⟨runs, chain⟩ := measurements_ok measured
    obtain ⟨captures, after⟩ := measurement_times chain
    have after := after 0 (Measured.after_zero s)
    rw [Nat.zero_add] at after
    have positive := s.measurementIterations.property.1
    have fulfilled : ∀ run ∈ runs, s.Fulfilled run :=
      Times.forall (fun _ _ _ returned => (measurement_ok returned).1) chain
    have captures : m.captureResults = runs.flatMap (·.2.toList) := captures
    constructor
    · refine ⟨warmRuns, w₁, runs, m, warmChain, chain, ?_, captures⟩
      intro run mem
      rcases List.mem_append.mp mem with warmed | measured
      · exact Times.forall (fun _ _ _ returned => executeIteration_ok returned) warmChain run warmed
      · exact fulfilled run measured
    · rfl
    · intro c mem
      rw [captures] at mem
      obtain ⟨run, here, inside⟩ := List.mem_flatMap.mp mem
      exact (fulfilled run here).complete c (Option.mem_toList.mp inside)
    · intro on
      change m.captureResults.length = _
      rw [captures, captures_length on fulfilled, chain.length]
    · exact after.completed
    · exact after.received
    · exact fun key => (after.byKind key).trans (scaled_pos positive _ key)
    · exact fun key => (after.byGroupVariation key).trans (scaled_pos positive _ key)
    · exact ((thresholdChecks_passed checked).mp thresholds).1
    · exact ((thresholdChecks_passed checked).mp thresholds).2
    · exact checked
    · exact thresholds
  · next failed => exact absurd (pure_ok_iff.mp measured).1 failed

end

/-- A baseline that is positive, and an overhead within the limit. -/
def OverheadReport.WithinLimit (c : OverheadReport) (measured baseline : ScenarioReport) (limit : Double) : Prop :=
  ∃ m b percent, measured.taskLatencyMs.p50 = some m ∧ baseline.taskLatencyMs.p50 = some b ∧
    Double.lt (.finite 0) b = true ∧ overheadPercent (some m) (some b) = .ok (some percent) ∧
    c.captureOverheadPercent = some percent ∧ Double.le percent limit = true

/-- The report of a scenario is found by its id. -/
theorem reportOf_ok {reports : List ScenarioReport} {scenarioId : Text} {r : ScenarioReport}
    (ok : reportOf reports scenarioId = .ok r) : r ∈ reports ∧ r.scenarioId = scenarioId := by
  unfold reportOf at ok
  split at ok
  · next report found =>
    obtain rfl := Except.ok.inj ok
    exact ⟨List.mem_of_find?_eq_some found, by simpa using List.find?_some found⟩
  · cases ok

/-- A comparison is of a scenario with its baseline. -/
theorem compareOverhead_ok {reports : List ScenarioReport} {limit : Double} {pair : Text × Text} {c : OverheadReport}
    (ok : compareOverhead reports limit pair = .ok c) :
    c.scenarioId = pair.1 ∧ ∃ measured ∈ reports, ∃ baseline ∈ reports, measured.scenarioId = pair.1 ∧
      baseline.scenarioId = pair.2 ∧ (c.passed = true → c.WithinLimit measured baseline limit) := by
  obtain ⟨measured, foundMeasured, ok⟩ := ok_bind_iff.mp ok
  obtain ⟨baseline, foundBaseline, ok⟩ := ok_bind_iff.mp ok
  obtain ⟨overhead, percent, ok⟩ := ok_bind_iff.mp ok
  rw [← ok_pure_iff.mp ok]
  obtain ⟨inMeasured, idMeasured⟩ := reportOf_ok foundMeasured
  obtain ⟨inBaseline, idBaseline⟩ := reportOf_ok foundBaseline
  refine ⟨rfl, measured, inMeasured, baseline, inBaseline, idMeasured, idBaseline, fun passed => ?_⟩
  obtain ⟨p, isSome, within⟩ := (Option.any_eq_true _ _).mp passed
  subst isSome
  cases p50 : measured.taskLatencyMs.p50 with
  | none =>
    rw [p50] at percent
    cases percent
  | some m =>
    cases p50' : baseline.taskLatencyMs.p50 with
    | none =>
      rw [p50, p50'] at percent
      cases percent
    | some b =>
      rw [p50, p50'] at percent
      refine ⟨m, b, p, p50, p50', ?_, percent, rfl, within⟩
      by_contra notPositive
      unfold overheadPercent at percent
      dsimp only at percent
      rw [if_neg notPositive] at percent
      cases percent

/-- What a report says: of each scenario whether it passed, and that the suite passed only where all of them did and
every comparison with a baseline is within the limit. -/
theorem runPerformanceSuite_sound {σ : Type} {sum : List Double → Double} {client : SuiteClient σ}
    {profile : PerformanceProfile} {w w' : σ} {report : SuiteReport}
    (ran : runPerformanceSuite sum client profile w = .ok report w') :
    Threaded (fun s w r w' => r.scenarioId = s.scenarioId ∧
        (r.passed = true → ScenarioPassed client profile.thresholds s w r w')) profile.scenarios w report.scenarios w' ∧
      (report.passed = true → (∀ r ∈ report.scenarios, r.passed = true) ∧
        ∀ s ∈ profile.scenarios, ∀ baselineId, s.baselineScenarioId = some baselineId →
          ∃ c ∈ report.captureOverhead, ∃ measured ∈ report.scenarios, ∃ baseline ∈ report.scenarios,
            measured.scenarioId = s.scenarioId ∧ baseline.scenarioId = baselineId ∧
            c.WithinLimit measured baseline profile.thresholds.maxCaptureOverheadPercent.raw.exact) := by
  obtain ⟨reports, w₁, collected, ran⟩ := bind_ok_iff.mp ran
  obtain ⟨comparisons, w₂, compared, ran⟩ := bind_ok_iff.mp ran
  obtain ⟨found, rfl⟩ := outcome_ok_iff.mp compared
  obtain ⟨rfl, rfl⟩ := pure_ok_iff.mp ran
  refine ⟨(collect_ok collected).map fun s w r w' ok => ?_, fun passed => ?_⟩
  · obtain ⟨sameId, sound⟩ := runScenario_passed ok
    refine ⟨sameId, fun passed => ?_⟩
    have h := sound (Bool.and_eq_true_iff.mp passed).1
    exact {
      iterations := h.iterations, failures := h.failures, captures := h.captures, captured := h.captured
      completed := h.completed, received := h.received, byKind := h.byKind, byGroupVariation := h.byGroupVariation
      latencies := h.latencies, resources := h.resources, checked := h.checked, thresholds := h.thresholds }
  · have all := List.all_eq_true.mp passed
    refine ⟨all, fun s mem baselineId hasBaseline => ?_⟩
    have pair : (s.scenarioId, baselineId) ∈ profile.baselines :=
      List.mem_filterMap.mpr ⟨s, mem, by rw [hasBaseline]; rfl⟩
    obtain ⟨c, inside, comparison⟩ := mapM_ok_mem found pair
    obtain ⟨sameId, measured, inMeasured, baseline, inBaseline, idMeasured, idBaseline, within⟩ :=
      compareOverhead_ok comparison
    have final := all _ (List.mem_map_of_mem inMeasured)
    have agreed := List.all_eq_true.mp (Bool.and_eq_true_iff.mp final).2 c inside
    have passes : c.passed = true := by
      rcases Bool.or_eq_true_iff.mp agreed with differs | passes
      · exact absurd (sameId.trans idMeasured.symm) (of_decide_eq_true differs)
      · exact passes
    exact ⟨c, inside, _, List.mem_map_of_mem inMeasured, _, List.mem_map_of_mem inBaseline, idMeasured, idBaseline,
      within passes⟩

/-! ## A loopback -/

/-- A whole number of a profile. -/
def wholeNumber (n : ℚ) {low high : ℚ} (inside : low ≤ n ∧ n ≤ high) : NumberIn low high :=
  ⟨.float (.finite n), n, rfl, inside.1, inside.2⟩

/-- The shortest times a profile admits are below a second. -/
theorem literal64_le_one : literal64 (5 / 100) ≤ 1 ∧ literal64 (1 / 10) ≤ 1 := by
  decide +kernel

/-- A time of a profile. -/
def wholeSeconds {high : ℚ} (n : ℚ) (inside : 1 ≤ n ∧ n ≤ high) : NumberIn (literal64 (1 / 10)) high :=
  wholeNumber n ⟨literal64_le_one.2.trans inside.1, inside.2⟩

/-- A capture of both inputs. -/
def loopbackCaptureConfig : CaptureConfig where
  mode := .staticSet
  sources := [.solicited]
  durationLimitMs := 1000
  pointRanges := [⟨text "binary_input", 0, 1, by simp [capturePointKinds], by simp, by simp⟩]
  eventManifest := none
  mismatchSampleLimit := 100
  queueCapacity := 4096
  sourcesOk := by simp
  duration := by simp
  sample := by simp
  capacity := by simp
  rangeCount := by simp
  static := fun _ => ⟨by simp, rfl, by simp [CapturePointRange.pointCount], rfl⟩
  event := by simp
  observation := by simp

/-- A class poll of two binary inputs. -/
def loopbackScenario (scenarioId : Text) (capture : Option CaptureConfig) (baseline : Option Text) :
    ReadPerformanceScenario where
  scenarioId := scenarioId
  operation := .classPoll
  headers := []
  classes := [.nat 1]
  capture := capture
  warmupIterations := ⟨1, by simp⟩
  measurementIterations := ⟨2, by simp⟩
  intervalSeconds := wholeNumber 0 (by norm_num)
  cooldownSeconds := wholeNumber 0 (by norm_num)
  taskTimeoutSeconds := wholeNumber 1 ⟨literal64_le_one.1, by norm_num⟩
  maxMeasurements := ⟨2, by simp⟩
  expectedObjectsPerIteration := ⟨2, by simp⟩
  expectedByKind := ⟨[(text "binary_input", 2)], List.nodup_singleton _⟩
  expectedByGroupVariation := ⟨[(text "1:2", 2)], List.nodup_singleton _⟩
  baselineScenarioId := baseline
  headersFit := ⟨by simp, fun _ => rfl⟩
  classesFit := ⟨by simp, by decide, by simp, by simp⟩
  kindTotal := rfl
  groupVariationTotal := rfl

def loopbackThresholds : PerformanceThresholds where
  minimumSamples := ⟨1, by simp⟩
  maxTaskP95Ms := wholeNumber 1 (by norm_num)
  maxTaskP99Ms := wholeNumber 1 (by norm_num)
  maxTaskMs := wholeNumber 1 (by norm_num)
  maxCpuCorePercent := wholeNumber 1 (by norm_num)
  maxWorkingSetBytes := ⟨1, by simp⟩
  maxPrivateBytes := ⟨1, by simp⟩
  maxHandleCount := ⟨1, by simp⟩
  maxThreadCount := ⟨1, by simp⟩
  maxPrivateGrowthBytesPerHour := wholeNumber 1 (by norm_num)
  maxWorkingSetGrowthBytesPerHour := wholeNumber 1 (by norm_num)
  maxHandleGrowth := ⟨1, by simp⟩
  maxThreadGrowth := ⟨1, by simp⟩
  maxCaptureOverheadPercent := wholeNumber 1 (by norm_num)

/-- A soak of six seconds that may see one reconnect. -/
def loopbackSoak : SoakSettings where
  targetDurationSeconds := wholeSeconds 6 (by norm_num)
  cycleIntervalSeconds := wholeNumber 0 (by norm_num)
  checkpointIntervalSeconds := wholeSeconds 1 (by norm_num)
  resourceSampleIntervalSeconds := wholeSeconds 1 (by norm_num)
  watchdogTimeoutSeconds := wholeSeconds 10 (by norm_num)
  maxCheckpoints := ⟨2, by simp⟩
  maxEvidenceBytes := ⟨65536, by simp⟩
  minFreeDiskBytes := ⟨0, by simp⟩
  allowedReconnects := ⟨1, by simp⟩
  maxConsecutiveFailures := ⟨0, by simp⟩

/-- That poll, and the same poll under a capture whose baseline it is. -/
def loopbackProfile : PerformanceProfile where
  profileId := text "loopback"
  scope := .localLoopbackOnly
  seed := ⟨1, by simp⟩
  scenarios := [loopbackScenario (text "plain") none none,
    loopbackScenario (text "captured") (some loopbackCaptureConfig) (some (text "plain"))]
  thresholds := loopbackThresholds
  soak := loopbackSoak
  sourceSha256 := text "5423e056aab60adcbf3df5f9c7be908c" ++ text "01634e394c14e844dcc8697761f19c35"
  scenarioCount := by simp
  unique := by decide

/-- Two binary inputs behind a clock that counts its readings, and the channel events that are queued. -/
structure Loopback where
  readings : Nat := 0
  reads : Nat := 0
  events : List Text := []

/-- A capture that saw both inputs. -/
def loopbackCapture : CaptureResult where
  captureId := text "capture-1"
  sessionId := 1
  state := .finalized
  valid := some true
  mode := .staticSet
  sources := [.solicited]
  expectedTotal := some 2
  offeredTotal := 2
  receivedTotal := 2
  receivedUnique := some 2
  duplicates := some 0
  missing := some 0
  unmatchedTotal := 0
  fragmentsTotal := 1
  durationMs := .int 1
  throughputPerSec := .int 2000
  currentQueueDepth := 0
  maxQueueDepth := 2
  queueCapacity := 4096
  queueOverflow := 0
  invalidReasons := []
  completenessScope := .null
  unknownReason := .null
  receivedSequenceSha256 := none
  sequenceMatch := none
  canonicalRecordFormat := .null
  mismatchSample := []
  timings := .null
  raw := .null

/-- A client of that loopback. Its fourth read is followed by a reconnect. -/
def loopbackClient : SuiteClient Loopback where
  beginCapture := fun _ => pure { loopbackCapture with state := .active, valid := none }
  read := fun _ w => .ok {
    receivedTotal := 2
    fragmentsReceived := 1
    byKind := some ⟨[(text "binary_input", .nat 2)], List.nodup_singleton _⟩
    byGroupVariation := some ⟨[(text "1:2", .nat 2)], List.nodup_singleton _⟩
    iinBits := []
    duration := .int 1 } { w with
      reads := w.reads + 1
      events := if w.reads = 3 then ["CLOSED", "OPENING", "OPEN"].map text else w.events }
  isRunning := pure true
  endCapture := fun _ _ => pure loopbackCapture
  sample := fun w => .ok {
    monotonicNs := w.readings * 10 ^ 9
    processCpuSeconds := .finite 0
    workingSetBytes := 1
    privateBytes := 1
    handleCount := 1
    threadCount := 1 } { w with readings := w.readings + 1 }

/-- What a call returns, with the state behind it. -/
def returned {σ α : Type} : EStateM.Result Fault σ α → Option (α × σ)
  | .ok a w => some (a, w)
  | .error _ _ => none

/-- A call that returned has ended well. -/
theorem returned_eq_some {σ α : Type} {r : EStateM.Result Fault σ α} {a : α} {w : σ}
    (found : returned r = some (a, w)) : r = .ok a w := by
  cases r with
  | ok b v =>
    obtain ⟨rfl, rfl⟩ := Prod.mk.inj (Option.some.inj found)
    rfl
  | error e v => cases found

/-- What the suite makes of the loopback. -/
def suiteResult : EStateM.Result Fault Loopback SuiteReport :=
  runPerformanceSuite (List.foldl Double.add (.finite 0)) loopbackClient loopbackProfile {}

set_option maxRecDepth 100000 in
/-- The loopback passes: two iterations without a capture, and two with one. -/
theorem suiteResult_passed : (returned suiteResult).map (fun result => (result.1.passed,
    result.1.scenarios.map fun r => (r.completedIterations, r.receivedObjects, r.captures.length),
    result.1.captureOverhead.map (·.passed))) = some (true, [(2, 4, 0), (2, 4, 2)], [true]) := by
  decide +kernel

/-- A suite with objects, a capture, a baseline and a warm-up that passes. -/
theorem runPerformanceSuite_sound_loopback : ∃ report w,
    runPerformanceSuite (List.foldl Double.add (.finite 0)) loopbackClient loopbackProfile {} = .ok report w ∧
      report.passed = true ∧
      report.scenarios.map (fun r => (r.completedIterations, r.receivedObjects, r.captures.length)) =
        [(2, 4, 0), (2, 4, 2)] ∧
      Threaded (fun s w r w' => r.scenarioId = s.scenarioId ∧
        (r.passed = true → ScenarioPassed loopbackClient loopbackProfile.thresholds s w r w'))
        loopbackProfile.scenarios {} report.scenarios w ∧
      ((∀ r ∈ report.scenarios, r.passed = true) ∧
        ∀ s ∈ loopbackProfile.scenarios, ∀ baselineId, s.baselineScenarioId = some baselineId →
          ∃ c ∈ report.captureOverhead, ∃ measured ∈ report.scenarios, ∃ baseline ∈ report.scenarios,
            measured.scenarioId = s.scenarioId ∧ baseline.scenarioId = baselineId ∧
            c.WithinLimit measured baseline loopbackProfile.thresholds.maxCaptureOverheadPercent.raw.exact) := by
  obtain ⟨⟨report, w⟩, found, verdict⟩ := Option.map_eq_some_iff.mp suiteResult_passed
  obtain ⟨passed, verdict⟩ := Prod.mk.inj verdict
  obtain ⟨results, -⟩ := Prod.mk.inj verdict
  have ran := returned_eq_some found
  have sound := runPerformanceSuite_sound ran
  exact ⟨report, w, ran, passed, results, sound.1, sound.2 passed⟩

end EmsDnp3.Python
