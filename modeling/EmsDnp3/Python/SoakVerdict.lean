import EmsDnp3.Python.SoakCycles

/-!
# The verdict of a soak run

What a passing report says. A completed run is left only by the body of the `try`, once the audit has verified the
terminal state, and by evidence that is written.
-/

namespace EmsDnp3.Python

open Effect

section
variable {σ : Type} {world : SoakWorld σ} {setup : SoakSetup} {s s' : σ × SoakLocals}

/-! ## Before and after the loop -/

theorem requireOpen_ok {message : String} {status : Json}
    (ok : (ChannelCounters.requireOpen message status).mapError Fault.ofChannel = .ok ()) :
    ChannelCounters.statusState status = some (.str (text "OPEN")) := by
  simpa using rejectIf_ok.mp (mapError_ok_iff.mp ok)

/-- The baseline: a drain that lost nothing, a status that shows the open channel, and counters that start there. -/
theorem openBaseline_ok (ok : openBaseline world s = .ok () s') :
    ∃ early status u, Drained world s.1 early u ∧ ShowsOpen world u status s'.1 ∧
      s'.2.counters.reconnectCount = s.2.counters.reconnectCount ∧
      s'.2.counters.observedChannelState = text "OPEN" ∧ s'.2.counters.channelEventDroppedTotal = 0 ∧
      s'.2 = { s.2 with counters := s'.2.counters } := by
  obtain ⟨⟨states, dropped⟩, u, drained, ok⟩ := bind_ok_iff.mp ok
  obtain ⟨_, v, counted, ok⟩ := bind_ok_iff.mp ok
  obtain ⟨status, x, read, ok⟩ := bind_ok_iff.mp ok
  obtain ⟨_, y, required, ok⟩ := bind_ok_iff.mp ok
  obtain ⟨drained, same⟩ := onFst_ok_iff.mp drained
  obtain ⟨passes, rfl⟩ := onCounters_ok counted
  obtain ⟨read, same'⟩ := onFst_ok_iff.mp read
  obtain ⟨shown, rfl⟩ := outcome_ok_iff.mp required
  obtain ⟨here, last⟩ := onSnd_ok_iff.mp ok
  rw [here] at read
  rw [← same'] at last
  rw [← last, same]
  unfold ChannelCounters.initialEvents at passes ⊢
  dsimp only at passes ⊢
  split at passes
  · cases passes
  · next none_ =>
    obtain rfl := not_not.mp none_
    obtain ⟨early, -, drained⟩ := drainChannelEvents_ok drained
    exact ⟨early, status, u.1, drained, ⟨read, requireOpen_ok shown⟩, rfl, rfl, rfl, rfl⟩

/-- A warm-up that returned. -/
theorem warmUp_ok {scenario : ReadPerformanceScenario} {run : ReadTaskResult × Option CaptureResult}
    (ok : warmUp world setup scenario s = .ok run s') :
    ∃ r, WarmUpRan world scenario s.1 r s'.1 ∧ SoakLocals.Moved setup r.states [] s.2 s'.2 := by
  obtain ⟨result, u, iterated, ok⟩ := bind_ok_iff.mp ok
  obtain ⟨_, v, observed, ok⟩ := bind_ok_iff.mp ok
  obtain ⟨_, x, paused, ok⟩ := bind_ok_iff.mp ok
  obtain ⟨rfl, rfl⟩ := pure_ok_iff.mp ok
  obtain ⟨iterated, same⟩ := onFst_ok_iff.mp iterated
  obtain ⟨states, drained, moved⟩ := observeChannelEvents_moved observed
  obtain ⟨rest, unchanged⟩ := pause_ok paused
  refine ⟨⟨result, states⟩, .intro iterated (executeIteration_ok iterated) drained rest, ?_⟩
  rw [same, unchanged]
  exact moved

/-- The warm-ups, one scenario after the other. -/
theorem warmUps_moved {scenarios : List ReadPerformanceScenario} {records : List WarmUpRecord}
    (runs : Threaded (fun scenario s r s' => WarmUpRan world scenario s.1 r s'.1 ∧
      SoakLocals.Moved setup r.states [] s.2 s'.2) scenarios s records s') :
    SoakLocals.Moved setup (records.flatMap (·.states)) [] s.2 s'.2 := by
  induction runs with
  | nil s => exact .refl setup s.2
  | cons first _ ih => exact first.2.trans ih

/-- Every scenario was warmed up as often as it asks for. -/
theorem collect_warmUps {runs : List (List (ReadTaskResult × Option CaptureResult))}
    (ok : collect (fun scenario => repeatedly (warmUp world setup scenario) scenario.warmupIterations.val)
      setup.profile.scenarios s = .ok runs s') :
    ∃ records, Threaded (WarmUpRan world) setup.profile.warmUpOrder s.1 records s'.1 ∧
      SoakLocals.Moved setup (records.flatMap (·.states)) [] s.2 s'.2 := by
  have turns : ∃ records, Threaded (fun scenario s r s' => WarmUpRan world scenario s.1 r s'.1 ∧
      SoakLocals.Moved setup r.states [] s.2 s'.2) setup.profile.warmUpOrder s records s' := by
    refine (collect_ok ok).flatten ?_
    intro scenario t runs u times
    exact (repeatedly_ok times).threaded fun _ _ _ each => warmUp_ok each
  obtain ⟨records, chain⟩ := turns
  exact ⟨records, chain.project fun _ _ _ _ turn => turn.1, warmUps_moved chain⟩

/-- The terminal status is what `get_status` returned. -/
theorem terminalSnapshot_ok (ok : terminalSnapshot world s = .ok () s') (completed : s.2.status = .completed) :
    ∃ status, ShowsOpen world s.1 status s'.1 ∧ s'.2 = { s.2 with terminalStatus := status } := by
  obtain ⟨l, u, locals, ok⟩ := bind_ok_iff.mp ok
  obtain ⟨rfl, rfl⟩ := snd_ok_iff.mp locals
  split at ok
  · obtain ⟨status, v, read, ok⟩ := bind_ok_iff.mp ok
    obtain ⟨_, x, set, ok⟩ := bind_ok_iff.mp ok
    obtain ⟨required, rfl⟩ := outcome_ok_iff.mp ok
    obtain ⟨read, same⟩ := onFst_ok_iff.mp read
    obtain ⟨here, set⟩ := onSnd_ok_iff.mp set
    rw [here] at read
    refine ⟨status, ⟨read, requireOpen_ok required⟩, ?_⟩
    rw [← set, same]
  · next other => exact absurd completed other

/-- The terminal status is only read in a completed run. -/
theorem terminalSnapshot_status (ok : terminalSnapshot world s = .ok () s') : s'.2.status = s.2.status := by
  by_cases completed : s.2.status = .completed
  · obtain ⟨status, -, same⟩ := terminalSnapshot_ok ok completed
    rw [same]
  · obtain ⟨l, u, locals, ok⟩ := bind_ok_iff.mp ok
    obtain ⟨rfl, rfl⟩ := snd_ok_iff.mp locals
    rw [if_neg completed] at ok
    rw [(pure_ok_iff.mp ok).2]

/-- The last drain is observed. -/
theorem finalDrain_ok (ok : finalDrain world setup s = .ok () s') :
    ∃ states, LastDrained world s.1 states s'.1 ∧ s.2.counters.Followed states s'.2.counters ∧
      s'.2 = { s.2 with counters := s'.2.counters } := by
  obtain ⟨running, u, host, ok⟩ := bind_ok_iff.mp ok
  obtain ⟨host, same⟩ := onFst_ok_iff.mp host
  rw [same]
  cases running with
  | true =>
    obtain ⟨states, drained, followed, unchanged⟩ := observeChannelEvents_ok ok
    exact ⟨states, .running host drained, followed, unchanged⟩
  | false =>
    obtain ⟨-, rfl⟩ := pure_ok_iff.mp ok
    exact ⟨[], .ended host rfl, .refl _, rfl⟩

/-- A run is only accepted with an open channel. -/
theorem acceptEnd_ok (ok : acceptEnd world s = .ok () s') :
    s.2.counters.observedChannelState = text "OPEN" ∧ Asides world s.1 s'.1 ∧
      s'.2 = { s.2 with resources := s'.2.resources } := by
  obtain ⟨l, u, locals, ok⟩ := bind_ok_iff.mp ok
  obtain ⟨rfl, rfl⟩ := snd_ok_iff.mp locals
  obtain ⟨_, v, tracked, ok⟩ := bind_ok_iff.mp ok
  obtain ⟨opened, rfl⟩ := raiseIf_ok_iff.mp tracked
  obtain ⟨_, x, room, ok⟩ := bind_ok_iff.mp ok
  obtain ⟨-, rfl⟩ := raiseIf_ok_iff.mp room
  obtain ⟨sample, y, taken, ok⟩ := bind_ok_iff.mp ok
  obtain ⟨taken, same⟩ := onFst_ok_iff.mp taken
  obtain ⟨here, last⟩ := onSnd_ok_iff.mp ok
  rw [← last, ← same, ← here]
  exact ⟨not_not.mp (of_decide_eq_false opened), (Aside.sample _ taken).asides, rfl⟩

/-- A run that ends completed was accepted. -/
theorem verifyEnd_ok (ok : verifyEnd world s = .ok () s') (completed : s'.2.status = .completed) :
    s.2.status = .completed ∧ s.2.counters.observedChannelState = text "OPEN" ∧ Asides world s.1 s'.1 ∧
      s'.2 = { s.2 with resources := s'.2.resources } := by
  obtain ⟨l, u, locals, ok⟩ := bind_ok_iff.mp ok
  obtain ⟨rfl, rfl⟩ := snd_ok_iff.mp locals
  split at ok
  · next before =>
    obtain ⟨stop, v, asked, ok⟩ := bind_ok_iff.mp ok
    obtain ⟨asked, same⟩ := onFst_ok_iff.mp asked
    split at ok
    · rw [← (onSnd_ok_iff.mp ok).2] at completed
      cases completed
    · obtain ⟨running, x, host, ok⟩ := bind_ok_iff.mp ok
      obtain ⟨host, same'⟩ := onFst_ok_iff.mp host
      split at ok
      · rw [← (onSnd_ok_iff.mp ok).2] at completed
        cases completed
      · obtain ⟨tracked, calls, last⟩ := acceptEnd_ok ok
        rw [← same', ← same] at tracked last
        exact ⟨before, tracked, (Aside.stop _ asked).asides.trans ((Aside.host _ host).asides.trans calls), last⟩
  · next other =>
    obtain ⟨-, rfl⟩ := pure_ok_iff.mp ok
    exact absurd completed other

/-- The audit, where it leaves a completed run: a status that shows the open channel and a last drain after which the
tracked state is open. -/
theorem finalAudit_ok (ok : finalAudit world setup s = .ok () s') (completed : s'.2.status = .completed) :
    s.2.status = .completed ∧ ∃ status states u v, ShowsOpen world s.1 status u ∧ LastDrained world u states v ∧
      Asides world v s'.1 ∧ SoakLocals.Moved setup states [] s.2 s'.2 ∧
      s'.2.counters.observedChannelState = text "OPEN" := by
  obtain ⟨_, u, snapshot, ok⟩ := bind_ok_iff.mp ok
  obtain ⟨_, v, drained, ok⟩ := bind_ok_iff.mp ok
  obtain ⟨before, tracked, verified, last⟩ := verifyEnd_ok ok completed
  obtain ⟨states, drained, followed, same⟩ := finalDrain_ok drained
  have was : s.2.status = .completed := by
    rw [same] at before
    exact (terminalSnapshot_status snapshot).symm.trans before
  obtain ⟨status, opened, shown⟩ := terminalSnapshot_ok snapshot was
  refine ⟨was, status, states, u.1, v.1, opened, drained, verified, ?_, ?_⟩
  · rw [last, same]
    rw [shown] at followed ⊢
    exact ⟨by simp [SoakLocals.latenciesOf], by simp [SoakLocals.countOf], rfl, rfl, rfl, rfl, followed, id⟩
  · rw [last]
    exact tracked

/-! ## The run -/

/-- Before the `try` no scenario has had a turn. -/
theorem initial_counts (profile : PerformanceProfile) (start : Double) (writer : EvidenceWriter) (scenarioId : Text) :
    (SoakLocals.initial profile start writer).latenciesOf scenarioId = [] ∧
      (SoakLocals.initial profile start writer).countOf scenarioId = 0 :=
  ⟨Dict.getD_get?_const _ _ _ _, Dict.getD_get?_const _ _ _ _⟩

/-- The body of the `try`, where it leaves a completed run without a failure: a run of the calls that its variables
tell of. -/
theorem soakBody_ok {fuel : Nat} {start : Double} {writer : EvidenceWriter}
    (keeps : writer.Keeps setup.tools setup.preflight) (fresh : s.2 = SoakLocals.initial setup.profile start writer)
    (ok : soakBody world setup fuel s = .ok () s') (completed : s'.2.status = .completed)
    (none_ : s'.2.failureCount = 0) :
    ∃ h, SoakRan world setup h s.1 s'.1 ∧ s'.2.Tallied setup h.states h.cycles ∧
      s'.2.counters.observedChannelState = text "OPEN" := by
  obtain ⟨_, t, opened, ok⟩ := bind_ok_iff.mp ok
  obtain ⟨runs, u, warm, ok⟩ := bind_ok_iff.mp ok
  obtain ⟨now, v, clock, ok⟩ := bind_ok_iff.mp ok
  obtain ⟨_, x, restarted, ok⟩ := bind_ok_iff.mp ok
  obtain ⟨_, y, first, ok⟩ := bind_ok_iff.mp ok
  obtain ⟨_, z, looped, ok⟩ := bind_ok_iff.mp ok
  obtain ⟨early, baseline, w, emptied, isOpen, count, tracked, dropped, same⟩ := openBaseline_ok opened
  rw [fresh] at same count
  obtain ⟨warmUps, warmed, moved⟩ := collect_warmUps warm
  obtain ⟨started, same'⟩ := onFst_ok_iff.mp clock
  obtain ⟨here, restarted⟩ := onSnd_ok_iff.mp restarted
  obtain ⟨files, written, -, -⟩ := checkpoint_ok first
  -- at the baseline nothing has had a turn
  have zero : t.2.Tallied setup [] [] := by
    rw [same] at count tracked dropped ⊢
    exact ⟨fun scenarioId => (initial_counts _ start writer scenarioId).1,
      fun scenarioId => (initial_counts _ start writer scenarioId).2, rfl, rfl, rfl, count, tracked, dropped, keeps⟩
  have warmTally := zero.moved moved
  -- the clock is read again behind the warm-ups
  have restart : x.2.Tallied setup (warmUps.flatMap (·.states)) [] := by
    rw [← restarted, ← same']
    exact ⟨warmTally.latencies, warmTally.counts, warmTally.overflow, warmTally.failureCount, warmTally.cycleCount,
      warmTally.reconnects, warmTally.tracked, warmTally.dropped, warmTally.keeps⟩
  have ready := restart.moved written
  simp only [List.append_nil] at ready
  have begun : y.2.start = now := by rw [written.start, ← restarted]
  obtain ⟨left, status, states, a, b, closed, drained, verified, ended, endTracked⟩ := finalAudit_ok ok completed
  have failures : z.2.failureCount = 0 := ended.failureCount.symm.trans none_
  obtain ⟨records, last, ran, cycled⟩ := cycles_ok looped left failures
  rw [begun, ready.cycleCount] at ran
  have tally := (ready.moved cycled).moved ended
  simp only [List.append_nil, List.nil_append] at tally
  rw [← here] at files
  exact ⟨⟨warmUps, now, records, last, status, states⟩,
    .intro emptied isOpen warmed started files ran closed drained verified, tally, endTracked⟩

/-- No handler leaves a completed run. -/
theorem handled_ok {fault : Fault} (ok : handled fault s = .ok () s') : s'.2.status ≠ .completed := by
  unfold handled at ok
  split at ok
  · rw [← (onSnd_ok_iff.mp ok).2]
    exact SoakStatus.noConfusion
  · rw [← (onSnd_ok_iff.mp ok).2]
    exact SoakStatus.noConfusion
  · rw [← (onSnd_ok_iff.mp ok).2]
    exact SoakStatus.noConfusion
  · rw [← (onSnd_ok_iff.mp ok).2]
    exact SoakStatus.noConfusion
  · exact (throw_ok_iff.mp ok).elim

/-- Cleaning up changes nothing of a completed run. -/
theorem cleanUp_ok (ok : cleanUp world s = .ok () s') (completed : s'.2.status = .completed) : s'.2 = s.2 := by
  obtain ⟨closed, u, tried, ok⟩ := bind_ok_iff.mp ok
  obtain ⟨l, v, locals, ok⟩ := bind_ok_iff.mp ok
  obtain ⟨rfl, rfl⟩ := snd_ok_iff.mp locals
  cases closed with
  | ok _ =>
    obtain ⟨-, rfl⟩ := pure_ok_iff.mp ok
    exact (onFst_ok_iff.mp (attempt_ok tried)).2.symm
  | error e =>
    dsimp only at ok
    split at ok
    · rw [← (onSnd_ok_iff.mp ok).2] at completed
      cases completed
    · next other =>
      obtain ⟨-, rfl⟩ := pure_ok_iff.mp ok
      exact absurd completed other

/-- The last checkpoint of a completed run was written. -/
theorem finalCheckpoint_ok {ended : Double} (ok : finalCheckpoint world setup ended s = .ok () s')
    (completed : s'.2.status = .completed) : checkpoint world setup ended s = .ok () s' := by
  obtain ⟨written, u, tried, ok⟩ := bind_ok_iff.mp ok
  cases written with
  | ok _ =>
    obtain ⟨-, rfl⟩ := pure_ok_iff.mp ok
    exact attempt_ok tried
  | error e =>
    rw [← (onSnd_ok_iff.mp ok).2] at completed
    cases completed

end

/-! ## The report -/

/-- The checks of the scenarios' latencies. -/
theorem latencies_passed {reports : List SoakScenarioReport} {thresholds : PerformanceThresholds}
    {latencies : List (List ThresholdCheck)} (each : List.Forall₂ (fun r checks =>
      latencyChecks (r.scenarioId ++ text ".") r.taskLatencyMs thresholds = .ok checks) reports latencies) :
    (∀ check ∈ latencies.flatten, check.passed = true) ↔ ∀ rep ∈ reports, LatencyWithin rep.taskLatencyMs thresholds := by
  induction each with
  | nil => simp
  | cons own _ ih =>
    rw [List.flatten_cons, List.forall_mem_append, List.forall_mem_cons, latencyChecks_passed own, ih]

/-- Every check of a run passes exactly when each scenario and the resources are within the limits. -/
theorem soakThresholdChecks_passed {reports : List SoakScenarioReport} {resources : Option ResourceReport}
    {thresholds : PerformanceThresholds} {checks : List ThresholdCheck}
    (ok : soakThresholdChecks reports resources thresholds = .ok checks) :
    (∀ check ∈ checks, check.passed = true) ↔ (∀ rep ∈ reports, LatencyWithin rep.taskLatencyMs thresholds) ∧
      ∃ r, resources = some r ∧ ResourcesWithin r thresholds := by
  obtain ⟨latencies, ofLatencies, ok⟩ := ok_bind_iff.mp ok
  obtain ⟨others, ofOthers, ok⟩ := ok_bind_iff.mp ok
  obtain rfl := ok_pure_iff.mp ok
  rw [List.forall_mem_append, latencies_passed (mapM_ok_forall₂ ofLatencies), resourceChecks_passed ofOthers]

/-- Thresholds never complete a run that was not. -/
theorem finalStatus_completed {l : SoakLocals} {thresholdsPassed : Bool}
    (completed : (finalStatus l thresholdsPassed).1 = .completed) : l.status = .completed := by
  unfold finalStatus at completed
  split at completed
  · cases completed
  · exact completed

/-- What the result of a scenario takes from the local variables. -/
structure ResultOf (l : SoakLocals) (s : ReadPerformanceScenario) (rep : SoakScenarioReport) : Prop where
  scenarioId : rep.scenarioId = s.scenarioId
  successfulCycles : rep.successfulCycles = l.countOf s.scenarioId
  latency : distribution (l.latenciesOf s.scenarioId) = .ok rep.taskLatencyMs

/-- What a report takes from the local variables. -/
structure ReportOf (profile : PerformanceProfile) (l : SoakLocals) (r : SoakReport) : Prop where
  results : List.Forall₂ (ResultOf l) profile.scenarios r.scenarioResults
  cycleCount : r.cycleCount = l.cycleCount
  failureCount : r.failureCount = l.failureCount
  counters : r.counters = l.counters
  capture : r.capture = l.captureTotals
  verdict : r.passed = true → r.status = .completed ∧ l.status = .completed ∧ l.failureCount = 0 ∧
    l.captureTotals.queueOverflow = 0 ∧ l.counters.reconnectCount ≤ profile.soak.allowedReconnects.val ∧
    (∀ rep ∈ r.scenarioResults, LatencyWithin rep.taskLatencyMs profile.thresholds) ∧
    ∃ resources, r.resources = some resources ∧ ResourcesWithin resources profile.thresholds

/-- The report of a scenario has its cycles and its latencies. -/
theorem scenarioReport_ok {l : SoakLocals} {s : ReadPerformanceScenario} {rep : SoakScenarioReport}
    (ok : scenarioReport l s = .ok rep) : ResultOf l s rep := by
  obtain ⟨latency, distributed, ok⟩ := ok_bind_iff.mp ok
  obtain rfl := ok_pure_iff.mp ok
  exact ⟨rfl, rfl, distributed⟩

/-- The report has what the run has counted. -/
theorem soakReport_ok {sum : List Double → Double} {profile : PerformanceProfile} {members : List (String × Json)}
    {ended : Double} {l : SoakLocals} {r : SoakReport} (ok : soakReport sum profile members ended l = .ok r) :
    ReportOf profile l r := by
  obtain ⟨results, reported, ok⟩ := ok_bind_iff.mp ok
  obtain ⟨resources, -, ok⟩ := ok_bind_iff.mp ok
  obtain ⟨checks, checked, ok⟩ := ok_bind_iff.mp ok
  obtain rfl := ok_pure_iff.mp ok
  refine ⟨(mapM_ok_forall₂ reported).imp fun _ _ each => scenarioReport_ok each, rfl, rfl, rfl, rfl, fun passed => ?_⟩
  simp only [Bool.and_eq_true, decide_eq_true_eq] at passed
  obtain ⟨⟨⟨⟨⟨completed, failures⟩, overflow⟩, -⟩, reconnects⟩, thresholds⟩ := passed
  rw [List.all_eq_true] at thresholds
  exact ⟨completed, finalStatus_completed completed, failures, overflow, reconnects,
    (soakThresholdChecks_passed checked).mp thresholds⟩

section
variable {σ : Type} {world : SoakWorld σ} {setup : SoakSetup} {s s' : σ × SoakLocals}

/-- A report that still passes is the one that was written. -/
theorem finalReport_ok {report final : SoakReport} (ok : finalReport world setup report s = .ok final s')
    (passed : final.passed = true) : final = report ∧ s'.2 = { s.2 with writer := s'.2.writer } ∧
      s'.2.writer.Holds setup.tools .finalReport report.toJson ∧
      ∀ file value, file ≠ .finalReport → s.2.writer.Holds setup.tools file value →
        s'.2.writer.Holds setup.tools file value := by
  obtain ⟨written, u, tried, ok⟩ := bind_ok_iff.mp ok
  cases written with
  | error e =>
    obtain ⟨rfl, -⟩ := pure_ok_iff.mp ok
    cases passed
  | ok _ =>
    obtain ⟨rfl, rfl⟩ := pure_ok_iff.mp ok
    obtain ⟨answers, v, asked, written⟩ := bind_ok_iff.mp (attempt_ok tried)
    obtain ⟨passes, last⟩ := onWriter_ok written
    rw [← (onFst_ok_iff.mp asked).2] at passes last
    refine ⟨rfl, by rw [last], ?_, fun file value other holds => ?_⟩
    · rw [last]
      unfold EvidenceWriter.writeFinal at passes ⊢
      dsimp only at passes ⊢
      cases digest : (s.2.writer.write setup.tools setup.limits answers.file EvidenceFile.finalReport.name
        report.toJson 0).1 with
      | ok _ => exact EvidenceWriter.write_holds digest
      | error e =>
        rw [digest] at passes
        cases passes
    · rw [last]
      exact holds.write other answers.file report.toJson 0

/-- The report on disk carries its verdict. -/
theorem toJson_passed (report : SoakReport) : report.toJson.get? "passed" = some (.bool report.passed) := by
  simp [SoakReport.toJson]

/-! ## The verdict -/

/-- What lies behind a passing report: a history of the calls from `w` on, and the local variables at the end. -/
structure SoakPassed (world : SoakWorld σ) (setup : SoakSetup) (w : σ) (h : SoakHistory) (report : SoakReport)
    (l : SoakLocals) : Prop where
  /-- From an open channel to an open channel each warm-up and each cycle has returned with its population, the cycles
  in turn, and no drain has lost an event; the clock shows the target. -/
  ran : ∃ w', SoakRan world setup h w w'
  completed : report.status = .completed
  failures : report.failureCount = 0
  cycles : report.cycleCount = h.cycles.length
  total : report.cycleCount = (report.scenarioResults.map (·.successfulCycles)).sum
  turns : ∀ place (inside : place < setup.profile.scenarios.length), ∃ rep,
    report.scenarioResults[place]? = some rep ∧ rep.scenarioId = setup.profile.scenarios[place].scenarioId ∧
    rep.successfulCycles = (h.cyclesOf rep.scenarioId).length ∧
    rep.successfulCycles = share report.cycleCount place setup.profile.scenarios.length
  samples : ∀ rep ∈ report.scenarioResults,
    setup.profile.thresholds.minimumSamples.val ≤ rep.taskLatencyMs.sampleCount ∧
    rep.taskLatencyMs.sampleCount = rep.successfulCycles ∧
    distribution ((h.cyclesOf rep.scenarioId).map (·.duration)) = .ok rep.taskLatencyMs
  latencies : ∀ rep ∈ report.scenarioResults, LatencyWithin rep.taskLatencyMs setup.profile.thresholds
  resources : ∃ resources, report.resources = some resources ∧ ResourcesWithin resources setup.profile.thresholds
  overflow : report.capture.queueOverflow = (h.cycles.map CycleRecord.queueOverflow).sum
  noOverflow : report.capture.queueOverflow = 0
  dropped : report.counters.channelEventDroppedTotal = 0
  tracked : report.counters.observedChannelState = h.states.getLastD (text "OPEN")
  lastOpen : report.counters.observedChannelState = text "OPEN"
  reconnects : report.counters.reconnectCount = h.reconnects
  allowed : report.counters.reconnectCount ≤ setup.profile.soak.allowedReconnects.val
  preflight : l.writer.Holds setup.tools .preflight setup.preflight
  checkpoint : ∃ last written, l.checkpointSequence = last + 1 ∧ l.writer.Holds setup.tools (.checkpoint last) written
  finalReport : l.writer.Holds setup.tools .finalReport report.toJson
  verdict : report.toJson.get? "passed" = some (.bool true)

/-- Each scenario has had its share of the cycles of a run. -/
theorem SoakRan.share {h : SoakHistory} {w w' : σ} (ran : SoakRan world setup h w w') {place : Nat}
    (inside : place < setup.profile.scenarios.length) :
    (h.cyclesOf setup.profile.scenarios[place].scenarioId).length =
      share h.cycles.length place setup.profile.scenarios.length := by
  obtain ⟨-, -, -, -, -, ⟨chain, -, -, -⟩, -, -, -⟩ := ran
  have named : h.cycles.map (·.scenarioId) = (setup.profile.roundRobin 0 h.cycles.length).map (·.scenarioId) := by
    refine chain.map_eq ?_
    rintro scenario s r t ⟨-, -, -, -, -, -, -, -, -, named, -, -⟩
    exact named
  rw [← setup.profile.count_roundRobin h.cycles.length inside, ← named, SoakHistory.cyclesOf,
    ← List.countP_eq_length_filter, List.count, List.countP_map]
  exact List.countP_congr fun r _ => by simp

/-- The results of the scenarios, where the local variables tell of a run. -/
theorem results_of_tallied {h : SoakHistory} {w w' : σ} {l : SoakLocals} {results : List SoakScenarioReport}
    (ran : SoakRan world setup h w w') (tally : l.Tallied setup h.states h.cycles)
    (reported : List.Forall₂ (ResultOf l) setup.profile.scenarios results) :
    (∀ place (inside : place < setup.profile.scenarios.length), ∃ rep, results[place]? = some rep ∧
        rep.scenarioId = setup.profile.scenarios[place].scenarioId ∧
        rep.successfulCycles = (h.cyclesOf rep.scenarioId).length ∧
        rep.successfulCycles = share h.cycles.length place setup.profile.scenarios.length) ∧
      (results.map (·.successfulCycles)).sum = h.cycles.length := by
  have long := reported.length_eq
  have turns : ∀ place (inside : place < setup.profile.scenarios.length) (inside' : place < results.length),
      results[place].scenarioId = setup.profile.scenarios[place].scenarioId ∧
        results[place].successfulCycles = (h.cyclesOf results[place].scenarioId).length ∧
        results[place].successfulCycles = share h.cycles.length place setup.profile.scenarios.length := by
    intro place inside inside'
    have result := reported.get inside inside'
    simp only [List.get_eq_getElem] at result
    have counted := result.successfulCycles.trans (tally.counts _)
    refine ⟨result.scenarioId, ?_, counted.trans (ran.share inside)⟩
    rw [result.scenarioId]
    exact counted
  constructor
  · intro place inside
    exact ⟨results[place], List.getElem?_eq_getElem (long ▸ inside), turns place inside (long ▸ inside)⟩
  · have list : results.map (·.successfulCycles) = (List.range setup.profile.scenarios.length).map fun place =>
        share h.cycles.length place setup.profile.scenarios.length := by
      refine List.ext_getElem (by simp [long]) fun place inside inside' => ?_
      rw [List.getElem_map, List.getElem_map, List.getElem_range]
      exact (turns place (by simpa using inside') (by simpa using inside)).2.2
    rw [list]
    exact sum_share h.cycles.length setup.profile.scenarioCount.1

/-- The `try` and its handlers, where a completed run is left. -/
theorem soakBody_completed {fuel : Nat} {t u : σ × SoakLocals} {result : Except Fault Unit} {taken : Except Fault Unit}
    {v : σ × SoakLocals} (ran : settle (soakBody world setup fuel) s = .ok result t)
    (handles : settle (handleResult result) t = .ok taken u) (cleaned : cleanUp world u = .ok () v)
    (fine : taken = .ok ()) (completed : v.2.status = .completed) :
    soakBody world setup fuel s = .ok () t ∧ v.2 = t.2 := by
  subst fine
  have same := cleanUp_ok cleaned completed
  rw [same] at completed
  have handled := settle_ok_iff.mp handles
  cases result with
  | ok _ =>
    obtain ⟨-, rfl⟩ := pure_ok_iff.mp handled
    exact ⟨settle_ok_iff.mp ran, same⟩
  | error e => exact absurd completed (handled_ok handled)

/-- The run after its preflight record. -/
theorem runSoakLocals_passed {sum : List Double → Double} {fuel : Nat} {start : Double} {writer : EvidenceWriter}
    {report : SoakReport} (keeps : writer.Keeps setup.tools setup.preflight)
    (fresh : s.2 = SoakLocals.initial setup.profile start writer)
    (ran : runSoakLocals world setup sum fuel s = .ok report s') (passed : report.passed = true) :
    ∃ h, SoakPassed world setup s.1 h report s'.2 := by
  obtain ⟨result, t, body, ran⟩ := bind_ok_iff.mp ran
  obtain ⟨taken, u, handles, ran⟩ := bind_ok_iff.mp ran
  obtain ⟨_, v, cleaned, ran⟩ := bind_ok_iff.mp ran
  obtain ⟨_, v', gone, ran⟩ := bind_ok_iff.mp ran
  obtain ⟨fine, rfl⟩ := outcome_ok_iff.mp gone
  obtain ⟨ended, x, clock, ran⟩ := bind_ok_iff.mp ran
  obtain ⟨_, y, last, ran⟩ := bind_ok_iff.mp ran
  obtain ⟨l, z, locals, ran⟩ := bind_ok_iff.mp ran
  obtain ⟨rfl, rfl⟩ := snd_ok_iff.mp locals
  obtain ⟨first, z, computed, ran⟩ := bind_ok_iff.mp ran
  obtain ⟨reported, rfl⟩ := outcome_ok_iff.mp computed
  obtain ⟨rfl, same, onDisk, others⟩ := finalReport_ok ran passed
  have of := soakReport_ok reported
  obtain ⟨completed, was, failures, overflow, reconnects, latencies, resources⟩ := of.verdict passed
  -- the last checkpoint was written, and so the status is the one that the `try` has left
  obtain ⟨-, moved, stands, same_⟩ := checkpoint_ok (finalCheckpoint_ok last was)
  have there : v.2 = x.2 := (onFst_ok_iff.mp clock).2
  have before : v.2.status = .completed := by
    rw [same_] at was
    rw [there]
    exact was
  obtain ⟨returned, left⟩ := soakBody_completed body handles cleaned fine before
  have kept : t.2 = x.2 := left.symm.trans there
  rw [left] at before
  have none_ : t.2.failureCount = 0 := by
    rw [kept, ← moved.failureCount]
    exact failures
  obtain ⟨h, calls, tally, tracked⟩ := soakBody_ok keeps fresh returned before none_
  rw [kept] at tally tracked
  have final := tally.moved moved
  simp only [List.append_nil] at final
  obtain ⟨turns, total⟩ := results_of_tallied calls final of.results
  obtain ⟨n, value, sequence, holds⟩ := stands tally.keeps
  have counted : report.cycleCount = h.cycles.length := of.cycleCount.trans final.cycleCount
  have sampled : ∀ rep ∈ report.scenarioResults,
      distribution ((h.cyclesOf rep.scenarioId).map (·.duration)) = .ok rep.taskLatencyMs ∧
        rep.taskLatencyMs.sampleCount = rep.successfulCycles := by
    intro rep mem
    obtain ⟨place, inside, rfl⟩ := List.getElem_of_mem mem
    have result := of.results.get (of.results.length_eq ▸ inside) inside
    simp only [List.get_eq_getElem] at result
    have latency := result.latency
    rw [final.latencies, ← result.scenarioId] at latency
    refine ⟨latency, (distribution_ok latency).trans ?_⟩
    rw [List.length_map, result.successfulCycles, final.counts, result.scenarioId]
  refine ⟨h, ?_⟩
  constructor
  · exact ⟨t.1, calls⟩
  · exact completed
  · exact of.failureCount.trans failures
  · exact counted
  · rw [counted]
    exact total.symm
  · rw [counted]
    exact turns
  · exact fun rep mem => ⟨(latencies rep mem).minimumSamples_le, (sampled rep mem).2, (sampled rep mem).1⟩
  · exact latencies
  · exact resources
  · rw [of.capture]
    exact final.overflow
  · rw [of.capture]
    exact overflow
  · rw [of.counters]
    exact final.dropped
  · rw [of.counters]
    exact final.tracked
  · rw [of.counters, same_]
    exact tracked
  · rw [of.counters]
    exact final.reconnects
  · rw [of.counters]
    exact reconnects
  · exact others _ _ (by simp) final.keeps.preflight
  · refine ⟨n, value, ?_, others _ _ (by simp) holds⟩
    rw [same]
    exact sequence
  · exact onDisk
  · exact (toJson_passed report).trans (by rw [passed])

end

/-- What is there before the first cycle. -/
theorem beginSoak_ok {σ : Type} {world : SoakWorld σ} {setup : SoakSetup} {w w' : σ} {l : SoakLocals}
    (ok : beginSoak world setup w = .ok l w') : l.writer.Keeps setup.tools setup.preflight ∧
      ∃ start, l = SoakLocals.initial setup.profile start l.writer := by
  obtain ⟨running, t, host, ok⟩ := bind_ok_iff.mp ok
  obtain ⟨_, u, up, ok⟩ := bind_ok_iff.mp ok
  obtain ⟨answers, v, asked, ok⟩ := bind_ok_iff.mp ok
  obtain ⟨_, x, wrote, ok⟩ := bind_ok_iff.mp ok
  obtain ⟨start, y, clock, ok⟩ := bind_ok_iff.mp ok
  obtain ⟨rfl, rfl⟩ := pure_ok_iff.mp ok
  exact ⟨EvidenceWriter.writePreflight_keeps (outcome_ok_iff.mp wrote).1, start, rfl⟩

/-- A batch of channel events, two at most. -/
def eventBatch (events : List Text) : Json :=
  .object [("events", .arr ((events.take 2).map fun state =>
      .object [("type", .str (text "channel_state")), ("state", .str state)])),
    ("remaining", .nat (events.drop 2).length), ("dropped_total", .nat 0)]

/-- The loopback beside a clock that counts its readings in quarters of a second. -/
def loopbackWorld : SoakWorld Loopback where
  toSuiteClient := loopbackClient
  waitEvent := fun w => .ok (eventBatch w.events) { w with events := w.events.drop 2 }
  getStatus := pure (.object [("channel", .object [("state", .str (text "OPEN"))])])
  stopRequested := pure false
  monotonic := fun w => .ok (.finite (w.readings / 4)) { w with readings := w.readings + 1 }
  sleep := pure ()
  closeSampler := pure ()
  answers := pure EvidenceRun.exampleAnswers

def loopbackSetup : SoakSetup where
  profile := loopbackProfile
  tools := EvidenceRun.exampleTools
  preflight := .object [("schema_version", .nat 1)]
  checkpoint := fun _ _ _ => []
  report := fun _ _ => []

/-- What a short soak makes of the loopback. -/
def soakResult : EStateM.Result Fault Loopback (SoakReport × SoakLocals) :=
  runSoak loopbackWorld loopbackSetup (List.foldl Double.add (.finite 0)) 10 {}

set_option maxRecDepth 100000 in
theorem soakResult_passed : (returned soakResult).map (fun result => (result.1.1.passed,
    result.1.1.scenarioResults.map (·.successfulCycles), result.1.1.counters.reconnectCount)) =
      some (true, [3, 2], 1) := by
  decide +kernel

end EmsDnp3.Python
