import EmsDnp3.Python.EvidenceChain
import EmsDnp3.Python.PerformanceVerdict
import EmsDnp3.Python.SoakHistory

/-!
# The cycles of a soak run

What each step of `run_soak` keeps. The loop holds its counters in step with the cycles, and each way out of it other
than the end of the target duration leaves a status that no verdict accepts.
-/

namespace EmsDnp3.Python

open Effect

/-! ## Evidence -/

/-- A file stands as it was encoded. -/
def EvidenceWriter.Holds (tools : EvidenceTools) (w : EvidenceWriter) (file : EvidenceFile) (value : Json) : Prop :=
  ∃ bytes, tools.encode value = some bytes ∧ w.directory.lookup file.name = some bytes

/-- The preflight record stands, and only checkpoints are ever removed. -/
structure EvidenceWriter.Keeps (tools : EvidenceTools) (preflight : Json) (w : EvidenceWriter) : Prop where
  preflight : w.Holds tools .preflight preflight
  paths : ∀ e ∈ w.checkpoints, ∃ n, e.path = (EvidenceFile.checkpoint n).name

namespace EvidenceWriter

section
variable {tools : EvidenceTools} {limits : EvidenceLimits} {preflight : Json} {w : EvidenceWriter}

/-- A write of another file keeps a file. -/
theorem Holds.write {file other : EvidenceFile} {kept : Json} (holds : w.Holds tools file kept) (apart : file ≠ other)
    (answers : WriteAnswers) (value : Json) (pending : Nat) :
    (w.write tools limits answers other.name value pending).2.Holds tools file kept := by
  obtain ⟨bytes, encodes, here⟩ := holds
  rcases write_cases tools limits answers other.name value pending w with ⟨e, failed⟩ | ⟨encoded, old, -, -, -, -, written⟩
  · rw [failed]
    exact ⟨bytes, encodes, here⟩
  · rw [written]
    refine ⟨bytes, encodes, ?_⟩
    exact (AList.lookup_insert_ne (by simpa using apart)).trans here

/-- A write that returns leaves its file. -/
theorem write_holds {answers : WriteAnswers} {file : EvidenceFile} {value : Json} {pending : Nat} {digest : Text}
    (ok : (w.write tools limits answers file.name value pending).1 = .ok digest) :
    (w.write tools limits answers file.name value pending).2.Holds tools file value := by
  rcases write_cases tools limits answers file.name value pending w with ⟨e, failed⟩ | ⟨encoded, old, encodes, -, -, -, written⟩
  · rw [failed] at ok
    cases ok
  · rw [written]
    exact ⟨encoded, encodes, AList.lookup_insert _⟩

theorem write_checkpoints (answers : WriteAnswers) (name : Text) (value : Json) (pending : Nat) :
    (w.write tools limits answers name value pending).2.checkpoints = w.checkpoints := by
  rcases write_cases tools limits answers name value pending w with ⟨e, failed⟩ | ⟨encoded, old, -, -, -, -, written⟩
  · rw [failed]
  · rw [written]

/-- What is true once the preflight record is written. -/
theorem writePreflight_keeps {answers : WriteAnswers} {value : Json}
    (ok : (({} : EvidenceWriter).writePreflight tools limits answers value).1.mapError Fault.ofWriter = .ok ()) :
    (({} : EvidenceWriter).writePreflight tools limits answers value).2.Keeps tools value := by
  unfold EvidenceWriter.writePreflight at ok ⊢
  dsimp only at ok ⊢
  cases digest : (({} : EvidenceWriter).write tools limits answers EvidenceFile.preflight.name value 0).1 with
  | ok _ => exact ⟨write_holds digest, by simp [write_checkpoints]⟩
  | error e =>
    rw [digest] at ok
    cases ok

/-- A write of another file keeps the preflight. -/
theorem Keeps.write (keeps : w.Keeps tools preflight) (limits : EvidenceLimits) {file : EvidenceFile}
    (other : file ≠ .preflight) (answers : WriteAnswers) (value : Json) (pending : Nat) :
    (w.write tools limits answers file.name value pending).2.Keeps tools preflight := by
  refine ⟨keeps.preflight.write (Ne.symm other) answers value pending, ?_⟩
  rw [write_checkpoints]
  exact keeps.paths

/-- A rotation removes a checkpoint. -/
theorem Keeps.rotate (keeps : w.Keeps tools preflight) (limits : EvidenceLimits) (answers : CheckpointAnswers)
    (sequence : Nat) : (w.rotate tools limits answers sequence).2.Keeps tools preflight := by
  unfold EvidenceWriter.rotate
  split
  · split
    · exact keeps
    · next old rest retained =>
      have other : EvidenceFile.anchor ≠ .preflight := by simp
      have kept := keeps.write limits other answers.anchor
        (anchorValue old ((rest.head?.map RetainedCheckpoint.sequence).getD sequence) answers.updatedUtc) old.size
      dsimp only
      split
      · next written =>
        rw [written] at kept
        exact kept
      · next written =>
        rw [written] at kept
        split
        · obtain ⟨bytes, encodes, here⟩ := kept.preflight
          obtain ⟨n, path⟩ := keeps.paths old (by rw [retained]; exact List.mem_cons_self)
          refine ⟨⟨bytes, encodes, ?_⟩, fun e mem => keeps.paths e (by rw [retained]; exact List.mem_cons_of_mem _ mem)⟩
          rw [path]
          exact (AList.lookup_erase_ne (by simp)).trans here
        · exact kept
  · exact keeps

/-- A checkpoint call keeps the preflight record, and leaves its file if it returns. -/
theorem Keeps.writeCheckpoint (keeps : w.Keeps tools preflight) (answers : CheckpointAnswers) (sequence : Nat)
    (value : List (Text × Json)) : (w.writeCheckpoint tools limits answers sequence value).2.Keeps tools preflight ∧
      ((w.writeCheckpoint tools limits answers sequence value).1 = .ok () → ∃ written,
        (w.writeCheckpoint tools limits answers sequence value).2.Holds tools (.checkpoint sequence) written) := by
  have rotated := keeps.rotate limits answers sequence
  unfold EvidenceWriter.writeCheckpoint
  split
  · next failed =>
    rw [failed] at rotated
    exact ⟨rotated, by rintro ⟨⟩⟩
  · next w₁ done =>
    rw [done] at rotated
    let file := checkpointValue sequence value w₁.previousSha256
    have other : EvidenceFile.checkpoint sequence ≠ .preflight := by simp
    have kept := rotated.write limits other answers.file file 0
    dsimp only
    split
    · next failed =>
      rw [failed] at kept
      exact ⟨kept, by rintro ⟨⟩⟩
    · next digest w₂ written =>
      have holds : w₂.Holds tools (.checkpoint sequence) file := by
        have ok : (w₁.write tools limits answers.file (EvidenceFile.checkpoint sequence).name file 0).1 = .ok digest :=
          congrArg Prod.fst written
        have stands := write_holds ok
        rw [written] at stands
        exact stands
      rw [written] at kept
      split
      · refine ⟨⟨kept.preflight, ?_⟩, fun _ => ⟨file, holds⟩⟩
        intro e mem
        rcases List.mem_append.mp mem with old | new
        · exact kept.paths e old
        · exact ⟨sequence, by rw [List.mem_singleton.mp new]⟩
      · exact ⟨kept, by rintro ⟨⟩⟩

end

end EvidenceWriter

/-! ## The local variables -/

/-- The counters have followed the states that were drained and observed. -/
structure ChannelCounters.Followed (observed : List Text) (c c' : ChannelCounters) : Prop where
  counter : c'.counter = (observed.map isOpenText).foldl FallCounter.note c.counter
  last : c'.observedChannelState = observed.getLastD c.observedChannelState
  dropped : c.channelEventDroppedTotal = 0 → c'.channelEventDroppedTotal = 0

/-- What drains, statuses and cycles leave of the local variables. -/
structure SoakLocals.Moved (setup : SoakSetup) (observed : List Text) (records : List CycleRecord) (l l' : SoakLocals) :
    Prop where
  latencies : ∀ scenarioId, l'.latenciesOf scenarioId =
    l.latenciesOf scenarioId ++ (records.filter fun r => r.scenarioId = scenarioId).map (·.duration)
  counts : ∀ scenarioId, l'.countOf scenarioId =
    l.countOf scenarioId + (records.filter fun r => r.scenarioId = scenarioId).length
  overflow : l'.captureTotals.queueOverflow =
    l.captureTotals.queueOverflow + (records.map CycleRecord.queueOverflow).sum
  failureCount : l'.failureCount = l.failureCount
  cycleCount : l'.cycleCount = l.cycleCount + records.length
  start : l'.start = l.start
  counters : l.counters.Followed observed l'.counters
  keeps : l.writer.Keeps setup.tools setup.preflight → l'.writer.Keeps setup.tools setup.preflight

/-- The local variables after so many drained and observed states and so many cycles that succeeded. -/
structure SoakLocals.Tallied (setup : SoakSetup) (observed : List Text) (records : List CycleRecord) (l : SoakLocals) :
    Prop where
  latencies : ∀ scenarioId, l.latenciesOf scenarioId =
    (records.filter fun r => r.scenarioId = scenarioId).map (·.duration)
  counts : ∀ scenarioId, l.countOf scenarioId = (records.filter fun r => r.scenarioId = scenarioId).length
  overflow : l.captureTotals.queueOverflow = (records.map CycleRecord.queueOverflow).sum
  failureCount : l.failureCount = 0
  cycleCount : l.cycleCount = records.length
  reconnects : l.counters.reconnectCount = falls true (observed.map isOpenText)
  tracked : l.counters.observedChannelState = observed.getLastD (text "OPEN")
  dropped : l.counters.channelEventDroppedTotal = 0
  keeps : l.writer.Keeps setup.tools setup.preflight

theorem getLastD_append {α : Type} (as bs : List α) (a : α) : (as ++ bs).getLastD a = bs.getLastD (as.getLastD a) := by
  induction as generalizing a with
  | nil => rfl
  | cons b as ih => rw [List.cons_append, List.getLastD_cons, List.getLastD_cons, ih]

namespace ChannelCounters

section
variable {a b observed : List Text} {c c' c'' : ChannelCounters}

theorem Followed.refl (c : ChannelCounters) : Followed [] c c := ⟨rfl, rfl, id⟩

theorem Followed.trans (first : Followed a c c') (second : Followed b c' c'') : Followed (a ++ b) c c'' where
  counter := by rw [second.counter, first.counter, List.map_append, List.foldl_append]
  last := by rw [second.last, first.last, getLastD_append]
  dropped := second.dropped ∘ first.dropped

/-- The count and the state that the counters come to from an open channel. -/
theorem Followed.open_ (followed : Followed observed c c') (count : c.reconnectCount = 0)
    (tracked : c.observedChannelState = text "OPEN") : c'.reconnectCount = falls true (observed.map isOpenText) ∧
      c'.observedChannelState = observed.getLastD (text "OPEN") := by
  have counter := congrArg FallCounter.count followed.counter
  rw [FallCounter.notes] at counter
  constructor
  · simpa [ChannelCounters.counter, count, tracked, isOpenText] using counter
  · rw [followed.last, tracked]

/-- Observing states follows them. -/
theorem foldl_observe (observed : List Text) (c : ChannelCounters) :
    Followed observed c (observed.foldl ChannelCounters.observe c) := by
  induction observed generalizing c with
  | nil => exact .refl c
  | cons state rest ih =>
    have first : Followed [state] c (c.observe state) := ⟨counter_observe c state, rfl, id⟩
    exact first.trans (ih (c.observe state))

/-- A drain that is counted. -/
theorem observeChannelEvents_followed {allowed dropped : Nat} {states : List Text}
    (ok : (c.observeChannelEvents allowed states dropped).1 = .ok ()) :
    dropped = 0 ∧ Followed states c (c.observeChannelEvents allowed states dropped).2 := by
  unfold ChannelCounters.observeChannelEvents at ok ⊢
  dsimp only at ok ⊢
  split at ok
  · cases ok
  · next same =>
    rw [if_neg same, checkReconnects_counters]
    simp only [ne_eq, not_not] at same
    subst same
    refine ⟨rfl, ?_⟩
    have folded := foldl_observe states
      { c with channelEventCount := c.channelEventCount + states.length,
               channelEventDroppedTotal := max c.channelEventDroppedTotal 0 }
    exact ⟨folded.counter, folded.last, fun none_ => folded.dropped (by simpa using none_)⟩

/-- A snapshot that is counted. -/
theorem observeStatus_followed {allowed : Nat} {status : Json} (ok : (c.observeStatus allowed status).1 = .ok ()) :
    ∃ state, statusState status = some (.str state) ∧ Followed [state] c (c.observeStatus allowed status).2 := by
  unfold ChannelCounters.observeStatus at ok ⊢
  split at ok
  · next state shown =>
    split at ok
    · next known =>
      refine ⟨state, shown, ?_⟩
      rw [if_pos known, checkReconnects_counters]
      exact foldl_observe [state] c
    · cases ok
  · cases ok

end

end ChannelCounters

namespace SoakLocals

section
variable {setup : SoakSetup} {observed observed' : List Text} {records records' : List CycleRecord}
  {l l' l'' : SoakLocals}

theorem Moved.refl (setup : SoakSetup) (l : SoakLocals) : Moved setup [] [] l l :=
  ⟨by simp, by simp, rfl, rfl, rfl, rfl, .refl _, id⟩

/-- One move after another. -/
theorem Moved.trans (first : Moved setup observed records l l') (second : Moved setup observed' records' l' l'') :
    Moved setup (observed ++ observed') (records ++ records') l l'' where
  latencies scenarioId := by
    rw [second.latencies, first.latencies, List.filter_append, List.map_append, List.append_assoc]
  counts scenarioId := by rw [second.counts, first.counts, List.filter_append, List.length_append, Nat.add_assoc]
  overflow := by rw [second.overflow, first.overflow, List.map_append, List.sum_append, Nat.add_assoc]
  failureCount := second.failureCount.trans first.failureCount
  cycleCount := by rw [second.cycleCount, first.cycleCount, List.length_append, Nat.add_assoc]
  start := second.start.trans first.start
  counters := first.counters.trans second.counters
  keeps := second.keeps ∘ first.keeps

/-- A step of the counters. -/
theorem Moved.counters_only {c : ChannelCounters} (followed : l.counters.Followed observed c) :
    Moved setup observed [] l { l with counters := c } :=
  ⟨by simp [latenciesOf], by simp [countOf], rfl, rfl, rfl, rfl, followed, id⟩

/-- A cycle that succeeded and is counted. -/
theorem Moved.succeed (r : CycleRecord) :
    Moved setup [] [r] l (l.succeed r.scenarioId r.duration r.run.2).endCycle where
  latencies scenarioId := by
    unfold latenciesOf SoakLocals.endCycle SoakLocals.succeed
    dsimp only
    rw [Dict.get?_set]
    split
    · next same => simp [latenciesOf, same]
    · next differs => simp [differs]
  counts scenarioId := by
    unfold countOf SoakLocals.endCycle SoakLocals.succeed
    dsimp only
    rw [Dict.get?_set]
    split
    · next same => simp [countOf, same]
    · next differs => simp [differs]
  overflow := by
    cases captured : r.run.2 <;> simp [SoakLocals.endCycle, SoakLocals.succeed, CycleRecord.queueOverflow, captured]
  failureCount := rfl
  cycleCount := rfl
  start := rfl
  counters := .refl _
  keeps := id

/-- A tally moves along. -/
theorem Tallied.moved (tallied : Tallied setup observed records l) (moved : Moved setup observed' records' l l') :
    Tallied setup (observed ++ observed') (records ++ records') l' := by
  have counter := congrArg FallCounter.count moved.counters.counter
  rw [FallCounter.notes] at counter
  constructor
  · intro scenarioId
    rw [moved.latencies, tallied.latencies, List.filter_append, List.map_append]
  · intro scenarioId
    rw [moved.counts, tallied.counts, List.filter_append, List.length_append]
  · rw [moved.overflow, tallied.overflow, List.map_append, List.sum_append]
  · exact moved.failureCount.trans tallied.failureCount
  · rw [moved.cycleCount, tallied.cycleCount, List.length_append]
  · have up : isOpenText (observed.getLastD (text "OPEN")) = (observed.map isOpenText).getLastD true :=
      (List.getLastD_map (f := isOpenText)).symm
    rw [List.map_append, falls_append, ← up, ← tallied.tracked, ← tallied.reconnects]
    exact counter
  · rw [moved.counters.last, tallied.tracked, getLastD_append]
  · exact moved.counters.dropped tallied.dropped
  · exact moved.keeps tallied.keeps

end

end SoakLocals

/-! ## Steps -/

section
variable {σ : Type} {world : SoakWorld σ} {setup : SoakSetup} {s s' : σ × SoakLocals}

/-- A step of the counters that raises nothing. -/
theorem onCounters_ok {f : ChannelCounters → Except SoakError Unit × ChannelCounters} (ok : onCounters f s = .ok () s') :
    (f s.2.counters).1 = .ok () ∧ s' = (s.1, { s.2 with counters := (f s.2.counters).2 }) := by
  unfold onCounters at ok
  split at ok
  · next passes => exact ⟨passes, (EStateM.Result.ok.inj ok).2.symm⟩
  · cases ok

/-- A call of the writer that raises nothing. -/
theorem onWriter_ok {f : EvidenceWriter → Except EvidenceError Unit × EvidenceWriter} (ok : onWriter f s = .ok () s') :
    (f s.2.writer).1 = .ok () ∧ s' = (s.1, { s.2 with writer := (f s.2.writer).2 }) := by
  unfold onWriter at ok
  split at ok
  · next passes => exact ⟨passes, (EStateM.Result.ok.inj ok).2.symm⟩
  · cases ok

/-- A drain whose total of dropped events is zero has taken the batches up to the last. -/
theorem drainChannelEvents_ok {batches : Nat} {before states : List Text} {w w' : σ}
    (ok : drainChannelEvents world batches before w = .ok (states, 0) w') :
    ∃ more, states = before ++ more ∧ Drained world w more w' := by
  induction batches generalizing before w with
  | zero => exact (throw_ok_iff.mp ok).elim
  | succ batches ih =>
    obtain ⟨batch, u, received, ok⟩ := bind_ok_iff.mp ok
    obtain ⟨⟨more, remaining, dropped⟩, v, read, ok⟩ := bind_ok_iff.mp ok
    obtain ⟨parsed, rfl⟩ := outcome_ok_iff.mp read
    have parsed := mapError_ok_iff.mp parsed
    dsimp only at ok
    split at ok
    · next last =>
      obtain ⟨same, rfl⟩ := pure_ok_iff.mp ok
      obtain ⟨rfl, rfl⟩ := Prod.mk.inj same
      subst last
      exact ⟨more, rfl, .last received parsed⟩
    · next left =>
      obtain ⟨rest, rfl, others⟩ := ih ok
      exact ⟨more ++ rest, List.append_assoc .., .more received parsed left others⟩

/-- A drain that returns has observed what it drained. -/
theorem observeChannelEvents_ok (ok : observeChannelEvents world setup s = .ok () s') :
    ∃ states, Drained world s.1 states s'.1 ∧ s.2.counters.Followed states s'.2.counters ∧
      s'.2 = { s.2 with counters := s'.2.counters } := by
  obtain ⟨⟨states, dropped⟩, u, drained, ok⟩ := bind_ok_iff.mp ok
  obtain ⟨drained, same⟩ := onFst_ok_iff.mp drained
  obtain ⟨passes, rfl⟩ := onCounters_ok ok
  obtain ⟨rfl, followed⟩ := ChannelCounters.observeChannelEvents_followed passes
  obtain ⟨states, rfl, drained⟩ := drainChannelEvents_ok drained
  rw [same]
  exact ⟨states, drained, followed, rfl⟩

/-- A drain moves nothing but what it observes. -/
theorem observeChannelEvents_moved (ok : observeChannelEvents world setup s = .ok () s') :
    ∃ states, Drained world s.1 states s'.1 ∧ SoakLocals.Moved setup states [] s.2 s'.2 := by
  obtain ⟨states, drained, followed, same⟩ := observeChannelEvents_ok ok
  refine ⟨states, drained, ?_⟩
  rw [same]
  exact .counters_only followed

/-- A status that returns has been observed. -/
theorem observeStatus_ok (ok : observeStatus world setup s = .ok () s') :
    ∃ status state, world.getStatus s.1 = .ok status s'.1 ∧ ChannelCounters.statusState status = some (.str state) ∧
      SoakLocals.Moved setup [state] [] s.2 s'.2 := by
  obtain ⟨status, u, read, ok⟩ := bind_ok_iff.mp ok
  obtain ⟨read, same⟩ := onFst_ok_iff.mp read
  obtain ⟨passes, rfl⟩ := onCounters_ok ok
  obtain ⟨state, shown, followed⟩ := ChannelCounters.observeStatus_followed passes
  rw [same]
  exact ⟨status, state, read, shown, .counters_only followed⟩

/-- A checkpoint asks for the host and for the answers of the file system, and leaves its file. -/
theorem checkpoint_ok {now : Double} (ok : checkpoint world setup now s = .ok () s') :
    Asides world s.1 s'.1 ∧ SoakLocals.Moved setup [] [] s.2 s'.2 ∧
      (s.2.writer.Keeps setup.tools setup.preflight →
        ∃ n written, s'.2.checkpointSequence = n + 1 ∧ s'.2.writer.Holds setup.tools (.checkpoint n) written) ∧
      s'.2 = { s.2 with writer := s'.2.writer, checkpointSequence := s'.2.checkpointSequence } := by
  obtain ⟨running, u, first, ok⟩ := bind_ok_iff.mp ok
  obtain ⟨answers, v, second, ok⟩ := bind_ok_iff.mp ok
  obtain ⟨l, x, locals, ok⟩ := bind_ok_iff.mp ok
  obtain ⟨rfl, rfl⟩ := snd_ok_iff.mp locals
  obtain ⟨_, y, written, ok⟩ := bind_ok_iff.mp ok
  obtain ⟨first, same⟩ := onFst_ok_iff.mp first
  obtain ⟨second, same'⟩ := onFst_ok_iff.mp second
  have same := same.trans same'
  obtain ⟨passes, rfl⟩ := onWriter_ok written
  obtain ⟨here, last⟩ := onSnd_ok_iff.mp ok
  rw [← same] at passes last
  have calls : Asides world s.1 s'.1 := here ▸ (Aside.host _ first).asides.trans (Aside.files _ second).asides
  rw [← last]
  refine ⟨calls, ⟨?_, ?_, rfl, rfl, rfl, rfl, .refl _, fun keeps => (keeps.writeCheckpoint _ _ _).1⟩, fun keeps => ?_, rfl⟩
  · simp [SoakLocals.latenciesOf]
  · simp [SoakLocals.countOf]
  · obtain ⟨value, holds⟩ := (keeps.writeCheckpoint _ _ _).2 passes
    exact ⟨s.2.checkpointSequence, value, rfl, holds⟩

theorem pause_ok {seconds : ℚ} (ok : pause world seconds s = .ok () s') : Asides world s.1 s'.1 ∧ s'.2 = s.2 := by
  unfold pause at ok
  split at ok
  · obtain ⟨-, rfl⟩ := pure_ok_iff.mp ok
    exact ⟨asides_refl _, rfl⟩
  · obtain ⟨slept, same⟩ := onFst_ok_iff.mp ok
    exact ⟨(Aside.sleep slept).asides, same.symm⟩

/-- A resource sample is taken or is not due. -/
theorem sampleResources_ok {now : Double} (ok : sampleResources world setup now s = .ok true s') :
    Asides world s.1 s'.1 ∧ s'.2 = { s.2 with resources := s'.2.resources, lastResource := s'.2.lastResource } := by
  obtain ⟨l, u, locals, ok⟩ := bind_ok_iff.mp ok
  obtain ⟨rfl, rfl⟩ := snd_ok_iff.mp locals
  split at ok
  · split at ok
    · obtain ⟨_, v, -, ok⟩ := bind_ok_iff.mp ok
      cases (pure_ok_iff.mp ok).1
    · obtain ⟨sample, v, taken, ok⟩ := bind_ok_iff.mp ok
      obtain ⟨_, x, added, ok⟩ := bind_ok_iff.mp ok
      obtain ⟨-, rfl⟩ := pure_ok_iff.mp ok
      obtain ⟨taken, same⟩ := onFst_ok_iff.mp taken
      obtain ⟨here, added⟩ := onSnd_ok_iff.mp added
      rw [← added, ← same, ← here]
      exact ⟨(Aside.sample _ taken).asides, rfl⟩
  · obtain ⟨-, rfl⟩ := pure_ok_iff.mp ok
    exact ⟨asides_refl _, rfl⟩

/-- Too many samples end the run. -/
theorem sampleResources_false {now : Double} (ok : sampleResources world setup now s = .ok false s') :
    s'.2.status = .resourceLimit := by
  obtain ⟨l, u, locals, ok⟩ := bind_ok_iff.mp ok
  split at ok
  · split at ok
    · obtain ⟨_, v, concluded, ok⟩ := bind_ok_iff.mp ok
      rw [← (pure_ok_iff.mp ok).2, ← (onSnd_ok_iff.mp concluded).2]
      rfl
    · obtain ⟨sample, v, -, ok⟩ := bind_ok_iff.mp ok
      obtain ⟨_, x, -, ok⟩ := bind_ok_iff.mp ok
      cases (pure_ok_iff.mp ok).1
  · cases (pure_ok_iff.mp ok).1

/-! ## Cycles -/

/-- An iteration that returned in `u`, and its latency. -/
structure IterationTook (world : SoakWorld σ) (scenario : ReadPerformanceScenario) (u : σ)
    (run : ReadTaskResult × Option CaptureResult) (duration : Double) (w' : σ) : Prop where
  iterated : ∃ v, executeIteration world.toReadClient scenario u = .ok run v ∧ Asides world v w'
  timed : soakDuration run.1.duration = .ok duration

/-- A scenario that returns was iterated and is recorded. -/
theorem scenarioBody_true {scenario : ReadPerformanceScenario} {started : Double}
    (ok : scenarioBody world setup scenario started s = .ok true s') :
    ∃ run duration, IterationTook world scenario s.1 run duration s'.1 ∧
      s'.2 = s.2.succeed scenario.scenarioId duration run.2 := by
  obtain ⟨run, u, iterated, ok⟩ := bind_ok_iff.mp ok
  obtain ⟨ended, v, clock, ok⟩ := bind_ok_iff.mp ok
  obtain ⟨iterated, same⟩ := onFst_ok_iff.mp iterated
  obtain ⟨clock, same'⟩ := onFst_ok_iff.mp clock
  have same := same.trans same'
  split at ok
  · obtain ⟨_, x, -, ok⟩ := bind_ok_iff.mp ok
    cases (pure_ok_iff.mp ok).1
  · obtain ⟨duration, x, timed, ok⟩ := bind_ok_iff.mp ok
    obtain ⟨finite, rfl⟩ := outcome_ok_iff.mp timed
    obtain ⟨l, y, locals, ok⟩ := bind_ok_iff.mp ok
    obtain ⟨rfl, rfl⟩ := snd_ok_iff.mp locals
    split at ok
    · obtain ⟨_, x, -, ok⟩ := bind_ok_iff.mp ok
      cases (pure_ok_iff.mp ok).1
    · obtain ⟨_, x, succeeded, ok⟩ := bind_ok_iff.mp ok
      obtain ⟨-, rfl⟩ := pure_ok_iff.mp ok
      obtain ⟨here, succeeded⟩ := onSnd_ok_iff.mp succeeded
      refine ⟨run, duration, ⟨⟨u.1, iterated, ?_⟩, finite⟩, ?_⟩
      · rw [← here]
        exact (Aside.clock _ clock).asides
      · rw [← succeeded, ← same]

/-- One that does not go on has set a status. -/
theorem scenarioBody_false {scenario : ReadPerformanceScenario} {started : Double}
    (ok : scenarioBody world setup scenario started s = .ok false s') : s'.2.status ≠ .completed := by
  obtain ⟨run, u, -, ok⟩ := bind_ok_iff.mp ok
  obtain ⟨ended, v, -, ok⟩ := bind_ok_iff.mp ok
  split at ok
  · obtain ⟨_, x, concluded, ok⟩ := bind_ok_iff.mp ok
    rw [← (pure_ok_iff.mp ok).2, ← (onSnd_ok_iff.mp concluded).2]
    exact SoakStatus.noConfusion
  · obtain ⟨duration, x, -, ok⟩ := bind_ok_iff.mp ok
    obtain ⟨l, y, -, ok⟩ := bind_ok_iff.mp ok
    split at ok
    · obtain ⟨_, x, concluded, ok⟩ := bind_ok_iff.mp ok
      rw [← (pure_ok_iff.mp ok).2, ← (onSnd_ok_iff.mp concluded).2]
      exact SoakStatus.noConfusion
    · obtain ⟨_, x, -, ok⟩ := bind_ok_iff.mp ok
      cases (pure_ok_iff.mp ok).1

/-- The scenario of a cycle that goes on has failed, or its iteration has returned. -/
theorem runCycleScenario_true {scenario : ReadPerformanceScenario}
    (ok : runCycleScenario world setup scenario s = .ok true s') :
    s'.2.failureCount ≠ 0 ∨ ∃ run duration u, Asides world s.1 u ∧ IterationTook world scenario u run duration s'.1 ∧
      s'.2 = s.2.succeed scenario.scenarioId duration run.2 := by
  obtain ⟨started, u, clock, ok⟩ := bind_ok_iff.mp ok
  obtain ⟨clock, same⟩ := onFst_ok_iff.mp clock
  obtain ⟨result, v, tried, ok⟩ := bind_ok_iff.mp ok
  cases result with
  | ok goOn =>
    obtain ⟨rfl, rfl⟩ := pure_ok_iff.mp ok
    obtain ⟨run, duration, took, succeeded⟩ := scenarioBody_true (attempt_ok tried)
    rw [← same] at succeeded
    exact .inr ⟨run, duration, u.1, (Aside.clock _ clock).asides, took, succeeded⟩
  | error e =>
    obtain ⟨_, x, failed, ok⟩ := bind_ok_iff.mp ok
    have failed := (onSnd_ok_iff.mp failed).2
    obtain ⟨l, y, locals, ok⟩ := bind_ok_iff.mp ok
    obtain ⟨rfl, rfl⟩ := snd_ok_iff.mp locals
    split at ok
    · obtain ⟨_, z, -, ok⟩ := bind_ok_iff.mp ok
      cases (pure_ok_iff.mp ok).1
    · obtain ⟨-, rfl⟩ := pure_ok_iff.mp ok
      rw [← failed]
      exact .inl (Nat.succ_ne_zero _)

/-- A cycle whose scenario does not go on has set a status. -/
theorem runCycleScenario_false {scenario : ReadPerformanceScenario}
    (ok : runCycleScenario world setup scenario s = .ok false s') : s'.2.status ≠ .completed := by
  obtain ⟨started, u, -, ok⟩ := bind_ok_iff.mp ok
  obtain ⟨result, v, tried, ok⟩ := bind_ok_iff.mp ok
  cases result with
  | ok goOn =>
    obtain ⟨rfl, rfl⟩ := pure_ok_iff.mp ok
    exact scenarioBody_false (attempt_ok tried)
  | error e =>
    obtain ⟨_, x, -, ok⟩ := bind_ok_iff.mp ok
    obtain ⟨l, y, -, ok⟩ := bind_ok_iff.mp ok
    split at ok
    · obtain ⟨_, z, concluded, ok⟩ := bind_ok_iff.mp ok
      rw [← (pure_ok_iff.mp ok).2, ← (onSnd_ok_iff.mp concluded).2]
      exact SoakStatus.noConfusion
    · cases (pure_ok_iff.mp ok).1

/-- A cycle that is finished is counted. -/
theorem finishCycle_ok (ok : finishCycle world setup s = .ok () s') :
    Asides world s.1 s'.1 ∧ SoakLocals.Moved setup [] [] s.2.endCycle s'.2 := by
  obtain ⟨_, u, counted, ok⟩ := bind_ok_iff.mp ok
  obtain ⟨now, v, clock, ok⟩ := bind_ok_iff.mp ok
  obtain ⟨here, counted⟩ := onSnd_ok_iff.mp counted
  obtain ⟨clock, same⟩ := onFst_ok_iff.mp clock
  have calls : Asides world s.1 v.1 := here ▸ (Aside.clock _ clock).asides
  rw [counted, same]
  obtain ⟨l, x, locals, ok⟩ := bind_ok_iff.mp ok
  obtain ⟨rfl, rfl⟩ := snd_ok_iff.mp locals
  split at ok
  · obtain ⟨_, y, written, ok⟩ := bind_ok_iff.mp ok
    obtain ⟨_, z, set, ok⟩ := bind_ok_iff.mp ok
    obtain ⟨files, moved, -, -⟩ := checkpoint_ok written
    obtain ⟨there, set⟩ := onSnd_ok_iff.mp set
    obtain ⟨slept, paused⟩ := pause_ok ok
    rw [← there] at slept
    refine ⟨calls.trans (files.trans slept), ?_⟩
    rw [paused, ← set]
    exact ⟨moved.latencies, moved.counts, moved.overflow, moved.failureCount, moved.cycleCount, moved.start,
      moved.counters, moved.keeps⟩
  · obtain ⟨slept, paused⟩ := pause_ok ok
    rw [paused]
    exact ⟨calls.trans slept, .refl setup v.2⟩

/-- A turn of the loop that goes on has failed, or it is a cycle that ran. -/
theorem cycleBody_true {now : Double} {w w₁ : σ} (clock : world.monotonic w = .ok now w₁)
    (early : ¬ setup.Reached s.2.start now) (asked : Asides world w₁ s.1)
    (ok : cycleBody world setup now s = .ok true s') : s'.2.failureCount ≠ 0 ∨
      ∃ r, CycleRan world setup s.2.start (setup.profile.scenarioAt s.2.cycleCount) w r s'.1 ∧
        SoakLocals.Moved setup r.observed [r] s.2 s'.2 := by
  obtain ⟨_, u, observed, ok⟩ := bind_ok_iff.mp ok
  obtain ⟨_, v, snapshot, ok⟩ := bind_ok_iff.mp ok
  obtain ⟨states, drained, first⟩ := observeChannelEvents_moved observed
  obtain ⟨status, state, read, shown, second⟩ := observeStatus_ok snapshot
  obtain ⟨sampled, x, sample, ok⟩ := bind_ok_iff.mp ok
  cases sampled with
  | false => cases (pure_ok_iff.mp ok).1
  | true =>
    obtain ⟨sampled, same⟩ := sampleResources_ok sample
    obtain ⟨l, y, locals, ok⟩ := bind_ok_iff.mp ok
    obtain ⟨rfl, rfl⟩ := snd_ok_iff.mp locals
    obtain ⟨goOn, z, ran, ok⟩ := bind_ok_iff.mp ok
    have moved := first.trans second
    have count : x.2.cycleCount = s.2.cycleCount := by
      rw [same]
      exact moved.cycleCount
    rw [count] at ran
    cases goOn with
    | false => cases (pure_ok_iff.mp ok).1
    | true =>
      obtain ⟨_, last, finished, ok⟩ := bind_ok_iff.mp ok
      obtain ⟨-, rfl⟩ := pure_ok_iff.mp ok
      obtain ⟨rest, ended⟩ := finishCycle_ok finished
      rcases runCycleScenario_true ran with failed | ⟨run, duration, before, started, took, succeeded⟩
      · exact .inl fun none_ => failed (ended.failureCount.symm.trans none_)
      · obtain ⟨after, iterated, timed⟩ := took.iterated
        let r : CycleRecord :=
          { scenarioId := (setup.profile.scenarioAt s.2.cycleCount).scenarioId, states, snapshot := state, run, duration }
        have here : SoakLocals.Moved setup (states ++ [state]) [] s.2 x.2 := by
          rw [same]
          exact ⟨moved.latencies, moved.counts, moved.overflow, moved.failureCount, moved.cycleCount, moved.start,
            moved.counters, moved.keeps⟩
        have cycle : SoakLocals.Moved setup [] [r] x.2 z.2.endCycle := by
          rw [succeeded]
          exact .succeed r
        have whole := here.trans (cycle.trans ended)
        simp only [List.append_nil, List.nil_append] at whole
        refine .inr ⟨r, ?_, whole⟩
        exact .intro clock early asked drained read shown (sampled.trans started) iterated (executeIteration_ok iterated)
          rfl took.timed (timed.trans rest)

/-- A cycle that does not go on has set a status. -/
theorem cycleBody_false {now : Double} (ok : cycleBody world setup now s = .ok false s') : s'.2.status ≠ .completed := by
  obtain ⟨_, u, -, ok⟩ := bind_ok_iff.mp ok
  obtain ⟨_, v, -, ok⟩ := bind_ok_iff.mp ok
  obtain ⟨sampled, x, sample, ok⟩ := bind_ok_iff.mp ok
  cases sampled with
  | false =>
    obtain ⟨-, rfl⟩ := pure_ok_iff.mp ok
    rw [sampleResources_false sample]
    exact SoakStatus.noConfusion
  | true =>
    obtain ⟨l, y, -, ok⟩ := bind_ok_iff.mp ok
    obtain ⟨goOn, z, ran, ok⟩ := bind_ok_iff.mp ok
    cases goOn with
    | false =>
      obtain ⟨-, rfl⟩ := pure_ok_iff.mp ok
      exact runCycleScenario_false ran
    | true =>
      obtain ⟨_, last, -, ok⟩ := bind_ok_iff.mp ok
      cases (pure_ok_iff.mp ok).1

/-- One turn of the loop. One that leaves it in a completed run has read a clock that shows the target. -/
theorem cycle_ok {goOn : Bool} (ok : cycle world setup s = .ok goOn s') :
    if goOn then s'.2.failureCount ≠ 0 ∨
      ∃ r, CycleRan world setup s.2.start (setup.profile.scenarioAt s.2.cycleCount) s.1 r s'.1 ∧
        SoakLocals.Moved setup r.observed [r] s.2 s'.2
    else s'.2.status = .completed → ∃ ended, CyclesRan world setup s.2.start s.2.cycleCount s.1 [] ended s'.1 ∧
      SoakLocals.Moved setup [] [] s.2 s'.2 := by
  obtain ⟨now, u, clock, ok⟩ := bind_ok_iff.mp ok
  obtain ⟨clock, same⟩ := onFst_ok_iff.mp clock
  obtain ⟨_, v, elapsed, ok⟩ := bind_ok_iff.mp ok
  obtain ⟨here, elapsed⟩ := onSnd_ok_iff.mp elapsed
  rw [← same] at elapsed
  obtain ⟨stop, x, asked, ok⟩ := bind_ok_iff.mp ok
  obtain ⟨asked, same'⟩ := onFst_ok_iff.mp asked
  rw [← here] at asked
  have elapsed := elapsed.trans same'
  split at ok
  · obtain ⟨_, y, concluded, ok⟩ := bind_ok_iff.mp ok
    obtain ⟨rfl, rfl⟩ := pure_ok_iff.mp ok
    rw [← (onSnd_ok_iff.mp concluded).2]
    exact SoakStatus.noConfusion
  · obtain ⟨running, y, host, ok⟩ := bind_ok_iff.mp ok
    obtain ⟨host, same''⟩ := onFst_ok_iff.mp host
    have elapsed := elapsed.trans same''
    have calls : Asides world u.1 y.1 := (Aside.stop _ asked).asides.trans (Aside.host _ host).asides
    obtain ⟨l, z, locals, ok⟩ := bind_ok_iff.mp ok
    obtain ⟨rfl, rfl⟩ := snd_ok_iff.mp locals
    split at ok
    · obtain ⟨_, z, concluded, ok⟩ := bind_ok_iff.mp ok
      obtain ⟨rfl, rfl⟩ := pure_ok_iff.mp ok
      rw [← (onSnd_ok_iff.mp concluded).2]
      exact SoakStatus.noConfusion
    · split at ok
      · next reached =>
        obtain ⟨_, z, concluded, ok⟩ := bind_ok_iff.mp ok
        obtain ⟨rfl, rfl⟩ := pure_ok_iff.mp ok
        obtain ⟨there, concluded⟩ := onSnd_ok_iff.mp concluded
        rw [← elapsed] at reached concluded
        rw [← there, ← concluded]
        intro _
        refine ⟨now, .intro (.nil _) clock reached calls, ?_, ?_, rfl, rfl, rfl, rfl, .refl _, id⟩
        · simp [SoakLocals.latenciesOf, SoakLocals.conclude]
        · simp [SoakLocals.countOf, SoakLocals.conclude]
      · next early =>
        cases goOn with
        | true =>
          rw [← elapsed] at early
          have start : y.2.start = s.2.start := by rw [← elapsed]
          have count : y.2.cycleCount = s.2.cycleCount := by rw [← elapsed]
          have turn := cycleBody_true clock (by rw [start]; exact early) calls ok
          rw [start, count] at turn
          refine turn.imp_right ?_
          rintro ⟨r, ran, moved⟩
          rw [← elapsed] at moved
          exact ⟨r, ran, moved.latencies, moved.counts, moved.overflow, moved.failureCount, moved.cycleCount,
            moved.start, moved.counters, moved.keeps⟩
        | false => exact fun completed => absurd completed (cycleBody_false ok)

/-- The loop, when it is left without a failure at the end of the target duration. -/
theorem cycles_ok {fuel : Nat} (ok : cycles world setup fuel s = .ok () s') (completed : s'.2.status = .completed)
    (none_ : s'.2.failureCount = 0) : ∃ records ended,
      CyclesRan world setup s.2.start s.2.cycleCount s.1 records ended s'.1 ∧
        SoakLocals.Moved setup (records.flatMap CycleRecord.observed) records s.2 s'.2 := by
  induction fuel generalizing s with
  | zero => exact (throw_ok_iff.mp ok).elim
  | succ fuel ih =>
    obtain ⟨goOn, u, turn, ok⟩ := bind_ok_iff.mp ok
    have turn := cycle_ok turn
    cases goOn with
    | false =>
      obtain ⟨-, rfl⟩ := pure_ok_iff.mp ok
      obtain ⟨ended, left, moved⟩ := turn completed
      exact ⟨[], ended, left, moved⟩
    | true =>
      obtain ⟨records, ended, later, moved⟩ := ih ok
      rcases turn with failed | ⟨r, ran, first⟩
      -- a failure would still be counted at the end
      · exact absurd (moved.failureCount.symm.trans none_) failed
      · refine ⟨r :: records, ended, ?_, first.trans moved⟩
        rw [first.start, first.cycleCount, List.length_singleton] at later
        cases later with
        | intro chain clock reached asked =>
          refine .intro ?_ clock reached asked
          rw [List.length_cons, PerformanceProfile.roundRobin_succ]
          exact .cons ran chain

end

end EmsDnp3.Python
