import EmsDnp3.System.TraceInvariant

/-!
# The two ends of a trace agree

In every reachable state the host's current trace and its decoder agree, so every read result
is accepted, and the decoder reports a gap or a truncation exactly when there was one.
-/

namespace EmsDnp3.System

open EmsDnp3.Native EmsDnp3.Python

/-! ## Runs -/

theorem take_eq {p : ProtocolTrace} {t : Trace} (running : p.trace = some t) (m : Nat) :
    p.take m = (readOf m t, { p with trace := some (afterRead m t) }) := by
  simp only [ProtocolTrace.take, running]
  rfl

/-- What a read that was admitted asked for. -/
theorem enterRead_ok {p : ProtocolTrace} {traceId : Text} {m timeout : Nat} {waits : Bool}
    (entered : p.enterRead traceId m timeout = .ok waits) : (1 ≤ m ∧ m ≤ 1024) ∧ ∃ t, p.trace = some t := by
  simp only [ProtocolTrace.enterRead] at entered
  split at entered
  · cases entered
  · next bounds =>
    split at entered
    · cases entered
    · next t running => exact ⟨by omega, t, running⟩

/-- A critical section that returns a read result. -/
structure Returns (o : Observed) (a : TraceAction) (m : Nat) (t : Trace) (result : ReadResult) : Prop where
  running : o.host.trace.trace = some t
  bounds : 1 ≤ m ∧ m ≤ 1024
  result : result = readOf m t
  trace : (o.host.step a).1.trace = { o.host.trace with trace := some (afterRead m t) }
  waiting : ∀ k ∈ (o.host.step a).1.waiting, k ∈ o.host.waiting

/-- A read result comes from a read that was admitted, at once or after its wait. -/
theorem Agrees.returns {o : Observed} (agrees : Agrees o) {a : TraceAction} {result : ReadResult}
    (returned : (o.host.step a).2 = some result) : ∃ m t, Returns o a m t result := by
  cases a with
  | start capacity => cases returned
  | record sessionId logger level message now => cases returned
  | stop traceId => cases returned
  | shutdown => cases returned
  | read traceId m timeout =>
    cases entered : o.host.trace.enterRead traceId m timeout with
    | error e => simp [TraceHost.step, entered] at returned
    | ok waits =>
      obtain ⟨bounds, t, running⟩ := enterRead_ok entered
      cases waits with
      | true => simp [TraceHost.step, entered] at returned
      | false =>
        have stepped : o.host.step (.read traceId m timeout) =
            ({ o.host with trace := { o.host.trace with trace := some (afterRead m t) } }, some (readOf m t)) := by
          simp only [TraceHost.step, entered, take_eq running]
        rw [stepped] at returned
        refine ⟨m, t, running, bounds, (Option.some.inj returned).symm, by rw [stepped], ?_⟩
        rw [stepped]
        exact fun k mem => mem
  | wake m =>
    simp only [TraceHost.step] at returned
    split at returned
    · next mem =>
      obtain ⟨bounds, started⟩ := agrees.waiting m mem
      obtain ⟨t, running⟩ := Option.isSome_iff_exists.mp started
      rw [take_eq running] at returned
      refine ⟨m, t, running, bounds, (Option.some.inj returned).symm, ?_, ?_⟩
      · simp only [TraceHost.step, if_pos mem, take_eq running]
      · simp only [TraceHost.step, if_pos mem, take_eq running]
        intro k inside
        exact List.mem_of_mem_erase inside
    · cases returned

/-- What a read result leads to. -/
theorem Observed.feed_eq {o : Observed} {m : Nat} {t : Trace} {records : List TraceRecord} (host : TraceHost)
    (agrees : AgreesOn o.history o.decoder o.delivered t) (batch : ReadBatch m t records) :
    o.feed host (readOf m t) = { o with
      host
      decoder := (o.decoder.decodeRecords (summaryOf (afterRead m t)) records records.isEmpty).1
      delivered := o.delivered ++ records.map (·.sequence) } := by
  rw [Observed.feed, batch.printed]
  dsimp only
  rw [agrees.accepts batch]
  rfl

/-- A read feeds the client with what it returned. -/
theorem Observed.step_eq_feed (o : Observed) {a : TraceAction} {result : ReadResult}
    (returned : (o.host.step a).2 = some result) : o.step a = o.feed (o.host.step a).1 result := by
  rw [Observed.step]
  split
  · next stepped => rw [stepped] at returned ⊢; rw [Option.some.inj returned]
  · next stepped => rw [stepped] at returned; cases returned

/-- A read keeps host and client in agreement. -/
theorem Agrees.readStep {o : Observed} (agrees : Agrees o) {a : TraceAction} {m : Nat} {t : Trace} {result : ReadResult}
    (returned : (o.host.step a).2 = some result) (returns : Returns o a m t result) : Agrees (o.step a) := by
  have on := agrees.trace t returns.running
  obtain ⟨records, batch⟩ := on.readBatch returns.bounds.1 returns.bounds.2
  rw [o.step_eq_feed returned, returns.result, Observed.feed_eq _ on batch]
  refine ⟨?_, fun k mem => ⟨(agrees.waiting k (returns.waiting k mem)).1, ?_⟩, fun t' running => ?_⟩
  · rw [returns.trace]
    exact agrees.ids
  · rw [returns.trace]
    rfl
  · have same : some (afterRead m t) = some t' := by
      rw [← running, returns.trace]
    obtain rfl := Option.some.inj same
    exact on.read returns.bounds.1 batch

/-- The host has changed, but neither its trace nor the reads that wait need another justification. -/
theorem Agrees.unchanged {o : Observed} (agrees : Agrees o) {host : TraceHost} (trace : host.trace = o.host.trace)
    (waiting : ∀ m ∈ host.waiting, m ∈ o.host.waiting ∨ ((1 ≤ m ∧ m ≤ 1024) ∧ o.host.trace.trace.isSome = true)) :
    Agrees (o.advance host none) := by
  rw [Observed.advance, if_pos (by rw [trace]), Option.toList_none, List.append_nil]
  refine ⟨trace ▸ agrees.ids, fun m mem => ?_, fun t running => agrees.trace t (trace ▸ running)⟩
  rw [trace]
  rcases waiting m mem with old | new
  · exact agrees.waiting m old
  · exact new

/-- The current trace has become another one that agrees. -/
theorem Agrees.updated {o : Observed} (agrees : Agrees o) {t : Trace} (line : Option LogLine)
    (on : AgreesOn (o.history ++ line.toList) o.decoder o.delivered t) :
    Agrees (o.advance { o.host with trace := { o.host.trace with trace := some t } } line) := by
  rw [Observed.advance, if_pos rfl]
  refine ⟨agrees.ids, fun m mem => ⟨(agrees.waiting m mem).1, rfl⟩, ?_⟩
  rintro t' ⟨⟩
  exact on

/-- A start keeps host and client in agreement. -/
theorem Agrees.startStep {o : Observed} (agrees : Agrees o) (capacity : Nat) :
    Agrees (o.advance { o.host with trace := (o.host.trace.start capacity).2 } none) := by
  have same : Agrees (o.advance { o.host with trace := o.host.trace } none) := agrees.unchanged rfl fun m mem => Or.inl mem
  unfold ProtocolTrace.start
  split
  · exact same
  split
  · exact same
  split
  · exact same
  split
  · exact same
  · next valid _ _ more =>
    have ids := agrees.ids
    rw [Observed.advance, if_neg (show o.host.trace.nextTrace + 1 ≠ o.host.trace.nextTrace by omega)]
    refine ⟨show o.host.trace.nextTrace + 1 ≤ _ by omega, fun m mem => ⟨(agrees.waiting m mem).1, rfl⟩, ?_⟩
    rintro t ⟨⟩
    exact .start (by omega) (by omega) (isTraceId_decimal (Nat.succ_pos _) (by omega))

/-- A record keeps host and client in agreement. -/
theorem Agrees.recordStep {o : Observed} (agrees : Agrees o) (bounded : o.Bounded) (sessionId : UInt64)
    (logger : Option CString) (level : Int) (message : Option CString) (now : UInt64) :
    Agrees (o.advance { o.host with trace := o.host.trace.record sessionId logger level message now }
      (o.taken (.record sessionId logger level message now))) := by
  cases running : o.host.trace.trace with
  | none =>
    have ignored : o.taken (.record sessionId logger level message now) = none := by simp [Observed.taken, running]
    rw [ignored, ProtocolTrace.record, running]
    exact agrees.unchanged rfl fun m mem => Or.inl mem
  | some t =>
    have notMax : t.sequence ≠ uint64Max := (bounded t running).ne
    by_cases accepted : t.active = true ∧ sessionId ≠ 0
    · obtain ⟨active, session⟩ := accepted
      have line : o.taken (.record sessionId logger level message now) =
          some ⟨t.sequence + 1, sessionId, logger, level, message, now⟩ := by
        simp [Observed.taken, running, active, session, notMax]
      rw [line, ProtocolTrace.record, running]
      simp only [active, session, notMax, Bool.not_true, decide_false, Bool.or_self, Bool.false_eq_true, if_false]
      exact agrees.updated _ ((agrees.trace t running).record rfl session (bounded t running))
    · have line : o.taken (.record sessionId logger level message now) = none := by
        simp only [Observed.taken, running]
        rw [if_neg]
        simpa using fun active session => absurd ⟨active, session⟩ accepted
      have ignored : (!t.active || decide (sessionId = 0)) = true := by
        simpa [or_iff_not_imp_left] using fun active => not_not.mp fun session => accepted ⟨active, session⟩
      rw [line, ProtocolTrace.record, running]
      simp only [ignored, if_true]
      exact agrees.unchanged rfl fun m mem => Or.inl mem

/-- A stop keeps host and client in agreement. -/
theorem Agrees.stopStep {o : Observed} (agrees : Agrees o) (traceId : Text) :
    Agrees (o.advance { o.host with trace := (o.host.trace.stop traceId).2 } none) := by
  have same : Agrees (o.advance { o.host with trace := o.host.trace } none) := agrees.unchanged rfl fun m mem => Or.inl mem
  unfold ProtocolTrace.stop
  split
  · exact same
  · next t running =>
    split
    · exact same
    · exact agrees.updated none (by simpa using (agrees.trace t running).stop)

/-- The shutdown keeps host and client in agreement. -/
theorem Agrees.shutdownStep {o : Observed} (agrees : Agrees o) :
    Agrees (o.advance { o.host with trace := o.host.trace.shutdown } none) := by
  unfold ProtocolTrace.shutdown
  cases running : o.host.trace.trace with
  | none => exact agrees.unchanged (by rw [Option.map_none, ← running]) fun m mem => Or.inl mem
  | some t => exact agrees.updated none (by simpa using (agrees.trace t running).stop)

/-- A critical section without a read result. -/
theorem Agrees.quietStep {o : Observed} (agrees : Agrees o) (bounded : o.Bounded) {a : TraceAction}
    (returned : (o.host.step a).2 = none) : Agrees (o.step a) := by
  have step : o.step a = o.advance (o.host.step a).1 (o.taken a) := by
    rw [Observed.step]
    split
    · next stepped => rw [stepped] at returned; cases returned
    · next stepped => rw [stepped]
  rw [step]
  cases a with
  | start capacity => exact agrees.startStep capacity
  | record sessionId logger level message now => exact agrees.recordStep bounded sessionId logger level message now
  | stop traceId => exact agrees.stopStep traceId
  | shutdown => exact agrees.shutdownStep
  | read traceId m timeout =>
    cases entered : o.host.trace.enterRead traceId m timeout with
    | error e =>
      simp only [TraceHost.step, entered]
      exact agrees.unchanged rfl fun k mem => Or.inl mem
    | ok waits =>
      cases waits with
      | false => simp [TraceHost.step, entered] at returned
      | true =>
        obtain ⟨bounds, t, running⟩ := enterRead_ok entered
        simp only [TraceHost.step, entered]
        refine agrees.unchanged rfl fun k mem => ?_
        rcases List.mem_cons.mp mem with rfl | old
        · exact Or.inr ⟨bounds, by rw [running]; rfl⟩
        · exact Or.inl old
  | wake m =>
    by_cases waits : m ∈ o.host.waiting
    · simp [TraceHost.step, waits] at returned
    · simp only [TraceHost.step, if_neg waits]
      exact agrees.unchanged rfl fun k mem => Or.inl mem

/-- **The agreement holds in every reachable state.** -/
theorem agrees_reachable {o : Observed} (reachable : Reachable o) : Agrees o := by
  induction reachable with
  | initial => exact ⟨Nat.zero_le _, by simp, by simp⟩
  | step a _ bounded ih =>
    rename_i o _
    cases returned : (o.host.step a).2 with
    | none => exact ih.quietStep bounded returned
    | some result =>
      obtain ⟨m, t, returns⟩ := ih.returns returned
      exact ih.readStep returned returns

/-! ## What was lost -/

/-- The trace took the line in, but neither delivered it nor still has it. -/
def Dropped (o : Observed) (t : Trace) (l : LogLine) : Prop :=
  l ∈ o.history ∧ l.sequence ∉ o.delivered ∧ l.record ∉ t.ring.toList

section
variable {history : List LogLine} {d : TraceDecoder} {delivered : List Nat} {t : Trace}

theorem AgreesOn.sequence_getElem (a : AgreesOn history d delivered t) {i : Nat} (inside : i < history.length) :
    history[i].sequence = i + 1 := by
  have := congrArg (fun numbers : List Nat => numbers[i]?) a.numbered
  simpa [inside, Nat.add_comm] using this

/-- A line is in the ring when it is one of the last. -/
theorem AgreesOn.mem_ring (a : AgreesOn history d delivered t) {l : LogLine} (mem : l ∈ history) :
    l.record ∈ t.ring.toList ↔ t.sequence - t.ring.queued < l.sequence := by
  rw [a.queue, ← List.map_drop]
  constructor
  · intro inRing
    obtain ⟨k, inside, same⟩ := List.mem_map.mp inRing
    have sequence : k.sequence = l.sequence := congrArg Record.sequence same
    have := List.mem_map_of_mem (f := (·.sequence)) inside
    rw [List.map_drop, a.numbered, List.drop_range', List.mem_range'_1] at this
    omega
  · intro late
    obtain ⟨i, inside, rfl⟩ := List.mem_iff_getElem.mp mem
    rw [a.sequence_getElem inside] at late
    apply List.mem_map_of_mem
    apply List.mem_of_getElem? (i := i - (t.sequence - t.ring.queued))
    rw [List.getElem?_drop, Nat.add_sub_cancel' (by omega), List.getElem?_eq_getElem inside]

/-- The counter of drops is not zero when a line was dropped. -/
theorem AgreesOn.dropped_iff (a : AgreesOn history d delivered t) :
    t.dropped ≠ 0 ↔ ∃ l ∈ history, l.sequence ∉ delivered ∧ l.record ∉ t.ring.toList := by
  have counted := a.counted
  have size := a.sequence
  have nodup : delivered.Nodup := a.increasing.imp fun less => Nat.ne_of_lt less
  have subset : delivered.toFinset ⊆ Finset.Icc 1 (t.sequence - t.ring.queued) := by
    intro n mem
    exact Finset.mem_Icc.mpr (a.past n (List.mem_toFinset.mp mem))
  have card : delivered.toFinset.card = delivered.length := List.toFinset_card_of_nodup nodup
  constructor
  · intro lost
    obtain ⟨n, inRange, undelivered⟩ := Finset.exists_mem_notMem_of_card_lt_card
      (s := delivered.toFinset) (t := Finset.Icc 1 (t.sequence - t.ring.queued)) (by rw [card, Nat.card_Icc]; omega)
    rw [Finset.mem_Icc] at inRange
    have inside : n - 1 < history.length := by omega
    have number := a.sequence_getElem inside
    refine ⟨history[n - 1], List.getElem_mem _, ?_, ?_⟩
    · rw [number, Nat.sub_add_cancel inRange.1]
      exact fun mem => undelivered (List.mem_toFinset.mpr mem)
    · rw [a.mem_ring (List.getElem_mem _), number]
      omega
  · rintro ⟨l, mem, undelivered, notQueued⟩ zero
    rw [a.mem_ring mem] at notQueued
    have all : delivered.toFinset = Finset.Icc 1 (t.sequence - t.ring.queued) := by
      apply Finset.eq_of_subset_of_card_le subset
      rw [card, Nat.card_Icc]
      omega
    obtain ⟨i, inside, rfl⟩ := List.mem_iff_getElem.mp mem
    rw [a.sequence_getElem inside] at undelivered notQueued
    apply undelivered
    rw [← List.mem_toFinset, all, Finset.mem_Icc]
    omega

/-- Truncation is counted exactly if a line was altered. -/
theorem AgreesOn.truncated_iff (a : AgreesOn history d delivered t) :
    t.truncated ≠ 0 ↔ ∃ l ∈ history, l.Altered := by
  rw [a.truncated, ne_eq, List.length_eq_zero_iff, List.filter_eq_nil_iff]
  simp only [LogLine.truncated_iff, not_forall, not_not, exists_prop]

end

/-- **The two ends agree.** Every read result of every run is accepted by the decoder of its trace;
the sequences delivered so far increase; the decoder reports a gap exactly when the trace has dropped
a record, and a truncation exactly when it has altered a text; and what was delivered, is queued or
was dropped adds up to the last sequence. -/
theorem read_agrees {o : Observed} (reachable : Reachable o) {a : TraceAction} {result : ReadResult}
    (returned : (o.host.step a).2 = some result) :
    ∃ value batch t, result.json? = some value ∧
      o.decoder.decodeBatch value = .ok ((o.step a).decoder, batch) ∧
      (o.step a).host.trace.trace = some t ∧ result.snapshot = t.snapshotLocked ∧
      (o.step a).delivered = o.delivered ++ batch.records.map (·.sequence) ∧
      (o.step a).delivered.Pairwise (· < ·) ∧
      (.recordSequenceGap ∈ batch.issues ↔ ∃ l, Dropped (o.step a) t l) ∧
      (.truncatedRecords ∈ batch.issues ↔ ∃ l ∈ (o.step a).history, l.Altered) ∧
      (o.step a).delivered.length + result.snapshot.queued + result.snapshot.dropped = result.snapshot.sequence := by
  have agrees := agrees_reachable reachable
  obtain ⟨m, t, returns⟩ := agrees.returns returned
  have on := agrees.trace t returns.running
  obtain ⟨records, batch⟩ := on.readBatch returns.bounds.1 returns.bounds.2
  have step := o.step_eq_feed returned
  rw [returns.result, Observed.feed_eq _ on batch] at step
  have trace : (o.host.step a).1.trace.trace = some (afterRead m t) := by rw [returns.trace]
  have after := on.read returns.bounds.1 batch
  obtain ⟨decoded, lastSummary⟩ := on.decodedRead returns.bounds.1 batch
  have printed := batch.printed
  rw [← returns.result] at printed
  refine ⟨_, (o.decoder.decodeRecords (summaryOf (afterRead m t)) records records.isEmpty).2, afterRead m t, printed,
    ?_, ?_, ?_, ?_, ?_, ?_, ?_, ?_⟩
  · rw [on.accepts batch, step]
  · rw [step]
    exact trace
  · rw [returns.result]
    rfl
  · rw [step]
    rfl
  · rw [step]
    exact after.increasing
  · have drops : reportedDrops (o.decoder.decodeRecords (summaryOf (afterRead m t)) records records.isEmpty).1 =
        (afterRead m t).dropped := by
      rw [reportedDrops, lastSummary]
      rfl
    rw [step]
    refine decoded.gap.trans ?_
    rw [drops, after.dropped_iff]
    rfl
  · have cuts : reportedTruncations (o.decoder.decodeRecords (summaryOf (afterRead m t)) records records.isEmpty).1 =
        (afterRead m t).truncated := by
      rw [reportedTruncations, lastSummary]
      rfl
    rw [step]
    refine decoded.cut.trans ?_
    rw [cuts, after.truncated_iff]
  · rw [step, returns.result]
    exact after.counted

/-- A log line of the channel, given as its bytes. -/
def exampleLine (message : List Byte) (noNul : ∀ b ∈ message, b ≠ Byte.ofNat 0) (now : UInt64) : TraceAction :=
  .record 1 (some ⟨[], by simp⟩) 8 (some ⟨message, noNul⟩) now

/-- Two lines in a ring for one, the second of them not UTF-8. -/
def exampleObserved : Observed :=
  ((({} : Observed).step (.start 1)).step (exampleLine (octets [0x41]) (by decide +kernel) 10)).step
    (exampleLine (octets [0xFF]) (by decide +kernel) 20)

/-- A read behind a dropped and a truncated record. -/
theorem read_agrees_example : ∃ (result : ReadResult) (batch : TraceBatch),
    (exampleObserved.host.step (.read (text "trace-1") 10 0)).2 = some result ∧
    .recordSequenceGap ∈ batch.issues ∧ .truncatedRecords ∈ batch.issues ∧
    (exampleObserved.step (.read (text "trace-1") 10 0)).delivered = [2] := by
  have reachable : Reachable exampleObserved := by
    refine .step _ (.step _ (.step _ .initial ?_) ?_) ?_
    · intro t running
      cases running
    · rintro t ⟨⟩
      decide
    · rintro t ⟨⟩
      decide
  obtain ⟨result, returned⟩ : ∃ result, (exampleObserved.host.step (.read (text "trace-1") 10 0)).2 = some result :=
    Option.isSome_iff_exists.mp (by decide +kernel)
  obtain ⟨value, batch, t, -, -, trace, -, -, -, gap, cut, -⟩ := read_agrees reachable returned
  have delivered : (exampleObserved.step (.read (text "trace-1") 10 0)).delivered = [2] := by decide +kernel
  refine ⟨result, batch, returned, gap.mpr ?_, cut.mpr ?_, delivered⟩
  · obtain rfl := Option.some.inj trace
    exact ⟨⟨1, 1, some ⟨[], by simp⟩, 8, some ⟨octets [0x41], by decide +kernel⟩, 10⟩, List.mem_cons_self,
      by rw [delivered]; decide, by decide +kernel⟩
  · exact ⟨⟨2, 1, some ⟨[], by simp⟩, 8, some ⟨octets [0xFF], by decide +kernel⟩, 20⟩, List.mem_cons_of_mem _ List.mem_cons_self,
      Or.inr (by decide +kernel)⟩

end EmsDnp3.System
