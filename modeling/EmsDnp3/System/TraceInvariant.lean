import EmsDnp3.System.TraceObserver

/-!
# Ring and decoder, step by step

What holds between a trace and its decoder (`AgreesOn`): the ring holds the end of the history,
what is not in it was delivered or dropped, and the decoder stands where the last read left it. A
start, a log line, a stop and a read keep it.
-/

namespace EmsDnp3.System

open EmsDnp3.Native EmsDnp3.Python

/-- The drops that the last read reported. -/
def reportedDrops (d : TraceDecoder) : Nat := (d.lastSummary.map (·.droppedRecords)).getD 0

/-- How many truncated records the client was told of. -/
def reportedTruncations (d : TraceDecoder) : Nat := (d.lastSummary.map (·.truncatedRecords)).getD 0

/-- The decoder stands where the last read left it. -/
structure DecodedTo (d : TraceDecoder) (t : Trace) : Prop where
  trace : d.traceId = none ∨ d.traceId = some t.traceId
  gap : .recordSequenceGap ∈ d.issues ↔ reportedDrops d ≠ 0
  cut : .truncatedRecords ∈ d.issues ↔ reportedTruncations d ≠ 0
  reported : reportedDrops d ≤ t.dropped ∧ reportedTruncations d ≤ t.truncated
  /-- What left the ring since was dropped. -/
  reached : d.lastSequence + t.dropped + t.ring.queued = reportedDrops d + t.sequence
  idle : t.ring.queued = 0 → t.dropped = reportedDrops d
  previous : ∀ p, d.lastSummary = some p → p.queueCapacity = t.ring.capacity ∧ p.lastSequence ≤ t.sequence ∧
    (p.state = .stopped → t.active = false)

/-- The ring holds the end of the history; what is not in it was delivered or dropped. -/
structure AgreesOn (history : List LogLine) (d : TraceDecoder) (delivered : List Nat) (t : Trace) : Prop where
  traceId : isTraceId t.traceId = true
  capacity : t.ring.capacity ≤ 65536
  numbered : history.map (·.sequence) = List.range' 1 history.length
  sessions : ∀ l ∈ history, l.sessionId ≠ 0
  sequence : t.sequence = history.length
  bounded : t.sequence ≤ maxUint64
  queue : t.ring.toList = (history.map (·.record)).drop (t.sequence - t.ring.queued)
  counted : delivered.length + t.ring.queued + t.dropped = t.sequence
  increasing : delivered.Pairwise (· < ·)
  past : ∀ n ∈ delivered, 1 ≤ n ∧ n ≤ t.sequence - t.ring.queued
  truncated : t.truncated = (history.filter (·.record.messageTruncated)).length
  decoded : DecodedTo d t

/-- Host and client agree on the trace that runs, if one does. -/
structure Agrees (o : Observed) : Prop where
  ids : o.host.trace.nextTrace ≤ uint64Max
  waiting : ∀ m ∈ o.host.waiting, (1 ≤ m ∧ m ≤ 1024) ∧ o.host.trace.trace.isSome = true
  trace : ∀ t, o.host.trace.trace = some t → AgreesOn o.history o.decoder o.delivered t

/-- The trace ids the host gives out are trace ids for the client. -/
theorem isTraceId_decimal {n : Nat} (positive : 0 < n) (bounded : n ≤ uint64Max) :
    isTraceId (text "trace-" ++ decimal n) = true := by
  obtain ⟨first, rest, split, nonzero⟩ := decimal_cons positive
  have digits : ∀ c ∈ first :: rest, isDigit c = true := fun c mem => decimal_isDigit (split ▸ mem)
  have short : (first :: rest).length ≤ 57 + 1 := by
    rw [← split]
    refine length_decimal_le (lt_of_le_of_lt bounded ?_)
    decide
  have prefix_ : (text "trace-" ++ (first :: rest)).take 6 = text "trace-" := List.take_left' rfl
  have suffix : (text "trace-" ++ (first :: rest)).drop 6 = first :: rest := List.drop_left' rfl
  rw [List.forall_mem_cons] at digits
  rw [List.length_cons] at short
  rw [split, isTraceId, suffix]
  simp only [prefix_, decide_true, Bool.true_and, Bool.and_eq_true, decide_eq_true_eq]
  exact ⟨⟨⟨digits.1, nonzero⟩, List.all_eq_true.mpr digits.2⟩, by omega⟩

section
variable {history : List LogLine} {d : TraceDecoder} {delivered : List Nat} {t : Trace}

/-- A fresh trace. -/
theorem AgreesOn.start {traceId : Text} {capacity : Nat} (positive : 0 < capacity) (small : capacity ≤ 65536)
    (id : isTraceId traceId = true) : AgreesOn [] {} [] { traceId, ring := .make capacity positive {} } where
  traceId := id
  capacity := by simpa using small
  numbered := rfl
  sessions := by simp
  sequence := rfl
  bounded := Nat.zero_le _
  queue := rfl
  counted := rfl
  increasing := .nil
  past := by simp
  truncated := rfl
  decoded :=
    { trace := Or.inl rfl
      gap := by simp [reportedDrops]
      cut := by simp [reportedTruncations]
      reported := ⟨le_rfl, le_rfl⟩
      reached := rfl
      idle := fun _ => rfl
      previous := by simp }

/-- Stopping changes no count. -/
theorem AgreesOn.stop (a : AgreesOn history d delivered t) :
    AgreesOn history d delivered { t with active := false } :=
  { a with
    decoded := { a.decoded with
      previous := fun p found => ⟨(a.decoded.previous p found).1, (a.decoded.previous p found).2.1, fun _ => rfl⟩ } }

/-- A full ring loses its oldest record. -/
theorem queued_append (t : Trace) (r : Record) : (t.append r).ring.queued =
    (if t.ring.queued = t.ring.capacity then t.ring.queued - 1 else t.ring.queued) + 1 := by
  show (t.ring.push r).queued = _
  rw [← Ring.length_toList, t.ring.toList_push r, List.length_append, List.length_singleton]
  split <;> simp

/-- The record that a full ring loses is counted, as long as the counter is not at its limit. -/
theorem dropped_append {t : Trace} (below : t.dropped < uint64Max) (r : Record) :
    (t.append r).dropped = t.dropped + (if t.ring.queued = t.ring.capacity then 1 else 0) := by
  show (if t.ring.queued = t.ring.capacity ∧ t.dropped ≠ uint64Max then t.dropped + 1 else t.dropped) = _
  have other : t.dropped ≠ uint64Max := by omega
  by_cases full : t.ring.queued = t.ring.capacity <;> simp [full, other]

theorem truncated_append {t : Trace} (below : t.truncated < uint64Max) (r : Record) :
    (t.append r).truncated = t.truncated + (if r.messageTruncated then 1 else 0) := by
  show (if r.messageTruncated ∧ t.truncated ≠ uint64Max then t.truncated + 1 else t.truncated) = _
  have other : t.truncated ≠ uint64Max := by omega
  by_cases cut : r.messageTruncated = true <;> simp [cut, other]

/-- Queued and dropped records together are one more. -/
theorem total_append {t : Trace} (below : t.dropped < uint64Max) (r : Record) :
    (t.append r).ring.queued + (t.append r).dropped = t.ring.queued + t.dropped + 1 := by
  have positive := t.ring.capacity_pos
  rw [queued_append, dropped_append below]
  split <;> omega

/-- The counters of a trace stay below the number of its records. -/
theorem AgreesOn.below (a : AgreesOn history d delivered t) (small : t.sequence < uint64Max) :
    t.dropped < uint64Max ∧ t.truncated < uint64Max := by
  have count := a.counted
  have size := a.sequence
  have truncatedBound : t.truncated ≤ history.length := by
    rw [a.truncated]
    exact List.length_filter_le _ _
  omega

/-- The ring holds the end of the longer history. -/
theorem AgreesOn.queue_append (a : AgreesOn history d delivered t) {l : LogLine} (next : l.sequence = t.sequence + 1) :
    (t.append l.record).ring.toList =
      ((history ++ [l]).map (·.record)).drop ((t.append l.record).sequence - (t.append l.record).ring.queued) := by
  have count := a.counted
  have size := a.sequence
  have fits : t.ring.queued ≤ t.ring.capacity := t.ring.fits
  have positive := t.ring.capacity_pos
  have length := queued_append t l.record
  have left : l.record.sequence - (t.append l.record).ring.queued =
      t.sequence - t.ring.queued + (if t.ring.queued = t.ring.capacity then 1 else 0) := by
    rw [length, show l.record.sequence = t.sequence + 1 from next]
    split <;> omega
  show (t.ring.push l.record).toList = (List.map _ _).drop (l.record.sequence - _)
  rw [t.ring.toList_push l.record, a.queue, left, List.map_append, List.map_singleton, List.drop_append_of_le_length]
  · split
    · rw [List.tail_drop]
    · rfl
  · rw [List.length_map]
    split <;> omega

/-- The decoder stands where it stood: what the push counts is behind the last read. -/
theorem DecodedTo.append (before : DecodedTo d t) {r : Record} (next : r.sequence = t.sequence + 1)
    (dropped : t.dropped < uint64Max) (truncated : t.truncated < uint64Max) : DecodedTo d (t.append r) := by
  have total := total_append dropped r
  have drops := dropped_append dropped r
  have cuts := truncated_append truncated r
  obtain ⟨reportedDropped, reportedTruncated⟩ := before.reported
  refine
    { trace := before.trace
      gap := before.gap
      cut := before.cut
      reported := ⟨?_, ?_⟩
      reached := ?_
      idle := ?_
      previous := ?_ }
  · omega
  · omega
  · have reached := before.reached
    show _ = _ + r.sequence
    omega
  · intro zero
    have length := queued_append t r
    omega
  · intro p found
    obtain ⟨same, last, stopped⟩ := before.previous p found
    refine ⟨same.trans (Ring.capacity_push _ _).symm, ?_, stopped⟩
    show _ ≤ r.sequence
    omega

/-- One log line more. -/
theorem AgreesOn.record (a : AgreesOn history d delivered t) {l : LogLine} (next : l.sequence = t.sequence + 1)
    (session : l.sessionId ≠ 0) (small : t.sequence < uint64Max) :
    AgreesOn (history ++ [l]) d delivered (t.append l.record) := by
  have recordSequence : l.record.sequence = t.sequence + 1 := next
  obtain ⟨dropped, truncated⟩ := a.below small
  have count := a.counted
  have total := total_append dropped l.record
  have drops := dropped_append dropped l.record
  refine
    { traceId := a.traceId
      capacity := ?_
      numbered := ?_
      sessions := ?_
      sequence := ?_
      bounded := ?_
      queue := a.queue_append next
      counted := ?_
      increasing := a.increasing
      past := ?_
      truncated := ?_
      decoded := a.decoded.append recordSequence dropped truncated }
  · have capacity : (t.append l.record).ring.capacity = t.ring.capacity := Ring.capacity_push _ _
    rw [capacity]
    exact a.capacity
  · rw [List.map_append, a.numbered, List.length_append, List.length_singleton, List.map_singleton, next, a.sequence,
      ← List.range'_append_1, Nat.add_comm 1]
    rfl
  · intro k mem
    rcases List.mem_append.mp mem with old | new
    · exact a.sessions k old
    · rwa [List.mem_singleton.mp new]
  · show l.record.sequence = _
    rw [recordSequence, a.sequence, List.length_append, List.length_singleton]
  · show l.record.sequence ≤ _
    rw [recordSequence]
    exact small
  · show _ = l.record.sequence
    omega
  · intro n mem
    have := a.past n mem
    show 1 ≤ n ∧ n ≤ l.record.sequence - _
    omega
  · rw [truncated_append truncated, List.filter_append, List.length_append, ← a.truncated]
    by_cases cut : l.record.messageTruncated = true <;> simp [cut]

/-- The trace after a read of at most `m` records. -/
def afterRead (m : Nat) (t : Trace) : Trace := { t with ring := (t.ring.takeFront (min t.ring.queued m)).2 }

/-- The result of that read. -/
def readOf (m : Nat) (t : Trace) : ReadResult :=
  ⟨(afterRead m t).snapshotLocked, (t.ring.takeFront (min t.ring.queued m)).1⟩

/-- The summary that the client reads in a snapshot. -/
def summaryOf (t : Trace) : TraceSummary where
  traceId := some t.traceId
  state := if t.active then .active else .stopped
  queueCapacity := t.ring.capacity
  queuedRecords := t.ring.queued
  droppedRecords := t.dropped
  truncatedRecords := t.truncated
  lastSequence := t.sequence
  complete := t.dropped = 0 && t.truncated = 0

/-- The reply of a read is a batch for the client. -/
theorem members_snapshotLocked (t : Trace) (records : List TraceRecord) :
    Json.object (t.snapshotLocked.members ++
      [("records", .arr (records.map (·.toDict))), ("timed_out", .bool records.isEmpty)]) =
      batchValue (summaryOf t) records := by
  have state : text t.snapshotLocked.state = text (summaryOf t).state.name := by
    simp only [Trace.snapshotLocked, summaryOf]
    cases t.active <;> rfl
  simp only [Snapshot.members, batchValue, state]
  rfl

theorem queued_afterRead (m : Nat) (t : Trace) : (afterRead m t).ring.queued = t.ring.queued - min t.ring.queued m := by
  show (t.ring.takeFront _).2.queued = _
  rw [← Ring.length_toList, Ring.takeFront_snd, List.length_drop, Ring.length_toList]

/-- The lines behind the records of a read. -/
theorem AgreesOn.selected (a : AgreesOn history d delivered t) (m : Nat) :
    ∃ lines : List LogLine, (readOf m t).selected = lines.map (·.record) ∧ (∀ l ∈ lines, l ∈ history) ∧
      lines.length = min t.ring.queued m ∧
      lines.map (·.sequence) = List.range' (t.sequence - t.ring.queued + 1) (min t.ring.queued m) := by
  have counted := a.counted
  have size := a.sequence
  refine ⟨(history.drop (t.sequence - t.ring.queued)).take (min t.ring.queued m), ?_, ?_, ?_, ?_⟩
  · show (t.ring.takeFront _).1 = _
    rw [Ring.takeFront_fst _ (Nat.min_le_left _ _), a.queue, List.map_take, List.map_drop]
  · intro l mem
    exact List.mem_of_mem_drop (List.mem_of_mem_take mem)
  · rw [List.length_take, List.length_drop]
    omega
  · rw [List.map_take, List.map_drop, a.numbered, List.drop_range', List.take_range'_of_length_ge (by omega), Nat.mul_one,
      Nat.add_comm 1]

/-- The counters of a trace pass the client's checks. -/
theorem AgreesOn.summaryValid (a : AgreesOn history d delivered t) : (summaryOf t).Valid := by
  have counted := a.counted
  have truncatedBound : t.truncated ≤ t.sequence := by
    rw [a.truncated, a.sequence]
    exact List.length_filter_le _ _
  refine
    { traceId := ⟨t.traceId, rfl, a.traceId⟩
      started := ?_
      queueCapacity := ⟨t.ring.capacity_pos, a.capacity⟩
      queued := ⟨t.ring.fits, by show t.ring.queued ≤ t.sequence; omega⟩
      dropped := by show t.dropped ≤ t.sequence; omega
      truncated := truncatedBound
      lastSequence := a.bounded
      complete := rfl }
  simp only [summaryOf]
  split <;> simp

/-- The counts of a read, before the decoder sees it. -/
theorem AgreesOn.afterRead_counts (a : AgreesOn history d delivered t) (m : Nat) :
    (afterRead m t).sequence = t.sequence - t.ring.queued + min t.ring.queued m + (afterRead m t).ring.queued := by
  have := a.counted
  rw [queued_afterRead]
  show t.sequence = _
  omega

/-- The records of a read, as the client reads them. -/
structure ReadBatch (m : Nat) (t : Trace) (records : List TraceRecord) : Prop where
  printed : (readOf m t).json? = some (batchValue (summaryOf (afterRead m t)) records)
  valid : BatchValid (summaryOf (afterRead m t)) records
  length : records.length = min t.ring.queued m
  numbered : records.map (·.sequence) = List.range' (t.sequence - t.ring.queued + 1) (min t.ring.queued m)

/-- The counters behind a read pass the client's checks. -/
theorem AgreesOn.summaryValid_afterRead (a : AgreesOn history d delivered t) (m : Nat) :
    (summaryOf (afterRead m t)).Valid := by
  have old := a.summaryValid
  have fits : t.ring.queued ≤ t.ring.capacity := t.ring.fits
  have counted := a.counted
  have rest := queued_afterRead m t
  have capacity : (afterRead m t).ring.capacity = t.ring.capacity := Ring.capacity_takeFront _ _
  refine
    { traceId := old.traceId
      started := old.started
      queueCapacity := ?_
      queued := ⟨?_, ?_⟩
      dropped := old.dropped
      truncated := old.truncated
      lastSequence := old.lastSequence
      complete := rfl }
  · show 1 ≤ (afterRead m t).ring.capacity ∧ (afterRead m t).ring.capacity ≤ 65536
    rw [capacity]
    exact ⟨t.ring.capacity_pos, a.capacity⟩
  · show (afterRead m t).ring.queued ≤ (afterRead m t).ring.capacity
    omega
  · show (afterRead m t).ring.queued ≤ t.sequence
    omega

/-- Every read within its limits returns a batch. -/
theorem AgreesOn.readBatch (a : AgreesOn history d delivered t) {m : Nat} (positive : 1 ≤ m) (small : m ≤ 1024) :
    ∃ records, ReadBatch m t records := by
  have counted := a.counted
  have counts := a.afterRead_counts m
  have bound := a.bounded
  have rest := queued_afterRead m t
  have lastSequence : (summaryOf (afterRead m t)).lastSequence = t.sequence := rfl
  have queuedRecords : (summaryOf (afterRead m t)).queuedRecords = (afterRead m t).ring.queued := rfl
  obtain ⟨lines, selected, inside, length, sequences⟩ := a.selected m
  have range : ∀ l ∈ lines, 1 ≤ l.sequence ∧ l.sequence ≤ t.sequence := by
    intro l mem
    have := List.mem_map_of_mem (f := (·.sequence)) mem
    rw [sequences, List.mem_range'_1] at this
    omega
  obtain ⟨records, json, valid, numbers, truncations⟩ := LogLine.json_all (fun l mem => (range l mem).1)
    (fun l mem => (range l mem).2.trans bound) (fun l mem => a.sessions l (inside l mem))
  have recordsLength : records.length = min t.ring.queued m := by
    rw [← length, ← List.length_map (f := (·.sequence)), numbers, List.length_map]
  refine ⟨records, ?_, ⟨a.summaryValid_afterRead m, valid, by omega, ?_, by omega, ?_, ?_⟩, recordsLength,
    numbers.trans sequences⟩
  · have timedOut : (readOf m t).selected.isEmpty = records.isEmpty := by
      rw [Bool.eq_iff_iff, List.isEmpty_iff_length_eq_zero, List.isEmpty_iff_length_eq_zero, selected, List.length_map,
        length, recordsLength]
    rw [ReadResult.json?, timedOut, selected, json]
    exact congrArg some (members_snapshotLocked (afterRead m t) records)
  · rintro rfl
    rw [List.length_nil] at recordsLength
    omega
  · intro r mem
    have := List.mem_map_of_mem (f := (·.sequence)) mem
    rw [numbers, sequences, List.mem_range'_1] at this
    omega
  · rintro ⟨r, mem, cut⟩
    have := List.mem_map_of_mem (f := (·.messageTruncated)) mem
    rw [truncations, cut] at this
    obtain ⟨l, here, cut⟩ := List.mem_map.mp this
    show t.truncated ≠ 0
    rw [a.truncated]
    exact (List.length_pos_iff_exists_mem.mpr ⟨l, List.mem_filter.mpr ⟨inside l here, cut⟩⟩).ne'

/-- The decoder accepts what the trace prints. -/
theorem AgreesOn.accepts (a : AgreesOn history d delivered t) {m : Nat} {records : List TraceRecord}
    (batch : ReadBatch m t records) : d.decodeBatch (batchValue (summaryOf (afterRead m t)) records) =
      .ok (d.decodeRecords (summaryOf (afterRead m t)) records records.isEmpty) := by
  have before := a.decoded
  have sameTrace : (d.traceId.isSome && decide (d.traceId ≠ (summaryOf (afterRead m t)).traceId)) = false := by
    rcases before.trace with none_ | some_
    · simp [none_]
    · simp [some_, summaryOf, afterRead]
  have accepted : checkPrevious d.lastSummary (summaryOf (afterRead m t)) = .ok () := by
    cases found : d.lastSummary with
    | none => rfl
    | some p =>
      obtain ⟨capacity, last, stopped⟩ := before.previous p found
      have reported := before.reported
      simp only [reportedDrops, reportedTruncations, found, Option.map_some, Option.getD_some] at reported
      have sameCapacity : (summaryOf (afterRead m t)).queueCapacity = p.queueCapacity := by
        rw [capacity]
        exact Ring.capacity_takeFront _ _
      have drops : ¬ (summaryOf (afterRead m t)).droppedRecords < p.droppedRecords := not_lt.mpr reported.1
      have cuts : ¬ (summaryOf (afterRead m t)).truncatedRecords < p.truncatedRecords := not_lt.mpr reported.2
      have later : ¬ (summaryOf (afterRead m t)).lastSequence < p.lastSequence := not_lt.mpr last
      have sticky : (decide (p.state = .stopped) && decide ((summaryOf (afterRead m t)).state ≠ .stopped)) = false := by
        by_cases state : p.state = .stopped
        · simp [summaryOf, afterRead, stopped state]
        · simp [state]
      simp only [checkPrevious, sameCapacity, drops, cuts, later, sticky, rejectIf, ne_eq, not_true, decide_false,
        Bool.false_eq_true, if_false, ok_bind]
  rw [TraceDecoder.decodeBatch, readBatch_batchValue batch.valid, ok_bind]
  simp only [sameTrace, accepted, rejectIf, Bool.false_eq_true, if_false, ok_bind]
  rfl

/-- The decoder after a read knows all that the trace has lost. -/
theorem AgreesOn.decodedRead (a : AgreesOn history d delivered t) {m : Nat} (positive : 1 ≤ m)
    {records : List TraceRecord} (batch : ReadBatch m t records) :
    DecodedTo (d.decodeRecords (summaryOf (afterRead m t)) records records.isEmpty).1 (afterRead m t) ∧
      (d.decodeRecords (summaryOf (afterRead m t)) records records.isEmpty).1.lastSummary =
        some (summaryOf (afterRead m t)) := by
  have before := a.decoded
  have reached := before.reached
  have reported := before.reported
  have idle := before.idle
  have counted := a.counted
  have rest := queued_afterRead m t
  have length := batch.length
  have numbered : records.map (·.sequence) = List.range' (t.sequence - t.ring.queued + 1) records.length := by
    rw [batch.numbered, length]
  have boundary : (summaryOf (afterRead m t)).lastSequence =
      t.sequence - t.ring.queued + records.length + (summaryOf (afterRead m t)).queuedRecords := by
    rw [length]
    exact a.afterRead_counts m
  obtain ⟨last, trace, lastSummary, gap, cut⟩ := d.decodeRecords_stream records.isEmpty numbered boundary
    batch.valid.truncated
  generalize (d.decodeRecords (summaryOf (afterRead m t)) records records.isEmpty).1 = d' at *
  have drops : reportedDrops d' = t.dropped := by
    rw [reportedDrops, lastSummary]
    rfl
  have cuts : reportedTruncations d' = t.truncated := by
    rw [reportedTruncations, lastSummary]
    rfl
  refine ⟨{
    trace := Or.inr trace
    gap := ?_
    cut := ?_
    reported := ⟨drops.le, cuts.le⟩
    reached := ?_
    idle := fun _ => drops.symm
    previous := ?_ }, lastSummary⟩
  · rw [gap, before.gap, drops]
    omega
  · rw [cut, before.cut, cuts]
    show _ ∨ t.truncated ≠ 0 ↔ _
    omega
  · rw [last, drops]
    show _ + t.dropped + _ = t.dropped + t.sequence
    split
    · next empty =>
      rw [empty, List.length_nil] at length
      have := idle (by omega)
      omega
    · omega
  · intro p found
    obtain rfl := Option.some.inj (lastSummary.symm.trans found)
    refine ⟨rfl, le_rfl, fun stopped => ?_⟩
    simp only [summaryOf] at stopped
    split at stopped
    · cases stopped
    · next inactive => exact eq_false_of_ne_true inactive

/-- One read keeps the agreement. -/
theorem AgreesOn.read (a : AgreesOn history d delivered t) {m : Nat} (positive : 1 ≤ m)
    {records : List TraceRecord} (batch : ReadBatch m t records) :
    AgreesOn history (d.decodeRecords (summaryOf (afterRead m t)) records records.isEmpty).1
      (delivered ++ records.map (·.sequence)) (afterRead m t) := by
  have counted := a.counted
  have rest := queued_afterRead m t
  have length := batch.length
  refine
    { traceId := a.traceId
      capacity := (a.summaryValid_afterRead m).queueCapacity.2
      numbered := a.numbered
      sessions := a.sessions
      sequence := a.sequence
      bounded := a.bounded
      queue := ?_
      counted := ?_
      increasing := ?_
      past := ?_
      truncated := a.truncated
      decoded := (a.decodedRead positive batch).1 }
  · show (t.ring.takeFront _).2.toList = (List.map _ _).drop (t.sequence - (afterRead m t).ring.queued)
    rw [Ring.takeFront_snd, a.queue, List.drop_drop]
    congr 1
    omega
  · show _ + _ + t.dropped = t.sequence
    rw [List.length_append, List.length_map]
    omega
  · rw [batch.numbered]
    refine List.pairwise_append.mpr ⟨a.increasing, List.pairwise_lt_range' _, fun x old y new => ?_⟩
    have := (a.past x old).2
    have := (List.mem_range'_1.mp new).1
    omega
  · intro n mem
    show 1 ≤ n ∧ n ≤ t.sequence - (afterRead m t).ring.queued
    rcases List.mem_append.mp mem with old | new
    · have := a.past n old
      omega
    · rw [batch.numbered, List.mem_range'_1] at new
      omega

end

end EmsDnp3.System
