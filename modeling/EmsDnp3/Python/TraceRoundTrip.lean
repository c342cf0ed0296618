import EmsDnp3.Python.TraceReassembly

/-!
# Traces are decoded to what was sent

From the log of some traffic, delivered in loss-free batches, the decoder recovers every
frame and every fragment, whatever the routes, the interleaving and the cuts between the
batches. What the records lead to does not depend on the batches (`tagged`), and the end of a
loss-free batch leaves what is pending alone.
-/

namespace EmsDnp3.Python

/-! ## The whole log -/

theorem consumeAll_cons (d : TraceDecoder) (record : TraceRecord) (rest : List TraceRecord) :
    d.consumeAll (record :: rest) = (((d.consume record).1.consumeAll rest).1,
      (d.consume record).2 :: ((d.consume record).1.consumeAll rest).2) := rfl

theorem consumeAll_append (d : TraceDecoder) (first second : List TraceRecord) :
    d.consumeAll (first ++ second) = (((d.consumeAll first).1.consumeAll second).1,
      (d.consumeAll first).2 ++ ((d.consumeAll first).1.consumeAll second).2) := by
  induction first generalizing d with
  | nil => rfl
  | cons record rest ih => rw [List.cons_append, consumeAll_cons, ih, consumeAll_cons, List.cons_append]

/-- Where a part of the log leads. -/
structure Progress (routes : List Route) (d d' : TraceDecoder) (pieces : List Piece) (log later : List TraceRecord)
    (emitted : List TraceDecoder.Emitted) : Prop where
  lastSequence : d'.lastSequence = d.lastSequence + log.length
  rest : ∃ done rest lines, pieces = done ++ rest ∧ Tracks routes d' rest lines ∧ Shows lines later ∧
    List.Forall₂ Piece.Decoded done (emitted.filterMap (·.frame)) ∧
    List.Forall₂ Completed (completions done) (emitted.filterMap (·.application))

/-- A piece contributes its frame, and at its end its fragment. -/
theorem Contributes.cons {pieces rest done : List Piece} {e : TraceDecoder.Emitted}
    {emitted : List TraceDecoder.Emitted} (contributes : Contributes pieces (done ++ rest) e)
    (frames : List.Forall₂ Piece.Decoded done (emitted.filterMap (·.frame)))
    (applications : List.Forall₂ Completed (completions done) (emitted.filterMap (·.application))) :
    ∃ done', pieces = done' ++ rest ∧
      List.Forall₂ Piece.Decoded done' ((e :: emitted).filterMap (·.frame)) ∧
      List.Forall₂ Completed (completions done') ((e :: emitted).filterMap (·.application)) := by
  generalize todo : done ++ rest = after at contributes
  cases contributes with
  | none => exact ⟨done, todo.symm, frames, applications⟩
  | frame decoded completed =>
    rename_i p f application
    refine ⟨p :: done, by rw [← todo]; rfl, .cons decoded frames, ?_⟩
    by_cases last : p.isLast = true
    · rw [if_pos last] at completed
      obtain ⟨a, rfl, here⟩ := completed
      rw [completions, List.filter_cons_of_pos last, List.map_cons]
      exact .cons here applications
    · rw [if_neg last] at completed
      subst completed
      rw [completions, List.filter_cons_of_neg last]
      exact applications

/-- The records of a part of the log, by induction on them. -/
theorem Tracks.run {routes : List Route} {d : TraceDecoder} {pieces : List Piece} {lines : List (Piece × List Byte)}
    {log later : List TraceRecord} (tracks : Tracks routes d pieces lines) (shows_ : Shows lines (log ++ later))
    (whole : ∀ r ∈ log, r.messageTruncated = false)
    (numbered : log.map (·.sequence) = List.range' (d.lastSequence + 1) log.length) :
    Progress routes d (d.consumeAll log).1 pieces log later (d.consumeAll log).2 := by
  induction log generalizing d pieces lines with
  | nil => exact ⟨rfl, [], pieces, lines, rfl, tracks, shows_, .nil, .nil⟩
  | cons record log ih =>
    rw [List.map_cons, List.length_cons, List.range'_succ] at numbered
    obtain ⟨next, numbered⟩ := List.cons.inj numbered
    rw [List.forall_mem_cons] at whole
    obtain ⟨here, whole⟩ := whole
    -- the record, quiet or a line
    have step : (d.consume record).1.lastSequence = record.sequence ∧ ∃ rest lines',
        Tracks routes (d.consume record).1 rest lines' ∧ Shows lines' (log ++ later) ∧
        Contributes pieces rest (d.consume record).2 := by
      cases shows_ with
      | quiet _ other more =>
        rw [consume_quiet next here other]
        exact ⟨rfl, pieces, lines, ⟨tracks.following, tracks.reassembling, tracks.issues⟩, more, .none⟩
      | line _ shown more =>
        obtain ⟨sequence, rest, tracks, contributes⟩ := tracks.line shown next here
        exact ⟨sequence, rest, _, tracks, more, contributes⟩
    obtain ⟨sequence, rest, lines', tracks, more, contributes⟩ := step
    rw [← next, ← sequence] at numbered
    obtain ⟨last, done, rest', lines'', rfl, tracks, shown, frames, applications⟩ := ih tracks more whole numbered
    obtain ⟨done', split, frames, applications⟩ := contributes.cons frames applications
    rw [consumeAll_cons]
    refine ⟨?_, done', rest', lines'', split, tracks, shown, frames, applications⟩
    rw [last, sequence, next, List.length_cons]
    omega

theorem Tracks.start (t : Traffic) : Tracks t.routes {} t.pieces (t.pieces.flatMap (·.lines)) := by
  refine ⟨.between t.pieces rfl, ⟨t.few, t.routed, fun route => ?_⟩, by simp⟩
  exact ⟨t.fragments route, t.complete route⟩

/-- Where nothing is found there is nothing. -/
theorem eq_empty_of_lookup {transports : Transports} (none_ : ∀ route, transports.lookup route = none) :
    transports = ∅ := by
  apply AList.ext
  cases entries : transports.entries with
  | nil => rfl
  | cons entry rest =>
    have mem : entry.1 ∈ transports := by
      rw [AList.mem_keys, AList.keys, entries]
      exact List.mem_cons_self
    exact absurd mem (AList.lookup_eq_none.mp (none_ entry.1))

/-- No line to come: nothing is pending. -/
theorem Tracks.finished {routes : List Route} {d : TraceDecoder} {pieces : List Piece}
    (tracks : Tracks routes d pieces []) : pieces = [] ∧ d.links = ∅ ∧ d.transports = ∅ := by
  obtain ⟨following, reassembling, -⟩ := tracks
  generalize todo : ([] : List (Piece × List Byte)) = lines at following
  cases following with
  | between _ empty =>
    cases pieces with
    | nil =>
      refine ⟨rfl, empty, eq_empty_of_lookup fun route => ?_⟩
      exact Awaits.finished (reassembling.awaits route)
    | cons p pieces => cases todo
  | inside p pieces first split pending => cases todo

section
variable {t : Traffic} {log : List TraceRecord}

theorem numbered_left {past future : List TraceRecord}
    (numbered : (past ++ future).map (·.sequence) = List.range' 1 (past ++ future).length) :
    past.map (·.sequence) = List.range' 1 past.length := by
  rw [List.map_append, List.length_append, ← List.range'_append_1] at numbered
  exact List.append_inj_left numbered (by simp)

/-- The decoder after the first records of the log. -/
theorem TraceLog.progress {past future : List TraceRecord} (l : TraceLog t (past ++ future)) :
    Progress t.routes {} (({} : TraceDecoder).consumeAll past).1 t.pieces past future
      (({} : TraceDecoder).consumeAll past).2 :=
  (Tracks.start t).run l.shows_ (fun r mem => l.whole r (List.mem_append_left _ mem)) (numbered_left l.numbered)

/-- The decoder after the whole log. -/
theorem TraceLog.decoded (l : TraceLog t log) :
    (({} : TraceDecoder).consumeAll log).1.links = ∅ ∧ (({} : TraceDecoder).consumeAll log).1.transports = ∅ ∧
      List.Forall₂ Piece.Decoded t.pieces ((({} : TraceDecoder).consumeAll log).2.filterMap (·.frame)) ∧
      List.Forall₂ Completed (completions t.pieces)
        ((({} : TraceDecoder).consumeAll log).2.filterMap (·.application)) := by
  have l' : TraceLog t (log ++ []) := by rwa [List.append_nil]
  obtain ⟨done, rest, lines, split, tracks, shown, frames, applications⟩ := l'.progress.rest
  cases shown
  obtain ⟨rfl, links, transports⟩ := tracks.finished
  rw [List.append_nil] at split
  rw [split]
  exact ⟨links, transports, frames, applications⟩

end

/-! ## The fragments of a route -/

/-- A fragment has one last place. -/
theorem Fragment.places_last (f : Fragment) :
    f.places.filter (fun place => place.2 + 1 = place.1.segments.length) = [(f, f.segments.length - 1)] := by
  obtain ⟨n, size⟩ := Nat.exists_eq_succ_of_ne_zero (List.length_pos_iff.mpr f.some_).ne'
  rw [places, List.filter_map, size, List.range_succ, List.filter_append]
  simp only [Function.comp_def, size, List.map_append, List.append_eq_singleton_iff]
  refine Or.inl ⟨?_, by simp⟩
  rw [List.map_eq_nil_iff, List.filter_eq_nil_iff]
  intro k mem
  have := List.mem_range.mp mem
  simp only [decide_eq_true_eq]
  omega

/-- Counting last places is counting fragments. -/
theorem Fragment.flatMap_places_last (fragments : List Fragment) :
    ((fragments.flatMap (·.places)).filter (fun place => place.2 + 1 = place.1.segments.length)).map (·.1) =
      fragments := by
  induction fragments with
  | nil => rfl
  | cons f rest ih => rw [List.flatMap_cons, List.filter_append, f.places_last, List.map_append, ih]; rfl

/-- Every fragment of a route is completed once, in order. -/
theorem completions_route (t : Traffic) (route : Route) :
    ((completions t.pieces).filter (·.1 = route)).map (·.2) = t.fragments route := by
  have swap : (completions t.pieces).filter (·.1 = route) =
      ((t.pieces.filter (·.route = route)).filter (·.isLast)).map fun p => (p.route, p.fragment) := by
    rw [completions, List.filter_map, List.filter_filter, List.filter_filter]
    simp only [Function.comp_def, Bool.and_comm]
  have places : ((t.pieces.filter (·.route = route)).filter (·.isLast)).map (·.fragment) =
      ((((t.pieces.filter (·.route = route)).map (·.place)).filter
        (fun place => place.2 + 1 = place.1.segments.length)).map (·.1)) := by
    rw [List.filter_map, List.map_map]
    rfl
  rw [swap, List.map_map]
  exact places.trans (by rw [t.complete, Fragment.flatMap_places_last])

/-! ## Batches -/

namespace TraceDecoder

/-- The decoder with another trace and another summary, which the records do not depend on. -/
def tagged (id : Option Text) (summary : Option TraceSummary) (d : TraceDecoder) : TraceDecoder :=
  { d with traceId := id, lastSummary := summary }

variable (id : Option Text) (summary : Option TraceSummary) (d : TraceDecoder)

theorem issue_tagged (value : Issue) : (d.tagged id summary).issue value = (d.issue value).tagged id summary := by
  by_cases mem : value ∈ d.issues <;> simp [issue, tagged, mem]

/-- A chunk does not depend on the id and the summary of the trace. -/
theorem advanceLink_tagged (record : TraceRecord) (pending : LinkPending) :
    (d.tagged id summary).advanceLink record pending =
      ((d.advanceLink record pending).1.tagged id summary, (d.advanceLink record pending).2) := by
  simp only [advanceLink]
  split
  · rfl
  · split
    · exact Prod.ext (issue_tagged id summary { d with links := d.links.erase (linkKey record) } _) rfl
    · rfl

/-- A record of the link does not depend on them. -/
theorem consumeLink_tagged (record : TraceRecord) :
    (d.tagged id summary).consumeLink record =
      ((d.consumeLink record).1.tagged id summary, (d.consumeLink record).2) := by
  have links : (d.tagged id summary).links = d.links := rfl
  simp only [consumeLink, links, issue_tagged, advanceLink_tagged]
  split
  · rfl
  · split
    · split
      · rfl
      · split <;> rfl
    · split <;> rfl

/-- A segment does not depend on the id and the summary of the trace. -/
theorem appendSegment_tagged (frame : TraceFrame) (header : TransportHeader) (pending : TransportPending) :
    (d.tagged id summary).appendSegment frame header pending =
      ((d.appendSegment frame header pending).1.tagged id summary, (d.appendSegment frame header pending).2) := by
  have transports : (d.tagged id summary).transports = d.transports := rfl
  simp only [appendSegment, transports, issue_tagged]
  split
  · rfl
  · split
    · rfl
    · split
      · rfl
      · split
        · exact Prod.ext (issue_tagged id summary { d with transports := d.transports.erase (route frame) } _) rfl
        · rfl

/-- A frame does not depend on them. -/
theorem consumeTransport_tagged (frame : TraceFrame) :
    (d.tagged id summary).consumeTransport frame =
      ((d.consumeTransport frame).1.tagged id summary, (d.consumeTransport frame).2) := by
  have transports : (d.tagged id summary).transports = d.transports := rfl
  simp only [consumeTransport, transports, issue_tagged, appendSegment_tagged]
  split
  · rfl
  · split
    · rfl
    · split
      · split <;> rfl
      · split
        · split <;> rfl
        · rfl

/-- A record does not depend on the id and the summary of the trace. -/
theorem consume_tagged (record : TraceRecord) :
    (d.tagged id summary).consume record = ((d.consume record).1.tagged id summary, (d.consume record).2) := by
  have start : ({ (if record.sequence ≠ (d.tagged id summary).lastSequence + 1
        then ((d.tagged id summary).issue .recordSequenceGap).clearPending else d.tagged id summary)
        with lastSequence := record.sequence } : TraceDecoder) =
      ({ (if record.sequence ≠ d.lastSequence + 1 then (d.issue .recordSequenceGap).clearPending else d)
        with lastSequence := record.sequence } : TraceDecoder).tagged id summary := by
    rw [issue_tagged]
    have last : (d.tagged id summary).lastSequence = d.lastSequence := rfl
    rw [last]
    split <;> rfl
  simp only [consume]
  rw [start]
  generalize ({ (if record.sequence ≠ d.lastSequence + 1 then (d.issue .recordSequenceGap).clearPending else d)
    with lastSequence := record.sequence } : TraceDecoder) = d0
  split
  · rw [issue_tagged]
    rfl
  · split
    · rfl
    · rw [consumeLink_tagged]
      generalize d0.consumeLink record = step
      obtain ⟨d1, frame⟩ := step
      cases frame with
      | none => rfl
      | some frame =>
        dsimp only
        rw [consumeTransport_tagged]

/-- Any number of records do not depend on them. -/
theorem consumeAll_tagged (records : List TraceRecord) :
    (d.tagged id summary).consumeAll records =
      ((d.consumeAll records).1.tagged id summary, (d.consumeAll records).2) := by
  induction records generalizing d with
  | nil => rfl
  | cons record rest ih => rw [consumeAll_cons, consume_tagged, ih, consumeAll_cons]

end TraceDecoder

theorem noteLoss_zero {counter : TraceSummary → Nat} {value : Issue} {summary : TraceSummary} (d : TraceDecoder)
    (zero : counter summary = 0) : d.noteLoss counter value summary = d := by
  rw [TraceDecoder.noteLoss, if_pos zero]

/-- The end of a loss-free batch changes only the summary. -/
theorem finishBatch_lossFree {d : TraceDecoder} {s : TraceSummary}
    (boundary : s.lastSequence = d.lastSequence + s.queuedRecords)
    (drained : s.state = .stopped → s.queuedRecords = 0 → d.links = ∅ ∧ d.transports = ∅) :
    d.finishBatch s = { d with lastSummary := some s } := by
  have reached : ¬ (d.lastSequence : Int) ≠ s.lastSequence - s.queuedRecords := by omega
  unfold TraceDecoder.finishBatch
  simp only [if_neg reached]
  split
  · next stopped =>
    obtain ⟨links, transports⟩ := drained stopped.1 stopped.2
    simp only [links, transports, AList.empty_entries, ne_eq, not_true, if_false]
    rw [TraceDecoder.clearPending]
  · rfl

/-- A batch follows its predecessor. -/
theorem checkPrevious_lossFree {p s : TraceSummary} {total read read' : Nat} {id : Text} {capacity : Nat}
    {records old : List TraceRecord} (here : LossFree total id capacity read s records)
    (before : LossFree total id capacity read' p old) (later : NonDecreasing p s) :
    checkPrevious (some p) s = .ok () := by
  obtain ⟨sequence, stopped⟩ := later
  have sticky : (decide (p.state = .stopped) && decide (s.state ≠ .stopped)) = false := by
    by_cases state : p.state = .stopped
    · simp [stopped state]
    · simp [state]
  simp only [checkPrevious, here.queueCapacity, before.queueCapacity, here.dropped, before.dropped, here.truncated,
    before.truncated, sticky, rejectIf, ne_eq, not_true, Nat.lt_irrefl, decide_false, Bool.false_eq_true, if_false,
    if_neg (show ¬ decide (s.lastSequence < p.lastSequence) = true by simpa using sequence), ok_bind]

section
variable {t : Traffic}

/-- A loss-free batch takes the decoder of the first records to the decoder of the first records and
its own. -/
theorem decodeBatch_lossFree {past records future : List TraceRecord} {id : Text} {capacity : Nat} {s : TraceSummary}
    {traceId : Option Text} {previous : Option TraceSummary} (l : TraceLog t (past ++ (records ++ future)))
    (here : LossFree (past ++ (records ++ future)).length id capacity past.length s records)
    (trace : traceId = none ∨ traceId = some id) (accepted : checkPrevious previous s = .ok ()) :
    ∃ batch, ((({} : TraceDecoder).consumeAll past).1.tagged traceId previous).decodeBatch (batchValue s records) =
        .ok ((({} : TraceDecoder).consumeAll (past ++ records)).1.tagged (some id) (some s), batch) ∧
      batch.frames = ((({} : TraceDecoder).consumeAll past).1.consumeAll records).2.filterMap (·.frame) ∧
      batch.applications = ((({} : TraceDecoder).consumeAll past).1.consumeAll records).2.filterMap (·.application) ∧
      ∀ i ∈ batch.issues, i.isApplication = true := by
  have l' : TraceLog t ((past ++ records) ++ future) := by rwa [List.append_assoc]
  have progress := l'.progress
  have lastSequence : (({} : TraceDecoder).consumeAll (past ++ records)).1.lastSequence = past.length + records.length := by
    rw [progress.lastSequence, List.length_append]
    exact Nat.zero_add _
  have issues : ∀ i ∈ (({} : TraceDecoder).consumeAll (past ++ records)).1.issues, i.isApplication = true := by
    obtain ⟨_, _, _, _, tracks, _⟩ := progress.rest
    exact tracks.issues
  have drained : s.state = .stopped → s.queuedRecords = 0 →
      (({} : TraceDecoder).consumeAll (past ++ records)).1.links = ∅ ∧
      (({} : TraceDecoder).consumeAll (past ++ records)).1.transports = ∅ := by
    intro stopped empty
    have total := here.stopped stopped
    rw [here.boundary, empty, List.length_append, List.length_append] at total
    have nil : future = [] := List.length_eq_zero_iff.mp (by omega)
    subst nil
    rw [List.append_nil] at l'
    exact ⟨l'.decoded.1, l'.decoded.2.1⟩
  have appended : ((({} : TraceDecoder).consumeAll past).1.consumeAll records).1 =
      (({} : TraceDecoder).consumeAll (past ++ records)).1 := by
    rw [consumeAll_append]
  have same : (traceId.isSome && decide (traceId ≠ s.traceId)) = false := by
    rcases trace with rfl | rfl
    · rfl
    · simp [here.traceId]
  have retagged : ({ (({} : TraceDecoder).consumeAll past).1.tagged traceId previous with traceId := s.traceId } :
      TraceDecoder) = (({} : TraceDecoder).consumeAll past).1.tagged (some id) previous := by
    rw [here.traceId]
    rfl
  have finish : TraceDecoder.finishBatch s
      ((({} : TraceDecoder).consumeAll (past ++ records)).1.tagged (some id) previous) =
      (({} : TraceDecoder).consumeAll (past ++ records)).1.tagged (some id) (some s) := by
    refine finishBatch_lossFree ?_ drained
    rw [here.boundary]
    show _ = (({} : TraceDecoder).consumeAll (past ++ records)).1.lastSequence + _
    rw [lastSequence]
  have decoded : ((({} : TraceDecoder).consumeAll past).1.tagged traceId previous).decodeBatch (batchValue s records) =
      .ok (((({} : TraceDecoder).consumeAll past).1.tagged traceId previous).decodeRecords s records records.isEmpty) := by
    rw [TraceDecoder.decodeBatch, readBatch_batchValue here.valid, ok_bind]
    have tag : ((({} : TraceDecoder).consumeAll past).1.tagged traceId previous).traceId = traceId := rfl
    have last : ((({} : TraceDecoder).consumeAll past).1.tagged traceId previous).lastSummary = previous := rfl
    simp only [tag, last, same, accepted, rejectIf, Bool.false_eq_true, if_false, ok_bind]
    rfl
  refine ⟨_, decoded.trans (congrArg Except.ok (Prod.ext ?_ rfl)), ?_, ?_, ?_⟩
  all_goals
    simp only [TraceDecoder.decodeRecords, retagged, noteLoss_zero _ here.dropped, noteLoss_zero _ here.truncated,
      TraceDecoder.consumeAll_tagged, appended, finish]
  exact issues

/-- Loss-free batches, one after the other. -/
theorem decodeBatches_lossFree {log past : List TraceRecord} {id : Text} {capacity : Nat}
    {batches : List (TraceSummary × List TraceRecord)} {traceId : Option Text} {previous : Option TraceSummary}
    (l : TraceLog t log) (split : log = past ++ batches.flatMap (·.2))
    (lossFree : LossFreeFrom log.length id capacity past.length batches)
    (trace : traceId = none ∨ traceId = some id)
    (before : ∀ p, previous = some p → ∃ read records, LossFree log.length id capacity read p records)
    (chain : (previous.toList ++ batches.map (·.1)).IsChain NonDecreasing) :
    ∃ d out, ((({} : TraceDecoder).consumeAll past).1.tagged traceId previous).decodeBatches
        (batches.map fun b => batchValue b.1 b.2) = .ok (d, out) ∧
      out.flatMap (·.frames) =
        ((({} : TraceDecoder).consumeAll past).1.consumeAll (batches.flatMap (·.2))).2.filterMap (·.frame) ∧
      out.flatMap (·.applications) =
        ((({} : TraceDecoder).consumeAll past).1.consumeAll (batches.flatMap (·.2))).2.filterMap (·.application) ∧
      ∀ b ∈ out, ∀ i ∈ b.issues, i.isApplication = true := by
  induction batches generalizing past traceId previous with
  | nil => exact ⟨_, [], rfl, rfl, rfl, by simp⟩
  | cons batch rest ih =>
    obtain ⟨s, records⟩ := batch
    obtain ⟨here, later⟩ := lossFree
    rw [List.flatMap_cons] at split
    have accepted : checkPrevious previous s = .ok () := by
      cases previous with
      | none => rfl
      | some p =>
        obtain ⟨read, old, lossFree⟩ := before p rfl
        exact checkPrevious_lossFree here lossFree (List.isChain_cons_cons.mp chain).1
    have l' := l
    have here' := here
    rw [split] at l' here'
    obtain ⟨batch, ok, frames, applications, issues⟩ := decodeBatch_lossFree l' here' trace accepted
    have shorter : LossFreeFrom log.length id capacity (past ++ records).length rest := by
      rw [List.length_append]
      exact later
    have chain' : ((some s).toList ++ rest.map (·.1)).IsChain NonDecreasing := by
      cases previous with
      | none => exact chain
      | some p => exact (List.isChain_cons_cons.mp chain).2
    obtain ⟨d, out, okRest, framesRest, applicationsRest, issuesRest⟩ := ih
      (by rw [split, List.append_assoc]) shorter (Or.inr rfl)
      (fun p same => Option.some.inj same ▸ ⟨past.length, records, here⟩) chain'
    refine ⟨d, batch :: out, ?_, ?_, ?_, ?_⟩
    · rw [List.map_cons, TraceDecoder.decodeBatches, ok, ok_bind]
      dsimp only
      rw [okRest]
      rfl
    · rw [List.flatMap_cons, frames, framesRest, List.flatMap_cons, consumeAll_append, consumeAll_append,
        List.filterMap_append]
    · rw [List.flatMap_cons, applications, applicationsRest, List.flatMap_cons, consumeAll_append, consumeAll_append,
        List.filterMap_append]
    · exact List.forall_mem_cons.mpr ⟨issues, issuesRest⟩

end

/-- **Traces are decoded to what was sent.** Whatever the cuts between the batches, the decoder
accepts them and yields the frames of the traffic, and the fragments in the order in which they were
completed, every fragment of every route once; no issue is about the record sequence, the link or
the transport layer. -/
theorem decodeBatches_roundTrip (t : Traffic) {log : List TraceRecord} (l : TraceLog t log) :
    ∃ frames applications, List.Forall₂ Piece.Decoded t.pieces frames ∧
      List.Forall₂ Completed (completions t.pieces) applications ∧
      (∀ route, ((completions t.pieces).filter (·.1 = route)).map (·.2) = t.fragments route) ∧
      ∀ batches, Delivered log batches → ∃ d out,
        ({} : TraceDecoder).decodeBatches (batches.map fun b => batchValue b.1 b.2) = .ok (d, out) ∧
        out.flatMap (·.frames) = frames ∧ out.flatMap (·.applications) = applications ∧
        ∀ b ∈ out, ∀ i ∈ b.issues, i.isApplication = true := by
  obtain ⟨-, -, frames, applications⟩ := l.decoded
  refine ⟨_, _, frames, applications, completions_route t, fun batches delivered => ?_⟩
  obtain ⟨id, capacity, lossFree⟩ := delivered.lossFree
  have split : log = [] ++ batches.flatMap (·.2) := delivered.split.symm
  have chain : ((none : Option TraceSummary).toList ++ batches.map (·.1)).IsChain NonDecreasing := delivered.nonDecreasing
  have result := decodeBatches_lossFree l split lossFree (Or.inl rfl) (by simp) chain
  rw [delivered.split] at result
  exact result

/-- A read request in two segments whose numbers wrap around. -/
def exampleFragment : Fragment where
  start := ⟨63, by decide⟩
  segments := [octets [0xC0, 0x01], octets [0x3C, 0x01, 0x06]]
  some_ := by decide
  few := by decide
  short := by decide
  bounded := by decide

/-- The pieces of the example fragment. -/
def examplePiece (position : Nat) (inside : position < exampleFragment.segments.length) : Piece where
  sessionId := 1
  direction := .tx
  source := ⟨1, by decide⟩
  destination := ⟨1024, by decide⟩
  logger := "pytest-tcp-client"
  control := .ofNat 0xC4
  fragment := exampleFragment
  position := position
  inside := inside
  userData := by decide

/-- Two frames of one fragment. -/
def exampleTraffic : Traffic where
  pieces := [examplePiece 0 (by decide), examplePiece 1 (by decide)]
  routes := [⟨1, .tx, 1, 1024⟩]
  few := by decide
  routed := by decide
  fragments := fun route => if route = ⟨1, .tx, 1, 1024⟩ then [exampleFragment] else []
  complete := by
    intro route
    by_cases same : route = ⟨1, .tx, 1, 1024⟩
    · subst same
      rfl
    · have other : ∀ p ∈ [examplePiece 0 (by decide), examplePiece 1 (by decide)], ¬ p.route = route := by
        intro p mem here
        simp only [List.mem_cons, List.not_mem_nil, or_false] at mem
        rcases mem with rfl | rfl <;> exact same here.symm
      rw [if_neg same, List.filter_eq_nil_iff.mpr (by simpa using other)]
      rfl

/-- Its two frames, with another record between the lines of the first. -/
def exampleLog : List TraceRecord :=
  [exampleRecord 1 (wireBlock (examplePiece 0 (by decide)).header),
   ⟨2, 1, 20, "pytest-tcp-client", .info, "writing", false⟩,
   exampleRecord 3 (wireBlock (examplePiece 0 (by decide)).payload),
   exampleRecord 4 (wireBlock (examplePiece 1 (by decide)).header),
   exampleRecord 5 (wireBlock (examplePiece 1 (by decide)).payload)]

/-- A cut inside the first frame and one inside the fragment. -/
def exampleBatches : List (TraceSummary × List TraceRecord) :=
  [(⟨some "trace-1", .active, 16384, 2, 0, 0, 3, true⟩, exampleLog.take 1),
   (⟨some "trace-1", .active, 16384, 1, 0, 0, 4, true⟩, (exampleLog.drop 1).take 2),
   (⟨some "trace-1", .stopped, 16384, 0, 0, 0, 5, true⟩, exampleLog.drop 3)]

/-- The fragment comes back from its two frames. -/
theorem decodeBatches_roundTrip_example : ∃ d out,
    ({} : TraceDecoder).decodeBatches (exampleBatches.map fun b => batchValue b.1 b.2) = .ok (d, out) ∧
    (out.flatMap (·.applications)).map (·.raw) = [octets [0xC0, 0x01, 0x3C, 0x01, 0x06]] ∧
    ∀ b ∈ out, ∀ i ∈ b.issues, i.isApplication = true := by
  have valid : ∀ r ∈ exampleLog, r.Valid := by decide +kernel
  have line : ∀ {sequence : Nat} {p : Piece} (chunk : List Byte), p.key = ⟨1, .tx, "pytest-tcp-client"⟩ →
      (exampleRecord sequence chunk).ShowsLine p chunk :=
    fun chunk key => ⟨rfl, key.symm, rfl⟩
  have log : TraceLog exampleTraffic exampleLog := by
    refine ⟨?_, valid, by decide +kernel, by decide +kernel⟩
    exact .line _ (line _ rfl) (.quiet _ rfl (.line _ (line _ rfl) (.line _ (line _ rfl) (.line _ (line _ rfl) .nil))))
  have summary : ∀ b ∈ exampleBatches, b.1.Valid := by
    intro b mem
    simp only [exampleBatches, List.mem_cons, List.not_mem_nil, or_false] at mem
    rcases mem with rfl | rfl | rfl <;>
      exact ⟨⟨"trace-1", rfl, by decide⟩, by decide, by decide, by decide, by decide, by decide, by decide, by decide⟩
  have batch : ∀ b ∈ exampleBatches, BatchValid b.1 b.2 := by
    intro b mem
    refine ⟨summary b mem, ?_, ?_, ?_, ?_, ?_, ?_⟩
    · intro r inside
      exact valid r ((by decide +kernel : ∀ b ∈ exampleBatches, ∀ r ∈ b.2, r ∈ exampleLog) b mem r inside)
    all_goals
      revert b
      decide +kernel
  have delivered : Delivered exampleLog exampleBatches := by
    refine ⟨by decide +kernel, ⟨"trace-1", 16384, ?_⟩, ?_⟩
    · simp only [exampleBatches, List.forall_mem_cons] at batch
      obtain ⟨first, second, third, -⟩ := batch
      exact ⟨⟨first, rfl, rfl, rfl, rfl, rfl, by decide⟩, ⟨second, rfl, rfl, rfl, rfl, rfl, by decide⟩,
        ⟨third, rfl, rfl, rfl, rfl, rfl, by decide⟩, trivial⟩
    · exact .cons_cons ⟨by decide, by decide⟩ (.cons_cons ⟨by decide, by decide⟩ (.singleton _))
  obtain ⟨frames, applications, -, completed, -, deliver⟩ := decodeBatches_roundTrip exampleTraffic log
  obtain ⟨d, out, ok, -, same, issues⟩ := deliver _ delivered
  refine ⟨d, out, ok, ?_, issues⟩
  rw [same]
  cases completed with
  | cons first rest =>
    cases rest
    rw [List.map_singleton, first.raw]
    rfl

end EmsDnp3.Python
