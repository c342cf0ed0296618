import EmsDnp3.Python.TraceProvenance

/-!
# Issues about the record stream

When the decoder reports a gap in the record sequence or a truncated record. Neither depends
on what the records say: the link, transport and application layers only ever add issues of
their own (`Quiet`).
-/

namespace EmsDnp3.Python

/-- An issue of the record stream and not of what it says. -/
def Issue.aboutRecords : Issue → Bool
  | .droppedRecords => true
  | .truncatedRecords => true
  | .recordSequenceGap => true
  | _ => false

namespace TraceDecoder

/-- An issue is added to those there are. -/
theorem mem_issue {value other : Issue} {d : TraceDecoder} :
    value ∈ (d.issue other).issues ↔ value ∈ d.issues ∨ value = other := by
  unfold issue
  split
  · next present =>
    constructor
    · exact Or.inl
    · rintro (old | rfl)
      · exact old
      · exact present
  · rw [List.mem_append, List.mem_singleton]

/-- Nothing of the record stream changes. -/
structure Quiet (d d' : TraceDecoder) : Prop where
  lastSequence : d'.lastSequence = d.lastSequence
  traceId : d'.traceId = d.traceId
  lastSummary : d'.lastSummary = d.lastSummary
  issues : ∀ value : Issue, value.aboutRecords = true → (value ∈ d'.issues ↔ value ∈ d.issues)

theorem Quiet.rest (d : TraceDecoder) (links : Links) (transports : Transports) :
    Quiet d { d with links, transports } :=
  ⟨rfl, rfl, rfl, fun _ _ => Iff.rfl⟩

theorem Quiet.trans {d d' d'' : TraceDecoder} (first : Quiet d d') (second : Quiet d' d'') : Quiet d d'' :=
  ⟨second.lastSequence.trans first.lastSequence, second.traceId.trans first.traceId,
    second.lastSummary.trans first.lastSummary,
    fun value about => (second.issues value about).trans (first.issues value about)⟩

theorem Quiet.issue {d d' : TraceDecoder} (quiet : Quiet d d') {other : Issue} (about : other.aboutRecords = false) :
    Quiet d (d'.issue other) := by
  refine quiet.trans ⟨by simp, by simp, by simp, fun value isAbout => ?_⟩
  rw [mem_issue, or_iff_left]
  rintro rfl
  rw [about] at isAbout
  cases isAbout

theorem Quiet.links {d d' : TraceDecoder} (quiet : Quiet d d') (links : Links) : Quiet d { d' with links } :=
  quiet.trans (.rest d' links d'.transports)

theorem Quiet.transports {d d' : TraceDecoder} (quiet : Quiet d d') (transports : Transports) :
    Quiet d { d' with transports } :=
  quiet.trans (.rest d' d'.links transports)

theorem Quiet.refl (d : TraceDecoder) : Quiet d d := .rest d d.links d.transports

variable (d : TraceDecoder)

/-- A chunk of a frame raises no issue about the records. -/
theorem advanceLink_quiet (record : TraceRecord) (pending : LinkPending) :
    Quiet d (d.advanceLink record pending).1 := by
  unfold advanceLink
  split
  · exact (Quiet.refl d).links _
  · dsimp only
    split
    · exact ((Quiet.refl d).links _).issue rfl
    · exact (Quiet.refl d).links _

/-- A record of the link raises no issue about the records. -/
theorem consumeLink_quiet (record : TraceRecord) : Quiet d (d.consumeLink record).1 := by
  unfold consumeLink
  dsimp only
  split
  · exact ((Quiet.refl d).issue rfl).links _
  split
  · split
    · exact (Quiet.refl d).issue rfl
    split
    · exact (Quiet.refl d).issue rfl
    · exact d.advanceLink_quiet _ _
  · split
    · exact ((Quiet.refl d).issue rfl).links _
    · exact d.advanceLink_quiet _ _

/-- A segment raises no issue about the records. -/
theorem appendSegment_quiet (frame : TraceFrame) (header : TransportHeader) (pending : TransportPending) :
    Quiet d (d.appendSegment frame header pending).1 := by
  unfold appendSegment
  dsimp only
  split
  · exact ((Quiet.refl d).issue rfl).transports _
  split
  · exact ((Quiet.refl d).issue rfl).transports _
  split
  · exact (Quiet.refl d).transports _
  split
  · exact ((Quiet.refl d).transports _).issue rfl
  · exact (Quiet.refl d).transports _

/-- A frame raises no issue about the records. -/
theorem consumeTransport_quiet (frame : TraceFrame) : Quiet d (d.consumeTransport frame).1 := by
  unfold consumeTransport
  dsimp only
  split
  · exact (Quiet.refl d).transports _
  split
  · exact .refl d
  split
  · split
    · exact ((Quiet.refl d).issue rfl).trans (appendSegment_quiet _ _ _ _)
    · exact d.appendSegment_quiet _ _ _
  · split
    · split
      · exact (Quiet.refl d).issue rfl
      · exact d.appendSegment_quiet _ _ _
    · exact (Quiet.refl d).issue rfl

/-- What one record does to the record stream. -/
structure StreamStep (record : TraceRecord) (d d' : TraceDecoder) : Prop where
  lastSequence : d'.lastSequence = record.sequence
  traceId : d'.traceId = d.traceId
  lastSummary : d'.lastSummary = d.lastSummary
  gap : .recordSequenceGap ∈ d'.issues ↔ .recordSequenceGap ∈ d.issues ∨ record.sequence ≠ d.lastSequence + 1
  truncated : .truncatedRecords ∈ d'.issues ↔ .truncatedRecords ∈ d.issues ∨ record.messageTruncated = true

theorem StreamStep.quiet {record : TraceRecord} {d d' d'' : TraceDecoder} (step : StreamStep record d d')
    (quiet : Quiet d' d'') : StreamStep record d d'' :=
  ⟨quiet.lastSequence.trans step.lastSequence, quiet.traceId.trans step.traceId,
    quiet.lastSummary.trans step.lastSummary, (quiet.issues _ rfl).trans step.gap,
    (quiet.issues _ rfl).trans step.truncated⟩

/-- A record raises an issue about the records only for its sequence or its truncation. -/
theorem consume_stream (record : TraceRecord) : StreamStep record d (d.consume record).1 := by
  unfold consume
  dsimp only
  generalize start : ({ (if record.sequence ≠ d.lastSequence + 1 then (d.issue .recordSequenceGap).clearPending else d)
    with lastSequence := record.sequence } : TraceDecoder) = d0
  have ready : d0.lastSequence = record.sequence ∧ d0.traceId = d.traceId ∧ d0.lastSummary = d.lastSummary ∧
      (.recordSequenceGap ∈ d0.issues ↔ .recordSequenceGap ∈ d.issues ∨ record.sequence ≠ d.lastSequence + 1) ∧
      (.truncatedRecords ∈ d0.issues ↔ .truncatedRecords ∈ d.issues) := by
    subst start
    split
    · next gap => simp [clearPending, mem_issue, gap]
    · next next => simp [next]
  obtain ⟨lastSequence, traceId, lastSummary, gap, truncated⟩ := ready
  split
  · next cut =>
    refine ⟨by simpa [clearPending] using lastSequence, by simpa [clearPending] using traceId,
      by simpa [clearPending] using lastSummary, ?_, ?_⟩
    · simpa [clearPending, mem_issue] using gap
    · simp [clearPending, mem_issue, cut]
  · next whole =>
    have step : StreamStep record d d0 := ⟨lastSequence, traceId, lastSummary, gap, by simp [truncated, whole]⟩
    split
    · exact step
    · have link := d0.consumeLink_quiet record
      generalize d0.consumeLink record = outcome at link
      obtain ⟨d1, frame⟩ := outcome
      cases frame with
      | none => exact step.quiet link
      | some frame => exact step.quiet (link.trans (d1.consumeTransport_quiet frame))

/-- What consecutive records from `first` on do to the record stream. -/
theorem consumeAll_stream {records : List TraceRecord} {first : Nat}
    (numbered : records.map (·.sequence) = List.range' first records.length) :
    (d.consumeAll records).1.lastSequence = (if records = [] then d.lastSequence else first + records.length - 1) ∧
      (d.consumeAll records).1.traceId = d.traceId ∧ (d.consumeAll records).1.lastSummary = d.lastSummary ∧
      (.recordSequenceGap ∈ (d.consumeAll records).1.issues ↔
        .recordSequenceGap ∈ d.issues ∨ (records ≠ [] ∧ first ≠ d.lastSequence + 1)) ∧
      (.truncatedRecords ∈ (d.consumeAll records).1.issues ↔
        .truncatedRecords ∈ d.issues ∨ ∃ r ∈ records, r.messageTruncated = true) := by
  induction records generalizing d first with
  | nil => simp [consumeAll]
  | cons record rest ih =>
    rw [List.map_cons, List.length_cons, List.range'_succ] at numbered
    obtain ⟨rfl, numbered⟩ := List.cons.inj numbered
    have step := d.consume_stream record
    obtain ⟨lastSequence, traceId, lastSummary, gap, truncated⟩ := ih (d.consume record).1 numbered
    rw [consumeAll]
    refine ⟨?_, traceId.trans step.traceId, lastSummary.trans step.lastSummary, ?_, ?_⟩
    · rw [lastSequence, step.lastSequence, if_neg (List.cons_ne_nil _ _), List.length_cons]
      split
      · next empty => rw [empty]; rfl
      · omega
    · rw [gap, step.gap, step.lastSequence]
      simp
    · rw [truncated, step.truncated]
      simp [or_assoc]

/-- Noting a loss keeps the place in the stream. -/
theorem noteLoss_stream (counter : TraceSummary → Nat) (value : Issue) (summary : TraceSummary) :
    (d.noteLoss counter value summary).lastSequence = d.lastSequence ∧
      (d.noteLoss counter value summary).traceId = d.traceId ∧
      (d.noteLoss counter value summary).lastSummary = d.lastSummary ∧
      ∀ other, other ∈ (d.noteLoss counter value summary).issues ↔
        other ∈ d.issues ∨ (other = value ∧ counter summary ≠ 0) := by
  unfold noteLoss
  split
  · next none_ => simp [none_]
  · next loss =>
    dsimp only
    split <;> simp [clearPending, mem_issue, loss]

/-- The end of a batch keeps the place in the stream. -/
theorem finishBatch_stream (summary : TraceSummary) :
    (d.finishBatch summary).lastSequence = d.lastSequence ∧ (d.finishBatch summary).traceId = d.traceId ∧
      (d.finishBatch summary).lastSummary = some summary ∧
      (.recordSequenceGap ∈ (d.finishBatch summary).issues ↔ .recordSequenceGap ∈ d.issues ∨
        (d.lastSequence : Int) ≠ summary.lastSequence - summary.queuedRecords) ∧
      (.truncatedRecords ∈ (d.finishBatch summary).issues ↔ .truncatedRecords ∈ d.issues) := by
  unfold finishBatch
  dsimp only
  generalize boundary : (if (d.lastSequence : Int) ≠ summary.lastSequence - summary.queuedRecords then
    (d.issue .recordSequenceGap).clearPending else d) = d0
  have ready : d0.lastSequence = d.lastSequence ∧ d0.traceId = d.traceId ∧
      (.recordSequenceGap ∈ d0.issues ↔ .recordSequenceGap ∈ d.issues ∨
        (d.lastSequence : Int) ≠ summary.lastSequence - summary.queuedRecords) ∧
      (.truncatedRecords ∈ d0.issues ↔ .truncatedRecords ∈ d.issues) := by
    subst boundary
    split
    · next gap => simp [clearPending, mem_issue, gap]
    · next reached => simp [reached]
  obtain ⟨lastSequence, traceId, gap, truncated⟩ := ready
  split
  · have links : Quiet d0 (if d0.links.entries ≠ [] then d0.issue .incompleteLinkFrame else d0) := by
      split
      · exact (Quiet.refl d0).issue rfl
      · exact .refl d0
    generalize (if d0.links.entries ≠ [] then d0.issue .incompleteLinkFrame else d0) = d1 at links ⊢
    have transports : Quiet d1 (if d1.transports.entries ≠ [] then d1.issue .incompleteTransportFragment else d1) := by
      split
      · exact (Quiet.refl d1).issue rfl
      · exact .refl d1
    generalize (if d1.transports.entries ≠ [] then d1.issue .incompleteTransportFragment else d1) = d2 at transports ⊢
    have quiet := links.trans transports
    exact ⟨quiet.lastSequence.trans lastSequence, quiet.traceId.trans traceId, rfl,
      (quiet.issues _ rfl).trans gap, (quiet.issues _ rfl).trans truncated⟩
  · exact ⟨lastSequence, traceId, rfl, gap, truncated⟩

/-- **What a batch reports.** Its records are consecutive and end at the consumed boundary; a gap is
reported when the decoder had not reached the record before the first of them. -/
theorem decodeRecords_stream {summary : TraceSummary} {records : List TraceRecord} {before : Nat} (timedOut : Bool)
    (numbered : records.map (·.sequence) = List.range' (before + 1) records.length)
    (boundary : summary.lastSequence = before + records.length + summary.queuedRecords)
    (truncated : (∃ r ∈ records, r.messageTruncated = true) → summary.truncatedRecords ≠ 0) :
    (d.decodeRecords summary records timedOut).1.lastSequence =
        (if records = [] then d.lastSequence else before + records.length) ∧
      (d.decodeRecords summary records timedOut).1.traceId = summary.traceId ∧
      (d.decodeRecords summary records timedOut).1.lastSummary = some summary ∧
      (.recordSequenceGap ∈ (d.decodeRecords summary records timedOut).1.issues ↔
        .recordSequenceGap ∈ d.issues ∨ d.lastSequence ≠ before) ∧
      (.truncatedRecords ∈ (d.decodeRecords summary records timedOut).1.issues ↔
        .truncatedRecords ∈ d.issues ∨ summary.truncatedRecords ≠ 0) := by
  unfold decodeRecords
  dsimp only
  obtain ⟨last1, id1, -, issues1⟩ :=
    noteLoss_stream { d with traceId := summary.traceId } (·.droppedRecords) .droppedRecords summary
  generalize noteLoss (·.droppedRecords) .droppedRecords summary { d with traceId := summary.traceId } = d1
    at last1 id1 issues1 ⊢
  obtain ⟨last2, id2, -, issues2⟩ := d1.noteLoss_stream (·.truncatedRecords) .truncatedRecords summary
  generalize d1.noteLoss (·.truncatedRecords) .truncatedRecords summary = d2 at last2 id2 issues2 ⊢
  obtain ⟨last3, id3, -, gap3, cut3⟩ := d2.consumeAll_stream numbered
  generalize (d2.consumeAll records).1 = d3 at last3 id3 gap3 cut3 ⊢
  obtain ⟨last4, id4, sum4, gap4, cut4⟩ := d3.finishBatch_stream summary
  have last : d2.lastSequence = d.lastSequence := last2.trans last1
  refine ⟨?_, (id4.trans id3).trans (id2.trans id1), sum4, ?_, ?_⟩
  · rw [last4, last3, last]
    split
    · rfl
    · omega
  · rw [gap4, gap3, issues2, issues1, last3, last]
    simp only [reduceCtorEq, false_and, or_false]
    by_cases empty : records = []
    · subst empty
      simp only [ne_eq, not_true, false_and, or_false, if_true]
      rw [boundary, List.length_nil]
      have : (d.lastSequence : Int) = ((before + 0 + summary.queuedRecords : Nat) : Int) - summary.queuedRecords ↔
          d.lastSequence = before := by omega
      rw [this]
    · have positive := List.length_pos_iff.mpr empty
      simp only [ne_eq, empty, not_false_iff, true_and, if_false]
      have reached : ((before + 1 + records.length - 1 : Nat) : Int) = summary.lastSequence - summary.queuedRecords := by
        omega
      simp only [reached, not_true, or_false, Nat.add_right_cancel_iff]
      rw [eq_comm]
  · rw [cut4, cut3, issues2, issues1]
    simp only [reduceCtorEq, false_and, or_false, true_and]
    constructor
    · rintro (old | cut)
      · exact old
      · exact Or.inr (truncated cut)
    · exact Or.inl

end TraceDecoder

end EmsDnp3.Python
