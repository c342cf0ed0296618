import EmsDnp3.Native.TraceCopy
import EmsDnp3.Python.TraceIssues

/-!
# Observed traces

The host's ring and the client's decoder keep their own counters. An observer of the host's
runs writes down the log lines that a trace took in and feeds every read result to a decoder,
a fresh one for each trace.
-/

namespace EmsDnp3.System

open EmsDnp3.Native EmsDnp3.Python

/-! ## Observed runs -/

/-- A log line that a trace took in. -/
structure LogLine where
  sequence : Nat
  sessionId : UInt64
  logger : Option CString
  level : Int
  message : Option CString
  now : UInt64

namespace LogLine

/-- The record that the trace makes of it. -/
def record (l : LogLine) : Record :=
  ProtocolTrace.makeRecord l.sequence l.sessionId l.logger l.level l.message l.now

/-- The record does not hold the logger name or the message as it was; a null pointer has no
faithful copy. -/
def Altered (l : LogLine) : Prop :=
  l.logger.map (·.bytes) ≠ some l.record.logger ∨ l.message.map (·.bytes) ≠ some l.record.message

end LogLine

/-- The host, and what the observer knows of its current trace. -/
structure Observed where
  host : TraceHost := {}
  history : List LogLine := []
  decoder : TraceDecoder := {}
  delivered : List Nat := []

namespace Observed

/-- The log line that a critical section takes in. -/
def taken (a : TraceAction) (o : Observed) : Option LogLine :=
  match a, o.host.trace.trace with
  | .record sessionId logger level message now, some t =>
    if t.active && sessionId ≠ 0 && t.sequence ≠ uint64Max then
      some ⟨t.sequence + 1, sessionId, logger, level, message, now⟩
    else none
  | _, _ => none

/-- A read result goes to the decoder. -/
def feed (host : TraceHost) (result : ReadResult) (o : Observed) : Observed :=
  match result.json? with
  | none => { o with host }
  | some value =>
    match o.decoder.decodeBatch value with
    | .error _ => { o with host }
    | .ok (decoder, batch) =>
      { o with host, decoder, delivered := o.delivered ++ batch.records.map (·.sequence) }

/-- A log line goes to the history; a trace that is started gets a fresh decoder. -/
def advance (host : TraceHost) (line : Option LogLine) (o : Observed) : Observed :=
  if host.trace.nextTrace = o.host.trace.nextTrace then { o with host, history := o.history ++ line.toList }
  else { host }

/-- One critical section of the host, observed. -/
def step (a : TraceAction) (o : Observed) : Observed :=
  match o.host.step a with
  | (host, some result) => o.feed host result
  | (host, none) => o.advance host (o.taken a)

/-- The sequence of the current trace can still advance. -/
def Bounded (o : Observed) : Prop := ∀ t, o.host.trace.trace = some t → t.sequence < uint64Max

end Observed

/-- The states of all runs whose sequence numbers stay below the limit. -/
inductive Reachable : Observed → Prop where
  | initial : Reachable {}
  | step {o : Observed} (a : TraceAction) (reachable : Reachable o) (bounded : o.Bounded) : Reachable (o.step a)

/-! ## Log lines as records -/

/-- Every level has a known name. -/
theorem levelName_known (level : Int) : ∃ known : Level, levelName level = known.name := by
  have names : ∀ name ∈ levelNames, name ∈ Level.all.map Level.name := by decide
  unfold levelName
  split
  · next name found =>
    have mem : name.1 ∈ levelNames := by
      obtain ⟨-, inside⟩ := List.mem_zipIdx' (List.mem_of_find?_eq_some found)
      exact inside ▸ List.getElem_mem _
    obtain ⟨known, -, same⟩ := List.mem_map.mp (names name.1 mem)
    exact ⟨known, same.symm⟩
  · exact ⟨.other, rfl⟩

/-- A line is marked truncated exactly if it was altered. -/
theorem LogLine.truncated_iff (l : LogLine) : l.record.messageTruncated = true ↔ l.Altered := by
  have logger := (copyUtf8_spec l.logger 128).2.2
  have message := (copyUtf8_spec l.message 1024).2.2
  show ((copyUtf8 l.logger 128).2 || (copyUtf8 l.message 1024).2) = true ↔ _
  rw [Bool.or_eq_true, logger, message]
  rfl

/-- The host prints a record as the client reads it. -/
theorem LogLine.json (l : LogLine) (positive : 1 ≤ l.sequence) (bounded : l.sequence ≤ maxUint64)
    (session : l.sessionId ≠ 0) : ∃ r : TraceRecord, l.record.json? = some r.toDict ∧ r.Valid ∧
      r.sequence = l.sequence ∧ r.messageTruncated = l.record.messageTruncated := by
  obtain ⟨loggerShort, ⟨logger, loggerEncoded⟩, -⟩ := copyUtf8_spec l.logger 128
  obtain ⟨messageShort, ⟨message, messageEncoded⟩, -⟩ := copyUtf8_spec l.message 1024
  obtain ⟨level, levelEq⟩ := levelName_known l.level
  have sessionPositive : 1 ≤ l.sessionId.toNat := by
    have nonzero : l.sessionId.toNat ≠ 0 := fun zero => session (UInt64.toNat_inj.mp zero)
    omega
  have sessionBound : l.sessionId.toNat ≤ maxUint64 := Nat.le_pred_of_lt l.sessionId.toNat_lt
  have nowBound : l.now.toNat ≤ maxUint64 := Nat.le_pred_of_lt l.now.toNat_lt
  refine ⟨⟨l.sequence, l.sessionId.toNat, l.now.toNat, logger, level, message, l.record.messageTruncated⟩, ?_,
    ⟨⟨positive, bounded⟩, ⟨sessionPositive, sessionBound⟩, nowBound, ⟨_, loggerEncoded, loggerShort⟩,
      ⟨_, messageEncoded, messageShort⟩⟩, rfl, rfl⟩
  have loggerText : string? l.record.logger = some (.str logger) := by
    show (Utf8.decode (copyUtf8 l.logger 128).1).map Json.str = _
    rw [Utf8.decode_encode loggerEncoded, Option.map_some]
  have messageText : string? l.record.message = some (.str message) := by
    show (Utf8.decode (copyUtf8 l.message 1024).1).map Json.str = _
    rw [Utf8.decode_encode messageEncoded, Option.map_some]
  have levelText : l.record.level = level.name := levelEq
  rw [Record.json?, loggerText, messageText, levelText]
  rfl

/-- Every line can be written and is read back. -/
theorem LogLine.json_all {lines : List LogLine} (positive : ∀ l ∈ lines, 1 ≤ l.sequence)
    (bounded : ∀ l ∈ lines, l.sequence ≤ maxUint64) (sessions : ∀ l ∈ lines, l.sessionId ≠ 0) :
    ∃ records : List TraceRecord, (lines.map (·.record)).mapM (·.json?) = some (records.map (·.toDict)) ∧
      (∀ r ∈ records, r.Valid) ∧ records.map (·.sequence) = lines.map (·.sequence) ∧
      records.map (·.messageTruncated) = lines.map (·.record.messageTruncated) := by
  induction lines with
  | nil => exact ⟨[], rfl, by simp, rfl, rfl⟩
  | cons l rest ih =>
    rw [List.forall_mem_cons] at positive bounded sessions
    obtain ⟨r, json, valid, sequence, truncated⟩ := l.json positive.1 bounded.1 sessions.1
    obtain ⟨records, jsonRest, validRest, sequences, truncations⟩ := ih positive.2 bounded.2 sessions.2
    refine ⟨r :: records, ?_, List.forall_mem_cons.mpr ⟨valid, validRest⟩, ?_, ?_⟩
    · rw [List.map_cons, List.mapM_cons, json, jsonRest]
      rfl
    · rw [List.map_cons, List.map_cons, sequence, sequences]
    · rw [List.map_cons, List.map_cons, truncated, truncations]

end EmsDnp3.System
