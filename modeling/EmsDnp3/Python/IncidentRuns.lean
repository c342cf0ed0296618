import EmsDnp3.Python.IncidentSteps

/-!
# The calls of the store when nothing goes wrong

What each call returns when no operation fails; its effect on the files is what the call can do.
-/

namespace EmsDnp3.Python

open Disk (Does outcome)
open Program (Normal Reaches)

section
variable {rt : Runtime} {d s t : StoreDisk} {path : StorePath} {i j : Incident rt.digits}

/-- `_read_document` of what stands under the name. -/
def documentIn (rt : Runtime) (problem : StoreError) (missingOk : Bool) : Slot → Except StoreError (Option (Incident rt.digits))
  | .absent => if missingOk then .ok none else .error problem
  | .dangling => .error problem
  | .file bytes =>
    match readRecord rt (bytes.take (maxIncidentBytes + 1)) with
    | .ok i => .ok (some i)
    | .error .invalid => .error problem
    | .error (.type message) => .error (.python (.type message))

/-- Reading a document does not change the store. -/
theorem run_readDocument (problem : StoreError) (missingOk : Bool) :
    (readDocument rt path problem missingOk).run outcome s = (documentIn rt problem missingOk (s.slot path), s) := by
  unfold Disk.slot
  split
  · next free =>
    have failed : s.outcome (.openFile path) = (.error .fileNotFound, s) := by simp only [outcome, free]
    refine (Program.run_bind_ok (Program.run_perform failed)).trans ?_
    cases missingOk with
    | false => rfl
    | true =>
      have missing : s.outcome (.lstat path) = (.error .fileNotFound, s) := by simp [outcome, free]
      exact Program.run_bind_ok (Program.run_perform missing)
  · next dangling =>
    have failed : s.outcome (.openFile path) = (.error .fileNotFound, s) := by simp only [outcome, dangling]
    refine (Program.run_bind_ok (Program.run_perform failed)).trans ?_
    cases missingOk with
    | false => rfl
    | true =>
      have there : s.outcome (.lstat path) = (.ok (), s) := by simp [outcome, dangling]
      exact Program.run_bind_ok (Program.run_perform there)
  · next node here =>
    have opened : s.outcome (.openFile path) = (.ok node, s) := by simp only [outcome, here]
    have read : s.outcome (.read node (maxIncidentBytes + 1)) = (.ok ((s.contents node).take (maxIncidentBytes + 1)), s) := rfl
    refine (Program.run_bind_ok (Program.run_perform opened)).trans ((Program.run_bind_ok (Program.run_perform read)).trans ?_)
    dsimp only [documentIn]
    cases readRecord rt ((s.contents node).take (maxIncidentBytes + 1)) with
    | ok i => rfl
    | error problem' => cases problem' <;> rfl

theorem Reads.run_readDocument (reads : Reads rt s path i) (problem : StoreError) (missingOk : Bool) :
    (readDocument rt path problem missingOk).run outcome s = (.ok (some i), s) := by
  obtain ⟨bytes, here, read⟩ := reads
  rw [Python.run_readDocument, here]
  simp only [documentIn, read]

theorem run_readDocument_absent (absent : s.slot path = .absent) (problem : StoreError) :
    (readDocument rt path problem true).run outcome s = (.ok none, s) := by
  rw [run_readDocument, absent]
  rfl

/-- A free name is taken. -/
theorem run_writeExclusive (i : Incident rt.digits) (free : s.slot path = .absent) :
    ∃ t, (writeExclusive path i).run outcome s = (.ok (), t) := by
  have short : ¬ maxIncidentBytes < i.bytes.length := Nat.not_lt.mpr i.bytes_short.2
  obtain ⟨t, run⟩ := Disk.run_writeNew i.bytes free
  refine ⟨t, ?_⟩
  rw [writeExclusive, recordBytes_eq]
  dsimp only
  rw [if_neg short]
  exact Program.run_handle_ok run

theorem run_writeExclusive_taken (i : Incident rt.digits) (taken : s.slot path ≠ .absent) :
    (writeExclusive path i).run outcome s = (.error .fileExists, s) := by
  have short : ¬ maxIncidentBytes < i.bytes.length := Nat.not_lt.mpr i.bytes_short.2
  rw [writeExclusive, recordBytes_eq]
  dsimp only
  rw [if_neg short]
  exact Program.run_handle_error (Disk.run_writeNew_taken i.bytes taken)

/-- Replacing writes a temporary file and moves it. -/
theorem run_replaceDocument (formed : s.WellFormed) (path : StorePath) {temporary : StorePath} (i : Incident rt.digits)
    (free : s.slot temporary = .absent) : ∃ t, (replaceDocument path temporary i).run outcome s = (.ok (), t) := by
  obtain ⟨t, wrote⟩ := run_writeExclusive i free
  obtain ⟨-, -, whole⟩ := (always_writeExclusive formed temporary i).run Disk.does_outcome wrote
  obtain ⟨entry, here⟩ : ∃ entry, t.entries temporary = some entry := by
    refine Option.ne_none_iff_exists'.mp fun absent => ?_
    rw [Disk.slot_eq_absent.mpr absent] at whole
    cases whole
  have renamed : t.outcome (.rename temporary path) = (.ok (), t.move temporary path entry) := by simp only [outcome, here]
  obtain ⟨u, unlinked⟩ := Disk.run_tryUnlink (ε := StoreError) temporary (t.move temporary path entry)
  refine ⟨u, Program.run_ensuring (Program.run_handle_ok ?_) unlinked⟩
  exact (Program.run_bind_ok wrote).trans (Program.run_bind_ok (Program.run_perform renamed))

theorem run_ensureDirectories : ensureDirectories.run outcome s = (.ok (), s) := rfl

theorem run_ofPython {α : Type} {x : Except PyError α} {a : α} (ok : x = .ok a) :
    (ofPython x).run outcome s = (.ok a, s) := by
  rw [ok]
  rfl

section
variable {dutId : Text} {dutHash : Sha256} (hashed : dutIdentitySha256 rt dutId = .ok dutHash)
include hashed

theorem run_getActive_absent (absent : s.slot (.active dutHash) = .absent) :
    (getActive rt dutId).run outcome s = (.ok none, s) := by
  refine (Program.run_bind_ok run_ensureDirectories).trans ((Program.run_bind_ok (run_ofPython hashed)).trans ?_)
  exact Program.run_bind_ok (run_readDocument_absent absent _)

/-- The active incident is that of the lock. -/
theorem run_getActive (lock : Reads rt s (.active dutHash) i) (dut : i.dutIdentitySha256 = dutHash) :
    (getActive rt dutId).run outcome s = (.ok (some i), s) := by
  refine (Program.run_bind_ok run_ensureDirectories).trans ((Program.run_bind_ok (run_ofPython hashed)).trans ?_)
  refine (Program.run_bind_ok (lock.run_readDocument ..)).trans ?_
  dsimp only
  rw [if_pos dut]
  rfl

theorem run_assertClear (absent : s.slot (.active dutHash) = .absent) :
    (assertClear rt dutId).run outcome s = (.ok (), s) :=
  Program.run_bind_ok (run_getActive_absent hashed absent)

/-- An uncertain command is recorded. -/
theorem run_recordUncertain {uuid : Uuid} {now : Timestamp rt.digits} {c : UncertainCommand}
    (absent : s.slot (.active dutHash) = .absent) (checked : checkedIncident rt uuid now dutHash c = .ok i) :
    ∃ t, (recordUncertain rt uuid now dutId c).run outcome s = (.ok ⟨i, true⟩, t) := by
  obtain ⟨t, wrote⟩ := run_writeExclusive i absent
  refine ⟨t, (Program.run_bind_ok run_ensureDirectories).trans ((Program.run_bind_ok (run_ofPython hashed)).trans ?_)⟩
  refine (Program.run_bind_ok (run_getActive_absent hashed absent)).trans ((Program.run_bind_ok (run_ofPython checked)).trans ?_)
  exact Program.run_handle_ok (Program.run_bind_ok wrote)

end

/-! ## Acknowledgment -/

/-- An acknowledgment is written to the lock. -/
theorem run_acknowledgedRecord (formed : s.WellFormed) (active : StorePath) {temporary : StorePath} (now : Timestamp rt.digits)
    (incidentId : Text) {i : Incident rt.digits} {data : AcknowledgmentData}
    (same : ∀ a, i.status = .acknowledged a → a.toAcknowledgmentData = data) (free : s.slot temporary = .absent) :
    ∃ j t, (acknowledgedRecord active temporary now incidentId i data).run outcome s = (.ok j, t) := by
  rw [acknowledgedRecord]
  split
  · next a status =>
    rw [if_pos (same a status)]
    exact ⟨i, s, rfl⟩
  · obtain ⟨t, replaced⟩ := run_replaceDocument formed active (i.acknowledge now data) free
    exact ⟨i.acknowledge now data, t, Program.run_bind_ok replaced⟩

/-- The archive is new, or holds the record already. -/
theorem run_archiveRecord (archive : StorePath) (incidentId : Text) (j : Incident rt.digits)
    (able : s.slot archive = .absent ∨ ∃ found, Reads rt s archive found ∧ found.same j) :
    ∃ t, (archiveRecord archive incidentId j).run outcome s = (.ok (), t) := by
  obtain free | ⟨found, reads, same⟩ := able
  · obtain ⟨t, wrote⟩ := run_writeExclusive j free
    exact ⟨t, Program.run_handle_ok wrote⟩
  · refine ⟨s, (Program.run_handle_error (run_writeExclusive_taken j reads.not_absent)).trans ?_⟩
    refine (Program.run_bind_ok (reads.run_readDocument _ _)).trans ?_
    dsimp only
    rw [if_pos same]
    rfl

/-- An archive that is not readable is not replaced. -/
theorem run_archiveRecord_unreadable {archive : StorePath} {bytes : List Byte} (incidentId : Text) (j : Incident rt.digits)
    (here : s.slot archive = .file bytes) (invalid : readRecord rt (bytes.take (maxIncidentBytes + 1)) = .error .invalid) :
    (archiveRecord archive incidentId j).run outcome s = (.error (.persistence unreadable), s) := by
  refine (Program.run_handle_error (run_writeExclusive_taken j (by simp [here]))).trans ?_
  refine Program.run_bind_error ((run_readDocument ..).trans ?_)
  rw [here]
  simp only [documentIn, invalid]

theorem run_removeActive (active : StorePath) (s : StoreDisk) : ∃ t, (removeActive active).run outcome s = (.ok (), t) := by
  cases here : s.entries active with
  | none =>
    have missing : s.outcome (.unlink active) = (.error .fileNotFound, s) := by simp only [outcome, here]
    exact ⟨s, Program.run_bind_ok (Program.run_perform missing)⟩
  | some entry =>
    have removed : s.outcome (.unlink active) = (.ok (), s.erase active) := by simp only [outcome, here]
    exact ⟨s.erase active, Program.run_bind_ok (Program.run_perform removed)⟩

section
variable {dutHash : Sha256} {uuid : Uuid} {now : Timestamp rt.digits} (r : AcknowledgeRequest)
  (hashed : dutIdentitySha256 rt r.dutId = .ok dutHash)
include hashed

/-- The acknowledgment of the lock, up to the archive. -/
theorem acknowledge_archives {data : AcknowledgmentData} (lock : Reads rt s (.active dutHash) i)
    (dut : i.dutIdentitySha256 = dutHash) (named : i.incidentId.val = r.incidentId)
    (supplied : suppliedAcknowledgment rt r = .ok data)
    (made : (acknowledgedRecord (.active dutHash) (.temporary dutHash uuid) now r.incidentId i data).run outcome s = (.ok j, t)) :
    Reaches (Normal outcome) (acknowledge rt uuid now r) s
      ((archiveRecord (.archive i.incidentId) r.incidentId j).bind fun _ =>
        (removeActive (.active dutHash)).bind fun _ => .ok j) t := by
  have valid : isIncidentId r.incidentId = true := named ▸ i.incidentId.property
  have archive : (⟨r.incidentId, valid⟩ : IncidentId) = i.incidentId := Subtype.ext named.symm
  have normal (s : StoreDisk) (op : FileOp StorePath) : Normal outcome s op (s.outcome op).1 (s.outcome op).2 := rfl
  refine .bind_ok (.of_run normal run_ensureDirectories) (.bind_ok (.of_run normal (run_ofPython hashed)) ?_)
  rw [dif_pos valid, archive]
  refine .bind_ok (.of_run normal (lock.run_readDocument _ _)) ?_
  dsimp only
  rw [if_neg (not_not.mpr dut), if_neg (not_not.mpr named), supplied]
  exact .bind_ok (.refl _ _) (.bind_ok (.of_run normal made) (.refl _ _))

/-- The acknowledgment comes to its end when the archive is new or holds its record already. -/
theorem run_acknowledge_ok (uuid : Uuid) (now : Timestamp rt.digits) {data : AcknowledgmentData} (formed : s.WellFormed) (lock : Reads rt s (.active dutHash) i)
    (dut : i.dutIdentitySha256 = dutHash) (named : i.incidentId.val = r.incidentId)
    (supplied : suppliedAcknowledgment rt r = .ok data)
    (same : ∀ a, i.status = .acknowledged a → a.toAcknowledgmentData = data)
    (free : s.slot (.temporary dutHash uuid) = .absent)
    (able : s.slot (.archive i.incidentId) = .absent ∨
      ∃ found, Reads rt s (.archive i.incidentId) found ∧ ∀ j, Acknowledges now data i j → found.same j) :
    ∃ j t, (acknowledge rt uuid now r).run outcome s = (.ok j, t) := by
  obtain ⟨j, t, made⟩ := run_acknowledgedRecord formed (.active dutHash) now r.incidentId same free
  obtain ⟨makes, replacing, -⟩ :=
    (always_acknowledgedRecord formed (by simp) now r.incidentId lock data).run Disk.does_outcome made
  have archive : t.slot (.archive i.incidentId) = s.slot (.archive i.incidentId) := replacing.others _ (by simp) (by simp)
  obtain ⟨u, archived⟩ := run_archiveRecord (s := t) (.archive i.incidentId) r.incidentId j (by
    obtain absent | ⟨found, reads, equal⟩ := able
    · exact .inl (archive.trans absent)
    · exact .inr ⟨found, reads.of_slot archive, equal j makes⟩)
  obtain ⟨v, removed⟩ := run_removeActive (.active dutHash) u
  refine ⟨j, v, (acknowledge_archives r hashed lock dut named supplied made).run_eq.trans ?_⟩
  exact (Program.run_bind_ok archived).trans (Program.run_bind_ok removed)

/-- The acknowledgment of an incident that has been archived. -/
theorem run_acknowledge_archived {id : IncidentId} (absent : s.slot (.active dutHash) = .absent)
    (named : id.val = r.incidentId) (archived : Reads rt s (.archive id) j) (dut : j.dutIdentitySha256 = dutHash) :
    (acknowledge rt uuid now r).run outcome s = (.ok j, s) := by
  have valid : isIncidentId r.incidentId = true := named ▸ id.property
  have archive : (⟨r.incidentId, valid⟩ : IncidentId) = id := Subtype.ext named.symm
  refine (Program.run_bind_ok run_ensureDirectories).trans ((Program.run_bind_ok (run_ofPython hashed)).trans ?_)
  rw [dif_pos valid, archive]
  refine (Program.run_bind_ok (run_readDocument_absent absent _)).trans ?_
  refine (Program.run_bind_ok (archived.run_readDocument _ _)).trans ?_
  dsimp only
  rw [if_pos dut]
  rfl

end

end

end EmsDnp3.Python
