import EmsDnp3.Python.IncidentHistory

/-!
# The retry of an acknowledgment

An acknowledgment that was stopped is called again with the same arguments, and nothing goes wrong this time. It comes
to its end, unless the archive was left without the whole record in it: that file is neither accepted nor replaced.
-/

namespace EmsDnp3.Python

open Disk (Does outcome)
open Program (Reaches)

section
variable {rt : Runtime} {d s t : StoreDisk} {dutHash : Sha256} {i j k : Incident rt.digits}

theorem Incident.same.fields {a b : Incident rt.digits} (same : a.same b) :
    a.status = b.status ∧ a.dutIdentitySha256 = b.dutIdentitySha256 := by
  rw [Incident.same, Incident.mk.injEq] at same
  exact ⟨same.2.2.1, same.2.2.2.2.2.1⟩

theorem Acknowledges.dutIdentitySha256 {now : Timestamp rt.digits} {data : AcknowledgmentData} (makes : Acknowledges now data i j) :
    j.dutIdentitySha256 = i.dutIdentitySha256 := by
  cases makes <;> rfl

variable (rt) in
/-- The call returns the archived record, and the gate is open. -/
def Completes (s : StoreDisk) (id : IncidentId) (uuid : Uuid) (now : Timestamp rt.digits) (r : AcknowledgeRequest) : Prop :=
  ∃ j t, (acknowledge rt uuid now r).run outcome s = (.ok j, t) ∧ j.isAcknowledged = true ∧ Reads rt t (.archive id) j ∧
    (assertClear rt r.dutId).run outcome t = (.ok (), t)

variable (rt) in
/-- No archive, or one that is read. -/
def Archivable (s : StoreDisk) (id : IncidentId) : Prop := s.slot (.archive id) = .absent ∨ ∃ j, Reads rt s (.archive id) j

/-- The archive that an acknowledged lock left is read as that lock, or not at all. -/
theorem Follows.found (follows : Follows dutHash k s) (lock : Reads rt s (.active dutHash) k)
    (reads : Reads rt s (.archive k.incidentId) j) : k.isAcknowledged = true ∧ j = k := by
  obtain absent | ⟨k', front, lock', acknowledged, starts, here⟩ := follows
  · exact absurd absent reads.not_absent
  · obtain rfl := lock.unique lock'
    exact ⟨acknowledged, reads.of_start starts here⟩

/-- An acknowledgment carries the data it was made with. -/
theorem Acknowledges.data {now : Timestamp rt.digits} {data : AcknowledgmentData} (makes : Acknowledges now data i j)
    {a : Acknowledgment rt.digits} (status : j.status = .acknowledged a) : a.toAcknowledgmentData = data := by
  cases makes with
  | again status' same =>
    obtain rfl := IncidentStatus.acknowledged.inj (status'.symm.trans status)
    exact same
  | first =>
    obtain rfl := IncidentStatus.acknowledged.inj status
    rfl

variable {r : AcknowledgeRequest} {data : AcknowledgmentData} (hashed : dutIdentitySha256 rt r.dutId = .ok dutHash)
include hashed

/-- An archive without the whole record stops the retry, which leaves everything as it is. -/
theorem run_acknowledge_stuck (uuid : Uuid) (now : Timestamp rt.digits) {bytes : List Byte}
    (lock : Reads rt s (.active dutHash) k) (dut : k.dutIdentitySha256 = dutHash) (named : k.incidentId.val = r.incidentId)
    {a : Acknowledgment rt.digits} (status : k.status = .acknowledged a)
    (supplied : suppliedAcknowledgment rt r = .ok a.toAcknowledgmentData)
    (here : s.slot (.archive k.incidentId) = .file bytes)
    (invalid : readRecord rt (bytes.take (maxIncidentBytes + 1)) = .error .invalid) :
    (acknowledge rt uuid now r).run outcome s = (.error (.persistence unreadable), s) := by
  have made : (acknowledgedRecord (.active dutHash) (.temporary dutHash uuid) now r.incidentId k a.toAcknowledgmentData).run
      outcome s = (.ok k, s) := by
    rw [acknowledgedRecord]
    simp only [status, if_true]
    rfl
  refine (acknowledge_archives r hashed lock dut named supplied made).run_eq.trans ?_
  exact Program.run_bind_error (run_archiveRecord_unreadable r.incidentId k here invalid)

/-- A retry that finds the lock. -/
theorem completes_locked_iff (uuid : Uuid) (now : Timestamp rt.digits) (formed : s.WellFormed)
    (lock : Reads rt s (.active dutHash) k) (dut : k.dutIdentitySha256 = dutHash) (named : k.incidentId.val = r.incidentId)
    (supplied : suppliedAcknowledgment rt r = .ok data)
    (same : ∀ a, k.status = .acknowledged a → a.toAcknowledgmentData = data) (follows : Follows dutHash k s)
    (free : s.slot (.temporary dutHash uuid) = .absent) :
    Completes rt s k.incidentId uuid now r ↔ Archivable rt s k.incidentId := by
  constructor
  · rintro ⟨j, u, run, -⟩
    obtain absent | ⟨k', front, lock', acknowledged, starts, here⟩ := follows
    · exact .inl absent
    · obtain rfl := lock.unique lock'
      obtain ⟨whole, -⟩ | invalid := readRecord_start k starts
      · exact .inr ⟨k, front, here, by rw [take_bytes starts]; exact whole⟩
      · obtain ⟨a, status⟩ : ∃ a, k.status = .acknowledged a := by
          cases status : k.status with
          | opened nulled => simp [Incident.isAcknowledged, status] at acknowledged
          | acknowledged a => exact ⟨a, rfl⟩
        rw [← same a status] at supplied
        rw [← take_bytes starts] at invalid
        rw [run_acknowledge_stuck hashed uuid now lock dut named status supplied here invalid] at run
        cases (Prod.mk.inj run).1
  · intro able
    obtain ⟨j, u, run⟩ := run_acknowledge_ok r hashed uuid now formed lock dut named supplied same free (by
      obtain absent | ⟨found, reads⟩ := able
      · exact .inl absent
      · obtain ⟨acknowledged, rfl⟩ := follows.found lock reads
        refine .inr ⟨found, reads, fun j makes => ?_⟩
        rw [makes.continues.eq acknowledged]
        rfl)
    have held : Held dutHash k s := ⟨formed, k, .same, lock⟩
    obtain ⟨-, resolved⟩ := held.resolved hashed rfl (.of_run Disk.does_outcome run)
    obtain ⟨found, reads, -, whole⟩ := resolved.archived
    obtain rfl := whole follows
    exact ⟨found, u, run, resolved.acknowledged, reads, run_assertClear hashed resolved.removed⟩

/-- An acknowledgment that was stopped anywhere is completed by its retry, unless it left an archive that is not read. -/
theorem acknowledge_resumes_iff (uuid uuid' : Uuid) (now now' : Timestamp rt.digits) (formed : d.WellFormed)
    (lock : Reads rt d (.active dutHash) i) (dut : i.dutIdentitySha256 = dutHash) (named : i.incidentId.val = r.incidentId)
    (supplied : suppliedAcknowledgment rt r = .ok data)
    (same : ∀ a, i.status = .acknowledged a → a.toAcknowledgmentData = data) (follows : Follows dutHash i d)
    {q : StoreProgram (Incident rt.digits)} (run : Reaches Does (acknowledge rt uuid now r) d q s)
    (free : s.slot (.temporary dutHash uuid') = .absent) :
    Completes rt s i.incidentId uuid' now' r ↔ Archivable rt s i.incidentId := by
  have unfinished (unfinished : Unfinished d dutHash uuid now r s) :
      Completes rt s i.incidentId uuid' now' r ↔ Archivable rt s i.incidentId := by
    obtain ⟨k, kept, made⟩ := unfinished.kept formed lock
    have dut' : k.dutIdentitySha256 = dutHash := by
      obtain rfl | ⟨_, _, makes⟩ := made
      · exact dut
      · exact makes.dutIdentitySha256.trans dut
    have same' (a : Acknowledgment rt.digits) (status : k.status = .acknowledged a) : a.toAcknowledgmentData = data := by
      obtain rfl | ⟨_, supplied', makes⟩ := made
      · exact same a status
      · rw [makes.data status]
        exact Except.ok.inj (supplied'.symm.trans supplied)
    have follows' : Follows dutHash k s := kept.follows lock kept.continues.incidentId.symm (by
      rw [Follows, kept.continues.incidentId]
      exact follows)
    rw [← kept.continues.incidentId] at named ⊢
    exact completes_locked_iff hashed uuid' now' kept.formed kept.lock dut' named supplied same' follows' free
  obtain ⟨-, now⟩ | ⟨j, rfl, now⟩ | ⟨_, -, now⟩ := (always_acknowledge formed uuid now hashed).cases run
  · exact unfinished now
  · -- the first call came to its end: the archive answers
    obtain ⟨names, removed⟩ := now.names lock
    obtain ⟨_, -, makes⟩ := names.acknowledges
    obtain ⟨found, reads, equal⟩ : ∃ found, Reads rt s (.archive i.incidentId) found ∧ found.same j := by
      obtain ⟨-, here⟩ | ⟨same, found, reads, equal⟩ := removed.archived
      · exact ⟨j, reads_bytes here, rfl⟩
      · exact ⟨found, reads.of_slot same, equal⟩
    have dut' : found.dutIdentitySha256 = dutHash := equal.fields.2.trans (makes.dutIdentitySha256.trans dut)
    have acknowledged : found.isAcknowledged = true := by
      rw [Incident.isAcknowledged, equal.fields.1]
      exact makes.isAcknowledged
    refine iff_of_true ⟨found, s, ?_, acknowledged, reads, run_assertClear hashed removed.lock⟩ (.inr ⟨found, reads⟩)
    exact run_acknowledge_archived r hashed removed.lock named reads dut'
  · exact unfinished now

/-! ## Stopped behind the creation of the archive -/

omit hashed in
/-- Where the archive is free it can be created. -/
theorem reaches_created {archive : StorePath} (incidentId : Text) (j : Incident rt.digits) (free : s.slot archive = .absent) :
    ∃ q, Reaches Does (archiveRecord archive incidentId j) s q (s.add archive) := by
  have created : Does s (.create archive) (.ok s.next) (s.add archive) := by
    left
    simp only [outcome, Disk.slot_eq_absent.mp free]
  have short : ¬ maxIncidentBytes < j.bytes.length := Nat.not_lt.mpr j.bytes_short.2
  rw [archiveRecord, writeExclusive, recordBytes_eq]
  dsimp only
  rw [if_neg short]
  exact ⟨_, Program.Reaches.handle (Program.Reaches.handle (Program.Reaches.handle (.act created (.refl _ _))))⟩

/-- An acknowledgment that is stopped when it has created the archive. -/
theorem acknowledge_created (uuid : Uuid) (now : Timestamp rt.digits) (formed : s.WellFormed)
    (lock : Reads rt s (.active dutHash) i) (dut : i.dutIdentitySha256 = dutHash) (named : i.incidentId.val = r.incidentId)
    (supplied : suppliedAcknowledgment rt r = .ok data)
    (same : ∀ a, i.status = .acknowledged a → a.toAcknowledgmentData = data)
    (free : s.slot (.temporary dutHash uuid) = .absent) (new : s.slot (.archive i.incidentId) = .absent) :
    ∃ q t j, Reaches Does (acknowledge rt uuid now r) s q (t.add (.archive i.incidentId)) ∧
      Replacing s (.active dutHash) (.temporary dutHash uuid) j.bytes t ∧ Acknowledges now data i j ∧
      Reads rt t (.active dutHash) j := by
  obtain ⟨j, t, made⟩ := run_acknowledgedRecord formed (.active dutHash) now r.incidentId same free
  obtain ⟨makes, replacing, acknowledged⟩ :=
    (always_acknowledgedRecord formed (by simp) now r.incidentId lock data).run Disk.does_outcome made
  have absent : t.slot (.archive i.incidentId) = .absent := (replacing.others _ (by simp) (by simp)).trans new
  obtain ⟨q, created⟩ := reaches_created r.incidentId j absent
  have archives := acknowledge_archives r hashed lock dut named supplied made
  exact ⟨_, t, j, .trans (archives.mono fun _ _ _ _ normal => .inl normal) created.bind, replacing, makes, acknowledged⟩

/-- An acknowledgment that is stopped behind the whole archive, in front of the removal of the lock. -/
theorem acknowledge_archived (uuid : Uuid) (now : Timestamp rt.digits) (formed : s.WellFormed)
    (lock : Reads rt s (.active dutHash) i) (dut : i.dutIdentitySha256 = dutHash) (named : i.incidentId.val = r.incidentId)
    (supplied : suppliedAcknowledgment rt r = .ok data)
    (same : ∀ a, i.status = .acknowledged a → a.toAcknowledgmentData = data)
    (free : s.slot (.temporary dutHash uuid) = .absent) (new : s.slot (.archive i.incidentId) = .absent) :
    ∃ q u j, Reaches Does (acknowledge rt uuid now r) s q u ∧ u.slot (.archive i.incidentId) = .file j.bytes ∧
      Reads rt u (.active dutHash) j ∧ ∀ path, path ≠ .active dutHash → path ≠ .archive i.incidentId →
        path ≠ .temporary dutHash uuid → u.slot path = s.slot path := by
  obtain ⟨j, t, made⟩ := run_acknowledgedRecord formed (.active dutHash) now r.incidentId same free
  obtain ⟨-, replacing, acknowledged⟩ :=
    (always_acknowledgedRecord formed (by simp) now r.incidentId lock data).run Disk.does_outcome made
  have absent : t.slot (.archive i.incidentId) = .absent := (replacing.others _ (by simp) (by simp)).trans new
  obtain ⟨u, archived⟩ := run_archiveRecord (.archive i.incidentId) r.incidentId j (.inl absent)
  obtain ⟨only, wrote⟩ := (always_archiveRecord replacing.formed (.archive i.incidentId) r.incidentId j).run
    Disk.does_outcome archived
  have archives := acknowledge_archives r hashed lock dut named supplied made
  have behind := (archives.mono fun _ _ _ _ normal => .inl normal).trans
    (.bind_ok (.of_run Disk.does_outcome archived) (.refl _ _))
  refine ⟨_, u, j, behind, ?_, ?_, ?_⟩
  · rcases wrote with ⟨-, whole⟩ | ⟨-, other, reads, -⟩
    · exact whole
    · exact absurd absent reads.not_absent
  · exact acknowledged.of_slot (only.others _ (by simp))
  · intro path active archive temporary
    exact (only.others path archive).trans (replacing.others path active temporary)

end

/-! ## One incident -/

def otherUuid : Uuid := ⟨text "a07d4d0e-91c2-4b53-8a6e-fedcba987654", by decide +kernel⟩

/-- The lock of the incident, and no other file. -/
def lockedStore : StoreDisk := oneFile (.active exampleHash) exampleIncident.bytes

theorem lockedStore_reads : Reads exampleRuntime lockedStore (.active exampleHash) exampleIncident :=
  reads_bytes (slot_oneFile _ _)

/-- Stopped behind the creation of the archive: the retry fails and leaves everything as it is, so it fails forever. -/
theorem stuckRetry :
    ∃ q s, Reaches Does (acknowledge exampleRuntime exampleUuid exampleTime exampleRequest) lockedStore q s ∧
      s.slot (.archive (incidentId exampleUuid)) = .file [] ∧ s.slot (.temporary exampleHash otherUuid) = .absent ∧
      (acknowledge exampleRuntime otherUuid exampleTime exampleRequest).run outcome s = (.error (.persistence unreadable), s) := by
  obtain ⟨q, t, j, run, replacing, makes, lock⟩ := acknowledge_created exampleHashed exampleUuid exampleTime (wellFormed_oneFile _ _)
    lockedStore_reads rfl rfl exampleSupplied (by simp [exampleIncident]) (slot_oneFile_other (by simp) _)
    (slot_oneFile_other (by simp) _)
  have other {path : StorePath} (differs : path ≠ .archive (incidentId exampleUuid)) :
      (t.add (.archive (incidentId exampleUuid))).slot path = t.slot path := Disk.slot_add_other replacing.formed differs
  have differs : otherUuid ≠ exampleUuid := by decide +kernel
  have free : t.slot (.temporary exampleHash otherUuid) = .absent :=
    (replacing.others _ (by simp) (by simp [differs])).trans (slot_oneFile_other (by simp) _)
  have status : j.status = .acknowledged ⟨exampleData, exampleTime⟩ := by
    cases makes with
    | again status => cases status
    | first => rfl
  refine ⟨q, _, run, Disk.slot_add _, (other (by simp)).trans free, ?_⟩
  exact run_acknowledge_stuck exampleHashed otherUuid exampleTime (lock.of_slot (other (by simp)))
    (makes.dutIdentitySha256.trans rfl) (congrArg Subtype.val makes.continues.incidentId) status exampleSupplied
    (by rw [makes.continues.incidentId]; exact Disk.slot_add _) rfl

/-- The stopped acknowledgment of the example is not completed by its retry. -/
theorem acknowledge_resumes_fails :
    ¬ ∀ q s, Reaches Does (acknowledge exampleRuntime exampleUuid exampleTime exampleRequest) lockedStore q s →
      Completes exampleRuntime s (incidentId exampleUuid) otherUuid exampleTime exampleRequest := by
  intro resumes
  obtain ⟨q, s, run, -, -, stuck⟩ := stuckRetry
  obtain ⟨j, t, completed, -⟩ := resumes q s run
  rw [stuck] at completed
  cases (Prod.mk.inj completed).1

/-- Stopped between the archive and the removal of the lock, the acknowledgment of the example is completed. -/
theorem acknowledge_resumes_iff_example :
    ∃ q s, Reaches Does (acknowledge exampleRuntime exampleUuid exampleTime exampleRequest) lockedStore q s ∧
      s.slot (.active exampleHash) ≠ .absent ∧ s.slot (.archive (incidentId exampleUuid)) ≠ .absent ∧
      Completes exampleRuntime s (incidentId exampleUuid) otherUuid exampleTime exampleRequest := by
  obtain ⟨q, u, j, run, archived, lock, others⟩ := acknowledge_archived exampleHashed exampleUuid exampleTime
    (wellFormed_oneFile _ _) lockedStore_reads rfl rfl exampleSupplied (by simp [exampleIncident])
    (slot_oneFile_other (by simp) _) (slot_oneFile_other (by simp) _)
  have differs : otherUuid ≠ exampleUuid := by decide +kernel
  have free : u.slot (.temporary exampleHash otherUuid) = .absent :=
    (others _ (by simp) (by simp) (by simp [differs])).trans (slot_oneFile_other (by simp) _)
  have iff := acknowledge_resumes_iff exampleHashed exampleUuid otherUuid exampleTime exampleTime (wellFormed_oneFile _ _)
    lockedStore_reads rfl rfl exampleSupplied (by simp [exampleIncident]) (.inl (slot_oneFile_other (by simp) _)) run free
  have reads : Reads exampleRuntime u (.archive (incidentId exampleUuid)) j := reads_bytes archived
  exact ⟨q, u, run, lock.not_absent, reads.not_absent, iff.mpr (.inr ⟨j, reads⟩)⟩

end EmsDnp3.Python
