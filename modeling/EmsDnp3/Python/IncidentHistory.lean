import EmsDnp3.Python.IncidentRuns
import EmsDnp3.Python.PackageWriter

/-!
# Histories of a lock

Calls for one device, one process at a time. A call comes to its end or is stopped between two of its operations; the
lock that was recorded stands until an acknowledgment of it comes to its end.
-/

namespace EmsDnp3.Python

open Disk (Does)
open Program (Reaches)

section
variable {rt : Runtime} {d s t : StoreDisk} {dutHash : Sha256} {i j k : Incident rt.digits}

/-! ## What can become of a record -/

/-- The record itself, or the open record with an acknowledgment. -/
inductive Continues (i : Incident rt.digits) : Incident rt.digits → Prop
  | same : Continues i i
  | acknowledged {nulled : Bool} (status : i.status = .opened nulled) (now : Timestamp rt.digits)
      (data : AcknowledgmentData) : Continues i (i.acknowledge now data)

theorem Continues.incidentId (continues : Continues i j) : j.incidentId = i.incidentId := by
  cases continues <;> rfl

theorem Continues.eq (continues : Continues i j) (acknowledged : i.isAcknowledged = true) : j = i := by
  cases continues with
  | same => rfl
  | acknowledged status => simp [Incident.isAcknowledged, status] at acknowledged

theorem Continues.trans (one : Continues i j) (two : Continues j k) : Continues i k := by
  cases one with
  | same => exact two
  | acknowledged status now data =>
    obtain rfl := two.eq rfl
    exact .acknowledged status now data

theorem Acknowledges.continues {now : Timestamp rt.digits} {data : AcknowledgmentData} (makes : Acknowledges now data i j) :
    Continues i j := by
  cases makes with
  | again => exact .same
  | first status => exact .acknowledged status now data

/-- Behind an acknowledgment the incident is acknowledged. -/
theorem Acknowledges.isAcknowledged {now : Timestamp rt.digits} {data : AcknowledgmentData}
    (makes : Acknowledges now data i j) : j.isAcknowledged = true := by
  cases makes with
  | again status => simp [Incident.isAcknowledged, status]
  | first => rfl

/-! ## One call -/

/-- A call has left the lock `k` as `k'`, and its archive alone until it was acknowledged. -/
structure Kept (d : StoreDisk) (dutHash : Sha256) (k k' : Incident rt.digits) (s : StoreDisk) : Prop where
  formed : s.WellFormed
  continues : Continues k k'
  lock : Reads rt s (.active dutHash) k'
  archived : s.slot (.archive k.incidentId) = d.slot (.archive k.incidentId) ∨
    k'.isAcknowledged = true ∧ (s.slot (.archive k.incidentId) = .absent ∨ d.slot (.archive k.incidentId) = .absent ∧
      ∃ front, front <+: k'.bytes ∧ s.slot (.archive k.incidentId) = .file front)

theorem Kept.refl (formed : d.WellFormed) (lock : Reads rt d (.active dutHash) k) : Kept d dutHash k k d :=
  ⟨formed, .same, lock, .inl rfl⟩

theorem Recording.eq {checked : Except PyError (Incident rt.digits)} (recording : Recording d dutHash checked s)
    (lock : Reads rt d (.active dutHash) k) : s = d := by
  obtain same | ⟨_, _, absent, _⟩ := recording
  · exact same
  · exact absurd absent lock.not_absent

/-- While a lock is there, recording changes nothing, whatever it returns. -/
theorem Recorded.eq {checked : Except PyError (Incident rt.digits)} {r : Except StoreError (IncidentRecordResult rt)}
    (recorded : Recorded d dutHash checked r s) (lock : Reads rt d (.active dutHash) k) : s = d := by
  obtain e | ⟨i, _ | _⟩ := r
  · exact Recording.eq recorded lock
  · exact recorded.1
  · exact absurd recorded.2.1 lock.not_absent

/-- The lock is as it was, or has the acknowledgment that was supplied. -/
theorem Unfinished.kept {uuid : Uuid} {now : Timestamp rt.digits} {r : AcknowledgeRequest} (formed : d.WellFormed)
    (unfinished : Unfinished d dutHash uuid now r s) (lock : Reads rt d (.active dutHash) k) :
    ∃ k', Kept d dutHash k k' s ∧ (k' = k ∨ ∃ data, suppliedAcknowledgment rt r = .ok data ∧ Acknowledges now data k k') := by
  obtain rfl | ⟨i, j, names, acknowledging⟩ := unfinished
  · exact ⟨k, .refl formed lock, .inl rfl⟩
  obtain rfl := names.lock.unique lock
  obtain ⟨data, supplied, makes⟩ := names.acknowledges
  have made : j = i ∨ ∃ data, suppliedAcknowledgment rt r = .ok data ∧ Acknowledges now data i j :=
    .inr ⟨data, supplied, makes⟩
  obtain same | ⟨acknowledged, archived⟩ := acknowledging.archived
  · obtain kept | replaced := acknowledging.lock
    · exact ⟨i, ⟨acknowledging.formed, .same, lock.of_slot kept, .inl same⟩, .inl rfl⟩
    · exact ⟨j, ⟨acknowledging.formed, makes.continues, reads_bytes replaced, .inl same⟩, made⟩
  · exact ⟨j, ⟨acknowledging.formed, makes.continues, acknowledged, .inr ⟨makes.isAcknowledged, archived⟩⟩, made⟩

/-- What comes out of an acknowledgment while there is a lock: it named the lock, and has removed it. -/
theorem Acknowledged.names {uuid : Uuid} {now : Timestamp rt.digits} {r : AcknowledgeRequest}
    (acknowledged : Acknowledged d dutHash uuid now r (.ok j) s) (lock : Reads rt d (.active dutHash) k) :
    Names d dutHash now r k j ∧ Removed d (.active dutHash) (.archive k.incidentId) (.temporary dutHash uuid) j s := by
  obtain ⟨-, absent, -⟩ | ⟨i, names, removed⟩ := acknowledged
  · exact absurd absent lock.not_absent
  · obtain rfl := names.lock.unique lock
    exact ⟨names, removed⟩

variable (rt) in
/-- One call for a device, at its end or stopped somewhere; not an acknowledgment of the incident at its end. -/
inductive StoreCall (dutId incidentId : Text) (d s : StoreDisk) : Prop
  | recordUncertain {uuid : Uuid} {now : Timestamp rt.digits} {c : UncertainCommand}
      {q : StoreProgram (IncidentRecordResult rt)} (run : Reaches Does (recordUncertain rt uuid now dutId c) d q s)
  | assertClear {q : StoreProgram Unit} (run : Reaches Does (assertClear rt dutId) d q s)
  | acknowledge {uuid : Uuid} {now : Timestamp rt.digits} {r : AcknowledgeRequest} {q : StoreProgram (Incident rt.digits)}
      (dut : r.dutId = dutId) (run : Reaches Does (acknowledge rt uuid now r) d q s)
      (stopped : r.incidentId = incidentId → ∀ j, q ≠ .ok j)

variable {dutId : Text} (hashed : dutIdentitySha256 rt dutId = .ok dutHash)
include hashed

/-- Every call keeps the lock, or acknowledges its incident. -/
theorem StoreCall.kept (formed : d.WellFormed) (lock : Reads rt d (.active dutHash) k)
    (call : StoreCall rt dutId k.incidentId.val d s) : ∃ k', Kept d dutHash k k' s := by
  have unchanged (same : s = d) : ∃ k', Kept d dutHash k k' s := by
    rw [same]
    exact ⟨k, .refl formed lock⟩
  cases call with
  | @recordUncertain uuid now c q run =>
    obtain ⟨-, now⟩ | ⟨_, -, now⟩ | ⟨_, -, now⟩ := (always_recordUncertain formed hashed uuid now c).cases run
    · exact unchanged (now.eq lock)
    · exact unchanged (now.eq lock)
    · exact unchanged (now.eq lock)
  | assertClear run =>
    obtain ⟨-, now⟩ | ⟨_, -, now⟩ | ⟨_, -, now⟩ := (always_assertClear hashed).cases run
    · exact unchanged now
    · exact unchanged now.1
    · exact unchanged now.1
  | @acknowledge uuid now r q dut run stopped =>
    subst dut
    obtain ⟨-, now⟩ | ⟨j, rfl, now⟩ | ⟨_, -, now⟩ := (always_acknowledge formed uuid now hashed).cases run
    · obtain ⟨k', kept, -⟩ := now.kept formed lock
      exact ⟨k', kept⟩
    · have named := (now.names lock).1.named
      exact absurd rfl (stopped named.symm j)
    · obtain ⟨k', kept, -⟩ := Unfinished.kept formed now lock
      exact ⟨k', kept⟩

/-! ## Any number of calls -/

variable (rt) in
/-- What is there after any number of calls, none of which is an acknowledgment of the incident that came to its end. -/
abbrev Later (dutId incidentId : Text) : StoreDisk → StoreDisk → Prop :=
  Relation.ReflTransGen (StoreCall rt dutId incidentId)

/-- The lock stands, as it was or acknowledged. -/
structure Held (dutHash : Sha256) (i : Incident rt.digits) (s : StoreDisk) : Prop where
  formed : s.WellFormed
  lock : ∃ k, Continues i k ∧ Reads rt s (.active dutHash) k

/-- There is nothing in the archive but what was written there behind the acknowledged lock. -/
def Follows (dutHash : Sha256) (i : Incident rt.digits) (s : StoreDisk) : Prop :=
  s.slot (.archive i.incidentId) = .absent ∨ ∃ k front, Reads rt s (.active dutHash) k ∧ k.isAcknowledged = true ∧
    front <+: k.bytes ∧ s.slot (.archive i.incidentId) = .file front

omit hashed in
/-- A lock that is kept follows the incident. -/
theorem Kept.follows (kept : Kept d dutHash j k s) (lock : Reads rt d (.active dutHash) j)
    (same : j.incidentId = i.incidentId) (follows : Follows dutHash i d) : Follows dutHash i s := by
  unfold Follows at follows ⊢
  rw [← same] at follows ⊢
  obtain before | ⟨acknowledged, absent | ⟨-, front, starts, here⟩⟩ := kept.archived
  · rw [before]
    obtain absent | ⟨j', front, lock', acknowledged, starts, here⟩ := follows
    · exact .inl absent
    · obtain rfl := lock.unique lock'
      obtain rfl := kept.continues.eq acknowledged
      exact .inr ⟨k, front, kept.lock, acknowledged, starts, here⟩
  · exact .inl absent
  · exact .inr ⟨k, front, kept.lock, acknowledged, starts, here⟩

/-- The lock stands in every later state. -/
theorem Held.later (held : Held dutHash i s) (later : Later rt dutId i.incidentId.val s t) : Held dutHash i t := by
  induction later with
  | refl => exact held
  | tail _ call ih =>
    obtain ⟨formed, k, continues, lock⟩ := ih
    rw [← continues.incidentId] at call
    obtain ⟨k', kept⟩ := call.kept hashed formed lock
    exact ⟨kept.formed, k', continues.trans kept.continues, kept.lock⟩

/-- A lock follows the incident over later calls. -/
theorem Follows.later (follows : Follows dutHash i s) (held : Held dutHash i s)
    (later : Later rt dutId i.incidentId.val s t) : Follows dutHash i t := by
  induction later with
  | refl => exact follows
  | tail before call ih =>
    obtain ⟨formed, k, continues, lock⟩ := held.later hashed before
    rw [← continues.incidentId] at call
    obtain ⟨k', kept⟩ := call.kept hashed formed lock
    exact kept.follows lock continues.incidentId ih

/-- The returned record is the lock. -/
theorem recordUncertain_held {uuid : Uuid} {now : Timestamp rt.digits} {c : UncertainCommand} {created : Bool}
    (formed : d.WellFormed) (run : Reaches Does (recordUncertain rt uuid now dutId c) d (.ok ⟨i, created⟩) s) :
    Held dutHash i s ∧ (Follows dutHash i d → Follows dutHash i s) := by
  have recorded := (always_recordUncertain formed hashed uuid now c).reached run
  cases created with
  | false =>
    obtain ⟨rfl, lock, -⟩ := recorded
    exact ⟨⟨formed, i, .same, lock⟩, id⟩
  | true =>
    obtain ⟨-, free, only, whole⟩ := recorded
    refine ⟨⟨only.formed, i, .same, reads_bytes whole⟩, ?_⟩
    rintro (absent | ⟨_, _, lock, -⟩)
    · exact .inl ((only.others _ (by simp)).trans absent)
    · exact absurd free lock.not_absent

/-- While the lock stands, the gate is shut. -/
theorem Held.assertClear (held : Held dutHash i s) {q : StoreProgram Unit} (run : Reaches Does (assertClear rt dutId) s q t) :
    q.IsRunning ∨ ∃ e, q = .raise e := by
  obtain ⟨k, -, lock⟩ := held.lock
  obtain ⟨running, -⟩ | ⟨_, rfl, -, clear⟩ | ⟨e, raised, -⟩ := (always_assertClear hashed).cases run
  · exact .inl running
  · exact absurd (clear rfl) lock.not_absent
  · exact .inr ⟨e, raised⟩

/-- An acknowledged lock refuses other data, and no file changes. -/
theorem acknowledged_refused {uuid : Uuid} {now : Timestamp rt.digits} {r : AcknowledgeRequest} {a : Acknowledgment rt.digits}
    {q : StoreProgram (Incident rt.digits)} (formed : d.WellFormed) (dut : r.dutId = dutId)
    (lock : Reads rt d (.active dutHash) i) (status : i.status = .acknowledged a)
    (differs : suppliedAcknowledgment rt r ≠ .ok a.toAcknowledgmentData)
    (run : Reaches Does (acknowledge rt uuid now r) d q s) : s = d ∧ ∀ j, q ≠ .ok j := by
  subst dut
  have refused {k j : Incident rt.digits} (names : Names d dutHash now r k j) : False := by
    obtain rfl := names.lock.unique lock
    obtain ⟨data, supplied, makes⟩ := names.acknowledges
    cases makes with
    | again status' same =>
      obtain rfl := IncidentStatus.acknowledged.inj (status.symm.trans status')
      exact differs (same ▸ supplied)
    | first status' =>
      rw [status] at status'
      cases status'
  have unchanged (unfinished : Unfinished d dutHash uuid now r s) : s = d := by
    obtain same | ⟨_, _, names, -⟩ := unfinished
    · exact same
    · exact (refused names).elim
  obtain ⟨running, now⟩ | ⟨j, rfl, now⟩ | ⟨e, rfl, now⟩ := (always_acknowledge formed uuid now hashed).cases run
  · refine ⟨unchanged now, ?_⟩
    rintro j rfl
    exact running
  · exact (refused (now.names lock).1).elim
  · exact ⟨unchanged now, by simp⟩

/-- What an acknowledgment makes of the lock. -/
structure Resolved (dutHash : Sha256) (i : Incident rt.digits) (s : StoreDisk) (j : Incident rt.digits) (t : StoreDisk) :
    Prop where
  continues : Continues i j
  acknowledged : j.isAcknowledged = true
  removed : t.slot (.active dutHash) = .absent
  archived : ∃ found, Reads rt t (.archive i.incidentId) found ∧ found.same j ∧ (Follows dutHash i s → found = j)
  first : ∀ k, Reads rt s (.active dutHash) k → k.isAcknowledged = true → j = k

/-- A lock is only removed by an acknowledgment of its own incident. -/
theorem Held.resolved {uuid : Uuid} {now : Timestamp rt.digits} {r : AcknowledgeRequest} (held : Held dutHash i s)
    (dut : r.dutId = dutId) (run : Reaches Does (acknowledge rt uuid now r) s (.ok j) t) :
    r.incidentId = i.incidentId.val ∧ Resolved dutHash i s j t := by
  subst dut
  obtain ⟨formed, k, continues, lock⟩ := held
  obtain ⟨names, removed⟩ := Acknowledged.names ((always_acknowledge formed uuid now hashed).reached run) lock
  obtain ⟨data, -, makes⟩ := names.acknowledges
  refine ⟨by rw [← names.named, continues.incidentId], continues.trans makes.continues, makes.isAcknowledged, removed.lock,
    ?_, ?_⟩
  · rw [← continues.incidentId]
    obtain ⟨-, here⟩ | ⟨same, found, reads, equal⟩ := removed.archived
    · exact ⟨j, reads_bytes here, rfl, fun _ => rfl⟩
    · refine ⟨found, reads.of_slot same, equal, ?_⟩
      rintro (absent | ⟨k', front, lock', acknowledged, starts, here⟩)
      · rw [← continues.incidentId] at absent
        exact absurd absent reads.not_absent
      · obtain rfl := lock.unique lock'
        obtain rfl := makes.continues.eq acknowledged
        rw [← continues.incidentId] at here
        exact reads.of_start starts here
  · intro k' lock' acknowledged
    obtain rfl := lock.unique lock'
    exact makes.continues.eq acknowledged

/-- The lock that was recorded survives every crash: the gate is shut until an acknowledgment of the incident comes to
its end; other data are refused once there is an acknowledgment; and the archive holds the record with the first. -/
theorem lock_survives_crashes :
    (∀ (d s t : StoreDisk) (uuid : Uuid) (now : Timestamp rt.digits) (c : UncertainCommand) (i : Incident rt.digits)
        (created : Bool), d.WellFormed → Reaches Does (recordUncertain rt uuid now dutId c) d (.ok ⟨i, created⟩) s →
      Later rt dutId i.incidentId.val s t →
      (∀ q u, Reaches Does (assertClear rt dutId) t q u → q.IsRunning ∨ ∃ e, q = .raise e) ∧
      ∀ (uuid : Uuid) (now : Timestamp rt.digits) (r : AcknowledgeRequest) (j : Incident rt.digits) (u : StoreDisk),
        r.dutId = dutId → Reaches Does (acknowledge rt uuid now r) t (.ok j) u →
        r.incidentId = i.incidentId.val ∧ Continues i j ∧ j.isAcknowledged = true ∧ u.slot (.active dutHash) = .absent ∧
        (∃ found, Reads rt u (.archive i.incidentId) found ∧ found.same j ∧
          (Follows dutHash i d → found = j)) ∧
        ∀ m k, Later rt dutId i.incidentId.val s m → Later rt dutId i.incidentId.val m t → Reads rt m (.active dutHash) k →
          k.isAcknowledged = true → j = k) ∧
    ∀ (d s : StoreDisk) (uuid : Uuid) (now : Timestamp rt.digits) (r : AcknowledgeRequest) (i : Incident rt.digits)
        (a : Acknowledgment rt.digits) (q : StoreProgram (Incident rt.digits)), d.WellFormed → r.dutId = dutId →
      Reads rt d (.active dutHash) i → i.status = .acknowledged a →
      suppliedAcknowledgment rt r ≠ .ok a.toAcknowledgmentData → Reaches Does (acknowledge rt uuid now r) d q s →
      s = d ∧ ∀ j, q ≠ .ok j := by
  refine ⟨fun d s t uuid now c i created formed recorded later => ⟨?_, ?_⟩, ?_⟩
  · obtain ⟨held, -⟩ := recordUncertain_held hashed formed recorded
    exact fun q u => (held.later hashed later).assertClear hashed
  · intro uuid now r j u dut run
    obtain ⟨held, archive⟩ := recordUncertain_held hashed formed recorded
    obtain ⟨named, resolved⟩ := (held.later hashed later).resolved hashed dut run
    obtain ⟨found, reads, same, whole⟩ := resolved.archived
    refine ⟨named, resolved.continues, resolved.acknowledged, resolved.removed, ⟨found, reads, same, fun follows => ?_⟩, ?_⟩
    · exact whole ((archive follows).later hashed held later)
    · intro m k before after lock acknowledged
      -- an acknowledged record stays as it is
      obtain ⟨formed', k₀, continues, lock₀⟩ := held.later hashed before
      obtain rfl := lock₀.unique lock
      rw [← continues.incidentId] at after
      obtain ⟨-, k', continues', lock'⟩ := Held.later hashed ⟨formed', k₀, .same, lock₀⟩ after
      obtain rfl := continues'.eq acknowledged
      exact resolved.first k' lock' acknowledged
  · intro d s uuid now r i a q formed dut lock status differs run
    exact acknowledged_refused hashed formed dut lock status differs run

end

/-! ## One incident -/

/-- SHA-256 of the texts of the example. -/
def exampleSha256 (bytes : List Byte) : Sha256 :=
  match bytes.length with
  | 11 => ⟨text "1a7af266999e84021d2c49b50f9947642a4bb5be0359f3f42e314cb8b53071ed", by decide +kernel⟩
  | 14 => ⟨text "8c5aaab6e1efdec7f7f9f65cc0de77461c36a46e6b7c9ee7a35299dd6e8449ee", by decide +kernel⟩
  | _ => ⟨text "252588f1f6655644141675ea8ac0c32285425698aad6cb216ef22b64a0767919", by decide +kernel⟩

/-- The texts of exceptions while the disk is full. -/
def exampleErrorText : StoreError → Text
  | .unresolved message _ => text message
  | .persistence message => text message ++ text ": [Errno 28] No space left on device"
  | .acknowledgment message _ => text message
  | .fileExists => text "[Errno 17] File exists"
  | .python _ => text "value must be finite and JSON serializable"

/-- Python with ASCII digits only. -/
def exampleRuntime : Runtime where
  digits := Package.asciiDigits
  digitsPlain c digit := by
    have val : 0x30 ≤ c.val ∧ c.val ≤ 0x39 := by simpa [Package.asciiDigits, isDigit] using digit
    refine ⟨?_, by omega⟩
    simp only [Utf8.isSurrogate, Bool.and_eq_false_iff, decide_eq_false_iff_not]
    omega
  sha256 := exampleSha256
  depth := 993
  room := by decide
  errorText := exampleErrorText

def exampleUuid : Uuid := ⟨text "3f2b8c1e-5d4a-4c6b-9e7f-0123456789ab", by decide +kernel⟩

def exampleTime : Timestamp exampleRuntime.digits := ⟨text "2026-01-02T03:04:05.678901Z", by decide +kernel⟩

def exampleHash : Sha256 := exampleSha256 []

/-- A control of one point whose response did not arrive. -/
def exampleCommand : UncertainCommand where
  operation := text "direct_operate"
  commandPayload := .object [("index", .nat 7)]
  points := [("crob", 7)]
  requestId := text "control-1"
  errorCode := text "RESPONSE_TIMEOUT"
  executionUncertain := true
  mayStillExecute := false

/-- The incident of the example. -/
def exampleIncident : Incident exampleRuntime.digits where
  schemaVersion := .int
  incidentId := incidentId exampleUuid
  status := .opened false
  createdAt := exampleTime
  updatedAt := exampleTime
  dutIdentitySha256 := exampleHash
  command := ⟨.directOperate, [⟨.crob, 7, by decide⟩], exampleSha256 (List.replicate 11 0), by decide, by decide⟩
  hostError := ⟨⟨text "RESPONSE_TIMEOUT", by decide +kernel⟩, ⟨text "control-1", by decide +kernel⟩, true, false, rfl⟩

theorem exampleHashed : dutIdentitySha256 exampleRuntime (text "D1") = .ok exampleHash := by decide +kernel

theorem exampleChecked :
    checkedIncident exampleRuntime exampleUuid exampleTime exampleHash exampleCommand = .ok exampleIncident := by
  decide +kernel

def exampleData : AcknowledgmentData :=
  ⟨⟨text "operator", by decide +kernel⟩, ⟨text "relay 7 reads back open", by decide +kernel⟩, exampleSha256 (List.replicate 14 0),
    ⟨text "photo-12", by decide +kernel⟩⟩

/-- The request that acknowledges it. -/
def exampleRequest : AcknowledgeRequest where
  dutId := text "D1"
  incidentId := (incidentId exampleUuid).val
  acknowledgedBy := .str "operator"
  readbackSummary := .str "relay 7 reads back open"
  readback := .json (.object [("value", .bool true)])
  evidenceReference := .str "photo-12"

theorem exampleSupplied : suppliedAcknowledgment exampleRuntime exampleRequest = .ok exampleData := by decide +kernel

def emptyStore : StoreDisk := ⟨fun _ => none, fun _ => [], 0⟩

theorem wellFormed_emptyStore : emptyStore.WellFormed := by
  rintro path node ⟨⟩

/-- A store with one file. -/
def oneFile (path : StorePath) (bytes : List Byte) : StoreDisk :=
  ⟨fun other => if other = path then some (.file 0) else none, fun _ => bytes, 1⟩

/-- A store with a single file is well formed. -/
theorem wellFormed_oneFile (path : StorePath) (bytes : List Byte) : (oneFile path bytes).WellFormed := by
  intro other node here
  simp only [oneFile] at here
  split at here
  · obtain rfl : 0 = node := by simpa using here
    exact Nat.one_pos
  · cases here

theorem slot_oneFile (path : StorePath) (bytes : List Byte) : (oneFile path bytes).slot path = .file bytes := by
  simp [Disk.slot, oneFile]

theorem slot_oneFile_other {path other : StorePath} (differs : other ≠ path) (bytes : List Byte) :
    (oneFile path bytes).slot other = .absent := by
  simp [Disk.slot, oneFile, differs]

/-- An incident is recorded, other data are refused by the acknowledged lock, and the gate is shut. -/
theorem lock_survives_crashes_example :
    ∃ s, Reaches Does (recordUncertain exampleRuntime exampleUuid exampleTime (text "D1") exampleCommand) emptyStore
        (.ok ⟨exampleIncident, true⟩) s ∧
      (∀ q u, Reaches Does (assertClear exampleRuntime (text "D1")) s q u → q.IsRunning ∨ ∃ e, q = .raise e) ∧
      (∃ j u, Reaches Does (acknowledge exampleRuntime exampleUuid exampleTime exampleRequest) s (.ok j) u ∧
        Reads exampleRuntime u (.archive (incidentId exampleUuid)) j) ∧
      ∀ r q u, r = { exampleRequest with evidenceReference := .str "photo-13" } →
        Reaches Does (acknowledge exampleRuntime exampleUuid exampleTime r)
          (oneFile (.active exampleHash) (exampleIncident.acknowledge exampleTime exampleData).bytes) q u →
        ∀ j, q ≠ .ok j := by
  have empty (path : StorePath) : emptyStore.slot path = .absent := by simp [Disk.slot, emptyStore]
  obtain ⟨s, ran⟩ := run_recordUncertain exampleHashed (empty _) exampleChecked
  have recorded := Program.Reaches.of_run Disk.does_outcome ran
  obtain ⟨-, -, only, whole⟩ :=
    (always_recordUncertain wellFormed_emptyStore exampleHashed exampleUuid exampleTime exampleCommand).reached recorded
  obtain ⟨j, u, acknowledged⟩ := run_acknowledge_ok exampleRequest exampleHashed exampleUuid exampleTime
    only.formed (reads_bytes whole) rfl rfl exampleSupplied (by simp [exampleIncident])
    ((only.others _ (by simp)).trans (empty _)) (.inl ((only.others _ (by simp)).trans (empty _)))
  have resolved := Program.Reaches.of_run Disk.does_outcome acknowledged
  have survives := (lock_survives_crashes exampleHashed).1 emptyStore s s exampleUuid exampleTime exampleCommand
    exampleIncident true wellFormed_emptyStore recorded .refl
  obtain ⟨-, -, -, -, ⟨found, archived, -, same⟩, -⟩ := survives.2 exampleUuid exampleTime exampleRequest j u rfl resolved
  obtain rfl := same (.inl (empty _))
  refine ⟨s, recorded, survives.1, ⟨found, u, resolved, archived⟩, ?_⟩
  rintro r q u rfl run
  exact ((lock_survives_crashes exampleHashed).2 _ u exampleUuid exampleTime _ _ ⟨exampleData, exampleTime⟩ q
    (wellFormed_oneFile _ _) rfl (reads_bytes (slot_oneFile _ _)) rfl (by decide +kernel) run).2

end EmsDnp3.Python
