import EmsDnp3.Python.IncidentStore

/-!
# What the calls of the store do

Each program with what stands in front of its operations and behind its results, when no other process is at work.
-/

namespace EmsDnp3.Python

open Disk (Does Only Writing Written)
open Program (Always)

abbrev StoreDisk := Disk StorePath

/-- The record that a reader finds under a name. -/
def Reads (rt : Runtime) (d : StoreDisk) (path : StorePath) (i : Incident rt.digits) : Prop :=
  ∃ bytes, d.slot path = .file bytes ∧ readRecord rt (bytes.take (maxIncidentBytes + 1)) = .ok i

section
variable {rt : Runtime} {d s : StoreDisk} {path : StorePath} {i j : Incident rt.digits}

theorem Reads.unique (one : Reads rt d path i) (two : Reads rt d path j) : i = j := by
  obtain ⟨bytes, here, read⟩ := one
  obtain ⟨bytes', here', read'⟩ := two
  obtain rfl := Slot.file.inj (here.symm.trans here')
  exact Except.ok.inj (read.symm.trans read')

theorem Reads.of_slot (reads : Reads rt d path i) (same : s.slot path = d.slot path) : Reads rt s path i := by
  obtain ⟨bytes, here, read⟩ := reads
  exact ⟨bytes, same.trans here, read⟩

theorem Reads.not_absent (lock : Reads rt d path i) : d.slot path ≠ .absent := by
  obtain ⟨bytes, here, -⟩ := lock
  simp [here]

theorem take_bytes {front : List Byte} (starts : front <+: i.bytes) : front.take (maxIncidentBytes + 1) = front := by
  have short := i.bytes_short.2
  have le := starts.length_le
  exact List.take_of_length_le (by omega)

theorem reads_bytes (here : d.slot path = .file i.bytes) : Reads rt d path i :=
  ⟨i.bytes, here, by rw [take_bytes List.prefix_rfl, readRecord_bytes]⟩

/-- The start of a record is read as that record. -/
theorem Reads.of_start {front : List Byte} (starts : front <+: i.bytes) (here : d.slot path = .file front)
    (reads : Reads rt d path j) : j = i := by
  obtain ⟨bytes, here', read⟩ := reads
  obtain rfl := Slot.file.inj (here.symm.trans here')
  rw [take_bytes starts] at read
  obtain ⟨whole, -⟩ | invalid := readRecord_start i starts
  · exact Except.ok.inj (read.symm.trans whole)
  · rw [invalid] at read
    cases read

variable {inv : StoreDisk → Prop}

/-- Making the directories changes no file, wherever it stops. -/
theorem always_ensureDirectories (now : inv d) :
    (ensureDirectories).Always Does inv (fun r s => s = d ∧ r ≠ .error .fileExists) d := by
  refine ⟨now, fun answer t does => ?_⟩
  obtain rfl := Disk.does_mkdirs does
  cases answer <;> exact ⟨rfl, by simp⟩

theorem always_ofPython {α : Type} {x : Except PyError α} {post : Except StoreError α → StoreDisk → Prop}
    (ok : ∀ a, x = .ok a → post (.ok a) d) (error : ∀ e, x = .error e → post (.error (.python e)) d) :
    (ofPython x).Always Does inv post d := by
  cases x with
  | ok a => exact ok a rfl
  | error e => exact error e rfl

/-- What `_read_document` says about the files, which it leaves as they are. -/
def ReadsDocument (rt : Runtime) (d : StoreDisk) (path : StorePath) :
    Except StoreError (Option (Incident rt.digits)) → StoreDisk → Prop
  | .ok (some i), s => s = d ∧ Reads rt d path i
  | .ok none, s => s = d ∧ d.slot path = .absent
  | .error e, s => s = d ∧ e ≠ .fileExists

/-- Reading changes no file. -/
theorem always_readDocument {problem : StoreError} (raised : problem ≠ .fileExists) (missingOk : Bool) (now : inv d) :
    (readDocument rt path problem missingOk).Always Does inv (ReadsDocument rt d path) d := by
  refine ⟨now, fun answer t does => ?_⟩
  obtain ⟨rfl, ⟨node, here, rfl⟩ | ⟨-, rfl⟩ | rfl⟩ := Disk.does_openFile does
  · refine ⟨now, fun answer t does => ?_⟩
    obtain ⟨rfl, rfl | rfl⟩ := Disk.does_read does
    · have slot : t.slot path = .file (t.contents node) := by simp only [Disk.slot, here]
      simp only [Program.bind_ok]
      cases read : readRecord rt ((t.contents node).take (maxIncidentBytes + 1)) with
      | ok i => exact ⟨rfl, t.contents node, slot, read⟩
      | error problem' =>
        cases problem' with
        | invalid => exact ⟨rfl, raised⟩
        | type message => exact ⟨rfl, by simp⟩
    · exact ⟨rfl, raised⟩
  · cases missingOk with
    | false => exact ⟨rfl, raised⟩
    | true =>
      refine ⟨now, fun answer t' does => ?_⟩
      obtain ⟨rfl, missing⟩ := Disk.does_lstat does
      obtain (_ | _ | _) | _ := answer
      · exact ⟨rfl, Disk.slot_eq_absent.mpr (missing rfl)⟩
      · exact ⟨rfl, raised⟩
      · exact ⟨rfl, raised⟩
      · exact ⟨rfl, raised⟩
  · exact ⟨rfl, raised⟩

/-- What comes out of `_write_exclusive`. -/
def WroteExclusive (d : StoreDisk) (path : StorePath) (bytes : List Byte) : Except StoreError Unit → StoreDisk → Prop
  | .ok _, s => d.Only path s ∧ d.slot path = .absent ∧ s.slot path = .file bytes
  | .error .fileExists, s => s = d ∧ d.slot path ≠ .absent
  | .error e, s => (∃ message, e = .persistence message) ∧ d.Writing path bytes s

/-- An exclusive write only touches its own name. -/
theorem always_writeExclusive (formed : d.WellFormed) (path : StorePath) (i : Incident rt.digits) :
    (writeExclusive path i).Always Does (d.Writing path i.bytes) (WroteExclusive d path i.bytes) d := by
  have short : ¬ maxIncidentBytes < i.bytes.length := Nat.not_lt.mpr i.bytes_short.2
  rw [writeExclusive, recordBytes_eq]
  dsimp only
  rw [if_neg short]
  refine Program.always_handle ((Disk.always_writeNew formed path i.bytes).mono (fun _ => id) ?_)
  rintro ((_ | _ | _) | _) s after
  · exact absurd after.1 (by simp)
  · exact after
  · exact ⟨⟨_, rfl⟩, after.2⟩
  · exact after

/-- While a record takes another's place: the new record is whole when it gets there. -/
structure Replacing (d : StoreDisk) (path temporary : StorePath) (bytes : List Byte) (s : StoreDisk) : Prop where
  formed : s.WellFormed
  others : ∀ other, other ≠ path → other ≠ temporary → s.slot other = d.slot other
  here : s.slot path = d.slot path ∨ s.slot path = .file bytes

/-- What comes out of `_replace_document`. -/
def Replaced (d : StoreDisk) (path temporary : StorePath) (bytes : List Byte) : Except StoreError Unit → StoreDisk → Prop
  | .ok _, s => Replacing d path temporary bytes s ∧ s.slot path = .file bytes
  | .error e, s => (∃ message, e = .persistence message) ∧ Replacing d path temporary bytes s ∧ s.slot path = d.slot path

/-- A replacement leaves the old file or the new one. -/
theorem always_replaceDocument (formed : d.WellFormed) {path temporary : StorePath} (differs : path ≠ temporary)
    (i : Incident rt.digits) :
    (replaceDocument path temporary i).Always Does (Replacing d path temporary i.bytes)
      (Replaced d path temporary i.bytes) d := by
  -- the last step removes the temporary file at most
  have cleanup {r : Except StoreError Unit} {s : StoreDisk} (replaced : Replaced d path temporary i.bytes r s) :
      (Disk.tryUnlink temporary).Always Does (Replacing d path temporary i.bytes) (fun
        | .ok _, s => Replaced d path temporary i.bytes r s
        | .error e, s => Replaced d path temporary i.bytes (.error e) s) s := by
    have now : Replacing d path temporary i.bytes s := by
      cases r with
      | ok _ => exact replaced.1
      | error _ => exact replaced.2.1
    refine (Disk.always_tryUnlink now).mono (fun _ => id) ?_
    rintro _ t ⟨rfl, rfl | ⟨-, rfl⟩⟩
    · exact replaced
    · have slot : (s.erase temporary).slot path = s.slot path := Disk.slot_erase_other differs
      have erased : Replacing d path temporary i.bytes (s.erase temporary) :=
        ⟨now.formed.erase temporary, fun other one two => (Disk.slot_erase_other two).trans (now.others other one two),
          slot ▸ now.here⟩
      cases r with
      | ok _ => exact ⟨erased, slot.trans replaced.2⟩
      | error _ => exact ⟨replaced.1, erased, slot.trans replaced.2.2⟩
  have untouched {s : StoreDisk} (only : d.Only temporary s) : Replacing d path temporary i.bytes s ∧ s.slot path = d.slot path :=
    have slot := only.others path differs
    ⟨⟨only.formed, fun other _ two => only.others other two, .inl slot⟩, slot⟩
  refine Program.always_ensuring (Program.always_handle (Program.always_bind
    ((always_writeExclusive formed temporary i).mono (fun s writing => (untouched writing.toOnly).1) ?_)))
  rintro (e | _) s wrote
  · cases e with
    | fileExists => exact cleanup (r := .error _) ⟨⟨_, rfl⟩, by rw [wrote.1]; exact untouched (.refl formed temporary)⟩
    | unresolved => exact absurd wrote.1 (by simp)
    | acknowledgment => exact absurd wrote.1 (by simp)
    | python => exact absurd wrote.1 (by simp)
    | persistence message => exact cleanup (r := .error _) ⟨wrote.1, untouched wrote.2.toOnly⟩
  · obtain ⟨only, -, whole⟩ := wrote
    obtain ⟨now, slot⟩ := untouched only
    refine ⟨now, fun answer t does => ?_⟩
    obtain ⟨entry, here, rfl, rfl⟩ | ⟨rfl, ⟨rfl, -⟩ | rfl⟩ := Disk.does_rename does
    · have moved : (s.move temporary path entry).slot path = .file i.bytes := (Disk.slot_move here).trans whole
      exact cleanup (r := .ok ()) ⟨⟨only.formed.move here, fun other one two =>
        (Disk.slot_move_other two one).trans (only.others other two), .inr moved⟩, moved⟩
    · exact cleanup (r := .error _) ⟨⟨_, rfl⟩, now, slot⟩
    · exact cleanup (r := .error _) ⟨⟨_, rfl⟩, now, slot⟩

/-- What comes out of `get_active`. -/
def GotActive (rt : Runtime) (d : StoreDisk) (dutHash : Sha256) :
    Except StoreError (Option (Incident rt.digits)) → StoreDisk → Prop
  | .ok (some i), s => s = d ∧ Reads rt d (.active dutHash) i ∧ i.dutIdentitySha256 = dutHash
  | .ok none, s => s = d ∧ d.slot (.active dutHash) = .absent
  | .error e, s => s = d ∧ e ≠ .fileExists

/-- Looking for the active incident changes no file. -/
theorem always_getActive {dutId : Text} {dutHash : Sha256} (hashed : dutIdentitySha256 rt dutId = .ok dutHash)
    (now : inv d) : (getActive rt dutId).Always Does inv (GotActive rt d dutHash) d := by
  refine Program.always_bind ((always_ensureDirectories now).mono (fun _ => id) ?_)
  rintro (e | _) s ⟨rfl, raised⟩
  · exact ⟨rfl, fun same => raised (congrArg _ same)⟩
  · refine Program.always_bind (always_ofPython (fun hash eq => ?_) fun e eq => ?_)
    · obtain rfl := Except.ok.inj (hashed.symm.trans eq)
      refine Program.always_bind ((always_readDocument (by simp) true now).mono (fun _ => id) ?_)
      rintro (e | _ | i) s after
      · exact after
      · exact after
      · obtain ⟨rfl, reads⟩ := after
        dsimp only
        split
        · next same => exact ⟨rfl, reads, same⟩
        · exact ⟨rfl, by simp⟩
    · rw [hashed] at eq
      cases eq

/-- Asserting that there is no incident changes no file. -/
theorem always_assertClear {dutId : Text} {dutHash : Sha256} (hashed : dutIdentitySha256 rt dutId = .ok dutHash) :
    (assertClear rt dutId).Always Does (· = d) (fun r s => s = d ∧ (r = .ok () → d.slot (.active dutHash) = .absent)) d := by
  refine Program.always_bind ((always_getActive hashed rfl).mono (fun _ => Eq.symm) ?_)
  rintro (e | _ | i) s after
  · exact ⟨after.1, by simp⟩
  · exact ⟨after.1, fun _ => after.2⟩
  · exact ⟨after.1, by simp⟩

/-- While an incident is recorded: nothing is changed, or its lock is being written where none was. -/
def Recording (d : StoreDisk) (dutHash : Sha256) (checked : Except PyError (Incident rt.digits)) (s : StoreDisk) : Prop :=
  s = d ∨ ∃ i, checked = .ok i ∧ d.slot (.active dutHash) = .absent ∧ d.Writing (.active dutHash) i.bytes s

/-- What comes out of `record_uncertain`: the record that is the lock then. -/
def Recorded (d : StoreDisk) (dutHash : Sha256) (checked : Except PyError (Incident rt.digits)) :
    Except StoreError (IncidentRecordResult rt) → StoreDisk → Prop
  | .ok ⟨i, true⟩, s => checked = .ok i ∧ d.slot (.active dutHash) = .absent ∧ d.Only (.active dutHash) s ∧
    s.slot (.active dutHash) = .file i.bytes
  | .ok ⟨i, false⟩, s => s = d ∧ Reads rt d (.active dutHash) i ∧ i.dutIdentitySha256 = dutHash
  | .error _, s => Recording d dutHash checked s

/-- Recording writes at most the lock, and only where there was none. -/
theorem always_recordUncertain (formed : d.WellFormed) {dutId : Text} {dutHash : Sha256}
    (hashed : dutIdentitySha256 rt dutId = .ok dutHash) (uuid : Uuid) (now : Timestamp rt.digits) (c : UncertainCommand) :
    (recordUncertain rt uuid now dutId c).Always Does (Recording d dutHash (checkedIncident rt uuid now dutHash c))
      (Recorded d dutHash (checkedIncident rt uuid now dutHash c)) d := by
  have start : Recording d dutHash (checkedIncident rt uuid now dutHash c) d := .inl rfl
  refine Program.always_bind ((always_ensureDirectories start).mono (fun _ => id) ?_)
  rintro (e | _) _ ⟨rfl, -⟩
  · exact start
  refine Program.always_bind (always_ofPython (fun hash eq => ?_) fun _ _ => start)
  obtain rfl := Except.ok.inj (hashed.symm.trans eq)
  refine Program.always_bind ((always_getActive hashed start).mono (fun _ => id) ?_)
  rintro (e | _ | existing) s got
  · exact .inl got.1
  · obtain ⟨rfl, absent⟩ := got
    refine Program.always_bind (always_ofPython (fun i checked => ?_) fun _ _ => start)
    have recording {t : StoreDisk} (writing : s.Writing (.active dutHash) i.bytes t) :
        Recording s dutHash (checkedIncident rt uuid now dutHash c) t := .inr ⟨i, checked, absent, writing⟩
    refine Program.always_handle (Program.always_bind
      ((always_writeExclusive formed (.active dutHash) i).mono (fun _ => recording) ?_))
    rintro (e | _) t wrote
    · cases e with
      | fileExists => exact absurd absent wrote.2
      | unresolved => exact absurd wrote.1 (by simp)
      | acknowledgment => exact absurd wrote.1 (by simp)
      | python => exact absurd wrote.1 (by simp)
      | persistence => exact recording wrote.2
    · exact ⟨checked, absent, wrote.1, wrote.2.2⟩
  · exact got

/-! ## Acknowledgment -/

/-- The record that an acknowledgment makes of the lock `i`. -/
inductive Acknowledges (now : Timestamp rt.digits) (data : AcknowledgmentData) (i : Incident rt.digits) :
    Incident rt.digits → Prop
  | again {a : Acknowledgment rt.digits} (status : i.status = .acknowledged a) (same : a.toAcknowledgmentData = data) :
    Acknowledges now data i i
  | first {nulled : Bool} (status : i.status = .opened nulled) : Acknowledges now data i (i.acknowledge now data)

/-- The archive holds the record: it is new, or an equal one stood there. -/
def Archived (d : StoreDisk) (archive : StorePath) (j : Incident rt.digits) (s : StoreDisk) : Prop :=
  d.slot archive = .absent ∧ s.slot archive = .file j.bytes ∨
    s.slot archive = d.slot archive ∧ ∃ other, Reads rt d archive other ∧ other.same j

/-- While the lock `i` is acknowledged as `j`: the lock stands, and the archive is written once it is acknowledged. -/
structure Acknowledging (d : StoreDisk) (active archive temporary : StorePath) (j : Incident rt.digits) (s : StoreDisk) :
    Prop where
  formed : s.WellFormed
  others : ∀ other, other ≠ active → other ≠ archive → other ≠ temporary → s.slot other = d.slot other
  lock : s.slot active = d.slot active ∨ s.slot active = .file j.bytes
  archived : s.slot archive = d.slot archive ∨ Reads rt s active j ∧
    (s.slot archive = .absent ∨ d.slot archive = .absent ∧ ∃ front, front <+: j.bytes ∧ s.slot archive = .file front)

/-- The lock has been removed, behind the archive. -/
structure Removed (d : StoreDisk) (active archive temporary : StorePath) (j : Incident rt.digits) (s : StoreDisk) :
    Prop where
  formed : s.WellFormed
  others : ∀ other, other ≠ active → other ≠ archive → other ≠ temporary → s.slot other = d.slot other
  lock : s.slot active = .absent
  archived : Archived d archive j s

/-- What the making of the acknowledged record leaves behind when it does not come to its end. -/
def Making (d : StoreDisk) (active temporary : StorePath) (now : Timestamp rt.digits) (data : AcknowledgmentData)
    (i : Incident rt.digits) (s : StoreDisk) : Prop :=
  s = d ∨ ∃ j, Acknowledges now data i j ∧ Replacing d active temporary j.bytes s

/-- Acknowledging replaces the lock at most once, by its acknowledgment. -/
theorem always_acknowledgedRecord (formed : d.WellFormed) {active temporary : StorePath} (differs : active ≠ temporary)
    (now : Timestamp rt.digits) (incidentId : Text) {i : Incident rt.digits} (lock : Reads rt d active i)
    (data : AcknowledgmentData) :
    (acknowledgedRecord active temporary now incidentId i data).Always Does (Making d active temporary now data i)
      (fun
        | .ok j, s => Acknowledges now data i j ∧ Replacing d active temporary j.bytes s ∧ Reads rt s active j
        | .error _, s => Making d active temporary now data i s) d := by
  rw [acknowledgedRecord]
  split
  · next a status =>
    split
    · next same => exact ⟨.again status same, ⟨formed, fun _ _ _ => rfl, .inl rfl⟩, lock⟩
    · exact .inl rfl
  · next nulled status =>
    have first : Acknowledges now data i (i.acknowledge now data) := .first status
    generalize i.acknowledge now data = j at first ⊢
    refine Program.always_bind ((always_replaceDocument formed differs j).mono
      (fun s replacing => .inr ⟨j, first, replacing⟩) ?_)
    rintro (e | _) s replaced
    · exact .inr ⟨j, first, replaced.2.1⟩
    · exact ⟨first, replaced.1, reads_bytes replaced.2⟩

/-- Archiving only touches the archive. -/
theorem always_archiveRecord (formed : d.WellFormed) (archive : StorePath) (incidentId : Text) (j : Incident rt.digits) :
    (archiveRecord archive incidentId j).Always Does (d.Writing archive j.bytes)
      (fun
        | .ok _, s => d.Only archive s ∧ Archived d archive j s
        | .error _, s => d.Writing archive j.bytes s) d := by
  have start : d.Writing archive j.bytes d := .refl formed archive _
  refine Program.always_handle ((always_writeExclusive formed archive j).mono (fun _ => id) ?_)
  rintro (e | _) s wrote
  · cases e with
    | fileExists =>
      obtain ⟨rfl, -⟩ := wrote
      refine Program.always_bind ((always_readDocument (by simp) false start).mono (fun _ => id) ?_)
      rintro (e | _ | archived) t read
      · rw [read.1]
        exact start
      · rw [read.1]
        exact start
      · obtain ⟨rfl, reads⟩ := read
        dsimp only
        split
        · next same => exact ⟨.refl formed archive, .inr ⟨rfl, archived, reads, same⟩⟩
        · exact start
    | unresolved => exact absurd wrote.1 (by simp)
    | acknowledgment => exact absurd wrote.1 (by simp)
    | python => exact absurd wrote.1 (by simp)
    | persistence => exact wrote.2
  · exact ⟨wrote.1, .inl wrote.2⟩

/-- Removing the lock touches nothing else. -/
theorem always_removeActive {active : StorePath} (now : inv d) :
    (removeActive active).Always Does inv
      (fun
        | .ok _, s => s.slot active = .absent ∧ (s = d ∨ s = d.erase active)
        | .error _, s => s = d) d := by
  refine ⟨now, fun answer t does => ?_⟩
  obtain ⟨rfl, -, rfl⟩ | ⟨rfl, ⟨rfl, free⟩ | rfl⟩ := Disk.does_unlink does
  · exact ⟨Disk.slot_erase active, .inr rfl⟩
  · exact ⟨Disk.slot_eq_absent.mpr free, .inl rfl⟩
  · exact rfl

/-- The first phase of an acknowledgment: the lock is replaced. -/
theorem Replacing.acknowledging {active archive temporary : StorePath} (replacing : Replacing d active temporary j.bytes s)
    (one : archive ≠ active) (two : archive ≠ temporary) : Acknowledging d active archive temporary j s where
  formed := replacing.formed
  others other here _ there := replacing.others other here there
  lock := replacing.here
  archived := .inl (replacing.others archive one two)

/-- The second phase: the acknowledged lock is archived. -/
theorem Replacing.archiving {active archive temporary : StorePath} {t : StoreDisk}
    (replacing : Replacing d active temporary j.bytes s) (acknowledged : Reads rt s active j) (one : archive ≠ active)
    (two : archive ≠ temporary) (writing : s.Writing archive j.bytes t) : Acknowledging d active archive temporary j t := by
  have lock : t.slot active = s.slot active := writing.others active one.symm
  have archived : s.slot archive = d.slot archive := replacing.others archive one two
  refine ⟨writing.formed, fun other here there temporary => ?_, ?_, ?_⟩
  · exact (writing.others other there).trans (replacing.others other here temporary)
  · rw [lock]
    exact replacing.here
  · obtain same | absent | ⟨free, front⟩ := writing.here
    · exact .inl (same.trans archived)
    · exact .inr ⟨acknowledged.of_slot lock, .inl absent⟩
    · exact .inr ⟨acknowledged.of_slot lock, .inr ⟨archived.symm.trans free, front⟩⟩

/-- A partial archive is a prefix of the record. -/
theorem Archived.writing {archive : StorePath} (archived : Archived d archive j s) (only : d.Only archive s) :
    d.Writing archive j.bytes s := by
  obtain ⟨free, here⟩ | ⟨same, -⟩ := archived
  · exact ⟨only, .inr (.inr ⟨free, j.bytes, List.prefix_rfl, here⟩)⟩
  · exact ⟨only, .inl same⟩

/-- The last phase: the lock is gone, the archive stays. -/
theorem Replacing.removed {active archive temporary : StorePath} {t u : StoreDisk}
    (replacing : Replacing d active temporary j.bytes s) (only : s.Only archive t) (archived : Archived s archive j t)
    (one : archive ≠ active) (two : archive ≠ temporary) (lock : u.slot active = .absent)
    (gone : u = t ∨ u = t.erase active) : Removed d active archive temporary j u := by
  have formed : u.WellFormed := by
    obtain rfl | rfl := gone
    · exact only.formed
    · exact only.formed.erase active
  have kept {other : StorePath} (here : other ≠ active) : u.slot other = t.slot other := by
    obtain rfl | rfl := gone
    · rfl
    · exact Disk.slot_erase_other here
  have before : s.slot archive = d.slot archive := replacing.others archive one two
  refine ⟨formed, fun other here there temporary => ?_, lock, ?_⟩
  · rw [kept here, only.others other there, replacing.others other here temporary]
  · obtain ⟨free, whole⟩ | ⟨same, found, reads, equal⟩ := archived
    · exact .inl ⟨before.symm.trans free, (kept one).trans whole⟩
    · exact .inr ⟨((kept one).trans same).trans before, found, reads.of_slot before.symm, equal⟩

/-- The lock `i` is the one that a request names, and the request makes `j` of it. -/
structure Names (d : StoreDisk) (dutHash : Sha256) (now : Timestamp rt.digits) (r : AcknowledgeRequest)
    (i j : Incident rt.digits) : Prop where
  lock : Reads rt d (.active dutHash) i
  dut : i.dutIdentitySha256 = dutHash
  named : i.incidentId.val = r.incidentId
  acknowledges : ∃ data, suppliedAcknowledgment rt r = .ok data ∧ Acknowledges now data i j

/-- What an acknowledgment that does not come to its end leaves behind. -/
def Unfinished (d : StoreDisk) (dutHash : Sha256) (uuid : Uuid) (now : Timestamp rt.digits) (r : AcknowledgeRequest)
    (s : StoreDisk) : Prop :=
  s = d ∨ ∃ i j, Names d dutHash now r i j ∧
    Acknowledging d (.active dutHash) (.archive i.incidentId) (.temporary dutHash uuid) j s

/-- What comes out of `acknowledge`: the archived record of an earlier call, or the lock is removed. -/
def Acknowledged (d : StoreDisk) (dutHash : Sha256) (uuid : Uuid) (now : Timestamp rt.digits) (r : AcknowledgeRequest) :
    Except StoreError (Incident rt.digits) → StoreDisk → Prop
  | .ok j, s =>
    (s = d ∧ d.slot (.active dutHash) = .absent ∧ ∃ id : IncidentId, id.val = r.incidentId ∧ Reads rt d (.archive id) j) ∨
      ∃ i, Names d dutHash now r i j ∧
        Removed d (.active dutHash) (.archive i.incidentId) (.temporary dutHash uuid) j s
  | .error _, s => Unfinished d dutHash uuid now r s

/-- Wherever an acknowledgment stops, the disk is in one of its phases. -/
theorem always_acknowledge (formed : d.WellFormed) {dutHash : Sha256} (uuid : Uuid) (now : Timestamp rt.digits)
    {r : AcknowledgeRequest} (hashed : dutIdentitySha256 rt r.dutId = .ok dutHash) :
    (acknowledge rt uuid now r).Always Does (Unfinished d dutHash uuid now r) (Acknowledged d dutHash uuid now r) d := by
  have start : Unfinished d dutHash uuid now r d := .inl rfl
  refine Program.always_bind ((always_ensureDirectories start).mono (fun _ => id) ?_)
  rintro (e | _) _ ⟨rfl, -⟩
  · exact start
  refine Program.always_bind (always_ofPython (fun hash eq => ?_) fun _ _ => start)
  obtain rfl := Except.ok.inj (hashed.symm.trans eq)
  dsimp only
  split
  swap
  · exact start
  next named =>
  refine Program.always_bind ((always_readDocument (by simp) true start).mono (fun _ => id) ?_)
  rintro (e | _ | i) s read
  · exact .inl read.1
  · -- no lock: the archive answers, if it can
    obtain ⟨rfl, absent⟩ := read
    refine Program.always_bind ((always_readDocument (by simp) true start).mono (fun _ => id) ?_)
    rintro (e | _ | archived) t read
    · exact .inl read.1
    · exact .inl read.1
    · obtain ⟨rfl, reads⟩ := read
      dsimp only
      split
      · exact .inl ⟨rfl, absent, _, rfl, reads⟩
      · exact start
  · obtain ⟨rfl, lock⟩ := read
    dsimp only
    split
    · exact start
    next dut =>
    split
    · exact start
    next same =>
    have named' : (⟨r.incidentId, named⟩ : IncidentId) = i.incidentId := Subtype.ext (not_not.mp same).symm
    rw [named']
    refine Program.always_bind (Program.always_ofExcept (fun data supplied => ?_) fun _ _ => start)
    have names {j : Incident rt.digits} (makes : Acknowledges now data i j) : Names s dutHash now r i j :=
      ⟨lock, not_not.mp dut, not_not.mp same, data, supplied, makes⟩
    have making {t : StoreDisk} (makes : Making s (.active dutHash) (.temporary dutHash uuid) now data i t) :
        Unfinished s dutHash uuid now r t := by
      obtain rfl | ⟨j, makes, replacing⟩ := makes
      · exact .inl rfl
      · exact .inr ⟨i, j, names makes, replacing.acknowledging (by simp) (by simp)⟩
    refine Program.always_bind ((always_acknowledgedRecord formed (by simp) now r.incidentId lock data).mono
      (fun t => making) ?_)
    rintro (e | j) t made
    · exact making made
    obtain ⟨makes, replacing, acknowledged⟩ := made
    have archiving {u : StoreDisk} (writing : t.Writing (.archive i.incidentId) j.bytes u) :
        Unfinished s dutHash uuid now r u :=
      .inr ⟨i, j, names makes, replacing.archiving acknowledged (by simp) (by simp) writing⟩
    refine Program.always_bind ((always_archiveRecord replacing.formed (.archive i.incidentId) r.incidentId j).mono
      (fun u => archiving) ?_)
    rintro (e | _) u archived
    · exact archiving archived
    obtain ⟨only, archived⟩ := archived
    have unfinished : Unfinished s dutHash uuid now r u := archiving (archived.writing only)
    refine Program.always_bind ((always_removeActive unfinished).mono (fun _ => id) ?_)
    rintro (e | _) v removed
    · rw [removed]
      exact unfinished
    · obtain ⟨lock, gone⟩ := removed
      exact .inr ⟨i, names makes, replacing.removed only archived (by simp) (by simp) lock gone⟩

end

end EmsDnp3.Python
