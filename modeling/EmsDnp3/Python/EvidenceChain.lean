import EmsDnp3.Base.Utf8
import EmsDnp3.Python.Evidence

/-!
# The chain of checkpoints

Any sequence of calls of the writer, with failures anywhere. A rotation first writes the anchor and then removes
the oldest checkpoint, so in between the anchor speaks of a checkpoint that is still there; the next checkpoint call
begins with that rotation again. A checkpoint call may fail after its file was written: the file stays, counted and
outside the chain, until its number is used again. The total goes wrong only where a file that exists is taken for
absent.
-/

namespace EmsDnp3.Python

/-! ## Names -/

/-- Eight digits or more name their number. -/
theorem digitsValue_eightDigits (n : Nat) : digitsValue (eightDigits n) = n := by
  have zeros (k : Nat) : (List.replicate k (0x30 : CodePoint)).foldl (fun n c => 10 * n + (c.val - 0x30)) 0 = 0 := by
    induction k with
    | zero => rfl
    | succ k ih => rw [List.replicate_succ, List.foldl_cons]; exact ih
  rw [eightDigits, digitsValue, List.foldl_append, zeros]
  exact digitsValue_decimal n

/-- The digits of a checkpoint's name are digits. -/
theorem eightDigits_isDigit {n : Nat} {c : CodePoint} (inside : c ∈ eightDigits n) : isDigit c = true := by
  rcases List.mem_append.mp inside with zero | digit
  · rw [List.eq_of_mem_replicate zero]
    decide
  · exact decimal_isDigit digit

theorem eightDigits_ne_nil (n : Nat) : eightDigits n ≠ [] := by
  rw [eightDigits, decimal_eq]
  simp

namespace EvidenceFile

theorem checkpoint_injective {m n : Nat} (same : (checkpoint m).name = (checkpoint n).name) : m = n := by
  have digits := List.append_cancel_left (List.append_cancel_right same)
  rw [← digitsValue_eightDigits m, digits, digitsValue_eightDigits]

/-- A checkpoint has a number where the anchor has its name. -/
theorem checkpoint_ne_anchor (n : Nat) : (checkpoint n).name ≠ anchor.name := by
  intro same
  have split : anchor.name = text "checkpoint-" ++ text "anchor.json" := by decide +kernel
  rw [split, name, List.append_assoc, List.append_cancel_left_eq] at same
  obtain ⟨c, rest, digits⟩ := List.exists_cons_of_ne_nil (eightDigits_ne_nil n)
  have digit : isDigit c = true := eightDigits_isDigit (n := n) (by rw [digits]; exact List.mem_cons_self)
  have first : text "anchor.json" = CodePoint.ofChar 'a' :: text "nchor.json" := by decide +kernel
  rw [digits, List.cons_append, first] at same
  rw [(List.cons.inj same).1] at digit
  revert digit
  decide

theorem preflight_ne_checkpoint (n : Nat) : preflight.name ≠ (checkpoint n).name := by
  intro same
  have head := congrArg List.head? same
  simp [name, text] at head
  revert head
  decide

theorem finalReport_ne_checkpoint (n : Nat) : finalReport.name ≠ (checkpoint n).name := by
  intro same
  have head := congrArg List.head? same
  simp [name, text] at head
  revert head
  decide

/-- Different files have different names. -/
theorem name_injective : Function.Injective name := by
  have literal {a b : String} (same : text a = text b) (other : a ≠ b) : False := other (text_inj.mp same)
  intro a b same
  match a, b, same with
  | .checkpoint m, .checkpoint n, same => rw [checkpoint_injective same]
  | .checkpoint n, .anchor, same => exact absurd same (checkpoint_ne_anchor n)
  | .checkpoint n, .preflight, same => exact absurd same.symm (preflight_ne_checkpoint n)
  | .checkpoint n, .finalReport, same => exact absurd same.symm (finalReport_ne_checkpoint n)
  | .anchor, .checkpoint n, same => exact absurd same.symm (checkpoint_ne_anchor n)
  | .preflight, .checkpoint n, same => exact absurd same (preflight_ne_checkpoint n)
  | .finalReport, .checkpoint n, same => exact absurd same (finalReport_ne_checkpoint n)
  | .preflight, .preflight, _ => rfl
  | .anchor, .anchor, _ => rfl
  | .finalReport, .finalReport, _ => rfl
  | .preflight, .anchor, same => exact (literal same (by decide)).elim
  | .preflight, .finalReport, same => exact (literal same (by decide)).elim
  | .anchor, .preflight, same => exact (literal same (by decide)).elim
  | .anchor, .finalReport, same => exact (literal same (by decide)).elim
  | .finalReport, .preflight, same => exact (literal same (by decide)).elim
  | .finalReport, .anchor, same => exact (literal same (by decide)).elim

@[simp] theorem name_inj {a b : EvidenceFile} : a.name = b.name ↔ a = b := name_injective.eq_iff

end EvidenceFile

/-! ## One write -/

namespace EvidenceWriter

/-- The accounts agree with the disk. -/
def Balanced (w : EvidenceWriter) : Prop := w.totalBytes = w.directory.totalSize

/-- A file that exists is taken for absent, and then replaced. -/
def Misled (answers : WriteAnswers) (name : Text) (w : EvidenceWriter) : Prop :=
  answers.probe = .saysAbsent ∧ w.directory.lookup name ≠ none ∧ answers.create = true ∧ answers.write = true ∧
    answers.replace = true

section
variable {tools : EvidenceTools} {limits : EvidenceLimits} {answers : WriteAnswers} {name : Text} {value : Json}
  {pending : Nat} {w : EvidenceWriter}

/-- A write replaces its file and books the difference, or changes nothing. -/
theorem write_cases (tools : EvidenceTools) (limits : EvidenceLimits) (answers : WriteAnswers) (name : Text) (value : Json)
    (pending : Nat) (w : EvidenceWriter) : (∃ e, w.write tools limits answers name value pending = (.error e, w)) ∨
    ∃ encoded old, tools.encode value = some encoded ∧ w.oldSize answers name = .ok old ∧
      w.totalBytes - old - pending + encoded.length ≤ limits.maxEvidenceBytes ∧
      (answers.create = true ∧ answers.write = true ∧ answers.replace = true) ∧
      w.write tools limits answers name value pending = (.ok (tools.sha256 encoded),
        { w with directory := w.directory.insert name encoded, totalBytes := w.totalBytes - old + encoded.length }) := by
  unfold write
  cases prepared : w.prepare tools limits answers name value pending with
  | error e => exact .inl ⟨e, rfl⟩
  | ok result =>
    right
    unfold prepare at prepared
    obtain ⟨encoded, encodes, prepared⟩ := ok_bind_iff.mp prepared
    obtain ⟨-, -, prepared⟩ := ok_bind_iff.mp prepared
    obtain ⟨free, -, prepared⟩ := ok_bind_iff.mp prepared
    obtain ⟨-, -, prepared⟩ := ok_bind_iff.mp prepared
    obtain ⟨old, oldSize, prepared⟩ := ok_bind_iff.mp prepared
    obtain ⟨_, small, prepared⟩ := ok_bind_iff.mp prepared
    obtain ⟨_, works, last⟩ := ok_bind_iff.mp prepared
    obtain rfl := ok_pure_iff.mp last
    refine ⟨encoded, old, orRaise_ok.mp encodes, oldSize, ?_, ?_, rfl⟩
    · simpa using small
    · simpa [and_assoc] using works

/-- Where the file system does not mislead, the old size is that of the file. -/
theorem oldSize_eq {old : Nat} (here : w.oldSize answers name = .ok old) (clear : ¬ w.Misled answers name)
    (works : answers.create = true ∧ answers.write = true ∧ answers.replace = true) : old = w.directory.fileSize name := by
  unfold oldSize at here
  unfold Directory.fileSize
  cases probe : answers.probe with
  | raises => simp [probe] at here
  | saysAbsent =>
    have none_ : w.directory.lookup name = none := by
      by_contra some_
      exact clear ⟨probe, some_, works⟩
    simp only [probe, Except.ok.injEq] at here
    rw [none_, ← here]
    rfl
  | answers =>
    cases lookup : w.directory.lookup name with
    | none =>
      simp only [probe, lookup, Except.ok.injEq] at here
      exact here.symm
    | some bytes =>
      simp only [probe, lookup] at here
      split at here
      · exact (Except.ok.inj here).symm
      · cases here

/-- What a write leaves behind: the accounts agree, and within the limit when nothing is pending. -/
structure Written (tools : EvidenceTools) (limits : EvidenceLimits) (name : Text) (value : Json) (pending : Nat)
    (w : EvidenceWriter) (digest : Text) (w' : EvidenceWriter) : Prop where
  file : ∃ bytes, tools.encode value = some bytes ∧ tools.sha256 bytes = digest ∧
    w'.directory = w.directory.insert name bytes
  balanced : w'.Balanced
  within : w'.totalBytes - pending ≤ limits.maxEvidenceBytes
  checkpoints : w'.checkpoints = w.checkpoints
  previous : w'.previousSha256 = w.previousSha256

/-- A write keeps the books balanced. -/
theorem Balanced.write (balanced : w.Balanced) (tools : EvidenceTools) (limits : EvidenceLimits) (value : Json) (pending : Nat)
    (clear : ¬ w.Misled answers name) :
    (∃ e, w.write tools limits answers name value pending = (.error e, w)) ∨
      ∃ digest w', w.write tools limits answers name value pending = (.ok digest, w') ∧
        Written tools limits name value pending w digest w' := by
  rcases write_cases tools limits answers name value pending w with
    failed | ⟨encoded, old, encodes, oldSize, small, works, result⟩
  · exact .inl failed
  · refine .inr ⟨_, _, result, ⟨encoded, encodes, rfl, rfl⟩, ?_, ?_, rfl, rfl⟩
    · obtain rfl := oldSize_eq oldSize clear works
      have sizes := Directory.totalSize_insert name encoded w.directory
      simp only [Balanced] at balanced ⊢
      omega
    · simp only
      omega

end

/-! ## The chain -/

/-- An item that was set is found. -/
theorem get?_setItem (key : Text) (value : Json) (members : List (Text × Json)) :
    (Json.obj (setItem key value members)).get? key = some value := by
  induction members with
  | nil => simp [setItem, Json.get?]
  | cons member rest ih =>
    rw [setItem]
    split
    · simp [Json.get?]
    · next other =>
      simp only [Json.get?, List.find?_cons, decide_eq_false other] at ih ⊢
      exact ih

/-- The file of a retained checkpoint, after the checkpoint with digest `previous`. -/
def Stored (tools : EvidenceTools) (d : Directory Text Byte) (previous : Option Text) (e : RetainedCheckpoint) : Prop :=
  ∃ bytes value, d.lookup e.path = some bytes ∧ tools.encode value = some bytes ∧ tools.sha256 bytes = e.digest ∧
    bytes.length = e.size ∧ value.get? (text "previous_checkpoint_sha256") = some (.ofOption .str previous)

/-- Each checkpoint names the digest of the one before it, the first one `previous`. -/
def Linked (tools : EvidenceTools) (d : Directory Text Byte) : Option Text → List RetainedCheckpoint → Prop
  | _, [] => True
  | previous, e :: rest => Stored tools d previous e ∧ Linked tools d (some e.digest) rest

/-- `checkpoint-anchor.json` holds the digest of the checkpoint removed last; without one there is no such file. -/
def Anchored (tools : EvidenceTools) (d : Directory Text Byte) : Option Text → Prop
  | none => d.lookup EvidenceFile.anchor.name = none
  | some digest => ∃ bytes value, d.lookup EvidenceFile.anchor.name = some bytes ∧ tools.encode value = some bytes ∧
      value.get? (text "last_removed_sha256") = some (.str digest)

section
variable {tools : EvidenceTools} {limits : EvidenceLimits} {d d' : Directory Text Byte} {previous : Option Text}
  {entries : List RetainedCheckpoint}

/-- Files outside the chain do not matter. -/
theorem Linked.frame (linked : Linked tools d previous entries) (same : ∀ e ∈ entries, d'.lookup e.path = d.lookup e.path) :
    Linked tools d' previous entries := by
  induction entries generalizing previous with
  | nil => trivial
  | cons e rest ih =>
    obtain ⟨⟨bytes, value, here, stored⟩, later⟩ := linked
    refine ⟨⟨bytes, value, ?_, stored⟩, ih later fun x inside => same x (List.mem_cons_of_mem _ inside)⟩
    rw [same e List.mem_cons_self, here]

/-- A checkpoint that names its predecessor extends the chain. -/
theorem Linked.append {e : RetainedCheckpoint} (linked : Linked tools d previous entries)
    (stored : Stored tools d ((previous.toList ++ entries.map RetainedCheckpoint.digest).getLast?) e) :
    Linked tools d previous (entries ++ [e]) := by
  induction entries generalizing previous with
  | nil =>
    refine ⟨?_, trivial⟩
    cases previous <;> simpa using stored
  | cons x rest ih =>
    refine ⟨linked.1, ih linked.2 ?_⟩
    have last : (previous.toList ++ (x :: rest).map RetainedCheckpoint.digest).getLast? =
        ((some x.digest).toList ++ rest.map RetainedCheckpoint.digest).getLast? := by
      simp [List.getLast?_append, List.getLast?_cons]
    rw [← last]
    exact stored

theorem Anchored.frame (anchored : Anchored tools d previous)
    (same : d'.lookup EvidenceFile.anchor.name = d.lookup EvidenceFile.anchor.name) : Anchored tools d' previous := by
  cases previous <;> simpa only [Anchored, same] using anchored

end

end EvidenceWriter

/-! ## Runs -/

/-- The calls a runner makes. -/
inductive EvidenceCall where
  | preflight (value : Json) (answers : WriteAnswers)
  | checkpoint (sequence : Nat) (value : List (Text × Json)) (answers : CheckpointAnswers)
  | final (value : Json) (answers : WriteAnswers)

/-- The writer, with what happened to its checkpoint calls. -/
structure EvidenceRun where
  writer : EvidenceWriter := {}
  /-- The digests of the checkpoints written so far. -/
  written : List Text := []
  /-- The number of the last checkpoint call, and whether it succeeded. -/
  last : Option (Nat × Bool) := none
  /-- The numbers whose last call failed. -/
  failed : List Nat := []

namespace EvidenceRun

open EvidenceWriter

section
variable (tools : EvidenceTools) (limits : EvidenceLimits)

/-- The result of a call, with the writer behind it. -/
def call (r : EvidenceRun) : EvidenceCall → Except EvidenceError Unit × EvidenceWriter
  | .preflight value answers => r.writer.writePreflight tools limits answers value
  | .checkpoint sequence value answers => r.writer.writeCheckpoint tools limits answers sequence value
  | .final value answers => r.writer.writeFinal tools limits answers value

/-- A run behind one more call. -/
def step (r : EvidenceRun) (c : EvidenceCall) : EvidenceRun :=
  let (result, writer) := r.call tools limits c
  match c with
  | .checkpoint sequence _ _ =>
    match result with
    | .ok _ =>
      { writer, written := r.written ++ writer.previousSha256.toList, last := some (sequence, true)
        failed := r.failed.filter (· ≠ sequence) }
    | .error _ => { r with writer, last := some (sequence, false), failed := sequence :: r.failed }
  | _ => { r with writer }

/-- Sequence numbers increase; one is used again only after its call failed. -/
def Numbered (r : EvidenceRun) : EvidenceCall → Prop
  | .checkpoint sequence _ _ =>
    match r.last with
    | none => True
    | some (before, succeeded) => before < sequence ∨ (before = sequence ∧ succeeded = false)
  | _ => True

/-- No file that exists is taken for absent and replaced. -/
def Clear (r : EvidenceRun) : EvidenceCall → Prop
  | .preflight _ answers => ¬ r.writer.Misled answers EvidenceFile.preflight.name
  | .final _ answers => ¬ r.writer.Misled answers EvidenceFile.finalReport.name
  | .checkpoint sequence _ answers =>
    (limits.maxCheckpoints ≤ r.writer.checkpoints.length → ¬ r.writer.Misled answers.anchor EvidenceFile.anchor.name) ∧
      ¬ r.writer.Misled answers.file (EvidenceFile.checkpoint sequence).name

/-- Reached by calls of which each was clear. -/
inductive Reachable : EvidenceRun → Prop where
  | start : Reachable {}
  | step {r : EvidenceRun} (c : EvidenceCall) (reached : Reachable r) (numbered : r.Numbered c) (clear : r.Clear limits c) :
      Reachable (r.step tools limits c)

end

/-- A checkpoint number that the last call has passed, unless it is to be used again. -/
def Passed (r : EvidenceRun) (sequence : Nat) : Prop :=
  match r.last with
  | none => False
  | some (before, succeeded) => if succeeded then sequence ≤ before else sequence < before

/-- The invariant between calls. -/
structure Chained (tools : EvidenceTools) (limits : EvidenceLimits) (r : EvidenceRun) : Prop where
  balanced : r.writer.Balanced
  few : r.writer.checkpoints.length ≤ limits.maxCheckpoints
  previous : r.writer.previousSha256 = r.written.getLast?
  chain : ∃ removed, r.written = removed ++ r.writer.checkpoints.map RetainedCheckpoint.digest ∧
    Linked tools r.writer.directory removed.getLast? r.writer.checkpoints ∧
    (Anchored tools r.writer.directory removed.getLast? ∨
      ∃ old rest, r.writer.checkpoints = old :: rest ∧ limits.maxCheckpoints ≤ r.writer.checkpoints.length ∧
        Anchored tools r.writer.directory (some old.digest))
  path : ∀ e ∈ r.writer.checkpoints, e.path = (EvidenceFile.checkpoint e.sequence).name
  increasing : r.writer.checkpoints.Pairwise fun e e' => e.sequence < e'.sequence
  passed : ∀ e ∈ r.writer.checkpoints, r.Passed e.sequence
  files : ∀ n, r.writer.directory.lookup (EvidenceFile.checkpoint n).name ≠ none →
    (∃ e ∈ r.writer.checkpoints, e.sequence = n) ∨ n ∈ r.failed

section
variable {tools : EvidenceTools} {limits : EvidenceLimits} {r : EvidenceRun}

/-- An empty directory is an empty chain. -/
theorem chained_start : Chained tools limits {} where
  balanced := rfl
  few := Nat.zero_le _
  previous := rfl
  chain := ⟨[], rfl, trivial, .inl rfl⟩
  path := by simp
  increasing := .nil
  passed := by simp
  files := by simp

/-- A file that is written outside the chain: its number, if it is a checkpoint, has failed. -/
theorem Chained.write (h : r.Chained tools limits) {file : EvidenceFile} (anchor : file ≠ .anchor)
    (outside : ∀ e ∈ r.writer.checkpoints, file ≠ .checkpoint e.sequence) (known : ∀ n, file = .checkpoint n → n ∈ r.failed)
    {value : Json} {digest : Text} {w : EvidenceWriter} (written : Written tools limits file.name value 0 r.writer digest w) :
    Chained tools limits { r with writer := w } := by
  obtain ⟨bytes, -, -, directory⟩ := written.file
  have other {f : EvidenceFile} (different : f ≠ file) : w.directory.lookup f.name = r.writer.directory.lookup f.name := by
    rw [directory]
    apply AList.lookup_insert_ne
    simpa using different
  obtain ⟨removed, split, linked, anchored⟩ := h.chain
  have same : ∀ e ∈ r.writer.checkpoints, w.directory.lookup e.path = r.writer.directory.lookup e.path := by
    intro e inside
    rw [h.path e inside]
    exact other (outside e inside).symm
  constructor
  · exact written.balanced
  · simpa only [written.checkpoints] using h.few
  · simpa only [written.previous] using h.previous
  · refine ⟨removed, by simpa only [written.checkpoints] using split, ?_, ?_⟩
    · simpa only [written.checkpoints] using linked.frame same
    · simp only [written.checkpoints]
      rcases anchored with here | ⟨old, rest, first, full, here⟩
      · exact .inl (here.frame (other anchor.symm))
      · exact .inr ⟨old, rest, first, full, here.frame (other anchor.symm)⟩
  · simpa only [written.checkpoints] using h.path
  · simpa only [written.checkpoints] using h.increasing
  · simp only [written.checkpoints]
    exact h.passed
  · simp only [written.checkpoints]
    intro n here
    by_cases this : file = .checkpoint n
    · exact .inr (known n this)
    · rw [other (Ne.symm this)] at here
      exact h.files n here

/-- The anchor speaks of a checkpoint that is still there. -/
theorem Chained.anchor (h : r.Chained tools limits) (full : limits.maxCheckpoints ≤ r.writer.checkpoints.length)
    {old : RetainedCheckpoint} {rest : List RetainedCheckpoint} (entries : r.writer.checkpoints = old :: rest)
    {nextSequence : Nat} {updatedUtc digest : Text} {w : EvidenceWriter}
    (written : Written tools limits EvidenceFile.anchor.name (anchorValue old nextSequence updatedUtc) old.size r.writer digest w) :
    Chained tools limits { r with writer := w } ∧ Anchored tools w.directory (some old.digest) := by
  obtain ⟨bytes, encodes, -, directory⟩ := written.file
  have checkpoint (n : Nat) : w.directory.lookup (EvidenceFile.checkpoint n).name =
      r.writer.directory.lookup (EvidenceFile.checkpoint n).name := by
    rw [directory]
    apply AList.lookup_insert_ne
    simp
  have anchored : Anchored tools w.directory (some old.digest) := by
    refine ⟨bytes, _, ?_, encodes, ?_⟩
    · rw [directory, AList.lookup_insert]
    · simp [anchorValue]
  obtain ⟨removed, split, linked, -⟩ := h.chain
  refine ⟨?_, anchored⟩
  constructor
  · exact written.balanced
  · simpa only [written.checkpoints] using h.few
  · simpa only [written.previous] using h.previous
  · simp only [written.checkpoints]
    refine ⟨removed, split, ?_, .inr ⟨old, rest, entries, full, anchored⟩⟩
    apply linked.frame
    intro e inside
    rw [h.path e inside, checkpoint]
  · simpa only [written.checkpoints] using h.path
  · simpa only [written.checkpoints] using h.increasing
  · simp only [written.checkpoints]
    exact h.passed
  · simp only [written.checkpoints, checkpoint]
    exact h.files

/-- The writer without its oldest checkpoint. -/
def withoutOldest (old : RetainedCheckpoint) (rest : List RetainedCheckpoint) (w : EvidenceWriter) : EvidenceWriter :=
  { w with directory := w.directory.erase old.path, totalBytes := w.totalBytes - old.size, checkpoints := rest }

/-- The removed checkpoint is the one that the anchor speaks of. -/
theorem Chained.remove (h : r.Chained tools limits) {old : RetainedCheckpoint} {rest : List RetainedCheckpoint}
    (entries : r.writer.checkpoints = old :: rest) (anchored : Anchored tools r.writer.directory (some old.digest)) :
    Chained tools limits { r with writer := withoutOldest old rest r.writer } := by
  obtain ⟨removed, split, linked, -⟩ := h.chain
  have few := h.few
  have path := h.path
  have increasing := h.increasing
  have passed := h.passed
  rw [entries] at split linked few path increasing passed
  obtain ⟨⟨bytes, value, here, -, -, size, -⟩, later⟩ := linked
  obtain ⟨above, increasing⟩ := List.pairwise_cons.mp increasing
  have kept {f : EvidenceFile} (different : f ≠ .checkpoint old.sequence) :
      (r.writer.directory.erase old.path).lookup f.name = r.writer.directory.lookup f.name := by
    rw [path old List.mem_cons_self]
    apply AList.lookup_erase_ne
    simpa using different
  constructor
  · have sizes := Directory.totalSize_erase old.path r.writer.directory
    have balanced := h.balanced
    rw [Directory.fileSize_eq here, size] at sizes
    simp only [EvidenceWriter.Balanced, withoutOldest] at balanced ⊢
    omega
  · simp only [withoutOldest]
    rw [List.length_cons] at few
    omega
  · exact h.previous
  · refine ⟨removed ++ [old.digest], ?_, ?_, .inl ?_⟩
    · simpa [withoutOldest] using split
    · rw [List.getLast?_concat]
      apply later.frame
      intro e inside
      rw [path e (List.mem_cons_of_mem _ inside)]
      apply kept
      have := above e inside
      simp only [ne_eq, EvidenceFile.checkpoint.injEq]
      omega
    · rw [List.getLast?_concat]
      exact anchored.frame (kept (by simp))
  · exact fun e inside => path e (List.mem_cons_of_mem _ inside)
  · exact increasing
  · exact fun e inside => passed e (List.mem_cons_of_mem _ inside)
  · intro n file
    by_cases same : n = old.sequence
    · subst same
      rw [withoutOldest, path old List.mem_cons_self] at file
      exact absurd (AList.lookup_erase _ _) file
    · rw [withoutOldest, kept (by simpa using same)] at file
      rcases h.files n file with ⟨e, inside, number⟩ | failed
      · rw [entries] at inside
        rcases List.mem_cons.mp inside with rfl | inside
        · exact absurd number.symm same
        · exact .inl ⟨e, inside, number⟩
      · exact .inr failed

/-- A rotation removes the oldest checkpoint, or fails with the chain as it was. -/
theorem Chained.rotate (h : r.Chained tools limits) {answers : CheckpointAnswers} (sequence : Nat)
    (clear : limits.maxCheckpoints ≤ r.writer.checkpoints.length →
      ¬ r.writer.Misled answers.anchor EvidenceFile.anchor.name) :
    ∃ result w, r.writer.rotate tools limits answers sequence = (result, w) ∧ Chained tools limits { r with writer := w } ∧
      (result = .ok () → w.checkpoints.length < limits.maxCheckpoints) ∧
      ∀ n, w.directory.lookup (EvidenceFile.checkpoint n).name ≠ none →
        r.writer.directory.lookup (EvidenceFile.checkpoint n).name ≠ none := by
  unfold EvidenceWriter.rotate
  by_cases full : limits.maxCheckpoints ≤ r.writer.checkpoints.length
  swap
  · rw [if_neg full]
    exact ⟨_, _, rfl, h, fun _ => by omega, fun n here => here⟩
  rw [if_pos full]
  split
  · exact ⟨_, _, rfl, h, nofun, fun n here => here⟩
  next old rest entries =>
  dsimp only
  rcases h.balanced.write tools limits
    (anchorValue old ((rest.head?.map RetainedCheckpoint.sequence).getD sequence) answers.updatedUtc) old.size (clear full)
    with ⟨e, failed⟩ | ⟨digest, w, result, written⟩
  · rw [failed]
    exact ⟨_, _, rfl, h, nofun, fun n here => here⟩
  rw [result]
  dsimp only
  obtain ⟨chained, anchored⟩ := h.anchor full entries written
  have checkpoint (n : Nat) : w.directory.lookup (EvidenceFile.checkpoint n).name =
      r.writer.directory.lookup (EvidenceFile.checkpoint n).name := by
    obtain ⟨bytes, -, -, directory⟩ := written.file
    rw [directory]
    apply AList.lookup_insert_ne
    simp
  by_cases unlink : answers.unlink = true
  · rw [if_pos unlink]
    refine ⟨_, _, rfl, chained.remove (written.checkpoints.trans entries) anchored, fun _ => ?_, fun n here => ?_⟩
    · have few := h.few
      rw [entries, List.length_cons] at few
      dsimp only
      omega
    · rw [← checkpoint]
      intro gone
      apply here
      by_cases same : (EvidenceFile.checkpoint n).name = old.path
      · rw [same]
        exact AList.lookup_erase _ _
      · rw [AList.lookup_erase_ne same, gone]
  · rw [if_neg unlink]
    refine ⟨_, _, rfl, chained, nofun, fun n here => ?_⟩
    rwa [checkpoint] at here

/-- The accounts after a call that succeeded. -/
structure Accounted (limits : EvidenceLimits) (w : EvidenceWriter) : Prop where
  total : w.totalBytes = w.directory.totalSize
  within : w.totalBytes ≤ limits.maxEvidenceBytes

/-- The checkpoints after a checkpoint call that succeeded: `removed` are the digests of those rotated out. A file
outside the chain is left from a call that failed and whose number was not used again. -/
structure Traceable (tools : EvidenceTools) (limits : EvidenceLimits) (r : EvidenceRun) : Prop where
  few : r.writer.checkpoints.length ≤ limits.maxCheckpoints
  chain : ∃ removed, r.written = removed ++ r.writer.checkpoints.map RetainedCheckpoint.digest ∧
    Anchored tools r.writer.directory removed.getLast? ∧
    Linked tools r.writer.directory removed.getLast? r.writer.checkpoints
  path : ∀ e ∈ r.writer.checkpoints, e.path = (EvidenceFile.checkpoint e.sequence).name
  files : ∀ n, r.writer.directory.lookup (EvidenceFile.checkpoint n).name ≠ none →
    (∃ e ∈ r.writer.checkpoints, e.sequence = n) ∨ n ∈ r.failed

/-- A number that a call may have is above the retained ones. -/
theorem Chained.above (h : r.Chained tools limits) {sequence : Nat} {value : List (Text × Json)} {answers : CheckpointAnswers}
    (numbered : r.Numbered (.checkpoint sequence value answers)) : ∀ e ∈ r.writer.checkpoints, e.sequence < sequence := by
  intro e inside
  have passed := h.passed e inside
  simp only [Numbered] at numbered
  simp only [Passed] at passed
  split at numbered
  · next none_ => simp [none_] at passed
  · next before succeeded last =>
    rw [last] at passed
    dsimp only at passed
    rcases numbered with less | ⟨rfl, rfl⟩
    · split at passed <;> omega
    · simpa using passed

/-- A checkpoint call that fails. -/
theorem Chained.fail (h : r.Chained tools limits) {sequence : Nat} (above : ∀ e ∈ r.writer.checkpoints, e.sequence < sequence) :
    Chained tools limits { r with last := some (sequence, false), failed := sequence :: r.failed } := by
  constructor
  · exact h.balanced
  · exact h.few
  · exact h.previous
  · exact h.chain
  · exact h.path
  · exact h.increasing
  · simpa [Passed] using above
  · intro n here
    rcases h.files n here with retained | failed
    · exact .inl retained
    · exact .inr (List.mem_cons_of_mem _ failed)

/-- The deque with the checkpoint just written. -/
def withNewest (sequence : Nat) (digest : Text) (w : EvidenceWriter) : EvidenceWriter :=
  let path := (EvidenceFile.checkpoint sequence).name
  { w with checkpoints := w.checkpoints ++ [⟨sequence, path, digest, w.directory.fileSize path⟩], previousSha256 := some digest }

/-- A checkpoint call that succeeds: its file joins the chain. -/
theorem Chained.succeed (h : r.Chained tools limits) (room : r.writer.checkpoints.length < limits.maxCheckpoints)
    {sequence : Nat} (above : ∀ e ∈ r.writer.checkpoints, e.sequence < sequence) {value : List (Text × Json)}
    {digest : Text} {w : EvidenceWriter}
    (written : Written tools limits (EvidenceFile.checkpoint sequence).name
      (checkpointValue sequence value r.writer.previousSha256) 0 r.writer digest w) :
    let after : EvidenceRun := { writer := withNewest sequence digest w, written := r.written ++ [digest]
                                 last := some (sequence, true), failed := r.failed.filter (· ≠ sequence) }
    Chained tools limits after ∧ Traceable tools limits after := by
  have outside : ∀ e ∈ r.writer.checkpoints, EvidenceFile.checkpoint sequence ≠ .checkpoint e.sequence := by
    intro e inside
    have := above e inside
    simp only [ne_eq, EvidenceFile.checkpoint.injEq]
    omega
  have before := (h.fail above).write (by simp) outside (by simp) written
  obtain ⟨bytes, encodes, sha, directory⟩ := written.file
  have here : w.directory.lookup (EvidenceFile.checkpoint sequence).name = some bytes := by
    rw [directory, AList.lookup_insert]
  obtain ⟨removed, split, linked, anchored⟩ := before.chain
  have few : ¬ limits.maxCheckpoints ≤ w.checkpoints.length := by
    rw [written.checkpoints]
    omega
  have anchored := anchored.resolve_right fun ⟨_, _, _, full, _⟩ => few full
  have stored : Stored tools w.directory ((removed.getLast?.toList ++ w.checkpoints.map RetainedCheckpoint.digest).getLast?)
      ⟨sequence, (EvidenceFile.checkpoint sequence).name, digest, w.directory.fileSize (EvidenceFile.checkpoint sequence).name⟩ := by
    refine ⟨bytes, _, here, encodes, sha, (Directory.fileSize_eq here).symm, ?_⟩
    have last : (removed.getLast?.toList ++ w.checkpoints.map RetainedCheckpoint.digest).getLast? = r.written.getLast? := by
      rw [split, List.getLast?_append, List.getLast?_append]
      cases removed.getLast? <;> rfl
    rw [last, ← h.previous]
    exact get?_setItem _ _ _
  have checkpoints := written.checkpoints
  have split : r.written ++ [digest] = removed ++ (withNewest sequence digest w).checkpoints.map RetainedCheckpoint.digest := by
    simp only [withNewest, List.map_append, List.map_singleton]
    rw [← List.append_assoc, ← split]
  intro after
  suffices chained : Chained tools limits after from
    ⟨chained, chained.few, ⟨removed, split, anchored, linked.append stored⟩, chained.path, chained.files⟩
  constructor
  · exact before.balanced
  · simp only [after, withNewest, List.length_append, List.length_singleton, checkpoints]
    omega
  · simp [after, withNewest]
  · exact ⟨removed, split, linked.append stored, .inl anchored⟩
  · intro e inside
    rcases List.mem_append.mp inside with old | new
    · exact before.path e old
    · rw [List.mem_singleton.mp new]
  · refine List.pairwise_append.mpr ⟨before.increasing, List.pairwise_singleton _ _, fun e old e' new => ?_⟩
    rw [List.mem_singleton.mp new]
    rw [checkpoints] at old
    exact above e old
  · intro e inside
    rcases List.mem_append.mp inside with old | new
    · rw [checkpoints] at old
      simpa [Passed, after] using (above e old).le
    · rw [List.mem_singleton.mp new]
      simp [Passed, after]
  · intro n file
    by_cases same : n = sequence
    · exact .inl ⟨_, List.mem_append_right _ List.mem_cons_self, same.symm⟩
    · rcases before.files n file with ⟨e, inside, number⟩ | failed
      · exact .inl ⟨e, List.mem_append_left _ inside, number⟩
      · right
        rcases List.mem_cons.mp failed with rfl | failed
        · exact absurd rfl same
        · simpa [same, after] using failed

/-- A preflight or a final report: the chain does not change. -/
theorem Chained.plain (h : r.Chained tools limits) (file : EvidenceFile) (anchor : file ≠ .anchor)
    (checkpoint : ∀ n, file ≠ .checkpoint n) {answers : WriteAnswers} (clear : ¬ r.writer.Misled answers file.name) (value : Json) :
    Chained tools limits { r with writer := (r.writer.write tools limits answers file.name value 0).2 } ∧
      ((r.writer.write tools limits answers file.name value 0).1.map (fun _ => ()) = .ok () →
        Accounted limits (r.writer.write tools limits answers file.name value 0).2) := by
  rcases h.balanced.write tools limits value 0 clear with
    ⟨e, failed⟩ | ⟨digest, w, result, written⟩
  · rw [failed]
    exact ⟨h, nofun⟩
  · rw [result]
    refine ⟨h.write anchor (fun e _ => checkpoint e.sequence) (fun n same => absurd same (checkpoint n)) written, fun _ => ?_⟩
    exact ⟨written.balanced, by simpa using written.within⟩

/-- A checkpoint call, with each way that it can end. -/
theorem Chained.checkpoint (h : r.Chained tools limits) {sequence : Nat} {value : List (Text × Json)}
    {answers : CheckpointAnswers} (numbered : r.Numbered (.checkpoint sequence value answers))
    (clear : r.Clear limits (.checkpoint sequence value answers)) :
    Chained tools limits (r.step tools limits (.checkpoint sequence value answers)) ∧
      ((r.call tools limits (.checkpoint sequence value answers)).1 = .ok () →
        Accounted limits (r.step tools limits (.checkpoint sequence value answers)).writer ∧
        Traceable tools limits (r.step tools limits (.checkpoint sequence value answers))) := by
  obtain ⟨result, w, rotated, chained, room, files⟩ := h.rotate sequence clear.1
  have above : ∀ e ∈ w.checkpoints, e.sequence < sequence :=
    chained.above (show Numbered { r with writer := w } (.checkpoint sequence value answers) from numbered)
  cases result with
  | error e =>
    have call : r.call tools limits (.checkpoint sequence value answers) = (.error e, w) := by
      simp only [call, writeCheckpoint, rotated]
    rw [step, call]
    exact ⟨chained.fail above, nofun⟩
  | ok u =>
    have clear : ¬ w.Misled answers.file (EvidenceFile.checkpoint sequence).name :=
      fun misled => clear.2 ⟨misled.1, files sequence misled.2.1, misled.2.2⟩
    rcases chained.balanced.write tools limits (checkpointValue sequence value w.previousSha256) 0 clear with
      ⟨e, failed⟩ | ⟨digest, w', result, written⟩
    · have call : r.call tools limits (.checkpoint sequence value answers) = (.error e, w) := by
        simp only [call, writeCheckpoint, rotated, failed]
      rw [step, call]
      exact ⟨chained.fail above, nofun⟩
    by_cases stat : answers.stat = true
    · have call : r.call tools limits (.checkpoint sequence value answers) = (.ok (), withNewest sequence digest w') := by
        simp only [call, writeCheckpoint, rotated, result, if_pos stat, withNewest]
      obtain ⟨after, traceable⟩ := chained.succeed (room rfl) above written
      rw [step, call]
      exact ⟨after, fun _ => ⟨⟨after.balanced, by simpa [withNewest] using written.within⟩, traceable⟩⟩
    · have call : r.call tools limits (.checkpoint sequence value answers) = (.error .os, w') := by
        simp only [call, writeCheckpoint, rotated, result, if_neg stat]
      rw [step, call]
      refine ⟨?_, nofun⟩
      refine (chained.fail above).write (by simp) (fun e inside => ?_) (by simp) written
      have := above e inside
      simp only [ne_eq, EvidenceFile.checkpoint.injEq]
      omega

/-- The preflight is one write, and the same holds of the final report. -/
theorem call_preflight (value : Json) (answers : WriteAnswers) : (r.call tools limits (.preflight value answers)).1 =
    (r.writer.write tools limits answers EvidenceFile.preflight.name value 0).1.map fun _ => () := rfl

theorem step_preflight (value : Json) (answers : WriteAnswers) : r.step tools limits (.preflight value answers) =
    { r with writer := (r.writer.write tools limits answers EvidenceFile.preflight.name value 0).2 } := rfl

theorem call_final (value : Json) (answers : WriteAnswers) : (r.call tools limits (.final value answers)).1 =
    (r.writer.write tools limits answers EvidenceFile.finalReport.name value 0).1.map fun _ => () := rfl

theorem step_final (value : Json) (answers : WriteAnswers) : r.step tools limits (.final value answers) =
    { r with writer := (r.writer.write tools limits answers EvidenceFile.finalReport.name value 0).2 } := rfl

/-- Every call keeps the chain. -/
theorem Chained.step (h : r.Chained tools limits) {c : EvidenceCall} (numbered : r.Numbered c) (clear : r.Clear limits c) :
    Chained tools limits (r.step tools limits c) ∧ ((r.call tools limits c).1 = .ok () →
      Accounted limits (r.step tools limits c).writer ∧
      ∀ sequence value answers, c = .checkpoint sequence value answers → Traceable tools limits (r.step tools limits c)) := by
  cases c with
  | preflight value answers =>
    have clear : ¬ r.writer.Misled answers EvidenceFile.preflight.name := clear
    rw [step_preflight, call_preflight]
    obtain ⟨chained, accounted⟩ := h.plain .preflight (by simp) (by simp) clear value
    exact ⟨chained, fun ok => ⟨accounted ok, by simp⟩⟩
  | checkpoint sequence value answers =>
    obtain ⟨chained, sound⟩ := h.checkpoint numbered clear
    exact ⟨chained, fun ok => ⟨(sound ok).1, fun _ _ _ _ => (sound ok).2⟩⟩
  | final value answers =>
    have clear : ¬ r.writer.Misled answers EvidenceFile.finalReport.name := clear
    rw [step_final, call_final]
    obtain ⟨chained, accounted⟩ := h.plain .finalReport (by simp) (by simp) clear value
    exact ⟨chained, fun ok => ⟨accounted ok, by simp⟩⟩

theorem Reachable.chained (reached : Reachable tools limits r) : r.Chained tools limits := by
  induction reached with
  | start => exact chained_start
  | step c reached numbered clear ih => exact (ih.step numbered clear).1

end

/-- Compact JSON, and a stand-in for the digest. -/
def exampleTools : EvidenceTools where
  encode value := Utf8.encode (Json.dump value ++ text "\n")
  sha256 bytes := decimal (bytes.foldl (fun sum b => sum + b.val) 0)

def exampleLimits : EvidenceLimits where
  maxCheckpoints := 2
  maxEvidenceBytes := 65536
  minFreeDiskBytes := 0
  keepsTwo := by decide

def exampleAnswers : CheckpointAnswers where
  anchor := { free := some 1000000 }
  file := { free := some 1000000 }
  updatedUtc := text "2025-01-01T00:00:00Z"

def exampleCall (sequence : Nat) : EvidenceCall := .checkpoint sequence [] exampleAnswers

def exampleRun (count : Nat) : EvidenceRun :=
  (List.range count).foldl (fun r sequence => r.step exampleTools exampleLimits (exampleCall sequence)) {}

theorem exampleRun_succ (count : Nat) : exampleRun (count + 1) =
    (exampleRun count).step exampleTools exampleLimits (exampleCall count) := by
  rw [exampleRun, List.range_succ, List.foldl_append]
  rfl

/-- The anchor exists and is taken for absent when the fourth checkpoint rotates. -/
def misledCall : EvidenceCall :=
  .checkpoint 3 [] { exampleAnswers with anchor := { free := some 1000000, probe := .saysAbsent } }

end EvidenceRun

end EmsDnp3.Python
