import EmsDnp3.Json.Depth
import EmsDnp3.Json.Extend
import EmsDnp3.Json.Plain
import EmsDnp3.Json.Size
import EmsDnp3.Python.IncidentText

/-!
# The file of a record

`_canonical_bytes` of a record with its line feed, and what `_read_document` makes of bytes.
-/

namespace EmsDnp3.Python

open Json (KeysSorted Writable Plain size)
open Package (DecimalDigits)

/-- `_MAX_INCIDENT_BYTES` -/
def maxIncidentBytes : Nat := 128 * 1024

/-- Why bytes are no record. A `TypeError` is not translated. -/
inductive RecordProblem where
  | invalid
  | type (message : String)
deriving DecidableEq

/-- The part of `_read_document` behind the reading. -/
def readRecord (rt : Runtime) (encoded : List Byte) : Except RecordProblem (Incident rt.digits) :=
  if encoded = [] ∨ maxIncidentBytes < encoded.length then .error .invalid
  else
    match Utf8.decode encoded with
    | none => .error .invalid
    | some raw =>
      match Json.loadsWithin rt.depth raw with
      | .error _ => .error .invalid
      | .ok document =>
        match validateIncident rt.digits document with
        | .ok i => .ok i
        | .error (.type message) => .error (.type message)
        | .error _ => .error .invalid

variable {digits : DecimalDigits}

/-- `_canonical_bytes(document) + b"\n"` -/
def recordBytes (i : Incident digits) : Option (List Byte) := (Json.canonical i.json).map (· ++ [.ofNat 0x0A])

/-! ## The document can be written and read -/

/-- What is read back as it was written, keys sorted. -/
structure Readable (v : Json) : Prop where
  sorted : KeysSorted v
  writable : Writable v

/-- The members of an object that can be read back. -/
structure ReadableMembers (members : List (Text × Json)) : Prop where
  sorted : Json.MembersSorted members
  writable : Json.WritableMembers members

theorem ReadableMembers.nil : ReadableMembers [] := ⟨trivial, trivial⟩

theorem ReadableMembers.cons {key : Text} {v : Json} {members : List (Text × Json)} (first : Readable v)
    (rest : ReadableMembers members) : ReadableMembers ((key, v) :: members) :=
  ⟨⟨first.sorted, rest.sorted⟩, ⟨first.writable, rest.writable⟩⟩

theorem readable_str (s : Text) : Readable (.str s) := ⟨trivial, trivial⟩

theorem readable_bool (b : Bool) : Readable (.bool b) := ⟨trivial, trivial⟩

theorem readable_nat {n : Nat} (small : n < 2 ^ 63) : Readable (.nat n) :=
  ⟨trivial, (length_decimal_le (k := 18) (by omega)).trans (by decide)⟩

theorem readable_arr {α : Type} {f : α → Json} {items : List α} (each : ∀ a ∈ items, Readable (f a)) :
    Readable (.arr (items.map f)) := by
  refine ⟨Json.itemsSorted_map fun a mem => (each a mem).sorted, ?_⟩
  show Json.WritableItems (items.map f)
  induction items with
  | nil => trivial
  | cons a items ih =>
    exact ⟨(each a List.mem_cons_self).writable, ih fun b mem => each b (List.mem_cons_of_mem _ mem)⟩

/-- The keys of an object that is written are literals. -/
theorem readable_object {members : List (String × Json)} (keys : List String) (named : members.map (·.1) = keys)
    (sorted : (keys.map text).Pairwise fun a b => ¬ b < a) (distinct : keys.Nodup)
    (inner : ReadableMembers (members.map fun m => (text m.1, m.2))) : Readable (Json.object members) := by
  have texts : (members.map fun m => (text m.1, m.2)).map (·.1) = keys.map text := by
    rw [← named, List.map_map, List.map_map]
    rfl
  refine ⟨⟨?_, inner.sorted⟩, ⟨?_, inner.writable⟩⟩
  · rw [texts]
    exact sorted
  · rw [texts]
    exact distinct.map fun _ _ same => text_inj.mp same

theorem IncidentPoint.json_readable (p : IncidentPoint) : Readable p.json := by
  have small : p.index < 2 ^ 63 := by
    have := p.bounded
    omega
  exact readable_object ["index", "type"] rfl (by decide) (by decide)
    (.cons (readable_nat small) (.cons (readable_str _) .nil))

theorem IncidentCommand.json_readable (c : IncidentCommand) : Readable c.json :=
  readable_object ["operation", "payload_sha256", "points"] rfl (by decide) (by decide)
    (.cons (readable_str _) (.cons (readable_str _) (.cons (readable_arr fun p _ => p.json_readable) .nil)))

theorem IncidentHostError.json_readable (e : IncidentHostError) : Readable e.json :=
  readable_object ["code", "execution_uncertain", "may_still_execute", "request_id"] rfl (by decide) (by decide)
    (.cons (readable_str _) (.cons (readable_bool _) (.cons (readable_bool _) (.cons (readable_str _) .nil))))

theorem Acknowledgment.json_readable (a : Acknowledgment digits) : Readable a.json :=
  readable_object acknowledgmentFields rfl (by decide) (by decide)
    (.cons (readable_str _) (.cons (readable_str _) (.cons (readable_str _) (.cons (readable_str _)
      (.cons (readable_str _) .nil)))))

theorem SchemaVersion.json_readable (v : SchemaVersion) : Readable v.json := by
  cases v with
  | int => exact readable_nat (by decide : 1 < 2 ^ 63)
  | bool => exact readable_bool true
  | float => exact ⟨trivial, trivial⟩

/-- The keys of `Incident.members`. -/
def memberKeys : List String :=
  ["command", "created_at_utc", "dut_identity_sha256", "host_error", "incident_id", "required_action", "schema_version",
    "status", "updated_at_utc"]

theorem Incident.json_readable (i : Incident digits) : Readable i.json := by
  have behind : ReadableMembers (i.members.map fun m => (text m.1, m.2)) :=
    .cons i.command.json_readable (.cons (readable_str _) (.cons (readable_str _) (.cons i.hostError.json_readable
      (.cons (readable_str _) (.cons (readable_str _) (.cons i.schemaVersion.json_readable (.cons (readable_str _)
        (.cons (readable_str _) .nil))))))))
  obtain ⟨version, incidentId, (_ | _) | a, created, updated, dut, command, error⟩ := i
  · exact readable_object memberKeys rfl (by decide) (by decide) behind
  · exact readable_object ("acknowledgment" :: memberKeys) rfl (by decide) (by decide)
      (.cons ⟨trivial, trivial⟩ behind)
  · exact readable_object ("acknowledgment" :: memberKeys) rfl (by decide) (by decide)
      (.cons a.json_readable behind)

theorem depth_points (points : List IncidentPoint) : Json.depthItems (points.map (·.json)) ≤ 1 := by
  induction points with
  | nil => exact Nat.zero_le 1
  | cons p points ih =>
    rw [List.map_cons, Json.depthItems]
    exact max_le (by simp [IncidentPoint.json, Json.object, Json.depth, Json.depthMembers, Json.nat]) ih

theorem SchemaVersion.json_depth (v : SchemaVersion) : v.json.depth = 0 := by
  cases v <;> rfl

/-- An incident nests four levels. -/
theorem Incident.json_depth (i : Incident digits) : i.json.depth ≤ 4 := by
  have points := depth_points i.command.points
  have command : i.command.json.depth ≤ 3 := by
    simp only [IncidentCommand.json, Json.object, List.map_cons, List.map_nil, Json.depth, Json.depthMembers]
    omega
  have hostError : i.hostError.json.depth ≤ 1 := by
    simp [IncidentHostError.json, Json.object, Json.depth, Json.depthMembers]
  have behind : Json.depthMembers (i.members.map fun m => (text m.1, m.2)) ≤ 3 := by
    simp only [Incident.members, List.map_cons, List.map_nil, Json.depthMembers, i.schemaVersion.json_depth, Json.depth]
    omega
  obtain ⟨version, incidentId, (_ | _) | a, created, updated, dut, command, error⟩ := i
  · exact Nat.succ_le_succ behind
  · exact Nat.succ_le_succ (max_le (Nat.zero_le 3) behind)
  · refine Nat.succ_le_succ (max_le ?_ behind)
    simp [Acknowledgment.json, Json.object, Json.depth, Json.depthMembers]

/-! ## The document is encoded in so many bytes -/

/-- No surrogates and no control characters but blanks, in so many bytes. -/
structure CleanText (n : Nat) (t : Text) : Prop where
  plain : PlainText t
  noControls : Json.NoControls t
  short : Utf8.encodedSize t ≤ n

/-- What holds of every class holds of every matched character. -/
theorem fullmatch_forall {classes : List (CodePoint → Bool)} {t : Text} (matched : fullmatch classes t = true)
    {p : CodePoint → Prop} (each : ∀ holds ∈ classes, ∀ c, holds c = true → p c) : ∀ c ∈ t, p c := by
  induction classes generalizing t with
  | nil =>
    cases t with
    | nil => simp
    | cons c t => cases matched
  | cons holds classes ih =>
    cases t with
    | nil => cases matched
    | cons d t =>
      rw [fullmatch, Bool.and_eq_true] at matched
      rintro c mem
      obtain rfl | mem := List.mem_cons.mp mem
      · exact each holds List.mem_cons_self _ matched.1
      · exact ih matched.2 (fun other inside => each other (List.mem_cons_of_mem _ inside)) c mem

/-- A match has the length of its pattern. -/
theorem length_fullmatch {classes : List (CodePoint → Bool)} {t : Text} (matched : fullmatch classes t = true) :
    t.length = classes.length := by
  induction classes generalizing t with
  | nil =>
    cases t with
    | nil => rfl
    | cons c t => cases matched
  | cons holds classes ih =>
    cases t with
    | nil => cases matched
    | cons d t =>
      rw [fullmatch, Bool.and_eq_true] at matched
      rw [List.length_cons, List.length_cons, ih matched.2]

/-- A character that the patterns let through. -/
def IsClean (c : CodePoint) : Prop := Utf8.isSurrogate c = false ∧ 0x20 ≤ c.val

theorem cleanText_of_forall {n : Nat} {t : Text} (clean : ∀ c ∈ t, IsClean c) (short : 4 * t.length ≤ n) :
    CleanText n t :=
  ⟨fun c mem => (clean c mem).1, fun c mem => .inl (clean c mem).2, (Utf8.encodedSize_le t).trans short⟩

theorem isClean_of_val {c : CodePoint} (low : 0x20 ≤ c.val) (high : c.val < 0xD800) : IsClean c :=
  ⟨isSurrogate_of_small high, low⟩

theorem isClean_lowerHex {c : CodePoint} (hex : isLowerHex c = true) : IsClean c := by
  simp only [isLowerHex, isDigit, Bool.or_eq_true, Bool.and_eq_true, decide_eq_true_eq] at hex
  exact isClean_of_val (by omega) (by omega)

theorem isClean_exactly {a : Char} {c : CodePoint} (same : exactly a c = true) (low : 0x20 ≤ a.toNat)
    (high : a.toNat < 0xD800) : IsClean c := by
  obtain rfl := of_decide_eq_true same
  exact isClean_of_val low high

theorem isClean_uuid {u : Text} (uuid : isUuid u = true) : ∀ c ∈ u, IsClean c := by
  refine fullmatch_forall uuid fun holds mem c holds_ => ?_
  simp only [List.mem_append, List.mem_cons, List.mem_replicate] at mem
  obtain ⟨-, rfl⟩ | rfl | ⟨-, rfl⟩ | rfl | ⟨-, rfl⟩ | rfl | ⟨-, rfl⟩ | rfl | ⟨-, rfl⟩ := mem
  · exact isClean_lowerHex holds_
  · exact isClean_exactly holds_ (by decide) (by decide)
  · exact isClean_lowerHex holds_
  · exact isClean_exactly holds_ (by decide) (by decide)
  · exact isClean_lowerHex holds_
  · exact isClean_exactly holds_ (by decide) (by decide)
  · exact isClean_lowerHex holds_
  · exact isClean_exactly holds_ (by decide) (by decide)
  · exact isClean_lowerHex holds_

/-- An incident id takes at most 160 octets. -/
theorem cleanText_incidentId (id : IncidentId) : CleanText 160 id.val := by
  have matched := id.property
  rw [isIncidentId, Bool.and_eq_true, decide_eq_true_eq] at matched
  obtain ⟨start, uuid⟩ := matched
  have split := List.take_append_drop 4 id.val
  have length := congrArg List.length split
  rw [List.length_append, start, length_fullmatch uuid] at length
  refine cleanText_of_forall ?_ ?_
  · rw [← split, start]
    intro c mem
    obtain front | back := List.mem_append.mp mem
    · have known : ((text "INC-").all fun c => 0x20 ≤ c.val && c.val < 0x80) = true := by decide
      have inside := List.all_eq_true.mp known c front
      simp only [Bool.and_eq_true, decide_eq_true_eq] at inside
      exact isClean_of_val inside.1 (by omega)
    · exact isClean_uuid uuid c back
  · rw [← length]
    decide

theorem cleanText_sha256 (hash : Sha256) : CleanText 256 hash.val := by
  have matched := hash.property
  rw [isLowerSha256, Bool.and_eq_true, decide_eq_true_eq, List.all_eq_true] at matched
  obtain ⟨length, hex⟩ := matched
  exact cleanText_of_forall (fun c mem => isClean_lowerHex (hex c mem)) (by omega)

/-- A bounded text takes at most its bound. -/
theorem cleanText_bounded {maximum : Nat} (t : BoundedText maximum) : CleanText maximum t.val := by
  have bounded := t.property
  rw [isBounded, Bool.and_eq_true, Option.any_eq_true, List.all_eq_true] at bounded
  obtain ⟨⟨bytes, encoded, size⟩, controls⟩ := bounded
  simp only [Bool.and_eq_true, decide_eq_true_eq] at size
  refine ⟨Utf8.encode_isSome.mp (by rw [encoded]; rfl), ?_, ?_⟩
  · intro c mem
    simpa using controls c mem
  · rw [← Utf8.length_encode encoded]
    exact size.2

/-- The end of a timestamp is short and clean. -/
theorem isClean_timestampEnd {rt : Runtime} {t : Text} (matched : isTimestampEnd rt.digits t = true) :
    t.length ≤ 8 ∧ ∀ c ∈ t, IsClean c := by
  have mark : IsClean (CodePoint.ofChar 'Z') := isClean_of_val (by decide) (by decide)
  have dot : IsClean (CodePoint.ofChar '.') := isClean_of_val (by decide) (by decide)
  simp only [isTimestampEnd, Bool.or_eq_true, Bool.and_eq_true, decide_eq_true_eq, List.all_eq_true] at matched
  obtain rfl | ⟨⟨⟨⟨head, long⟩, short⟩, last⟩, digits⟩ := matched
  · refine ⟨by decide, fun c mem => ?_⟩
    obtain rfl : c = CodePoint.ofChar 'Z' := by simpa [text] using mem
    exact mark
  · refine ⟨short, fun c mem => ?_⟩
    cases t with
    | nil => cases mem
    | cons d t =>
      obtain rfl : d = CodePoint.ofChar '.' := by simpa using head
      obtain rfl | mem := List.mem_cons.mp mem
      · exact dot
      · have some_ : t ≠ [] := List.ne_nil_of_mem mem
        rw [List.getLast?_cons, List.getLast?_eq_getLast_of_ne_nil some_] at last
        rw [← List.dropLast_concat_getLast some_, List.mem_append] at mem
        obtain digit | final := mem
        · exact rt.digitsPlain c (digits c digit)
        · obtain rfl : c = CodePoint.ofChar 'Z' := by simpa using (List.mem_singleton.mp final).trans (by simpa using last)
          exact mark

/-- A timestamp takes at most 108 octets. -/
theorem cleanText_timestamp {rt : Runtime} (t : Timestamp rt.digits) : CleanText 108 t.val := by
  have matched := t.property
  rw [isTimestamp, Bool.and_eq_true] at matched
  obtain ⟨stamp, last⟩ := matched
  have split := List.take_append_drop 19 t.val
  obtain ⟨short, clean⟩ := isClean_timestampEnd last
  apply cleanText_of_forall
  · rw [← split]
    intro c mem
    obtain front | back := List.mem_append.mp mem
    · refine fullmatch_forall stamp (fun holds mem c holds_ => ?_) c front
      simp only [List.mem_append, List.mem_cons, List.mem_replicate] at mem
      obtain ⟨-, rfl⟩ | rfl | ⟨-, rfl⟩ | rfl | ⟨-, rfl⟩ | rfl | ⟨-, rfl⟩ | rfl | ⟨-, rfl⟩ | rfl | ⟨-, rfl⟩ := mem
      · exact rt.digitsPlain c holds_
      · exact isClean_exactly holds_ (by decide) (by decide)
      · exact rt.digitsPlain c holds_
      · exact isClean_exactly holds_ (by decide) (by decide)
      · exact rt.digitsPlain c holds_
      · exact isClean_exactly holds_ (by decide) (by decide)
      · exact rt.digitsPlain c holds_
      · exact isClean_exactly holds_ (by decide) (by decide)
      · exact rt.digitsPlain c holds_
      · exact isClean_exactly holds_ (by decide) (by decide)
      · exact rt.digitsPlain c holds_
    · exact clean c back
  · have length := congrArg List.length split
    rw [List.length_append, length_fullmatch stamp] at length
    simp only [List.length_append, List.length_cons, List.length_replicate] at length
    omega

/-- A value whose text is encoded in so many bytes. -/
structure Fits (n : Nat) (v : Json) : Prop where
  plain : Plain v
  short : size v ≤ n

/-- Members under keys of at most thirty bytes. -/
structure FitsMembers (n : Nat) (members : List (String × Json)) : Prop where
  plain : ∀ m ∈ members, Plain m.2
  short : (members.map fun m => 30 + 2 + size m.2).sum ≤ n

theorem Fits.mono {n k : Nat} {v : Json} (fits : Fits n v) (le : n ≤ k) : Fits k v := ⟨fits.plain, fits.short.trans le⟩

theorem fits_str {n : Nat} {t : Text} (clean : CleanText n t) : Fits (2 + 2 * n) (.str t) :=
  ⟨Json.plain_str.mpr clean.plain, (Json.size_str clean.noControls).trans (by have := clean.short; omega)⟩

theorem fits_bool (b : Bool) : Fits 5 (.bool b) := ⟨Json.plain_bool b, Json.size_bool b⟩

theorem fitsMembers_nil : FitsMembers 0 [] := ⟨by simp, Nat.le_refl 0⟩

/-- A member takes its key, its value and its separators. -/
theorem fitsMembers_cons {n k : Nat} {key : String} {v : Json} {members : List (String × Json)} (first : Fits n v)
    (rest : FitsMembers k members) : FitsMembers (32 + n + k) ((key, v) :: members) := by
  refine ⟨List.forall_mem_cons.mpr ⟨first.plain, rest.plain⟩, ?_⟩
  have one := first.short
  have others := rest.short
  rw [List.map_cons, List.sum_cons]
  dsimp only
  omega

/-- An object fits where its members do. -/
theorem fits_object {n : Nat} {members : List (String × Json)} (keys : List String) (named : members.map (·.1) = keys)
    (known : (keys.all fun key => Utf8.encodedSize (Json.dumpString (text key)) ≤ 30) = true)
    (inner : FitsMembers n members) : Fits (2 + n) (Json.object members) := by
  refine ⟨Json.plain_object.mpr inner.plain, ?_⟩
  have each : ∀ key ∈ members.map (·.1), Utf8.encodedSize (Json.dumpString (text key)) ≤ 30 := by
    rw [named]
    exact fun key mem => of_decide_eq_true (List.all_eq_true.mp known key mem)
  have total := Json.size_object each
  have short := inner.short
  omega

theorem IncidentPoint.json_fits (p : IncidentPoint) : Fits 121 p.json := by
  have index : Fits 5 (.nat p.index) :=
    ⟨Json.plain_nat _, Json.size_nat (k := 4) (by have := p.bounded; omega)⟩
  have type : Fits 50 (.str p.type.name) := by
    obtain _ | _ | _ | _ | _ := p.type <;> exact ⟨Json.plain_str.mpr (plainText_text _), by decide⟩
  exact fits_object ["index", "type"] rfl (by decide) (fitsMembers_cons index (fitsMembers_cons type fitsMembers_nil))

/-- The size of a command: at most 256 points. -/
theorem IncidentCommand.json_fits (c : IncidentCommand) : Fits 31920 c.json := by
  have operation : Fits 24 (.str c.operation.name) := by
    cases c.operation <;> exact ⟨Json.plain_str.mpr (plainText_text _), by decide⟩
  have payload : Fits 514 (.str c.payloadSha256.val) := fits_str (cleanText_sha256 c.payloadSha256)
  have points : Fits 31234 (.arr (c.points.map (·.json))) := by
    refine ⟨Json.plain_arr.mpr (List.forall_mem_map.mpr fun p _ => p.json_fits.plain), ?_⟩
    have sum : ((c.points.map (·.json)).map fun x => size x + 1).sum ≤ (c.points.map (·.json)).length * 122 := by
      refine (List.sum_le_card_nsmul _ 122 ?_).trans_eq ?_
      · intro n mem
        obtain ⟨x, inside, rfl⟩ := List.mem_map.mp mem
        obtain ⟨p, -, rfl⟩ := List.mem_map.mp inside
        exact Nat.succ_le_succ p.json_fits.short
      · simp
    have total := Json.size_arr (c.points.map (·.json))
    rw [List.length_map] at sum
    have counted := c.counted
    omega
  exact Fits.mono (fits_object ["operation", "payload_sha256", "points"] rfl (by decide)
    (fitsMembers_cons operation (fitsMembers_cons payload (fitsMembers_cons points fitsMembers_nil)))) (by decide)

theorem IncidentHostError.json_fits (e : IncidentHostError) : Fits 920 e.json :=
  Fits.mono (fits_object ["code", "execution_uncertain", "may_still_execute", "request_id"] rfl (by decide)
    (fitsMembers_cons (fits_str (cleanText_bounded e.code)) (fitsMembers_cons (fits_bool _) (fitsMembers_cons (fits_bool _)
      (fitsMembers_cons (fits_str (cleanText_bounded e.requestId)) fitsMembers_nil))))) (by decide)

/-- The size of an acknowledgment. -/
theorem Acknowledgment.json_fits {rt : Runtime} (a : Acknowledgment rt.digits) : Fits 17600 a.json :=
  Fits.mono (fits_object acknowledgmentFields rfl (by decide)
    (fitsMembers_cons (fits_str (cleanText_timestamp a.acknowledgedAt))
      (fitsMembers_cons (fits_str (cleanText_bounded a.acknowledgedBy))
        (fitsMembers_cons (fits_str (cleanText_bounded a.evidenceReference))
          (fitsMembers_cons (fits_str (cleanText_sha256 a.readbackPayloadSha256))
            (fitsMembers_cons (fits_str (cleanText_bounded a.readbackSummary)) fitsMembers_nil)))))) (by decide)

/-- An incident fits into the limit of a record. -/
theorem Incident.json_fits {rt : Runtime} (i : Incident rt.digits) : Fits 60000 i.json := by
  have action : Fits 100 (.str requiredAction) := ⟨Json.plain_str.mpr (plainText_text _), by decide⟩
  have version : Fits 5 i.schemaVersion.json := by
    cases i.schemaVersion with
    | int => exact ⟨Json.plain_int 1, by decide⟩
    | bool => exact fits_bool true
    | float => exact ⟨Json.plain_float one, by decide⟩
  have status : Fits 20 (.str i.status.name) := by
    cases i.status
    · exact ⟨Json.plain_str.mpr (plainText_text _), (by decide : size (.str (text "OPEN")) ≤ 20)⟩
    · exact ⟨Json.plain_str.mpr (plainText_text _), (by decide : size (.str (text "ACKNOWLEDGED")) ≤ 20)⟩
  have behind : FitsMembers 35000 i.members := by
    have members : FitsMembers _ i.members := fitsMembers_cons i.command.json_fits
      (fitsMembers_cons (fits_str (cleanText_timestamp i.createdAt))
        (fitsMembers_cons (fits_str (cleanText_sha256 i.dutIdentitySha256)) (fitsMembers_cons i.hostError.json_fits
          (fitsMembers_cons (fits_str (cleanText_incidentId i.incidentId)) (fitsMembers_cons action
            (fitsMembers_cons version (fitsMembers_cons status
              (fitsMembers_cons (fits_str (cleanText_timestamp i.updatedAt)) fitsMembers_nil))))))))
    exact ⟨members.plain, members.short.trans (by decide)⟩
  obtain ⟨version, incidentId, (_ | _) | a, created, updated, dut, command, error⟩ := i
  · exact Fits.mono (fits_object memberKeys rfl (by decide) behind) (by decide)
  · have null : Fits 4 .null := ⟨Json.plain_null, by decide⟩
    exact Fits.mono (fits_object ("acknowledgment" :: memberKeys) rfl (by decide) (fitsMembers_cons null behind))
      (by decide)
  · exact Fits.mono (fits_object ("acknowledgment" :: memberKeys) rfl (by decide)
      (fitsMembers_cons a.json_fits behind)) (by decide)

/-! ## The bytes of a record -/

def recordEnd : Byte := .ofNat 0x0A

/-- The bytes of a record. -/
def Incident.bytes (i : Incident digits) : List Byte := (recordBytes i).getD []

section
variable {rt : Runtime} (i : Incident rt.digits)

/-- Every incident can be written. -/
theorem Incident.encoded : ∃ octets, Utf8.encode (Json.dump i.json) = some octets ∧ i.bytes = octets ++ [recordEnd] ∧
    recordBytes i = some i.bytes := by
  obtain ⟨octets, encoded⟩ := Option.isSome_iff_exists.mp (Utf8.encode_isSome.mpr i.json_fits.plain)
  have bytes : recordBytes i = some (octets ++ [recordEnd]) := by
    rw [recordBytes, Json.canonical_of_sorted i.json_readable.sorted, encoded]
    rfl
  refine ⟨octets, encoded, ?_, ?_⟩
  · rw [Incident.bytes, bytes, Option.getD_some]
  · rw [Incident.bytes, bytes, Option.getD_some]

theorem recordBytes_eq : recordBytes i = some i.bytes := by
  obtain ⟨-, -, -, bytes⟩ := i.encoded
  exact bytes

/-- A record is never too large. -/
theorem Incident.bytes_short : i.bytes ≠ [] ∧ i.bytes.length ≤ maxIncidentBytes := by
  obtain ⟨octets, encoded, bytes, -⟩ := i.encoded
  have short := i.json_fits.short
  rw [size, ← Utf8.length_encode encoded] at short
  rw [bytes]
  refine ⟨by simp, ?_⟩
  rw [List.length_append, maxIncidentBytes]
  simp only [List.length_cons, List.length_nil]
  omega

/-- The text of the bytes. -/
theorem Incident.text_bytes : Utf8.encode (Json.dump i.json ++ [0x0A]) = some i.bytes := by
  obtain ⟨octets, encoded, bytes, -⟩ := i.encoded
  rw [bytes]
  exact Utf8.encode_append encoded rfl

/-- What is read from the start of a record is the record, and then all of its text is there. -/
theorem readRecord_start {front : List Byte} (starts : front <+: i.bytes) :
    readRecord rt front = .ok i ∧ (front = i.bytes ∨ front ++ [recordEnd] = i.bytes) ∨
      readRecord rt front = .error .invalid := by
  obtain ⟨back, whole⟩ := starts
  have short : ¬ maxIncidentBytes < front.length := by
    have size := i.bytes_short.2
    rw [← whole, List.length_append] at size
    omega
  by_cases empty : front = []
  · right
    rw [readRecord, if_pos (.inl empty)]
  cases decoded : Utf8.decode front with
  | none =>
    right
    rw [readRecord, if_neg (by simp [empty, short])]
    simp only [decoded]
  | some p =>
    have encoded := Utf8.encode_decode decoded
    obtain ⟨rest, text_, back_⟩ := Utf8.encode_split (by rw [whole]; exact i.text_bytes) encoded
    cases loaded : Json.loadsWithin rt.depth p with
    | error e =>
      right
      rw [readRecord, if_neg (by simp [empty, short])]
      simp only [decoded, loaded]
    | ok document =>
      obtain ⟨members, object⟩ : ∃ members, i.json = .obj members := ⟨_, rfl⟩
      have writable := i.json_readable.writable
      rw [object] at writable text_
      obtain ⟨same, more, all⟩ := Json.loads_start writable (r := [0x0A]) (by decide) text_.symm
        (Json.loadsWithin_ok_iff.mp loaded).1
      rw [← object] at same all text_
      left
      constructor
      · rw [readRecord, if_neg (by simp [empty, short])]
        simp only [decoded, loaded, same, validateIncident_json]
      · rw [all, List.append_assoc] at text_
        have tail : [0x0A] = more ++ rest := List.append_cancel_left text_
        cases more with
        | nil =>
          right
          obtain rfl : rest = [0x0A] := tail.symm
          have : back = [recordEnd] := (Option.some.inj back_).symm
          rw [← whole, this]
        | cons c more =>
          left
          obtain ⟨-, nothing⟩ := List.cons.inj tail
          obtain ⟨-, rfl⟩ := List.append_eq_nil_iff.mp nothing.symm
          obtain rfl := Option.some.inj back_
          rw [← whole, List.append_nil]

/-- What was written of an incident is read back as the same incident. -/
theorem readRecord_bytes : readRecord rt i.bytes = .ok i := by
  obtain ⟨octets, encoded, bytes, -⟩ := i.encoded
  have short := i.bytes_short
  have loaded : Json.loadsWithin rt.depth (Json.dump i.json ++ [0x0A]) = .ok i.json :=
    Json.loadsWithin_ok_iff.mpr
      ⟨Json.loads_dump i.json_readable.writable (by decide) (by decide), i.json_depth.trans rt.room⟩
  rw [readRecord, if_neg (by simp [short.1, short.2])]
  simp only [Utf8.decode_encode i.text_bytes, loaded, validateIncident_json]

end

end EmsDnp3.Python
