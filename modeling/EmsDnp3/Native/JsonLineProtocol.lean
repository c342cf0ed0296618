import EmsDnp3.Base.Except
import EmsDnp3.Base.Source
import EmsDnp3.Json.Number
import EmsDnp3.Json.Plain
import EmsDnp3.Native.Models

/-!
# The line protocol of the host

`JsonLineProtocol.cpp`: one request per line. `read_line` takes the bytes up to the next LF, within the
limit; `parse_request` checks a line and turns it into a request; `serialize` writes a response. The JSON
parser of the library is a parameter: it gives the members of an object in the library's order, a repeated
key kept, and none where it throws.
-/

namespace EmsDnp3.Native

/-! ## Lines -/

/-- How reading a line ended. -/
inductive ReadLineStatus where
  | line
  | endOfFile
  | tooLarge
  | ioError
deriving DecidableEq, Repr

/-- A line that was read, or why there is none. -/
structure ReadLineResult where
  status : ReadLineStatus
  line : List Byte
deriving DecidableEq

def lineFeed : Byte := 0x0A
def carriageReturn : Byte := 0x0D

/-- What is known when the byte loop stops; `ended` tells the end of the input from an LF. -/
structure LineState where
  line : List Byte := []
  receivedAnything : Bool := false
  exceededLimit : Bool := false
  ended : Bool := false
deriving DecidableEq

/-- One byte of the line. -/
def LineState.push (maxRequestBytes : Nat) (state : LineState) (next : Byte) : LineState :=
  let state := { state with receivedAnything := true }
  if state.exceededLimit then state
  else if state.line.length ≤ maxRequestBytes then { state with line := state.line ++ [next] }
  else { state with exceededLimit := true, line := [] }

/-- The byte loop of `read_line`. -/
def readBytes (maxRequestBytes : Nat) (state : LineState) (input : Source Byte) : LineState × Source Byte :=
  match _taken : input.next with
  | none => ({ state with ended := true }, [])
  | some (next, rest) =>
    if next = lineFeed then ({ state with receivedAnything := true }, rest)
    else readBytes maxRequestBytes (state.push maxRequestBytes next) rest
termination_by input.contents.length
decreasing_by exact Source.next_shorter ‹_›

/-- `JsonLineProtocol::read_line` of a stream that never reports `bad`. -/
def readLine (maxRequestBytes : Nat) (input : Source Byte) : ReadLineResult × Source Byte :=
  let (state, rest) := readBytes maxRequestBytes {} input
  if state.ended && !state.receivedAnything then (⟨.endOfFile, []⟩, rest)
  else if state.exceededLimit then (⟨.tooLarge, []⟩, rest)
  else if maxRequestBytes < state.line.length then
    if state.line.length = maxRequestBytes + 1 ∧ state.line.getLast? = some carriageReturn then
      (⟨.line, state.line.dropLast⟩, rest)
    else (⟨.tooLarge, []⟩, rest)
  else if state.line.getLast? = some carriageReturn then (⟨.line, state.line.dropLast⟩, rest)
  else (⟨.line, state.line⟩, rest)

/-- Reading never adds to what is left. -/
theorem readBytes_le (maxRequestBytes : Nat) (state : LineState) (input : Source Byte) :
    (readBytes maxRequestBytes state input).2.contents.length ≤ input.contents.length := by
  induction state, input using readBytes.induct maxRequestBytes with
  | case1 state input taken =>
    rw [readBytes, taken]
    exact Nat.zero_le _
  | case2 state input rest taken =>
    rw [readBytes, taken]
    exact (Source.next_shorter taken).le
  | case3 state input next rest taken isByte ih =>
    rw [readBytes, taken]
    dsimp only
    rw [if_neg isByte]
    exact ih.trans (Source.next_shorter taken).le

/-- Only the end of the input takes no byte. -/
theorem readLine_shorter {maxRequestBytes : Nat} {input : Source Byte}
    (some_ : (readLine maxRequestBytes input).1.status ≠ .endOfFile) :
    (readLine maxRequestBytes input).2.contents.length < input.contents.length := by
  have rest : (readLine maxRequestBytes input).2 = (readBytes maxRequestBytes {} input).2 := by
    unfold readLine
    dsimp only
    repeat' split
    all_goals rfl
  rw [rest]
  cases taken : input.next with
  | none =>
    refine absurd ?_ some_
    rw [readLine, readBytes, taken]
    rfl
  | some pair =>
    obtain ⟨next, after⟩ := pair
    have shorter := Source.next_shorter taken
    rw [readBytes, taken]
    dsimp only
    split
    · exact shorter
    · exact (readBytes_le _ _ _).trans_lt shorter

/-- The lines that the request loop reads until the input ends. -/
def readLines (maxRequestBytes : Nat) (input : Source Byte) : List ReadLineResult :=
  if _more : (readLine maxRequestBytes input).1.status = .endOfFile then []
  else (readLine maxRequestBytes input).1 :: readLines maxRequestBytes (readLine maxRequestBytes input).2
termination_by input.contents.length
decreasing_by exact readLine_shorter ‹_›

/-! ## Requests -/

def kMaxJsonDepth : Nat := 64
def kMaxRequestIdBytes : Nat := 128
def kMaxCommandBytes : Nat := 64

/-- A request that was read. -/
structure Request where
  id : Text
  command : Text
  params : Json
deriving DecidableEq

def invalidRequest (id : Option Text) (message reason : String) (details : List (String × Json)) : ProtocolError :=
  ⟨id, .invalidRequest, message, .object (details ++ [("reason", .str reason)])⟩

/-- The number of continuation bytes, the bits of the lead byte and the least code point of its length. -/
def leadByte (first : Byte) : Option (Nat × Nat × Nat) :=
  if first.val / 32 = 0x06 then some (1, first.val % 32, 0x80)
  else if first.val / 16 = 0x0E then some (2, first.val % 16, 0x800)
  else if first.val / 8 = 0x1E then some (3, first.val % 8, 0x10000)
  else none

/-- The loop of `is_valid_utf8`, at most one turn a byte. -/
def validUtf8From : Nat → List Byte → Bool
  | _, [] => true
  | 0, _ :: _ => false
  | fuel + 1, first :: rest =>
    if first.val ≤ 0x7F then validUtf8From fuel rest
    else
      match leadByte first with
      | none => false
      | some (continuationCount, bits, minimum) =>
        let continuation := rest.take continuationCount
        let codePoint := continuation.foldl (fun point next => 64 * point + next.val % 64) bits
        if continuation.length < continuationCount ∨ ¬ ∀ next ∈ continuation, next.val / 64 = 2 then false
        else if codePoint < minimum ∨ 0x10FFFF < codePoint ∨ (0xD800 ≤ codePoint ∧ codePoint ≤ 0xDFFF) then false
        else validUtf8From fuel (rest.drop continuationCount)

def isValidUtf8 (input : List Byte) : Bool := validUtf8From input.length input

/-- The loop of `exceeds_json_depth`. -/
def depthExceeded (maximum : Nat) : (inString escaped : Bool) → (depth : Nat) → List Byte → Bool
  | _, _, _, [] => false
  | true, true, depth, _ :: rest => depthExceeded maximum true false depth rest
  | true, false, depth, character :: rest =>
    if character = 0x5C then depthExceeded maximum true true depth rest
    else depthExceeded maximum (character ≠ 0x22) false depth rest
  | false, escaped, depth, character :: rest =>
    if character = 0x22 then depthExceeded maximum true escaped depth rest
    else if character = 0x7B ∨ character = 0x5B then
      if maximum < depth + 1 then true else depthExceeded maximum false escaped (depth + 1) rest
    else if (character = 0x7D ∨ character = 0x5D) ∧ 0 < depth then
      depthExceeded maximum false escaped (depth - 1) rest
    else depthExceeded maximum false escaped depth rest

def exceedsJsonDepth (input : List Byte) (maximum : Nat) : Bool := depthExceeded maximum false false 0 input

mutual

/-- What the parser callback reports: some object of the document repeats a key. -/
def hasRepeatedKey : Json → Bool
  | .arr items => repeatedInItems items
  | .obj members => !decide (members.map (·.1)).Nodup || repeatedInMembers members
  | _ => false

/-- The key is repeated in one of the items. -/
def repeatedInItems : List Json → Bool
  | [] => false
  | x :: rest => hasRepeatedKey x || repeatedInItems rest

/-- The key is repeated in one of the values. -/
def repeatedInMembers : List (Text × Json) → Bool
  | [] => false
  | (_, x) :: rest => hasRepeatedKey x || repeatedInMembers rest

end

mutual

/-- An integer beyond 64 bits is a double too. -/
def containsNonFiniteNumber : Json → Bool
  | .int n => (integer? (.int n)).isNone && !(Number.int n).isFinite
  | .float x => !x.isFinite
  | .arr items => nonFiniteInItems items
  | .obj members => nonFiniteInMembers members
  | _ => false

/-- One of the items holds an infinite number. -/
def nonFiniteInItems : List Json → Bool
  | [] => false
  | x :: rest => containsNonFiniteNumber x || nonFiniteInItems rest

/-- One of the values holds an infinite number. -/
def nonFiniteInMembers : List (Text × Json) → Bool
  | [] => false
  | (_, x) :: rest => containsNonFiniteNumber x || nonFiniteInMembers rest

end

def isTokenCharacter (allowColon : Bool) (c : CodePoint) : Bool :=
  (0x61 ≤ c.val && c.val ≤ 0x7A) || (0x41 ≤ c.val && c.val ≤ 0x5A) || (0x30 ≤ c.val && c.val ≤ 0x39)
    || c = CodePoint.ofChar '.' || c = CodePoint.ofChar '_' || c = CodePoint.ofChar '-'
    || (allowColon && c = CodePoint.ofChar ':')

/-- A token is not empty, bounded and made of token characters. -/
def isValidAsciiToken (value : Text) (maximum : Nat) (allowColon : Bool) : Bool :=
  !value.isEmpty && value.length ≤ maximum && value.all (isTokenCharacter allowColon)

/-- The id that an error names: only one that a request may have. -/
def candidateId (parsed : Json) : Option Text :=
  match parsed.get? "id" with
  | some (.str id) => if isValidAsciiToken id kMaxRequestIdBytes true then some id else none
  | _ => none

def requestFields : List String := ["schema_version", "id", "cmd", "params"]

/-- Any other member is refused. -/
def checkFields (parsed : Json) : Except ProtocolError Unit :=
  match parsed.keys.find? fun key => !(requestFields.map text).contains key with
  | some key => .error (invalidRequest (candidateId parsed) "request contains an unknown top-level field" "unknown_field"
      [("field", .str key)])
  | none =>
    match requestFields.find? fun required => (parsed.get? (text required)).isNone with
    | some required => .error (invalidRequest (candidateId parsed) "request is missing a required field" "missing_field"
        [("field", .str required)])
    | none => .ok ()

/-- The one schema version that is supported. -/
def checkSchema (parsed : Json) : Except ProtocolError Unit :=
  match (parsed.get? "schema_version").bind integer? with
  | none => .error (invalidRequest (candidateId parsed) "schema_version must be an integer" "invalid_schema_type" [])
  | some version =>
    if version = 1 then .ok ()
    else .error ⟨candidateId parsed, .schemaMismatch, "request schema version is not supported",
      .object [("expected", .nat 1), ("received", .int version)]⟩

/-- A member that is a token. -/
def readTokenMember (parsed : Json) (key : String) (maximum : Nat) (allowColon : Bool) (error : ProtocolError) :
    Except ProtocolError Text :=
  match parsed.get? key with
  | some (.str value) => if isValidAsciiToken value maximum allowColon then .ok value else .error error
  | _ => .error error

/-- `parse_request` from the parsed document on. -/
def readRequest (parsed : Json) : Except ProtocolError Request := do
  rejectIf (hasRepeatedKey parsed) (invalidRequest none "duplicate JSON object keys are not allowed" "duplicate_key" [])
  rejectIf (containsNonFiniteNumber parsed)
    (invalidRequest none "non-finite JSON numbers are not allowed" "non_finite_number" [])
  rejectIf (!parsed.isObj) (invalidRequest none "request root must be an object" "root_not_object" [])
  checkFields parsed
  checkSchema parsed
  let id ← readTokenMember parsed "id" kMaxRequestIdBytes true
    (invalidRequest none "request id is invalid" "invalid_id" [])
  let command ← readTokenMember parsed "cmd" kMaxCommandBytes false
    (invalidRequest (candidateId parsed) "request command is invalid" "invalid_command" [])
  match parsed.get? "params" with
  | some (.obj members) => return { id, command, params := .obj members }
  | _ => .error (invalidRequest (candidateId parsed) "params must be an object" "invalid_params" [])

/-- `JsonLineProtocol::parse_request` -/
def parseRequest (parse : List Byte → Option Json) (line : List Byte) : Except ProtocolError Request := do
  rejectIf line.isEmpty (invalidRequest none "request line must not be empty" "empty_line" [])
  rejectIf (line.take 3 = [0xEF, 0xBB, 0xBF])
    (invalidRequest none "UTF-8 byte order marks are not allowed" "utf8_bom" [])
  rejectIf (!isValidUtf8 line) (invalidRequest none "request is not valid UTF-8" "invalid_utf8" [])
  rejectIf (exceedsJsonDepth line kMaxJsonDepth)
    (invalidRequest none "JSON nesting exceeds the configured limit" "json_too_deep" [])
  match parse line with
  | none => .error (invalidRequest none "request is not valid JSON" "invalid_json" [])
  | some parsed => readRequest parsed

/-- `JsonLineProtocol::serialize`; `none` where the strict error handler throws. -/
def JsonLineProtocol.serialize (value : Json) : Option (List Byte) := Utf8.encode value.dump

/-! ## What can be written -/

theorem serialize_isSome {value : Json} : (JsonLineProtocol.serialize value).isSome = true ↔ value.Plain := Utf8.encode_isSome

/-- A success response is written exactly if its result can be. -/
theorem plain_successResponse {id : Text} {result : Json} :
    (successResponse id result).Plain ↔ PlainText id ∧ result.Plain := by
  simp [successResponse]

/-- An error that can be written. -/
def ProtocolError.Plain (error : ProtocolError) : Prop := (errorResponse error).Plain

/-- An error response is written exactly if its details can be. -/
theorem plain_errorResponse {error : ProtocolError} :
    error.Plain ↔ (∀ id ∈ error.id, PlainText id) ∧ error.error.details.Plain := by
  simp [ProtocolError.Plain, errorResponse]

/-- A token is ASCII. -/
theorem plainText_of_token {value : Text} {maximum : Nat} {allowColon : Bool}
    (token : isValidAsciiToken value maximum allowColon = true) : PlainText value := by
  intro c member
  simp only [isValidAsciiToken, Bool.and_eq_true, List.all_eq_true] at token
  have letter := token.2 c member
  have dot : (CodePoint.ofChar '.').val = 0x2E := by decide
  have underscore : (CodePoint.ofChar '_').val = 0x5F := by decide
  have dash : (CodePoint.ofChar '-').val = 0x2D := by decide
  have colon : (CodePoint.ofChar ':').val = 0x3A := by decide
  apply isSurrogate_of_small
  simp only [isTokenCharacter, Bool.or_eq_true, Bool.and_eq_true, decide_eq_true_eq] at letter
  rcases letter with ((((((⟨-, small⟩ | ⟨-, small⟩) | ⟨-, small⟩) | same) | same) | same) | ⟨-, same⟩)
  · omega
  · omega
  · omega
  · rw [same, dot]; decide
  · rw [same, underscore]; decide
  · rw [same, dash]; decide
  · rw [same, colon]; decide

/-- An id is a token, so it can be written. -/
theorem plainText_candidateId {parsed : Json} : ∀ id ∈ candidateId parsed, PlainText id := by
  intro id named
  unfold candidateId at named
  split at named
  · split at named
    · next token =>
      obtain rfl := Option.some.inj named
      exact plainText_of_token token
    · cases named
  · cases named

/-- What can go into a response, of a request and of the error that stands for one. -/
structure Request.Plain (request : Request) : Prop where
  id : PlainText request.id
  command : PlainText request.command
  params : request.params.Plain

/-- An invalid request with plain details can be written. -/
theorem plain_invalidRequest {id : Option Text} {message reason : String} {details : List (String × Json)}
    (named : ∀ t ∈ id, PlainText t) (plain : ∀ m ∈ details, m.2.Plain) :
    (invalidRequest id message reason details).Plain := by
  apply plain_errorResponse.mpr
  refine ⟨named, ?_⟩
  apply Json.plain_object.mpr
  intro m member
  rcases List.mem_append.mp member with given | last
  · exact plain m given
  · rw [List.mem_singleton.mp last]
    simp

/-- The key that is quoted comes from the request itself. -/
theorem errors_checkFields {parsed : Json} (plain : parsed.Plain) :
    ErrorsAre ProtocolError.Plain (checkFields parsed) := by
  unfold checkFields
  split
  · next key found =>
    apply errorsAre_error
    apply plain_invalidRequest plainText_candidateId
    simpa using plain.keys (List.mem_of_find?_eq_some found)
  · split
    · apply errorsAre_error
      apply plain_invalidRequest plainText_candidateId
      simp
    · exact errorsAre_ok

/-- The error of `schema_version` quotes nothing. -/
theorem errors_checkSchema {parsed : Json} : ErrorsAre ProtocolError.Plain (checkSchema parsed) := by
  unfold checkSchema
  split
  · exact errorsAre_error (plain_invalidRequest plainText_candidateId (by simp))
  · split
    · exact errorsAre_ok
    · apply errorsAre_error
      apply plain_errorResponse.mpr
      exact ⟨plainText_candidateId, by simp⟩

/-- The error of a token member is the given one. -/
theorem errors_readTokenMember {parsed : Json} {key : String} {maximum : Nat} {allowColon : Bool}
    {error : ProtocolError} (plain : error.Plain) :
    ErrorsAre ProtocolError.Plain (readTokenMember parsed key maximum allowColon error) := by
  unfold readTokenMember
  split
  · split
    · exact errorsAre_ok
    · exact errorsAre_error plain
  · exact errorsAre_error plain

/-- A token that was read is one. -/
theorem readTokenMember_ok {parsed : Json} {key : String} {maximum : Nat} {allowColon : Bool} {error : ProtocolError}
    {value : Text} (read : readTokenMember parsed key maximum allowColon error = .ok value) :
    isValidAsciiToken value maximum allowColon = true := by
  unfold readTokenMember at read
  split at read
  · split at read
    · next token =>
      obtain rfl := Except.ok.inj read
      exact token
    · cases read
  · cases read

/-- Every error of `read_request` can be written. -/
theorem errors_readRequest {parsed : Json} (plain : parsed.Plain) :
    ErrorsAre ProtocolError.Plain (readRequest parsed) := by
  have bare : ∀ message reason, (invalidRequest none message reason []).Plain := by
    intro message reason
    exact plain_invalidRequest (by simp) (by simp)
  have named : ∀ message reason, (invalidRequest (candidateId parsed) message reason []).Plain := by
    intro message reason
    exact plain_invalidRequest plainText_candidateId (by simp)
  apply errorsAre_bind (errorsAre_rejectIf (bare _ _)); intro _ _
  apply errorsAre_bind (errorsAre_rejectIf (bare _ _)); intro _ _
  apply errorsAre_bind (errorsAre_rejectIf (bare _ _)); intro _ _
  apply errorsAre_bind (errors_checkFields plain); intro _ _
  apply errorsAre_bind errors_checkSchema; intro _ _
  apply errorsAre_bind (errors_readTokenMember (bare _ _)); intro id _
  apply errorsAre_bind (errors_readTokenMember (named _ _)); intro command _
  split
  · exact errorsAre_ok
  · exact errorsAre_error (named _ _)

/-- What is read of a plain object is plain. -/
theorem readRequest_ok {parsed : Json} {request : Request} (plain : parsed.Plain)
    (read : readRequest parsed = .ok request) : request.Plain := by
  obtain ⟨_, -, read⟩ := ok_bind_iff.mp read
  obtain ⟨_, -, read⟩ := ok_bind_iff.mp read
  obtain ⟨_, -, read⟩ := ok_bind_iff.mp read
  obtain ⟨_, -, read⟩ := ok_bind_iff.mp read
  obtain ⟨_, -, read⟩ := ok_bind_iff.mp read
  obtain ⟨id, isId, read⟩ := ok_bind_iff.mp read
  obtain ⟨command, isCommand, last⟩ := ok_bind_iff.mp read
  split at last
  · next members here =>
    obtain rfl := ok_pure_iff.mp last
    exact ⟨plainText_of_token (readTokenMember_ok isId), plainText_of_token (readTokenMember_ok isCommand),
      plain.get? here⟩
  · cases last

section
variable {parse : List Byte → Option Json} {line : List Byte}
  (utf8 : ∀ bytes document, parse bytes = some document → document.Plain)
include utf8

/-- The error that answers a bad line can always be written. -/
theorem errors_parseRequest : ErrorsAre ProtocolError.Plain (parseRequest parse line) := by
  have bare : ∀ message reason, (invalidRequest none message reason []).Plain := by
    intro message reason
    exact plain_invalidRequest (by simp) (by simp)
  apply errorsAre_bind (errorsAre_rejectIf (bare _ _)); intro _ _
  apply errorsAre_bind (errorsAre_rejectIf (bare _ _)); intro _ _
  apply errorsAre_bind (errorsAre_rejectIf (bare _ _)); intro _ _
  apply errorsAre_bind (errorsAre_rejectIf (bare _ _)); intro _ _
  split
  · exact errorsAre_error (bare _ _)
  · next parsed found => exact errors_readRequest (utf8 line parsed found)

/-- A request that was parsed is plain. -/
theorem parseRequest_ok {request : Request} (read : parseRequest parse line = .ok request) : request.Plain := by
  obtain ⟨_, -, read⟩ := ok_bind_iff.mp read
  obtain ⟨_, -, read⟩ := ok_bind_iff.mp read
  obtain ⟨_, -, read⟩ := ok_bind_iff.mp read
  obtain ⟨_, -, last⟩ := ok_bind_iff.mp read
  split at last
  · cases last
  · next parsed found => exact readRequest_ok (utf8 line parsed found) last

end

end EmsDnp3.Native
