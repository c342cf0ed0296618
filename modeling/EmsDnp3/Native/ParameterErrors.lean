import EmsDnp3.Native.HostController

/-!
# The errors of request parameters can be sent

An error names a field by its path, which holds a key of the request where the key is unknown, and it
repeats some received strings. A request that was parsed is plain, and so is every error about it.
-/

namespace EmsDnp3.Native

/-- An error whose details can be written. -/
def BackendError.Plain (error : BackendError) : Prop := error.details.Plain

@[simp] theorem plain_invalidParameter {field : Text} {reason : String} {details : List (String × Json)} :
    (invalidParameter field reason details).Plain ↔ PlainText field ∧ ∀ m ∈ details, m.2.Plain := by
  unfold BackendError.Plain invalidParameter
  rw [Json.plain_object, List.forall_mem_append]
  simp [and_comm]

@[simp] theorem plain_requestInvalidParameter {field : Text} {reason : String} {details : List (String × Json)} :
    (Request.invalidParameter field reason details).Plain ↔ PlainText field ∧ ∀ m ∈ details, m.2.Plain :=
  plain_invalidParameter

@[simp] theorem plain_invalid {field : Text} {reason : String} : (TraceConfig.invalid field reason).Plain ↔ PlainText field := by
  simp [BackendError.Plain, TraceConfig.invalid]

theorem plainText_memberPath {parent key : Text} (first : PlainText parent) (second : PlainText key) :
    PlainText (memberPath parent key) := by
  unfold memberPath
  split <;> simp [first, second]

@[simp] theorem plainText_itemPath (parent : String) (index : Nat) : PlainText (itemPath parent index) := by
  simp [itemPath]

/-- The member of a plain parent that the code names. -/
theorem plainText_memberPath_text {parent : Text} (first : PlainText parent) (key : String) :
    PlainText (memberPath parent key) := plainText_memberPath first (plainText_text key)

/-! ## The readers -/

section
variable {object : Json} {key : String} {field : Text} (path : PlainText field)
include path

/-- The readers of single values quote nothing but the field. -/
theorem errors_readUnsigned {minimum maximum output : Nat} {required : Bool} :
    ErrorsAre BackendError.Plain (Native.readUnsigned object key field minimum maximum output required) := by
  unfold Native.readUnsigned
  split
  · split
    · exact errorsAre_error (by simp [path])
    · exact errorsAre_ok
  · split
    · exact errorsAre_error (by simp [path])
    · split
      · exact errorsAre_error (by simp [path])
      · exact errorsAre_ok

theorem errors_requestUnsigned {minimum maximum output : Nat} {required : Bool} :
    ErrorsAre BackendError.Plain (Request.readUnsigned object key field minimum maximum output required) :=
  errorsAre_mapError (errors_readUnsigned path)

theorem errors_readString {output : Text} {required : Bool} {minimum maximum : Nat} :
    ErrorsAre BackendError.Plain (Request.readString object key field output required minimum maximum) := by
  unfold Request.readString
  split
  · split
    · exact errorsAre_error (by simp [path])
    · exact errorsAre_ok
  · split
    · exact errorsAre_error (by simp [path])
    · exact errorsAre_ok
  · exact errorsAre_error (by simp [path])

theorem errors_readBoolean {output required : Bool} :
    ErrorsAre BackendError.Plain (Request.readBoolean object key field output required) := by
  unfold Request.readBoolean
  split
  · split
    · exact errorsAre_error (by simp [path])
    · exact errorsAre_ok
  · exact errorsAre_ok
  · exact errorsAre_error (by simp [path])

theorem errors_readSigned {minimum maximum : Int} :
    ErrorsAre BackendError.Plain (Request.readSigned object key field minimum maximum) := by
  unfold Request.readSigned
  split
  · exact errorsAre_error (by simp [path])
  · split
    · exact errorsAre_error (by simp [path])
    · split
      · exact errorsAre_error (by simp [path])
      · exact errorsAre_ok

theorem errors_readFloating {single : Bool} : ErrorsAre BackendError.Plain (Request.readFloating object key field single) := by
  unfold Request.readFloating
  split
  · exact errorsAre_error (by simp [path])
  · split
    · exact errorsAre_error (by simp [path])
    · split
      · exact errorsAre_error (by simp [path])
      · exact errorsAre_ok

theorem errors_readEnum {α : Type} {ofName : Text → Option α} {name : Text} :
    ErrorsAre BackendError.Plain (readEnum ofName field name) := by
  unfold readEnum
  split
  · exact errorsAre_ok
  · exact errorsAre_error (by simp [path])

theorem errors_readToken {maximum : Nat} : ErrorsAre BackendError.Plain (readToken object key field maximum) := by
  unfold readToken
  split
  · exact errorsAre_error (by simp [path])
  · split
    · exact errorsAre_ok
    · exact errorsAre_error (by simp [path])
  · exact errorsAre_error (by simp [path])

theorem errors_readArray : ErrorsAre BackendError.Plain (readArray object key field) := by
  unfold readArray
  split
  · exact errorsAre_error (by simp [path])
  · exact errorsAre_ok
  · exact errorsAre_error (by simp [path])

end

/-- The unknown key itself is in the path. -/
theorem errors_rejectUnknownFields {value : Json} {allowed : List String} {parent : Text} (path : PlainText parent)
    (plain : value.Plain) : ErrorsAre BackendError.Plain (Native.rejectUnknownFields value allowed parent) := by
  unfold Native.rejectUnknownFields
  split
  · next members =>
    split
    · next m found =>
      have member := List.mem_of_find?_eq_some found
      exact errorsAre_error (by simp [plainText_memberPath path (Json.plain_obj.mp plain m member).1])
    · exact errorsAre_ok
  · exact errorsAre_error (by simp [path])

/-- The unknown member is quoted as it stands in the request. -/
theorem errors_requestUnknownFields {value : Json} {allowed : List String} {parent : Text} (path : PlainText parent)
    (plain : value.Plain) : ErrorsAre BackendError.Plain (Request.rejectUnknownFields value allowed parent) := by
  unfold Request.rejectUnknownFields
  split
  · next key found =>
    have member := plain.keys (List.mem_of_find?_eq_some found)
    exact errorsAre_error (by simp [plainText_memberPath path member])
  · exact errorsAre_ok

/-- A string that was read is as plain as the request. -/
theorem plainText_readString {object : Json} {key : String} {field output value : Text} {required : Bool}
    {minimum maximum : Nat} (plain : object.Plain)
    (default_ : required = true ∨ PlainText output)
    (read : Request.readString object key field output required minimum maximum = .ok value) : PlainText value := by
  unfold Request.readString at read
  split at read
  · split at read
    · cases read
    · next optional =>
      obtain rfl := Except.ok.inj read
      exact default_.resolve_left optional
  · next received here =>
    split at read
    · cases read
    · obtain rfl := Except.ok.inj read
      exact Json.plain_str.mp (plain.get? here)
  · cases read

/-- A token is plain. -/
theorem plainText_readToken {object : Json} {key : String} {field value : Text} {maximum : Nat} (plain : object.Plain)
    (read : readToken object key field maximum = .ok value) : PlainText value := by
  unfold readToken at read
  split at read
  · cases read
  · next received here =>
    split at read
    · obtain rfl := Except.ok.inj read
      exact Json.plain_str.mp (plain.get? here)
    · cases read
  · cases read

/-- The items of a plain array are plain. -/
theorem plain_readArray {object : Json} {key : String} {field : Text} {items : List Json} (plain : object.Plain)
    (read : readArray object key field = .ok items) : ∀ item ∈ items, item.Plain := by
  unfold readArray at read
  split at read
  · cases read
  · next here =>
    obtain rfl := Except.ok.inj read
    exact Json.plain_arr.mp (plain.get? here)
  · cases read

/-! ## Connections -/

section
variable {params : Json} (plain : params.Plain)
include plain

/-- The parsers of `connect`, section by section. -/
theorem errors_parseRetry {output : ConnectionConfig} :
    ErrorsAre BackendError.Plain (ConnectionConfig.parseRetry params output) := by
  refine errorsAre_bind (errors_requestUnknownFields (by simp) plain) fun _ _ => ?_
  refine errorsAre_bind (errors_requestUnsigned (by simp)) fun _ _ => ?_
  refine errorsAre_bind (errors_requestUnsigned (by simp)) fun _ _ => ?_
  refine errorsAre_bind (errorsAre_rejectIf (by simp)) fun _ _ => ?_
  exact errorsAre_ok

theorem errors_parseLink {output : ConnectionConfig} :
    ErrorsAre BackendError.Plain (ConnectionConfig.parseLink params output) := by
  refine errorsAre_bind (errors_requestUnknownFields (by simp) plain) fun _ _ => ?_
  refine errorsAre_bind (errors_requestUnsigned (by simp)) fun _ _ => ?_
  refine errorsAre_bind (errors_requestUnsigned (by simp)) fun _ _ => ?_
  refine errorsAre_bind (errors_requestUnsigned (by simp)) fun _ _ => ?_
  refine errorsAre_bind (errorsAre_rejectIf (by simp)) fun _ _ => ?_
  exact errorsAre_ok

omit plain in
theorem errors_connectionString {key : String} {field output : Text} {required : Bool} {maximum : Nat}
    (path : PlainText field) :
    ErrorsAre BackendError.Plain (ConnectionConfig.readString params key field output required maximum) := by
  refine errorsAre_bind (errors_readString path) fun _ _ => ?_
  refine errorsAre_bind (errorsAre_rejectIf (by simp [path])) fun _ _ => ?_
  exact errorsAre_ok

theorem errors_parseSafety {output : ConnectionConfig} :
    ErrorsAre BackendError.Plain (ConnectionConfig.parseSafety params output) := by
  refine errorsAre_bind (errors_requestUnknownFields (by simp) plain) fun _ _ => ?_
  refine errorsAre_bind (errors_connectionString (by simp)) fun environment read => ?_
  have named : PlainText environment := by
    obtain ⟨value, inner, rest⟩ := ok_bind_iff.mp read
    obtain ⟨_, -, last⟩ := ok_bind_iff.mp rest
    obtain rfl := ok_pure_iff.mp last
    exact plainText_readString plain (.inl rfl) inner
  split
  · refine errorsAre_bind (errorsAre_rejectIf (by simp)) fun _ _ => ?_
    exact errorsAre_ok
  · refine errorsAre_bind (errorsAre_rejectIf (by simp [named])) fun _ _ => ?_
    refine errorsAre_bind (errors_readBoolean (by simp)) fun _ _ => ?_
    refine errorsAre_bind (errors_connectionString (by simp)) fun _ _ => ?_
    refine errorsAre_bind (errors_connectionString (by simp)) fun _ _ => ?_
    exact errorsAre_ok

omit plain in
theorem errors_requireObject {key : String} {field : Text} (path : PlainText field) :
    ErrorsAre BackendError.Plain (ConnectionConfig.requireObject params key field) := by
  unfold ConnectionConfig.requireObject
  split
  · exact errorsAre_ok
  · split
    · exact errorsAre_ok
    · exact errorsAre_error (by simp [path])

/-- A section of plain parameters is plain. -/
theorem plain_requireObject {key : String} {field : Text} {part : Json}
    (read : ConnectionConfig.requireObject params key field = .ok (some part)) : part.Plain := by
  unfold ConnectionConfig.requireObject at read
  split at read
  · cases read
  · next value here =>
    split at read
    · obtain rfl := Option.some.inj (Except.ok.inj read)
      exact plain.get? here
    · cases read

end

/-- A section that is absent raises nothing. -/
theorem errors_parsePart {parse : Json → ConnectionConfig → Except BackendError ConnectionConfig} {part : Option Json}
    {output : ConnectionConfig} (errors : ∀ value, part = some value → ErrorsAre BackendError.Plain (parse value output)) :
    ErrorsAre BackendError.Plain (ConnectionConfig.parsePart parse part output) := by
  cases part with
  | none => exact errorsAre_ok
  | some value => exact errors value rfl

/-- Every refusal of `connect` can be written. -/
theorem errors_parseConnectionConfig {params : Json} (plain : params.Plain) :
    ErrorsAre BackendError.Plain (parseConnectionConfig params) := by
  refine errorsAre_bind (errors_requestUnknownFields (by simp) plain) fun _ _ => ?_
  refine errorsAre_bind (errors_connectionString (by simp)) fun _ _ => ?_
  refine errorsAre_bind (errors_connectionString (by simp)) fun _ _ => ?_
  refine errorsAre_bind (errors_requestUnsigned (by simp)) fun _ _ => ?_
  refine errorsAre_bind (errors_requestUnsigned (by simp)) fun _ _ => ?_
  refine errorsAre_bind (errors_requireObject (by simp)) fun retry isRetry => ?_
  refine errorsAre_bind (errors_parsePart ?_) fun _ _ => ?_
  · rintro value rfl
    exact errors_parseRetry (plain_requireObject plain isRetry)
  refine errorsAre_bind (errors_requireObject (by simp)) fun link isLink => ?_
  refine errorsAre_bind (errors_parsePart ?_) fun _ _ => ?_
  · rintro value rfl
    exact errors_parseLink (plain_requireObject plain isLink)
  refine errorsAre_bind (errors_requireObject (by simp)) fun safety isSafety => ?_
  apply errors_parsePart
  rintro value rfl
  exact errors_parseSafety (plain_requireObject plain isSafety)

theorem errors_parseWaitEventConfig {params : Json} (plain : params.Plain) :
    ErrorsAre BackendError.Plain (parseWaitEventConfig params) := by
  refine errorsAre_bind (errors_requestUnknownFields (by simp) plain) fun _ _ => ?_
  refine errorsAre_bind (errors_requestUnsigned (by simp)) fun _ _ => ?_
  refine errorsAre_bind (errors_requestUnsigned (by simp)) fun _ _ => ?_
  exact errorsAre_ok

/-! ## Reads and event classes -/

section
variable {params : Json} (plain : params.Plain)
include plain

/-- The parsers of the read methods. -/
theorem errors_parseReturnMode {output : ReturnMode} :
    ErrorsAre BackendError.Plain (Request.parseReturnMode params output) := by
  unfold Request.parseReturnMode
  split
  · exact errorsAre_ok
  · next value here =>
    have received := Json.plain_str.mp (plain.get? here)
    split
    · exact errorsAre_ok
    · exact errorsAre_error (by simp [received])
  · exact errorsAre_error (by simp)

theorem errors_parseOptions {output : ReadOptions} : ErrorsAre BackendError.Plain (Request.parseOptions params output) := by
  refine errorsAre_bind (errors_requestUnsigned (by simp)) fun _ _ => ?_
  refine errorsAre_bind (errors_requestUnsigned (by simp)) fun _ _ => ?_
  refine errorsAre_bind (errors_parseReturnMode plain) fun _ _ => ?_
  exact errorsAre_ok

omit plain in
theorem errors_parseClassItems {items : List Json} {index : Nat} {mask : BitVec 8} :
    ErrorsAre BackendError.Plain (Request.parseClassItems index mask items) := by
  induction items generalizing index mask with
  | nil => exact errorsAre_ok
  | cons item rest ih =>
    unfold Request.parseClassItems
    split
    · exact errorsAre_error (by simp)
    · refine errorsAre_bind (errorsAre_rejectIf (by simp)) fun _ _ => ?_
      refine errorsAre_bind (errorsAre_rejectIf (by simp)) fun _ _ => ?_
      exact ih

omit plain in
theorem errors_parseEventClasses {output : BitVec 8} :
    ErrorsAre BackendError.Plain (Request.parseEventClasses params output) := by
  unfold Request.parseEventClasses
  split
  · exact errorsAre_ok
  · refine errorsAre_bind (errorsAre_rejectIf (by simp)) fun _ _ => ?_
    exact errors_parseClassItems
  · exact errorsAre_error (by simp)

theorem errors_parseReadOptions : ErrorsAre BackendError.Plain (parseReadOptions params) := by
  refine errorsAre_bind (errors_requestUnknownFields (by simp) plain) fun _ _ => ?_
  exact errors_parseOptions plain

theorem errors_parseClassPollConfig : ErrorsAre BackendError.Plain (parseClassPollConfig params) := by
  refine errorsAre_bind (errors_requestUnknownFields (by simp) plain) fun _ _ => ?_
  refine errorsAre_bind (errors_parseOptions plain) fun _ _ => ?_
  refine errorsAre_bind errors_parseEventClasses fun _ _ => ?_
  exact errorsAre_ok

theorem errors_parseUnsolicitedControlConfig : ErrorsAre BackendError.Plain (parseUnsolicitedControlConfig params) := by
  refine errorsAre_bind (errors_requestUnknownFields (by simp) plain) fun _ _ => ?_
  refine errorsAre_bind (errors_requestUnsigned (by simp)) fun _ _ => ?_
  refine errorsAre_bind errors_parseEventClasses fun _ _ => ?_
  exact errorsAre_ok

theorem errors_parseWaitUnsolicitedConfig : ErrorsAre BackendError.Plain (parseWaitUnsolicitedConfig params) := by
  refine errorsAre_bind (errors_requestUnknownFields (by simp) plain) fun _ _ => ?_
  refine errorsAre_bind (errors_requestUnsigned (by simp)) fun _ _ => ?_
  refine errorsAre_bind (errors_requestUnsigned (by simp)) fun _ _ => ?_
  exact errorsAre_ok

end

section
variable {value : Json} {parent name : Text} (path : PlainText parent)
include path

theorem errors_rejectFieldsForQualifier {keys : List String} (named : PlainText name) :
    ErrorsAre BackendError.Plain (Request.rejectFieldsForQualifier value parent name keys) := by
  induction keys with
  | nil => exact errorsAre_ok
  | cons key rest ih =>
    refine errorsAre_bind (errorsAre_rejectIf ?_) fun _ _ => ih
    simp [plainText_memberPath_text path, named]

theorem errors_parseQualified (named : PlainText name) :
    ErrorsAre BackendError.Plain (Request.parseQualified value parent name) := by
  have member := plainText_memberPath_text path
  have range : ∀ qualifier maximum,
      ErrorsAre BackendError.Plain (Request.parseRange value parent name qualifier maximum) := by
    intro qualifier maximum
    refine errorsAre_bind (errors_rejectFieldsForQualifier path named) fun _ _ => ?_
    refine errorsAre_bind (errors_requestUnsigned (member _)) fun _ _ => ?_
    refine errorsAre_bind (errors_requestUnsigned (member _)) fun _ _ => ?_
    refine errorsAre_bind (errorsAre_rejectIf (by simp [path])) fun _ _ => ?_
    exact errorsAre_ok
  have count : ∀ qualifier maximum,
      ErrorsAre BackendError.Plain (Request.parseCount value parent name qualifier maximum) := by
    intro qualifier maximum
    refine errorsAre_bind (errors_rejectFieldsForQualifier path named) fun _ _ => ?_
    refine errorsAre_bind (errors_requestUnsigned (member _)) fun _ _ => ?_
    exact errorsAre_ok
  unfold Request.parseQualified
  split
  · refine errorsAre_bind (errors_rejectFieldsForQualifier path named) fun _ _ => ?_
    exact errorsAre_ok
  split
  · exact range _ _
  split
  · exact range _ _
  split
  · exact count _ _
  split
  · exact count _ _
  · exact errorsAre_error (by simp [member, named])

/-- A qualifier that was read is a known name. -/
theorem errors_readQualifier (plain : value.Plain) : ErrorsAre BackendError.Plain (Request.readQualifier value parent) ∧
    ∀ name, Request.readQualifier value parent = .ok name → PlainText name := by
  have member := plainText_memberPath_text path
  unfold Request.readQualifier
  split
  · refine ⟨errorsAre_error (by simp [member]), ?_⟩
    intro name read
    cases read
  · next here =>
    refine ⟨errorsAre_ok, ?_⟩
    intro name read
    obtain rfl := Except.ok.inj read
    exact Json.plain_str.mp (plain.get? here)
  · refine ⟨errorsAre_error (by simp [member]), ?_⟩
    intro name read
    cases read

end

theorem errors_parseHeader {index : Nat} {value : Json} (plain : value.Plain) :
    ErrorsAre BackendError.Plain (Request.parseHeader index value) := by
  have path := plainText_itemPath "headers" index
  have member := plainText_memberPath_text path
  refine errorsAre_bind (errorsAre_rejectIf (by simp)) fun _ _ => ?_
  refine errorsAre_bind (errors_requestUnknownFields path plain) fun _ _ => ?_
  refine errorsAre_bind (errorsAre_rejectIf (by simp [member])) fun _ _ => ?_
  refine errorsAre_bind (errors_requestUnsigned (member _)) fun _ _ => ?_
  refine errorsAre_bind (errors_requestUnsigned (member _)) fun _ _ => ?_
  refine errorsAre_bind (errors_readQualifier path plain).1 fun name read => ?_
  refine errorsAre_bind (errors_parseQualified path ((errors_readQualifier path plain).2 name read)) fun _ _ => ?_
  refine errorsAre_bind (errorsAre_rejectIf (by simp [member])) fun _ _ => ?_
  exact errorsAre_ok

/-- The headers, one after another. -/
theorem errors_parseHeaders {items : List Json} {index : Nat} (plain : ∀ item ∈ items, item.Plain) :
    ErrorsAre BackendError.Plain (Request.parseHeaders index items) := by
  induction items generalizing index with
  | nil => exact errorsAre_ok
  | cons item rest ih =>
    obtain ⟨first, others⟩ := List.forall_mem_cons.mp plain
    refine errorsAre_bind (errors_parseHeader first) fun _ _ => ?_
    refine errorsAre_bind (ih others) fun _ _ => ?_
    exact errorsAre_ok

theorem plain_requestArray {params : Json} {key : String} {field : Text} {items : List Json} (plain : params.Plain)
    (read : (readArray params key field).mapError Request.withMessage = .ok items) : ∀ item ∈ items, item.Plain :=
  plain_readArray plain (mapError_ok_iff.mp read)

/-- Every refusal of `read` can be written. -/
theorem errors_parseReadConfig {params : Json} (plain : params.Plain) :
    ErrorsAre BackendError.Plain (parseReadConfig params) := by
  refine errorsAre_bind (errors_requestUnknownFields (by simp) plain) fun _ _ => ?_
  refine errorsAre_bind (errors_parseOptions plain) fun _ _ => ?_
  refine errorsAre_bind (errorsAre_mapError (errors_readArray (by simp))) fun items read => ?_
  refine errorsAre_bind (errorsAre_rejectIf (by simp)) fun _ _ => ?_
  refine errorsAre_bind (errors_parseHeaders (plain_requestArray plain read)) fun _ _ => ?_
  exact errorsAre_ok

/-! ## Commands -/

section
variable {value : Json} {parent : Text} (path : PlainText parent) (plain : value.Plain) {command : CommandPoint}
include path plain

/-- The parsers of the command methods. -/
theorem errors_parseCrob : ErrorsAre BackendError.Plain (parseCrob value parent command) := by
  have member := plainText_memberPath_text path
  refine errorsAre_bind (errors_requestUnknownFields path plain) fun _ _ => ?_
  refine errorsAre_bind (errorsAre_rejectIf (by simp [member])) fun _ _ => ?_
  refine errorsAre_bind (errors_readString (member _)) fun _ _ => ?_
  refine errorsAre_bind (errors_readEnum (member _)) fun _ _ => ?_
  refine errorsAre_bind (errors_readString (member _)) fun _ _ => ?_
  refine errorsAre_bind (errors_readEnum (member _)) fun _ _ => ?_
  refine errorsAre_bind (errors_readBoolean (member _)) fun _ _ => ?_
  refine errorsAre_bind (errors_requestUnsigned (member _)) fun _ _ => ?_
  refine errorsAre_bind (errors_requestUnsigned (member _)) fun _ _ => ?_
  refine errorsAre_bind (errors_requestUnsigned (member _)) fun _ _ => ?_
  exact errorsAre_ok

theorem errors_parseAnalog {kind : CommandKind} : ErrorsAre BackendError.Plain (parseAnalog value parent kind command) := by
  have member := plainText_memberPath_text path
  refine errorsAre_bind (errors_requestUnknownFields path plain) fun _ _ => ?_
  cases kind with
  | analogOutputInt16 =>
    refine errorsAre_bind (errors_readSigned (member _)) fun _ _ => ?_
    exact errorsAre_ok
  | analogOutputInt32 =>
    refine errorsAre_bind (errors_readSigned (member _)) fun _ _ => ?_
    exact errorsAre_ok
  | analogOutputFloat32 =>
    refine errorsAre_bind (errors_readFloating (member _)) fun _ _ => ?_
    exact errorsAre_ok
  | _ =>
    refine errorsAre_bind (errors_readFloating (member _)) fun _ _ => ?_
    exact errorsAre_ok

theorem errors_parseTyped {type : Text} : ErrorsAre BackendError.Plain (parseTyped type value parent command) := by
  unfold parseTyped
  split
  · exact errors_parseCrob path plain
  split
  · exact errors_parseAnalog path plain
  split
  · exact errors_parseAnalog path plain
  split
  · exact errors_parseAnalog path plain
  split
  · exact errors_parseAnalog path plain
  · exact errorsAre_error (by simp [plainText_memberPath_text path])

end

theorem errors_parseCommand {ordinal : Nat} {value : Json} (plain : value.Plain) :
    ErrorsAre BackendError.Plain (parseCommand ordinal value) := by
  have path := plainText_itemPath "commands" ordinal
  have member := plainText_memberPath_text path
  refine errorsAre_bind (errorsAre_rejectIf (by simp)) fun _ _ => ?_
  refine errorsAre_bind (errors_readString (member _)) fun _ _ => ?_
  refine errorsAre_bind (errors_requestUnsigned (member _)) fun _ _ => ?_
  refine errorsAre_bind (errors_parseTyped path plain) fun _ _ => ?_
  exact errorsAre_ok

/-- The received `type` is repeated in the error about a duplicate. -/
theorem plainText_parseCommand {ordinal : Nat} {value : Json} {type : Text} {command : CommandPoint} (plain : value.Plain)
    (read : parseCommand ordinal value = .ok (type, command)) : PlainText type := by
  obtain ⟨_, -, read⟩ := ok_bind_iff.mp read
  obtain ⟨name, isName, read⟩ := ok_bind_iff.mp read
  obtain ⟨_, -, read⟩ := ok_bind_iff.mp read
  obtain ⟨_, -, last⟩ := ok_bind_iff.mp read
  obtain ⟨rfl, -⟩ := Prod.mk.inj (ok_pure_iff.mp last)
  exact plainText_readString plain (.inl rfl) isName

theorem errors_parseCommands {values : List Json} {ordinal : Nat} {identities : List Text}
    (plain : ∀ value ∈ values, value.Plain) : ErrorsAre BackendError.Plain (parseCommands ordinal identities values) := by
  induction values generalizing ordinal identities with
  | nil => exact errorsAre_ok
  | cons value rest ih =>
    obtain ⟨first, others⟩ := List.forall_mem_cons.mp plain
    refine errorsAre_bind (errors_parseCommand first) fun ⟨type, command⟩ read => ?_
    refine errorsAre_bind (errorsAre_rejectIf (by simp [plainText_parseCommand first read])) fun _ _ => ?_
    refine errorsAre_bind (ih others) fun _ _ => ?_
    exact errorsAre_ok

theorem errors_parseResponseMode {name : Text} : ErrorsAre BackendError.Plain (parseResponseMode name) := by
  unfold parseResponseMode
  split
  · exact errorsAre_ok
  split
  · exact errorsAre_ok
  · exact errorsAre_error (by simp)

/-- Every refusal of a command can be written. -/
theorem errors_parseCommandConfig {params : Json} (plain : params.Plain) :
    ErrorsAre BackendError.Plain (parseCommandConfig params) := by
  refine errorsAre_bind (errors_requestUnknownFields (by simp) plain) fun _ _ => ?_
  refine errorsAre_bind (errors_readString (by simp)) fun _ _ => ?_
  refine errorsAre_bind (errorsAre_rejectIf (by simp)) fun _ _ => ?_
  refine errorsAre_bind (errors_requestUnsigned (by simp)) fun _ _ => ?_
  refine errorsAre_bind (errors_readString (by simp)) fun _ _ => ?_
  refine errorsAre_bind errors_parseResponseMode fun _ _ => ?_
  refine errorsAre_bind (errorsAre_mapError (errors_readArray (by simp))) fun items read => ?_
  refine errorsAre_bind (errorsAre_rejectIf (by simp)) fun _ _ => ?_
  refine errorsAre_bind (errors_parseCommands (plain_requestArray plain read)) fun _ _ => ?_
  exact errorsAre_ok

/-! ## Captures -/

/-- The parsers of the capture methods. -/
theorem errors_parseSourceItems {items : List Json} {index : Nat} {seen : List CaptureSource}
    (plain : ∀ item ∈ items, item.Plain) : ErrorsAre BackendError.Plain (parseSourceItems index seen items) := by
  induction items generalizing index seen with
  | nil => exact errorsAre_ok
  | cons item rest ih =>
    obtain ⟨first, others⟩ := List.forall_mem_cons.mp plain
    unfold parseSourceItems
    split
    · cases ‹_ :: _ = []›
    · next seen name items same =>
      obtain ⟨rfl, rfl⟩ := List.cons.inj same
      have received := Json.plain_str.mp first
      split
      · exact errorsAre_error (by simp [received])
      · split
        · exact errorsAre_error (by simp [received])
        · exact ih others
    · exact errorsAre_error (by simp)

/-- A kind that was accepted is a known one, so the ranges stay plain. -/
theorem errors_parsePointRange {index : Nat} {item : Json} (plain : item.Plain) :
    ErrorsAre BackendError.Plain (parsePointRange index item) ∧
      ∀ range, parsePointRange index item = .ok range → PlainText range.kind := by
  have path := plainText_itemPath "expected.point_ranges" index
  have member := plainText_memberPath_text path
  constructor
  · refine errorsAre_bind (errors_rejectUnknownFields path plain) fun _ _ => ?_
    refine errorsAre_bind (errors_readToken (member _)) fun kind read => ?_
    refine errorsAre_bind (errorsAre_rejectIf (by simp [member, plainText_readToken plain read])) fun _ _ => ?_
    refine errorsAre_bind (errors_readUnsigned (member _)) fun _ _ => ?_
    refine errorsAre_bind (errors_readUnsigned (member _)) fun _ _ => ?_
    split
    · exact errorsAre_ok
    · exact errorsAre_error (by simp)
  · intro range read
    obtain ⟨_, -, read⟩ := ok_bind_iff.mp read
    obtain ⟨kind, isKind, read⟩ := ok_bind_iff.mp read
    obtain ⟨_, -, read⟩ := ok_bind_iff.mp read
    obtain ⟨_, -, read⟩ := ok_bind_iff.mp read
    obtain ⟨_, -, last⟩ := ok_bind_iff.mp read
    split at last
    · obtain rfl := ok_pure_iff.mp last
      exact plainText_readToken plain isKind
    · cases last

theorem errors_parseRangeItems {items : List Json} {index total : Nat} (plain : ∀ item ∈ items, item.Plain) :
    ErrorsAre BackendError.Plain (parseRangeItems index total items) ∧
      ∀ ranges, parseRangeItems index total items = .ok ranges → ∀ range ∈ ranges, PlainText range.kind := by
  induction items generalizing index total with
  | nil =>
    refine ⟨errorsAre_ok, ?_⟩
    rintro _ ⟨⟩ range member
    cases member
  | cons item rest ih =>
    obtain ⟨first, others⟩ := List.forall_mem_cons.mp plain
    constructor
    · refine errorsAre_bind (errors_parsePointRange first).1 fun _ _ => ?_
      refine errorsAre_bind (errorsAre_rejectIf (by simp)) fun _ _ => ?_
      refine errorsAre_bind (ih others).1 fun _ _ => ?_
      exact errorsAre_ok
    · intro ranges read
      obtain ⟨range, isRange, read⟩ := ok_bind_iff.mp read
      obtain ⟨_, -, read⟩ := ok_bind_iff.mp read
      obtain ⟨more, isMore, last⟩ := ok_bind_iff.mp read
      obtain rfl := ok_pure_iff.mp last
      exact List.forall_mem_cons.mpr ⟨(errors_parsePointRange first).2 range isRange, (ih others).2 more isMore⟩

theorem errors_rejectOverlaps {ranges : List CapturePointRange} (plain : ∀ range ∈ ranges, PlainText range.kind) :
    ErrorsAre BackendError.Plain (rejectOverlaps ranges) := by
  induction ranges with
  | nil => exact errorsAre_ok
  | cons previous rest ih =>
    cases rest with
    | nil => exact errorsAre_ok
    | cons current rest =>
      obtain ⟨-, others⟩ := List.forall_mem_cons.mp plain
      unfold rejectOverlaps
      split
      · exact errorsAre_error (by simp [others current List.mem_cons_self])
      · exact ih others

theorem errors_parsePointRanges {expected : Json} (plain : expected.Plain) :
    ErrorsAre BackendError.Plain (parsePointRanges expected) := by
  refine errorsAre_bind (errors_rejectUnknownFields (by simp) plain) fun _ _ => ?_
  refine errorsAre_bind (errors_readArray (by simp)) fun items read => ?_
  refine errorsAre_bind (errorsAre_rejectIf (by simp)) fun _ _ => ?_
  have inner := plain_readArray plain read
  refine errorsAre_bind (errors_parseRangeItems inner).1 fun ranges isRanges => ?_
  refine errorsAre_bind (errors_rejectOverlaps ?_) fun _ _ => ?_
  · intro range member
    exact (errors_parseRangeItems inner).2 ranges isRanges range ((List.mem_insertionSort _).mp member)
  · exact errorsAre_ok

theorem errors_parseEventManifest {expected : Json} (plain : expected.Plain) :
    ErrorsAre BackendError.Plain (parseEventManifest expected) := by
  refine errorsAre_bind (errors_rejectUnknownFields (by simp) plain) fun _ _ => ?_
  split
  · exact errorsAre_error (by simp)
  next manifest here =>
  have inner := plain.get? here
  refine errorsAre_bind (errors_rejectUnknownFields (by simp) inner) fun _ _ => ?_
  refine errorsAre_bind (errors_readToken (by simp)) fun _ _ => ?_
  refine errorsAre_bind (errors_readToken (by simp)) fun _ _ => ?_
  refine errorsAre_bind (errors_readToken (by simp)) fun _ _ => ?_
  refine errorsAre_bind (errors_readUnsigned (by simp)) fun _ _ => ?_
  refine errorsAre_bind (errors_readUnsigned (by simp)) fun _ _ => ?_
  refine errorsAre_bind (errors_readUnsigned (by simp)) fun _ _ => ?_
  refine errorsAre_bind (errors_readUnsigned (by simp)) fun _ _ => ?_
  refine errorsAre_bind (errorsAre_rejectIf (by simp)) fun _ _ => ?_
  refine errorsAre_bind (errors_readToken (by simp)) fun _ _ => ?_
  refine errorsAre_bind (errorsAre_rejectIf (by simp)) fun _ _ => ?_
  refine errorsAre_bind (errors_readToken (by simp)) fun _ read => ?_
  refine errorsAre_bind (errorsAre_rejectIf (by simp [plainText_readToken inner read])) fun _ _ => ?_
  exact errorsAre_ok

theorem errors_parseMode {params : Json} (plain : params.Plain) : ErrorsAre BackendError.Plain (parseMode params) := by
  unfold parseMode
  split
  · exact errorsAre_error (by simp)
  · next name here =>
    have received := Json.plain_str.mp (plain.get? here)
    split
    · exact errorsAre_ok
    split
    · exact errorsAre_ok
    split
    · exact errorsAre_ok
    · exact errorsAre_error (by simp [received])
  · exact errorsAre_error (by simp)

/-- Every refusal of `capture.begin` can be written. -/
theorem errors_parseCaptureConfig {params : Json} (plain : params.Plain) :
    ErrorsAre BackendError.Plain (parseCaptureConfig params) := by
  refine errorsAre_bind (errors_rejectUnknownFields (by simp) plain) fun _ _ => ?_
  refine errorsAre_bind (errors_parseMode plain) fun _ _ => ?_
  refine errorsAre_bind ?_ fun _ _ => ?_
  · refine errorsAre_bind (errors_readArray (by simp)) fun items read => ?_
    refine errorsAre_bind (errorsAre_rejectIf (by simp)) fun _ _ => ?_
    exact errors_parseSourceItems (plain_readArray plain read)
  refine errorsAre_bind (errors_readUnsigned (by simp)) fun _ _ => ?_
  refine errorsAre_bind (errors_readUnsigned (by simp)) fun _ _ => ?_
  refine errorsAre_bind (errors_readUnsigned (by simp)) fun _ _ => ?_
  split
  · exact errorsAre_error (by simp)
  · exact errorsAre_ok
  · exact errorsAre_error (by simp)
  · next expected here _ =>
    refine errorsAre_bind (errorsAre_rejectIf (by simp)) fun _ _ => ?_
    refine errorsAre_bind (errors_parsePointRanges (plain.get? here)) fun _ _ => ?_
    exact errorsAre_ok
  · next expected here _ =>
    refine errorsAre_bind (errorsAre_rejectIf (by simp)) fun _ _ => ?_
    refine errorsAre_bind (errors_parseEventManifest (plain.get? here)) fun _ _ => ?_
    exact errorsAre_ok

theorem errors_parseCaptureReferenceConfig {params : Json} {acceptDrainTimeout : Bool} (plain : params.Plain) :
    ErrorsAre BackendError.Plain (parseCaptureReferenceConfig params acceptDrainTimeout) := by
  refine errorsAre_bind (errors_rejectUnknownFields (by simp) plain) fun _ _ => ?_
  refine errorsAre_bind (errors_readToken (by simp)) fun _ _ => ?_
  refine errorsAre_bind (errorsAre_rejectIf (by simp)) fun _ _ => ?_
  split
  · exact errorsAre_ok
  · refine errorsAre_bind (errors_readUnsigned (by simp)) fun _ _ => ?_
    exact errorsAre_ok

/-! ## Traces -/

/-- The parsers of the trace methods. -/
theorem errors_rejectUnknown {params : Json} {allowed : List String} (plain : params.Plain) :
    ErrorsAre BackendError.Plain (TraceConfig.rejectUnknown params allowed) := by
  unfold TraceConfig.rejectUnknown
  split
  · next members =>
    split
    · next m found =>
      have member := List.mem_of_find?_eq_some found
      exact errorsAre_error (by simp [(Json.plain_obj.mp plain m member).1])
    · exact errorsAre_ok
  · exact errorsAre_error (by simp)

theorem errors_readNumber {params : Json} {key : String} {minimum maximum value : Nat} :
    ErrorsAre BackendError.Plain (TraceConfig.readNumber params key minimum maximum value) := by
  unfold TraceConfig.readNumber
  split
  · exact errorsAre_ok
  split
  · exact errorsAre_error (by simp)
  split
  · exact errorsAre_error (by simp)
  · exact errorsAre_ok

theorem errors_readTraceId {params : Json} : ErrorsAre BackendError.Plain (TraceConfig.readTraceId params) := by
  unfold TraceConfig.readTraceId
  split
  · exact errorsAre_error (by simp)
  · split
    · exact errorsAre_ok
    · exact errorsAre_error (by simp)
  · exact errorsAre_error (by simp)

/-- Every refusal of `trace.start` can be written. -/
theorem errors_parseTraceStartConfig {params : Json} (plain : params.Plain) :
    ErrorsAre BackendError.Plain (parseTraceStartConfig params) := by
  refine errorsAre_bind (errors_rejectUnknown plain) fun _ _ => ?_
  refine errorsAre_bind errors_readNumber fun _ _ => ?_
  exact errorsAre_ok

theorem errors_parseTraceReferenceConfig {params : Json} {acceptReadOptions : Bool} (plain : params.Plain) :
    ErrorsAre BackendError.Plain (parseTraceReferenceConfig params acceptReadOptions) := by
  refine errorsAre_bind (errors_rejectUnknown plain) fun _ _ => ?_
  refine errorsAre_bind errors_readTraceId fun _ _ => ?_
  refine errorsAre_bind errors_readNumber fun _ _ => ?_
  refine errorsAre_bind errors_readNumber fun _ _ => ?_
  exact errorsAre_ok

/-! ## All of them -/

section
open HostController

variable {β : Type}

/-- The error of a call that is not made can be sent. -/
def SendsErrors (call : Option (Except BackendError (Operation β))) : Prop :=
  ∀ error, call = some (.error error) → error.Plain

theorem sendsErrors_ok {operation : Operation β} : SendsErrors (some (.ok operation)) := by
  intro error found
  cases found

/-- An operation on accepted parameters sends the errors of the parser. -/
theorem sendsErrors_map {α : Type} {x : Except BackendError α} {f : α → Operation β}
    (errors : ErrorsAre BackendError.Plain x) : SendsErrors (some (x.map f)) := by
  intro error found
  cases x with
  | error e =>
    obtain rfl := Except.error.inj (Option.some.inj found)
    exact errors e rfl
  | ok a => cases Option.some.inj found

theorem sendsErrors_ite {c : Prop} [Decidable c] {x y : Option (Except BackendError (Operation β))}
    (first : SendsErrors x) (second : SendsErrors y) : SendsErrors (if c then x else y) := by
  split
  · exact first
  · exact second

/-- The error of the parameters of any command of the backend can be sent. -/
theorem sendsErrors_backendCall {backend : IMasterBackend β} {request : Request} (plain : request.params.Plain) :
    SendsErrors (backendCall backend request) := by
  unfold backendCall
  refine sendsErrors_ite (sendsErrors_map (errors_parseConnectionConfig plain)) ?_
  refine sendsErrors_ite sendsErrors_ok ?_
  refine sendsErrors_ite (sendsErrors_map (errors_parseReadOptions plain)) ?_
  refine sendsErrors_ite (sendsErrors_map (errors_parseClassPollConfig plain)) ?_
  refine sendsErrors_ite (sendsErrors_map (errors_parseReadConfig plain)) ?_
  refine sendsErrors_ite (sendsErrors_map (errors_parseUnsolicitedControlConfig plain)) ?_
  refine sendsErrors_ite (sendsErrors_map (errors_parseUnsolicitedControlConfig plain)) ?_
  refine sendsErrors_ite (sendsErrors_map (errors_parseCommandConfig plain)) ?_
  refine sendsErrors_ite (sendsErrors_map (errors_parseCommandConfig plain)) ?_
  refine sendsErrors_ite (sendsErrors_map (errors_parseWaitEventConfig plain)) ?_
  refine sendsErrors_ite (sendsErrors_map (errors_parseWaitUnsolicitedConfig plain)) ?_
  refine sendsErrors_ite (sendsErrors_map (errors_parseCaptureConfig plain)) ?_
  refine sendsErrors_ite (sendsErrors_map (errors_parseTraceStartConfig plain)) ?_
  refine sendsErrors_ite (sendsErrors_map (errors_parseTraceReferenceConfig plain)) ?_
  refine sendsErrors_ite (sendsErrors_map (errors_parseTraceReferenceConfig plain)) ?_
  refine sendsErrors_ite (sendsErrors_map (errors_parseCaptureReferenceConfig plain)) ?_
  refine sendsErrors_ite (sendsErrors_map (errors_parseCaptureReferenceConfig plain)) ?_
  intro error found
  cases found

end

end EmsDnp3.Native
