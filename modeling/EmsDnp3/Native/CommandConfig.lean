import EmsDnp3.Native.RequestConfig

/-!
# Command configuration

`CommandConfig.cpp`: the parameters of `select_and_operate` and `direct_operate`. A batch holds 1
to 256 commands of five types, and no two of one type and index.
-/

namespace EmsDnp3.Native

/-- The five command types. -/
inductive CommandKind where
  | crob
  | analogOutputInt16
  | analogOutputInt32
  | analogOutputFloat32
  | analogOutputDouble64
deriving DecidableEq, Repr

/-- `static_cast<int>(kind)` -/
def CommandKind.toNat : CommandKind → Nat
  | .crob => 0
  | .analogOutputInt16 => 1
  | .analogOutputInt32 => 2
  | .analogOutputFloat32 => 3
  | .analogOutputDouble64 => 4

/-- `command_kind_name` -/
def CommandKind.name : CommandKind → String
  | .crob => "crob"
  | .analogOutputInt16 => "analog_output_int16"
  | .analogOutputInt32 => "analog_output_int32"
  | .analogOutputFloat32 => "analog_output_float32"
  | .analogOutputDouble64 => "analog_output_double64"

/-- The operations of a control relay output block. -/
inductive CrobOperation where
  | null
  | pulseOn
  | pulseOff
  | latchOn
  | latchOff
deriving DecidableEq, Repr

/-- `crob_operation_name` -/
def CrobOperation.name : CrobOperation → String
  | .null => "null"
  | .pulseOn => "pulse_on"
  | .pulseOff => "pulse_off"
  | .latchOn => "latch_on"
  | .latchOff => "latch_off"

/-- The trip/close code of a control relay output block. -/
inductive TripCloseSelection where
  | null
  | close
  | trip
deriving DecidableEq, Repr

/-- `trip_close_name` -/
def TripCloseSelection.name : TripCloseSelection → String
  | .null => "null"
  | .close => "close"
  | .trip => "trip"

/-- `floatingValue` is the number that the `double` was read from. -/
structure CommandPoint where
  kind : CommandKind := .crob
  index : PointIndex := .ofNat 0
  crobOperation : CrobOperation := .latchOn
  tripClose : TripCloseSelection := .null
  clear : Bool := false
  count : Nat := 1
  onTimeMs : Nat := 100
  offTimeMs : Nat := 100
  integerValue : Int := 0
  floatingValue : Number := .int 0
deriving DecidableEq

/-- The parameters of the two command methods, with their defaults. -/
structure CommandConfig where
  safetyToken : Text
  timeoutMs : Nat := 10000
  noResponse : Bool := false
  commands : List CommandPoint
deriving DecidableEq

namespace Request

/-- A required integer within its bounds. -/
def readSigned (object : Json) (key : String) (field : Text) (minimum maximum : Int) : Except BackendError Int :=
  match object.get? key with
  | none => .error (invalidParameter field "missing_field" [])
  | some value =>
    match integer? value with
    | none => .error (invalidParameter field "invalid_type" [("expected", .str "integer")])
    | some n =>
      if n < minimum ∨ maximum < n then
        .error (invalidParameter field "out_of_range"
          [("minimum", .int minimum), ("maximum", .int maximum), ("received", .int n)])
      else .ok n

/-- The largest `float` and the largest `double`, as they are printed. -/
def maximumLit (single negative : Bool) : FloatLit where
  negative := negative
  whole := if single then 3 else 1
  fraction := ((if single then "4028234663852886" else "7976931348623157").toList.map fun c => Fin.ofNat 10 (c.toNat - 48))
  exponent := some (false, Fin.ofNat 10 3, if single then [Fin.ofNat 10 8] else [Fin.ofNat 10 0, Fin.ofNat 10 8])
  isFloat := .inr rfl

/-- The bound is the largest `float` if `single`, else the largest `double`. -/
def readFloating (object : Json) (key : String) (field : Text) (single : Bool) : Except BackendError Number :=
  match object.get? key with
  | none => .error (invalidParameter field "missing_field" [])
  | some value =>
    match Number.ofJson? value with
    | none => .error (invalidParameter field "invalid_type" [("expected", .str "number")])
    | some x =>
      if !x.isFinite || single && !x.fitsFloat then
        .error (invalidParameter field "out_of_range_or_non_finite"
          [("minimum", .float (maximumLit single true)), ("maximum", .float (maximumLit single false))])
      else .ok x

end Request

open Request (readString readBoolean readSigned readFloating)

/-- The operation of a protocol name. -/
def CrobOperation.ofName (name : Text) : Option CrobOperation :=
  if name = text "null" then some .null
  else if name = text "pulse_on" then some .pulseOn
  else if name = text "pulse_off" then some .pulseOff
  else if name = text "latch_on" then some .latchOn
  else if name = text "latch_off" then some .latchOff
  else none

/-- The trip/close code of a protocol name. -/
def TripCloseSelection.ofName (name : Text) : Option TripCloseSelection :=
  if name = text "null" then some .null
  else if name = text "close" then some .close
  else if name = text "trip" then some .trip
  else none

/-- The branches on an enumeration's name. -/
def readEnum {α : Type} (ofName : Text → Option α) (field name : Text) : Except BackendError α :=
  match ofName name with
  | some value => .ok value
  | none => .error (Request.invalidParameter field "unknown_enum" [])

def crobFields : List String :=
  ["type", "index", "operation", "trip_close", "clear", "count", "on_time_ms", "off_time_ms", "value"]

/-- A CROB command; it has no `value`. -/
def parseCrob (value : Json) (parent : Text) (command : CommandPoint) : Except BackendError CommandPoint := do
  Request.rejectUnknownFields value crobFields parent
  rejectIf (value.get? "value").isSome
    (Request.invalidParameter (memberPath parent "value") "field_not_allowed_for_crob" [])
  let operation ← readString value "operation" (memberPath parent "operation") [] true 1 32
  let crobOperation ← readEnum CrobOperation.ofName (memberPath parent "operation") operation
  let selection ← readString value "trip_close" (memberPath parent "trip_close") "null" false 1 16
  let tripClose ← readEnum TripCloseSelection.ofName (memberPath parent "trip_close") selection
  let clear ← readBoolean value "clear" (memberPath parent "clear") command.clear false
  let count ← Request.readUnsigned value "count" (memberPath parent "count") 1 255 command.count false
  let onTimeMs ←
    Request.readUnsigned value "on_time_ms" (memberPath parent "on_time_ms") 0 (2 ^ 32 - 1) command.onTimeMs false
  let offTimeMs ←
    Request.readUnsigned value "off_time_ms" (memberPath parent "off_time_ms") 0 (2 ^ 32 - 1) command.offTimeMs false
  return { command with crobOperation, tripClose, clear, count, onTimeMs, offTimeMs }

/-- An analog output command: its type, index and value. -/
def parseAnalog (value : Json) (parent : Text) (kind : CommandKind) (command : CommandPoint) :
    Except BackendError CommandPoint := do
  Request.rejectUnknownFields value ["type", "index", "value"] parent
  let command := { command with kind := kind }
  match kind with
  | .analogOutputInt16 =>
    return { command with
      integerValue := ← readSigned value "value" (memberPath parent "value") (-(2 ^ 15)) (2 ^ 15 - 1) }
  | .analogOutputInt32 =>
    return { command with
      integerValue := ← readSigned value "value" (memberPath parent "value") (-(2 ^ 31)) (2 ^ 31 - 1) }
  | .analogOutputFloat32 =>
    return { command with floatingValue := ← readFloating value "value" (memberPath parent "value") true }
  | _ => return { command with floatingValue := ← readFloating value "value" (memberPath parent "value") false }

/-- `command_identity` -/
def commandIdentity (command : CommandPoint) : Text :=
  Nat.repr command.kind.toNat ++ ":" ++ Nat.repr command.index.val

/-- The branches on `type`, with the command that the index is set in. -/
def parseTyped (type : Text) (value : Json) (parent : Text) (command : CommandPoint) : Except BackendError CommandPoint :=
  if type = text "crob" then parseCrob value parent { command with kind := .crob }
  else if type = text "analog_output_int16" then parseAnalog value parent .analogOutputInt16 command
  else if type = text "analog_output_int32" then parseAnalog value parent .analogOutputInt32 command
  else if type = text "analog_output_float32" then parseAnalog value parent .analogOutputFloat32 command
  else if type = text "analog_output_double64" then parseAnalog value parent .analogOutputDouble64 command
  else .error (Request.invalidParameter (memberPath parent "type") "unknown_enum" [])

/-- One command of the batch, before the check of its identity. -/
def parseCommand (ordinal : Nat) (value : Json) : Except BackendError (Text × CommandPoint) := do
  let parent := itemPath "commands" ordinal
  rejectIf (!value.isObj) (Request.invalidParameter parent "invalid_type" [("expected", .str "object")])
  let type ← readString value "type" (memberPath parent "type") [] true 1 64
  let index ← Request.readUnsigned value "index" (memberPath parent "index") 0 65535 0 true
  return (type, ← parseTyped type value parent { index := PointIndex.ofNat index })

/-- The loop of `parse_command_config` from command `ordinal`, with the identities before it. -/
def parseCommands : Nat → List Text → List Json → Except BackendError (List CommandPoint)
  | _, _, [] => .ok []
  | ordinal, identities, value :: values => do
    let (type, command) ← parseCommand ordinal value
    rejectIf (identities.contains (commandIdentity command))
      (Request.invalidParameter (itemPath "commands" ordinal) "duplicate_command_point"
        [("type", .str type), ("index", .nat command.index.val)])
    return command :: (← parseCommands (ordinal + 1) (commandIdentity command :: identities) values)

/-- Whether the request asks for no response. -/
def parseResponseMode (name : Text) : Except BackendError Bool :=
  if name = text "response" then .ok false
  else if name = text "no_response" then .ok true
  else .error (Request.invalidParameter "response_mode" "unknown_enum" [])

/-- `parse_command_config` on a default-initialised output. -/
def parseCommandConfig (params : Json) : Except BackendError CommandConfig := do
  Request.rejectUnknownFields params ["commands", "timeout_ms", "safety_token", "response_mode"] "params"
  let safetyToken ← readString params "safety_token" "safety_token" [] true 32 32
  rejectIf (!safetyToken.all isHexDigit) (Request.invalidParameter "safety_token" "invalid_hex_token" [])
  let timeoutMs ← Request.readUnsigned params "timeout_ms" "timeout_ms" 50 300000 10000 false
  let noResponse ← parseResponseMode (← readString params "response_mode" "response_mode" "response" false 1 32)
  let items ← (readArray params "commands" "commands").mapError Request.withMessage
  rejectIf (items = [] || 256 < items.length)
    (Request.invalidParameter "commands" "invalid_length"
      [("minimum", .nat 1), ("maximum", .nat 256), ("received", .nat items.length)])
  let commands ← parseCommands 0 [] items
  return { safetyToken, timeoutMs, noResponse, commands }

/-! ## Identities -/

/-- Commands have one identity exactly if they are of one kind and index. -/
theorem commandIdentity_inj {a b : CommandPoint} :
    commandIdentity a = commandIdentity b ↔ a.kind = b.kind ∧ a.index = b.index := by
  -- one digit, the colon, then the index
  have digit : ∀ kind : CommandKind, ∃ c, text (Nat.repr kind.toNat) = [c] ∧
      ∀ other : CommandKind, text (Nat.repr other.toNat) = [c] → other = kind := by
    intro kind
    cases kind with
    | crob => exact ⟨.ofChar '0', by decide, by intro other; cases other <;> decide⟩
    | analogOutputInt16 => exact ⟨.ofChar '1', by decide, by intro other; cases other <;> decide⟩
    | analogOutputInt32 => exact ⟨.ofChar '2', by decide, by intro other; cases other <;> decide⟩
    | analogOutputFloat32 => exact ⟨.ofChar '3', by decide, by intro other; cases other <;> decide⟩
    | analogOutputDouble64 => exact ⟨.ofChar '4', by decide, by intro other; cases other <;> decide⟩
  constructor
  · intro same
    obtain ⟨c, left, only⟩ := digit a.kind
    obtain ⟨d, right, -⟩ := digit b.kind
    simp only [commandIdentity, left, right, List.cons_append, List.nil_append, List.cons.injEq] at same
    obtain ⟨rfl, rest⟩ := same
    refine ⟨(only b.kind right).symm, Fin.ext (Nat.repr_injective (text_inj.mp ?_))⟩
    exact List.append_cancel_left rest
  · rintro ⟨kind, index⟩
    simp only [commandIdentity, kind, index]

/-- No two accepted commands have one identity. -/
theorem parseCommands_distinct {ordinal : Nat} {identities : List Text} {values : List Json} {commands : List CommandPoint}
    (parsed : parseCommands ordinal identities values = .ok commands) :
    commands.length = values.length ∧ (commands.map commandIdentity).Nodup ∧
      ∀ command ∈ commands, commandIdentity command ∉ identities := by
  induction values generalizing ordinal identities commands with
  | nil =>
    obtain rfl := Except.ok.inj parsed
    simp
  | cons value values ih =>
    obtain ⟨⟨type, command⟩, -, parsed⟩ := ok_bind_iff.mp parsed
    obtain ⟨_, fresh, parsed⟩ := ok_bind_iff.mp parsed
    obtain ⟨rest, further, parsed⟩ := ok_bind_iff.mp parsed
    obtain rfl := ok_pure_iff.mp parsed
    obtain ⟨length, distinct, new⟩ := ih further
    have fresh : commandIdentity command ∉ identities := by simpa using rejectIf_ok.mp fresh
    refine ⟨by simp [length], ?_, ?_⟩
    · refine List.nodup_cons.mpr ⟨?_, distinct⟩
      intro member
      obtain ⟨other, inside, same⟩ := List.mem_map.mp member
      exact new other inside (by simp [same])
    · intro other member
      rcases List.mem_cons.mp member with rfl | inside
      · exact fresh
      · exact fun old => new other inside (List.mem_cons_of_mem _ old)

/-- A batch: at least one command and at most 256, no two of one type and index. -/
structure CommandConfig.Valid (config : CommandConfig) : Prop where
  nonempty : config.commands ≠ []
  bounded : config.commands.length ≤ 256
  distinct : (config.commands.map fun c => (c.kind, c.index)).Nodup

/-- Accepted parameters are valid. -/
theorem parseCommandConfig_valid {params : Json} {config : CommandConfig} (parsed : parseCommandConfig params = .ok config) :
    config.Valid := by
  obtain ⟨-, -, parsed⟩ := ok_bind_iff.mp parsed
  obtain ⟨token, -, parsed⟩ := ok_bind_iff.mp parsed
  obtain ⟨-, -, parsed⟩ := ok_bind_iff.mp parsed
  obtain ⟨timeout, -, parsed⟩ := ok_bind_iff.mp parsed
  obtain ⟨mode, -, parsed⟩ := ok_bind_iff.mp parsed
  obtain ⟨noResponse, -, parsed⟩ := ok_bind_iff.mp parsed
  obtain ⟨items, -, parsed⟩ := ok_bind_iff.mp parsed
  obtain ⟨_, size, parsed⟩ := ok_bind_iff.mp parsed
  obtain ⟨commands, read, parsed⟩ := ok_bind_iff.mp parsed
  obtain rfl := ok_pure_iff.mp parsed
  obtain ⟨length, distinct, -⟩ := parseCommands_distinct read
  have size := rejectIf_ok.mp size
  simp only [Bool.or_eq_false_iff, decide_eq_false_iff_not, Nat.not_lt] at size
  refine ⟨?_, by rw [length]; exact size.2, ?_⟩
  · rintro rfl
    exact size.1 (List.length_eq_zero_iff.mp length.symm)
  · simp only [List.Nodup, List.pairwise_map] at distinct ⊢
    exact distinct.imp fun other same => other (commandIdentity_inj.mpr (Prod.mk.inj same))

end EmsDnp3.Native
