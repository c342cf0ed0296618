import EmsDnp3.Native.CommandConfig
import EmsDnp3.Native.ConnectionConfig
import EmsDnp3.Native.ReadConfig
import EmsDnp3.Python.Requests

/-!
# The host reads requests as the client wrote them

Each model of the client is sent to the structure of the host that carries the same values, and the
parser of the host yields that structure on the parameters of the model.
-/

namespace EmsDnp3

open Native.Request (readUnsigned readUnsigned_ok rejectUnknownFields_object)

/-! ## Connection -/

/-- Printable text has one octet a character. -/
theorem byteSize_printable {value : Text} (printable : Python.isPrintable value = true) :
    Native.Request.byteSize value = value.length := by
  have encoded := Python.encodedLength_printable printable
  unfold Python.encodedLength at encoded
  split at encoded
  · next bytes eq =>
    rw [Native.Request.byteSize, eq, Option.getD_some]
    exact Except.ok.inj encoded
  · cases encoded

/-- A string within its bounds is read. -/
theorem readString_ok {object : Json} {key : String} {field output v : Text} {required : Bool}
    {minimum maximum : Nat} (here : object.get? key = some (.str v)) (low : minimum ≤ Native.Request.byteSize v)
    (high : Native.Request.byteSize v ≤ maximum) :
    Native.Request.readString object key field output required minimum maximum = .ok v := by
  have inside : ¬ (Native.Request.byteSize v < minimum ∨ maximum < Native.Request.byteSize v) := by omega
  simp only [Native.Request.readString, here]
  rw [if_neg inside]

/-- An endpoint text is read as it stands. -/
theorem readEndpoint_ok {object : Json} {key : String} {field output v : Text} {required : Bool} {maximum : Nat}
    (here : object.get? key = some (.str v)) (ok : Python.IsEndpointText v maximum) :
    Native.ConnectionConfig.readString object key field output required maximum = .ok v := by
  have size := byteSize_printable ok.printable
  have positive := List.length_pos_iff.mpr ok.nonempty
  have printable : (v.all fun c => 0x21 ≤ c.val && c.val ≤ 0x7E) = true := ok.printable
  unfold Native.ConnectionConfig.readString
  rw [readString_ok here (by omega) (by rw [size]; exact ok.short), ok_bind, printable,
    rejectIf_pass (by simp), ok_bind]
  rfl

theorem readBoolean_ok {object : Json} {key : String} {field : Text} {output v required : Bool}
    (here : object.get? key = some (.bool v)) :
    Native.Request.readBoolean object key field output required = .ok v := by
  simp only [Native.Request.readBoolean, here]

theorem parsePart_some {parse : Json → Native.ConnectionConfig → Except Native.BackendError Native.ConnectionConfig}
    {part : Json} {output : Native.ConnectionConfig} :
    Native.ConnectionConfig.parsePart parse (some part) output = parse part output := rfl

theorem requireObject_ok {object v : Json} {key : String} {field : Text} (here : object.get? key = some v)
    (isObject : v.isObj = true) :
    Native.ConnectionConfig.requireObject object key field = .ok (some v) := by
  simp only [Native.ConnectionConfig.requireObject, here, isObject, if_true]

namespace Python.TcpConnectionConfig

variable (c : TcpConnectionConfig)

/-- The environment that the parameters name. -/
def environment : Text :=
  match c.safety with
  | some _ => "LAB"
  | none => if c.simulator then "SIMULATOR" else "UNSPECIFIED"

/-- The connection that the host is asked for. -/
def native : Native.ConnectionConfig where
  host := c.host
  port := c.port
  localAdapter := c.localAdapter
  connectTimeoutMs := c.connectTimeoutMs
  retryMinMs := c.retryMinMs
  retryMaxMs := c.retryMaxMs
  masterAddress := c.masterAddress
  outstationAddress := c.outstationAddress
  keepAliveTimeoutMs := c.keepAliveTimeoutMs
  allowStateChange := c.simulator || c.safety.any (·.allowStateChange)
  safetyEnvironment := c.environment
  operatorId := (c.safety.map (·.operatorId)).getD []
  dutId := (c.safety.map (·.dutId)).getD []

/-- The delays of a connection are read back. -/
theorem parseRetry_ok (output : Native.ConnectionConfig) :
    Native.ConnectionConfig.parseRetry (.object [("min_ms", .nat c.retryMinMs), ("max_ms", .nat c.retryMaxMs)]) output =
      .ok { output with retryMinMs := c.retryMinMs, retryMaxMs := c.retryMaxMs } := by
  obtain ⟨minLow, minHigh⟩ := c.retryMinOk
  obtain ⟨maxLow, maxHigh⟩ := c.retryMaxOk
  have ordered : ¬ c.retryMaxMs < c.retryMinMs := Nat.not_lt.mpr c.retryOk
  unfold Native.ConnectionConfig.parseRetry
  rw [rejectUnknownFields_object (by simp), ok_bind,
    readUnsigned_ok (n := c.retryMinMs) (by simp) minLow minHigh (by omega), ok_bind,
    readUnsigned_ok (n := c.retryMaxMs) (by simp) maxLow maxHigh (by omega), ok_bind]
  rw [rejectIf_pass (by simpa using ordered), ok_bind]
  rfl

/-- The addresses of a connection are read back. -/
theorem parseLink_ok (output : Native.ConnectionConfig) :
    Native.ConnectionConfig.parseLink
        (.object [("master_address", .nat c.masterAddress), ("outstation_address", .nat c.outstationAddress),
          ("keep_alive_timeout_ms", .nat c.keepAliveTimeoutMs)]) output =
      .ok { output with
        masterAddress := c.masterAddress, outstationAddress := c.outstationAddress,
        keepAliveTimeoutMs := c.keepAliveTimeoutMs } := by
  have master := c.masterOk
  have outstation := c.outstationOk
  obtain ⟨aliveLow, aliveHigh⟩ := c.keepAliveOk
  unfold Native.ConnectionConfig.parseLink
  rw [rejectUnknownFields_object (by simp), ok_bind,
    readUnsigned_ok (n := c.masterAddress) (by simp) (Nat.zero_le _) master (by omega), ok_bind,
    readUnsigned_ok (n := c.outstationAddress) (by simp) (Nat.zero_le _) outstation (by omega), ok_bind,
    readUnsigned_ok (n := c.keepAliveTimeoutMs) (by simp) aliveLow aliveHigh (by omega), ok_bind]
  rw [rejectIf_pass (by simpa using c.addressesDiffer), ok_bind]
  rfl

/-- The safety section of a laboratory is read back. -/
theorem parseSafety_lab {output : Native.ConnectionConfig} (safety : LabSafetyConfig) :
    Native.ConnectionConfig.parseSafety safety.toParams output =
      .ok { output with
        safetyEnvironment := "LAB", allowStateChange := safety.allowStateChange, operatorId := safety.operatorId,
        dutId := safety.dutId } := by
  have lab : IsEndpointText "LAB" 16 := ⟨by decide, by decide, by decide⟩
  unfold Native.ConnectionConfig.parseSafety LabSafetyConfig.toParams
  rw [rejectUnknownFields_object (by simp), ok_bind, readEndpoint_ok (by simp) lab, ok_bind,
    if_neg (by simp), rejectIf_pass (by simp), ok_bind, readBoolean_ok (v := safety.allowStateChange) (by simp),
    ok_bind, readEndpoint_ok (v := safety.operatorId) (by simp) safety.operator, ok_bind,
    readEndpoint_ok (v := safety.dutId) (by simp) safety.dut, ok_bind]
  rfl

theorem parseSafety_simulator {output : Native.ConnectionConfig} :
    Native.ConnectionConfig.parseSafety (.object [("environment", .str "SIMULATOR")]) output =
      .ok { output with safetyEnvironment := "SIMULATOR", allowStateChange := true } := by
  have simulator : IsEndpointText "SIMULATOR" 16 := ⟨by decide, by decide, by decide⟩
  unfold Native.ConnectionConfig.parseSafety
  rw [rejectUnknownFields_object (by simp), ok_bind, readEndpoint_ok (by simp) simulator, ok_bind,
    if_pos rfl, rejectIf_pass (by simp [Json.object, Json.keys]), ok_bind]
  rfl

/-- Everything of the connection but the safety part. -/
def base : Native.ConnectionConfig :=
  { c.native with allowStateChange := false, safetyEnvironment := "UNSPECIFIED", operatorId := [], dutId := [] }

/-- The safety section is read back, whichever it is. -/
theorem parseSafety_ok :
    Native.ConnectionConfig.parsePart Native.ConnectionConfig.parseSafety c.safetyParams c.base = .ok c.native := by
  have exclusive := c.exclusive
  cases given : c.safety with
  | some safety =>
    have real : c.simulator = false := by simpa [given] using exclusive
    rw [safetyParams, given]
    simp only [Native.ConnectionConfig.parsePart, parseSafety_lab, base, native, environment, given, real]
    rfl
  | none =>
    cases simulated : c.simulator with
    | true =>
      rw [safetyParams, given]
      simp only [simulated, if_true, Native.ConnectionConfig.parsePart, parseSafety_simulator, base, native, environment,
        given]
      rfl
    | false =>
      simp [safetyParams, given, simulated, Native.ConnectionConfig.parsePart, base, native, environment]

/-- The safety section is found where it is sent. -/
theorem requireObject_safety : Native.ConnectionConfig.requireObject c.toParams "safety" "safety" = .ok c.safetyParams := by
  unfold Native.ConnectionConfig.requireObject
  cases given : c.safetyParams with
  | none => simp [toParams, given]
  | some safety =>
    have object : safety.isObj = true := by
      unfold safetyParams at given
      split at given
      · obtain rfl := Option.some.inj given
        rfl
      · split at given
        · obtain rfl := Option.some.inj given
          rfl
        · cases given
    simp [toParams, given, object]

/-- A connection the client can ask for is accepted. -/
theorem parseConnectionConfig_ok : Native.parseConnectionConfig c.toParams = .ok c.native := by
  have known : Native.Request.rejectUnknownFields c.toParams Native.connectionFields [] = .ok () :=
    rejectUnknownFields_object (by simp [Native.connectionFields])
  obtain ⟨portLow, portHigh⟩ := c.portOk
  obtain ⟨timeoutLow, timeoutHigh⟩ := c.connectTimeoutOk
  unfold Native.parseConnectionConfig
  dsimp only
  rw [known, ok_bind,
    readEndpoint_ok (v := c.host) (by simp [toParams]) c.hostOk, ok_bind,
    readEndpoint_ok (v := c.localAdapter) (by simp [toParams]) c.adapterOk, ok_bind,
    readUnsigned_ok (n := c.port) (by simp [toParams]) portLow portHigh (by omega), ok_bind,
    readUnsigned_ok (n := c.connectTimeoutMs) (by simp [toParams]) timeoutLow timeoutHigh (by omega), ok_bind,
    requireObject_ok (v := .object [("min_ms", .nat c.retryMinMs), ("max_ms", .nat c.retryMaxMs)]) (by simp [toParams]) rfl,
    ok_bind, parsePart_some, parseRetry_ok, ok_bind,
    requireObject_ok (v := .object [("master_address", .nat c.masterAddress),
      ("outstation_address", .nat c.outstationAddress), ("keep_alive_timeout_ms", .nat c.keepAliveTimeoutMs)])
      (by simp [toParams]) rfl, ok_bind, parsePart_some, parseLink_ok, ok_bind, requireObject_safety, ok_bind]
  exact c.parseSafety_ok

end Python.TcpConnectionConfig

/-! ## Reads -/

namespace Python

def ReadQualifier.native : ReadQualifier → Native.ReadQualifier
  | .allObjects => .allObjects
  | .range8 => .range8
  | .range16 => .range16
  | .count8 => .count8
  | .count16 => .count16

namespace ReadHeader

variable (h : ReadHeader)

/-- The header that the host is asked for; it has 0 for what the client leaves out. -/
def native : Native.ReadHeader where
  group := h.group
  variation := h.variation
  qualifier := h.qualifier.native
  start := h.start.getD 0
  stop := h.stop.getD 0
  count := h.count.getD 0

theorem get?_start : h.toParams.get? "start" = h.start.map .nat := by
  cases first : h.start <;> simp [toParams, optionalMember, first]
  cases last : h.stop <;> cases n : h.count <;> simp

theorem get?_stop : h.toParams.get? "stop" = h.stop.map .nat := by
  cases last : h.stop <;> cases first : h.start <;> simp [toParams, optionalMember, first, last]
  all_goals cases n : h.count <;> simp

theorem get?_count : h.toParams.get? "count" = h.count.map .nat := by
  cases last : h.stop <;> cases first : h.start <;> cases n : h.count <;>
    simp [toParams, optionalMember, first, last, n]

/-- The fields a qualifier does not take are not written. -/
theorem rejectFields_ok {parent name : Text} {keys : List String} (absent : ∀ key ∈ keys, h.toParams.get? key = none) :
    Native.Request.rejectFieldsForQualifier h.toParams parent name keys = .ok () := by
  induction keys with
  | nil => rfl
  | cons key keys ih =>
    have here : h.toParams.get? key = none := absent key List.mem_cons_self
    rw [Native.Request.rejectFieldsForQualifier, here, rejectIf_pass (by rfl), ok_bind]
    exact ih fun other member => absent other (List.mem_cons_of_mem key member)

variable {h} in
/-- A range within the width of its qualifier is read. -/
theorem parseRange_ok {parent name : Text} {qualifier : Native.ReadQualifier} {maximum first last : Nat}
    (count : h.count = none) (start : h.start = some first) (stop : h.stop = some last) (ordered : first ≤ last)
    (bounded : last ≤ maximum) (small : maximum ≤ 65535) :
    Native.Request.parseRange h.toParams parent name qualifier maximum =
      .ok { qualifier, start := first, stop := last } := by
  unfold Native.Request.parseRange
  rw [h.rejectFields_ok (by simp [get?_count, count]), ok_bind,
    readUnsigned_ok (n := first) (by simp [get?_start, start]) (Nat.zero_le _) (by omega) (by omega), ok_bind,
    readUnsigned_ok (n := last) (by simp [get?_stop, stop]) (Nat.zero_le _) bounded (by omega), ok_bind,
    rejectIf_pass (by simpa using ordered), ok_bind]
  rfl

variable {h} in
/-- A count within the width of its qualifier is read. -/
theorem parseCount_ok {parent name : Text} {qualifier : Native.ReadQualifier} {maximum n : Nat} (start : h.start = none)
    (stop : h.stop = none) (count : h.count = some n) (positive : 1 ≤ n) (bounded : n ≤ maximum)
    (small : maximum ≤ 65535) :
    Native.Request.parseCount h.toParams parent name qualifier maximum = .ok { qualifier, count := n } := by
  unfold Native.Request.parseCount
  rw [h.rejectFields_ok (by simp [get?_start, get?_stop, start, stop]), ok_bind,
    readUnsigned_ok (n := n) (by simp [get?_count, count]) positive bounded (by omega), ok_bind]
  rfl

/-- Every qualifier reads the members it asks for. -/
theorem parseQualified_ok (parent : Text) :
    Native.Request.parseQualified h.toParams parent h.qualifier.name =
      .ok { qualifier := h.qualifier.native, start := h.start.getD 0, stop := h.stop.getD 0, count := h.count.getD 0 } := by
  unfold Native.Request.parseQualified
  cases kind : h.qualifier with
  | allObjects =>
    obtain ⟨start, stop, count⟩ := h.all kind
    have absent : ∀ key ∈ ["start", "stop", "count"], h.toParams.get? (text key) = none := by
      simp [get?_start, get?_stop, get?_count, start, stop, count]
    simp only [ReadQualifier.name, reduceIte, h.rejectFields_ok absent, ok_bind, start, stop, count]
    rfl
  | range8 =>
    obtain ⟨count, first, last, start, stop, ordered, bounded⟩ := h.range 255 (by rw [kind]; rfl)
    simp only [ReadQualifier.name, text_inj, reduceIte, String.reduceEq, parseRange_ok count start stop ordered bounded (by omega), count, start, stop]
    rfl
  | range16 =>
    obtain ⟨count, first, last, start, stop, ordered, bounded⟩ := h.range 65535 (by rw [kind]; rfl)
    simp only [ReadQualifier.name, text_inj, reduceIte, String.reduceEq, parseRange_ok count start stop ordered bounded (by omega), count, start, stop]
    rfl
  | count8 =>
    obtain ⟨start, stop, n, count, positive, bounded⟩ := h.counted 255 (by rw [kind]; rfl)
    simp only [ReadQualifier.name, text_inj, reduceIte, String.reduceEq, parseCount_ok start stop count positive bounded (by omega), count, start, stop]
    rfl
  | count16 =>
    obtain ⟨start, stop, n, count, positive, bounded⟩ := h.counted 65535 (by rw [kind]; rfl)
    simp only [ReadQualifier.name, text_inj, reduceIte, String.reduceEq, parseCount_ok start stop count positive bounded (by omega), count, start, stop]
    rfl

theorem parseHeader_ok (index : Nat) : Native.Request.parseHeader index h.toParams = .ok h.native := by
  have known : Native.Request.rejectUnknownFields h.toParams Native.Request.headerFields (Native.itemPath "headers" index) =
      .ok () := by
    apply rejectUnknownFields_object
    simp [Native.Request.headerFields, optionalMember, or_imp, forall_and]
  have reserved : h.toParams.get? "reserved" = none := by
    cases last : h.stop <;> cases first : h.start <;> cases n : h.count <;>
      simp [toParams, optionalMember, first, last, n]
  have qualifier : Native.Request.readQualifier h.toParams (Native.itemPath "headers" index) = .ok h.qualifier.name := by
    simp [Native.Request.readQualifier, toParams]
  have classData : Native.Request.isClassRange h.native = false := by
    have classes := h.classData
    cases kind : h.qualifier <;> simp_all [Native.Request.isClassRange, native, ReadQualifier.native, ReadQualifier.rangeMaximum]
  have group := h.groupOk
  have variation := h.variationOk
  unfold Native.Request.parseHeader
  dsimp only
  rw [rejectIf_pass (by rfl), ok_bind, known, ok_bind, reserved, rejectIf_pass (by rfl), ok_bind,
    readUnsigned_ok (n := h.group) (by simp [toParams]) (Nat.zero_le _) group (by omega), ok_bind,
    readUnsigned_ok (n := h.variation) (by simp [toParams]) (Nat.zero_le _) variation (by omega), ok_bind, qualifier,
    ok_bind, parseQualified_ok, ok_bind]
  rw [rejectIf_pass (by exact classData), ok_bind]
  rfl

end ReadHeader

def ReturnMode.native : ReturnMode → Native.ReturnMode
  | .detail => .detail
  | .summary => .summary

/-- The options as the host keeps them. -/
def ReadOptions.native (o : ReadOptions) : Native.ReadOptions where
  timeoutMs := o.timeoutMs
  maxMeasurements := o.maxMeasurements
  returnMode := o.returnMode.native

/-- Options are read back, whatever stands behind them. -/
theorem ReadOptions.parseOptions_ok (o : ReadOptions) (more : List (String × Json)) (default_ : Native.ReadOptions) :
    Native.Request.parseOptions (.object (o.params ++ more)) default_ = .ok o.native := by
  obtain ⟨timeoutLow, timeoutHigh⟩ := o.timeoutOk
  obtain ⟨maximumLow, maximumHigh⟩ := o.maximumOk
  have mode (output : Native.ReturnMode) :
      Native.Request.parseReturnMode (.object (o.params ++ more)) output = .ok o.returnMode.native := by
    cases named : o.returnMode <;>
      simp [Native.Request.parseReturnMode, params, named, ReturnMode.name, Native.Request.ReturnMode.ofName,
        ReturnMode.native]
  unfold Native.Request.parseOptions
  rw [readUnsigned_ok (n := o.timeoutMs) (by simp [params]) timeoutLow timeoutHigh (by omega), ok_bind,
    readUnsigned_ok (n := o.maxMeasurements) (by simp [params]) maximumLow maximumHigh (by omega), ok_bind, mode, ok_bind]
  rfl

/-- Headers are read back, one after another. -/
theorem parseHeaders_ok (index : Nat) (headers : List ReadHeader) :
    Native.Request.parseHeaders index (headers.map (·.toParams)) = .ok (headers.map (·.native)) := by
  induction headers generalizing index with
  | nil => rfl
  | cons header headers ih =>
    rw [List.map_cons, Native.Request.parseHeaders, header.parseHeader_ok, ok_bind, ih, ok_bind]
    rfl

namespace ReadRequest

/-- The read that the host is asked for. -/
def native (r : ReadRequest) : Native.ReadConfig where
  options := r.options.native
  headers := r.headers.map (·.native)

/-- A read the client can ask for is accepted. -/
theorem parseReadConfig_ok (r : ReadRequest) : Native.parseReadConfig r.params = .ok r.native := by
  obtain ⟨nonempty, short⟩ := r.headersOk
  have headers : Native.readArray r.params "headers" "headers" = .ok (r.headers.map (·.toParams)) := by
    simp [Native.readArray, params, ReadOptions.params]
  have size : (r.headers.map (·.toParams) = [] || 64 < (r.headers.map (·.toParams)).length) = false := by
    have some_ : r.headers ≠ [] := List.length_pos_iff.mp nonempty
    simpa [some_] using short
  unfold Native.parseReadConfig
  rw [params, rejectUnknownFields_object (by simp [ReadOptions.params]), ok_bind, r.options.parseOptions_ok, ok_bind,
    ← params, mapError_ok_iff.mpr headers, ok_bind, rejectIf_pass size, ok_bind, parseHeaders_ok, ok_bind]
  rfl

end ReadRequest

/-! ## Commands -/

def CrobOperation.native : CrobOperation → Native.CrobOperation
  | .null => .null
  | .pulseOn => .pulseOn
  | .pulseOff => .pulseOff
  | .latchOn => .latchOn
  | .latchOff => .latchOff

def TripClose.native : TripClose → Native.TripCloseSelection
  | .null => .null
  | .close => .close
  | .trip => .trip

def AnalogCommandType.native : AnalogCommandType → Native.CommandKind
  | .int16 => .analogOutputInt16
  | .int32 => .analogOutputInt32
  | .float32 => .analogOutputFloat32
  | .double64 => .analogOutputDouble64

/-- The command as the host keeps it. -/
def CrobCommand.native (c : CrobCommand) : Native.CommandPoint where
  kind := .crob
  index := Native.PointIndex.ofNat c.index
  crobOperation := c.operation.native
  tripClose := c.tripClose.native
  clear := c.clear
  count := c.count
  onTimeMs := c.onTimeMs
  offTimeMs := c.offTimeMs

/-- An integer type has an integer value, a floating type a number of either form. -/
def AnalogOutputCommand.native (c : AnalogOutputCommand) : Native.CommandPoint :=
  match c.commandType, c.value with
  | .int16, .int n | .int32, .int n =>
    { kind := c.commandType.native, index := Native.PointIndex.ofNat c.index, integerValue := n }
  | _, value => { kind := c.commandType.native, index := Native.PointIndex.ofNat c.index, floatingValue := value }

/-- The command that the host is asked for. -/
def Command.native : Command → Native.CommandPoint
  | .crob command => command.native
  | .analog command => command.native

theorem CrobOperation.ofName_name (operation : CrobOperation) :
    Native.CrobOperation.ofName operation.name = some operation.native := by
  cases operation <;> simp [Native.CrobOperation.ofName, name, native]

theorem TripClose.ofName_name (selection : TripClose) :
    Native.TripCloseSelection.ofName selection.name = some selection.native := by
  cases selection <;> simp [Native.TripCloseSelection.ofName, name, native]

/-- A name of the protocol: printable, of at most 32 characters. -/
def IsName (name : Text) : Prop := isPrintable name = true ∧ 1 ≤ name.length ∧ name.length ≤ 32

instance (name : Text) : Decidable (IsName name) := inferInstanceAs (Decidable (_ ∧ _))

theorem readName_ok {object : Json} {key : String} {field output v : Text} {required : Bool} {maximum : Nat}
    (here : object.get? key = some (.str v)) (named : IsName v) (short : v.length ≤ maximum) :
    Native.Request.readString object key field output required 1 maximum = .ok v := by
  have size := byteSize_printable named.1
  exact readString_ok here (by rw [size]; exact named.2.1) (by rw [size]; exact short)

theorem CrobOperation.isName (operation : CrobOperation) : IsName operation.name := by
  cases operation <;> decide

theorem TripClose.isName (selection : TripClose) : IsName selection.name ∧ (text selection.name).length ≤ 16 := by
  cases selection <;> decide

theorem CrobCommand.parseCrob_ok (c : CrobCommand) (parent : Text) :
    Native.parseCrob c.toParams parent { kind := .crob, index := Native.PointIndex.ofNat c.index } = .ok c.native := by
  obtain ⟨countLow, countHigh⟩ := c.countOk
  have onTime : c.onTimeMs ≤ 2 ^ 32 - 1 := c.onTimeOk
  have offTime : c.offTimeMs ≤ 2 ^ 32 - 1 := c.offTimeOk
  have known : Native.Request.rejectUnknownFields c.toParams Native.crobFields parent = .ok () :=
    rejectUnknownFields_object (by simp [Native.crobFields])
  have value : c.toParams.get? "value" = none := by simp [toParams]
  unfold Native.parseCrob
  rw [known, ok_bind, value, rejectIf_pass (by rfl), ok_bind,
    readName_ok (v := c.operation.name) (by simp [toParams]) c.operation.isName c.operation.isName.2.2, ok_bind,
    Native.readEnum, c.operation.ofName_name]
  dsimp only
  rw [ok_bind, readName_ok (v := c.tripClose.name) (by simp [toParams]) c.tripClose.isName.1 c.tripClose.isName.2, ok_bind,
    Native.readEnum, c.tripClose.ofName_name]
  dsimp only
  rw [ok_bind, readBoolean_ok (v := c.clear) (by simp [toParams]), ok_bind,
    readUnsigned_ok (n := c.count) (by simp [toParams]) countLow countHigh (by omega), ok_bind,
    readUnsigned_ok (n := c.onTimeMs) (by simp [toParams]) (Nat.zero_le _) onTime (by omega), ok_bind,
    readUnsigned_ok (n := c.offTimeMs) (by simp [toParams]) (Nat.zero_le _) offTime (by omega), ok_bind]
  rfl

/-- An integer within its bounds is read. -/
theorem readSigned_ok {object : Json} {key : String} {field : Text} {minimum maximum n : Int}
    (here : object.get? key = some (.int n)) (low : minimum ≤ n) (high : n ≤ maximum)
    (fits : Native.integer? (.int n) = some n) :
    Native.Request.readSigned object key field minimum maximum = .ok n := by
  have inside : ¬ (n < minimum ∨ maximum < n) := by omega
  simp only [Native.Request.readSigned, here, fits]
  rw [if_neg inside]

theorem integer?_small {n : Int} (low : -(2 ^ 31) ≤ n) (high : n ≤ 2 ^ 31 - 1) : Native.integer? (.int n) = some n := by
  unfold Native.integer?
  exact if_pos ⟨by omega, by omega⟩

/-- A finite number is read, where single precision is asked for if it fits. -/
theorem readFloating_ok {object : Json} {key : String} {field : Text} {single : Bool} {x : Number}
    (here : object.get? key = some x.json) (finite : x.isFinite = true) (fits : single = true → x.fitsFloat = true) :
    Native.Request.readFloating object key field single = .ok x := by
  have inside : (!x.isFinite || single && !x.fitsFloat) = false := by
    cases single <;> simp [finite, fits]
  simp only [Native.Request.readFloating, here, Number.ofJson?_json]
  rw [inside]
  rfl

/-- An analog output is read back. -/
theorem AnalogOutputCommand.parseAnalog_ok (c : AnalogOutputCommand) (parent : Text) :
    Native.parseAnalog c.toParams parent c.commandType.native { index := Native.PointIndex.ofNat c.index } =
      .ok c.native := by
  have known : Native.Request.rejectUnknownFields c.toParams ["type", "index", "value"] parent = .ok () :=
    rejectUnknownFields_object (by simp)
  have here : c.toParams.get? "value" = some c.value.json := by simp [toParams]
  have admitted := c.valueOk
  unfold Native.parseAnalog native
  rw [known, ok_bind]
  cases kind : c.commandType with
  | int16 =>
    rw [kind] at admitted
    obtain ⟨n, value, low, high⟩ := admitted
    rw [value] at here
    simp only [AnalogCommandType.native, readSigned_ok here low high (integer?_small (by omega) (by omega)), value]
    rfl
  | int32 =>
    rw [kind] at admitted
    obtain ⟨n, value, low, high⟩ := admitted
    rw [value] at here
    simp only [AnalogCommandType.native, readSigned_ok here low high (integer?_small low high), value]
    rfl
  | float32 =>
    rw [kind] at admitted
    simp only [AnalogCommandType.native, readFloating_ok here admitted.1 fun _ => admitted.2]
    rfl
  | double64 =>
    rw [kind] at admitted
    have whole : false = true → c.value.fitsFloat = true := by simp
    simp only [AnalogCommandType.native, readFloating_ok here admitted whole]
    rfl

theorem AnalogCommandType.isName (type : AnalogCommandType) : IsName type.name := by
  cases type <;> decide

namespace Command

theorem index_le (c : Command) : c.identity.2 ≤ 65535 := by
  cases c with
  | crob command => exact command.indexOk
  | analog command => exact command.indexOk

theorem type_isName (c : Command) : IsName c.identity.1 := by
  cases c with
  | crob command => exact (by decide : IsName "crob")
  | analog command => exact command.commandType.isName

theorem get?_type (c : Command) : c.toParams.get? "type" = some (.str c.identity.1) := by
  cases c <;> simp [toParams, CrobCommand.toParams, AnalogOutputCommand.toParams, identity]

theorem get?_index (c : Command) : c.toParams.get? "index" = some (.nat c.identity.2) := by
  cases c <;> simp [toParams, CrobCommand.toParams, AnalogOutputCommand.toParams, identity]

/-- A command is parsed by its type. -/
theorem parseTyped_ok (c : Command) (parent : Text) :
    Native.parseTyped c.identity.1 c.toParams parent { index := Native.PointIndex.ofNat c.identity.2 } = .ok c.native := by
  cases c with
  | crob command =>
    rw [Native.parseTyped, if_pos (by rfl)]
    exact command.parseCrob_ok parent
  | analog command =>
    have parsed := command.parseAnalog_ok parent
    cases kind : command.commandType <;>
      simpa [Native.parseTyped, identity, toParams, native, kind, AnalogCommandType.name, AnalogCommandType.native] using
        parsed

/-- A command is read back with its identity. -/
theorem parseCommand_ok (c : Command) (ordinal : Nat) :
    Native.parseCommand ordinal c.toParams = .ok (c.identity.1, c.native) := by
  have object : (!c.toParams.isObj) = false := by cases c <;> rfl
  have short := c.type_isName.2.2
  unfold Native.parseCommand
  dsimp only
  rw [rejectIf_pass object, ok_bind, readName_ok c.get?_type c.type_isName (by omega), ok_bind,
    readUnsigned_ok c.get?_index (Nat.zero_le _) c.index_le (by have := c.index_le; omega), ok_bind, parseTyped_ok, ok_bind]
  rfl

/-- The identity is kept. -/
theorem native_identity (c : Command) : (c.native.kind.name, c.native.index.val) = c.identity := by
  have small : c.identity.2 % 65536 = c.identity.2 := Nat.mod_eq_of_lt (by have := c.index_le; omega)
  cases c with
  | crob command => exact Prod.ext rfl small
  | analog command =>
    have name : command.commandType.native.name = command.commandType.name := by cases command.commandType <;> rfl
    have both : command.native.kind = command.commandType.native ∧
        command.native.index = Native.PointIndex.ofNat command.index := by
      unfold AnalogOutputCommand.native
      split <;> exact ⟨rfl, rfl⟩
    exact Prod.ext ((congrArg Native.CommandKind.name both.1).trans name) ((congrArg Fin.val both.2).trans small)

/-- The host tells commands apart as the client does. -/
theorem identity_of_native {a b : Command}
    (same : Native.commandIdentity a.native = Native.commandIdentity b.native) : a.identity = b.identity := by
  obtain ⟨kind, index⟩ := Native.commandIdentity_inj.mp same
  rw [← a.native_identity, ← b.native_identity, kind, index]

/-- Distinct commands are accepted in order. -/
theorem parseCommands_ok {commands : List Command} (ordinal : Nat) (identities : List Text)
    (distinct : (commands.map fun c => Native.commandIdentity c.native).Nodup)
    (fresh : ∀ c ∈ commands, Native.commandIdentity c.native ∉ identities) :
    Native.parseCommands ordinal identities (commands.map (·.toParams)) = .ok (commands.map (·.native)) := by
  induction commands generalizing ordinal identities with
  | nil => rfl
  | cons c commands ih =>
    obtain ⟨first, distinct⟩ := List.nodup_cons.mp distinct
    have new : identities.contains (Native.commandIdentity c.native) = false := by
      simpa using fresh c List.mem_cons_self
    have later : ∀ other ∈ commands, Native.commandIdentity other.native ∉ Native.commandIdentity c.native :: identities := by
      intro other member old
      rcases List.mem_cons.mp old with same | old
      · exact first (List.mem_map.mpr ⟨other, member, same⟩)
      · exact fresh other (List.mem_cons_of_mem c member) old
    rw [List.map_cons, Native.parseCommands, c.parseCommand_ok, ok_bind]
    dsimp only
    rw [rejectIf_pass new, ok_bind, ih _ _ distinct later, ok_bind]
    rfl

end Command

/-- A safety token is thirty-two hexadecimal digits for the host too. -/
theorem isHexDigit_of_token {token : Text} (ok : isSafetyToken token = true) :
    token.length = 32 ∧ token.all Native.isHexDigit = true ∧ isPrintable token = true := by
  simp only [isSafetyToken, Bool.and_eq_true, decide_eq_true_eq, List.all_eq_true, Bool.or_eq_true, isDigit] at ok
  obtain ⟨length, digits⟩ := ok
  refine ⟨length, List.all_eq_true.mpr fun c member => ?_, List.all_eq_true.mpr fun c member => ?_⟩
  · have := digits c member
    simp only [Native.isHexDigit, Bool.or_eq_true, Bool.and_eq_true, decide_eq_true_eq]
    omega
  · have := digits c member
    simp only [Bool.and_eq_true, decide_eq_true_eq]
    omega

namespace CommandRequest

/-- The batch that the host is asked for. -/
def native (r : CommandRequest) : Native.CommandConfig where
  safetyToken := r.safetyToken
  timeoutMs := r.timeoutMs
  noResponse := r.responseMode = .noResponse
  commands := r.commands.map (·.native)

theorem parseResponseMode_ok (mode : ResponseMode) :
    Native.parseResponseMode mode.name = .ok (decide (mode = .noResponse)) := by
  cases mode <;> simp [Native.parseResponseMode, ResponseMode.name]

theorem responseMode_isName (mode : ResponseMode) : IsName mode.name := by
  cases mode <;> decide

/-- A command the client can ask for is accepted. -/
theorem parseCommandConfig_ok (r : CommandRequest) : Native.parseCommandConfig r.params = .ok r.native := by
  obtain ⟨length, hex, printable⟩ := isHexDigit_of_token r.tokenOk
  obtain ⟨timeoutLow, timeoutHigh⟩ := r.timeoutOk
  obtain ⟨nonempty, short⟩ := r.commandsOk
  have known : Native.Request.rejectUnknownFields r.params ["commands", "timeout_ms", "safety_token", "response_mode"]
      "params" = .ok () := rejectUnknownFields_object (by simp)
  have token : Native.Request.readString r.params "safety_token" "safety_token" [] true 32 32 = .ok r.safetyToken := by
    have size := byteSize_printable printable
    exact readString_ok (by simp [params]) (by omega) (by omega)
  have commands : Native.readArray r.params "commands" "commands" = .ok (r.commands.map (·.toParams)) := by
    simp [Native.readArray, params]
  have size : (r.commands.map (·.toParams) = [] || 256 < (r.commands.map (·.toParams)).length) = false := by
    have some_ : r.commands ≠ [] := List.length_pos_iff.mp nonempty
    simpa [some_] using short
  have distinct : (r.commands.map fun c => Native.commandIdentity c.native).Nodup := by
    have apart := r.distinct
    simp only [List.Nodup, List.pairwise_map] at apart ⊢
    exact apart.imp fun other same => other (Command.identity_of_native same)
  unfold Native.parseCommandConfig
  rw [known, ok_bind, token, ok_bind, rejectIf_pass (by simp [hex]), ok_bind,
    readUnsigned_ok (n := r.timeoutMs) (by simp [params]) timeoutLow timeoutHigh (by omega), ok_bind,
    readName_ok (v := r.responseMode.name) (by simp [params]) (responseMode_isName _) (responseMode_isName _).2.2, ok_bind,
    parseResponseMode_ok, ok_bind, mapError_ok_iff.mpr commands, ok_bind, rejectIf_pass size, ok_bind,
    Command.parseCommands_ok 0 [] distinct (by simp), ok_bind]
  rfl

end CommandRequest

end Python

end EmsDnp3
