import EmsDnp3.Base.Utf8
import EmsDnp3.Json.Number
import EmsDnp3.Native.CaptureConfig

/-!
# Reading request parameters

`ConnectionConfig.cpp`, `ReadConfig.cpp` and `CommandConfig.cpp` each hold their own copy of the
readers of `CaptureConfig.cpp`; the copies differ in the message of the error.
-/

namespace EmsDnp3.Native.Request

/-- The same refusal under the message of the command parameters. -/
def withMessage (e : BackendError) : BackendError := { e with message := "invalid command parameter" }

def invalidParameter (field : Text) (reason : String) (details : List (String × Json)) : BackendError :=
  withMessage (Native.invalidParameter field reason details)

/-- `params` and every value this is called on is an object. -/
def rejectUnknownFields (value : Json) (allowed : List String) (parent : Text) : Except BackendError Unit :=
  match value.keys.find? fun key => !(allowed.map text).contains key with
  | some key => .error (invalidParameter (memberPath parent key) "unknown_field" [])
  | none => .ok ()

/-- An unsigned integer within its bounds, or the default. -/
def readUnsigned (object : Json) (key : String) (field : Text) (minimum maximum output : Nat) (required : Bool) :
    Except BackendError Nat :=
  (Native.readUnsigned object key field minimum maximum output required).mapError withMessage

/-- `std::string::size` -/
def byteSize (value : Text) : Nat := ((Utf8.encode value).getD []).length

/-- A string whose length is bounded, or the default. -/
def readString (object : Json) (key : String) (field : Text) (output : Text) (required : Bool) (minimum maximum : Nat) :
    Except BackendError Text :=
  match object.get? key with
  | none => if required then .error (invalidParameter field "missing_field" []) else .ok output
  | some (.str value) =>
    if byteSize value < minimum ∨ maximum < byteSize value then
      .error (invalidParameter field "invalid_length"
        [("minimum_bytes", .nat minimum), ("maximum_bytes", .nat maximum), ("received_bytes", .nat (byteSize value))])
    else .ok value
  | some _ => .error (invalidParameter field "invalid_type" [("expected", .str "string")])

/-- A boolean, or the default. -/
def readBoolean (object : Json) (key : String) (field : Text) (output : Bool) (required : Bool) : Except BackendError Bool :=
  match object.get? key with
  | none => if required then .error (invalidParameter field "missing_field" []) else .ok output
  | some (.bool value) => .ok value
  | some _ => .error (invalidParameter field "invalid_type" [("expected", .str "boolean")])

/-! ## What is accepted -/

/-- An object passes if it has only allowed members. -/
theorem rejectUnknownFields_ok {value : Json} {allowed : List String} {parent : Text} :
    rejectUnknownFields value allowed parent = .ok () ↔ ∀ key ∈ value.keys, key ∈ allowed.map text := by
  unfold rejectUnknownFields
  split
  · next key found =>
    have bad := List.find?_some found
    have member := List.mem_of_find?_eq_some found
    constructor
    · exact fun ok => by cases ok
    · intro all
      simp [all key member] at bad
  · next none =>
    refine ⟨fun _ key member => ?_, fun _ => rfl⟩
    simpa using List.find?_eq_none.mp none key member

/-- The objects both sides write have string keys. -/
theorem rejectUnknownFields_object {members : List (String × Json)} {allowed : List String} {parent : Text}
    (known : ∀ m ∈ members, m.1 ∈ allowed) : rejectUnknownFields (.object members) allowed parent = .ok () := by
  apply rejectUnknownFields_ok.mpr
  intro key member
  simp only [Json.object, Json.keys, List.map_map, List.mem_map, Function.comp_apply] at member
  obtain ⟨m, inside, rfl⟩ := member
  exact List.mem_map_of_mem (known m inside)

/-- A number within the bounds is read. -/
theorem readUnsigned_of_integer {object value : Json} {key : String} {field : Text} {minimum maximum output n : Nat}
    {required : Bool} (here : object.get? key = some value) (fits : integer? value = some (n : Int)) (low : minimum ≤ n)
    (high : n ≤ maximum) : readUnsigned object key field minimum maximum output required = .ok n := by
  have inside : ¬ ((n : Int) < minimum ∨ (maximum : Int) < n) := by omega
  apply mapError_ok_iff.mpr
  unfold Native.readUnsigned
  rw [here]
  dsimp only
  rw [fits]
  dsimp only
  rw [if_neg inside, Int.toNat_natCast]

theorem readUnsigned_ok {object : Json} {key : String} {field : Text} {minimum maximum output n : Nat} {required : Bool}
    (here : object.get? key = some (.nat n)) (low : minimum ≤ n) (high : n ≤ maximum) (machine : n < 2 ^ 64) :
    readUnsigned object key field minimum maximum output required = .ok n :=
  readUnsigned_of_integer here (integer?_nat machine) low high

end EmsDnp3.Native.Request
