import EmsDnp3.Base.Except
import EmsDnp3.Base.Utf8
import EmsDnp3.Json.Decimal
import EmsDnp3.Json.Number

/-!
# Python values from JSON

What the model classes rely on: the exceptions their validators raise, membership in a set of
names (hashing a list or a dict raises), and the numbers that `json.loads` turns into binary
floating point, of which only finiteness and sign are ever looked at.
-/

namespace EmsDnp3

namespace Python

/-- What a validator of the model classes raises. `UnicodeEncodeError` is a `ValueError`. -/
inductive PyError where
  | value (message : String)
  | type (message : String)
  | overflow (message : String)
deriving DecidableEq

/-- `str(error)` -/
def PyError.message : PyError → String
  | .value message | .type message | .overflow message => message

/-- `value in {..}` for a set of strings and `None`. -/
def inSet (value : Json) (names : List Json) : Except PyError Bool :=
  match value with
  | .arr _ => .error (.type "unhashable type: 'list'")
  | .obj _ => .error (.type "unhashable type: 'dict'")
  | other => .ok (names.contains other)

/-- `float(value)` on an integer, and `math.isfinite` of it: a large integer raises. -/
def intIsFinite (n : Int) : Except PyError Bool :=
  if n.natAbs < 2 ^ 1024 - 2 ^ 970 then .ok true else .error (.overflow "int too large to convert to float")

/-- `type(value) is int` and its bound. -/
def natural? : Json → Option Nat
  | .int n => if 0 ≤ n then some n.toNat else none
  | _ => none

/-- `len(value.encode("utf-8"))`; a lone surrogate does not encode. -/
def encodedLength (value : Text) : Except PyError Nat :=
  match Utf8.encode value with
  | some bytes => .ok bytes.length
  | none => .error (.value "'utf-8' codec can't encode character: surrogates not allowed")

/-- The characters of an endpoint text. -/
def isPrintable (value : Text) : Bool := value.all fun c => 0x21 ≤ c.val && c.val ≤ 0x7E

/-- `_endpoint_text` -/
def endpointText (value : Json) (name : String) (maximum : Nat) : Except PyError Text :=
  match value with
  | .str s => do
    let length ← encodedLength s
    rejectIf (length = 0 || maximum < length) (.value s!"{name} must contain between 1 and {maximum} bytes")
    rejectIf (!isPrintable s) (.value s!"{name} must contain printable non-space ASCII")
    return s
  | _ => .error (.value s!"{name} must be a string")

/-- `_unsigned_integer` -/
def unsignedInteger (value : Json) (name : String) (minimum maximum : Nat) : Except PyError Nat :=
  match value with
  | .int n =>
    if minimum ≤ n ∧ n ≤ maximum then .ok n.toNat
    else .error (.value s!"{name} must be an integer between {minimum} and {maximum}")
  | _ => .error (.value s!"{name} must be an integer between {minimum} and {maximum}")

/-- Printable text has one byte a character. -/
theorem encodedLength_printable {value : Text} (printable : isPrintable value = true) :
    encodedLength value = .ok value.length := by
  have encoded : ∃ bytes, Utf8.encode value = some bytes ∧ bytes.length = value.length := by
    induction value with
    | nil => exact ⟨[], rfl, rfl⟩
    | cons c rest ih =>
      simp only [isPrintable, List.all_cons, Bool.and_eq_true, decide_eq_true_eq] at printable
      obtain ⟨bytes, eq, length⟩ := ih printable.2
      exact ⟨.ofNat c.val :: bytes, by simp [Utf8.encode, Utf8.encodePoint_one (show c.val < 0x80 by omega), eq],
        by simp [length]⟩
  obtain ⟨bytes, eq, length⟩ := encoded
  simp only [encodedLength, eq, length]

/-- A printable text within its bound is accepted. -/
theorem endpointText_ok {value : Text} {name : String} {maximum : Nat} (some_ : value ≠ [])
    (short : value.length ≤ maximum) (printable : isPrintable value = true) :
    endpointText (.str value) name maximum = .ok value := by
  have positive : value.length ≠ 0 := by simpa using some_
  have long : ¬ maximum < value.length := by omega
  simp [endpointText, encodedLength_printable printable, rejectIf, some_, long, printable, pure, Except.pure]

theorem unsignedInteger_ok {n minimum maximum : Nat} {name : String} (low : minimum ≤ n) (high : n ≤ maximum) :
    unsignedInteger (.nat n) name minimum maximum = .ok n := by
  have low : (minimum : Int) ≤ n := by exact_mod_cast low
  have high : (n : Int) ≤ maximum := by exact_mod_cast high
  simp [unsignedInteger, Json.nat, low, high]

end Python

end EmsDnp3
