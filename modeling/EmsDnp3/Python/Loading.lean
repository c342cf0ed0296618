import EmsDnp3.Base.Double
import EmsDnp3.Json.Depth
import EmsDnp3.Python.CaptureResult
import EmsDnp3.Python.Texts

/-!
# Loading strict files

What the loaders of configuration files share: the exceptions that can leave them, JSON objects with exact fields,
and numbers. The messages of the loaders' own errors leave out the values that they quote.
-/

namespace EmsDnp3.Python

/-! ## Exceptions -/

/-- What leaves a loader: its own error class, another exception, or `RecursionError`. -/
inductive Raised where
  | own (message : String)
  | python (error : PyError)
  | recursion
deriving DecidableEq

/-- `raise OwnError(..)` -/
def refuse {α : Type} (message : String) : Except Raised α := .error (.own message)

/-- Goes on with a proof of what was checked. -/
def require {ε : Type} (p : Prop) [Decidable p] (e : ε) : Except ε (PLift p) := if h : p then .ok ⟨h⟩ else .error e

/-- An exception that the loader does not translate. -/
def lift {α : Type} (x : Except PyError α) : Except Raised α := x.mapError .python

/-- `except (TypeError, ValueError) as error: raise OwnError(..) from error`; the own class is a `ValueError`. -/
def translate {α : Type} (x : Except Raised α) : Except Raised α :=
  x.mapError fun
    | .own message => .own message
    | .python (.value message) => .own message
    | .python (.type message) => .own message
    | .python (.overflow message) => .python (.overflow message)
    | .recursion => .recursion

@[simp] theorem require_ok_iff {ε : Type} {p : Prop} [Decidable p] {e : ε} {r : PLift p} : require p e = .ok r ↔ p := by
  unfold require
  split
  · next holds => simp [holds]
  · next fails => simp [fails]

@[simp] theorem lift_ok_iff {α : Type} {x : Except PyError α} {a : α} : lift x = .ok a ↔ x = .ok a := mapError_ok_iff

@[simp] theorem translate_ok_iff {α : Type} {x : Except Raised α} {a : α} : translate x = .ok a ↔ x = .ok a :=
  mapError_ok_iff

/-- A check of every item, in order. -/
def checkAll {ε α : Type} {p : α → Prop} (check : (a : α) → Except ε (PLift (p a))) :
    (items : List α) → Except ε (PLift (∀ a ∈ items, p a))
  | [] => .ok ⟨by simp⟩
  | a :: rest => do
    let ⟨first⟩ ← check a
    let ⟨others⟩ ← checkAll check rest
    return ⟨List.forall_mem_cons.mpr ⟨first, others⟩⟩

/-! ## Objects -/

/-- What a failing load of JSON becomes. -/
def ofLoad (invalid : String) (t : Text) (limit : Nat) : Except Raised Json :=
  match Json.loadsWithin limit t with
  | .ok v => .ok v
  | .error .value => refuse invalid
  | .error .recursion => .error .recursion

/-- `bytes.decode("utf-8-sig")` -/
def decodeSig (raw : List Byte) : Option Text :=
  Utf8.decode (if raw.take 3 = [.ofNat 0xEF, .ofNat 0xBB, .ofNat 0xBF] then raw.drop 3 else raw)

/-- The JSON of a file that may start with a byte order mark. -/
def loadSig (invalid : String) (limit : Nat) (raw : List Byte) : Except Raised Json :=
  match decodeSig raw with
  | some t => ofLoad invalid t limit
  | none => refuse invalid

/-- `_exact_fields`, and the check for an object before it. -/
def exactFields (value : Json) (required optional : List String) (context : String) : Except Raised Unit := do
  rejectIf (!value.isObj) (.own s!"{context} must be a JSON object")
  rejectIf (!((required.map text).all value.keys.contains)) (.own s!"{context} is missing fields")
  rejectIf (!(value.keys.all ((required ++ optional).map text).contains)) (.own s!"{context} has unknown fields")

/-- `value.get(key, default)` -/
def getOr (value : Json) (key : String) (default : Json) : Json := (value.get? key).getD default

/-- `isinstance(value, list)` -/
def arrayOr (value : Json) (message : String) : Except Raised (List Json) :=
  match value with
  | .arr items => .ok items
  | _ => refuse message

/-! ## Numbers -/

/-- A Python `int` or `float` that is no `bool`. -/
inductive PyNumber where
  | int (n : Int)
  | float (x : Double)
deriving DecidableEq

/-- The `float` of a JSON literal. -/
def Double.ofLiteral (x : FloatLit) : Double := Double.round (if x.negative then -x.magnitude else x.magnitude)

/-- `isinstance(value, (int, float)) and not isinstance(value, bool)` -/
def number? : Json → Option PyNumber
  | .int n => some (.int n)
  | .float x => some (.float (Double.ofLiteral x))
  | _ => none

/-- `float(n)` -/
def floatOfInt (n : Int) : Except PyError Double :=
  match Double.round n with
  | .finite q => .ok (.finite q)
  | _ => .error (.overflow "int too large to convert to float")

namespace PyNumber

/-- `float(value)` -/
def toFloat : PyNumber → Except PyError Double
  | .int n => floatOfInt n
  | .float x => .ok x

/-- The exact value of a finite number. -/
def value? : PyNumber → Option ℚ
  | .int n => some n
  | .float (.finite q) => some q
  | .float _ => none

end PyNumber

/-- A float literal of the source. -/
def literal64 (q : ℚ) : ℚ := Double.nearest q

/-- The double nearest to the shortest timeout lies above it. -/
theorem shortest_timeout : (1 : ℚ) / 20 ≤ literal64 (5 / 100) := by decide +kernel

/-- `value == n` for a positive `n`. -/
def equalsPositive (value : Json) (n : Nat) : Bool :=
  match value with
  | .bool b => b && n = 1
  | other => (number? other).any fun x => x.value? = some (n : ℚ)

/-- An integer of a range. -/
abbrev NatIn (low high : Nat) := {n : Nat // low ≤ n ∧ n ≤ high}

theorem toNat_inside {low high : Nat} {n : Int} (inside : (low : Int) ≤ n ∧ n ≤ high) :
    low ≤ n.toNat ∧ n.toNat ≤ high := by
  omega

/-- `_unsigned_integer` -/
def unsignedIn (value : Json) (name : String) (low high : Nat) : Except PyError (NatIn low high) :=
  match value with
  | .int n => do
    let ⟨inside⟩ ← require ((low : Int) ≤ n ∧ n ≤ high) (.value s!"{name} must be an integer between {low} and {high}")
    return ⟨n.toNat, toNat_inside inside⟩
  | _ => .error (.value s!"{name} must be an integer between {low} and {high}")

/-- A number whose `float` lies in a range. -/
structure NumberIn (low high : ℚ) where
  raw : PyNumber
  value : ℚ
  isFloat : raw.toFloat = .ok (.finite value)
  low_le : low ≤ value
  le_high : value ≤ high

end EmsDnp3.Python
