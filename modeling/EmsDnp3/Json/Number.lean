import EmsDnp3.Json.Value

/-!
# Numbers as binary floating point

A JSON number is read as the nearest `double`, on both sides of the pipe. What is asked of the
result (is it finite, is it negative, does it fit a `float`) is decided from the written number.
-/

namespace EmsDnp3

namespace FloatLit

/-- The written number without its sign. -/
def magnitude (x : FloatLit) : ℚ :=
  let digits := x.fraction.foldl (fun n d => 10 * n + d.val) x.whole
  let scaled : ℚ := digits / 10 ^ x.fraction.length
  match x.exponent with
  | none => scaled
  | some (negative, d, rest) =>
    let exponent := (d :: rest).foldl (fun n e => 10 * n + e.val) 0
    if negative then scaled / 10 ^ exponent else scaled * 10 ^ exponent

/-- `math.isfinite`: a literal from half an ulp above the largest double on is read as infinity. -/
def isFinite (x : FloatLit) : Bool := x.magnitude < 2 ^ 1024 - 2 ^ 970

/-- `x < 0`: a literal within half of the smallest double of zero is read as zero. -/
def isNegative (x : FloatLit) : Bool := x.negative && 1 / 2 ^ 1075 < x.magnitude

end FloatLit

/-- A JSON number, with or without a fraction. -/
inductive Number where
  | int (value : Int)
  | float (value : FloatLit)
deriving DecidableEq

namespace Number

def ofJson? : Json → Option Number
  | .int n => some (.int n)
  | .float x => some (.float x)
  | _ => none

def json : Number → Json
  | .int n => .int n
  | .float x => .float x

@[simp] theorem ofJson?_json (x : Number) : ofJson? x.json = some x := by
  cases x <;> rfl

def magnitude : Number → ℚ
  | .int n => n.natAbs
  | .float x => x.magnitude

/-- The nearest `double` is finite. -/
def isFinite (x : Number) : Bool := x.magnitude < 2 ^ 1024 - 2 ^ 970

/-- The nearest `double` is at most the largest `float` in magnitude; that one is even, so half an
ulp above it is rounded down to it. -/
def fitsFloat (x : Number) : Bool := x.magnitude ≤ 2 ^ 128 - 2 ^ 104 + 2 ^ 74

end Number

end EmsDnp3
