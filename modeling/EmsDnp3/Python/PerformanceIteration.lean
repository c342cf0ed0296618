import EmsDnp3.Base.Effect
import EmsDnp3.Python.PerformanceProfile

/-!
# One iteration of a scenario

`_execute_iteration` of `performance.py`. The client is whatever changes a state of the world and returns or raises;
what it returns has passed `ReadTaskResult.from_mapping` and `CaptureResult.from_mapping`.
-/

namespace EmsDnp3.Python

/-- What a call raises: the errors of `soak.py`, another `Exception`, `KeyboardInterrupt`, or what no handler takes. -/
inductive Fault where
  | connection (message : String)
  | soak (message : String)
  | exception (message : String)
  | keyboardInterrupt
  | exit
deriving DecidableEq

/-- `except Exception` takes it. -/
def Fault.isException : Fault → Bool
  | .connection _ => true
  | .soak _ => true
  | .exception _ => true
  | .keyboardInterrupt => false
  | .exit => false

/-! ## Results of reads -/

/-- A mapping of a summary. -/
structure Population where
  items : Dict Text Json
  distinct : (items.map (·.1)).Nodup

/-- What is read of a `ReadTaskResult`; a member of the summary that is absent or no mapping is `none`. -/
structure ReadTaskResult where
  receivedTotal : Nat
  fragmentsReceived : Nat
  byKind : Option Population
  byGroupVariation : Option Population
  iinBits : List Text
  duration : Json

/-- `value == n` -/
def equalsCount (value : Json) (n : Nat) : Bool :=
  match value with
  | .bool b => b.toNat = n
  | other => (number? other).any fun x => x.value? = some (n : ℚ)

/-- `dict(actual) == dict(expected)` -/
def Population.equals (actual : Population) (expected : Counts) : Bool :=
  actual.items.length = expected.items.length && actual.items.all fun item =>
    (expected.items.get? item.1).any fun n => equalsCount item.2 n

/-- `int(value)` of a number. -/
def truncated : Json → Option Int
  | .int n => some n
  | .bool b => some b.toNat
  | .float x =>
    match Double.ofLiteral x with
    | .finite q => some (if 0 ≤ q then ⌊q⌋ else ⌈q⌉)
    | _ => none
  | _ => none

/-- The `request_errors` of `_assert_read_accepted`. -/
def requestErrors (bits : List Text) : List Text :=
  bits.filter fun bit => ["IIN2.0.", "IIN2.1.", "IIN2.2."].any fun start => (text start).isPrefixOf bit

/-! ## The client -/

/-- What a scenario needs of the client. -/
structure ReadClient (σ : Type) where
  beginCapture : CaptureConfig → EStateM Fault σ CaptureResult
  /-- `read`, `class_poll` or `integrity_poll`, with the arguments of `_execute_read`. -/
  read : ReadPerformanceScenario → EStateM Fault σ ReadTaskResult
  isRunning : EStateM Fault σ Bool
  endCapture : Text → ℚ → EStateM Fault σ CaptureResult

section
variable {σ : Type} (client : ReadClient σ) (s : ReadPerformanceScenario)

open Effect

/-- `_execute_read` -/
def executeRead : EStateM Fault σ ReadTaskResult := do
  let result ← client.read s
  raiseIf (requestErrors result.iinBits ≠ []) (.exception "DUT rejected the performance read")
  return result

/-- What is checked of a capture. -/
def checkCapture (capture : CaptureResult) : Except Fault Unit := do
  rejectIf (capture.state ≠ .finalized || capture.valid ≠ some true)
    (.exception "native capture did not finalize as a valid bounded run")
  rejectIf (capture.queueOverflow ≠ 0) (.exception "native capture queue overflowed")
  rejectIf (capture.mode = .staticSet &&
    (capture.missing ≠ some 0 || capture.duplicates ≠ some 0 || capture.unmatchedTotal ≠ 0))
    (.exception "static capture truth mismatch")

/-- What is checked of a read. -/
def checkPopulation (result : ReadTaskResult) : Except Fault Unit := do
  rejectIf (result.receivedTotal ≠ s.expectedObjectsPerIteration.val) (.exception "read population mismatch")
  rejectIf (!result.byKind.any fun actual => actual.equals s.expectedByKind)
    (.exception "read population by_kind mismatch")
  rejectIf (!result.byGroupVariation.any fun actual => actual.equals s.expectedByGroupVariation)
    (.exception "read population by_group_variation mismatch")

/-- The `finally` of `_execute_iteration`. -/
def endIteration (capture : CaptureResult) : EStateM Fault σ CaptureResult := do
  let running ← client.isRunning
  if running then client.endCapture capture.captureId (min 300 (max 1 s.taskTimeoutSeconds.value))
  else return capture

/-- `_execute_iteration` -/
def executeIteration : EStateM Fault σ (ReadTaskResult × Option CaptureResult) :=
  match s.capture with
  | none => do
    let result ← executeRead client s
    outcome (checkPopulation s result)
    return (result, none)
  | some config => do
    let capture ← client.beginCapture config
    let read ← settle (executeRead client s)
    let capture ← endIteration client s capture
    let result ← outcome read
    outcome (checkCapture capture)
    outcome (checkPopulation s result)
    return (result, some capture)

end

/-! ## What an iteration that returns establishes -/

/-- A capture that is evidence. -/
structure CaptureResult.Complete (c : CaptureResult) : Prop where
  state : c.state = .finalized
  valid : c.valid = some true
  overflow : c.queueOverflow = 0
  static : c.mode = .staticSet → c.missing = some 0 ∧ c.duplicates = some 0 ∧ c.unmatchedTotal = 0

/-- An iteration with the population that the scenario expects. -/
structure ReadPerformanceScenario.Fulfilled (s : ReadPerformanceScenario)
    (run : ReadTaskResult × Option CaptureResult) : Prop where
  received : run.1.receivedTotal = s.expectedObjectsPerIteration.val
  byKind : ∃ actual, run.1.byKind = some actual ∧ actual.equals s.expectedByKind = true
  byGroupVariation : ∃ actual, run.1.byGroupVariation = some actual ∧ actual.equals s.expectedByGroupVariation = true
  captured : run.2.isSome = s.capture.isSome
  complete : ∀ c ∈ run.2, c.Complete

/-- A capture that passes is complete. -/
theorem checkCapture_ok {c : CaptureResult} (ok : checkCapture c = .ok ()) : c.Complete := by
  obtain ⟨_, terminal, ok⟩ := ok_bind_iff.mp ok
  obtain ⟨_, overflow, ok⟩ := ok_bind_iff.mp ok
  simp only [rejectIf_ok, Bool.or_eq_false_iff, decide_eq_false_iff_not, not_not] at terminal overflow
  rw [rejectIf_ok] at ok
  constructor
  · exact terminal.1
  · exact terminal.2
  · exact overflow
  · intro static
    simpa [static, and_assoc] using ok

/-- A population that passes is the expected one. -/
theorem checkPopulation_ok {s : ReadPerformanceScenario} {result : ReadTaskResult}
    (ok : checkPopulation s result = .ok ()) :
    result.receivedTotal = s.expectedObjectsPerIteration.val ∧
      (∃ actual, result.byKind = some actual ∧ actual.equals s.expectedByKind = true) ∧
      ∃ actual, result.byGroupVariation = some actual ∧ actual.equals s.expectedByGroupVariation = true := by
  obtain ⟨_, received, ok⟩ := ok_bind_iff.mp ok
  obtain ⟨_, kinds, ok⟩ := ok_bind_iff.mp ok
  simp only [rejectIf_ok, decide_eq_false_iff_not, not_not, Bool.not_eq_false', Option.any_eq_true] at received kinds ok
  exact ⟨received, kinds, ok⟩

section
variable {σ : Type} {client : ReadClient σ} {s : ReadPerformanceScenario}

/-- An iteration that returns has fulfilled its scenario. -/
theorem executeIteration_ok {w w' : σ} {run : ReadTaskResult × Option CaptureResult}
    (ok : executeIteration client s w = .ok run w') : s.Fulfilled run := by
  unfold executeIteration at ok
  cases capture : s.capture with
  | none =>
    rw [capture] at ok
    dsimp only at ok
    obtain ⟨result, _, -, ok⟩ := Effect.bind_ok_iff.mp ok
    obtain ⟨_, _, population, ok⟩ := Effect.bind_ok_iff.mp ok
    obtain ⟨rfl, -⟩ := Effect.pure_ok_iff.mp ok
    obtain ⟨received, kinds, groups⟩ := checkPopulation_ok (Effect.outcome_ok_iff.mp population).1
    refine ⟨received, kinds, groups, by simp [capture], ?_⟩
    simp
  | some config =>
    rw [capture] at ok
    dsimp only at ok
    obtain ⟨first, _, -, ok⟩ := Effect.bind_ok_iff.mp ok
    obtain ⟨read, _, -, ok⟩ := Effect.bind_ok_iff.mp ok
    obtain ⟨terminal, _, -, ok⟩ := Effect.bind_ok_iff.mp ok
    obtain ⟨result, _, -, ok⟩ := Effect.bind_ok_iff.mp ok
    obtain ⟨_, _, complete, ok⟩ := Effect.bind_ok_iff.mp ok
    obtain ⟨_, _, population, ok⟩ := Effect.bind_ok_iff.mp ok
    obtain ⟨rfl, -⟩ := Effect.pure_ok_iff.mp ok
    obtain ⟨received, kinds, groups⟩ := checkPopulation_ok (Effect.outcome_ok_iff.mp population).1
    have complete := checkCapture_ok (Effect.outcome_ok_iff.mp complete).1
    refine ⟨received, kinds, groups, by simp [capture], ?_⟩
    simpa using complete

end

theorem truncated_float {x : FloatLit} {q : ℚ} (double : Double.ofLiteral x = .finite q) :
    truncated (.float x) = some (if 0 ≤ q then ⌊q⌋ else ⌈q⌉) := by
  unfold truncated
  dsimp only
  rw [double]

/-- A number that is equal to a count is cut off to it. -/
theorem truncated_of_equalsCount {value : Json} {n : Nat} (same : equalsCount value n = true) :
    truncated value = some (n : Int) := by
  unfold equalsCount at same
  split at same
  · next b =>
    rw [decide_eq_true_eq] at same
    exact congrArg (fun k : Nat => some (k : Int)) same
  · next other =>
    obtain ⟨number, found, equal⟩ := (Option.any_eq_true _ _).mp same
    rw [decide_eq_true_eq] at equal
    unfold number? at found
    split at found
    · next m =>
      rw [← Option.some.inj found] at equal
      have equal : m = (n : Int) := by exact_mod_cast Option.some.inj equal
      exact congrArg some equal
    · next x =>
      rw [← Option.some.inj found] at equal
      generalize double : Double.ofLiteral x = d at equal
      cases d with
      | finite q =>
        rw [truncated_float double, Option.some.inj equal]
        simp
      | nan => cases equal
      | infinite negative => cases equal
    · cases found

end EmsDnp3.Python
