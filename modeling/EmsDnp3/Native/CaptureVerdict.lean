import EmsDnp3.Native.CaptureHistory

/-!
# The verdict on a static set

A terminal capture reports `valid` from a handful of counters and reasons. For a static set
that verdict is decided by the history of the capture alone: how it was closed, whether an
object was lost, and which points came.
-/

namespace EmsDnp3.Native

/-- The history of the capture that a run ends in. -/
def history (platform : Platform) (actions : List Action) : History := (History.runs platform actions).2

/-- The capture was closed by `end` before its deadline and its queue drained. -/
def History.ClosedCleanly (h : History) : Prop :=
  h.closed = true ∧ h.finalized = true ∧ h.expired = false ∧ h.aborted = false ∧ h.drainTimeout = false

theorem Capture.snapshot_valid {s : Capture} (platform : Platform) (now : Nat) (used : s.state ≠ .idle) :
    (s.snapshotLocked platform now).get? "valid" = some s.verdict := by
  rw [snapshotLocked, if_neg used]
  simp

theorem CaptureState.ne_idle_of_terminal {state : CaptureState} (terminal : state.terminal = true) :
    state ≠ .idle := by
  rintro rfl
  cases terminal

/-- A tracked static set is valid when it is finalized without a reason. -/
theorem Tracked.valid_iff {h : History} {s : Capture} {processed dropped : List CaptureMeasurement}
    (t : Tracked h s processed dropped) (mode : h.config.mode = .staticSet) :
    (s.state = .finalized ∧ s.invalidReasons = []) ↔
      h.ClosedCleanly ∧ h.rejected = 0 ∧ History.DimensionsFit h.accepted ∧
        History.Exact h.config.pointRanges h.accepted := by
  have static := t.static (t.config ▸ mode)
  constructor
  · rintro ⟨finalized, clean⟩
    have phase : Phase h .finalized := finalized ▸ t.phase
    have everything : h.accepted = processed := by
      rw [t.split, t.kept (by simp [finalized]), t.empty (Or.inr (Or.inl finalized))]
      simp
    obtain ⟨-, -, -, rejected, fits, exact_⟩ := static.reasons.mp clean
    rw [everything]
    exact ⟨phase, rejected, fits, exact_ phase.2.1⟩
  · rintro ⟨⟨closed, finished, expired, aborted, drainTimeout⟩, rejected, fits, exact_⟩
    have finalized : s.state = .finalized := (Phase.finalized_iff t.phase).mp finished
    have everything : h.accepted = processed := by
      rw [t.split, t.kept (by simp [finalized]), t.empty (Or.inr (Or.inl finalized))]
      simp
    rw [everything] at fits exact_
    exact ⟨finalized, static.reasons.mpr ⟨expired, aborted, drainTimeout, rejected, fits, fun _ => exact_⟩⟩

/-- **The verdict on a static set.** Whatever the interleaving of the threads, a terminal capture
reports `valid` exactly when `end` closed it before its deadline and its queue drained, no
object was refused, neither dimension outgrew its table, and the objects put on the queue
are the points of the ranges, each once. -/
theorem staticSet_valid_iff (platform : Platform) (actions : List Action) (now : Nat)
    (countable : (history platform actions).Countable)
    (mode : (history platform actions).config.mode = .staticSet)
    (terminal : (CaptureSystem.runs platform actions).capture.state.terminal = true) :
    ((CaptureSystem.runs platform actions).capture.snapshotLocked platform now).get? "valid" =
        some (.bool true) ↔
      (history platform actions).ClosedCleanly ∧ (history platform actions).rejected = 0 ∧
        History.DimensionsFit (history platform actions).accepted ∧
        ∀ p : Point, ((history platform actions).accepted.map (·.point)).count p =
          if Expected (history platform actions).config.pointRanges p then 1 else 0 := by
  obtain ⟨processed, dropped, t⟩ := invariant_runs platform actions countable
  rw [History.runs_fst] at t
  rw [Capture.snapshot_valid platform now (CaptureState.ne_idle_of_terminal terminal), Capture.verdict, if_pos terminal]
  refine Iff.trans ?_ (t.valid_iff mode)
  simp

/-- Two binary inputs, 3 and 4, from solicited responses. -/
def exampleParams : Json :=
  .object [("mode", .str "static_set"), ("sources", .arr [.str "solicited"]),
    ("expected", .object [("point_ranges", .arr [.object
      [("kind", .str "binary_input"), ("start", .int 3), ("stop", .int 4)]])]),
    ("duration_limit_ms", .int 1000)]

def exampleConfig : CaptureConfig where
  mode := .staticSet
  sources := [.solicited]
  pointRanges := [⟨"binary_input", .ofNat 3, .ofNat 4, by decide⟩]
  durationLimitMs := 1000

def exampleObject (index : PointIndex) : CaptureMeasurement :=
  ⟨.solicited, "binary_input", 1, 2, some index, .bool true, 5⟩

def exampleRun : List Action :=
  [.begin 10 1 ⟨exampleConfig, exampleParams, by decide +kernel⟩, .recordObject 11 (exampleObject (.ofNat 4)),
   .run 12, .recordObject 12 (exampleObject (.ofNat 3)), .endEnter 13 ⟨"cap-1-1", 5000⟩, .run 14, .endReturn 15]

/-- A run that is valid: each of the two points arrives once. -/
theorem staticSet_valid_example :
    (history examplePlatform exampleRun).accepted = [exampleObject (.ofNat 4), exampleObject (.ofNat 3)] ∧
    ∀ p : Point, ([exampleObject (.ofNat 4), exampleObject (.ofNat 3)].map (·.point)).count p =
      if Expected exampleConfig.pointRanges p then 1 else 0 :=
  ⟨by decide +kernel, ((staticSet_valid_iff examplePlatform exampleRun 16 ⟨by decide +kernel, by decide +kernel⟩
    (by decide +kernel) (by decide +kernel)).mp (by decide +kernel)).2.2.2⟩

end EmsDnp3.Native
