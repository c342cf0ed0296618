import EmsDnp3.Python.LocalOutstation

/-!
# Repeated local loads

`LocalEventLoad` of `local_benchmark.py`: one scenario whose iterations each plan the next range of
sequence numbers. As in `Requests`, a load carries what `__post_init__` checks. The limits of time and
processor load, which no plan depends on, are left out.
-/

namespace EmsDnp3.Python

def maxIterations : Nat := 1000
def unsolicitedQueueCapacity : Nat := 4096

/-- `event_count * interval_us / 1_000_000.0` -/
def emissionSeconds (eventCount intervalUs : Nat) : ℚ := binary64 ((eventCount * intervalUs : Nat) / 1000000)

/-- `LocalEventLoad`, with what `__post_init__` checks. -/
structure LocalEventLoad where
  scenarioId : Text
  pointType : GeneratedType
  eventCount : Nat
  iterations : Nat
  seed : Nat
  startSequence : Nat
  timestampBaseMs : Nat
  pointSpan : Nat
  intervalUs : Nat
  token : isScenarioId scenarioId 100 = true
  eventCountOk : 1 ≤ eventCount ∧ eventCount ≤ 65535
  iterationsOk : 1 ≤ iterations ∧ iterations ≤ maxIterations
  seedOk : seed ≤ 2 ^ 63 - 1
  startSequenceOk : startSequence ≤ 2 ^ 63 - 1
  timestampOk : timestampBaseMs ≤ 2 ^ 48 - 1
  pointSpanOk : 1 ≤ pointSpan ∧ pointSpan ≤ 65535
  intervalOk : intervalUs ≤ 55000000
  sequences : ¬ 2 ^ 63 - eventCount * iterations < startSequence
  timestamps : ¬ 2 ^ 48 - eventCount * iterations < timestampBaseMs
  emission : ¬ 55 < emissionSeconds eventCount intervalUs
  queue : ¬ unsolicitedQueueCapacity < eventCount

/-- `f"{iteration:04d}"` -/
def fourDigits (n : Nat) : Text := List.replicate (4 - (decimal n).length) (CodePoint.ofChar '0') ++ decimal n

/-- A stream of more than 55 seconds is more than 55 seconds as a `double`. -/
theorem emission_bound {eventCount intervalUs : Nat} (short : ¬ 55 < emissionSeconds eventCount intervalUs) :
    eventCount * intervalUs ≤ maxGeneratedDurationUs := by
  by_contra long
  apply short
  unfold emissionSeconds binary64
  generalize eventCount * intervalUs = microseconds at long ⊢
  have least : 55000001 ≤ microseconds := by
    unfold maxGeneratedDurationUs at long
    omega
  have exact_ : (55000001 : ℚ) / 1000000 ≤ (microseconds : ℚ) / 1000000 := by
    have : (55000001 : ℚ) ≤ microseconds := by exact_mod_cast least
    linarith
  generalize (microseconds : ℚ) / 1000000 = q at exact_ ⊢
  have positive : 0 < q := by linarith
  obtain binade | above := lt_or_ge q 64
  · have exponent : Int.log 2 q < 6 := (Int.lt_zpow_iff_log_lt (by norm_num) positive).mp (by norm_num; exact binade)
    -- 55 + 2 ^ -20 lies between and has few bits
    have between := mul_zpow_le_roundBits 53 (m := 57671681) (k := -20) positive (by push_cast; omega)
      (by norm_num; linarith)
    norm_num at between
    linarith
  · have power := pow_le_roundBits 53 (e := 6) (by norm_num) (by norm_num; exact above)
    norm_num at power
    linarith

namespace LocalEventLoad

variable (load : LocalEventLoad)

/-- The request of `plan_events` and of `generate_events` in one iteration. -/
def request (iteration : Nat) : EventRequest where
  pointType := .str load.pointType.name
  count := .nat load.eventCount
  scenarioId := .str (load.scenarioId ++ [CodePoint.ofChar '-'] ++ fourDigits iteration)
  seed := .nat load.seed
  startSequence := .nat (load.startSequence + iteration * load.eventCount)
  timestampBaseMs := some (.nat (load.timestampBaseMs + iteration * load.eventCount))
  pointSpan := some (.nat load.pointSpan)
  intervalUs := .nat load.intervalUs

/-- The plan of one iteration. -/
def plan (digest : List GeneratedRecord → Text) (iteration : Nat) : GeneratedEventTruth where
  scenarioId := load.scenarioId ++ [CodePoint.ofChar '-'] ++ fourDigits iteration
  pointType := load.pointType
  seed := load.seed
  startSequence := load.startSequence + iteration * load.eventCount
  eventTotal := load.eventCount
  timestampBaseMs := load.timestampBaseMs + iteration * load.eventCount
  pointSpan := load.pointSpan
  intervalUs := load.intervalUs
  recordsSha256 := digest (generatedRecords load.pointType load.seed load.pointSpan
    (load.startSequence + iteration * load.eventCount) load.eventCount)

/-- The digits of an iteration are characters of a scenario id, four of them. -/
theorem fourDigits_spec {iteration : Nat} (small : iteration < maxIterations) :
    (fourDigits iteration).length = 4 ∧ ∀ c ∈ fourDigits iteration, scenarioCharacters.contains c = true := by
  have short : (decimal iteration).length ≤ 3 := length_decimal_le (show iteration < 10 ^ (2 + 1) from small)
  have digit : ∀ c, isDigit c = true → scenarioCharacters.contains c = true := by
    have all : ∀ d : Fin 10, scenarioCharacters.contains (digitPoint d) = true := by decide
    intro c is
    simp only [isDigit, Bool.and_eq_true, decide_eq_true_eq] at is
    have same : digitPoint ⟨c.val - 0x30, by omega⟩ = c := by
      apply Fin.ext
      simp only [digitPoint]
      omega
    exact same ▸ all _
  refine ⟨?_, fun c mem => digit c ?_⟩
  · rw [fourDigits, List.length_append, List.length_replicate]
    omega
  · obtain padding | written := List.mem_append.mp mem
    · rw [List.eq_of_mem_replicate padding]
      decide
    · exact decimal_isDigit written

/-- Every iteration has a scenario id of its own. -/
theorem plan_scenario (digest : List GeneratedRecord → Text) {iteration : Nat} (inside : iteration < load.iterations) :
    isScenarioId (load.plan digest iteration).scenarioId 128 = true := by
  obtain ⟨length, characters⟩ := fourDigits_spec (inside.trans_le load.iterationsOk.2)
  have token := load.token
  simp only [isScenarioId, Bool.and_eq_true, decide_eq_true_eq, List.all_eq_true] at token ⊢
  obtain ⟨⟨nonempty, short⟩, all⟩ := token
  simp only [plan, List.length_append, List.length_singleton, length]
  refine ⟨by omega, fun c mem => ?_⟩
  obtain front | digit := List.mem_append.mp mem
  · obtain own | dash := List.mem_append.mp front
    · exact all c own
    · rw [List.mem_singleton.mp dash]
      decide
  · exact characters c digit

/-- Every iteration stays within the limits of the generator. -/
theorem plan_accepted (digest : List GeneratedRecord → Text) {iteration pointCount : Nat}
    (inside : iteration < load.iterations) (database : load.pointSpan ≤ pointCount) :
    (load.plan digest iteration).Accepted pointCount := by
  have ends : (iteration + 1) * load.eventCount ≤ load.eventCount * load.iterations := by
    rw [Nat.mul_comm]
    exact Nat.mul_le_mul_left _ inside
  have total : load.eventCount * load.iterations ≤ 65535 * 1000 :=
    Nat.mul_le_mul load.eventCountOk.2 load.iterationsOk.2
  have step : (iteration + 1) * load.eventCount = iteration * load.eventCount + load.eventCount := Nat.succ_mul _ _
  have sequences := load.sequences
  have timestamps := load.timestamps
  have seed := load.seedOk
  have span := load.pointSpanOk
  constructor
  · exact load.eventCountOk
  · show load.seed < 2 ^ 63
    omega
  · show load.startSequence + iteration * load.eventCount + load.eventCount ≤ 2 ^ 63
    omega
  · exact ⟨span.1, database⟩
  · show load.timestampBaseMs + iteration * load.eventCount + load.eventCount ≤ 2 ^ 48
    omega
  · exact emission_bound load.emission

/-- The plans of a load are made. -/
theorem planEvents_plan (digest : List GeneratedRecord → Text) (now : Nat) {iteration pointCount : Nat}
    (inside : iteration < load.iterations) (database : load.pointSpan ≤ pointCount) :
    planEvents digest pointCount now (load.request iteration) = .ok (load.plan digest iteration) := by
  have same : load.request iteration = (load.plan digest iteration).request := rfl
  have hashed : (load.plan digest iteration).recordsSha256 = digest (load.plan digest iteration).records := rfl
  rw [same]
  exact planEvents_request (load.plan_accepted digest inside database) (load.plan_scenario digest inside) hashed

/-- Each range of sequence numbers starts where the one before ends. -/
theorem plan_contiguous (digest : List GeneratedRecord → Text) (iteration : Nat) :
    (load.plan digest (iteration + 1)).startSequence = (load.plan digest iteration).endSequence + 1 := by
  have positive := load.eventCountOk.1
  simp only [plan, GeneratedEventTruth.endSequence, Nat.succ_mul]
  omega

/-- Earlier ranges end before later ones start. -/
theorem plan_disjoint (digest : List GeneratedRecord → Text) {earlier later : Nat} (before : earlier < later) :
    (load.plan digest earlier).endSequence < (load.plan digest later).startSequence := by
  have positive := load.eventCountOk.1
  have steps : (earlier + 1) * load.eventCount ≤ later * load.eventCount := Nat.mul_le_mul_right _ before
  rw [Nat.succ_mul] at steps
  simp only [plan, GeneratedEventTruth.endSequence]
  omega

end LocalEventLoad

end EmsDnp3.Python
