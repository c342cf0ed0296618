import EmsDnp3.Python.SoakRun

/-!
# The history of a soak run

What a soak run took from its calls, one after the other: the drains of the event queue, the statuses, the iterations
and the clock. Nothing here speaks of the variables of `run_soak`. The verdict is about such a history, and the other
calls stand between its parts.
-/

namespace EmsDnp3.Python

open Effect

section
variable {σ : Type} (world : SoakWorld σ) (setup : SoakSetup)

/-! ## Calls -/

/-- A call that neither reads the channel nor runs a scenario. -/
inductive Aside (w w' : σ) : Prop
  | clock (now : Double) (read : world.monotonic w = .ok now w')
  | stop (asked : Bool) (read : world.stopRequested w = .ok asked w')
  | host (running : Bool) (read : world.isRunning w = .ok running w')
  | sample (sample : ProcessResourceSample) (taken : world.sample w = .ok sample w')
  | files (answers : CheckpointAnswers) (given : world.answers w = .ok answers w')
  | sleep (slept : world.sleep w = .ok () w')

/-- Any number of such calls. -/
def Asides : σ → σ → Prop := Relation.ReflTransGen (Aside world)

/-- A drain that returned: batches up to the one with nothing behind it, whose total of dropped events is zero. -/
inductive Drained : σ → List Text → σ → Prop
  | last {w w' : σ} {batch : Json} {states : List Text} (received : world.waitEvent w = .ok batch w')
    (read : readEventBatch batch = .ok (states, 0, 0)) : Drained w states w'
  | more {w v w' : σ} {batch : Json} {states rest : List Text} {remaining dropped : Nat}
    (received : world.waitEvent w = .ok batch v) (read : readEventBatch batch = .ok (states, remaining, dropped))
    (left : remaining ≠ 0) (others : Drained v rest w') : Drained w (states ++ rest) w'

/-! ## Records -/

/-- What a warm-up took from its calls. -/
structure WarmUpRecord where
  run : ReadTaskResult × Option CaptureResult
  states : List Text

/-- A warm-up that returned with the expected population, and the drain behind it. -/
inductive WarmUpRan (s : ReadPerformanceScenario) (w : σ) (r : WarmUpRecord) (w' : σ) : Prop
  | intro {w₁ w₂ : σ} (iterated : executeIteration world.toReadClient s w = .ok r.run w₁) (fulfilled : s.Fulfilled r.run)
    (drained : Drained world w₁ r.states w₂) (rest : Asides world w₂ w')

/-- What a cycle took from its calls. -/
structure CycleRecord where
  scenarioId : Text
  states : List Text
  /-- The state in the status snapshot. -/
  snapshot : Text
  run : ReadTaskResult × Option CaptureResult
  duration : Double

namespace CycleRecord

/-- The states that the cycle drained, and the one that it observed. -/
def observed (r : CycleRecord) : List Text := r.states ++ [r.snapshot]

/-- The overflow of its capture. -/
def queueOverflow (r : CycleRecord) : Nat := (r.run.2.map fun capture => capture.queueOverflow).getD 0

end CycleRecord

/-- The target duration is reached at a reading of the clock. -/
def SoakSetup.Reached (start now : Double) : Prop :=
  Double.le setup.profile.soak.targetDurationSeconds.raw.exact (Double.sub now start) = true

/-- A cycle that returned with the expected population of its scenario. The clock had not reached the target before. -/
inductive CycleRan (start : Double) (s : ReadPerformanceScenario) (w : σ) (r : CycleRecord) (w' : σ) : Prop
  | intro {w₁ w₂ w₃ w₄ w₅ w₆ : σ} {now : Double} {status : Json} (clock : world.monotonic w = .ok now w₁)
    (early : ¬ setup.Reached start now) (asked : Asides world w₁ w₂) (drained : Drained world w₂ r.states w₃)
    (read : world.getStatus w₃ = .ok status w₄)
    (snapshot : ChannelCounters.statusState status = some (.str r.snapshot)) (sampled : Asides world w₄ w₅)
    (iterated : executeIteration world.toReadClient s w₅ = .ok r.run w₆) (fulfilled : s.Fulfilled r.run)
    (named : r.scenarioId = s.scenarioId) (timed : soakDuration r.run.1.duration = .ok r.duration)
    (rest : Asides world w₆ w')

/-! ## The whole run -/

/-- The scenarios of the warm-ups, in order. -/
def PerformanceProfile.warmUpOrder (profile : PerformanceProfile) : List ReadPerformanceScenario :=
  profile.scenarios.flatMap fun s => List.replicate s.warmupIterations.val s

/-- The scenarios of so many cycles from one on. -/
def PerformanceProfile.roundRobin (profile : PerformanceProfile) (first cycles : Nat) : List ReadPerformanceScenario :=
  (List.range' first cycles).map profile.scenarioAt

/-- What a run took from its calls. -/
structure SoakHistory where
  warmUps : List WarmUpRecord
  /-- The clock behind the warm-ups. -/
  start : Double
  cycles : List CycleRecord
  /-- The clock at the end of the loop. -/
  ended : Double
  terminalStatus : Json
  /-- The states of the last drain. -/
  lastStates : List Text

namespace SoakHistory

variable (h : SoakHistory)

/-- The states drained and observed since the baseline. -/
def states : List Text :=
  h.warmUps.flatMap (·.states) ++ h.cycles.flatMap CycleRecord.observed ++ h.lastStates

/-- The transitions from `OPEN` to another state among them. -/
def reconnects : Nat := falls true (h.states.map isOpenText)

/-- The cycles that ran a scenario. -/
def cyclesOf (scenarioId : Text) : List CycleRecord := h.cycles.filter fun r => r.scenarioId = scenarioId

end SoakHistory

/-- The loop from its first cycle to the clock that shows the target: the cycles ran the scenarios in turn. -/
inductive CyclesRan (start : Double) (first : Nat) (w : σ) (records : List CycleRecord) (ended : Double) (w' : σ) : Prop
  | intro {w₁ w₂ : σ}
    (cycles : Threaded (CycleRan world setup start) (setup.profile.roundRobin first records.length) w records w₁)
    (clock : world.monotonic w₁ = .ok ended w₂) (reached : setup.Reached start ended) (asked : Asides world w₂ w')

/-- The last drain, of a host that runs. -/
inductive LastDrained (w : σ) (states : List Text) (w' : σ) : Prop
  | running {v : σ} (host : world.isRunning w = .ok true v) (drained : Drained world v states w')
  | ended (host : world.isRunning w = .ok false w') (none_ : states = [])

/-- A status that shows the open channel. -/
def ShowsOpen (w : σ) (status : Json) (w' : σ) : Prop :=
  world.getStatus w = .ok status w' ∧ ChannelCounters.statusState status = some (.str (text "OPEN"))

/-- A run from its first drain to the sample behind its last one. -/
inductive SoakRan (h : SoakHistory) (w w' : σ) : Prop
  | intro {w₁ w₂ w₃ w₄ w₅ w₆ w₇ w₈ : σ} {early : List Text} {baseline : Json} (emptied : Drained world w early w₁)
    (opened : ShowsOpen world w₁ baseline w₂)
    (warmUps : Threaded (WarmUpRan world) setup.profile.warmUpOrder w₂ h.warmUps w₃)
    (started : world.monotonic w₃ = .ok h.start w₄) (written : Asides world w₄ w₅)
    (cycles : CyclesRan world setup h.start 0 w₅ h.cycles h.ended w₆)
    (terminal : ShowsOpen world w₆ h.terminalStatus w₇) (drained : LastDrained world w₇ h.lastStates w₈)
    (verified : Asides world w₈ w')

end

/-! ## Reading a history -/

section
variable {σ : Type} {world : SoakWorld σ}

theorem asides_refl (w : σ) : Asides world w w := .refl

theorem Asides.trans {u v w : σ} (first : Asides world u v) (second : Asides world v w) : Asides world u w :=
  Relation.ReflTransGen.trans first second

theorem Aside.asides {w w' : σ} (call : Aside world w w') : Asides world w w' := .single call

end

theorem PerformanceProfile.roundRobin_succ (profile : PerformanceProfile) (first cycles : Nat) :
    profile.roundRobin first (cycles + 1) = profile.scenarioAt first :: profile.roundRobin (first + 1) cycles := by
  rw [roundRobin, List.range'_succ, List.map_cons]
  rfl

/-! ## Round robin -/

/-- How many of the first cycles run the scenario at a place: the ceiling of `(cycles - place) / scenarios`. -/
def share (cycles place scenarios : Nat) : Nat := (cycles + (scenarios - 1) - place) / scenarios

theorem share_zero {place scenarios : Nat} (inside : place < scenarios) : share 0 place scenarios = 0 :=
  Nat.div_eq_of_lt (by omega)

/-- A cycle gives its scenario a turn. -/
theorem share_succ {cycles place scenarios : Nat} (inside : place < scenarios) :
    share (cycles + 1) place scenarios = share cycles place scenarios + if cycles % scenarios = place then 1 else 0 := by
  have next : cycles + 1 + (scenarios - 1) - place = (cycles + (scenarios - 1) - place) + 1 := by omega
  have total : cycles + (scenarios - 1) - place + 1 = cycles + (scenarios - place) := by omega
  have turn : scenarios ∣ cycles + (scenarios - 1) - place + 1 ↔ cycles % scenarios = place := by
    rw [total]
    constructor
    · rintro ⟨k, multiple⟩
      have low : place < scenarios := inside
      have split := Nat.div_add_mod cycles scenarios
      have small := Nat.mod_lt cycles (Nat.zero_lt_of_lt inside)
      have equal : scenarios * k + place = scenarios * (cycles / scenarios + 1) + cycles % scenarios := by
        rw [Nat.mul_add, Nat.mul_one]
        omega
      have residue := congrArg (· % scenarios) equal
      simp only [Nat.mul_add_mod, Nat.mod_eq_of_lt low, Nat.mod_eq_of_lt small] at residue
      exact residue.symm
    · intro same
      refine ⟨cycles / scenarios + 1, ?_⟩
      have split := Nat.div_add_mod cycles scenarios
      rw [Nat.mul_add, Nat.mul_one]
      omega
  unfold share
  rw [next, Nat.succ_div]
  simp only [turn]

/-- Every cycle runs one scenario. -/
theorem sum_share (cycles : Nat) {scenarios : Nat} (some_ : 0 < scenarios) :
    ∑ place ∈ Finset.range scenarios, share cycles place scenarios = cycles := by
  induction cycles with
  | zero => exact Finset.sum_eq_zero fun place inside => share_zero (Finset.mem_range.mp inside)
  | succ cycles ih =>
    calc ∑ place ∈ Finset.range scenarios, share (cycles + 1) place scenarios
        = ∑ place ∈ Finset.range scenarios, (share cycles place scenarios + if cycles % scenarios = place then 1 else 0) :=
          Finset.sum_congr rfl fun place inside => share_succ (Finset.mem_range.mp inside)
      _ = cycles + 1 := by
          rw [Finset.sum_add_distrib, ih, Finset.sum_ite_eq, if_pos (Finset.mem_range.mpr (Nat.mod_lt _ some_))]

/-- A cycle runs the scenario at the place of its number. -/
theorem PerformanceProfile.scenarioAt_iff (profile : PerformanceProfile) (cycle : Nat) {place : Nat}
    (inside : place < profile.scenarios.length) :
    (profile.scenarioAt cycle).scenarioId = profile.scenarios[place].scenarioId ↔
      cycle % profile.scenarios.length = place := by
  have distinct := profile.unique
  unfold PerformanceProfile.scenarioAt
  rw [List.get_eq_getElem]
  constructor
  · intro same
    have bound := Nat.mod_lt cycle profile.scenarioCount.1
    have here : cycle % profile.scenarios.length < (profile.scenarios.map (·.scenarioId)).length := by simpa using bound
    have there : place < (profile.scenarios.map (·.scenarioId)).length := by simpa using inside
    exact (@List.Nodup.getElem_inj_iff _ _ distinct _ here _ there).mp (by simpa using same)
  · intro same
    simp only [same]

/-- In turn each scenario has its share of the cycles. -/
theorem PerformanceProfile.count_roundRobin (profile : PerformanceProfile) (cycles : Nat) {place : Nat}
    (inside : place < profile.scenarios.length) :
    ((profile.roundRobin 0 cycles).map (·.scenarioId)).count profile.scenarios[place].scenarioId =
      share cycles place profile.scenarios.length := by
  induction cycles with
  | zero => exact (share_zero inside).symm
  | succ cycles ih =>
    rw [share_succ inside, ← ih]
    unfold roundRobin
    rw [List.range'_1_concat, List.map_append, List.map_append, List.count_append, Nat.zero_add]
    simp [List.count_singleton, profile.scenarioAt_iff cycles inside]

end EmsDnp3.Python
