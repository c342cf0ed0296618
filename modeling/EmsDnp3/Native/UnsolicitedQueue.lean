import EmsDnp3.Native.UnsolicitedStore

/-!
# What the unsolicited queue delivers

A log is kept beside the store, from the calls alone: which session is active, which fragment
is open, what was recorded in the session and what its batches delivered. In every run the
batches and the queue together are the log less what overflow removed.
-/

namespace EmsDnp3.Native

/-- A call of a request thread or of the stack. -/
inductive UnsolicitedAction where
  | beginSession (session : Nat)
  | endSession
  | updateEnabled (mask : BitVec 8) (enabled : Bool)
  | beginFragment (now : Nat) (info : ResponseInfo)
  | endFragment (info : ResponseInfo)
  | record (now : Nat) (info : HeaderInfo) (item : SoeItem)
  | take (config : WaitUnsolicitedConfig)

/-- The measurements that a reply delivers. -/
def batch : BackendOperationResult → List Json
  | .ok reply =>
    match reply.get? "measurements" with
    | some (.arr items) => items
    | _ => []
  | .error _ => []

/-- The fragment that the stack begun last and has not ended; it ends one before it begins
another. `ours` says that it is unsolicited and was begun in the session that is active, and
`index` is its place among such fragments. -/
structure OpenFragment where
  number : Nat
  ours : Bool
  index : Nat

/-- A measurement recorded in the session, with the number of its fragment. -/
structure Received where
  fragment : Nat
  event : Json

/-- What arrived and what was taken, independent of the store. -/
structure UnsolicitedLog where
  session : Option Nat := none
  fragments : Nat := 0
  ownFragments : Nat := 0
  opened : Option OpenFragment := none
  received : List Received := []
  delivered : List Json := []

namespace UnsolicitedLog

/-- The session changes; a fragment that is still open belongs to the one before. -/
def change (session : Option Nat) (l : UnsolicitedLog) : UnsolicitedLog :=
  { l with
    session, ownFragments := 0, opened := l.opened.map fun f => { f with ours := false }
    received := [], delivered := [] }

/-- A fragment counts while a session is active and it is unsolicited. -/
def beginFragment (info : ResponseInfo) (l : UnsolicitedLog) : UnsolicitedLog :=
  let ours := l.session.isSome && info.unsolicited
  let index := if ours then l.ownFragments + 1 else l.ownFragments
  { l with
    fragments := l.fragments + 1, ownFragments := index
    opened := some { number := l.fragments + 1, ours, index } }

/-- Only a measurement of an unsolicited fragment of the active session is recorded. -/
def record (now : Nat) (info : HeaderInfo) (item : SoeItem) (l : UnsolicitedLog) : UnsolicitedLog :=
  match l.session, l.opened with
  | some session, some f =>
    if f.ours then
      { l with received := l.received ++
          [⟨f.number, UnsolicitedStore.eventJson (l.received.length + 1) now session info item.reading f.index⟩] }
    else l
  | _, _ => l

/-- What an action adds to the log. -/
def step (taken : List Json) (l : UnsolicitedLog) : UnsolicitedAction → UnsolicitedLog
  | .beginSession session => l.change (some session)
  | .endSession => l.change none
  | .updateEnabled _ _ => l
  | .beginFragment _ info => l.beginFragment info
  | .endFragment _ => { l with opened := none }
  | .record now info item => l.record now info item
  | .take _ => { l with delivered := l.delivered ++ taken }

end UnsolicitedLog

/-- The store, and the log beside it. -/
structure UnsolicitedFeed where
  store : UnsolicitedStore
  log : UnsolicitedLog := {}

namespace UnsolicitedFeed

/-- What an action does to the store. -/
def storeStep (s : UnsolicitedStore) : UnsolicitedAction → UnsolicitedStore
  | .beginSession session => s.beginSession session
  | .endSession => s.endSession
  | .updateEnabled mask enabled => s.updateEnabled mask enabled
  | .beginFragment now info => (s.beginFragment now info).1
  | .endFragment _ => s.endFragment
  | .record now info item => (s.record now info item.reading).1
  | .take config => (s.take config).1

/-- What the call delivers. -/
def taken (s : UnsolicitedStore) : UnsolicitedAction → List Json
  | .take config => batch (s.take config).2
  | _ => []

def step (y : UnsolicitedFeed) (a : UnsolicitedAction) : UnsolicitedFeed where
  store := storeStep y.store a
  log := y.log.step (taken y.store a) a

def runs (store : UnsolicitedStore) (actions : List UnsolicitedAction) : UnsolicitedFeed :=
  actions.foldl step { store }

end UnsolicitedFeed

/-- The receive sequence of a delivered measurement. -/
def receiveSeq (event : Json) : Nat :=
  match event.get? "receive_seq" with
  | some (.int n) => n.toNat
  | _ => 0

/-- The log is what the store has seen. -/
structure Fed (s : UnsolicitedStore) (l : UnsolicitedLog) : Prop where
  active : s.sessionActive = l.session.isSome
  session : ∀ id, l.session = some id → s.sessionId = id
  current : s.currentUnsolicited = (l.opened.map (·.ours)).getD false
  fragment : ∀ f, l.opened = some f → f.ours = true → s.currentFragment = f.index
  own : l.session ≠ none → s.fragmentsTotal = l.ownFragments
  idle : l.session = none → s.events = [] ∧ l.delivered = [] ∧ (l.opened.map (·.ours)).getD false = false
  kept : (l.delivered ++ s.events).Sublist (l.received.map (·.event))
  total : l.session ≠ none → s.lastSequence = l.received.length ∧ s.receivedTotal = l.received.length ∧
    l.received.length = l.delivered.length + s.events.length + s.droppedTotal
  numbered : l.received.map (fun r => receiveSeq r.event) = List.range' 1 l.received.length
  marked : ∀ f, l.opened = some f → f.ours = false → ∀ r ∈ l.received, r.fragment ≠ f.number
  old : ∀ r ∈ l.received, r.fragment ≤ l.fragments
  latest : ∀ f, l.opened = some f → f.number ≤ l.fragments

namespace Fed

variable {s : UnsolicitedStore} {l : UnsolicitedLog}

/-- What a `take` delivers. -/
theorem batch_take (s : UnsolicitedStore) (config : WaitUnsolicitedConfig) :
    batch (s.take config).2 = if s.sessionActive then s.events.take (s.selected config.maxEvents) else [] := by
  cases active : s.sessionActive <;> simp [UnsolicitedStore.take, UnsolicitedStore.takeReply, batch, active]

theorem change (fed : Fed s l) (session : Option Nat) (s' : UnsolicitedStore) (active : s'.sessionActive = session.isSome)
    (id : ∀ id, session = some id → s'.sessionId = id) (cleared : s'.events = [] ∧ s'.currentUnsolicited = false)
    (counters : session ≠ none → s'.fragmentsTotal = 0 ∧ s'.lastSequence = 0 ∧ s'.receivedTotal = 0 ∧ s'.droppedTotal = 0) :
    Fed s' (l.change session) := by
  have closed : ((l.opened.map fun f => { f with ours := false }).map (·.ours)).getD false = false := by
    cases l.opened <;> rfl
  refine ⟨active, id, ?_, ?_, ?_, ?_, ?_, ?_, ?_, ?_, ?_, ?_⟩
  · rw [cleared.2]
    exact closed.symm
  · intro f opened ours
    obtain ⟨g, -, rfl⟩ := Option.map_eq_some_iff.mp opened
    cases ours
  · intro some_
    exact (counters some_).1
  · intro _
    exact ⟨cleared.1, rfl, closed⟩
  · simp [UnsolicitedLog.change, cleared.1]
  · intro some_
    obtain ⟨-, last, received, dropped⟩ := counters some_
    simp [UnsolicitedLog.change, last, received, dropped, cleared.1]
  · simp [UnsolicitedLog.change]
  · simp [UnsolicitedLog.change]
  · simp [UnsolicitedLog.change]
  · intro f opened
    obtain ⟨g, known, rfl⟩ := Option.map_eq_some_iff.mp opened
    exact fed.latest g known

/-- The store after the begin of a fragment. -/
theorem beginFragment_eq (s : UnsolicitedStore) (now : Nat) (info : ResponseInfo) :
    (s.beginFragment now info).1 = { s with
      currentUnsolicited := s.sessionActive && info.unsolicited
      currentFragment := if s.sessionActive && info.unsolicited then s.fragmentsTotal + 1 else s.currentFragment
      fragmentsTotal := if s.sessionActive && info.unsolicited then s.fragmentsTotal + 1 else s.fragmentsTotal } := by
  unfold UnsolicitedStore.beginFragment
  dsimp only
  split <;> rfl

/-- A fragment opens. -/
theorem beginFragment (fed : Fed s l) (now : Nat) (info : ResponseInfo) :
    Fed (s.beginFragment now info).1 (l.beginFragment info) := by
  have fresh : ∀ r ∈ l.received, r.fragment ≠ l.fragments + 1 := fun r mem same => by
    have := fed.old r mem
    omega
  have own : ∀ {α : Type} (a b : α), (if (s.sessionActive && info.unsolicited) = true then a else b) =
      if (l.session.isSome && info.unsolicited) = true then a else b := by simp [fed.active]
  rw [beginFragment_eq, own, own]
  refine ⟨fed.active, fed.session, ?_, ?_, ?_, ?_, fed.kept, fed.total, fed.numbered, ?_, ?_, ?_⟩
  · simp [fed.active, UnsolicitedLog.beginFragment]
  · intro f opened ours
    obtain rfl := Option.some.inj opened
    dsimp only at ours ⊢
    have used : l.session ≠ none := Option.isSome_iff_ne_none.mp (Bool.and_eq_true_iff.mp ours).1
    rw [if_pos ours, if_pos ours, fed.own used]
  · intro used
    dsimp only [UnsolicitedLog.beginFragment]
    rw [fed.own used]
  · intro none_
    have none_ : l.session = none := none_
    obtain ⟨empty, nothing, -⟩ := fed.idle none_
    exact ⟨empty, nothing, by simp [UnsolicitedLog.beginFragment, none_]⟩
  · intro f opened _
    obtain rfl := Option.some.inj opened
    exact fresh
  · exact fun r mem => (fed.old r mem).trans (Nat.le_succ _)
  · intro f opened
    obtain rfl := Option.some.inj opened
    exact Nat.le_refl _

/-- A fragment closes. -/
theorem endFragment (fed : Fed s l) : Fed s.endFragment { l with opened := none } where
  active := fed.active
  session := fed.session
  current := rfl
  fragment := by simp
  own := fed.own
  idle := fun none_ => ⟨(fed.idle none_).1, (fed.idle none_).2.1, rfl⟩
  kept := fed.kept
  total := fed.total
  numbered := fed.numbered
  marked := by simp
  old := fed.old
  latest := by simp

theorem updateEnabled (fed : Fed s l) (mask : BitVec 8) (enabled : Bool) : Fed (s.updateEnabled mask enabled) l := by
  unfold UnsolicitedStore.updateEnabled
  split
  · exact fed
  · exact { fed with }

/-- What is taken is delivered in order. -/
theorem take (fed : Fed s l) (config : WaitUnsolicitedConfig) :
    Fed (s.take config).1 { l with delivered := l.delivered ++ batch (s.take config).2 } := by
  have rest : (s.take config).1 = { s with events := s.events.drop (s.selected config.maxEvents) } := rfl
  rw [batch_take, rest]
  by_cases session : l.session = none
  · obtain ⟨empty, none_, foreign⟩ := fed.idle session
    have inactive : s.sessionActive = false := by simp [fed.active, session]
    refine { fed with idle := fun _ => ⟨by simp [empty], by simp [inactive, none_], foreign⟩, kept := ?_, total := ?_ }
    · simp [inactive, none_, empty]
    · intro some_
      exact absurd session some_
  · have active : s.sessionActive = true := by rw [fed.active, Option.isSome_iff_ne_none]; exact session
    have counts := fed.total session
    refine { fed with idle := fun none_ => absurd none_ session, kept := ?_, total := fun _ => ?_ }
    · rw [if_pos active, List.append_assoc, List.take_append_drop]
      exact fed.kept
    · refine ⟨counts.1, counts.2.1, ?_⟩
      have both := congrArg List.length (List.take_append_drop (s.selected config.maxEvents) s.events)
      simp only [active, if_true, List.length_append] at both ⊢
      omega

/-- The store after a measurement that it records. -/
theorem record_ours {now : Nat} {info : HeaderInfo} {r : Reading} (active : s.sessionActive = true)
    (current : s.currentUnsolicited = true) :
    (s.record now info r).1 = { s with
      lastSequence := s.lastSequence + 1, receivedTotal := s.receivedTotal + 1
      byKind := s.byKind.increment (text r.kind)
      byGroupVariation := s.byGroupVariation.increment (UnsolicitedStore.groupVariationKey info)
      droppedTotal := if s.events.length = s.capacity then s.droppedTotal + 1 else s.droppedTotal
      events := (if s.events.length = s.capacity then s.events.tail else s.events) ++
        [UnsolicitedStore.eventJson (s.lastSequence + 1) now s.sessionId info r s.currentFragment] } := by
  simp only [UnsolicitedStore.record, active, current, Bool.not_true, Bool.or_self, Bool.false_eq_true, if_false]
  split <;> rfl

theorem receiveSeq_eventJson (sequence now session : Nat) (info : HeaderInfo) (r : Reading) (fragment : Nat) :
    receiveSeq (UnsolicitedStore.eventJson sequence now session info r fragment) = sequence := by
  simp [receiveSeq, UnsolicitedStore.eventJson, Json.nat]

theorem record (fed : Fed s l) (now : Nat) (info : HeaderInfo) (item : SoeItem) :
    Fed (s.record now info item.reading).1 (l.record now info item) := by
  have current := fed.current
  have active := fed.active
  -- a measurement that is not ours leaves both as they were
  have ignored : s.sessionActive = false ∨ s.currentUnsolicited = false → (s.record now info item.reading).1 = s := by
    rintro (off | off) <;> simp [UnsolicitedStore.record, off]
  unfold UnsolicitedLog.record
  split
  · next session f known opened =>
    rw [opened, Option.map_some, Option.getD_some] at current
    rw [known, Option.isSome_some] at active
    split
    · next ours =>
      have counts := fed.total (by simp [known])
      have room : s.events.length = s.capacity → 0 < s.events.length := fun full => full ▸ s.positive
      rw [record_ours active (current.trans ours)]
      refine ⟨fed.active, fed.session, fed.current, fed.fragment, fed.own, ?_, ?_, ?_, ?_, ?_, ?_, fed.latest⟩
      · exact fun none_ => absurd none_ (by simp [known])
      · dsimp only
        rw [counts.1, fed.session session known, fed.fragment f opened ours, List.map_append, List.map_singleton,
          ← List.append_assoc]
        refine List.Sublist.append ?_ (List.Sublist.refl _)
        split
        · exact ((List.Sublist.refl _).append (List.tail_sublist _)).trans fed.kept
        · exact fed.kept
      · intro _
        simp only [List.length_append, List.length_singleton]
        refine ⟨by omega, by omega, ?_⟩
        split
        · next full =>
          have := room full
          rw [List.length_tail]
          omega
        · omega
      · rw [List.map_append, List.map_singleton, receiveSeq_eventJson, fed.numbered, List.length_append,
          List.length_singleton, List.range'_concat]
        simp [Nat.add_comm]
      · intro g opened' foreign
        obtain rfl : f = g := Option.some.inj (opened.symm.trans opened')
        simp [ours] at foreign
      · intro r mem
        rcases List.mem_append.mp mem with before | new
        · exact fed.old r before
        · rw [List.mem_singleton.mp new]
          exact fed.latest f opened
    · next foreign =>
      rw [ignored (.inr (current.trans (by simpa using foreign)))]
      exact fed
  · next other =>
    rw [ignored ?_]
    · exact fed
    · cases known : l.session with
      | none => exact .inl (by rw [active, known]; rfl)
      | some session =>
        cases opened : l.opened with
        | none => exact .inr (by rw [current, opened]; rfl)
        | some f => exact absurd opened (other session f known)

/-- Every action keeps the store fed by the log. -/
theorem step {y : UnsolicitedFeed} (fed : Fed y.store y.log) (a : UnsolicitedAction) :
    Fed (y.step a).store (y.step a).log := by
  cases a with
  | beginSession session =>
    exact fed.change (some session) _ rfl (fun _ same => Option.some.inj same) ⟨rfl, rfl⟩ fun _ => ⟨rfl, rfl, rfl, rfl⟩
  | endSession =>
    exact fed.change none _ rfl (fun _ same => by cases same) ⟨rfl, rfl⟩ fun some_ => absurd rfl some_
  | updateEnabled mask enabled => exact fed.updateEnabled mask enabled
  | beginFragment now info => exact fed.beginFragment now info
  | endFragment info => exact fed.endFragment
  | record now info item => exact fed.record now info item
  | take config => exact fed.take config

end Fed

/-- A store as it is constructed. -/
def UnsolicitedStore.fresh (capacity : Nat) (positive : 0 < capacity) (hasCapture : Bool) : UnsolicitedStore :=
  { capacity, positive, hasCapture }

/-- Every run keeps the store fed by the log. -/
theorem fed_runs {capacity : Nat} (positive : 0 < capacity) (hasCapture : Bool) (actions : List UnsolicitedAction) :
    Fed (UnsolicitedFeed.runs (.fresh capacity positive hasCapture) actions).store
      (UnsolicitedFeed.runs (.fresh capacity positive hasCapture) actions).log := by
  have start : Fed (UnsolicitedStore.fresh capacity positive hasCapture) {} :=
    ⟨rfl, by simp, rfl, by simp, by simp, fun _ => ⟨rfl, rfl, rfl⟩, List.Sublist.refl _, by simp, rfl, by simp, by simp,
      by simp⟩
  unfold UnsolicitedFeed.runs
  generalize hy : ({ store := UnsolicitedStore.fresh capacity positive hasCapture } : UnsolicitedFeed) = y
  have start : Fed y.store y.log := by
    rw [← hy]
    exact start
  clear hy
  induction actions generalizing y with
  | nil => exact start
  | cons a rest ih => exact ih (y.step a) (start.step a)

/-- Two events in one unsolicited fragment, into a queue of one; a `take` before the fragment ends. -/
def exampleUnsolicitedRun : List UnsolicitedAction :=
  let info : HeaderInfo := ⟨Byte.ofNat 2, Byte.ofNat 1, .uint8CntUint8Index, .invalid, true, true, 0⟩
  [.beginSession 7, .beginFragment 10 ⟨true, true, true⟩, .record 11 info (.binary (.ofNat 3) true (Byte.ofNat 1) 0),
   .record 12 info (.binary (.ofNat 4) true (Byte.ofNat 1) 0), .take {}, .endFragment ⟨true, true, true⟩, .take {}]

end EmsDnp3.Native
