import EmsDnp3.Base.Except

/-!
# Effects

Code that changes a state and may raise, what it changed before being kept: `EStateM`. A run that returns is taken
apart one bind at a time, as in `Except`, and a loop that returns is the chain of its turns.
-/

namespace EmsDnp3

namespace Effect

variable {ε σ τ α β γ : Type}

/-! ## Running -/

/-- A sequence ends well where both parts do. -/
theorem bind_ok_iff {x : EStateM ε σ α} {f : α → EStateM ε σ β} {s t : σ} {b : β} :
    (x >>= f) s = .ok b t ↔ ∃ a u, x s = .ok a u ∧ f a u = .ok b t := by
  change EStateM.bind x f s = _ ↔ _
  unfold EStateM.bind
  cases x s with
  | ok a u => simp
  | error e u => simp

theorem pure_ok_iff {a b : α} {s t : σ} : (pure a : EStateM ε σ α) s = .ok b t ↔ a = b ∧ s = t := by
  change EStateM.Result.ok a s = .ok b t ↔ _
  simp

theorem throw_ok_iff {e : ε} {b : α} {s t : σ} : (throw e : EStateM ε σ α) s = .ok b t ↔ False := by
  change EStateM.Result.error e s = .ok b t ↔ _
  simp

/-! ## Operations -/

/-- A result without an effect. -/
def outcome (x : Except ε α) : EStateM ε σ α := fun s =>
  match x with
  | .ok a => .ok a s
  | .error e => .error e s

/-- `if bad: raise e` -/
def raiseIf (bad : Bool) (e : ε) : EStateM ε σ Unit := outcome (rejectIf bad e)

/-- What `x` comes to: nothing is raised yet. -/
def settle (x : EStateM ε σ α) : EStateM ε σ (Except ε α) := fun s =>
  match x s with
  | .ok a t => .ok (.ok a) t
  | .error e t => .ok (.error e) t

/-- Code that works on the first part of a state. -/
def onFst (x : EStateM ε σ α) : EStateM ε (σ × τ) α := fun s =>
  match x s.1 with
  | .ok a t => .ok a (t, s.2)
  | .error e t => .error e (t, s.2)

/-- An assignment to the second part. -/
def onSnd (f : τ → τ) : EStateM ε (σ × τ) Unit := fun s => .ok () (s.1, f s.2)

/-- Code with a second part of the state of its own. -/
def locally (init : τ) (x : EStateM ε (σ × τ) α) : EStateM ε σ (α × τ) := fun s =>
  match x (s, init) with
  | .ok a t => .ok (a, t.2) t.1
  | .error e t => .error e t.1

/-- The second part of the state. -/
def snd : EStateM ε (σ × τ) τ := fun s => .ok s.2 s

theorem outcome_ok_iff {x : Except ε α} {a : α} {s t : σ} : outcome x s = .ok a t ↔ x = .ok a ∧ s = t := by
  cases x <;> simp [outcome]

theorem raiseIf_ok_iff {bad : Bool} {e : ε} {s t : σ} : raiseIf bad e s = .ok () t ↔ bad = false ∧ s = t := by
  rw [raiseIf, outcome_ok_iff, rejectIf_ok]

theorem settle_ok_iff {x : EStateM ε σ α} {a : α} {s t : σ} : settle x s = .ok (.ok a) t ↔ x s = .ok a t := by
  unfold settle
  cases x s <;> simp

/-- A call that does not see the second component leaves it alone. -/
theorem onFst_ok_iff {x : EStateM ε σ α} {a : α} {s t : σ × τ} :
    onFst x s = .ok a t ↔ x s.1 = .ok a t.1 ∧ s.2 = t.2 := by
  unfold onFst
  cases x s.1 with
  | ok b u => simp [Prod.ext_iff, and_assoc]
  | error e u => simp

theorem onSnd_ok_iff {f : τ → τ} {s t : σ × τ} : onSnd (ε := ε) f s = .ok () t ↔ s.1 = t.1 ∧ f s.2 = t.2 := by
  simp [onSnd, Prod.ext_iff]

/-- Local variables start where the block starts, and are handed back. -/
theorem locally_ok_iff {init : τ} {x : EStateM ε (σ × τ) α} {a : α} {m : τ} {s t : σ} :
    locally init x s = .ok (a, m) t ↔ x (s, init) = .ok a (t, m) := by
  unfold locally
  cases x (s, init) with
  | ok b u =>
    simp only [EStateM.Result.ok.injEq, Prod.ext_iff]
    tauto
  | error e u => simp

theorem snd_ok_iff {m : τ} {s t : σ × τ} : snd (ε := ε) s = .ok m t ↔ s.2 = m ∧ s = t := by
  simp [snd]

/-! ## Loops -/

/-- `n` runs in a row that return. -/
inductive Times (x : EStateM ε σ α) : Nat → σ → List α → σ → Prop
  | zero (s : σ) : Times x 0 s [] s
  | succ {n : Nat} {s t u : σ} {a : α} {as : List α} (first : x s = .ok a t) (rest : Times x n t as u) :
    Times x (n + 1) s (a :: as) u

/-- The same so many times. -/
def repeatedly (x : EStateM ε σ α) : Nat → EStateM ε σ (List α)
  | 0 => pure []
  | n + 1 => do
    let a ← x
    let as ← repeatedly x n
    return a :: as

/-- A loop over a count that ends is a chain of its turns. -/
theorem repeatedly_ok {x : EStateM ε σ α} {n : Nat} {s t : σ} {as : List α} (ok : repeatedly x n s = .ok as t) :
    Times x n s as t := by
  induction n generalizing s as with
  | zero =>
    obtain ⟨rfl, rfl⟩ := pure_ok_iff.mp ok
    exact .zero s
  | succ n ih =>
    obtain ⟨a, u, first, ok⟩ := bind_ok_iff.mp ok
    obtain ⟨as, v, rest, ok⟩ := bind_ok_iff.mp ok
    obtain ⟨rfl, rfl⟩ := pure_ok_iff.mp ok
    exact .succ first (ih rest)

theorem Times.length {x : EStateM ε σ α} {n : Nat} {s t : σ} {as : List α} (runs : Times x n s as t) : as.length = n := by
  induction runs with
  | zero => rfl
  | succ _ _ ih => rw [List.length_cons, ih]

/-- What each run establishes holds of every result. -/
theorem Times.forall {x : EStateM ε σ α} {p : α → Prop} (each : ∀ s a t, x s = .ok a t → p a) {n : Nat} {s t : σ}
    {as : List α} (runs : Times x n s as t) : ∀ a ∈ as, p a := by
  induction runs with
  | zero => simp
  | succ first _ ih => exact List.forall_mem_cons.mpr ⟨each _ _ _ first, ih⟩

/-- The turns of a loop over a list, one after the other. -/
inductive Threaded (turn : α → σ → β → σ → Prop) : List α → σ → List β → σ → Prop
  | nil (s : σ) : Threaded turn [] s [] s
  | cons {a : α} {rest : List α} {s t u : σ} {b : β} {bs : List β} (first : turn a s b t)
    (others : Threaded turn rest t bs u) : Threaded turn (a :: rest) s (b :: bs) u

/-- Each turn may be seen through a function of its result. -/
theorem Threaded.map {turn : α → σ → β → σ → Prop} {turn' : α → σ → γ → σ → Prop} {f : β → γ}
    (each : ∀ a s b t, turn a s b t → turn' a s (f b) t) {as : List α} {s t : σ} {bs : List β}
    (runs : Threaded turn as s bs t) : Threaded turn' as s (bs.map f) t := by
  induction runs with
  | nil => exact .nil _
  | cons first _ ih => exact .cons (each _ _ _ _ first) ih

/-- What the turns of a list leave behind another list's turns. -/
theorem Threaded.append {turn : α → σ → β → σ → Prop} {as as' : List α} {s t u : σ} {bs bs' : List β}
    (first : Threaded turn as s bs t) (second : Threaded turn as' t bs' u) :
    Threaded turn (as ++ as') s (bs ++ bs') u := by
  induction first with
  | nil => exact second
  | cons first _ ih => exact .cons first (ih second)

/-- The turns as a part of the state shows them. -/
theorem Threaded.project {turn : α → σ → β → σ → Prop} {turn' : α → τ → β → τ → Prop} {f : σ → τ}
    (each : ∀ a s b t, turn a s b t → turn' a (f s) b (f t)) {as : List α} {s t : σ} {bs : List β}
    (runs : Threaded turn as s bs t) : Threaded turn' as (f s) bs (f t) := by
  induction runs with
  | nil => exact .nil _
  | cons first _ ih => exact .cons (each _ _ _ _ first) ih

/-- A label that every turn hands on. -/
theorem Threaded.map_eq {turn : α → σ → β → σ → Prop} {f : α → γ} {g : β → γ}
    (each : ∀ a s b t, turn a s b t → g b = f a) {as : List α} {s t : σ} {bs : List β}
    (runs : Threaded turn as s bs t) : bs.map g = as.map f := by
  induction runs with
  | nil => rfl
  | cons first _ ih => rw [List.map_cons, List.map_cons, each _ _ _ _ first, ih]

/-- A loop whose turns are loops themselves. -/
theorem Threaded.flatten {δ : Type} {turn : α → σ → β → σ → Prop} {inner : γ → σ → δ → σ → Prop} {expand : α → List γ}
    (each : ∀ a s b t, turn a s b t → ∃ ds, Threaded inner (expand a) s ds t) {as : List α} {s t : σ} {bs : List β}
    (runs : Threaded turn as s bs t) : ∃ ds, Threaded inner (as.flatMap expand) s ds t := by
  induction runs with
  | nil => exact ⟨[], .nil _⟩
  | cons first _ ih =>
    obtain ⟨ds, here⟩ := each _ _ _ _ first
    obtain ⟨rest, later⟩ := ih
    exact ⟨ds ++ rest, here.append later⟩

/-- The same turn so many times. -/
theorem Times.threaded {x : EStateM ε σ α} {turn : γ → σ → β → σ → Prop} {c : γ}
    (each : ∀ s a t, x s = .ok a t → ∃ b, turn c s b t) {n : Nat} {s t : σ} {as : List α} (runs : Times x n s as t) :
    ∃ bs, Threaded turn (List.replicate n c) s bs t := by
  induction runs with
  | zero => exact ⟨[], .nil _⟩
  | succ first _ ih =>
    obtain ⟨b, here⟩ := each _ _ _ first
    obtain ⟨bs, later⟩ := ih
    exact ⟨b :: bs, .cons here later⟩

/-- A loop that collects what its turns return. -/
def collect (f : α → EStateM ε σ β) : List α → EStateM ε σ (List β)
  | [] => pure []
  | a :: rest => do
    let b ← f a
    let bs ← collect f rest
    return b :: bs

/-- A loop over a list that ends is a chain of its turns. -/
theorem collect_ok {f : α → EStateM ε σ β} {as : List α} {bs : List β} {s t : σ} (ok : collect f as s = .ok bs t) :
    Threaded (fun a s b t => f a s = .ok b t) as s bs t := by
  induction as generalizing s bs with
  | nil =>
    obtain ⟨rfl, rfl⟩ := pure_ok_iff.mp ok
    exact .nil _
  | cons a rest ih =>
    obtain ⟨b, u, first, ok⟩ := bind_ok_iff.mp ok
    obtain ⟨others, v, more, ok⟩ := bind_ok_iff.mp ok
    obtain ⟨rfl, rfl⟩ := pure_ok_iff.mp ok
    exact .cons first (ih more)

end Effect

end EmsDnp3
