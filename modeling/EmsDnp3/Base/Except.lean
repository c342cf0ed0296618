import Mathlib

/-!
# Fallible code

Parsers and validators return `Except`. A check that raises is `rejectIf`, and a
successful run is taken apart one bind at a time by `ok_bind_iff`: no proof unfolds a
validator further than the step it needs.
-/

namespace EmsDnp3

universe u

section
variable {ε : Type u} {α β : Type u}

/-- A successful sequence is a successful first part and a successful rest. -/
theorem ok_bind_iff {x : Except ε α} {f : α → Except ε β} {b : β} :
    x >>= f = .ok b ↔ ∃ a, x = .ok a ∧ f a = .ok b := by
  cases x with
  | error e => simp [bind, Except.bind]
  | ok a => simp [bind, Except.bind]

@[simp] theorem ok_bind (a : α) (f : α → Except ε β) : (.ok a : Except ε α) >>= f = f a := rfl

@[simp] theorem ok_pure_iff {a b : α} : (pure a : Except ε α) = .ok b ↔ a = b := by
  simp [pure, Except.pure]

@[simp] theorem throw_ne_ok {e : ε} {b : α} : (throw e : Except ε α) = .ok b ↔ False := by
  simp [throw, throwThe, MonadExceptOf.throw]

end

/-- Another name for the error changes no result. -/
theorem mapError_ok_iff {ε ε' α : Type} {f : ε → ε'} {x : Except ε α} {a : α} : x.mapError f = .ok a ↔ x = .ok a := by
  cases x <;> simp [Except.mapError]

/-- What a checking loop collects, in order. -/
theorem mapM_ok_forall₂ {ε α β : Type} {f : α → Except ε β} {as : List α} {bs : List β} (ok : as.mapM f = .ok bs) :
    List.Forall₂ (fun a b => f a = .ok b) as bs := by
  induction as generalizing bs with
  | nil =>
    obtain rfl := ok_pure_iff.mp ok
    exact .nil
  | cons first rest ih =>
    rw [List.mapM_cons] at ok
    obtain ⟨b, here, ok⟩ := ok_bind_iff.mp ok
    obtain ⟨others, more, ok⟩ := ok_bind_iff.mp ok
    obtain rfl := ok_pure_iff.mp ok
    exact .cons here (ih more)

/-- A list that a checking loop has collected has what every element was checked to. -/
theorem mapM_ok_mem {ε α β : Type} {f : α → Except ε β} {as : List α} {bs : List β} (ok : as.mapM f = .ok bs) {a : α}
    (mem : a ∈ as) : ∃ b ∈ bs, f a = .ok b := by
  have checked := mapM_ok_forall₂ ok
  clear ok
  induction checked with
  | nil => cases mem
  | @cons a' b as bs here _ ih =>
    rcases List.mem_cons.mp mem with rfl | later
    · exact ⟨b, List.mem_cons_self, here⟩
    · obtain ⟨c, inside, found⟩ := ih later
      exact ⟨c, List.mem_cons_of_mem _ inside, found⟩

/-- Whatever `x` raises satisfies `p`. -/
def ErrorsAre {ε α : Type} (p : ε → Prop) (x : Except ε α) : Prop := ∀ e, x = .error e → p e

section
variable {ε ε' α β : Type} {p : ε → Prop} {x : Except ε α}

theorem errorsAre_ok {a : α} : ErrorsAre p (.ok a : Except ε α) := by
  intro e raised
  cases raised

theorem errorsAre_error {e : ε} (holds : p e) : ErrorsAre p (.error e : Except ε α) := by
  rintro _ ⟨⟩
  exact holds

/-- A sequence raises what its first part raises, or what the rest raises after it. -/
theorem errorsAre_bind {f : α → Except ε β} (first : ErrorsAre p x)
    (rest : ∀ a, x = .ok a → ErrorsAre p (f a)) : ErrorsAre p (x >>= f) := by
  cases x with
  | error e =>
    rintro _ ⟨⟩
    exact first e rfl
  | ok a => exact rest a rfl

/-- The errors are those of the inner computation, each seen through the function. -/
theorem errorsAre_mapError {f : ε' → ε} {y : Except ε' α} (inner : ErrorsAre (fun e => p (f e)) y) :
    ErrorsAre p (y.mapError f) := by
  cases y with
  | error e =>
    rintro _ ⟨⟩
    exact inner e rfl
  | ok a => exact errorsAre_ok

/-- A loop raises what one of its turns raises. -/
theorem errorsAre_forM {xs : List β} {f : β → Except ε Unit} (each : ∀ b ∈ xs, ErrorsAre p (f b)) :
    ErrorsAre p (xs.forM f) := by
  induction xs with
  | nil => exact errorsAre_ok
  | cons b xs ih =>
    refine errorsAre_bind (each b List.mem_cons_self) fun _ _ => ?_
    exact ih fun c mem => each c (List.mem_cons_of_mem _ mem)

/-- A loop passes when each of its turns does. -/
theorem forM_ok_iff {xs : List β} {f : β → Except ε Unit} : xs.forM f = .ok () ↔ ∀ b ∈ xs, f b = .ok () := by
  induction xs with
  | nil => simp [pure, Except.pure]
  | cons b xs ih =>
    rw [List.forM_eq_forM, List.forM_cons, ok_bind_iff, List.forall_mem_cons, ← ih]
    exact ⟨fun ⟨_, first, rest⟩ => ⟨first, rest⟩, fun ⟨first, rest⟩ => ⟨(), first, rest⟩⟩

end

/-- `if bad: raise e`. -/
def rejectIf {ε : Type} (bad : Bool) (e : ε) : Except ε Unit := if bad then .error e else .ok ()

@[simp] theorem rejectIf_ok {ε : Type} {bad : Bool} {e : ε} {u : Unit} :
    rejectIf bad e = .ok u ↔ bad = false := by
  cases bad <;> simp [rejectIf]

theorem rejectIf_pass {ε : Type} {bad : Bool} {e : ε} (good : bad = false) : rejectIf bad e = .ok () :=
  rejectIf_ok.mpr good

@[simp] theorem rejectIf_error {ε : Type} {bad : Bool} {e e' : ε} :
    rejectIf bad e = .error e' ↔ bad = true ∧ e = e' := by
  cases bad <;> simp [rejectIf]

theorem errorsAre_rejectIf {ε : Type} {p : ε → Prop} {bad : Bool} {e : ε} (holds : p e) : ErrorsAre p (rejectIf bad e) := by
  cases bad
  · exact errorsAre_ok
  · exact errorsAre_error holds

end EmsDnp3
