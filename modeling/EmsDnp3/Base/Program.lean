import EmsDnp3.Base.Except

/-!
# Programs of atomic operations

A program is a result, an exception, or an operation and what is done with its answer. What the operations do is a
relation on states, so an operation may have several outcomes. A run can stop in front of every operation: `Always`
holds of a program when the states in front of its operations satisfy an invariant, and its results a postcondition.
-/

namespace EmsDnp3

/-- A computation over operations that a state answers: it returns, raises, or asks an operation and goes on
with the answer. -/
inductive Program (O : Type) (A : O → Type) (ε α : Type) where
  | ok (a : α)
  | raise (e : ε)
  | act (op : O) (next : A op → Program O A ε α)

namespace Program

section
variable {O : Type} {A : O → Type} {ε ε' α β : Type}

/-- The second part goes on with the value of the first one. -/
protected def bind : Program O A ε α → (α → Program O A ε β) → Program O A ε β
  | .ok a, f => f a
  | .raise e, _ => .raise e
  | .act op next, f => .act op fun answer => (next answer).bind f

instance : Monad (Program O A ε) where
  pure := .ok
  bind := Program.bind

@[simp] theorem bind_ok (a : α) (f : α → Program O A ε β) : (Program.ok a).bind f = f a := rfl

@[simp] theorem bind_raise (e : ε) (f : α → Program O A ε β) : (Program.raise e).bind f = .raise e := rfl

/-- One operation, its failure an answer like any other. -/
def perform (op : O) : Program O A ε (A op) := .act op .ok

/-- `try: .. except ..` -/
def handle : Program O A ε α → (ε → Program O A ε' α) → Program O A ε' α
  | .ok a, _ => .ok a
  | .raise e, handler => handler e
  | .act op next, handler => .act op fun answer => (next answer).handle handler

/-- `try: .. finally: ..` -/
def ensuring : Program O A ε α → Program O A ε Unit → Program O A ε α
  | .ok a, last => last.bind fun _ => .ok a
  | .raise e, last => last.bind fun _ => .raise e
  | .act op next, last => .act op fun answer => (next answer).ensuring last

/-- A result that is there already. -/
def ofExcept : Except ε α → Program O A ε α
  | .ok a => .ok a
  | .error e => .raise e

/-- The program still has operations to do. -/
def IsRunning : Program O A ε α → Prop
  | .act _ _ => True
  | _ => False

end

variable {O : Type} {A : O → Type} {ε ε' α β σ : Type}

/-! ## Runs -/

/-- What is reached from a program and a state, under the outcomes that the operations can have. -/
inductive Reaches (does : σ → (op : O) → A op → σ → Prop) : Program O A ε α → σ → Program O A ε α → σ → Prop
  | refl (p : Program O A ε α) (s : σ) : Reaches does p s p s
  | act {op : O} {next : A op → Program O A ε α} {s t u : σ} {answer : A op} {q : Program O A ε α}
      (first : does s op answer t) (rest : Reaches does (next answer) t q u) : Reaches does (.act op next) s q u

/-- The run in which every operation has the outcome that `outcome` gives. -/
def run (outcome : σ → (op : O) → A op × σ) : Program O A ε α → σ → Except ε α × σ
  | .ok a, s => (.ok a, s)
  | .raise e, s => (.error e, s)
  | .act op next, s => (next (outcome s op).1).run outcome (outcome s op).2

/-- The invariant holds in front of every operation, and the postcondition of what comes out. -/
def Always (does : σ → (op : O) → A op → σ → Prop) (inv : σ → Prop) (post : Except ε α → σ → Prop) :
    Program O A ε α → σ → Prop
  | .ok a, s => post (.ok a) s
  | .raise e, s => post (.error e) s
  | .act op next, s => inv s ∧ ∀ answer t, does s op answer t → (next answer).Always does inv post t

variable {does : σ → (op : O) → A op → σ → Prop} {inv inv' : σ → Prop} {post post' : Except ε α → σ → Prop}
  {p q : Program O A ε α} {s t : σ}

/-- What holds always holds of everything that is reached. -/
theorem Always.reached (always : p.Always does inv post s) (reaches : Reaches does p s q t) :
    q.Always does inv post t := by
  induction reaches with
  | refl => exact always
  | act first _ ih => exact ih (always.2 _ _ first)

/-- A run that is stopped somewhere: in front of an operation, or with a result. -/
theorem Always.cases (always : p.Always does inv post s) (reaches : Reaches does p s q t) :
    (q.IsRunning ∧ inv t) ∨ (∃ a, q = .ok a ∧ post (.ok a) t) ∨ ∃ e, q = .raise e ∧ post (.error e) t := by
  have there := always.reached reaches
  cases q with
  | ok a => exact .inr (.inl ⟨a, rfl, there⟩)
  | raise e => exact .inr (.inr ⟨e, rfl, there⟩)
  | act op next => exact .inl ⟨trivial, there.1⟩

/-- A weaker invariant and a weaker postcondition hold as well. -/
theorem Always.mono (always : p.Always does inv post s) (weaker : ∀ s, inv s → inv' s)
    (after : ∀ r s, post r s → post' r s) : p.Always does inv' post' s := by
  induction p generalizing s with
  | ok a => exact after _ s always
  | raise e => exact after _ s always
  | act op next ih => exact ⟨weaker s always.1, fun answer t step => ih answer (always.2 answer t step)⟩

/-- Two programs in a row. -/
theorem always_bind {f : α → Program O A ε β} {post : Except ε β → σ → Prop}
    (first : p.Always does inv (fun
      | .ok a, s => (f a).Always does inv post s
      | .error e, s => post (.error e) s) s) : (p.bind f).Always does inv post s := by
  induction p generalizing s with
  | ok a => exact first
  | raise e => exact first
  | act op next ih => exact ⟨first.1, fun answer t step => ih answer (first.2 answer t step)⟩

/-- A program and the handler of its exceptions. -/
theorem always_handle {handler : ε → Program O A ε' α} {post : Except ε' α → σ → Prop}
    (first : p.Always does inv (fun
      | .ok a, s => post (.ok a) s
      | .error e, s => (handler e).Always does inv post s) s) : (p.handle handler).Always does inv post s := by
  induction p generalizing s with
  | ok a => exact first
  | raise e => exact first
  | act op next ih => exact ⟨first.1, fun answer t step => ih answer (first.2 answer t step)⟩

/-- A program and what is done after it in any case. -/
theorem always_ensuring {last : Program O A ε Unit}
    (first : p.Always does inv (fun r s => last.Always does inv (fun
      | .ok _, s => post r s
      | .error e, s => post (.error e) s) s) s) : (p.ensuring last).Always does inv post s := by
  induction p generalizing s with
  | ok a => exact always_bind (Always.mono first (fun _ => id) fun | .ok _, _ => id | .error _, _ => id)
  | raise e => exact always_bind (Always.mono first (fun _ => id) fun | .ok _, _ => id | .error _, _ => id)
  | act op next ih => exact ⟨first.1, fun answer t step => ih answer (first.2 answer t step)⟩

/-- A computation without operations needs its postcondition only. -/
theorem always_ofExcept {x : Except ε α} (ok : ∀ a, x = .ok a → post (.ok a) s)
    (error : ∀ e, x = .error e → post (.error e) s) : (ofExcept x).Always does inv post s := by
  cases x with
  | ok a => exact ok a rfl
  | error e => exact error e rfl

/-! ## Exceptions -/

/-- Whatever the program raises satisfies `P`. -/
def Raises (P : ε → Prop) : Program O A ε α → Prop
  | .ok _ => True
  | .raise e => P e
  | .act _ next => ∀ answer, (next answer).Raises P

variable {P P' : ε → Prop}

/-- What a program can raise may be added to its postcondition. -/
theorem Always.raises (always : p.Always does inv post s) (raises : p.Raises P) :
    p.Always does inv (fun r s => post r s ∧ ∀ e, r = .error e → P e) s := by
  induction p generalizing s with
  | ok a => exact ⟨always, by simp⟩
  | raise e =>
    refine ⟨always, ?_⟩
    rintro _ ⟨⟩
    exact raises
  | act op next ih => exact ⟨always.1, fun answer t step => ih answer (always.2 answer t step) (raises answer)⟩

theorem raises_bind {f : α → Program O A ε β} (first : p.Raises P) (rest : ∀ a, (f a).Raises P) : (p.bind f).Raises P := by
  induction p with
  | ok a => exact rest a
  | raise e => exact first
  | act op next ih => exact fun answer => ih answer (first answer)

/-- Behind a handler only the handler raises. -/
theorem raises_handle {P : ε' → Prop} {handler : ε → Program O A ε' α} (first : p.Raises P')
    (rest : ∀ e, P' e → (handler e).Raises P) : (p.handle handler).Raises P := by
  induction p with
  | ok a => exact trivial
  | raise e => exact rest e first
  | act op next ih => exact fun answer => ih answer (first answer)

/-- A computation without operations raises its own errors. -/
theorem raises_ofExcept {x : Except ε α} (errors : ErrorsAre P x) : (ofExcept x : Program O A ε α).Raises P := by
  cases x with
  | ok a => exact trivial
  | error e => exact errors e rfl

/-- A run with outcomes that the operations can have reaches its result. -/
theorem reaches_run {outcome : σ → (op : O) → A op × σ}
    (can : ∀ s op, does s op (outcome s op).1 (outcome s op).2) (p : Program O A ε α) (s : σ) :
    Reaches does p s (ofExcept (p.run outcome s).1) (p.run outcome s).2 := by
  induction p generalizing s with
  | ok a => exact .refl _ _
  | raise e => exact .refl _ _
  | act op next ih => exact .act (can s op) (ih _ _)

/-- A run to the end is one of the things that can happen. -/
theorem Reaches.of_run {outcome : σ → (op : O) → A op × σ} {r : Except ε α}
    (can : ∀ s op, does s op (outcome s op).1 (outcome s op).2) (run : p.run outcome s = (r, t)) :
    Reaches does p s (ofExcept r) t := by
  have there := reaches_run can p s
  rwa [run] at there

/-- What always holds of a program holds of such a run. -/
theorem Always.run {outcome : σ → (op : O) → A op × σ} {r : Except ε α} (always : p.Always does inv post s)
    (can : ∀ s op, does s op (outcome s op).1 (outcome s op).2) (run : p.run outcome s = (r, t)) : post r t := by
  have there := always.reached (.of_run can run)
  cases r with
  | ok a => exact there
  | error e => exact there

theorem Reaches.mono {does' : σ → (op : O) → A op → σ → Prop} (reaches : Reaches does p s q t)
    (weaker : ∀ s op answer t, does s op answer t → does' s op answer t) : Reaches does' p s q t := by
  induction reaches with
  | refl => exact .refl _ _
  | act first _ ih => exact .act (weaker _ _ _ _ first) ih

/-- An operation has the outcome that `outcome` gives. -/
def Normal (outcome : σ → (op : O) → A op × σ) (s : σ) (op : O) (answer : A op) (t : σ) : Prop := outcome s op = (answer, t)

/-- The rest of a run. -/
theorem Reaches.run_eq {outcome : σ → (op : O) → A op × σ} (reaches : Reaches (Normal outcome) p s q t) :
    p.run outcome s = q.run outcome t := by
  induction reaches with
  | refl => rfl
  | act first _ ih => rw [← ih, run, show outcome _ _ = _ from first]

theorem Reaches.trans {r : Program O A ε α} {u : σ} (one : Reaches does p s q t) (two : Reaches does q t r u) :
    Reaches does p s r u := by
  induction one with
  | refl => exact two
  | act first _ ih => exact .act first (ih two)

/-- The first part of a sequence moves on inside it. -/
theorem Reaches.bind {f : α → Program O A ε β} (one : Reaches does p s q t) :
    Reaches does (p.bind f) s (q.bind f) t := by
  induction one with
  | refl => exact .refl _ _
  | act first _ ih => exact .act first ih

theorem Reaches.bind_ok {f : α → Program O A ε β} {a : α} {r : Program O A ε β} {u : σ} (one : Reaches does p s (.ok a) t)
    (two : Reaches does (f a) t r u) : Reaches does (p.bind f) s r u :=
  one.bind.trans two

theorem Reaches.handle {handler : ε → Program O A ε' α} (one : Reaches does p s q t) :
    Reaches does (p.handle handler) s (q.handle handler) t := by
  induction one with
  | refl => exact .refl _ _
  | act first _ ih => exact .act first ih

theorem run_ofExcept (outcome : σ → (op : O) → A op × σ) (x : Except ε α) (s : σ) :
    (ofExcept x : Program O A ε α).run outcome s = (x, s) := by
  cases x <;> rfl

section
variable {outcome : σ → (op : O) → A op × σ}

theorem run_perform {op : O} {answer : A op} (there : outcome s op = (answer, t)) :
    (perform op : Program O A ε _).run outcome s = (.ok answer, t) := by
  show (Except.ok (outcome s op).1, (outcome s op).2) = _
  rw [there]

/-- The second part runs behind the first one. -/
theorem run_bind_ok {f : α → Program O A ε β} {a : α} (first : p.run outcome s = (.ok a, t)) :
    (p.bind f).run outcome s = (f a).run outcome t := by
  induction p generalizing s with
  | ok b =>
    obtain ⟨same, rfl⟩ := Prod.mk.inj first
    obtain rfl := Except.ok.inj same
    rfl
  | raise e => exact absurd (Prod.mk.inj first).1 (by simp)
  | act op next ih => exact ih _ first

/-- What the first part raises ends the sequence. -/
theorem run_bind_error {f : α → Program O A ε β} {e : ε} (first : p.run outcome s = (.error e, t)) :
    (p.bind f).run outcome s = (.error e, t) := by
  induction p generalizing s with
  | ok a => exact absurd (Prod.mk.inj first).1 (by simp)
  | raise e' =>
    obtain ⟨same, rfl⟩ := Prod.mk.inj first
    obtain rfl := Except.error.inj same
    rfl
  | act op next ih => exact ih _ first

/-- A body that returns does not see its handler. -/
theorem run_handle_ok {handler : ε → Program O A ε' α} {a : α} (first : p.run outcome s = (.ok a, t)) :
    (p.handle handler).run outcome s = (.ok a, t) := by
  induction p generalizing s with
  | ok b =>
    obtain ⟨same, rfl⟩ := Prod.mk.inj first
    obtain rfl := Except.ok.inj same
    rfl
  | raise e => exact absurd (Prod.mk.inj first).1 (by simp)
  | act op next ih => exact ih _ first

/-- The handler runs where the body raised. -/
theorem run_handle_error {handler : ε → Program O A ε' α} {e : ε} (first : p.run outcome s = (.error e, t)) :
    (p.handle handler).run outcome s = (handler e).run outcome t := by
  induction p generalizing s with
  | ok a => exact absurd (Prod.mk.inj first).1 (by simp)
  | raise e' =>
    obtain ⟨same, rfl⟩ := Prod.mk.inj first
    obtain rfl := Except.error.inj same
    rfl
  | act op next ih => exact ih _ first

/-- The last part runs in any case, and the result is that of the body. -/
theorem run_ensuring {last : Program O A ε Unit} {r : Except ε α} {u : σ} (first : p.run outcome s = (r, t))
    (second : last.run outcome t = (.ok (), u)) : (p.ensuring last).run outcome s = (r, u) := by
  induction p generalizing s with
  | ok a =>
    obtain ⟨rfl, rfl⟩ := Prod.mk.inj first
    exact run_bind_ok second
  | raise e =>
    obtain ⟨rfl, rfl⟩ := Prod.mk.inj first
    exact run_bind_ok second
  | act op next ih => exact ih _ first

end

end Program

end EmsDnp3
