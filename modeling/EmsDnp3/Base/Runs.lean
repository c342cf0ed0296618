import Mathlib.Data.List.Basic

/-!
# Runs of a labelled step relation

What one step keeps, a run keeps; what one label satisfies, every label of a run satisfies; and what a step shuts stays
shut for the labels behind it.
-/

namespace EmsDnp3

/-- Steps in a row, and their labels. -/
inductive Runs {σ ε : Type} (step : σ → ε → σ → Prop) : σ → List ε → σ → Prop
  | nil (s : σ) : Runs step s [] s
  | cons {s t u : σ} {e : ε} {es : List ε} (first : step s e t) (rest : Runs step t es u) : Runs step s (e :: es) u

namespace Runs

variable {σ ε : Type} {step : σ → ε → σ → Prop} {s t : σ} {es : List ε} {I C : σ → Prop} {P Q : ε → Prop}

/-- What the invariant gives of one label holds of all of them. -/
theorem labels (kept : ∀ s e t, step s e t → I s → I t) (label : ∀ s e t, step s e t → I s → P e)
    (run : Runs step s es t) (now : I s) : ∀ e ∈ es, P e := by
  induction run with
  | nil s => simp
  | cons first _ ih => exact List.forall_mem_cons.mpr ⟨label _ _ _ first now, ih (kept _ _ _ first now)⟩

/-- A step that shuts something decides all the labels behind it. -/
theorem pairwise (kept : ∀ s e t, step s e t → I s → I t)
    (shuts : ∀ s e t, step s e t → I s → P e → C t) (stays : ∀ s e t, step s e t → I s → C s → C t)
    (later : ∀ s e t, step s e t → I s → C s → Q e) (run : Runs step s es t) (now : I s) :
    es.Pairwise fun a b => P a → Q b := by
  induction run with
  | nil s => exact List.Pairwise.nil
  | cons first rest ih =>
    have next := kept _ _ _ first now
    apply List.Pairwise.cons _ (ih next)
    intro b behind closes
    refine rest.labels (I := fun s => I s ∧ C s) ?_ ?_ ⟨next, shuts _ _ _ first now closes⟩ b behind
    · rintro s e t step ⟨now, C⟩
      exact ⟨kept _ _ _ step now, stays _ _ _ step now C⟩
    · rintro s e t step ⟨now, C⟩
      exact later _ _ _ step now C

end Runs

end EmsDnp3
