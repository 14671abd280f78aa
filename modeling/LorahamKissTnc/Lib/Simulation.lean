/-
Simulation of an input-driven machine by one that can refuse.

The abstract machine takes actions, and may refuse one (`none`). A step of the
concrete machine stands for a list of actions, its label, which may be empty.
`Simulates` asks for one step: in related states, the abstract machine accepts
the label, and the states are related again. `Simulates.run` is the same for
runs: the labels of all steps, one behind the other, are accepted from the start,
so a concrete run is explained by an abstract one, and what the abstract machine
never does, the concrete one does not do either.
-/
import LorahamKissTnc.Lib.Machine

set_option autoImplicit false

open LorahamKissTnc.Lib.Machine

namespace LorahamKissTnc.Lib.Simulation

variable {σ ε τ κ : Type*}

/-- The labels of a run, in order. -/
def labels (cstep : σ → ε → σ) (label : σ → ε → List κ) : σ → List ε → List κ
  | _, [] => []
  | s, e :: es => label s e ++ labels cstep label (cstep s e) es

@[simp] theorem labels_nil (cstep : σ → ε → σ) (label : σ → ε → List κ) (s : σ) :
    labels cstep label s [] = [] := rfl

theorem labels_cons (cstep : σ → ε → σ) (label : σ → ε → List κ) (s : σ) (e : ε) (es : List ε) :
    labels cstep label s (e :: es) = label s e ++ labels cstep label (cstep s e) es := rfl

/-- Each step is explained by its label, as long as `C` holds of the steps. -/
structure Simulates (cstep : σ → ε → σ) (C : σ → ε → Prop) (astep : τ → κ → Option τ)
    (label : σ → ε → List κ) (R : σ → τ → Prop) : Prop where
  step : ∀ s t e, R s t → C s e →
    ∃ t', (label s e).foldlM astep t = some t' ∧ R (cstep s e) t'

/-- **Runs are explained by their labels.** -/
theorem Simulates.run {cstep : σ → ε → σ} {C : σ → ε → Prop} {astep : τ → κ → Option τ}
    {label : σ → ε → List κ} {R : σ → τ → Prop} (h : Simulates cstep C astep label R)
    (es : List ε) : ∀ s t, R s t → Guarded cstep C s es →
      ∃ t', (labels cstep label s es).foldlM astep t = some t' ∧ R (Machine.run cstep s es) t' := by
  induction es with
  | nil => exact fun s t hR _ => ⟨t, rfl, hR⟩
  | cons e es ih =>
      intro s t hR hg
      obtain ⟨t₁, hstep, hR₁⟩ := h.step s t e hR hg.1
      obtain ⟨t', hrest, hR'⟩ := ih (cstep s e) t₁ hR₁ hg.2
      refine ⟨t', ?_, hR'⟩
      rw [labels_cons, List.foldlM_append, hstep]
      exact hrest

end LorahamKissTnc.Lib.Simulation
