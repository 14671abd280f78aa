/-
Progress of an input-driven machine.

A measure on the states says how much is left to do. When every step takes it
down by one as long as something is left, a run that is long enough gets to the
end (`Advances.finished`), and the invariant that made the steps advance holds
there. The inputs can come in blocks: a machine that consumes a block at a time
is the same machine (`run_flatten`), so "one iteration of a loop" is a step.
-/
import LorahamKissTnc.Lib.Machine

set_option autoImplicit false

open LorahamKissTnc.Lib.Machine

namespace LorahamKissTnc.Lib.Progress

variable {σ ε : Type*}

/-! ## A measure that goes down -/

/-- Under `C` every step keeps the invariant `P` and takes the measure `left` down
by one, as long as it is not zero. -/
structure Advances (step : σ → ε → σ) (C : σ → ε → Prop) (P : σ → Prop) (left : σ → Nat) :
    Prop where
  keeps : ∀ s e, P s → C s e → P (step s e)
  down : ∀ s e, P s → C s e → left (step s e) ≤ left s - 1

section Advances

variable {step : σ → ε → σ} {C : σ → ε → Prop} {P : σ → Prop} {left : σ → Nat}

/-- **A run takes the measure down by its length.** -/
theorem Advances.run (h : Advances step C P left) (es : List ε) :
    ∀ s, P s → Guarded step C s es →
      P (run step s es) ∧ left (run step s es) ≤ left s - es.length := by
  induction es with
  | nil => exact fun s hs _ => ⟨hs, Nat.le_refl _⟩
  | cons e es ih =>
      intro s hs hg
      obtain ⟨hP, hleft⟩ := ih (step s e) (h.keeps s e hs hg.1) hg.2
      have hdown := h.down s e hs hg.1
      refine ⟨hP, ?_⟩
      rw [run_cons, List.length_cons]
      omega

/-- **A run that is long enough finishes.** -/
theorem Advances.finished (h : Advances step C P left) (es : List ε) {s : σ} (hs : P s)
    (hg : Guarded step C s es) (hlen : left s ≤ es.length) :
    P (Machine.run step s es) ∧ left (Machine.run step s es) = 0 := by
  obtain ⟨hP, hleft⟩ := h.run es s hs hg
  exact ⟨hP, by omega⟩

end Advances

/-! ## Inputs in blocks -/

/-- A run over blocks of inputs is the run over their concatenation. -/
theorem run_flatten (step : σ → ε → σ) (blocks : List (List ε)) :
    ∀ s, run step s blocks.flatten = run (run step) s blocks := by
  induction blocks with
  | nil => exact fun _ => rfl
  | cons b blocks ih =>
      intro s
      rw [List.flatten_cons, run_append, run_cons, ih]

/-! ## Where a machine stays -/

/-- A state that no input changes is the end of every run. -/
theorem run_absorbing {step : σ → ε → σ} {s : σ} (h : ∀ e, step s e = s) (es : List ε) :
    run step s es = s := by
  induction es with
  | nil => rfl
  | cons e es ih => rw [run_cons, h e, ih]

/-- What no step changes, no run changes. -/
theorem run_unchanged {β : Type*} {step : σ → ε → σ} {P : σ → Prop} (view : σ → β)
    (h : ∀ s e, P s → P (step s e) ∧ view (step s e) = view s) (es : List ε) {s : σ} (hs : P s) :
    P (run step s es) ∧ view (run step s es) = view s := by
  refine run_invariant (P := fun s' => P s' ∧ view s' = view s) ?_ es s ⟨hs, rfl⟩
  intro s' e hs'
  obtain ⟨hP, hview⟩ := h s' e hs'.1
  exact ⟨hP, hview.trans hs'.2⟩

end LorahamKissTnc.Lib.Progress
