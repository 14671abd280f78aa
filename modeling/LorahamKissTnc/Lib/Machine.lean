/-
Input-driven machines: a state, a step function that consumes one input, and
the run over a list of inputs.

Nothing here knows what the machine does. The three facts every run argument
needs are stated once: how a run splits over concatenated inputs, the induction
rule for an invariant, and the same rule when each step is only known to
preserve the invariant under a side condition on the state it starts from and
the input it consumes (`Guarded`).

The second half is the same thing for machines that also answer each input
(`scan`), which is the shape of a streaming decoder: one answer per byte, and
the answers of a concatenation are the answers of its parts.
-/
import Mathlib.Data.List.Basic

set_option autoImplicit false

namespace LorahamKissTnc.Lib.Machine

variable {σ ε β : Type*}

/-! ## Runs -/

/-- The state after consuming the inputs in order. -/
def run (step : σ → ε → σ) (s : σ) (es : List ε) : σ := es.foldl step s

@[simp] theorem run_nil (step : σ → ε → σ) (s : σ) : run step s [] = s := rfl

@[simp] theorem run_cons (step : σ → ε → σ) (s : σ) (e : ε) (es : List ε) :
    run step s (e :: es) = run step (step s e) es := rfl

theorem run_append (step : σ → ε → σ) (s : σ) (es fs : List ε) :
    run step s (es ++ fs) = run step (run step s es) fs := List.foldl_append

/-- Inputs that are translated first. -/
theorem run_map {ι : Type*} (step : σ → ε → σ) (f : ι → ε) (s : σ) (is : List ι) :
    run step s (is.map f) = run (fun s i => step s (f i)) s is := List.foldl_map

/-- Every step of the run, judged at the state it starts from, satisfies `C`. -/
def Guarded (step : σ → ε → σ) (C : σ → ε → Prop) : σ → List ε → Prop
  | _, [] => True
  | s, e :: es => C s e ∧ Guarded step C (step s e) es

/-- A condition on the inputs alone. -/
theorem guarded_of_forall {step : σ → ε → σ} {C : ε → Prop} (es : List ε)
    (h : ∀ e ∈ es, C e) : ∀ s, Guarded step (fun _ e => C e) s es := by
  induction es with
  | nil => exact fun _ => trivial
  | cons e es ih =>
      intro s
      exact ⟨h e List.mem_cons_self, ih (fun e' he' => h e' (List.mem_cons_of_mem e he')) _⟩

/-- Two conditions on the steps at once. -/
theorem guarded_and {step : σ → ε → σ} {C D : σ → ε → Prop} (es : List ε) :
    ∀ s, Guarded step C s es → Guarded step D s es → Guarded step (fun s e => C s e ∧ D s e) s es := by
  induction es with
  | nil => exact fun _ _ _ => trivial
  | cons e es ih =>
      intro s hc hd
      exact ⟨⟨hc.1, hd.1⟩, ih _ hc.2 hd.2⟩

instance decidableGuarded (step : σ → ε → σ) (C : σ → ε → Prop) [∀ s e, Decidable (C s e)] :
    ∀ (s : σ) (es : List ε), Decidable (Guarded step C s es)
  | _, [] => isTrue trivial
  | s, e :: es => @instDecidableAnd _ _ _ (decidableGuarded step C (step s e) es)

/-- The invariant rule under a side condition on the steps. -/
theorem run_induction {step : σ → ε → σ} {C : σ → ε → Prop} {P : σ → Prop}
    (hstep : ∀ s e, P s → C s e → P (step s e)) :
    ∀ (es : List ε) (s : σ), P s → Guarded step C s es → P (run step s es) := by
  intro es
  induction es with
  | nil => intro s hs _; exact hs
  | cons e es ih =>
      intro s hs hg
      exact ih (step s e) (hstep s e hs hg.1) hg.2

/-- The plain invariant rule. -/
theorem run_invariant {step : σ → ε → σ} {P : σ → Prop}
    (hstep : ∀ s e, P s → P (step s e)) (es : List ε) (s : σ) (hs : P s) :
    P (run step s es) := by
  induction es generalizing s with
  | nil => exact hs
  | cons e es ih => exact ih (step s e) (hstep s e hs)

/-! ## Streaming decoders -/

/-- Run a machine that answers every input, collecting the answers in order. -/
def scan (step : σ → ε → σ × β) : σ → List ε → σ × List β
  | s, [] => (s, [])
  | s, e :: es =>
      let r := step s e
      let rs := scan step r.1 es
      (rs.1, r.2 :: rs.2)

@[simp] theorem scan_nil (step : σ → ε → σ × β) (s : σ) : scan step s [] = (s, []) := rfl

theorem scan_cons (step : σ → ε → σ × β) (s : σ) (e : ε) (es : List ε) :
    scan step s (e :: es)
      = ((scan step (step s e).1 es).1, (step s e).2 :: (scan step (step s e).1 es).2) := rfl

/-- Chunking does not matter to a streaming decoder: the second chunk starts in
the state the first one left, and the answers are concatenated. -/
theorem scan_append (step : σ → ε → σ × β) (s : σ) (es fs : List ε) :
    scan step s (es ++ fs)
      = ((scan step (scan step s es).1 fs).1,
         (scan step s es).2 ++ (scan step (scan step s es).1 fs).2) := by
  induction es generalizing s with
  | nil => rfl
  | cons e es ih =>
      rw [List.cons_append, scan_cons, ih, scan_cons, List.cons_append]

/-! ## Fallible computations -/

/-- A successful sequence taken apart: the first part succeeded, and the rest
succeeded on its value. -/
theorem bind_eq_ok {ι : Type*} {α γ : Type*} {x : Except ι α} {f : α → Except ι γ} {c : γ}
    (h : x.bind f = .ok c) : ∃ a, x = .ok a ∧ f a = .ok c := by
  cases x with
  | error e => exact absurd h (by intro hc; cases hc)
  | ok a => exact ⟨a, rfl, h⟩

/-- A failed sequence taken apart: the first part failed, or the rest failed on its
value. -/
theorem bind_eq_error {ι : Type*} {α γ : Type*} {x : Except ι α} {f : α → Except ι γ} {e : ι}
    (h : x.bind f = .error e) : x = .error e ∨ ∃ a, x = .ok a ∧ f a = .error e := by
  cases x with
  | error e' => exact .inl (congrArg Except.error (Except.error.inj h))
  | ok a => exact .inr ⟨a, rfl, h⟩

end LorahamKissTnc.Lib.Machine
