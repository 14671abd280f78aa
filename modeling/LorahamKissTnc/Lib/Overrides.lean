/-
Records that are filled by a list of settings, where the last one counts.

A record has fields, and `read` gives the value of each. A setting is applied to
a record and may be refused. `LastWins` says what a front end promises of its
settings: whether one is accepted does not depend on the record, the fields it
writes and the values they get are its own, and every other field keeps its
value.

From there a whole list is decided field by field: `read_run` finds the value of
a field at the last setting that writes it, and `run_isSome` says when the list
is accepted. What holds of every accepted value holds of the record
(`read_invariant`). `run_setting` is for texts that are applied as the settings they
stand for.
-/
import Mathlib.Data.List.Basic

set_option autoImplicit false

namespace LorahamKissTnc.Lib.Overrides

/-! ## Settings of a record -/

section Settings

variable {σ α φ : Type} {V : φ → Type}

/-- The last of the settings that writes the field. -/
def last_writer (writes : α → φ → Bool) (f : φ) (settings : List α) : Option α :=
  (settings.filter (writes · f)).getLast?

/-- A setting is accepted or refused whatever the record, and an accepted one
gives the fields it writes its own values. -/
structure LastWins (apply : σ → α → Option σ) (read : (f : φ) → σ → V f)
    (accepted : α → Bool) (writes : α → φ → Bool) (value : α → (f : φ) → V f) : Prop where
  accepts : ∀ s a, (apply s a).isSome = accepted a
  written : ∀ s a s' f, apply s a = some s' → writes a f = true → read f s' = value a f
  kept : ∀ s a s' f, apply s a = some s' → writes a f = false → read f s' = read f s

variable {writes : α → φ → Bool} {f : φ}

/-- A setting counts until a later one writes the field again. -/
theorem last_writer_cons (a : α) (settings : List α) :
    last_writer writes f (a :: settings)
      = (last_writer writes f settings).or (if writes a f then some a else none) := by
  unfold last_writer
  rw [List.filter_cons]
  split
  · rw [List.getLast?_cons]
    cases (settings.filter (writes · f)).getLast? <;> rfl
  · simp only [Option.or_none]

/-- The last setting counts when it writes the field. -/
theorem last_writer_concat (settings : List α) (a : α) :
    last_writer writes f (settings ++ [a])
      = if writes a f then some a else last_writer writes f settings := by
  unfold last_writer
  rw [List.filter_append]
  cases hwrites : writes a f with
  | true => simp [hwrites]
  | false => simp [hwrites]

/-- The last writer is one of the settings, and writes the field. -/
theorem last_writer_mem {settings : List α} {a : α} (h : last_writer writes f settings = some a) :
    a ∈ settings ∧ writes a f = true :=
  List.mem_filter.mp (List.mem_of_getLast? h)

variable {apply : σ → α → Option σ} {read : (f : φ) → σ → V f} {accepted : α → Bool}
  {value : α → (f : φ) → V f}

/-- **A list is accepted when every setting of it is.** -/
theorem run_isSome (h : LastWins apply read accepted writes value) (settings : List α) (s : σ) :
    (settings.foldlM apply s).isSome = true ↔ ∀ a ∈ settings, accepted a = true := by
  induction settings generalizing s with
  | nil => simp
  | cons a settings ih =>
      rw [List.foldlM_cons, List.forall_mem_cons, ← h.accepts s a]
      cases apply s a with
      | none => simp
      | some s' => simpa using ih s'

/-- **The last setting counts.** After a list, a field has the value of the last
setting that writes it, or its old one. -/
theorem read_run (h : LastWins apply read accepted writes value) {settings : List α} {s s' : σ}
    (hrun : settings.foldlM apply s = some s') (f : φ) :
    read f s' = ((last_writer writes f settings).map (value · f)).getD (read f s) := by
  induction settings generalizing s with
  | nil =>
      obtain rfl : s = s' := Option.some.inj hrun
      rfl
  | cons a settings ih =>
      rw [List.foldlM_cons] at hrun
      cases hstep : apply s a with
      | none =>
          rw [hstep] at hrun
          exact absurd hrun (by simp)
      | some s₁ =>
          rw [hstep] at hrun
          rw [ih hrun, last_writer_cons]
          cases last_writer writes f settings with
          | some b => rfl
          | none =>
              -- nothing behind `a` writes the field
              cases hw : writes a f with
              | true => exact h.written s a s₁ f hstep hw
              | false => exact h.kept s a s₁ f hstep hw

/-- **What a list comes to.** A record with nothing but its fields is determined by
the last settings, and reached if all settings are accepted. -/
theorem run_eq_some_iff (h : LastWins apply read accepted writes value)
    (hext : ∀ s s', (∀ f, read f s = read f s') → s = s') (settings : List α) (s s' : σ) :
    settings.foldlM apply s = some s' ↔
      (∀ a ∈ settings, accepted a = true) ∧
        ∀ f, read f s' = ((last_writer writes f settings).map (value · f)).getD (read f s) := by
  constructor
  · intro hrun
    exact ⟨(run_isSome h settings s).mp (by rw [hrun]; rfl), read_run h hrun⟩
  · rintro ⟨haccepted, hread⟩
    obtain ⟨s₁, hrun⟩ := Option.isSome_iff_exists.mp ((run_isSome h settings s).mpr haccepted)
    rw [hrun, hext s₁ s' fun f => by rw [read_run h hrun f, hread f]]

/-- **What holds of every value holds of the record.** -/
theorem read_invariant (h : LastWins apply read accepted writes value) {P : (f : φ) → V f → Prop}
    (hvalue : ∀ a f, accepted a = true → writes a f = true → P f (value a f)) {settings : List α}
    {s s' : σ} (hrun : settings.foldlM apply s = some s') (hstart : ∀ f, P f (read f s)) (f : φ) :
    P f (read f s') := by
  rw [read_run h hrun f]
  cases hlast : last_writer writes f settings with
  | none => exact hstart f
  | some a =>
      obtain ⟨hmem, hwrites⟩ := last_writer_mem hlast
      have haccepted := (run_isSome h settings s).mp (by rw [hrun]; rfl) a hmem
      exact hvalue a f haccepted hwrites

end Settings

/-! ## Other forms of a setting -/

section Forms

variable {σ α β : Type} {apply : σ → α → Option σ} {form : σ → β → Option σ}
  {setting : β → Option α} {well_formed : β → Bool}

/-- **Texts are read as the settings they stand for.** A text that stands for a
setting, or for nothing, is applied as that; a list of texts is the list of their
settings, once all of them are well formed. -/
theorem run_setting
    (h : ∀ s b, form s b
      = if well_formed b = true then (setting b).elim (some s) (apply s) else none)
    (texts : List β) (s s' : σ) :
    texts.foldlM form s = some s' ↔
      (∀ b ∈ texts, well_formed b = true) ∧
        (texts.filterMap setting).foldlM apply s = some s' := by
  induction texts generalizing s with
  | nil => simp
  | cons b texts ih =>
      rw [List.foldlM_cons, h, List.forall_mem_cons]
      by_cases hb : well_formed b = true
      · rw [if_pos hb]
        cases hs : setting b with
        | none =>
            -- an empty text changes nothing
            rw [List.filterMap_cons_none hs]
            simpa [hb] using ih s
        | some a =>
            rw [List.filterMap_cons_some hs, List.foldlM_cons]
            cases happly : apply s a with
            | none => simp [happly]
            | some s₁ => simpa [happly, hb] using ih s₁
      · rw [if_neg hb]
        simp [hb]

end Forms

end LorahamKissTnc.Lib.Overrides
