/-
A relay: what it takes in waits in a line of bounded length, and leaves it at the
front, on the air or not.

This is a store-and-forward component with everything taken away but the order
of events. `relay_step` refuses to take more than fits and to remove what is not
there. The laws of an accepted run are in `RelayRun`: everything taken has left,
in the order it came, or still waits; what went on the air is a selection of what
left; and the line keeps to its bound.
-/
import LorahamKissTnc.Lib.Machine

set_option autoImplicit false

namespace LorahamKissTnc.Lib.Relay

variable {α : Type*}

/-- What a relay does: it takes something in, it gives up the oldest, or it puts
the oldest on the air. -/
inductive relay_act (α : Type*) where
  | take (x : α)
  | discard
  | air
  deriving DecidableEq, Repr

/-- The line, oldest first, and what went on the air. -/
structure relay (α : Type*) where
  waiting : List α := []
  aired : List α := []
  deriving DecidableEq, Repr

/-- One action, if it is possible. -/
def relay_step (capacity : Nat) (r : relay α) : relay_act α → Option (relay α)
  | .take x =>
      if r.waiting.length < capacity then some { r with waiting := r.waiting ++ [x] } else none
  | .discard =>
      match r.waiting with
      | [] => none
      | _ :: rest => some { r with waiting := rest }
  | .air =>
      match r.waiting with
      | [] => none
      | x :: rest => some ⟨rest, r.aired ++ [x]⟩

/-- A run of one action. -/
theorem relay_run_one (capacity : Nat) (r : relay α) (act : relay_act α) :
    [act].foldlM (relay_step capacity) r = relay_step capacity r act := by
  simp [List.foldlM_cons]

/-- What was taken in. -/
def taken (acts : List (relay_act α)) : List α :=
  acts.filterMap fun
    | .take x => some x
    | _ => none

/-- The number of times something went on the air. -/
def airings (acts : List (relay_act α)) : Nat :=
  acts.countP fun
    | .air => true
    | _ => false

/-- The laws of a run from `r` to `r'`. -/
structure RelayRun (capacity : Nat) (acts : List (relay_act α)) (r r' : relay α) : Prop where
  conserved : ∃ left aired, r.waiting ++ taken acts = left ++ r'.waiting ∧
    r'.aired = r.aired ++ aired ∧ aired.Sublist left ∧ aired.length = airings acts
  bounded : r.waiting.length ≤ capacity → r'.waiting.length ≤ capacity

theorem RelayRun.refl (capacity : Nat) (r : relay α) : RelayRun capacity [] r r :=
  ⟨⟨[], [], by simp [taken], by simp, List.Sublist.refl _, rfl⟩, id⟩

/-- One action and a run. -/
theorem RelayRun.cons {capacity : Nat} {act : relay_act α} {acts : List (relay_act α)}
    {r r₁ r' : relay α} (hstep : relay_step capacity r act = some r₁)
    (h : RelayRun capacity acts r₁ r') : RelayRun capacity (act :: acts) r r' := by
  obtain ⟨⟨left, aired, hline, haired, hsub, hcount⟩, hbound⟩ := h
  cases act with
  | take x =>
      unfold relay_step at hstep
      dsimp only at hstep
      split at hstep
      · rename_i hroom
        obtain rfl := Option.some.inj hstep
        refine ⟨⟨left, aired, ?_, haired, hsub, hcount⟩, fun _ => hbound ?_⟩
        · rw [← hline]
          simp [taken]
        · rw [List.length_append, List.length_singleton]
          omega
      · exact nomatch hstep
  | discard =>
      unfold relay_step at hstep
      dsimp only at hstep
      split at hstep
      · exact nomatch hstep
      · rename_i x rest hwaiting
        obtain rfl := Option.some.inj hstep
        refine ⟨⟨x :: left, aired, ?_, haired, hsub.cons x, hcount⟩, fun hle => hbound ?_⟩
        · rw [hwaiting, List.cons_append, List.cons_append, ← hline]
          rfl
        · rw [hwaiting, List.length_cons] at hle
          show rest.length ≤ capacity
          omega
  | air =>
      unfold relay_step at hstep
      dsimp only at hstep
      split at hstep
      · exact nomatch hstep
      · rename_i x rest hwaiting
        obtain rfl := Option.some.inj hstep
        refine ⟨⟨x :: left, x :: aired, ?_, ?_, hsub.cons_cons x, ?_⟩, fun hle => hbound ?_⟩
        · rw [hwaiting, List.cons_append, List.cons_append, ← hline]
          rfl
        · rw [haired, List.append_assoc]
          rfl
        · rw [List.length_cons, hcount]
          simp [airings]
        · rw [hwaiting, List.length_cons] at hle
          show rest.length ≤ capacity
          omega

/-- **The laws of an accepted run.** -/
theorem relayRun_of_accepted {capacity : Nat} (acts : List (relay_act α)) :
    ∀ {r r' : relay α}, acts.foldlM (relay_step capacity) r = some r' →
      RelayRun capacity acts r r' := by
  induction acts with
  | nil =>
      intro r r' h
      obtain rfl := Option.some.inj h
      exact RelayRun.refl capacity r
  | cons act acts ih =>
      intro r r' h
      rw [List.foldlM_cons] at h
      obtain ⟨r₁, hstep, hrest⟩ := Option.bind_eq_some_iff.mp h
      exact RelayRun.cons hstep (ih hrest)

end LorahamKissTnc.Lib.Relay
