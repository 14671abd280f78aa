/-
A periodic timer that is looked at, not woken by.

The timer is armed by the first look at the clock, and fires at the first look at
or behind its due reading; then it is due one interval behind that look, not
behind the due reading, so delays add up and it never fires twice to catch up.
What can be said about the readings at which it fired is in `Paced`: two of them
are at least an interval apart, and at most an interval and the longest delay of
a look (`Paced.rate` counts them).
-/
import Mathlib.Data.List.Chain
import Mathlib.Tactic.Ring
import Mathlib.Tactic.Linarith

set_option autoImplicit false

namespace LorahamKissTnc.Lib.Timer

/-! ## The timer -/

/-- The reading at which the timer is due, zero before it is armed, and the readings
at which it fired. -/
structure timer where
  due : Int := 0
  fired : List Int := []
  deriving DecidableEq, Repr

/-- One look at the clock. -/
def look (interval : Int) (t : timer) (now : Int) : timer :=
  let due := if t.due = 0 then now + interval else t.due
  if due ≤ now then ⟨now + interval, t.fired ++ [now]⟩ else ⟨due, t.fired⟩

/-- The look fires, or it does not. -/
theorem look_cases (interval : Int) (t : timer) (now : Int) :
    look interval t now = ⟨now + interval, t.fired ++ [now]⟩ ∨
      now < (look interval t now).due ∧ (look interval t now).fired = t.fired := by
  unfold look
  dsimp only
  by_cases hfires : (if t.due = 0 then now + interval else t.due) ≤ now
  · rw [if_pos hfires]
    exact .inl rfl
  · rw [if_neg hfires]
    exact .inr ⟨Int.not_le.mp hfires, rfl⟩

/-- Behind a look the timer is due later. -/
theorem look_due {interval : Int} (hpos : 0 < interval) (t : timer) (now : Int) :
    now < (look interval t now).due := by
  rcases look_cases interval t now with hfires | ⟨hdue, _⟩
  · rw [hfires]
    show now < now + interval
    omega
  · exact hdue

/-- What fired is not behind the look. -/
theorem look_past {interval now first : Int} {t : timer}
    (h : ∀ last ∈ (first :: t.fired).getLast?, last ≤ now) :
    ∀ last ∈ (first :: (look interval t now).fired).getLast?, last ≤ now := by
  rcases look_cases interval t now with hfires | ⟨_, hsame⟩
  · rw [hfires]
    intro last hlast
    have hnow : (first :: t.fired ++ [now]).getLast? = some now := List.getLast?_concat
    exact (Option.some.inj (hnow.symm.trans hlast)).ge
  · rwa [hsame]

/-! ## Readings that are spread -/

/-- Consecutive readings differ by at least `lo` and at most `hi`. -/
def Spread (lo hi : Int) (readings : List Int) : Prop :=
  readings.IsChain fun a b => a + lo ≤ b ∧ b ≤ a + hi

theorem spread_singleton (lo hi a : Int) : Spread lo hi [a] := List.isChain_singleton a

/-- One more reading. -/
theorem Spread.snoc {lo hi : Int} {readings : List Int} {last now : Int}
    (h : Spread lo hi (readings ++ [last])) (hlo : last + lo ≤ now) (hhi : now ≤ last + hi) :
    Spread lo hi (readings ++ [last] ++ [now]) := by
  refine List.IsChain.append h (List.isChain_singleton now) ?_
  intro a ha b hb
  rw [List.getLast?_concat] at ha
  obtain rfl := Option.some.inj ha
  obtain rfl := Option.some.inj hb
  exact ⟨hlo, hhi⟩

/-- **From the first to the last reading** it is the number of steps, times what a
step may be. -/
theorem Spread.total {lo hi : Int} (readings : List Int) :
    ∀ {first : Int}, Spread lo hi (first :: readings) → ∀ {last : Int},
      last ∈ (first :: readings).getLast? →
      first + readings.length * lo ≤ last ∧ last ≤ first + readings.length * hi := by
  induction readings with
  | nil =>
      intro first _ last hlast
      obtain rfl := Option.some.inj hlast
      simp
  | cons next readings ih =>
      intro first h last hlast
      obtain ⟨⟨hlo, hhi⟩, hrest⟩ := List.isChain_cons_cons.mp h
      rw [List.getLast?_cons_cons] at hlast
      obtain ⟨htlo, hthi⟩ := ih hrest hlast
      rw [List.length_cons]
      push_cast
      constructor
      · linarith
      · linarith

/-! ## A timer that is looked at in time -/

/-- A timer armed at `first`, all of whose looks so far came at most `slack` behind
the due reading. -/
structure Paced (interval slack first : Int) (t : timer) : Prop where
  spread : Spread interval (interval + slack) (first :: t.fired)
  due : ∃ last ∈ (first :: t.fired).getLast?, 0 ≤ last ∧ t.due = last + interval

/-- The look that arms the timer. -/
theorem paced_armed {interval slack now : Int} (hpos : 0 < interval) (hnow : 0 ≤ now) :
    Paced interval slack now (look interval {} now) := by
  have harmed : look interval {} now = ⟨now + interval, []⟩ := by
    unfold look
    rw [if_pos rfl]
    exact if_neg (by omega)
  rw [harmed]
  exact ⟨spread_singleton _ _ now, now, rfl, hnow, rfl⟩

/-- **A look in time keeps the pace.** -/
theorem Paced.look {interval slack first now : Int} {t : timer} (h : Paced interval slack first t)
    (hpos : 0 < interval) (hprompt : now ≤ t.due + slack) :
    Paced interval slack first (look interval t now) := by
  obtain ⟨last, hlast, hnonneg, hdue⟩ := h.due
  have harmed : ¬ t.due = 0 := by omega
  unfold Timer.look
  rw [if_neg harmed]
  dsimp only
  split
  · -- it fires: the new reading is last
    rename_i hfires
    obtain ⟨readings, hreadings⟩ := List.getLast?_eq_some_iff.mp hlast
    refine ⟨?_, now, ?_, by omega, rfl⟩
    · show Spread interval (interval + slack) (first :: (t.fired ++ [now]))
      have hspread := h.spread
      rw [hreadings] at hspread
      have hmore : Spread interval (interval + slack) (readings ++ [last] ++ [now]) :=
        hspread.snoc (by omega) (by omega)
      rwa [← hreadings] at hmore
    · show (first :: t.fired ++ [now]).getLast? = some now
      exact List.getLast?_concat
  · exact ⟨h.spread, last, hlast, hnonneg, hdue⟩

/-- **How often it fired**, for a reading before the timer is due again. -/
theorem Paced.rate {interval slack first now : Int} {t : timer} (h : Paced interval slack first t)
    (hlast : ∀ last ∈ (first :: t.fired).getLast?, last ≤ now) (hdue : now < t.due) :
    t.fired.length * interval ≤ now - first ∧
    now - first < t.fired.length * (interval + slack) + interval := by
  obtain ⟨last, hmem, _, hnext⟩ := h.due
  obtain ⟨hlo, hhi⟩ := Spread.total t.fired h.spread hmem
  have hnow := hlast last hmem
  constructor
  · linarith
  · linarith

end LorahamKissTnc.Lib.Timer
