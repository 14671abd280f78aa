/-
A counter that restarts, and a total that is taken from it now and then.

The counter ticks and goes back to zero at every restart. The reader adds to a
total what was ticked since it looked last, and takes a counter below its own
mark for one that was restarted in between. What is `pending` is what the next
look will add: a tick adds to it as long as the mark is not ahead of the
counter, and a restart throws it away.
-/
import Mathlib.Data.Nat.Basic

set_option autoImplicit false

namespace LorahamKissTnc.Lib.Counter

/-- The counter, the reader's mark on it, and the total. -/
@[ext] structure Meter where
  count : Nat
  seen : Nat
  total : Nat

def Meter.tick (m : Meter) (n : Nat) : Meter := { m with count := m.count + n }

def Meter.restart (m : Meter) : Meter := { m with count := 0 }

/-- What is ticked and not in the total yet. -/
def Meter.pending (m : Meter) : Nat := m.count - min m.seen m.count

/-- The reader looks. -/
def Meter.collect (m : Meter) : Meter :=
  { m with seen := m.count, total := m.total + m.pending }

/-- The mark is at the counter. -/
def Meter.Settled (m : Meter) : Prop := m.seen = m.count

@[simp] theorem tick_zero (m : Meter) : m.tick 0 = m := rfl

theorem Meter.Settled.pending_tick {m : Meter} (h : m.Settled) (n : Nat) :
    (m.tick n).pending = n := by
  have hseen : m.seen = m.count := h
  show m.count + n - min m.seen (m.count + n) = n
  omega

/-- A restart leaves nothing to collect, wherever the mark is. -/
theorem pending_restart (m : Meter) : m.restart.pending = 0 := Nat.zero_sub _

theorem settled_collect (m : Meter) : m.collect.Settled := rfl

/-- **What is ticked is collected**, once, when the mark was at the counter. -/
theorem Meter.Settled.total_collect {m : Meter} (h : m.Settled) (n : Nat) :
    (m.tick n).collect.total = m.total + n := by
  show m.total + (m.tick n).pending = m.total + n
  rw [h.pending_tick]

/-- **A restart loses it.** -/
theorem total_collect_restart (m : Meter) : m.restart.collect.total = m.total := by
  show m.total + m.restart.pending = m.total
  rw [pending_restart, Nat.add_zero]

/-- A counter at zero has nothing to collect either. -/
theorem total_collect_of_zero {m : Meter} (h : m.count = 0) : m.collect.total = m.total := by
  have hrestart : m.restart = m := by
    rw [Meter.restart, ← h]
  rw [← hrestart, total_collect_restart]
  rfl

end LorahamKissTnc.Lib.Counter
