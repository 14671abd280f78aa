/-
The circular window of a fixed array: the `count` slots from `head` on, indices
taken modulo the capacity.

A ring queue is such an array with a head and a count. The window is its
abstract value, a list, and the lemmas say what the three array updates of a
ring queue do to that list: writing the slot behind the window appends, moving
the head drops the first element, and writing the head slot replaces the first
element. The array is a list whose length is the capacity.
-/
import Mathlib.Data.List.Basic
import Mathlib.Data.List.GetD
import Mathlib.Data.Nat.ModEq

set_option autoImplicit false

namespace LorahamKissTnc.Lib.Ring

variable {α : Type*}

/-- The elements in the `count` slots from `head` on. -/
def window (d : α) (items : List α) (head count : Nat) : List α :=
  (List.range count).map fun i => items.getD ((head + i) % items.length) d

@[simp] theorem window_zero (d : α) (items : List α) (head : Nat) :
    window d items head 0 = [] := rfl

@[simp] theorem length_window (d : α) (items : List α) (head count : Nat) :
    (window d items head count).length = count := by
  rw [window, List.length_map, List.length_range]

/-- A window of one more slot has the head slot in front. -/
theorem window_succ (d : α) (items : List α) (head count : Nat) :
    window d items head (count + 1)
      = items.getD (head % items.length) d :: window d items (head + 1) count := by
  rw [window, window, List.range_succ_eq_map, List.map_cons, Nat.add_zero, List.map_map]
  congr 1
  apply List.map_congr_left
  intro i _
  rw [Function.comp_apply, Nat.succ_eq_add_one, Nat.add_assoc, Nat.add_comm i 1]

/-- Only the residue of the head matters. -/
theorem window_mod_head (d : α) (items : List α) (head count : Nat) :
    window d items (head % items.length) count = window d items head count := by
  rw [window, window]
  apply List.map_congr_left
  intro i _
  rw [Nat.mod_add_mod]

/-- Two offsets less than one revolution apart name different slots. -/
theorem slot_ne {head i j n : Nat} (hij : i < j) (hj : j < i + n) :
    (head + i) % n ≠ (head + j) % n := by
  intro h
  have hdvd : n ∣ (head + j) - (head + i) := (Nat.modEq_iff_dvd' (by omega)).mp h
  have hle := Nat.le_of_dvd (by omega) hdvd
  omega

/-- Writing a slot outside the window does not change it. -/
theorem window_set_outside (d : α) (items : List α) (head count k : Nat) (x : α)
    (hk : ∀ i < count, (head + i) % items.length ≠ k) :
    window d (items.set k x) head count = window d items head count := by
  rw [window, window, List.length_set]
  apply List.map_congr_left
  intro i hi
  have hne := hk i (List.mem_range.mp hi)
  rw [List.getD_eq_getElem?_getD, List.getD_eq_getElem?_getD, List.getElem?_set_ne hne.symm]

/-- Writing the slot behind the window and extending it appends. -/
theorem window_push (d : α) (items : List α) (head count : Nat) (x : α)
    (hcount : count < items.length) :
    window d (items.set ((head + count) % items.length) x) head (count + 1)
      = window d items head count ++ [x] := by
  have hlt : (head + count) % items.length < items.length := Nat.mod_lt _ (by omega)
  have hout : window d (items.set ((head + count) % items.length) x) head count
      = window d items head count := by
    apply window_set_outside
    intro i hi
    exact slot_ne hi (by omega)
  rw [← hout, window, List.range_succ, List.map_append, List.map_singleton, ← window]
  congr 2
  rw [List.length_set, List.getD_eq_getElem _ _ (by simpa using hlt), List.getElem_set_self]

/-- Writing the head slot replaces the first element. -/
theorem window_set_head (d : α) (items : List α) (head count : Nat) (x : α)
    (hcount : count < items.length) :
    window d (items.set (head % items.length) x) head (count + 1)
      = x :: window d items (head + 1) count := by
  have hlt : head % items.length < items.length := Nat.mod_lt _ (by omega)
  rw [window_succ, List.length_set, List.getD_eq_getElem _ _ (by simpa using hlt),
    List.getElem_set_self]
  congr 1
  apply window_set_outside
  intro i hi
  have hne : (head + 0) % items.length ≠ (head + (1 + i)) % items.length :=
    slot_ne (by omega) (by omega)
  rw [Nat.add_zero, ← Nat.add_assoc] at hne
  exact hne.symm

end LorahamKissTnc.Lib.Ring
