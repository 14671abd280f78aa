/-
A first-in first-out list that remembers what went through it.

A queue is described by everything that ever entered, oldest first, and by how
many of it have left; what is waiting is the rest. Both only grow, so an element
has one number for as long as it waits, and its value cannot change. `Stores`
says that a ring holds what is waiting, and `Stores.slot` where: element `i` is
in slot `i` modulo the capacity.
-/
import LorahamKissTnc.Lib.Machine
import LorahamKissTnc.Lib.Ring

set_option autoImplicit false

open LorahamKissTnc.Lib.Machine LorahamKissTnc.Lib.Ring

namespace LorahamKissTnc.Lib.Fifo

variable {α ε : Type*}

/-! ## The list -/

/-- What has entered, and how many of it have left. -/
structure Queue (α : Type*) where
  entered : List α
  left : Nat
  left_le : left ≤ entered.length

/-- Nothing has entered. -/
def Queue.empty : Queue α := ⟨[], 0, Nat.le_refl 0⟩

/-- What is waiting, oldest first. -/
def Queue.waiting (f : Queue α) : List α := f.entered.drop f.left

def Queue.push (f : Queue α) (x : α) : Queue α where
  entered := f.entered ++ [x]
  left := f.left
  left_le := by
    rw [List.length_append]
    exact Nat.le_add_right_of_le f.left_le

/-- The oldest waiting element leaves, if there is one. -/
def Queue.pop (f : Queue α) : Queue α :=
  if h : f.left < f.entered.length then ⟨f.entered, f.left + 1, h⟩ else f

@[simp] theorem waiting_empty : (Queue.empty : Queue α).waiting = [] := rfl

@[simp] theorem waiting_push (f : Queue α) (x : α) : (f.push x).waiting = f.waiting ++ [x] :=
  List.drop_append_of_le_length f.left_le

theorem length_waiting (f : Queue α) : f.waiting.length = f.entered.length - f.left :=
  List.length_drop

theorem waiting_ne_nil_iff (f : Queue α) : f.waiting ≠ [] ↔ f.left < f.entered.length := by
  rw [Queue.waiting, Ne, List.drop_eq_nil_iff]
  omega

@[simp] theorem waiting_pop (f : Queue α) : f.pop.waiting = f.waiting.tail := by
  unfold Queue.pop
  by_cases h : f.left < f.entered.length
  · rw [dif_pos h, Queue.waiting, Queue.waiting, List.tail_drop]
  · have hnil : f.waiting = [] := by
      apply List.drop_eq_nil_of_le
      omega
    rw [dif_neg h, hnil, List.tail_nil]

theorem left_pop (f : Queue α) : f.pop.left = if f.waiting = [] then f.left else f.left + 1 := by
  unfold Queue.pop
  by_cases h : f.left < f.entered.length
  · rw [dif_pos h, if_neg ((waiting_ne_nil_iff f).mpr h)]
  · rw [dif_neg h, if_pos (not_not.mp fun hne => h ((waiting_ne_nil_iff f).mp hne))]

/-! ## Growth -/

/-- `g` is `f` at a later time. -/
structure Queue.Le (f g : Queue α) : Prop where
  entered : f.entered <+: g.entered
  left : f.left ≤ g.left

theorem Queue.le_refl (f : Queue α) : f.Le f := ⟨List.prefix_refl _, Nat.le_refl _⟩

theorem Queue.Le.trans {f g h : Queue α} (hfg : f.Le g) (hgh : g.Le h) : f.Le h :=
  ⟨hfg.entered.trans hgh.entered, Nat.le_trans hfg.left hgh.left⟩

theorem Queue.le_push (f : Queue α) (x : α) : f.Le (f.push x) :=
  ⟨List.prefix_append _ _, Nat.le_refl _⟩

theorem Queue.le_pop (f : Queue α) : f.Le f.pop := by
  unfold Queue.pop
  split
  · exact ⟨List.prefix_refl _, Nat.le_succ _⟩
  · exact f.le_refl

/-- A machine whose steps let the list grow does so over a run. -/
theorem Queue.le_run {step : Queue α → ε → Queue α}
    (h : ∀ (f : Queue α) (e : ε), f.Le (step f e)) (f : Queue α)
    (es : List ε) : f.Le (run step f es) :=
  run_invariant (P := f.Le) (fun g e hg => hg.trans (h g e)) es f f.le_refl

/-- An element keeps its number and its value. -/
theorem Queue.Le.getElem_eq {f g : Queue α} (h : f.Le g) {i : Nat} (hi : i < f.entered.length) :
    g.entered[i]? = f.entered[i]? := by
  obtain ⟨later, hlater⟩ := h.entered
  rw [← hlater, List.getElem?_append_left hi]

/-! ## In a ring -/

/-- The window of a ring is what waits, and its head is where the numbers say. -/
structure Stores (d : α) (items : List α) (head count : Nat) (f : Queue α) : Prop where
  head_eq : head = f.left % items.length
  window_eq : window d items head count = f.waiting

/-- **Where an element is.** -/
theorem Stores.slot {d : α} {items : List α} {head count : Nat} {f : Queue α}
    (h : Stores d items head count f) {i : Nat} (hleft : f.left ≤ i)
    (hi : i < f.entered.length) : f.entered[i]? = some (items.getD (i % items.length) d) := by
  have hlen : f.entered.length - f.left = count := by
    rw [← length_waiting, ← h.window_eq, length_window]
  have hk : i - f.left < count := by omega
  have hwait : f.entered[i]? = f.waiting[i - f.left]? := by
    rw [Queue.waiting, List.getElem?_drop, Nat.add_sub_cancel' hleft]
  have hslot : (head + (i - f.left)) % items.length = i % items.length := by
    rw [h.head_eq, Nat.mod_add_mod, Nat.add_sub_cancel' hleft]
  rw [hwait, ← h.window_eq, window, List.getElem?_map, List.getElem?_range hk, Option.map_some,
    hslot]

end LorahamKissTnc.Lib.Fifo
