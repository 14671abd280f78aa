/-
The TX ring is a bounded first-in first-out list.

`Lib.Fifo` describes a queue by everything that entered it and by how many of it
have left. `queue_step` is one call on the ring and `fifo_step` what the call
means for that description, with no array in it. `Refines` relates the two: what
waits is what the window shows, and the head is the number of packets that have
left, modulo the capacity. Every call keeps it, so after any calls packet `i` is
in slot `i` modulo 16 for as long as it waits.
-/
import LorahamKissTnc.BridgeTxQueue
import LorahamKissTnc.Lib.Fifo

set_option autoImplicit false

open LorahamKissTnc.Lib.CString LorahamKissTnc.Lib.Machine LorahamKissTnc.Lib.Ring
open LorahamKissTnc.Lib.Fifo
open LorahamKissTnc.Config LorahamKissTnc.BridgeTxQueue

namespace LorahamKissTnc.TxRing

/-! ## The calls -/

/-- A call, with the configuration and the time it finds. -/
inductive queue_call where
  | push (cfg : lhkt_config_t) (packet : Bytes) (now : Int)
  | pop

/-- A call on the ring. A push that fails has written nothing. -/
def queue_step (queue : bridge_tx_queue_t) : queue_call → bridge_tx_queue_t
  | .push cfg packet now =>
      match bridge_tx_queue_push queue cfg packet now with
      | .ok queue' => queue'
      | .error _ => queue
  | .pop => bridge_tx_queue_pop queue

/-- A push is refused: an empty packet, one too long for the air, or `waiting`
packets already at the configured limit, which is kept within 1 and 16. -/
def Refused (cfg : lhkt_config_t) (packet : Bytes) (waiting : Nat) : Prop :=
  packet = [] ∨ 255 < packet.length ∨ min 16 (max 1 cfg.tx_queue_len) ≤ (waiting : Int)

instance (cfg : lhkt_config_t) (packet : Bytes) (waiting : Nat) :
    Decidable (Refused cfg packet waiting) := by
  unfold Refused
  infer_instance

/-- A packet that has just entered: its bytes, its age and no wait yet. -/
def fresh (packet : Bytes) (now : Int) : bridge_tx_item_t := ⟨packet, now, 0⟩

/-- What a call means. -/
def fifo_step (f : Queue bridge_tx_item_t) : queue_call → Queue bridge_tx_item_t
  | .push cfg packet now =>
      if Refused cfg packet f.waiting.length then f else f.push (fresh packet now)
  | .pop => f.pop

/-! ## One call -/

theorem bridge_tx_queue_limit_eq (cfg : lhkt_config_t) :
    (bridge_tx_queue_limit cfg : Int) = min 16 (max 1 cfg.tx_queue_len) := by
  unfold bridge_tx_queue_limit
  simp only [LHKT_TX_QUEUE_MAX]
  by_cases hlow : cfg.tx_queue_len < 1
  · rw [if_pos hlow]
    omega
  · rw [if_neg hlow]
    by_cases hhigh : ((16 : Nat) : Int) < cfg.tx_queue_len
    · rw [if_pos hhigh]
      omega
    · rw [if_neg hhigh]
      omega

/-- A refused push. -/
theorem push_refused {queue : bridge_tx_queue_t} {cfg : lhkt_config_t} {packet : Bytes}
    (now : Int) (h : Refused cfg packet queue.toList.length) :
    ∃ ret, bridge_tx_queue_push queue cfg packet now = .error ret := by
  have hlimit := bridge_tx_queue_limit_eq cfg
  rw [length_toList] at h
  unfold bridge_tx_queue_push
  by_cases hformat : packet.length = 0 ∨ LHKT_LORAHAM_TX_MAX < packet.length
  · exact ⟨_, if_pos hformat⟩
  · rw [if_neg hformat]
    have hfull : bridge_tx_queue_limit cfg ≤ queue.count := by
      rcases h with hnil | hlong | hfull
      · exact absurd (.inl (List.length_eq_zero_iff.mpr hnil)) hformat
      · exact absurd (.inr hlong) hformat
      · omega
    exact ⟨_, dif_pos hfull⟩

/-- Every other push is accepted, and only the place of the packet changes. -/
theorem push_accepted {queue : bridge_tx_queue_t} {cfg : lhkt_config_t} {packet : Bytes}
    (now : Int) (h : ¬ Refused cfg packet queue.toList.length) :
    ∃ queue', bridge_tx_queue_push queue cfg packet now = .ok queue' ∧
      queue'.head = queue.head ∧ queue'.toList = queue.toList ++ [fresh packet now] := by
  have hlimit := bridge_tx_queue_limit_eq cfg
  rw [length_toList] at h
  have hformat : ¬ (packet.length = 0 ∨ LHKT_LORAHAM_TX_MAX < packet.length) := by
    rintro (hnil | hlong)
    · exact h (.inl (List.length_eq_zero_iff.mp hnil))
    · exact h (.inr (.inl hlong))
  -- what is not refused passes both checks of the source
  have hroom : ¬ bridge_tx_queue_limit cfg ≤ queue.count := by
    intro hfull
    apply h
    refine .inr (.inr ?_)
    omega
  cases hpush : bridge_tx_queue_push queue cfg packet now with
  | error ret =>
      rw [bridge_tx_queue_push, if_neg hformat, dif_neg hroom] at hpush
      exact nomatch hpush
  | ok queue' =>
      refine ⟨queue', rfl, ?_, toList_push hpush⟩
      rw [bridge_tx_queue_push, if_neg hformat, dif_neg hroom] at hpush
      rw [← Except.ok.inj hpush]

theorem head_pop (queue : bridge_tx_queue_t) :
    (bridge_tx_queue_pop queue).head
      = if queue.toList = [] then queue.head else (queue.head + 1) % LHKT_TX_QUEUE_MAX := by
  have hnil : queue.toList = [] ↔ queue.count = 0 := by
    rw [← length_toList, List.length_eq_zero_iff]
  unfold bridge_tx_queue_pop
  by_cases h : queue.count = 0
  · rw [if_pos h, if_pos (hnil.mpr h)]
  · rw [if_neg h, if_neg fun hl => h (hnil.mp hl)]

/-! ## The refinement -/

/-- The ring against its description. -/
def Refines (queue : bridge_tx_queue_t) (f : Queue bridge_tx_item_t) : Prop :=
  Stores {} queue.items queue.head queue.count f

theorem Refines.head_eq {queue : bridge_tx_queue_t} {f : Queue bridge_tx_item_t}
    (h : Refines queue f) : queue.head = f.left % LHKT_TX_QUEUE_MAX :=
  queue.items_length ▸ Stores.head_eq h

theorem Refines.toList_eq {queue : bridge_tx_queue_t} {f : Queue bridge_tx_item_t}
    (h : Refines queue f) : queue.toList = f.waiting :=
  Stores.window_eq h

theorem refines_of {queue : bridge_tx_queue_t} {f : Queue bridge_tx_item_t}
    (hhead : queue.head = f.left % LHKT_TX_QUEUE_MAX) (hlist : queue.toList = f.waiting) :
    Refines queue f :=
  ⟨queue.items_length.symm ▸ hhead, hlist⟩

theorem refines_init : Refines bridge_tx_queue_init Queue.empty := refines_of rfl rfl

/-- **A call** on the ring does what it means. -/
theorem Refines.step {queue : bridge_tx_queue_t} {f : Queue bridge_tx_item_t}
    (h : Refines queue f) (call : queue_call) :
    Refines (queue_step queue call) (fifo_step f call) := by
  have hlist := h.toList_eq
  cases call with
  | push cfg packet now =>
      unfold queue_step fifo_step
      by_cases hrefused : Refused cfg packet f.waiting.length
      · obtain ⟨ret, hret⟩ := push_refused now (hlist ▸ hrefused)
        -- both sides stay as they are
        simp only [hret, if_pos hrefused]
        exact h
      · obtain ⟨queue', hok, hhead, hlist'⟩ := push_accepted now (hlist ▸ hrefused)
        simp only [hok, if_neg hrefused]
        apply refines_of
        · rw [hhead, h.head_eq]
          rfl
        · rw [hlist', hlist, waiting_push]
  | pop =>
      apply refines_of
      · show (bridge_tx_queue_pop queue).head = f.pop.left % LHKT_TX_QUEUE_MAX
        -- on an empty ring neither side moves; else both go one slot on, modulo the size
        rw [head_pop, left_pop, hlist, h.head_eq]
        split
        · rfl
        · rw [Nat.mod_add_mod]
      · show (bridge_tx_queue_pop queue).toList = f.pop.waiting
        rw [toList_pop, waiting_pop, hlist]

/-- Any calls. -/
theorem Refines.calls (calls : List queue_call) : ∀ {queue : bridge_tx_queue_t}
    {f : Queue bridge_tx_item_t}, Refines queue f →
      Refines (run queue_step queue calls) (run fifo_step f calls) := by
  induction calls with
  | nil =>
      intro queue f h
      exact h
  | cons call calls ih =>
      intro queue f h
      exact ih (h.step call)

/-- No call takes back what entered or brings back what left. -/
theorem fifo_step_le (f : Queue bridge_tx_item_t) (call : queue_call) :
    f.Le (fifo_step f call) := by
  cases call with
  | push cfg packet now =>
      by_cases hrefused : Refused cfg packet f.waiting.length
      · have hstep : fifo_step f (.push cfg packet now) = f := if_pos hrefused
        rw [hstep]
        exact f.le_refl
      · have hstep : fifo_step f (.push cfg packet now) = f.push (fresh packet now) :=
          if_neg hrefused
        rw [hstep]
        exact f.le_push _
  | pop => exact f.le_pop

/-- A packet that still waits after more calls is in the slot it was in, with
the same value. -/
theorem Refines.slot_calls {queue : bridge_tx_queue_t} {f : Queue bridge_tx_item_t}
    (h : Refines queue f) (calls : List queue_call) {i : Nat}
    (hwait : (run fifo_step f calls).left ≤ i) (hi : i < f.entered.length) :
    (run queue_step queue calls).items.getD (i % LHKT_TX_QUEUE_MAX) {}
      = queue.items.getD (i % LHKT_TX_QUEUE_MAX) {} := by
  have hle := Queue.le_run fifo_step_le f calls
  -- both slots show the packet that entered as the `i`-th
  have hbefore := Stores.slot h (Nat.le_trans hle.left hwait) hi
  have hafter := Stores.slot (h.calls calls) hwait (Nat.lt_of_lt_of_le hi hle.entered.length_le)
  rw [queue.items_length] at hbefore
  rw [(run queue_step queue calls).items_length, hle.getElem_eq hi, hbefore] at hafter
  exact (Option.some.inj hafter).symm

/-- **The TX ring is a bounded FIFO.** After any calls on an empty queue, with any
configurations, head and count are in range and the ring shows what waits. From
there a push is refused, leaving the ring as it is, exactly when the packet is
empty or longer than 255 bytes or `min 16 (max 1 tx_queue_len)` packets wait, and
otherwise appends these bytes with fresh timers; a pop takes the first packet,
and the head is the first packet or nothing. Whatever calls follow, the packets
that entered are still the ones that entered, and each that still waits is in its
slot, unchanged. -/
theorem tx_ring_refines_fifo (calls : List queue_call) :
    let queue := run queue_step bridge_tx_queue_init calls
    let f := run fifo_step Queue.empty calls
    queue.head < 16 ∧ queue.count ≤ 16 ∧ queue.toList = f.waiting ∧
    (∀ cfg packet now,
      (Refused cfg packet f.waiting.length →
        (∃ ret, bridge_tx_queue_push queue cfg packet now = .error ret) ∧
          queue_step queue (.push cfg packet now) = queue) ∧
      (¬ Refused cfg packet f.waiting.length →
        ∃ queue', bridge_tx_queue_push queue cfg packet now = .ok queue' ∧
          queue_step queue (.push cfg packet now) = queue' ∧
          queue'.toList = f.waiting ++ [fresh packet now])) ∧
    (bridge_tx_queue_pop queue).toList = f.waiting.tail ∧
    bridge_tx_queue_head queue = f.waiting.head? ∧
    ∀ more, f.entered <+: (run fifo_step f more).entered ∧
      ∀ i, (run fifo_step f more).left ≤ i → i < f.entered.length →
        f.entered[i]? = some (queue.items.getD (i % 16) {}) ∧
        (run queue_step queue more).items.getD (i % 16) {} = queue.items.getD (i % 16) {} := by
  intro queue f
  have h : Refines queue f := refines_init.calls calls
  have hlist := h.toList_eq
  refine ⟨queue.head_lt, queue.count_le, hlist, ?_, ?_, ?_, ?_⟩
  · intro cfg packet now
    constructor
    · intro hrefused
      obtain ⟨ret, hret⟩ := push_refused now (hlist ▸ hrefused)
      refine ⟨⟨ret, hret⟩, ?_⟩
      unfold queue_step
      simp only [hret]
    · intro haccepted
      obtain ⟨queue', hok, -, hpush⟩ := push_accepted now (hlist ▸ haccepted)
      refine ⟨queue', hok, ?_, hlist ▸ hpush⟩
      unfold queue_step
      simp only [hok]
  · rw [toList_pop, hlist]
  · rw [bridge_tx_queue_head_eq, hlist]
  · intro more
    have hle := Queue.le_run fifo_step_le f more
    refine ⟨hle.entered, fun i hwait hi => ⟨?_, h.slot_calls more hwait hi⟩⟩
    have hslot := Stores.slot h (Nat.le_trans hle.left hwait) hi
    rwa [queue.items_length] at hslot

end LorahamKissTnc.TxRing
