/-
`bridge_tx_queue.c`: the ring of packets waiting for transmission, and the
decision about its head.

The queue is the array with its head and count, and carries the bounds the
operations keep. Its abstract value is the list `toList`, the circular window of
`Lib.Ring`; each operation is characterised by what it does to that list, and
nothing outside this file looks at the array.
-/
import LorahamKissTnc.BridgeConf
import LorahamKissTnc.Lib.Ring

set_option autoImplicit false

open LorahamKissTnc.Lib.CString LorahamKissTnc.Lib.Ring
open LorahamKissTnc.Config LorahamKissTnc.BridgeConf

namespace LorahamKissTnc.BridgeTxQueue

abbrev LHKT_TX_QUEUE_MAX : Nat := 16

/-- `BRIDGE_TX_DECISION_*`. -/
inductive bridge_tx_decision where
  | WAIT
  | SEND
  | DROP
  deriving DecidableEq, Repr

/-- `bridge_tx_item_t`; `packet_len` is the length of `packet`. The default
values are what `memset` leaves. -/
structure bridge_tx_item_t where
  packet : Bytes := []
  queued_ms : Int := 0
  tx_wait_start_ms : Int := 0
  deriving DecidableEq, Repr

/-- `bridge_tx_queue_t`. -/
structure bridge_tx_queue_t where
  items : List bridge_tx_item_t
  head : Nat
  count : Nat
  items_length : items.length = LHKT_TX_QUEUE_MAX
  head_lt : head < LHKT_TX_QUEUE_MAX
  count_le : count ≤ LHKT_TX_QUEUE_MAX

/-! ## The operations -/

/-- `bridge_tx_queue_init`. -/
def bridge_tx_queue_init : bridge_tx_queue_t where
  items := List.replicate LHKT_TX_QUEUE_MAX {}
  head := 0
  count := 0
  items_length := by decide
  head_lt := by decide
  count_le := by decide

/-- `bridge_tx_queue_limit`. -/
def bridge_tx_queue_limit (cfg : lhkt_config_t) : Nat :=
  -- the parsers keep to this range, a caller need not
  if cfg.tx_queue_len < 1 then 1
  else if (LHKT_TX_QUEUE_MAX : Int) < cfg.tx_queue_len then LHKT_TX_QUEUE_MAX
  else cfg.tx_queue_len.toNat

theorem bridge_tx_queue_limit_le (cfg : lhkt_config_t) :
    bridge_tx_queue_limit cfg ≤ LHKT_TX_QUEUE_MAX := by
  unfold bridge_tx_queue_limit
  simp only [LHKT_TX_QUEUE_MAX]
  split
  · omega
  · split <;> omega

/-- `bridge_tx_queue_empty`. -/
def bridge_tx_queue_empty (queue : bridge_tx_queue_t) : Bool := queue.count = 0

/-- `bridge_tx_queue_head`. -/
def bridge_tx_queue_head (queue : bridge_tx_queue_t) : Option bridge_tx_item_t :=
  if queue.count = 0 then none else some (queue.items.getD queue.head {})

/-- A write through the pointer `bridge_tx_queue_head` returns. -/
def bridge_tx_queue_set_head (queue : bridge_tx_queue_t) (item : bridge_tx_item_t) :
    bridge_tx_queue_t :=
  { queue with
    items := queue.items.set queue.head item
    items_length := by rw [List.length_set]; exact queue.items_length }

/-- `bridge_tx_queue_pop`. -/
def bridge_tx_queue_pop (queue : bridge_tx_queue_t) : bridge_tx_queue_t :=
  if queue.count = 0 then queue
  else
    { queue with
      items := queue.items.set queue.head {}
      head := (queue.head + 1) % LHKT_TX_QUEUE_MAX
      count := queue.count - 1
      items_length := by rw [List.length_set]; exact queue.items_length
      head_lt := Nat.mod_lt _ (by decide)
      count_le := Nat.le_trans (Nat.sub_le _ _) queue.count_le }

/-- `bridge_tx_queue_push` at time `now`. -/
def bridge_tx_queue_push (queue : bridge_tx_queue_t) (cfg : lhkt_config_t) (packet : Bytes)
    (now : Int) : Except Lhkt bridge_tx_queue_t :=
  if packet.length = 0 ∨ LHKT_LORAHAM_TX_MAX < packet.length then .error .ERR_FORMAT
  else if hfull : bridge_tx_queue_limit cfg ≤ queue.count then .error .ERR_NOSPACE
  else .ok
    { queue with
      items := queue.items.set ((queue.head + queue.count) % LHKT_TX_QUEUE_MAX)
        { packet := packet, queued_ms := now }
      count := queue.count + 1
      items_length := by rw [List.length_set]; exact queue.items_length
      count_le := Nat.le_trans (Nat.lt_of_not_le hfull) (bridge_tx_queue_limit_le cfg) }

/-- `bridge_tx_head_decision`; `conf_state` is `none` for the null pointer. The
item's wait clock starts with the first busy decision and is cleared by the
first idle one. -/
def bridge_tx_head_decision (cfg : lhkt_config_t) (conf_state : Option bridge_conf_state_t)
    (item : bridge_tx_item_t) (now : Int) : bridge_tx_item_t × bridge_tx_decision :=
  if 0 < cfg.tx_packet_ttl_ms ∧ cfg.tx_packet_ttl_ms ≤ now - item.queued_ms then (item, .DROP)
  else if conf_state.any (·.tx_busy) then
    let start := if item.tx_wait_start_ms = 0 then now else item.tx_wait_start_ms
    if cfg.tx_busy_timeout_ms ≤ now - start then ({ item with tx_wait_start_ms := start }, .DROP)
    else ({ item with tx_wait_start_ms := start }, .WAIT)
  else ({ item with tx_wait_start_ms := 0 }, .SEND)

/-! ## The queue as a list -/

/-- The packets from the head on. -/
def bridge_tx_queue_t.toList (queue : bridge_tx_queue_t) : List bridge_tx_item_t :=
  window {} queue.items queue.head queue.count

/-- The packet bytes from the head on. -/
def bridge_tx_queue_t.packets (queue : bridge_tx_queue_t) : List Bytes :=
  queue.toList.map bridge_tx_item_t.packet

@[simp] theorem toList_init : bridge_tx_queue_init.toList = [] := rfl

@[simp] theorem packets_init : bridge_tx_queue_init.packets = [] := rfl

theorem length_toList (queue : bridge_tx_queue_t) : queue.toList.length = queue.count :=
  length_window _ _ _ _

/-- With something in the queue, the head slot is in front. -/
theorem toList_of_pos {queue : bridge_tx_queue_t} (h : queue.count ≠ 0) :
    queue.toList = queue.items.getD queue.head {} ::
      window {} queue.items (queue.head + 1) (queue.count - 1) := by
  obtain ⟨n, hn⟩ := Nat.exists_eq_succ_of_ne_zero h
  rw [bridge_tx_queue_t.toList, hn, window_succ, queue.items_length,
    Nat.mod_eq_of_lt queue.head_lt, Nat.succ_sub_one]

theorem bridge_tx_queue_head_eq (queue : bridge_tx_queue_t) :
    bridge_tx_queue_head queue = queue.toList.head? := by
  unfold bridge_tx_queue_head
  by_cases h : queue.count = 0
  · rw [if_pos h, bridge_tx_queue_t.toList, h, window_zero, List.head?_nil]
  · rw [if_neg h, toList_of_pos h, List.head?_cons]

/-- Slots behind the head do not see a write to the head slot. -/
theorem window_behind_head (queue : bridge_tx_queue_t) (item : bridge_tx_item_t)
    (_h : queue.count ≠ 0) :
    window {} (queue.items.set queue.head item) (queue.head + 1) (queue.count - 1)
      = window {} queue.items (queue.head + 1) (queue.count - 1) := by
  have hle := queue.count_le
  have hlt := queue.head_lt
  apply window_set_outside
  intro i hi
  rw [queue.items_length]
  have hne : (queue.head + 0) % LHKT_TX_QUEUE_MAX
      ≠ (queue.head + (1 + i)) % LHKT_TX_QUEUE_MAX := slot_ne (by omega) (by omega)
  rw [Nat.add_zero, Nat.mod_eq_of_lt hlt, ← Nat.add_assoc] at hne
  exact hne.symm

@[simp] theorem count_pop (queue : bridge_tx_queue_t) :
    (bridge_tx_queue_pop queue).count = queue.count - 1 := by
  unfold bridge_tx_queue_pop
  split
  · rename_i h
    rw [h]
  · rfl

@[simp] theorem toList_pop (queue : bridge_tx_queue_t) :
    (bridge_tx_queue_pop queue).toList = queue.toList.tail := by
  unfold bridge_tx_queue_pop
  by_cases h : queue.count = 0
  · rw [if_pos h, bridge_tx_queue_t.toList, h, window_zero, List.tail_nil]
  · rw [if_neg h, toList_of_pos h, List.tail_cons, ← window_behind_head queue {} h]
    show window {} (queue.items.set queue.head {}) ((queue.head + 1) % LHKT_TX_QUEUE_MAX)
      (queue.count - 1) = _
    have hlen : (queue.items.set queue.head ({} : bridge_tx_item_t)).length
        = LHKT_TX_QUEUE_MAX := by rw [List.length_set]; exact queue.items_length
    rw [← hlen, window_mod_head]

theorem toList_set_head {queue : bridge_tx_queue_t} (item : bridge_tx_item_t)
    (h : queue.count ≠ 0) :
    (bridge_tx_queue_set_head queue item).toList = item :: queue.toList.tail := by
  have hlt : queue.head < queue.items.length := by
    rw [queue.items_length]
    exact queue.head_lt
  have hcount : queue.count - 1 < queue.items.length := by
    have hle := queue.count_le
    rw [queue.items_length]
    omega
  have hset := window_set_head {} queue.items queue.head (queue.count - 1) item hcount
  rw [Nat.mod_eq_of_lt hlt, Nat.sub_add_cancel (Nat.pos_of_ne_zero h)] at hset
  rw [toList_of_pos h, List.tail_cons, ← hset]
  rfl

/-- A successful push appends the packet with fresh timers. -/
theorem toList_push {queue queue' : bridge_tx_queue_t} {cfg : lhkt_config_t} {packet : Bytes}
    {now : Int} (h : bridge_tx_queue_push queue cfg packet now = .ok queue') :
    queue'.toList = queue.toList ++ [{ packet := packet, queued_ms := now }] := by
  unfold bridge_tx_queue_push at h
  split at h
  · exact absurd h (by simp)
  · split at h
    · exact absurd h (by simp)
    · rename_i hfull
      have hlim := bridge_tx_queue_limit_le cfg
      have hroom : queue.count < queue.items.length := by
        rw [queue.items_length]
        omega
      rw [← Except.ok.inj h]
      show window {} (queue.items.set ((queue.head + queue.count) % LHKT_TX_QUEUE_MAX) _)
        queue.head (queue.count + 1) = _
      rw [← queue.items_length, window_push _ _ _ _ _ hroom]
      rfl

/-- A decision never changes the packet or its age. -/
theorem bridge_tx_head_decision_item (cfg : lhkt_config_t)
    (conf_state : Option bridge_conf_state_t) (item : bridge_tx_item_t) (now : Int) :
    (bridge_tx_head_decision cfg conf_state item now).1.packet = item.packet ∧
      (bridge_tx_head_decision cfg conf_state item now).1.queued_ms = item.queued_ms := by
  unfold bridge_tx_head_decision
  split
  · exact ⟨rfl, rfl⟩
  · split
    · dsimp only
      split <;> split <;> exact ⟨rfl, rfl⟩
    · exact ⟨rfl, rfl⟩

/-- When the decision is to send: the packet has not expired, and the transmit
flag it looked at is idle. -/
theorem bridge_tx_head_decision_send {cfg : lhkt_config_t}
    {conf_state : Option bridge_conf_state_t} {item : bridge_tx_item_t} {now : Int}
    (h : (bridge_tx_head_decision cfg conf_state item now).2 = .SEND) :
    (0 < cfg.tx_packet_ttl_ms → now - item.queued_ms < cfg.tx_packet_ttl_ms) ∧
      conf_state.any (·.tx_busy) = false := by
  unfold bridge_tx_head_decision at h
  split at h
  · exact absurd h (by simp)
  · rename_i httl
    split at h
    · dsimp only at h
      split at h <;> split at h <;> exact absurd h (by simp)
    · rename_i hbusy
      refine ⟨fun hpos => ?_, by simpa using hbusy⟩
      by_contra hle
      exact httl ⟨hpos, by omega⟩

end LorahamKissTnc.BridgeTxQueue
