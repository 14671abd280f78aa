/-
Why a queued packet is dropped: every decision of a run about every packet.

The wait clock of a packet lives in its slot of the ring. It is started by the
first decision that sees the radio transmitting, cleared by one that does not,
and left alone while no decision is taken. What makes a running clock mean
something is where its value comes from: `Decided` says that it is the time of a
decision about the same packet since which every decision about it saw an open
CONF connection and a busy radio, and that no packet behind the head has a
running clock. Slots are reused, but a packet always enters one with its clock
cleared.

`drain_select_traced` is the drain loop with the list of its decisions, and
`drain_select_traced_fst` says that it is the same loop. A packet is named by its
position among the packets ever accepted, which is the number of packets gone
before it; `run_pushes` are the times at which packets were accepted, in the same
order.
-/
import LorahamKissTnc.OnAir
import LorahamKissTnc.TxDrops

set_option autoImplicit false

open LorahamKissTnc.Lib.CString LorahamKissTnc.Lib.Channel LorahamKissTnc.Lib.Machine
open LorahamKissTnc.Config LorahamKissTnc.Kiss LorahamKissTnc.LorahamSock
open LorahamKissTnc.BridgeConf LorahamKissTnc.BridgeTxQueue LorahamKissTnc.BridgeRx
open LorahamKissTnc.BridgeKiss LorahamKissTnc.BridgeLoraham LorahamKissTnc.Bridge
open LorahamKissTnc.OnAir LorahamKissTnc.TxDrops

namespace LorahamKissTnc.TxDecisions

/-! ## The decisions of a run -/

/-- A decision about the head of the queue: the packet, the time, what it saw of
CONF, and how it went. -/
structure tx_decision where
  index : Nat
  now : Int
  conf_open : Bool
  tx_busy : Bool
  verdict : bridge_tx_decision
  deriving DecidableEq, Repr

/-- `drain_select` with its decisions, in order. -/
def drain_select_traced (e : drain_env) (cfg : lhkt_config_t) :
    Nat → Nat → io_t → txq_t → (io_t × txq_t × drain_next) × List tx_decision
  | 0, _, s, q => ((s, q, .ret .OK), [])
  | left + 1, i, s, q =>
      match bridge_tx_queue_head q.queue with
      | none => ((s, q, .ret .OK), [])
      | some item =>
          let r := drain_read (e.rounds i).read s.conf
          let s := { s with conf := r.1 }
          if r.2 ≠ .OK then ((s, q, .ret .OK), [])
          else if s.conf.fd ∧ !s.conf.state.have_status then ((s, q, .ret .OK), [])
          else if s.conf.state.txresult_known ∧ !s.conf.state.txresult_enabled then
            ((s, q, .ret .ERR_CONF_SOCKET), [])
          else
            let now := (e.rounds i).now
            let d := bridge_tx_head_decision cfg (if s.conf.fd then some s.conf.state else none)
              item now
            let decision : tx_decision :=
              ⟨q.gone.length, now, s.conf.fd, s.conf.state.tx_busy, d.2⟩
            let item := d.1
            let q := { q with queue := bridge_tx_queue_set_head q.queue item }
            match d.2 with
            | .WAIT => ((s, q, .ret .OK), [decision])
            | .DROP =>
                let r := drain_select_traced e cfg left (i + 1) (s.count .loraham_drop)
                  (q.pop item.packet .dropped)
                (r.1, decision :: r.2)
            | .SEND =>
                if !s.data.fd then ((s, q, .ret .OK), [decision])
                else if !s.conf.fd then ((s, q, .ret .OK), [decision])
                else ((s, tx_started q s item now, .send item), [decision])

/-- The trace does not disturb the loop. -/
theorem drain_select_traced_fst (e : drain_env) (cfg : lhkt_config_t) (left : Nat) :
    ∀ i s q, (drain_select_traced e cfg left i s q).1 = drain_select e cfg left i s q := by
  induction left with
  | zero => exact fun i s q => rfl
  | succ left ih =>
      intro i s q
      unfold drain_select_traced drain_select
      cases bridge_tx_queue_head q.queue with
      | none => rfl
      | some item =>
          dsimp only
          generalize drain_read (e.rounds i).read s.conf = r
          split
          · rfl
          · split
            · rfl
            · split
              · rfl
              · cases (bridge_tx_head_decision cfg (if r.1.fd = true then some r.1.state else none)
                  item (e.rounds i).now).2 with
                | WAIT => rfl
                | DROP => exact ih _ _ _
                | SEND =>
                    dsimp only
                    split
                    · rfl
                    · split <;> rfl

/-- The decisions of a drain. -/
def drain_decisions (e : drain_env) (cfg : lhkt_config_t) (s : io_t) (q : txq_t) :
    List tx_decision :=
  (drain_select_traced e cfg (q.queue.count + 1) 0 s q).2

/-- The decisions of a step of the main loop. -/
def step_decisions (cfg : lhkt_config_t) (s : bridge_t) (e : bridge_env) : List tx_decision :=
  if s.pc = .top ∧ (s.stop || e.signal) = false then drain_decisions e.drain cfg s.toio_t s.txq
  else []

/-- The decisions of a run. -/
def run_decisions (cfg : lhkt_config_t) : bridge_t → List bridge_env → List tx_decision
  | _, [] => []
  | s, e :: es => step_decisions cfg s e ++ run_decisions cfg (bridge_step cfg s e) es

/-- The times at which the bytes of a read complete an accepted packet. -/
def client_pushes (cfg : lhkt_config_t) (now : Nat → Int) : Nat → Bytes → bridge_t → List Int
  | _, [], _ => []
  | i, b :: buf, s =>
      let s' := handle_client_byte cfg (now i) b s
      (if s.txq.accepted.length < s'.txq.accepted.length then [now i] else []) ++
        client_pushes cfg now (i + 1) buf s'

/-- The times at which a step accepts packets. -/
def step_pushes (cfg : lhkt_config_t) (s : bridge_t) (e : bridge_env) : List Int :=
  if s.pc = .client ∧ s.client_fd ∧ s.ready.client then
    match e.client with
    | .read bytes => client_pushes cfg e.now 0 bytes s
    | _ => []
  else []

/-- The times at which a run accepts packets. -/
def run_pushes (cfg : lhkt_config_t) : bridge_t → List bridge_env → List Int
  | _, [] => []
  | s, e :: es => step_pushes cfg s e ++ run_pushes cfg (bridge_step cfg s e) es

/-! ## Legitimate drops -/

/-- Among these decisions there is one about the packet at time `t` since which
every decision about it saw an open CONF connection and a busy radio. -/
def BusySince (ds : List tx_decision) (index : Nat) (t : Int) : Prop :=
  ∃ pre d post, ds = pre ++ d :: post ∧ d.index = index ∧ d.now = t ∧
    ∀ d' ∈ d :: post, d'.index = index → d'.conf_open = true ∧ d'.tx_busy = true

/-- The decision `d`, taken behind the decisions `before`, has a reason to drop
its packet: the packet has reached its time to live, or the radio has been busy
in all decisions about it for the busy timeout. -/
def Legitimate (cfg : lhkt_config_t) (pushes : List Int) (before : List tx_decision)
    (d : tx_decision) : Prop :=
  (0 < cfg.tx_packet_ttl_ms ∧
    ∃ t, pushes[d.index]? = some t ∧ cfg.tx_packet_ttl_ms ≤ d.now - t) ∨
  (d.conf_open = true ∧ d.tx_busy = true ∧
    ∃ t, BusySince (before ++ [d]) d.index t ∧ cfg.tx_busy_timeout_ms ≤ d.now - t)

/-- The packet left the queue by a decision that had a reason. -/
def DropDecided (cfg : lhkt_config_t) (ds : List tx_decision) (pushes : List Int) (index : Nat) :
    Prop :=
  ∃ before d after, ds = before ++ d :: after ∧ d.index = index ∧ d.verdict = .DROP ∧
    Legitimate cfg pushes before d

/-- The queue against the decisions and acceptances so far. -/
structure Decided (cfg : lhkt_config_t) (ds : List tx_decision) (pushes : List Int) (q : txq_t) :
    Prop where
  queued : ∃ old : List Int, old.length = q.gone.length ∧
    pushes = old ++ q.queue.toList.map (·.queued_ms)
  behind : ∀ item ∈ q.queue.toList.tail, item.tx_wait_start_ms = 0
  head : ∀ item, q.queue.toList.head? = some item → item.tx_wait_start_ms ≠ 0 →
    BusySince ds q.gone.length item.tx_wait_start_ms
  dropped : ∀ k packet, q.gone[k]? = some (packet, .dropped) → DropDecided cfg ds pushes k

theorem BusySince.concat {ds : List tx_decision} {index : Nat} {t : Int} (h : BusySince ds index t)
    {d : tx_decision} (hd : d.index = index → d.conf_open = true ∧ d.tx_busy = true) :
    BusySince (ds ++ [d]) index t := by
  obtain ⟨pre, d₀, post, rfl, hindex, hnow, hbusy⟩ := h
  refine ⟨pre, d₀, post ++ [d], by simp, hindex, hnow, ?_⟩
  intro d' hd'
  rw [← List.cons_append, List.mem_append, List.mem_singleton] at hd'
  rcases hd' with hd' | rfl
  · exact hbusy d' hd'
  · exact hd

/-- A busy decision is a start of its own. -/
theorem busySince_self (ds : List tx_decision) {d : tx_decision}
    (hd : d.conf_open = true ∧ d.tx_busy = true) : BusySince (ds ++ [d]) d.index d.now := by
  refine ⟨ds, d, [], rfl, rfl, rfl, ?_⟩
  intro d' hd'
  rw [List.mem_singleton.mp hd']
  exact fun _ => hd

theorem DropDecided.mono {cfg : lhkt_config_t} {ds : List tx_decision} {pushes : List Int}
    {index : Nat} (h : DropDecided cfg ds pushes index) (ds' : List tx_decision)
    (pushes' : List Int) : DropDecided cfg (ds ++ ds') (pushes ++ pushes') index := by
  obtain ⟨before, d, after, rfl, hindex, hdrop, hlegit⟩ := h
  refine ⟨before, d, after ++ ds', by simp, hindex, hdrop, ?_⟩
  rcases hlegit with ⟨hpos, t, ht, hage⟩ | hbusy
  · refine .inl ⟨hpos, t, ?_, hage⟩
    rw [List.getElem?_append_left (List.getElem?_eq_some_iff.mp ht).1]
    exact ht
  · exact .inr hbusy

theorem decided_init (cfg : lhkt_config_t) : Decided cfg [] [] {} where
  queued := ⟨[], rfl, rfl⟩
  behind := fun _ h => absurd h List.not_mem_nil
  head := fun _ h => nomatch h
  dropped := fun _ _ h => nomatch h

/-! ## One decision -/

/-- What a decision does, with the reason for it. -/
theorem head_decision_cases (cfg : lhkt_config_t) (conf_state : Option bridge_conf_state_t)
    (item : bridge_tx_item_t) (now : Int) :
    (0 < cfg.tx_packet_ttl_ms ∧ cfg.tx_packet_ttl_ms ≤ now - item.queued_ms ∧
      bridge_tx_head_decision cfg conf_state item now = (item, .DROP)) ∨
    (conf_state.any (·.tx_busy) = true ∧
      ∃ start, start = (if item.tx_wait_start_ms = 0 then now else item.tx_wait_start_ms) ∧
        (cfg.tx_busy_timeout_ms ≤ now - start ∧ bridge_tx_head_decision cfg conf_state item now
            = ({ item with tx_wait_start_ms := start }, .DROP) ∨
          bridge_tx_head_decision cfg conf_state item now
            = ({ item with tx_wait_start_ms := start }, .WAIT))) ∨
    bridge_tx_head_decision cfg conf_state item now = ({ item with tx_wait_start_ms := 0 }, .SEND) := by
  unfold bridge_tx_head_decision
  by_cases httl : 0 < cfg.tx_packet_ttl_ms ∧ cfg.tx_packet_ttl_ms ≤ now - item.queued_ms
  · rw [if_pos httl]
    exact .inl ⟨httl.1, httl.2, rfl⟩
  · rw [if_neg httl]
    by_cases hbusy : conf_state.any (·.tx_busy) = true
    · rw [if_pos hbusy]
      refine .inr (.inl ⟨hbusy, _, rfl, ?_⟩)
      dsimp only
      by_cases hlate : cfg.tx_busy_timeout_ms
          ≤ now - if item.tx_wait_start_ms = 0 then now else item.tx_wait_start_ms
      · rw [if_pos hlate]
        exact .inl ⟨hlate, rfl⟩
      · rw [if_neg hlate]
        exact .inr rfl
    · rw [if_neg hbusy]
      exact .inr (.inr rfl)

/-- Without a CONF connection nothing is known to be busy. -/
theorem any_busy {fd : Bool} {state : bridge_conf_state_t}
    (h : (if fd = true then some state else none).any (·.tx_busy) = true) :
    fd = true ∧ state.tx_busy = true := by
  cases fd with
  | false => exact nomatch h
  | true => exact ⟨rfl, h⟩

section Decision

variable {cfg : lhkt_config_t} {ds : List tx_decision} {pushes : List Int} {q : txq_t}
  {item : bridge_tx_item_t}

theorem count_ne_zero_of_head (h : bridge_tx_queue_head q.queue = some item) :
    q.queue.count ≠ 0 := by
  intro h0
  rw [bridge_tx_queue_head, if_pos h0] at h
  cases h

/-- The queue with its head in front. -/
theorem toList_of_head (h : bridge_tx_queue_head q.queue = some item) :
    q.queue.toList = item :: q.queue.toList.tail := by
  rw [bridge_tx_queue_head_eq] at h
  exact (List.cons_head?_tail h).symm

/-- A decision that keeps the packet may set the clock of the head. -/
theorem Decided.keep (h : Decided cfg ds pushes q)
    (hitem : bridge_tx_queue_head q.queue = some item) (d : tx_decision) (item' : bridge_tx_item_t)
    (hqueued : item'.queued_ms = item.queued_ms)
    (hstart : item'.tx_wait_start_ms ≠ 0 →
      BusySince (ds ++ [d]) q.gone.length item'.tx_wait_start_ms) :
    Decided cfg (ds ++ [d]) pushes
      { q with queue := bridge_tx_queue_set_head q.queue item' } := by
  have hlist := toList_set_head item' (count_ne_zero_of_head hitem)
  constructor
  · obtain ⟨old, hlen, hpushes⟩ := h.queued
    refine ⟨old, hlen, hpushes.trans ?_⟩
    rw [hlist, toList_of_head hitem, List.map_cons, List.map_cons, hqueued, List.tail_cons]
  · rw [hlist]
    exact h.behind
  · intro first hfirst
    rw [hlist] at hfirst
    rw [← Option.some.inj hfirst]
    exact hstart
  · intro k packet hk
    have := (h.dropped k packet hk).mono [d] []
    rwa [List.append_nil] at this

/-- A packet leaves the queue, and the next one starts with a cleared clock. When
it is dropped, one of the decisions had a reason. -/
theorem Decided.pop (h : Decided cfg ds pushes q)
    (hitem : bridge_tx_queue_head q.queue = some item) (more : List tx_decision)
    {queue : bridge_tx_queue_t} (hqueue : queue.toList.tail = q.queue.toList.tail) (packet : Bytes)
    (fate : tx_fate)
    (hdropped : fate = .dropped → DropDecided cfg (ds ++ more) pushes q.gone.length) :
    Decided cfg (ds ++ more) pushes (txq_t.pop { q with queue := queue } packet fate) := by
  have hlist : (bridge_tx_queue_pop queue).toList = q.queue.toList.tail :=
    (toList_pop queue).trans hqueue
  constructor
  · obtain ⟨old, hlen, hpushes⟩ := h.queued
    refine ⟨old ++ [item.queued_ms], ?_, ?_⟩
    · show (old ++ [item.queued_ms]).length = (q.gone ++ [(packet, fate)]).length
      rw [List.length_append, List.length_append, hlen]
      rfl
    · show pushes = _ ++ (bridge_tx_queue_pop queue).toList.map _
      rw [hlist, hpushes, toList_of_head hitem, List.map_cons, List.tail_cons, List.append_assoc]
      rfl
  · intro next hnext
    have hnext : next ∈ q.queue.toList.tail.tail := hlist ▸ hnext
    exact h.behind next (List.mem_of_mem_tail hnext)
  · intro next hnext hstart
    have hnext : q.queue.toList.tail.head? = some next := hlist ▸ hnext
    exact absurd (h.behind next (List.mem_of_mem_head? hnext)) hstart
  · intro k packet' hk
    have hk : (q.gone ++ [(packet, fate)])[k]? = some (packet', .dropped) := hk
    by_cases hnew : k < q.gone.length
    · rw [List.getElem?_append_left hnew] at hk
      have := (h.dropped k packet' hk).mono more []
      rwa [List.append_nil] at this
    · -- behind the packets gone before there is only this one
      rw [List.getElem?_append_right (by omega), List.getElem?_singleton] at hk
      by_cases hzero : k - q.gone.length = 0
      · rw [if_pos hzero] at hk
        have hk' : k = q.gone.length := by omega
        rw [hk']
        exact hdropped (Prod.mk.inj (Option.some.inj hk)).2
      · rw [if_neg hzero] at hk
        exact nomatch hk

/-- A decision that drops the packet. -/
theorem Decided.drop (h : Decided cfg ds pushes q)
    (hitem : bridge_tx_queue_head q.queue = some item) {d : tx_decision}
    (hindex : d.index = q.gone.length) (hdrop : d.verdict = .DROP)
    (hlegit : Legitimate cfg pushes ds d) (item' : bridge_tx_item_t) (packet : Bytes) :
    Decided cfg (ds ++ [d]) pushes (txq_t.pop
      { q with queue := bridge_tx_queue_set_head q.queue item' } packet .dropped) := by
  apply h.pop hitem
  · rw [toList_set_head item' (count_ne_zero_of_head hitem), List.tail_cons]
  · exact fun _ => ⟨ds, d, [], rfl, hindex, hdrop, hlegit⟩

/-- A packet leaves the queue behind its transmission. -/
theorem Decided.sent (h : Decided cfg ds pushes q)
    (hitem : bridge_tx_queue_head q.queue = some item) (packet : Bytes) :
    Decided cfg ds pushes (q.pop packet .sent) := by
  have hpop := h.pop hitem [] rfl packet .sent (fun hfate => nomatch hfate)
  rwa [List.append_nil] at hpop

/-- The head was accepted when its slot says. -/
theorem Decided.queued_head (h : Decided cfg ds pushes q)
    (hitem : bridge_tx_queue_head q.queue = some item) :
    pushes[q.gone.length]? = some item.queued_ms := by
  obtain ⟨old, hlen, hpushes⟩ := h.queued
  rw [hpushes, toList_of_head hitem, ← hlen, List.getElem?_append_right (Nat.le_refl _),
    Nat.sub_self]
  rfl

/-- Where a running clock comes from, behind a busy decision. -/
theorem Decided.busy (h : Decided cfg ds pushes q)
    (hitem : bridge_tx_queue_head q.queue = some item) {d : tx_decision}
    (hindex : d.index = q.gone.length) (hd : d.conf_open = true ∧ d.tx_busy = true) :
    BusySince (ds ++ [d]) q.gone.length
      (if item.tx_wait_start_ms = 0 then d.now else item.tx_wait_start_ms) := by
  by_cases hzero : item.tx_wait_start_ms = 0
  · rw [if_pos hzero, ← hindex]
    exact busySince_self ds hd
  · rw [if_neg hzero]
    rw [bridge_tx_queue_head_eq] at hitem
    exact (h.head item hitem hzero).concat fun _ => hd

end Decision

/-! ## A drain -/

/-- The loop of a drain: each round reads CONF, decides, and goes on when it has
dropped the head. The induction is on the rounds left. -/
theorem drain_select_decided (e : drain_env) (cfg : lhkt_config_t) (pushes : List Int)
    (left : Nat) : ∀ i s q ds, Decided cfg ds pushes q →
      Decided cfg (ds ++ (drain_select_traced e cfg left i s q).2) pushes
          (drain_select_traced e cfg left i s q).1.2.1 ∧
        ∀ item, (drain_select_traced e cfg left i s q).1.2.2 = .send item →
          bridge_tx_queue_head (drain_select_traced e cfg left i s q).1.2.1.queue = some item := by
  induction left with
  | zero =>
      intro i s q ds h
      refine ⟨?_, fun _ hsend => nomatch hsend⟩
      rw [drain_select_traced, List.append_nil]
      exact h
  | succ left ih =>
      intro i s q ds h
      have hquiet : Decided cfg (ds ++ []) pushes q := by
        rw [List.append_nil]
        exact h
      unfold drain_select_traced
      cases hitem : bridge_tx_queue_head q.queue with
      | none => exact ⟨hquiet, fun _ hsend => nomatch hsend⟩
      | some item =>
          dsimp only
          generalize drain_read (e.rounds i).read s.conf = r
          -- without a decision nothing changes
          by_cases hread : r.2 ≠ .OK
          · rw [if_pos hread]
            exact ⟨hquiet, fun _ hsend => nomatch hsend⟩
          rw [if_neg hread]
          by_cases hstatus : r.1.fd = true ∧ (!r.1.state.have_status) = true
          · rw [if_pos hstatus]
            exact ⟨hquiet, fun _ hsend => nomatch hsend⟩
          rw [if_neg hstatus]
          by_cases hresult : r.1.state.txresult_known = true ∧
              (!r.1.state.txresult_enabled) = true
          · rw [if_pos hresult]
            exact ⟨hquiet, fun _ hsend => nomatch hsend⟩
          rw [if_neg hresult]
          have hset : ∀ item', bridge_tx_queue_head (bridge_tx_queue_set_head q.queue item')
              = some item' := by
            intro item'
            rw [bridge_tx_queue_head_eq, toList_set_head item' (count_ne_zero_of_head hitem),
              List.head?_cons]
          -- the three things a decision can do
          rcases head_decision_cases cfg (if r.1.fd = true then some r.1.state else none) item
            (e.rounds i).now with ⟨hpos, hage, hdec⟩ | ⟨hany, start, hstart, hdec⟩ | hdec
          · rw [hdec]
            dsimp only
            rw [List.append_cons]
            exact ih _ _ _ _ (h.drop hitem rfl rfl
              (.inl ⟨hpos, item.queued_ms, h.queued_head hitem, hage⟩) item item.packet)
          · obtain ⟨hopen, hbusy⟩ := any_busy hany
            rcases hdec with ⟨hlate, hdec⟩ | hdec
            · rw [hdec]
              dsimp only
              rw [List.append_cons]
              have hsince := h.busy hitem (d := ⟨q.gone.length, (e.rounds i).now, r.1.fd,
                r.1.state.tx_busy, .DROP⟩) rfl ⟨hopen, hbusy⟩
              exact ih _ _ _ _ (h.drop hitem rfl rfl
                (.inr ⟨hopen, hbusy, _, hsince, hstart ▸ hlate⟩) _ item.packet)
            · rw [hdec]
              have hsince := h.busy hitem (d := ⟨q.gone.length, (e.rounds i).now, r.1.fd,
                r.1.state.tx_busy, .WAIT⟩) rfl ⟨hopen, hbusy⟩
              rw [← hstart] at hsince
              exact ⟨h.keep hitem _ _ rfl fun _ => hsince, fun _ hsend => nomatch hsend⟩
          · rw [hdec]
            dsimp only
            have hkept := h.keep hitem ⟨q.gone.length, (e.rounds i).now, r.1.fd,
              r.1.state.tx_busy, .SEND⟩ { item with tx_wait_start_ms := 0 } rfl
              fun hne => absurd rfl hne
            by_cases hdata : (!s.data.fd) = true
            · rw [if_pos hdata]
              exact ⟨hkept, fun _ hsend => nomatch hsend⟩
            · rw [if_neg hdata]
              by_cases hconf : (!r.1.fd) = true
              · rw [if_pos hconf]
                exact ⟨hkept, fun _ hsend => nomatch hsend⟩
              · rw [if_neg hconf]
                refine ⟨⟨hkept.queued, hkept.behind, hkept.head, hkept.dropped⟩, ?_⟩
                intro item' hsend
                rw [← drain_next.send.inj hsend]
                exact hset _

/-- A whole drain. -/
theorem drain_decided (e : drain_env) (cfg : lhkt_config_t) (client_fd : Bool) (s : io_t)
    {q : txq_t} {ds : List tx_decision} {pushes : List Int} (h : Decided cfg ds pushes q) :
    Decided cfg (ds ++ drain_decisions e cfg s q) pushes
      (bridge_loraham_tx_queue_drain_with_client e cfg client_fd s q).2.1 := by
  obtain ⟨hdec, hsend⟩ := drain_select_decided e cfg pushes (q.queue.count + 1) 0 s q ds h
  unfold drain_decisions bridge_loraham_tx_queue_drain_with_client
  rw [drain_select_traced_fst] at hdec hsend
  generalize (drain_select_traced e cfg (q.queue.count + 1) 0 s q).2 = trace at hdec ⊢
  generalize drain_select e cfg (q.queue.count + 1) 0 s q = r at hdec hsend ⊢
  obtain ⟨s', q', next⟩ := r
  cases next with
  | ret ret => exact hdec
  | send item =>
      show Decided cfg _ pushes (tx_finished q' item _ _)
      unfold tx_finished
      split
      · exact hdec.sent (hsend item rfl) item.packet
      · exact hdec

/-! ## A client -/

/-- An accepted packet is the last one, with a cleared clock. -/
theorem Decided.push {cfg : lhkt_config_t} {ds : List tx_decision} {pushes : List Int} {q : txq_t}
    (h : Decided cfg ds pushes q) {packet : Bytes} {now : Int} {queue : bridge_tx_queue_t}
    (hpush : bridge_tx_queue_push q.queue cfg packet now = .ok queue) (accepted : List tx_accept) :
    Decided cfg ds (pushes ++ [now]) { q with queue := queue, accepted := accepted } := by
  have hlist := toList_push hpush
  constructor
  · obtain ⟨old, hlen, hpushes⟩ := h.queued
    refine ⟨old, hlen, ?_⟩
    show _ = old ++ queue.toList.map _
    rw [hlist, List.map_append, hpushes, List.append_assoc]
    rfl
  · intro item hitem
    have hitem : item ∈ queue.toList.tail := hitem
    rw [hlist] at hitem
    -- the new packet is behind the head, unless the queue was empty
    cases hq : q.queue.toList with
    | nil =>
        rw [hq] at hitem
        exact absurd hitem List.not_mem_nil
    | cons first rest =>
        rw [hq, List.cons_append, List.tail_cons, List.mem_append, List.mem_singleton] at hitem
        rcases hitem with hitem | rfl
        · exact h.behind item (by rw [hq]; exact hitem)
        · rfl
  · intro item hitem hstart
    have hitem : queue.toList.head? = some item := hitem
    rw [hlist] at hitem
    cases hq : q.queue.toList with
    | nil =>
        rw [hq] at hitem
        rw [← Option.some.inj hitem] at hstart
        exact absurd rfl hstart
    | cons first rest =>
        rw [hq] at hitem
        exact h.head item (by rw [hq]; exact hitem) hstart
  · intro k packet' hk
    have := (h.dropped k packet' hk).mono [] [now]
    rwa [List.append_nil] at this

/-- A byte leaves the queue as it is or completes an accepted packet. -/
theorem handle_client_byte_txq (cfg : lhkt_config_t) (now : Int) (b : UInt8) (s : bridge_t) :
    (handle_client_byte cfg now b s).txq = s.txq ∨
      ∃ packet queue accept, bridge_tx_queue_push s.txq.queue cfg packet now = .ok queue ∧
        (handle_client_byte cfg now b s).txq
          = { s.txq with queue := queue, accepted := s.txq.accepted ++ [accept] } := by
  unfold handle_client_byte
  split
  · rename_i kiss_dec frame _
    have htxq : ∀ s' : bridge_t, ∀ ret : Lhkt,
        (if bridge_loraham_should_reconnect_data_socket ret = true then drop_data s'
          else if bridge_loraham_should_reconnect_conf_socket ret = true then drop_conf s'
          else s').txq = s'.txq := by
      intro s' ret
      split
      · rfl
      · split <;> rfl
    dsimp only
    rw [htxq]
    rcases bridge_kiss_handle_frame_cases frame s.kiss_params cfg now (s.rx.stats.incr .kiss_rx)
      s.txq with hq | ⟨_, _, packet, queue, _, _, _, _, _, _, hpush, hq⟩
    · exact .inl hq
    · exact .inr ⟨packet, queue, _, hpush, hq⟩
  · exact .inl rfl
  · exact .inl rfl

/-- The bytes of one read. -/
theorem handle_client_bytes_decided (cfg : lhkt_config_t) (now : Nat → Int)
    {ds : List tx_decision} (buf : Bytes) : ∀ i s pushes, Decided cfg ds pushes s.txq →
      Decided cfg ds (pushes ++ client_pushes cfg now i buf s)
        (handle_client_bytes cfg now i buf s).txq := by
  induction buf with
  | nil =>
      intro i s pushes h
      rw [client_pushes, List.append_nil]
      exact h
  | cons b buf ih =>
      intro i s pushes h
      rw [client_pushes, handle_client_bytes, ← List.append_assoc]
      refine ih (i + 1) _ _ ?_
      rcases handle_client_byte_txq cfg (now i) b s with hq | ⟨packet, queue, accept, hpush, hq⟩
      · rw [hq, if_neg (Nat.lt_irrefl _), List.append_nil]
        exact h
      · rw [hq, if_pos (by simp)]
        exact h.push hpush _

/-! ## A run -/

theorem bridge_timeout_txq (cfg : lhkt_config_t) (e : bridge_env) (s : bridge_t) :
    (bridge_timeout cfg e s).txq = s.txq := by
  apply bridge_timeout_elim (P := fun s' => s'.txq = s.txq) cfg e s rfl
  · exact fun _ => rfl
  · exact fun _ _ _ => rfl
  · intro _ _ _
    unfold pending_config
    dsimp only
    split <;> rfl

/-- Only draining and reading the client touch the queue. -/
theorem bridge_step_txq {cfg : lhkt_config_t} {s : bridge_t} {e : bridge_env} (htop : s.pc ≠ .top)
    (hclient : s.pc ≠ .client) : (bridge_step cfg s e).txq = s.txq := by
  unfold bridge_step
  cases hpc : s.pc with
  | top => exact absurd hpc htop
  | client => exact absurd hpc hclient
  -- the remaining states touch sockets, counters and the client's connection
  | select =>
      show (bridge_select cfg e s).txq = s.txq
      unfold bridge_select
      cases e.select with
      | fail => exact bridge_exit_txq s
      | eintr => rfl
      | ready r => rfl
      | timeout => exact bridge_timeout_txq cfg e s
  | accept =>
      show (bridge_accept cfg e s).txq = s.txq
      unfold bridge_accept
      split
      · cases e.accept with
        | again => rfl
        | fail => rfl
        | peer addr nonblocking =>
            dsimp only
            split
            · rfl
            · split <;> rfl
      · rfl
  | conf =>
      show (bridge_conf e s).txq = s.txq
      unfold bridge_conf
      split
      · dsimp only
        split <;> rfl
      · rfl
  | data =>
      show (bridge_data e s).txq = s.txq
      unfold bridge_data
      split
      · cases e.data with
        | soft => rfl
        | fail => rfl
        | read bytes =>
            cases bytes with
            | nil => rfl
            | cons b buf => exact handle_chunk_result_txq _ _
      · rfl
  | done => rfl

/-- Draining, unless a stop was requested. -/
theorem bridge_step_top_decided (cfg : lhkt_config_t) {s : bridge_t} (e : bridge_env)
    {ds : List tx_decision} {pushes : List Int} (hpc : s.pc = .top)
    (h : Decided cfg ds pushes s.txq) :
    Decided cfg (ds ++ step_decisions cfg s e) pushes (bridge_step cfg s e).txq := by
  unfold step_decisions
  cases hstop : s.stop || e.signal with
  | false =>
      rw [if_pos ⟨hpc, rfl⟩, bridge_step_drained hpc hstop]
      exact drain_decided e.drain cfg s.client_fd s.toio_t h
  | true =>
      have hno : ¬ (s.pc = .top ∧ true = false) := fun hrun => nomatch hrun.2
      rw [if_neg hno, List.append_nil, bridge_step_stopped hpc hstop]
      exact h

/-- Reading the client. -/
theorem bridge_step_client_decided (cfg : lhkt_config_t) {s : bridge_t} (e : bridge_env)
    {ds : List tx_decision} {pushes : List Int} (hpc : s.pc = .client)
    (h : Decided cfg ds pushes s.txq) :
    Decided cfg ds (pushes ++ step_pushes cfg s e) (bridge_step cfg s e).txq := by
  rw [bridge_step_client cfg e hpc]
  unfold step_pushes bridge_client
  by_cases hready : s.client_fd = true ∧ s.ready.client = true
  · rw [if_pos hready, if_pos ⟨hpc, hready⟩]
    cases e.client with
    | soft =>
        rw [List.append_nil]
        exact h
    | fail =>
        rw [List.append_nil]
        exact h
    | read bytes =>
        cases bytes with
        | nil =>
            show Decided cfg ds (pushes ++ []) s.txq
            rw [List.append_nil]
            exact h
        | cons b buf => exact handle_client_bytes_decided cfg e.now (b :: buf) 0 s pushes h
  · rw [if_neg hready, if_neg fun hrun => hready hrun.2, List.append_nil]
    exact h

/-- A step of the main loop. -/
theorem bridge_step_decided (cfg : lhkt_config_t) (s : bridge_t) (e : bridge_env)
    {ds : List tx_decision} {pushes : List Int} (h : Decided cfg ds pushes s.txq) :
    Decided cfg (ds ++ step_decisions cfg s e) (pushes ++ step_pushes cfg s e)
      (bridge_step cfg s e).txq := by
  have hpushes : s.pc ≠ .client → step_pushes cfg s e = [] := fun hpc =>
    if_neg fun hrun => hpc hrun.1
  have hdecisions : s.pc ≠ .top → step_decisions cfg s e = [] := fun hpc =>
    if_neg fun hrun => hpc hrun.1
  by_cases htop : s.pc = .top
  · rw [hpushes (by rw [htop]; decide), List.append_nil]
    exact bridge_step_top_decided cfg e htop h
  · rw [hdecisions htop, List.append_nil]
    by_cases hclient : s.pc = .client
    · exact bridge_step_client_decided cfg e hclient h
    · rw [hpushes hclient, List.append_nil, bridge_step_txq htop hclient]
      exact h

/-- A run of the main loop. -/
theorem bridge_run_decided (cfg : lhkt_config_t) (es : List bridge_env) :
    ∀ s ds pushes, Decided cfg ds pushes s.txq →
      Decided cfg (ds ++ run_decisions cfg s es) (pushes ++ run_pushes cfg s es)
        (run (bridge_step cfg) s es).txq := by
  induction es with
  | nil =>
      intro s ds pushes h
      rw [run_decisions, run_pushes, List.append_nil, List.append_nil]
      exact h
  | cons e es ih =>
      intro s ds pushes h
      rw [run_decisions, run_pushes, ← List.append_assoc, ← List.append_assoc]
      exact ih _ _ _ (bridge_step_decided cfg s e h)

/-- **Legitimate drops only.** In every run, whatever the clock does, a packet
that left the queue without a transmission was dropped by a decision that had a
reason: the packet had been in the queue for its time to live, or CONF was open,
the radio busy, and both had been so in every decision about the packet for at
least the busy timeout. -/
theorem drops_are_legitimate (cfg : lhkt_config_t) (start : start_env) (es : List bridge_env)
    (k : Nat) (packet : Bytes)
    (h : (bridge_run cfg start es).txq.gone[k]? = some (packet, .dropped)) :
    ∃ before d after,
      run_decisions cfg (bridge_start cfg start) es = before ++ d :: after ∧
      d.index = k ∧ d.verdict = .DROP ∧
      ((0 < cfg.tx_packet_ttl_ms ∧ ∃ t, (run_pushes cfg (bridge_start cfg start) es)[k]? = some t ∧
          cfg.tx_packet_ttl_ms ≤ d.now - t) ∨
        (d.conf_open = true ∧ d.tx_busy = true ∧
          ∃ t, BusySince (before ++ [d]) k t ∧ cfg.tx_busy_timeout_ms ≤ d.now - t)) := by
  have hinit : Decided cfg [] [] (bridge_start cfg start).txq := by
    rw [bridge_start_txq]
    exact decided_init cfg
  have hrun := bridge_run_decided cfg es _ _ _ hinit
  rw [List.nil_append, List.nil_append] at hrun
  obtain ⟨before, d, after, hds, rfl, hdrop, hlegit⟩ := hrun.dropped k packet h
  exact ⟨before, d, after, hds, rfl, hdrop, hlegit⟩

/-- The radio is busy when a packet arrives, and still two minutes later. -/
def busy_run : List bridge_env :=
  iteration client_connects ++
    iteration { packet_arrives (ascii "x") (ascii "STATUS RADIO=READY TX=1 TXRESULT=1") with
      now := fun _ => 1000 } ++
    iteration { drain := { rounds := fun _ => { now := 2000 } } } ++
    [{ drain := { rounds := fun _ => { now := 122000 } } }]

theorem drops_are_legitimate_busy :
    ∃ packet, (bridge_run lhkt_config_defaults {} busy_run).txq.gone[0]? = some (packet, .dropped) ∧
      ∃ before d after,
        run_decisions lhkt_config_defaults (bridge_start lhkt_config_defaults {}) busy_run
          = before ++ d :: after ∧ d.index = 0 ∧ d.verdict = .DROP := by
  have h : (bridge_run lhkt_config_defaults {} busy_run).txq.gone[0]?
      = some ([0x3C, 0xFF, 0x01] ++ ascii "N0CALL>APLHM:x", .dropped) := by decide +kernel
  obtain ⟨before, d, after, hds, hindex, hdrop, -⟩ :=
    drops_are_legitimate lhkt_config_defaults {} busy_run 0 _ h
  exact ⟨_, h, before, d, after, hds, hindex, hdrop⟩

end LorahamKissTnc.TxDecisions
