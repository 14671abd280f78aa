/-
The queue is ordered by age, so looking at its head is enough.

A drain checks the time to live of the head only. That no expired packet stays
behind a head that is young enough rests on the order of the queue: packets enter
at the back with the time of their acceptance and leave at the front, so with a
clock that does not go back the ages only shrink from the head on
(`ages_sorted`). A drain that ends with a decision to wait or to send has looked
at the head, and with it at all of them (`queue_stays_fresh`).

A drain that ends for another reason, after a failing read of CONF for example,
has looked at nothing, and the statement does not speak of it.
-/
import LorahamKissTnc.TxDecisions

set_option autoImplicit false

open LorahamKissTnc.Lib.CString LorahamKissTnc.Lib.Channel LorahamKissTnc.Lib.Machine
open LorahamKissTnc.Config LorahamKissTnc.BridgeConf LorahamKissTnc.BridgeTxQueue
open LorahamKissTnc.BridgeKiss LorahamKissTnc.BridgeLoraham LorahamKissTnc.Bridge
open LorahamKissTnc.TxOnce LorahamKissTnc.OnAir LorahamKissTnc.TxDrops LorahamKissTnc.TxDecisions

namespace LorahamKissTnc.TxAges

variable {cfg : lhkt_config_t}

/-! ## The times in the queue -/

/-- When the packets in the queue were accepted, from the head on. -/
def ages (queue : bridge_tx_queue_t) : List Int := queue.toList.map (·.queued_ms)

theorem ages_of_head {queue : bridge_tx_queue_t} {item : bridge_tx_item_t}
    (h : bridge_tx_queue_head queue = some item) :
    ages queue = item.queued_ms :: ages (bridge_tx_queue_pop queue) := by
  rw [bridge_tx_queue_head_eq] at h
  unfold ages
  rw [toList_pop, ← List.map_cons (f := fun item : bridge_tx_item_t => item.queued_ms),
    List.cons_head?_tail h]

/-- The wait clock of the head is not its age. -/
theorem ages_set_head {queue : bridge_tx_queue_t} {item item' : bridge_tx_item_t}
    (h : bridge_tx_queue_head queue = some item) (hqueued : item'.queued_ms = item.queued_ms) :
    ages (bridge_tx_queue_set_head queue item') = ages queue := by
  rw [ages_of_head h]
  unfold ages
  rw [toList_set_head item' (count_of_head h), toList_pop, List.map_cons, hqueued]

theorem ages_pop (queue : bridge_tx_queue_t) : ages (bridge_tx_queue_pop queue) <:+ ages queue := by
  unfold ages
  rw [toList_pop, List.map_tail]
  exact List.tail_suffix _

/-- The rounds of a drain take packets from the front. -/
theorem drain_select_ages (cfg : lhkt_config_t) (e : drain_env) (left i : Nat) (s : io_t)
    (q : txq_t) :
    ages (drain_select e cfg left i s q).2.1.queue <:+ ages q.queue := by
  refine drain_select_elim (I := fun _ q' => ages q'.queue <:+ ages q.queue)
    (P := fun r => ages r.2.1.queue <:+ ages q.queue) e cfg (fun _ _ _ h _ => h) ?_ ?_
    (fun _ _ _ h _ => h) (fun _ _ _ _ h _ _ => h) left i s q List.suffix_rfl
  · intro _ q' item item' h hitem _ hqueued
    show ages (bridge_tx_queue_set_head q'.queue item') <:+ _
    rw [ages_set_head hitem hqueued]
    exact h
  · exact fun _ q' _ h _ => (ages_pop q'.queue).trans h

/-- The transmission behind them may take one more. -/
theorem drain_ages_select (cfg : lhkt_config_t) (e : drain_env) (client_fd : Bool) (s : io_t)
    (q : txq_t) :
    ages (bridge_loraham_tx_queue_drain_with_client e cfg client_fd s q).2.1.queue
      <:+ ages (drain_select e cfg (q.queue.count + 1) 0 s q).2.1.queue := by
  unfold bridge_loraham_tx_queue_drain_with_client
  generalize drain_select e cfg (q.queue.count + 1) 0 s q = r
  obtain ⟨s', q', next⟩ := r
  match next with
  | .ret ret => exact List.suffix_rfl
  | .send item =>
      show ages (tx_finished q' item _ _).queue <:+ ages q'.queue
      unfold tx_finished
      split
      · exact ages_pop q'.queue
      · exact List.suffix_rfl

/-- **A drain takes packets from the front**: what is left are the last ones of
before. -/
theorem drain_ages (e : drain_env) (client_fd : Bool) (s : io_t) (q : txq_t) :
    ages (bridge_loraham_tx_queue_drain_with_client e cfg client_fd s q).2.1.queue
      <:+ ages q.queue :=
  (drain_ages_select cfg e client_fd s q).trans (drain_select_ages cfg e _ 0 s q)

/-- **The queue is ordered by age** when packets are accepted by a clock that does
not go back. -/
theorem ages_sorted {start : start_env} {es : List bridge_env}
    (hclock : (run_pushes cfg (bridge_start cfg start) es).Pairwise (· ≤ ·)) :
    (ages (bridge_run cfg start es).txq.queue).Pairwise (· ≤ ·) := by
  have hinit : Decided cfg [] [] (bridge_start cfg start).txq := by
    rw [bridge_start_txq]
    exact decided_init cfg
  obtain ⟨old, _, hpushes⟩ := (bridge_run_decided cfg es _ _ _ hinit).queued
  rw [List.nil_append] at hpushes
  rw [hpushes] at hclock
  exact (List.pairwise_append.mp hclock).2.1

/-! ## The decision that ends a drain -/

/-- A decision to wait or to send is about a packet that has not expired. -/
theorem head_decision_fresh (httl : 0 < cfg.tx_packet_ttl_ms) (item : bridge_tx_item_t) (now : Int)
    (conf_state : Option bridge_conf_state_t)
    (h : (bridge_tx_head_decision cfg conf_state item now).2 ≠ .DROP) :
    now - item.queued_ms < cfg.tx_packet_ttl_ms := by
  by_contra hage
  apply h
  unfold bridge_tx_head_decision
  rw [if_pos ⟨httl, by omega⟩]

/-- The last decision of the rounds is about the packet that is the head behind
them, unless it dropped its packet. -/
theorem drain_select_head_fresh (httl : 0 < cfg.tx_packet_ttl_ms) (e : drain_env) (left : Nat) :
    ∀ i s q d, (drain_select_traced e cfg left i s q).2.getLast? = some d → d.verdict ≠ .DROP →
      ∃ item, bridge_tx_queue_head (drain_select_traced e cfg left i s q).1.2.1.queue = some item ∧
        d.now - item.queued_ms < cfg.tx_packet_ttl_ms := by
  induction left with
  | zero => exact fun i s q d h => nomatch h
  | succ left ih =>
      intro i s q d
      unfold drain_select_traced
      split
      · exact fun h => nomatch h
      · rename_i item hitem
        dsimp only
        generalize drain_read (e.rounds i).read s.conf = r
        split
        · exact fun h => nomatch h
        · split
          · exact fun h => nomatch h
          · split
            · exact fun h => nomatch h
            · obtain ⟨_, hqueued⟩ := bridge_tx_head_decision_item cfg
                (if r.1.fd = true then some r.1.state else none) item (e.rounds i).now
              have hfresh := head_decision_fresh httl item (e.rounds i).now
                (if r.1.fd = true then some r.1.state else none)
              generalize bridge_tx_head_decision cfg
                (if r.1.fd = true then some r.1.state else none) item (e.rounds i).now = dec
                at hqueued hfresh ⊢
              obtain ⟨item', verdict⟩ := dec
              have hqueued : item'.queued_ms = item.queued_ms := hqueued
              have hhead : bridge_tx_queue_head (bridge_tx_queue_set_head q.queue item')
                  = some item' := by
                rw [bridge_tx_queue_head_eq, toList_set_head item' (count_of_head hitem),
                  List.head?_cons]
              have hkept : ∀ d : tx_decision, ([⟨q.gone.length, (e.rounds i).now, r.1.fd,
                  r.1.state.tx_busy, verdict⟩] : List tx_decision).getLast? = some d →
                  d.verdict ≠ .DROP → d.now - item'.queued_ms < cfg.tx_packet_ttl_ms := by
                intro d hd hverdict
                rw [← Option.some.inj hd] at hverdict ⊢
                rw [hqueued]
                exact hfresh hverdict
              cases verdict with
              | WAIT => exact fun hd hverdict => ⟨item', hhead, hkept d hd hverdict⟩
              | DROP =>
                  -- the rounds went on, and the last decision is one of theirs
                  intro hd hverdict
                  dsimp only at hd ⊢
                  rw [List.getLast?_cons] at hd
                  refine ih _ _ _ d ?_ hverdict
                  generalize (drain_select_traced e cfg left (i + 1)
                    (io_t.count { s with conf := r.1 } .loraham_drop)
                    (txq_t.pop { q with queue := bridge_tx_queue_set_head q.queue item' }
                      item'.packet .dropped)).2.getLast? = last at hd ⊢
                  cases last with
                  | some d' => exact hd
                  | none =>
                      rw [← Option.some.inj hd] at hverdict
                      exact absurd rfl hverdict
              | SEND =>
                  dsimp only
                  intro hd hverdict
                  refine ⟨item', ?_, hkept d ?_ hverdict⟩
                  · split
                    · exact hhead
                    · split <;> exact hhead
                  · revert hd
                    split
                    · exact id
                    · split <;> exact id

/-- **No packet outlives its time unseen.** In every run whose clock does not go
back: the queue is ordered by age, and when the drain of an iteration ends with a
decision to wait or to send at some time, no packet that is queued behind it has
expired at that time. -/
theorem queue_stays_fresh (cfg : lhkt_config_t) (httl : 0 < cfg.tx_packet_ttl_ms)
    (start : start_env) (es : List bridge_env)
    (hclock : (run_pushes cfg (bridge_start cfg start) es).Pairwise (· ≤ ·)) :
    (ages (bridge_run cfg start es).txq.queue).Pairwise (· ≤ ·) ∧
    ∀ e d, (step_decisions cfg (bridge_run cfg start es) e).getLast? = some d →
      d.verdict ≠ .DROP →
      ∀ item ∈ (bridge_step cfg (bridge_run cfg start es) e).txq.queue.toList,
        d.now - item.queued_ms < cfg.tx_packet_ttl_ms := by
  have hsorted := ages_sorted hclock
  refine ⟨hsorted, fun e d hd hverdict item hitem => ?_⟩
  generalize bridge_run cfg start es = s at hsorted hd hitem
  -- a decision is taken in a drain only
  have hrun : s.pc = .top ∧ (s.stop || e.signal) = false := by
    by_contra hno
    unfold step_decisions at hd
    rw [if_neg hno] at hd
    exact nomatch hd
  unfold step_decisions drain_decisions at hd
  rw [if_pos hrun] at hd
  obtain ⟨first, hfirst, hfresh⟩ := drain_select_head_fresh httl e.drain _ _ _ _ d hd hverdict
  rw [drain_select_traced_fst] at hfirst
  rw [bridge_step_drained hrun.1 hrun.2] at hitem
  have hage : item.queued_ms ∈ ages (bridge_loraham_tx_queue_drain_with_client e.drain cfg
      s.client_fd s.toio_t s.txq).2.1.queue := List.mem_map_of_mem hitem
  -- the queue behind the rounds is a part of the one before, so it is ordered too
  have hmem := (drain_ages_select cfg e.drain s.client_fd s.toio_t s.txq).subset hage
  have hselect := (drain_select_ages cfg e.drain (s.txq.queue.count + 1) 0 s.toio_t
    s.txq).sublist
  have hordered := hsorted.sublist hselect
  rw [ages_of_head hfirst] at hmem hordered
  have hle : first.queued_ms ≤ item.queued_ms := by
    rcases List.mem_cons.mp hmem with heq | hlater
    · omega
    · exact (List.pairwise_cons.mp hordered).1 _ hlater
  omega

/-- Two packets, accepted a minute apart, wait for a busy radio. When the first one has
expired, it is dropped, and the second one stays. -/
theorem queue_stays_fresh_busy :
    let arrives (text : Bytes) (now : Int) : bridge_env :=
      { packet_arrives text (ascii "STATUS RADIO=READY TX=1 TXRESULT=1") with now := fun _ => now }
    let es := iteration client_connects ++ iteration (arrives (ascii "x") 1000) ++
      iteration (arrives (ascii "y") 61000)
    let e : bridge_env := { drain := { rounds := fun _ => { now := 190000 } } }
    let s := bridge_step lhkt_config_defaults (bridge_run lhkt_config_defaults {} es) e
    ages (bridge_run lhkt_config_defaults {} es).txq.queue = [1000, 61000] ∧
      ages s.txq.queue = [61000] ∧
      ∀ item ∈ s.txq.queue.toList, 190000 - item.queued_ms < 180000 := by
  intro arrives es e s
  exact ⟨by decide +kernel, by decide +kernel,
    (queue_stays_fresh lhkt_config_defaults (by decide) {} es (by decide +kernel)).2 e
      ⟨1, 190000, true, true, .WAIT⟩ (by decide +kernel) (by decide)⟩

end LorahamKissTnc.TxAges
