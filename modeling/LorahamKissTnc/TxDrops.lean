/-
What the counter `loraham_drop` says about the packets of the queue.

It is incremented where a packet is removed without a transmission, but also
where the transmission fails early and the packet stays in the queue to be tried
again; and it is not where a refused packet is removed but the receive frequency
could not be restored. `SendAccounted` is the exact condition on a transmission,
`DrainAccounted` the one on a drain.

For a whole run, a packet is named by its position among the packets ever
accepted. `run_events` is what happens to the packets, in order, and `Final` says
that being counted is the last thing that happens to one.
-/
import LorahamKissTnc.TxAccounting

set_option autoImplicit false

open LorahamKissTnc.Lib.CString LorahamKissTnc.Lib.Channel LorahamKissTnc.Lib.Machine
open LorahamKissTnc.Config LorahamKissTnc.LorahamSock LorahamKissTnc.BridgeConf
open LorahamKissTnc.BridgeTxQueue LorahamKissTnc.BridgeRx LorahamKissTnc.BridgeKiss
open LorahamKissTnc.BridgeLoraham LorahamKissTnc.Bridge LorahamKissTnc.TxOnce
open LorahamKissTnc.TxAccounting

namespace LorahamKissTnc.TxDrops

/-! ## One transmission -/

instance (cfg : lhkt_config_t) (packet : Bytes) (s : io_t) : Decidable (Sendable cfg packet s) :=
  decidable_of_iff (packet.length ≠ 0 ∧ s.data.fd = true ∧ cfg.have_tx_freq = true ∧
      cfg.have_rx_freq = true)
    ⟨fun h => ⟨h.1, h.2.1, h.2.2.1, h.2.2.2⟩,
      fun h => ⟨h.nonempty, h.data_fd, h.have_tx_freq, h.have_rx_freq⟩⟩

instance (e : send_env) (cfg : lhkt_config_t) (packet : Bytes) (s : io_t) :
    Decidable (Written e cfg packet s) :=
  decidable_of_iff (Sendable cfg packet s ∧ (tx_prepare e cfg s).2 = .OK ∧
      (bridge_loraham_write e packet (tx_prepare e cfg s).1).2 = .OK)
    ⟨fun h => ⟨h.1, h.2.1, h.2.2⟩, fun h => ⟨h.sendable, h.prepared, h.written⟩⟩

instance (frame_state : Bool) (e : send_env) (cfg : lhkt_config_t) (client_fd : Bool) (s : io_t) :
    Decidable (Refused frame_state e cfg client_fd s) :=
  match h : (bridge_loraham_wait_tx_result e.result cfg client_fd s).2.2 with
  | .error _ => isFalse fun ⟨_, hr, _⟩ => nomatch h.symm.trans hr.2.2
  | .ok result =>
      decidable_of_iff (bridge_conf_txresult_enabled s.conf.state = true ∧ frame_state = true ∧
          result.status ≠ LORAHAM_TX_STATUS_OK)
        ⟨fun hr => ⟨result, ⟨hr.1, hr.2.1, h⟩, hr.2.2⟩, fun ⟨_, hr, hs⟩ =>
          ⟨hr.1, hr.2.1, Except.ok.inj (h.symm.trans hr.2.2) ▸ hs⟩⟩

/-- The packet is out and refused: nothing is transmitted. -/
def SentRefused (e : send_env) (cfg : lhkt_config_t) (client_fd : Bool) (packet : Bytes)
    (s : io_t) : Prop :=
  Written e cfg packet s ∧ Refused true e cfg client_fd (tx_sent e cfg packet s)

instance (e : send_env) (cfg : lhkt_config_t) (client_fd : Bool) (packet : Bytes) (s : io_t) :
    Decidable (SentRefused e cfg client_fd packet s) :=
  inferInstanceAs (Decidable (_ ∧ _))

/-- The drops of received frames during a transmission. -/
def rx_drops (e : send_env) (cfg : lhkt_config_t) (client_fd : Bool) (packet : Bytes) (s : io_t) :
    Nat :=
  if Written e cfg packet s then wait_drops true e cfg client_fd (tx_sent e cfg packet s) else 0

/-- How often a transmission counts its own packet as dropped. -/
def tx_drops (e : send_env) (cfg : lhkt_config_t) (client_fd : Bool) (packet : Bytes) (s : io_t) :
    Nat :=
  (bridge_loraham_send_packet_with_client e cfg client_fd packet s).1.rx.stats.loraham_drop
    - s.rx.stats.loraham_drop - rx_drops e cfg client_fd packet s

/-- When a transmission counts its packet exactly if that is refused: both
frequencies are configured, the command for the TX frequency is sent, the packet
is completely written, and the receive frequency is restored behind a refusal. -/
def SendAccounted (e : send_env) (cfg : lhkt_config_t) (client_fd : Bool) (packet : Bytes)
    (s : io_t) : Prop :=
  packet.length ≠ 0 → cfg.have_tx_freq = true ∧ cfg.have_rx_freq = true ∧ ShiftSent e cfg s ∧
    ((tx_prepare e cfg s).2 = .OK →
      (bridge_loraham_write e packet (tx_prepare e cfg s).1).2 = .OK ∧
      (Refused true e cfg client_fd (tx_sent e cfg packet s) →
        Restored e cfg client_fd (tx_sent e cfg packet s)))

instance (e : send_env) (cfg : lhkt_config_t) (client_fd : Bool) (s : io_t) :
    Decidable (Restored e cfg client_fd s) :=
  inferInstanceAs (Decidable (_ = _))

instance (e : send_env) (cfg : lhkt_config_t) (client_fd : Bool) (packet : Bytes) (s : io_t) :
    Decidable (SendAccounted e cfg client_fd packet s) :=
  inferInstanceAs (Decidable (_ → _))

/-- What a transmission adds to the counter for its packet, in each of its exits,
and when this is what it should be. -/
theorem send_packet_drop (e : send_env) (cfg : lhkt_config_t) (client_fd : Bool) (packet : Bytes)
    (s : io_t) (hopen : s.data.fd = true) :
    ∃ n, (tally (send_packet true e cfg client_fd packet s).1.rx).drop
        = (tally s.rx).drop + rx_drops e cfg client_fd packet s + n ∧
      (n = (if SentRefused e cfg client_fd packet s then 1 else 0) ↔
        SendAccounted e cfg client_fd packet s) := by
  have hunwritten : ¬ Written e cfg packet s → rx_drops e cfg client_fd packet s = 0 ∧
      (if SentRefused e cfg client_fd packet s then 1 else 0) = 0 :=
    fun hw => ⟨if_neg hw, if_neg fun h => hw h.1⟩
  refine send_packet_ways (P := fun r => ∃ n, (tally r.1.rx).drop
      = (tally s.rx).drop + rx_drops e cfg client_fd packet s + n ∧
      (n = (if SentRefused e cfg client_fd packet s then 1 else 0) ↔
        SendAccounted e cfg client_fd packet s)) true e cfg client_fd packet s ?_ ?_ ?_ ?_ ?_
  · -- an empty packet is refused without a count
    intro hlen
    obtain ⟨hrx, hno⟩ := hunwritten fun h => h.sendable.nonempty hlen
    rw [hrx, hno]
    exact ⟨0, rfl, iff_of_true rfl fun hne => absurd hlen hne⟩
  · -- a missing frequency is counted, but the packet is not gone
    intro _ hlen hnot
    obtain ⟨hrx, hno⟩ := hunwritten fun h => hnot h.sendable
    rw [hrx, hno]
    refine ⟨1, rfl, iff_of_false (by decide) fun h => ?_⟩
    obtain ⟨htx, hrx, -⟩ := h hlen
    exact hnot ⟨hlen, hopen, htx, hrx⟩
  · -- a stop during the settling is not counted, a failed switch is
    intro hsendable hret
    obtain ⟨hrx, hno⟩ := hunwritten fun h => hret h.prepared
    rw [hrx, hno, tally_tx_prepare]
    by_cases hshift : ShiftSent e cfg s
    · rw [if_pos hshift]
      exact ⟨0, rfl, iff_of_true rfl fun _ =>
        ⟨hsendable.have_tx_freq, hsendable.have_rx_freq, hshift, fun hok => absurd hok hret⟩⟩
    · rw [if_neg hshift]
      exact ⟨1, rfl, iff_of_false (by decide) fun h => hshift (h hsendable.nonempty).2.2.1⟩
  · -- a failed write is counted, but the packet is not gone
    intro hsendable hprep hwrite
    obtain ⟨hrx, hno⟩ := hunwritten fun h => hwrite h.written
    rw [hrx, hno, tally_tx_write_failed, tally_tx_sent packet hprep]
    exact ⟨1, rfl, iff_of_false (by decide) fun h =>
      hwrite ((h hsendable.nonempty).2.2.2 hprep).1⟩
  · -- written: the count is right unless a refusal meets a failed restore
    intro hw
    have hrx : rx_drops e cfg client_fd packet s
        = wait_drops true e cfg client_fd (tx_sent e cfg packet s) := if_pos hw
    have hsent : SentRefused e cfg client_fd packet s
        ↔ Refused true e cfg client_fd (tx_sent e cfg packet s) := ⟨And.right, fun h => ⟨hw, h⟩⟩
    have hacc : SendAccounted e cfg client_fd packet s ↔
        (Refused true e cfg client_fd (tx_sent e cfg packet s) →
          Restored e cfg client_fd (tx_sent e cfg packet s)) := by
      refine ⟨fun h => ((h hw.sendable.nonempty).2.2.2 hw.prepared).2, fun h _ => ?_⟩
      exact ⟨hw.sendable.have_tx_freq, hw.sendable.have_rx_freq, shiftSent_of_prepared hw.prepared,
        fun _ => ⟨hw.written, h⟩⟩
    have hconfirm := tally_tx_confirm true e cfg client_fd packet (tx_sent e cfg packet s)
    rw [tally_tx_sent packet hw.prepared] at hconfirm
    rw [if_congr hsent rfl rfl, hacc, hrx]
    rcases hconfirm with ⟨href, -, ⟨hrest, h⟩ | ⟨hrest, h⟩⟩ | ⟨href, -, h⟩ | ⟨href, -, h⟩
    · rw [if_pos href]
      exact ⟨1, congrArg tally_t.drop h, iff_of_true rfl fun _ => hrest⟩
    · rw [if_pos href]
      exact ⟨0, congrArg tally_t.drop h, iff_of_false (by decide) fun hr => hrest (hr href)⟩
    · rw [if_neg href]
      exact ⟨0, congrArg tally_t.drop h, iff_of_true rfl fun hr => absurd hr href⟩
    · rw [if_neg href]
      exact ⟨0, congrArg tally_t.drop h, iff_of_true rfl fun hr => absurd hr href⟩

/-- The same for the main loop's transmissions. -/
theorem send_drop (e : send_env) (cfg : lhkt_config_t) (client_fd : Bool) (packet : Bytes)
    (s : io_t) (hopen : s.data.fd = true) :
    (bridge_loraham_send_packet_with_client e cfg client_fd packet s).1.rx.stats.loraham_drop
        = s.rx.stats.loraham_drop + rx_drops e cfg client_fd packet s
          + tx_drops e cfg client_fd packet s ∧
      (tx_drops e cfg client_fd packet s = (if SentRefused e cfg client_fd packet s then 1 else 0) ↔
        SendAccounted e cfg client_fd packet s) := by
  obtain ⟨n, hn, hiff⟩ := send_packet_drop e cfg client_fd packet s hopen
  rw [← send_packet_with_client] at hn
  have hn : (bridge_loraham_send_packet_with_client e cfg client_fd packet s).1.rx.stats.loraham_drop
      = s.rx.stats.loraham_drop + rx_drops e cfg client_fd packet s + n := hn
  have hdrops : tx_drops e cfg client_fd packet s = n := by
    unfold tx_drops
    omega
  rw [hdrops]
  exact ⟨hn, hiff⟩

/-! ## One drain -/

/-- The part of a drain in front of the transmission. -/
def drain_start (e : drain_env) (cfg : lhkt_config_t) (s : io_t) (q : txq_t) :
    io_t × txq_t × drain_next :=
  drain_select e cfg (q.queue.count + 1) 0 s q

/-- The drops of received frames during a drain. -/
def drain_rx_drops (e : drain_env) (cfg : lhkt_config_t) (client_fd : Bool) (s : io_t)
    (q : txq_t) : Nat :=
  match drain_start e cfg s q with
  | (_, _, .ret _) => 0
  | (s, _, .send item) => rx_drops e.send cfg client_fd item.packet s

/-- The packets a drain removes without a confirmed or possible transmission: the
head was too old or waited too long for the transmitter, or the daemon refused
the packet. -/
def removed_untransmitted (e : drain_env) (cfg : lhkt_config_t) (client_fd : Bool) (s : io_t)
    (q : txq_t) : Nat :=
  (((bridge_loraham_tx_queue_drain_with_client e cfg client_fd s q).2.1.gone.drop
      q.gone.length).filter fun g => g.2 = .dropped).length +
    match drain_start e cfg s q with
    | (_, _, .ret _) => 0
    | (s, _, .send item) => if SentRefused e.send cfg client_fd item.packet s then 1 else 0

/-- The condition on a drain: it is one on the transmission it starts, if any. -/
def DrainAccounted (e : drain_env) (cfg : lhkt_config_t) (client_fd : Bool) (s : io_t)
    (q : txq_t) : Prop :=
  ∀ s' q' item, drain_start e cfg s q = (s', q', .send item) →
    SendAccounted e.send cfg client_fd item.packet s'

instance (e : drain_env) (cfg : lhkt_config_t) (client_fd : Bool) (s : io_t) (q : txq_t) :
    Decidable (DrainAccounted e cfg client_fd s q) :=
  match h : drain_start e cfg s q with
  | (_, _, .ret _) => isTrue fun _ _ _ heq =>
      nomatch (Prod.mk.inj (Prod.mk.inj (h.symm.trans heq)).2).2
  | (s', q', .send item) =>
      decidable_of_iff (SendAccounted e.send cfg client_fd item.packet s')
        ⟨fun hacc s'' q'' item' heq => by
          obtain ⟨hs, hrest⟩ := Prod.mk.inj (h.symm.trans heq)
          rw [← hs, ← drain_next.send.inj (Prod.mk.inj hrest).2]
          exact hacc, fun hall => hall s' q' item h⟩

/-- Up to the transmission, exactly the removed packets are counted. -/
theorem drain_start_counts (e : drain_env) (cfg : lhkt_config_t) (s : io_t) (q : txq_t) :
    ∃ dropped : List Bytes,
      (drain_start e cfg s q).2.1.gone = q.gone ++ dropped.map (·, tx_fate.dropped) ∧
      (drain_start e cfg s q).1.rx.stats.loraham_drop = s.rx.stats.loraham_drop + dropped.length ∧
      ((∃ item, (drain_start e cfg s q).2.2 = .send item) →
        (drain_start e cfg s q).1.data.fd = true) := by
  unfold drain_start
  refine drain_select_elim
    (I := fun s' q' => ∃ dropped : List Bytes,
      q'.gone = q.gone ++ dropped.map (·, tx_fate.dropped) ∧
      s'.rx.stats.loraham_drop = s.rx.stats.loraham_drop + dropped.length)
    (P := fun r => ∃ dropped : List Bytes,
      r.2.1.gone = q.gone ++ dropped.map (·, tx_fate.dropped) ∧
      r.1.rx.stats.loraham_drop = s.rx.stats.loraham_drop + dropped.length ∧
      ((∃ item, r.2.2 = .send item) → r.1.data.fd = true))
    e cfg (fun _ _ _ h _ => h) (fun _ _ _ _ h _ _ _ => h) ?_ ?_ ?_ _ 0 s q
    ⟨[], (List.append_nil _).symm, rfl⟩
  · rintro s' q' item ⟨dropped, hgone, hcount⟩ _
    refine ⟨dropped ++ [item.packet], ?_, ?_⟩
    · show q'.gone ++ [(item.packet, tx_fate.dropped)] = _
      rw [hgone, List.map_append, List.append_assoc]
      rfl
    · show s'.rx.stats.loraham_drop + 1 = _
      rw [hcount, List.length_append, List.length_singleton, Nat.add_assoc]
  · rintro s' q' ret ⟨dropped, hgone, hcount⟩ _
    exact ⟨dropped, hgone, hcount, fun ⟨_, h⟩ => nomatch h⟩
  · rintro s' q' item now ⟨dropped, hgone, hcount⟩ _ hgate
    exact ⟨dropped, hgone, hcount, fun _ => hgate.data_fd⟩

/-- What a transmission leaves of the history: the packet may be gone, as sent. -/
theorem tx_finished_gone (q : txq_t) (item : bridge_tx_item_t) (ret : Lhkt) (written : Bool) :
    ∃ sent : List Bytes, (tx_finished q item ret written).gone
      = q.gone ++ sent.map (·, tx_fate.sent) := by
  unfold tx_finished
  split
  · exact ⟨[item.packet], rfl⟩
  · exact ⟨[], (List.append_nil _).symm⟩

/-- The removed packets that were not handed to the DATA connection. -/
theorem filter_dropped (gone : List (Bytes × tx_fate)) (dropped sent : List Bytes) :
    (((gone ++ dropped.map (·, tx_fate.dropped) ++ sent.map (·, tx_fate.sent)).drop
      gone.length).filter fun g => g.2 = .dropped).length = dropped.length := by
  have hdropped : (dropped.map (·, tx_fate.dropped)).filter (fun g => g.2 = .dropped)
      = dropped.map (·, tx_fate.dropped) := by
    refine List.filter_eq_self.mpr fun g hg => ?_
    obtain ⟨_, -, rfl⟩ := List.mem_map.mp hg
    rfl
  have hsent : (sent.map (·, tx_fate.sent)).filter (fun g => g.2 = .dropped) = [] := by
    refine List.filter_eq_nil_iff.mpr fun g hg => ?_
    obtain ⟨_, -, rfl⟩ := List.mem_map.mp hg
    simp
  rw [List.append_assoc, List.drop_left, List.filter_append, hdropped, hsent, List.append_nil,
    List.length_map]

/-- **Dropped means dropped**, for one drain: exactly when its transmission, if it
starts one, is accounted for. -/
theorem drain_drops_iff (e : drain_env) (cfg : lhkt_config_t) (client_fd : Bool) (s : io_t)
    (q : txq_t) :
    (bridge_loraham_tx_queue_drain_with_client e cfg client_fd s q).1.rx.stats.loraham_drop
        = s.rx.stats.loraham_drop + drain_rx_drops e cfg client_fd s q
          + removed_untransmitted e cfg client_fd s q ↔
      DrainAccounted e cfg client_fd s q := by
  obtain ⟨dropped, hgone, hcount, hfd⟩ := drain_start_counts e cfg s q
  unfold removed_untransmitted drain_rx_drops DrainAccounted bridge_loraham_tx_queue_drain_with_client
  rw [← drain_start]
  generalize drain_start e cfg s q = r at hgone hcount hfd ⊢
  obtain ⟨s', q', next⟩ := r
  match next with
  | .ret ret =>
      have hgone : q'.gone = q.gone ++ dropped.map (·, tx_fate.dropped) := hgone
      have hfilter := filter_dropped q.gone dropped []
      rw [List.map_nil, List.append_nil, ← hgone] at hfilter
      -- nothing is sent: the expired and timed-out packets are all that is counted
      refine iff_of_true ?_ fun _ _ _ h => ?_
      · show s'.rx.stats.loraham_drop = _
        rw [hfilter]
        exact hcount
      · exact nomatch (Prod.mk.inj (Prod.mk.inj h).2).2
  | .send item =>
      have hgone : q'.gone = q.gone ++ dropped.map (·, tx_fate.dropped) := hgone
      have hcount : s'.rx.stats.loraham_drop = s.rx.stats.loraham_drop + dropped.length := hcount
      -- one packet is sent: the books balance up to here, so they do after it exactly when they do for it
      obtain ⟨hdrop, hiff⟩ := send_drop e.send cfg client_fd item.packet s' (hfd ⟨item, rfl⟩)
      obtain ⟨sent, hfinished⟩ := tx_finished_gone q' item
        (bridge_loraham_send_packet_with_client e.send cfg client_fd item.packet s').2.1
        (bridge_loraham_send_packet_with_client e.send cfg client_fd item.packet s').2.2
      have hfilter := filter_dropped q.gone dropped sent
      rw [← hgone, ← hfinished] at hfilter
      refine Iff.trans ?_ (hiff.trans ⟨fun h s'' q'' item' heq => ?_, fun h => h s' q' item rfl⟩)
      · dsimp only
        rw [hdrop, hfilter, hcount]
        omega
      · obtain ⟨hs, hrest⟩ := Prod.mk.inj heq
        rw [← hs, ← drain_next.send.inj (Prod.mk.inj hrest).2]
        exact h

/-! ## A whole run -/

/-- What happens to a packet: it is handed to a transmission, or counted as
dropped. -/
inductive tx_event where
  | started (index : Nat)
  | counted (index : Nat)
  deriving DecidableEq, Repr

/-- The packet an event is about. -/
def tx_event.index : tx_event → Nat
  | .started index => index
  | .counted index => index

/-- The events of a drain, in order. -/
def drain_events (e : drain_env) (cfg : lhkt_config_t) (client_fd : Bool) (s : io_t) (q : txq_t) :
    List tx_event :=
  let dropped := (List.range' q.gone.length ((drain_start e cfg s q).2.1.gone.length
    - q.gone.length)).map tx_event.counted
  match drain_start e cfg s q with
  | (_, _, .ret _) => dropped
  | (s, q, .send item) => dropped ++ tx_event.started q.gone.length ::
      List.replicate (tx_drops e.send cfg client_fd item.packet s) (.counted q.gone.length)

/-- The events of a step of the main loop. -/
def step_events (cfg : lhkt_config_t) (s : bridge_t) (e : bridge_env) : List tx_event :=
  if s.pc = .top ∧ (s.stop || e.signal) = false then
    drain_events e.drain cfg s.client_fd s.toio_t s.txq
  else []

/-- The events of a run. -/
def run_events (cfg : lhkt_config_t) : bridge_t → List bridge_env → List tx_event
  | _, [] => []
  | s, e :: es => step_events cfg s e ++ run_events cfg (bridge_step cfg s e) es

/-- Once counted as dropped, a packet is neither counted again nor handed to a
transmission. -/
def Final (a b : tx_event) : Prop := ∀ i, a = .counted i → b ≠ .counted i ∧ b ≠ .started i

/-- The condition on a step of the main loop. -/
def StepAccounted (cfg : lhkt_config_t) (s : bridge_t) (e : bridge_env) : Prop :=
  s.pc = .top → (s.stop || e.signal) = false →
    DrainAccounted e.drain cfg s.client_fd s.toio_t s.txq

instance (cfg : lhkt_config_t) (s : bridge_t) (e : bridge_env) :
    Decidable (StepAccounted cfg s e) :=
  inferInstanceAs (Decidable (_ → _))

/-- The events count what the counter counts, received frames apart. -/
theorem drain_events_counted (e : drain_env) (cfg : lhkt_config_t) (client_fd : Bool) (s : io_t)
    (q : txq_t) :
    (bridge_loraham_tx_queue_drain_with_client e cfg client_fd s q).1.rx.stats.loraham_drop
      = s.rx.stats.loraham_drop + drain_rx_drops e cfg client_fd s q
        + ((drain_events e cfg client_fd s q).filter fun a => a = .counted a.index).length := by
  obtain ⟨dropped, hgone, hcount, hfd⟩ := drain_start_counts e cfg s q
  have hall : ∀ l : List Nat, ((l.map tx_event.counted).filter
      fun a => a = .counted a.index) = l.map tx_event.counted := by
    intro l
    refine List.filter_eq_self.mpr fun a ha => ?_
    obtain ⟨_, -, rfl⟩ := List.mem_map.mp ha
    simp [tx_event.index]
  have hlen : (drain_start e cfg s q).2.1.gone.length - q.gone.length = dropped.length := by
    rw [hgone, List.length_append, List.length_map, Nat.add_sub_cancel_left]
  unfold drain_rx_drops drain_events bridge_loraham_tx_queue_drain_with_client
  rw [← drain_start]
  dsimp only
  rw [hlen]
  generalize drain_start e cfg s q = r at hgone hcount hfd ⊢
  obtain ⟨s', q', next⟩ := r
  match next with
  | .ret ret =>
      show s'.rx.stats.loraham_drop = _
      rw [hall, List.length_map, List.length_range']
      exact hcount
  | .send item =>
      have hcount : s'.rx.stats.loraham_drop = s.rx.stats.loraham_drop + dropped.length := hcount
      obtain ⟨hdrop, -⟩ := send_drop e.send cfg client_fd item.packet s' (hfd ⟨item, rfl⟩)
      dsimp only
      rw [hdrop, hcount, List.filter_append, hall, List.filter_cons_of_neg (by simp),
        List.filter_eq_self.mpr (fun a ha => by rw [(List.mem_replicate.mp ha).2]; simp [tx_event.index]),
        List.length_append, List.length_map, List.length_range', List.length_replicate]
      omega

/-- Where the history of the queue stands after a drain. -/
theorem drain_gone_length (e : drain_env) (cfg : lhkt_config_t) (client_fd : Bool) (s : io_t)
    (q : txq_t) :
    q.gone.length ≤ (drain_start e cfg s q).2.1.gone.length ∧
    (drain_start e cfg s q).2.1.gone.length
      ≤ (bridge_loraham_tx_queue_drain_with_client e cfg client_fd s q).2.1.gone.length ∧
    ∀ s' q' item, drain_start e cfg s q = (s', q', .send item) →
      SentRefused e.send cfg client_fd item.packet s' →
      q'.gone.length
        < (bridge_loraham_tx_queue_drain_with_client e cfg client_fd s q).2.1.gone.length := by
  obtain ⟨dropped, hgone, -, -⟩ := drain_start_counts e cfg s q
  unfold bridge_loraham_tx_queue_drain_with_client
  rw [← drain_start]
  generalize drain_start e cfg s q = r at hgone ⊢
  obtain ⟨s', q', next⟩ := r
  refine ⟨?_, ?_, ?_⟩
  · rw [hgone, List.length_append]
    exact Nat.le_add_right _ _
  · match next with
    | .ret ret => exact Nat.le_refl _
    | .send item =>
        obtain ⟨sent, hfinished⟩ := tx_finished_gone q' item
          (bridge_loraham_send_packet_with_client e.send cfg client_fd item.packet s').2.1
          (bridge_loraham_send_packet_with_client e.send cfg client_fd item.packet s').2.2
        show q'.gone.length ≤ (tx_finished q' item _ _).gone.length
        rw [hfinished, List.length_append]
        exact Nat.le_add_right _ _
  · intro s'' q'' item heq href
    obtain ⟨hs, hrest⟩ := Prod.mk.inj heq
    obtain ⟨hq, hnext⟩ := Prod.mk.inj hrest
    rw [hnext, ← hq]
    rw [← hs] at href
    -- a refused packet was written, and a written packet is popped
    have hwritten :
        (bridge_loraham_send_packet_with_client e.send cfg client_fd item.packet s').2.2 = true := by
      rw [send_packet_with_client]
      exact (send_packet_written_iff true e.send cfg client_fd item.packet s').mpr href.1
    show q'.gone.length < (tx_finished q' item _ _).gone.length
    unfold tx_finished
    rw [if_pos (.inl hwritten)]
    show q'.gone.length < (q'.gone ++ [_]).length
    rw [List.length_append, List.length_singleton]
    exact Nat.lt_succ_self _

theorem final_of_index_lt {a b : tx_event} (h : a.index < b.index) : Final a b := by
  rintro i rfl
  have h : i < b.index := h
  refine ⟨?_, ?_⟩
  · rintro rfl
    exact absurd h (Nat.lt_irrefl i)
  · rintro rfl
    exact absurd h (Nat.lt_irrefl i)

/-- The events of an accounted drain: they are about packets that were not gone,
those counted are gone afterwards, and counting is final. -/
theorem drain_events_final {e : drain_env} {cfg : lhkt_config_t} {client_fd : Bool} {s : io_t}
    {q : txq_t} (h : DrainAccounted e cfg client_fd s q) :
    (∀ a ∈ drain_events e cfg client_fd s q, q.gone.length ≤ a.index) ∧
    (∀ i, .counted i ∈ drain_events e cfg client_fd s q →
      i < (bridge_loraham_tx_queue_drain_with_client e cfg client_fd s q).2.1.gone.length) ∧
    (drain_events e cfg client_fd s q).Pairwise Final := by
  obtain ⟨hle, hle', hlt⟩ := drain_gone_length e cfg client_fd s q
  obtain ⟨-, -, -, hfd⟩ := drain_start_counts e cfg s q
  -- the packets dropped in front of the transmission
  have hindex : ∀ a ∈ (List.range' q.gone.length ((drain_start e cfg s q).2.1.gone.length
      - q.gone.length)).map tx_event.counted,
      q.gone.length ≤ a.index ∧ a.index < (drain_start e cfg s q).2.1.gone.length := by
    intro a ha
    obtain ⟨i, hi, rfl⟩ := List.mem_map.mp ha
    obtain ⟨h1, h2⟩ := List.mem_range'_1.mp hi
    exact ⟨h1, by show i < _; omega⟩
  have hfinal : ((List.range' q.gone.length ((drain_start e cfg s q).2.1.gone.length
      - q.gone.length)).map tx_event.counted).Pairwise Final :=
    List.pairwise_map.mpr ((List.pairwise_lt_range' _).imp fun hij => final_of_index_lt hij)
  unfold DrainAccounted at h
  unfold drain_events
  dsimp only
  generalize hdropped : (List.range' q.gone.length ((drain_start e cfg s q).2.1.gone.length
    - q.gone.length)).map tx_event.counted = dropped at hindex hfinal ⊢
  generalize drain_start e cfg s q = r at h hle hle' hlt hfd hindex ⊢
  obtain ⟨s', q', next⟩ := r
  match next with
  | .ret ret =>
      exact ⟨fun a ha => (hindex a ha).1,
        fun i hi => Nat.lt_of_lt_of_le (hindex _ hi).2 hle', hfinal⟩
  | .send item =>
      have hdrops := (send_drop e.send cfg client_fd item.packet s' (hfd ⟨item, rfl⟩)).2.mpr
        (h s' q' item rfl)
      dsimp only at hle hindex ⊢
      refine ⟨fun a ha => ?_, fun i hi => ?_, ?_⟩
      · rcases List.mem_append.mp ha with ha | ha
        · exact (hindex a ha).1
        · rcases List.mem_cons.mp ha with rfl | ha
          · exact hle
          · rw [(List.mem_replicate.mp ha).2]
            exact hle
      · rcases List.mem_append.mp hi with hi | hi
        · exact Nat.lt_of_lt_of_le (hindex _ hi).2 hle'
        · rcases List.mem_cons.mp hi with hi | hi
          · exact nomatch hi
          · -- the packet of the transmission is counted when it was refused, and then it is gone
            obtain ⟨hne, hi⟩ := List.mem_replicate.mp hi
            rw [tx_event.counted.inj hi]
            refine hlt s' q' item rfl ?_
            by_contra hno
            rw [hdrops, if_neg hno] at hne
            exact hne rfl
      · refine List.pairwise_append.mpr ⟨hfinal, List.pairwise_cons.mpr ⟨?_, ?_⟩, ?_⟩
        · exact fun b _ i hbad => nomatch hbad
        · refine List.pairwise_replicate.mpr (.inl ?_)
          rw [hdrops]
          split <;> decide
        · intro a ha b hb
          refine final_of_index_lt ?_
          have hb' : b.index = q'.gone.length := by
            rcases List.mem_cons.mp hb with rfl | hb
            · rfl
            · rw [(List.mem_replicate.mp hb).2]
              rfl
          rw [hb']
          exact (hindex a ha).2

/-- A step of the main loop takes nothing out of the history. -/
theorem bridge_step_gone (cfg : lhkt_config_t) (s : bridge_t) (e : bridge_env) :
    s.txq.gone.length ≤ (bridge_step cfg s e).txq.gone.length := by
  refine bridge_step_elim (P := fun s' => s.txq.gone.length ≤ s'.txq.gone.length) cfg s e
    (Nat.le_refl _) ?_ ?_ (fun _ hs => hs) (fun _ hs => hs) (fun _ hs => hs) ?_ (fun _ hs _ => hs)
    (fun _ _ _ _ _ => Nat.le_refl _) ?_ (fun _ hs _ => hs) ?_ (fun _ hs _ => hs) ?_
  · rintro s _ ⟨_, _, _, _, _, _, _, rfl⟩ hs
    exact hs
  · intro s hs
    rw [bridge_exit_txq]
    exact hs
  · intro _ _
    rw [handle_drain_result_txq]
    obtain ⟨hle, hle', -⟩ := drain_gone_length e.drain cfg s.client_fd s.toio_t s.txq
    exact hle.trans hle'
  · intro _ _ _ _ _
    unfold pending_config
    dsimp only
    split <;> exact Nat.le_refl _
  · intro s frame stats now hs
    show _ ≤ (bridge_kiss_handle_frame frame s.kiss_params cfg now stats s.txq).2.2.1.gone.length
    rw [bridge_kiss_handle_frame_gone]
    exact hs
  · intro b buf _ _ _
    rw [handle_chunk_result_txq]
    exact Nat.le_refl _

/-- A step that drains leaves the history as the drain does. -/
theorem bridge_step_drained {cfg : lhkt_config_t} {s : bridge_t} {e : bridge_env} (hpc : s.pc = .top)
    (hstop : (s.stop || e.signal) = false) :
    (bridge_step cfg s e).txq
      = (bridge_loraham_tx_queue_drain_with_client e.drain cfg s.client_fd s.toio_t s.txq).2.1 := by
  rw [bridge_step_top cfg e hpc, bridge_top_running hstop]
  split
  · rw [bridge_exit_txq]
    exact drained_txq cfg e s
  · exact drained_txq cfg e s

/-- A stop request leaves the queue. -/
theorem bridge_step_stopped {cfg : lhkt_config_t} {s : bridge_t} {e : bridge_env} (hpc : s.pc = .top)
    (hstop : (s.stop || e.signal) = true) : (bridge_step cfg s e).txq = s.txq := by
  rw [bridge_step_top cfg e hpc, bridge_top_stopping hstop, bridge_exit_txq]

/-- The events of a run are about packets that were not gone before it. -/
theorem run_events_index {cfg : lhkt_config_t} (es : List bridge_env) : ∀ s : bridge_t,
    Guarded (bridge_step cfg) (StepAccounted cfg) s es →
    ∀ a ∈ run_events cfg s es, s.txq.gone.length ≤ a.index := by
  induction es with
  | nil => exact fun _ _ a ha => absurd ha List.not_mem_nil
  | cons e es ih =>
      rintro s ⟨hstep, hrest⟩ a ha
      rcases List.mem_append.mp ha with ha | ha
      · unfold step_events at ha
        split at ha
        · rename_i hdrain
          exact (drain_events_final (hstep hdrain.1 hdrain.2)).1 a ha
        · exact absurd ha List.not_mem_nil
      · exact (bridge_step_gone cfg s e).trans (ih _ hrest a ha)

/-- **Counting is final** in every run whose drains are accounted for. -/
theorem run_events_final {cfg : lhkt_config_t} (es : List bridge_env) : ∀ s : bridge_t,
    Guarded (bridge_step cfg) (StepAccounted cfg) s es →
    (run_events cfg s es).Pairwise Final := by
  induction es with
  | nil => exact fun _ _ => List.Pairwise.nil
  | cons e es ih =>
      rintro s ⟨hstep, hrest⟩
      refine List.pairwise_append.mpr ⟨?_, ih _ hrest, ?_⟩
      · unfold step_events
        split
        · rename_i hdrain
          exact (drain_events_final (hstep hdrain.1 hdrain.2)).2.2
        · exact List.Pairwise.nil
      · intro a ha b hb i hi
        unfold step_events at ha
        split at ha
        · rename_i hdrain
          have hlt := (drain_events_final (hstep hdrain.1 hdrain.2)).2.1 i (hi ▸ ha)
          rw [← bridge_step_drained hdrain.1 hdrain.2] at hlt
          have hle := run_events_index es _ hrest b hb
          refine final_of_index_lt ?_ i hi
          rw [hi]
          exact Nat.lt_of_lt_of_le hlt hle
        · exact absurd ha List.not_mem_nil

/-- **Dropped means dropped.** A drain adds to the counter, received frames apart,
what it removes without a transmission, exactly when the transmission it starts
is accounted for; and in every run whose drains all are, a packet is counted at
most once and never handed to a transmission afterwards. -/
theorem drops_counted_iff (cfg : lhkt_config_t) :
    (∀ (e : drain_env) (client_fd : Bool) (s : io_t) (q : txq_t),
      (bridge_loraham_tx_queue_drain_with_client e cfg client_fd s q).1.rx.stats.loraham_drop
          = s.rx.stats.loraham_drop + drain_rx_drops e cfg client_fd s q
            + removed_untransmitted e cfg client_fd s q ↔
        DrainAccounted e cfg client_fd s q) ∧
    (∀ (e : drain_env) (client_fd : Bool) (s : io_t) (q : txq_t),
      (bridge_loraham_tx_queue_drain_with_client e cfg client_fd s q).1.rx.stats.loraham_drop
        = s.rx.stats.loraham_drop + drain_rx_drops e cfg client_fd s q
          + ((drain_events e cfg client_fd s q).filter fun a => a = .counted a.index).length) ∧
    ∀ (e : start_env) (es : List bridge_env),
      Guarded (bridge_step cfg) (StepAccounted cfg) (bridge_start cfg e) es →
      (run_events cfg (bridge_start cfg e) es).Pairwise fun a b =>
        ∀ i, a = .counted i → b ≠ .counted i ∧ b ≠ .started i :=
  ⟨fun e client_fd s q => drain_drops_iff e cfg client_fd s q,
    fun e client_fd s q => drain_events_counted e cfg client_fd s q,
    fun _ es h => run_events_final es _ h⟩

/-- A packet the daemon refuses is counted once. -/
theorem drops_counted_refused :
    let refusal : bridge_env := { drain := { send := { result := { rounds :=
      [{ wait := .read [LORAHAM_FRAME_TX_RESULT, 4, 0, 1, 0, 0x35, 0x12] }] } } } }
    let es := iteration client_connects ++ iteration (packet_arrives (ascii "x") status_ready) ++
      [refusal]
    let events := run_events lhkt_config_defaults (bridge_start lhkt_config_defaults {}) es
    events = [.started 0, .counted 0] ∧
      events.Pairwise fun a b => ∀ i, a = .counted i → b ≠ .counted i ∧ b ≠ .started i := by
  exact ⟨by decide +kernel, (drops_counted_iff lhkt_config_defaults).2.2 {} _ (by decide +kernel)⟩

/-- A packet whose frame is cut short is counted as dropped, stays in the queue,
and is transmitted on the next connection. -/
theorem drop_counted_but_transmitted :
    let cut : bridge_env :=
      { drain := { send := { write := { writes := [.accept 5, .fail] } } } }
    let status : bridge_env :=
      { select := .ready { conf := true }
        conf := { chunks := [status_ready ++ ascii "\n"] } }
    let es := iteration client_connects ++ iteration (packet_arrives (ascii "x") status_ready)
    let s := bridge_run lhkt_config_defaults {} es
    let r := bridge_loraham_tx_queue_drain_with_client cut.drain lhkt_config_defaults s.client_fd
      s.toio_t s.txq
    s.rx.stats.loraham_drop = 0 ∧ r.1.rx.stats.loraham_drop = 1 ∧
      drain_rx_drops cut.drain lhkt_config_defaults s.client_fd s.toio_t s.txq = 0 ∧
      removed_untransmitted cut.drain lhkt_config_defaults s.client_fd s.toio_t s.txq = 0 ∧
      run_events lhkt_config_defaults (bridge_start lhkt_config_defaults {})
        (es ++ [cut, cut] ++ iteration status ++ [({} : bridge_env)])
          = [.started 0, .counted 0, .started 0] := by
  decide +kernel

end LorahamKissTnc.TxDrops