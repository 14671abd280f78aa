/-
The bridge as a relay.

Seen from the packets, the bridge is a relay with a bounded line: it takes
packets from the client, gives up the oldest, or puts the oldest on the air. The
line is the ring, and the air are the TX_PACKET frames completely written on DATA
connections, however many there have been. `step_moves` reads off the histories
what a step of the main loop does in these terms, and `bridge_refines_relay` says
that the relay could have done it: it is never asked to take more than fits, or to
give up what it does not have. What one step can do is little (`Move`): a drain
gives up packets and then puts at most one on the air, a read from the client
takes packets, and everything else in the main loop does nothing.
-/
import LorahamKissTnc.TxDecisions
import LorahamKissTnc.StepRules
import LorahamKissTnc.Lib.Simulation
import LorahamKissTnc.Lib.Relay

set_option autoImplicit false

open LorahamKissTnc.Lib.CString LorahamKissTnc.Lib.Channel LorahamKissTnc.Lib.Machine
open LorahamKissTnc.Lib.Simulation LorahamKissTnc.Lib.Relay
open LorahamKissTnc.Config LorahamKissTnc.Kiss
open LorahamKissTnc.LorahamSock LorahamKissTnc.BridgeConf LorahamKissTnc.BridgeTxQueue
open LorahamKissTnc.BridgeRx LorahamKissTnc.BridgeKiss LorahamKissTnc.BridgeLoraham
open LorahamKissTnc.Bridge LorahamKissTnc.TxOnce LorahamKissTnc.OnAir
open LorahamKissTnc.TxDrops LorahamKissTnc.TxDecisions LorahamKissTnc.StepRules

namespace LorahamKissTnc.TxRelay

variable {cfg : lhkt_config_t}

/-! ## The queue as a line -/

/-- The queue, and what left it as sent. -/
def line (q : txq_t) : relay Bytes := ⟨q.queue.packets, sent_packets q⟩

/-- How a packet left. -/
def fate_act : Bytes × tx_fate → relay_act Bytes
  | (_, .sent) => .air
  | (_, .dropped) => .discard

/-- What happened between two states of the queue, as its histories have it. -/
def moves (q q' : txq_t) : List (relay_act Bytes) :=
  (q'.gone.drop q.gone.length).map fate_act ++
    (q'.accepted.drop q.accepted.length).map fun a => .take a.packet

/-- What a step of the main loop does. -/
def step_moves (cfg : lhkt_config_t) (s : bridge_t) (e : bridge_env) : List (relay_act Bytes) :=
  moves s.txq (bridge_step cfg s e).txq

/-- What one step can do. -/
inductive Move : List (relay_act Bytes) → Prop
  | drain (dropped : Nat) : Move (List.replicate dropped .discard)
  | send (dropped : Nat) : Move (List.replicate dropped .discard ++ [.air])
  | client (packets : List Bytes) : Move (packets.map .take)

/-! ## Packets that leave -/

/-- From `q` to `q'` these packets left the line, with their fates. -/
structure Leaves (capacity : Nat) (q q' : txq_t) (gone : List (Bytes × tx_fate)) : Prop where
  gone_eq : q'.gone = q.gone ++ gone
  accepted : q'.accepted = q.accepted
  accepts : (gone.map fate_act).foldlM (relay_step capacity) (line q) = some (line q')

theorem Leaves.refl (capacity : Nat) (q : txq_t) : Leaves capacity q q [] :=
  ⟨by simp, rfl, rfl⟩

theorem Leaves.trans {capacity : Nat} {q q' q'' : txq_t} {gone gone' : List (Bytes × tx_fate)}
    (h : Leaves capacity q q' gone) (h' : Leaves capacity q' q'' gone') :
    Leaves capacity q q'' (gone ++ gone') := by
  refine ⟨?_, h'.accepted.trans h.accepted, ?_⟩
  · rw [h'.gone_eq, h.gone_eq, List.append_assoc]
  · rw [List.map_append, List.foldlM_append, h.accepts]
    exact h'.accepts

/-- The line and the histories are all that matters. -/
theorem Leaves.of_eq (capacity : Nat) {q q' : txq_t} (hline : q'.queue.packets = q.queue.packets)
    (hgone : q'.gone = q.gone) (haccepted : q'.accepted = q.accepted) :
    Leaves capacity q q' [] := by
  refine ⟨by rw [hgone, List.append_nil], haccepted, ?_⟩
  show some (line q) = some (line q')
  unfold line sent_packets
  rw [hline, hgone]

/-- The head of the queue leaves. -/
theorem leaves_pop (capacity : Nat) {q : txq_t} {item : bridge_tx_item_t}
    (hitem : bridge_tx_queue_head q.queue = some item) (fate : tx_fate) :
    Leaves capacity q (q.pop item.packet fate) [(item.packet, fate)] := by
  refine ⟨rfl, rfl, ?_⟩
  have hpackets := packets_of_head hitem
  have hrest : (q.pop item.packet fate).queue.packets = (bridge_tx_queue_pop q.queue).packets := rfl
  rw [List.map_singleton, relay_run_one]
  unfold line
  rw [hpackets, hrest]
  cases fate with
  | sent =>
      rw [sent_packets_pop_sent]
      rfl
  | dropped =>
      rw [sent_packets_pop_dropped]
      rfl

/-- **A drain**: packets are given up, and then at most one is sent. -/
theorem drain_leaves (capacity : Nat) (cfg : lhkt_config_t) (e : drain_env) (client_fd : Bool)
    (s : io_t) (q : txq_t) :
    ∃ dropped : List Bytes, ∃ sent : Option Bytes,
      Leaves capacity q (bridge_loraham_tx_queue_drain_with_client e cfg client_fd s q).2.1
        (dropped.map (fun p => (p, .dropped)) ++ sent.toList.map fun p => (p, .sent)) := by
  refine drain_elim
    (I := fun _ q' => ∃ dropped : List Bytes,
      Leaves capacity q q' (dropped.map fun p => (p, .dropped)))
    (P := fun r => ∃ dropped : List Bytes, ∃ sent : Option Bytes, Leaves capacity q r.2.1
      (dropped.map (fun p => (p, .dropped)) ++ sent.toList.map fun p => (p, .sent)))
    e cfg client_fd s q ⟨[], Leaves.refl capacity q⟩ (fun _ _ _ h _ => h) ?_ ?_ ?_ ?_
  · -- the wait clock of the head
    rintro s q' item item' ⟨dropped, h⟩ hitem hpacket _
    refine ⟨dropped, ?_⟩
    have hsame :
        Leaves capacity q' { q' with queue := bridge_tx_queue_set_head q'.queue item' } [] :=
      Leaves.of_eq capacity (packets_set_head hitem hpacket) rfl rfl
    have hall := h.trans hsame
    rwa [List.append_nil] at hall
  · rintro s q' item ⟨dropped, h⟩ hitem
    refine ⟨dropped ++ [item.packet], ?_⟩
    rw [List.map_append]
    exact h.trans (leaves_pop capacity hitem .dropped)
  · rintro s q' ret ⟨dropped, h⟩ _
    refine ⟨dropped, none, ?_⟩
    rw [Option.toList_none, List.map_nil, List.append_nil]
    exact h
  · rintro s q' item now s' ret written ⟨dropped, h⟩ hitem _ _ _
    have hstarted : Leaves capacity q' (tx_started q' s item now) [] :=
      Leaves.of_eq capacity rfl rfl rfl
    have hsofar := h.trans hstarted
    unfold tx_finished
    split
    · exact ⟨dropped, some item.packet, by
        rw [List.append_nil] at hsofar
        exact hsofar.trans (leaves_pop capacity (q := tx_started q' s item now) hitem .sent)⟩
    · exact ⟨dropped, none, hsofar⟩

/-! ## Packets that enter -/

/-- From `q` to `q'` these packets were accepted. -/
structure Enters (cfg : lhkt_config_t) (q q' : txq_t) (packets : List Bytes) : Prop where
  gone : q'.gone = q.gone
  accepted : ∃ new, q'.accepted = q.accepted ++ new ∧ new.map tx_accept.packet = packets
  accepts : (packets.map relay_act.take).foldlM (relay_step (bridge_tx_queue_limit cfg)) (line q)
    = some (line q')

theorem Enters.refl (q : txq_t) : Enters cfg q q [] := ⟨rfl, ⟨[], by simp⟩, rfl⟩

theorem Enters.trans {q q' q'' : txq_t} {packets packets' : List Bytes}
    (h : Enters cfg q q' packets) (h' : Enters cfg q' q'' packets') :
    Enters cfg q q'' (packets ++ packets') := by
  obtain ⟨new, haccepted, hnew⟩ := h.accepted
  obtain ⟨new', haccepted', hnew'⟩ := h'.accepted
  refine ⟨h'.gone.trans h.gone, ⟨new ++ new', ?_, ?_⟩, ?_⟩
  · rw [haccepted', haccepted, List.append_assoc]
  · rw [List.map_append, hnew, hnew']
  · rw [List.map_append, List.foldlM_append, h.accepts]
    exact h'.accepts

/-- An accepted push found room in the line. -/
theorem enters_push {q : txq_t} {packet : Bytes} {now : Int} {queue : bridge_tx_queue_t}
    (hpush : bridge_tx_queue_push q.queue cfg packet now = .ok queue) {accept : tx_accept}
    (haccept : accept.packet = packet) :
    Enters cfg q { q with queue := queue, accepted := q.accepted ++ [accept] } [packet] := by
  refine ⟨rfl, ⟨[accept], rfl, by rw [List.map_singleton, haccept]⟩, ?_⟩
  have hpackets : queue.packets = q.queue.packets ++ [packet] := by
    unfold bridge_tx_queue_t.packets
    rw [toList_push hpush, List.map_append]
    rfl
  have hroom : q.queue.packets.length < bridge_tx_queue_limit cfg := by
    unfold bridge_tx_queue_t.packets
    rw [List.length_map, length_toList]
    unfold bridge_tx_queue_push at hpush
    split at hpush
    · exact absurd hpush (by simp)
    · split at hpush
      · exact absurd hpush (by simp)
      · omega
  rw [List.map_singleton, relay_run_one]
  unfold line relay_step
  dsimp only
  rw [if_pos hroom, hpackets]
  rfl

/-- A frame of the client enters as a packet, or not at all. -/
theorem enters_frame (cfg : lhkt_config_t) (frame : kiss_frame_t) (kiss_params : kiss_params_t)
    (now : Int) (stats : lhkt_stats_t) (q : txq_t) :
    ∃ packets, Enters cfg q (bridge_kiss_handle_frame frame kiss_params cfg now stats q).2.2.1
      packets := by
  rcases bridge_kiss_handle_frame_cases frame kiss_params cfg now stats q with
    hq | ⟨_, _, packet, queue, _, _, _, _, _, _, hpush, hq⟩
  · rw [hq]
    exact ⟨[], Enters.refl q⟩
  · rw [hq]
    exact ⟨[packet], enters_push hpush rfl⟩

/-- **A read from the client**, frame by frame. -/
theorem handle_client_bytes_enters (cfg : lhkt_config_t) (now : Nat → Int) (buf : Bytes)
    (s : bridge_t) :
    ∃ packets, Enters cfg s.txq (handle_client_bytes cfg now 0 buf s).txq packets := by
  refine handle_client_bytes_pieces (P := fun s' => ∃ packets, Enters cfg s.txq s'.txq packets) now
    (fun _ _ h => h) (fun _ h => h) ?_ (fun _ h => h) (fun _ h => h) buf 0 s
    ⟨[], Enters.refl s.txq⟩
  rintro s' _ frame now ⟨packets, h⟩
  obtain ⟨more, hframe⟩ := enters_frame cfg frame s'.kiss_params now
    (s'.rx.stats.incr .kiss_rx) s'.txq
  exact ⟨packets ++ more, h.trans hframe⟩

/-! ## The main loop -/

theorem Leaves.moves_eq {capacity : Nat} {q q' : txq_t} {gone : List (Bytes × tx_fate)}
    (h : Leaves capacity q q' gone) : moves q q' = gone.map fate_act := by
  unfold moves
  rw [h.gone_eq, h.accepted, List.drop_left, List.drop_length, List.map_nil, List.append_nil]

theorem Enters.moves_eq {q q' : txq_t} {packets : List Bytes} (h : Enters cfg q q' packets) :
    moves q q' = packets.map relay_act.take := by
  obtain ⟨new, haccepted, hnew⟩ := h.accepted
  unfold moves
  rw [h.gone, haccepted, List.drop_left, List.drop_length, List.map_nil, List.nil_append, ← hnew,
    List.map_map]
  rfl

/-- **One step of the main loop**: what it does is one of the three moves, and the
relay can do it. -/
theorem bridge_step_move (s : bridge_t) (e : bridge_env) :
    Move (step_moves cfg s e) ∧
    (step_moves cfg s e).foldlM (relay_step (bridge_tx_queue_limit cfg)) (line s.txq)
      = some (line (bridge_step cfg s e).txq) := by
  have hquiet : (bridge_step cfg s e).txq = s.txq → Move (step_moves cfg s e) ∧
      (step_moves cfg s e).foldlM (relay_step (bridge_tx_queue_limit cfg)) (line s.txq)
        = some (line (bridge_step cfg s e).txq) := by
    intro hsame
    have hmoves := (Leaves.refl 0 s.txq).moves_eq
    unfold step_moves
    rw [hsame, hmoves]
    exact ⟨Move.drain 0, rfl⟩
  by_cases htop : s.pc = .top
  · by_cases hstop : (s.stop || e.signal) = true
    · exact hquiet (bridge_step_stopped htop hstop)
    · -- the drain, which is all of the iteration that takes packets out
      obtain ⟨dropped, sent, hleaves⟩ := drain_leaves (bridge_tx_queue_limit cfg) cfg e.drain
        s.client_fd s.toio_t s.txq
      unfold step_moves
      rw [bridge_step_drained htop (by simpa using hstop), hleaves.moves_eq]
      refine ⟨?_, hleaves.accepts⟩
      have hdropped : (dropped.map fun p => (p, tx_fate.dropped)).map fate_act
          = List.replicate dropped.length relay_act.discard := by
        rw [List.map_map, ← List.map_const]
        rfl
      rw [List.map_append, hdropped]
      cases sent with
      | none =>
          rw [Option.toList_none, List.map_nil, List.map_nil, List.append_nil]
          exact Move.drain dropped.length
      | some packet => exact Move.send dropped.length
  · by_cases hclient : s.pc = .client
    · by_cases hread : ∃ b buf, (s.client_fd = true ∧ s.ready.client = true) ∧
          e.client = .read (b :: buf)
      · obtain ⟨b, buf, hready, hbytes⟩ := hread
        obtain ⟨packets, henters⟩ := handle_client_bytes_enters cfg e.now (b :: buf) s
        have htxq :
            (bridge_step cfg s e).txq = (handle_client_bytes cfg e.now 0 (b :: buf) s).txq := by
          rw [bridge_step_client cfg e hclient, bridge_client, if_pos hready, hbytes]
        unfold step_moves
        rw [htxq, henters.moves_eq]
        exact ⟨Move.client packets, henters.accepts⟩
      · -- nothing was read
        apply hquiet
        rw [bridge_step_client cfg e hclient, bridge_client]
        split
        · rename_i hready
          split
          · rfl
          · rfl
          · rfl
          · rename_i b buf hbytes
            exact absurd ⟨b, buf, hready, hbytes⟩ hread
        · rfl
    · exact hquiet (bridge_step_txq htop hclient)

/-- The relay stands for the bridge: the same packets wait, and what was completely
written is what went on the air. -/
def Shows (s : bridge_t) (r : relay Bytes) : Prop :=
  Once s ∧ r.waiting = s.txq.queue.packets ∧ r.aired = written_packets (tx_history s.data)

/-- **The step of the simulation.** -/
theorem bridge_simulates_relay (cfg : lhkt_config_t) :
    Simulates (bridge_step cfg) (fun _ e => e.drain.send.write.FcntlOk)
      (relay_step (bridge_tx_queue_limit cfg)) (step_moves cfg) Shows := by
  refine ⟨?_⟩
  rintro s ⟨waiting, aired⟩ e ⟨honce, hwaiting, haired⟩ he
  have honce' := bridge_step_once cfg s e honce he
  have hline : relay.mk waiting aired = line s.txq := by
    rw [show waiting = s.txq.queue.packets from hwaiting,
      show aired = written_packets (tx_history s.data) from haired, honce.1.written]
    rfl
  rw [hline]
  exact ⟨_, (bridge_step_move s e).2, honce', rfl, honce'.1.written.symm⟩

/-- **The bridge refines a relay.** In every run: what its steps do is accepted by
a relay with room for as many packets as the configuration allows, whose line is
then the TX queue, and whose air is what was completely written as TX_PACKET
frames, over all DATA connections. Each step makes one of the three moves, so an
iteration puts at most one packet on the air, behind the packets it gives up. And
the laws of a relay hold of the bridge: what it took from the client has left in
order or waits, and what was written is a selection of what left. -/
theorem bridge_refines_relay (cfg : lhkt_config_t) (start : start_env) (es : List bridge_env)
    (hfcntl : ∀ e ∈ es, e.drain.send.write.FcntlOk) :
    let s := bridge_run cfg start es
    let acts := labels (bridge_step cfg) (step_moves cfg) (bridge_start cfg start) es
    let r : relay Bytes := ⟨s.txq.queue.packets, written_packets (tx_history s.data)⟩
    acts.foldlM (relay_step (bridge_tx_queue_limit cfg)) {} = some r ∧
    RelayRun (bridge_tx_queue_limit cfg) acts {} r ∧
    ∀ s e, Move (step_moves cfg s e) := by
  intro s acts r
  have hstart : Shows (bridge_start cfg start) {} := by
    have honce := bridge_start_once cfg start
    refine ⟨honce, ?_, ?_⟩
    · rw [bridge_start_txq]
      rfl
    · rw [honce.1.written, bridge_start_txq]
      rfl
  obtain ⟨⟨waiting, aired⟩, hrun, _, hwaiting, haired⟩ := (bridge_simulates_relay cfg).run es
    _ _ hstart (guarded_of_forall es hfcntl _)
  have hr : relay.mk waiting aired = r := by
    rw [show waiting = s.txq.queue.packets from hwaiting,
      show aired = written_packets (tx_history s.data) from haired]
  rw [hr] at hrun
  exact ⟨hrun, relayRun_of_accepted acts hrun, fun s e => (bridge_step_move s e).1⟩

/-- A packet whose first frame is cut short is taken once and goes on the air
once. -/
theorem bridge_refines_relay_retry :
    let cut : bridge_env :=
      { drain := { send := { write := { writes := [.accept 5, .fail] } } } }
    let status : bridge_env :=
      { select := .ready { conf := true }
        conf := { chunks := [status_ready ++ ascii "\n"] } }
    let es := iteration client_connects ++ iteration (packet_arrives (ascii "x") status_ready) ++
      [cut, cut] ++ iteration status ++ [({} : bridge_env)]
    let s := bridge_run lhkt_config_defaults {} es
    let acts := labels (bridge_step lhkt_config_defaults) (step_moves lhkt_config_defaults)
      (bridge_start lhkt_config_defaults {}) es
    acts.length = 2 ∧ airings acts = 1 ∧
      RelayRun (bridge_tx_queue_limit lhkt_config_defaults) acts {}
        ⟨s.txq.queue.packets, written_packets (tx_history s.data)⟩ := by
  intro cut status es s acts
  exact ⟨by decide +kernel, by decide +kernel,
    (bridge_refines_relay lhkt_config_defaults {} es (by decide +kernel)).2.1⟩

end LorahamKissTnc.TxRelay
