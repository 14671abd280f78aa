/-
The bridge transmits only what a client asked for.

`rx_only` is looked at in one place, where a packet would enter the queue, and so
it takes the whole program to see what it does: everything that goes out, and
everything that is counted or logged as sent, starts from the queue. As long as
nothing was accepted there, no byte was written on any DATA connection, the radio
was never tuned away from the receive frequency, the commands on CONF are those of
a configuration, and neither the counters nor the RF log speak of a transmission
(`Receiving`). RX-only mode is one way to be sure that nothing was accepted.
-/
import LorahamKissTnc.ConfigState
import LorahamKissTnc.KissIngress

set_option autoImplicit false

open LorahamKissTnc.Lib.CString LorahamKissTnc.Lib.Channel LorahamKissTnc.Lib.Machine
open LorahamKissTnc.Config LorahamKissTnc.Kiss LorahamKissTnc.LorahamSock
open LorahamKissTnc.BridgeConf LorahamKissTnc.BridgeTxQueue LorahamKissTnc.BridgeRx
open LorahamKissTnc.BridgeKiss LorahamKissTnc.BridgeLoraham LorahamKissTnc.Bridge
open LorahamKissTnc.ConfStream LorahamKissTnc.Connections LorahamKissTnc.StepRules
open LorahamKissTnc.ConfigState LorahamKissTnc.KissIngress

namespace LorahamKissTnc.ReceiveOnly

variable {cfg : lhkt_config_t}

/-! ## A bridge that only receives -/

/-- Counters and RF log know of no transmission. -/
structure RxSide (c : bridge_rx_t) : Prop where
  rflog : ∀ entry ∈ c.rflog, ∃ rssi_cdbm snr_cdb packet, entry = .rx rssi_cdbm snr_cdb packet
  loraham_tx : c.stats.loraham_tx = 0
  tx_unconfirmed : c.stats.tx_unconfirmed = 0
  tx_restore_failures : c.stats.tx_restore_failures = 0

/-- Nothing was transmitted, and nothing was done for a transmission. -/
structure Receiving (cfg : lhkt_config_t) (s : bridge_t) : Prop where
  txq : s.txq = {}
  packets : ∀ link ∈ s.data.closed ++ [s.data.link], link.tx = []
  records : s.records = []
  commands : ∀ stream ∈ s.conf.closed ++ [s.conf.tx], ∀ line ∈ stream,
    line.buf ∈ config_commands cfg
  freqs : ∀ freq ∈ s.conf.freqs, freq = cfg.rx_freq
  rx : RxSide s.rx

/-! ## What the receiver does -/

/-- The counters of a transmission. -/
def tx_counters : List lhkt_counter := [.loraham_tx, .tx_unconfirmed, .tx_restore_failures]

/-- A counter of the receiver. -/
theorem RxSide.count {c : bridge_rx_t} (h : RxSide c) {counter : lhkt_counter}
    (hother : counter ∉ tx_counters) : RxSide (c.count counter) := by
  obtain ⟨hrflog, htx, hunconfirmed, hrestore⟩ := h
  cases counter <;>
    first
    | exact ⟨hrflog, htx, hunconfirmed, hrestore⟩
    | exact absurd (by decide) hother

/-- A received packet is no transmission. -/
theorem rxInvariant_rxSide : RxInvariant RxSide where
  counted := by
    have hother : ∀ counter ∈ rx_counters, counter ∉ tx_counters := by decide
    exact fun c counter hcounter hc => hc.count (hother counter hcounter)
  written := fun _ _ hc => ⟨hc.rflog, hc.loraham_tx, hc.tx_unconfirmed, hc.tx_restore_failures⟩
  logged := by
    intro c rssi_cdbm snr_cdb packet hc
    refine ⟨fun entry hentry => ?_, hc.loraham_tx, hc.tx_unconfirmed, hc.tx_restore_failures⟩
    rcases List.mem_append.mp hentry with hentry | hentry
    · exact hc.rflog entry hentry
    · exact ⟨rssi_cdbm, snr_cdb, packet, List.mem_singleton.mp hentry⟩

/-! ## A configuration -/

/-- From `c` to `c'` commands of a configuration were written. -/
structure Configures (cfg : lhkt_config_t) (c c' : conf_t) : Prop where
  closed : c'.closed = c.closed
  tx : ∃ lines, c'.tx = c.tx ++ lines ∧ ∀ line ∈ lines, line.buf ∈ config_commands cfg
  freqs : ∃ freqs, c'.freqs = c.freqs ++ freqs ∧ ∀ freq ∈ freqs, freq = cfg.rx_freq

/-- The line of a configuration, unless it was not made. -/
theorem send_config_writes (e : sock_env) (cfg : lhkt_config_t) (tx : List (Sent UInt8)) :
    ∃ lines, (loraham_send_config e cfg tx).1 = tx ++ lines ∧
      ∀ line ∈ lines, line.buf ∈ config_commands cfg := by
  have hline : ∀ freq, config_line cfg freq = rx_config_line cfg →
      ∃ lines, (loraham_send_config_line e cfg freq tx).1 = tx ++ lines ∧
        ∀ line ∈ lines, line.buf ∈ config_commands cfg := by
    intro freq hfreq
    unfold loraham_send_config_line
    split
    · exact ⟨[], (List.append_nil tx).symm, by simp⟩
    · refine ⟨[loraham_sock_write e (config_line cfg freq)], rfl, ?_⟩
      intro line hline
      rw [List.mem_singleton.mp hline, loraham_sock_write_buf, hfreq]
      simp [config_commands]
  unfold loraham_send_config
  split
  · rename_i hrx
    unfold loraham_send_config_freq
    split
    · exact ⟨[], (List.append_nil tx).symm, by simp⟩
    · exact hline _ (by rw [rx_config_line, if_pos hrx])
  · rename_i hrx
    exact hline _ (by rw [rx_config_line, if_neg hrx])

/-- **A configuration** writes its own commands, whatever becomes of them. -/
theorem configures_send_initial_config (e : config_env) (cfg : lhkt_config_t) (c : conf_t) :
    Configures cfg c (bridge_loraham_send_initial_config_with_state e cfg c).1 := by
  obtain ⟨first, hfirst, hlines⟩ := send_config_writes e.config cfg c.tx
  have htxresult : (loraham_sock_write e.txresult txresult_line).buf ∈ config_commands cfg := by
    rw [loraham_sock_write_buf]
    simp [config_commands]
  have hstatus : (loraham_sock_write e.status status_line).buf ∈ config_commands cfg := by
    rw [loraham_sock_write_buf]
    simp [config_commands]
  have hfreqs : ∃ freqs, (if cfg.have_rx_freq then c.freqs ++ [cfg.rx_freq] else c.freqs)
      = c.freqs ++ freqs ∧ ∀ freq ∈ freqs, freq = cfg.rx_freq := by
    split
    · exact ⟨[cfg.rx_freq], rfl, by simp⟩
    · exact ⟨[], (List.append_nil _).symm, by simp⟩
  have hnone : ∃ freqs, c.freqs = c.freqs ++ freqs ∧ ∀ freq ∈ freqs, freq = cfg.rx_freq :=
    ⟨[], (List.append_nil _).symm, by simp⟩
  unfold bridge_loraham_send_initial_config_with_state
  split
  · exact ⟨rfl, ⟨[], (List.append_nil _).symm, by simp⟩, hnone⟩
  · dsimp only
    split
    · exact ⟨rfl, ⟨first, hfirst, hlines⟩, hnone⟩
    · -- the lines are written one by one, up to the first that fails
      have hsecond : ∀ line ∈ first ++ [loraham_sock_write e.txresult txresult_line],
          line.buf ∈ config_commands cfg := by
        intro line hline
        rcases List.mem_append.mp hline with hline | hline
        · exact hlines line hline
        · rw [List.mem_singleton.mp hline]
          exact htxresult
      split
      · refine ⟨rfl, ⟨first ++ [loraham_sock_write e.txresult txresult_line], ?_, hsecond⟩, hfreqs⟩
        show (loraham_send_config e.config cfg c.tx).1 ++ _ = _
        rw [hfirst, List.append_assoc]
      · have hthird : ∀ line ∈ first ++ [loraham_sock_write e.txresult txresult_line]
            ++ [loraham_sock_write e.status status_line], line.buf ∈ config_commands cfg := by
          intro line hline
          rcases List.mem_append.mp hline with hline | hline
          · exact hsecond line hline
          · rw [List.mem_singleton.mp hline]
            exact hstatus
        have htx : (loraham_send_config e.config cfg c.tx).1
            ++ [loraham_sock_write e.txresult txresult_line]
            ++ [loraham_sock_write e.status status_line]
          = c.tx ++ (first ++ [loraham_sock_write e.txresult txresult_line]
            ++ [loraham_sock_write e.status status_line]) := by
          rw [hfirst]
          simp
        split <;> exact ⟨rfl, ⟨_, htx, hthird⟩, hfreqs⟩

/-! ## What a step keeps -/

theorem Receiving.congr {s s' : bridge_t} (h : Receiving cfg s) (htxq : s'.txq = s.txq)
    (hdata : s'.data = s.data) (hrecords : s'.records = s.records)
    (hclosed : s'.conf.closed = s.conf.closed) (htx : s'.conf.tx = s.conf.tx)
    (hfreqs : s'.conf.freqs = s.conf.freqs) (hrx : RxSide s'.rx) : Receiving cfg s' where
  txq := htxq.trans h.txq
  packets := by rw [hdata]; exact h.packets
  records := hrecords.trans h.records
  commands := by rw [hclosed, htx]; exact h.commands
  freqs := by rw [hfreqs]; exact h.freqs
  rx := hrx

/-- Written lines stay what they are when their connection is gone. -/
theorem commands_fresh {closed : List (List (Sent UInt8))} {tx : List (Sent UInt8)}
    (h : ∀ stream ∈ closed ++ [tx], ∀ line ∈ stream, line.buf ∈ config_commands cfg) :
    (∀ stream ∈ closed ++ [[]], ∀ line ∈ stream, line.buf ∈ config_commands cfg) ∧
      ∀ stream ∈ closed ++ [tx] ++ [[]], ∀ line ∈ stream, line.buf ∈ config_commands cfg := by
  constructor
  · intro stream hstream line hline
    rcases List.mem_append.mp hstream with hstream | hstream
    · exact h stream (List.mem_append_left _ hstream) line hline
    · rw [List.mem_singleton.mp hstream] at hline
      exact absurd hline List.not_mem_nil
  · intro stream hstream line hline
    rcases List.mem_append.mp hstream with hstream | hstream
    · exact h stream hstream line hline
    · rw [List.mem_singleton.mp hstream] at hline
      exact absurd hline List.not_mem_nil

theorem drop_conf_receiving {s : bridge_t} (h : Receiving cfg s) : Receiving cfg (drop_conf s) := by
  unfold drop_conf bridge_loraham_disconnect_conf_socket
  split
  · exact h.congr rfl rfl rfl rfl rfl rfl h.rx
  · exact ⟨h.txq, h.packets, h.records, (commands_fresh h.commands).2, h.freqs,
      h.rx.count (by decide)⟩

/-- Giving up DATA transmits nothing. -/
theorem drop_data_receiving {s : bridge_t} (h : Receiving cfg s) : Receiving cfg (drop_data s) := by
  unfold drop_data bridge_loraham_disconnect_data_socket
  split
  · exact ⟨h.txq, h.packets, h.records, h.commands, h.freqs, h.rx⟩
  · refine ⟨h.txq, ?_, h.records, h.commands, h.freqs, h.rx.count (by decide)⟩
    intro link hlink
    rcases List.mem_append.mp hlink with hlink | hlink
    · exact h.packets link hlink
    · rw [List.mem_singleton.mp hlink]

/-- An empty queue leaves the drain nothing to do. -/
theorem drain_idle (e : drain_env) (client_fd : Bool) (s : io_t) :
    bridge_loraham_tx_queue_drain_with_client e cfg client_fd s {} = (s, {}, .OK) := by
  unfold bridge_loraham_tx_queue_drain_with_client
  rw [drain_select_empty e cfg 0 s (q := {}) rfl]

theorem collect_receiving {s : bridge_t} (h : Receiving cfg s) :
    Receiving cfg (collect_cad_stats s) :=
  h.congr rfl rfl rfl rfl rfl rfl
    ⟨h.rx.rflog, h.rx.loraham_tx, h.rx.tx_unconfirmed, h.rx.tx_restore_failures⟩

theorem close_client_receiving {s : bridge_t} (h : Receiving cfg s) :
    Receiving cfg (close_client s) :=
  h.congr rfl rfl rfl rfl rfl rfl
    ⟨h.rx.rflog, h.rx.loraham_tx, h.rx.tx_unconfirmed, h.rx.tx_restore_failures⟩

/-- Leaving the loop transmits nothing. -/
theorem bridge_exit_receiving {s : bridge_t} (h : Receiving cfg s) :
    Receiving cfg (bridge_exit s) := by
  -- the last counts and the client first, then the two connections
  have hclosed : ∀ s : bridge_t, Receiving cfg s →
      Receiving cfg
        { s with data := close_data s.data, conf := close_conf s.conf, pc := .done } := by
    intro s h
    refine ⟨h.txq, ?_, h.records, ?_, ?_, h.rx⟩
    · show ∀ link ∈ (close_data s.data).closed ++ [(close_data s.data).link], link.tx = []
      unfold close_data
      split
      · intro link hlink
        rcases List.mem_append.mp hlink with hlink | hlink
        · exact h.packets link hlink
        · rw [List.mem_singleton.mp hlink]
      · exact h.packets
    · show ∀ stream ∈ (close_conf s.conf).closed ++ [(close_conf s.conf).tx], ∀ line ∈ stream,
        line.buf ∈ config_commands cfg
      unfold close_conf
      split
      · exact (commands_fresh h.commands).2
      · exact h.commands
    · show ∀ freq ∈ (close_conf s.conf).freqs, freq = cfg.rx_freq
      unfold close_conf
      split <;> exact h.freqs
  unfold bridge_exit
  dsimp only
  split
  · exact hclosed _ (close_client_receiving (collect_receiving h))
  · exact hclosed _ (collect_receiving h)

/-- A frame of the client is accepted, or leaves the queue as it was. -/
theorem frame_handled_receiving {s : bridge_t} (h : s.txq.accepted = [] → Receiving cfg s)
    (kiss_dec : kiss_decoder_t) (frame : kiss_frame_t) (now : Int)
    (hnone : (frame_handled cfg kiss_dec frame now s).txq.accepted = []) :
    Receiving cfg (frame_handled cfg kiss_dec frame now s) := by
  have hother : ∀ counter ∈ kiss_counters, counter ∉ tx_counters := by decide
  have hcounts : RxSide s.rx → RxSide (frame_handled cfg kiss_dec frame now s).rx := by
    intro hs
    apply handle_frame_counts (I := fun stats => RxSide { s.rx with stats := stats })
    · exact fun stats counter hcounter hc =>
        RxSide.count (c := { s.rx with stats := stats }) hc (hother counter hcounter)
    · exact hs.count (by decide)
  rcases bridge_kiss_handle_frame_cases frame s.kiss_params cfg now (s.rx.stats.incr .kiss_rx)
    s.txq with hq | ⟨_, _, packet, queue, _, _, _, _, _, _, _, hq⟩
  · have hsame : (frame_handled cfg kiss_dec frame now s).txq = s.txq := hq
    rw [hsame] at hnone
    exact (h hnone).congr hsame rfl rfl rfl rfl rfl (hcounts (h hnone).rx)
  · have haccepted : (frame_handled cfg kiss_dec frame now s).txq.accepted
        = s.txq.accepted ++ [⟨frame, packet⟩] := congrArg txq_t.accepted hq
    rw [haccepted] at hnone
    exact absurd hnone (by simp)

/-- A configuration writes its commands, and tunes to the RX frequency. -/
theorem configured_receiving (e : config_env) (ok : Bool) {s : bridge_t} (h : Receiving cfg s) :
    Receiving cfg { (send_initial_config e cfg s).1 with config_ok := ok } := by
  obtain ⟨hclosed, ⟨lines, htx, hlines⟩, freqs, hfreqs, hrx⟩ :=
    configures_send_initial_config e cfg s.conf
  refine ⟨h.txq, h.packets, h.records, ?_, ?_, h.rx⟩
  · show ∀ stream ∈ (bridge_loraham_send_initial_config_with_state e cfg s.conf).1.closed
      ++ [(bridge_loraham_send_initial_config_with_state e cfg s.conf).1.tx],
      ∀ line ∈ stream, line.buf ∈ config_commands cfg
    rw [hclosed, htx]
    intro stream hstream line hline
    rcases List.mem_append.mp hstream with hstream | hstream
    · exact h.commands stream (List.mem_append_left _ hstream) line hline
    · rw [List.mem_singleton.mp hstream] at hline
      rcases List.mem_append.mp hline with hline | hline
      · exact h.commands s.conf.tx (by simp) line hline
      · exact hlines line hline
  · show ∀ freq ∈ (bridge_loraham_send_initial_config_with_state e cfg s.conf).1.freqs,
      freq = cfg.rx_freq
    rw [hfreqs]
    intro freq hfreq
    rcases List.mem_append.mp hfreq with hfreq | hfreq
    · exact h.freqs freq hfreq
    · exact hrx freq hfreq

/-- One step of the main loop. -/
theorem bridge_step_receiving (s : bridge_t) (e : bridge_env)
    (h : s.txq.accepted = [] → Receiving cfg s) :
    (bridge_step cfg s e).txq.accepted = [] → Receiving cfg (bridge_step cfg s e) := by
  refine bridge_step_pieces (P := fun s => s.txq.accepted = [] → Receiving cfg s)
    (Q := fun s => s.txq.accepted = [] → Receiving cfg s) s e h (fun _ hs => hs)
    ?_ ?_ (fun _ hs hnone => collect_receiving (hs hnone)) ?_ ?_
    (fun _ hs hnone => close_client_receiving (hs hnone))
    (fun _ hs hnone => drop_data_receiving (hs hnone))
    (fun _ hs hnone => drop_conf_receiving (hs hnone)) ?_ ?_ ?_ ?_ ?_
    (fun _ kiss_dec frame now hs => frame_handled_receiving hs kiss_dec frame now) ?_ ?_
  · intro s hs hnone
    rw [bridge_exit_txq] at hnone
    exact bridge_exit_receiving (hs hnone)
  · exact fun _ _ _ _ _ hs hnone => (hs hnone).congr rfl rfl rfl rfl rfl rfl (hs hnone).rx
  · exact fun _ hs hnone =>
      (hs hnone).congr rfl rfl rfl rfl rfl rfl ((hs hnone).rx.count (by decide))
  · exact fun _ hs hnone =>
      (hs hnone).congr rfl rfl rfl rfl rfl rfl ((hs hnone).rx.count (by decide))
  · intro _ _ hnone
    -- nothing was accepted, so the drain finds an empty queue
    have hidle : s.txq.accepted = [] := by
      rw [← hnone]
      exact (drain_accepted e.drain cfg s.client_fd s.toio_t s.txq).symm
    have hs := h hidle
    have hdrain : bridge_drain cfg e s = ({ s with txq := {} }, .OK) := by
      unfold bridge_drain
      rw [hs.txq, drain_idle]
    rw [hdrain]
    exact hs.congr hs.txq.symm rfl rfl rfl rfl rfl hs.rx
  · intro s hs _ hnone
    have hs := hs hnone
    exact ⟨hs.txq, hs.packets, hs.records, (commands_fresh hs.commands).1, hs.freqs, hs.rx⟩
  · intro s hs _ _ hnone
    have hs := hs hnone
    refine ⟨hs.txq, ?_, hs.records, hs.commands, hs.freqs, hs.rx.count (by decide)⟩
    intro link hlink
    rcases List.mem_append.mp hlink with hlink | hlink
    · exact hs.packets link (List.mem_append_left _ hlink)
    · rw [List.mem_singleton.mp hlink]
      rfl
  · exact fun s ok hs _ _ hnone => configured_receiving e.config ok (hs hnone)
  · exact fun _ hs _ hnone => (hs hnone).congr rfl rfl rfl rfl rfl rfl
      ⟨(hs hnone).rx.rflog, (hs hnone).rx.loraham_tx, (hs hnone).rx.tx_unconfirmed,
        (hs hnone).rx.tx_restore_failures⟩
  · intro s hs _ hnone
    obtain ⟨_, _, hread⟩ := bridge_conf_read_available_frame e.conf s.conf
    rw [hread] at hnone ⊢
    exact (hs hnone).congr rfl rfl rfl rfl rfl rfl (hs hnone).rx
  · intro s b buf hs _ _ hnone
    have hs := hs hnone
    have hrx : RxSide (handle_data_bytes e.client_write (b :: buf) s).1.rx :=
      (RxRule.of_invariant rxInvariant_rxSide s.client_fd).framed_chunk e.client_write (b :: buf)
        s.data.framed s.rx hs.rx
    refine ⟨hs.txq, ?_, hs.records, hs.commands, hs.freqs, hrx⟩
    intro link hlink
    rcases List.mem_append.mp hlink with hlink | hlink
    · exact hs.packets link (List.mem_append_left _ hlink)
    · rw [List.mem_singleton.mp hlink]
      exact hs.packets s.data.link (by simp)

/-- At the start only the receive configuration has been written. -/
theorem bridge_start_receiving (start : start_env) : Receiving cfg (bridge_start cfg start) := by
  have hbegin : Receiving cfg ({ conf := { fd := start.conf_connect } } : bridge_t) := by
    refine ⟨rfl, ?_, rfl, ?_, ?_, ⟨?_, rfl, rfl, rfl⟩⟩ <;> simp
  have hconfigured : ∀ ok : Bool, Receiving cfg
      { (send_initial_config start.config cfg { conf := { fd := start.conf_connect } }).1 with
        config_ok := ok
        data := { fd := start.data_connect } } := by
    intro ok
    have h := configured_receiving start.config ok hbegin
    exact ⟨h.txq, by simp, h.records, h.commands, h.freqs, h.rx⟩
  unfold bridge_start
  dsimp only
  split
  · exact bridge_exit_receiving (hconfigured _)
  · exact hconfigured _

/-! ## Whole runs -/

/-- RX-only mode accepts nothing. -/
theorem rx_only_accepts_nothing (h : cfg.rx_only = true) (start : start_env)
    (es : List bridge_env) : (bridge_run cfg start es).txq.accepted = [] := by
  have hstart : (bridge_start cfg start).txq.accepted = [] := by
    rw [(bridge_start_receiving start).txq]
  refine run_invariant (P := fun s : bridge_t => s.txq.accepted = []) ?_ es _ hstart
  intro s e hs
  refine bridge_step_pieces (P := fun s => s.txq.accepted = [])
    (Q := fun s => s.txq.accepted = []) s e hs (fun _ hs => hs) ?_ (fun _ _ _ _ _ hs => hs)
    (fun _ hs => hs) (fun _ hs => hs) (fun _ hs => hs) (fun _ hs => hs) (fun _ hs => hs)
    (fun _ hs => hs) ?_ (fun _ hs _ => hs)
    (fun _ hs _ _ => hs) (fun _ _ hs _ _ => hs) (fun _ hs _ => hs) ?_ (fun _ hs _ => hs)
    (fun _ _ _ hs _ _ => hs)
  · intro s hs
    rw [bridge_exit_txq]
    exact hs
  · exact fun _ _ => (drain_accepted e.drain cfg s.client_fd s.toio_t s.txq).trans hs
  · intro s kiss_dec frame now hs
    rcases bridge_kiss_handle_frame_cases frame s.kiss_params cfg now (s.rx.stats.incr .kiss_rx)
      s.txq with hq | ⟨_, _, _, _, hrx, _⟩
    · exact (congrArg txq_t.accepted hq).trans hs
    · exact absurd (h.symm.trans hrx) (by simp)

/-- **Nothing is transmitted for no one.** In every state of every run, in RX-only
mode always and otherwise until a packet of a client is accepted: nothing was
written to the daemon but configurations, the radio stayed on the receive frequency,
and counters and log know of no transmission. -/
theorem receive_only (cfg : lhkt_config_t) (start : start_env) (es : List bridge_env)
    (h : cfg.rx_only = true ∨ (bridge_run cfg start es).txq.accepted = []) :
    Receiving cfg (bridge_run cfg start es) := by
  have hnone : (bridge_run cfg start es).txq.accepted = [] := by
    rcases h with hrx | hnone
    · exact rx_only_accepts_nothing hrx start es
    · exact hnone
  refine run_invariant (P := fun s => s.txq.accepted = [] → Receiving cfg s) ?_ es _ ?_ hnone
  · exact fun s e hs => bridge_step_receiving s e hs
  · exact fun _ => bridge_start_receiving start

/-- In RX-only mode a client's packet is decoded and formatted, and goes no
further. -/
theorem receive_only_packet :
    let cfg : lhkt_config_t := { lhkt_config_defaults with rx_only := true }
    let es : List bridge_env :=
      iteration client_connects ++ iteration (packet_arrives (ascii "hello") status_ready)
    Receiving cfg (bridge_run cfg {} es) ∧ (bridge_run cfg {} es).rx.stats.tnc2_tx = 1 := by
  intro cfg es
  exact ⟨receive_only cfg {} es (.inl rfl), by decide +kernel⟩

end LorahamKissTnc.ReceiveOnly
