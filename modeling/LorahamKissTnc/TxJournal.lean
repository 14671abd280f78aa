/-
What the RF log says of the transmissions of a run.

A transmission reports in two places: the queue counts the packet as sent, and the RF
log gets a record, unless the daemon refused the packet. `Journal` says that the
second follows the first, in every state of a run, and that the counter of
unconfirmed transmissions is the number of such records. With the files
(`RfJournal`) on one side and the daemon (`DaemonView`) on the other: what a reader of
the log files finds as transmitted is what the daemon received.
-/
import LorahamKissTnc.RfJournal
import LorahamKissTnc.DaemonView
import LorahamKissTnc.OnAir
import LorahamKissTnc.StepRules

set_option autoImplicit false

open LorahamKissTnc.Lib.CString LorahamKissTnc.Lib.Channel LorahamKissTnc.Lib.Machine
open LorahamKissTnc.Config LorahamKissTnc.Kiss LorahamKissTnc.LorahamSock
open LorahamKissTnc.BridgeConf LorahamKissTnc.BridgeTxQueue LorahamKissTnc.BridgeRx
open LorahamKissTnc.BridgeKiss LorahamKissTnc.BridgeLoraham LorahamKissTnc.Bridge
open LorahamKissTnc.OnAir LorahamKissTnc.TxOnce LorahamKissTnc.TxAccounting
open LorahamKissTnc.Connections LorahamKissTnc.StepRules LorahamKissTnc.DaemonView
open LorahamKissTnc.RfLogFile LorahamKissTnc.RfJournal

namespace LorahamKissTnc.TxJournal

variable {cfg : lhkt_config_t}

/-! ## The log and the queue -/

/-- The records without a confirmation. -/
def unconfirmed_records (log : List (rflog_outcome × Bytes)) : Nat :=
  log.countP fun r => r.1 = .unconfirmed

/-- Each record is about a packet that was sent, in order, and those without a
confirmation are counted. -/
structure Journal (c : bridge_rx_t) (q : txq_t) : Prop where
  sent : ((tx_log c.rflog).map Prod.snd).Sublist (sent_packets q)
  counted : c.stats.tx_unconfirmed = unconfirmed_records (tx_log c.rflog)

theorem Journal.congr {c c' : bridge_rx_t} {q q' : txq_t} (h : Journal c q)
    (hlog : tx_log c'.rflog = tx_log c.rflog)
    (hcount : c'.stats.tx_unconfirmed = c.stats.tx_unconfirmed) (hgone : q'.gone = q.gone) :
    Journal c' q' := by
  have hsent : sent_packets q' = sent_packets q := by
    unfold sent_packets
    rw [hgone]
  constructor
  · rw [hlog, hsent]
    exact h.sent
  · rw [hcount, hlog]
    exact h.counted

/-- The receive path only adds records of received packets. -/
theorem Journal.received {c c' : bridge_rx_t} {q : txq_t} (h : Journal c q)
    (hrx : RxOnly c c') : Journal c' q :=
  h.congr hrx.log hrx.unconfirmed rfl

theorem unconfirmed_records_concat (log : List (rflog_outcome × Bytes)) (outcome : rflog_outcome)
    (packet : Bytes) :
    unconfirmed_records (log ++ [(outcome, packet)])
      = unconfirmed_records log + if outcome = .unconfirmed then 1 else 0 := by
  unfold unconfirmed_records
  rw [List.countP_append, List.countP_singleton]
  cases outcome <;> rfl

/-- A packet that is done with leaves the queue as sent, whether or not there is a
record of it. -/
theorem Journal.reported {c c' : bridge_rx_t} {q : txq_t} (h : Journal c q) (packet : Bytes)
    (hreport : tally c' = { tally c with drop := (tally c').drop } ∨
      ∃ outcome, tx_log c'.rflog = tx_log c.rflog ++ [(outcome, packet)] ∧
        c'.stats.tx_unconfirmed
          = c.stats.tx_unconfirmed + if outcome = .unconfirmed then 1 else 0) :
    Journal c' (q.pop packet .sent) := by
  rcases hreport with hsame | ⟨outcome, hlog, hcount⟩
  · have hlog : tx_log c'.rflog = tx_log c.rflog := congrArg tally_t.log hsame
    have hcount : c'.stats.tx_unconfirmed = c.stats.tx_unconfirmed :=
      congrArg tally_t.unconfirmed hsame
    constructor
    · rw [hlog, sent_packets_pop_sent]
      exact h.sent.trans (List.sublist_append_left _ _)
    · rw [hcount, hlog]
      exact h.counted
  · constructor
    · rw [hlog, sent_packets_pop_sent, List.map_append]
      exact h.sent.append (List.Sublist.refl _)
    · rw [hcount, hlog, unconfirmed_records_concat, h.counted]

/-- **A transmission.** -/
theorem send_packet_journal (e : send_env) (client_fd : Bool) (item : bridge_tx_item_t)
    {s s' : io_t} {q : txq_t} {ret : Lhkt} {written : Bool} (h : Journal s.rx q)
    (hsend : bridge_loraham_send_packet_with_client e cfg client_fd item.packet s
      = (s', ret, written)) :
    Journal s'.rx (tx_finished q item ret written) := by
  rw [send_packet_with_client] at hsend
  have hiff := send_packet_written_iff true e cfg client_fd item.packet s
  rw [hsend] at hiff
  unfold tx_finished
  by_cases hw : Written e cfg item.packet s
  · -- the packet is out, and its end is reported in one of three ways
    have hs' := send_packet_of_written true client_fd hw
    have hreport := tally_tx_confirm true e cfg client_fd item.packet (tx_sent e cfg item.packet s)
    rw [← hs', hsend, tally_tx_sent item.packet hw.prepared] at hreport
    rw [if_pos (.inl (hiff.mpr hw))]
    refine h.reported item.packet ?_
    rcases hreport with ⟨-, -, ⟨-, hr⟩ | ⟨-, hr⟩⟩ | ⟨-, -, hr⟩ | ⟨-, -, hr⟩
    · exact .inl (by rw [hr])
    · exact .inl (by rw [hr])
    · exact .inr ⟨.ok, congrArg tally_t.log hr, congrArg tally_t.unconfirmed hr⟩
    · exact .inr ⟨.unconfirmed, congrArg tally_t.log hr, congrArg tally_t.unconfirmed hr⟩
  · obtain ⟨hlog, hcount⟩ := tally_not_written true client_fd hw
    rw [hsend] at hlog hcount
    have hkept : Journal s'.rx q := h.congr hlog hcount rfl
    split
    · exact hkept.reported item.packet (.inl rfl)
    · exact hkept

/-- **A drain.** -/
theorem drain_journal (e : drain_env) (client_fd : Bool) (s : io_t) (q : txq_t)
    (h : Journal s.rx q) :
    Journal (bridge_loraham_tx_queue_drain_with_client e cfg client_fd s q).1.rx
      (bridge_loraham_tx_queue_drain_with_client e cfg client_fd s q).2.1 := by
  refine drain_elim (I := fun s q => Journal s.rx q) (P := fun r => Journal r.1.rx r.2.1) e cfg
    client_fd s q h (fun _ _ _ h _ => h) (fun _ _ _ _ h _ _ _ => h.congr rfl rfl rfl) ?_
    (fun _ _ _ h _ => h) ?_
  · intro s q item h _
    constructor
    · rw [sent_packets_pop_dropped]
      exact h.sent
    · exact h.counted
  · intro s q item now s' ret written h _ _ _ hsend
    have hstarted : Journal s.rx (tx_started q s item now) := h.congr rfl rfl rfl
    exact send_packet_journal e.send client_fd item hstarted hsend

/-! ## A run -/

/-- A frame of the client reports no transmission. -/
theorem frame_handled_journal (kiss_dec : kiss_decoder_t) (frame : kiss_frame_t) (now : Int)
    {s : bridge_t} (h : Journal s.rx s.txq) :
    Journal (frame_handled cfg kiss_dec frame now s).rx
      (frame_handled cfg kiss_dec frame now s).txq := by
  refine h.congr rfl ?_ (bridge_kiss_handle_frame_gone frame s.kiss_params cfg now _ s.txq)
  refine handle_frame_counts (I := fun stats => stats.tx_unconfirmed = s.rx.stats.tx_unconfirmed)
    ?_ frame s.kiss_params now s.txq rfl
  intro stats counter hcounter hstats
  rw [← hstats]
  simp only [kiss_counters, List.mem_cons, List.not_mem_nil, or_false] at hcounter
  rcases hcounter with rfl | rfl | rfl | rfl | rfl | rfl | rfl | rfl <;> rfl

/-- One step of the main loop. -/
theorem bridge_step_journal (s : bridge_t) (e : bridge_env) (h : Journal s.rx s.txq) :
    Journal (bridge_step cfg s e).rx (bridge_step cfg s e).txq := by
  refine bridge_step_pieces (P := fun s => Journal s.rx s.txq) (Q := fun s => Journal s.rx s.txq)
    s e h (fun _ hs => hs) ?_ (fun _ _ _ _ _ hs => hs) ?_ (fun _ hs => hs.congr rfl rfl rfl)
    (fun _ hs => hs.congr rfl rfl rfl) (fun _ hs => hs.congr rfl rfl rfl) ?_ ?_ ?_
    (fun _ hs _ => hs) (fun _ hs _ _ => hs.congr rfl rfl rfl) (fun _ _ hs _ _ => hs)
    (fun _ hs _ => hs.congr rfl rfl rfl) ?_ (fun _ hs _ => hs) ?_
  · intro s hs
    unfold bridge_exit
    dsimp only
    split <;> exact hs.congr rfl rfl rfl
  · exact fun s hs => hs.congr rfl rfl rfl
  · intro s hs
    unfold drop_data bridge_loraham_disconnect_data_socket
    split <;> exact hs.congr rfl rfl rfl
  · intro s hs
    unfold drop_conf bridge_loraham_disconnect_conf_socket
    split <;> exact hs.congr rfl rfl rfl
  · exact fun _ _ => drain_journal e.drain s.client_fd s.toio_t s.txq h
  · exact fun s kiss_dec frame now hs => frame_handled_journal kiss_dec frame now hs
  · intro s b buf hs _ _
    have hrx := (rxInvariant_rxOnly s.rx).framed_chunk e.client_write s.client_fd (b :: buf)
      s.data.framed s.rx (RxOnly.refl s.rx)
    exact hs.received hrx

theorem bridge_run_journal (cfg : lhkt_config_t) (start : start_env) (es : List bridge_env) :
    Journal (bridge_run cfg start es).rx (bridge_run cfg start es).txq := by
  refine run_invariant (P := fun s => Journal s.rx s.txq) (fun s e hs => bridge_step_journal s e hs)
    es _ ?_
  have hstart : Journal {} {} := ⟨List.nil_sublist _, rfl⟩
  rw [bridge_start_txq]
  unfold bridge_start
  dsimp only
  split
  · unfold bridge_exit
    dsimp only
    split <;> exact hstart.congr rfl rfl rfl
  · exact hstart

/-! ## The files and the daemon -/

/-- Each packet that was written is one that the radio can carry. -/
theorem written_packet_length {tx : List (Sent UInt8)} (h : ∀ s ∈ tx, IsTxFrame s.buf) :
    ∀ packet ∈ written_packets tx, packet.length ≤ LHKT_LORAHAM_TX_MAX := by
  intro packet hpacket
  unfold written_packets at hpacket
  obtain ⟨s, hs, rfl⟩ := List.mem_map.mp hpacket
  obtain ⟨packet, hlen, hbuf⟩ := h s (List.mem_of_mem_filter hs)
  rw [hbuf]
  exact hlen

theorem sent_packet_length {s : bridge_t} (h : Once s) :
    ∀ packet ∈ sent_packets s.txq, packet.length ≤ LHKT_LORAHAM_TX_MAX := by
  rw [← h.1.written]
  refine written_packet_length ?_
  intro t ht
  unfold tx_history at ht
  rcases List.mem_append.mp ht with ht | ht
  · obtain ⟨tx, htx, ht⟩ := List.mem_flatten.mp ht
    obtain ⟨link, hlink, rfl⟩ := List.mem_map.mp htx
    exact (h.1.streams link (List.mem_append_left _ hlink)).2 t ht
  · exact (h.1.streams s.data.link (List.mem_append_right _ List.mem_cons_self)).2 t ht

/-- **The log files tell of what the daemon received.** For every run, when the calls
for its RF log were made on empty files without failures: a reader finds as
transmissions in the two files the last ones that were logged, all of them or more
than the limit of bytes; their packets are a selection, in order, of those the daemon
received; and the transmissions without a confirmation are counted. -/
theorem files_tell_of_received (cfg : lhkt_config_t) (start : start_env) (es : List bridge_env)
    (max_bytes : Nat) (ws : List (rflog_entry × entry_env))
    (hfcntl : ∀ e ∈ es, e.drain.send.write.FcntlOk)
    (hws : ws.map Prod.fst = (bridge_run cfg start es).rx.rflog)
    (hok : ∀ w ∈ ws, NoFailure w.2.towrite_env) :
    let s := bridge_run cfg start es
    let f := run (log_entry max_bytes) {} ws
    let found := (file_lines (f.prev ++ f.live)).filterMap read_tx
    (∃ k, found = (tx_log s.rx.rflog).drop k ∧
      (k = 0 ∨ max_bytes < f.prev.length + f.live.length)) ∧
    (found.map Prod.snd).Sublist ((daemon_received s.data).map loraham_frame_t.payload) ∧
    s.rx.stats.tx_unconfirmed = unconfirmed_records (tx_log s.rx.rflog) := by
  intro s f found
  have hjournal : Journal s.rx s.txq := bridge_run_journal cfg start es
  have honce : Once s := run_induction (P := Once) (fun s e hs he => bridge_step_once cfg s e hs he)
    es _ (bridge_start_once cfg start) (guarded_of_forall es hfcntl _)
  have hfits : ∀ w ∈ ws, ∀ outcome packet, w.1 = .tx outcome packet → packet.length ≤ 255 := by
    intro w hw outcome packet hentry
    have hlogged : rflog_entry.tx outcome packet ∈ s.rx.rflog := by
      rw [← hentry, ← hws]
      exact List.mem_map_of_mem hw
    have hrecord : (outcome, packet) ∈ tx_log s.rx.rflog :=
      List.mem_filterMap.mpr ⟨_, hlogged, rfl⟩
    have hsent := hjournal.sent.subset (List.mem_map_of_mem (f := Prod.snd) hrecord)
    exact sent_packet_length honce packet hsent
  obtain ⟨k, hfound, hroom⟩ := journal_tx max_bytes ws hok hfits
  rw [hws] at hfound
  refine ⟨⟨k, hfound, hroom⟩, ?_, hjournal.counted⟩
  have hlast : (found.map Prod.snd).Sublist ((tx_log s.rx.rflog).map Prod.snd) := by
    rw [show found = (tx_log s.rx.rflog).drop k from hfound]
    exact (List.drop_sublist k _).map _
  rw [(daemon_received_sublist honce (bridge_run_taken cfg start es)).1]
  exact hlast.trans hjournal.sent

/-- A packet whose TX_RESULT does not come: it is in the file, unconfirmed, and the
daemon has it. -/
theorem files_tell_of_received_unconfirmed :
    let status : bridge_env :=
      { select := .ready { conf := true }
        conf := { chunks := [status_ready ++ ascii "\n"] } }
    let es := iteration client_connects ++ iteration (packet_arrives (ascii "x") status_ready) ++
      iteration status ++ [({} : bridge_env)]
    let s := bridge_run lhkt_config_defaults {} es
    let ws : List (rflog_entry × entry_env) := s.rx.rflog.map fun entry => (entry, {})
    let f := run (log_entry 1280) {} ws
    let found := (file_lines (f.prev ++ f.live)).filterMap read_tx
    found.map Prod.fst = [.unconfirmed] ∧
      (found.map Prod.snd).Sublist ((daemon_received s.data).map loraham_frame_t.payload) := by
  intro status es s ws f found
  have hws : ws.map Prod.fst = s.rx.rflog := by
    rw [List.map_map]
    exact List.map_id _
  have hok : ∀ w ∈ ws, NoFailure w.2.towrite_env := by
    intro w hw
    obtain ⟨entry, -, rfl⟩ := List.mem_map.mp hw
    exact ⟨rfl, rfl, List.not_mem_nil, rfl, List.not_mem_nil⟩
  exact ⟨by decide +kernel, (files_tell_of_received lhkt_config_defaults {} es 1280 ws
    (by decide +kernel) hws hok).2.1⟩

end LorahamKissTnc.TxJournal
