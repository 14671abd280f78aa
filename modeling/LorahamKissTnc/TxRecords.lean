/-
What the RF log and the counters show of the TX_RESULT frames.

A packet that the daemon confirms is logged as `ok` and, behind the restore, counted
in `loraham_tx`; a refused one is counted in `loraham_drop`, with a message. `records`
names the packet each time, by its position on its DATA connection. `Shown` says that
the log and the counter are exactly what is on record, and that no packet is on record
twice. It holds as long as no transmission is confirmed by the CONF events instead.
-/
import LorahamKissTnc.TxAccounting

set_option autoImplicit false

open LorahamKissTnc.Lib.CString LorahamKissTnc.Lib.Channel LorahamKissTnc.Lib.Machine
open LorahamKissTnc.Config LorahamKissTnc.LorahamSock LorahamKissTnc.BridgeConf
open LorahamKissTnc.BridgeTxQueue LorahamKissTnc.BridgeRx LorahamKissTnc.BridgeKiss
open LorahamKissTnc.BridgeLoraham LorahamKissTnc.Bridge LorahamKissTnc.TxAccounting

namespace LorahamKissTnc.TxRecords

/-! ## The log, the counters and the records -/

/-- The packets that the RF log says were transmitted. -/
def ok_packets (log : List rflog_entry) : List Bytes :=
  ((tx_log log).filter fun entry => entry.1 = .ok).map Prod.snd

/-- The record is one of a refusal, for which a message is printed. -/
def is_refusal : record_kind → Bool
  | .refused _ => true
  | .rflog_ok => false
  | .loraham_tx => false

/-- The second record is about a packet written later, or counts the packet that the
first one logged. -/
def Later (r r' : tx_record) : Prop :=
  r.conn < r'.conn ∨ (r.conn = r'.conn ∧ (r.index < r'.index ∨
    (r.index = r'.index ∧ r.kind = .rflog_ok ∧ r'.kind = .loraham_tx)))

instance (r r' : tx_record) : Decidable (Later r r') := inferInstanceAs (Decidable (_ ∨ _))

/-- What is shown is what is on record: the log, the counter of the transmitted
packets, and a drop for each refusal; each packet once. -/
structure Shown (c : bridge_rx_t) (records : List tx_record) : Prop where
  order : records.Pairwise Later
  logged : ok_packets c.rflog
    = (records.filter fun r => r.kind = .rflog_ok).map tx_record.packet
  counted : c.stats.loraham_tx = records.countP fun r => r.kind = .loraham_tx
  refused : (records.countP fun r => is_refusal r.kind) ≤ c.stats.loraham_drop

instance (c : bridge_rx_t) (records : List tx_record) : Decidable (Shown c records) :=
  decidable_of_iff (records.Pairwise Later ∧
      ok_packets c.rflog = (records.filter fun r => r.kind = .rflog_ok).map tx_record.packet ∧
      c.stats.loraham_tx = (records.countP fun r => r.kind = .loraham_tx) ∧
      (records.countP fun r => is_refusal r.kind) ≤ c.stats.loraham_drop)
    ⟨fun h => ⟨h.1, h.2.1, h.2.2.1, h.2.2.2⟩,
      fun h => ⟨h.order, h.logged, h.counted, h.refused⟩⟩

theorem shown_init : Shown {} [] := ⟨List.Pairwise.nil, rfl, rfl, Nat.le_refl _⟩

/-- The logged packets are those of the TX records that say `ok`. -/
theorem ok_packets_of_tx_log {log log' : List rflog_entry} (h : tx_log log' = tx_log log) :
    ok_packets log' = ok_packets log := by
  unfold ok_packets
  rw [h]

/-- A transmission is shown as `ok` if it was logged so. -/
theorem ok_packets_concat (log : List rflog_entry) (outcome : rflog_outcome) (packet : Bytes) :
    ok_packets (log ++ [.tx outcome packet])
      = ok_packets log ++ if outcome = .ok then [packet] else [] := by
  unfold ok_packets
  rw [tx_log_concat_tx, List.filter_append, List.map_append]
  cases outcome <;> rfl

/-- **A new record**, of the packet written last, with what is shown about it. -/
theorem Shown.record {c c' : bridge_rx_t} {records : List tx_record} (h : Shown c records)
    (r : tx_record) (hlater : ∀ r' ∈ records, Later r' r)
    (hlogged : ok_packets c'.rflog
      = ok_packets c.rflog ++ if r.kind = .rflog_ok then [r.packet] else [])
    (hcounted : c'.stats.loraham_tx
      = c.stats.loraham_tx + if r.kind = .loraham_tx then 1 else 0)
    (hrefused : (c.stats.loraham_drop + if is_refusal r.kind then 1 else 0)
      ≤ c'.stats.loraham_drop) : Shown c' (records ++ [r]) := by
  refine ⟨?_, ?_, ?_, ?_⟩
  · refine List.pairwise_append.mpr ⟨h.order, List.pairwise_singleton _ _, ?_⟩
    intro r' hr' r'' hr''
    rw [List.mem_singleton.mp hr'']
    exact hlater r' hr'
  · rw [hlogged, h.logged, List.filter_append, List.map_append]
    by_cases hkind : r.kind = .rflog_ok
    · rw [if_pos hkind, List.filter_cons_of_pos (by simpa using hkind)]
      rfl
    · rw [if_neg hkind, List.filter_cons_of_neg (by simpa using hkind)]
      rfl
  · rw [hcounted, h.counted, List.countP_append, List.countP_singleton]
    simp
  · rw [List.countP_append, List.countP_singleton]
    exact Nat.le_trans (Nat.add_le_add_right h.refused _) hrefused

/-! ## What shows no result -/

/-- No packet is shown as transmitted. Drops may be counted. -/
structure Quiet (c c' : bridge_rx_t) : Prop where
  logged : ok_packets c'.rflog = ok_packets c.rflog
  counted : c'.stats.loraham_tx = c.stats.loraham_tx
  dropped : c.stats.loraham_drop ≤ c'.stats.loraham_drop

theorem Quiet.refl (c : bridge_rx_t) : Quiet c c := ⟨rfl, rfl, Nat.le_refl _⟩

theorem Quiet.trans {c c' c'' : bridge_rx_t} (h : Quiet c c') (h' : Quiet c' c'') : Quiet c c'' :=
  ⟨h'.logged.trans h.logged, h'.counted.trans h.counted, h.dropped.trans h'.dropped⟩

/-- What shows no result keeps to the records. -/
theorem Shown.quiet {c c' : bridge_rx_t} {records : List tx_record} (h : Shown c records)
    (hquiet : Quiet c c') : Shown c' records := by
  refine ⟨h.order, ?_, ?_, h.refused.trans hquiet.dropped⟩
  · rw [hquiet.logged]
    exact h.logged
  · rw [hquiet.counted]
    exact h.counted

theorem quiet_count (c : bridge_rx_t) {counter : lhkt_counter} (h : counter ≠ .loraham_tx) :
    Quiet c (c.count counter) := by
  refine ⟨rfl, ?_, ?_⟩
  · cases counter <;> first | rfl | exact absurd rfl h
  · cases counter <;> first | exact Nat.le_refl _ | exact Nat.le_succ _

/-- The receive path shows no transmission. -/
theorem rxInvariant_quiet (c : bridge_rx_t) : RxInvariant (Quiet c) where
  counted := fun c' counter hcounter h =>
    h.trans (quiet_count c' fun heq => absurd hcounter (by rw [heq]; decide))
  written := fun _ _ h => ⟨h.logged, h.counted, h.dropped⟩
  logged := fun _ _ _ _ h =>
    ⟨(ok_packets_of_tx_log (tx_log_concat_rx _ _ _ _)).trans h.logged, h.counted, h.dropped⟩

/-- What is read while waiting shows no result. -/
theorem quiet_wait_tx_result (e : result_env) (cfg : lhkt_config_t) (client_fd : Bool) (s : io_t) :
    Quiet s.rx (bridge_loraham_wait_tx_result e cfg client_fd s).1.rx :=
  rxInvariant_wait_tx_result (rxInvariant_quiet s.rx) e cfg client_fd (Quiet.refl s.rx)

theorem quiet_sleep (ms : Int) (signal : Bool) (s : io_t) :
    Quiet s.rx (bridge_runtime_sleep_ms ms signal s).1.rx := by
  obtain ⟨_, hsleep⟩ := bridge_runtime_sleep_ms_frame ms signal s
  rw [hsleep]
  exact Quiet.refl s.rx

/-- The restore counts its failures only. -/
theorem quiet_restore (e : restore_env) (cfg : lhkt_config_t) (s : io_t) :
    Quiet s.rx (bridge_loraham_restore_rx_freq e cfg s).1.rx := by
  have hfailed : Quiet s.rx (s.rx.count .tx_restore_failures) := quiet_count s.rx (by decide)
  unfold bridge_loraham_restore_rx_freq
  split
  · exact Quiet.refl s.rx
  · split
    · exact Quiet.refl s.rx
    · dsimp only
      split
      · exact Quiet.refl s.rx
      · obtain ⟨_, hsleep⟩ := bridge_runtime_sleep_ms_frame LHKT_TX_RESTORE_RETRY_DELAY_MS e.signal
          (io_t.count { s with conf := (bridge_loraham_send_config_freq e.first cfg cfg.rx_freq
            s.conf).1 } .tx_restore_failures)
        rw [hsleep]
        split
        · exact hfailed
        · split
          · exact hfailed
          · exact hfailed.trans (quiet_count _ (by decide))

/-- Up to the write, a transmission shows nothing. -/
theorem quiet_tx_prepare (e : send_env) (cfg : lhkt_config_t) (s : io_t) :
    Quiet s.rx (tx_prepare e cfg s).1.rx := by
  unfold tx_prepare
  split
  · exact Quiet.refl s.rx
  · dsimp only
    split
    · exact quiet_count s.rx (by decide)
    · have hslept := quiet_sleep cfg.tx_settle_ms e.settle_signal
        { s with conf := (bridge_loraham_send_config_freq e.shift cfg cfg.tx_freq s.conf).1 }
      split
      · exact hslept
      · exact hslept.trans (quiet_restore e.restore cfg _)

/-- A failed write shows no result. -/
theorem quiet_tx_write_failed (e : send_env) (cfg : lhkt_config_t) (s : io_t) :
    Quiet s.rx (tx_write_failed e cfg s).1.rx :=
  ((quiet_count s.rx (by decide)).trans
    (quiet_sleep cfg.tx_return_ms e.return_signal (s.count .loraham_drop))).trans
    (quiet_restore e.restore cfg _)

/-- A packet without a result is logged, but not as transmitted. -/
theorem quiet_tx_result_missing (e : send_env) (cfg : lhkt_config_t) (packet : Bytes) (s : io_t) :
    Quiet s.rx (tx_result_missing e cfg packet s).1.rx := by
  have hlogged : Quiet s.rx ((s.count .tx_unconfirmed).log_tx .unconfirmed packet).rx :=
    ⟨(ok_packets_concat _ _ _).trans (List.append_nil _), rfl, Nat.le_refl _⟩
  exact hlogged.trans (quiet_restore e.restore cfg _)

/-! ## A result -/

/-- The record is about a packet written before the last one. -/
def Before (d : data_t) (r : tx_record) : Prop :=
  r.conn < d.closed.length ∨ (r.conn = d.closed.length ∧ r.index < d.link.tx.length - 1)

/-- A record about the packet written last is later than those in front of it. -/
theorem Before.later {d : data_t} {r : tx_record} (h : Before d r) (kind : record_kind)
    (packet : Bytes) : Later r ⟨kind, packet, d.closed.length, d.link.tx.length - 1⟩ :=
  h.imp id fun hlast => ⟨hlast.1, .inl hlast.2⟩

/-- A confirmed packet is logged, whatever becomes of the restore. -/
theorem tx_result_logged_shown (packet : Bytes) (result : loraham_tx_result_t) {s : io_t}
    (h : Shown s.rx s.records) (hbefore : ∀ r ∈ s.records, Before s.data r) :
    Shown (tx_result_logged packet result s).rx (tx_result_logged packet result s).records := by
  unfold tx_result_logged
  split
  · exact h.record ⟨.rflog_ok, packet, s.data.closed.length, s.data.link.tx.length - 1⟩
      (fun r hr => (hbefore r hr).later _ _) (ok_packets_concat _ _ _) rfl (Nat.le_refl _)
  · exact h

/-- **A received TX_RESULT** is shown as it is recorded. -/
theorem tx_result_received_shown (e : send_env) (cfg : lhkt_config_t) (packet : Bytes)
    (client_error : Lhkt) (result : loraham_tx_result_t) {s : io_t} (h : Shown s.rx s.records)
    (hbefore : ∀ r ∈ s.records, Before s.data r) :
    Shown (tx_result_received e cfg packet client_error result s).1.rx
      (tx_result_received e cfg packet client_error result s).1.records := by
  have hlogged := tx_result_logged_shown packet result h hbefore
  have hquiet := quiet_restore e.restore cfg (tx_result_logged packet result s)
  have hcmd := commandsOnly_restore e.restore cfg (tx_result_logged packet result s)
  have hrestored := hlogged.quiet hquiet
  have hrecords := hcmd.records_eq
  -- the restore leaves the record behind the log in its place
  have hdata : (bridge_loraham_restore_rx_freq e.restore cfg
      (tx_result_logged packet result s)).1.data = s.data := by
    rw [hcmd.data_eq]
    obtain ⟨_, _, hframe⟩ := tx_result_logged_frame packet result s
    rw [hframe]
  rw [← hrecords] at hrestored
  unfold tx_result_received
  dsimp only
  split
  · exact hrestored
  · split
    · rename_i hstatus
      refine hrestored.record ⟨.refused result.status, packet, _, _⟩ ?_
        (List.append_nil _).symm rfl (Nat.le_refl _)
      intro r hr
      rw [hrecords] at hr
      have hr : r ∈ s.records := by
        unfold tx_result_logged at hr
        rwa [if_neg hstatus] at hr
      show Later r ⟨_, _, _, _⟩
      rw [show (io_t.count _ _).data = s.data from hdata]
      exact (hbefore r hr).later _ _
    · rename_i hstatus
      have hstatus : result.status = LORAHAM_TX_STATUS_OK := not_ne_iff.mp hstatus
      refine hrestored.record ⟨.loraham_tx, packet, _, _⟩ ?_ (List.append_nil _).symm rfl
        (Nat.le_refl _)
      intro r hr
      rw [hrecords] at hr
      show Later r ⟨_, _, _, _⟩
      rw [show (io_t.count _ _).data = s.data from hdata]
      unfold tx_result_logged at hr
      rw [if_pos hstatus] at hr
      rcases List.mem_append.mp hr with hr | hr
      · exact (hbefore r hr).later _ _
      · -- the packet that was just logged
        rw [List.mem_singleton.mp hr]
        exact .inr ⟨rfl, .inr ⟨rfl, rfl, rfl⟩⟩

end LorahamKissTnc.TxRecords
