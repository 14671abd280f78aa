/-
Rules for statements about counters, over one step of the main loop.

`bridge_step_elim` treats the counters as local variables. Here they are not: a
step is taken apart into the pieces of work it can consist of, each with what it
counts (`bridge_step_pieces`), and leaving the loop is kept apart from them. The
large pieces get rules of their own: a read from the daemon (`RxRule`), a drain
(`TxRule`) and a frame of the client (`handle_frame_counts`). Sending a text to the
client stays one piece of work in them, so that its counters can be compared.
-/
import LorahamKissTnc.Connections

set_option autoImplicit false

open LorahamKissTnc.Lib.CString LorahamKissTnc.Lib.Channel LorahamKissTnc.Lib.Machine
open LorahamKissTnc.Config LorahamKissTnc.Kiss LorahamKissTnc.Ax25 LorahamKissTnc.Tnc2
open LorahamKissTnc.LorahamSock LorahamKissTnc.BridgeConf LorahamKissTnc.BridgeTxQueue
open LorahamKissTnc.BridgeRx LorahamKissTnc.BridgeKiss LorahamKissTnc.BridgeLoraham
open LorahamKissTnc.Bridge LorahamKissTnc.Connections

namespace LorahamKissTnc.StepRules

variable {cfg : lhkt_config_t}

/-! ## The pieces of a step -/

/-- The state behind a frame of the client, whose result is still to be looked
at. -/
def frame_handled (cfg : lhkt_config_t) (kiss_dec : kiss_decoder_t) (frame : kiss_frame_t)
    (now : Int) (s : bridge_t) : bridge_t :=
  let r := bridge_kiss_handle_frame frame s.kiss_params cfg now (s.rx.stats.incr .kiss_rx) s.txq
  { s with
    kiss_dec := kiss_dec
    kiss_params := r.1
    rx := { s.rx with stats := r.2.1 }
    txq := r.2.2.1 }

/-- The bytes of a read, in pieces. -/
theorem handle_client_bytes_pieces {P : bridge_t → Prop} (now : Nat → Int)
    (hflow : ∀ s kiss_dec, P s → P { s with kiss_dec := kiss_dec })
    (hdrop : ∀ s : bridge_t, P s → P { s with rx := s.rx.count .kiss_drop })
    (hframe : ∀ s kiss_dec frame now, P s → P (frame_handled cfg kiss_dec frame now s))
    (hdata : ∀ s, P s → P (drop_data s)) (hconf : ∀ s, P s → P (drop_conf s)) (buf : Bytes) :
    ∀ i s, P s → P (handle_client_bytes cfg now i buf s) := by
  induction buf with
  | nil => exact fun _ _ hs => hs
  | cons b buf ih =>
      intro i s hs
      refine ih (i + 1) _ ?_
      unfold handle_client_byte
      split
      · rename_i kiss_dec frame _
        have hhandled := hframe s kiss_dec frame (now i) hs
        dsimp only
        split
        · exact hdata _ hhandled
        · split
          · exact hconf _ hhandled
          · exact hhandled
      · exact hflow s _ hs
      · rename_i kiss_dec _ _
        exact hdrop { s with kiss_dec := kiss_dec } (hflow s kiss_dec hs)

/-- **A step in pieces.** What each piece of work keeps holds behind a step, and
behind the exit when that is where the step ends. -/
theorem bridge_step_pieces {P Q : bridge_t → Prop} (s : bridge_t) (e : bridge_env) (h : P s)
    (hkeep : ∀ s, P s → Q s)
    (hexit : ∀ s, P s → Q (bridge_exit s))
    (hflow : ∀ s pc ready stop kiss_dec, P s →
      P { s with pc := pc, ready := ready, stop := stop, kiss_dec := kiss_dec })
    (hcad : ∀ s, P s → P (collect_cad_stats s))
    (hdrop : ∀ s : bridge_t, P s → P { s with rx := s.rx.count .kiss_drop })
    (hleave : ∀ s : bridge_t, P s → P { s with rx := s.rx.count .client_disconnects })
    (hclose : ∀ s, P s → P (close_client s))
    (hdata : ∀ s, P s → P (drop_data s))
    (hconf : ∀ s, P s → P (drop_conf s))
    (hdrain : s.pc = .top → (s.stop || e.signal) = false → P (bridge_drain cfg e s).1)
    (hconnect : ∀ s, P s → s.conf.fd = false → P { s with conf := connect_conf s.conf })
    (hreopen : ∀ s : bridge_t, P s → s.conf.fd = true → s.data.fd = false →
      P { s with rx := s.rx.count .socket_reconnects, data := connect_data s.data })
    (hconfig : ∀ s ok, P s → s.conf.fd = true → (ok = true →
      (send_initial_config e.config cfg s).2 = .OK) →
      P { (send_initial_config e.config cfg s).1 with config_ok := ok })
    (hopen : ∀ s, P s → s.client_fd = false → P (open_client s))
    (hframe : ∀ s kiss_dec frame now, P s → P (frame_handled cfg kiss_dec frame now s))
    (hread : ∀ s, P s → s.conf.fd = true →
      P { s with conf := (bridge_conf_read_available e.conf s.conf).1 })
    (hchunk : ∀ s b buf, P s → s.data.fd = true → e.data = .read (b :: buf) →
      P (handle_data_bytes e.client_write (b :: buf) s).1) :
    Q (bridge_step cfg s e) := by
  have hpc : ∀ s pc, P s → P { s with pc := pc } := fun s pc hs =>
    hflow s pc s.ready s.stop s.kiss_dec hs
  have hdrained : s.pc = .top → (s.stop || e.signal) = false → P (drained cfg e s) := by
    intro htop hrun
    have hs := hdrain htop hrun
    unfold drained handle_drain_result
    apply hcad
    split
    · exact hdata _ hs
    · split
      · exact hconf _ hs
      · split
        · exact hclose _ hs
        · exact hs
  unfold bridge_step
  split
  · rename_i htop
    by_cases hstop : (s.stop || e.signal) = true
    · rw [bridge_top_stopping hstop]
      exact hexit _ (hflow s s.pc s.ready true s.kiss_dec h)
    · have hrun : (s.stop || e.signal) = false := by simpa using hstop
      have hs := hdrained htop hrun
      rw [bridge_top_running hrun]
      split
      · exact hexit _ hs
      · exact hkeep _ (hpc _ _ hs)
  · unfold bridge_select
    split
    · exact hexit s h
    · exact hkeep _ (hpc _ _ h)
    · refine hkeep _ (hpc _ _ ?_)
      refine bridge_timeout_elim (P := P) cfg e s h (hconnect s h) ?_ ?_
      · intro hfd hdfd _
        -- the result of the configuration is what `config_ok` becomes
        exact hconfig _ _ (hreopen s h hfd hdfd) hfd (fun hok => by simpa using hok)
      · intro hfd _ hpending
        unfold pending_config
        dsimp only
        split
        · rename_i hok
          exact hconfig s true h hfd fun _ => hok
        · have hsame := hconfig s s.config_ok h hfd
            (fun hok => absurd (hpending.symm.trans hok) (by simp))
          exact hsame
    · exact hkeep _ (hflow s _ _ s.stop s.kiss_dec h)
  · unfold bridge_accept
    split
    · rename_i hlisten
      split
      · exact hkeep _ (hpc _ _ h)
      · obtain ⟨stop, hsleep⟩ := bridge_runtime_sleep_ms_frame 100 e.signal s.toio_t
        rw [hsleep]
        exact hkeep _ (hflow s _ s.ready stop s.kiss_dec h)
      · split
        · exact hkeep _ (hpc _ _ h)
        · split
          · exact hkeep _ (hpc _ _ h)
          · exact hkeep _ (hpc _ _ (hopen s h (by simpa using hlisten.1)))
    · exact hkeep _ (hpc _ _ h)
  · unfold bridge_client
    split
    · split
      · exact hkeep _ (hpc _ _ h)
      · exact hkeep _ (hpc _ _ (hclose s h))
      · exact hkeep _ (hpc _ _ (hclose _ (hleave s h)))
      · refine hkeep _ (hpc _ _ ?_)
        refine handle_client_bytes_pieces e.now ?_ hdrop hframe hdata hconf _ 0 s h
        exact fun s kiss_dec hs => hflow s s.pc s.ready s.stop kiss_dec hs
    · exact hkeep _ (hpc _ _ h)
  · unfold bridge_conf
    split
    · rename_i hready
      dsimp only
      split
      · exact hkeep _ (hpc _ _ (hconf _ (hread s h hready.1)))
      · exact hkeep _ (hpc _ _ (hcad _ (hread s h hready.1)))
    · exact hkeep _ (hpc _ _ h)
  · unfold bridge_data
    split
    · rename_i hready
      split
      · exact hkeep _ (hpc _ _ h)
      · exact hkeep _ (hpc _ _ (hdata s h))
      · exact hkeep _ (hpc _ _ (hdata s h))
      · rename_i b buf hbytes
        have hs := hchunk s b buf h hready.1 hbytes
        refine hkeep _ (hpc _ _ ?_)
        unfold handle_chunk_result
        split
        · exact hclose _ hs
        · split
          · exact hdata _ hs
          · exact hs
    · exact hkeep _ (hpc _ _ h)
  · exact hkeep _ h

/-! ## What the receiver does -/

/-- What the receiver keeps with the client it has, or without one: a loss is
counted, a text is sent as one piece of work, and a packet goes on record. -/
structure RxRule (client_fd : Bool) (I : bridge_rx_t → Prop) : Prop where
  lost : ∀ c, ∀ counter ∈ [lhkt_counter.loraham_drop, .loraham_framed_errors],
    I c → I (c.count counter)
  text : client_fd = true → ∀ w tnc2 c, I c →
    I (bridge_rx_send_tnc2_to_kiss_client w true tnc2 (c.count .loraham_rx)).1
  logged : ∀ c rssi_cdbm snr_cdb packet, I c → I (c.log (.rx rssi_cdbm snr_cdb packet))

/-- Counts, writes and records one by one are more than that. -/
theorem RxRule.of_invariant {I : bridge_rx_t → Prop} (h : RxInvariant I) (client_fd : Bool) :
    RxRule client_fd I where
  lost := by
    intro c counter hcounter
    apply h.counted c
    simp only [List.mem_cons, List.not_mem_nil, or_false] at hcounter
    rcases hcounter with rfl | rfl <;> decide
  text := fun _ w tnc2 c hc => h.send_tnc2 w true tnc2 (h.counted c .loraham_rx (by decide) hc)
  logged := h.logged

section RxRule

variable {I : bridge_rx_t → Prop} {client_fd : Bool}

theorem RxRule.dropped (h : RxRule client_fd I) {c : bridge_rx_t} (hc : I c) :
    I (c.count .loraham_drop) :=
  h.lost c .loraham_drop (by simp) hc

/-- A packet of the radio: the rules for texts and drops are enough. -/
theorem RxRule.loraham_packet (h : RxRule true I) (w : Nat → List write_ret) (packet : Bytes)
    {c : bridge_rx_t} (hc : I c) :
    I (bridge_rx_send_loraham_packet_to_kiss_client w true packet c).1 := by
  have htrans : ∀ c c' c'' : bridge_rx_t, Lhkt → (I c → I c') → (I c' → I c'') → I c → I c'' :=
    fun _ _ _ _ hfirst hrest hc => hrest (hfirst hc)
  refine bridge_rx_send_loraham_packet_elim (P := fun c c' _ => I c → I c') w true
    (fun _ hc => hc) ?_ (fun c hc => h.dropped hc) htrans packet c hc
  intro rx_state buf c
  exact handle_loraham_chunk_loop_elim (P := fun c c' _ => I c → I c') w true (fun _ hc => hc)
    (fun c _ _ _ _ _ hc => h.dropped hc) (fun c tnc2 hc => h.text rfl w tnc2 c hc) htrans _
    rx_state buf c

/-- A frame of the daemon: the rules for texts, drops and the log are enough. -/
theorem RxRule.framed_frame (h : RxRule client_fd I) (w : Nat → List write_ret)
    (frame : loraham_frame_t) {c : bridge_rx_t} (hc : I c) :
    I (bridge_rx_handle_framed_frame w client_fd frame c).1 := by
  have hlogged : I (log_rx_packet frame.payload c) := by
    unfold log_rx_packet
    split
    · exact h.logged c _ _ _ hc
    · exact hc
  unfold bridge_rx_handle_framed_frame
  split
  · dsimp only
    split
    · exact h.dropped hlogged
    · rename_i hclient
      have hclient : client_fd = true := by simpa using hclient
      subst hclient
      split
      · exact h.dropped hlogged
      · exact h.loraham_packet w _ hlogged
  · split
    · exact h.lost c .loraham_framed_errors (by simp) hc
    · exact h.dropped hc

/-- **One read of the idle loop.** -/
theorem RxRule.framed_chunk (h : RxRule client_fd I) (w : Nat → List write_ret) (buf : Bytes) :
    ∀ (frame_state : loraham_framed_rx_state_t) (c : bridge_rx_t), I c →
      I (bridge_rx_handle_framed_chunk w client_fd frame_state buf c).1 := by
  induction buf with
  | nil => exact fun _ _ hc => hc
  | cons b buf ih =>
      intro frame_state c hc
      unfold bridge_rx_handle_framed_chunk
      split
      · rename_i frame_state frame _
        have hframe := h.framed_frame w frame hc
        dsimp only
        split
        · exact hframe
        · exact ih _ _ hframe
      · exact ih _ _ hc
      · exact h.dropped hc

/-- Losing the client leaves less to do. -/
theorem RxRule.alone (h : RxRule client_fd I) : RxRule false I where
  lost := h.lost
  text := fun hno => absurd hno (by simp)
  logged := h.logged

/-- **The wait for a TX_RESULT**, in which the client can only be lost. -/
theorem RxRule.wait (h : RxRule client_fd I) (cfg : lhkt_config_t) (e : result_env) {s : io_t}
    (hs : I s.rx) :
    I (bridge_loraham_wait_tx_result e cfg client_fd s).1.rx := by
  have hwait : WaitInvariant e.client
      (fun l => I l.rx ∧ (l.client_fd = false ∨ l.client_fd = client_fd)) := by
    refine ⟨fun _ _ hl => hl, fun l hl => ⟨h.dropped hl.1, hl.2⟩, ?_, fun _ _ hl => hl,
      fun _ _ _ hl => hl⟩
    rintro frame l ⟨hl, hfd⟩
    have hframe : I (bridge_rx_handle_framed_frame e.client l.client_fd frame l.rx).1 := by
      rcases hfd with hfd | hfd
      · rw [hfd]
        exact h.alone.framed_frame e.client frame hl
      · rw [hfd]
        exact h.framed_frame e.client frame hl
    unfold wait_frame
    dsimp only
    split
    · exact ⟨hframe, .inl rfl⟩
    · exact ⟨hframe, hfd⟩
  unfold bridge_loraham_wait_tx_result
  split
  · exact hs
  · exact (hwait.rounds _ e.rounds ⟨s.stop, s.rx, s.data, client_fd, .OK⟩ ⟨hs, .inr rfl⟩).1

end RxRule

/-! ## What a drain counts -/

/-- What a transmission keeps of the receiver besides: a failed restore, a
confirmed packet, and the records about a packet, of which the one without a
confirmation comes with a count. -/
structure TxRule (client_fd : Bool) (I : bridge_rx_t → Prop) : Prop
    extends RxRule client_fd I where
  restore_failed : ∀ c, I c → I (c.count .tx_restore_failures)
  confirmed : ∀ c, I c → I (c.count .loraham_tx)
  logged_ok : ∀ c packet, I c → I (c.log (.tx .ok packet))
  unconfirmed : ∀ c packet, I c → I ((c.count .tx_unconfirmed).log (.tx .unconfirmed packet))

section TxRule

variable {I : bridge_rx_t → Prop} {client_fd : Bool}

theorem TxRule.sleep (ms : Int) (signal : Bool) {s : io_t} (hs : I s.rx) :
    I (bridge_runtime_sleep_ms ms signal s).1.rx := by
  obtain ⟨_, hsleep⟩ := bridge_runtime_sleep_ms_frame ms signal s
  rw [hsleep]
  exact hs

/-- A restore counts its failure. -/
theorem TxRule.restore (h : TxRule client_fd I) (cfg : lhkt_config_t) (e : restore_env) {s : io_t}
    (hs : I s.rx) :
    I (bridge_loraham_restore_rx_freq e cfg s).1.rx := by
  unfold bridge_loraham_restore_rx_freq
  split
  · exact hs
  · split
    · exact hs
    · have hfailed := h.restore_failed s.rx hs
      dsimp only
      split
      · exact hs
      · obtain ⟨_, hsleep⟩ := bridge_runtime_sleep_ms_frame LHKT_TX_RESTORE_RETRY_DELAY_MS e.signal
          (io_t.count { s with conf := (bridge_loraham_send_config_freq e.first cfg cfg.rx_freq
            s.conf).1 } .tx_restore_failures)
        rw [hsleep]
        split
        · exact hfailed
        · split
          · exact hfailed
          · exact h.restore_failed _ hfailed

/-- The shift to the TX frequency counts its failure. -/
theorem TxRule.prepare (h : TxRule client_fd I) (cfg : lhkt_config_t) (e : send_env) {s : io_t}
    (hs : I s.rx) :
    I (tx_prepare e cfg s).1.rx := by
  unfold tx_prepare
  split
  · exact hs
  · dsimp only
    split
    · exact h.dropped hs
    · have hslept := TxRule.sleep (I := I) cfg.tx_settle_ms e.settle_signal
        (s := { s with conf := (bridge_loraham_send_config_freq e.shift cfg cfg.tx_freq s.conf).1 })
        hs
      split
      · exact hslept
      · exact h.restore cfg e.restore hslept

/-- A failed write of the packet is counted, behind the restore. -/
theorem TxRule.write_failed (h : TxRule client_fd I) (e : send_env) {s : io_t} (hs : I s.rx) :
    I (tx_write_failed e cfg s).1.rx :=
  h.restore cfg e.restore (TxRule.sleep cfg.tx_return_ms e.return_signal (h.dropped hs))

/-- A missing TX_RESULT is logged and counted. -/
theorem TxRule.result_missing (h : TxRule client_fd I) (e : send_env) (packet : Bytes) {s : io_t}
    (hs : I s.rx) : I (tx_result_missing e cfg packet s).1.rx :=
  h.restore cfg e.restore (h.unconfirmed s.rx packet hs)

/-- A TX_RESULT is logged or counted as a drop, around a restore. -/
theorem TxRule.result_received (h : TxRule client_fd I) (e : send_env) (packet : Bytes)
    (client_error : Lhkt) (result : loraham_tx_result_t) {s : io_t} (hs : I s.rx) :
    I (tx_result_received e cfg packet client_error result s).1.rx := by
  have hlogged : I (tx_result_logged packet result s).rx := by
    unfold tx_result_logged
    split
    · exact h.logged_ok s.rx packet hs
    · exact hs
  have hrestored := h.restore cfg e.restore hlogged
  unfold tx_result_received
  dsimp only
  split
  · exact hrestored
  · split
    · exact h.dropped hrestored
    · exact h.confirmed _ hrestored

/-- **A wait for the TX_RESULT**: what is received in it, and what becomes of the
result. -/
theorem TxRule.confirm_result (h : TxRule client_fd I) (e : send_env) (packet : Bytes) {s : io_t}
    (hs : I s.rx) :
    I (tx_confirm_result e cfg client_fd packet s).1.rx := by
  have hwaited := h.wait cfg e.result hs
  unfold tx_confirm_result
  generalize bridge_loraham_wait_tx_result e.result cfg client_fd s = r at hwaited ⊢
  obtain ⟨s', client_error, ret⟩ := r
  cases ret with
  | error _ => exact h.result_missing e packet hwaited
  | ok result => exact h.result_received e packet client_error result hwaited

/-- **A wait for the CONF events**: what becomes of its end. -/
theorem TxRule.confirm_events (h : TxRule client_fd I) (e : send_env) (packet : Bytes) {s : io_t}
    (hs : I s.rx) : I (tx_confirm_events e cfg packet s).1.rx := by
  have hwaited : I (tx_events_waited e cfg packet s).rx := by
    obtain ⟨stop, c', _, hwait⟩ := bridge_loraham_wait_tx_complete_frame e.complete cfg s
    unfold tx_events_waited
    dsimp only
    rw [hwait]
    split
    · -- the pause lies between the count and the record, and touches neither
      obtain ⟨_, hsleep⟩ := bridge_runtime_sleep_ms_frame cfg.tx_return_ms e.return_signal
        (io_t.count { s with stop := stop, conf := c' } .tx_unconfirmed)
      rw [hsleep]
      exact h.unconfirmed s.rx packet hs
    · exact h.logged_ok s.rx packet hs
  have hrestored := h.restore cfg e.restore hwaited
  unfold tx_confirm_events
  dsimp only
  split
  · exact hrestored
  · exact h.confirmed _ hrestored

/-- **One transmission**, on every way through it. -/
theorem TxRule.send_packet (h : TxRule client_fd I) (cfg : lhkt_config_t) (e : send_env)
    (packet : Bytes) {s : io_t} (hs : I s.rx) :
    I (bridge_loraham_send_packet_with_client e cfg client_fd packet s).1.rx := by
  have hwritten : ∀ {s₁ s₂ : io_t} {ret ret' : Lhkt}, tx_prepare e cfg s = (s₁, ret) →
      bridge_loraham_write e packet s₁ = (s₂, ret') → I s₂.rx := by
    intro s₁ s₂ ret ret' hprep hwrite
    have hs₁ := h.prepare cfg e hs
    rw [hprep] at hs₁
    -- the write is on the DATA connection
    rw [← (Prod.mk.inj hwrite).1]
    exact hs₁
  refine send_packet_elim (P := fun r => I r.1.rx) e cfg client_fd packet s ?_ ?_ ?_ ?_ ?_
  · rintro s' _ (rfl | rfl) _
    · exact hs
    · exact h.dropped hs
  · intro s₁ _ hprep _
    have hs₁ := h.prepare cfg e hs
    rw [hprep] at hs₁
    exact hs₁
  · exact fun _ _ _ hprep hwrite _ => h.write_failed e (hwritten hprep hwrite)
  · exact fun _ _ hprep hwrite _ => h.confirm_result e packet (hwritten hprep hwrite)
  · exact fun _ _ hprep hwrite _ => h.confirm_events e packet (hwritten hprep hwrite)

/-- **A drain.** -/
theorem TxRule.drain (h : TxRule client_fd I) (e : drain_env) {s : io_t}
    (q : txq_t) (hs : I s.rx) :
    I (bridge_loraham_tx_queue_drain_with_client e cfg client_fd s q).1.rx := by
  refine drain_elim (I := fun s _ => I s.rx) (P := fun r => I r.1.rx) e cfg client_fd s q hs
    (fun _ _ _ hs _ => hs) (fun _ _ _ _ hs _ _ _ => hs) (fun _ _ _ hs _ => h.dropped hs)
    (fun _ _ _ hs _ => hs) ?_
  intro s _ item _ s' ret written hs _ _ _ hsend
  have hsent := h.send_packet cfg e.send item.packet hs
  rw [hsend] at hsent
  exact hsent

end TxRule

/-! ## What a frame of the client counts -/

/-- The counters of the way from the client into the queue. -/
def kiss_counters : List lhkt_counter :=
  [.kiss_rx, .kiss_drop, .ax25_drop, .ax25_rx, .tnc2_drop, .tnc2_tx, .loraham_drop,
    .tx_drop_oversize]

/-- **A frame of the client** only counts. -/
theorem handle_frame_counts {I : lhkt_stats_t → Prop}
    (hcount : ∀ stats, ∀ counter ∈ kiss_counters, I stats → I (stats.incr counter))
    (frame : kiss_frame_t) (kiss_params : kiss_params_t) (now : Int) (q : txq_t)
    {stats : lhkt_stats_t} (h : I stats) :
    I (bridge_kiss_handle_frame frame kiss_params cfg now stats q).2.1 := by
  unfold bridge_kiss_handle_frame
  dsimp only
  split
  · split
    · exact hcount stats .kiss_drop (by decide) h
    · unfold bridge_kiss_handle_data_frame
      split
      · exact hcount stats .ax25_drop (by decide) h
      · have hax25 := hcount stats .ax25_rx (by decide) h
        dsimp only
        split
        · exact hcount _ .tnc2_drop (by decide) hax25
        · have htnc2 := hcount _ .tnc2_tx (by decide) hax25
          split
          · have hdropped := hcount _ .loraham_drop (by decide) htnc2
            split
            · exact hcount _ .tx_drop_oversize (by decide) hdropped
            · exact hdropped
          · split
            · exact htnc2
            · split
              · exact hcount _ .loraham_drop (by decide) htnc2
              · exact htnc2
  · exact h

end LorahamKissTnc.StepRules
