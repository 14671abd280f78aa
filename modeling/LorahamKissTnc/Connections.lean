/-
What belongs to a descriptor of the main loop.

`Connected` is the invariant the later modules on whole runs share: a descriptor
that is closed has no stream, and behind the loop every descriptor is closed.
What a drain can write on the CONF connection is stated without a condition on
the environment (`Retunes`): frequency lines, whatever the socket takes of them.
-/
import LorahamKissTnc.TxOnce

set_option autoImplicit false

open LorahamKissTnc.Lib.CString LorahamKissTnc.Lib.Channel LorahamKissTnc.Lib.Machine
open LorahamKissTnc.Config LorahamKissTnc.LorahamSock LorahamKissTnc.BridgeConf
open LorahamKissTnc.BridgeTxQueue LorahamKissTnc.BridgeRx LorahamKissTnc.BridgeKiss
open LorahamKissTnc.BridgeLoraham LorahamKissTnc.Bridge LorahamKissTnc.FramedStream
open LorahamKissTnc.TxOnce

namespace LorahamKissTnc.Connections

/-! ## Commands of a drain -/

/-- The write is of a frequency line. -/
def IsRetune (cfg : lhkt_config_t) (s : Sent UInt8) : Prop :=
  ∃ freq, s.buf = config_line cfg (some freq)

/-- From `c` to `c'` bytes were read and frequency lines were written. -/
structure Retunes (cfg : lhkt_config_t) (c c' : conf_t) : Prop where
  fd : c'.fd = c.fd
  closed : c'.closed = c.closed
  tx : ∃ lines, c'.tx = c.tx ++ lines ∧ ∀ s ∈ lines, IsRetune cfg s

variable {cfg : lhkt_config_t}

theorem Retunes.of_eq {c c' : conf_t} (hfd : c'.fd = c.fd) (hclosed : c'.closed = c.closed)
    (htx : c'.tx = c.tx) : Retunes cfg c c' :=
  ⟨hfd, hclosed, [], by rw [htx, List.append_nil], by simp⟩

theorem Retunes.trans {c c' c'' : conf_t} (h : Retunes cfg c c') (h' : Retunes cfg c' c'') :
    Retunes cfg c c'' := by
  obtain ⟨hfd, hclosed, lines, htx, hlines⟩ := h
  obtain ⟨hfd', hclosed', lines', htx', hlines'⟩ := h'
  refine ⟨hfd'.trans hfd, hclosed'.trans hclosed, lines ++ lines', ?_, ?_⟩
  · rw [htx', htx, List.append_assoc]
  · intro s hs
    rcases List.mem_append.mp hs with hs | hs
    · exact hlines s hs
    · exact hlines' s hs

/-- Reading writes nothing. -/
theorem Retunes.fed {c c' : conf_t} (h : Fed c c') : Retunes cfg c c' := by
  obtain ⟨state, events, rfl⟩ := h.frame
  exact Retunes.of_eq rfl rfl rfl

/-- One frequency line, or none. -/
theorem retunes_send_config_freq (cfg : lhkt_config_t) (e : sock_env) (freq : ℚ) (c : conf_t) :
    Retunes cfg c (bridge_loraham_send_config_freq e cfg freq c).1 := by
  -- the line was too long for its buffer, or it was handed to the socket
  have hline : (loraham_send_config_freq e cfg freq c.tx).1 = c.tx ∨
      ∃ sent : Sent UInt8, IsRetune cfg sent ∧
        (loraham_send_config_freq e cfg freq c.tx).1 = c.tx ++ [sent] := by
    unfold loraham_send_config_freq
    split
    · exact .inl rfl
    · unfold loraham_send_config_line
      split
      · exact .inl rfl
      · exact .inr ⟨_, ⟨freq, loraham_sock_write_buf e _⟩, rfl⟩
  have htx : ∀ freqs, Retunes cfg c
      { c with tx := (loraham_send_config_freq e cfg freq c.tx).1, freqs := freqs } := by
    intro freqs
    rcases hline with hsame | ⟨sent, hsent, happ⟩
    · exact Retunes.of_eq rfl rfl hsame
    · exact ⟨rfl, rfl, [sent], happ, by simpa using hsent⟩
  unfold bridge_loraham_send_config_freq
  split
  · exact Retunes.of_eq rfl rfl rfl
  · split
    · exact Retunes.of_eq rfl rfl rfl
    · dsimp only
      split
      · exact htx c.freqs
      · exact htx _

/-- A restore only retunes. -/
theorem retunes_restore (cfg : lhkt_config_t) (e : restore_env) (s : io_t) :
    Retunes cfg s.conf (bridge_loraham_restore_rx_freq e cfg s).1.conf := by
  have hline : ∀ (e : sock_env) {freq : ℚ} {c c' : conf_t} {ret : Lhkt},
      bridge_loraham_send_config_freq e cfg freq c = (c', ret) → Retunes cfg c c' := by
    intro e freq c c' ret h
    have hsend := retunes_send_config_freq cfg e freq c
    rwa [h] at hsend
  refine restore_elim (P := fun r => Retunes cfg s.conf r.1.conf) e cfg s ?_ ?_ ?_ ?_ ?_
  · exact fun _ => Retunes.of_eq rfl rfl rfl
  · exact fun _ => Retunes.of_eq rfl rfl rfl
  · exact fun c _ hsend => hline e.first hsend
  · exact fun c ret _ _ _ hsend _ => hline e.first hsend
  · exact fun c c' _ _ _ _ _ hsend _ _ hagain =>
      (hline e.first hsend).trans (hline e.retry hagain)

/-- The shift to the TX frequency only retunes. -/
theorem retunes_tx_prepare (cfg : lhkt_config_t) (e : send_env) (s : io_t) :
    Retunes cfg s.conf (tx_prepare e cfg s).1.conf := by
  have hline : ∀ {c : conf_t} {ret : Lhkt},
      bridge_loraham_send_config_freq e.shift cfg cfg.tx_freq s.conf = (c, ret) →
        Retunes cfg s.conf c := by
    intro c ret h
    have hsend := retunes_send_config_freq cfg e.shift cfg.tx_freq s.conf
    rwa [h] at hsend
  refine tx_prepare_elim (P := fun r => Retunes cfg s.conf r.1.conf) e cfg s ?_ ?_ ?_ ?_
  · exact fun _ => Retunes.of_eq rfl rfl rfl
  · exact fun c ret _ _ hsend _ => hline hsend
  · exact fun c _ _ hsend => hline hsend
  · intro c stop _ hsend _
    exact (hline hsend).trans (retunes_restore cfg e.restore { s with conf := c, stop := stop })

/-- The wait for a TX_RESULT does not touch CONF. -/
theorem wait_tx_result_conf (cfg : lhkt_config_t) (e : result_env) (client_fd : Bool) (s : io_t) :
    (bridge_loraham_wait_tx_result e cfg client_fd s).1.conf = s.conf := by
  unfold bridge_loraham_wait_tx_result
  split <;> rfl

/-- Behind a wait for the TX_RESULT there is a restore. -/
theorem retunes_tx_confirm_result (cfg : lhkt_config_t) (e : send_env) (client_fd : Bool)
    (packet : Bytes) (s : io_t) :
    Retunes cfg s.conf (tx_confirm_result e cfg client_fd packet s).1.conf := by
  have hwait := wait_tx_result_conf cfg e.result client_fd s
  unfold tx_confirm_result
  generalize bridge_loraham_wait_tx_result e.result cfg client_fd s = r at hwait ⊢
  obtain ⟨s', client_error, ret⟩ := r
  have hwait : s'.conf = s.conf := hwait
  match ret with
  | .error _ =>
      rw [← hwait]
      exact retunes_restore cfg e.restore ((s'.count .tx_unconfirmed).log_tx .unconfirmed packet)
  | .ok result =>
      obtain ⟨_, _, hlogged⟩ := tx_result_logged_frame packet result s'
      have hrestore := retunes_restore cfg e.restore (tx_result_logged packet result s')
      have hconf : (tx_result_logged packet result s').conf = s.conf := by rw [hlogged, ← hwait]
      rw [hconf] at hrestore
      dsimp only
      unfold tx_result_received
      dsimp only
      split
      · exact hrestore
      · split <;> exact hrestore

/-- Behind a wait for the CONF events there is a restore. -/
theorem retunes_tx_confirm_events (cfg : lhkt_config_t) (e : send_env) (packet : Bytes)
    (s : io_t) :
    Retunes cfg s.conf (tx_confirm_events e cfg packet s).1.conf := by
  obtain ⟨stop, stats, rflog, c', hfed, hwaited⟩ := tx_events_waited_frame e cfg packet s
  have hrestore := retunes_restore cfg e.restore (tx_events_waited e cfg packet s)
  have hconf : (tx_events_waited e cfg packet s).conf = c' := by rw [hwaited]
  rw [hconf] at hrestore
  have hfed : Retunes cfg s.conf c' := Retunes.fed hfed
  have hall := hfed.trans hrestore
  unfold tx_confirm_events
  dsimp only
  split <;> exact hall

/-- **A transmission** writes frequency lines on CONF and nothing else. -/
theorem retunes_send_packet (cfg : lhkt_config_t) (e : send_env) (client_fd : Bool)
    (packet : Bytes) (s : io_t) :
    Retunes cfg s.conf
      (bridge_loraham_send_packet_with_client e cfg client_fd packet s).1.conf := by
  have hprepared : ∀ {s₁ : io_t} {ret : Lhkt}, tx_prepare e cfg s = (s₁, ret) →
      Retunes cfg s.conf s₁.conf := by
    intro s₁ ret hprep
    have h := retunes_tx_prepare cfg e s
    rwa [hprep] at h
  -- the packet itself goes out on the other connection
  have hwritten : ∀ {s₁ s₂ : io_t} {ret : Lhkt}, tx_prepare e cfg s = (s₁, .OK) →
      bridge_loraham_write e packet s₁ = (s₂, ret) → Retunes cfg s.conf s₂.conf := by
    intro s₁ s₂ ret hprep hwrite
    obtain ⟨hs₂, _⟩ := Prod.mk.inj hwrite
    have hconf : s₂.conf = s₁.conf := by rw [← hs₂]
    rw [hconf]
    exact hprepared hprep
  refine send_packet_elim (P := fun r => Retunes cfg s.conf r.1.conf) e cfg client_fd packet s
    ?_ ?_ ?_ ?_ ?_
  · rintro s' _ (rfl | rfl) _
    · exact Retunes.of_eq rfl rfl rfl
    · exact Retunes.of_eq rfl rfl rfl
  · exact fun s₁ _ hprep _ => hprepared hprep
  · intro s₁ s₂ _ hprep hwrite _
    refine (hwritten hprep hwrite).trans ?_
    obtain ⟨stop, hsleep⟩ := bridge_runtime_sleep_ms_frame cfg.tx_return_ms e.return_signal
      (s₂.count .loraham_drop)
    have hrestore := retunes_restore cfg e.restore
      (bridge_runtime_sleep_ms cfg.tx_return_ms e.return_signal (s₂.count .loraham_drop)).1
    rw [hsleep] at hrestore
    unfold tx_write_failed
    dsimp only
    rw [hsleep]
    exact hrestore
  · exact fun s₁ s₂ hprep hwrite _ =>
      (hwritten hprep hwrite).trans (retunes_tx_confirm_result cfg e client_fd packet s₂)
  · exact fun s₁ s₂ hprep hwrite _ =>
      (hwritten hprep hwrite).trans (retunes_tx_confirm_events cfg e packet s₂)

/-- **A drain** writes frequency lines on CONF and nothing else. -/
theorem retunes_drain (cfg : lhkt_config_t) (e : drain_env) (client_fd : Bool) (s : io_t)
    (q : txq_t) :
    Retunes cfg s.conf (bridge_loraham_tx_queue_drain_with_client e cfg client_fd s q).1.conf := by
  refine drain_elim (I := fun s' _ => Retunes cfg s.conf s'.conf)
    (P := fun r => Retunes cfg s.conf r.1.conf) e cfg client_fd s q
    (Retunes.of_eq rfl rfl rfl) ?_ (fun _ _ _ _ h _ _ _ => h) (fun _ _ _ h _ => h)
    (fun _ _ _ h _ => h) ?_
  · exact fun s' q' read h _ => h.trans (Retunes.fed (fed_read_available read s'.conf))
  · intro s' q' item now s'' ret written h _ _ _ hsend
    have hsent := retunes_send_packet cfg e.send client_fd item.packet s'
    rw [hsend] at hsent
    exact h.trans hsent

/-- A closed CONF connection is neither read nor written. -/
theorem drain_conf_unopened (cfg : lhkt_config_t) (e : drain_env) (client_fd : Bool) {s : io_t}
    (q : txq_t) (hfd : s.conf.fd = false) :
    (bridge_loraham_tx_queue_drain_with_client e cfg client_fd s q).1.conf = s.conf := by
  refine drain_elim (I := fun s' _ => s'.conf = s.conf) (P := fun r => r.1.conf = s.conf)
    e cfg client_fd s q rfl ?_ (fun _ _ _ _ h _ _ _ => h) (fun _ _ _ h _ => h)
    (fun _ _ _ h _ => h) ?_
  · intro s' _ _ h hopen
    rw [h, hfd] at hopen
    exact absurd hopen (by simp)
  · intro s' _ _ _ _ _ _ h _ hgate _ _
    have hopen := hgate.conf_fd
    rw [h, hfd] at hopen
    exact absurd hopen (by simp)

/-! ## The packet of a drain -/

/-- From `d` to `d'` bytes may have been read, and at most one TX_PACKET frame was
handed to the connection; a closed one is left alone. -/
structure Submits (d d' : data_t) : Prop where
  fd : d'.fd = d.fd
  closed : d'.closed = d.closed
  tx : d'.link.tx = d.link.tx ∨ ∃ sent, IsTxFrame sent.buf ∧ sent.taken ≤ sent.buf.length ∧
    d'.link.tx = d.link.tx ++ [sent]
  unopened : d.fd = false → d' = d

theorem Submits.refl (d : data_t) : Submits d d := ⟨rfl, rfl, .inl rfl, fun _ => rfl⟩

/-- A write takes no more than there is. -/
theorem loraham_sock_write_taken (e : sock_env) (buf : Bytes) :
    (loraham_sock_write e buf).taken ≤ (loraham_sock_write e buf).buf.length := by
  unfold loraham_sock_write
  split
  · exact Nat.zero_le _
  · split
    · exact Nat.zero_le _
    · split
      · exact Nat.zero_le _
      · exact (write_loop_spec buf.length e.writes 0 (Nat.zero_le _)).1

/-- The frame of a packet goes out, or the packet is too long for one. -/
theorem send_framed_tx_packet_tx (e : sock_env) (packet : Bytes) (tx : List (Sent UInt8)) :
    (loraham_send_framed_tx_packet e packet tx).1 = tx ∨
      ∃ sent, IsTxFrame sent.buf ∧ sent.taken ≤ sent.buf.length ∧
        (loraham_send_framed_tx_packet e packet tx).1 = tx ++ [sent] := by
  unfold loraham_send_framed_tx_packet
  split
  · exact .inl rfl
  · rename_i hlen
    exact .inr ⟨_, ⟨packet, Nat.le_of_not_lt hlen, loraham_sock_write_buf e _⟩,
      loraham_sock_write_taken e _, rfl⟩

/-- **A transmission** on an open connection. -/
theorem submits_send_packet (cfg : lhkt_config_t) (e : send_env) (client_fd : Bool)
    (packet : Bytes) {s : io_t} (hfd : s.data.fd = true) :
    Submits s.data (bridge_loraham_send_packet_with_client e cfg client_fd packet s).1.data := by
  -- what is behind the write keeps the descriptor and what was written
  have hwritten : ∀ {s₁ s₂ : io_t} {ret : Lhkt}, tx_prepare e cfg s = (s₁, .OK) →
      bridge_loraham_write e packet s₁ = (s₂, ret) → ∀ d : data_t, d.fd = s₂.data.fd →
      d.closed = s₂.data.closed → d.link.tx = s₂.data.link.tx → Submits s.data d := by
    intro s₁ s₂ ret hprep hwrite d hd hclosed htx
    obtain ⟨_, hcmd⟩ := tx_written_frame hprep hwrite
    rw [hcmd.data_eq] at hd hclosed htx
    refine ⟨hd, hclosed, ?_, ?_⟩
    · rw [htx]
      exact send_framed_tx_packet_tx e.write packet s.data.link.tx
    · exact fun hno => absurd (hfd.symm.trans hno) (by simp)
  refine send_packet_elim (P := fun r => Submits s.data r.1.data) e cfg client_fd packet s
    ?_ ?_ ?_ ?_ ?_
  · rintro s' _ (rfl | rfl) _ <;> exact Submits.refl _
  · intro s₁ _ hprep _
    have hcmd := commandsOnly_tx_prepare e cfg s
    rw [hprep] at hcmd
    rw [hcmd.data_eq]
    exact Submits.refl _
  · intro s₁ s₂ _ hprep hwrite _
    have hdata := (commandsOnly_tx_write_failed e cfg s₂).data_eq
    apply hwritten hprep hwrite <;> rw [hdata]
  · intro s₁ s₂ hprep hwrite _
    obtain ⟨framed, rx, hdata⟩ := tx_confirm_result_data e cfg client_fd packet s₂
    apply hwritten hprep hwrite <;> rw [hdata]
  · intro s₁ s₂ hprep hwrite _
    obtain ⟨_, _, hrep⟩ := reportsOnly_tx_confirm_events e cfg packet s₂
    have hdata := hrep.data_eq
    apply hwritten hprep hwrite <;> rw [hdata]

/-- **A drain** hands at most one packet to an open DATA connection. -/
theorem submits_drain (cfg : lhkt_config_t) (e : drain_env) (client_fd : Bool) (s : io_t)
    (q : txq_t) :
    Submits s.data (bridge_loraham_tx_queue_drain_with_client e cfg client_fd s q).1.data := by
  refine drain_elim (I := fun s' _ => s'.data = s.data) (P := fun r => Submits s.data r.1.data)
    e cfg client_fd s q rfl (fun _ _ _ h _ => h) (fun _ _ _ _ h _ _ _ => h) (fun _ _ _ h _ => h)
    ?_ ?_
  · intro s' _ _ h _
    show Submits s.data s'.data
    rw [h]
    exact Submits.refl _
  · intro s' q' item now s'' ret written h _ hgate _ hsend
    have hsent := submits_send_packet cfg e.send client_fd item.packet hgate.data_fd
    rw [hsend, h] at hsent
    exact hsent

/-! ## Closed descriptors -/

/-- A closed descriptor has no stream. -/
structure Connected (s : bridge_t) : Prop where
  data : s.data.fd = false → s.data.link = {}
  conf : s.conf.fd = false → s.conf.tx = [] ∧ s.conf.events = []

/-- Every descriptor is closed. -/
structure Closed (s : bridge_t) : Prop where
  client : s.client_fd = false
  conf : s.conf.fd = false
  data : s.data.fd = false

@[simp] theorem bridge_exit_pc (s : bridge_t) : (bridge_exit s).pc = .done := rfl

/-- Leaving the loop closes all three connections. -/
theorem closed_bridge_exit (s : bridge_t) : Closed (bridge_exit s) := by
  refine ⟨?_, ?_, bridge_exit_data_fd s⟩
  · unfold bridge_exit
    dsimp only
    split
    · rfl
    · rename_i hclient
      simpa using hclient
  · rw [bridge_exit_conf]
    unfold close_conf
    split
    · rfl
    · rename_i hconf
      simpa using hconf

/-- Giving up CONF clears it, unless there was nothing to give up. -/
theorem drop_conf_cases (s : bridge_t) :
    (s.conf.fd = false ∧ (drop_conf s).conf = s.conf) ∨
      (s.conf.fd = true ∧ (drop_conf s).conf = { s.conf with
        fd := false
        state := bridge_conf_state_init
        tx := []
        events := []
        closed := s.conf.closed ++ [s.conf.tx] }) := by
  unfold drop_conf bridge_loraham_disconnect_conf_socket
  dsimp only
  split
  · rename_i hfd
    exact .inl ⟨by simpa using hfd, rfl⟩
  · rename_i hfd
    exact .inr ⟨by simpa using hfd, rfl⟩

/-- Closing a connection only moves its history. -/
theorem tx_history_drop_data (s : bridge_t) :
    tx_history (drop_data s).data = tx_history s.data := by
  unfold tx_history
  rcases drop_data_cases s with ⟨_, hlink, hclosed⟩ | ⟨hlink, hclosed⟩
  · rw [hlink, hclosed]
  · rw [hlink, hclosed]
    simp

/-- Closing DATA forgets nothing that was written. -/
theorem tx_history_close_data (d : data_t) : tx_history (close_data d) = tx_history d := by
  unfold tx_history
  rcases close_data_cases d with ⟨_, heq⟩ | ⟨_, hlink, hclosed⟩
  · rw [heq]
  · rw [hlink, hclosed]
    simp

theorem Connected.congr {s s' : bridge_t} (h : Connected s) (hdata : s'.data = s.data)
    (hconf : s'.conf = s.conf) : Connected s' :=
  ⟨by rw [hdata]; exact h.data, by rw [hconf]; exact h.conf⟩

/-- Giving up DATA starts over with an empty connection. -/
theorem drop_data_connected {s : bridge_t} (h : Connected s) : Connected (drop_data s) := by
  refine ⟨fun _ => ?_, by rw [drop_data_conf]; exact h.conf⟩
  rcases drop_data_cases s with ⟨hfd, hlink, _⟩ | ⟨hlink, _⟩
  · rw [hlink, h.data hfd]
  · exact hlink

/-- Giving up CONF starts over with an empty connection. -/
theorem drop_conf_connected {s : bridge_t} (h : Connected s) : Connected (drop_conf s) := by
  refine ⟨by rw [drop_conf_data]; exact h.data, ?_⟩
  rcases drop_conf_cases s with ⟨_, hconf⟩ | ⟨_, hconf⟩
  · rw [hconf]
    exact h.conf
  · rw [hconf]
    exact fun _ => ⟨rfl, rfl⟩

/-- Leaving the loop leaves nothing on a closed connection. -/
theorem bridge_exit_connected {s : bridge_t} (h : Connected s) : Connected (bridge_exit s) := by
  refine ⟨?_, ?_⟩
  · rw [bridge_exit_data]
    rcases close_data_cases s.data with ⟨_, heq⟩ | ⟨_, hlink, _⟩
    · rw [heq]
      exact h.data
    · exact fun _ => hlink
  · rw [bridge_exit_conf]
    unfold close_conf
    split
    · exact fun _ => ⟨rfl, rfl⟩
    · exact h.conf

/-- A configuration keeps the descriptor, and writes only on an open one. -/
theorem send_initial_config_conf (cfg : lhkt_config_t) (e : config_env) (c : conf_t) :
    (bridge_loraham_send_initial_config_with_state e cfg c).1.fd = c.fd ∧
      (c.fd = false → bridge_loraham_send_initial_config_with_state e cfg c
        = (c, .ERR_CONF_SOCKET)) := by
  unfold bridge_loraham_send_initial_config_with_state
  split
  · exact ⟨rfl, fun _ => rfl⟩
  · rename_i hopen
    refine ⟨?_, fun hfd => absurd hfd (by simpa using hopen)⟩
    dsimp only
    split
    · rfl
    · split
      · rfl
      · split <;> rfl

/-- One step of the main loop. -/
theorem bridge_step_connected (cfg : lhkt_config_t) (s : bridge_t) (e : bridge_env)
    (h : Connected s) :
    Connected (bridge_step cfg s e) := by
  refine bridge_step_elim (P := Connected) cfg s e h ?_ (fun _ => bridge_exit_connected)
    (fun s hs => hs.congr rfl rfl) (fun _ => drop_data_connected) (fun _ => drop_conf_connected)
    ?_ ?_ ?_ ?_ (fun s hs _ => hs.congr rfl rfl) (fun s _ _ _ hs => hs.congr rfl rfl) ?_ ?_
  · rintro s _ ⟨_, _, _, _, _, _, _, rfl⟩ hs
    exact hs.congr rfl rfl
  · intro _ _
    -- a drain writes on open connections only
    have hdrained : Connected (bridge_drain cfg e s).1 := by
      have hdata := submits_drain cfg e.drain s.client_fd s.toio_t s.txq
      have hconf := retunes_drain cfg e.drain s.client_fd s.toio_t s.txq
      refine ⟨fun hfd => ?_, fun hfd => ?_⟩
      · have hno : s.data.fd = false := hdata.fd.symm.trans hfd
        show (bridge_loraham_tx_queue_drain_with_client e.drain cfg s.client_fd s.toio_t
          s.txq).1.data.link = {}
        rw [hdata.unopened hno]
        exact h.data hno
      · have hno : s.conf.fd = false := hconf.fd.symm.trans hfd
        show (bridge_loraham_tx_queue_drain_with_client e.drain cfg s.client_fd s.toio_t
            s.txq).1.conf.tx = [] ∧
          (bridge_loraham_tx_queue_drain_with_client e.drain cfg s.client_fd s.toio_t
            s.txq).1.conf.events = []
        rw [drain_conf_unopened cfg e.drain s.client_fd s.txq hno]
        exact h.conf hno
    unfold handle_drain_result
    split
    · exact drop_data_connected hdrained
    · split
      · exact drop_conf_connected hdrained
      · split
        · exact hdrained.congr rfl rfl
        · exact hdrained
  · -- CONF is opened, so there is nothing to say about it
    exact fun s hs _ => ⟨hs.data, fun hfd => absurd hfd (by simp [connect_conf])⟩
  · intro _ _ hconf hdata _
    refine ⟨fun hfd => absurd hfd ?_, ?_⟩
    · simp [reconnect_config, send_initial_config, connect_data]
    intro hfd
    have hno := (send_initial_config_conf cfg e.config s.conf).1.symm.trans hfd
    exact absurd (hconf.symm.trans hno) (by simp)
  · intro _ _ hconf hdata _
    have hfd := (send_initial_config_conf cfg e.config s.conf).1.trans hconf
    unfold pending_config send_initial_config
    dsimp only
    split
    · exact ⟨h.data, fun hno => absurd (hfd.symm.trans hno) (by simp)⟩
    · exact ⟨h.data, fun hno => absurd (hfd.symm.trans hno) (by simp)⟩
  · intro s hs hopen
    -- only an open CONF connection is read
    obtain ⟨state, events, hread⟩ := bridge_conf_read_available_frame e.conf s.conf
    refine ⟨hs.data, fun hfd => ?_⟩
    rw [hread] at hfd
    exact absurd (hopen.symm.trans hfd) (by simp)
  · intro b buf _ hfd _
    have hread : Connected (handle_data_bytes e.client_write (b :: buf) s).1 :=
      ⟨fun hno => absurd (hfd.symm.trans hno) (by simp), h.conf⟩
    unfold handle_chunk_result
    split
    · exact hread.congr rfl rfl
    · split
      · exact drop_data_connected hread
      · exact hread

/-- The loop starts with two fresh connections. -/
theorem bridge_start_connected (e : start_env) : Connected (bridge_start cfg e) := by
  unfold bridge_start
  dsimp only
  have hstart : ∀ ok : Bool, Connected
      { (send_initial_config e.config cfg { conf := { fd := e.conf_connect } }).1 with
        config_ok := ok
        data := { fd := e.data_connect } } := by
    intro ok
    refine ⟨fun _ => rfl, fun hfd => ?_⟩
    have hno : e.conf_connect = false :=
      (send_initial_config_conf cfg e.config { fd := e.conf_connect }).1.symm.trans hfd
    show (bridge_loraham_send_initial_config_with_state e.config cfg { fd := e.conf_connect }).1.tx
        = [] ∧ (bridge_loraham_send_initial_config_with_state e.config cfg
          { fd := e.conf_connect }).1.events = []
    rw [(send_initial_config_conf cfg e.config { fd := e.conf_connect }).2 hno]
    exact ⟨rfl, rfl⟩
  split
  · exact bridge_exit_connected (hstart _)
  · exact hstart _

/-- **A closed descriptor has no stream**, in every state of every run. -/
theorem bridge_run_connected (cfg : lhkt_config_t) (e : start_env) (es : List bridge_env) :
    Connected (bridge_run cfg e es) :=
  run_invariant (fun s e hs => bridge_step_connected cfg s e hs) es _ (bridge_start_connected e)

end LorahamKissTnc.Connections
