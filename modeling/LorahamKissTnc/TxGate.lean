/-
When a transmission may start: the transmit gate against the history of the CONF
connection.

The gate reads six flags of the parser state, and connects, disconnects and
configurations each reset some of them. `Tracks` says what the flags mean in
terms of the events on the connection now open: the lines handled on it and the
configurations started on it. Each of these events keeps `Tracks`, so the
snapshot taken when a transmission starts can be judged by its events alone.
-/
import LorahamKissTnc.OnAir
import Mathlib.Data.List.DropRight

set_option autoImplicit false

open LorahamKissTnc.Lib.CString LorahamKissTnc.Lib.Channel LorahamKissTnc.Lib.Machine
open LorahamKissTnc.Config LorahamKissTnc.LorahamSock LorahamKissTnc.BridgeConf
open LorahamKissTnc.BridgeTxQueue LorahamKissTnc.BridgeRx LorahamKissTnc.BridgeKiss
open LorahamKissTnc.BridgeLoraham LorahamKissTnc.Bridge LorahamKissTnc.OnAir

namespace LorahamKissTnc.TxGate

/-! ## What a history says -/

/-- The line of an event, if it is one. -/
def line_of_event : conf_event → Option Bytes
  | .line l => some l
  | .config => none

/-- The lines handled on the connection. -/
def lines (events : List conf_event) : List Bytes := events.filterMap line_of_event

/-- The lines handled since the last configuration was started, or since the
connection was opened. -/
def since_config (events : List conf_event) : List Bytes :=
  lines (events.rtakeWhile fun ev => ev ≠ .config)

/-- The transmit flag of a line: a `TX=` event, or the flag of a STATUS line. -/
def tx_flag (line : Bytes) : Option Bool :=
  match bridge_parse_flag_line line (ascii "TX=") with
  | some value => some value
  | none => if is_status line then bridge_status_flag_token line (ascii "TX=") else none

/-- The TXRESULT flag of a STATUS line. -/
def txresult_flag (line : Bytes) : Option Bool :=
  if is_status line then bridge_status_flag_token line (ascii "TXRESULT=") else none

/-- The last value a flag had. -/
def last_flag (flag : Bytes → Option Bool) (lines : List Bytes) : Option Bool :=
  (lines.filterMap flag).getLast?

/-- The last line decides, if it has the flag. -/
theorem last_flag_concat (flag : Bytes → Option Bool) (lines : List Bytes) (l : Bytes) :
    last_flag flag (lines ++ [l]) = (flag l).or (last_flag flag lines) := by
  unfold last_flag
  rw [List.filterMap_append]
  cases h : flag l with
  | none => simp [h]
  | some value => simp [h]

theorem lines_concat_line (events : List conf_event) (l : Bytes) :
    lines (events ++ [.line l]) = lines events ++ [l] := by
  unfold lines
  rw [List.filterMap_append]
  rfl

theorem lines_concat_config (events : List conf_event) :
    lines (events ++ [.config]) = lines events := by
  unfold lines
  rw [List.filterMap_append]
  exact List.append_nil _

theorem since_config_concat_line (events : List conf_event) (l : Bytes) :
    since_config (events ++ [.line l]) = since_config events ++ [l] := by
  unfold since_config
  rw [List.rtakeWhile_concat_pos _ _ _ (by simp), lines_concat_line]

theorem since_config_concat_config (events : List conf_event) :
    since_config (events ++ [.config]) = [] := by
  unfold since_config
  rw [List.rtakeWhile_concat_neg _ _ _ (by simp)]
  rfl

/-! ## The parser tracks it -/

/-- The flags of the parser state, in terms of the history of the connection. -/
structure Tracks (state : bridge_conf_state_t) (events : List conf_event) : Prop where
  tx_busy : state.tx_busy = (last_flag tx_flag (lines events)).getD false
  have_status : state.have_status = (since_config events).any is_status
  txresult : last_flag txresult_flag (since_config events)
    = if state.txresult_known then some state.txresult_enabled else none

/-- An event line is no STATUS line. -/
theorem not_status_of_flag_line {line key : Bytes} {value : Bool}
    (h : bridge_parse_flag_line line key = some value) (hkey : key.head? ≠ some (ch 'S'))
    (hne : key ≠ []) : is_status line = false := by
  unfold bridge_parse_flag_line at h
  split at h
  · exact nomatch h
  · rename_i hprefix
    have hprefix : key <+: line := by simpa using hprefix
    by_contra hstatus
    have hstatus : ascii "STATUS " <+: line := by simpa [is_status] using hstatus
    -- the two prefixes would have to agree in their first character
    obtain ⟨rest, rfl⟩ := hstatus
    obtain ⟨rest', heq⟩ := hprefix
    match key with
    | [] => exact hne rfl
    | k :: key =>
        have hS : ascii "STATUS " = ch 'S' :: ascii "TATUS " := by decide
        rw [hS, List.cons_append, List.cons_append] at heq
        exact hkey (congrArg some (List.cons.inj heq).1)

/-- What handling a line does to the flags of the gate. -/
theorem handle_line_flags (state : bridge_conf_state_t) (l : Bytes) :
    (bridge_conf_handle_line state l).tx_busy = (tx_flag l).getD state.tx_busy ∧
    (bridge_conf_handle_line state l).have_status = (is_status l || state.have_status) ∧
    (bridge_conf_handle_line state l).txresult_known
      = ((txresult_flag l).isSome || state.txresult_known) ∧
    (bridge_conf_handle_line state l).txresult_enabled
      = (txresult_flag l).getD state.txresult_enabled := by
  unfold bridge_conf_handle_line tx_flag txresult_flag
  by_cases hnil : l = []
  · subst hnil
    exact ⟨rfl, rfl, rfl, rfl⟩
  rw [if_neg hnil]
  -- the first two kinds of lines are event lines, which have no other flag
  cases htx : bridge_parse_flag_line l (ascii "TX=") with
  | some value =>
      rw [not_status_of_flag_line htx (by decide) (by decide)]
      exact ⟨rfl, rfl, rfl, rfl⟩
  | none =>
      cases hcad : bridge_parse_flag_line l (ascii "CAD=") with
      | some value =>
          rw [not_status_of_flag_line hcad (by decide) (by decide)]
          exact ⟨rfl, rfl, rfl, rfl⟩
      | none =>
          cases hstatus : is_status l with
          | true => exact ⟨rfl, rfl, rfl, rfl⟩
          | false => exact ⟨rfl, rfl, rfl, rfl⟩

theorem tracks_init : Tracks bridge_conf_state_init [] := ⟨rfl, rfl, rfl⟩

/-- A line is handled. -/
theorem Tracks.line {state : bridge_conf_state_t} {events : List conf_event}
    (h : Tracks state events) (l : Bytes) :
    Tracks { bridge_conf_handle_line state l with line := [] } (events ++ [.line l]) := by
  obtain ⟨hbusy, hstatus, hknown, henabled⟩ := handle_line_flags state l
  refine ⟨?_, ?_, ?_⟩
  · show (bridge_conf_handle_line state l).tx_busy = _
    rw [hbusy, h.tx_busy, lines_concat_line, last_flag_concat]
    cases tx_flag l <;> rfl
  · show (bridge_conf_handle_line state l).have_status = _
    rw [hstatus, h.have_status, since_config_concat_line, List.any_append, List.any_cons,
      List.any_nil, Bool.or_false, Bool.or_comm]
  · show _ = if (bridge_conf_handle_line state l).txresult_known then
      some (bridge_conf_handle_line state l).txresult_enabled else none
    rw [hknown, henabled, since_config_concat_line, last_flag_concat, h.txresult]
    cases txresult_flag l <;> rfl

/-- A configuration is started. -/
theorem Tracks.config {state : bridge_conf_state_t} {events : List conf_event}
    (h : Tracks state events) : Tracks (forget_status state) (events ++ [.config]) := by
  refine ⟨?_, ?_, ?_⟩
  · rw [lines_concat_config]
    exact h.tx_busy
  · rw [since_config_concat_config]
    rfl
  · rw [since_config_concat_config]
    rfl

/-- Reading CONF. -/
theorem Tracks.fed {c c' : conf_t} (h : Tracks c.state c.events) (hfed : Fed c c') :
    Tracks c'.state c'.events := by
  obtain ⟨chunks, rfl⟩ := hfed
  refine conf_feed_all_induction (P := Tracks) ?_ ?_ chunks c h
  · exact fun state events l h => h.line l
  · exact fun state events line discard h => ⟨h.tx_busy, h.have_status, h.txresult⟩

/-! ## The gate -/

/-- What must be the case when a transmission starts, in terms of the history. -/
structure Gated (cfg : lhkt_config_t) (st : tx_start) : Prop where
  rx_only : cfg.rx_only = false
  data_fd : st.data_fd = true
  conf_fd : st.conf_fd = true
  status : ∃ l ∈ since_config st.events, is_status l = true
  txresult : ∀ value, last_flag txresult_flag (since_config st.events) = some value → value = true
  tx_idle : ∀ value, last_flag tx_flag (lines st.events) = some value → value = false
  age : 0 < cfg.tx_packet_ttl_ms → st.now - st.queued_ms < cfg.tx_packet_ttl_ms

/-- The flags the code checks are enough. -/
theorem gated_of_gate {cfg : lhkt_config_t} {s : io_t} {item : bridge_tx_item_t} {now : Int}
    (hrx : cfg.rx_only = false) (h : Tracks s.conf.state s.conf.events)
    (hgate : Gate cfg s item now) :
    Gated cfg ⟨item.packet, item.queued_ms, now, s.data.fd, s.conf.fd, s.conf.events⟩ := by
  refine ⟨hrx, hgate.data_fd, hgate.conf_fd, ?_, ?_, ?_, hgate.age⟩
  · have hany := h.have_status.symm.trans hgate.have_status
    exact List.any_eq_true.mp hany
  · intro value hvalue
    have hlast := hvalue.symm.trans h.txresult
    split at hlast
    · rename_i hknown
      exact (Option.some.inj hlast).trans (hgate.txresult hknown)
    · exact nomatch hlast
  · intro value hvalue
    have hbusy := h.tx_busy.symm.trans hgate.tx_idle
    rw [show last_flag tx_flag (lines s.conf.events) = some value from hvalue] at hbusy
    exact hbusy

/-- The invariant of the main loop. -/
structure Watched (cfg : lhkt_config_t) (c : conf_t) (q : txq_t) : Prop where
  tracks : c.fd = true → Tracks c.state c.events
  airworthy : Airworthy cfg q
  starts : ∀ st ∈ q.starts, Gated cfg st

/-- **A drain** starts a transmission behind the gate only. -/
theorem drain_watched (e : drain_env) {cfg : lhkt_config_t} (client_fd : Bool) (s : io_t)
    (q : txq_t) (h : Watched cfg s.conf q) :
    Watched cfg (bridge_loraham_tx_queue_drain_with_client e cfg client_fd s q).1.conf
      (bridge_loraham_tx_queue_drain_with_client e cfg client_fd s q).2.1 := by
  refine drain_elim (I := fun s q => Watched cfg s.conf q)
    (P := fun r => Watched cfg r.1.conf r.2.1) e cfg client_fd s q h ?_ ?_ ?_
    (fun _ _ _ h _ => h) ?_
  · intro s q read h hopen
    exact ⟨fun _ => (h.tracks hopen).fed (fed_read_available read s.conf), h.airworthy, h.starts⟩
  · exact fun s q item item' h hitem hpacket _ =>
      ⟨h.tracks, h.airworthy.set_head hitem hpacket, h.starts⟩
  · exact fun s q item h hitem => ⟨h.tracks, h.airworthy.pop hitem .dropped, h.starts⟩
  · intro s q item now s' ret written h hitem hgate _ hsend
    show Watched cfg s'.conf (tx_finished (tx_started q s item now) item ret written)
    have htracks := h.tracks hgate.conf_fd
    -- the gate is looked at when the transmission starts
    have hgated := gated_of_gate (h.airworthy.rx_only_false hitem) htracks hgate
    have hstarted : Airworthy cfg (tx_started q s item now) :=
      h.airworthy.congr h.airworthy.accounted rfl
    have hstarts : ∀ st ∈ (tx_started q s item now).starts, Gated cfg st := by
      intro st hst
      rcases List.mem_append.mp hst with hst | hst
      · exact h.starts st hst
      · rw [List.mem_singleton.mp hst]
        exact hgated
    -- and the events read while it goes on are tracked as well
    have htracks' : Tracks s'.conf.state s'.conf.events := by
      obtain ⟨c', _, _, hfed, hconf⟩ :=
        send_packet_conf_frame e.send cfg client_fd item.packet s
      rw [hsend] at hconf
      have hconf : s'.conf = _ := hconf
      have hread : Tracks c'.state c'.events := htracks.fed hfed
      rw [hconf]
      exact hread
    unfold tx_finished
    split
    · exact ⟨fun _ => htracks', hstarted.pop hitem .sent, hstarts⟩
    · exact ⟨fun _ => htracks', hstarted, hstarts⟩

/-! ## The main loop -/

/-- On a closed connection there is nothing to track. -/
theorem Watched.closed {cfg : lhkt_config_t} {c c' : conf_t} {q : txq_t} (h : Watched cfg c q)
    (hfd : c'.fd = false) : Watched cfg c' q :=
  ⟨fun hopen => absurd (hfd ▸ hopen) Bool.false_ne_true, h.airworthy, h.starts⟩

/-- Giving up CONF leaves nothing to track. -/
theorem drop_conf_watched {cfg : lhkt_config_t} {s : bridge_t} (h : Watched cfg s.conf s.txq) :
    Watched cfg (drop_conf s).conf (drop_conf s).txq := by
  unfold drop_conf bridge_loraham_disconnect_conf_socket
  split
  · exact h
  · exact h.closed rfl

/-- A configuration is an event of the connection, whatever becomes of it. -/
theorem send_initial_config_watched {cfg : lhkt_config_t} (e : config_env) {c : conf_t} {q : txq_t}
    (h : Watched cfg c q) :
    Watched cfg (bridge_loraham_send_initial_config_with_state e cfg c).1 q := by
  unfold bridge_loraham_send_initial_config_with_state
  split
  · exact h
  · rename_i hfd
    have hconfig := (h.tracks (by simpa using hfd)).config
    dsimp only
    split
    · exact ⟨fun _ => hconfig, h.airworthy, h.starts⟩
    · split
      · exact ⟨fun _ => hconfig, h.airworthy, h.starts⟩
      · split <;> exact ⟨fun _ => hconfig, h.airworthy, h.starts⟩

/-- Leaving the loop leaves nothing to track. -/
theorem bridge_exit_watched {cfg : lhkt_config_t} {s : bridge_t} (h : Watched cfg s.conf s.txq) :
    Watched cfg (bridge_exit s).conf (bridge_exit s).txq := by
  rw [bridge_exit_conf, bridge_exit_txq]
  unfold close_conf
  split
  · exact h.closed rfl
  · exact h

/-- What the loop makes of the result of a drain starts no transmission. -/
theorem handle_drain_result_watched {cfg : lhkt_config_t} {s : bridge_t} (ret : Lhkt)
    (h : Watched cfg s.conf s.txq) :
    Watched cfg (handle_drain_result ret s).conf (handle_drain_result ret s).txq := by
  unfold handle_drain_result
  split
  · rw [drop_data_conf]
    exact h
  · split
    · exact drop_conf_watched h
    · split <;> exact h

/-- A frame of the client starts nothing. -/
theorem bridge_kiss_handle_frame_starts (frame kiss_params) (cfg : lhkt_config_t) (now : Int)
    (stats : lhkt_stats_t) (q : txq_t) :
    (bridge_kiss_handle_frame frame kiss_params cfg now stats q).2.2.1.starts = q.starts := by
  rcases bridge_kiss_handle_frame_cases frame kiss_params cfg now stats q with
    hq | ⟨_, _, _, _, _, _, _, _, _, _, _, hq⟩
  · rw [hq]
  · rw [hq]

/-- One step of the main loop. -/
theorem bridge_step_watched (cfg : lhkt_config_t) (s : bridge_t) (e : bridge_env)
    (h : Watched cfg s.conf s.txq) :
    Watched cfg (bridge_step cfg s e).conf (bridge_step cfg s e).txq := by
  refine bridge_step_elim (P := fun s => Watched cfg s.conf s.txq) cfg s e h ?_
    (fun _ => bridge_exit_watched) (fun _ hs => hs) ?_ (fun _ => drop_conf_watched) ?_ ?_ ?_ ?_
    (fun _ hs _ => hs) ?_ ?_ ?_
  · rintro s _ ⟨_, _, _, _, _, _, _, rfl⟩ hs
    exact hs
  · intro s hs
    rw [drop_data_conf]
    exact hs
  · exact fun _ _ => handle_drain_result_watched _
      (drain_watched e.drain s.client_fd s.toio_t s.txq h)
  · -- a new CONF connection starts with no event and the initial state
    exact fun s hs _ => ⟨fun _ => tracks_init, hs.airworthy, hs.starts⟩
  · exact fun _ _ _ _ _ => send_initial_config_watched e.config h
  · intro _ _ _ _ _
    have hsent := send_initial_config_watched e.config h
    unfold pending_config
    dsimp only
    split <;> exact hsent
  · intro s frame stats now hs
    refine ⟨hs.tracks, hs.airworthy.push frame s.kiss_params now stats, ?_⟩
    rw [bridge_kiss_handle_frame_starts]
    exact hs.starts
  · exact fun s hs hopen => ⟨fun _ => (hs.tracks hopen).fed (fed_read_available e.conf s.conf),
      hs.airworthy, hs.starts⟩
  · intro b buf _ _ _
    have hread : Watched cfg (handle_data_bytes e.client_write (b :: buf) s).1.conf
        (handle_data_bytes e.client_write (b :: buf) s).1.txq := h
    unfold handle_chunk_result
    split
    · exact hread
    · split
      · rw [drop_data_conf]
        exact hread
      · exact hread

/-- At the start the CONF state is fresh, and no packet has started. -/
theorem bridge_start_watched (cfg : lhkt_config_t) (e : start_env) :
    Watched cfg (bridge_start cfg e).conf (bridge_start cfg e).txq := by
  have hinit : Watched cfg { fd := e.conf_connect } {} :=
    ⟨fun _ => tracks_init, ⟨rfl, fun _ ha => absurd ha List.not_mem_nil, fun _ => rfl⟩,
      fun _ hst => absurd hst List.not_mem_nil⟩
  have hsent := send_initial_config_watched e.config hinit
  unfold bridge_start
  dsimp only
  split
  · exact bridge_exit_watched hsent
  · exact hsent

/-- **The transmit gate.** In every run, every transmission that was ever started
was started outside RX-only mode, with both connections open, behind a STATUS
line handled on the CONF connection since it was opened and last configured; the
last TXRESULT flag since then, if any, was 1; the last transmit flag on the
connection, if any, was idle; and the packet had not reached its TTL. -/
theorem transmissions_gated (cfg : lhkt_config_t) (httl : 0 < cfg.tx_packet_ttl_ms)
    (e : start_env) (es : List bridge_env) :
    ∀ st ∈ (bridge_run cfg e es).txq.starts,
      cfg.rx_only = false ∧ st.data_fd = true ∧ st.conf_fd = true ∧
      (∃ l ∈ since_config st.events, is_status l = true) ∧
      (∀ value, last_flag txresult_flag (since_config st.events) = some value → value = true) ∧
      (∀ value, last_flag tx_flag (lines st.events) = some value → value = false) ∧
      st.now - st.queued_ms < cfg.tx_packet_ttl_ms := by
  have hrun : Watched cfg (bridge_run cfg e es).conf (bridge_run cfg e es).txq :=
    run_invariant (P := fun s => Watched cfg s.conf s.txq)
      (fun s e hs => bridge_step_watched cfg s e hs) es _ (bridge_start_watched cfg e)
  intro st hst
  have h := hrun.starts st hst
  exact ⟨h.rx_only, h.data_fd, h.conf_fd, h.status, h.txresult, h.tx_idle, h.age httl⟩

/-- The packet of a client is sent behind one STATUS line. -/
theorem transmissions_gated_status :
    let s := bridge_run lhkt_config_defaults {} (iteration client_connects ++
      iteration (packet_arrives (ascii "x") status_ready) ++ [({} : bridge_env)])
    s.txq.starts.map (fun st => since_config st.events) = [[status_ready]] ∧
      ∀ st ∈ s.txq.starts, st.now - st.queued_ms < lhkt_config_defaults.tx_packet_ttl_ms :=
  ⟨by decide +kernel, fun st hst =>
    (transmissions_gated lhkt_config_defaults (by decide) _ _ st hst).2.2.2.2.2.2⟩

end LorahamKissTnc.TxGate
