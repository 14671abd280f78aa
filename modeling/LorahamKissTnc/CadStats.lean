/-
What becomes of the CAD events: the lines `CAD=1` and `CAD=0` of the daemon, and
the counters `cad_busy_events` and `cad_idle_events`.

The parser counts the lines of one connection, and the main loop collects what
was counted into the counters, with a mark on how far it is. For either value
this is a meter (`meter`): reading CONF ticks it, giving up the connection
restarts it, and everything else leaves it alone (`Quiet`). The loop collects
behind every drain and behind a read of CONF that ends well. When the drain or
the read ends the connection, it is restarted first, and the lines handled since
the last collection are in no counter.

So a run counts every line once, but for the lines handled in a step that gives
up CONF (`cad_events_add_lost`).
-/
import LorahamKissTnc.Lib.Counter
import LorahamKissTnc.TxGate

set_option autoImplicit false

open LorahamKissTnc.Lib.CString LorahamKissTnc.Lib.Channel LorahamKissTnc.Lib.Machine
open LorahamKissTnc.Lib.Counter LorahamKissTnc.Config LorahamKissTnc.Kiss LorahamKissTnc.LorahamSock
open LorahamKissTnc.BridgeConf LorahamKissTnc.BridgeTxQueue LorahamKissTnc.BridgeRx
open LorahamKissTnc.BridgeKiss LorahamKissTnc.BridgeLoraham LorahamKissTnc.Bridge
open LorahamKissTnc.TxGate

namespace LorahamKissTnc.CadStats

/-! ## The meters -/

/-- The event line of a value. -/
def cad_line (value : Bool) : Bytes := if value then ascii "CAD=1" else ascii "CAD=0"

/-- The counter of a value. -/
def cad_events (value : Bool) (stats : lhkt_stats_t) : Nat :=
  if value then stats.cad_busy_events else stats.cad_idle_events

/-- The lines of a value on the connection. -/
def cad_seq (value : Bool) (state : bridge_conf_state_t) : Nat :=
  if value then state.cad_busy_seq else state.cad_idle_seq

/-- The mark of the main loop. -/
def cad_seen (value : Bool) (cad : cad_seen_t) : Nat :=
  if value then cad.busy_seq else cad.idle_seq

/-- The three of them. -/
def meter (value : Bool) (s : bridge_t) : Meter :=
  ⟨cad_seq value s.conf.state, cad_seen value s.cad, cad_events value s.rx.stats⟩

theorem meter_collect (value : Bool) (s : bridge_t) :
    meter value (collect_cad_stats s) = (meter value s).collect := by
  cases value <;> rfl

/-! ## Lines -/

/-- A line sets the CAD flag if it is exactly one of the two CAD lines. -/
theorem parse_cad_line_iff (l : Bytes) (value : Bool) :
    bridge_parse_flag_line l (ascii "CAD=") = some value ↔ l = cad_line value := by
  constructor
  · intro h
    unfold bridge_parse_flag_line at h
    split at h
    · exact nomatch h
    · rename_i hprefix
      have hprefix : ascii "CAD=" <+: l := by simpa using hprefix
      obtain ⟨rest, rfl⟩ := hprefix
      rw [List.drop_left] at h
      split at h
      · rename_i hrest
        rw [hrest, ← Option.some.inj h]
        decide
      · split at h
        · rename_i hrest
          rw [hrest, ← Option.some.inj h]
          decide
        · exact nomatch h
  · rintro rfl
    cases value <;> decide

/-- Handling a line counts it under its value. -/
theorem cad_seq_handle_line (value : Bool) (state : bridge_conf_state_t) (l : Bytes) :
    cad_seq value (bridge_conf_handle_line state l)
      = cad_seq value state + [l].count (cad_line value) := by
  have hcount : [l].count (cad_line value) = if l = cad_line value then 1 else 0 := by
    rw [List.count_singleton]
    simp
  rw [hcount]
  by_cases hcad : ∃ v, l = cad_line v
  · -- a CAD line is no other line
    obtain ⟨v, rfl⟩ := hcad
    cases value <;> cases v <;> rfl
  · have hne : ∀ v, l ≠ cad_line v := fun v h => hcad ⟨v, h⟩
    have hparse : bridge_parse_flag_line l (ascii "CAD=") = none := by
      by_contra hsome
      obtain ⟨v, hv⟩ := Option.ne_none_iff_exists'.mp hsome
      exact hne v ((parse_cad_line_iff l v).mp hv)
    rw [if_neg (hne value), Nat.add_zero]
    unfold bridge_conf_handle_line
    by_cases hnil : l = []
    · rw [if_pos hnil]
    · rw [if_neg hnil, hparse]
      cases bridge_parse_flag_line l (ascii "TX=") with
      | some _ => rfl
      | none => cases is_status l <;> rfl

/-- The lines handled between two states of a connection. -/
def new_lines (c c' : conf_t) : List Bytes := lines (c'.events.drop c.events.length)

/-- From `c` to `c'` CONF was read, if it is open: the connection stays what it is,
the events are continued, and the new lines are counted. -/
structure Reads (c c' : conf_t) : Prop where
  fd : c'.fd = c.fd
  events : c.events <+: c'.events
  closed : c.fd = false → c'.events = c.events
  seq : ∀ value, cad_seq value c'.state
    = cad_seq value c.state + (new_lines c c').count (cad_line value)

theorem Reads.refl (c : conf_t) : Reads c c := by
  refine ⟨rfl, List.prefix_refl _, fun _ => rfl, fun value => ?_⟩
  rw [new_lines, List.drop_length]
  rfl

/-- Lines are handled in the order in which they are read. -/
theorem new_lines_trans {c c' c'' : conf_t} (h : c.events <+: c'.events)
    (h' : c'.events <+: c''.events) : new_lines c c'' = new_lines c c' ++ new_lines c' c'' := by
  obtain ⟨first, hfirst⟩ := h
  obtain ⟨second, hsecond⟩ := h'
  unfold new_lines lines
  rw [← hsecond, ← hfirst, List.append_assoc, List.drop_left, List.drop_left, ← List.append_assoc,
    List.drop_left, List.filterMap_append]

/-- Reads after each other count the lines of both. -/
theorem Reads.trans {c c' c'' : conf_t} (h : Reads c c') (h' : Reads c' c'') : Reads c c'' := by
  refine ⟨h'.fd.trans h.fd, h.events.trans h'.events, fun hfd => ?_, fun value => ?_⟩
  · rw [h'.closed (h.fd.trans hfd), h.closed hfd]
  · rw [h'.seq, h.seq, new_lines_trans h.events h'.events, List.count_append, Nat.add_assoc]

/-- Commands are not read. -/
theorem Reads.commands {c c' : conf_t} (h : Reads c c') (tx : List (Sent UInt8))
    (freqs : List ℚ) : Reads c { c' with tx := tx, freqs := freqs } :=
  ⟨h.fd, h.events, h.closed, h.seq⟩

/-- What is fed on an open connection is a read. -/
theorem Reads.of_fed {c c' : conf_t} (hopen : c.fd = true) (h : Fed c c') : Reads c c' := by
  obtain ⟨chunks, rfl⟩ := h
  have hfd : (chunks.foldl conf_t.feed c).fd = c.fd := by
    obtain ⟨_, _, hframe⟩ := conf_feed_all_frame chunks c
    rw [hframe]
  have hread := conf_feed_all_induction
    (P := fun state events => c.events <+: events ∧ ∀ value, cad_seq value state
      = cad_seq value c.state + (lines (events.drop c.events.length)).count (cad_line value))
    ?_ (fun state events line discard h => h) chunks c
    ⟨List.prefix_refl _, fun value => by rw [List.drop_length]; rfl⟩
  · exact ⟨hfd, hread.1, fun hclosed => absurd (hclosed ▸ hopen) Bool.false_ne_true, hread.2⟩
  · -- one more line is handled: it is the last of the new ones
    rintro state events l ⟨hevents, hseq⟩
    refine ⟨hevents.trans (List.prefix_append _ _), fun value => ?_⟩
    show cad_seq value (bridge_conf_handle_line state l) = _
    rw [cad_seq_handle_line, hseq, List.drop_append_of_le_length hevents.length_le,
      lines_concat_line, List.count_append, Nat.add_assoc]

/-! ## A transmission leaves the counters alone -/

/-- No other counter is one of the two CAD counters. -/
@[simp] theorem cad_events_incr (value : Bool) (stats : lhkt_stats_t) (counter : lhkt_counter) :
    cad_events value (stats.incr counter) = cad_events value stats := by
  cases counter <;> rfl

/-- No counter that the bridge counts up on its way is one of the two CAD counters. -/
@[simp] theorem cad_events_count (value : Bool) (s : io_t) (counter : lhkt_counter) :
    cad_events value (s.count counter).rx.stats = cad_events value s.rx.stats :=
  cad_events_incr value s.rx.stats counter

@[simp] theorem cad_events_log_tx (value : Bool) (s : io_t) (outcome : rflog_outcome)
    (packet : Bytes) :
    cad_events value (s.log_tx outcome packet).rx.stats = cad_events value s.rx.stats := rfl

@[simp] theorem cad_events_record (value : Bool) (s : io_t) (kind : record_kind) (packet : Bytes) :
    cad_events value (s.record kind packet).rx.stats = cad_events value s.rx.stats := rfl

/-- Receiving a packet leaves the CAD counters. -/
theorem rxInvariant_cad_events (value : Bool) (n : Nat) :
    RxInvariant (fun c => cad_events value c.stats = n) where
  counted := fun c counter _ h => (cad_events_incr value c.stats counter).trans h
  written := fun _ _ h => h
  logged := fun _ _ _ _ h => h

@[simp] theorem cad_events_sleep (value : Bool) (ms : Int) (signal : Bool) (s : io_t) :
    cad_events value (bridge_runtime_sleep_ms ms signal s).1.rx.stats
      = cad_events value s.rx.stats := by
  obtain ⟨stop, hsleep⟩ := bridge_runtime_sleep_ms_frame ms signal s
  rw [hsleep]

@[simp] theorem cad_events_restore (value : Bool) (e : restore_env) (cfg : lhkt_config_t)
    (s : io_t) :
    cad_events value (bridge_loraham_restore_rx_freq e cfg s).1.rx.stats
      = cad_events value s.rx.stats := by
  unfold bridge_loraham_restore_rx_freq
  split
  · rfl
  · split
    · rfl
    · dsimp only
      generalize bridge_loraham_send_config_freq e.first cfg cfg.rx_freq s.conf = r
      split
      · rfl
      · split
        · simp
        · split
          · simp
          · simp

@[simp] theorem cad_events_tx_prepare (value : Bool) (e : send_env) (cfg : lhkt_config_t)
    (s : io_t) :
    cad_events value (tx_prepare e cfg s).1.rx.stats = cad_events value s.rx.stats := by
  unfold tx_prepare
  split
  · rfl
  · dsimp only
    split
    · simp
    · split <;> simp

/-- A wait for the TX_RESULT leaves the CAD counters. -/
@[simp] theorem cad_events_tx_confirm_result (value : Bool) (e : send_env) (cfg : lhkt_config_t)
    (client_fd : Bool) (packet : Bytes) (s : io_t) :
    cad_events value (tx_confirm_result e cfg client_fd packet s).1.rx.stats
      = cad_events value s.rx.stats := by
  have hwait := rxInvariant_wait_tx_result (rxInvariant_cad_events value _) e.result cfg client_fd
    (s := s) rfl
  unfold tx_confirm_result
  split
  · rename_i s' _ _ heq
    rw [heq] at hwait
    rw [← hwait]
    simp [tx_result_missing]
  · rename_i s' _ result heq
    rw [heq] at hwait
    rw [← hwait]
    have hlogged : cad_events value (tx_result_logged packet result s').rx.stats
        = cad_events value s'.rx.stats := by
      unfold tx_result_logged
      split <;> rfl
    unfold tx_result_received
    dsimp only
    split
    · rw [cad_events_restore, hlogged]
    · split <;> simp [hlogged]

/-- A wait for the CONF events leaves the CAD counters: they are collected by the loop.
-/
@[simp] theorem cad_events_tx_confirm_events (value : Bool) (e : send_env) (cfg : lhkt_config_t)
    (packet : Bytes) (s : io_t) :
    cad_events value (tx_confirm_events e cfg packet s).1.rx.stats
      = cad_events value s.rx.stats := by
  have hwaited : cad_events value (tx_events_waited e cfg packet s).rx.stats
      = cad_events value s.rx.stats := by
    obtain ⟨stop, c', _, hwait⟩ := bridge_loraham_wait_tx_complete_frame e.complete cfg s
    unfold tx_events_waited
    dsimp only
    rw [hwait]
    split <;> simp
  unfold tx_confirm_events
  dsimp only
  split <;> simp [hwaited]

/-- The state behind the write. -/
theorem cad_events_written (value : Bool) {e : send_env} {cfg : lhkt_config_t} {packet : Bytes}
    {s s₁ s₂ : io_t} {ret : Lhkt} (hprep : tx_prepare e cfg s = (s₁, .OK))
    (hwrite : bridge_loraham_write e packet s₁ = (s₂, ret)) :
    cad_events value s₂.rx.stats = cad_events value s.rx.stats := by
  have hprepared := cad_events_tx_prepare value e cfg s
  rw [hprep] at hprepared
  rw [← (Prod.mk.inj hwrite).1]
  exact hprepared

/-- **A transmission** leaves the CAD counters, on every path. -/
theorem cad_events_send_packet (value : Bool) (e : send_env) (cfg : lhkt_config_t)
    (client_fd : Bool) (packet : Bytes) (s : io_t) :
    cad_events value (bridge_loraham_send_packet_with_client e cfg client_fd packet s).1.rx.stats
      = cad_events value s.rx.stats := by
  apply send_packet_elim (P := fun r => cad_events value r.1.rx.stats = cad_events value s.rx.stats)
    e cfg client_fd packet s
  · rintro s' _ (rfl | rfl) _
    · rfl
    · exact cad_events_count value s .loraham_drop
  · intro s₁ _ hprep _
    have hprepared := cad_events_tx_prepare value e cfg s
    rw [hprep] at hprepared
    exact hprepared
  · intro s₁ s₂ _ hprep hwrite _
    rw [← cad_events_written value hprep hwrite]
    simp [tx_write_failed]
  · intro s₁ s₂ hprep hwrite _
    rw [cad_events_tx_confirm_result, cad_events_written value hprep hwrite]
  · intro s₁ s₂ hprep hwrite _
    rw [cad_events_tx_confirm_events, cad_events_written value hprep hwrite]

/-! ## The parts of the loop

Every part of the loop does one of three things to the meters: it ticks them, it
restarts them, or it leaves them alone. -/

/-- The connection is as open as before, and the meters are as before. -/
structure Quiet (s s' : bridge_t) : Prop where
  fd : s'.conf.fd = s.conf.fd
  meter : ∀ value, meter value s' = meter value s

theorem Quiet.refl (s : bridge_t) : Quiet s s := ⟨rfl, fun _ => rfl⟩

theorem Quiet.trans {s s' s'' : bridge_t} (h : Quiet s s') (h' : Quiet s' s'') : Quiet s s'' :=
  ⟨h'.fd.trans h.fd, fun value => (h'.meter value).trans (h.meter value)⟩

/-- CONF was read: the new lines tick the meters. -/
structure Ticks (s s' : bridge_t) : Prop where
  reads : Reads s.conf s'.conf
  cad : s'.cad = s.cad
  events : ∀ value, cad_events value s'.rx.stats = cad_events value s.rx.stats

/-- On the meters, a step that reads is as many ticks as there are new CAD lines. -/
theorem Ticks.meter {s s' : bridge_t} (h : Ticks s s') (value : Bool) :
    meter value s'
      = (meter value s).tick ((new_lines s.conf s'.conf).count (cad_line value)) := by
  ext
  · exact h.reads.seq value
  · show cad_seen value s'.cad = cad_seen value s.cad
    rw [h.cad]
  · exact h.events value

/-- **A drain** reads CONF and sends. -/
theorem ticks_drain (cfg : lhkt_config_t) (e : bridge_env) (s : bridge_t) :
    Ticks s (bridge_drain cfg e s).1 := by
  have hdrain : Reads s.conf
        (bridge_loraham_tx_queue_drain_with_client e.drain cfg s.client_fd s.toio_t s.txq).1.conf ∧
      ∀ value, cad_events value (bridge_loraham_tx_queue_drain_with_client e.drain cfg s.client_fd
        s.toio_t s.txq).1.rx.stats = cad_events value s.rx.stats := by
    apply drain_elim
      (I := fun t _ => Reads s.conf t.conf ∧
        ∀ value, cad_events value t.rx.stats = cad_events value s.rx.stats)
      (P := fun r => Reads s.conf r.1.conf ∧
        ∀ value, cad_events value r.1.rx.stats = cad_events value s.rx.stats)
      e.drain cfg s.client_fd s.toio_t s.txq ⟨Reads.refl _, fun _ => rfl⟩
    · -- CONF is read for each head, before it is decided what becomes of it
      rintro t _ read ⟨hreads, hevents⟩ hopen
      exact ⟨hreads.trans (Reads.of_fed hopen (fed_read_available read t.conf)), hevents⟩
    · exact fun _ _ _ _ h _ _ _ => h
    · rintro t _ _ ⟨hreads, hevents⟩ _
      exact ⟨hreads, fun value => (cad_events_count value t .loraham_drop).trans (hevents value)⟩
    · exact fun _ _ _ h _ => h
    · rintro t _ item _ t' _ _ ⟨hreads, hevents⟩ _ hgate _ hsend
      -- a transmission reads CONF while it waits for the result
      obtain ⟨c', tx, freqs, hfed, hconf⟩ :=
        send_packet_conf_frame e.drain.send cfg s.client_fd item.packet t
      have hsent := fun value =>
        cad_events_send_packet value e.drain.send cfg s.client_fd item.packet t
      rw [hsend] at hconf hsent
      refine ⟨?_, fun value => (hsent value).trans (hevents value)⟩
      show Reads s.conf t'.conf
      rw [show t'.conf = _ from hconf]
      exact (hreads.trans (Reads.of_fed hgate.conf_fd hfed)).commands tx freqs
  exact ⟨hdrain.1, rfl, hdrain.2⟩

/-- Reading CONF in the loop. -/
theorem ticks_read (e : conf_read_env) {s : bridge_t} (hopen : s.conf.fd = true) :
    Ticks s { s with conf := (bridge_conf_read_available e s.conf).1 } :=
  ⟨Reads.of_fed hopen (fed_read_available e s.conf), rfl, fun _ => rfl⟩

/-- No line is handled: the meters stay, or CONF is given up and they restart. -/
def Calm (s s' : bridge_t) : Prop :=
  Quiet s s' ∨ s'.conf.fd = false ∧ ∀ value, meter value s' = (meter value s).restart

/-- Calm steps after each other: once CONF is closed, it stays closed. -/
theorem Calm.trans {s s' s'' : bridge_t} (h : Calm s s') (h' : Calm s' s'') : Calm s s'' := by
  rcases h with h | ⟨hfd, h⟩
  · rcases h' with h' | ⟨hfd', h'⟩
    · exact .inl (h.trans h')
    · exact .inr ⟨hfd', fun value => (h' value).trans (by rw [h.meter])⟩
  · refine .inr ?_
    rcases h' with h' | ⟨hfd', h'⟩
    · exact ⟨h'.fd.trans hfd, fun value => (h'.meter value).trans (h value)⟩
    · exact ⟨hfd', fun value => (h' value).trans (by rw [h]; rfl)⟩

/-- A calm step loses no event. -/
theorem Calm.total {s s' : bridge_t} (h : Calm s s') (value : Bool) :
    (meter value s').total = (meter value s).total := by
  rcases h with h | ⟨_, h⟩
  · rw [h.meter]
  · rw [h]
    rfl

/-- A closed connection has no counts. -/
def Silent (s : bridge_t) : Prop := s.conf.fd = false → ∀ value, (meter value s).count = 0

theorem silent_collect {s : bridge_t} (h : Silent s) : Silent (collect_cad_stats s) := h

/-- A calm step keeps a closed connection without counts. -/
theorem Calm.silent {s s' : bridge_t} (h : Calm s s') (hs : Silent s) : Silent s' := by
  intro hfd value
  rcases h with h | ⟨_, h⟩
  · rw [h.meter]
    exact hs (h.fd.symm.trans hfd) value
  · rw [h]
    rfl

/-- Giving up CONF restarts the meters, if it is open. -/
theorem drop_conf_calm (s : bridge_t) : (drop_conf s).conf.fd = false ∧ Calm s (drop_conf s) := by
  unfold drop_conf bridge_loraham_disconnect_conf_socket
  by_cases hfd : s.conf.fd = false
  · rw [if_pos (by simpa using hfd)]
    exact ⟨hfd, .inl ⟨rfl, fun _ => rfl⟩⟩
  · rw [if_neg (by simpa using hfd)]
    refine ⟨rfl, .inr ⟨rfl, fun value => ?_⟩⟩
    ext
    · cases value <;> rfl
    · rfl
    · exact cad_events_incr value s.rx.stats .socket_reconnects

/-- CONF and the marks stay, and so do the counters. -/
theorem quiet_of_eq {s s' : bridge_t} (hconf : s'.conf = s.conf) (hcad : s'.cad = s.cad)
    (hevents : ∀ value, cad_events value s'.rx.stats = cad_events value s.rx.stats) :
    Quiet s s' := by
  refine ⟨by rw [hconf], fun value => ?_⟩
  ext
  · show cad_seq value s'.conf.state = _
    rw [hconf]
    rfl
  · show cad_seen value s'.cad = _
    rw [hcad]
    rfl
  · exact hevents value

/-- Giving up DATA leaves CONF and the meters. -/
theorem quiet_drop_data (s : bridge_t) : Quiet s (drop_data s) := by
  refine quiet_of_eq (drop_data_conf s) rfl fun value => ?_
  unfold drop_data bridge_loraham_disconnect_data_socket
  dsimp only
  split
  · rfl
  · exact cad_events_incr value s.rx.stats .socket_reconnects

theorem quiet_close_client (s : bridge_t) : Quiet s (close_client s) := ⟨rfl, fun _ => rfl⟩

theorem quiet_count (s : bridge_t) (counter : lhkt_counter) :
    Quiet s { s with rx := s.rx.count counter } :=
  quiet_of_eq rfl rfl fun value => cad_events_incr value s.rx.stats counter

/-- A configuration asks for a new STATUS line; the counts of the connection go on. -/
theorem quiet_send_initial_config (e : config_env) (cfg : lhkt_config_t) (s : bridge_t) :
    Quiet s (send_initial_config e cfg s).1 := by
  unfold send_initial_config bridge_loraham_send_initial_config_with_state
  dsimp only
  split
  · exact ⟨rfl, fun _ => rfl⟩
  · split
    · exact ⟨rfl, fun _ => rfl⟩
    · split
      · exact ⟨rfl, fun _ => rfl⟩
      · split <;> exact ⟨rfl, fun _ => rfl⟩

/-- A KISS frame leaves the CAD counters, whatever becomes of it. -/
theorem cad_events_kiss_handle_frame (value : Bool) (frame : kiss_frame_t)
    (kiss_params : kiss_params_t) (cfg : lhkt_config_t) (now : Int) (stats : lhkt_stats_t)
    (q : txq_t) :
    cad_events value (bridge_kiss_handle_frame frame kiss_params cfg now stats q).2.1
      = cad_events value stats := by
  unfold bridge_kiss_handle_frame
  dsimp only
  split
  · split
    · simp
    · unfold bridge_kiss_handle_data_frame
      split
      · simp
      · dsimp only
        split
        · simp
        · split
          · split <;> simp
          · split
            · simp
            · split <;> simp
  · rfl

theorem calm_handle_client_byte (cfg : lhkt_config_t) (now : Int) (b : UInt8) (s : bridge_t) :
    Calm s (handle_client_byte cfg now b s) := by
  unfold handle_client_byte
  split
  · rename_i kiss_dec frame _
    dsimp only
    -- the frame is handled before a socket is given up
    have hframe := fun value => (cad_events_kiss_handle_frame value frame s.kiss_params cfg now
      (s.rx.stats.incr .kiss_rx) s.txq).trans (cad_events_incr value s.rx.stats .kiss_rx)
    generalize bridge_kiss_handle_frame frame s.kiss_params cfg now (s.rx.stats.incr .kiss_rx) s.txq
      = r at hframe ⊢
    have hquiet : Quiet s { s with
        kiss_dec := kiss_dec
        kiss_params := r.1
        rx := { s.rx with stats := r.2.1 }
        txq := r.2.2.1 } := quiet_of_eq rfl rfl hframe
    split
    · exact .inl (hquiet.trans (quiet_drop_data _))
    · split
      · exact Calm.trans (.inl hquiet) (drop_conf_calm _).2
      · exact .inl hquiet
  · exact .inl ⟨rfl, fun _ => rfl⟩
  · exact .inl (quiet_of_eq rfl rfl fun value => cad_events_incr value s.rx.stats .kiss_drop)

/-- The bytes of a read of the client. -/
theorem calm_handle_client_bytes (cfg : lhkt_config_t) (now : Nat → Int) (buf : Bytes) :
    ∀ i s, Calm s (handle_client_bytes cfg now i buf s) := by
  induction buf with
  | nil => exact fun _ s => .inl (Quiet.refl s)
  | cons b buf ih => exact fun i s => (calm_handle_client_byte cfg (now i) b s).trans (ih (i + 1) _)

/-- The parts of the loop between `select` and CONF, and behind it: no line is
handled, and `select` is not next. -/
def Passes (s s' : bridge_t) : Prop := Calm s s' ∧ s'.pc ≠ .select

/-- The accept phase handles no CONF line. -/
theorem passes_accept (cfg : lhkt_config_t) (e : bridge_env) (s : bridge_t) :
    Passes s (bridge_accept cfg e s) := by
  unfold bridge_accept
  split
  · split
    · exact ⟨.inl ⟨rfl, fun _ => rfl⟩, nofun⟩
    · obtain ⟨stop, hsleep⟩ := bridge_runtime_sleep_ms_frame 100 e.signal s.toio_t
      rw [hsleep]
      exact ⟨.inl ⟨rfl, fun _ => rfl⟩, nofun⟩
    · split
      · exact ⟨.inl ⟨rfl, fun _ => rfl⟩, nofun⟩
      · split
        · exact ⟨.inl ⟨rfl, fun _ => rfl⟩, nofun⟩
        · exact ⟨.inl ⟨rfl, fun _ => rfl⟩, nofun⟩
  · exact ⟨.inl ⟨rfl, fun _ => rfl⟩, nofun⟩

/-- The client phase handles no CONF line. -/
theorem passes_client (cfg : lhkt_config_t) (e : bridge_env) (s : bridge_t) :
    Passes s (bridge_client cfg e s) := by
  unfold bridge_client
  split
  · split
    · exact ⟨.inl ⟨rfl, fun _ => rfl⟩, nofun⟩
    · exact ⟨.inl ⟨rfl, fun _ => rfl⟩, nofun⟩
    · exact ⟨.inl ((quiet_count s .client_disconnects).trans ⟨rfl, fun _ => rfl⟩), nofun⟩
    · rename_i b buf _
      have hbytes := calm_handle_client_bytes cfg e.now (b :: buf) 0 s
      exact ⟨hbytes.trans (.inl ⟨rfl, fun _ => rfl⟩), nofun⟩
  · exact ⟨.inl ⟨rfl, fun _ => rfl⟩, nofun⟩

/-- What the loop does with the result of a chunk leaves CONF alone. -/
theorem quiet_handle_chunk_result (ret : Lhkt) (s : bridge_t) :
    Quiet s (handle_chunk_result ret s) := by
  unfold handle_chunk_result
  split
  · exact quiet_close_client s
  · split
    · exact quiet_drop_data s
    · exact Quiet.refl s

/-- The data phase handles no CONF line. -/
theorem passes_data (e : bridge_env) (s : bridge_t) : Passes s (bridge_data e s) := by
  unfold bridge_data
  split
  · split
    · exact ⟨.inl ⟨rfl, fun _ => rfl⟩, nofun⟩
    · exact ⟨.inl ((quiet_drop_data s).trans ⟨rfl, fun _ => rfl⟩), nofun⟩
    · exact ⟨.inl ((quiet_drop_data s).trans ⟨rfl, fun _ => rfl⟩), nofun⟩
    · rename_i b buf _
      have hread : Quiet s (handle_data_bytes e.client_write (b :: buf) s).1 :=
        quiet_of_eq rfl rfl fun value => (rxInvariant_cad_events value _).framed_chunk
          e.client_write s.client_fd (b :: buf) s.data.framed s.rx rfl
      have hresult := quiet_handle_chunk_result
        (handle_data_bytes e.client_write (b :: buf) s).2 (handle_data_bytes e.client_write (b :: buf) s).1
      exact ⟨.inl ((hread.trans hresult).trans ⟨rfl, fun _ => rfl⟩), nofun⟩
  · exact ⟨.inl ⟨rfl, fun _ => rfl⟩, nofun⟩

/-! ## The main loop -/

/-- Every line that is handled is collected before CONF can be opened again: the
marks are at the counts, or CONF is closed and the next collection is still
ahead. -/
structure Metered (s : bridge_t) : Prop where
  silent : s.pc ≠ .done → Silent s
  settled : (∀ value, (meter value s).Settled) ∨ s.conf.fd = false ∧ s.pc ≠ .select

/-- Nothing is read from a closed connection. -/
theorem Ticks.closed {s s' : bridge_t} (h : Ticks s s') (hfd : s.conf.fd = false) :
    new_lines s.conf s'.conf = [] := by
  rw [new_lines, h.reads.closed hfd, List.drop_length]
  rfl

/-- Where CONF is closed nothing is read from it. -/
theorem Ticks.silent {s s' : bridge_t} (h : Ticks s s') (hs : Silent s) : Silent s' := by
  intro hfd value
  have hfd : s.conf.fd = false := h.reads.fd.symm.trans hfd
  rw [h.meter, h.closed hfd]
  exact hs hfd value

/-- **What CONF has said since** is collected, to the last line. -/
theorem Metered.collect_ticks {s s' : bridge_t} (h : Metered s) (hpc : s.pc ≠ .done)
    (ht : Ticks s s') (value : Bool) :
    (meter value s').collect.total
      = (meter value s).total + (new_lines s.conf s'.conf).count (cad_line value) := by
  rw [ht.meter]
  rcases h.settled with hsettled | ⟨hfd, _⟩
  · exact (hsettled value).total_collect _
  · rw [ht.closed hfd]
    exact total_collect_of_zero (h.silent hpc hfd value)

/-- Nothing is left to collect between two steps. -/
theorem Metered.collect {s : bridge_t} (h : Metered s) (hpc : s.pc ≠ .done) (value : Bool) :
    (meter value s).collect.total = (meter value s).total := by
  have hrefl : Ticks s s := ⟨Reads.refl s.conf, rfl, fun _ => rfl⟩
  rw [h.collect_ticks hpc hrefl, new_lines, List.drop_length]
  rfl

/-- Leaving the loop collects once more. -/
theorem meter_exit (value : Bool) (s : bridge_t) :
    meter value (bridge_exit s) = (meter value s).collect := by
  rw [← meter_collect]
  ext
  · show cad_seq value (bridge_exit s).conf.state = _
    rw [bridge_exit_conf]
    unfold close_conf
    split <;> rfl
  · unfold bridge_exit
    dsimp only
    split <;> rfl
  · unfold bridge_exit
    dsimp only
    split <;> rfl

/-- Behind the last collection the marks are at the counts. -/
theorem metered_exit (s : bridge_t) : Metered (bridge_exit s) := by
  refine ⟨fun hpc => absurd rfl hpc, .inl fun value => ?_⟩
  rw [meter_exit]
  exact settled_collect _

/-- The lines that `bridge_conf_handle_line` handles in a step. -/
def handled (cfg : lhkt_config_t) (s : bridge_t) (e : bridge_env) : List Bytes :=
  match s.pc with
  | .top => if s.stop || e.signal then [] else new_lines s.conf (bridge_drain cfg e s).1.conf
  | .conf =>
      if s.conf.fd ∧ s.ready.conf then
        new_lines s.conf (bridge_conf_read_available e.conf s.conf).1
      else []
  | _ => []

/-- A step gives up CONF: the drain says so, or a read of CONF comes to the end of
the stream or fails. -/
def gives_up_conf (cfg : lhkt_config_t) (s : bridge_t) (e : bridge_env) : Bool :=
  match s.pc with
  | .top =>
      !(s.stop || e.signal) && bridge_loraham_should_reconnect_conf_socket (bridge_drain cfg e s).2
  | .conf => s.conf.fd && s.ready.conf && e.conf.last ≠ .again
  | _ => false

/-- The lines of a step that no collection sees. -/
def lost (cfg : lhkt_config_t) (s : bridge_t) (e : bridge_env) : List Bytes :=
  if gives_up_conf cfg s e then handled cfg s e else []

/-- A step keeps the meters settled and counts what is not lost. -/
structure Counts (cfg : lhkt_config_t) (s : bridge_t) (e : bridge_env) (s' : bridge_t) : Prop where
  metered : Metered s'
  total : ∀ value, (meter value s').total + (lost cfg s e).count (cad_line value)
    = (meter value s).total + (handled cfg s e).count (cad_line value)

/-- A step that reads nothing. -/
theorem counts_of_total {cfg : lhkt_config_t} {s s' : bridge_t} {e : bridge_env}
    (hhandled : handled cfg s e = []) (hmetered : Metered s')
    (htotal : ∀ value, (meter value s').total = (meter value s).total) : Counts cfg s e s' := by
  refine ⟨hmetered, fun value => ?_⟩
  have hlost : lost cfg s e = [] := by
    unfold lost
    rw [hhandled]
    split <;> rfl
  rw [hlost, hhandled, htotal]

/-- A phase that handles no CONF line adds nothing to either side of the balance. -/
theorem counts_of_passes {cfg : lhkt_config_t} {s s' : bridge_t} {e : bridge_env} (h : Metered s)
    (hpc : s.pc ≠ .done) (hhandled : handled cfg s e = []) (hpasses : Passes s s') :
    Counts cfg s e s' := by
  obtain ⟨hcalm, hsel⟩ := hpasses
  refine counts_of_total hhandled ⟨fun _ => hcalm.silent (h.silent hpc), ?_⟩ hcalm.total
  rcases hcalm with hquiet | ⟨hfd, _⟩
  · rcases h.settled with hsettled | ⟨hfd, _⟩
    · exact .inl fun value => (hquiet.meter value).symm ▸ hsettled value
    · exact .inr ⟨hquiet.fd.trans hfd, hsel⟩
  · exact .inr ⟨hfd, hsel⟩

/-- What the loop does with the result of a drain gives up CONF, or is quiet. -/
theorem handle_drain_result_cases (ret : Lhkt) (s : bridge_t) :
    (bridge_loraham_should_reconnect_conf_socket ret = true ∧
        handle_drain_result ret s = drop_conf s) ∨
      (bridge_loraham_should_reconnect_conf_socket ret = false ∧
        Quiet s (handle_drain_result ret s)) := by
  unfold handle_drain_result
  by_cases hconf : bridge_loraham_should_reconnect_conf_socket ret = true
  · have hret : ret = .ERR_CONF_SOCKET := by
      simpa [bridge_loraham_should_reconnect_conf_socket] using hconf
    subst hret
    exact .inl ⟨rfl, rfl⟩
  · refine .inr ⟨by simpa using hconf, ?_⟩
    rw [if_neg hconf]
    split
    · exact quiet_drop_data s
    · split
      · exact quiet_close_client s
      · exact Quiet.refl s

/-- A drain that gives up CONF leaves the loop with what was collected before. -/
theorem total_drained {cfg : lhkt_config_t} {e : bridge_env} {s : bridge_t} (h : Metered s)
    (hpc : s.pc = .top) (hrun : (s.stop || e.signal) = false) (value : Bool) :
    (meter value (drained cfg e s)).total + (lost cfg s e).count (cad_line value)
      = (meter value s).total + (handled cfg s e).count (cad_line value) := by
  have hnot : s.pc ≠ .done := by rw [hpc]; decide
  have hticks := ticks_drain cfg e s
  have hhandled : handled cfg s e = new_lines s.conf (bridge_drain cfg e s).1.conf := by
    rw [handled, hpc]
    exact if_neg (by rw [hrun]; decide)
  have hgives : gives_up_conf cfg s e
      = bridge_loraham_should_reconnect_conf_socket (bridge_drain cfg e s).2 := by
    rw [gives_up_conf, hpc]
    simp [hrun]
  unfold drained lost
  rw [meter_collect, hgives]
  rcases handle_drain_result_cases (bridge_drain cfg e s).2 (bridge_drain cfg e s).1 with
    ⟨hret, hdrop⟩ | ⟨hret, hquiet⟩
  · -- the connection is gone, and its counts with it, before they are collected
    obtain ⟨hfd, hcalm⟩ := drop_conf_calm (bridge_drain cfg e s).1
    have hzero := hcalm.silent (hticks.silent (h.silent hnot)) hfd value
    have hevents : (meter value (bridge_drain cfg e s).1).total = (meter value s).total :=
      hticks.events value
    rw [hret, if_pos rfl, hdrop, total_collect_of_zero hzero, hcalm.total, hevents]
  · rw [hret, if_neg Bool.false_ne_true, hquiet.meter, h.collect_ticks hnot hticks, hhandled]
    rfl

/-- A drain and the collection behind it keep a closed connection without counts. -/
theorem silent_drained {cfg : lhkt_config_t} {e : bridge_env} {s : bridge_t} (h : Silent s) :
    Silent (drained cfg e s) := by
  have hticked := (ticks_drain cfg e s).silent h
  have hcalm : Calm (bridge_drain cfg e s).1
      (handle_drain_result (bridge_drain cfg e s).2 (bridge_drain cfg e s).1) := by
    rcases handle_drain_result_cases (bridge_drain cfg e s).2 (bridge_drain cfg e s).1 with
      ⟨_, hdrop⟩ | ⟨_, hquiet⟩
    · rw [hdrop]
      exact (drop_conf_calm _).2
    · exact .inl hquiet
  exact silent_collect (hcalm.silent hticked)

/-- From the head of the loop to `select`. -/
theorem counts_top {cfg : lhkt_config_t} {e : bridge_env} {s : bridge_t} (h : Metered s)
    (hpc : s.pc = .top) : Counts cfg s e (bridge_top cfg e s) := by
  have hnot : s.pc ≠ .done := by rw [hpc]; decide
  by_cases hstop : (s.stop || e.signal) = true
  · have hhandled : handled cfg s e = [] := by
      rw [handled, hpc]
      exact if_pos hstop
    rw [bridge_top_stopping hstop]
    refine counts_of_total hhandled (metered_exit _) fun value => ?_
    rw [meter_exit]
    exact h.collect hnot value
  · have hrun : (s.stop || e.signal) = false := by simpa using hstop
    -- `drained` ends with a collection
    have hsettled : ∀ value, (meter value (drained cfg e s)).Settled := fun value => by
      rw [drained, meter_collect]
      exact settled_collect _
    rw [bridge_top_running hrun]
    split
    · -- leaving the loop collects a second time, and finds nothing
      refine ⟨metered_exit _, fun value => ?_⟩
      have hagain : (meter value (drained cfg e s)).collect.total
          = (meter value (drained cfg e s)).total := (hsettled value).total_collect 0
      rw [meter_exit, hagain]
      exact total_drained h hpc hrun value
    · exact ⟨⟨fun _ => silent_drained (h.silent hnot), .inl hsettled⟩, total_drained h hpc hrun⟩

/-- A `select` timeout connects CONF, or is quiet. -/
theorem bridge_timeout_cases (cfg : lhkt_config_t) (e : bridge_env) (s : bridge_t) :
    (s.conf.fd = false ∧ bridge_timeout cfg e s = { s with conf := connect_conf s.conf }) ∨
      Quiet s (bridge_timeout cfg e s) := by
  apply bridge_timeout_elim (P := fun s' => (s.conf.fd = false ∧
    s' = { s with conf := connect_conf s.conf }) ∨ Quiet s s') cfg e s (.inr (Quiet.refl s))
  · exact fun hfd => .inl ⟨hfd, rfl⟩
  · intro _ _ _
    have hcount : Quiet s
        { s with rx := s.rx.count .socket_reconnects, data := connect_data s.data } :=
      quiet_of_eq rfl rfl fun value => cad_events_incr value s.rx.stats .socket_reconnects
    have hsent := hcount.trans (quiet_send_initial_config e.config cfg _)
    exact .inr (hsent.trans ⟨rfl, fun _ => rfl⟩)
  · intro _ _ _
    have hsent := quiet_send_initial_config e.config cfg s
    unfold pending_config
    dsimp only
    split
    · exact .inr (hsent.trans ⟨rfl, fun _ => rfl⟩)
    · exact .inr hsent

/-- Waiting for something to happen. -/
theorem counts_select {cfg : lhkt_config_t} {e : bridge_env} {s : bridge_t} (h : Metered s)
    (hpc : s.pc = .select) : Counts cfg s e (bridge_select cfg e s) := by
  have hnot : s.pc ≠ .done := by rw [hpc]; decide
  have hhandled : handled cfg s e = [] := by
    rw [handled, hpc]
  unfold bridge_select
  split
  · refine counts_of_total hhandled (metered_exit s) fun value => ?_
    rw [meter_exit]
    exact h.collect hnot value
  · exact counts_of_passes h hnot hhandled ⟨.inl ⟨rfl, fun _ => rfl⟩, nofun⟩
  · rcases bridge_timeout_cases cfg e s with ⟨hfd, hconnect⟩ | hquiet
    · rw [hconnect]
      refine counts_of_total hhandled ⟨fun _ => nofun, .inl fun value => ?_⟩ (fun _ => rfl)
      -- the marks have come down to zero while the connection was closed
      have hsettled : ∀ value, (meter value s).Settled := by
        rcases h.settled with hsettled | ⟨_, hsel⟩
        · exact hsettled
        · exact absurd hpc hsel
      have hseen : (meter value s).seen = 0 := (hsettled value).trans (h.silent hnot hfd value)
      show cad_seen value s.cad = cad_seq value bridge_conf_state_init
      rw [show cad_seen value s.cad = 0 from hseen]
      cases value <;> rfl
    · exact counts_of_passes h hnot hhandled ⟨.inl (hquiet.trans ⟨rfl, fun _ => rfl⟩), nofun⟩
  · exact counts_of_passes h hnot hhandled ⟨.inl ⟨rfl, fun _ => rfl⟩, nofun⟩

/-- Reading CONF. -/
theorem counts_conf {cfg : lhkt_config_t} {e : bridge_env} {s : bridge_t} (h : Metered s)
    (hpc : s.pc = .conf) : Counts cfg s e (bridge_conf e s) := by
  have hnot : s.pc ≠ .done := by rw [hpc]; decide
  unfold bridge_conf
  by_cases hready : s.conf.fd ∧ s.ready.conf
  · rw [if_pos hready]
    dsimp only
    have hticks := ticks_read e.conf hready.1
    have hhandled : handled cfg s e
        = new_lines s.conf (bridge_conf_read_available e.conf s.conf).1 := by
      rw [handled, hpc]
      exact if_pos hready
    have hgives : gives_up_conf cfg s e = decide (e.conf.last ≠ .again) := by
      rw [gives_up_conf, hpc]
      simp [hready]
    have hret : (bridge_conf_read_available e.conf s.conf).2 ≠ .OK ↔ e.conf.last ≠ .again := by
      unfold bridge_conf_read_available
      split <;> simp_all
    by_cases hlast : e.conf.last ≠ .again
    · -- the end of the stream takes the lines read before it along
      obtain ⟨hfd, hcalm⟩ := drop_conf_calm
        { s with conf := (bridge_conf_read_available e.conf s.conf).1 }
      rw [if_pos (hret.mpr hlast)]
      refine ⟨⟨fun _ => hcalm.silent (hticks.silent (h.silent hnot)), .inr ⟨hfd, nofun⟩⟩,
        fun value => ?_⟩
      have htotal : (meter value (drop_conf
          { s with conf := (bridge_conf_read_available e.conf s.conf).1 })).total
            = (meter value s).total := (hcalm.total value).trans (hticks.events value)
      rw [lost, hgives, if_pos (by simpa using hlast)]
      exact congrArg (· + _) htotal
    · rw [if_neg (fun hno => hlast (hret.mp hno))]
      refine ⟨⟨fun _ => hticks.silent (h.silent hnot), .inl fun value => ?_⟩, fun value => ?_⟩
      · exact (congrArg Meter.Settled (meter_collect value _)).mpr (settled_collect _)
      · have htotal := h.collect_ticks hnot hticks value
        rw [← meter_collect, ← hhandled] at htotal
        rw [lost, hgives, if_neg (by simpa using hlast)]
        exact htotal
  · have hhandled : handled cfg s e = [] := by
      rw [handled, hpc]
      exact if_neg hready
    rw [if_neg hready]
    exact counts_of_passes h hnot hhandled ⟨.inl ⟨rfl, fun _ => rfl⟩, nofun⟩

/-- **One step** counts the lines it handles, but for those it loses. -/
theorem bridge_step_counts (cfg : lhkt_config_t) (s : bridge_t) (e : bridge_env)
    (h : Metered s) : Counts cfg s e (bridge_step cfg s e) := by
  unfold bridge_step
  cases hpc : s.pc with
  | top => exact counts_top h hpc
  | select => exact counts_select h hpc
  | accept =>
      have hhandled : handled cfg s e = [] := by rw [handled, hpc]
      exact counts_of_passes h (by rw [hpc]; decide) hhandled (passes_accept cfg e s)
  | client =>
      have hhandled : handled cfg s e = [] := by rw [handled, hpc]
      exact counts_of_passes h (by rw [hpc]; decide) hhandled (passes_client cfg e s)
  | conf => exact counts_conf h hpc
  | data =>
      have hhandled : handled cfg s e = [] := by rw [handled, hpc]
      exact counts_of_passes h (by rw [hpc]; decide) hhandled (passes_data e s)
  | done =>
      have hhandled : handled cfg s e = [] := by rw [handled, hpc]
      exact counts_of_total hhandled h fun _ => rfl

/-! ## Runs -/

/-- The lines that `bridge_conf_handle_line` handles in a run. -/
def handled_run (cfg : lhkt_config_t) : bridge_t → List bridge_env → List Bytes
  | _, [] => []
  | s, e :: es => handled cfg s e ++ handled_run cfg (bridge_step cfg s e) es

/-- The lines of a run that no collection sees. -/
def lost_run (cfg : lhkt_config_t) : bridge_t → List bridge_env → List Bytes
  | _, [] => []
  | s, e :: es => lost cfg s e ++ lost_run cfg (bridge_step cfg s e) es

/-- **A run**: what is handled is counted or lost. -/
theorem cad_events_add_lost (cfg : lhkt_config_t) (value : Bool) (es : List bridge_env) :
    ∀ s, Metered s → cad_events value (run (bridge_step cfg) s es).rx.stats
        + (lost_run cfg s es).count (cad_line value)
      = cad_events value s.rx.stats + (handled_run cfg s es).count (cad_line value) := by
  induction es with
  | nil => exact fun _ _ => rfl
  | cons e es ih =>
      intro s h
      have hcounts := bridge_step_counts cfg s e h
      have hstep : cad_events value (bridge_step cfg s e).rx.stats
          + (lost cfg s e).count (cad_line value)
          = cad_events value s.rx.stats + (handled cfg s e).count (cad_line value) :=
        hcounts.total value
      have hrest := ih _ hcounts.metered
      rw [run_cons, lost_run, handled_run, List.count_append, List.count_append]
      omega

/-- A line is lost in a step of the run that gives up CONF. -/
theorem mem_lost_run_iff (cfg : lhkt_config_t) (l : Bytes) (es : List bridge_env) :
    ∀ s, l ∈ lost_run cfg s es ↔ ∃ es₁ e es₂, es = es₁ ++ e :: es₂ ∧
      gives_up_conf cfg (run (bridge_step cfg) s es₁) e = true ∧
      l ∈ handled cfg (run (bridge_step cfg) s es₁) e := by
  have hlost : ∀ s e, l ∈ lost cfg s e ↔ gives_up_conf cfg s e = true ∧ l ∈ handled cfg s e := by
    intro s e
    unfold lost
    split
    · rename_i hgives
      simp [hgives]
    · rename_i hgives
      simp [hgives]
  induction es with
  | nil => simp [lost_run]
  | cons e es ih =>
      intro s
      rw [lost_run, List.mem_append, hlost, ih]
      constructor
      · rintro (h | ⟨es₁, e', es₂, rfl, h⟩)
        · exact ⟨[], e, es, rfl, h⟩
        · exact ⟨e :: es₁, e', es₂, rfl, h⟩
      · rintro ⟨_ | ⟨e₁, es₁⟩, e', es₂, heq, h⟩
        · obtain ⟨rfl, _⟩ := List.cons.inj heq
          exact .inl h
        · obtain ⟨rfl, rfl⟩ := List.cons.inj heq
          exact .inr ⟨es₁, e', es₂, rfl, h⟩

/-- Before the loop only commands are sent. -/
theorem bridge_start_metered (cfg : lhkt_config_t) (e : start_env) :
    Metered (bridge_start cfg e) ∧ ∀ value, cad_events value (bridge_start cfg e).rx.stats = 0 := by
  have hsent := quiet_send_initial_config e.config cfg { conf := { fd := e.conf_connect } }
  have hmeter : ∀ value, meter value
      (send_initial_config e.config cfg { conf := { fd := e.conf_connect } }).1 = ⟨0, 0, 0⟩ :=
    fun value => (hsent.meter value).trans (by cases value <;> rfl)
  unfold bridge_start
  dsimp only
  generalize send_initial_config e.config cfg { conf := { fd := e.conf_connect } } = r at hmeter ⊢
  split
  · refine ⟨metered_exit _, fun value => ?_⟩
    have hexit := meter_exit value
      { r.1 with config_ok := r.2 = .OK, data := { fd := e.data_connect } }
    have hcollect : (meter value r.1).collect.total = 0 := by
      rw [hmeter]
      rfl
    exact (congrArg Meter.total hexit).trans hcollect
  · refine ⟨⟨fun _ _ value => ?_, .inl fun value => ?_⟩, fun value => ?_⟩
    · exact congrArg Meter.count (hmeter value)
    · exact (congrArg Meter.Settled (hmeter value)).mpr rfl
    · exact congrArg Meter.total (hmeter value)

/-- **CAD events are counted once each, but for the lines a connection takes along.**
At every point of every run, and so when the loop is left, the two counters are the
numbers of `CAD=1` and `CAD=0` lines handled so far exactly when no step that gave up
CONF had handled such a line: no drain that ended with a CONF failure, and no read of
CONF that came to the end of the stream or failed. -/
theorem cad_events_counted_once_iff (cfg : lhkt_config_t) (e : start_env)
    (es : List bridge_env) :
    ((bridge_run cfg e es).rx.stats.cad_busy_events
        = (handled_run cfg (bridge_start cfg e) es).count (ascii "CAD=1") ∧
      (bridge_run cfg e es).rx.stats.cad_idle_events
        = (handled_run cfg (bridge_start cfg e) es).count (ascii "CAD=0")) ↔
    ∀ es₁ e' es₂, es = es₁ ++ e' :: es₂ → gives_up_conf cfg (bridge_run cfg e es₁) e' = true →
      ascii "CAD=1" ∉ handled cfg (bridge_run cfg e es₁) e' ∧
      ascii "CAD=0" ∉ handled cfg (bridge_run cfg e es₁) e' := by
  obtain ⟨hmetered, hzero⟩ := bridge_start_metered cfg e
  -- a counter is right when no line of its value is lost
  have hiff : ∀ value, cad_events value (bridge_run cfg e es).rx.stats
      = (handled_run cfg (bridge_start cfg e) es).count (cad_line value) ↔
        cad_line value ∉ lost_run cfg (bridge_start cfg e) es := by
    intro value
    have hadd := cad_events_add_lost cfg value es _ hmetered
    rw [hzero] at hadd
    rw [← List.count_eq_zero]
    unfold bridge_run
    omega
  have hboth := and_congr (hiff true) (hiff false)
  rw [mem_lost_run_iff, mem_lost_run_iff] at hboth
  refine hboth.trans ⟨?_, ?_⟩
  · rintro ⟨hbusy, hidle⟩ es₁ e' es₂ heq hgives
    exact ⟨fun h => hbusy ⟨es₁, e', es₂, heq, hgives, h⟩,
      fun h => hidle ⟨es₁, e', es₂, heq, hgives, h⟩⟩
  · intro h
    refine ⟨?_, ?_⟩
    · rintro ⟨es₁, e', es₂, heq, hgives, hmem⟩
      exact (h es₁ e' es₂ heq hgives).1 hmem
    · rintro ⟨es₁, e', es₂, heq, hgives, hmem⟩
      exact (h es₁ e' es₂ heq hgives).2 hmem

/-- The daemon says that the channel is busy and closes the connection: one line is
handled, and none is counted when the loop is left. -/
theorem cad_event_lost_at_eof :
    let es := iteration
        { select := .ready { conf := true }, conf := ⟨[ascii "CAD=1\n"], .eof⟩ }
      ++ [({ signal := true } : bridge_env)]
    let s := bridge_run lhkt_config_defaults {} es
    s.pc = .done ∧
      (handled_run lhkt_config_defaults (bridge_start lhkt_config_defaults {}) es).count
        (ascii "CAD=1") = 1 ∧
      s.rx.stats.cad_busy_events = 0 := by
  decide +kernel

end LorahamKissTnc.CadStats
