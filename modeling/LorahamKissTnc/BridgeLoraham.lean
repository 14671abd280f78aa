/-
`bridge_loraham.c`: the life of a transmission, from the head of the TX queue to
the confirmed packet, and the two frequency changes around it.

`io_t` is everything this code touches outside the queue: the stop request, the
RX side (counters, RF log, client stream), the CONF and the DATA connection, and
the list `records` of what was said about a transmitted packet on the strength
of a TX_RESULT. A connection keeps its history; closing it moves the history
into `closed`.

The environment of one call is a record with one field for each thing that can
happen differently: the write of each command, a stop request during each sleep,
the rounds of each waiting loop. A list of rounds that ends stands for a daemon
that stays silent until the deadline.

`bridge_loraham_send_packet_with_client` is cut where the source's comments cut
it: the shift to the TX frequency, the write of the packet, and the confirmation
by TX_RESULT or by CONF events, each with its own way back to the RX frequency.
The drain loop is cut at the call of the send function.
-/
import LorahamKissTnc.BridgeKiss
import LorahamKissTnc.BridgeRx

set_option autoImplicit false

open LorahamKissTnc.Lib.CString LorahamKissTnc.Lib.Channel LorahamKissTnc.Lib.Machine
open LorahamKissTnc.Config LorahamKissTnc.LorahamSock
open LorahamKissTnc.BridgeConf LorahamKissTnc.BridgeTxQueue LorahamKissTnc.BridgeRx
open LorahamKissTnc.BridgeKiss

namespace LorahamKissTnc.BridgeLoraham

abbrev LHKT_TX_RESTORE_RETRY_DELAY_MS : Int := 100
abbrev LHKT_TX_START_WAIT_MS : Int := 500

/-! ## The connections -/

/-- What went over a DATA connection in both directions. -/
structure data_link where
  rx : Bytes := []
  tx : List (Sent UInt8) := []
  deriving DecidableEq, Repr

/-- The DATA descriptor, the framed decoder `lora_framed_rx`, and the history of
this and of earlier connections. -/
structure data_t where
  fd : Bool := false
  framed : loraham_framed_rx_state_t := {}
  link : data_link := {}
  closed : List data_link := []

/-- What a TX_RESULT was used for. -/
inductive record_kind where
  | rflog_ok
  | loraham_tx
  | refused (status : UInt8)
  deriving DecidableEq, Repr

/-- A packet recorded with a status: which packet it was, by the number of its
DATA connection and by its number among the packets written there. -/
structure tx_record where
  kind : record_kind
  packet : Bytes
  conn : Nat
  index : Nat
  deriving DecidableEq, Repr

/-- What the TX lifecycle touches outside the queue. -/
structure io_t where
  stop : Bool := false
  rx : bridge_rx_t := {}
  conf : conf_t := {}
  data : data_t := {}
  records : List tx_record := []

/-- `stats->counter++`. -/
def io_t.count (s : io_t) (counter : lhkt_counter) : io_t := { s with rx := s.rx.count counter }

/-- `lhkt_rflog_tx`. -/
def io_t.log_tx (s : io_t) (outcome : rflog_outcome) (packet : Bytes) : io_t :=
  { s with rx := s.rx.log (.tx outcome packet) }

/-- `bridge_runtime_sleep_ms`: false when a stop was requested before the end. A
sleep of no length does not look. -/
def bridge_runtime_sleep_ms (ms : Int) (signal : Bool) (s : io_t) : io_t × Bool :=
  if ms ≤ 0 then (s, true)
  else ({ s with stop := s.stop || signal }, !(s.stop || signal))

/-! ## Commands on the CONF connection -/

/-- `bridge_loraham_send_status_request`. -/
def bridge_loraham_send_status_request (e : sock_env) (tx : List (Sent UInt8)) :
    List (Sent UInt8) × Lhkt :=
  send_command e status_line tx

/-- `bridge_loraham_send_config_freq`. -/
def bridge_loraham_send_config_freq (e : sock_env) (cfg : lhkt_config_t) (freq : ℚ)
    (c : conf_t) : conf_t × Lhkt :=
  if freq ≤ 0 then (c, .ERR_FORMAT)
  else if !c.fd then (c, .ERR_CONF_SOCKET)
  else
    let r := loraham_send_config_freq e cfg freq c.tx
    if r.2 ≠ .OK then ({ c with tx := r.1 }, .ERR_CONF_SOCKET)
    else ({ c with tx := r.1, freqs := c.freqs ++ [freq] }, .OK)

/-- The environment of an initial configuration: its three writes. -/
structure config_env where
  config : sock_env := {}
  txresult : sock_env := {}
  status : sock_env := {}

/-- The flags a new configuration invalidates. -/
def forget_status (state : bridge_conf_state_t) : bridge_conf_state_t :=
  { state with have_status := false, txresult_known := false, txresult_enabled := false }

/-- `bridge_loraham_send_initial_config_with_state`. -/
def bridge_loraham_send_initial_config_with_state (e : config_env) (cfg : lhkt_config_t)
    (c : conf_t) : conf_t × Lhkt :=
  if !c.fd then (c, .ERR_CONF_SOCKET)
  else
    let c := { c with state := forget_status c.state, events := c.events ++ [conf_event.config] }
    let r := loraham_send_config e.config cfg c.tx
    if r.2 ≠ .OK then ({ c with tx := r.1 }, .ERR_CONF_SOCKET)
    else
      let c := { c with
        tx := r.1
        freqs := if cfg.have_rx_freq then c.freqs ++ [cfg.rx_freq] else c.freqs }
      let r := loraham_send_txresult_enable e.txresult c.tx
      if r.2 ≠ .OK then ({ c with tx := r.1 }, .ERR_CONF_SOCKET)
      else
        let c := { c with tx := r.1 }
        let r := bridge_loraham_send_status_request e.status c.tx
        if r.2 ≠ .OK then ({ c with tx := r.1 }, .ERR_CONF_SOCKET)
        else ({ c with tx := r.1 }, .OK)

/-- A configuration closes nothing. -/
theorem send_initial_config_closed (cfg : lhkt_config_t) (e : config_env) (c : conf_t) :
    (bridge_loraham_send_initial_config_with_state e cfg c).1.closed = c.closed := by
  unfold bridge_loraham_send_initial_config_with_state
  split
  · rfl
  · dsimp only
    split
    · rfl
    · split
      · rfl
      · split <;> rfl

/-- `bridge_loraham_tx_shift_needed`: no only when both frequencies are known and
equal within 1 Hz. -/
def bridge_loraham_tx_shift_needed (cfg : lhkt_config_t) : Bool :=
  if !cfg.have_tx_freq ∨ !cfg.have_rx_freq then true
  else
    let diff := cfg.tx_freq - cfg.rx_freq
    let diff := if diff < 0 then -diff else diff
    1 / 1000000 < diff

/-- The environment of a restore: the two writes, and a stop request during the
pause between them. -/
structure restore_env where
  first : sock_env := {}
  signal : Bool := false
  retry : sock_env := {}

/-- `bridge_loraham_restore_rx_freq`. -/
def bridge_loraham_restore_rx_freq (e : restore_env) (cfg : lhkt_config_t) (s : io_t) :
    io_t × Lhkt :=
  if !cfg.have_rx_freq then (s, .ERR_FORMAT)
  else if !bridge_loraham_tx_shift_needed cfg then (s, .OK)
  else
    let r := bridge_loraham_send_config_freq e.first cfg cfg.rx_freq s.conf
    let s := { s with conf := r.1 }
    if r.2 = .OK then (s, .OK)
    else
      let s := s.count .tx_restore_failures
      let p := bridge_runtime_sleep_ms LHKT_TX_RESTORE_RETRY_DELAY_MS e.signal s
      let s := p.1
      -- a stop request ends the pause, and there is no second attempt
      if !p.2 then (s, r.2)
      else
        -- on the same socket, whatever it took of the first line
        let r := bridge_loraham_send_config_freq e.retry cfg cfg.rx_freq s.conf
        let s := { s with conf := r.1 }
        if r.2 = .OK then (s, .OK)
        else (s.count .tx_restore_failures, r.2)

/-- `bridge_loraham_should_reconnect_data_socket`. -/
def bridge_loraham_should_reconnect_data_socket (ret : Lhkt) : Bool :=
  ret = .ERR_TX_SOCKET ∨ ret = .ERR_TX_RESULT

/-- `bridge_loraham_should_reconnect_conf_socket`. -/
def bridge_loraham_should_reconnect_conf_socket (ret : Lhkt) : Bool :=
  ret = .ERR_CONF_SOCKET

/-- `bridge_loraham_disconnect_conf_socket`. -/
def bridge_loraham_disconnect_conf_socket (s : io_t) : io_t :=
  -- a connection that is down is not counted again
  if !s.conf.fd then s
  else
    { s with
      rx := s.rx.count .socket_reconnects
      conf := { s.conf with
        fd := false
        state := bridge_conf_state_init
        tx := []
        events := []
        closed := s.conf.closed ++ [s.conf.tx] } }

/-- `bridge_loraham_disconnect_data_socket`, with the reset of the framed decoder
every caller adds. -/
def bridge_loraham_disconnect_data_socket (s : io_t) : io_t :=
  if !s.data.fd then { s with data := { s.data with framed := loraham_framed_rx_state_init } }
  else
    { s with
      rx := s.rx.count .socket_reconnects
      data :=
        { fd := false
          framed := loraham_framed_rx_state_init
          link := {}
          closed := s.data.closed ++ [s.data.link] } }

/-! ## Confirmation by CONF events -/

/-- One round of a waiting loop on the CONF socket. -/
structure conf_round where
  signal : Bool := false
  now : Int := 0
  wait : conf_wait_env := .timeout

/-- The environment of `bridge_loraham_wait_tx_complete`: the clock and the rounds
of its two loops. -/
structure complete_env where
  start : Int := 0
  start_rounds : List conf_round := []
  busy : Int := 0
  busy_rounds : List conf_round := []

/-- The loop `while (!saw_tx)`: wait for a TX=1 event. -/
def wait_tx_start (start_busy_seq : Nat) (deadline : Int) : List conf_round → conf_t → conf_t × Lhkt
  | [], c => (c, if c.state.tx_busy_seq ≠ start_busy_seq then .OK else .ERR_UNSUPPORTED)
  | round :: rounds, c =>
      if c.state.tx_busy_seq ≠ start_busy_seq then (c, .OK)
      else if deadline ≤ round.now then (c, .ERR_UNSUPPORTED)
      else match bridge_conf_wait_read round.wait c with
        | (c, .error _) => (c, .ERR)
        | (c, .ok _) => wait_tx_start start_busy_seq deadline rounds c

/-- The loop `while (conf_state->tx_busy)`: wait for the end of the
transmission. -/
def wait_tx_idle (deadline : Int) : List conf_round → io_t → io_t × Lhkt
  | [], s => (s, if s.conf.state.tx_busy then .ERR else .OK)
  | round :: rounds, s =>
      if !s.conf.state.tx_busy then (s, .OK)
      else
        let s := { s with stop := s.stop || round.signal }
        if s.stop then (s, .ERR)
        else if deadline ≤ round.now then (s, .ERR)
        else match bridge_conf_wait_read round.wait s.conf with
          | (c, .error _) => ({ s with conf := c }, .ERR)
          | (c, .ok _) => wait_tx_idle deadline rounds { s with conf := c }

/-- The first half of the wait: a transmission is seen at once, or waited for. -/
def wait_saw_tx (e : complete_env) (c : conf_t) : conf_t × Lhkt :=
  -- busy already: the transmission is taken to have begun
  if c.state.tx_busy then (c, .OK)
  else wait_tx_start c.state.tx_busy_seq (e.start + LHKT_TX_START_WAIT_MS) e.start_rounds c

/-- `bridge_loraham_wait_tx_complete`. TX=1 and TX=0 may have arrived together;
the sequence counters still show the transition. -/
def bridge_loraham_wait_tx_complete (e : complete_env) (cfg : lhkt_config_t) (s : io_t) :
    io_t × Lhkt :=
  if !s.conf.fd then (s, .ERR_UNSUPPORTED)
  else
    let start_busy_seq := s.conf.state.tx_busy_seq
    let start_idle_seq := s.conf.state.tx_idle_seq
    let r := wait_saw_tx e s.conf
    let s := { s with conf := r.1 }
    if r.2 ≠ .OK then (s, r.2)
    else if !s.conf.state.tx_busy ∧ s.conf.state.tx_busy_seq ≠ start_busy_seq ∧
        s.conf.state.tx_idle_seq ≠ start_idle_seq then (s, .OK)
    else wait_tx_idle (e.busy + cfg.tx_busy_timeout_ms) e.busy_rounds s

/-! ## Confirmation by TX_RESULT -/

/-- What a round of `bridge_loraham_wait_tx_result` gets from `select` and
`read`; reading nothing is the end of the stream. -/
inductive data_wait_env where
  | fail
  | eintr
  | timeout
  | read_fail
  | read_again
  | read (bytes : Bytes)
  deriving DecidableEq, Repr

/-- One round of that loop. -/
structure data_round where
  signal : Bool := false
  now : Int := 0
  wait : data_wait_env := .timeout

/-- The environment of `bridge_loraham_wait_tx_result`. -/
structure result_env where
  start : Int := 0
  rounds : List data_round := []
  client : Nat → List write_ret := fun _ => []

/-- The state of the waiting loop: what it touches, and its own view of the
client. -/
structure wait_t where
  stop : Bool
  rx : bridge_rx_t
  data : data_t
  client_fd : Bool
  client_error : Lhkt

/-- A frame other than TX_RESULT: delivered, and a failing client is given up
for the rest of the wait. -/
def wait_frame (w : Nat → List write_ret) (frame : loraham_frame_t) (l : wait_t) : wait_t :=
  let r := bridge_rx_handle_framed_frame w l.client_fd frame l.rx
  -- only the client; a bad packet does not end the wait
  if r.2 = .ERR_CLIENT_SOCKET then
    { l with rx := r.1, client_error := .ERR_CLIENT_SOCKET, client_fd := false }
  else { l with rx := r.1 }

/-- The decoder has moved. -/
def wait_t.decoded (l : wait_t) (framed : loraham_framed_rx_state_t) : wait_t :=
  { l with data := { l.data with framed := framed } }

/-- The rest of the buffer behind the TX_RESULT. -/
def wait_rest (w : Nat → List write_ret) : Bytes → wait_t → wait_t × Lhkt
  | [], l => (l, .OK)
  | b :: buf, l =>
      match loraham_framed_decode_byte l.data.framed b with
      | (framed, .ok (some frame)) =>
          -- a second result has no packet it could be about
          if frame.type = LORAHAM_FRAME_TX_RESULT then
            wait_rest w buf { l.decoded framed with rx := l.rx.count .loraham_drop }
          else wait_rest w buf (wait_frame w frame (l.decoded framed))
      | (framed, .ok none) => wait_rest w buf (l.decoded framed)
      | (framed, .error _) =>
          ({ l.decoded framed with rx := l.rx.count .loraham_drop }, .ERR_TX_RESULT)

/-- One buffer of the wait: `none` when it held no TX_RESULT. -/
def wait_scan (w : Nat → List write_ret) :
    Bytes → wait_t → wait_t × Option (Except Lhkt loraham_tx_result_t)
  | [], l => (l, none)
  | b :: buf, l =>
      match loraham_framed_decode_byte l.data.framed b with
      | (framed, .ok (some frame)) =>
          if frame.type = LORAHAM_FRAME_TX_RESULT then
            match loraham_decode_tx_result frame with
            | .error _ => (l.decoded framed, some (.error .ERR_TX_RESULT))
            | .ok result =>
                -- the result stands, unless the rest of the buffer has a framing error
                let r := wait_rest w buf (l.decoded framed)
                (r.1, some (if r.2 = .OK then .ok result else .error r.2))
          else wait_scan w buf (wait_frame w frame (l.decoded framed))
      | (framed, .ok none) => wait_scan w buf (l.decoded framed)
      | (framed, .error _) =>
          ({ l.decoded framed with rx := l.rx.count .loraham_drop },
            some (.error .ERR_TX_RESULT))

/-- The loop `for (;;)` of the wait. -/
def wait_rounds (w : Nat → List write_ret) (deadline : Int) :
    List data_round → wait_t → wait_t × Except Lhkt loraham_tx_result_t
  | [], l => (l, .error .ERR_TX_RESULT)
  | round :: rounds, l =>
      let l := { l with stop := l.stop || round.signal }
      if l.stop then (l, .error .ERR_TX_RESULT)
      else if deadline ≤ round.now then (l, .error .ERR_TX_RESULT)
      else match round.wait with
        | .fail => (l, .error .ERR_TX_RESULT)
        | .eintr => wait_rounds w deadline rounds l
        | .timeout => (l, .error .ERR_TX_RESULT)
        | .read_fail => (l, .error .ERR_TX_RESULT)
        | .read_again => wait_rounds w deadline rounds l
        | .read [] => (l, .error .ERR_TX_RESULT)
        | .read (b :: buf) =>
            let l := { l with
              data := { l.data with link := { l.data.link with rx := l.data.link.rx ++ b :: buf } } }
            match wait_scan w (b :: buf) l with
            | (l, none) => wait_rounds w deadline rounds l
            | (l, some ret) => (l, ret)

/-- A round has read bytes; they are on record before they are decoded. -/
def wait_t.received (l : wait_t) (stop : Bool) (buf : Bytes) : wait_t :=
  { l with
    stop := stop
    data := { l.data with link := { l.data.link with rx := l.data.link.rx ++ buf } } }

/-- **A rule for the wait.** A round gives up, waits on, or reads bytes; these leave
the wait going, or end it with the answer of the scan. -/
theorem wait_rounds_elim {P : wait_t → wait_t × Except Lhkt loraham_tx_result_t → Prop}
    (w : Nat → List write_ret) (deadline : Int)
    (hfail : ∀ l stop, P l ({ l with stop := stop }, .error .ERR_TX_RESULT))
    (hskip : ∀ l stop r, P { l with stop := stop } r → P l r)
    (hmore : ∀ l stop buf l' r,
      wait_scan w buf (l.received stop buf) = (l', none) → P l' r → P l r)
    (hdone : ∀ l stop buf l' ret,
      wait_scan w buf (l.received stop buf) = (l', some ret) → P l (l', ret))
    (rounds : List data_round) : ∀ l, P l (wait_rounds w deadline rounds l) := by
  induction rounds with
  | nil => exact fun l => hfail l l.stop
  | cons round rounds ih =>
      intro l
      unfold wait_rounds
      dsimp only
      split
      · exact hfail l _
      · split
        · exact hfail l _
        · split
          · exact hfail l _
          · exact hskip l _ _ (ih _)
          · exact hfail l _
          · exact hfail l _
          · exact hskip l _ _ (ih _)
          · exact hfail l _
          · split
            · rename_i l' hscan
              exact hmore l _ _ l' _ hscan (ih l')
            · rename_i l' ret hscan
              exact hdone l _ _ l' ret hscan

/-- What every part of the wait keeps: moving the decoder, counting a drop, handling
a frame, and the bookkeeping of a round. -/
structure WaitInvariant (w : Nat → List write_ret) (I : wait_t → Prop) : Prop where
  decoded : ∀ l framed, I l → I (l.decoded framed)
  counted : ∀ l : wait_t, I l → I { l with rx := l.rx.count .loraham_drop }
  frame : ∀ frame l, I l → I (wait_frame w frame l)
  stopped : ∀ (l : wait_t) stop, I l → I { l with stop := stop }
  received : ∀ (l : wait_t) stop buf, I l → I (l.received stop buf)

section WaitInvariant

variable {w : Nat → List write_ret} {I : wait_t → Prop}

/-- It holds behind the rest of a read, whatever stands in it. -/
theorem WaitInvariant.rest (h : WaitInvariant w I) (buf : Bytes) :
    ∀ l, I l → I (wait_rest w buf l).1 := by
  induction buf with
  | nil => exact fun l hl => hl
  | cons b buf ih =>
      intro l hl
      unfold wait_rest
      split
      · split
        · exact ih _ (h.counted _ (h.decoded l _ hl))
        · exact ih _ (h.frame _ _ (h.decoded l _ hl))
      · exact ih _ (h.decoded l _ hl)
      · exact h.counted _ (h.decoded l _ hl)

/-- It holds behind a read that is searched for a TX_RESULT. -/
theorem WaitInvariant.scan (h : WaitInvariant w I) (buf : Bytes) :
    ∀ l, I l → I (wait_scan w buf l).1 := by
  induction buf with
  | nil => exact fun l hl => hl
  | cons b buf ih =>
      intro l hl
      unfold wait_scan
      split
      · split
        · split
          · exact h.decoded l _ hl
          · exact h.rest buf _ (h.decoded l _ hl)
        · exact ih _ (h.frame _ _ (h.decoded l _ hl))
      · exact ih _ (h.decoded l _ hl)
      · exact h.counted _ (h.decoded l _ hl)

/-- **An invariant of the parts** is one of the whole wait. -/
theorem WaitInvariant.rounds (h : WaitInvariant w I) (deadline : Int) (rounds : List data_round) :
    ∀ l, I l → I (wait_rounds w deadline rounds l).1 := by
  apply wait_rounds_elim (P := fun l r => I l → I r.1)
  · exact fun l stop hl => h.stopped l stop hl
  · exact fun l stop r hrest hl => hrest (h.stopped l stop hl)
  · intro l stop buf l' r hscan hrest hl
    have hl' := h.scan buf _ (h.received l stop buf hl)
    rw [hscan] at hl'
    exact hrest hl'
  · intro l stop buf l' ret hscan hl
    have hl' := h.scan buf _ (h.received l stop buf hl)
    rw [hscan] at hl'
    exact hl'

end WaitInvariant

/-- The receiver is all that a frame, a count and a round have to do with it. -/
theorem waitInvariant_rx {I : bridge_rx_t → Prop} (h : RxInvariant I) (w : Nat → List write_ret) :
    WaitInvariant w (fun l => I l.rx) where
  decoded := fun _ _ hl => hl
  counted := fun l hl => h.counted l.rx .loraham_drop (by decide) hl
  frame := by
    intro frame l hl
    have hframe := h.framed_frame w l.client_fd frame hl
    unfold wait_frame
    dsimp only
    split
    · exact hframe
    · exact hframe
  stopped := fun _ _ hl => hl
  received := fun _ _ _ hl => hl

/-- `bridge_loraham_wait_tx_result`: the result, and `*client_error`. -/
def bridge_loraham_wait_tx_result (e : result_env) (cfg : lhkt_config_t) (client_fd : Bool)
    (s : io_t) : io_t × Lhkt × Except Lhkt loraham_tx_result_t :=
  if !s.data.fd then (s, .OK, .error .ERR_TX_RESULT)
  else
    let r := wait_rounds e.client (e.start + cfg.tx_busy_timeout_ms) e.rounds
      ⟨s.stop, s.rx, s.data, client_fd, .OK⟩
    ({ s with stop := r.1.stop, rx := r.1.rx, data := r.1.data }, r.1.client_error, r.2)

/-- **An invariant of the receiver** survives the wait for a TX_RESULT. -/
theorem rxInvariant_wait_tx_result {I : bridge_rx_t → Prop} (h : RxInvariant I) (e : result_env)
    (cfg : lhkt_config_t) (client_fd : Bool) {s : io_t} (hs : I s.rx) :
    I (bridge_loraham_wait_tx_result e cfg client_fd s).1.rx := by
  unfold bridge_loraham_wait_tx_result
  split
  · exact hs
  · exact (waitInvariant_rx h e.client).rounds _ e.rounds
      ⟨s.stop, s.rx, s.data, client_fd, .OK⟩ hs

/-! ## Sending one packet -/

/-- The environment of one transmission. -/
structure send_env where
  shift : sock_env := {}
  settle_signal : Bool := false
  write : sock_env := {}
  return_signal : Bool := false
  restore : restore_env := {}
  result : result_env := {}
  complete : complete_env := {}

/-- The shift to the TX frequency and the pause behind it. A stop request during
the pause goes back to the RX frequency. -/
def tx_prepare (e : send_env) (cfg : lhkt_config_t) (s : io_t) : io_t × Lhkt :=
  if !bridge_loraham_tx_shift_needed cfg then (s, .OK)
  else
    let r := bridge_loraham_send_config_freq e.shift cfg cfg.tx_freq s.conf
    let s := { s with conf := r.1 }
    if r.2 ≠ .OK then (s.count .loraham_drop, r.2)
    else
      let p := bridge_runtime_sleep_ms cfg.tx_settle_ms e.settle_signal s
      if p.2 then (p.1, .OK)
      else
        let r := bridge_loraham_restore_rx_freq e.restore cfg p.1
        (r.1, if r.2 ≠ .OK then r.2 else .ERR)

/-- `bridge_loraham_write`: the packet on the DATA connection. -/
def bridge_loraham_write (e : send_env) (packet : Bytes) (s : io_t) : io_t × Lhkt :=
  let r := loraham_send_framed_tx_packet e.write packet s.data.link.tx
  ({ s with data := { s.data with link := { s.data.link with tx := r.1 } } }, r.2)

/-- The packet did not go out whole: back to the RX frequency, whose result is
not looked at. -/
def tx_write_failed (e : send_env) (cfg : lhkt_config_t) (s : io_t) : io_t × Lhkt :=
  let s := s.count .loraham_drop
  let p := bridge_runtime_sleep_ms cfg.tx_return_ms e.return_signal s
  let r := bridge_loraham_restore_rx_freq e.restore cfg p.1
  (r.1, .ERR_TX_SOCKET)

/-- A record about the packet written last on the DATA connection. -/
def io_t.record (s : io_t) (kind : record_kind) (packet : Bytes) : io_t :=
  { s with
    records := s.records ++
      [⟨kind, packet, s.data.closed.length, s.data.link.tx.length - 1⟩] }

/-- The outcome is known: a confirmed transmission goes to the RF log, before the
restore can fail. -/
def tx_result_logged (packet : Bytes) (result : loraham_tx_result_t) (s : io_t) : io_t :=
  if result.status = LORAHAM_TX_STATUS_OK then (s.log_tx .ok packet).record .rflog_ok packet
  else s

/-- The packet is out, and the TX_RESULT was received. -/
def tx_result_received (e : send_env) (cfg : lhkt_config_t) (packet : Bytes)
    (client_error : Lhkt) (result : loraham_tx_result_t) (s : io_t) : io_t × Lhkt :=
  let r := bridge_loraham_restore_rx_freq e.restore cfg (tx_result_logged packet result s)
  if r.2 ≠ .OK then r
  else if result.status ≠ LORAHAM_TX_STATUS_OK then
    ((r.1.count .loraham_drop).record (.refused result.status) packet, client_error)
  else ((r.1.count .loraham_tx).record .loraham_tx packet, client_error)

/-- The packet is out, and the TX_RESULT did not come. -/
def tx_result_missing (e : send_env) (cfg : lhkt_config_t) (packet : Bytes) (s : io_t) :
    io_t × Lhkt :=
  let s := (s.count .tx_unconfirmed).log_tx .unconfirmed packet
  let r := bridge_loraham_restore_rx_freq e.restore cfg s
  (r.1, .ERR_TX_RESULT)

/-- The packet is out, and TX_RESULT frames are on. -/
def tx_confirm_result (e : send_env) (cfg : lhkt_config_t) (client_fd : Bool) (packet : Bytes)
    (s : io_t) : io_t × Lhkt :=
  match bridge_loraham_wait_tx_result e.result cfg client_fd s with
  | (s, _, .error _) => tx_result_missing e cfg packet s
  | (s, client_error, .ok result) => tx_result_received e cfg packet client_error result s

/-- The packet is out, and there are no TX_RESULT frames: the CONF events
decide, or else a pause, and the RF log is told. -/
def tx_events_waited (e : send_env) (cfg : lhkt_config_t) (packet : Bytes) (s : io_t) : io_t :=
  let r := bridge_loraham_wait_tx_complete e.complete cfg s
  if r.2 ≠ .OK then
    (bridge_runtime_sleep_ms cfg.tx_return_ms e.return_signal
      (r.1.count .tx_unconfirmed)).1.log_tx .unconfirmed packet
  else r.1.log_tx .ok packet

/-- The same up to the end of the transmission. -/
def tx_confirm_events (e : send_env) (cfg : lhkt_config_t) (packet : Bytes) (s : io_t) :
    io_t × Lhkt :=
  let r := bridge_loraham_restore_rx_freq e.restore cfg (tx_events_waited e cfg packet s)
  if r.2 ≠ .OK then r
  else (r.1.count .loraham_tx, .OK)

/-- `bridge_loraham_send_packet_with_client`: the result and `*packet_written`. -/
def bridge_loraham_send_packet_with_client (e : send_env) (cfg : lhkt_config_t)
    (client_fd : Bool) (packet : Bytes) (s : io_t) : io_t × Lhkt × Bool :=
  if packet.length = 0 then (s, .ERR, false)
  else if !s.data.fd then (s.count .loraham_drop, .ERR, false)
  else if !cfg.have_tx_freq ∨ !cfg.have_rx_freq then
    (s.count .loraham_drop, .ERR_FORMAT, false)
  else
    let r := tx_prepare e cfg s
    if r.2 ≠ .OK then (r.1, r.2, false)
    else
      let r := bridge_loraham_write e packet r.1
      if r.2 ≠ .OK then
        let r := tx_write_failed e cfg r.1
        (r.1, r.2, false)
      else if bridge_conf_txresult_enabled r.1.conf.state then
        let r := tx_confirm_result e cfg client_fd packet r.1
        (r.1, r.2, true)
      else
        let r := tx_confirm_events e cfg packet r.1
        (r.1, r.2, true)

/-! ## Draining the queue -/

/-- One round of the drain loop. -/
structure drain_round where
  read : conf_read_env := {}
  now : Int := 0

/-- The environment of a drain: its rounds and the transmission it may start. -/
structure drain_env where
  rounds : Nat → drain_round := fun _ => {}
  send : send_env := {}

/-- How the drain loop ends: with a result, or with a packet to send. -/
inductive drain_next where
  | ret (ret : Lhkt)
  | send (item : bridge_tx_item_t)
  deriving DecidableEq, Repr

/-- The history of the queue when a transmission is started. -/
def tx_started (q : txq_t) (s : io_t) (item : bridge_tx_item_t) (now : Int) : txq_t :=
  { q with starts := q.starts ++
      [⟨item.packet, item.queued_ms, now, s.data.fd, s.conf.fd, s.conf.events⟩] }

/-- The queue after a transmission: the packet is gone when it was written. -/
def tx_finished (q : txq_t) (item : bridge_tx_item_t) (ret : Lhkt) (packet_written : Bool) :
    txq_t :=
  if packet_written ∨ ret = .OK then q.pop item.packet .sent else q

/-- The CONF bytes that are there are read before the decision. -/
def drain_read (e : conf_read_env) (c : conf_t) : conf_t × Lhkt :=
  if c.fd then bridge_conf_read_available e c else (c, .OK)

/-- The drain loop up to the call of the send function. Every round but the last
removes the head, so the packets in the queue bound the rounds. -/
def drain_select (e : drain_env) (cfg : lhkt_config_t) :
    Nat → Nat → io_t → txq_t → io_t × txq_t × drain_next
  | 0, _, s, q => (s, q, .ret .OK)
  | left + 1, i, s, q =>
      match bridge_tx_queue_head q.queue with
      | none => (s, q, .ret .OK)
      | some item =>
          let r := drain_read (e.rounds i).read s.conf
          let s := { s with conf := r.1 }
          if r.2 ≠ .OK then (s, q, .ret .OK)
          -- no STATUS line yet on this connection
          else if s.conf.fd ∧ !s.conf.state.have_status then (s, q, .ret .OK)
          else if s.conf.state.txresult_known ∧ !s.conf.state.txresult_enabled then
            (s, q, .ret .ERR_CONF_SOCKET)
          else
            let now := (e.rounds i).now
            let d := bridge_tx_head_decision cfg (if s.conf.fd then some s.conf.state else none)
              item now
            let item := d.1
            let q := { q with queue := bridge_tx_queue_set_head q.queue item }
            match d.2 with
            | .WAIT => (s, q, .ret .OK)
            | .DROP =>
                drain_select e cfg left (i + 1) (s.count .loraham_drop)
                  (q.pop item.packet .dropped)
            | .SEND =>
                -- the packet stays queued until both sockets are back
                if !s.data.fd then (s, q, .ret .OK)
                else if !s.conf.fd then (s, q, .ret .OK)
                else (s, tx_started q s item now, .send item)

/-- `bridge_loraham_tx_queue_drain_with_client`. -/
def bridge_loraham_tx_queue_drain_with_client (e : drain_env) (cfg : lhkt_config_t)
    (client_fd : Bool) (s : io_t) (q : txq_t) : io_t × txq_t × Lhkt :=
  match drain_select e cfg (q.queue.count + 1) 0 s q with
  | (s, q, .ret ret) => (s, q, ret)
  | (s, q, .send item) =>
      let r := bridge_loraham_send_packet_with_client e.send cfg client_fd item.packet s
      (r.1, tx_finished q item r.2.1 r.2.2, r.2.1)

/-! ## What each piece can change

Each statement names the fields that may differ afterwards, so that everything
else is known to be as before by definition. -/

/-- A configuration line changes only what was written to CONF. -/
theorem bridge_loraham_send_config_freq_frame (e : sock_env) (cfg : lhkt_config_t) (freq : ℚ)
    (c : conf_t) :
    ∃ tx freqs, (bridge_loraham_send_config_freq e cfg freq c).1
      = { c with tx := tx, freqs := freqs } := by
  unfold bridge_loraham_send_config_freq
  split
  · exact ⟨c.tx, c.freqs, rfl⟩
  · split
    · exact ⟨c.tx, c.freqs, rfl⟩
    · dsimp only
      split
      · exact ⟨_, c.freqs, rfl⟩
      · exact ⟨_, _, rfl⟩

/-- A pause changes nothing but the stop flag. -/
theorem bridge_runtime_sleep_ms_frame (ms : Int) (signal : Bool) (s : io_t) :
    ∃ stop, (bridge_runtime_sleep_ms ms signal s).1 = { s with stop := stop } := by
  unfold bridge_runtime_sleep_ms
  split
  · exact ⟨s.stop, rfl⟩
  · exact ⟨_, rfl⟩

/-- A pause is only cut short by a stop request. -/
theorem bridge_runtime_sleep_ms_stop (ms : Int) (signal : Bool) (s : io_t)
    (h : (bridge_runtime_sleep_ms ms signal s).2 = false) :
    (bridge_runtime_sleep_ms ms signal s).1.stop = true := by
  unfold bridge_runtime_sleep_ms at h ⊢
  split
  · rename_i hms
    rw [if_pos hms] at h
    exact absurd h (by simp)
  · rename_i hms
    rw [if_neg hms] at h
    exact Bool.not_eq_false' _ ▸ h

/-- Sending commands touches the stop request, the counters, and what was
written on the CONF connection. -/
def CommandsOnly (s s' : io_t) : Prop :=
  ∃ stop stats tx freqs, s' =
    { s with
      stop := stop
      rx := { s.rx with stats := stats }
      conf := { s.conf with tx := tx, freqs := freqs } }

/-- Commands leave the data connection alone. -/
theorem CommandsOnly.data_eq {s s' : io_t} (h : CommandsOnly s s') : s'.data = s.data := by
  obtain ⟨_, _, _, _, rfl⟩ := h
  rfl

theorem CommandsOnly.client_tx_eq {s s' : io_t} (h : CommandsOnly s s') :
    s'.rx.client_tx = s.rx.client_tx := by
  obtain ⟨_, _, _, _, rfl⟩ := h
  rfl

theorem CommandsOnly.records_eq {s s' : io_t} (h : CommandsOnly s s') : s'.records = s.records := by
  obtain ⟨_, _, _, _, rfl⟩ := h
  rfl

theorem CommandsOnly.refl (s : io_t) : CommandsOnly s s :=
  ⟨s.stop, s.rx.stats, s.conf.tx, s.conf.freqs, rfl⟩

theorem CommandsOnly.trans {s s' s'' : io_t} (h : CommandsOnly s s') (h' : CommandsOnly s' s'') :
    CommandsOnly s s'' := by
  obtain ⟨stop, stats, tx, freqs, rfl⟩ := h
  obtain ⟨stop', stats', tx', freqs', rfl⟩ := h'
  exact ⟨stop', stats', tx', freqs', rfl⟩

theorem CommandsOnly.count {s s' : io_t} (h : CommandsOnly s s') (counter : lhkt_counter) :
    CommandsOnly s (s'.count counter) := by
  obtain ⟨stop, stats, tx, freqs, rfl⟩ := h
  exact ⟨stop, _, tx, freqs, rfl⟩

theorem commandsOnly_send_config_freq (e : sock_env) (cfg : lhkt_config_t) (freq : ℚ) (s : io_t) :
    CommandsOnly s { s with conf := (bridge_loraham_send_config_freq e cfg freq s.conf).1 } := by
  obtain ⟨tx, freqs, h⟩ := bridge_loraham_send_config_freq_frame e cfg freq s.conf
  rw [h]
  exact ⟨s.stop, s.rx.stats, tx, freqs, rfl⟩

theorem commandsOnly_sleep (ms : Int) (signal : Bool) (s : io_t) :
    CommandsOnly s (bridge_runtime_sleep_ms ms signal s).1 := by
  obtain ⟨stop, h⟩ := bridge_runtime_sleep_ms_frame ms signal s
  rw [h]
  exact ⟨stop, s.rx.stats, s.conf.tx, s.conf.freqs, rfl⟩

/-- A restore sends commands, pauses and counts. -/
theorem commandsOnly_restore (e : restore_env) (cfg : lhkt_config_t) (s : io_t) :
    CommandsOnly s (bridge_loraham_restore_rx_freq e cfg s).1 := by
  have hfirst := commandsOnly_send_config_freq e.first cfg cfg.rx_freq s
  have hsleep := (hfirst.count .tx_restore_failures).trans
    (commandsOnly_sleep LHKT_TX_RESTORE_RETRY_DELAY_MS e.signal _)
  have hretry := hsleep.trans (commandsOnly_send_config_freq e.retry cfg cfg.rx_freq _)
  unfold bridge_loraham_restore_rx_freq
  split
  · exact CommandsOnly.refl s
  · split
    · exact CommandsOnly.refl s
    · dsimp only
      split
      · exact hfirst
      · split
        · exact hsleep
        · split
          · exact hretry
          · exact hretry.count .tx_restore_failures

/-- The shift to the TX frequency and its pause. -/
theorem commandsOnly_tx_prepare (e : send_env) (cfg : lhkt_config_t) (s : io_t) :
    CommandsOnly s (tx_prepare e cfg s).1 := by
  have hshift := commandsOnly_send_config_freq e.shift cfg cfg.tx_freq s
  have hsleep := hshift.trans (commandsOnly_sleep cfg.tx_settle_ms e.settle_signal _)
  unfold tx_prepare
  split
  · exact CommandsOnly.refl s
  · dsimp only
    split
    · exact hshift.count .loraham_drop
    · split
      · exact hsleep
      · exact hsleep.trans (commandsOnly_restore e.restore cfg _)

/-- Behind a failed packet write there is the restore. -/
theorem commandsOnly_tx_write_failed (e : send_env) (cfg : lhkt_config_t) (s : io_t) :
    CommandsOnly s (tx_write_failed e cfg s).1 :=
  (((CommandsOnly.refl s).count .loraham_drop).trans
    (commandsOnly_sleep cfg.tx_return_ms e.return_signal _)).trans
      (commandsOnly_restore e.restore cfg _)

/-- The tail of a transmission also writes to the RF log and to `records`. -/
def ReportsOnly (s s' : io_t) : Prop :=
  ∃ stop stats rflog tx freqs records, s' =
    { s with
      stop := stop
      rx := { s.rx with stats := stats, rflog := rflog }
      conf := { s.conf with tx := tx, freqs := freqs }
      records := records }

/-- A report leaves the data connection alone. -/
theorem ReportsOnly.data_eq {s s' : io_t} (h : ReportsOnly s s') : s'.data = s.data := by
  obtain ⟨_, _, _, _, _, _, rfl⟩ := h
  rfl

/-- Of CONF, commands change only what was written. -/
theorem CommandsOnly.conf_frame {s s' : io_t} (h : CommandsOnly s s') :
    ∃ tx freqs, s'.conf = { s.conf with tx := tx, freqs := freqs } := by
  obtain ⟨_, _, tx, freqs, rfl⟩ := h
  exact ⟨tx, freqs, rfl⟩

/-- Of CONF, a report changes only what was written. -/
theorem ReportsOnly.conf_frame {s s' : io_t} (h : ReportsOnly s s') :
    ∃ tx freqs, s'.conf = { s.conf with tx := tx, freqs := freqs } := by
  obtain ⟨_, _, _, tx, freqs, _, rfl⟩ := h
  exact ⟨tx, freqs, rfl⟩

theorem ReportsOnly.client_tx_eq {s s' : io_t} (h : ReportsOnly s s') :
    s'.rx.client_tx = s.rx.client_tx := by
  obtain ⟨_, _, _, _, _, _, rfl⟩ := h
  rfl

/-- A missing TX_RESULT is logged as unconfirmed, behind a restore. -/
theorem reportsOnly_tx_result_missing (e : send_env) (cfg : lhkt_config_t) (packet : Bytes)
    (s : io_t) : ReportsOnly s (tx_result_missing e cfg packet s).1 := by
  obtain ⟨stop, stats, tx, freqs, h⟩ := commandsOnly_restore e.restore cfg
    ((s.count .tx_unconfirmed).log_tx .unconfirmed packet)
  unfold tx_result_missing
  rw [h]
  exact ⟨stop, stats, _, tx, freqs, s.records, rfl⟩

/-- A TX_RESULT goes to the RF log and on record. -/
theorem tx_result_logged_frame (packet : Bytes) (result : loraham_tx_result_t) (s : io_t) :
    ∃ rflog records, tx_result_logged packet result s
      = { s with rx := { s.rx with rflog := rflog }, records := records } := by
  unfold tx_result_logged
  split
  · exact ⟨_, _, rfl⟩
  · exact ⟨s.rx.rflog, s.records, rfl⟩

/-- A TX_RESULT is logged and counted around a restore. -/
theorem reportsOnly_tx_result_received (e : send_env) (cfg : lhkt_config_t) (packet : Bytes)
    (client_error : Lhkt) (result : loraham_tx_result_t) (s : io_t) :
    ReportsOnly s (tx_result_received e cfg packet client_error result s).1 := by
  obtain ⟨rflog, records, hlogged⟩ := tx_result_logged_frame packet result s
  obtain ⟨stop, stats, tx, freqs, h⟩ :=
    commandsOnly_restore e.restore cfg (tx_result_logged packet result s)
  rw [hlogged] at h
  unfold tx_result_received
  dsimp only
  rw [hlogged]
  split
  · rw [h]
    exact ⟨stop, stats, rflog, tx, freqs, records, rfl⟩
  · split
    · rw [h]
      exact ⟨stop, _, rflog, tx, freqs, _, rfl⟩
    · rw [h]
      exact ⟨stop, _, rflog, tx, freqs, _, rfl⟩

/-- The wait for TX=1 only feeds CONF. -/
theorem wait_tx_start_fed (start_busy_seq : Nat) (deadline : Int) (rounds : List conf_round) :
    ∀ c : conf_t, Fed c (wait_tx_start start_busy_seq deadline rounds c).1 := by
  induction rounds with
  | nil => exact fun c => Fed.refl c
  | cons round rounds ih =>
      intro c
      unfold wait_tx_start
      split
      · exact Fed.refl c
      · split
        · exact Fed.refl c
        · have hread := fed_wait_read round.wait c
          split
          · rename_i c' _ hwait
            rw [hwait] at hread
            exact hread
          · rename_i c' _ hwait
            rw [hwait] at hread
            exact hread.trans (ih c')

/-- The wait for TX=0 feeds CONF, and a signal may set the stop flag. -/
theorem wait_tx_idle_frame (deadline : Int) (rounds : List conf_round) :
    ∀ s : io_t, ∃ stop c', Fed s.conf c' ∧
      (wait_tx_idle deadline rounds s).1 = { s with stop := stop, conf := c' } := by
  induction rounds with
  | nil => exact fun s => ⟨s.stop, s.conf, Fed.refl s.conf, rfl⟩
  | cons round rounds ih =>
      intro s
      unfold wait_tx_idle
      split
      · exact ⟨s.stop, s.conf, Fed.refl s.conf, rfl⟩
      · dsimp only
        split
        · exact ⟨_, s.conf, Fed.refl s.conf, rfl⟩
        · split
          · exact ⟨_, s.conf, Fed.refl s.conf, rfl⟩
          · have hread := fed_wait_read round.wait s.conf
            split
            · rename_i c' _ hwait
              rw [hwait] at hread
              exact ⟨_, c', hread, rfl⟩
            · rename_i c' _ hwait
              rw [hwait] at hread
              obtain ⟨stop, c'', hfed, h⟩ := ih { s with stop := s.stop || round.signal, conf := c' }
              exact ⟨stop, c'', hread.trans hfed, h⟩

/-- A TX=1 that was seen already needs no wait. -/
theorem wait_saw_tx_fed (e : complete_env) (c : conf_t) : Fed c (wait_saw_tx e c).1 := by
  unfold wait_saw_tx
  split
  · exact Fed.refl c
  · exact wait_tx_start_fed _ _ _ _

/-- **The wait for the CONF events** feeds CONF; it writes nothing. -/
theorem bridge_loraham_wait_tx_complete_frame (e : complete_env) (cfg : lhkt_config_t) (s : io_t) :
    ∃ stop c', Fed s.conf c' ∧
      (bridge_loraham_wait_tx_complete e cfg s).1 = { s with stop := stop, conf := c' } := by
  unfold bridge_loraham_wait_tx_complete
  split
  · exact ⟨s.stop, s.conf, Fed.refl s.conf, rfl⟩
  · have hsaw := wait_saw_tx_fed e s.conf
    dsimp only
    split
    · exact ⟨s.stop, _, hsaw, rfl⟩
    · split
      · exact ⟨s.stop, _, hsaw, rfl⟩
      · obtain ⟨stop, c', hfed, h⟩ := wait_tx_idle_frame
          (e.busy + cfg.tx_busy_timeout_ms) e.busy_rounds
          { s with conf := (wait_saw_tx e s.conf).1 }
        exact ⟨stop, c', hsaw.trans hfed, h⟩

/-- Waiting for CONF events reads CONF and touches the counters and the RF
log. -/
theorem tx_events_waited_frame (e : send_env) (cfg : lhkt_config_t) (packet : Bytes) (s : io_t) :
    ∃ stop stats rflog c', Fed s.conf c' ∧ tx_events_waited e cfg packet s =
      { s with
        stop := stop
        rx := { s.rx with stats := stats, rflog := rflog }
        conf := c' } := by
  obtain ⟨stop, c', hfed, hwait⟩ := bridge_loraham_wait_tx_complete_frame e.complete cfg s
  unfold tx_events_waited
  dsimp only
  rw [hwait]
  split
  · obtain ⟨stop', hsleep⟩ := bridge_runtime_sleep_ms_frame cfg.tx_return_ms e.return_signal
      (io_t.count { s with stop := stop, conf := c' } .tx_unconfirmed)
    rw [hsleep]
    exact ⟨stop', _, _, c', hfed, rfl⟩
  · exact ⟨stop, _, _, c', hfed, rfl⟩

/-- A transmission confirmed by the CONF events: they are read, then it is reported. -/
theorem reportsOnly_tx_confirm_events (e : send_env) (cfg : lhkt_config_t) (packet : Bytes)
    (s : io_t) : ∃ c', Fed s.conf c' ∧
      ReportsOnly { s with conf := c' } (tx_confirm_events e cfg packet s).1 := by
  obtain ⟨stop, stats, rflog, c', hfed, hwaited⟩ := tx_events_waited_frame e cfg packet s
  refine ⟨c', hfed, ?_⟩
  obtain ⟨stop', stats', tx', freqs', hrestore⟩ :=
    commandsOnly_restore e.restore cfg (tx_events_waited e cfg packet s)
  unfold tx_confirm_events
  dsimp only
  split
  · rw [hrestore, hwaited]
    exact ⟨stop', stats', rflog, tx', freqs', s.records, rfl⟩
  · rw [hrestore, hwaited]
    exact ⟨stop', _, rflog, tx', freqs', s.records, rfl⟩

/-- The wait in terms of its loop. -/
theorem bridge_loraham_wait_tx_result_cases {e : result_env} {cfg : lhkt_config_t}
    {client_fd : Bool} {s s' : io_t} {client_error : Lhkt}
    {ret : Except Lhkt loraham_tx_result_t}
    (h : bridge_loraham_wait_tx_result e cfg client_fd s = (s', client_error, ret)) :
    (s' = s ∧ client_error = .OK ∧ ret = .error .ERR_TX_RESULT) ∨
    ∃ l, wait_rounds e.client (e.start + cfg.tx_busy_timeout_ms) e.rounds
        ⟨s.stop, s.rx, s.data, client_fd, .OK⟩ = (l, ret) ∧ client_error = l.client_error ∧
      s' = { s with stop := l.stop, rx := l.rx, data := l.data } := by
  unfold bridge_loraham_wait_tx_result at h
  split at h
  · obtain ⟨hs, hrest⟩ := Prod.mk.inj h
    obtain ⟨herr, hret⟩ := Prod.mk.inj hrest
    exact .inl ⟨hs.symm, herr.symm, hret.symm⟩
  · obtain ⟨hs, hrest⟩ := Prod.mk.inj h
    obtain ⟨herr, hret⟩ := Prod.mk.inj hrest
    exact .inr ⟨_, Prod.ext rfl hret, herr.symm, hs.symm⟩

/-- The state in which a packet has been handed to the DATA connection. -/
theorem tx_written_frame {e : send_env} {cfg : lhkt_config_t} {packet : Bytes} {s s₁ s₂ : io_t}
    {ret : Lhkt} (hprep : tx_prepare e cfg s = (s₁, .OK))
    (hwrite : bridge_loraham_write e packet s₁ = (s₂, ret)) :
    ret = (loraham_send_framed_tx_packet e.write packet s.data.link.tx).2 ∧
    CommandsOnly { s with data := { s.data with link := { s.data.link with
      tx := (loraham_send_framed_tx_packet e.write packet s.data.link.tx).1 } } } s₂ := by
  have hcmd := commandsOnly_tx_prepare e cfg s
  rw [hprep] at hcmd
  obtain ⟨stop, stats, tx, freqs, hs₁⟩ := hcmd
  have hs₁ : s₁ = _ := hs₁
  subst hs₁
  obtain ⟨hs₂, hret⟩ := Prod.mk.inj hwrite
  exact ⟨hret.symm, stop, stats, tx, freqs, hs₂.symm⟩

/-! ## The ways through a transmission and through a drain

What a property of the outcome needs, one premise for each way out. -/

/-- The ways through a restore. The counters and the stop request are all that
changes besides the CONF connection. -/
theorem restore_elim {P : io_t × Lhkt → Prop} (e : restore_env) (cfg : lhkt_config_t) (s : io_t)
    (hunknown : cfg.have_rx_freq = false → P (s, .ERR_FORMAT))
    (hskip : bridge_loraham_tx_shift_needed cfg = false → P (s, .OK))
    (hfirst : ∀ c, bridge_loraham_tx_shift_needed cfg = true →
      bridge_loraham_send_config_freq e.first cfg cfg.rx_freq s.conf = (c, .OK) →
      P ({ s with conf := c }, .OK))
    (hstopped : ∀ c ret stop stats, bridge_loraham_tx_shift_needed cfg = true →
      bridge_loraham_send_config_freq e.first cfg cfg.rx_freq s.conf = (c, ret) → ret ≠ .OK →
      P ({ s with conf := c, stop := stop, rx := { s.rx with stats := stats } }, ret))
    (hretry : ∀ c c' ret ret' stop stats, bridge_loraham_tx_shift_needed cfg = true →
      bridge_loraham_send_config_freq e.first cfg cfg.rx_freq s.conf = (c, ret) → ret ≠ .OK →
      (s.stop || e.signal) = false →
      bridge_loraham_send_config_freq e.retry cfg cfg.rx_freq c = (c', ret') →
      P ({ s with conf := c', stop := stop, rx := { s.rx with stats := stats } }, ret')) :
    P (bridge_loraham_restore_rx_freq e cfg s) := by
  unfold bridge_loraham_restore_rx_freq
  split
  · rename_i hrx
    exact hunknown (by simpa using hrx)
  · split
    · rename_i hshift
      exact hskip (by simpa using hshift)
    · rename_i hshift
      have hshift : bridge_loraham_tx_shift_needed cfg = true := by simpa using hshift
      dsimp only
      generalize hsend : bridge_loraham_send_config_freq e.first cfg cfg.rx_freq s.conf = r
      obtain ⟨c, ret⟩ := r
      split
      · rename_i hret
        have hret : ret = .OK := hret
        subst hret
        exact hfirst c hshift hsend
      · rename_i hret
        -- the pause is longer than nothing, so it sees the stop request
        have hpause : ∀ s, bridge_runtime_sleep_ms LHKT_TX_RESTORE_RETRY_DELAY_MS e.signal s
            = ({ s with stop := s.stop || e.signal }, !(s.stop || e.signal)) :=
          fun s => if_neg (by decide)
        rw [hpause]
        split
        · exact hstopped c ret _ _ hshift hsend hret
        · rename_i hrun
          have hrun : ¬ (!(!(s.stop || e.signal))) = true := hrun
          have hrun : (s.stop || e.signal) = false := by simpa using hrun
          split
          · rename_i hagain
            exact hretry c _ ret .OK _ _ hshift hsend hret hrun (Prod.ext rfl hagain)
          · exact hretry c _ ret _ _ _ hshift hsend hret hrun rfl

/-- The ways through the shift to the TX frequency. -/
theorem tx_prepare_elim {P : io_t × Lhkt → Prop} (e : send_env) (cfg : lhkt_config_t) (s : io_t)
    (hskip : bridge_loraham_tx_shift_needed cfg = false → P (s, .OK))
    (hfailed : ∀ c ret stats, bridge_loraham_tx_shift_needed cfg = true →
      bridge_loraham_send_config_freq e.shift cfg cfg.tx_freq s.conf = (c, ret) → ret ≠ .OK →
      P ({ s with conf := c, rx := { s.rx with stats := stats } }, ret))
    (hshifted : ∀ c stop, bridge_loraham_tx_shift_needed cfg = true →
      bridge_loraham_send_config_freq e.shift cfg cfg.tx_freq s.conf = (c, .OK) →
      P ({ s with conf := c, stop := stop }, .OK))
    (hinterrupted : ∀ c stop, bridge_loraham_tx_shift_needed cfg = true →
      bridge_loraham_send_config_freq e.shift cfg cfg.tx_freq s.conf = (c, .OK) → stop = true →
      P ((bridge_loraham_restore_rx_freq e.restore cfg { s with conf := c, stop := stop }).1,
        if (bridge_loraham_restore_rx_freq e.restore cfg { s with conf := c, stop := stop }).2
            ≠ .OK then
          (bridge_loraham_restore_rx_freq e.restore cfg { s with conf := c, stop := stop }).2
        else .ERR)) :
    P (tx_prepare e cfg s) := by
  unfold tx_prepare
  split
  · rename_i hshift
    exact hskip (by simpa using hshift)
  · rename_i hshift
    have hshift : bridge_loraham_tx_shift_needed cfg = true := by simpa using hshift
    dsimp only
    generalize hsend : bridge_loraham_send_config_freq e.shift cfg cfg.tx_freq s.conf = r
    obtain ⟨c, ret⟩ := r
    split
    · rename_i hret
      exact hfailed c ret _ hshift hsend hret
    · rename_i hret
      have hret : ret = .OK := not_ne_iff.mp hret
      subst hret
      obtain ⟨stop, hsleep⟩ := bridge_runtime_sleep_ms_frame cfg.tx_settle_ms e.settle_signal
        { s with conf := c }
      have hstop := bridge_runtime_sleep_ms_stop cfg.tx_settle_ms e.settle_signal { s with conf := c }
      -- the sleep falls short only when a stop request interrupts it
      rw [hsleep] at hstop ⊢
      split
      · exact hshifted c stop hshift hsend
      · rename_i hslept
        exact hinterrupted c stop hshift hsend (hstop (by simpa using hslept))

/-- The exits of `bridge_loraham_send_packet_with_client`. -/
theorem send_packet_elim {P : io_t × Lhkt × Bool → Prop} (e : send_env) (cfg : lhkt_config_t)
    (client_fd : Bool) (packet : Bytes) (s : io_t)
    (hrefused : ∀ s' ret, s' = s ∨ s' = s.count .loraham_drop → ret = .ERR ∨ ret = .ERR_FORMAT →
      P (s', ret, false))
    (hprepare : ∀ s₁ ret, tx_prepare e cfg s = (s₁, ret) → ret ≠ .OK → P (s₁, ret, false))
    (hfailed : ∀ s₁ s₂ ret, tx_prepare e cfg s = (s₁, .OK) →
      bridge_loraham_write e packet s₁ = (s₂, ret) → ret ≠ .OK →
      P ((tx_write_failed e cfg s₂).1, .ERR_TX_SOCKET, false))
    (hresult : ∀ s₁ s₂, tx_prepare e cfg s = (s₁, .OK) →
      bridge_loraham_write e packet s₁ = (s₂, .OK) →
      bridge_conf_txresult_enabled s₂.conf.state = true →
      P ((tx_confirm_result e cfg client_fd packet s₂).1,
        (tx_confirm_result e cfg client_fd packet s₂).2, true))
    (hevents : ∀ s₁ s₂, tx_prepare e cfg s = (s₁, .OK) →
      bridge_loraham_write e packet s₁ = (s₂, .OK) →
      bridge_conf_txresult_enabled s₂.conf.state = false →
      P ((tx_confirm_events e cfg packet s₂).1, (tx_confirm_events e cfg packet s₂).2, true)) :
    P (bridge_loraham_send_packet_with_client e cfg client_fd packet s) := by
  unfold bridge_loraham_send_packet_with_client
  split
  · exact hrefused s .ERR (.inl rfl) (.inl rfl)
  · split
    · exact hrefused _ .ERR (.inr rfl) (.inl rfl)
    · split
      · exact hrefused _ .ERR_FORMAT (.inr rfl) (.inr rfl)
      · dsimp only
        -- everything was checked: the shift, the write, then the confirmation
        generalize hprep : tx_prepare e cfg s = r
        obtain ⟨s₁, ret⟩ := r
        split
        · rename_i hret
          exact hprepare s₁ ret hprep hret
        · rename_i hret
          have hret : ret = .OK := not_ne_iff.mp hret
          subst hret
          generalize hwrite : bridge_loraham_write e packet s₁ = r
          obtain ⟨s₂, ret⟩ := r
          split
          · rename_i hret
            exact hfailed s₁ s₂ ret hprep hwrite hret
          · rename_i hret
            have hret : ret = .OK := not_ne_iff.mp hret
            subst hret
            split
            · rename_i henabled
              exact hresult s₁ s₂ hprep hwrite henabled
            · rename_i henabled
              exact hevents s₁ s₂ hprep hwrite (by simpa using henabled)

/-- A transmission reads CONF and writes commands on it. -/
theorem send_packet_conf_frame (e : send_env) (cfg : lhkt_config_t) (client_fd : Bool)
    (packet : Bytes) (s : io_t) : ∃ c' tx freqs, Fed s.conf c' ∧
      (bridge_loraham_send_packet_with_client e cfg client_fd packet s).1.conf
        = { c' with tx := tx, freqs := freqs } := by
  -- on most ways only commands are sent and no event is read
  have hcommands : ∀ {s' : io_t} {tx freqs}, s'.conf = { s.conf with tx := tx, freqs := freqs } →
      ∃ c' tx freqs, Fed s.conf c' ∧ s'.conf = { c' with tx := tx, freqs := freqs } :=
    fun h => ⟨s.conf, _, _, Fed.refl s.conf, h⟩
  refine send_packet_elim (P := fun r => ∃ c' tx freqs, Fed s.conf c' ∧
    r.1.conf = { c' with tx := tx, freqs := freqs }) e cfg client_fd packet s ?_ ?_ ?_ ?_ ?_
  · rintro s' _ (rfl | rfl) _
    · exact ⟨s'.conf, _, _, Fed.refl _, rfl⟩
    · exact ⟨s.conf, _, _, Fed.refl _, rfl⟩
  · intro s₁ _ hprep _
    have hcmd := commandsOnly_tx_prepare e cfg s
    rw [hprep] at hcmd
    obtain ⟨_, _, hconf⟩ := hcmd.conf_frame
    exact hcommands hconf
  · intro s₁ s₂ _ hprep hwrite _
    obtain ⟨_, hcmd⟩ := tx_written_frame hprep hwrite
    obtain ⟨_, _, hconf⟩ := (hcmd.trans (commandsOnly_tx_write_failed e cfg s₂)).conf_frame
    exact hcommands hconf
  · intro s₁ s₂ hprep hwrite _
    obtain ⟨_, hcmd⟩ := tx_written_frame hprep hwrite
    obtain ⟨tx, freqs, hconf⟩ := hcmd.conf_frame
    unfold tx_confirm_result
    generalize hwait : bridge_loraham_wait_tx_result e.result cfg client_fd s₂ = r
    obtain ⟨s₃, client_error, ret⟩ := r
    -- the wait for TX_RESULT reads the data socket only
    have hconf₃ : s₃.conf = { s.conf with tx := tx, freqs := freqs } := by
      rw [← hconf]
      rcases bridge_loraham_wait_tx_result_cases hwait with ⟨hs₃, _, _⟩ | ⟨_, _, _, hs₃⟩
      · rw [hs₃]
      · rw [hs₃]
    match ret with
    | .error _ =>
        obtain ⟨_, _, h⟩ := (reportsOnly_tx_result_missing e cfg packet s₃).conf_frame
        exact hcommands (h.trans (by rw [hconf₃]))
    | .ok result =>
        obtain ⟨_, _, h⟩ :=
          (reportsOnly_tx_result_received e cfg packet client_error result s₃).conf_frame
        exact hcommands (h.trans (by rw [hconf₃]))
  · intro s₁ s₂ hprep hwrite _
    obtain ⟨_, hcmd⟩ := tx_written_frame hprep hwrite
    obtain ⟨tx, freqs, hconf⟩ := hcmd.conf_frame
    -- the wait for the TX events is what reads the CONF socket
    obtain ⟨c', hfed, hrep⟩ := reportsOnly_tx_confirm_events e cfg packet s₂
    obtain ⟨tx', freqs', h⟩ := hrep.conf_frame
    have hconf : s₂.conf = { s.conf with tx := tx, freqs := freqs } := hconf
    rw [hconf] at hfed
    obtain ⟨c'', hfed', rfl⟩ := hfed.commands
    exact ⟨c'', tx', freqs', hfed', h⟩

/-- What has been checked when a transmission is started. -/
structure Gate (cfg : lhkt_config_t) (s : io_t) (item : bridge_tx_item_t) (now : Int) : Prop where
  data_fd : s.data.fd = true
  conf_fd : s.conf.fd = true
  have_status : s.conf.state.have_status = true
  txresult : s.conf.state.txresult_known = true → s.conf.state.txresult_enabled = true
  tx_idle : s.conf.state.tx_busy = false
  age : 0 < cfg.tx_packet_ttl_ms → now - item.queued_ms < cfg.tx_packet_ttl_ms

/-- What `drain_select` does before it comes to an end: it reads CONF, looks at
the head, and drops expired packets. `I` survives all three; a transmission that
is started has passed the gate. -/
theorem drain_select_elim {I : io_t → txq_t → Prop} {P : io_t × txq_t × drain_next → Prop}
    (e : drain_env) (cfg : lhkt_config_t)
    (hread : ∀ s q read, I s q → s.conf.fd = true →
      I { s with conf := (bridge_conf_read_available read s.conf).1 } q)
    (hhead : ∀ s q item item', I s q → bridge_tx_queue_head q.queue = some item →
      item'.packet = item.packet → item'.queued_ms = item.queued_ms →
      I s { q with queue := bridge_tx_queue_set_head q.queue item' })
    (hdrop : ∀ s q item, I s q → bridge_tx_queue_head q.queue = some item →
      I (s.count .loraham_drop) (q.pop item.packet .dropped))
    (hret : ∀ s q ret, I s q → ret = .OK ∨ ret = .ERR_CONF_SOCKET → P (s, q, .ret ret))
    (hsend : ∀ s q item now, I s q → bridge_tx_queue_head q.queue = some item →
      Gate cfg s item now → P (s, tx_started q s item now, .send item)) :
    ∀ left i s q, I s q → P (drain_select e cfg left i s q) := by
  intro left
  induction left with
  | zero => exact fun i s q hI => hret s q .OK hI (.inl rfl)
  | succ left ih =>
      intro i s q hI
      unfold drain_select
      split
      · exact hret s q .OK hI (.inl rfl)
      · rename_i item hitem
        dsimp only
        -- whatever CONF had to say is in before the gate is looked at
        have hI' : I { s with conf := (drain_read (e.rounds i).read s.conf).1 } q := by
          unfold drain_read
          split
          · rename_i hopen
            exact hread s q _ hI hopen
          · exact hI
        generalize drain_read (e.rounds i).read s.conf = r at hI' ⊢
        obtain ⟨c, ret⟩ := r
        split
        · exact hret _ q .OK hI' (.inl rfl)
        · split
          · exact hret _ q .OK hI' (.inl rfl)
          · rename_i hstatus
            split
            · exact hret _ q .ERR_CONF_SOCKET hI' (.inr rfl)
            · rename_i hresult
              -- the decision may start or clear the wait clock of the head
              generalize hdec : bridge_tx_head_decision cfg
                (if c.fd = true then some c.state else none) item (e.rounds i).now = d
              obtain ⟨hpacket, hqueued⟩ := bridge_tx_head_decision_item cfg
                (if c.fd = true then some c.state else none) item (e.rounds i).now
              rw [hdec] at hpacket hqueued
              have hI'' := hhead _ q item d.1 hI' hitem hpacket hqueued
              have hcount : q.queue.count ≠ 0 := by
                intro h0
                rw [bridge_tx_queue_head, if_pos h0] at hitem
                exact absurd hitem (by simp)
              have hitem' : bridge_tx_queue_head (bridge_tx_queue_set_head q.queue d.1)
                  = some d.1 := by
                rw [bridge_tx_queue_head_eq, toList_set_head d.1 hcount, List.head?_cons]
              split
              · exact hret _ _ .OK hI'' (.inl rfl)
              · exact ih _ _ _ (hdrop _ _ d.1 hI'' hitem')
              · rename_i hdsend
                split
                · exact hret _ _ .OK hI'' (.inl rfl)
                · rename_i hdfd
                  split
                  · exact hret _ _ .OK hI'' (.inl rfl)
                  · rename_i hcfd
                    have hdfd : s.data.fd = true := by simpa using hdfd
                    have hcfd : c.fd = true := by simpa using hcfd
                    rw [if_pos hcfd] at hdec
                    obtain ⟨hage, hidle⟩ := bridge_tx_head_decision_send (hdec ▸ hdsend)
                    refine hsend _ _ d.1 (e.rounds i).now hI'' hitem'
                      ⟨hdfd, hcfd, ?_, ?_, hidle, by rw [hqueued]; exact hage⟩
                    · by_contra hno
                      exact hstatus ⟨hcfd, by simpa using hno⟩
                    · intro hknown
                      by_contra hno
                      exact hresult ⟨hknown, by simpa using hno⟩

/-- The exits of a drain. -/
theorem drain_elim {I : io_t → txq_t → Prop} {P : io_t × txq_t × Lhkt → Prop}
    (e : drain_env) (cfg : lhkt_config_t) (client_fd : Bool) (s₀ : io_t) (q₀ : txq_t)
    (hI : I s₀ q₀)
    (hread : ∀ s q read, I s q → s.conf.fd = true →
      I { s with conf := (bridge_conf_read_available read s.conf).1 } q)
    (hhead : ∀ s q item item', I s q → bridge_tx_queue_head q.queue = some item →
      item'.packet = item.packet → item'.queued_ms = item.queued_ms →
      I s { q with queue := bridge_tx_queue_set_head q.queue item' })
    (hdrop : ∀ s q item, I s q → bridge_tx_queue_head q.queue = some item →
      I (s.count .loraham_drop) (q.pop item.packet .dropped))
    (hret : ∀ s q ret, I s q → ret = .OK ∨ ret = .ERR_CONF_SOCKET → P (s, q, ret))
    (hsend : ∀ s q item now s' ret written, I s q → bridge_tx_queue_head q.queue = some item →
      Gate cfg s item now →
      drain_select e cfg (q₀.queue.count + 1) 0 s₀ q₀ = (s, tx_started q s item now, .send item) →
      bridge_loraham_send_packet_with_client e.send cfg client_fd item.packet s
        = (s', ret, written) →
      P (s', tx_finished (tx_started q s item now) item ret written, ret)) :
    P (bridge_loraham_tx_queue_drain_with_client e cfg client_fd s₀ q₀) := by
  unfold bridge_loraham_tx_queue_drain_with_client
  -- the invariant goes through the selection, which keeps its own equation for the send
  have hsel := drain_select_elim (I := I)
    (P := fun r => drain_select e cfg (q₀.queue.count + 1) 0 s₀ q₀ = r → P (match r with
      | (s, q, .ret ret) => (s, q, ret)
      | (s, q, .send item) =>
          ((bridge_loraham_send_packet_with_client e.send cfg client_fd item.packet s).1,
            tx_finished q item
              (bridge_loraham_send_packet_with_client e.send cfg client_fd item.packet s).2.1
              (bridge_loraham_send_packet_with_client e.send cfg client_fd item.packet s).2.2,
            (bridge_loraham_send_packet_with_client e.send cfg client_fd item.packet s).2.1)))
    e cfg hread hhead hdrop (fun s q ret hI h _ => hret s q ret hI h)
    (fun s q item now hI hitem hgate hsel =>
      hsend s q item now _ _ _ hI hitem hgate hsel rfl)
    (q₀.queue.count + 1) 0 s₀ q₀ hI rfl
  generalize drain_select e cfg (q₀.queue.count + 1) 0 s₀ q₀ = r at hsel ⊢
  obtain ⟨s', q', next⟩ := r
  match next with
  | .ret ret => exact hsel
  | .send item => exact hsel

/-- There is nothing to send in an empty queue. -/
theorem drain_select_empty (e : drain_env) (cfg : lhkt_config_t) (i : Nat) (s : io_t) {q : txq_t}
    (h : q.queue.count = 0) :
    drain_select e cfg (q.queue.count + 1) i s q = (s, q, .ret .OK) := by
  have hhead : bridge_tx_queue_head q.queue = none := by
    rw [bridge_tx_queue_head, if_pos h]
  rw [drain_select.eq_2, hhead]

/-- Dropping takes the bound on the rounds down with the queue: the loop never
runs out of it. -/
theorem drain_select_bound (e : drain_env) (cfg : lhkt_config_t) (left : Nat) :
    ∀ i s q, q.queue.count < left →
      drain_select e cfg left i s q = drain_select e cfg (left + 1) i s q := by
  induction left with
  | zero => exact fun i s q h => absurd h (Nat.not_lt_zero _)
  | succ left ih =>
      intro i s q hcount
      rw [drain_select.eq_2 e cfg i s q left, drain_select.eq_2 e cfg i s q (left + 1)]
      split
      · rfl
      · rename_i item hitem
        have hpos : q.queue.count ≠ 0 := by
          intro h0
          rw [bridge_tx_queue_head, if_pos h0] at hitem
          exact absurd hitem (by simp)
        dsimp only
        split
        · rfl
        · split
          · rfl
          · split
            · rfl
            · split
              · rfl
              · apply ih
                show (bridge_tx_queue_pop (bridge_tx_queue_set_head q.queue _)).count < left
                rw [count_pop]
                show q.queue.count - 1 < left
                omega
              · rfl

end LorahamKissTnc.BridgeLoraham
