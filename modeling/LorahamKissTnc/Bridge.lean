/-
`bridge.c`: the main loop, one step for each place where the loop meets the
outside world.

An iteration of `lhkt_bridge_run` is cut at the points where it can `continue`:
draining the queue (`top`), `select` with the work of a timeout, accepting a
client, reading the client, reading CONF, reading DATA. `bridge_step` performs
the part the program counter names, with the outcome of every system call taken
from the step's environment; parts whose descriptor is not ready pass through.
A run is a list of environments, so every interleaving of client, CONF and DATA
traffic, failures and reconnects is a run. Periodic printing of the counters and
the length of the `select` timeout are in `Schedule`: neither is read back here.

`clients` are the streams written to clients that are gone; the stream of the
client connected now is `rx.client_tx`.
-/
import LorahamKissTnc.BridgeLoraham

set_option autoImplicit false

open LorahamKissTnc.Lib.CString LorahamKissTnc.Lib.Channel LorahamKissTnc.Lib.Machine
open LorahamKissTnc.Config LorahamKissTnc.Kiss LorahamKissTnc.Ax25 LorahamKissTnc.LorahamSock
open LorahamKissTnc.BridgeConf LorahamKissTnc.BridgeTxQueue LorahamKissTnc.BridgeRx
open LorahamKissTnc.BridgeKiss LorahamKissTnc.BridgeLoraham

namespace LorahamKissTnc.Bridge

/-! ## The state -/

/-- Where the main loop is. -/
inductive bridge_pc where
  | top
  | select
  | accept
  | client
  | conf
  | data
  | done
  deriving DecidableEq, Repr

/-- The descriptors `select` reported, the `rfds` of the source. -/
structure ready_t where
  listen : Bool := false
  client : Bool := false
  conf : Bool := false
  data : Bool := false
  deriving DecidableEq, Repr

/-- The variables of `lhkt_bridge_run`. -/
structure bridge_t extends io_t where
  pc : bridge_pc := .top
  ready : ready_t := {}
  client_fd : Bool := false
  clients : List (List (Sent UInt8)) := []
  kiss_dec : kiss_decoder_t := kiss_decoder_init
  kiss_params : kiss_params_t := kiss_params_init
  txq : txq_t := {}
  config_ok : Bool := false
  cad : cad_seen_t := {}

/-- What `select` says. -/
inductive select_env where
  | fail
  | eintr
  | timeout
  | ready (r : ready_t)
  deriving DecidableEq, Repr

/-- What `accept` gives: nothing now, an error, or a connection from an address,
whose descriptor can or cannot be made non-blocking. -/
inductive accept_env where
  | again
  | fail
  | peer (addr : UInt32) (nonblocking : Bool)
  deriving DecidableEq, Repr

/-- What `read` gives; reading nothing is the end of the stream. `soft` are the
errors the reader retries later. -/
inductive read_env where
  | fail
  | soft
  | read (bytes : Bytes)
  deriving DecidableEq, Repr

/-- The environment of a step. Each step reads the fields of its own part. -/
structure bridge_env where
  signal : Bool := false
  drain : drain_env := {}
  fds_fit : Bool := true
  select : select_env := .timeout
  connect : Bool := true
  config : config_env := {}
  accept : accept_env := .again
  client : read_env := .soft
  now : Nat → Int := fun _ => 0
  conf : conf_read_env := {}
  data : read_env := .soft
  client_write : Nat → List write_ret := fun _ => []

/-! ## Parts of the loop -/

/-- `should_disconnect_kiss_client`. -/
def should_disconnect_kiss_client (ret : Lhkt) : Bool := ret = .ERR_CLIENT_SOCKET

/-- `lhkt_tcp_server_close(client_fd)` and the resets behind it. -/
def close_client (s : bridge_t) : bridge_t :=
  { s with
    rx := { s.rx with client_tx := [] }
    client_fd := false
    clients := s.clients ++ [s.rx.client_tx]
    kiss_dec := kiss_decoder_init
    kiss_params := kiss_params_init }

/-- The DATA socket is given up; everything will be configured anew. -/
def drop_data (s : bridge_t) : bridge_t :=
  { s with toio_t := bridge_loraham_disconnect_data_socket s.toio_t, config_ok := false }

/-- The CONF socket is given up; everything will be configured anew. -/
def drop_conf (s : bridge_t) : bridge_t :=
  { s with toio_t := bridge_loraham_disconnect_conf_socket s.toio_t, config_ok := false }

/-- `bridge_conf_collect_cad_stats` with the variables of the main loop. -/
def collect_cad_stats (s : bridge_t) : bridge_t :=
  let r := bridge_conf_collect_cad_stats s.conf.state s.rx.stats s.cad
  { s with rx := { s.rx with stats := r.1 }, cad := r.2 }

/-- `bridge_loraham_send_initial_config_with_state` with the variables of the
main loop. -/
def send_initial_config (e : config_env) (cfg : lhkt_config_t) (s : bridge_t) :
    bridge_t × Lhkt :=
  let r := bridge_loraham_send_initial_config_with_state e cfg s.conf
  ({ s with conf := r.1 }, r.2)

/-- `lhkt_tcp_server_close(data_fd)` at the end. -/
def close_data (d : data_t) : data_t :=
  if d.fd then { d with fd := false, link := {}, closed := d.closed ++ [d.link] } else d

/-- `lhkt_tcp_server_close(conf_fd)` at the end. -/
def close_conf (c : conf_t) : conf_t :=
  if c.fd then { c with fd := false, tx := [], events := [], closed := c.closed ++ [c.tx] } else c

/-- Behind the loop: the last CAD counts, then every socket is closed. -/
def bridge_exit (s : bridge_t) : bridge_t :=
  let s := collect_cad_stats s
  let s := if s.client_fd then close_client s else s
  { s with data := close_data s.data, conf := close_conf s.conf, pc := .done }

/-- What the main loop does with the result of a drain. -/
def handle_drain_result (ret : Lhkt) (s : bridge_t) : bridge_t :=
  if bridge_loraham_should_reconnect_data_socket ret then drop_data s
  else if bridge_loraham_should_reconnect_conf_socket ret then drop_conf s
  else if should_disconnect_kiss_client ret then close_client s
  else s

/-- The drain at the head of an iteration. -/
def bridge_drain (cfg : lhkt_config_t) (e : bridge_env) (s : bridge_t) : bridge_t × Lhkt :=
  let r := bridge_loraham_tx_queue_drain_with_client e.drain cfg s.client_fd s.toio_t s.txq
  ({ s with toio_t := r.1, txq := r.2.1 }, r.2.2)

/-- From the head of the loop to `select`. -/
def bridge_top (cfg : lhkt_config_t) (e : bridge_env) (s : bridge_t) : bridge_t :=
  let s := { s with stop := s.stop || e.signal }
  if s.stop then bridge_exit s
  else
    let r := bridge_drain cfg e s
    let s := collect_cad_stats (handle_drain_result r.2 r.1)
    -- a descriptor too large for `fd_set` is fatal
    if !e.fds_fit then bridge_exit s
    else { s with pc := .select }

/-- `bridge_loraham_connect_conf_socket`, when it succeeds. -/
def connect_conf (c : conf_t) : conf_t :=
  { c with fd := true, state := bridge_conf_state_init, tx := [], events := [] }

/-- `bridge_loraham_connect_data_socket`, when it succeeds, with a fresh framed
stream. -/
def connect_data (d : data_t) : data_t :=
  { d with fd := true, framed := loraham_framed_rx_state_init, link := {} }

/-- The configuration after a reconnect of the DATA socket. -/
def reconnect_config (e : config_env) (cfg : lhkt_config_t) (s : bridge_t) : bridge_t :=
  let r := send_initial_config e cfg s
  { r.1 with config_ok := r.2 = .OK }

/-- The configuration that is still pending. -/
def pending_config (e : config_env) (cfg : lhkt_config_t) (s : bridge_t) : bridge_t :=
  let r := send_initial_config e cfg s
  if r.2 = .OK then { r.1 with config_ok := true } else r.1

/-- The work of a `select` timeout: one reconnect or re-configuration. -/
def bridge_timeout (cfg : lhkt_config_t) (e : bridge_env) (s : bridge_t) : bridge_t :=
  -- one thing at a time: CONF, then DATA, then the configuration
  if !s.conf.fd then
    if e.connect then { s with conf := connect_conf s.conf } else s
  else if !s.data.fd then
    if e.connect then
      -- a new DATA connection configures CONF again
      reconnect_config e.config cfg
        { s with rx := s.rx.count .socket_reconnects, data := connect_data s.data }
    else s
  else if !s.config_ok then pending_config e.config cfg s
  else s

/-- `select` and its outcome. Only descriptors in the set can be reported. -/
def bridge_select (cfg : lhkt_config_t) (e : bridge_env) (s : bridge_t) : bridge_t :=
  match e.select with
  | .fail => bridge_exit s
  | .eintr => { s with pc := .top }
  | .timeout => { bridge_timeout cfg e s with pc := .top }
  | .ready r =>
      { s with
        ready :=
          -- only descriptors put into the set can be ready: the listening one while no client is there
          { listen := r.listen && !s.client_fd
            client := r.client && s.client_fd
            conf := r.conf && s.conf.fd
            data := r.data && s.data.fd }
        pc := .accept }

/-- A client is connected. -/
def open_client (s : bridge_t) : bridge_t :=
  { s with
    rx := { s.rx with client_tx := [] }
    client_fd := true
    kiss_dec := kiss_decoder_init
    kiss_params := kiss_params_init }

/-- Accepting a client, from an allowed address only. -/
def bridge_accept (cfg : lhkt_config_t) (e : bridge_env) (s : bridge_t) : bridge_t :=
  if !s.client_fd ∧ s.ready.listen then
    match e.accept with
    | .again => { s with pc := .top }
    -- an accept error is not fatal, it only slows the loop down
    | .fail => { s with toio_t := (bridge_runtime_sleep_ms 100 e.signal s.toio_t).1, pc := .top }
    | .peer addr nonblocking =>
        -- a peer that is not admitted is closed, and nobody else is looked at
        if !lhkt_ipv4_in_cidr addr cfg.bind_net cfg.bind_prefix then { s with pc := .top }
        else if !nonblocking then { s with pc := .top }
        else { open_client s with pc := .client }
  else { s with pc := .client }

/-- One byte from the client. -/
def handle_client_byte (cfg : lhkt_config_t) (now : Int) (b : UInt8) (s : bridge_t) : bridge_t :=
  match kiss_decode_byte s.kiss_dec b with
  | (kiss_dec, .ok (some frame)) =>
      let r := bridge_kiss_handle_frame frame s.kiss_params cfg now (s.rx.stats.incr .kiss_rx) s.txq
      let s := { s with
        kiss_dec := kiss_dec
        kiss_params := r.1
        rx := { s.rx with stats := r.2.1 }
        txq := r.2.2.1 }
      if bridge_loraham_should_reconnect_data_socket r.2.2.2 then drop_data s
      else if bridge_loraham_should_reconnect_conf_socket r.2.2.2 then drop_conf s
      else s
  | (kiss_dec, .ok none) => { s with kiss_dec := kiss_dec }
  -- a frame that the decoder drops costs nothing but the count
  | (kiss_dec, .error _) => { s with kiss_dec := kiss_dec, rx := s.rx.count .kiss_drop }

/-- The bytes of one read from the client, the `i`th handled at time `now i`. -/
def handle_client_bytes (cfg : lhkt_config_t) (now : Nat → Int) : Nat → Bytes → bridge_t → bridge_t
  | _, [], s => s
  | i, b :: buf, s => handle_client_bytes cfg now (i + 1) buf (handle_client_byte cfg (now i) b s)

/-- Reading the client. -/
def bridge_client (cfg : lhkt_config_t) (e : bridge_env) (s : bridge_t) : bridge_t :=
  if s.client_fd ∧ s.ready.client then
    match e.client with
    | .soft => { s with pc := .top }
    | .fail => { close_client s with pc := .top }
    -- the client has closed its end
    | .read [] =>
        { close_client { s with rx := s.rx.count .client_disconnects } with pc := .top }
    | .read (b :: buf) => { handle_client_bytes cfg e.now 0 (b :: buf) s with pc := .conf }
  else { s with pc := .conf }

/-- Reading CONF. -/
def bridge_conf (e : bridge_env) (s : bridge_t) : bridge_t :=
  if s.conf.fd ∧ s.ready.conf then
    let r := bridge_conf_read_available e.conf s.conf
    let s := { s with conf := r.1 }
    -- the lines in front of the error are handled, but not collected
    if r.2 ≠ .OK then { drop_conf s with pc := .data }
    else { collect_cad_stats s with pc := .data }
  else { s with pc := .data }

/-- One read from DATA. The stream is decoded with or without a client. -/
def handle_data_bytes (client_write : Nat → List write_ret) (buf : Bytes) (s : bridge_t) :
    bridge_t × Lhkt :=
  let r := bridge_rx_handle_framed_chunk client_write s.client_fd s.data.framed buf s.rx
  ({ s with
      rx := r.1
      data := { s.data with
        framed := r.2.1
        link := { s.data.link with rx := s.data.link.rx ++ buf } } },
    r.2.2)

/-- What the main loop does with the result of a framed chunk. -/
def handle_chunk_result (ret : Lhkt) (s : bridge_t) : bridge_t :=
  if should_disconnect_kiss_client ret then close_client s
  -- any other error, of the framing or of one packet, costs the connection
  else if ret ≠ .OK then drop_data s
  else s

/-- Reading DATA. -/
def bridge_data (e : bridge_env) (s : bridge_t) : bridge_t :=
  if s.data.fd ∧ s.ready.data then
    match e.data with
    | .soft => { s with pc := .top }
    | .fail => { drop_data s with pc := .top }
    | .read [] => { drop_data s with pc := .top }
    | .read (b :: buf) =>
        let r := handle_data_bytes e.client_write (b :: buf) s
        { handle_chunk_result r.2 r.1 with pc := .top }
  else { s with pc := .top }

/-! ## The machine -/

/-- One step of the main loop. -/
def bridge_step (cfg : lhkt_config_t) (s : bridge_t) (e : bridge_env) : bridge_t :=
  match s.pc with
  | .top => bridge_top cfg e s
  | .select => bridge_select cfg e s
  | .accept => bridge_accept cfg e s
  | .client => bridge_client cfg e s
  | .conf => bridge_conf e s
  | .data => bridge_data e s
  | .done => s

/-- The environment of the start: the two connects, the first configuration, and
the listening socket. -/
structure start_env where
  conf_connect : Bool := true
  config : config_env := {}
  data_connect : Bool := true
  listen : Bool := true

/-- From the head of `lhkt_bridge_run` to its loop. -/
def bridge_start (cfg : lhkt_config_t) (e : start_env) : bridge_t :=
  let s : bridge_t := { conf := { fd := e.conf_connect } }
  let r := send_initial_config e.config cfg s
  let s := { r.1 with config_ok := r.2 = .OK, data := { fd := e.data_connect } }
  -- the daemon may be away, the listening socket may not
  if !e.listen then bridge_exit s else s

/-- The state after a run. -/
def bridge_run (cfg : lhkt_config_t) (e : start_env) (es : List bridge_env) : bridge_t :=
  run (bridge_step cfg) (bridge_start cfg e) es

/-- An iteration that passes through all parts of the loop, each part taking its
own fields of one environment. -/
def iteration (e : bridge_env) : List bridge_env := List.replicate 6 e

/-- A client connects from an address the defaults allow. -/
def client_connects : bridge_env :=
  { select := .ready { listen := true }, accept := .peer 0x7f000001 true }

/-- The connected client sends a data frame with this text, and the daemon a
line on CONF. -/
def packet_arrives (text line : Bytes) : bridge_env :=
  { select := .ready { client := true, conf := true }
    client := .read (kiss_data_frame (ui_octets
      ⟨⟨ascii "APLHM", 0, false⟩, ⟨ascii "N0CALL", 0, false⟩, [], text⟩))
    conf := { chunks := [line ++ ascii "\n"] } }

/-- The daemon sends bytes on DATA while the loop is idle. -/
def data_arrives (bytes : Bytes) : bridge_env :=
  { select := .ready { data := true }, data := .read bytes }

/-- The STATUS line of an idle daemon that sends TX_RESULT frames. -/
def status_ready : Bytes := ascii "STATUS RADIO=READY TX=0 TXRESULT=1"

/-! ## Closing -/

/-- A DATA connection that is given up is closed. -/
@[simp] theorem drop_data_fd (s : bridge_t) : (drop_data s).data.fd = false := by
  unfold drop_data bridge_loraham_disconnect_data_socket
  dsimp only
  split
  · rename_i h
    simpa using h
  · rfl

/-- The DATA connection is closed at the end. -/
@[simp] theorem close_data_fd (d : data_t) : (close_data d).fd = false := by
  unfold close_data
  split
  · rfl
  · rename_i h
    simpa using h

/-- Of DATA, leaving the loop is a close. -/
theorem bridge_exit_data (s : bridge_t) : (bridge_exit s).data = close_data s.data := by
  unfold bridge_exit
  dsimp only
  split <;> rfl

/-- Of CONF, leaving the loop is a close. -/
theorem bridge_exit_conf (s : bridge_t) : (bridge_exit s).conf = close_conf s.conf := by
  unfold bridge_exit
  dsimp only
  split <;> rfl

/-- When the loop is left, DATA is closed. -/
@[simp] theorem bridge_exit_data_fd (s : bridge_t) : (bridge_exit s).data.fd = false := by
  rw [bridge_exit_data, close_data_fd]

/-- Giving up CONF leaves DATA. -/
theorem drop_conf_data (s : bridge_t) : (drop_conf s).data = s.data := by
  unfold drop_conf bridge_loraham_disconnect_conf_socket
  dsimp only
  split <;> rfl

theorem drop_data_conf (s : bridge_t) : (drop_data s).conf = s.conf := by
  unfold drop_data bridge_loraham_disconnect_data_socket
  dsimp only
  split <;> rfl

/-- A connection that is given up joins the closed ones. -/
theorem drop_data_cases (s : bridge_t) :
    (s.data.fd = false ∧ (drop_data s).data.link = s.data.link ∧
        (drop_data s).data.closed = s.data.closed) ∨
      ((drop_data s).data.link = {} ∧
        (drop_data s).data.closed = s.data.closed ++ [s.data.link]) := by
  unfold drop_data bridge_loraham_disconnect_data_socket
  dsimp only
  split
  · rename_i hfd
    exact .inl ⟨by simpa using hfd, rfl, rfl⟩
  · exact .inr ⟨rfl, rfl⟩

/-- A connection that is closed joins the closed ones, if it was open. -/
theorem close_data_cases (d : data_t) :
    (d.fd = false ∧ close_data d = d) ∨
      ((close_data d).fd = false ∧ (close_data d).link = {} ∧
        (close_data d).closed = d.closed ++ [d.link]) := by
  unfold close_data
  split
  · exact .inr ⟨rfl, rfl, rfl⟩
  · rename_i hfd
    exact .inl ⟨by simpa using hfd, rfl⟩

theorem bridge_exit_txq (s : bridge_t) : (bridge_exit s).txq = s.txq := by
  unfold bridge_exit
  dsimp only
  split <;> rfl

/-- What the loop makes of the result of a drain leaves the queue. -/
theorem handle_drain_result_txq (ret : Lhkt) (s : bridge_t) :
    (handle_drain_result ret s).txq = s.txq := by
  unfold handle_drain_result
  split
  · rfl
  · split
    · rfl
    · split <;> rfl

/-- What the loop makes of the result of a chunk leaves the queue. -/
theorem handle_chunk_result_txq (ret : Lhkt) (s : bridge_t) :
    (handle_chunk_result ret s).txq = s.txq := by
  unfold handle_chunk_result
  split
  · rfl
  · split <;> rfl

theorem bridge_exit_records (s : bridge_t) : (bridge_exit s).records = s.records := by
  unfold bridge_exit
  dsimp only
  split <;> rfl

theorem drop_data_records (s : bridge_t) : (drop_data s).records = s.records := by
  unfold drop_data bridge_loraham_disconnect_data_socket
  dsimp only
  split <;> rfl

theorem drop_conf_records (s : bridge_t) : (drop_conf s).records = s.records := by
  unfold drop_conf bridge_loraham_disconnect_conf_socket
  dsimp only
  split <;> rfl

/-! ## What a step can do -/

/-- The state behind a drain and the collection. -/
def drained (cfg : lhkt_config_t) (e : bridge_env) (s : bridge_t) : bridge_t :=
  collect_cad_stats (handle_drain_result (bridge_drain cfg e s).2 (bridge_drain cfg e s).1)

/-- A stop request at the head of the loop leaves it. -/
theorem bridge_top_stopping {cfg : lhkt_config_t} {e : bridge_env} {s : bridge_t}
    (h : (s.stop || e.signal) = true) :
    bridge_top cfg e s = bridge_exit { s with stop := true } := by
  unfold bridge_top
  dsimp only
  rw [if_pos h, h]

/-- Without a stop request the head of the loop drains. -/
theorem bridge_top_running {cfg : lhkt_config_t} {e : bridge_env} {s : bridge_t}
    (h : (s.stop || e.signal) = false) :
    bridge_top cfg e s = if !e.fds_fit then bridge_exit (drained cfg e s)
      else { drained cfg e s with pc := .select } := by
  have hsame : ({ s with stop := s.stop || e.signal } : bridge_t) = s := by
    rw [h, ← (Bool.or_eq_false_iff.mp h).1]
  unfold bridge_top
  dsimp only
  rw [if_neg (by rw [h]; decide), hsame]
  rfl

/-- A step at the head of the loop. -/
theorem bridge_step_top (cfg : lhkt_config_t) (e : bridge_env) {s : bridge_t} (h : s.pc = .top) :
    bridge_step cfg s e = bridge_top cfg e s := by
  rw [bridge_step, h]

theorem bridge_step_client (cfg : lhkt_config_t) (e : bridge_env) {s : bridge_t}
    (h : s.pc = .client) : bridge_step cfg s e = bridge_client cfg e s := by
  rw [bridge_step, h]

/-- The collection behind a drain leaves the queue. -/
theorem drained_txq (cfg : lhkt_config_t) (e : bridge_env) (s : bridge_t) :
    (drained cfg e s).txq = (bridge_drain cfg e s).1.txq :=
  handle_drain_result_txq (bridge_drain cfg e s).2 (bridge_drain cfg e s).1

/-- Only variables differ that no connection, queue or configuration flag
depends on. -/
def Local (s s' : bridge_t) : Prop :=
  ∃ pc ready stop cad kiss_dec kiss_params stats, s' =
    { s with
      pc := pc
      ready := ready
      stop := stop
      cad := cad
      kiss_dec := kiss_dec
      kiss_params := kiss_params
      rx := { s.rx with stats := stats } }

/-- The ways through the work of a `select` timeout. -/
theorem bridge_timeout_elim {P : bridge_t → Prop} (cfg : lhkt_config_t) (e : bridge_env)
    (s : bridge_t) (h : P s)
    (hconnect : s.conf.fd = false → P { s with conf := connect_conf s.conf })
    (hreconnect : s.conf.fd = true → s.data.fd = false → e.connect = true →
      P (reconnect_config e.config cfg
        { s with rx := s.rx.count .socket_reconnects, data := connect_data s.data }))
    (hpending : s.conf.fd = true → s.data.fd = true → s.config_ok = false →
      P (pending_config e.config cfg s)) :
    P (bridge_timeout cfg e s) := by
  unfold bridge_timeout
  split
  · rename_i hfd
    split
    · exact hconnect (by simpa using hfd)
    · exact h
  · rename_i hfd
    have hfd : s.conf.fd = true := by simpa using hfd
    split
    · rename_i hdfd
      split
      · rename_i hup
        exact hreconnect hfd (by simpa using hdfd) hup
      · exact h
    · rename_i hdfd
      split
      · rename_i hpend
        exact hpending hfd (by simpa using hdfd) (by simpa using hpend)
      · exact h

/-- The bytes of a read are handled one by one: the decoder moves, and a complete
frame may add a packet. -/
theorem handle_client_bytes_elim {P : bridge_t → Prop} (cfg : lhkt_config_t) (now : Nat → Int)
    (hlocal : ∀ s s', Local s s' → P s → P s')
    (hdata : ∀ s, P s → P (drop_data s))
    (hconf : ∀ s, P s → P (drop_conf s))
    (hpush : ∀ s kiss_frame stats now, P s → P { s with
      txq := (bridge_kiss_handle_frame kiss_frame s.kiss_params cfg now stats s.txq).2.2.1 })
    (buf : Bytes) : ∀ i s, P s → P (handle_client_bytes cfg now i buf s) := by
  induction buf with
  | nil => exact fun i s hs => hs
  | cons b buf ih =>
      intro i s hs
      refine ih (i + 1) _ ?_
      unfold handle_client_byte
      split
      · rename_i kiss_dec frame _
        have hq := hlocal _ _ ⟨s.pc, s.ready, s.stop, s.cad, kiss_dec,
          (bridge_kiss_handle_frame frame s.kiss_params cfg (now i)
            (s.rx.stats.incr .kiss_rx) s.txq).1, (bridge_kiss_handle_frame frame
            s.kiss_params cfg (now i) (s.rx.stats.incr .kiss_rx) s.txq).2.1, rfl⟩
          (hpush s frame (s.rx.stats.incr .kiss_rx) (now i) hs)
        dsimp only
        split
        · exact hdata _ hq
        · split
          · exact hconf _ hq
          · exact hq
      · exact hlocal s _ ⟨s.pc, s.ready, s.stop, s.cad, _, s.kiss_params, s.rx.stats, rfl⟩ hs
      · exact hlocal s _ ⟨s.pc, s.ready, s.stop, s.cad, _, s.kiss_params, _, rfl⟩ hs

/-- **The actions of the main loop.** A property that does not look at the local
variables survives a step when it survives each of the things the loop does to
connections, queue and configuration. -/
theorem bridge_step_elim {P : bridge_t → Prop} (cfg : lhkt_config_t) (s : bridge_t)
    (e : bridge_env) (h : P s)
    (hlocal : ∀ s s', Local s s' → P s → P s')
    (hexit : ∀ s, P s → P (bridge_exit s))
    (hclose : ∀ s, P s → P (close_client s))
    (hdata : ∀ s, P s → P (drop_data s))
    (hconf : ∀ s, P s → P (drop_conf s))
    (hdrain : s.pc = .top → (s.stop || e.signal) = false →
      P (handle_drain_result (bridge_drain cfg e s).2 (bridge_drain cfg e s).1))
    (hconnect : ∀ s, P s → s.conf.fd = false → P { s with conf := connect_conf s.conf })
    (hreconnect : s.pc = .select → e.select = .timeout → s.conf.fd = true → s.data.fd = false →
      e.connect = true → P (reconnect_config e.config cfg
        { s with rx := s.rx.count .socket_reconnects, data := connect_data s.data }))
    (hpending : s.pc = .select → e.select = .timeout → s.conf.fd = true → s.data.fd = true →
      s.config_ok = false → P (pending_config e.config cfg s))
    (hopen : ∀ s, P s → s.client_fd = false → P (open_client s))
    (hpush : ∀ s kiss_frame stats now, P s → P { s with
      txq := (bridge_kiss_handle_frame kiss_frame s.kiss_params cfg now stats s.txq).2.2.1 })
    (hread : ∀ s, P s → s.conf.fd = true →
      P { s with conf := (bridge_conf_read_available e.conf s.conf).1 })
    (hchunk : ∀ b buf, s.pc = .data → s.data.fd = true → e.data = .read (b :: buf) →
      P (handle_chunk_result (handle_data_bytes e.client_write (b :: buf) s).2
        (handle_data_bytes e.client_write (b :: buf) s).1)) :
    P (bridge_step cfg s e) := by
  have hpc : ∀ s pc, P s → P { s with pc := pc } := fun s pc hs =>
    hlocal s _ ⟨pc, s.ready, s.stop, s.cad, s.kiss_dec, s.kiss_params, s.rx.stats, rfl⟩ hs
  have hcount : ∀ s counter, P s → P { s with rx := s.rx.count counter } := fun s counter hs =>
    hlocal s _ ⟨s.pc, s.ready, s.stop, s.cad, s.kiss_dec, s.kiss_params, _, rfl⟩ hs
  have hcad : ∀ s, P s → P (collect_cad_stats s) := fun s hs =>
    hlocal s _ ⟨s.pc, s.ready, s.stop, _, s.kiss_dec, s.kiss_params, _, rfl⟩ hs
  unfold bridge_step
  split
  · -- draining
    rename_i htop
    by_cases hstop : (s.stop || e.signal) = true
    · rw [bridge_top_stopping hstop]
      exact hexit _ (hlocal s _ ⟨s.pc, s.ready, _, s.cad, s.kiss_dec, s.kiss_params, s.rx.stats,
        rfl⟩ h)
    · have hrun : (s.stop || e.signal) = false := by simpa using hstop
      have hdrained : P (drained cfg e s) := hcad _ (hdrain htop hrun)
      rw [bridge_top_running hrun]
      split
      · exact hexit _ hdrained
      · exact hpc _ _ hdrained
  · rename_i hsel
    unfold bridge_select
    split
    · exact hexit s h
    · exact hpc _ _ h
    · rename_i htimeout
      exact hpc _ _ (bridge_timeout_elim cfg e s h (hconnect s h) (hreconnect hsel htimeout)
        (hpending hsel htimeout))
    · exact hlocal s _ ⟨_, _, s.stop, s.cad, s.kiss_dec, s.kiss_params, s.rx.stats, rfl⟩ h
  · unfold bridge_accept
    split
    · rename_i hlisten
      split
      · exact hpc _ _ h
      · obtain ⟨stop, hsleep⟩ := bridge_runtime_sleep_ms_frame 100 e.signal s.toio_t
        rw [hsleep]
        exact hlocal s _ ⟨_, s.ready, stop, s.cad, s.kiss_dec, s.kiss_params, s.rx.stats, rfl⟩ h
      · split
        · exact hpc _ _ h
        · split
          · exact hpc _ _ h
          · exact hpc _ _ (hopen s h (by simpa using hlisten.1))
    · exact hpc _ _ h
  · unfold bridge_client
    split
    · split
      · exact hpc _ _ h
      · exact hpc _ _ (hclose s h)
      · exact hpc _ _ (hclose _ (hcount s _ h))
      · exact hpc _ _ (handle_client_bytes_elim cfg e.now hlocal hdata hconf hpush _ 0 s h)
    · exact hpc _ _ h
  · unfold bridge_conf
    split
    · rename_i hready
      dsimp only
      split
      · exact hpc _ _ (hconf _ (hread s h hready.1))
      · exact hpc _ _ (hcad _ (hread s h hready.1))
    · exact hpc _ _ h
  · rename_i hpcd
    unfold bridge_data
    split
    · rename_i hready
      split
      · exact hpc _ _ h
      · exact hpc _ _ (hdata s h)
      · exact hpc _ _ (hdata s h)
      · rename_i b buf hbytes
        exact hpc _ _ (hchunk b buf hpcd hready.1 hbytes)
    · exact hpc _ _ h
  · exact h

end LorahamKissTnc.Bridge
