/-
The bridge recovers, and its queue clears.

`Cooperates` says what the outside does when nothing is wrong: connects succeed,
sockets take what they are given, and CONF reports an idle daemon that sends
TX_RESULT frames. Nothing is asked of the TX_RESULT frames themselves, of the
client, or of the state the bridge is in: whatever happened before, and however
often a TX_RESULT fails to come, each iteration either brings the two
connections a step closer to being configured or takes a packet out of the queue
(`left`). With `n` packets queued, `n + 2` iterations are enough
(`queue_clears`), and none of the packets is lost on the way: what is written
and what is queued are together always the same packets (`pending_packets`).

The work is in `drain_select_cooperates`, the one induction, over the rounds of a
drain; the rest puts the pieces of a transmission together when each of them
succeeds.
-/
import LorahamKissTnc.Connections
import LorahamKissTnc.TxWait
import LorahamKissTnc.TxAccounting
import LorahamKissTnc.ConfLines
import LorahamKissTnc.RxFrequency
import LorahamKissTnc.TxAges
import LorahamKissTnc.Lib.Progress

set_option autoImplicit false

open LorahamKissTnc.Lib.CString LorahamKissTnc.Lib.Channel LorahamKissTnc.Lib.Machine
open LorahamKissTnc.Lib.Progress LorahamKissTnc.Config LorahamKissTnc.LorahamSock
open LorahamKissTnc.BridgeConf LorahamKissTnc.BridgeTxQueue LorahamKissTnc.BridgeRx
open LorahamKissTnc.BridgeKiss LorahamKissTnc.BridgeLoraham LorahamKissTnc.Bridge
open LorahamKissTnc.TxOnce LorahamKissTnc.TxAccounting LorahamKissTnc.RxFrequency
open LorahamKissTnc.TxWait
open LorahamKissTnc.ConfLines LorahamKissTnc.OnAir LorahamKissTnc.FramedStream
open LorahamKissTnc.TxAges LorahamKissTnc.Connections

namespace LorahamKissTnc.Recovery

variable {cfg : lhkt_config_t}

/-! ## What the outside does -/

/-- The socket takes whatever it is given, and says so. -/
def Takes (e : sock_env) : Prop := ∀ buf, (loraham_sock_write e buf).ok = true

/-- Both frequencies are known, and their commands fit the line buffer. -/
structure Tunable (cfg : lhkt_config_t) : Prop where
  frequencies : Frequencies cfg
  rx_line : (config_line cfg (some cfg.rx_freq)).length < 256
  tx_line : (config_line cfg (some cfg.tx_freq)).length < 256

/-- CONF has reported an idle daemon that sends TX_RESULT frames. -/
structure Idle (state : bridge_conf_state_t) : Prop where
  have_status : state.have_status = true
  txresult : bridge_conf_txresult_enabled state = true
  tx_idle : state.tx_busy = false

/-- In an iteration that ends in a `select` timeout nothing goes wrong. What comes
back for a packet is left open. -/
structure Cooperates (e : bridge_env) : Prop where
  signal : e.signal = false
  fds_fit : e.fds_fit = true
  select : e.select = .timeout
  connect : e.connect = true
  config : Takes e.config.config
  txresult : Takes e.config.txresult
  status : Takes e.config.status
  reports : ∀ i c, Idle (bridge_conf_read_available (e.drain.rounds i).read c).1.state ∧
    (e.drain.rounds i).read.last = .again
  shift : Takes e.drain.send.shift
  settle : e.drain.send.settle_signal = false
  write : Takes e.drain.send.write
  restore : Takes e.drain.send.restore.first
  rounds : ∀ round ∈ e.drain.send.result.rounds, round.signal = false

/-- An iteration in which nothing is readable. -/
def quiet (e : bridge_env) : List bridge_env := [e, e]

/-- No packet in the queue has expired when the drain looks at it. -/
def Fresh (cfg : lhkt_config_t) (e : drain_env) (q : txq_t) : Prop :=
  ∀ i, ∀ item ∈ q.queue.toList, (e.rounds i).now - item.queued_ms < cfg.tx_packet_ttl_ms

/-! ## Commands that succeed -/

/-- A socket that takes everything takes a command. -/
theorem Takes.send_command {e : sock_env} (h : Takes e) (line : Bytes) (tx : List (Sent UInt8)) :
    (send_command e line tx).2 = .OK := if_pos (h line)

/-- A socket that takes everything takes a configuration with a positive frequency. -/
theorem Takes.send_config_freq {e : sock_env} (h : Takes e) (cfg : lhkt_config_t) {freq : ℚ}
    (hpos : 0 < freq) (hline : (config_line cfg (some freq)).length < 256) {c : conf_t}
    (hfd : c.fd = true) : (bridge_loraham_send_config_freq e cfg freq c).2 = .OK := by
  have hsent : (loraham_send_config_freq e cfg freq c.tx).2 = .OK := by
    unfold loraham_send_config_freq loraham_send_config_line
    rw [if_neg (not_le.mpr hpos), if_neg (by omega)]
    exact h.send_command _ _
  unfold bridge_loraham_send_config_freq
  rw [if_neg (not_le.mpr hpos), if_neg (by simp [hfd])]
  dsimp only
  rw [if_neg (by simp [hsent])]

/-- The restore succeeds at once and looks at no stop request. -/
theorem restore_succeeds (ht : Tunable cfg) {e : restore_env} (h : Takes e.first) {s : io_t}
    (hfd : s.conf.fd = true) :
    (bridge_loraham_restore_rx_freq e cfg s).2 = .OK ∧
      (bridge_loraham_restore_rx_freq e cfg s).1.stop = s.stop := by
  have hsent := h.send_config_freq cfg ht.frequencies.rx_pos ht.rx_line hfd
  unfold bridge_loraham_restore_rx_freq
  rw [if_neg (by simp [ht.frequencies.have_rx])]
  split
  · exact ⟨rfl, rfl⟩
  · dsimp only
    rw [if_pos hsent]
    exact ⟨rfl, rfl⟩

/-- The shift succeeds, and its pause is not cut short. -/
theorem tx_prepare_succeeds (ht : Tunable cfg) {e : send_env} (h : Takes e.shift)
    (hsettle : e.settle_signal = false) {s : io_t} (hfd : s.conf.fd = true)
    (hstop : s.stop = false) :
    (tx_prepare e cfg s).2 = .OK ∧ (tx_prepare e cfg s).1.stop = false := by
  have hsent := h.send_config_freq cfg ht.frequencies.tx_pos ht.tx_line hfd
  have hsleep : ∀ (ms : Int) (s : io_t), s.stop = false →
      (bridge_runtime_sleep_ms ms e.settle_signal s).2 = true ∧
        (bridge_runtime_sleep_ms ms e.settle_signal s).1.stop = false := by
    intro ms s hs
    unfold bridge_runtime_sleep_ms
    split <;> simp [hs, hsettle]
  unfold tx_prepare
  split
  · exact ⟨rfl, hstop⟩
  · dsimp only
    rw [if_neg (by simp [hsent])]
    obtain ⟨hslept, hrun⟩ := hsleep cfg.tx_settle_ms
      { s with conf := (bridge_loraham_send_config_freq e.shift cfg cfg.tx_freq s.conf).1 } hstop
    rw [if_pos hslept]
    exact ⟨rfl, hrun⟩

/-- The configuration succeeds. -/
theorem send_initial_config_succeeds (ht : Tunable cfg) {e : bridge_env} (he : Cooperates e)
    {c : conf_t} (hfd : c.fd = true) :
    (bridge_loraham_send_initial_config_with_state e.config cfg c).2 = .OK := by
  have hconfig : ∀ tx, (loraham_send_config e.config.config cfg tx).2 = .OK := by
    intro tx
    unfold loraham_send_config loraham_send_config_freq loraham_send_config_line
    rw [if_pos ht.frequencies.have_rx, if_neg (not_le.mpr ht.frequencies.rx_pos),
      if_neg (Nat.not_le.mpr ht.rx_line)]
    exact he.config.send_command _ _
  have htxresult : ∀ tx, (loraham_send_txresult_enable e.config.txresult tx).2 = .OK :=
    fun tx => he.txresult.send_command _ _
  have hstatus : ∀ tx, (bridge_loraham_send_status_request e.config.status tx).2 = .OK :=
    fun tx => he.status.send_command _ _
  unfold bridge_loraham_send_initial_config_with_state
  rw [if_neg (by simp [hfd])]
  simp [hconfig, htxresult, hstatus]

/-! ## The wait for a TX_RESULT -/

/-- Only a round with a stop request requests a stop. -/
theorem wait_rounds_stop (w : Nat → List write_ret) (deadline : Int) (rounds : List data_round)
    (h : ∀ round ∈ rounds, round.signal = false) :
    ∀ l, l.stop = false → (wait_rounds w deadline rounds l).1.stop = false := by
  intro l hl
  refine wait_rounds_running (P := fun _ rounds r =>
    (∀ round ∈ rounds, round.signal = false) → r.1.stop = false) w deadline
    (fun _ hstop _ => hstop) ?_ ?_ ?_ ?_ rounds l hl h
  · exact fun _ round _ _ h => h round List.mem_cons_self
  · exact fun _ round _ _ ih h => ih fun r hr => h r (List.mem_cons_of_mem round hr)
  · exact fun _ round _ _ _ _ _ _ _ _ ih h => ih fun r hr => h r (List.mem_cons_of_mem round hr)
  · exact fun _ _ _ _ _ _ _ _ _ _ hrun _ => hrun

/-- The client is fine, or given up. -/
def ClientError (ret : Lhkt) : Prop := ret = .OK ∨ ret = .ERR_CLIENT_SOCKET

/-- All that can go wrong with the client in a wait is its socket. -/
theorem waitInvariant_clientError (w : Nat → List write_ret) :
    WaitInvariant w (fun l => ClientError l.client_error) where
  decoded := fun _ _ hl => hl
  counted := fun _ hl => hl
  frame := by
    intro frame l hl
    unfold wait_frame
    dsimp only
    split
    · exact .inr rfl
    · exact hl
  stopped := fun _ _ hl => hl
  received := fun _ _ _ hl => hl

/-- A wait without signals requests no stop and has no other error for the client. -/
theorem wait_tx_result_succeeds (cfg : lhkt_config_t) {e : result_env}
    (h : ∀ round ∈ e.rounds, round.signal = false) (client_fd : Bool) {s : io_t}
    (hstop : s.stop = false) :
    (bridge_loraham_wait_tx_result e cfg client_fd s).1.stop = false ∧
      ClientError (bridge_loraham_wait_tx_result e cfg client_fd s).2.1 := by
  unfold bridge_loraham_wait_tx_result
  split
  · exact ⟨hstop, .inl rfl⟩
  · exact ⟨wait_rounds_stop e.client _ e.rounds h _ hstop,
      (waitInvariant_clientError e.client).rounds _ e.rounds
        ⟨s.stop, s.rx, s.data, client_fd, .OK⟩ (.inl rfl)⟩

/-- The packet is out; whatever comes back, the radio is on the RX frequency again
and no stop was requested. -/
theorem tx_confirm_result_succeeds (ht : Tunable cfg) {e : send_env} (h : Takes e.restore.first)
    (hrounds : ∀ round ∈ e.result.rounds, round.signal = false) (client_fd : Bool) (packet : Bytes)
    {s : io_t} (hfd : s.conf.fd = true) (hstop : s.stop = false) :
    (tx_confirm_result e cfg client_fd packet s).1.stop = false ∧
      ((tx_confirm_result e cfg client_fd packet s).2 = .ERR_TX_RESULT ∨
        ClientError (tx_confirm_result e cfg client_fd packet s).2) := by
  obtain ⟨hwaited, hclient⟩ := wait_tx_result_succeeds cfg hrounds client_fd hstop
  have hconf := wait_tx_result_conf cfg e.result client_fd s
  unfold tx_confirm_result
  generalize bridge_loraham_wait_tx_result e.result cfg client_fd s = r at hwaited hclient hconf ⊢
  obtain ⟨s', client_error, ret⟩ := r
  have hopen : s'.conf.fd = true := by
    rw [show s'.conf = s.conf from hconf]
    exact hfd
  match ret with
  | .error _ =>
      obtain ⟨_, hrun⟩ := restore_succeeds ht h
        (s := (s'.count .tx_unconfirmed).log_tx .unconfirmed packet) hopen
      exact ⟨hrun.trans hwaited, .inl rfl⟩
  | .ok result =>
      obtain ⟨_, _, hlogged⟩ := tx_result_logged_frame packet result s'
      have hopen' : (tx_result_logged packet result s').conf.fd = true := by
        rw [hlogged]
        exact hopen
      have hstop' : (tx_result_logged packet result s').stop = false := by
        rw [hlogged]
        exact hwaited
      obtain ⟨hok, hrun⟩ := restore_succeeds ht h hopen'
      dsimp only
      unfold tx_result_received
      dsimp only
      rw [if_neg (by simp [hok])]
      split
      · exact ⟨hrun.trans hstop', .inr hclient⟩
      · exact ⟨hrun.trans hstop', .inr hclient⟩

/-! ## A transmission -/

/-- The packet of a drain is out: it is completely written behind the others, and
the CONF connection is not given up. -/
structure Transmitted (packet : Bytes) (s : io_t) (r : io_t × Lhkt × Bool) : Prop where
  written : r.2.2 = true
  ret : r.2.1 = .ERR_TX_RESULT ∨ ClientError r.2.1
  stop : r.1.stop = false
  frame : ∃ sent, r.1.data.link.tx = s.data.link.tx ++ [sent] ∧ sent.Complete ∧
    sent.buf = framed_tx_packet packet

/-- **A transmission** whose writes succeed gets the packet out. -/
theorem send_packet_succeeds (ht : Tunable cfg) {e : bridge_env} (he : Cooperates e)
    (client_fd : Bool) {packet : Bytes} {s : io_t} (hne : packet.length ≠ 0)
    (hlen : packet.length ≤ LHKT_LORAHAM_TX_MAX) (hdata : s.data.fd = true)
    (hconf : s.conf.fd = true) (hidle : Idle s.conf.state) (hstop : s.stop = false) :
    Transmitted packet s
      (bridge_loraham_send_packet_with_client e.drain.send cfg client_fd packet s) := by
  have hsendable : Sendable cfg packet s :=
    ⟨hne, hdata, ht.frequencies.have_tx, ht.frequencies.have_rx⟩
  obtain ⟨hprep, hrun⟩ := tx_prepare_succeeds ht he.shift he.settle hconf hstop
  obtain ⟨hlink, hret⟩ := tx_sent_link e.drain.send cfg packet s
  have hok : (loraham_send_framed_tx_packet e.drain.send.write packet s.data.link.tx).2 = .OK := by
    unfold loraham_send_framed_tx_packet
    rw [if_neg (by omega)]
    exact if_pos (he.write _)
  have hw := hret.trans hok
  obtain ⟨sent, happ, hcomplete, hbuf⟩ := send_framed_tx_packet_ok hok
  -- behind the write the CONF connection is as it was
  obtain ⟨stop, stats, tx, freqs, hcmd⟩ := commandsOnly_tx_prepare e.drain.send cfg s
  have hsent : (tx_sent e.drain.send cfg packet s).conf
      = { s.conf with tx := tx, freqs := freqs } := by
    unfold tx_sent bridge_loraham_write
    rw [hcmd]
  have hstop' : (tx_sent e.drain.send cfg packet s).stop = false := hrun
  rw [send_packet_with_client]
  refine send_packet_ways (P := Transmitted packet s) true e.drain.send cfg client_fd packet s
    (fun h => absurd h hne) (fun _ _ h => absurd hsendable h) (fun _ h => absurd hprep h)
    (fun _ _ h => absurd hw h) (fun _ => ?_)
  have henabled : bridge_conf_txresult_enabled (tx_sent e.drain.send cfg packet s).conf.state
      = true := by
    rw [hsent]
    exact hidle.txresult
  unfold tx_confirm
  rw [if_pos henabled, if_pos rfl]
  obtain ⟨hend, hends⟩ := tx_confirm_result_succeeds ht he.restore he.rounds client_fd packet
    (s := tx_sent e.drain.send cfg packet s) (by rw [hsent]; exact hconf) hstop'
  obtain ⟨_, _, hdata'⟩ := tx_confirm_result_data e.drain.send cfg client_fd packet
    (tx_sent e.drain.send cfg packet s)
  refine ⟨rfl, hends, hend, sent, ?_, hcomplete, hbuf⟩
  rw [hdata']
  exact hlink.trans happ

/-! ## A drain -/

/-- Towards an idle radio the head expires or is sent; it never waits. -/
theorem head_decision_idle (cfg : lhkt_config_t) {conf_state : Option bridge_conf_state_t}
    (h : conf_state.any (·.tx_busy) = false) (item : bridge_tx_item_t) (now : Int) :
    ((bridge_tx_head_decision cfg conf_state item now).2 = .DROP ∧
        cfg.tx_packet_ttl_ms ≤ now - item.queued_ms) ∨
      (bridge_tx_head_decision cfg conf_state item now).2 = .SEND := by
  unfold bridge_tx_head_decision
  split
  · rename_i hexpired
    exact .inl ⟨rfl, hexpired.2⟩
  · rw [if_neg (by simp [h])]
    exact .inr rfl

/-- Where the rounds of a drain end: the connections are as they were, expired
packets are gone from the front of the queue, and with both connections open
something is sent or nothing is left. -/
structure Selected (cfg : lhkt_config_t) (e : drain_env) (s : io_t) (q : txq_t)
    (r : io_t × txq_t × drain_next) : Prop where
  data : r.1.data = s.data
  stop : r.1.stop = s.stop
  conf_fd : r.1.conf.fd = s.conf.fd
  behind : r.2.1.queue.packets <:+ q.queue.packets
  fresh : Fresh cfg e q → r.2.1.queue.packets = q.queue.packets
  ret : ∀ ret, r.2.2 = .ret ret → (s.conf.fd = true → ret = .OK) ∧
    (s.conf.fd = true → s.data.fd = true → r.2.1.queue.packets = [])
  send : ∀ item, r.2.2 = .send item → s.conf.fd = true ∧ s.data.fd = true ∧
    Idle r.1.conf.state ∧ bridge_tx_queue_head r.2.1.queue = some item

/-- **The rounds of a drain.** The induction is on the bound of the rounds; a round
that does not end the drain has dropped an expired head. -/
theorem drain_select_cooperates (cfg : lhkt_config_t) {e : drain_env}
    (he : ∀ i c, Idle (bridge_conf_read_available (e.rounds i).read c).1.state ∧
      (e.rounds i).read.last = .again) (left : Nat) :
    ∀ i s q, q.queue.count < left → Selected cfg e s q (drain_select e cfg left i s q) := by
  induction left with
  | zero => exact fun i s q h => absurd h (Nat.not_lt_zero _)
  | succ left ih =>
      intro i s q hcount
      unfold drain_select
      split
      · -- nothing is queued
        rename_i hnone
        have hempty : q.queue.packets = [] := by
          rw [bridge_tx_queue_head_eq, List.head?_eq_none_iff] at hnone
          unfold bridge_tx_queue_t.packets
          rw [hnone, List.map_nil]
        exact ⟨rfl, rfl, rfl, List.suffix_rfl, fun _ => rfl,
          fun ret hret => ⟨fun _ => (drain_next.ret.inj hret).symm, fun _ _ => hempty⟩,
          fun _ h => nomatch h⟩
      · rename_i item hitem
        -- CONF is read first, and what it says is that the daemon is idle
        have hread : (drain_read (e.rounds i).read s.conf).2 = .OK ∧
            (drain_read (e.rounds i).read s.conf).1.fd = s.conf.fd ∧
            (s.conf.fd = true → Idle (drain_read (e.rounds i).read s.conf).1.state) := by
          unfold drain_read
          split
          · obtain ⟨hidle, hlast⟩ := he i s.conf
            obtain ⟨_, _, hframe⟩ := bridge_conf_read_available_frame (e.rounds i).read s.conf
            exact ⟨if_pos hlast, by rw [hframe], fun _ => hidle⟩
          · rename_i hclosed
            exact ⟨rfl, rfl, fun hopen => absurd hopen hclosed⟩
        dsimp only
        generalize drain_read (e.rounds i).read s.conf = r at hread ⊢
        obtain ⟨c, ret⟩ := r
        obtain ⟨rfl, hfd, hidle⟩ : ret = .OK ∧ c.fd = s.conf.fd ∧
          (s.conf.fd = true → Idle c.state) := hread
        dsimp only
        rw [if_neg (by simp), if_neg (by
          rintro ⟨hopen, hno⟩
          simp [(hidle (hfd.symm.trans hopen)).have_status] at hno)]
        split
        · -- a stale answer about TX_RESULT stops the drain of a closed connection only
          rename_i hoff
          have hclosed : s.conf.fd ≠ true := by
            intro hopen
            have henabled := (hidle hopen).txresult
            unfold bridge_conf_txresult_enabled at henabled
            simp [hoff.1] at henabled
            simp [henabled] at hoff
          exact ⟨rfl, rfl, hfd, List.suffix_rfl, fun _ => rfl,
            fun _ _ => ⟨fun hopen => absurd hopen hclosed, fun hopen => absurd hopen hclosed⟩,
            fun _ h => nomatch h⟩
        · have hbusy : (if c.fd = true then some c.state else none).any (·.tx_busy) = false := by
            split
            · rename_i hopen
              simp [(hidle (hfd.symm.trans hopen)).tx_idle]
            · rfl
          have hdecision := head_decision_idle cfg hbusy item (e.rounds i).now
          obtain ⟨hpacket, hqueued⟩ := bridge_tx_head_decision_item cfg
            (if c.fd = true then some c.state else none) item (e.rounds i).now
          generalize bridge_tx_head_decision cfg (if c.fd = true then some c.state else none) item
            (e.rounds i).now = d at hdecision hpacket hqueued ⊢
          obtain ⟨item', decision⟩ := d
          have hpacket : item'.packet = item.packet := hpacket
          have hpackets := packets_set_head hitem hpacket
          have hcount' := count_of_head hitem
          have hhead : bridge_tx_queue_head (bridge_tx_queue_set_head q.queue item')
              = some item' := by
            rw [bridge_tx_queue_head_eq, toList_set_head item' hcount', List.head?_cons]
          rcases hdecision with ⟨hdrop, hexpired⟩ | hsend
          · -- the head has expired: the rounds go on behind it
            have hdrop : decision = .DROP := hdrop
            subst hdrop
            have hpop := packets_of_head hhead
            have hrest := ih (i + 1) (io_t.count { s with conf := c } .loraham_drop)
              (txq_t.pop { q with queue := bridge_tx_queue_set_head q.queue item' } item'.packet
                .dropped) (by
                  show (bridge_tx_queue_pop (bridge_tx_queue_set_head q.queue item')).count < left
                  rw [count_pop]
                  show q.queue.count - 1 < left
                  omega)
            have hstale : ¬ Fresh cfg e q := by
              intro hfresh
              have hmem : item ∈ q.queue.toList := by
                rw [bridge_tx_queue_head_eq] at hitem
                exact List.mem_of_mem_head? hitem
              have hage := hfresh i item hmem
              omega
            refine ⟨hrest.data, hrest.stop, hrest.conf_fd.trans hfd, ?_,
              fun hfresh => absurd hfresh hstale, ?_, ?_⟩
            · refine hrest.behind.trans ?_
              show (bridge_tx_queue_pop (bridge_tx_queue_set_head q.queue item')).packets
                <:+ q.queue.packets
              rw [← hpackets, hpop]
              exact List.suffix_cons _ _
            · intro ret hret
              obtain ⟨hok, hempty⟩ := hrest.ret ret hret
              exact ⟨fun hopen => hok (hfd.trans hopen), fun hopen => hempty (hfd.trans hopen)⟩
            · intro item'' hsend
              obtain ⟨hopen, hrest⟩ := hrest.send item'' hsend
              exact ⟨hfd.symm.trans hopen, hrest⟩
          · have hsend : decision = .SEND := hsend
            subst hsend
            dsimp only
            have hsame : (bridge_tx_queue_set_head q.queue item').packets
                = q.queue.packets := hpackets
            split
            · rename_i hclosed
              exact ⟨rfl, rfl, hfd, by rw [hsame], fun _ => hsame,
                fun ret hret => ⟨fun _ => (drain_next.ret.inj hret).symm,
                  fun _ hopen => absurd hopen (by simpa using hclosed)⟩, fun _ h => nomatch h⟩
            · rename_i hdata
              split
              · rename_i hclosed
                have hclosed : s.conf.fd = false := hfd.symm.trans (by simpa using hclosed)
                exact ⟨rfl, rfl, hfd, by rw [hsame], fun _ => hsame,
                  fun _ _ => ⟨fun hopen => absurd (hclosed.symm.trans hopen) (by simp),
                    fun hopen => absurd (hclosed.symm.trans hopen) (by simp)⟩, fun _ h => nomatch h⟩
              · rename_i hconf
                have hopen : s.conf.fd = true := hfd.symm.trans (by simpa using hconf)
                refine ⟨rfl, rfl, hfd, by rw [tx_started, hsame], fun _ => hsame,
                  fun _ h => (nomatch h), fun item'' h => ?_⟩
                rw [← drain_next.send.inj h]
                exact ⟨hopen, by simpa using hdata, hidle hopen, hhead⟩

/-- There are as many packets as the queue counts. -/
theorem length_packets (queue : bridge_tx_queue_t) : queue.packets.length = queue.count := by
  unfold bridge_tx_queue_t.packets
  rw [List.length_map, length_toList]

/-- The packets that are written or wait to be written. -/
def pending_packets (d : data_t) (q : txq_t) : List Bytes :=
  written_packets (tx_history d) ++ q.queue.packets

/-- What a drain does when everything works. -/
structure DrainWorks (cfg : lhkt_config_t) (e : drain_env) (s : io_t) (q : txq_t)
    (r : io_t × txq_t × Lhkt) : Prop where
  stop : r.1.stop = false
  ret : s.conf.fd = true → r.2.2 ≠ .ERR_CONF_SOCKET
  shorter : r.2.1.queue.count ≤ q.queue.count
  advances : s.conf.fd = true → s.data.fd = true → r.2.1.queue.count ≤ q.queue.count - 1
  pending : Fresh cfg e q → pending_packets r.1.data r.2.1 = pending_packets s.data q

/-- **A drain** gets the head out, unless a connection is missing. -/
theorem drain_works (ht : Tunable cfg) {e : bridge_env} (he : Cooperates e) (client_fd : Bool)
    {s : io_t} {q : txq_t} (hstop : s.stop = false)
    (hq : ∀ packet ∈ q.queue.packets,
      packet.length ≠ 0 ∧ packet.length ≤ LHKT_LORAHAM_TX_MAX) :
    DrainWorks cfg e.drain s q
      (bridge_loraham_tx_queue_drain_with_client e.drain cfg client_fd s q) := by
  have hsel := drain_select_cooperates cfg he.reports (q.queue.count + 1) 0 s q (by omega)
  unfold bridge_loraham_tx_queue_drain_with_client
  generalize drain_select e.drain cfg (q.queue.count + 1) 0 s q = r at hsel ⊢
  obtain ⟨s', q', next⟩ := r
  obtain ⟨hdata, hstop', hconf, hbehind, hfresh, hret, hsend⟩ := hsel
  dsimp only at hdata hstop' hconf hbehind hfresh hret hsend
  have hshorter : q'.queue.count ≤ q.queue.count := by
    rw [← length_packets, ← length_packets]
    exact hbehind.length_le
  match next with
  | .ret ret =>
      obtain ⟨hok, hempty⟩ := hret ret rfl
      -- nothing is sent: with both connections open, the queue is empty
      refine ⟨hstop'.trans hstop, ?_, hshorter, ?_, ?_⟩
      · intro hopen hbad
        exact nomatch (hok hopen).symm.trans hbad
      · intro hopen hdopen
        have hzero := length_packets q'.queue
        rw [hempty hopen hdopen, List.length_nil] at hzero
        show q'.queue.count ≤ _
        omega
      · intro hf
        show pending_packets s'.data q' = _
        unfold pending_packets
        rw [hdata, hfresh hf]
  | .send item =>
      dsimp only
      obtain ⟨hopen, hdopen, hidle, hitem⟩ := hsend item rfl
      have hpackets := packets_of_head hitem
      have hmem : item.packet ∈ q.queue.packets := by
        apply hbehind.subset
        rw [hpackets]
        exact List.mem_cons_self
      obtain ⟨hne, hlen⟩ := hq item.packet hmem
      -- the head of the queue is sent and removed, so one packet less waits
      obtain ⟨hwritten, hends, hrun, sent, happ, hcomplete, hbuf⟩ := send_packet_succeeds ht he
        client_fd hne hlen (by rw [hdata]; exact hdopen) (hconf.trans hopen) hidle
        (hstop'.trans hstop)
      have hsub := submits_send_packet cfg e.drain.send client_fd item.packet
        (s := s') (by rw [hdata]; exact hdopen)
      generalize bridge_loraham_send_packet_with_client e.drain.send cfg client_fd item.packet s'
        = r at hwritten hends hrun happ hsub ⊢
      obtain ⟨s'', ret, written⟩ := r
      have hpop : tx_finished q' item ret written = q'.pop item.packet .sent :=
        if_pos (.inl hwritten)
      have hcount := count_of_head hitem
      have hpopped : (q'.pop item.packet .sent).queue.count = q'.queue.count - 1 :=
        count_pop q'.queue
      refine ⟨hrun, ?_, ?_, ?_, ?_⟩
      · -- a client that fails is the only error, and no reason to give CONF up
        intro _ hbad
        have hbad : ret = .ERR_CONF_SOCKET := hbad
        subst hbad
        rcases hends with h | h | h <;> exact nomatch h
      · show (tx_finished q' item ret written).queue.count ≤ _
        rw [hpop]
        omega
      · intro _ _
        show (tx_finished q' item ret written).queue.count ≤ _
        rw [hpop]
        omega
      · intro hf
        show pending_packets s''.data (tx_finished q' item ret written) = _
        have hone : written_packets [sent] = [item.packet] := by
          unfold written_packets
          rw [List.filter_cons_of_pos (by simpa using hcomplete), List.map_cons, hbuf]
          rfl
        have hhistory : tx_history s''.data = tx_history s.data ++ [sent] := by
          unfold tx_history
          rw [show s''.data.closed = s.data.closed from hsub.closed.trans (by rw [hdata]),
            show s''.data.link.tx = s.data.link.tx ++ [sent] from happ.trans (by rw [hdata]),
            List.append_assoc]
        unfold pending_packets
        rw [hpop, hhistory, written_packets_append, hone, List.append_assoc, ← hfresh hf, hpackets]
        rfl

/-! ## An iteration -/

/-- The loop is at its head and goes on. -/
structure AtTop (cfg : lhkt_config_t) (s : bridge_t) : Prop where
  pc : s.pc = .top
  stop : s.stop = false
  airworthy : Airworthy cfg s.txq
  connected : Connected s

/-- What is left to do: the packets in the queue, and the iterations until both
connections are configured. -/
def left (s : bridge_t) : Nat :=
  s.txq.queue.count + if !s.conf.fd then 2 else if !s.data.fd || !s.config_ok then 1 else 0

/-- What was accepted is fit for a frame. -/
theorem airworthy_lengths {q : txq_t} (h : Airworthy cfg q) :
    ∀ packet ∈ q.queue.packets, packet.length ≠ 0 ∧ packet.length ≤ LHKT_LORAHAM_TX_MAX := by
  intro packet hpacket
  have hacc : packet ∈ q.accepted.map tx_accept.packet := by
    rw [h.accounted]
    exact List.mem_append_right _ hpacket
  obtain ⟨a, ha, rfl⟩ := List.mem_map.mp hacc
  obtain ⟨frame, _, hair⟩ := h.frames a ha
  refine ⟨?_, hair.length_le⟩
  obtain ⟨l, hline, _⟩ := hair.line
  rw [hline]
  simp

/-- What the main loop makes of a result that does not give CONF up. -/
theorem handle_drain_result_keeps (ret : Lhkt) (s : bridge_t) :
    (handle_drain_result ret s).stop = s.stop ∧
    tx_history (handle_drain_result ret s).data = tx_history s.data ∧
    ((handle_drain_result ret s).conf.fd = true → s.conf.fd = true) ∧
    (ret ≠ .ERR_CONF_SOCKET → (handle_drain_result ret s).conf.fd = s.conf.fd) := by
  unfold handle_drain_result
  split
  · refine ⟨?_, tx_history_drop_data s, by rw [drop_data_conf]; exact id,
      fun _ => by rw [drop_data_conf]⟩
    unfold drop_data bridge_loraham_disconnect_data_socket
    dsimp only
    split <;> rfl
  · split
    · rename_i hret
      have hstop : (drop_conf s).stop = s.stop := by
        unfold drop_conf bridge_loraham_disconnect_conf_socket
        dsimp only
        split <;> rfl
      have hhistory : tx_history (drop_conf s).data = tx_history s.data := by rw [drop_conf_data]
      refine ⟨hstop, hhistory, ?_, fun hne => absurd ?_ hne⟩
      · rcases drop_conf_cases s with ⟨_, hconf⟩ | ⟨_, hconf⟩ <;> simp [hconf]
      · simpa [bridge_loraham_should_reconnect_conf_socket] using hret
    · split <;> exact ⟨rfl, rfl, id, fun _ => rfl⟩

/-- A connection of which nothing is known goes on from where it is: the timeout
opens or configures one. -/
theorem bridge_timeout_works (ht : Tunable cfg) {e : bridge_env} (he : Cooperates e) {s : bridge_t}
    (hconn : Connected s) :
    (bridge_timeout cfg e s).stop = s.stop ∧ (bridge_timeout cfg e s).txq = s.txq ∧
    tx_history (bridge_timeout cfg e s).data = tx_history s.data ∧
    (bridge_timeout cfg e s).conf.fd = true ∧
    (s.conf.fd = true → (bridge_timeout cfg e s).data.fd = true ∧
      (bridge_timeout cfg e s).config_ok = true) := by
  unfold bridge_timeout
  rw [he.connect]
  split
  · rename_i hclosed
    have hclosed : s.conf.fd = false := by simpa using hclosed
    rw [if_pos rfl]
    exact ⟨rfl, rfl, rfl, rfl, fun hopen => absurd (hclosed.symm.trans hopen) (by simp)⟩
  · rename_i hopen
    have hopen : s.conf.fd = true := by simpa using hopen
    have hconfig := send_initial_config_succeeds ht he hopen
    have hfd := (send_initial_config_conf cfg e.config s.conf).1.trans hopen
    split
    · rename_i hdata
      have hlink := hconn.data (by simpa using hdata)
      rw [if_pos rfl]
      refine ⟨rfl, rfl, ?_, hfd, fun _ => ⟨rfl, decide_eq_true hconfig⟩⟩
      unfold tx_history
      rw [hlink]
      rfl
    · rename_i hdata
      have hdata : s.data.fd = true := by simpa using hdata
      split
      · have hconfig : (send_initial_config e.config cfg s).2 = .OK := hconfig
        unfold pending_config
        dsimp only
        rw [if_pos hconfig]
        exact ⟨rfl, rfl, rfl, hfd, fun _ => ⟨hdata, rfl⟩⟩
      · rename_i hok
        exact ⟨rfl, rfl, rfl, hopen, fun _ => ⟨hdata, by simpa using hok⟩⟩

/-- **An iteration** in which everything works: the loop is at its head again, with
less to do, and no packet is lost unless it has expired. -/
theorem quiet_works (ht : Tunable cfg) {e : bridge_env} (he : Cooperates e) {s : bridge_t}
    (h : AtTop cfg s) :
    AtTop cfg (run (bridge_step cfg) s (quiet e)) ∧
    left (run (bridge_step cfg) s (quiet e)) ≤ left s - 1 ∧
    ages (run (bridge_step cfg) s (quiet e)).txq.queue <:+ ages s.txq.queue ∧
    (Fresh cfg e.drain s.txq → pending_packets (run (bridge_step cfg) s (quiet e)).data
      (run (bridge_step cfg) s (quiet e)).txq = pending_packets s.data s.txq) := by
  have hdrain := drain_works ht he s.client_fd (s := s.toio_t) h.stop
    (airworthy_lengths h.airworthy)
  have hretunes := retunes_drain cfg e.drain s.client_fd s.toio_t s.txq
  -- the state behind the drain, as far as it matters
  obtain ⟨hstop, hhistory, hclosed, hopen⟩ := handle_drain_result_keeps (bridge_drain cfg e s).2
    (bridge_drain cfg e s).1
  have hfirst : bridge_step cfg s e = { drained cfg e s with pc := .select } := by
    rw [bridge_step_top cfg e h.pc, bridge_top_running (by rw [h.stop, he.signal]; rfl),
      if_neg (by simp [he.fds_fit])]
  have hconn := bridge_step_connected cfg s e h.connected
  rw [hfirst] at hconn
  obtain ⟨hstop', htxq', hhistory', hconf', hready⟩ := bridge_timeout_works ht he hconn
  have hsecond : bridge_step cfg (bridge_step cfg s e) e
      = { bridge_timeout cfg e { drained cfg e s with pc := .select } with pc := .top } := by
    rw [hfirst, bridge_step, bridge_select, he.select]
  have hend : run (bridge_step cfg) s (quiet e)
      = { bridge_timeout cfg e { drained cfg e s with pc := .select } with pc := .top } := by
    rw [← hsecond]
    rfl
  have hairworthy : Airworthy cfg (run (bridge_step cfg) s (quiet e)).txq :=
    bridge_step_airworthy cfg _ e (bridge_step_airworthy cfg s e h.airworthy)
  have hconnected : Connected (run (bridge_step cfg) s (quiet e)) :=
    bridge_step_connected cfg _ e (bridge_step_connected cfg s e h.connected)
  rw [hend] at hairworthy hconnected ⊢
  have htxq : (bridge_timeout cfg e { drained cfg e s with pc := .select }).txq
      = (bridge_drain cfg e s).1.txq := htxq'.trans (drained_txq cfg e s)
  refine ⟨⟨rfl, ?_, hairworthy, hconnected⟩, ?_, ?_, fun hfresh => ?_⟩
  · exact hstop'.trans (hstop.trans hdrain.stop)
  · -- with CONF open everything is configured now, and the drain has made progress
    unfold left
    dsimp only
    rw [htxq, hconf']
    have hshorter : (bridge_drain cfg e s).1.txq.queue.count ≤ s.txq.queue.count := hdrain.shorter
    by_cases hfd : s.conf.fd = true
    · have hstays : ({ drained cfg e s with pc := .select } : bridge_t).conf.fd = true :=
        (hopen (hdrain.ret hfd)).trans (hretunes.fd.trans hfd)
      obtain ⟨hdata, hok⟩ := hready hstays
      rw [hdata, hok, hfd]
      have hadvances : s.data.fd = true → (bridge_drain cfg e s).1.txq.queue.count
        ≤ s.txq.queue.count - 1 := hdrain.advances hfd
      by_cases hdfd : s.data.fd = true
      · have hadvances := hadvances hdfd
        simp
        omega
      · simp [hdfd]
        omega
    · have hfd : s.conf.fd = false := by simpa using hfd
      rw [hfd]
      simp only [Bool.not_false, if_true, Bool.not_true, Bool.false_eq_true, if_false]
      split <;> omega
  · show ages (bridge_timeout cfg e { drained cfg e s with pc := .select }).txq.queue <:+ _
    rw [htxq]
    exact drain_ages e.drain s.client_fd s.toio_t s.txq
  · rw [← hdrain.pending hfresh]
    unfold pending_packets
    rw [htxq, hhistory']
    show written_packets (tx_history (handle_drain_result _ _).data) ++ _ = _
    rw [hhistory]
    rfl

/-! ## The queue clears -/

/-- Iterations one after another. -/
theorem quiet_advances (ht : Tunable cfg) :
    Advances (fun s e => run (bridge_step cfg) s (quiet e)) (fun _ e => Cooperates e) (AtTop cfg)
      left where
  keeps := fun _ _ hs he => (quiet_works ht he hs).1
  down := fun _ _ hs he => (quiet_works ht he hs).2.1

/-- Everything is done when both connections are configured and nothing is
queued. -/
theorem left_eq_zero {s : bridge_t} (h : left s = 0) : s.conf.fd = true ∧ s.data.fd = true ∧
    s.config_ok = true ∧ s.txq.queue.count = 0 := by
  unfold left at h
  have hcount : s.txq.queue.count = 0 := by omega
  rw [hcount, Nat.zero_add] at h
  split at h
  · exact absurd h (by omega)
  · rename_i hconf
    split at h
    · exact absurd h (by omega)
    · rename_i hrest
      have hrest : s.data.fd = true ∧ s.config_ok = true := by simpa using hrest
      exact ⟨by simpa using hconf, hrest.1, hrest.2, hcount⟩

/-- No packet of the queue expires as long as the clocks of these drains run. -/
def Timely (cfg : lhkt_config_t) (fs : List bridge_env) (q : txq_t) : Prop :=
  ∀ e ∈ fs, ∀ i, ∀ t ∈ ages q.queue, (e.drain.rounds i).now - t < cfg.tx_packet_ttl_ms

/-- Where every iteration is in time the first one is. -/
theorem Timely.fresh {fs : List bridge_env} {q : txq_t} (h : Timely cfg fs q) {e : bridge_env}
    (he : e ∈ fs) : Fresh cfg e.drain q :=
  fun i item hitem => h e he i item.queued_ms (List.mem_map_of_mem hitem)

/-- Iterations in which nothing expires keep every packet. -/
theorem quiet_run_pending (ht : Tunable cfg) (fs : List bridge_env) : ∀ s, AtTop cfg s →
    (∀ e ∈ fs, Cooperates e) → Timely cfg fs s.txq →
    pending_packets (run (fun s e => run (bridge_step cfg) s (quiet e)) s fs).data
      (run (fun s e => run (bridge_step cfg) s (quiet e)) s fs).txq
        = pending_packets s.data s.txq := by
  induction fs with
  | nil => exact fun s _ _ _ => rfl
  | cons e fs ih =>
      intro s hs hfs htimely
      obtain ⟨hnext, _, hages, hpending⟩ := quiet_works ht (hfs e (by simp)) hs
      rw [run_cons, ih _ hnext (fun e' he' => hfs e' (List.mem_cons_of_mem e he')) ?_]
      · exact hpending (htimely.fresh (by simp))
      · exact fun e' he' i t ht' => htimely e' (List.mem_cons_of_mem e he') i t (hages.subset ht')

/-- The queue of every state holds packets fit for the air. -/
theorem bridge_run_airworthy (cfg : lhkt_config_t) (start : start_env) (es : List bridge_env) :
    Airworthy cfg (bridge_run cfg start es).txq := by
  refine run_invariant (P := fun s => Airworthy cfg s.txq)
    (fun s e hs => bridge_step_airworthy cfg s e hs) es _ ?_
  rw [bridge_start_txq]
  exact ⟨rfl, by simp, fun _ => rfl⟩

/-- Every state of a run that is at the head of the loop. -/
theorem atTop_of_run (cfg : lhkt_config_t) (start : start_env) (es : List bridge_env)
    (hpc : (bridge_run cfg start es).pc = .top) (hstop : (bridge_run cfg start es).stop = false) :
    AtTop cfg (bridge_run cfg start es) :=
  ⟨hpc, hstop, bridge_run_airworthy cfg start es, bridge_run_connected cfg start es⟩

/-- **The queue clears.** Wherever a run has left the loop, with whatever is
missing or half done: after as many iterations in which the outside works as
there are packets queued, and two more, both connections are open and configured
and the queue is empty. When no packet expires meanwhile, every one of them has
gone out whole, in order, behind what was written before; how the daemon answers
them does not matter. -/
theorem queue_clears (cfg : lhkt_config_t) (ht : Tunable cfg) (start : start_env)
    (es fs : List bridge_env) (hpc : (bridge_run cfg start es).pc = .top)
    (hstop : (bridge_run cfg start es).stop = false) (hfs : ∀ e ∈ fs, Cooperates e)
    (hlen : (bridge_run cfg start es).txq.queue.count + 2 ≤ fs.length) :
    let s := bridge_run cfg start es
    let s' := bridge_run cfg start (es ++ (fs.map quiet).flatten)
    s'.pc = .top ∧ s'.stop = false ∧
    s'.conf.fd = true ∧ s'.data.fd = true ∧ s'.config_ok = true ∧ s'.txq.queue.count = 0 ∧
    (Timely cfg fs s.txq → written_packets (tx_history s'.data)
      = written_packets (tx_history s.data) ++ s.txq.queue.packets) := by
  intro s s'
  have htop := atTop_of_run cfg start es hpc hstop
  have hs' : s' = run (fun s e => run (bridge_step cfg) s (quiet e)) s fs := by
    show bridge_run cfg start _ = _
    unfold bridge_run
    rw [run_append, run_flatten, run_map]
    rfl
  -- each iteration brings the loop one step nearer to its goal
  have hleft : left s ≤ fs.length := by
    refine Nat.le_trans ?_ hlen
    show left s ≤ s.txq.queue.count + 2
    unfold left
    split
    · exact Nat.le_refl _
    · split <;> omega
  obtain ⟨hend, hzero⟩ := (quiet_advances ht).finished fs htop
    (guarded_of_forall fs hfs _) hleft
  have hpending := quiet_run_pending ht fs s htop hfs
  rw [← hs'] at hend hzero hpending
  obtain ⟨hconf, hdata, hok, hcount⟩ := left_eq_zero hzero
  refine ⟨hend.pc, hend.stop, hconf, hdata, hok, hcount, fun htimely => ?_⟩
  have hsame := hpending htimely
  -- nothing waits any more, so what was pending is written
  have hempty : s'.txq.queue.packets = [] := by
    rw [← List.length_eq_zero_iff, length_packets, hcount]
  unfold pending_packets at hsame
  rw [hempty, List.append_nil] at hsame
  exact hsame

/-! ## An outside that works -/

/-- A report of an idle daemon that sends TX_RESULT frames, behind whatever is left
of an earlier line. -/
def idle_report : conf_read_env := { chunks := [ch '\n' :: (status_ready ++ [ch '\n'])] }

/-- Behind a newline the reader is at the start of a line. -/
theorem reading_behind_newline (state : bridge_conf_state_t) :
    Reading [] (bridge_conf_feed_byte state (ch '\n')).1 := by
  unfold bridge_conf_feed_byte
  rw [if_neg (by decide), if_pos rfl]
  split
  · exact ⟨rfl, rfl⟩
  · rename_i hkeep
    exact ⟨(handle_line_discard state _).trans (by simpa using hkeep), rfl⟩

/-- Behind the line of a radio that is ready, TX is idle. -/
theorem handle_status_ready (state : bridge_conf_state_t) :
    Idle (bridge_conf_handle_line state status_ready) := by
  have htx : bridge_parse_flag_line status_ready (ascii "TX=") = none := by decide +kernel
  have hcad : bridge_parse_flag_line status_ready (ascii "CAD=") = none := by decide +kernel
  have hstatus : is_status status_ready = true := by decide +kernel
  have hidle : bridge_status_flag_token status_ready (ascii "TX=") = some false := by
    decide +kernel
  have hresult : bridge_status_flag_token status_ready (ascii "TXRESULT=") = some true := by
    decide +kernel
  unfold bridge_conf_handle_line
  rw [if_neg (by decide +kernel), htx]
  dsimp only
  rw [hcad]
  dsimp only
  rw [if_pos hstatus, hidle, hresult]
  exact ⟨rfl, rfl, rfl⟩

theorem read_one_chunk (buf : Bytes) (c : conf_t) :
    (bridge_conf_read_available { chunks := [buf] } c).1.state = (bridge_conf_feed c.state buf).1 :=
  rfl

/-- The report says what it should, wherever the reader was. -/
theorem idle_report_reports (c : conf_t) :
    Idle (bridge_conf_read_available idle_report c).1.state := by
  -- the flags behind the report are those of its one line
  have hflags : ∀ state : bridge_conf_state_t, Idle (flags state) → Idle state :=
    fun _ h => ⟨h.have_status, h.txresult, h.tx_idle⟩
  apply hflags
  obtain ⟨hlines, _⟩ := bridge_conf_feed_lines (status_ready ++ [ch '\n']) [] _
    (reading_behind_newline c.state) List.not_mem_nil List.not_mem_nil (by decide +kernel)
  have hone : fitting_lines ([] ++ (status_ready ++ [ch '\n']).filter (· ≠ ch '\r'))
      = [status_ready] := by decide +kernel
  unfold idle_report
  rw [read_one_chunk, bridge_conf_feed_cons, flags_feed, hlines, hone]
  exact handle_status_ready _

theorem takes_default : Takes {} := by
  intro buf
  unfold loraham_sock_write
  split <;> rfl

/-- An iteration in which everything works, at time `now`. -/
def working (now : Int) : bridge_env :=
  { drain := { rounds := fun _ => { read := idle_report, now := now } } }

/-- A daemon that only works cooperates. -/
theorem working_cooperates (now : Int) : Cooperates (working now) where
  signal := rfl
  fds_fit := rfl
  select := rfl
  connect := rfl
  config := takes_default
  txresult := takes_default
  status := takes_default
  reports := fun _ c => ⟨idle_report_reports c, rfl⟩
  shift := takes_default
  settle := rfl
  write := takes_default
  restore := takes_default
  rounds := by simp [working]

/-- A packet is queued, then the daemon closes both connections; three iterations
later the packet is out. -/
theorem queue_clears_behind_restart :
    let gone : bridge_env :=
      { select := .ready { conf := true, data := true }
        conf := { last := .eof }
        data := .read [] }
    let es := iteration client_connects ++ iteration (packet_arrives (ascii "x") []) ++
      iteration gone
    let s' := bridge_run lhkt_config_defaults {}
      (es ++ ([working 0, working 0, working 0].map quiet).flatten)
    s'.txq.queue.count = 0 ∧ (written_packets (tx_history s'.data)).length = 1 := by
  intro gone es s'
  obtain ⟨_, _, _, _, _, hcount, hwritten⟩ := queue_clears lhkt_config_defaults
    ⟨⟨by decide +kernel, by decide +kernel, by decide +kernel, by decide +kernel⟩,
      by decide +kernel, by decide +kernel⟩ {} es [working 0, working 0, working 0]
    (by decide +kernel) (by decide +kernel)
    (by simp [working_cooperates]) (by decide +kernel)
  refine ⟨hcount, ?_⟩
  -- the packet was accepted at time zero, and the clock stands still
  have hages : ages (bridge_run lhkt_config_defaults {} es).txq.queue = [0] := by decide +kernel
  rw [hwritten ?_, List.length_append, length_packets]
  · decide +kernel
  · intro e he i t ht
    rw [hages, List.mem_singleton] at ht
    rw [ht]
    have hworking : e = working 0 := by simpa using he
    rw [hworking]
    show (0 : Int) - 0 < 180000
    omega

end LorahamKissTnc.Recovery
