/-
What a transmission reports: the RF log, and the counters `tx_unconfirmed` and
`loraham_drop`.

The three are written in many places of the send function and, for the drops,
also by the RX frames handled while a TX_RESULT is waited for. `tally` is the
part of the state the reports go to. Each piece of a transmission is described
once by what it does to it; the RX path may only add drops (`RxOnly`), and those
are set apart as `wait_drops`.

The RF log agrees with the transmission on every path
(`rflog_agrees_with_transmission`).
-/
import LorahamKissTnc.TxOnce

set_option autoImplicit false

open LorahamKissTnc.Lib.CString LorahamKissTnc.Lib.Channel LorahamKissTnc.Lib.Machine
open LorahamKissTnc.Config LorahamKissTnc.Kiss LorahamKissTnc.Ax25 LorahamKissTnc.Tnc2
open LorahamKissTnc.LorahamSock LorahamKissTnc.BridgeConf LorahamKissTnc.BridgeTxQueue
open LorahamKissTnc.BridgeRx LorahamKissTnc.BridgeKiss LorahamKissTnc.BridgeLoraham
open LorahamKissTnc.Bridge LorahamKissTnc.TxOnce

namespace LorahamKissTnc.TxAccounting

/-! ## The reports -/

/-- The TX records of the RF log. -/
def tx_log (log : List rflog_entry) : List (rflog_outcome × Bytes) :=
  log.filterMap fun
    | .tx outcome packet => some (outcome, packet)
    | .rx _ _ _ => none

/-- Where a transmission reports to. -/
structure tally_t where
  log : List (rflog_outcome × Bytes)
  unconfirmed : Nat
  drop : Nat

/-- The reports so far. -/
def tally (c : bridge_rx_t) : tally_t :=
  ⟨tx_log c.rflog, c.stats.tx_unconfirmed, c.stats.loraham_drop⟩

/-- A transmission is appended to those in the log. -/
theorem tx_log_concat_tx (log : List rflog_entry) (outcome : rflog_outcome) (packet : Bytes) :
    tx_log (log ++ [.tx outcome packet]) = tx_log log ++ [(outcome, packet)] := by
  unfold tx_log
  rw [List.filterMap_append]
  rfl

theorem tx_log_concat_rx (log : List rflog_entry) (rssi snr : Int) (packet : Bytes) :
    tx_log (log ++ [.rx rssi snr packet]) = tx_log log := by
  unfold tx_log
  rw [List.filterMap_append]
  exact List.append_nil _

/-- Logging a transmission appends to the tally. -/
theorem tally_log_tx (s : io_t) (outcome : rflog_outcome) (packet : Bytes) :
    tally (s.log_tx outcome packet).rx
      = { tally s.rx with log := (tally s.rx).log ++ [(outcome, packet)] } := by
  show tally_t.mk (tx_log (s.rx.rflog ++ [.tx outcome packet])) _ _ = _
  rw [tx_log_concat_tx]
  rfl

/-- What the RX path does to the reports: it may add drops. -/
structure RxOnly (c c' : bridge_rx_t) : Prop where
  log : tx_log c'.rflog = tx_log c.rflog
  unconfirmed : c'.stats.tx_unconfirmed = c.stats.tx_unconfirmed
  drop : c.stats.loraham_drop ≤ c'.stats.loraham_drop

theorem RxOnly.refl (c : bridge_rx_t) : RxOnly c c := ⟨rfl, rfl, Nat.le_refl _⟩

theorem RxOnly.trans {c c' c'' : bridge_rx_t} (h : RxOnly c c') (h' : RxOnly c' c'') :
    RxOnly c c'' :=
  ⟨h'.log.trans h.log, h'.unconfirmed.trans h.unconfirmed, h.drop.trans h'.drop⟩

/-- Counters of the receiver are not those of the tally. -/
theorem rxOnly_count (c : bridge_rx_t) {counter : lhkt_counter} (h : counter ≠ .tx_unconfirmed) :
    RxOnly c (c.count counter) := by
  refine ⟨rfl, ?_, ?_⟩
  · cases counter <;> first | rfl | exact absurd rfl h
  · cases counter <;> first | exact Nat.le_refl _ | exact Nat.le_succ _

/-- A record of a received packet is none of a transmission. -/
theorem rxInvariant_rxOnly (c : bridge_rx_t) : RxInvariant (RxOnly c) where
  counted := fun c' counter hcounter h =>
    h.trans (rxOnly_count c' fun heq => absurd hcounter (by rw [heq]; decide))
  written := fun _ _ h => ⟨h.log, h.unconfirmed, h.drop⟩
  logged := fun _ _ _ _ h => ⟨(tx_log_concat_rx _ _ _ _).trans h.log, h.unconfirmed, h.drop⟩

/-- **The wait for a TX_RESULT** logs no transmission and confirms none. -/
theorem rxOnly_wait_tx_result (e : result_env) (cfg : lhkt_config_t) (client_fd : Bool) (s : io_t) :
    RxOnly s.rx (bridge_loraham_wait_tx_result e cfg client_fd s).1.rx :=
  rxInvariant_wait_tx_result (rxInvariant_rxOnly s.rx) e cfg client_fd (RxOnly.refl s.rx)

/-! ## The pieces of a transmission -/

theorem tally_sleep (ms : Int) (signal : Bool) (s : io_t) :
    tally (bridge_runtime_sleep_ms ms signal s).1.rx = tally s.rx := by
  obtain ⟨stop, hsleep⟩ := bridge_runtime_sleep_ms_frame ms signal s
  rw [hsleep]

/-- Restoring the receive frequency reports nothing about a packet, whether it
succeeds or not. -/
theorem tally_restore (e : restore_env) (cfg : lhkt_config_t) (s : io_t) :
    tally (bridge_loraham_restore_rx_freq e cfg s).1.rx = tally s.rx := by
  unfold bridge_loraham_restore_rx_freq
  split
  · rfl
  · split
    · rfl
    · dsimp only
      generalize bridge_loraham_send_config_freq e.first cfg cfg.rx_freq s.conf = r
      split
      · rfl
      · obtain ⟨stop, hsleep⟩ := bridge_runtime_sleep_ms_frame LHKT_TX_RESTORE_RETRY_DELAY_MS e.signal
          (io_t.count { s with conf := r.1 } .tx_restore_failures)
        rw [hsleep]
        split
        · rfl
        · split <;> rfl

/-- The command that sets the TX frequency is sent, where one is needed. -/
def ShiftSent (e : send_env) (cfg : lhkt_config_t) (s : io_t) : Prop :=
  bridge_loraham_tx_shift_needed cfg = true →
    (bridge_loraham_send_config_freq e.shift cfg cfg.tx_freq s.conf).2 = .OK

instance (e : send_env) (cfg : lhkt_config_t) (s : io_t) : Decidable (ShiftSent e cfg s) :=
  inferInstanceAs (Decidable (_ → _))

/-- The shift reports a drop exactly when its command fails. -/
theorem tally_tx_prepare (e : send_env) (cfg : lhkt_config_t) (s : io_t) :
    tally (tx_prepare e cfg s).1.rx
      = if ShiftSent e cfg s then tally s.rx
        else { tally s.rx with drop := (tally s.rx).drop + 1 } := by
  unfold tx_prepare
  by_cases hneeded : bridge_loraham_tx_shift_needed cfg = true
  · rw [if_neg (by simp [hneeded])]
    dsimp only
    split
    · rename_i hret
      have hfailed : ¬ ShiftSent e cfg s := fun h => hret (h hneeded)
      rw [if_neg hfailed]
      rfl
    · rename_i hret
      have hsent : ShiftSent e cfg s := fun _ => not_ne_iff.mp hret
      rw [if_pos hsent]
      split
      · rw [tally_sleep]
      · rw [tally_restore, tally_sleep]
  · have hsent : ShiftSent e cfg s := fun h => absurd h hneeded
    rw [if_pos (by simpa using hneeded), if_pos hsent]

/-- A transmission that gets to the write has reported nothing. -/
theorem shiftSent_of_prepared {e : send_env} {cfg : lhkt_config_t} {s : io_t}
    (h : (tx_prepare e cfg s).2 = .OK) : ShiftSent e cfg s := by
  intro hneeded
  by_contra hret
  unfold tx_prepare at h
  rw [if_neg (by simp [hneeded])] at h
  dsimp only at h
  rw [if_pos hret] at h
  exact hret h

/-! ## The transmission

`frame_state` is `NULL` for the callers that have no DATA stream to read a result
from; the main loop always has one. -/

/-- The packet is out: what follows, in the state behind the write. -/
def tx_confirm (frame_state : Bool) (e : send_env) (cfg : lhkt_config_t) (client_fd : Bool)
    (packet : Bytes) (s : io_t) : io_t × Lhkt :=
  if bridge_conf_txresult_enabled s.conf.state then
    if frame_state then tx_confirm_result e cfg client_fd packet s
    else ((s.count .tx_unconfirmed).log_tx .unconfirmed packet, .ERR_TX_RESULT)
  else tx_confirm_events e cfg packet s

/-- `bridge_loraham_send_packet_with_client`, with or without a decoder for the
DATA stream. -/
def send_packet (frame_state : Bool) (e : send_env) (cfg : lhkt_config_t) (client_fd : Bool)
    (packet : Bytes) (s : io_t) : io_t × Lhkt × Bool :=
  if packet.length = 0 then (s, .ERR, false)
  else if !s.data.fd then (s.count .loraham_drop, .ERR, false)
  else if !cfg.have_tx_freq ∨ !cfg.have_rx_freq then
    (s.count .loraham_drop, .ERR_FORMAT, false)
  else
    let r := tx_prepare e cfg s
    if r.2 ≠ .OK then (r.1, r.2, false)
    else
      let r := bridge_loraham_write e packet r.1
      if r.2 ≠ .OK then
        let r := tx_write_failed e cfg r.1
        (r.1, r.2, false)
      else
        let r := tx_confirm frame_state e cfg client_fd packet r.1
        (r.1, r.2, true)

/-- The main loop's transmissions. -/
theorem send_packet_with_client (e : send_env) (cfg : lhkt_config_t) (client_fd : Bool)
    (packet : Bytes) (s : io_t) :
    bridge_loraham_send_packet_with_client e cfg client_fd packet s
      = send_packet true e cfg client_fd packet s := by
  unfold bridge_loraham_send_packet_with_client send_packet tx_confirm
  dsimp only
  split
  · rfl
  · split
    · rfl
    · split
      · rfl
      · split
        · rfl
        · split
          · rfl
          · split <;> rfl

/-- The state behind the write. -/
def tx_sent (e : send_env) (cfg : lhkt_config_t) (packet : Bytes) (s : io_t) : io_t :=
  (bridge_loraham_write e packet (tx_prepare e cfg s).1).1

/-- What is checked before anything is sent. -/
structure Sendable (cfg : lhkt_config_t) (packet : Bytes) (s : io_t) : Prop where
  nonempty : packet.length ≠ 0
  data_fd : s.data.fd = true
  have_tx_freq : cfg.have_tx_freq = true
  have_rx_freq : cfg.have_rx_freq = true

/-- The packet was completely written. -/
structure Written (e : send_env) (cfg : lhkt_config_t) (packet : Bytes) (s : io_t) : Prop where
  sendable : Sendable cfg packet s
  prepared : (tx_prepare e cfg s).2 = .OK
  written : (bridge_loraham_write e packet (tx_prepare e cfg s).1).2 = .OK

/-- Behind a shift that went through, the state is the one before, with the commands
and the packet written. -/
theorem tx_sent_frame {e : send_env} {cfg : lhkt_config_t} (packet : Bytes) {s : io_t}
    (h : (tx_prepare e cfg s).2 = .OK) :
    CommandsOnly { s with data := { s.data with link := { s.data.link with
      tx := (loraham_send_framed_tx_packet e.write packet s.data.link.tx).1 } } }
      (tx_sent e cfg packet s) :=
  (@tx_written_frame e cfg packet s _ _ _ (Prod.ext rfl h) rfl).2

/-- The write of a packet that was written did not fail. -/
theorem Written.frame {e : send_env} {cfg : lhkt_config_t} {packet : Bytes} {s : io_t}
    (h : Written e cfg packet s) :
    (loraham_send_framed_tx_packet e.write packet s.data.link.tx).2 = .OK :=
  (@tx_written_frame e cfg packet s _ _ _ (Prod.ext rfl h.prepared) rfl).1.symm.trans h.written

/-- The exits of the transmission, with what was checked on the way. -/
theorem send_packet_ways {P : io_t × Lhkt × Bool → Prop} (frame_state : Bool) (e : send_env)
    (cfg : lhkt_config_t) (client_fd : Bool) (packet : Bytes) (s : io_t)
    (hempty : packet.length = 0 → P (s, .ERR, false))
    (hunready : ∀ ret, packet.length ≠ 0 → ¬ Sendable cfg packet s →
      P (s.count .loraham_drop, ret, false))
    (hprepare : Sendable cfg packet s → (tx_prepare e cfg s).2 ≠ .OK →
      P ((tx_prepare e cfg s).1, (tx_prepare e cfg s).2, false))
    (hfailed : Sendable cfg packet s → (tx_prepare e cfg s).2 = .OK →
      (bridge_loraham_write e packet (tx_prepare e cfg s).1).2 ≠ .OK →
      P ((tx_write_failed e cfg (tx_sent e cfg packet s)).1, .ERR_TX_SOCKET, false))
    (hwritten : Written e cfg packet s →
      P ((tx_confirm frame_state e cfg client_fd packet (tx_sent e cfg packet s)).1,
        (tx_confirm frame_state e cfg client_fd packet (tx_sent e cfg packet s)).2, true)) :
    P (send_packet frame_state e cfg client_fd packet s) := by
  unfold send_packet
  split
  · rename_i hlen
    exact hempty hlen
  · rename_i hlen
    split
    · rename_i hfd
      refine hunready .ERR hlen fun h => ?_
      rw [h.data_fd] at hfd
      exact absurd hfd (by decide)
    · rename_i hfd
      split
      · rename_i hfreq
        refine hunready .ERR_FORMAT hlen fun h => ?_
        rw [h.have_tx_freq, h.have_rx_freq] at hfreq
        exact absurd hfreq (by decide)
      · rename_i hfreq
        rw [not_or] at hfreq
        -- nothing was written so far; from here on the ways differ in what was
        have hsendable : Sendable cfg packet s :=
          ⟨hlen, by simpa using hfd, by simpa using hfreq.1, by simpa using hfreq.2⟩
        dsimp only
        split
        · rename_i hret
          exact hprepare hsendable hret
        · rename_i hret
          split
          · rename_i hwrite
            exact hfailed hsendable (not_ne_iff.mp hret) hwrite
          · rename_i hwrite
            exact hwritten ⟨hsendable, not_ne_iff.mp hret, not_ne_iff.mp hwrite⟩

/-- The function says that the packet was written exactly when it was. -/
theorem send_packet_written_iff (frame_state : Bool) (e : send_env) (cfg : lhkt_config_t)
    (client_fd : Bool) (packet : Bytes) (s : io_t) :
    (send_packet frame_state e cfg client_fd packet s).2.2 = true ↔ Written e cfg packet s := by
  refine send_packet_ways (P := fun r => r.2.2 = true ↔ Written e cfg packet s) frame_state e cfg
    client_fd packet s ?_ ?_ ?_ ?_ ?_
  · exact fun hlen => iff_of_false Bool.false_ne_true fun h => h.sendable.nonempty hlen
  · exact fun _ _ hno => iff_of_false Bool.false_ne_true fun h => hno h.sendable
  · exact fun _ hret => iff_of_false Bool.false_ne_true fun h => hret h.prepared
  · exact fun _ _ hwrite => iff_of_false Bool.false_ne_true fun h => hwrite h.written
  · exact fun h => iff_of_true rfl h

/-- Behind a packet that was written comes its confirmation. -/
theorem send_packet_of_written {e : send_env} {cfg : lhkt_config_t} {packet : Bytes} {s : io_t}
    (frame_state client_fd : Bool) (h : Written e cfg packet s) :
    (send_packet frame_state e cfg client_fd packet s).1
      = (tx_confirm frame_state e cfg client_fd packet (tx_sent e cfg packet s)).1 := by
  refine send_packet_ways (P := fun r => r.1
    = (tx_confirm frame_state e cfg client_fd packet (tx_sent e cfg packet s)).1) frame_state e cfg
    client_fd packet s ?_ ?_ ?_ ?_ ?_
  · exact fun hlen => absurd hlen h.sendable.nonempty
  · exact fun _ _ hno => absurd h.sendable hno
  · exact fun _ hret => absurd h.prepared hret
  · exact fun _ _ hwrite => absurd h.written hwrite
  · exact fun _ => rfl

/-! ## The outcome

Stated on the state behind the write. -/

/-- `bridge_loraham_wait_tx_result` is called and returns this. -/
def ResultReceived (frame_state : Bool) (e : send_env) (cfg : lhkt_config_t) (client_fd : Bool)
    (s : io_t) (ret : Except Lhkt loraham_tx_result_t) : Prop :=
  bridge_conf_txresult_enabled s.conf.state = true ∧ frame_state = true ∧
    (bridge_loraham_wait_tx_result e.result cfg client_fd s).2.2 = ret

/-- The daemon refused the packet. -/
def Refused (frame_state : Bool) (e : send_env) (cfg : lhkt_config_t) (client_fd : Bool)
    (s : io_t) : Prop :=
  ∃ result, ResultReceived frame_state e cfg client_fd s (.ok result) ∧
    result.status ≠ LORAHAM_TX_STATUS_OK

/-- The packet is known to have been transmitted: by its TX_RESULT or, without
TXRESULT, by the CONF events. -/
def Confirmed (frame_state : Bool) (e : send_env) (cfg : lhkt_config_t) (client_fd : Bool)
    (s : io_t) : Prop :=
  (∃ result, ResultReceived frame_state e cfg client_fd s (.ok result) ∧
    result.status = LORAHAM_TX_STATUS_OK) ∨
  (bridge_conf_txresult_enabled s.conf.state = false ∧
    (bridge_loraham_wait_tx_complete e.complete cfg s).2 = .OK)

/-- The drops among the frames handled while the TX_RESULT is waited for. -/
def wait_drops (frame_state : Bool) (e : send_env) (cfg : lhkt_config_t) (client_fd : Bool)
    (s : io_t) : Nat :=
  if bridge_conf_txresult_enabled s.conf.state ∧ frame_state then
    (tally (bridge_loraham_wait_tx_result e.result cfg client_fd s).1.rx).drop - (tally s.rx).drop
  else 0

/-- The receive frequency is set again behind the wait for the TX_RESULT. -/
def Restored (e : send_env) (cfg : lhkt_config_t) (client_fd : Bool) (s : io_t) : Prop :=
  (bridge_loraham_restore_rx_freq e.restore cfg
    (bridge_loraham_wait_tx_result e.result cfg client_fd s).1).2 = .OK

/-- Behind a shift that worked, nothing has been reported. -/
theorem tally_tx_sent {e : send_env} {cfg : lhkt_config_t} {s : io_t} (packet : Bytes)
    (h : (tx_prepare e cfg s).2 = .OK) : tally (tx_sent e cfg packet s).rx = tally s.rx := by
  show tally (tx_prepare e cfg s).1.rx = _
  rw [tally_tx_prepare, if_pos (shiftSent_of_prepared h)]

/-- A packet that could not be written is a drop. -/
theorem tally_tx_write_failed (e : send_env) (cfg : lhkt_config_t) (s : io_t) :
    tally (tx_write_failed e cfg s).1.rx
      = { tally s.rx with drop := (tally s.rx).drop + 1 } := by
  unfold tx_write_failed
  dsimp only
  rw [tally_restore, tally_sleep]
  rfl

/-- A packet without a TX_RESULT is logged and counted as unconfirmed. -/
theorem tally_tx_result_missing (e : send_env) (cfg : lhkt_config_t) (packet : Bytes) (s : io_t) :
    tally (tx_result_missing e cfg packet s).1.rx
      = { tally s.rx with
          log := (tally s.rx).log ++ [(.unconfirmed, packet)]
          unconfirmed := (tally s.rx).unconfirmed + 1 } := by
  unfold tx_result_missing
  dsimp only
  rw [tally_restore, tally_log_tx]
  rfl

/-- A packet whose TX_RESULT says so is logged as transmitted. -/
theorem tally_tx_result_ok (e : send_env) (cfg : lhkt_config_t) (packet : Bytes)
    (client_error : Lhkt) {result : loraham_tx_result_t} (s : io_t)
    (h : result.status = LORAHAM_TX_STATUS_OK) :
    tally (tx_result_received e cfg packet client_error result s).1.rx
      = { tally s.rx with log := (tally s.rx).log ++ [(.ok, packet)] } := by
  have hlogged : tally (tx_result_logged packet result s).rx
      = { tally s.rx with log := (tally s.rx).log ++ [(.ok, packet)] } := by
    unfold tx_result_logged
    rw [if_pos h]
    exact tally_log_tx s .ok packet
  have hrestored := (tally_restore e.restore cfg (tx_result_logged packet result s)).trans hlogged
  unfold tx_result_received
  dsimp only
  split
  · exact hrestored
  · rw [if_neg (not_not_intro h)]
    exact hrestored

/-- A refused packet is not logged, and counted when the restore succeeds. -/
theorem tally_tx_result_refused (e : send_env) (cfg : lhkt_config_t) (packet : Bytes)
    (client_error : Lhkt) {result : loraham_tx_result_t} (s : io_t)
    (h : result.status ≠ LORAHAM_TX_STATUS_OK) :
    tally (tx_result_received e cfg packet client_error result s).1.rx
      = if (bridge_loraham_restore_rx_freq e.restore cfg s).2 = .OK then
          { tally s.rx with drop := (tally s.rx).drop + 1 }
        else tally s.rx := by
  have hlogged : tx_result_logged packet result s = s := if_neg h
  have hrestored := tally_restore e.restore cfg s
  unfold tx_result_received
  rw [hlogged]
  dsimp only
  by_cases hret : (bridge_loraham_restore_rx_freq e.restore cfg s).2 = .OK
  · rw [if_neg (not_not_intro hret), if_pos h, if_pos hret, ← hrestored]
    rfl
  · rw [if_pos hret, if_neg hret]
    exact hrestored

/-- A packet confirmed by the CONF events is logged as transmitted, any other as
unconfirmed. -/
theorem tally_tx_events_waited (e : send_env) (cfg : lhkt_config_t) (packet : Bytes) (s : io_t) :
    tally (tx_events_waited e cfg packet s).rx
      = if (bridge_loraham_wait_tx_complete e.complete cfg s).2 = .OK then
          { tally s.rx with log := (tally s.rx).log ++ [(.ok, packet)] }
        else
          { tally s.rx with
            log := (tally s.rx).log ++ [(.unconfirmed, packet)]
            unconfirmed := (tally s.rx).unconfirmed + 1 } := by
  obtain ⟨stop, c', -, hwait⟩ := bridge_loraham_wait_tx_complete_frame e.complete cfg s
  unfold tx_events_waited
  dsimp only
  rw [hwait]
  by_cases hret : (bridge_loraham_wait_tx_complete e.complete cfg s).2 = .OK
  · rw [if_neg (not_not_intro hret), if_pos hret, tally_log_tx]
  · rw [if_pos hret, if_neg hret, tally_log_tx, tally_sleep]
    rfl

/-- The restore behind the wait leaves the tally. -/
theorem tally_tx_confirm_events (e : send_env) (cfg : lhkt_config_t) (packet : Bytes) (s : io_t) :
    tally (tx_confirm_events e cfg packet s).1.rx = tally (tx_events_waited e cfg packet s).rx := by
  have hrestored := tally_restore e.restore cfg (tx_events_waited e cfg packet s)
  unfold tx_confirm_events
  dsimp only
  split
  · exact hrestored
  · exact hrestored

/-- The three ways the end of a transmission can be reported, with the counts
before and after. -/
def Reported (frame_state : Bool) (e : send_env) (cfg : lhkt_config_t) (client_fd : Bool)
    (packet : Bytes) (s : io_t) (c r : tally_t) : Prop :=
  let drop := c.drop + wait_drops frame_state e cfg client_fd s
  (Refused frame_state e cfg client_fd s ∧ ¬ Confirmed frame_state e cfg client_fd s ∧
    ((Restored e cfg client_fd s ∧ r = ⟨c.log, c.unconfirmed, drop + 1⟩) ∨
      (¬ Restored e cfg client_fd s ∧ r = ⟨c.log, c.unconfirmed, drop⟩))) ∨
  (¬ Refused frame_state e cfg client_fd s ∧ Confirmed frame_state e cfg client_fd s ∧
    r = ⟨c.log ++ [(.ok, packet)], c.unconfirmed, drop⟩) ∨
  (¬ Refused frame_state e cfg client_fd s ∧ ¬ Confirmed frame_state e cfg client_fd s ∧
    r = ⟨c.log ++ [(.unconfirmed, packet)], c.unconfirmed + 1, drop⟩)

/-- Without a decoder there is no result to wait for. -/
theorem reported_no_frames (e : send_env) (cfg : lhkt_config_t) (client_fd : Bool)
    (packet : Bytes) (s : io_t) (henabled : bridge_conf_txresult_enabled s.conf.state = true) :
    Reported false e cfg client_fd packet s (tally s.rx)
      (tally (tx_confirm false e cfg client_fd packet s).1.rx) := by
  refine .inr (.inr ⟨?_, ?_, ?_⟩)
  · rintro ⟨_, ⟨_, hbad, _⟩, _⟩
    exact nomatch hbad
  · rintro (⟨_, ⟨_, hbad, _⟩, _⟩ | ⟨hoff, _⟩)
    · exact nomatch hbad
    · exact absurd (henabled.symm.trans hoff) (by decide)
  · unfold tx_confirm wait_drops
    rw [if_pos henabled, if_neg Bool.false_ne_true, if_neg (by simp), tally_log_tx]
    rfl

/-- With TXRESULT on, the result decides, or its absence. -/
theorem reported_result (e : send_env) (cfg : lhkt_config_t) (client_fd : Bool)
    (packet : Bytes) (s : io_t) (henabled : bridge_conf_txresult_enabled s.conf.state = true) :
    Reported true e cfg client_fd packet s (tally s.rx)
      (tally (tx_confirm true e cfg client_fd packet s).1.rx) := by
  have hwait := rxOnly_wait_tx_result e.result cfg client_fd s
  have hreceived : ∀ ret, ResultReceived true e cfg client_fd s ret ↔
      (bridge_loraham_wait_tx_result e.result cfg client_fd s).2.2 = ret :=
    fun ret => ⟨fun h => h.2.2, fun h => ⟨henabled, rfl, h⟩⟩
  unfold Reported Refused Confirmed Restored tx_confirm wait_drops tx_confirm_result
  simp only [hreceived, if_pos, henabled, Bool.true_eq_false, false_and,
    or_false, and_self]
  generalize bridge_loraham_wait_tx_result e.result cfg client_fd s = r at hwait ⊢
  obtain ⟨s', client_error, ret⟩ := r
  -- the wait itself can only have dropped received frames
  obtain ⟨n, hn⟩ : ∃ n, (tally s'.rx).drop = (tally s.rx).drop + n :=
    Nat.exists_eq_add_of_le hwait.drop
  have htally : tally s'.rx
      = ⟨(tally s.rx).log, (tally s.rx).unconfirmed, (tally s.rx).drop + n⟩ := by
    rw [← hn]
    exact congrArg₂ (fun log unconfirmed => tally_t.mk log unconfirmed (tally s'.rx).drop)
      hwait.log hwait.unconfirmed
  rw [show (tally s'.rx).drop - (tally s.rx).drop = n by rw [hn, Nat.add_sub_cancel_left]]
  match ret with
  | .error _ =>
      refine .inr (.inr ⟨?_, ?_, ?_⟩)
      · rintro ⟨_, hbad, _⟩
        exact nomatch hbad
      · rintro ⟨_, hbad, _⟩
        exact nomatch hbad
      · show tally (tx_result_missing e cfg packet s').1.rx = _
        rw [tally_tx_result_missing, htally]
  | .ok result =>
      by_cases hstatus : result.status = LORAHAM_TX_STATUS_OK
      · refine .inr (.inl ⟨?_, ⟨result, rfl, hstatus⟩, ?_⟩)
        · rintro ⟨_, heq, hno⟩
          rw [← Except.ok.inj heq] at hno
          exact hno hstatus
        · show tally (tx_result_received e cfg packet client_error result s').1.rx = _
          rw [tally_tx_result_ok e cfg packet client_error s' hstatus, htally]
      · refine .inl ⟨⟨result, rfl, hstatus⟩, ?_, ?_⟩
        · rintro ⟨_, heq, hok⟩
          rw [← Except.ok.inj heq] at hok
          exact hstatus hok
        · have href := tally_tx_result_refused e cfg packet client_error s' hstatus
          rw [htally] at href
          by_cases hrestored : (bridge_loraham_restore_rx_freq e.restore cfg s').2 = .OK
          · rw [if_pos hrestored] at href
            exact .inl ⟨hrestored, href⟩
          · rw [if_neg hrestored] at href
            exact .inr ⟨hrestored, href⟩

/-- With TXRESULT off, the TX events decide. -/
theorem reported_events (frame_state : Bool) (e : send_env) (cfg : lhkt_config_t)
    (client_fd : Bool) (packet : Bytes) (s : io_t)
    (henabled : ¬ bridge_conf_txresult_enabled s.conf.state = true) :
    Reported frame_state e cfg client_fd packet s (tally s.rx)
      (tally (tx_confirm frame_state e cfg client_fd packet s).1.rx) := by
  have hoff : bridge_conf_txresult_enabled s.conf.state = false := by simpa using henabled
  have hevents := (tally_tx_confirm_events e cfg packet s).trans
    (tally_tx_events_waited e cfg packet s)
  have hno : ∀ ret, ¬ ResultReceived frame_state e cfg client_fd s ret :=
    fun _ h => henabled h.1
  have hconfirm : tx_confirm frame_state e cfg client_fd packet s
      = tx_confirm_events e cfg packet s := if_neg henabled
  have hdrops : wait_drops frame_state e cfg client_fd s = 0 := if_neg fun h => henabled h.1
  unfold Reported
  rw [hconfirm, hdrops, hevents]
  by_cases hret : (bridge_loraham_wait_tx_complete e.complete cfg s).2 = .OK
  · rw [if_pos hret]
    exact .inr (.inl ⟨fun ⟨_, h, _⟩ => hno _ h, .inr ⟨hoff, hret⟩, rfl⟩)
  · rw [if_neg hret]
    refine .inr (.inr ⟨fun ⟨_, h, _⟩ => hno _ h, ?_, rfl⟩)
    rintro (⟨_, h, _⟩ | ⟨_, h⟩)
    · exact hno _ h
    · exact hret h

/-- **What the end of a transmission reports.** A refused packet is not logged,
and counted when the receive frequency could be restored; every other packet is
logged once. -/
theorem tally_tx_confirm (frame_state : Bool) (e : send_env) (cfg : lhkt_config_t)
    (client_fd : Bool) (packet : Bytes) (s : io_t) :
    Reported frame_state e cfg client_fd packet s (tally s.rx)
      (tally (tx_confirm frame_state e cfg client_fd packet s).1.rx) := by
  by_cases henabled : bridge_conf_txresult_enabled s.conf.state = true
  · cases frame_state with
    | false => exact reported_no_frames e cfg client_fd packet s henabled
    | true => exact reported_result e cfg client_fd packet s henabled
  · exact reported_events frame_state e cfg client_fd packet s henabled

/-! ## The RF log -/

/-- Nothing was logged for a packet that was not written. -/
theorem tally_not_written (frame_state client_fd : Bool) {e : send_env} {cfg : lhkt_config_t}
    {packet : Bytes} {s : io_t} (h : ¬ Written e cfg packet s) :
    (tally (send_packet frame_state e cfg client_fd packet s).1.rx).log = (tally s.rx).log ∧
      (tally (send_packet frame_state e cfg client_fd packet s).1.rx).unconfirmed
        = (tally s.rx).unconfirmed := by
  refine send_packet_ways (P := fun r => (tally r.1.rx).log = (tally s.rx).log ∧
    (tally r.1.rx).unconfirmed = (tally s.rx).unconfirmed) frame_state e cfg client_fd packet s
    ?_ ?_ ?_ ?_ (fun hw => absurd hw h)
  · exact fun _ => ⟨rfl, rfl⟩
  · exact fun _ _ _ => ⟨rfl, rfl⟩
  · intro _ _
    rw [tally_tx_prepare]
    split <;> exact ⟨rfl, rfl⟩
  · intro _ hprep _
    rw [tally_tx_write_failed, tally_tx_sent packet hprep]
    exact ⟨rfl, rfl⟩

/-- The restore comes into the way of a transmission only when that is
interrupted. -/
theorem tx_prepare_restore {e : send_env} {cfg : lhkt_config_t} {s : io_t}
    (h : (tx_prepare e cfg s).2 = .OK) (restore : restore_env) :
    tx_prepare { e with restore := restore } cfg s = tx_prepare e cfg s := by
  unfold tx_prepare at h ⊢
  dsimp only at h ⊢
  split
  · rfl
  · rename_i hneeded
    rw [if_neg hneeded] at h
    split
    · rfl
    · rename_i hret
      rw [if_neg hret] at h
      split
      · rfl
      · rename_i hslept
        rw [if_neg hslept] at h
        -- an interrupted settling never ends with success
        exfalso
        revert h
        dsimp only
        split
        · rename_i hrestore
          exact hrestore
        · exact fun h => nomatch h

/-- Whether a packet is written does not depend on its restore. -/
theorem Written.restore {e : send_env} {cfg : lhkt_config_t} {packet : Bytes} {s : io_t}
    (h : Written e cfg packet s) (restore : restore_env) :
    Written { e with restore := restore } cfg packet s ∧
      tx_sent { e with restore := restore } cfg packet s = tx_sent e cfg packet s := by
  have hprep := tx_prepare_restore h.prepared restore
  refine ⟨⟨h.sendable, ?_, ?_⟩, ?_⟩
  · rw [hprep]
    exact h.prepared
  · rw [hprep]
    exact h.written
  · unfold tx_sent
    rw [hprep]
    rfl

/-- The end of a transmission logs the same whatever becomes of the restore. -/
theorem tally_tx_confirm_restore (frame_state : Bool) (e : send_env) (cfg : lhkt_config_t)
    (client_fd : Bool) (packet : Bytes) (s : io_t) (restore : restore_env) :
    let r := tally (tx_confirm frame_state e cfg client_fd packet s).1.rx
    let r' := tally (tx_confirm frame_state { e with restore := restore } cfg client_fd packet s).1.rx
    r'.log = r.log ∧ r'.unconfirmed = r.unconfirmed := by
  dsimp only
  have hsame : ∀ ret, ResultReceived frame_state { e with restore := restore } cfg client_fd s ret
      ↔ ResultReceived frame_state e cfg client_fd s ret := fun _ => Iff.rfl
  rcases tally_tx_confirm frame_state e cfg client_fd packet s with
    ⟨href, hno, ⟨-, h⟩ | ⟨-, h⟩⟩ | ⟨href, hconf, h⟩ | ⟨href, hconf, h⟩ <;>
  rcases tally_tx_confirm frame_state { e with restore := restore } cfg client_fd packet s with
    ⟨href', hno', ⟨-, h'⟩ | ⟨-, h'⟩⟩ | ⟨href', hconf', h'⟩ | ⟨href', hconf', h'⟩ <;>
  first
  | exact absurd href href'
  | exact absurd href' href
  | exact absurd hconf hconf'
  | exact absurd hconf' hconf
  | exact ⟨by rw [h, h'], by rw [h, h']⟩

/-- What the write leaves on the DATA connection. -/
theorem tx_sent_link (e : send_env) (cfg : lhkt_config_t) (packet : Bytes) (s : io_t) :
    (tx_sent e cfg packet s).data.link.tx
        = (loraham_send_framed_tx_packet e.write packet s.data.link.tx).1 ∧
      (bridge_loraham_write e packet (tx_prepare e cfg s).1).2
        = (loraham_send_framed_tx_packet e.write packet s.data.link.tx).2 := by
  unfold tx_sent bridge_loraham_write
  rw [(commandsOnly_tx_prepare e cfg s).data_eq]
  exact ⟨rfl, rfl⟩

/-- What is written on the DATA connection, where nothing is reported as
written. -/
theorem not_written_incomplete {frame_state : Bool} {e : send_env} {cfg : lhkt_config_t}
    {client_fd : Bool} {packet : Bytes} {s : io_t} (h : ¬ Written e cfg packet s)
    (he : e.write.FcntlOk) :
    ∀ t ∈ (send_packet frame_state e cfg client_fd packet s).1.data.link.tx.drop
      s.data.link.tx.length, ¬ t.Complete := by
  have hsame : ∀ {s' : io_t}, s'.data = s.data →
      ∀ t ∈ s'.data.link.tx.drop s.data.link.tx.length, ¬ t.Complete := by
    intro s' hdata t ht
    rw [hdata, List.drop_length] at ht
    exact absurd ht List.not_mem_nil
  refine send_packet_ways (P := fun r => ∀ t ∈ r.1.data.link.tx.drop s.data.link.tx.length,
    ¬ t.Complete) frame_state e cfg client_fd packet s (fun _ => hsame rfl)
    (fun _ _ _ => hsame rfl) (fun _ _ => hsame (commandsOnly_tx_prepare e cfg s).data_eq) ?_
    (fun hw => absurd hw h)
  intro _ _ hwrite
  obtain ⟨hlink, hret⟩ := tx_sent_link e cfg packet s
  rw [hret] at hwrite
  rw [(commandsOnly_tx_write_failed e cfg _).data_eq, hlink]
  rcases loraham_send_framed_tx_packet_cases he packet s.data.link.tx with
    ⟨htx, -⟩ | ⟨sent, htx, -, -, hcomplete⟩
  · rw [htx]
    exact hsame rfl
  · rw [htx]
    intro t ht
    rw [List.drop_left, List.mem_singleton] at ht
    rw [ht]
    exact fun hc => hwrite (hcomplete.mpr hc)

/-- **RF log and transmission agree.** A packet that was completely written and
not refused has exactly one new TX record, which says `ok` when the packet is
confirmed and `unconfirmed` when it is not; there is no new record otherwise. The
counter follows the record, and the restore has no say in any of it. -/
theorem rflog_agrees_with_transmission (frame_state : Bool) (e : send_env) (cfg : lhkt_config_t)
    (client_fd : Bool) (packet : Bytes) (s : io_t) :
    let r := send_packet frame_state e cfg client_fd packet s
    let sent := tx_sent e cfg packet s
    let logged := r.2.2 = true ∧ ¬ Refused frame_state e cfg client_fd sent
    (logged → ∃ outcome, tx_log r.1.rx.rflog = tx_log s.rx.rflog ++ [(outcome, packet)] ∧
      (outcome = .ok ↔ Confirmed frame_state e cfg client_fd sent) ∧
      r.1.rx.stats.tx_unconfirmed
        = s.rx.stats.tx_unconfirmed + if outcome = .unconfirmed then 1 else 0) ∧
    (¬ logged → tx_log r.1.rx.rflog = tx_log s.rx.rflog ∧
      r.1.rx.stats.tx_unconfirmed = s.rx.stats.tx_unconfirmed) ∧
    (r.2.2 = true → ∃ t, sent.data.link.tx = s.data.link.tx ++ [t] ∧ t.Complete ∧
      t.buf = framed_tx_packet packet) ∧
    (r.2.2 = false → e.write.FcntlOk →
      ∀ t ∈ r.1.data.link.tx.drop s.data.link.tx.length, ¬ t.Complete) ∧
    ∀ restore,
      let r' := send_packet frame_state { e with restore := restore } cfg client_fd packet s
      tx_log r'.1.rx.rflog = tx_log r.1.rx.rflog ∧
        r'.1.rx.stats.tx_unconfirmed = r.1.rx.stats.tx_unconfirmed ∧ r'.2.2 = r.2.2 := by
  dsimp only
  have hiff := send_packet_written_iff frame_state e cfg client_fd packet s
  refine ⟨?_, ?_, ?_, ?_, ?_⟩
  · -- written and not refused: one record
    rintro ⟨hw, href⟩
    have hw := hiff.mp hw
    have hconfirm := tally_tx_confirm frame_state e cfg client_fd packet (tx_sent e cfg packet s)
    rw [tally_tx_sent packet hw.prepared] at hconfirm
    rw [send_packet_of_written frame_state client_fd hw]
    rcases hconfirm with ⟨hbad, -⟩ | ⟨-, hconf, h⟩ | ⟨-, hconf, h⟩
    · exact absurd hbad href
    · exact ⟨.ok, congrArg tally_t.log h, iff_of_true rfl hconf, congrArg tally_t.unconfirmed h⟩
    · exact ⟨.unconfirmed, congrArg tally_t.log h, iff_of_false (by decide) hconf,
        congrArg tally_t.unconfirmed h⟩
  · -- refused, or not written at all: no record
    intro hno
    by_cases hw : Written e cfg packet s
    · have href : Refused frame_state e cfg client_fd (tx_sent e cfg packet s) := by
        by_contra href
        exact hno ⟨hiff.mpr hw, href⟩
      have hconfirm := tally_tx_confirm frame_state e cfg client_fd packet (tx_sent e cfg packet s)
      rw [tally_tx_sent packet hw.prepared] at hconfirm
      rw [send_packet_of_written frame_state client_fd hw]
      rcases hconfirm with ⟨-, -, ⟨-, h⟩ | ⟨-, h⟩⟩ | ⟨hbad, -⟩ | ⟨hbad, -⟩
      · exact ⟨congrArg tally_t.log h, congrArg tally_t.unconfirmed h⟩
      · exact ⟨congrArg tally_t.log h, congrArg tally_t.unconfirmed h⟩
      · exact absurd href hbad
      · exact absurd href hbad
    · exact tally_not_written frame_state client_fd hw
  · intro hw
    obtain ⟨hlink, hret⟩ := tx_sent_link e cfg packet s
    rw [hlink]
    exact send_framed_tx_packet_ok (hret.symm.trans (hiff.mp hw).written)
  · intro hw he
    have hno : ¬ Written e cfg packet s := fun h =>
      Bool.false_ne_true (hw.symm.trans (hiff.mpr h))
    exact not_written_incomplete hno he
  · -- the restore comes after the record and does not reach back
    intro restore
    have hiff' := send_packet_written_iff frame_state { e with restore := restore } cfg client_fd
      packet s
    by_cases hw : Written e cfg packet s
    · obtain ⟨hw', hsent⟩ := hw.restore restore
      rw [send_packet_of_written frame_state client_fd hw,
        send_packet_of_written frame_state client_fd hw', hsent, hiff.mpr hw, hiff'.mpr hw']
      obtain ⟨hlog, hunconfirmed⟩ := tally_tx_confirm_restore frame_state e cfg client_fd packet
        (tx_sent e cfg packet s) restore
      exact ⟨hlog, hunconfirmed, rfl⟩
    · have hw' : ¬ Written { e with restore := restore } cfg packet s :=
        fun hw' => hw (hw'.restore e.restore).1
      obtain ⟨hlog, hunconfirmed⟩ := tally_not_written frame_state client_fd hw
      obtain ⟨hlog', hunconfirmed'⟩ := tally_not_written frame_state client_fd hw'
      refine ⟨hlog'.trans hlog.symm, hunconfirmed'.trans hunconfirmed.symm, ?_⟩
      rw [Bool.eq_false_iff.mpr (mt hiff.mp hw), Bool.eq_false_iff.mpr (mt hiff'.mp hw')]

/-- A confirmed packet whose restore fails twice is in the log. -/
theorem rflog_agrees_restore_failed :
    let failing : sock_env := { writes := [.fail] }
    let e : send_env :=
      { restore := { first := failing, retry := failing }
        result := { rounds := [{ wait := .read [LORAHAM_FRAME_TX_RESULT, 4, 0, 0, 0, 1, 0] }] } }
    let s : io_t :=
      { conf := { fd := true
                  state := { bridge_conf_state_init with txresult_known := true, txresult_enabled := true } }
        data := { fd := true } }
    let r := send_packet true e lhkt_config_defaults false (ascii "TEST") s
    r.2.1 = .ERR_CONF_SOCKET ∧ tx_log r.1.rx.rflog = [(.ok, ascii "TEST")] ∧
      ∀ restore, tx_log (send_packet true { e with restore := restore } lhkt_config_defaults false
        (ascii "TEST") s).1.rx.rflog = tx_log r.1.rx.rflog := by
  exact ⟨by decide +kernel, by decide +kernel, fun restore =>
    ((rflog_agrees_with_transmission true _ _ _ _ _).2.2.2.2 restore).1⟩

end LorahamKissTnc.TxAccounting
