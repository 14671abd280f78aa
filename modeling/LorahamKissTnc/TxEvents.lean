/-
A transmission told by what happens around it: which command lines the CONF
connection takes, which reads and stop requests come in time, and how the CONF
events end it.

The functions of a transmission return this mixed with their results. Where a
condition on a run has to say what happened, and not what the code made of it, it is
said in these terms. `config_command` is the line written for a configuration;
`Restores` says when the way back to the RX frequency works; `restore_stopped` says
whether a stop was requested by then, from the rounds of the wait that the
transmission comes to.
-/
import LorahamKissTnc.TxWait
import LorahamKissTnc.TxAccounting

set_option autoImplicit false

open LorahamKissTnc.Lib.CString LorahamKissTnc.Lib.Channel LorahamKissTnc.Lib.Machine
open LorahamKissTnc.Config LorahamKissTnc.LorahamSock LorahamKissTnc.BridgeConf
open LorahamKissTnc.BridgeRx LorahamKissTnc.BridgeLoraham LorahamKissTnc.FramedStream
open LorahamKissTnc.TxWait LorahamKissTnc.TxAccounting

namespace LorahamKissTnc.TxEvents

variable {cfg : lhkt_config_t}

/-! ## Commands -/

/-- The line written for a configuration, with what the connection takes of it. A
frequency that is none and a line that is too long are not written. -/
def config_command (e : sock_env) (cfg : lhkt_config_t) (freq : Option ℚ) : Option (Sent UInt8) :=
  if (∃ f ∈ freq, f ≤ 0) ∨ 256 ≤ (config_line cfg freq).length then none
  else some (loraham_sock_write e (config_line cfg freq))

/-- The configuration is written, and the write succeeds. -/
def Commanded (e : sock_env) (cfg : lhkt_config_t) (freq : Option ℚ) : Prop :=
  ∃ line ∈ config_command e cfg freq, line.ok = true

instance (e : sock_env) (cfg : lhkt_config_t) (freq : Option ℚ) : Decidable (Commanded e cfg freq) :=
  inferInstanceAs (Decidable (∃ line ∈ config_command e cfg freq, line.ok = true))

theorem send_config_line_command (e : sock_env) {freq : Option ℚ} (hfreq : ¬ ∃ f ∈ freq, f ≤ 0)
    (tx : List (Sent UInt8)) :
    (loraham_send_config_line e cfg freq tx).1 = tx ++ (config_command e cfg freq).toList ∧
      ((loraham_send_config_line e cfg freq tx).2 = .OK ↔ Commanded e cfg freq) := by
  unfold loraham_send_config_line Commanded config_command
  by_cases hlong : 256 ≤ (config_line cfg freq).length
  · rw [if_pos hlong, if_pos (.inr hlong)]
    exact ⟨(List.append_nil tx).symm, iff_of_false (fun h => nomatch h) fun h => nomatch h⟩
  · rw [if_neg hlong, if_neg (fun h => h.elim hfreq hlong)]
    unfold send_command
    refine ⟨rfl, ?_⟩
    dsimp only
    cases hok : (loraham_sock_write e (config_line cfg freq)).ok with
    | true => simp [hok]
    | false => simp [hok]

/-- A command that sets a frequency. -/
theorem send_config_freq_command (e : sock_env) (freq : ℚ) {c : conf_t} (hfd : c.fd = true) :
    (bridge_loraham_send_config_freq e cfg freq c).1.tx
        = c.tx ++ (config_command e cfg (some freq)).toList ∧
      ((bridge_loraham_send_config_freq e cfg freq c).2 = .OK ↔ Commanded e cfg (some freq)) := by
  unfold bridge_loraham_send_config_freq loraham_send_config_freq
  by_cases hpos : freq ≤ 0
  · have hnone : config_command e cfg (some freq) = none := if_pos (.inl ⟨freq, rfl, hpos⟩)
    rw [if_pos hpos]
    unfold Commanded
    rw [hnone]
    exact ⟨(List.append_nil c.tx).symm, iff_of_false (fun h => nomatch h) fun h => nomatch h⟩
  · have hfreq : ¬ ∃ f ∈ some freq, f ≤ 0 := by
      rintro ⟨f, hf, hle⟩
      rw [← Option.mem_some_iff.mp hf] at hle
      exact hpos hle
    obtain ⟨htx, hok⟩ := @send_config_line_command cfg e _ hfreq c.tx
    rw [if_neg hpos, if_neg hpos, if_neg (by simp [hfd])]
    generalize loraham_send_config_line e cfg (some freq) c.tx = r at htx hok ⊢
    dsimp only
    by_cases hret : r.2 = .OK
    · rw [if_neg (not_not_intro hret)]
      exact ⟨htx, iff_of_true rfl (hok.mp hret)⟩
    · rw [if_pos hret]
      exact ⟨htx, iff_of_false (fun h => nomatch h) fun h => hret (hok.mpr h)⟩

/-- The receive frequency, when there is one. -/
def rx_setting (cfg : lhkt_config_t) : Option ℚ :=
  if cfg.have_rx_freq then some cfg.rx_freq else none

/-- The first line of a configuration. -/
theorem send_config_command (e : sock_env) (tx : List (Sent UInt8)) :
    (loraham_send_config e cfg tx).1 = tx ++ (config_command e cfg (rx_setting cfg)).toList ∧
      ((loraham_send_config e cfg tx).2 = .OK ↔ Commanded e cfg (rx_setting cfg)) := by
  unfold loraham_send_config rx_setting loraham_send_config_freq
  by_cases hrx : cfg.have_rx_freq = true
  · rw [if_pos hrx, if_pos hrx]
    by_cases hpos : cfg.rx_freq ≤ 0
    · have hnone : config_command e cfg (some cfg.rx_freq) = none :=
        if_pos (.inl ⟨cfg.rx_freq, rfl, hpos⟩)
      rw [if_pos hpos]
      unfold Commanded
      rw [hnone]
      exact ⟨(List.append_nil tx).symm, iff_of_false (fun h => nomatch h) fun h => nomatch h⟩
    · rw [if_neg hpos]
      refine send_config_line_command e ?_ tx
      rintro ⟨f, hf, hle⟩
      rw [← Option.mem_some_iff.mp hf] at hle
      exact hpos hle
  · rw [if_neg hrx, if_neg hrx]
    exact send_config_line_command e (fun ⟨_, hf, _⟩ => nomatch hf) tx

/-! ## The way back to the RX frequency -/

/-- The restore works: there is nothing to shift, its command is sent, or no stop was
requested by the end of the pause and the command is sent then. -/
def Restores (cfg : lhkt_config_t) (e : restore_env) (stop : Bool) : Prop :=
  bridge_loraham_tx_shift_needed cfg = false ∨ Commanded e.first cfg (some cfg.rx_freq) ∨
    (stop || e.signal) = false ∧ Commanded e.retry cfg (some cfg.rx_freq)

/-- **The restore** succeeds when its commands say so. -/
theorem restore_ok_iff {e : restore_env} {s : io_t} (hrx : cfg.have_rx_freq = true)
    (hfd : s.conf.fd = true) :
    (bridge_loraham_restore_rx_freq e cfg s).2 = .OK ↔ Restores cfg e s.stop := by
  obtain ⟨-, hfirst⟩ := @send_config_freq_command cfg e.first cfg.rx_freq s.conf hfd
  obtain ⟨tx, freqs, hconf⟩ := bridge_loraham_send_config_freq_frame e.first cfg cfg.rx_freq s.conf
  unfold bridge_loraham_restore_rx_freq Restores
  rw [if_neg (by simp [hrx])]
  by_cases hneeded : bridge_loraham_tx_shift_needed cfg = false
  · rw [if_pos (by simp [hneeded])]
    exact iff_of_true rfl (.inl hneeded)
  rw [if_neg (by simpa using hneeded)]
  dsimp only
  by_cases hok : (bridge_loraham_send_config_freq e.first cfg cfg.rx_freq s.conf).2 = .OK
  · rw [if_pos hok]
    exact iff_of_true rfl (.inr (.inl (hfirst.mp hok)))
  rw [if_neg hok, or_iff_right hneeded, or_iff_right fun h => hok (hfirst.mpr h)]
  -- the pause between the two attempts
  have hpause : ∀ s : io_t, bridge_runtime_sleep_ms LHKT_TX_RESTORE_RETRY_DELAY_MS e.signal s
      = ({ s with stop := s.stop || e.signal }, !(s.stop || e.signal)) := fun s => if_neg (by decide)
  have hopen : (bridge_loraham_send_config_freq e.first cfg cfg.rx_freq s.conf).1.fd = true := by
    rw [hconf]
    exact hfd
  obtain ⟨-, hretry⟩ := @send_config_freq_command cfg e.retry cfg.rx_freq _ hopen
  simp only [hpause, io_t.count, ← hretry]
  cases hstop : (s.stop || e.signal) with
  | true => simp [hok]
  | false =>
      by_cases hret : (bridge_loraham_send_config_freq e.retry cfg cfg.rx_freq
          (bridge_loraham_send_config_freq e.first cfg cfg.rx_freq s.conf).1).2 = .OK
      · simp [hret]
      · simp [hret]

/-! ## Stop requests -/

/-- A stop is requested during a pause; a pause of no length does not look. -/
def pause_stopped (ms : Int) (signal : Bool) : Bool := decide (0 < ms) && signal

theorem sleep_stopped (ms : Int) (signal : Bool) (s : io_t) :
    (bridge_runtime_sleep_ms ms signal s).1.stop = (s.stop || pause_stopped ms signal) := by
  unfold bridge_runtime_sleep_ms pause_stopped
  by_cases hms : ms ≤ 0
  · rw [if_pos hms, decide_eq_false (not_lt.mpr hms), Bool.false_and, Bool.or_false]
  · rw [if_neg hms, decide_eq_true (not_le.mp hms), Bool.true_and]

/-- A pause to its end saw no stop request. -/
theorem sleep_through {ms : Int} {signal : Bool} {s : io_t}
    (h : (bridge_runtime_sleep_ms ms signal s).2 = true) :
    (bridge_runtime_sleep_ms ms signal s).1.stop = s.stop := by
  unfold bridge_runtime_sleep_ms at h ⊢
  by_cases hms : ms ≤ 0
  · rw [if_pos hms]
  · rw [if_neg hms] at h ⊢
    have hrun : (s.stop || signal) = false := by simpa using h
    obtain ⟨hstop, -⟩ := Bool.or_eq_false_iff.mp hrun
    exact hrun.trans hstop.symm

/-- A shift that goes through was not stopped. -/
theorem tx_prepare_stop {e : send_env} {s : io_t} (h : (tx_prepare e cfg s).2 = .OK) :
    (tx_prepare e cfg s).1.stop = s.stop := by
  unfold tx_prepare at h ⊢
  split at h
  · rename_i hskip
    rw [if_pos hskip]
  · rename_i hneeded
    rw [if_neg hneeded]
    dsimp only at h ⊢
    split at h
    · rename_i hret
      exact absurd h hret
    · rename_i hret
      rw [if_neg hret]
      split at h
      · rename_i hslept
        rw [if_pos hslept]
        exact sleep_through hslept
      · -- a shift that is taken back never succeeds
        dsimp only at h
        split at h
        · rename_i hfailed
          exact absurd h hfailed
        · exact nomatch h

/-- A stop is requested before the wait for a TX_RESULT ends. -/
def result_stopped (deadline : Int) : loraham_framed_rx_state_t → List data_round → Bool
  | _, [] => false
  | state, round :: rounds =>
      if round.signal then true
      else if deadline ≤ round.now then false
      else match round.wait with
        | .eintr => result_stopped deadline state rounds
        | .read_again => result_stopped deadline state rounds
        | .read (b :: buf) =>
            if (decided (loraham_framed_decode state (b :: buf)).2).isSome then false
            else result_stopped deadline (loraham_framed_decode state (b :: buf)).1 rounds
        | _ => false

section Rounds

variable {deadline : Int} {round : data_round} {rounds : List data_round}
  {state : loraham_framed_rx_state_t}

/-- A round that ends the wait ends it with its own stop request. -/
theorem result_stopped_end (h : brought deadline round = none) :
    result_stopped deadline state (round :: rounds) = round.signal := by
  unfold brought at h
  rw [result_stopped]
  cases hsignal : round.signal with
  | true => rfl
  | false =>
      rw [if_neg Bool.false_ne_true]
      split
      · rfl
      · rename_i hlate
        rw [if_neg (not_or.mpr ⟨by simp [hsignal], hlate⟩)] at h
        generalize round.wait = wait at h ⊢
        cases wait with
        | eintr => exact nomatch h
        | read_again => exact nomatch h
        | read bytes =>
            obtain _ | ⟨b, buf⟩ := bytes
            · rfl
            · exact nomatch h
        | _ => rfl

/-- Behind any other round it depends on what was read so far. -/
theorem result_stopped_brought {bytes : Bytes} (h : brought deadline round = some bytes) :
    result_stopped deadline state (round :: rounds)
      = if (decided (loraham_framed_decode state bytes).2).isSome then false
        else result_stopped deadline (loraham_framed_decode state bytes).1 rounds := by
  have hsignal := signal_of_brought h
  unfold brought at h
  rw [result_stopped, hsignal, if_neg Bool.false_ne_true]
  split at h
  · exact nomatch h
  · rename_i hgoes
    rw [if_neg fun hlate => hgoes (.inr hlate)]
    generalize round.wait = wait at h ⊢
    cases wait with
    | eintr =>
        rw [← Option.some.inj h]
        rfl
    | read_again =>
        rw [← Option.some.inj h]
        rfl
    | read data =>
        obtain _ | ⟨b, buf⟩ := data
        · exact nomatch h
        · rw [← Option.some.inj h]
    | _ => exact nomatch h

end Rounds

/-- A wait is stopped when its rounds say so. -/
theorem wait_rounds_stopped (w : Nat → List write_ret) (deadline : Int) (rounds : List data_round) :
    ∀ l : wait_t, l.stop = false → (wait_rounds w deadline rounds l).1.stop
      = result_stopped deadline l.data.framed rounds := by
  refine wait_rounds_running (P := fun l rounds r =>
    r.1.stop = result_stopped deadline l.data.framed rounds) w deadline
    (fun _ hstop => hstop) ?_ ?_ ?_ ?_ rounds
  · intro l round rounds hbrought
    exact (result_stopped_end hbrought).symm
  · intro l round rounds hbrought ih
    rw [result_stopped_brought hbrought]
    exact ih
  · intro l round rounds b buf l' hbrought _ hdec hframed ih
    rw [result_stopped_brought hbrought, hdec, ← hframed]
    exact ih
  · intro l round rounds b buf l' decision hbrought _ hdec hrun
    rw [result_stopped_brought hbrought, hdec]
    exact hrun

/-- **The wait for a TX_RESULT** leaves the stop request that its rounds saw. -/
theorem wait_tx_result_stopped (e : result_env) (client_fd : Bool) {s : io_t}
    (hopen : s.data.fd = true) (hstop : s.stop = false) :
    (bridge_loraham_wait_tx_result e cfg client_fd s).1.stop
      = result_stopped (e.start + cfg.tx_busy_timeout_ms) s.data.framed e.rounds := by
  unfold bridge_loraham_wait_tx_result
  rw [if_neg (by simp [hopen])]
  exact wait_rounds_stopped e.client _ e.rounds ⟨s.stop, s.rx, s.data, client_fd, .OK⟩ hstop

/-- A result that came in time came without a stop request. -/
theorem result_stopped_of_verdict {deadline : Int} {rounds : List data_round} :
    ∀ {state : loraham_framed_rx_state_t} {result : loraham_tx_result_t},
      wait_verdict state (reads_in_time deadline rounds) = .ok result →
        result_stopped deadline state rounds = false := by
  induction rounds with
  | nil => exact fun _ => rfl
  | cons round rounds ih =>
      intro state result h
      rcases hbrought : brought deadline round with _ | _ | ⟨b, buf⟩
      · rw [reads_in_time_end hbrought] at h
        exact nomatch h
      · rw [reads_in_time_skip hbrought] at h
        rw [result_stopped_brought hbrought]
        exact ih h
      · rw [reads_in_time_read hbrought, wait_verdict] at h
        rw [result_stopped_brought hbrought]
        cases hdec : decided (loraham_framed_decode state (b :: buf)).2 with
        | none =>
            rw [hdec] at h
            exact ih h
        | some decision => rfl

/-! ## The CONF events -/

/-- How the wait for the end of a transmission ends. -/
inductive idle_end where
  | idle
  | stopped
  | given_up
  deriving DecidableEq, Repr

/-- The end of a transmission, by the rounds that are in time. -/
def idle_by (deadline : Int) : List conf_round → conf_t → idle_end
  | [], c => if c.state.tx_busy then .given_up else .idle
  | round :: rounds, c =>
      if !c.state.tx_busy then .idle
      else if round.signal then .stopped
      else if deadline ≤ round.now then .given_up
      else match bridge_conf_wait_read round.wait c with
        | (_, .error _) => .given_up
        | (c, .ok _) => idle_by deadline rounds c

/-- The CONF events of a transmission: its begin, then its end. -/
def events_end (e : complete_env) (cfg : lhkt_config_t) (c : conf_t) : idle_end :=
  if (wait_saw_tx e c).2 ≠ .OK then .given_up
  else idle_by (e.busy + cfg.tx_busy_timeout_ms) e.busy_rounds (wait_saw_tx e c).1

theorem wait_tx_idle_by (deadline : Int) (rounds : List conf_round) : ∀ s : io_t,
    s.stop = false →
      (wait_tx_idle deadline rounds s).1.stop = decide (idle_by deadline rounds s.conf = .stopped) ∧
      ((wait_tx_idle deadline rounds s).2 = .OK ↔ idle_by deadline rounds s.conf = .idle) := by
  -- along the rounds, in the order in which the source looks at them
  induction rounds with
  | nil =>
      intro s hstop
      unfold wait_tx_idle idle_by
      cases s.conf.state.tx_busy <;> simp [hstop]
  | cons round rounds ih =>
      intro s hstop
      unfold wait_tx_idle idle_by
      by_cases hbusy : (!s.conf.state.tx_busy) = true
      · rw [if_pos hbusy, if_pos hbusy]
        exact ⟨hstop, iff_of_true rfl rfl⟩
      rw [if_neg hbusy, if_neg hbusy]
      by_cases hsignal : round.signal = true
      · dsimp only
        rw [if_pos (by rw [hsignal, Bool.or_true]), if_pos hsignal]
        refine ⟨?_, iff_of_false (by simp) (by simp)⟩
        show (s.stop || round.signal) = true
        rw [hsignal, Bool.or_true]
      have hsame : ({ s with stop := s.stop || round.signal } : io_t) = s := by
        rw [Bool.eq_false_of_not_eq_true hsignal, Bool.or_false]
      rw [hsame, if_neg hsignal]
      dsimp only
      rw [if_neg (by rw [hstop]; decide)]
      by_cases hlate : deadline ≤ round.now
      · rw [if_pos hlate, if_pos hlate]
        exact ⟨hstop, iff_of_false (by simp) (by simp)⟩
      rw [if_neg hlate, if_neg hlate]
      generalize bridge_conf_wait_read round.wait s.conf = r
      obtain ⟨c, ret | more⟩ := r
      · exact ⟨hstop, iff_of_false (by simp) (by simp)⟩
      · exact ih { s with conf := c } hstop

/-- **The wait for CONF events** ends as its rounds say. -/
theorem wait_tx_complete_by (e : complete_env) {s : io_t} (hfd : s.conf.fd = true)
    (hstop : s.stop = false) :
    (bridge_loraham_wait_tx_complete e cfg s).1.stop
        = decide (events_end e cfg s.conf = .stopped) ∧
      ((bridge_loraham_wait_tx_complete e cfg s).2 = .OK ↔ events_end e cfg s.conf = .idle) := by
  unfold bridge_loraham_wait_tx_complete events_end
  rw [if_neg (by simp [hfd])]
  dsimp only
  by_cases hsaw : (wait_saw_tx e s.conf).2 ≠ .OK
  · rw [if_pos hsaw, if_pos hsaw]
    exact ⟨hstop, iff_of_false hsaw fun h => nomatch h⟩
  rw [if_neg hsaw, if_neg hsaw]
  split
  · -- the transmission is already over: no round is looked at
    rename_i hover
    have hidle : idle_by (e.busy + cfg.tx_busy_timeout_ms) e.busy_rounds (wait_saw_tx e s.conf).1
        = .idle := by
      cases e.busy_rounds with
      | nil =>
          rw [idle_by, if_neg]
          simpa using hover.1
      | cons round rounds => rw [idle_by, if_pos hover.1]
    rw [hidle]
    exact ⟨hstop, iff_of_true rfl rfl⟩
  · exact wait_tx_idle_by _ _ { s with conf := (wait_saw_tx e s.conf).1 } hstop

/-- A stop is requested while the CONF events are waited for, or in the pause that
stands in for them. -/
def events_stopped (e : send_env) (cfg : lhkt_config_t) (c : conf_t) : Bool :=
  match events_end e.complete cfg c with
  | .idle => false
  | .stopped => true
  | .given_up => pause_stopped cfg.tx_return_ms e.return_signal

theorem tx_events_waited_stopped (e : send_env) (packet : Bytes) {s : io_t}
    (hfd : s.conf.fd = true) (hstop : s.stop = false) :
    (tx_events_waited e cfg packet s).stop = events_stopped e cfg s.conf := by
  obtain ⟨hstopped, hidle⟩ := @wait_tx_complete_by cfg e.complete s hfd hstop
  unfold tx_events_waited events_stopped
  dsimp only
  split
  · rename_i hret
    show (bridge_runtime_sleep_ms _ _ _).1.stop = _
    rw [sleep_stopped]
    show ((bridge_loraham_wait_tx_complete e.complete cfg s).1.stop || _) = _
    rw [hstopped]
    cases hend : events_end e.complete cfg s.conf with
    | idle => exact absurd (hidle.mpr hend) hret
    | stopped => exact Bool.true_or _
    | given_up => exact Bool.false_or _
  · rename_i hret
    have hend := hidle.mp (not_ne_iff.mp hret)
    show (bridge_loraham_wait_tx_complete e.complete cfg s).1.stop = _
    rw [hstopped, hend]
    rfl

/-- A stop is requested between the write of the packet, in state `s`, and the way
back to the RX frequency. -/
def restore_stopped (e : send_env) (cfg : lhkt_config_t) (packet : Bytes) (s : io_t) : Bool :=
  if (bridge_loraham_write e packet s).2 ≠ .OK then pause_stopped cfg.tx_return_ms e.return_signal
  else if bridge_conf_txresult_enabled s.conf.state then
    result_stopped (e.result.start + cfg.tx_busy_timeout_ms) s.data.framed e.result.rounds
  else events_stopped e cfg s.conf

/-- **The way back.** A transmission that gets to the write of its packet leaves the CONF
connection as a restore does, called with the stop requests seen by then. -/
theorem send_packet_restore {e : send_env} (client_fd : Bool) {packet : Bytes} {s : io_t}
    (hsend : Sendable cfg packet s) (hprep : (tx_prepare e cfg s).2 = .OK)
    (hfd : s.conf.fd = true) (hstop : s.stop = false) :
    ∃ s', s'.conf.tx = (tx_prepare e cfg s).1.conf.tx ∧ s'.conf.fd = true ∧
      s'.stop = restore_stopped e cfg packet (tx_prepare e cfg s).1 ∧
      (send_packet true e cfg client_fd packet s).1.conf
        = (bridge_loraham_restore_rx_freq e.restore cfg s').1.conf := by
  have hcmd := commandsOnly_tx_prepare e cfg s
  have hopen : (tx_prepare e cfg s).1.data.fd = true := by
    rw [hcmd.data_eq]
    exact hsend.data_fd
  have hfd : (tx_prepare e cfg s).1.conf.fd = true := by
    obtain ⟨_, _, hconf⟩ := hcmd.conf_frame
    rw [hconf]
    exact hfd
  have hstop : (tx_prepare e cfg s).1.stop = false := (tx_prepare_stop hprep).trans hstop
  unfold restore_stopped
  refine send_packet_ways (P := fun r => ∃ s' : io_t,
    s'.conf.tx = (tx_prepare e cfg s).1.conf.tx ∧ s'.conf.fd = true ∧ s'.stop = _ ∧
      r.1.conf = (bridge_loraham_restore_rx_freq e.restore cfg s').1.conf) true e cfg client_fd
    packet s (fun h => absurd h hsend.nonempty) (fun _ _ h => absurd hsend h)
    (fun _ h => absurd hprep h) ?_ ?_
  · intro _ _ hwrite
    -- a packet that was not written whole
    obtain ⟨stop, hsleep⟩ := bridge_runtime_sleep_ms_frame cfg.tx_return_ms e.return_signal
      ((tx_sent e cfg packet s).count .loraham_drop)
    have hstopped := sleep_stopped cfg.tx_return_ms e.return_signal
      ((tx_sent e cfg packet s).count .loraham_drop)
    rw [if_pos hwrite]
    refine ⟨(bridge_runtime_sleep_ms cfg.tx_return_ms e.return_signal
      ((tx_sent e cfg packet s).count .loraham_drop)).1, ?_, ?_, ?_, rfl⟩
    · rw [hsleep]
      rfl
    · rw [hsleep]
      exact hfd
    · rw [hstopped]
      show ((tx_prepare e cfg s).1.stop || _) = _
      rw [hstop, Bool.false_or]
  · intro hwritten
    rw [if_neg (not_not_intro hwritten.written)]
    unfold tx_confirm
    by_cases henabled : bridge_conf_txresult_enabled (tx_prepare e cfg s).1.conf.state = true
    · -- a TX_RESULT is waited for, which does not touch CONF
      have hstopped := @wait_tx_result_stopped cfg e.result client_fd (tx_sent e cfg packet s)
        hopen hstop
      rw [if_pos henabled]
      rw [if_pos (show bridge_conf_txresult_enabled (tx_sent e cfg packet s).conf.state = true from
        henabled), if_pos rfl]
      unfold tx_confirm_result
      generalize hwait : bridge_loraham_wait_tx_result e.result cfg client_fd
        (tx_sent e cfg packet s) = r at hstopped ⊢
      obtain ⟨s₃, client_error, ret⟩ := r
      have hconf : s₃.conf = (tx_prepare e cfg s).1.conf := by
        rcases bridge_loraham_wait_tx_result_cases hwait with ⟨hs, -, -⟩ | ⟨l, -, -, hs⟩
        · rw [hs]
          rfl
        · rw [hs]
          rfl
      cases ret with
      | error _ =>
          refine ⟨(s₃.count .tx_unconfirmed).log_tx .unconfirmed packet, ?_, ?_, hstopped, rfl⟩
          · exact congrArg conf_t.tx hconf
          · exact (congrArg conf_t.fd hconf).trans hfd
      | ok result =>
          obtain ⟨_, _, hlogged⟩ := tx_result_logged_frame packet result s₃
          refine ⟨tx_result_logged packet result s₃, ?_, ?_, ?_, ?_⟩
          · rw [hlogged]
            exact congrArg conf_t.tx hconf
          · rw [hlogged]
            exact (congrArg conf_t.fd hconf).trans hfd
          · rw [hlogged]
            exact hstopped
          · show (tx_result_received e cfg packet client_error result s₃).1.conf = _
            unfold tx_result_received
            dsimp only
            split
            · rfl
            · split <;> rfl
    · have hstopped := @tx_events_waited_stopped cfg e packet (tx_sent e cfg packet s) hfd hstop
      obtain ⟨_, _, _, c, hfed, hwaited⟩ := tx_events_waited_frame e cfg packet
        (tx_sent e cfg packet s)
      obtain ⟨_, _, rfl⟩ := hfed.frame
      rw [if_neg henabled]
      rw [if_neg (show ¬ bridge_conf_txresult_enabled (tx_sent e cfg packet s).conf.state = true from
        henabled)]
      refine ⟨tx_events_waited e cfg packet (tx_sent e cfg packet s), ?_, ?_, hstopped, ?_⟩
      · rw [hwaited]
        rfl
      · rw [hwaited]
        exact hfd
      · unfold tx_confirm_events
        dsimp only
        split <;> rfl

end LorahamKissTnc.TxEvents
