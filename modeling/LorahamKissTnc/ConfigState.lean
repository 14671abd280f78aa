/-
What `config_ok` stands for.

The main loop remembers in one flag that the daemon is configured, and asks for
nothing more as long as it is set. The flag is set far from where it is cleared:
by a configuration at the start, behind a reconnect of DATA or while one is
pending, and cleared by whatever gives one of the connections up. What it means
is a fact about the CONF connection that is open now: the three commands of a
configuration have gone out on it completely, in order and with nothing between
them, and only frequencies were set since (`config_ok_configured`).
-/
import LorahamKissTnc.StepRules
import LorahamKissTnc.ConfStream

set_option autoImplicit false

open LorahamKissTnc.Lib.CString LorahamKissTnc.Lib.Channel LorahamKissTnc.Lib.Machine
open LorahamKissTnc.Config LorahamKissTnc.LorahamSock LorahamKissTnc.BridgeConf
open LorahamKissTnc.BridgeKiss LorahamKissTnc.BridgeLoraham LorahamKissTnc.Bridge
open LorahamKissTnc.ConfStream LorahamKissTnc.Connections LorahamKissTnc.StepRules

namespace LorahamKissTnc.ConfigState

variable {cfg : lhkt_config_t}

/-- The commands of a configuration. -/
def config_commands (cfg : lhkt_config_t) : List Bytes :=
  [rx_config_line cfg, txresult_line, status_line]

/-- On this connection a whole configuration went out, and then frequencies only. -/
def ConfigSent (cfg : lhkt_config_t) (tx : List (Sent UInt8)) : Prop :=
  ∃ before sent later, tx = before ++ sent ++ later ∧ sent.map Sent.buf = config_commands cfg ∧
    (∀ s ∈ sent, s.Complete) ∧ ∀ s ∈ later, IsRetune cfg s

/-- Frequency lines behind a configuration. -/
theorem ConfigSent.retuned {c c' : conf_t} (h : ConfigSent cfg c.tx) (hr : Retunes cfg c c') :
    ConfigSent cfg c'.tx := by
  obtain ⟨before, sent, later, htx, hbufs, hcomplete, hlater⟩ := h
  obtain ⟨lines, htx', hlines⟩ := hr.tx
  refine ⟨before, sent, later ++ lines, ?_, hbufs, hcomplete, ?_⟩
  · rw [htx', htx]
    simp
  · intro s hs
    rcases List.mem_append.mp hs with hs | hs
    · exact hlater s hs
    · exact hlines s hs

/-! ## A configuration -/

/-- A command that is reported as sent is on the connection. -/
theorem send_command_sent {e : sock_env} {line : Bytes} {tx : List (Sent UInt8)}
    (h : (send_command e line tx).2 = .OK) :
    ∃ sent : Sent UInt8, (send_command e line tx).1 = tx ++ [sent] ∧ sent.buf = line ∧
      sent.Complete :=
  ⟨_, rfl, loraham_sock_write_buf e line, loraham_sock_write_complete (send_command_ok h)⟩

theorem send_config_line_sent {e : sock_env} {freq : Option ℚ} {tx : List (Sent UInt8)}
    (h : (loraham_send_config_line e cfg freq tx).2 = .OK) :
    ∃ sent : Sent UInt8, (loraham_send_config_line e cfg freq tx).1 = tx ++ [sent] ∧
      sent.buf = config_line cfg freq ∧ sent.Complete := by
  unfold loraham_send_config_line at h ⊢
  split
  · rename_i hlong
    rw [if_pos hlong] at h
    exact nomatch h
  · rename_i hlong
    rw [if_neg hlong] at h
    exact send_command_sent h

theorem send_config_sent {e : sock_env} {tx : List (Sent UInt8)}
    (h : (loraham_send_config e cfg tx).2 = .OK) :
    ∃ sent : Sent UInt8, (loraham_send_config e cfg tx).1 = tx ++ [sent] ∧
      sent.buf = rx_config_line cfg ∧ sent.Complete := by
  unfold loraham_send_config rx_config_line at *
  split
  · rename_i hrx
    rw [if_pos hrx] at h
    unfold loraham_send_config_freq at h ⊢
    split
    · rename_i hfreq
      rw [if_pos hfreq] at h
      exact nomatch h
    · rename_i hfreq
      rw [if_neg hfreq] at h
      exact send_config_line_sent h
  · rename_i hrx
    rw [if_neg hrx] at h
    exact send_config_line_sent h

/-- **A configuration that succeeds** has its three commands on the connection. -/
theorem send_initial_config_sent {e : config_env} {c : conf_t}
    (h : (bridge_loraham_send_initial_config_with_state e cfg c).2 = .OK) :
    ∃ sent, (bridge_loraham_send_initial_config_with_state e cfg c).1.tx = c.tx ++ sent ∧
      sent.map Sent.buf = config_commands cfg ∧ ∀ s ∈ sent, s.Complete := by
  unfold bridge_loraham_send_initial_config_with_state at h ⊢
  split
  · rename_i hfd
    rw [if_pos hfd] at h
    exact nomatch h
  · rename_i hfd
    rw [if_neg hfd] at h
    dsimp only at h ⊢
    -- the three commands one after another, each of which was reported as sent
    split
    · rename_i hbad
      rw [if_pos hbad] at h
      exact nomatch h
    · rename_i hconfig
      rw [if_neg hconfig] at h
      obtain ⟨first, htx, hbuf, hfirst⟩ := send_config_sent (not_ne_iff.mp hconfig)
      rw [htx] at h ⊢
      split
      · rename_i hbad
        rw [if_pos hbad] at h
        exact nomatch h
      · rename_i htxresult
        rw [if_neg htxresult] at h
        obtain ⟨second, htx', hbuf', hsecond⟩ := send_command_sent (not_ne_iff.mp htxresult)
        rw [loraham_send_txresult_enable, htx'] at h ⊢
        split
        · rename_i hbad
          rw [if_pos hbad] at h
          exact nomatch h
        · rename_i hstatus
          obtain ⟨third, htx'', hbuf'', hthird⟩ := send_command_sent (not_ne_iff.mp hstatus)
          refine ⟨[first, second, third], ?_, ?_, ?_⟩
          · show (bridge_loraham_send_status_request e.status _).1 = _
            rw [bridge_loraham_send_status_request, htx'']
            simp
          · simp [config_commands, hbuf, hbuf', hbuf'']
          · simp [hfirst, hsecond, hthird]

/-! ## The flag -/

/-- What the flag says. -/
def Promised (cfg : lhkt_config_t) (s : bridge_t) : Prop :=
  s.config_ok = true → s.conf.fd = true ∧ ConfigSent cfg s.conf.tx

theorem promised_unset {s : bridge_t} (h : s.config_ok = false) : Promised cfg s :=
  fun hok => absurd (h.symm.trans hok) (by simp)

/-- One step of the main loop. -/
theorem bridge_step_promised (s : bridge_t) (e : bridge_env) (h : Promised cfg s) :
    (bridge_step cfg s e).pc ≠ .done → Promised cfg (bridge_step cfg s e) := by
  refine bridge_step_pieces (P := Promised cfg) (Q := fun s => s.pc ≠ .done → Promised cfg s) s e h
    (fun _ hs _ => hs) ?_ (fun _ _ _ _ _ hs => hs) (fun _ hs => hs) (fun _ hs => hs)
    (fun _ hs => hs) (fun _ hs => hs) (fun _ _ => promised_unset rfl)
    (fun _ _ => promised_unset rfl) ?_ ?_ (fun _ hs _ _ => hs) ?_ (fun _ hs _ => hs)
    (fun _ _ _ _ hs => hs) ?_ (fun _ _ _ hs _ _ => hs)
  · exact fun s _ hpc => absurd (bridge_exit_pc s) hpc
  · intro _ _ hok
    obtain ⟨hfd, hsent⟩ := h hok
    have hr := retunes_drain cfg e.drain s.client_fd s.toio_t s.txq
    exact ⟨hr.fd.trans hfd, hsent.retuned hr⟩
  · -- a fresh CONF connection is opened only where there was none, and then the flag was off
    intro s hs hfd hok
    exact absurd (hfd.symm.trans (hs hok).1) (by simp)
  · intro s ok _ hfd hret hok
    have hsent := hret hok
    obtain ⟨sent, htx, hbufs, hcomplete⟩ := send_initial_config_sent hsent
    exact ⟨(send_initial_config_conf cfg e.config s.conf).1.trans hfd, s.conf.tx, sent, [],
      htx.trans (List.append_nil _).symm, hbufs, hcomplete, by simp⟩
  · intro s hs _ hok
    obtain ⟨hfd, hsent⟩ := hs hok
    obtain ⟨_, _, hread⟩ := bridge_conf_read_available_frame e.conf s.conf
    rw [hread]
    exact ⟨hfd, hsent⟩

theorem bridge_start_promised (start : start_env) :
    (bridge_start cfg start).pc ≠ .done → Promised cfg (bridge_start cfg start) := by
  unfold bridge_start
  dsimp only
  split
  · exact fun hpc => absurd (bridge_exit_pc _) hpc
  · intro _ hok
    have hret : (send_initial_config start.config cfg { conf := { fd := start.conf_connect } }).2
        = .OK := by simpa using hok
    obtain ⟨sent, htx, hbufs, hcomplete⟩ := send_initial_config_sent hret
    have hopen : start.conf_connect = true := by
      by_contra hno
      have hbad := (send_initial_config_conf cfg start.config
        { fd := start.conf_connect }).2 (by simpa using hno)
      unfold send_initial_config at hret
      dsimp only at hret
      rw [hbad] at hret
      exact nomatch hret
    exact ⟨(send_initial_config_conf cfg start.config _).1.trans hopen, [], sent, [],
      htx.trans (by simp), hbufs, hcomplete, by simp⟩

/-- **`config_ok` is true to its name.** In every state of every run of the loop:
where the flag is set, CONF is open, and on this very connection the three
commands of a configuration went out completely, one behind the other, followed
by frequency changes only. -/
theorem config_ok_configured (cfg : lhkt_config_t) (start : start_env) (es : List bridge_env)
    (hpc : (bridge_run cfg start es).pc ≠ .done)
    (hok : (bridge_run cfg start es).config_ok = true) :
    (bridge_run cfg start es).conf.fd = true ∧
      ConfigSent cfg (bridge_run cfg start es).conf.tx := by
  refine run_invariant (P := fun s => s.pc ≠ .done → Promised cfg s) ?_ es _
    (bridge_start_promised start) hpc hok
  intro s e hs hpc
  by_cases hdone : s.pc = .done
  · -- behind the loop there is no step
    have hsame : bridge_step cfg s e = s := by rw [bridge_step, hdone]
    rw [hsame] at hpc
    exact absurd hdone hpc
  · exact bridge_step_promised s e (hs hdone) hpc

/-- The flag is set again behind a reconnect of both connections. -/
theorem config_ok_configured_again :
    let gone : bridge_env :=
      { select := .ready { conf := true, data := true }
        conf := { last := .eof }
        data := .read [] }
    let es : List bridge_env := iteration gone ++ ([{}, {}, {}, {}] : List bridge_env)
    ConfigSent lhkt_config_defaults (bridge_run lhkt_config_defaults {} es).conf.tx := by
  intro gone es
  exact (config_ok_configured lhkt_config_defaults {} es (by decide +kernel)
    (by decide +kernel)).2

end LorahamKissTnc.ConfigState
