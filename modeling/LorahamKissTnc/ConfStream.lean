/-
What the daemon reads on a CONF connection: complete command lines, and at most
one truncated line behind which nothing is taken.

A command whose write fails may have been taken in part. Most callers give the
connection up then. Three do not: a restore writes the line again on the same
socket; a restore behind a failed packet write or a missing TX_RESULT has its
result discarded; and an initial configuration that fails is sent again later on
the same socket. A line that was cut does no harm while nothing is taken behind it:
a stop request may keep the restore from its second attempt, or the connection may
be closed before anything else is written. `NothingBehindCut` asks for no more than
that, of the restores and of the first line that a step writes; under it the
commands of every connection are intact in every state of every run.
-/
import LorahamKissTnc.TxEvents

set_option autoImplicit false

open LorahamKissTnc.Lib.CString LorahamKissTnc.Lib.Channel LorahamKissTnc.Lib.Machine
open LorahamKissTnc.Config LorahamKissTnc.LorahamSock LorahamKissTnc.BridgeConf
open LorahamKissTnc.BridgeTxQueue LorahamKissTnc.BridgeRx LorahamKissTnc.BridgeKiss
open LorahamKissTnc.BridgeLoraham LorahamKissTnc.Bridge LorahamKissTnc.TxAccounting
open LorahamKissTnc.TxEvents

namespace LorahamKissTnc.ConfStream

variable {cfg : lhkt_config_t}

/-! ## Commands -/

/-- A command line that was written, and taken in full if that was reported. -/
def Command (cfg : lhkt_config_t) (s : Sent UInt8) : Prop :=
  IsCommand cfg s.buf ∧ (s.ok = true → s.Complete)

theorem config_line_ne_nil (cfg : lhkt_config_t) (freq : Option ℚ) : config_line cfg freq ≠ [] := by
  unfold config_line ascii
  simp

/-- No command is empty. -/
theorem isCommand_ne_nil {line : Bytes} (h : IsCommand cfg line) : line ≠ [] := by
  rcases h with ⟨freq, rfl⟩ | rfl | rfl
  · exact config_line_ne_nil cfg freq
  · decide
  · decide

/-- Of a command reported as sent something was taken. -/
theorem Command.taken {s : Sent UInt8} (h : Command cfg s) (hok : s.ok = true) : s.taken ≠ 0 := by
  have hcomplete : s.taken = s.buf.length := h.2 hok
  rw [hcomplete]
  exact fun h0 => isCommand_ne_nil h.1 (List.length_eq_zero_iff.mp h0)

/-- The write of a command line. -/
theorem command_write (e : sock_env) {line : Bytes} (h : IsCommand cfg line) :
    Command cfg (loraham_sock_write e line) :=
  ⟨by rw [loraham_sock_write_buf]; exact h, loraham_sock_write_complete⟩

/-- The configuration line that a writer may write. -/
theorem command_config (e : sock_env) (freq : Option ℚ) :
    ∀ line ∈ config_command e cfg freq, Command cfg line := by
  intro line hline
  unfold config_command at hline
  split at hline
  · exact nomatch hline
  · rw [← Option.mem_some_iff.mp hline]
    exact command_write e (.inl ⟨freq, rfl⟩)

/-- Nothing of the line is taken, if it is written at all. -/
def Silent (line : Option (Sent UInt8)) : Prop := ∀ s ∈ line, s.taken = 0

/-- A line that was sent was taken. -/
theorem Silent.not_commanded {e : sock_env} {freq : Option ℚ}
    (h : Silent (config_command e cfg freq)) : ¬ Commanded e cfg freq :=
  fun ⟨line, hline, hok⟩ => (command_config e freq line hline).taken hok (h line hline)

/-- From `c` to `c'` only commands were written, each taken as a whole or not at
all; only when `cut` holds may the last one that was taken be truncated. -/
def Sends (cfg : lhkt_config_t) (c c' : conf_t) (cut : Prop) : Prop :=
  ∃ sent, c'.tx = c.tx ++ sent ∧ (∀ s ∈ sent, Command cfg s) ∧
    (Clean Sent.Whole sent ∨ cut ∧ Intact Sent.Whole (taking sent))

/-- From `c` to `c'` only commands were written of which nothing was taken. -/
def Attempts (cfg : lhkt_config_t) (c c' : conf_t) : Prop :=
  ∃ sent, c'.tx = c.tx ++ sent ∧ (∀ s ∈ sent, Command cfg s) ∧ ∀ s ∈ sent, s.taken = 0

section Sends

variable {c c' c'' : conf_t} {cut cut' : Prop}

theorem Attempts.of_eq (h : c'.tx = c.tx) : Attempts cfg c c' :=
  ⟨[], by rw [h, List.append_nil], fun _ hs => absurd hs List.not_mem_nil,
    fun _ hs => absurd hs List.not_mem_nil⟩

/-- An attempt cuts nothing. -/
theorem Attempts.sends (h : Attempts cfg c c') : Sends cfg c c' cut := by
  obtain ⟨sent, htx, hsent, hsilent⟩ := h
  exact ⟨sent, htx, hsent, .inl fun s hs => .inl (hsilent s hs)⟩

theorem Sends.of_eq (h : c'.tx = c.tx) : Sends cfg c c' cut := (Attempts.of_eq h).sends

theorem Sends.mono (h : Sends cfg c c' cut) (hcut : cut → cut') : Sends cfg c c' cut' := by
  obtain ⟨sent, htx, hsent, hwhole⟩ := h
  exact ⟨sent, htx, hsent, hwhole.imp_right fun h => ⟨hcut h.1, h.2⟩⟩

/-- Two writers after each other, the first of which did not fail. -/
theorem Sends.trans (h : Sends cfg c c' False) (h' : Sends cfg c' c'' cut) :
    Sends cfg c c'' cut := by
  obtain ⟨sent, htx, hsent, hwhole⟩ := h
  obtain ⟨sent', htx', hsent', hwhole'⟩ := h'
  have hclean : Clean Sent.Whole sent := hwhole.resolve_right fun h => h.1
  refine ⟨sent ++ sent', by rw [htx', htx, List.append_assoc], ?_, ?_⟩
  · intro s hs
    exact (List.mem_append.mp hs).elim (hsent s) (hsent' s)
  · rcases hwhole' with hclean' | ⟨hcut, hintact⟩
    · exact .inl (clean_append.mpr ⟨hclean, hclean'⟩)
    · refine .inr ⟨hcut, ?_⟩
      rw [taking_append]
      exact (clean_taking.mpr hclean).append_intact hintact

/-- Attempts behind a line that may be cut do no harm. -/
theorem Sends.attempts (h : Sends cfg c c' cut) (h' : Attempts cfg c' c'') :
    Sends cfg c c'' cut := by
  obtain ⟨sent, htx, hsent, hwhole⟩ := h
  obtain ⟨sent', htx', hsent', hsilent⟩ := h'
  refine ⟨sent ++ sent', by rw [htx', htx, List.append_assoc], ?_, ?_⟩
  · intro s hs
    exact (List.mem_append.mp hs).elim (hsent s) (hsent' s)
  · rcases hwhole with hclean | ⟨hcut, hintact⟩
    · exact .inl (clean_append.mpr ⟨hclean, fun s hs => .inl (hsilent s hs)⟩)
    · refine .inr ⟨hcut, ?_⟩
      rw [taking_append, taking_silent hsilent, List.append_nil]
      exact hintact

/-- One configuration line. -/
theorem config_command_sends (e : sock_env) (freq : Option ℚ)
    (htx : c'.tx = c.tx ++ (config_command e cfg freq).toList) :
    Sends cfg c c' (¬ Commanded e cfg freq) := by
  refine ⟨_, htx, fun s hs => command_config e freq s (Option.mem_toList.mp hs), ?_⟩
  by_cases hok : Commanded e cfg freq
  · obtain ⟨line, hline, htaken⟩ := hok
    refine .inl fun s hs => ?_
    obtain rfl : line = s := Option.mem_unique hline (Option.mem_toList.mp hs)
    exact ((command_config e freq line hline).2 htaken).whole
  · exact .inr ⟨hok, intact_taking_toList _⟩

/-- A configuration line of which nothing is taken. -/
theorem config_command_attempts (e : sock_env) (freq : Option ℚ)
    (htx : c'.tx = c.tx ++ (config_command e cfg freq).toList)
    (h : Silent (config_command e cfg freq)) : Attempts cfg c c' :=
  ⟨_, htx, fun s hs => command_config e freq s (Option.mem_toList.mp hs),
    fun s hs => h s (Option.mem_toList.mp hs)⟩

/-- One command that is no configuration. -/
theorem send_command_sends (e : sock_env) {line : Bytes} (h : IsCommand cfg line)
    (htx : c'.tx = (send_command e line c.tx).1) :
    Sends cfg c c' ((send_command e line c.tx).2 ≠ .OK) := by
  have hone : ∀ s ∈ [loraham_sock_write e line], Command cfg s := by
    intro s hs
    rw [List.mem_singleton.mp hs]
    exact command_write e h
  refine ⟨[loraham_sock_write e line], htx, hone, ?_⟩
  by_cases hok : (loraham_sock_write e line).ok = true
  · refine .inl fun s hs => ?_
    rw [List.mem_singleton.mp hs]
    exact (loraham_sock_write_complete hok).whole
  · refine .inr ⟨?_, intact_taking_toList (some (loraham_sock_write e line))⟩
    unfold send_command
    dsimp only
    rw [if_neg hok]
    decide

/-- A command is reported as sent only if its write was. -/
theorem send_command_ok {e : sock_env} {line : Bytes} {tx : List (Sent UInt8)}
    (h : (send_command e line tx).2 = .OK) : (loraham_sock_write e line).ok = true := by
  unfold send_command at h
  dsimp only at h
  by_contra hno
  rw [if_neg hno] at h
  exact nomatch h

end Sends

/-! ## A restore -/

/-- A restore that goes on to its second attempt, as no stop was requested by the end
of the pause, takes nothing there behind a line that was cut in the first. -/
def RetrySilent (cfg : lhkt_config_t) (e : restore_env) (stop : Bool) : Prop :=
  (stop || e.signal) = false →
    (∃ line ∈ config_command e.first cfg (some cfg.rx_freq), ¬ line.Whole) →
    Silent (config_command e.retry cfg (some cfg.rx_freq))

/-- **A restore** leaves at most its last line cut. -/
theorem restore_sends {e : restore_env} {s : io_t} (hfd : s.conf.fd = true)
    (hretry : bridge_loraham_tx_shift_needed cfg = true → RetrySilent cfg e s.stop) :
    Sends cfg s.conf (bridge_loraham_restore_rx_freq e cfg s).1.conf True := by
  have hcommand : ∀ (e : sock_env) {c c' : conf_t} {ret : Lhkt}, c.fd = true →
      bridge_loraham_send_config_freq e cfg cfg.rx_freq c = (c', ret) →
      c'.tx = c.tx ++ (config_command e cfg (some cfg.rx_freq)).toList := by
    intro e c c' ret hc hsend
    have h := (@send_config_freq_command cfg e cfg.rx_freq c hc).1
    rw [hsend] at h
    exact h
  refine restore_elim (P := fun r => Sends cfg s.conf r.1.conf True) e cfg s
    (fun _ => Sends.of_eq rfl) (fun _ => Sends.of_eq rfl) ?_ ?_ ?_
  · intro c _ hfirst
    exact (config_command_sends e.first _ (hcommand e.first hfd hfirst)).mono fun _ => trivial
  · intro c ret _ _ _ hfirst _
    exact (config_command_sends e.first _ (hcommand e.first hfd hfirst)).mono fun _ => trivial
  · intro c c' ret ret' _ _ hneeded hfirst _ hrun hsecond
    have hopen : c.fd = true := by
      obtain ⟨_, _, hc⟩ := bridge_loraham_send_config_freq_frame e.first cfg cfg.rx_freq s.conf
      rw [hfirst] at hc
      have hc : c = _ := hc
      rw [hc]
      exact hfd
    have hfirst := hcommand e.first hfd hfirst
    have hsecond := hcommand e.retry hopen hsecond
    by_cases hcut : ∃ line ∈ config_command e.first cfg (some cfg.rx_freq), ¬ line.Whole
    · exact ((config_command_sends e.first _ hfirst).mono fun _ => trivial).attempts
        (config_command_attempts e.retry _ hsecond (hretry hneeded hrun hcut))
    · have hwhole : Sends cfg s.conf c False := by
        refine ⟨_, hfirst, fun s hs => command_config e.first _ s (Option.mem_toList.mp hs), ?_⟩
        refine .inl fun s hs => ?_
        by_contra hno
        exact hcut ⟨s, Option.mem_toList.mp hs, hno⟩
      exact hwhole.trans ((config_command_sends e.retry _ hsecond).mono fun _ => trivial)

/-- Without a shift there is nothing to restore. -/
theorem restore_no_shift {e : restore_env} {s : io_t}
    (h : bridge_loraham_tx_shift_needed cfg = false) :
    (bridge_loraham_restore_rx_freq e cfg s).1.conf = s.conf := by
  refine restore_elim (P := fun r => r.1.conf = s.conf) e cfg s (fun _ => rfl) (fun _ => rfl)
    ?_ ?_ ?_
  · intro c hneeded
    rw [h] at hneeded
    exact nomatch hneeded
  · intro c ret _ _ hneeded
    rw [h] at hneeded
    exact nomatch hneeded
  · intro c c' ret ret' _ _ hneeded
    rw [h] at hneeded
    exact nomatch hneeded

/-! ## A drain -/

/-- The command of the shift. -/
theorem shift_command (e : send_env) {c c' : conf_t} {ret : Lhkt} (hfd : c.fd = true)
    (h : bridge_loraham_send_config_freq e.shift cfg cfg.tx_freq c = (c', ret)) :
    c'.tx = c.tx ++ (config_command e.shift cfg (some cfg.tx_freq)).toList ∧
      (ret = .OK ↔ Commanded e.shift cfg (some cfg.tx_freq)) ∧ c'.fd = true := by
  obtain ⟨htx, hok⟩ := @send_config_freq_command cfg e.shift cfg.tx_freq c hfd
  obtain ⟨_, _, hc⟩ := bridge_loraham_send_config_freq_frame e.shift cfg cfg.tx_freq c
  rw [h] at htx hok hc
  have hc : c' = _ := hc
  refine ⟨htx, hok, ?_⟩
  rw [hc]
  exact hfd

/-- The shift, and the way back when a stop is requested behind it, which is not tried a
second time. -/
theorem tx_prepare_sends (e : send_env) {s : io_t} (hfd : s.conf.fd = true) :
    Sends cfg s.conf (tx_prepare e cfg s).1.conf ((tx_prepare e cfg s).2 ≠ .OK) := by
  refine tx_prepare_elim (P := fun r => Sends cfg s.conf r.1.conf (r.2 ≠ .OK)) e cfg s
    (fun _ => Sends.of_eq rfl) ?_ ?_ ?_
  · intro c ret _ _ hsend hret
    exact (config_command_sends e.shift _ (shift_command e hfd hsend).1).mono fun _ => hret
  · intro c stop _ hsend
    obtain ⟨htx, hok, -⟩ := shift_command e hfd hsend
    exact (config_command_sends e.shift _ htx).mono fun hno => absurd (hok.mp rfl) hno
  · rintro c _ _ hsend rfl
    obtain ⟨htx, hok, hopen⟩ := shift_command e hfd hsend
    have hshift : Sends cfg s.conf c False :=
      (config_command_sends e.shift _ htx).mono fun hno => hno (hok.mp rfl)
    have hback := @restore_sends cfg e.restore { s with conf := c, stop := true } hopen
      fun _ hrun => nomatch hrun
    refine (hshift.trans hback).mono fun _ => ?_
    split
    · assumption
    · exact fun h => nomatch h

/-- A shift of whose command nothing is taken ends the transmission. -/
theorem tx_prepare_attempts {e : send_env} {s : io_t} (hfd : s.conf.fd = true)
    (hneeded : bridge_loraham_tx_shift_needed cfg = true)
    (hsilent : Silent (config_command e.shift cfg (some cfg.tx_freq))) :
    Attempts cfg s.conf (tx_prepare e cfg s).1.conf ∧ (tx_prepare e cfg s).2 ≠ .OK := by
  refine tx_prepare_elim (P := fun r => Attempts cfg s.conf r.1.conf ∧ r.2 ≠ .OK) e cfg s ?_ ?_ ?_ ?_
  · intro hskip
    rw [hneeded] at hskip
    exact nomatch hskip
  · intro c ret _ _ hsend hret
    exact ⟨config_command_attempts e.shift _ (shift_command e hfd hsend).1 hsilent, hret⟩
  · intro c stop _ hsend
    exact absurd ((shift_command e hfd hsend).2.1.mp rfl) hsilent.not_commanded
  · intro c stop _ hsend
    exact absurd ((shift_command e hfd hsend).2.1.mp rfl) hsilent.not_commanded

/-- What has to hold of a transmission that starts in state `s` with its frequencies
apart: behind a line that is already cut its first command takes nothing, and its
restore takes nothing behind a line it cut itself. -/
structure SendSilent (cfg : lhkt_config_t) (e : send_env) (packet : Bytes) (s : io_t) : Prop where
  shift : ¬ Clean Sent.Whole s.conf.tx → Silent (config_command e.shift cfg (some cfg.tx_freq))
  restore : (tx_prepare e cfg s).2 = .OK →
    RetrySilent cfg e.restore (restore_stopped e cfg packet (tx_prepare e cfg s).1)

/-- Commands that leave an intact connection intact. -/
def Keeps (cfg : lhkt_config_t) (c c' : conf_t) : Prop :=
  (Clean Sent.Whole c.tx → Sends cfg c c' True) ∧ (¬ Clean Sent.Whole c.tx → Attempts cfg c c')

theorem Keeps.of_eq {c c' : conf_t} (h : c'.tx = c.tx) : Keeps cfg c c' :=
  ⟨fun _ => Sends.of_eq h, fun _ => Attempts.of_eq h⟩

/-- Only what was written matters. -/
theorem Keeps.congr {c c' d : conf_t} (h : Keeps cfg c c') (hd : d.tx = c.tx) :
    Keeps cfg d c' := by
  unfold Keeps Sends Attempts at h ⊢
  rw [hd]
  exact h

/-- **A transmission** without a shift writes no command at all. -/
theorem send_packet_no_shift {e : send_env} (client_fd : Bool) {packet : Bytes} {s : io_t}
    (hskip : bridge_loraham_tx_shift_needed cfg = false) (hsend : Sendable cfg packet s)
    (hfd : s.conf.fd = true) (hstop : s.stop = false) :
    (send_packet true e cfg client_fd packet s).1.conf.tx = s.conf.tx := by
  have hprep : tx_prepare e cfg s = (s, .OK) := by
    unfold tx_prepare
    rw [hskip]
    rfl
  obtain ⟨s', htx, -, -, hrestore⟩ :=
    send_packet_restore client_fd hsend (congrArg Prod.snd hprep) hfd hstop
  rw [hrestore, restore_no_shift hskip, htx, hprep]

/-- **A transmission** that takes no line behind a cut one. -/
theorem send_packet_keeps {e : send_env} (client_fd : Bool) {packet : Bytes} {s : io_t}
    (hsend : Sendable cfg packet s) (hfd : s.conf.fd = true) (hstop : s.stop = false)
    (h : bridge_loraham_tx_shift_needed cfg = true → SendSilent cfg e packet s) :
    Keeps cfg s.conf (send_packet true e cfg client_fd packet s).1.conf := by
  cases hneeded : bridge_loraham_tx_shift_needed cfg with
  | false => exact Keeps.of_eq (send_packet_no_shift client_fd hneeded hsend hfd hstop)
  | true =>
      have h := h hneeded
      by_cases hprep : (tx_prepare e cfg s).2 = .OK
      · -- the shift is taken, so nothing was cut before
        obtain ⟨s', htx, hopen, hstopped, hconf⟩ :=
          send_packet_restore client_fd hsend hprep hfd hstop
        refine ⟨fun _ => ?_, fun hcut => ?_⟩
        · have hshift : Sends cfg s.conf s'.conf False := by
            obtain ⟨sent, hsent, hrest⟩ := @tx_prepare_sends cfg e s hfd
            exact ⟨sent, htx.trans hsent, hrest.1,
              hrest.2.imp_right fun hcut => absurd hprep hcut.1⟩
          have hback := @restore_sends cfg e.restore s' hopen fun _ => by
            rw [hstopped]
            exact h.restore hprep
          rw [hconf]
          exact hshift.trans hback
        · exact absurd hprep (tx_prepare_attempts hfd hneeded (h.shift hcut)).2
      · -- the transmission ends with the shift
        have hprepared : (send_packet true e cfg client_fd packet s).1.conf
            = (tx_prepare e cfg s).1.conf :=
          send_packet_ways (P := fun r => r.1.conf = (tx_prepare e cfg s).1.conf) true e cfg
            client_fd packet s (fun hlen => absurd hlen hsend.nonempty)
            (fun _ _ hno => absurd hsend hno) (fun _ _ => rfl) (fun _ hok => absurd hok hprep)
            (fun hwritten => absurd hwritten.prepared hprep)
        rw [hprepared]
        exact ⟨fun _ => (tx_prepare_sends e hfd).mono fun _ => trivial,
          fun hcut => (tx_prepare_attempts hfd hneeded (h.shift hcut)).1⟩

/-- **A drain** that takes no line behind a cut one. -/
theorem drain_keeps (e : drain_env) (client_fd : Bool) (s : io_t) (q : txq_t)
    (hstop : s.stop = false)
    (hw : bridge_loraham_tx_shift_needed cfg = true → ∀ s₀ q' item,
      drain_select e cfg (q.queue.count + 1) 0 s q = (s₀, q', .send item) →
      Sendable cfg item.packet s₀ → SendSilent cfg e.send item.packet s₀) :
    Keeps cfg s.conf (bridge_loraham_tx_queue_drain_with_client e cfg client_fd s q).1.conf := by
  refine drain_elim (I := fun s' _ => s'.conf.tx = s.conf.tx ∧ s'.stop = false)
    (P := fun r => Keeps cfg s.conf r.1.conf) e cfg client_fd s q ⟨rfl, hstop⟩ ?_
    (fun _ _ _ _ h _ _ _ => h) (fun _ _ _ h _ => h) (fun _ _ _ h _ => Keeps.of_eq h.1) ?_
  · intro s' _ read h _
    obtain ⟨_, _, hread⟩ := bridge_conf_read_available_frame read s'.conf
    refine ⟨?_, h.2⟩
    show (bridge_conf_read_available read s'.conf).1.tx = _
    rw [hread]
    exact h.1
  · rintro s₀ q' item now s' ret written ⟨htx, hrun⟩ hitem hgate hsel hsend
    rw [send_packet_with_client] at hsend
    have hsent : s' = (send_packet true e.send cfg client_fd item.packet s₀).1 := by rw [hsend]
    show Keeps cfg s.conf s'.conf
    rw [hsent]
    by_cases hready : Sendable cfg item.packet s₀
    · refine (send_packet_keeps client_fd hready hgate.conf_fd hrun fun hneeded => ?_).congr htx.symm
      exact hw hneeded s₀ _ item hsel hready
    · -- nothing is sent
      refine Keeps.of_eq (Eq.trans ?_ htx)
      exact send_packet_ways (P := fun r => r.1.conf.tx = s₀.conf.tx) true e.send cfg client_fd
        item.packet s₀ (fun _ => rfl) (fun _ _ _ => rfl) (fun h => absurd h hready)
        (fun h => absurd h hready) (fun h => absurd h.sendable hready)

/-! ## An initial configuration -/

/-- The receive configuration, as `loraham_send_config` prints it. -/
def rx_config_line (cfg : lhkt_config_t) : Bytes :=
  config_line cfg (if cfg.have_rx_freq then some cfg.rx_freq else none)

/-- **An initial configuration** leaves at most its last line cut, and writes nothing
behind a first line of which nothing is taken. -/
theorem send_initial_config_keeps (e : config_env) (c : conf_t)
    (h : c.fd = true → ¬ Clean Sent.Whole c.tx →
      Silent (config_command e.config cfg (rx_setting cfg))) :
    Keeps cfg c (bridge_loraham_send_initial_config_with_state e cfg c).1 := by
  unfold bridge_loraham_send_initial_config_with_state
  split
  · exact Keeps.of_eq rfl
  · rename_i hfd
    have h := h (by simpa using hfd)
    obtain ⟨htx, hok⟩ := @send_config_command cfg e.config c.tx
    dsimp only
    generalize loraham_send_config e.config cfg c.tx = r at htx hok ⊢
    have hsends : ∀ {c' : conf_t}, c'.tx = r.1 → Sends cfg c c' (r.2 ≠ .OK) := fun hc' =>
      (config_command_sends e.config _ (hc'.trans htx)).mono fun hno hret => hno (hok.mp hret)
    by_cases hret : r.2 ≠ .OK
    · rw [if_pos hret]
      exact ⟨fun _ => (hsends rfl).mono fun _ => trivial,
        fun hcut => config_command_attempts e.config _ htx (h hcut)⟩
    · -- the first line is taken, so nothing was cut before
      have hret := not_ne_iff.mp hret
      refine ⟨fun _ => ?_, fun hcut => absurd (hok.mp hret) (h hcut).not_commanded⟩
      rw [if_neg (not_not_intro hret)]
      have hfirst : Sends cfg c { c with tx := r.1 } False :=
        (hsends rfl).mono fun hno => hno hret
      have htxresult : Sends cfg { c with tx := r.1 }
          { c with tx := (loraham_send_txresult_enable e.txresult r.1).1 }
          ((loraham_send_txresult_enable e.txresult r.1).2 ≠ .OK) :=
        send_command_sends e.txresult (.inr (.inl rfl)) rfl
      generalize loraham_send_txresult_enable e.txresult r.1 = r' at htxresult ⊢
      by_cases hret' : r'.2 ≠ .OK
      · rw [if_pos hret']
        exact hfirst.trans (htxresult.mono fun _ => trivial)
      · rw [if_neg hret']
        have hboth := hfirst.trans (htxresult.mono fun hno => hret' hno)
        have hstatus : Sends cfg { c with tx := r'.1 }
            { c with tx := (bridge_loraham_send_status_request e.status r'.1).1 }
            ((bridge_loraham_send_status_request e.status r'.1).2 ≠ .OK) :=
          send_command_sends e.status (.inr (.inr rfl)) rfl
        have hall := hboth.trans (hstatus.mono fun _ => trivial)
        split
        · exact hall
        · exact hall

/-! ## The main loop -/

/-- The condition of a step, judged by what happens in it. A transmission that shifts
takes no command behind a cut line, and neither does a configuration that is sent when
nothing was ready: one for a DATA connection that is back, or one still pending. -/
structure NothingBehindCut (cfg : lhkt_config_t) (s : bridge_t) (e : bridge_env) : Prop where
  send : s.pc = .top → (s.stop || e.signal) = false → bridge_loraham_tx_shift_needed cfg = true →
    ∀ s₀ q item,
      drain_select e.drain cfg (s.txq.queue.count + 1) 0 s.toio_t s.txq = (s₀, q, .send item) →
      Sendable cfg item.packet s₀ → SendSilent cfg e.drain.send item.packet s₀
  config : s.pc = .select → e.select = .timeout → s.conf.fd = true →
    (s.data.fd = false ∧ e.connect = true) ∨ (s.data.fd = true ∧ s.config_ok = false) →
    ¬ Clean Sent.Whole s.conf.tx → Silent (config_command e.config.config cfg (rx_setting cfg))

/-- What was written on one connection: commands, and nothing behind one that was cut. -/
def IntactCommands (cfg : lhkt_config_t) (k : List (Sent UInt8)) : Prop :=
  Intact Sent.Whole (taking k) ∧ ∀ s ∈ k, Command cfg s

/-- The commands of every connection are intact. -/
def Commands (cfg : lhkt_config_t) (c : conf_t) : Prop :=
  (∀ k ∈ c.closed, IntactCommands cfg k) ∧ IntactCommands cfg c.tx

theorem intactCommands_nil : IntactCommands cfg [] :=
  ⟨fun _ hs => absurd hs List.not_mem_nil, fun _ hs => absurd hs List.not_mem_nil⟩

/-- Only the writes count. -/
theorem Commands.congr {c c' : conf_t} (h : Commands cfg c) (hclosed : c'.closed = c.closed)
    (htx : c'.tx = c.tx) : Commands cfg c' := by
  unfold Commands
  rw [hclosed, htx]
  exact h

/-- More commands on the open connection. -/
theorem Commands.keeps {c c' : conf_t} (h : Commands cfg c) (hk : Keeps cfg c c')
    (hclosed : c'.closed = c.closed) : Commands cfg c' := by
  obtain ⟨hall, hintact, hcommands⟩ := h
  refine ⟨by rw [hclosed]; exact hall, ?_⟩
  by_cases hclean : Clean Sent.Whole c.tx
  · obtain ⟨sent, htx, hsent, hwhole⟩ := hk.1 hclean
    have hmore : Intact Sent.Whole (taking sent) :=
      hwhole.elim (fun hsent => (clean_taking.mpr hsent).intact) fun hcut => hcut.2
    rw [htx]
    refine ⟨?_, fun s hs => (List.mem_append.mp hs).elim (hcommands s) (hsent s)⟩
    rw [taking_append]
    exact (clean_taking.mpr hclean).append_intact hmore
  · obtain ⟨sent, htx, hsent, hsilent⟩ := hk.2 hclean
    rw [htx]
    refine ⟨?_, fun s hs => (List.mem_append.mp hs).elim (hcommands s) (hsent s)⟩
    rw [taking_append, taking_silent hsilent, List.append_nil]
    exact hintact

/-- The open connection is closed, and the next starts with nothing sent. -/
theorem Commands.closed {c c' : conf_t} (h : Commands cfg c)
    (hclosed : c'.closed = c.closed ++ [c.tx]) (htx : c'.tx = []) : Commands cfg c' := by
  unfold Commands
  rw [hclosed, htx]
  refine ⟨?_, intactCommands_nil⟩
  intro k hk
  rcases List.mem_append.mp hk with hk | hk
  · exact h.1 k hk
  · rw [List.mem_singleton.mp hk]
    exact h.2

/-- Giving up CONF keeps the commands of every connection. -/
theorem drop_conf_commands {s : bridge_t} (h : Commands cfg s.conf) :
    Commands cfg (drop_conf s).conf := by
  unfold drop_conf bridge_loraham_disconnect_conf_socket
  split
  · exact h
  · exact h.closed rfl rfl

/-- Leaving the loop keeps the commands of every connection. -/
theorem bridge_exit_commands {s : bridge_t} (h : Commands cfg s.conf) :
    Commands cfg (bridge_exit s).conf := by
  rw [bridge_exit_conf]
  unfold close_conf
  split
  · exact h.closed rfl rfl
  · exact h

/-- What the loop makes of the result of a drain keeps the commands of every connection.
-/
theorem handle_drain_result_commands {ret : Lhkt} {s : bridge_t} (h : Commands cfg s.conf) :
    Commands cfg (handle_drain_result ret s).conf := by
  unfold handle_drain_result
  split
  · rw [drop_data_conf]
    exact h
  · split
    · exact drop_conf_commands h
    · split <;> exact h

/-- A drain does not open or close CONF connections. -/
theorem drain_closed (e : drain_env) (client_fd : Bool) (s : io_t) (q : txq_t) :
    (bridge_loraham_tx_queue_drain_with_client e cfg client_fd s q).1.conf.closed
      = s.conf.closed := by
  refine drain_elim (I := fun s' _ => s'.conf.closed = s.conf.closed)
    (P := fun r => r.1.conf.closed = s.conf.closed) e cfg client_fd s q rfl ?_
    (fun _ _ _ _ h _ _ _ => h) (fun _ _ _ h _ => h) (fun _ _ _ h _ => h) ?_
  · intro s' _ read h _
    obtain ⟨_, _, hread⟩ := bridge_conf_read_available_frame read s'.conf
    show (bridge_conf_read_available read s'.conf).1.closed = _
    rw [hread]
    exact h
  · intro s₀ _ item _ s' ret written h _ _ _ hsend
    obtain ⟨c', _, _, hfed, hconf⟩ :=
      send_packet_conf_frame e.send cfg client_fd item.packet s₀
    obtain ⟨_, _, rfl⟩ := hfed.frame
    rw [hsend] at hconf
    have hconf : s'.conf = _ := hconf
    show s'.conf.closed = _
    rw [hconf]
    exact h

/-- **An initial configuration** keeps the commands of every connection. -/
theorem send_initial_config_commands (e : config_env) {c : conf_t} (h : Commands cfg c)
    (hsilent : c.fd = true → ¬ Clean Sent.Whole c.tx →
      Silent (config_command e.config cfg (rx_setting cfg))) :
    Commands cfg (bridge_loraham_send_initial_config_with_state e cfg c).1 :=
  h.keeps (send_initial_config_keeps e c hsilent) (send_initial_config_closed cfg e c)

/-- One step of the main loop. -/
theorem bridge_step_commands (s : bridge_t) (e : bridge_env) (h : Commands cfg s.conf)
    (hw : NothingBehindCut cfg s e) : Commands cfg (bridge_step cfg s e).conf := by
  refine bridge_step_elim (P := fun s => Commands cfg s.conf) cfg s e h ?_
    (fun _ => bridge_exit_commands) (fun _ hs => hs) ?_ (fun _ => drop_conf_commands) ?_ ?_ ?_ ?_
    (fun _ hs _ => hs) (fun _ _ _ _ hs => hs) ?_ ?_
  · rintro s _ ⟨_, _, _, _, _, _, _, rfl⟩ hs
    exact hs
  · intro s hs
    rw [drop_data_conf]
    exact hs
  · intro hpc hrun
    refine handle_drain_result_commands (h.keeps (drain_keeps e.drain s.client_fd s.toio_t s.txq
      (Bool.or_eq_false_iff.mp hrun).1 (hw.send hpc hrun)) ?_)
    exact drain_closed e.drain s.client_fd s.toio_t s.txq
  · -- a new connection starts with nothing sent
    exact fun s hs _ => ⟨hs.1, intactCommands_nil⟩
  · intro hpc htimeout hconf hdata hup
    exact send_initial_config_commands e.config h fun _ =>
      hw.config hpc htimeout hconf (.inl ⟨hdata, hup⟩)
  · intro hpc htimeout hconf hdata hpend
    have hsent := send_initial_config_commands e.config h fun _ =>
      hw.config hpc htimeout hconf (.inr ⟨hdata, hpend⟩)
    unfold pending_config
    dsimp only
    split <;> exact hsent
  · intro s hs _
    obtain ⟨_, _, hread⟩ := bridge_conf_read_available_frame e.conf s.conf
    show Commands cfg (bridge_conf_read_available e.conf s.conf).1
    rw [hread]
    exact hs
  · intro b buf _ _ _
    have hread : Commands cfg (handle_data_bytes e.client_write (b :: buf) s).1.conf := h
    unfold handle_chunk_result
    split
    · exact hread
    · split
      · rw [drop_data_conf]
        exact hread
      · exact hread

/-- At the start the open connection has the first configuration. -/
theorem bridge_start_commands (e : start_env) : Commands cfg (bridge_start cfg e).conf := by
  have hsent : Commands cfg (bridge_loraham_send_initial_config_with_state e.config cfg
      { fd := e.conf_connect }).1 := by
    refine send_initial_config_commands e.config
      ⟨fun _ hk => absurd hk List.not_mem_nil, intactCommands_nil⟩ fun _ hcut => ?_
    exact absurd (fun _ hs => absurd hs List.not_mem_nil) hcut
  unfold bridge_start
  dsimp only
  split
  · exact bridge_exit_commands hsent
  · exact hsent

/-- **CONF command stream integrity.** In every state of a run whose steps take nothing
behind a cut line, what each CONF connection took is complete command lines followed
by at most one truncated line, and a command reported as sent is complete behind whole
commands. -/
theorem conf_streams_intact (cfg : lhkt_config_t) (e : start_env) (es : List bridge_env)
    (h : Guarded (bridge_step cfg) (NothingBehindCut cfg) (bridge_start cfg e) es) :
    ∀ k ∈ (bridge_run cfg e es).conf.closed ++ [(bridge_run cfg e es).conf.tx],
      Intact Sent.Whole (taking k) ∧ (∀ s ∈ k, IsCommand cfg s.buf) ∧
      FramedBy (IsCommand cfg) (bytes k) ∧
      ∀ pre s post, k = pre ++ s :: post → s.ok = true → s.Complete ∧ Clean Sent.Whole pre := by
  have hrun : Commands cfg (bridge_run cfg e es).conf :=
    run_induction (P := fun s => Commands cfg s.conf)
      (fun s e hs hc => bridge_step_commands s e hs hc) es _ (bridge_start_commands e) h
  intro k hk
  obtain ⟨hintact, hcommands⟩ : IntactCommands cfg k := by
    rcases List.mem_append.mp hk with hk | hk
    · exact hrun.1 k hk
    · rw [List.mem_singleton.mp hk]
      exact hrun.2
  have hframed := hintact.framedBy fun s hs => (hcommands s (mem_of_taking hs)).1
  rw [bytes_taking] at hframed
  refine ⟨hintact, fun s hs => (hcommands s hs).1, hframed, ?_⟩
  rintro pre s post rfl hok
  have hs : Command cfg s := hcommands s (by simp)
  refine ⟨hs.2 hok, clean_taking.mp fun t ht => ?_⟩
  -- the command was taken, so everything taken in front of it is in front of the last
  have htaking : taking (pre ++ s :: post) = taking pre ++ s :: taking post := by
    rw [taking_append]
    refine congrArg (taking pre ++ ·) (List.filter_cons_of_pos ?_)
    simpa using hs.taken hok
  rw [htaking] at hintact
  refine hintact t ?_
  rw [List.dropLast_append_of_ne_nil (by simp)]
  exact List.mem_append_left _ ht

instance (line : Option (Sent UInt8)) : Decidable (Silent line) :=
  inferInstanceAs (Decidable (∀ s ∈ line, s.taken = 0))

/-- With nothing queued only a configuration can write. -/
theorem nothingBehindCut_of_empty {s : bridge_t} {e : bridge_env} (h : s.txq.queue.count = 0)
    (hconfig : s.pc = .select → e.select = .timeout → ¬ Clean Sent.Whole s.conf.tx →
      Silent (config_command e.config.config cfg (rx_setting cfg))) :
    NothingBehindCut cfg s e where
  send := by
    intro _ _ _ s₀ q item hsel
    rw [drain_select_empty e.drain cfg 0 s.toio_t h] at hsel
    exact absurd (congrArg (fun r => r.2.2) hsel) (fun h => drain_next.noConfusion h)
  config := fun hpc htimeout _ _ hcut => hconfig hpc htimeout hcut

/-- The first configuration is cut in its second line; nothing is taken when it is sent
again, and then the daemon closes the connection. The next one is configured and ends
with a restore that is cut and not tried again, as a stop is requested. -/
theorem conf_streams_intact_again :
    let start : start_env := { config := { txresult := { writes := [.accept 3, .fail] } } }
    let idle : bridge_env := {}
    let refused : bridge_env := { config := { config := { writes := [.fail] } } }
    let closed : bridge_env :=
      { select := .ready { conf := true }, conf := { last := .eof } }
    let send : bridge_env :=
      { drain := { send :=
        { restore := { first := { writes := [.accept 5, .fail] }, signal := true }
          result := { rounds := [{ wait := .read [LORAHAM_FRAME_TX_RESULT, 4, 0, 0, 0, 0, 0] }] } } }
        select := .eintr }
    let s := bridge_run lhkt_config_defaults start
      ([idle, refused] ++ iteration closed ++ [idle, idle, idle, idle] ++
        iteration client_connects ++ iteration (packet_arrives (ascii "x") status_ready) ++ [send])
    s.conf.closed.map (·.map Sent.ok) = [[true, false, false], [true, true, true, true, false]] ∧
      ∀ k ∈ s.conf.closed, FramedBy (IsCommand lhkt_config_defaults) (bytes k) := by
  refine ⟨by decide +kernel, fun k hk => ?_⟩
  refine (conf_streams_intact lhkt_config_defaults
    { config := { txresult := { writes := [.accept 3, .fail] } } } _ ?_ k
    (List.mem_append_left _ hk)).2.2.1
  refine ⟨?_, ?_, ?_, ?_, ?_, ?_, ?_, ?_, ?_, ?_, ?_, ?_, ?_, ?_, ?_, ?_, ?_, ?_, ?_, ?_, ?_, ?_,
    ?_, ?_, ?_, trivial⟩
  -- the last step is the transmission; in front of it the queue is empty at every drain
  rotate_right
  · refine ⟨fun _ _ _ s₀ q item hsel _ => ?_, fun hpc => absurd hpc (by decide +kernel)⟩
    obtain rfl := congrArg Prod.fst hsel
    exact ⟨fun hcut => absurd (by decide +kernel) hcut,
      fun _ hrun => absurd hrun (by rw [Bool.or_true]; decide)⟩
  all_goals first
    | exact nothingBehindCut_of_empty (by decide +kernel) (by decide +kernel)
    | exact ⟨fun hpc => absurd hpc (by decide +kernel), fun hpc => absurd hpc (by decide +kernel)⟩

/-- A restore whose first line is cut after five bytes and written again: the
restore is reported as successful, but its line stands behind a truncated one. -/
theorem conf_stream_cut_inside :
    let send : bridge_env :=
      { drain := { send :=
        { restore := { first := { writes := [.accept 5, .fail] } }
          result := { rounds := [{ wait := .read [LORAHAM_FRAME_TX_RESULT, 4, 0, 0, 0, 0, 0] }] } } } }
    let s := bridge_run lhkt_config_defaults {} (iteration client_connects ++
      iteration (packet_arrives (ascii "x") status_ready) ++ [send])
    s.conf.fd = true ∧ s.config_ok = true ∧
      s.conf.freqs.getLast? = some lhkt_config_defaults.rx_freq ∧
      (s.conf.tx.map Sent.ok).reverse.take 2 = [true, false] ∧ ¬ Intact Sent.Whole s.conf.tx := by
  decide +kernel

end LorahamKissTnc.ConfStream
