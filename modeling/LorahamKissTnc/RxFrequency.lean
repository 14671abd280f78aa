/-
The radio is never left on the TX frequency unnoticed.

A transmission with a split shift sends the TX frequency, and from there every
way out has to come back to the RX frequency or to say that it did not. The
history `freqs` of the frequencies reported as sent shows where the radio is.
A drain `Settles`: it sends no frequency, or ends on the RX frequency, or
returns a result that makes the main loop clear `config_ok`, so that the next
timeouts configure everything anew.

Without a shift a drain writes no command at all.
-/
import LorahamKissTnc.Bridge
import Mathlib.Algebra.Order.Ring.Rat

set_option autoImplicit false

open LorahamKissTnc.Lib.CString LorahamKissTnc.Lib.Channel LorahamKissTnc.Lib.Machine
open LorahamKissTnc.Config LorahamKissTnc.LorahamSock LorahamKissTnc.BridgeConf
open LorahamKissTnc.BridgeTxQueue LorahamKissTnc.BridgeRx LorahamKissTnc.BridgeKiss
open LorahamKissTnc.BridgeLoraham LorahamKissTnc.Bridge

namespace LorahamKissTnc.RxFrequency

/-- Both frequencies are known and positive. -/
structure Frequencies (cfg : lhkt_config_t) : Prop where
  have_rx : cfg.have_rx_freq = true
  have_tx : cfg.have_tx_freq = true
  rx_pos : 0 < cfg.rx_freq
  tx_pos : 0 < cfg.tx_freq

/-! ## Frequency lines -/

variable {cfg : lhkt_config_t}

/-- A shift is only needed between different frequencies. -/
theorem rx_freq_ne (hf : Frequencies cfg) (hshift : bridge_loraham_tx_shift_needed cfg = true) :
    cfg.rx_freq ≠ cfg.tx_freq := by
  intro heq
  unfold bridge_loraham_tx_shift_needed at hshift
  rw [hf.have_rx, hf.have_tx, heq, sub_self] at hshift
  exact absurd hshift (by decide +kernel)

/-- A positive frequency is sent and remembered, or the CONF socket failed. -/
theorem send_config_freq_freqs (e : sock_env) {freq : ℚ} (hpos : 0 < freq) {c c' : conf_t}
    {ret : Lhkt} (h : bridge_loraham_send_config_freq e cfg freq c = (c', ret)) :
    (ret = .OK ∧ c'.freqs = c.freqs ++ [freq]) ∨ (ret = .ERR_CONF_SOCKET ∧ c'.freqs = c.freqs) := by
  unfold bridge_loraham_send_config_freq at h
  rw [if_neg (not_le.mpr hpos)] at h
  split at h
  · obtain ⟨rfl, rfl⟩ := Prod.mk.inj h
    exact .inr ⟨rfl, rfl⟩
  · dsimp only at h
    split at h
    · obtain ⟨rfl, rfl⟩ := Prod.mk.inj h
      exact .inr ⟨rfl, rfl⟩
    · obtain ⟨rfl, rfl⟩ := Prod.mk.inj h
      exact .inl ⟨rfl, rfl⟩

/-- A restore ends on the RX frequency, or the CONF socket failed. -/
theorem restore_freqs (hf : Frequencies cfg) (hshift : bridge_loraham_tx_shift_needed cfg = true)
    (e : restore_env) (s : io_t) :
    ((bridge_loraham_restore_rx_freq e cfg s).2 = .OK ∧
      (bridge_loraham_restore_rx_freq e cfg s).1.conf.freqs.getLast? = some cfg.rx_freq) ∨
    (bridge_loraham_restore_rx_freq e cfg s).2 = .ERR_CONF_SOCKET := by
  refine restore_elim
    (P := fun r => (r.2 = .OK ∧ r.1.conf.freqs.getLast? = some cfg.rx_freq) ∨
      r.2 = .ERR_CONF_SOCKET) e cfg s ?_ ?_ ?_ ?_ ?_
  · intro hno
    exact absurd (hno ▸ hf.have_rx) Bool.false_ne_true
  · intro hno
    exact absurd (hno ▸ hshift) Bool.false_ne_true
  · intro c _ hsend
    rcases send_config_freq_freqs e.first hf.rx_pos hsend with ⟨_, hfreqs⟩ | ⟨hbad, _⟩
    · exact .inl ⟨rfl, by rw [hfreqs]; exact List.getLast?_concat⟩
    · exact nomatch hbad
  · intro c ret _ _ _ hsend hret
    rcases send_config_freq_freqs e.first hf.rx_pos hsend with ⟨hok, _⟩ | ⟨hbad, _⟩
    · exact absurd hok hret
    · exact .inr hbad
  · intro c c' ret ret' _ _ _ _ _ _ hagain
    rcases send_config_freq_freqs e.retry hf.rx_pos hagain with ⟨hok, hfreqs⟩ | ⟨hbad, _⟩
    · exact .inl ⟨hok, by rw [hfreqs]; exact List.getLast?_concat⟩
    · exact .inr hbad

/-! ## A drain with a shift -/

/-- The results on which the main loop clears `config_ok`. -/
def Reconfigures (ret : Lhkt) : Prop :=
  ret = .ERR_TX_SOCKET ∨ ret = .ERR_TX_RESULT ∨ ret = .ERR_CONF_SOCKET

/-- From `c` to `c'` no frequency was sent, or the last one was the RX frequency,
or `ret` asks for a new configuration. -/
def Settles (cfg : lhkt_config_t) (c c' : conf_t) (ret : Lhkt) : Prop :=
  c'.freqs = c.freqs ∨ c'.freqs.getLast? = some cfg.rx_freq ∨ Reconfigures ret

/-- Whatever ends with a restore whose failure is returned settles. -/
theorem settles_restore (hf : Frequencies cfg)
    (hshift : bridge_loraham_tx_shift_needed cfg = true) (e : restore_env) (s : io_t) (c : conf_t)
    (ret : Lhkt) (hret : (bridge_loraham_restore_rx_freq e cfg s).2 ≠ .OK →
      ret = (bridge_loraham_restore_rx_freq e cfg s).2) :
    Settles cfg c (bridge_loraham_restore_rx_freq e cfg s).1.conf ret := by
  rcases restore_freqs hf hshift e s with ⟨_, hlast⟩ | hbad
  · exact .inr (.inl hlast)
  · refine .inr (.inr (.inr (.inr ?_)))
    rw [hret (by rw [hbad]; exact fun h => nomatch h), hbad]

/-- Giving up before the packet is written. -/
theorem tx_prepare_settles (hf : Frequencies cfg)
    (hshift : bridge_loraham_tx_shift_needed cfg = true) (e : send_env) (s : io_t)
    (c : conf_t) : (tx_prepare e cfg s).2 ≠ .OK →
      Settles cfg c (tx_prepare e cfg s).1.conf (tx_prepare e cfg s).2 := by
  refine tx_prepare_elim (P := fun r => r.2 ≠ .OK → Settles cfg c r.1.conf r.2) e cfg s
    (fun _ h => absurd rfl h) ?_ (fun _ _ _ _ h => absurd rfl h) ?_
  · intro c' ret _ _ hsend hret _
    rcases send_config_freq_freqs e.shift hf.tx_pos hsend with ⟨hok, _⟩ | ⟨hbad, _⟩
    · exact absurd hok hret
    · exact .inr (.inr (.inr (.inr hbad)))
  · intro c' stop _ _ _ _
    exact settles_restore hf hshift e.restore _ c _ fun hbad => if_pos hbad

/-- The packet is out, and the TX_RESULT was received. -/
theorem tx_result_received_settles (hf : Frequencies cfg)
    (hshift : bridge_loraham_tx_shift_needed cfg = true) (e : send_env) (packet : Bytes)
    (client_error : Lhkt) (result : loraham_tx_result_t) (s : io_t) (c : conf_t) :
    Settles cfg c (tx_result_received e cfg packet client_error result s).1.conf
      (tx_result_received e cfg packet client_error result s).2 := by
  have hrestore := settles_restore hf hshift e.restore (tx_result_logged packet result s) c
  unfold tx_result_received
  dsimp only
  split
  · exact hrestore _ fun _ => rfl
  · rename_i hok
    have hok := hrestore client_error fun h => absurd h hok
    split <;> exact hok

/-- **A drain** never leaves the TX frequency behind unsaid. -/
theorem drain_settles (hf : Frequencies cfg) (hshift : bridge_loraham_tx_shift_needed cfg = true)
    (e : drain_env) (client_fd : Bool) (s : io_t) (q : txq_t) :
    Settles cfg s.conf (bridge_loraham_tx_queue_drain_with_client e cfg client_fd s q).1.conf
      (bridge_loraham_tx_queue_drain_with_client e cfg client_fd s q).2.2 := by
  refine drain_elim (I := fun s' _ => s'.conf.freqs = s.conf.freqs)
    (P := fun r => Settles cfg s.conf r.1.conf r.2.2) e cfg client_fd s q rfl ?_
    (fun _ _ _ _ h _ _ _ => h) (fun _ _ _ h _ => h) (fun _ _ _ h _ => .inl h) ?_
  · intro s' _ read h _
    obtain ⟨_, _, hread⟩ := bridge_conf_read_available_frame read s'.conf
    show (bridge_conf_read_available read s'.conf).1.freqs = _
    rw [hread]
    exact h
  · intro s₀ q item now s' ret written h hitem hgate hsel hsend
    show Settles cfg s.conf s'.conf ret
    have key := send_packet_elim (P := fun r => Settles cfg s.conf r.1.conf r.2.1)
      e.send cfg client_fd item.packet s₀ ?_ ?_ ?_ ?_ ?_
    · rw [hsend] at key
      exact key
    · rintro s' ret (rfl | rfl) _
      · exact .inl h
      · exact .inl h
    · intro s₁ ret hprep hret
      have hsettles := tx_prepare_settles hf hshift e.send s₀ s.conf
      rw [hprep] at hsettles
      exact hsettles hret
    · -- a failed write is reported as LHKT_ERR_TX_SOCKET whatever the restore says
      exact fun _ _ _ _ _ _ => .inr (.inr (.inl rfl))
    · intro s₁ s₂ _ _ _
      unfold tx_confirm_result
      split
      · -- so is a missing TX_RESULT, under its own code
        exact .inr (.inr (.inr (.inl rfl)))
      · exact tx_result_received_settles hf hshift e.send item.packet _ _ _ s.conf
    · intro s₁ s₂ _ _ _
      have hrestore := settles_restore hf hshift e.send.restore
        (tx_events_waited e.send cfg item.packet s₂) s.conf
      show Settles cfg s.conf (tx_confirm_events e.send cfg item.packet s₂).1.conf
        (tx_confirm_events e.send cfg item.packet s₂).2
      unfold tx_confirm_events
      dsimp only
      split
      · exact hrestore _ fun _ => rfl
      · rename_i hok
        exact hrestore .OK fun h => absurd h hok

/-! ## A drain without a shift -/

/-- No command was written from `c` to `c'`. -/
def Silent (c c' : conf_t) : Prop := c'.tx = c.tx ∧ c'.freqs = c.freqs

theorem restore_silent (hshift : bridge_loraham_tx_shift_needed cfg = false) (e : restore_env)
    (s : io_t) : (bridge_loraham_restore_rx_freq e cfg s).1 = s := by
  unfold bridge_loraham_restore_rx_freq
  split
  · rfl
  · rw [hshift]
    rfl

theorem tx_prepare_silent (hshift : bridge_loraham_tx_shift_needed cfg = false) (e : send_env)
    (s : io_t) : tx_prepare e cfg s = (s, .OK) := by
  unfold tx_prepare
  rw [hshift]
  rfl

theorem tx_confirm_result_silent (hshift : bridge_loraham_tx_shift_needed cfg = false)
    (e : send_env) (client_fd : Bool) (packet : Bytes) (s : io_t) :
    Silent s.conf (tx_confirm_result e cfg client_fd packet s).1.conf := by
  unfold tx_confirm_result
  generalize hwait : bridge_loraham_wait_tx_result e.result cfg client_fd s = r
  obtain ⟨s', client_error, ret⟩ := r
  have hconf : s'.conf = s.conf := by
    rcases bridge_loraham_wait_tx_result_cases hwait with ⟨hs', _, _⟩ | ⟨l, _, _, hs'⟩
    · rw [hs']
    · rw [hs']
  match ret with
  | .error _ =>
      show Silent s.conf (bridge_loraham_restore_rx_freq e.restore cfg _).1.conf
      rw [restore_silent hshift]
      exact ⟨by rw [← hconf]; rfl, by rw [← hconf]; rfl⟩
  | .ok result =>
      obtain ⟨_, _, hlogged⟩ := tx_result_logged_frame packet result s'
      have hsame : Silent s.conf (tx_result_logged packet result s').conf := by
        rw [hlogged]
        exact ⟨by rw [← hconf], by rw [← hconf]⟩
      show Silent s.conf (tx_result_received e cfg packet client_error result s').1.conf
      unfold tx_result_received
      dsimp only
      rw [restore_silent hshift]
      split
      · rw [restore_silent hshift]
        exact hsame
      · split <;> exact hsame

/-- **A drain without a shift** writes no command. -/
theorem drain_silent (hshift : bridge_loraham_tx_shift_needed cfg = false) (e : drain_env)
    (client_fd : Bool) (s : io_t) (q : txq_t) :
    Silent s.conf (bridge_loraham_tx_queue_drain_with_client e cfg client_fd s q).1.conf := by
  refine drain_elim (I := fun s' _ => Silent s.conf s'.conf)
    (P := fun r => Silent s.conf r.1.conf) e cfg client_fd s q ⟨rfl, rfl⟩ ?_
    (fun _ _ _ _ h _ _ _ => h) (fun _ _ _ h _ => h) (fun _ _ _ h _ => h) ?_
  · -- events read while the queue waits write nothing
    intro s' _ read h _
    obtain ⟨_, _, hread⟩ := bridge_conf_read_available_frame read s'.conf
    show Silent s.conf (bridge_conf_read_available read s'.conf).1
    rw [hread]
    exact h
  · intro s₀ q item now s' ret written h hitem hgate hsel hsend
    show Silent s.conf s'.conf
    -- without a shift the preparation sends nothing, and the packet goes to the other socket
    have hwritten : ∀ s₁ s₂ ret, tx_prepare e.send cfg s₀ = (s₁, .OK) →
        bridge_loraham_write e.send item.packet s₁ = (s₂, ret) → Silent s.conf s₂.conf := by
      intro s₁ s₂ ret hprep hwrite
      rw [tx_prepare_silent hshift] at hprep
      obtain ⟨rfl, _⟩ := Prod.mk.inj hprep
      obtain ⟨rfl, _⟩ := Prod.mk.inj hwrite
      exact h
    have key := send_packet_elim (P := fun r => Silent s.conf r.1.conf)
      e.send cfg client_fd item.packet s₀ ?_ ?_ ?_ ?_ ?_
    · rw [hsend] at key
      exact key
    · -- no packet, no data socket or no frequency: at most a drop is counted
      rintro s' ret (rfl | rfl) _
      · exact h
      · exact h
    · -- the preparation cannot fail, it is skipped
      intro s₁ ret hprep hret
      rw [tx_prepare_silent hshift] at hprep
      exact absurd (Prod.mk.inj hprep).2.symm hret
    · intro s₁ s₂ ret hprep hwrite _
      show Silent s.conf (bridge_loraham_restore_rx_freq e.send.restore cfg _).1.conf
      obtain ⟨_, hsleep⟩ := bridge_runtime_sleep_ms_frame cfg.tx_return_ms e.send.return_signal
        (s₂.count .loraham_drop)
      rw [restore_silent hshift, hsleep]
      exact hwritten s₁ s₂ ret hprep hwrite
    · intro s₁ s₂ hprep hwrite _
      have h₂ := hwritten s₁ s₂ .OK hprep hwrite
      obtain ⟨htx, hfreqs⟩ := tx_confirm_result_silent hshift e.send client_fd item.packet s₂
      exact ⟨htx.trans h₂.1, hfreqs.trans h₂.2⟩
    · intro s₁ s₂ hprep hwrite _
      have h₂ := hwritten s₁ s₂ .OK hprep hwrite
      obtain ⟨_, _, _, c', hfed, hwaited⟩ := tx_events_waited_frame e.send cfg item.packet s₂
      obtain ⟨_, _, rfl⟩ := hfed.frame
      show Silent s.conf (tx_confirm_events e.send cfg item.packet s₂).1.conf
      unfold tx_confirm_events
      dsimp only
      rw [restore_silent hshift]
      split
      · rw [restore_silent hshift, hwaited]
        exact h₂
      · rw [hwaited]
        exact h₂

/-! ## The main loop -/

/-- A radio left on the TX frequency is going to be configured anew. -/
def Noticed (cfg : lhkt_config_t) (s : bridge_t) : Prop :=
  s.conf.freqs.getLast? = some cfg.tx_freq → s.config_ok = false

theorem handle_drain_result_noticed {ret : Lhkt} {s s' : bridge_t}
    (hne : cfg.rx_freq ≠ cfg.tx_freq) (h : Noticed cfg s)
    (hok : s'.config_ok = s.config_ok) (hsettles : Settles cfg s.conf s'.conf ret) :
    Noticed cfg (handle_drain_result ret s') := by
  unfold handle_drain_result
  split
  · exact fun _ => rfl
  · rename_i hdata
    split
    · exact fun _ => rfl
    · rename_i hconf
      have hstay : Noticed cfg s' := by
        intro hlast
        rcases hsettles with hsame | hrx | hret | hret | hret
        · rw [hok]
          exact h (hsame ▸ hlast)
        · rw [hrx] at hlast
          exact absurd (Option.some.inj hlast) hne
        · exact absurd (by rw [hret]; decide) hdata
        · exact absurd (by rw [hret]; decide) hdata
        · exact absurd (by rw [hret]; decide) hconf
      split <;> exact hstay

/-- A full configuration ends on the RX frequency, or nothing is known to have
been sent. -/
theorem send_initial_config_freqs (hf : Frequencies cfg) (e : config_env) (c : conf_t) :
    (bridge_loraham_send_initial_config_with_state e cfg c).1.freqs.getLast? = some cfg.rx_freq ∨
    ((bridge_loraham_send_initial_config_with_state e cfg c).1.freqs = c.freqs ∧
      (bridge_loraham_send_initial_config_with_state e cfg c).2 ≠ .OK) := by
  unfold bridge_loraham_send_initial_config_with_state
  split
  · exact .inr ⟨rfl, fun h => nomatch h⟩
  · dsimp only
    split
    · exact .inr ⟨rfl, fun h => nomatch h⟩
    · rw [if_pos hf.have_rx]
      have hlast : (c.freqs ++ [cfg.rx_freq]).getLast? = some cfg.rx_freq := List.getLast?_concat
      split
      · exact .inl hlast
      · split <;> exact .inl hlast

theorem bridge_exit_noticed {s : bridge_t} (h : Noticed cfg s) : Noticed cfg (bridge_exit s) := by
  have hok : (bridge_exit s).config_ok = s.config_ok := by
    unfold bridge_exit
    dsimp only
    split <;> rfl
  have hfreqs : (bridge_exit s).conf.freqs = s.conf.freqs := by
    rw [bridge_exit_conf]
    unfold close_conf
    split <;> rfl
  unfold Noticed
  rw [hok, hfreqs]
  exact h

/-- One step of the main loop. -/
theorem bridge_step_noticed (hf : Frequencies cfg)
    (hshift : bridge_loraham_tx_shift_needed cfg = true) (s : bridge_t) (e : bridge_env)
    (h : Noticed cfg s) : Noticed cfg (bridge_step cfg s e) := by
  have hne := rx_freq_ne hf hshift
  refine bridge_step_elim (P := Noticed cfg) cfg s e h ?_ (fun _ => bridge_exit_noticed)
    (fun _ hs => hs) (fun _ _ _ => rfl) (fun _ _ _ => rfl) ?_ (fun _ hs _ => hs) ?_ ?_
    (fun _ hs _ => hs) (fun _ _ _ _ hs => hs) ?_ ?_
  · rintro s _ ⟨_, _, _, _, _, _, _, rfl⟩ hs
    exact hs
  · -- the drain is the only part of a step that can leave the TX frequency behind
    exact fun _ _ => handle_drain_result_noticed hne h rfl
      (drain_settles hf hshift e.drain s.client_fd s.toio_t s.txq)
  · -- a configuration ends on the RX frequency, or it failed and the socket is dropped
    intro _ _ _ _ _ hlast
    rcases send_initial_config_freqs hf e.config s.conf with hrx | ⟨_, hbad⟩
    · exact absurd (Option.some.inj (hrx.symm.trans hlast)) hne
    · exact decide_eq_false hbad
  · intro _ _ _ _ _
    rcases send_initial_config_freqs hf e.config s.conf with hrx | ⟨hsame, hbad⟩
    · unfold pending_config
      dsimp only
      split
      · exact fun hlast => absurd (Option.some.inj (hrx.symm.trans hlast)) hne
      · exact fun hlast => absurd (Option.some.inj (hrx.symm.trans hlast)) hne
    · unfold pending_config
      dsimp only
      rw [if_neg (show ¬ (send_initial_config e.config cfg s).2 = .OK from hbad)]
      -- it failed before any frequency command, so what was noticed before still is
      exact fun hlast => h (hsame ▸ hlast)
  · intro s hs _
    obtain ⟨_, _, hread⟩ := bridge_conf_read_available_frame e.conf s.conf
    unfold Noticed
    rw [hread]
    exact hs
  · intro b buf _ _ _
    have hread : Noticed cfg (handle_data_bytes e.client_write (b :: buf) s).1 := h
    unfold handle_chunk_result
    split
    · exact hread
    · split
      · exact fun _ => rfl
      · exact hread

theorem bridge_start_noticed (hf : Frequencies cfg)
    (hshift : bridge_loraham_tx_shift_needed cfg = true) (e : start_env) :
    Noticed cfg (bridge_start cfg e) := by
  have hstart : (bridge_loraham_send_initial_config_with_state e.config cfg
      { fd := e.conf_connect }).1.freqs.getLast? ≠ some cfg.tx_freq := by
    rcases send_initial_config_freqs hf e.config { fd := e.conf_connect } with hrx | ⟨hsame, _⟩
    · rw [hrx]
      exact fun h => rx_freq_ne hf hshift (Option.some.inj h)
    · rw [hsame]
      exact fun h => nomatch h
  unfold bridge_start
  dsimp only
  split
  · exact bridge_exit_noticed fun hlast => absurd hlast hstart
  · exact fun hlast => absurd hlast hstart

/-- **The TX frequency is never left unnoticed.** In every state of every run, in
particular behind every drain: with a shift, if the last frequency reported as
sent is the TX frequency then a full configuration is pending; without a shift,
no drain writes a command. -/
theorem tx_frequency_noticed (cfg : lhkt_config_t) (hf : Frequencies cfg) (e : start_env)
    (es : List bridge_env) :
    let s := bridge_run cfg e es
    (bridge_loraham_tx_shift_needed cfg = true →
      s.conf.freqs.getLast? = some cfg.tx_freq → s.config_ok = false) ∧
    (bridge_loraham_tx_shift_needed cfg = false → ∀ e',
      (bridge_drain cfg e' s).1.conf.tx = s.conf.tx ∧
      (bridge_drain cfg e' s).1.conf.freqs = s.conf.freqs) := by
  refine ⟨?_, ?_⟩
  · intro hshift
    exact run_invariant (P := Noticed cfg) (fun s e hs => bridge_step_noticed hf hshift s e hs) es _
      (bridge_start_noticed hf hshift e)
  · intro hshift e'
    exact drain_silent hshift e'.drain _ _ _

/-- The packet cannot be written and the restore fails twice: the TX frequency is
the last one sent, and the configuration is pending. -/
theorem tx_frequency_noticed_restore_failed :
    let failed : sock_env := { writes := [.fail] }
    let send : bridge_env :=
      { drain := { send := { write := failed, restore := { first := failed, retry := failed } } } }
    let s := bridge_run lhkt_config_defaults {} (iteration client_connects ++
      iteration (packet_arrives (ascii "x") status_ready) ++ [send])
    s.conf.freqs.getLast? = some lhkt_config_defaults.tx_freq ∧ s.config_ok = false := by
  have hlast : (bridge_run lhkt_config_defaults {} (iteration client_connects ++
      iteration (packet_arrives (ascii "x") status_ready) ++
        [{ drain := { send :=
          { write := { writes := [.fail] }
            restore := { first := { writes := [.fail] }, retry := { writes := [.fail] } } } } }])
      ).conf.freqs.getLast? = some lhkt_config_defaults.tx_freq := by decide +kernel
  exact ⟨hlast, (tx_frequency_noticed lhkt_config_defaults
    ⟨rfl, rfl, by decide +kernel, by decide +kernel⟩ {} _).1 (by decide +kernel) hlast⟩

end LorahamKissTnc.RxFrequency
