/-
What the front end accepts can be said to the daemon.

`config.c` and `cli.c` check a value against the range of its key, and nothing
checks the configuration again: `loraham_send_config_line` prints it into a buffer
of 256 bytes and gives up if the text does not fit, and a frequency that is not
positive is not sent at all. `in_range` lists the ranges of all fields. Every field
of an accepted configuration is in range, because the last setting that writes it
was; so each line fits, and a configuration fails only where a socket does.
-/
import LorahamKissTnc.FrontEnd
import LorahamKissTnc.Recovery
import LorahamKissTnc.ConfStream
import LorahamKissTnc.Lib.Numerals

set_option autoImplicit false

open LorahamKissTnc.Lib.CString LorahamKissTnc.Lib.Overrides LorahamKissTnc.Lib.Numerals
open LorahamKissTnc.Lib.Channel
open LorahamKissTnc.Config LorahamKissTnc.ConfigFile LorahamKissTnc.Cli LorahamKissTnc.Settings
open LorahamKissTnc.FrontEnd LorahamKissTnc.LorahamSock LorahamKissTnc.BridgeConf
open LorahamKissTnc.BridgeLoraham LorahamKissTnc.ConfStream LorahamKissTnc.Recovery

namespace LorahamKissTnc.SettingRanges

variable {libc : libc_t} {cfg cfg' : lhkt_config_full_t}

/-! ## Ranges -/

/-- `min ≤ v ≤ max`. -/
def within {α : Type} [LE α] (min max v : α) : Prop := min ≤ v ∧ v ≤ max

/-- The values a field can get. A frequency that is not there is zero. -/
def in_range : (f : config_field) → f.type → Prop
  | .kiss_port, v => within (1 : Int) 65535 v
  | .stats_interval, v => within (0 : Int) 86400 v
  | .tx_settle_ms, v => within (0 : Int) 60000 v
  | .tx_return_ms, v => within (0 : Int) 60000 v
  | .tx_busy_timeout_ms, v => within (0 : Int) 600000 v
  | .tx_queue_len, v => within (1 : Int) 16 v
  | .tx_packet_ttl_ms, v => within (1000 : Int) 3600000 v
  | .rx_freq, v => within (0 : ℚ) 10000 v
  | .tx_freq, v => within (0 : ℚ) 10000 v
  | .sf, v => within (7 : Int) 12 v
  | .bw, v => within (1 : ℚ) 1000 v
  | .cr, v => within (5 : Int) 8 v
  | .crc, v => within (0 : Int) 1 v
  | .preamble, v => within (1 : Int) 65535 v
  | .syncword, v => within (0 : Nat) 255 v
  | .power, v => within (0 : Int) 20 v
  | .kiss_host, _ | .bind_spec, _ | .bind_net, _ | config_field.bind_prefix, _ | .data_socket, _
  | .conf_socket, _ | .rf_log, _ | .rf_log_path, _ | .rx_only, _ | .verbose, _
  | .have_rx_freq, _ | .have_tx_freq, _ | .ldro, _ | .ldro_auto, _ => True

theorem defaults_in_range (run_data run_conf : Bool) (f : config_field) :
    in_range f (f.read (lhkt_config_full_defaults run_data run_conf)) := by
  cases f <;>
    simp [in_range, within, config_field.read, lhkt_config_full_defaults, lhkt_config_defaults] <;>
    norm_num

theorem parse_double_value_le {text : Bytes} {min max v : ℚ}
    (h : parse_double_value libc text min max = .ok v) : v ≤ max := by
  grind [parse_double_value]

theorem parse_optional_freq_within {value : Bytes} {f : ℚ × Bool}
    (h : parse_optional_freq libc value = .ok f) : within 0 10000 f.1 := by
  unfold parse_optional_freq at h
  split at h
  · obtain rfl := Except.ok.inj h
    exact ⟨le_refl 0, by norm_num⟩
  · split at h
    · rename_i parsed hparsed
      obtain rfl := Except.ok.inj h
      have hmin := parse_double_value_range hparsed
      exact ⟨le_trans (by norm_num) hmin, parse_double_value_le hparsed⟩
    · exact absurd h (by simp)

/-- **A value that is accepted is in the range of its field.** -/
theorem lhkt_config_set_in_range {value : Bytes} {key : config_key}
    (h : lhkt_config_set libc cfg value key = (cfg', .OK)) {f : config_field}
    (hf : f ∈ key_fields value key) : in_range f (f.read cfg') := by
  have hlong : ∀ {min max : Int} {write : Int → lhkt_config_full_t},
      store cfg (parse_long_value value min max) write = (cfg', .OK) →
        ∃ v, within min max v ∧ write v = cfg' := by
    intro min max write hstore
    obtain ⟨v, hv, hwrite⟩ := store_ok (fun _ => parse_long_value_error) hstore
    exact ⟨v, parse_long_value_range hv, hwrite⟩
  cases key with
  | kiss_host | bind | data_socket | conf_socket | rf_log | rf_log_path | rx_only | verbose =>
      simp only [key_fields, List.mem_cons, List.not_mem_nil, or_false] at hf
      rcases hf with rfl | rfl | rfl | rfl <;> trivial
  | kiss_port | stats_interval | tx_settle_ms | tx_return_ms | tx_busy_timeout_ms | tx_queue_len
  | tx_packet_ttl_ms | sf | cr | preamble | power =>
      obtain rfl := List.mem_singleton.mp hf
      obtain ⟨v, hv, rfl⟩ := hlong h
      exact hv
  | rx_freq | tx_freq =>
      obtain ⟨freq, hfreq, rfl⟩ := store_ok (fun _ => parse_optional_freq_error) h
      simp only [key_fields, List.mem_cons, List.not_mem_nil, or_false] at hf
      rcases hf with rfl | rfl
      · exact parse_optional_freq_within hfreq
      · trivial
  | bw =>
      obtain rfl := List.mem_singleton.mp hf
      obtain ⟨v, hv, rfl⟩ := store_ok (fun _ => parse_double_value_error) h
      exact ⟨parse_double_value_range hv, parse_double_value_le hv⟩
  | crc =>
      obtain rfl := List.mem_singleton.mp hf
      obtain ⟨b, -, rfl⟩ := store_ok (fun _ => parse_bool_value_error) h
      have hbit : within (0 : Int) 1 (if b then 1 else 0) := by
        cases b <;> exact ⟨by decide, by decide⟩
      exact hbit
  | syncword =>
      obtain rfl := List.mem_singleton.mp hf
      obtain ⟨v, hv, rfl⟩ := hlong h
      exact ⟨Nat.zero_le _, Int.toNat_le.mpr hv.2⟩
  | ldro =>
      have hldro : f = .ldro ∨ f = .ldro_auto := by
        simp only [key_fields] at hf
        split at hf <;> simp at hf <;> tauto
      rcases hldro with rfl | rfl <;> trivial

/-- **Every field of an accepted configuration is in range**: the last setting that
writes it was, or it has its default. -/
theorem lhkt_cli_apply_in_range {getopt_long : List Bytes → List cli_opt × Bool}
    {argv : List Bytes} {run_data run_conf : Bool}
    (h : lhkt_cli_apply libc getopt_long argv (lhkt_config_full_defaults run_data run_conf)
      = (cfg, .code .OK)) (f : config_field) : in_range f (f.read cfg) := by
  refine read_invariant (settings_last_wins libc) ?_ (lhkt_cli_apply_iff.mp h).2
    (defaults_in_range run_data run_conf) f
  intro a f haccepted hwrites
  exact lhkt_config_set_in_range (Prod.ext rfl (of_decide_eq_true haccepted))
    (of_decide_eq_true hwrites)

/-! ## Lines -/

/-- Two hexadecimal digits. -/
theorem length_fmt_02X_le {n : Nat} (h : n ≤ 255) : (fmt_02X n).length ≤ 2 := by
  have hdigits : (Nat.toDigits 16 n).length ≤ 2 :=
    (Nat.length_toDigits_le_iff (by decide) (by decide)).mpr (by omega)
  unfold fmt_02X
  rw [List.length_append, List.length_replicate, List.length_map]
  omega

/-- A frequency of the configuration. -/
def known_freq (cfg : lhkt_config_t) (freq : ℚ) : Prop :=
  (cfg.have_rx_freq = true ∧ freq = cfg.rx_freq) ∨ (cfg.have_tx_freq = true ∧ freq = cfg.tx_freq)

/-- **A command is short.** With every number at its longest it has 105 characters. -/
theorem length_config_line_le (h : ∀ f, in_range f (f.read cfg)) {freq : Option ℚ}
    (hfreq : ∀ f ∈ freq, within 0 10000 f) :
    (config_line cfg.tolhkt_config_t freq).length ≤ 105 := by
  have hnumber : ∀ {min max n : Int} {k : Nat}, within min max n → 0 < k → 0 ≤ min →
      max < 10 ^ k → (fmt_d n).length ≤ k := fun hn hk hmin hmax =>
    length_fmt_d_le hk (le_trans hmin hn.1) (lt_of_le_of_lt hn.2 hmax)
  have hsf : (fmt_d cfg.sf).length ≤ 2 := hnumber (h .sf) (by decide) (by decide) (by decide)
  have hcr : (fmt_d cfg.cr).length ≤ 1 := hnumber (h .cr) (by decide) (by decide) (by decide)
  have hcrc : (fmt_d cfg.crc).length ≤ 1 := hnumber (h .crc) (by decide) (by decide) (by decide)
  have hpreamble : (fmt_d cfg.preamble).length ≤ 5 :=
    hnumber (h .preamble) (by decide) (by decide) (by decide)
  have hpower : (fmt_d cfg.power).length ≤ 2 :=
    hnumber (h .power) (by decide) (by decide) (by decide)
  have hsync : (fmt_02X cfg.syncword).length ≤ 2 := length_fmt_02X_le (h .syncword).2
  have hbw : (fmt_f 3 cfg.bw).length ≤ 8 := by
    obtain ⟨hmin, hmax⟩ : within (1 : ℚ) 1000 cfg.bw := h .bw
    exact length_fmt_f_le_of_le (k := 4) (m := 1000) (by decide) (by decide)
      (le_trans zero_le_one hmin) (by exact_mod_cast hmax) (by decide)
  have hldro : (loraham_ldro_value cfg.tolhkt_config_t).length ≤ 4 := by
    unfold loraham_ldro_value
    split
    · decide
    · split <;> decide +kernel
  have hnames : (ascii "SET MODE=LORA").length + (ascii " SF=").length + (ascii " BW=").length +
      (ascii " CR=").length + (ascii " CRC=").length + (ascii " PREAMBLE=").length +
      (ascii " SYNC=0x").length + (ascii " LDRO=").length + (ascii " POWER=").length +
      (ascii "\n").length = 62 := by
    decide +kernel
  unfold config_line
  cases freq with
  | none =>
      simp only [List.length_append, List.length_nil]
      omega
  | some f =>
      obtain ⟨hmin, hmax⟩ := hfreq f rfl
      have hname : (ascii " FREQ=").length = 6 := by decide +kernel
      have hdigits : (fmt_f 6 f).length ≤ 12 :=
        length_fmt_f_le_of_le (k := 5) (m := 10000) (by decide) (by decide) hmin
          (by exact_mod_cast hmax) (by decide)
      simp only [List.length_append]
      omega

/-- What a known frequency comes to: it is positive, and its command fits. -/
theorem known_freq_spoken {getopt_long : List Bytes → List cli_opt × Bool}
    {argv : List Bytes} {run_data run_conf : Bool}
    (h : lhkt_cli_apply libc getopt_long argv (lhkt_config_full_defaults run_data run_conf)
      = (cfg, .code .OK)) {freq : ℚ} (hfreq : known_freq cfg.tolhkt_config_t freq) :
    0 < freq ∧ (config_line cfg.tolhkt_config_t (some freq)).length < 256 := by
  have hrange := lhkt_cli_apply_in_range h
  have hconfigured : Configured cfg.tolhkt_config_t := by
    have hall := lhkt_cli_apply_configured libc getopt_long argv run_data run_conf
    rwa [h] at hall
  have hspoken : 1 / 1000 ≤ freq → within 0 10000 freq →
      0 < freq ∧ (config_line cfg.tolhkt_config_t (some freq)).length < 256 := by
    intro hmin hwithin
    refine ⟨lt_of_lt_of_le (by norm_num) hmin, ?_⟩
    have hlen : (config_line cfg.tolhkt_config_t (some freq)).length ≤ 105 :=
      length_config_line_le hrange (by simpa using hwithin)
    omega
  rcases hfreq with ⟨hrx, rfl⟩ | ⟨htx, rfl⟩
  · exact hspoken (hconfigured.rx_freq hrx) (hrange .rx_freq)
  · exact hspoken (hconfigured.tx_freq htx) (hrange .tx_freq)

/-! ## Commands -/

section Commands

variable {cfg : lhkt_config_t}

/-- A command that is written succeeds with the write. -/
theorem send_command_iff (e : sock_env) (line : Bytes) (tx : List (Sent UInt8)) :
    (send_command e line tx).2 = .OK ↔ (loraham_sock_write e line).ok = true := by
  unfold send_command
  dsimp only
  split <;> simp_all

theorem send_config_line_iff {freq : Option ℚ} (hline : (config_line cfg freq).length < 256)
    (e : sock_env) (tx : List (Sent UInt8)) :
    (loraham_send_config_line e cfg freq tx).2 = .OK ↔
      (loraham_sock_write e (config_line cfg freq)).ok = true := by
  unfold loraham_send_config_line
  rw [if_neg (Nat.not_le.mpr hline), send_command_iff]

/-- A frequency that is positive and fits is sent unless the socket fails. -/
theorem send_config_freq_iff {freq : ℚ} (hpos : 0 < freq)
    (hline : (config_line cfg (some freq)).length < 256) (e : sock_env) (c : conf_t) :
    (bridge_loraham_send_config_freq e cfg freq c).2 = .OK ↔
      c.fd = true ∧ (loraham_sock_write e (config_line cfg (some freq))).ok = true := by
  rw [← send_config_line_iff hline e c.tx]
  unfold bridge_loraham_send_config_freq loraham_send_config_freq
  rw [if_neg (not_le.mpr hpos)]
  split
  · simp_all
  · rw [if_neg (not_le.mpr hpos)]
    dsimp only
    split <;> simp_all

theorem send_config_iff (hpos : cfg.have_rx_freq = true → 0 < cfg.rx_freq)
    (hline : (rx_config_line cfg).length < 256) (e : sock_env) (tx : List (Sent UInt8)) :
    (loraham_send_config e cfg tx).2 = .OK ↔
      (loraham_sock_write e (rx_config_line cfg)).ok = true := by
  unfold loraham_send_config
  unfold rx_config_line at hline ⊢
  split
  · rename_i hrx
    rw [if_pos hrx] at hline
    unfold loraham_send_config_freq
    rw [if_neg (not_le.mpr (hpos hrx)), send_config_line_iff hline]
  · rename_i hrx
    rw [if_neg hrx] at hline
    exact send_config_line_iff hline e tx

/-- The three writes of a configuration. -/
theorem send_initial_config_iff (hpos : cfg.have_rx_freq = true → 0 < cfg.rx_freq)
    (hline : (rx_config_line cfg).length < 256) (e : config_env) (c : conf_t) :
    (bridge_loraham_send_initial_config_with_state e cfg c).2 = .OK ↔
      c.fd = true ∧ (loraham_sock_write e.config (rx_config_line cfg)).ok = true ∧
        (loraham_sock_write e.txresult txresult_line).ok = true ∧
        (loraham_sock_write e.status status_line).ok = true := by
  have htxresult : ∀ tx, (loraham_send_txresult_enable e.txresult tx).2 = .OK ↔
      (loraham_sock_write e.txresult txresult_line).ok = true := send_command_iff _ _
  have hstatus : ∀ tx, (bridge_loraham_send_status_request e.status tx).2 = .OK ↔
      (loraham_sock_write e.status status_line).ok = true := send_command_iff _ _
  unfold bridge_loraham_send_initial_config_with_state
  split
  · simp_all
  · rename_i hopen
    have hfd : c.fd = true := by simpa using hopen
    dsimp only
    split
    · rename_i hfailed
      rw [ne_eq, send_config_iff hpos hline] at hfailed
      simp [hfailed]
    · rename_i hsent
      rw [not_not, send_config_iff hpos hline] at hsent
      split
      · rename_i hfailed
        rw [ne_eq, htxresult] at hfailed
        simp [hfailed]
      · rename_i hsent'
        rw [not_not, htxresult] at hsent'
        split
        · rename_i hfailed
          rw [ne_eq, hstatus] at hfailed
          simp [hfailed]
        · rename_i hsent''
          rw [not_not, hstatus] at hsent''
          simp only [hfd, hsent, hsent', hsent'', and_self]

end Commands

/-- **What is accepted can be sent.** With a configuration the front end accepted,
whatever the file and the arguments were, a configuration of the daemon and a change
to a known frequency fail only where the connection is missing or a write fails,
never for the text of the command; and the bridge can tune the radio both ways
whenever both frequencies are there. -/
theorem accepted_commands_sent {getopt_long : List Bytes → List cli_opt × Bool}
    {argv : List Bytes} {run_data run_conf : Bool}
    (h : lhkt_cli_apply libc getopt_long argv (lhkt_config_full_defaults run_data run_conf)
      = (cfg, .code .OK)) :
    (∀ e c, (bridge_loraham_send_initial_config_with_state e cfg.tolhkt_config_t c).2 = .OK ↔
      c.fd = true ∧
        (loraham_sock_write e.config (rx_config_line cfg.tolhkt_config_t)).ok = true ∧
        (loraham_sock_write e.txresult txresult_line).ok = true ∧
        (loraham_sock_write e.status status_line).ok = true) ∧
    (∀ e c freq, known_freq cfg.tolhkt_config_t freq →
      ((bridge_loraham_send_config_freq e cfg.tolhkt_config_t freq c).2 = .OK ↔ c.fd = true ∧
        (loraham_sock_write e (config_line cfg.tolhkt_config_t (some freq))).ok = true)) ∧
    (Tunable cfg.tolhkt_config_t ↔ cfg.have_rx_freq = true ∧ cfg.have_tx_freq = true) := by
  have hspoken : ∀ freq, known_freq cfg.tolhkt_config_t freq →
      0 < freq ∧ (config_line cfg.tolhkt_config_t (some freq)).length < 256 :=
    fun _ => known_freq_spoken h
  refine ⟨?_, ?_, ?_⟩
  · have hline : (rx_config_line cfg.tolhkt_config_t).length < 256 := by
      unfold rx_config_line
      split
      · rename_i hrx
        exact (hspoken _ (.inl ⟨hrx, rfl⟩)).2
      · have hlen : (config_line cfg.tolhkt_config_t none).length ≤ 105 :=
          length_config_line_le (lhkt_cli_apply_in_range h) (by simp)
        omega
    exact send_initial_config_iff (fun hrx => (hspoken _ (.inl ⟨hrx, rfl⟩)).1) hline
  · intro e c freq hfreq
    exact send_config_freq_iff (hspoken freq hfreq).1 (hspoken freq hfreq).2 e c
  · constructor
    · exact fun ht => ⟨ht.frequencies.have_rx, ht.frequencies.have_tx⟩
    · rintro ⟨hrx, htx⟩
      have hr := hspoken _ (.inl ⟨hrx, rfl⟩)
      have ht := hspoken _ (.inr ⟨htx, rfl⟩)
      exact ⟨⟨hrx, htx, hr.1, ht.1⟩, hr.2, ht.2⟩

/-- The file and the options of the example above. -/
theorem accepted_commands_sent_options :
    Tunable (lhkt_cli_apply two_files two_command_lines with_options
      (lhkt_config_full_defaults false false)).1.tolhkt_config_t := by
  have h : lhkt_cli_apply two_files two_command_lines with_options
      (lhkt_config_full_defaults false false)
        = ((lhkt_cli_apply two_files two_command_lines with_options
            (lhkt_config_full_defaults false false)).1, .code .OK) :=
    Prod.ext rfl (by decide +kernel)
  exact (accepted_commands_sent h).2.2.mpr (by decide +kernel)

end LorahamKissTnc.SettingRanges
