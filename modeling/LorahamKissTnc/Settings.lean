/-
What the configuration is: the command line over the file over the defaults, and
of the settings of one field the last.

A line of the file and an option are two forms of the same thing, a key with a
value. `opt_setting` names the key behind an option; an accepted option does what
`lhkt_config_set` does for that key (`parse_cli_opt_setting`), although `cli.c` has
parsers of its own, which accept less.

`key_fields` lists what a key writes. Most keys write the field they are named
after; `bind` writes four, `kiss_host` among them, a frequency also says that it is
there, and `ldro` leaves its own field alone when the value is "auto". That this
list is complete, and that nothing a key does depends on the configuration it is
applied to, makes the keys an instance of `LastWins`.
-/
import LorahamKissTnc.Cli
import LorahamKissTnc.Lib.Overrides

set_option autoImplicit false

open LorahamKissTnc.Lib.CString LorahamKissTnc.Lib.Overrides
open LorahamKissTnc.Config LorahamKissTnc.ConfigFile LorahamKissTnc.Cli

namespace LorahamKissTnc.Settings

/-! ## Fields -/

/-- The fields of `lhkt_config_t`. -/
inductive config_field where
  | kiss_host
  | kiss_port
  | bind_spec
  | bind_net
  | bind_prefix
  | data_socket
  | conf_socket
  | rf_log
  | rf_log_path
  | rx_only
  | verbose
  | stats_interval
  | tx_settle_ms
  | tx_return_ms
  | tx_busy_timeout_ms
  | tx_queue_len
  | tx_packet_ttl_ms
  | rx_freq
  | tx_freq
  | have_rx_freq
  | have_tx_freq
  | sf
  | bw
  | cr
  | crc
  | preamble
  | syncword
  | ldro
  | ldro_auto
  | power
  deriving DecidableEq, Repr

/-- What a field holds. -/
def config_field.type : config_field → Type
  | .kiss_host | .bind_spec | .data_socket | .conf_socket | .rf_log_path => Bytes
  | .bind_net => UInt32
  | .rf_log | .rx_only | .verbose | .have_rx_freq | .have_tx_freq | .ldro | .ldro_auto => Bool
  | .rx_freq | .tx_freq | .bw => ℚ
  | .syncword => Nat
  | .kiss_port | config_field.bind_prefix | .stats_interval | .tx_settle_ms | .tx_return_ms
  | .tx_busy_timeout_ms | .tx_queue_len | .tx_packet_ttl_ms | .sf | .cr | .crc | .preamble
  | .power => Int

/-- `cfg->field`. -/
def config_field.read : (f : config_field) → lhkt_config_full_t → f.type
  | .kiss_host, cfg => cfg.kiss_host
  | .kiss_port, cfg => cfg.kiss_port
  | .bind_spec, cfg => cfg.bind_spec
  | .bind_net, cfg => cfg.bind_net
  | config_field.bind_prefix, cfg => cfg.bind_prefix
  | .data_socket, cfg => cfg.data_socket
  | .conf_socket, cfg => cfg.conf_socket
  | .rf_log, cfg => cfg.rf_log
  | .rf_log_path, cfg => cfg.rf_log_path
  | .rx_only, cfg => cfg.rx_only
  | .verbose, cfg => cfg.verbose
  | .stats_interval, cfg => cfg.stats_interval
  | .tx_settle_ms, cfg => cfg.tx_settle_ms
  | .tx_return_ms, cfg => cfg.tx_return_ms
  | .tx_busy_timeout_ms, cfg => cfg.tx_busy_timeout_ms
  | .tx_queue_len, cfg => cfg.tx_queue_len
  | .tx_packet_ttl_ms, cfg => cfg.tx_packet_ttl_ms
  | .rx_freq, cfg => cfg.rx_freq
  | .tx_freq, cfg => cfg.tx_freq
  | .have_rx_freq, cfg => cfg.have_rx_freq
  | .have_tx_freq, cfg => cfg.have_tx_freq
  | .sf, cfg => cfg.sf
  | .bw, cfg => cfg.bw
  | .cr, cfg => cfg.cr
  | .crc, cfg => cfg.crc
  | .preamble, cfg => cfg.preamble
  | .syncword, cfg => cfg.syncword
  | .ldro, cfg => cfg.ldro
  | .ldro_auto, cfg => cfg.ldro_auto
  | .power, cfg => cfg.power

/-- The configuration with these values. -/
def config_of (v : (f : config_field) → f.type) : lhkt_config_full_t where
  kiss_host := v .kiss_host
  kiss_port := v .kiss_port
  bind_spec := v .bind_spec
  bind_net := v .bind_net
  bind_prefix := v config_field.bind_prefix
  data_socket := v .data_socket
  conf_socket := v .conf_socket
  rf_log := v .rf_log
  rf_log_path := v .rf_log_path
  rx_only := v .rx_only
  verbose := v .verbose
  stats_interval := v .stats_interval
  tx_settle_ms := v .tx_settle_ms
  tx_return_ms := v .tx_return_ms
  tx_busy_timeout_ms := v .tx_busy_timeout_ms
  tx_queue_len := v .tx_queue_len
  tx_packet_ttl_ms := v .tx_packet_ttl_ms
  rx_freq := v .rx_freq
  tx_freq := v .tx_freq
  have_rx_freq := v .have_rx_freq
  have_tx_freq := v .have_tx_freq
  sf := v .sf
  bw := v .bw
  cr := v .cr
  crc := v .crc
  preamble := v .preamble
  syncword := v .syncword
  ldro := v .ldro
  ldro_auto := v .ldro_auto
  power := v .power

/-- There is no more to a configuration than its fields. -/
theorem read_ext {cfg cfg' : lhkt_config_full_t}
    (h : ∀ f : config_field, f.read cfg = f.read cfg') : cfg = cfg' := by
  calc cfg = config_of fun f => f.read cfg := rfl
    _ = config_of fun f => f.read cfg' := by rw [funext h]
    _ = cfg' := rfl

/-! ## Settings -/

/-- A key and its value. -/
abbrev setting := config_key × Bytes

/-- The fields a key writes. "auto" is a mode of `ldro` and no value of it. -/
def key_fields (value : Bytes) : config_key → List config_field
  | .kiss_host => [.kiss_host]
  | .bind => [.bind_net, config_field.bind_prefix, .bind_spec, .kiss_host]
  | .data_socket => [.data_socket]
  | .conf_socket => [.conf_socket]
  | .kiss_port => [.kiss_port]
  | .rf_log => [.rf_log]
  | .rf_log_path => [.rf_log_path]
  | .rx_only => [.rx_only]
  | .verbose => [.verbose]
  | .stats_interval => [.stats_interval]
  | .tx_settle_ms => [.tx_settle_ms]
  | .tx_return_ms => [.tx_return_ms]
  | .tx_busy_timeout_ms => [.tx_busy_timeout_ms]
  | .tx_queue_len => [.tx_queue_len]
  | .tx_packet_ttl_ms => [.tx_packet_ttl_ms]
  | .rx_freq => [.rx_freq, .have_rx_freq]
  | .tx_freq => [.tx_freq, .have_tx_freq]
  | .sf => [.sf]
  | .bw => [.bw]
  | .cr => [.cr]
  | .crc => [.crc]
  | .preamble => [.preamble]
  | .syncword => [.syncword]
  | .ldro =>
      if value = ascii "AUTO" ∨ value = ascii "auto" then [.ldro_auto] else [.ldro, .ldro_auto]
  | .power => [.power]

def setting_writes (a : setting) (f : config_field) : Bool := f ∈ key_fields a.2 a.1

/-- A setting that is accepted. -/
def accepted_setting (libc : libc_t) (cfg : lhkt_config_full_t) (a : setting) :
    Option lhkt_config_full_t :=
  let r := lhkt_config_set libc cfg a.2 a.1
  if r.2 = .OK then some r.1 else none

/-- A setting that is accepted is one that was set. -/
theorem accepted_setting_eq {libc : libc_t} {cfg cfg' : lhkt_config_full_t} {a : setting}
    (h : accepted_setting libc cfg a = some cfg') :
    (lhkt_config_set libc cfg a.2 a.1).2 = .OK ∧ (lhkt_config_set libc cfg a.2 a.1).1 = cfg' := by
  unfold accepted_setting at h
  dsimp only at h
  split at h
  · rename_i hok
    exact ⟨hok, Option.some.inj h⟩
  · exact absurd h (by simp)

/-- What a setting comes to on its own. -/
def alone (libc : libc_t) (a : setting) : lhkt_config_full_t × Lhkt :=
  lhkt_config_set libc (lhkt_config_full_defaults false false) a.2 a.1

/-! ## What a key does -/

/-- The result of a setting on one configuration and on another: the same code,
and after success the listed fields alike and the others as they were. -/
def Sets (fields : List config_field) (cfg : lhkt_config_full_t)
    (r r₀ : lhkt_config_full_t × Lhkt) : Prop :=
  r.2 = r₀.2 ∧ (r.2 = .OK → ∀ f : config_field,
    f.read r.1 = if f ∈ fields then f.read r₀.1 else f.read cfg)

section Keys

variable {α : Type} {fields : List config_field} {cfg cfg₀ : lhkt_config_full_t}

/-- What is stored where a value parses. -/
theorem store_sets {parsed : Except Lhkt α} {write write₀ : α → lhkt_config_full_t}
    (hw : ∀ a (f : config_field),
      f.read (write a) = if f ∈ fields then f.read (write₀ a) else f.read cfg)
    (herror : ∀ ret, parsed = .error ret → ret = .ERR_FORMAT) :
    Sets fields cfg (store cfg parsed write) (store cfg₀ parsed write₀) := by
  cases parsed with
  | ok a => exact ⟨rfl, fun _ f => hw a f⟩
  | error ret =>
      refine ⟨rfl, fun hok => ?_⟩
      have hret : ret = .OK := hok
      rw [herror ret rfl] at hret
      cases hret

/-- What is stored of a text. -/
theorem store_text_sets {dst_size : Nat} {value : Bytes} {write write₀ : Bytes → lhkt_config_full_t}
    (hw : ∀ t (f : config_field),
      f.read (write t) = if f ∈ fields then f.read (write₀ t) else f.read cfg) :
    Sets fields cfg (store_text dst_size value write) (store_text dst_size value write₀) :=
  ⟨rfl, fun _ f => hw _ f⟩

/-- A bind stores the network and the address to listen on, or nothing. -/
theorem bind_apply_sets (libc : libc_t) (value : Bytes) :
    Sets (key_fields value .bind) cfg (bind_apply libc cfg value)
      (bind_apply libc cfg₀ value) := by
  unfold bind_apply lhkt_bind_apply
  cases hparse : lhkt_bind_parse libc.inet_pton value with
  | ok network =>
      refine ⟨rfl, fun _ f => ?_⟩
      cases f <;> rfl
  | error ret =>
      refine ⟨rfl, fun hok => ?_⟩
      have hret : ret = .OK := hok
      rw [lhkt_bind_parse_error _ hparse] at hret
      cases hret

end Keys

section Errors

variable {libc : libc_t} {text : Bytes} {ret : Lhkt}

/-! Every parser has one way to refuse a value. -/

/-- A number that is refused is a format error. -/
theorem parse_long_value_error {min max : Int} (h : parse_long_value text min max = .error ret) :
    ret = .ERR_FORMAT := by
  grind [parse_long_value]

/-- A frequency that is refused is a format error. -/
theorem parse_double_value_error {min max : ℚ}
    (h : parse_double_value libc text min max = .error ret) : ret = .ERR_FORMAT := by
  grind [parse_double_value]

theorem parse_bool_value_error (h : parse_bool_value text = .error ret) : ret = .ERR_FORMAT := by
  grind [parse_bool_value]

theorem parse_optional_freq_error (h : parse_optional_freq libc text = .error ret) :
    ret = .ERR_FORMAT := by
  grind [parse_optional_freq]

end Errors

/-- **What a key writes.** Whatever the configuration: the same code, the listed
fields with the same values, and no other field. -/
theorem lhkt_config_set_sets (libc : libc_t) (cfg cfg₀ : lhkt_config_full_t) (value : Bytes)
    (key : config_key) :
    Sets (key_fields value key) cfg (lhkt_config_set libc cfg value key)
      (lhkt_config_set libc cfg₀ value key) := by
  cases key with
  | bind => exact bind_apply_sets libc value
  | kiss_host | data_socket | conf_socket | rf_log_path =>
      exact store_text_sets fun _ f => by cases f <;> rfl
  | kiss_port | stats_interval | tx_settle_ms | tx_return_ms | tx_busy_timeout_ms | tx_queue_len
  | tx_packet_ttl_ms | sf | cr | preamble | syncword | power =>
      exact store_sets (fun _ f => by cases f <;> rfl) fun _ => parse_long_value_error
  | rf_log | rx_only | verbose | crc =>
      exact store_sets (fun _ f => by cases f <;> rfl) fun _ => parse_bool_value_error
  | rx_freq | tx_freq =>
      exact store_sets (fun _ f => by cases f <;> rfl) fun _ => parse_optional_freq_error
  | bw => exact store_sets (fun _ f => by cases f <;> rfl) fun _ => parse_double_value_error
  | ldro =>
      simp only [lhkt_config_set, key_fields]
      by_cases hauto : value = ascii "AUTO" ∨ value = ascii "auto"
      · rw [if_pos hauto, if_pos hauto, if_pos hauto]
        refine ⟨rfl, fun _ f => ?_⟩
        cases f <;> rfl
      · rw [if_neg hauto, if_neg hauto, if_neg hauto]
        exact store_sets (fun _ f => by cases f <;> rfl) fun _ => parse_bool_value_error

/-- **The keys are settings of which the last counts.** -/
theorem settings_last_wins (libc : libc_t) :
    LastWins (accepted_setting libc) config_field.read
      (fun a => decide ((alone libc a).2 = .OK)) setting_writes
      (fun a f => f.read (alone libc a).1) where
  accepts cfg a := by
    have hsame := (lhkt_config_set_sets libc cfg (lhkt_config_full_defaults false false) a.2 a.1).1
    simp only [accepted_setting, alone, ← hsame]
    split <;> simp_all
  written cfg a cfg' f hset hwrites := by
    obtain ⟨hok, rfl⟩ := accepted_setting_eq hset
    have hfield := (lhkt_config_set_sets libc cfg (lhkt_config_full_defaults false false)
      a.2 a.1).2 hok f
    rwa [if_pos (of_decide_eq_true hwrites)] at hfield
  kept cfg a cfg' f hset hwrites := by
    obtain ⟨hok, rfl⟩ := accepted_setting_eq hset
    have hfield := (lhkt_config_set_sets libc cfg (lhkt_config_full_defaults false false)
      a.2 a.1).2 hok f
    rwa [if_neg (of_decide_eq_false hwrites)] at hfield

end LorahamKissTnc.Settings
