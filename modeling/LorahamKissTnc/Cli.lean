/-
`cli.c`: the command line over the configuration file over the defaults.

`getopt_long` is a parameter: it turns the arguments into the list of options the
loop of `parse_cli_args` sees, and says whether operands are left behind them. The
config file is looked for in the arguments themselves, before any option is
applied (`find_config_arg`).

`applied` is the whole front end without its texts: the lines of a file and then
the options, each applied to the configuration the one before it left, as long as
they are accepted. `lhkt_cli_apply_applied` connects it with `lhkt_cli_apply`.
-/
import LorahamKissTnc.ConfigFile

set_option autoImplicit false

open LorahamKissTnc.Lib.CString
open LorahamKissTnc.Config LorahamKissTnc.ConfigFile

namespace LorahamKissTnc.Cli

/-! ## Options -/

/-- An option as `getopt_long` returns it, with its argument. -/
inductive cli_opt where
  | config (optarg : Bytes)
  | verbose
  | help
  | version
  | kiss_host (optarg : Bytes)
  | bind (optarg : Bytes)
  | kiss_port (optarg : Bytes)
  | data_socket (optarg : Bytes)
  | conf_socket (optarg : Bytes)
  | rx_freq (optarg : Bytes)
  | tx_freq (optarg : Bytes)
  | rx_only
  | rf_log (optarg : Bytes)
  | rf_log_path (optarg : Bytes)
  | tx_settle_ms (optarg : Bytes)
  | tx_return_ms (optarg : Bytes)
  | tx_busy_timeout_ms (optarg : Bytes)
  | tx_queue_len (optarg : Bytes)
  | tx_packet_ttl_ms (optarg : Bytes)
  | unknown
  deriving DecidableEq, Repr

/-- How the handling of an option ends: with a code, or with `exit(0)`. -/
inductive cli_ret where
  | code (ret : Lhkt)
  | exit
  deriving DecidableEq, Repr

/-- `parse_int_arg`. -/
def parse_int_arg (text : Bytes) (min max : Int) : Except Lhkt Int :=
  if text = [] then .error .ERR_FORMAT
  else
    let r := strtol 0 text
    -- unlike in a file, nothing may follow the number
    if r.erange ∨ r.rest ≠ [] then .error .ERR_FORMAT
    else if r.value < min ∨ max < r.value then .error .ERR_FORMAT
    else .ok r.value

/-- `parse_double_arg`. -/
def parse_double_arg (libc : libc_t) (text : Bytes) (min max : ℚ) : Except Lhkt ℚ :=
  if text = [] then .error .ERR_FORMAT
  else
    let r := libc.strtod text
    if r.erange ∨ r.rest ≠ [] then .error .ERR_FORMAT
    else match r.value with
      | none => .error .ERR_FORMAT
      | some value =>
          if value < min ∨ max < value then .error .ERR_FORMAT else .ok value

/-- The value of `--rflog`. -/
def parse_rf_log (optarg : Bytes) : Except Lhkt Bool :=
  -- unlike in a file, two words only, in lower case
  if optarg = ascii "on" then .ok true
  else if optarg = ascii "off" then .ok false
  else .error .ERR_FORMAT

/-- The value of `--rflog-path`: an absolute path that fits. -/
def parse_rf_log_path (optarg : Bytes) : Except Lhkt Bytes :=
  if optarg.head? ≠ some (ch '/') ∨ LHKT_PATH_MAX ≤ optarg.length then .error .ERR_FORMAT
  else .ok optarg

/-- The `switch` of `parse_cli_args`: what an option does and its code. -/
def parse_cli_opt (libc : libc_t) (cfg : lhkt_config_full_t) :
    cli_opt → lhkt_config_full_t × Lhkt
  | .config _ => (cfg, .OK)
  | .verbose => ({ cfg with verbose := true }, .OK)
  | .kiss_host optarg => store_text LHKT_HOST_MAX optarg fun t => { cfg with kiss_host := t }
  | .bind optarg => bind_apply libc cfg optarg
  | .kiss_port optarg =>
      store cfg (parse_int_arg optarg 1 65535) fun v => { cfg with kiss_port := v }
  | .data_socket optarg => store_text LHKT_PATH_MAX optarg fun t => { cfg with data_socket := t }
  | .conf_socket optarg => store_text LHKT_PATH_MAX optarg fun t => { cfg with conf_socket := t }
  | .rx_freq optarg =>
      store cfg (parse_double_arg libc optarg (1 / 1000) 10000) fun v =>
        { cfg with rx_freq := v, have_rx_freq := true }
  | .tx_freq optarg =>
      store cfg (parse_double_arg libc optarg (1 / 1000) 10000) fun v =>
        { cfg with tx_freq := v, have_tx_freq := true }
  | .rx_only => ({ cfg with rx_only := true }, .OK)
  | .rf_log optarg => store cfg (parse_rf_log optarg) fun b => { cfg with rf_log := b }
  | .rf_log_path optarg =>
      store cfg (parse_rf_log_path optarg) fun t => { cfg with rf_log_path := t }
  | .tx_settle_ms optarg =>
      store cfg (parse_int_arg optarg 0 60000) fun v => { cfg with tx_settle_ms := v }
  | .tx_return_ms optarg =>
      store cfg (parse_int_arg optarg 0 60000) fun v => { cfg with tx_return_ms := v }
  | .tx_busy_timeout_ms optarg =>
      store cfg (parse_int_arg optarg 0 600000) fun v => { cfg with tx_busy_timeout_ms := v }
  | .tx_queue_len optarg =>
      store cfg (parse_int_arg optarg 1 16) fun v => { cfg with tx_queue_len := v }
  | .tx_packet_ttl_ms optarg =>
      store cfg (parse_int_arg optarg 1000 3600000) fun v => { cfg with tx_packet_ttl_ms := v }
  -- never reached: `parse_cli_step` ends the program at these two
  | .help => (cfg, .OK)
  | .version => (cfg, .OK)
  | .unknown => (cfg, .ERR_FORMAT)

/-- One round of the loop. -/
def parse_cli_step (libc : libc_t) (cfg : lhkt_config_full_t) (opt : cli_opt) :
    lhkt_config_full_t × cli_ret :=
  if opt = .help ∨ opt = .version then (cfg, .exit)
  else ((parse_cli_opt libc cfg opt).1, .code (parse_cli_opt libc cfg opt).2)

/-- `parse_cli_args` of the options and whether operands follow them. -/
def parse_cli_args (libc : libc_t) :
    List cli_opt → Bool → lhkt_config_full_t → lhkt_config_full_t × cli_ret
  -- operands are looked at behind the last option
  | [], operands, cfg => (cfg, .code (if operands then .ERR_FORMAT else .OK))
  | opt :: opts, operands, cfg =>
      match parse_cli_step libc cfg opt with
      | (cfg, .code .OK) => parse_cli_args libc opts operands cfg
      | (cfg, ret) => (cfg, ret)

/-! ## The whole front end -/

/-- `find_config_arg` of the arguments behind the program's name. -/
def find_config_arg : List Bytes → Option Bytes
  | [] => none
  | arg :: argv =>
      -- the first one wins, whatever `getopt_long` makes of the rest
      if arg = ascii "-c" ∨ arg = ascii "--config" then argv.head?
      else if (ascii "--config=").isPrefixOf arg then some (arg.drop 9)
      else if (ascii "-c").isPrefixOf arg ∧ 2 < arg.length then some (arg.drop 2)
      else find_config_arg argv

/-- `lhkt_cli_apply`. -/
def lhkt_cli_apply (libc : libc_t) (getopt_long : List Bytes → List cli_opt × Bool)
    (argv : List Bytes) (cfg : lhkt_config_full_t) : lhkt_config_full_t × cli_ret :=
  let args := getopt_long argv
  match find_config_arg argv with
  | none => parse_cli_args libc args.1 args.2 cfg
  | some config_path =>
      match lhkt_config_load_file libc cfg config_path with
      | (cfg, .OK) => parse_cli_args libc args.1 args.2 cfg
      -- a file that fails leaves what was read of it
      | (cfg, ret) => (cfg, .code ret)

/-- A line that is accepted. -/
def accepted_line (libc : libc_t) (cfg : lhkt_config_full_t) (line : Bytes) :
    Option lhkt_config_full_t :=
  let r := lhkt_config_parse_line libc cfg line
  if r.2 = .OK then some r.1 else none

/-- An option that is accepted. -/
def accepted_opt (libc : libc_t) (cfg : lhkt_config_full_t) (opt : cli_opt) :
    Option lhkt_config_full_t :=
  let r := parse_cli_step libc cfg opt
  if r.2 = .code .OK then some r.1 else none

/-- The lines of a file, then the options, in order, all accepted. -/
def applied (libc : libc_t) (lines : List Bytes) (opts : List cli_opt) (cfg : lhkt_config_full_t) :
    Option lhkt_config_full_t := do
  let cfg ← lines.foldlM (accepted_line libc) cfg
  opts.foldlM (accepted_opt libc) cfg

/-- The lines of the config file the arguments name; none without one. -/
def config_lines (libc : libc_t) (argv : List Bytes) : List Bytes :=
  match (find_config_arg argv).bind libc.fopen with
  | none => []
  | some file => (fgets_lines [] file).map Prod.fst

theorem config_load_lines_ok (libc : libc_t) (lines : List (Bytes × Bool)) :
    ∀ {cfg cfg' : lhkt_config_full_t}, config_load_lines libc lines cfg = (cfg', .OK) →
      (lines.map Prod.fst).foldlM (accepted_line libc) cfg = some cfg' := by
  induction lines with
  | nil =>
      intro cfg cfg' h
      obtain ⟨rfl, -⟩ := Prod.mk.inj h
      rfl
  | cons line lines ih =>
      intro cfg cfg' h
      obtain ⟨line, eof⟩ := line
      rw [config_load_lines] at h
      split at h
      · cases (Prod.mk.inj h).2
      · split at h
        · rename_i cfg₁ heq
          rw [List.map_cons, List.foldlM_cons, accepted_line, heq]
          exact ih h
        · rename_i cfg₁ ret hne _
          exact absurd (Prod.mk.inj h).2 hne

theorem parse_cli_args_ok (libc : libc_t) (opts : List cli_opt) (operands : Bool) :
    ∀ {cfg cfg' : lhkt_config_full_t},
      parse_cli_args libc opts operands cfg = (cfg', .code .OK) →
      opts.foldlM (accepted_opt libc) cfg = some cfg' := by
  induction opts with
  | nil =>
      intro cfg cfg' h
      obtain ⟨rfl, -⟩ := Prod.mk.inj h
      rfl
  | cons opt opts ih =>
      intro cfg cfg' h
      rw [parse_cli_args] at h
      split at h
      · rename_i cfg₁ heq
        rw [List.foldlM_cons, accepted_opt, heq]
        exact ih h
      · rename_i cfg₁ ret hne _
        exact absurd (Prod.mk.inj h).2 hne

/-- **The front end is its steps.** When `lhkt_cli_apply` succeeds, every line of
the config file and every option was accepted, and they were applied in order. -/
theorem lhkt_cli_apply_applied {libc : libc_t} {getopt_long : List Bytes → List cli_opt × Bool}
    {argv : List Bytes} {cfg cfg' : lhkt_config_full_t}
    (h : lhkt_cli_apply libc getopt_long argv cfg = (cfg', .code .OK)) :
    applied libc (config_lines libc argv) (getopt_long argv).1 cfg = some cfg' := by
  unfold lhkt_cli_apply at h
  dsimp only at h
  split at h
  · rename_i hnone
    rw [applied, config_lines, hnone]
    exact parse_cli_args_ok libc _ _ h
  · rename_i config_path hpath
    split at h
    · rename_i cfg₁ hload
      unfold lhkt_config_load_file at hload
      split at hload
      · exact nomatch (Prod.mk.inj hload).2
      · split at hload
        · exact nomatch (Prod.mk.inj hload).2
        · rename_i file hfile
          rw [applied, config_lines, hpath, Option.bind_some, hfile]
          dsimp only
          rw [config_load_lines_ok libc _ hload]
          exact parse_cli_args_ok libc _ _ h
    · rename_i cfg₁ ret hne _
      exact absurd (cli_ret.code.inj (Prod.mk.inj h).2) hne

/-! ## The ranges the bridge relies on -/

theorem parse_int_arg_range {text : Bytes} {min max v : Int}
    (h : parse_int_arg text min max = .ok v) : min ≤ v ∧ v ≤ max := by
  unfold parse_int_arg at h
  split at h
  · exact nomatch h
  dsimp only at h
  split at h
  · exact nomatch h
  split at h
  · exact nomatch h
  rename_i hrange
  obtain rfl := Except.ok.inj h
  omega

theorem parse_double_arg_range {libc : libc_t} {text : Bytes} {min max v : ℚ}
    (h : parse_double_arg libc text min max = .ok v) : min ≤ v := by
  unfold parse_double_arg at h
  split at h
  · exact nomatch h
  dsimp only at h
  split at h
  · exact nomatch h
  split at h
  · exact nomatch h
  split at h
  · exact nomatch h
  rename_i hrange
  obtain rfl := Except.ok.inj h
  exact not_lt.mp fun hlt => hrange (.inl hlt)

/-- **Every option keeps the ranges.** -/
theorem parse_cli_opt_configured (libc : libc_t) {cfg : lhkt_config_full_t} (opt : cli_opt)
    (h : Configured cfg.tolhkt_config_t) :
    Configured (parse_cli_opt libc cfg opt).1.tolhkt_config_t := by
  cases opt with
  | config _ => exact h
  | verbose => exact configured_of_ranged h rfl
  | help => exact h
  | version => exact h
  | unknown => exact h
  | rx_only => exact configured_of_ranged h rfl
  | kiss_host _ => exact configured_of_ranged h rfl
  | bind _ => exact configured_of_ranged h (lhkt_bind_apply_ranged _ _ _)
  | data_socket _ => exact configured_of_ranged h rfl
  | conf_socket _ => exact configured_of_ranged h rfl
  | kiss_port _ => exact store_configured_of_ranged h _ _ fun _ => rfl
  | rf_log _ => exact store_configured_of_ranged h _ _ fun _ => rfl
  | rf_log_path _ => exact store_configured_of_ranged h _ _ fun _ => rfl
  | tx_settle_ms _ =>
      exact store_configured h _ _ fun v hv => { h with tx_settle_ms := parse_int_arg_range hv }
  | tx_return_ms _ =>
      exact store_configured h _ _ fun v hv => { h with tx_return_ms := parse_int_arg_range hv }
  | tx_busy_timeout_ms _ =>
      exact store_configured h _ _ fun v hv =>
        { h with tx_busy_timeout_ms := parse_int_arg_range hv }
  | tx_queue_len _ =>
      exact store_configured h _ _ fun v hv => { h with tx_queue_len := parse_int_arg_range hv }
  | tx_packet_ttl_ms _ =>
      exact store_configured h _ _ fun v hv =>
        { h with tx_packet_ttl_ms := parse_int_arg_range hv }
  | rx_freq _ =>
      exact store_configured h _ _ fun v hv => { h with rx_freq := fun _ => parse_double_arg_range hv }
  | tx_freq _ =>
      exact store_configured h _ _ fun v hv => { h with tx_freq := fun _ => parse_double_arg_range hv }

theorem parse_cli_args_configured (libc : libc_t) (opts : List cli_opt) (operands : Bool) :
    ∀ {cfg : lhkt_config_full_t}, Configured cfg.tolhkt_config_t →
      Configured (parse_cli_args libc opts operands cfg).1.tolhkt_config_t := by
  induction opts with
  | nil =>
      intro cfg h
      exact h
  | cons opt opts ih =>
      intro cfg h
      have hstep : Configured (parse_cli_step libc cfg opt).1.tolhkt_config_t := by
        rw [parse_cli_step]
        split
        · exact h
        · exact parse_cli_opt_configured libc opt h
      rw [parse_cli_args]
      split
      · rename_i cfg₁ heq
        rw [heq] at hstep
        exact ih hstep
      · rename_i cfg₁ ret _ heq
        rw [heq] at hstep
        exact hstep

/-- **What the bridge is started with is in range**, whatever the file and the
arguments were. -/
theorem lhkt_cli_apply_configured (libc : libc_t)
    (getopt_long : List Bytes → List cli_opt × Bool) (argv : List Bytes)
    (run_data run_conf : Bool) :
    Configured (lhkt_cli_apply libc getopt_long argv
      (lhkt_config_full_defaults run_data run_conf)).1.tolhkt_config_t := by
  have hdefaults : Configured (lhkt_config_full_defaults run_data run_conf).tolhkt_config_t :=
    configured_defaults
  unfold lhkt_cli_apply
  dsimp only
  split
  · exact parse_cli_args_configured libc _ _ hdefaults
  · rename_i config_path _
    have hload := lhkt_config_load_file_configured libc config_path hdefaults
    split
    · rename_i cfg heq
      rw [heq] at hload
      exact parse_cli_args_configured libc _ _ hload
    · rename_i cfg ret _ heq
      rw [heq] at hload
      exact hload

end LorahamKissTnc.Cli
