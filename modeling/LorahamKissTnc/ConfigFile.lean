/-
`config.c`: the key=value configuration file.

A line is trimmed, cut at the first `=` and dispatched on its key. The keys are
an enumeration; what each of them does with its value (which check, which bounds,
which field) is one branch of `lhkt_config_set`, in the source's order. A branch
that rejects its value leaves the configuration alone, with one exception the
model keeps: `copy_string` writes what fits before it reports `LHKT_ERR_NOSPACE`.

`strtod` and `inet_pton` are parameters (`libc_t`). A `double` is the rational it
stands for, and an infinity or a NaN is no value.

The result of the module is that `Configured`, which the statements about the
bridge assume of its configuration, is an invariant of the whole front end: it
holds of the defaults, and no line, accepted or rejected, breaks it
(`lhkt_config_load_file_configured`).
-/
import LorahamKissTnc.Config

set_option autoImplicit false

open LorahamKissTnc.Lib.CString
open LorahamKissTnc.Config

namespace LorahamKissTnc.ConfigFile

/-! ## The environment -/

/-- What `strtod` answers: the value if it is finite, the text from `*endptr` on,
and whether it set `errno`. -/
structure strtod_t where
  value : Option ℚ
  rest : Bytes
  erange : Bool

/-- The library functions the front end reads texts with, and the files it can
open. -/
structure libc_t where
  inet_pton : Bytes → Option UInt32
  strtod : Bytes → strtod_t
  fopen : Bytes → Option Bytes

/-- `lhkt_config_t` with the fields that name files and sockets or select log
output. -/
structure lhkt_config_full_t extends lhkt_config_t where
  data_socket : Bytes
  conf_socket : Bytes
  verbose : Bool := false
  rf_log : Bool := false
  rf_log_path : Bytes := []
  stats_interval : Int := 900

/-- `lhkt_config_defaults`: the daemon's socket where it exists, else the one
under `/tmp`. -/
def lhkt_config_full_defaults (run_data run_conf : Bool) : lhkt_config_full_t :=
  { lhkt_config_defaults with
    data_socket := ascii (if run_data then "/run/loraham/lora433f.sock" else "/tmp/lora433f.sock")
    conf_socket :=
      ascii (if run_conf then "/run/loraham/loraconf433.sock" else "/tmp/loraconf433.sock") }

/-! ## Values -/

/-- `trim`. -/
def trim (s : Bytes) : Bytes := (s.dropWhile isspace).rdropWhile isspace

/-- `copy_string`, and `copy_arg` of `cli.c`: what is in the buffer afterwards, and
the code. -/
def copy_string (dst_size : Nat) (src : Bytes) : Bytes × Lhkt :=
  -- a text that does not fit is cut, and refused
  if dst_size ≤ src.length then (src.take (dst_size - 1), .ERR_NOSPACE) else (src, .OK)

/-- `parse_long_value`. -/
def parse_long_value (text : Bytes) (min max : Int) : Except Lhkt Int :=
  if text = [] then .error .ERR_FORMAT
  else
    let r := strtol 0 text
    if r.erange then .error .ERR_FORMAT
    else if trim r.rest ≠ [] then .error .ERR_FORMAT
    else if r.value < min ∨ max < r.value then .error .ERR_FORMAT
    else .ok r.value

/-- `parse_double_value`. -/
def parse_double_value (libc : libc_t) (text : Bytes) (min max : ℚ) : Except Lhkt ℚ :=
  if text = [] then .error .ERR_FORMAT
  else
    let r := libc.strtod text
    if r.erange then .error .ERR_FORMAT
    else if trim r.rest ≠ [] then .error .ERR_FORMAT
    else match r.value with
      | none => .error .ERR_FORMAT
      | some value =>
          if value < min ∨ max < value then .error .ERR_FORMAT else .ok value

/-- `parse_bool_value`. -/
def parse_bool_value (text : Bytes) : Except Lhkt Bool :=
  if strcaseeq text (ascii "true") ∨ strcaseeq text (ascii "yes") ∨ strcaseeq text (ascii "on") then
    .ok true
  else if strcaseeq text (ascii "false") ∨ strcaseeq text (ascii "no") ∨
      strcaseeq text (ascii "off") then
    .ok false
  -- 0 and 1, in any base `strtol` knows
  else match parse_long_value text 0 1 with
    | .ok value => .ok (value ≠ 0)
    | .error _ => .error .ERR_FORMAT

/-- `parse_optional_freq`: frequency and whether there is one. -/
def parse_optional_freq (libc : libc_t) (value : Bytes) : Except Lhkt (ℚ × Bool) :=
  -- an empty value takes a frequency back
  if value = [] then .ok (0, false)
  else match parse_double_value libc value (1 / 1000) 10000 with
    | .ok parsed => .ok (parsed, true)
    | .error _ => .error .ERR_FORMAT

/-! ## Keys -/

/-- The keys, in the order `lhkt_config_parse_line` compares them. -/
inductive config_key where
  | kiss_host
  | bind
  | data_socket
  | conf_socket
  | kiss_port
  | rf_log
  | rf_log_path
  | rx_only
  | verbose
  | stats_interval
  | tx_settle_ms
  | tx_return_ms
  | tx_busy_timeout_ms
  | tx_queue_len
  | tx_packet_ttl_ms
  | rx_freq
  | tx_freq
  | sf
  | bw
  | cr
  | crc
  | preamble
  | syncword
  | ldro
  | power
  deriving DecidableEq, Repr

/-- A key and its text. -/
def config_keys : List (Bytes × config_key) :=
  [(ascii "kiss_host", .kiss_host), (ascii "bind", .bind), (ascii "data_socket", .data_socket),
    (ascii "conf_socket", .conf_socket), (ascii "kiss_port", .kiss_port),
    (ascii "rf_log", .rf_log), (ascii "rf_log_path", .rf_log_path), (ascii "rx_only", .rx_only),
    (ascii "verbose", .verbose), (ascii "stats_interval", .stats_interval),
    (ascii "tx_settle_ms", .tx_settle_ms), (ascii "tx_return_ms", .tx_return_ms),
    (ascii "tx_busy_timeout_ms", .tx_busy_timeout_ms), (ascii "tx_queue_len", .tx_queue_len),
    (ascii "tx_packet_ttl_ms", .tx_packet_ttl_ms), (ascii "rx_freq", .rx_freq),
    (ascii "tx_freq", .tx_freq), (ascii "sf", .sf), (ascii "bw", .bw), (ascii "cr", .cr),
    (ascii "crc", .crc), (ascii "preamble", .preamble), (ascii "syncword", .syncword),
    (ascii "ldro", .ldro), (ascii "power", .power)]

/-- A value that is stored if it passes its check. -/
def store {α : Type} (cfg : lhkt_config_full_t) (parsed : Except Lhkt α)
    (write : α → lhkt_config_full_t) : lhkt_config_full_t × Lhkt :=
  match parsed with
  | .ok a => (write a, .OK)
  | .error ret => (cfg, ret)

/-- A text that is stored as far as it fits: `copy_string`, and `copy_arg` of cli.c,
which is the same code. -/
def store_text (dst_size : Nat) (value : Bytes) (write : Bytes → lhkt_config_full_t) :
    lhkt_config_full_t × Lhkt :=
  (write (copy_string dst_size value).1, (copy_string dst_size value).2)

/-- `lhkt_bind_apply` on the whole configuration. -/
def bind_apply (libc : libc_t) (cfg : lhkt_config_full_t) (arg : Bytes) :
    lhkt_config_full_t × Lhkt :=
  let r := lhkt_bind_apply libc.inet_pton cfg.tolhkt_config_t arg
  ({ cfg with tolhkt_config_t := r.1 }, r.2)

/-- What `lhkt_config_parse_line` does for a key. -/
def lhkt_config_set (libc : libc_t) (cfg : lhkt_config_full_t) (value : Bytes) :
    config_key → lhkt_config_full_t × Lhkt
  | .kiss_host => store_text LHKT_HOST_MAX value fun t => { cfg with kiss_host := t }
  | .bind => bind_apply libc cfg value
  | .data_socket => store_text LHKT_PATH_MAX value fun t => { cfg with data_socket := t }
  | .conf_socket => store_text LHKT_PATH_MAX value fun t => { cfg with conf_socket := t }
  | .kiss_port =>
      store cfg (parse_long_value value 1 65535) fun v => { cfg with kiss_port := v }
  | .rf_log => store cfg (parse_bool_value value) fun b => { cfg with rf_log := b }
  | .rf_log_path => store_text LHKT_PATH_MAX value fun t => { cfg with rf_log_path := t }
  | .rx_only => store cfg (parse_bool_value value) fun b => { cfg with rx_only := b }
  | .verbose => store cfg (parse_bool_value value) fun b => { cfg with verbose := b }
  | .stats_interval =>
      store cfg (parse_long_value value 0 86400) fun v => { cfg with stats_interval := v }
  | .tx_settle_ms =>
      store cfg (parse_long_value value 0 60000) fun v => { cfg with tx_settle_ms := v }
  | .tx_return_ms =>
      store cfg (parse_long_value value 0 60000) fun v => { cfg with tx_return_ms := v }
  | .tx_busy_timeout_ms =>
      store cfg (parse_long_value value 0 600000) fun v => { cfg with tx_busy_timeout_ms := v }
  | .tx_queue_len =>
      store cfg (parse_long_value value 1 16) fun v => { cfg with tx_queue_len := v }
  | .tx_packet_ttl_ms =>
      store cfg (parse_long_value value 1000 3600000) fun v => { cfg with tx_packet_ttl_ms := v }
  | .rx_freq =>
      store cfg (parse_optional_freq libc value) fun f =>
        { cfg with rx_freq := f.1, have_rx_freq := f.2 }
  | .tx_freq =>
      store cfg (parse_optional_freq libc value) fun f =>
        { cfg with tx_freq := f.1, have_tx_freq := f.2 }
  | .sf => store cfg (parse_long_value value 7 12) fun v => { cfg with sf := v }
  | .bw => store cfg (parse_double_value libc value 1 1000) fun v => { cfg with bw := v }
  | .cr => store cfg (parse_long_value value 5 8) fun v => { cfg with cr := v }
  | .crc =>
      store cfg (parse_bool_value value) fun b => { cfg with crc := if b then 1 else 0 }
  | .preamble =>
      store cfg (parse_long_value value 1 65535) fun v => { cfg with preamble := v }
  | .syncword =>
      store cfg (parse_long_value value 0 255) fun v => { cfg with syncword := v.toNat }
  -- the one key with a word besides the switches
  | .ldro =>
      if value = ascii "AUTO" ∨ value = ascii "auto" then ({ cfg with ldro_auto := true }, .OK)
      else store cfg (parse_bool_value value) fun b => { cfg with ldro := b, ldro_auto := false }
  | .power => store cfg (parse_long_value value 0 20) fun v => { cfg with power := v }

/-! ## Lines -/

/-- The text part of `lhkt_config_parse_line`: key and value, or nothing for an
empty line. A comment starts at the first `#`. -/
def config_entry (line : Bytes) : Except Lhkt (Option (Bytes × Bytes)) :=
  let line := match cut (ch '#') line with
    | some (text, _) => text
    | none => line
  let key := trim line
  if key = [] then .ok none
  else match cut (ch '=') key with
    -- a line without an equals sign is no setting
    | none => .error .ERR_FORMAT
    | some (key, value) =>
        if trim key = [] then .error .ERR_FORMAT else .ok (some (trim key, trim value))

/-- `lhkt_config_parse_line`. -/
def lhkt_config_parse_line (libc : libc_t) (cfg : lhkt_config_full_t) (line : Bytes) :
    lhkt_config_full_t × Lhkt :=
  match config_entry (cstr line) with
  | .error ret => (cfg, ret)
  | .ok none => (cfg, .OK)
  | .ok (some (key, value)) =>
      match config_keys.lookup key with
      | some k => lhkt_config_set libc cfg value k
      | none => (cfg, .ERR_FORMAT)

/-- What successive calls of `fgets` read from a file, each with whether it met
the end of the file. `line` is what the present call has read so far: it stops at
a newline or when the buffer is full. -/
def fgets_lines (line : Bytes) : Bytes → List (Bytes × Bool)
  | [] => if line = [] then [] else [(line, true)]
  | c :: file =>
      if c = ch '\n' ∨ (line ++ [c]).length = LHKT_TNC2_MAX_LINE - 1 then
        (line ++ [c], false) :: fgets_lines [] file
      else fgets_lines (line ++ [c]) file

/-- The loop of `lhkt_config_load_file`. -/
def config_load_lines (libc : libc_t) :
    List (Bytes × Bool) → lhkt_config_full_t → lhkt_config_full_t × Lhkt
  | [], cfg => (cfg, .OK)
  | (line, eof) :: lines, cfg =>
      if ch '\n' ∉ cstr line ∧ !eof then (cfg, .ERR_LONG)
      else match lhkt_config_parse_line libc cfg line with
        | (cfg, .OK) => config_load_lines libc lines cfg
        | (cfg, ret) => (cfg, ret)

/-- `lhkt_config_load_file`. -/
def lhkt_config_load_file (libc : libc_t) (cfg : lhkt_config_full_t) (path : Bytes) :
    lhkt_config_full_t × Lhkt :=
  if path = [] then (cfg, .ERR)
  else match libc.fopen path with
    | none => (cfg, .ERR)
    | some file => config_load_lines libc (fgets_lines [] file) cfg

/-! ## What a setting keeps -/

/-- A property that the old configuration has and every accepted value keeps. -/
theorem store_keeps {α : Type} {P : lhkt_config_full_t → Prop} {cfg : lhkt_config_full_t}
    {parsed : Except Lhkt α} {write : α → lhkt_config_full_t} (hcfg : P cfg)
    (hwrite : ∀ a, parsed = .ok a → P (write a)) : P (store cfg parsed write).1 := by
  cases hp : parsed with
  | ok a => exact hwrite a hp
  | error ret => exact hcfg

theorem parse_long_value_range {text : Bytes} {min max v : Int}
    (h : parse_long_value text min max = .ok v) : min ≤ v ∧ v ≤ max := by
  unfold parse_long_value at h
  split at h
  · exact nomatch h
  dsimp only at h
  split at h
  · exact nomatch h
  split at h
  · exact nomatch h
  split at h
  · exact nomatch h
  rename_i hrange
  obtain rfl := Except.ok.inj h
  omega

theorem parse_double_value_range {libc : libc_t} {text : Bytes} {min max v : ℚ}
    (h : parse_double_value libc text min max = .ok v) : min ≤ v := by
  unfold parse_double_value at h
  split at h
  · exact nomatch h
  dsimp only at h
  split at h
  · exact nomatch h
  split at h
  · exact nomatch h
  split at h
  · exact nomatch h
  split at h
  · exact nomatch h
  rename_i hrange
  obtain rfl := Except.ok.inj h
  exact not_lt.mp fun hlt => hrange (.inl hlt)

theorem parse_optional_freq_range {libc : libc_t} {value : Bytes} {f : ℚ × Bool}
    (h : parse_optional_freq libc value = .ok f) : f.2 = true → 1 / 1000 ≤ f.1 := by
  unfold parse_optional_freq at h
  split at h
  · obtain rfl := Except.ok.inj h
    intro hfalse
    exact nomatch hfalse
  · split at h
    · rename_i parsed hparsed
      obtain rfl := Except.ok.inj h
      intro _
      exact parse_double_value_range hparsed
    · exact nomatch h

/-! ## The ranges the bridge relies on -/

/-- The fields `Configured` is about. -/
def ranged (cfg : lhkt_config_t) : (Bool × ℚ) × (Bool × ℚ) × Int × Int × Int × Int × Int :=
  ((cfg.have_rx_freq, cfg.rx_freq), (cfg.have_tx_freq, cfg.tx_freq), cfg.tx_settle_ms,
    cfg.tx_return_ms, cfg.tx_busy_timeout_ms, cfg.tx_queue_len, cfg.tx_packet_ttl_ms)

/-- A write to any other field does not matter. -/
theorem configured_of_ranged {cfg cfg' : lhkt_config_t} (h : Configured cfg)
    (heq : ranged cfg' = ranged cfg) : Configured cfg' := by
  simp only [ranged, Prod.mk.injEq] at heq
  obtain ⟨⟨h1, h2⟩, ⟨h3, h4⟩, h5, h6, h7, h8, h9⟩ := heq
  exact ⟨by rw [h1, h2]; exact h.rx_freq, by rw [h3, h4]; exact h.tx_freq,
    h5 ▸ h.tx_settle_ms, h6 ▸ h.tx_return_ms, h7 ▸ h.tx_busy_timeout_ms, h8 ▸ h.tx_queue_len,
    h9 ▸ h.tx_packet_ttl_ms⟩

/-- `lhkt_bind_apply` writes none of these fields. -/
theorem lhkt_bind_apply_ranged (inet_pton : Bytes → Option UInt32) (cfg : lhkt_config_t)
    (arg : Bytes) : ranged (lhkt_bind_apply inet_pton cfg arg).1 = ranged cfg := by
  unfold lhkt_bind_apply
  split
  · rfl
  · rfl

section Store

variable {α : Type} {cfg : lhkt_config_full_t} (h : Configured cfg.tolhkt_config_t)
  (parsed : Except Lhkt α) (write : α → lhkt_config_full_t)

include h

/-- A write that is checked against its own range. -/
theorem store_configured (hw : ∀ a, parsed = .ok a → Configured (write a).tolhkt_config_t) :
    Configured (store cfg parsed write).1.tolhkt_config_t :=
  store_keeps (P := fun c => Configured c.tolhkt_config_t) h hw

/-- A write that leaves the ranged fields alone. -/
theorem store_configured_of_ranged
    (hw : ∀ a, ranged (write a).tolhkt_config_t = ranged cfg.tolhkt_config_t) :
    Configured (store cfg parsed write).1.tolhkt_config_t :=
  store_configured h parsed write fun a _ => configured_of_ranged h (hw a)

end Store

/-- **Every key keeps the ranges**, whether its value is accepted or not: a key with
a range of its own checks it, and every other key writes another field. -/
theorem lhkt_config_set_configured (libc : libc_t) {cfg : lhkt_config_full_t} (value : Bytes)
    (key : config_key) (h : Configured cfg.tolhkt_config_t) :
    Configured (lhkt_config_set libc cfg value key).1.tolhkt_config_t := by
  cases key with
  -- these write no field with a range
  | kiss_host => exact configured_of_ranged h rfl
  | bind => exact configured_of_ranged h (lhkt_bind_apply_ranged _ _ _)
  | data_socket => exact configured_of_ranged h rfl
  | conf_socket => exact configured_of_ranged h rfl
  | rf_log_path => exact configured_of_ranged h rfl
  | kiss_port => exact store_configured_of_ranged h _ _ fun _ => rfl
  | rf_log => exact store_configured_of_ranged h _ _ fun _ => rfl
  | rx_only => exact store_configured_of_ranged h _ _ fun _ => rfl
  | verbose => exact store_configured_of_ranged h _ _ fun _ => rfl
  | stats_interval => exact store_configured_of_ranged h _ _ fun _ => rfl
  | sf => exact store_configured_of_ranged h _ _ fun _ => rfl
  | bw => exact store_configured_of_ranged h _ _ fun _ => rfl
  | cr => exact store_configured_of_ranged h _ _ fun _ => rfl
  | crc => exact store_configured_of_ranged h _ _ fun _ => rfl
  | preamble => exact store_configured_of_ranged h _ _ fun _ => rfl
  | syncword => exact store_configured_of_ranged h _ _ fun _ => rfl
  | power => exact store_configured_of_ranged h _ _ fun _ => rfl
  -- "auto" is a value of its own
  | ldro =>
      rw [lhkt_config_set]
      split
      · exact configured_of_ranged h rfl
      · exact store_configured_of_ranged h _ _ fun _ => rfl
  -- these write one, and the parser has checked it
  | tx_settle_ms =>
      exact store_configured h _ _ fun v hv => { h with tx_settle_ms := parse_long_value_range hv }
  | tx_return_ms =>
      exact store_configured h _ _ fun v hv => { h with tx_return_ms := parse_long_value_range hv }
  | tx_busy_timeout_ms =>
      exact store_configured h _ _ fun v hv => { h with tx_busy_timeout_ms := parse_long_value_range hv }
  | tx_queue_len =>
      exact store_configured h _ _ fun v hv => { h with tx_queue_len := parse_long_value_range hv }
  | tx_packet_ttl_ms =>
      exact store_configured h _ _ fun v hv => { h with tx_packet_ttl_ms := parse_long_value_range hv }
  | rx_freq => exact store_configured h _ _ fun f hf => { h with rx_freq := parse_optional_freq_range hf }
  | tx_freq => exact store_configured h _ _ fun f hf => { h with tx_freq := parse_optional_freq_range hf }

/-- One line keeps the ranges. -/
theorem lhkt_config_parse_line_configured (libc : libc_t) {cfg : lhkt_config_full_t} (line : Bytes)
    (h : Configured cfg.tolhkt_config_t) :
    Configured (lhkt_config_parse_line libc cfg line).1.tolhkt_config_t := by
  unfold lhkt_config_parse_line
  split
  · exact h
  · exact h
  · split
    · exact lhkt_config_set_configured libc _ _ h
    · exact h

/-- A whole file keeps the ranges, also one that is given up in the middle. -/
theorem config_load_lines_configured (libc : libc_t) (lines : List (Bytes × Bool)) :
    ∀ {cfg : lhkt_config_full_t}, Configured cfg.tolhkt_config_t →
      Configured (config_load_lines libc lines cfg).1.tolhkt_config_t := by
  induction lines with
  | nil =>
      intro cfg h
      exact h
  | cons line lines ih =>
      intro cfg h
      obtain ⟨line, eof⟩ := line
      rw [config_load_lines]
      split
      · exact h
      · have hline := lhkt_config_parse_line_configured libc line h
        split
        · rename_i cfg' heq
          rw [heq] at hline
          exact ih hline
        · rename_i cfg' ret _ heq
          rw [heq] at hline
          exact hline

theorem lhkt_config_load_file_configured (libc : libc_t) {cfg : lhkt_config_full_t} (path : Bytes)
    (h : Configured cfg.tolhkt_config_t) :
    Configured (lhkt_config_load_file libc cfg path).1.tolhkt_config_t := by
  unfold lhkt_config_load_file
  split
  · exact h
  · split
    · exact h
    · exact config_load_lines_configured libc _ h

end LorahamKissTnc.ConfigFile
