/-
What the whole front end makes of a config file and a command line.

`lhkt_config_load_file` reads with `fgets` into a fixed buffer. `fgets` knows
nothing of lines that do not fit, so the loader looks for the newline in what it
got. The first half of the module shows what comes out of that: a file is accepted
exactly when it is a text (`TextLines`), and then it is read as its lines
(`config_load_lines_iff`).

The second half puts lines and options together. Both stand for settings, an
option for the setting of the key it is named after, although `cli.c` has parsers
of its own, which accept less (`parse_cli_opt_setting`). The main result says when
`lhkt_cli_apply` succeeds, and with which configuration: every field has the value
of the last setting that writes it, with the options behind the file. So an option
may be moved into the file (`options_into_file`).
-/
import LorahamKissTnc.Settings

set_option autoImplicit false

open LorahamKissTnc.Lib.CString LorahamKissTnc.Lib.Overrides
open LorahamKissTnc.Config LorahamKissTnc.ConfigFile LorahamKissTnc.Cli LorahamKissTnc.Settings

namespace LorahamKissTnc.FrontEnd

variable {libc : libc_t} {cfg cfg' : lhkt_config_full_t}

/-! ## A line and its newline -/

/-- White space at the end is trimmed. -/
theorem trim_concat (s : Bytes) {c : UInt8} (hc : isspace c = true) : trim (s ++ [c]) = trim s := by
  unfold trim
  rw [List.dropWhile_append]
  split
  · rename_i hempty
    rw [List.isEmpty_iff.mp hempty, List.dropWhile_cons_of_pos hc]
    rfl
  · rw [List.rdropWhile_concat_pos _ _ _ hc]

/-- The newline of a line is no part of its entry, with a comment or without. -/
theorem config_entry_newline (line : Bytes) :
    config_entry (line ++ [ch '\n']) = config_entry line := by
  unfold config_entry
  cases hcut : cut (ch '#') line with
  | some p =>
      obtain ⟨text, comment⟩ := p
      obtain ⟨hline, htext⟩ := cut_eq_some_iff.mp hcut
      have hcut' : cut (ch '#') (line ++ [ch '\n']) = some (text, comment ++ [ch '\n']) := by
        rw [hline, List.append_assoc, List.cons_append]
        exact cut_append _ htext
      rw [hcut']
  | none =>
      have hnone : ch '#' ∉ line := cut_eq_none_iff.mp hcut
      have hcut' : cut (ch '#') (line ++ [ch '\n']) = none := by
        rw [cut_eq_none_iff, List.mem_append, not_or]
        exact ⟨hnone, by decide⟩
      rw [hcut']
      dsimp only
      rw [trim_concat line (by decide)]

/-- The newline at the end of a line is blank space. -/
theorem accepted_line_newline {line : Bytes} (h : 0 ∉ line) :
    accepted_line libc cfg (line ++ [ch '\n']) = accepted_line libc cfg line := by
  have h0 : 0 ∉ line ++ [ch '\n'] := by
    rw [List.mem_append, not_or]
    exact ⟨h, by decide⟩
  unfold accepted_line lhkt_config_parse_line
  rw [cstr_eq_self h0, cstr_eq_self h, config_entry_newline]

/-! ## The loader reads lines -/

/-- The lines of a text file the loader can read: each fits the buffer with its
newline, and no NUL hides a newline behind it. -/
def TextLines (lines : List Bytes) : Prop :=
  (∀ line ∈ lines, line.length < LHKT_TNC2_MAX_LINE - 1) ∧ ∀ line ∈ lines.dropLast, 0 ∉ line

/-- The last line has no newline, and has room for one. -/
theorem textLines_singleton {line : Bytes} :
    TextLines [line] ↔ line.length < LHKT_TNC2_MAX_LINE - 1 := by
  simp [TextLines]

/-- A line in front of others ends in a newline, and holds no NUL. -/
theorem textLines_cons {line : Bytes} {lines : List Bytes} (hne : lines ≠ []) :
    TextLines (line :: lines) ↔
      line.length < LHKT_TNC2_MAX_LINE - 1 ∧ 0 ∉ line ∧ TextLines lines := by
  unfold TextLines
  rw [List.dropLast_cons_of_ne_nil hne, List.forall_mem_cons, List.forall_mem_cons]
  tauto

/-- **A file is accepted line by line**, each one with the configuration of those in
front. -/
theorem config_load_lines_cons {line : Bytes} {eof : Bool} {lines : List (Bytes × Bool)} :
    config_load_lines libc ((line, eof) :: lines) cfg = (cfg', .OK) ↔
      (ch '\n' ∈ cstr line ∨ eof = true) ∧ ∃ c, accepted_line libc cfg line = some c ∧
        config_load_lines libc lines c = (cfg', .OK) := by
  rw [config_load_lines, accepted_line]
  by_cases hlong : ch '\n' ∉ cstr line ∧ (!eof) = true
  · rw [if_pos hlong]
    simp at hlong
    simp [hlong]
  · rw [if_neg hlong]
    have hwhole : ch '\n' ∈ cstr line ∨ eof = true := by
      by_contra hno
      obtain ⟨hnewline, heof⟩ := not_or.mp hno
      exact hlong ⟨hnewline, by simpa using heof⟩
    generalize lhkt_config_parse_line libc cfg line = r
    obtain ⟨c, ret⟩ := r
    cases ret <;> simp [hwhole]

/-- An empty line sets nothing. -/
theorem accepted_line_nil : accepted_line libc cfg [] = some cfg := rfl

/-- A newline behind a NUL is not seen. -/
theorem newline_notMem_cstr {line : Bytes} (hnewline : ch '\n' ∉ line) (h0 : 0 ∈ line) :
    ch '\n' ∉ cstr (line ++ [ch '\n']) := by
  have hshort : (line.takeWhile (· ≠ 0)).length ≠ line.length := by
    intro hlen
    have hself : cstr line = line := (List.takeWhile_prefix _).eq_of_length hlen
    exact zero_notMem_cstr line (hself.symm ▸ h0)
  rw [cstr, List.takeWhile_append, if_neg hshort]
  exact fun hmem => hnewline ((List.takeWhile_prefix _).subset hmem)

/-- What has no newline belongs to the first line. -/
theorem splitOn_head {line : Bytes} (hnewline : ch '\n' ∉ line) (file : Bytes) :
    ∃ rest lines, (line ++ file).splitOn (ch '\n') = (line ++ rest) :: lines := by
  cases hcut : cut (ch '\n') file with
  | none =>
      have hboth : ch '\n' ∉ line ++ file := by
        rw [List.mem_append, not_or]
        exact ⟨hnewline, cut_eq_none_iff.mp hcut⟩
      exact ⟨file, [], List.splitOn_eq_singleton hboth⟩
  | some p =>
      obtain ⟨rest, file'⟩ := p
      obtain ⟨hfile, hrest⟩ := cut_eq_some_iff.mp hcut
      have hboth : ch '\n' ∉ line ++ rest := by
        rw [List.mem_append, not_or]
        exact ⟨hnewline, hrest⟩
      refine ⟨rest, file'.splitOn (ch '\n'), ?_⟩
      rw [hfile, ← List.append_assoc, List.splitOn_append_cons_self_of_not_mem hboth]

/-- **`fgets` and the check behind it read lines.** What the present call of `fgets`
has read so far is the head of the first line. -/
theorem config_load_lines_iff (file : Bytes) :
    ∀ {line : Bytes} {cfg : lhkt_config_full_t}, ch '\n' ∉ line →
      line.length < LHKT_TNC2_MAX_LINE - 1 →
      (config_load_lines libc (fgets_lines line file) cfg = (cfg', .OK) ↔
        TextLines ((line ++ file).splitOn (ch '\n')) ∧
          ((line ++ file).splitOn (ch '\n')).foldlM (accepted_line libc) cfg = some cfg') := by
  induction file with
  | nil =>
      intro line cfg hnewline hlen
      rw [List.append_nil, List.splitOn_eq_singleton hnewline, textLines_singleton, fgets_lines,
        List.foldlM_cons]
      by_cases hline : line = []
      · rw [if_pos hline, hline, accepted_line_nil]
        simp [config_load_lines]
      · -- the last line may end without a newline
        rw [if_neg hline, config_load_lines_cons]
        cases accepted_line libc cfg line with
        | none => simp
        | some c => simpa [config_load_lines] using fun _ => hlen
  | cons c file ih =>
      intro line cfg hnewline hlen
      rw [fgets_lines]
      by_cases hc : c = ch '\n'
      · subst hc
        have hrest : ∀ c, config_load_lines libc (fgets_lines [] file) c = (cfg', .OK) ↔
            TextLines (file.splitOn (ch '\n')) ∧
              (file.splitOn (ch '\n')).foldlM (accepted_line libc) c = some cfg' := by
          intro c
          have h := @ih [] c List.not_mem_nil (by decide)
          rwa [List.nil_append] at h
        rw [if_pos (.inl rfl), List.splitOn_append_cons_self_of_not_mem hnewline,
          textLines_cons (List.splitOn_ne_nil _ _), config_load_lines_cons, List.foldlM_cons]
        by_cases h0 : 0 ∈ line
        · simp [newline_notMem_cstr hnewline h0, h0]
        · have hwhole : ch '\n' ∈ cstr (line ++ [ch '\n']) := by
            rw [cstr_eq_self (by simpa [h0] using (by decide : (0 : UInt8) ≠ ch '\n'))]
            simp
          rw [accepted_line_newline h0]
          cases accepted_line libc cfg line with
          | none => simp
          | some c =>
              have hfits : line.length < LHKT_TNC2_MAX_LINE - 1 := hlen
              simp only [hwhole, hfits, h0, hrest, Option.some.injEq, true_or, true_and,
                exists_eq_left', not_false_eq_true, Option.bind_eq_bind, Option.bind_some]
      · have hnewline' : ch '\n' ∉ line ++ [c] := by
          rw [List.mem_append, not_or]
          exact ⟨hnewline, by simpa using Ne.symm hc⟩
        by_cases hfull : (line ++ [c]).length = LHKT_TNC2_MAX_LINE - 1
        · -- the buffer is full before the newline: no line of a text is that long
          rw [if_pos (.inr hfull), config_load_lines_cons]
          have hunseen : ch '\n' ∉ cstr (line ++ [c]) := fun hmem =>
            hnewline' ((List.takeWhile_prefix _).subset hmem)
          obtain ⟨rest, lines, hlines⟩ := splitOn_head hnewline' file
          rw [List.append_assoc, List.singleton_append] at hlines
          constructor
          · rintro ⟨hwhole, -⟩
            exact absurd hwhole (by simp [hunseen])
          · rintro ⟨⟨hfits, -⟩, -⟩
            have hfirst := hfits (line ++ [c] ++ rest) (by rw [hlines]; exact List.mem_cons_self)
            rw [List.length_append] at hfirst
            omega
        · rw [if_neg (not_or.mpr ⟨hc, hfull⟩)]
          have hlen' : (line ++ [c]).length < LHKT_TNC2_MAX_LINE - 1 := by
            rw [List.length_append, List.length_singleton] at hfull ⊢
            omega
          have h := @ih (line ++ [c]) cfg hnewline' hlen'
          rwa [List.append_assoc, List.singleton_append] at h

/-! ## A line is a setting -/

/-- The setting a line stands for; none for an empty one. -/
def line_setting (line : Bytes) : Option setting :=
  match config_entry (cstr line) with
  | .ok (some (key, value)) => (config_keys.lookup key).map (·, value)
  | _ => none

/-- A line that is empty or gives a key of the file a value. -/
def line_ok (line : Bytes) : Bool :=
  match config_entry (cstr line) with
  | .ok (some (key, _)) => (config_keys.lookup key).isSome
  | .ok none => true
  | .error _ => false

/-- A line that is in order is its setting, if it has one. -/
theorem accepted_line_eq (libc : libc_t) (cfg : lhkt_config_full_t) (line : Bytes) :
    accepted_line libc cfg line
      = if line_ok line = true then (line_setting line).elim (some cfg) (accepted_setting libc cfg)
        else none := by
  unfold accepted_line lhkt_config_parse_line line_ok line_setting
  cases hentry : config_entry (cstr line) with
  | error ret =>
      have hret : ret ≠ .OK := by
        rintro rfl
        unfold config_entry at hentry
        grind
      simp [hret]
  | ok entry =>
      cases entry with
      | none => rfl
      | some entry =>
          obtain ⟨key, value⟩ := entry
          obtain hk | ⟨k, hk⟩ := Option.eq_none_or_eq_some (config_keys.lookup key)
          · simp [hk]
          · simp [hk, accepted_setting]

/-! ## An option is a setting -/

/-- The setting behind an option: the key it is named after. -/
def opt_setting : cli_opt → Option setting
  | .config _ => none
  | .verbose => some (.verbose, ascii "on")
  | .help => none
  | .version => none
  | .kiss_host optarg => some (.kiss_host, optarg)
  | .bind optarg => some (.bind, optarg)
  | .kiss_port optarg => some (.kiss_port, optarg)
  | .data_socket optarg => some (.data_socket, optarg)
  | .conf_socket optarg => some (.conf_socket, optarg)
  | .rx_freq optarg => some (.rx_freq, optarg)
  | .tx_freq optarg => some (.tx_freq, optarg)
  | .rx_only => some (.rx_only, ascii "on")
  | .rf_log optarg => some (.rf_log, optarg)
  | .rf_log_path optarg => some (.rf_log_path, optarg)
  | .tx_settle_ms optarg => some (.tx_settle_ms, optarg)
  | .tx_return_ms optarg => some (.tx_return_ms, optarg)
  | .tx_busy_timeout_ms optarg => some (.tx_busy_timeout_ms, optarg)
  | .tx_queue_len optarg => some (.tx_queue_len, optarg)
  | .tx_packet_ttl_ms optarg => some (.tx_packet_ttl_ms, optarg)
  | .unknown => none

section Parsers

/-! The parsers of `cli.c` accept no more than those of `config.c`. -/

variable {text : Bytes} {min max : Int} {lo hi : ℚ}

/-- What the parser of the options takes as a number, that of the file takes as well. -/
theorem parse_long_value_of_arg {v : Int} (h : parse_int_arg text min max = .ok v) :
    parse_long_value text min max = .ok v := by
  have htrim : trim [] = [] := rfl
  grind [parse_int_arg, parse_long_value]

/-- What the parser of the options takes as a frequency, that of the file takes as well.
-/
theorem parse_optional_freq_of_arg {v : ℚ}
    (h : parse_double_arg libc text (1 / 1000) 10000 = .ok v) :
    parse_optional_freq libc text = .ok (v, true) := by
  have htrim : trim [] = [] := rfl
  grind [parse_double_arg, parse_optional_freq, parse_double_value]

/-- What the option takes as a switch of the RF log, the file takes as well. -/
theorem parse_bool_value_of_rf_log {b : Bool} (h : parse_rf_log text = .ok b) :
    parse_bool_value text = .ok b := by
  have hon : parse_bool_value (ascii "on") = .ok true := by decide +kernel
  have hoff : parse_bool_value (ascii "off") = .ok false := by decide +kernel
  grind [parse_rf_log]

/-- What the option takes as the path of the RF log, the file takes as well. -/
theorem copy_string_of_rf_log_path {t : Bytes} (h : parse_rf_log_path text = .ok t) :
    copy_string LHKT_PATH_MAX text = (t, .OK) := by
  grind [parse_rf_log_path, copy_string]

/-- A number that is refused in an option is a format error. -/
theorem parse_int_arg_error {ret : Lhkt} (h : parse_int_arg text min max = .error ret) :
    ret = .ERR_FORMAT := by
  grind [parse_int_arg]

theorem parse_double_arg_error {ret : Lhkt} (h : parse_double_arg libc text lo hi = .error ret) :
    ret = .ERR_FORMAT := by
  grind [parse_double_arg]

theorem parse_rf_log_error {ret : Lhkt} (h : parse_rf_log text = .error ret) :
    ret = .ERR_FORMAT := by
  grind [parse_rf_log]

theorem parse_rf_log_path_error {ret : Lhkt} (h : parse_rf_log_path text = .error ret) :
    ret = .ERR_FORMAT := by
  grind [parse_rf_log_path]

end Parsers

/-- A value that was stored has passed its check. -/
theorem store_ok {α : Type} {parsed : Except Lhkt α} {write : α → lhkt_config_full_t}
    (herror : ∀ ret, parsed = .error ret → ret = .ERR_FORMAT)
    (h : store cfg parsed write = (cfg', .OK)) : ∃ a, parsed = .ok a ∧ write a = cfg' := by
  cases parsed with
  | ok a => exact ⟨a, rfl, (Prod.mk.inj h).1⟩
  | error ret =>
      have hret : ret = .OK := (Prod.mk.inj h).2
      rw [herror ret rfl] at hret
      cases hret

/-- A number of an option goes where that of the key goes. -/
theorem store_int_arg {text : Bytes} {min max : Int} {write : Int → lhkt_config_full_t}
    (h : store cfg (parse_int_arg text min max) write = (cfg', .OK)) :
    store cfg (parse_long_value text min max) write = (cfg', .OK) := by
  obtain ⟨v, hv, rfl⟩ := store_ok (fun _ => parse_int_arg_error) h
  rw [parse_long_value_of_arg hv]
  rfl

/-- **An option does what its key does.** -/
theorem parse_cli_opt_setting {opt : cli_opt} (h : parse_cli_opt libc cfg opt = (cfg', .OK)) :
    (opt_setting opt).elim (some cfg) (accepted_setting libc cfg) = some cfg' := by
  have hset : ∀ {key : config_key} {value : Bytes},
      lhkt_config_set libc cfg value key = (cfg', .OK) →
        accepted_setting libc cfg (key, value) = some cfg' := by
    intro key value hset
    rw [accepted_setting, hset]
    rfl
  have hon : parse_bool_value (ascii "on") = .ok true := by decide +kernel
  cases opt with
  | config _ | help | version => exact congrArg some (Prod.mk.inj h).1
  | unknown => exact absurd (Prod.mk.inj h).2 (by decide)
  | kiss_host optarg | bind optarg | data_socket optarg | conf_socket optarg => exact hset h
  | kiss_port optarg | tx_settle_ms optarg | tx_return_ms optarg | tx_busy_timeout_ms optarg
  | tx_queue_len optarg | tx_packet_ttl_ms optarg => exact hset (store_int_arg h)
  | rx_freq optarg | tx_freq optarg =>
      obtain ⟨v, hv, rfl⟩ := store_ok (fun _ => parse_double_arg_error) h
      apply hset
      rw [lhkt_config_set, parse_optional_freq_of_arg hv]
      rfl
  | rf_log optarg =>
      obtain ⟨b, hb, rfl⟩ := store_ok (fun _ => parse_rf_log_error) h
      apply hset
      rw [lhkt_config_set, parse_bool_value_of_rf_log hb]
      rfl
  | rf_log_path optarg =>
      obtain ⟨t, ht, rfl⟩ := store_ok (fun _ => parse_rf_log_path_error) h
      apply hset
      rw [lhkt_config_set, store_text, copy_string_of_rf_log_path ht]
  -- an option without a value says yes
  | verbose =>
      have hverbose : lhkt_config_set libc cfg (ascii "on") .verbose = (cfg', .OK) := by
        rw [lhkt_config_set, hon]
        exact h
      simpa only [opt_setting, Option.elim_some] using hset hverbose
  | rx_only =>
      have hrx_only : lhkt_config_set libc cfg (ascii "on") .rx_only = (cfg', .OK) := by
        rw [lhkt_config_set, hon]
        exact h
      simpa only [opt_setting, Option.elim_some] using hset hrx_only

/-- An option that is accepted, whatever the configuration. -/
def opt_ok (libc : libc_t) (opt : cli_opt) : Bool :=
  (accepted_opt libc (lhkt_config_full_defaults false false) opt).isSome

/-- Whether an option is accepted does not depend on the configuration. -/
theorem parse_cli_opt_code (libc : libc_t) (cfg cfg₀ : lhkt_config_full_t) (opt : cli_opt) :
    (parse_cli_opt libc cfg opt).2 = (parse_cli_opt libc cfg₀ opt).2 := by
  have hstore : ∀ {α : Type} (parsed : Except Lhkt α) (write write₀ : α → lhkt_config_full_t),
      (store cfg parsed write).2 = (store cfg₀ parsed write₀).2 := by
    intro α parsed write write₀
    cases parsed <;> rfl
  cases opt with
  | bind optarg => exact (bind_apply_sets libc optarg).1
  | kiss_port _ | tx_settle_ms _ | tx_return_ms _ | tx_busy_timeout_ms _ | tx_queue_len _
  | tx_packet_ttl_ms _ | rx_freq _ | tx_freq _ | rf_log _ | rf_log_path _ => exact hstore _ _ _
  | _ => rfl

/-- An option that is in order is its setting, if it has one. -/
theorem accepted_opt_eq (libc : libc_t) (cfg : lhkt_config_full_t) (opt : cli_opt) :
    accepted_opt libc cfg opt
      = if opt_ok libc opt = true then (opt_setting opt).elim (some cfg) (accepted_setting libc cfg)
        else none := by
  unfold opt_ok accepted_opt parse_cli_step
  by_cases hexit : opt = .help ∨ opt = .version
  · rw [if_pos hexit, if_pos hexit]
    simp
  · rw [if_neg hexit, if_neg hexit]
    dsimp only
    rw [parse_cli_opt_code libc (lhkt_config_full_defaults false false) cfg opt]
    by_cases hok : (parse_cli_opt libc cfg opt).2 = .OK
    · have hparse : parse_cli_opt libc cfg opt = ((parse_cli_opt libc cfg opt).1, .OK) :=
        Prod.ext rfl hok
      rw [parse_cli_opt_setting hparse]
      simp [hok]
    · simp [hok]

/-! ## The whole front end -/

section Apply

variable (libc : libc_t) (getopt_long : List Bytes → List cli_opt × Bool) (argv : List Bytes)

/-- The lines of the config file the arguments name. -/
def text_lines : List Bytes :=
  (((find_config_arg argv).bind libc.fopen).getD []).splitOn (ch '\n')

/-- The settings of the file, then those of the options. -/
def settings : List setting :=
  (text_lines libc argv).filterMap line_setting ++ (getopt_long argv).1.filterMap opt_setting

/-- What the front end asks for before it looks at a value of the file. -/
structure Readable : Prop where
  opened : ∀ path, find_config_arg argv = some path →
    path ≠ [] ∧ (libc.fopen path).isSome = true
  text : TextLines (text_lines libc argv)
  lines : ∀ line ∈ text_lines libc argv, line_ok line = true
  options : ∀ opt ∈ (getopt_long argv).1, opt_ok libc opt = true
  operands : (getopt_long argv).2 = false

variable {libc getopt_long argv}

/-- The file is loaded when it can be opened, or when there is none. -/
theorem config_file_iff {path : Bytes} (hpath : find_config_arg argv = some path) :
    lhkt_config_load_file libc cfg path = (cfg', .OK) ↔
      (path ≠ [] ∧ (libc.fopen path).isSome = true) ∧ TextLines (text_lines libc argv) ∧
        (text_lines libc argv).foldlM (accepted_line libc) cfg = some cfg' := by
  unfold lhkt_config_load_file text_lines
  rw [hpath, Option.bind_some]
  by_cases hempty : path = []
  · rw [if_pos hempty]
    simp [hempty]
  · rw [if_neg hempty]
    cases libc.fopen path with
    | none => simp
    | some file =>
        have h := @config_load_lines_iff libc cfg' file [] cfg List.not_mem_nil (by decide)
        rw [List.nil_append] at h
        simpa [hempty] using h

/-- **The options are accepted one by one**, and there are no operands. -/
theorem parse_cli_args_iff (opts : List cli_opt) (operands : Bool) {cfg : lhkt_config_full_t} :
    parse_cli_args libc opts operands cfg = (cfg', .code .OK) ↔
      operands = false ∧ opts.foldlM (accepted_opt libc) cfg = some cfg' := by
  induction opts generalizing cfg with
  | nil => cases operands <;> simp [parse_cli_args]
  | cons opt opts ih =>
      rw [parse_cli_args, List.foldlM_cons, accepted_opt]
      generalize parse_cli_step libc cfg opt = r
      obtain ⟨c, ret⟩ := r
      cases ret with
      | exit => simp
      | code ret =>
          cases ret with
          | OK => simpa using ih
          | ERR | ERR_SHORT | ERR_LONG | ERR_FORMAT | ERR_UNSUPPORTED | ERR_NOSPACE
          | ERR_TX_SOCKET | ERR_CLIENT_SOCKET | ERR_CONF_SOCKET | ERR_TX_RESULT | ERR_AGAIN => simp

/-- The file first, and the options on what it left. -/
theorem lhkt_cli_apply_steps :
    lhkt_cli_apply libc getopt_long argv cfg = (cfg', .code .OK) ↔
      (∀ path, find_config_arg argv = some path →
        path ≠ [] ∧ (libc.fopen path).isSome = true) ∧ TextLines (text_lines libc argv) ∧
      ∃ c, (text_lines libc argv).foldlM (accepted_line libc) cfg = some c ∧
        parse_cli_args libc (getopt_long argv).1 (getopt_long argv).2 c = (cfg', .code .OK) := by
  unfold lhkt_cli_apply
  dsimp only
  cases hpath : find_config_arg argv with
  | none =>
      -- no file is an empty one
      have hlines : text_lines libc argv = [[]] := by
        rw [text_lines, hpath]
        rfl
      rw [hlines, textLines_singleton, List.foldlM_cons, accepted_line_nil]
      simp
  | some path =>
      have hload : ∀ c, lhkt_config_load_file libc cfg path = (c, .OK) ↔
          (path ≠ [] ∧ (libc.fopen path).isSome = true) ∧ TextLines (text_lines libc argv) ∧
            (text_lines libc argv).foldlM (accepted_line libc) cfg = some c :=
        fun _ => config_file_iff hpath
      simp only [Option.some.injEq, forall_eq']
      generalize lhkt_config_load_file libc cfg path = r at hload
      obtain ⟨c, ret⟩ := r
      by_cases hret : ret = .OK
      · subst hret
        have hc := (hload c).mp rfl
        have honly : ∀ c', (text_lines libc argv).foldlM (accepted_line libc) cfg = some c' ↔
            c' = c := fun c' => by
          rw [hc.2.2, Option.some.injEq, eq_comm]
        simp [hc.1, hc.2.1, honly]
      · have hbad : ¬ ∃ c', (path ≠ [] ∧ (libc.fopen path).isSome = true) ∧
            TextLines (text_lines libc argv) ∧
              (text_lines libc argv).foldlM (accepted_line libc) cfg = some c' := by
          rintro ⟨c', hc'⟩
          exact hret (Prod.mk.inj ((hload c').mpr hc')).2
        constructor
        · intro h
          split at h
          · rename_i heq
            exact absurd (Prod.mk.inj heq).2 hret
          · rename_i heq
            rw [(Prod.mk.inj heq).2] at hret
            exact absurd (cli_ret.code.inj (Prod.mk.inj h).2) hret
        · rintro ⟨hopened, htext, c', hlines, -⟩
          exact absurd ⟨c', hopened, htext, hlines⟩ hbad

/-- **The front end applies its settings.** -/
theorem lhkt_cli_apply_iff :
    lhkt_cli_apply libc getopt_long argv cfg = (cfg', .code .OK) ↔
      Readable libc getopt_long argv ∧
        (settings libc getopt_long argv).foldlM (accepted_setting libc) cfg = some cfg' := by
  have hlines := run_setting (accepted_line_eq libc) (text_lines libc argv) cfg
  have hopts := fun c => run_setting (accepted_opt_eq libc) (getopt_long argv).1 c cfg'
  rw [lhkt_cli_apply_steps, settings, List.foldlM_append]
  simp only [parse_cli_args_iff, hlines, hopts, Option.bind_eq_bind, Option.bind_eq_some_iff]
  constructor
  · rintro ⟨hopened, htext, c, ⟨hlines, hfile⟩, hoperands, hoptions, hcli⟩
    exact ⟨⟨hopened, htext, hlines, hoptions, hoperands⟩, c, hfile, hcli⟩
  · rintro ⟨hread, c, hfile, hcli⟩
    exact ⟨hread.opened, hread.text, c, ⟨hread.lines, hfile⟩, hread.operands, hread.options, hcli⟩

variable (libc getopt_long argv cfg cfg')

/-- **What the configuration is.** `lhkt_cli_apply` succeeds exactly when the file is
a text of well-formed lines, the options are accepted, and every value is; and then
each field has the value of the last setting that writes it, the options counting
behind the file, and the value it had before if there is none. -/
theorem configuration_iff :
    lhkt_cli_apply libc getopt_long argv cfg = (cfg', .code .OK) ↔
      Readable libc getopt_long argv ∧
      (∀ a ∈ settings libc getopt_long argv, (alone libc a).2 = .OK) ∧
      ∀ f : config_field, f.read cfg' =
        ((last_writer setting_writes f (settings libc getopt_long argv)).map fun a =>
          f.read (alone libc a).1).getD (f.read cfg) := by
  rw [lhkt_cli_apply_iff, run_eq_some_iff (settings_last_wins libc) (fun _ _ => read_ext)
    (settings libc getopt_long argv)]
  simp only [decide_eq_true_eq]

end Apply

/-! ## Moving an option into the file -/

/-- A text that has nothing to trim has no white space at either end. -/
theorem trim_eq_self {s : Bytes} (h : trim s = s) :
    s.dropWhile isspace = s ∧ s.rdropWhile isspace = s := by
  have hfront : s.dropWhile isspace = s := by
    apply (List.dropWhile_suffix _).eq_of_length_le
    calc s.length = (trim s).length := by rw [h]
      _ ≤ (s.dropWhile isspace).length := (List.rdropWhile_prefix _ _).length_le
  refine ⟨hfront, ?_⟩
  rwa [trim, hfront] at h

/-- The text of a key. -/
def key_text : config_key → Bytes
  | .kiss_host => ascii "kiss_host"
  | .bind => ascii "bind"
  | .data_socket => ascii "data_socket"
  | .conf_socket => ascii "conf_socket"
  | .kiss_port => ascii "kiss_port"
  | .rf_log => ascii "rf_log"
  | .rf_log_path => ascii "rf_log_path"
  | .rx_only => ascii "rx_only"
  | .verbose => ascii "verbose"
  | .stats_interval => ascii "stats_interval"
  | .tx_settle_ms => ascii "tx_settle_ms"
  | .tx_return_ms => ascii "tx_return_ms"
  | .tx_busy_timeout_ms => ascii "tx_busy_timeout_ms"
  | .tx_queue_len => ascii "tx_queue_len"
  | .tx_packet_ttl_ms => ascii "tx_packet_ttl_ms"
  | .rx_freq => ascii "rx_freq"
  | .tx_freq => ascii "tx_freq"
  | .sf => ascii "sf"
  | .bw => ascii "bw"
  | .cr => ascii "cr"
  | .crc => ascii "crc"
  | .preamble => ascii "preamble"
  | .syncword => ascii "syncword"
  | .ldro => ascii "ldro"
  | .power => ascii "power"

/-- The line of the file that stands for the same setting as an option. -/
def option_line (opt : cli_opt) : Option Bytes :=
  (opt_setting opt).map fun a => key_text a.1 ++ ch '=' :: a.2

/-- A value that a line of the file can hold: no comment and no NUL in it, nothing
that is trimmed off, and short enough. -/
structure InLine (a : setting) : Prop where
  no_comment : ch '#' ∉ a.2
  no_nul : 0 ∉ a.2
  trimmed : trim a.2 = a.2
  fits : (key_text a.1 ++ ch '=' :: a.2).length < LHKT_TNC2_MAX_LINE - 1

instance (a : setting) : Decidable (InLine a) :=
  decidable_of_iff (ch '#' ∉ a.2 ∧ 0 ∉ a.2 ∧ trim a.2 = a.2 ∧
    (key_text a.1 ++ ch '=' :: a.2).length < LHKT_TNC2_MAX_LINE - 1)
    ⟨fun ⟨h1, h2, h3, h4⟩ => ⟨h1, h2, h3, h4⟩,
      fun h => ⟨h.no_comment, h.no_nul, h.trimmed, h.fits⟩⟩

theorem key_text_mem (key : config_key) : (key_text key, key) ∈ config_keys := by
  cases key <;> simp [config_keys, key_text]

/-- The keys are words. -/
theorem key_text_word (key : config_key) :
    ch '#' ∉ key_text key ∧ ch '=' ∉ key_text key ∧ 0 ∉ key_text key ∧ key_text key ≠ [] ∧
      trim (key_text key) = key_text key := by
  have hall : ∀ p ∈ config_keys, ch '#' ∉ p.1 ∧ ch '=' ∉ p.1 ∧ 0 ∉ p.1 ∧ p.1 ≠ [] ∧
      trim p.1 = p.1 := by
    decide +kernel
  exact hall _ (key_text_mem key)

/-- A key is known by its text. -/
theorem lookup_key_text (key : config_key) : config_keys.lookup (key_text key) = some key := by
  have hall : ∀ p ∈ config_keys, config_keys.lookup p.1 = some p.2 := by
    decide +kernel
  exact hall _ (key_text_mem key)

/-- The line of a setting holds no NUL. -/
theorem zero_notMem_line {a : setting} (h : InLine a) : 0 ∉ key_text a.1 ++ ch '=' :: a.2 := by
  obtain ⟨-, -, hnul, -, -⟩ := key_text_word a.1
  rw [List.mem_append, List.mem_cons, not_or, not_or]
  exact ⟨hnul, by decide, h.no_nul⟩

/-- **The line of a setting is read as the setting.** -/
theorem config_entry_line {a : setting} (h : InLine a) :
    config_entry (cstr (key_text a.1 ++ ch '=' :: a.2)) = .ok (some (key_text a.1, a.2)) := by
  obtain ⟨key, value⟩ := a
  obtain ⟨hcomment, hequals, -, hne, htrim⟩ := key_text_word key
  have hcut : cut (ch '#') (key_text key ++ ch '=' :: value) = none := by
    rw [cut_eq_none_iff, List.mem_append, List.mem_cons, not_or, not_or]
    exact ⟨hcomment, by decide, h.no_comment⟩
  -- the key has no blank in front, and the value none behind
  have hline : trim (key_text key ++ ch '=' :: value) = key_text key ++ ch '=' :: value := by
    have hfront : (key_text key ++ ch '=' :: value).dropWhile isspace
        = key_text key ++ ch '=' :: value := by
      rw [List.dropWhile_append, (trim_eq_self htrim).1, if_neg (by simpa using hne)]
    rw [trim, hfront]
    obtain hempty | ⟨init, last, hvalue⟩ := List.eq_nil_or_concat value
    · rw [hempty]
      exact List.rdropWhile_concat_neg _ _ _ (by decide)
    · have hlast := List.rdropWhile_eq_self_iff.mp (trim_eq_self h.trimmed).2
      rw [List.concat_eq_append] at hvalue
      subst hvalue
      have hspace : ¬ isspace last = true := by simpa using hlast (by simp)
      rw [← List.cons_append, ← List.append_assoc]
      exact List.rdropWhile_concat_neg _ _ _ hspace
  have hnonempty : key_text key ++ ch '=' :: value ≠ [] := by simp
  rw [config_entry, cstr_eq_self (zero_notMem_line h), hcut]
  dsimp only
  rw [hline, if_neg hnonempty, cut_append _ hequals]
  dsimp only
  rw [htrim, if_neg hne, h.trimmed]

/-- **The line of a setting** is read as this setting. -/
theorem line_of_setting {a : setting} (h : InLine a) :
    line_setting (key_text a.1 ++ ch '=' :: a.2) = some a ∧
      line_ok (key_text a.1 ++ ch '=' :: a.2) = true := by
  unfold line_setting line_ok
  rw [config_entry_line h]
  simp [lookup_key_text]

section Move

variable {getopt_long : List Bytes → List cli_opt × Bool} {argv argv' : List Bytes}

/-- The lines of options are the settings of these. -/
theorem filterMap_option_line {opts : List cli_opt}
    (h : ∀ a ∈ opts.filterMap opt_setting, InLine a) :
    (opts.filterMap option_line).filterMap line_setting = opts.filterMap opt_setting := by
  rw [List.filterMap_filterMap]
  apply List.filterMap_congr
  intro opt hopt
  unfold option_line
  cases ha : opt_setting opt with
  | none => rfl
  | some a => exact (line_of_setting (h a (List.mem_filterMap.mpr ⟨opt, hopt, ha⟩))).1

/-- **An option may be moved into the file.** When the command line is accepted, and
its values can stand in a line, a file with one more line for each of its options
gives the same configuration without them. -/
theorem options_into_file (h : lhkt_cli_apply libc getopt_long argv cfg = (cfg', .code .OK))
    (hplain : ∀ a ∈ (getopt_long argv).1.filterMap opt_setting, InLine a)
    (hnul : ∀ line ∈ text_lines libc argv, 0 ∉ line)
    (hopened : ∀ path, find_config_arg argv' = some path →
      path ≠ [] ∧ (libc.fopen path).isSome = true)
    (hfile : text_lines libc argv'
      = text_lines libc argv ++ (getopt_long argv).1.filterMap option_line)
    (hargs : ∀ opt ∈ (getopt_long argv').1, ∃ path, opt = .config path)
    (hoperands : (getopt_long argv').2 = false) :
    lhkt_cli_apply libc getopt_long argv' cfg = (cfg', .code .OK) := by
  obtain ⟨hread, hrun⟩ := lhkt_cli_apply_iff.mp h
  have hmoved : ∀ line ∈ (getopt_long argv).1.filterMap option_line,
      ∃ a, InLine a ∧ line = key_text a.1 ++ ch '=' :: a.2 := by
    intro line hline
    obtain ⟨opt, hopt, hline⟩ := List.mem_filterMap.mp hline
    obtain ⟨a, ha, rfl⟩ := Option.map_eq_some_iff.mp hline
    exact ⟨a, hplain a (List.mem_filterMap.mpr ⟨opt, hopt, ha⟩), rfl⟩
  have hnone : (getopt_long argv').1.filterMap opt_setting = [] := by
    rw [List.filterMap_eq_nil_iff]
    intro opt hopt
    obtain ⟨path, rfl⟩ := hargs opt hopt
    rfl
  refine lhkt_cli_apply_iff.mpr ⟨⟨hopened, ?_, ?_, ?_, hoperands⟩, ?_⟩
  · -- the longer file still fits the line buffer
    unfold TextLines
    rw [hfile]
    constructor
    · intro line hline
      rcases List.mem_append.mp hline with hline | hline
      · exact hread.text.1 line hline
      · obtain ⟨a, ha, rfl⟩ := hmoved line hline
        exact ha.fits
    · intro line hline
      rcases List.mem_append.mp (List.mem_of_mem_dropLast hline) with hline | hline
      · exact hnul line hline
      · obtain ⟨a, ha, rfl⟩ := hmoved line hline
        exact zero_notMem_line ha
  · rw [hfile]
    intro line hline
    rcases List.mem_append.mp hline with hline | hline
    · exact hread.lines line hline
    · obtain ⟨a, ha, rfl⟩ := hmoved line hline
      exact (line_of_setting ha).2
  · intro opt hopt
    obtain ⟨path, rfl⟩ := hargs opt hopt
    rfl
  · -- the settings are the same ones, in the same order
    rw [settings, hfile, List.filterMap_append, filterMap_option_line hplain, hnone,
      List.append_nil]
    exact hrun

end Move

/-- Two files, of which the second has the port of the command line in it. -/
def two_files : libc_t where
  inet_pton _ := none
  strtod text := { value := none, rest := text, erange := false }
  fopen path :=
    if path = ascii "/etc/tnc" then some (ascii "# TNC\nkiss_port = 8001\nverbose=yes")
    else if path = ascii "/etc/tnc2" then
      some (ascii "# TNC\nkiss_port = 8001\nverbose=yes\nkiss_port=8002\nrx_only=on")
    else none

/-- The command line with the two options. -/
def with_options : List Bytes :=
  [ascii "-c", ascii "/etc/tnc", ascii "--kiss-port", ascii "8002", ascii "--rx-only"]

/-- The command line that names the longer file. -/
def without_options : List Bytes := [ascii "-c", ascii "/etc/tnc2"]

/-- What `getopt_long` makes of the two. -/
def two_command_lines (argv : List Bytes) : List cli_opt × Bool :=
  if argv = with_options then
    ([.config (ascii "/etc/tnc"), .kiss_port (ascii "8002"), .rx_only], false)
  else ([.config (ascii "/etc/tnc2")], false)

/-- A port given as an option, moved into a file that sets another one. -/
theorem options_into_file_port :
    (lhkt_cli_apply two_files two_command_lines without_options
      (lhkt_config_full_defaults false false)).1.kiss_port = 8002 := by
  have h : lhkt_cli_apply two_files two_command_lines with_options
      (lhkt_config_full_defaults false false)
        = ((lhkt_cli_apply two_files two_command_lines with_options
            (lhkt_config_full_defaults false false)).1, .code .OK) :=
    Prod.ext rfl (by decide +kernel)
  have hfind : find_config_arg without_options = some (ascii "/etc/tnc2") := by decide +kernel
  have hopts : (two_command_lines without_options).1 = [.config (ascii "/etc/tnc2")] := by
    decide +kernel
  have hmoved : lhkt_cli_apply two_files two_command_lines without_options
      (lhkt_config_full_defaults false false)
        = ((lhkt_cli_apply two_files two_command_lines with_options
            (lhkt_config_full_defaults false false)).1, .code .OK) := by
    refine options_into_file h (by decide +kernel) (by decide +kernel) ?_ (by decide +kernel) ?_
      (by decide +kernel)
    · intro path hpath
      obtain rfl := Option.some.inj (hpath.symm.trans hfind)
      decide +kernel
    · intro opt hopt
      rw [hopts] at hopt
      exact ⟨_, List.mem_singleton.mp hopt⟩
  rw [hmoved]
  decide +kernel

end LorahamKissTnc.FrontEnd
