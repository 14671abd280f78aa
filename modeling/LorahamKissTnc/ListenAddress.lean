/-
Which address the KISS server listens on.

Two settings write `cfg->kiss_host`. `kiss_host` and `--kiss-host` set it, and are
documented to override the address that `bind` and `--bind` derive. But
`lhkt_bind_apply` writes the derived address as a side effect, whatever is there,
so the last setting of either kind wins. An explicit address survives exactly when
no `bind` follows it, or when the last one that does derives the same address.

Lines and options are read as the settings they stand for, of which the last that
writes a field counts (`Settings.settings_last_wins`). So all that is left is which
setting that is: `last_writer_kiss_host`. The allow-list itself has no such
interference: `bind_net` and `bind_prefix` are always those of the last `bind`.
-/
import LorahamKissTnc.FrontEnd

set_option autoImplicit false

open LorahamKissTnc.Lib.CString LorahamKissTnc.Lib.Overrides
open LorahamKissTnc.Config LorahamKissTnc.ConfigFile LorahamKissTnc.Cli LorahamKissTnc.Settings
open LorahamKissTnc.FrontEnd

namespace LorahamKissTnc.ListenAddress

/-! ## The settings of the two kinds -/

/-- All settings, in the order they are applied. -/
def settings (lines : List Bytes) (opts : List cli_opt) : List setting :=
  lines.filterMap line_setting ++ opts.filterMap opt_setting

/-- The last value of a key. -/
def last_value (key : config_key) (l : List setting) : Option Bytes :=
  (l.filter fun a => a.1 = key).getLast?.map Prod.snd

/-- The last explicit listen address. -/
def last_host (l : List setting) : Option Bytes := last_value .kiss_host l

/-- The last allow-list. -/
def last_bind (l : List setting) : Option Bytes := last_value .bind l

/-- The settings behind the last explicit listen address. -/
def behind_host (l : List setting) : List setting := l.rtakeWhile fun a => a.1 ≠ .kiss_host

theorem last_value_concat (key : config_key) (l : List setting) (a : setting) :
    last_value key (l ++ [a]) = if a.1 = key then some a.2 else last_value key l := by
  unfold last_value
  rw [List.filter_append]
  by_cases hkey : a.1 = key
  · rw [if_pos hkey, List.filter_cons_of_pos (by simpa using hkey), List.filter_nil,
      List.getLast?_concat]
    rfl
  · rw [if_neg hkey, List.filter_cons_of_neg (by simpa using hkey), List.filter_nil,
      List.append_nil]

theorem behind_host_concat (l : List setting) (a : setting) :
    behind_host (l ++ [a]) = if a.1 = .kiss_host then [] else behind_host l ++ [a] := by
  unfold behind_host
  rw [List.rtakeWhile_concat]
  by_cases hkey : a.1 = .kiss_host
  · rw [if_pos hkey, if_neg (by simpa using hkey)]
  · rw [if_neg hkey, if_pos (by simpa using hkey)]

/-- Which keys write the three fields. -/
theorem listen_writes (a : setting) :
    setting_writes a .kiss_host = decide (a.1 = .kiss_host ∨ a.1 = .bind) ∧
    setting_writes a .bind_net = decide (a.1 = .bind) ∧
    setting_writes a config_field.bind_prefix = decide (a.1 = .bind) := by
  obtain ⟨key, value⟩ := a
  unfold setting_writes
  cases key with
  | ldro =>
      by_cases hauto : value = ascii "AUTO" ∨ value = ascii "auto"
      · simp only [key_fields, if_pos hauto]
        exact ⟨rfl, rfl, rfl⟩
      · simp only [key_fields, if_neg hauto]
        exact ⟨rfl, rfl, rfl⟩
  | _ => exact ⟨rfl, rfl, rfl⟩

/-- The allow-list is written by the last `bind`. -/
theorem last_writer_bind (f : config_field)
    (hf : ∀ a, setting_writes a f = decide (a.1 = .bind)) (l : List setting) :
    last_writer setting_writes f l = (last_bind l).map (.bind, ·) := by
  induction l using List.reverseRecOn with
  | nil => rfl
  | append_singleton l a ih =>
      obtain ⟨key, value⟩ := a
      unfold last_bind at ih ⊢
      rw [last_writer_concat, last_value_concat, hf, ih]
      by_cases hkey : key = .bind
      · subst hkey
        rfl
      · rw [if_neg (by simpa using hkey), if_neg hkey]

/-- **The listen address** is written by the last `bind` behind the last explicit
address, or by this one when there is none. -/
theorem last_writer_kiss_host (l : List setting) :
    last_writer setting_writes .kiss_host l
      = ((last_bind (behind_host l)).map (.bind, ·)).or ((last_host l).map (.kiss_host, ·)) := by
  induction l using List.reverseRecOn with
  | nil => rfl
  | append_singleton l a ih =>
      obtain ⟨key, value⟩ := a
      unfold last_bind last_host at ih ⊢
      rw [last_writer_concat, (listen_writes _).1, behind_host_concat, last_value_concat, ih]
      by_cases hhost : key = .kiss_host
      · -- nothing is behind it
        subst hhost
        rfl
      · rw [if_neg hhost, if_neg hhost, last_value_concat]
        by_cases hbind : key = .bind
        · subst hbind
          rfl
        · rw [if_neg (by simpa using ⟨hhost, hbind⟩), if_neg hbind]

/-! ## What the two settings write -/

section Alone

variable {libc : libc_t} {value : Bytes}

/-- An explicit address that is accepted is stored in full. -/
theorem alone_kiss_host (h : (alone libc (.kiss_host, value)).2 = .OK) :
    (alone libc (.kiss_host, value)).1.kiss_host = value := by
  have hset : alone libc (.kiss_host, value) = store_text LHKT_HOST_MAX value fun t =>
    { lhkt_config_full_defaults false false with kiss_host := t } := rfl
  rw [hset] at h ⊢
  unfold store_text copy_string at h ⊢
  split at h
  · exact nomatch h
  · rename_i hlen
    rw [if_neg hlen]

/-- A `bind` that is accepted stands for a network, and derives an address from it. -/
theorem alone_bind (h : (alone libc (.bind, value)).2 = .OK) :
    ∃ net bits, lhkt_bind_parse libc.inet_pton value = .ok (net, bits) ∧
      (alone libc (.bind, value)).1.kiss_host = bind_listen net bits ∧
      (alone libc (.bind, value)).1.bind_net = net ∧
      lhkt_config_t.bind_prefix (alone libc (.bind, value)).1.tolhkt_config_t = bits := by
  have hset : alone libc (.bind, value)
    = bind_apply libc (lhkt_config_full_defaults false false) value := rfl
  rw [hset] at h ⊢
  unfold bind_apply lhkt_bind_apply at h ⊢
  cases hparse : lhkt_bind_parse libc.inet_pton value with
  | error ret =>
      rw [hparse, lhkt_bind_parse_error libc.inet_pton hparse] at h
      exact nomatch h
  | ok r => exact ⟨r.1, r.2, rfl, rfl, rfl, rfl⟩

end Alone

/-! ## The explicit listen address -/

/-- No `bind` follows the last explicit listen address, or the last one that does
stands for a network inside 127.0.0.0/8 and the address is 127.0.0.1, or for
another network and the address is 0.0.0.0. -/
def Kept (inet_pton : Bytes → Option UInt32) (l : List setting) (value : Bytes) : Prop :=
  ∀ arg net bits, last_bind (behind_host l) = some arg →
    lhkt_bind_parse inet_pton arg = .ok (net, bits) →
      (bind_loopback net bits = true ∧ value = ascii "127.0.0.1") ∨
        (bind_loopback net bits = false ∧ value = ascii "0.0.0.0")

theorem bind_listen_eq_iff {net : UInt32} {bits : Nat} {value : Bytes} :
    bind_listen net bits = value ↔
      (bind_loopback net bits = true ∧ value = ascii "127.0.0.1") ∨
        (bind_loopback net bits = false ∧ value = ascii "0.0.0.0") := by
  rw [bind_listen]
  cases bind_loopback net bits with
  | true => simp [eq_comm]
  | false => simp [eq_comm]

section Applied

variable {libc : libc_t} {cfg₀ cfg : lhkt_config_full_t}

/-- **The front end is the run of its settings.** -/
theorem applied_settings {lines : List Bytes} {opts : List cli_opt}
    (h : applied libc lines opts cfg₀ = some cfg) :
    (settings lines opts).foldlM (accepted_setting libc) cfg₀ = some cfg := by
  obtain ⟨cfg₁, hlines, hopts⟩ := Option.bind_eq_some_iff.mp h
  rw [settings, List.foldlM_append]
  have hfile := ((run_setting (accepted_line_eq libc) lines cfg₀ cfg₁).mp hlines).2
  have hcli := ((run_setting (accepted_opt_eq libc) opts cfg₁ cfg).mp hopts).2
  rw [hfile]
  exact hcli

/-- What the settings come to, whatever they are applied to. -/
theorem settings_listen_address_iff {l : List setting} {value : Bytes}
    (h : l.foldlM (accepted_setting libc) cfg₀ = some cfg) (hvalue : last_host l = some value) :
    (cfg.kiss_host = value ∧
      ∀ arg, last_bind l = some arg →
        ∃ bits : Nat, lhkt_bind_parse libc.inet_pton arg = .ok (cfg.bind_net, bits) ∧
          cfg.bind_prefix = bits) ↔
      Kept libc.inet_pton l value := by
  have hread := read_run (settings_last_wins libc) h
  -- a setting that writes one of the fields is one of the list, so it was accepted
  have haccepted : ∀ f a, last_writer setting_writes f l = some a → (alone libc a).2 = .OK := by
    intro f a hlast
    have hall := (run_isSome (settings_last_wins libc) l cfg₀).mp (by rw [h]; rfl)
    exact of_decide_eq_true (hall a (last_writer_mem hlast).1)
  have hwriter := last_writer_kiss_host l
  have hhost : cfg.kiss_host = _ := hread .kiss_host
  rw [hvalue] at hwriter
  have hnet : ∀ arg, last_bind l = some arg →
      ∃ bits : Nat, lhkt_bind_parse libc.inet_pton arg = .ok (cfg.bind_net, bits) ∧
        cfg.bind_prefix = bits := by
    intro arg harg
    have hlast := last_writer_bind .bind_net (fun a => (listen_writes a).2.1) l
    have hbits := last_writer_bind config_field.bind_prefix (fun a => (listen_writes a).2.2) l
    rw [harg] at hlast hbits
    obtain ⟨net, bits, hparse, -, hn, hb⟩ := alone_bind (haccepted _ _ hlast)
    have hcfg_net : cfg.bind_net = _ := hread .bind_net
    have hcfg_bits : cfg.bind_prefix = _ := hread config_field.bind_prefix
    rw [hlast] at hcfg_net
    rw [hbits] at hcfg_bits
    refine ⟨bits, ?_, hcfg_bits.trans hb⟩
    rw [show cfg.bind_net = net from hcfg_net.trans hn]
    exact hparse
  cases hb : last_bind (behind_host l) with
  | none =>
      rw [hb] at hwriter
      rw [hwriter] at hhost
      have hkept : cfg.kiss_host = value :=
        hhost.trans (alone_kiss_host (haccepted _ _ hwriter))
      refine iff_of_true ⟨hkept, hnet⟩ ?_
      intro arg net bits harg
      exact absurd (hb.symm.trans harg) (by simp)
  | some arg =>
      rw [hb] at hwriter
      rw [hwriter] at hhost
      obtain ⟨net, bits, hparse, hlisten, -, -⟩ := alone_bind (haccepted _ _ hwriter)
      have hderived : cfg.kiss_host = bind_listen net bits := hhost.trans hlisten
      rw [hderived, bind_listen_eq_iff]
      constructor
      · rintro ⟨hsame, -⟩ arg' net' bits' harg' hparse'
        obtain rfl := Option.some.inj (hb.symm.trans harg')
        obtain ⟨rfl, rfl⟩ := Prod.mk.inj (Except.ok.inj (hparse.symm.trans hparse'))
        exact hsame
      · exact fun hkept => ⟨hkept arg net bits hb hparse, hnet⟩

/-- **The explicit listen address wins exactly when no later `bind` replaces it.**
Whatever lines and options are applied to the defaults and accepted, with at least
one explicit address among them: the final listen address is the last explicit one
and the allow-list is that of the last `bind`, if and only if no `bind` behind the
explicit address derived another. -/
theorem explicit_listen_address_iff {lines : List Bytes} {opts : List cli_opt}
    {run_data run_conf : Bool} {value : Bytes}
    (h : applied libc lines opts (lhkt_config_full_defaults run_data run_conf) = some cfg)
    (hvalue : last_host (settings lines opts) = some value) :
    (cfg.kiss_host = value ∧
      ∀ arg, last_bind (settings lines opts) = some arg →
        ∃ bits : Nat, lhkt_bind_parse libc.inet_pton arg = .ok (cfg.bind_net, bits) ∧
          cfg.bind_prefix = bits) ↔
      Kept libc.inet_pton (settings lines opts) value :=
  settings_listen_address_iff (applied_settings h) hvalue

/-- The same for the front end as it is called. -/
theorem lhkt_cli_apply_listen_address_iff {getopt_long : List Bytes → List cli_opt × Bool}
    {argv : List Bytes} {value : Bytes}
    (h : lhkt_cli_apply libc getopt_long argv cfg₀ = (cfg, .code .OK))
    (hvalue : last_host (settings (config_lines libc argv) (getopt_long argv).1) = some value) :
    (cfg.kiss_host = value ∧
      ∀ arg, last_bind (settings (config_lines libc argv) (getopt_long argv).1) = some arg →
        ∃ bits : Nat, lhkt_bind_parse libc.inet_pton arg = .ok (cfg.bind_net, bits) ∧
          cfg.bind_prefix = bits) ↔
      Kept libc.inet_pton (settings (config_lines libc argv) (getopt_long argv).1) value :=
  settings_listen_address_iff (applied_settings (lhkt_cli_apply_applied h)) hvalue

end Applied

/-! ## Both orders, run -/

/-- One octet of a dotted quad: one to three digits, no leading zero. -/
def quad_octet (s : Bytes) : Option UInt32 :=
  if s = [] ∨ 3 < s.length ∨ !s.all isdigit ∨ 255 < digits_value s ∨
      (1 < s.length ∧ s.head? = some (ch '0')) then none
  else some (UInt32.ofNat (digits_value s))

/-- `inet_pton(AF_INET, ...)` as the C library has it. -/
def inet_pton_quad (s : Bytes) : Option UInt32 := do
  let (a, s) ← cut (ch '.') s
  let (b, s) ← cut (ch '.') s
  let (c, d) ← cut (ch '.') s
  let a ← quad_octet a
  let b ← quad_octet b
  let c ← quad_octet c
  let d ← quad_octet d
  return a <<< 24 ||| b <<< 16 ||| c <<< 8 ||| d

/-- A library for the two runs below, which read no number with a fraction and no
file. -/
def quad_libc : libc_t where
  inet_pton := inet_pton_quad
  strtod s := ⟨none, s, false⟩
  fopen _ := none

/-- A LAN in the config file and an explicit address on the command line: the
address is kept, as nothing follows it. -/
theorem explicit_listen_address_lan :
    let lines := [ascii "bind = 192.168.0.0/24\n"]
    let opts := [cli_opt.kiss_host (ascii "192.168.1.5")]
    ∃ cfg, applied quad_libc lines opts (lhkt_config_full_defaults false false) = some cfg ∧
      ((cfg.kiss_host = ascii "192.168.1.5" ∧
        ∀ arg, last_bind (settings lines opts) = some arg →
          ∃ bits : Nat, lhkt_bind_parse inet_pton_quad arg = .ok (cfg.bind_net, bits) ∧
            cfg.bind_prefix = bits) ↔
        Kept inet_pton_quad (settings lines opts) (ascii "192.168.1.5")) := by
  intro lines opts
  have hsome : (applied quad_libc lines opts (lhkt_config_full_defaults false false)).isSome := by
    decide +kernel
  refine ⟨_, (Option.some_get hsome).symm, ?_⟩
  exact explicit_listen_address_iff (Option.some_get hsome).symm (by decide +kernel)

/-- The loopback address chosen explicitly and then an allow-list for everyone: both
are accepted, and the server listens on all interfaces. -/
theorem explicit_loopback_widened :
    let opts := [cli_opt.kiss_host (ascii "127.0.0.1"), .bind (ascii "0.0.0.0/0")]
    last_host (settings [] opts) = some (ascii "127.0.0.1") ∧
      (applied quad_libc [] opts (lhkt_config_full_defaults false false)).map
        (fun cfg => cfg.kiss_host) = some (ascii "0.0.0.0") := by
  decide +kernel

end LorahamKissTnc.ListenAddress
