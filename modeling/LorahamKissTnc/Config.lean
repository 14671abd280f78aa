/-
The shared header `loraham_kiss_tnc.h`: limits, result codes, configuration and
counters, and the two helpers of `loraham_kiss_tnc.c` the bridge calls.

Result codes are an enumeration with the source's names; `Lhkt.code` gives the
numbers. A `double` frequency or bandwidth is the rational number it stands for:
the code only compares and prints these values, never accumulates them. Counters
are natural numbers (the source's are 64 bits wide and start at zero).

`Configured` collects the ranges the two configuration front ends (`config.c`,
`cli.c`) enforce on what they accept, for the statements that rest on them.
-/
import LorahamKissTnc.Lib.CString

set_option autoImplicit false

open LorahamKissTnc.Lib.CString

namespace LorahamKissTnc.Config

/-! ## Limits -/

abbrev LHKT_AX25_MAX_REPEATERS : Nat := 8
abbrev LHKT_AX25_MAX_ADDRS : Nat := 10
abbrev LHKT_AX25_MAX_PAYLOAD : Nat := 256
abbrev LHKT_AX25_MAX_FRAME : Nat := 384
abbrev LHKT_TNC2_MAX_LINE : Nat := 512
abbrev LHKT_KISS_MAX_FRAME : Nat := 1024
abbrev LHKT_LORAHAM_TX_MAX : Nat := 255
abbrev LHKT_LORAHAM_HDR_LEN : Nat := 3
abbrev LHKT_PATH_MAX : Nat := 256
abbrev LHKT_HOST_MAX : Nat := 64

/-! ## Result codes -/

/-- The `LHKT_*` result codes. -/
inductive Lhkt where
  | OK
  | ERR
  | ERR_SHORT
  | ERR_LONG
  | ERR_FORMAT
  | ERR_UNSUPPORTED
  | ERR_NOSPACE
  | ERR_TX_SOCKET
  | ERR_CLIENT_SOCKET
  | ERR_CONF_SOCKET
  | ERR_TX_RESULT
  | ERR_AGAIN
  deriving DecidableEq, Repr, Inhabited

/-- The number behind a code. `ret < 0` in the source is `ret ≠ Lhkt.OK`. -/
def Lhkt.code : Lhkt → Int
  | .OK => 0
  | .ERR => -1
  | .ERR_SHORT => -2
  | .ERR_LONG => -3
  | .ERR_FORMAT => -4
  | .ERR_UNSUPPORTED => -5
  | .ERR_NOSPACE => -6
  | .ERR_TX_SOCKET => -7
  | .ERR_CLIENT_SOCKET => -8
  | .ERR_CONF_SOCKET => -9
  | .ERR_TX_RESULT => -10
  | .ERR_AGAIN => -11

theorem Lhkt.code_neg_iff (r : Lhkt) : r.code < 0 ↔ r ≠ .OK := by
  cases r <;> decide

/-! ## Configuration -/

/-- `lhkt_config_t`, without the fields that only name files and sockets or only
select log output. -/
structure lhkt_config_t where
  kiss_host : Bytes := ascii "127.0.0.1"
  kiss_port : Int := 8001
  bind_spec : Bytes := ascii "127.0.0.1/32"
  bind_net : UInt32 := 0x7f000001
  bind_prefix : Int := 32
  rx_only : Bool := false
  tx_settle_ms : Int := 100
  tx_return_ms : Int := 1000
  tx_busy_timeout_ms : Int := 120000
  tx_queue_len : Int := 8
  tx_packet_ttl_ms : Int := 180000
  rx_freq : ℚ := 433775 / 1000
  tx_freq : ℚ := 433900 / 1000
  have_rx_freq : Bool := true
  have_tx_freq : Bool := true
  sf : Int := 12
  bw : ℚ := 125
  cr : Int := 5
  crc : Int := 1
  preamble : Int := 8
  syncword : Nat := 0x12
  ldro : Bool := true
  ldro_auto : Bool := false
  power : Int := 17

/-- `lhkt_config_defaults`. -/
def lhkt_config_defaults : lhkt_config_t := {}

/-- What `config.c` and `cli.c` guarantee of the values the bridge reads: a
frequency is accepted from 0.001 MHz up, and the timing values lie in the
ranges of their keys. -/
structure Configured (cfg : lhkt_config_t) : Prop where
  rx_freq : cfg.have_rx_freq = true → 1 / 1000 ≤ cfg.rx_freq
  tx_freq : cfg.have_tx_freq = true → 1 / 1000 ≤ cfg.tx_freq
  tx_settle_ms : 0 ≤ cfg.tx_settle_ms ∧ cfg.tx_settle_ms ≤ 60000
  tx_return_ms : 0 ≤ cfg.tx_return_ms ∧ cfg.tx_return_ms ≤ 60000
  tx_busy_timeout_ms : 0 ≤ cfg.tx_busy_timeout_ms ∧ cfg.tx_busy_timeout_ms ≤ 600000
  tx_queue_len : 1 ≤ cfg.tx_queue_len ∧ cfg.tx_queue_len ≤ 16
  tx_packet_ttl_ms : 1000 ≤ cfg.tx_packet_ttl_ms ∧ cfg.tx_packet_ttl_ms ≤ 3600000

/-- The defaults pass the checks of their own keys. -/
theorem configured_defaults : Configured lhkt_config_defaults where
  rx_freq _ := by decide +kernel
  tx_freq _ := by decide +kernel
  tx_settle_ms := by decide
  tx_return_ms := by decide
  tx_busy_timeout_ms := by decide
  tx_queue_len := by decide
  tx_packet_ttl_ms := by decide

/-! ## Counters -/

/-- `lhkt_stats_t`. -/
structure lhkt_stats_t where
  kiss_rx : Nat := 0
  kiss_tx : Nat := 0
  kiss_drop : Nat := 0
  ax25_rx : Nat := 0
  ax25_tx : Nat := 0
  ax25_drop : Nat := 0
  tnc2_rx : Nat := 0
  tnc2_tx : Nat := 0
  tnc2_drop : Nat := 0
  loraham_rx : Nat := 0
  loraham_tx : Nat := 0
  loraham_drop : Nat := 0
  loraham_framed_errors : Nat := 0
  cad_busy_events : Nat := 0
  cad_idle_events : Nat := 0
  cad_current_busy : Bool := false
  tx_drop_oversize : Nat := 0
  tx_unconfirmed : Nat := 0
  tx_restore_failures : Nat := 0
  socket_reconnects : Nat := 0
  client_disconnects : Nat := 0
  deriving DecidableEq, Repr

/-- The counters that are only ever incremented by one. -/
inductive lhkt_counter where
  | kiss_rx
  | kiss_tx
  | kiss_drop
  | ax25_rx
  | ax25_tx
  | ax25_drop
  | tnc2_rx
  | tnc2_tx
  | tnc2_drop
  | loraham_rx
  | loraham_tx
  | loraham_drop
  | loraham_framed_errors
  | tx_drop_oversize
  | tx_unconfirmed
  | tx_restore_failures
  | socket_reconnects
  | client_disconnects
  deriving DecidableEq, Repr

/-- `stats->counter++`. -/
def lhkt_stats_t.incr (s : lhkt_stats_t) : lhkt_counter → lhkt_stats_t
  | .kiss_rx => { s with kiss_rx := s.kiss_rx + 1 }
  | .kiss_tx => { s with kiss_tx := s.kiss_tx + 1 }
  | .kiss_drop => { s with kiss_drop := s.kiss_drop + 1 }
  | .ax25_rx => { s with ax25_rx := s.ax25_rx + 1 }
  | .ax25_tx => { s with ax25_tx := s.ax25_tx + 1 }
  | .ax25_drop => { s with ax25_drop := s.ax25_drop + 1 }
  | .tnc2_rx => { s with tnc2_rx := s.tnc2_rx + 1 }
  | .tnc2_tx => { s with tnc2_tx := s.tnc2_tx + 1 }
  | .tnc2_drop => { s with tnc2_drop := s.tnc2_drop + 1 }
  | .loraham_rx => { s with loraham_rx := s.loraham_rx + 1 }
  | .loraham_tx => { s with loraham_tx := s.loraham_tx + 1 }
  | .loraham_drop => { s with loraham_drop := s.loraham_drop + 1 }
  | .loraham_framed_errors => { s with loraham_framed_errors := s.loraham_framed_errors + 1 }
  | .tx_drop_oversize => { s with tx_drop_oversize := s.tx_drop_oversize + 1 }
  | .tx_unconfirmed => { s with tx_unconfirmed := s.tx_unconfirmed + 1 }
  | .tx_restore_failures => { s with tx_restore_failures := s.tx_restore_failures + 1 }
  | .socket_reconnects => { s with socket_reconnects := s.socket_reconnects + 1 }
  | .client_disconnects => { s with client_disconnects := s.client_disconnects + 1 }

/-! ## The source allow-list -/

/-- `lhkt_ipv4_in_cidr`. -/
def lhkt_ipv4_in_cidr (addr_host net_host : UInt32) (bits : Int) : Bool :=
  -- no prefix admits everyone, a full one a single host
  if bits ≤ 0 then true
  else if 32 ≤ bits then addr_host == net_host
  else
    let mask : UInt32 := 0xFFFFFFFF <<< UInt32.ofNat (32 - bits).toNat
    (addr_host &&& mask) == (net_host &&& mask)

section Bind

-- `inet_pton(AF_INET, ...)`: the address in host byte order, if the text is one
variable (inet_pton : Bytes → Option UInt32)

/-- The network address of an address and a prefix length. -/
def bind_mask (ip_host : UInt32) (bits : Nat) : UInt32 :=
  let mask : UInt32 := if bits = 0 then 0 else 0xFFFFFFFF <<< UInt32.ofNat (32 - bits)
  ip_host &&& mask

/-- The first half of `lhkt_bind_apply`: the network and the prefix length an
argument stands for. -/
def lhkt_bind_parse (arg : Bytes) : Except Lhkt (UInt32 × Nat) :=
  if arg = [] then .error .ERR_FORMAT
  else if LHKT_HOST_MAX ≤ arg.length then .error .ERR_FORMAT
  else
    let network (buf : Bytes) (bits : Nat) : Except Lhkt (UInt32 × Nat) :=
      match inet_pton buf with
      | none => .error .ERR_FORMAT
      | some ip_host => .ok (bind_mask ip_host bits, bits)
    match cut (ch '/') arg with
    | some (buf, slash) =>
        let p := strtol 10 slash
        -- `strtol` has to read something, and everything behind the slash
        if p.rest = slash ∨ p.rest ≠ [] ∨ p.value < 0 ∨ 32 < p.value then .error .ERR_FORMAT
        else network buf p.value.toNat
    -- a plain address is a network of one host
    | none => network arg 32

/-- There is one way to reject an argument. -/
theorem lhkt_bind_parse_error {arg : Bytes} {ret : Lhkt}
    (h : lhkt_bind_parse inet_pton arg = .error ret) : ret = .ERR_FORMAT := by
  have hnetwork : ∀ (buf : Bytes) (bits : Nat),
      (match inet_pton buf with
        | none => Except.error Lhkt.ERR_FORMAT
        | some ip_host => .ok (bind_mask ip_host bits, bits)) = .error ret → ret = .ERR_FORMAT := by
    intro buf bits h
    split at h
    · exact (Except.error.inj h).symm
    · exact nomatch h
  unfold lhkt_bind_parse at h
  split at h
  · exact (Except.error.inj h).symm
  split at h
  · exact (Except.error.inj h).symm
  dsimp only at h
  split at h
  · split at h
    · exact (Except.error.inj h).symm
    · exact hnetwork _ _ h
  · exact hnetwork _ _ h

/-- The network lies inside 127.0.0.0/8. -/
def bind_loopback (net : UInt32) (bits : Nat) : Bool :=
  (net >>> 24) &&& 0xFF = 127 ∧ 8 ≤ bits

/-- The listen address derived from the allow-list. -/
def bind_listen (net : UInt32) (bits : Nat) : Bytes :=
  if bind_loopback net bits then ascii "127.0.0.1" else ascii "0.0.0.0"

/-- `cfg->bind_spec`. -/
def bind_text (net : UInt32) (bits : Nat) : Bytes :=
  let octet (n : UInt32) : Bytes := fmt_u ((net >>> n) &&& 0xFF).toNat
  octet 24 ++ [ch '.'] ++ octet 16 ++ [ch '.'] ++ octet 8 ++ [ch '.'] ++ octet 0 ++ [ch '/'] ++
    fmt_u bits

/-- `lhkt_bind_apply`. The argument is checked in full before anything is
written. -/
def lhkt_bind_apply (cfg : lhkt_config_t) (arg : Bytes) : lhkt_config_t × Lhkt :=
  match lhkt_bind_parse inet_pton arg with
  | .error ret => (cfg, ret)
  | .ok (net, bits) =>
      ({ cfg with bind_net := net, bind_prefix := bits, bind_spec := bind_text net bits,
                  kiss_host := bind_listen net bits }, .OK)

/-- The defaults are what the source makes them with: `lhkt_bind_apply` of the
loopback address. -/
theorem lhkt_bind_apply_defaults (h : inet_pton (ascii "127.0.0.1") = some 0x7f000001) :
    lhkt_bind_apply inet_pton lhkt_config_defaults (ascii "127.0.0.1")
      = (lhkt_config_defaults, .OK) := by
  have hparse : lhkt_bind_parse inet_pton (ascii "127.0.0.1") = .ok (0x7f000001, 32) := by
    have hcut : cut (ch '/') (ascii "127.0.0.1") = none := by decide +kernel
    rw [lhkt_bind_parse, if_neg (by decide +kernel), if_neg (by decide +kernel)]
    simp only [hcut, h]
    rfl
  have htext : bind_text 0x7f000001 32 = ascii "127.0.0.1/32" := by decide +kernel
  have hlisten : bind_listen 0x7f000001 32 = ascii "127.0.0.1" := by decide +kernel
  rw [lhkt_bind_apply, hparse]
  simp only [htext, hlisten]
  rfl

end Bind

end LorahamKissTnc.Config
