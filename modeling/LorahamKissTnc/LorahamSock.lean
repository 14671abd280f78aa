/-
`loraham_sock.c`: writing to the daemon's sockets, the framed DATA stream, the
LoRa-APRS packet and its extraction from received bytes, and the CONF commands.

A socket is what was written to it, a list of `Sent` entries, and what the
kernel does is an argument. One call of `write(2)` is a `write_ret`; a whole
write loop is driven by a script of them, and behind the script's end the kernel
takes what is left at once. `loraham_sock_write` adds the three `fcntl` calls
around the loop, of which the last one can turn a complete write into a reported
failure. A descriptor too large for `select` is refused before the first
`fcntl`, like a failing `F_GETFL`.

The framed decoder keeps the header and payload bytes it has stored as lists, so
`header_len` and `payload_pos` are lengths. The extractor's loop is a recursion
over the pending bytes, one round (`loraham_extract_byte`) per byte.
-/
import LorahamKissTnc.Config
import LorahamKissTnc.Lib.Channel
import LorahamKissTnc.Lib.Machine

set_option autoImplicit false

open LorahamKissTnc.Lib.CString LorahamKissTnc.Lib.Channel LorahamKissTnc.Lib.Machine
open LorahamKissTnc.Config

namespace LorahamKissTnc.LorahamSock

abbrev LORAHAM_APRS_HDR0 : UInt8 := 0x3c
abbrev LORAHAM_APRS_HDR1 : UInt8 := 0xff
abbrev LORAHAM_APRS_HDR2 : UInt8 := 0x01
abbrev LHKT_LORAHAM_RX_PENDING : Nat := 1024
abbrev LHKT_FRAMED_MAX_PAYLOAD : Nat := 1024

abbrev LORAHAM_FRAME_RX_PACKET : UInt8 := 0x01
abbrev LORAHAM_FRAME_TX_PACKET : UInt8 := 0x02
abbrev LORAHAM_FRAME_ERROR : UInt8 := 0x03
abbrev LORAHAM_FRAME_TX_RESULT : UInt8 := 0x04

abbrev LORAHAM_TX_RESULT_LEN : Nat := 4

abbrev LORAHAM_TX_STATUS_OK : UInt8 := 0
abbrev LORAHAM_TX_STATUS_INVALID_BAND : UInt8 := 6

/-! ## Writing to a socket -/

/-- What one `write(2)` does: take some bytes, be interrupted, find the socket
full (with what the wait for room then says), or fail. -/
inductive write_ret where
  | accept (n : Nat)
  | eintr
  | again (writable : Bool)
  | fail
  deriving DecidableEq, Repr

/-- The loop `while (done < len)` around `write(2)`, shared by
`loraham_sock_write` and `bridge_rx_write_all_fd`: the bytes taken, and whether
the loop ran to its end. -/
def write_loop (len : Nat) : Nat → List write_ret → Nat × Bool
  | _, [] => (len, true)
  | done, r :: script =>
      if len ≤ done then (done, true)
      else match r with
        -- `write` taking nothing would loop for ever
        | .accept 0 => (done, false)
        | .accept (n + 1) => write_loop len (min (done + (n + 1)) len) script
        | .eintr => write_loop len done script
        -- the socket is full: `select` waits for room, here with success
        | .again true => write_loop len done script
        | .again false => (done, false)
        | .fail => (done, false)

/-- The loop succeeds exactly when everything was taken. -/
theorem write_loop_spec (len : Nat) (script : List write_ret) :
    ∀ done, done ≤ len →
      (write_loop len done script).1 ≤ len ∧
        ((write_loop len done script).2 = true ↔ (write_loop len done script).1 = len) := by
  induction script with
  | nil =>
      intro done _
      unfold write_loop
      exact ⟨Nat.le_refl len, by simp⟩
  | cons r script ih =>
      intro done hdone
      unfold write_loop
      by_cases hfull : len ≤ done
      · rw [if_pos hfull]
        exact ⟨hdone, by simp only [true_iff]; omega⟩
      · rw [if_neg hfull]
        have hstop : done ≤ len ∧ (false = true ↔ done = len) :=
          ⟨hdone, by simp only [Bool.false_eq_true, false_iff]; omega⟩
        match r with
        | .accept 0 => exact hstop
        | .accept (n + 1) => exact ih _ (Nat.min_le_right _ _)
        | .eintr => exact ih done hdone
        | .again true => exact ih done hdone
        | .again false => exact hstop
        | .fail => exact hstop

/-- The environment of one `loraham_sock_write`: the outcomes of `F_GETFL`,
`F_SETFL` and the restoring `F_SETFL`, and the script of its writes. -/
structure sock_env where
  getfl : Bool := true
  setfl : Bool := true
  restore : Bool := true
  writes : List write_ret := []
  deriving DecidableEq, Repr

/-- `fcntl` does not fail. -/
def sock_env.FcntlOk (e : sock_env) : Prop :=
  e.getfl = true ∧ e.setfl = true ∧ e.restore = true

instance (e : sock_env) : Decidable e.FcntlOk :=
  inferInstanceAs (Decidable (e.getfl = true ∧ e.setfl = true ∧ e.restore = true))

/-- `loraham_sock_write` on an open socket. -/
def loraham_sock_write (e : sock_env) (buf : Bytes) : Sent UInt8 :=
  if buf.length = 0 then ⟨buf, 0, true⟩
  else if !e.getfl then ⟨buf, 0, false⟩
  else if !e.setfl then ⟨buf, 0, false⟩
  else
    -- all bytes may be out, and the restoring `fcntl` still fail
    let r := write_loop buf.length 0 e.writes
    ⟨buf, r.1, r.2 && e.restore⟩

@[simp] theorem loraham_sock_write_buf (e : sock_env) (buf : Bytes) :
    (loraham_sock_write e buf).buf = buf := by
  unfold loraham_sock_write
  repeat' split
  all_goals rfl

/-- A write reported as successful was taken in full. -/
theorem loraham_sock_write_complete {e : sock_env} {buf : Bytes}
    (h : (loraham_sock_write e buf).ok = true) : (loraham_sock_write e buf).Complete := by
  unfold loraham_sock_write at h ⊢
  split
  · rename_i hlen
    exact hlen.symm
  · rename_i hlen
    rw [if_neg hlen] at h
    split
    · rename_i hget
      rw [if_pos hget] at h
      exact absurd h Bool.false_ne_true
    · rename_i hget
      rw [if_neg hget] at h
      split
      · rename_i hset
        rw [if_pos hset] at h
        exact absurd h Bool.false_ne_true
      · rename_i hset
        rw [if_neg hset] at h
        have hloop : (write_loop buf.length 0 e.writes).2 = true := by
          have h' : ((write_loop buf.length 0 e.writes).2 && e.restore) = true := h
          exact (Bool.and_eq_true_iff.mp h').1
        exact ((write_loop_spec buf.length e.writes 0 (Nat.zero_le _)).2).mp hloop

/-- Without `fcntl` failures, success is reported exactly when everything was
taken. -/
theorem loraham_sock_write_ok_iff {e : sock_env} (he : e.FcntlOk) (buf : Bytes) :
    (loraham_sock_write e buf).ok = true ↔ (loraham_sock_write e buf).Complete := by
  refine ⟨loraham_sock_write_complete, ?_⟩
  obtain ⟨hget, hset, hrestore⟩ := he
  unfold loraham_sock_write
  rw [hget, hset, hrestore]
  intro h
  split
  · rfl
  · rename_i hlen
    rw [if_neg hlen] at h
    show ((write_loop buf.length 0 e.writes).2 && true) = true
    rw [Bool.and_true]
    exact ((write_loop_spec buf.length e.writes 0 (Nat.zero_le _)).2).mpr h

/-! ## The framed DATA stream -/

/-- `loraham_frame_t`; `payload_len` is the length of `payload`. -/
structure loraham_frame_t where
  type : UInt8
  payload : Bytes
  deriving DecidableEq, Repr

/-- `loraham_framed_rx_state_t`; `header_len` and `payload_pos` are the lengths
of `header` and `payload`. -/
structure loraham_framed_rx_state_t where
  header : Bytes := []
  type : UInt8 := 0
  payload_len : Nat := 0
  payload : Bytes := []
  deriving DecidableEq, Repr

/-- `loraham_framed_rx_state_init`. -/
def loraham_framed_rx_state_init : loraham_framed_rx_state_t := {}

/-- `loraham_frame_emit`. -/
def loraham_frame_emit (state : loraham_framed_rx_state_t) : loraham_frame_t :=
  ⟨state.type, state.payload.take state.payload_len⟩

/-- `loraham_framed_decode_byte`. -/
def loraham_framed_decode_byte (state : loraham_framed_rx_state_t) (byte : UInt8) :
    loraham_framed_rx_state_t × Except Lhkt (Option loraham_frame_t) :=
  if state.header.length < 3 then
    let state := { state with header := state.header ++ [byte] }
    if state.header.length < 3 then (state, .ok none)
    else
      let state := { state with
        type := state.header.getD 0 0
        payload_len := (state.header.getD 1 0).toNat ||| ((state.header.getD 2 0).toNat <<< 8)
        payload := [] }
      -- the only framing error there is
      if LHKT_FRAMED_MAX_PAYLOAD < state.payload_len then
        (loraham_framed_rx_state_init, .error .ERR_LONG)
      else if state.payload_len = 0 then
        (loraham_framed_rx_state_init, .ok (some (loraham_frame_emit state)))
      else (state, .ok none)
  else
    let state := { state with payload := state.payload ++ [byte] }
    if state.payload.length < state.payload_len then (state, .ok none)
    else (loraham_framed_rx_state_init, .ok (some (loraham_frame_emit state)))

/-- The only framing error is a payload that is too long, and it resets the
decoder. -/
theorem loraham_framed_decode_byte_error {state state' : loraham_framed_rx_state_t} {byte : UInt8}
    {ret : Lhkt} (h : loraham_framed_decode_byte state byte = (state', .error ret)) :
    ret = .ERR_LONG ∧ state' = loraham_framed_rx_state_init := by
  unfold loraham_framed_decode_byte at h
  dsimp only at h
  repeat' split at h
  all_goals first
    | exact ⟨(Except.error.inj (Prod.mk.inj h).2).symm, (Prod.mk.inj h).1.symm⟩
    | exact absurd (Prod.mk.inj h).2 (fun h => nomatch h)

/-- The decoder over a stretch of the stream, with one answer per byte. -/
def loraham_framed_decode (state : loraham_framed_rx_state_t) (bytes : Bytes) :
    loraham_framed_rx_state_t × List (Except Lhkt (Option loraham_frame_t)) :=
  scan loraham_framed_decode_byte state bytes

/-- The frames among the decoder's answers. -/
def frames_of (answers : List (Except Lhkt (Option loraham_frame_t))) : List loraham_frame_t :=
  answers.filterMap fun
    | .ok (some frame) => some frame
    | _ => none

theorem loraham_framed_decode_cons (state : loraham_framed_rx_state_t) (b : UInt8) (bytes : Bytes) :
    loraham_framed_decode state (b :: bytes)
      = ((loraham_framed_decode (loraham_framed_decode_byte state b).1 bytes).1,
        (loraham_framed_decode_byte state b).2
          :: (loraham_framed_decode (loraham_framed_decode_byte state b).1 bytes).2) := rfl

/-- Reads do not matter to the decoder. -/
theorem loraham_framed_decode_append (state : loraham_framed_rx_state_t) (a b : Bytes) :
    loraham_framed_decode state (a ++ b)
      = ((loraham_framed_decode (loraham_framed_decode state a).1 b).1,
        (loraham_framed_decode state a).2
          ++ (loraham_framed_decode (loraham_framed_decode state a).1 b).2) :=
  scan_append _ state a b

theorem frames_of_append (a b : List (Except Lhkt (Option loraham_frame_t))) :
    frames_of (a ++ b) = frames_of a ++ frames_of b := List.filterMap_append

/-- `loraham_tx_result_t`. -/
structure loraham_tx_result_t where
  status : UInt8
  flags : UInt8
  seq : Nat
  deriving DecidableEq, Repr

/-- `loraham_tx_result_status_valid`. -/
def loraham_tx_result_status_valid (status : UInt8) : Bool :=
  status ≤ LORAHAM_TX_STATUS_INVALID_BAND

/-- `loraham_decode_tx_result`. -/
def loraham_decode_tx_result (frame : loraham_frame_t) : Except Lhkt loraham_tx_result_t :=
  if frame.type ≠ LORAHAM_FRAME_TX_RESULT ∨ frame.payload.length ≠ LORAHAM_TX_RESULT_LEN then
    .error .ERR_FORMAT
  else if !loraham_tx_result_status_valid (frame.payload.getD 0 0) then .error .ERR_FORMAT
  else .ok
    { status := frame.payload.getD 0 0
      flags := frame.payload.getD 1 0
      seq := (frame.payload.getD 2 0).toNat ||| ((frame.payload.getD 3 0).toNat <<< 8) }

/-- The bytes of a TX_PACKET frame. -/
def framed_tx_packet (payload : Bytes) : Bytes :=
  LORAHAM_FRAME_TX_PACKET :: UInt8.ofNat (payload.length &&& 0xff) ::
    UInt8.ofNat ((payload.length >>> 8) &&& 0xff) :: payload

/-- The bytes of an RX_PACKET frame with zero metadata, as the daemon sends it. -/
def framed_rx_packet (rf : Bytes) : Bytes :=
  LORAHAM_FRAME_RX_PACKET :: UInt8.ofNat ((4 + rf.length) &&& 0xff) ::
    UInt8.ofNat (((4 + rf.length) >>> 8) &&& 0xff) :: 0 :: 0 :: 0 :: 0 :: rf

/-- `loraham_send_framed_tx_packet`, on the history of the data socket. -/
def loraham_send_framed_tx_packet (e : sock_env) (payload : Bytes) (tx : List (Sent UInt8)) :
    List (Sent UInt8) × Lhkt :=
  if LHKT_LORAHAM_TX_MAX < payload.length then (tx, .ERR_LONG)
  else
    let sent := loraham_sock_write e (framed_tx_packet payload)
    (tx ++ [sent], if sent.ok then .OK else .ERR)

/-- A packet reported as written is on the connection, behind the others. -/
theorem send_framed_tx_packet_ok {e : sock_env} {packet : Bytes} {tx : List (Sent UInt8)}
    (h : (loraham_send_framed_tx_packet e packet tx).2 = .OK) :
    ∃ sent, (loraham_send_framed_tx_packet e packet tx).1 = tx ++ [sent] ∧ sent.Complete ∧
      sent.buf = framed_tx_packet packet := by
  unfold loraham_send_framed_tx_packet at h ⊢
  split
  · rename_i hlen
    rw [if_pos hlen] at h
    exact nomatch h
  · rename_i hlen
    rw [if_neg hlen] at h
    dsimp only at h ⊢
    split at h
    · rename_i hok
      exact ⟨_, rfl, loraham_sock_write_complete hok, loraham_sock_write_buf e _⟩
    · exact nomatch h

/-! ## The LoRa-APRS packet -/

/-- `loraham_hdr_byte` for every position: the three header bytes. -/
def loraham_hdr : Bytes := [LORAHAM_APRS_HDR0, LORAHAM_APRS_HDR1, LORAHAM_APRS_HDR2]

/-- `loraham_build_aprs_packet`. -/
def loraham_build_aprs_packet (tnc2 : Bytes) (out_size : Nat) : Except Lhkt Bytes :=
  let text := cstr tnc2
  if LHKT_LORAHAM_TX_MAX < LHKT_LORAHAM_HDR_LEN + text.length then .error .ERR_LONG
  else if out_size < LHKT_LORAHAM_HDR_LEN + text.length then .error .ERR_NOSPACE
  else .ok (loraham_hdr ++ text)

/-! ## Extracting text from received bytes -/

/-- `loraham_rx_state_t`; `len` and `pending_len` are lengths. -/
structure loraham_rx_state_t where
  buf : Bytes := []
  seen_header : Bool := false
  hdr_len : Nat := 0
  pending : Bytes := []
  deriving DecidableEq, Repr

/-- `loraham_rx_state_init`. -/
def loraham_rx_state_init : loraham_rx_state_t := {}

/-- `loraham_rx_packet_clear`: everything but the pending bytes. -/
def loraham_rx_packet_clear (state : loraham_rx_state_t) : loraham_rx_state_t :=
  { state with buf := [], seen_header := false, hdr_len := 0 }

/-- `loraham_append_payload`. -/
def loraham_append_payload (state : loraham_rx_state_t) (b : UInt8) :
    Except Lhkt loraham_rx_state_t :=
  if LHKT_TNC2_MAX_LINE - 1 ≤ state.buf.length then .error .ERR_LONG
  else .ok { state with buf := state.buf ++ [b] }

/-- `loraham_append_hdr_prefix`: the header bytes matched so far were text. -/
def loraham_append_hdr_prefix (state : loraham_rx_state_t) : Except Lhkt loraham_rx_state_t := do
  let state ← (loraham_hdr.take state.hdr_len).foldlM loraham_append_payload state
  .ok { state with hdr_len := 0 }

/-- `loraham_emit_tnc2`. -/
def loraham_emit_tnc2 (state : loraham_rx_state_t) (tnc2_size : Nat)
    (flush_partial_header keep_header_seen : Bool) :
    loraham_rx_state_t × Except Lhkt (Option Bytes) :=
  let flushed :=
    if flush_partial_header ∧ state.seen_header ∧ 0 < state.hdr_len then
      loraham_append_hdr_prefix state
    else .ok state
  match flushed with
  | .error ret => (loraham_rx_state_init, .error ret)
  | .ok state =>
      -- nothing to emit
      if !state.seen_header ∨ state.buf = [] then
        ({ state with
            hdr_len := 0
            seen_header :=
              if !keep_header_seen ∧ state.buf = [] then false else state.seen_header },
          .ok none)
      else if tnc2_size ≤ state.buf.length then
        (loraham_rx_packet_clear state, .error .ERR_NOSPACE)
      else
        ({ state with buf := [], hdr_len := 0, seen_header := keep_header_seen },
          .ok (some state.buf))

/-- One round of the loop in `loraham_extract_tnc2`: the byte has been taken off
the pending ones. `.ok none` is `continue`. -/
def loraham_extract_byte (tnc2_size : Nat) (state : loraham_rx_state_t) (b : UInt8) :
    loraham_rx_state_t × Except Lhkt (Option Bytes) :=
  if !state.seen_header then
    -- outside a packet: everything but a header is skipped
    if b = loraham_hdr.getD state.hdr_len 0 then
      let state := { state with hdr_len := state.hdr_len + 1 }
      if state.hdr_len = LHKT_LORAHAM_HDR_LEN then
        ({ state with seen_header := true, buf := [], hdr_len := 0 }, .ok none)
      else (state, .ok none)
    else if b = LORAHAM_APRS_HDR0 then ({ state with hdr_len := 1 }, .ok none)
    else ({ state with hdr_len := 0 }, .ok none)
  else if 0 < state.hdr_len ∧ b = loraham_hdr.getD state.hdr_len 0 then
    -- the next header ends the packet in progress
    let state := { state with hdr_len := state.hdr_len + 1 }
    if state.hdr_len = LHKT_LORAHAM_HDR_LEN then loraham_emit_tnc2 state tnc2_size false true
    else (state, .ok none)
  else
    -- a header that does not go on was text
    let flushed := if 0 < state.hdr_len then loraham_append_hdr_prefix state else .ok state
    match flushed with
    | .error ret => (loraham_rx_state_init, .error ret)
    | .ok state =>
        if b = ch '\r' ∨ b = ch '\n' then loraham_emit_tnc2 state tnc2_size true false
        else if b = LORAHAM_APRS_HDR0 then ({ state with hdr_len := 1 }, .ok none)
        else
          match loraham_append_payload state b with
          | .error ret => (loraham_rx_state_init, .error ret)
          | .ok state => (state, .ok none)

/-- The loop `while (state->pending_len > 0)`: up to the first text or error. -/
def loraham_extract_pending (tnc2_size : Nat) :
    loraham_rx_state_t → Bytes → loraham_rx_state_t × Except Lhkt (Option Bytes)
  | state, [] => ({ state with pending := [] }, .ok none)
  | state, b :: pending =>
      match loraham_extract_byte tnc2_size { state with pending := pending } b with
      | (state, .ok none) => loraham_extract_pending tnc2_size state pending
      | (state, ret) => (state, ret)

/-- `loraham_extract_tnc2`. Without new data and without pending bytes it
flushes the packet in progress. -/
def loraham_extract_tnc2 (state : loraham_rx_state_t) (data : Bytes) (tnc2_size : Nat) :
    loraham_rx_state_t × Except Lhkt (Option Bytes) :=
  let flush_on_empty : Bool := data = [] ∧ state.pending = []
  if data ≠ [] ∧ LHKT_LORAHAM_RX_PENDING - state.pending.length < data.length then
    (loraham_rx_state_init, .error .ERR_LONG)
  else
    match loraham_extract_pending tnc2_size state (state.pending ++ data) with
    | (state, .ok none) =>
        if flush_on_empty then loraham_emit_tnc2 state tnc2_size true false
        else (state, .ok none)
    | (state, ret) => (state, ret)

/-! ## CONF commands -/

/-- `loraham_ldro_value`. -/
def loraham_ldro_value (cfg : lhkt_config_t) : Bytes :=
  if cfg.ldro_auto then ascii "AUTO" else fmt_d (if cfg.ldro then 1 else 0)

/-- The text `loraham_send_config_line` prints. -/
def config_line (cfg : lhkt_config_t) (freq : Option ℚ) : Bytes :=
  ascii "SET MODE=LORA" ++
    (match freq with
      | some f => ascii " FREQ=" ++ fmt_f 6 f
      | none => []) ++
    ascii " SF=" ++ fmt_d cfg.sf ++ ascii " BW=" ++ fmt_f 3 cfg.bw ++
    ascii " CR=" ++ fmt_d cfg.cr ++ ascii " CRC=" ++ fmt_d cfg.crc ++
    ascii " PREAMBLE=" ++ fmt_d cfg.preamble ++ ascii " SYNC=0x" ++ fmt_02X cfg.syncword ++
    ascii " LDRO=" ++ loraham_ldro_value cfg ++ ascii " POWER=" ++ fmt_d cfg.power ++
    ascii "\n"

/-- `SET TXRESULT=1`, the command that turns TX_RESULT frames on. -/
def txresult_line : Bytes := ascii "SET TXRESULT=1\n"

/-- `GET STATUS`. -/
def status_line : Bytes := ascii "GET STATUS\n"

/-- One command written to the CONF socket, on the history of that socket. -/
def send_command (e : sock_env) (line : Bytes) (tx : List (Sent UInt8)) :
    List (Sent UInt8) × Lhkt :=
  let sent := loraham_sock_write e line
  (tx ++ [sent], if sent.ok then .OK else .ERR)

/-- `loraham_send_config_line`; the line buffer holds 256 bytes. -/
def loraham_send_config_line (e : sock_env) (cfg : lhkt_config_t) (freq : Option ℚ)
    (tx : List (Sent UInt8)) : List (Sent UInt8) × Lhkt :=
  if 256 ≤ (config_line cfg freq).length then (tx, .ERR_NOSPACE)
  else send_command e (config_line cfg freq) tx

/-- `loraham_send_config_freq`. -/
def loraham_send_config_freq (e : sock_env) (cfg : lhkt_config_t) (freq : ℚ)
    (tx : List (Sent UInt8)) : List (Sent UInt8) × Lhkt :=
  if freq ≤ 0 then (tx, .ERR_FORMAT)
  else loraham_send_config_line e cfg (some freq) tx

/-- `loraham_send_txresult_enable`. -/
def loraham_send_txresult_enable (e : sock_env) (tx : List (Sent UInt8)) :
    List (Sent UInt8) × Lhkt :=
  send_command e txresult_line tx

/-- `loraham_send_config`: the receive frequency, when there is one. -/
def loraham_send_config (e : sock_env) (cfg : lhkt_config_t) (tx : List (Sent UInt8)) :
    List (Sent UInt8) × Lhkt :=
  if cfg.have_rx_freq then loraham_send_config_freq e cfg cfg.rx_freq tx
  else loraham_send_config_line e cfg none tx

/-- The lines the bridge writes to the CONF socket. -/
def IsCommand (cfg : lhkt_config_t) (line : Bytes) : Prop :=
  (∃ freq, line = config_line cfg freq) ∨ line = txresult_line ∨ line = status_line

end LorahamKissTnc.LorahamSock
