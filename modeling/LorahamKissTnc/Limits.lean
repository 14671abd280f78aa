/-
The fixed buffers, and why none of them is the reason for a drop.

Each buffer has its own size, and every stage checks it. The sizes dominate each
other through the worst cases of what was accepted before: a valid frame formats
to less than a line buffer and encodes to at most 328 octets, escaping at most
doubles these, and a line buffer is longer than a packet may be. For the frames
from the client and the lines from the radio these bounds are lemmas about the
stages already (`tnc2_format_line_valid`, `length_ui_octets_le`,
`length_kiss_data_frame_le`).

The extractor is called again and again on its own state, so for it the bound is
an invariant. `frame_calls` is the list of its calls while a frame of the daemon's
stream is handled, read off copies of the loops that keep a record
(`handle_loraham_chunk_loop_traced_fst` and the lemmas behind it say that they
are the same loops).
-/
import LorahamKissTnc.RxPacket

set_option autoImplicit false

open LorahamKissTnc.Lib.CString LorahamKissTnc.Lib.Channel LorahamKissTnc.Lib.Machine
open LorahamKissTnc.Config LorahamKissTnc.Kiss LorahamKissTnc.Ax25 LorahamKissTnc.Tnc2
open LorahamKissTnc.LorahamSock LorahamKissTnc.BridgeRx LorahamKissTnc.RxPacket

namespace LorahamKissTnc.Limits

/-! ## The calls of the extractor -/

/-- One call of `loraham_extract_tnc2`, with a text buffer of
`LHKT_TNC2_MAX_LINE` bytes. -/
structure extract_call where
  state : loraham_rx_state_t
  data : Bytes
  deriving DecidableEq, Repr

/-- What the call answers. -/
def extract_call.answer (call : extract_call) : Except Lhkt (Option Bytes) :=
  (loraham_extract_tnc2 call.state call.data LHKT_TNC2_MAX_LINE).2

/-- The call finds no room for its data behind the pending bytes. -/
def extract_call.Overflows (call : extract_call) : Prop :=
  call.data ≠ [] ∧ LHKT_LORAHAM_RX_PENDING - call.state.pending.length < call.data.length

/-- `handle_loraham_chunk_loop` with its calls of the extractor, in order. -/
def handle_loraham_chunk_loop_traced (w : Nat → List write_ret) (client_fd : Bool) :
    Nat → loraham_rx_state_t → Bytes → bridge_rx_t →
      (bridge_rx_t × loraham_rx_state_t × Lhkt) × List extract_call
  | 0, rx_state, _, c => ((c, rx_state, .OK), [])
  | rounds + 1, rx_state, buf, c =>
      let call : extract_call := ⟨rx_state, buf⟩
      match loraham_extract_tnc2 rx_state buf LHKT_TNC2_MAX_LINE with
      | (rx_state, .ok (some tnc2)) =>
          let c := c.count .loraham_rx
          let r := bridge_rx_send_tnc2_to_kiss_client w client_fd tnc2 c
          if r.2 ≠ .OK then ((r.1, rx_state, r.2), [call])
          else if rx_state.pending = [] then ((r.1, rx_state, .OK), [call])
          else
            let t := handle_loraham_chunk_loop_traced w client_fd rounds rx_state [] r.1
            (t.1, call :: t.2)
      | (rx_state, .ok none) =>
          if rx_state.pending = [] then ((c, rx_state, .OK), [call])
          else
            let t := handle_loraham_chunk_loop_traced w client_fd rounds rx_state [] c
            (t.1, call :: t.2)
      | (rx_state, .error ret) => ((c.count .loraham_drop, rx_state, ret), [call])

/-- The trace does not disturb the loop. -/
theorem handle_loraham_chunk_loop_traced_fst (w : Nat → List write_ret) (client_fd : Bool)
    (rounds : Nat) : ∀ (rx_state : loraham_rx_state_t) (buf : Bytes) (c : bridge_rx_t),
      (handle_loraham_chunk_loop_traced w client_fd rounds rx_state buf c).1
        = handle_loraham_chunk_loop w client_fd rounds rx_state buf c := by
  induction rounds with
  | zero => exact fun rx_state buf c => rfl
  | succ rounds ih =>
      intro rx_state buf c
      unfold handle_loraham_chunk_loop_traced handle_loraham_chunk_loop
      generalize loraham_extract_tnc2 rx_state buf LHKT_TNC2_MAX_LINE = r
      obtain ⟨st, answer⟩ := r
      cases answer with
      | error ret => rfl
      | ok text =>
          cases text with
          | none =>
              dsimp only
              by_cases hp : st.pending = []
              · rw [if_pos hp, if_pos hp]
              · rw [if_neg hp, if_neg hp]
                apply ih
          | some tnc2 =>
              dsimp only
              generalize bridge_rx_send_tnc2_to_kiss_client w client_fd tnc2
                (c.count .loraham_rx) = r
              by_cases hret : r.2 ≠ .OK
              · rw [if_pos hret, if_pos hret]
              · rw [if_neg hret, if_neg hret]
                by_cases hp : st.pending = []
                · rw [if_pos hp, if_pos hp]
                · rw [if_neg hp, if_neg hp]
                  apply ih

/-- **One round.** It makes one call and is the last one, or goes on with what the
call has left pending. How the round went does not depend on the rounds left. -/
theorem handle_loraham_chunk_loop_round (w : Nat → List write_ret) (client_fd : Bool)
    (state : loraham_rx_state_t) (data : Bytes) (c : bridge_rx_t) :
    let st := (loraham_extract_tnc2 state data LHKT_TNC2_MAX_LINE).1
    (∃ c' ret, ∀ rounds, handle_loraham_chunk_loop_traced w client_fd (rounds + 1) state data c
      = ((c', st, ret), [⟨state, data⟩])) ∨
    (st.pending ≠ [] ∧ ∃ c', ∀ rounds,
      handle_loraham_chunk_loop_traced w client_fd (rounds + 1) state data c
        = ((handle_loraham_chunk_loop_traced w client_fd rounds st [] c').1,
          ⟨state, data⟩ :: (handle_loraham_chunk_loop_traced w client_fd rounds st [] c').2)) := by
  obtain ⟨st, answer, hext⟩ : ∃ st answer,
      loraham_extract_tnc2 state data LHKT_TNC2_MAX_LINE = (st, answer) := ⟨_, _, rfl⟩
  dsimp only
  simp only [handle_loraham_chunk_loop_traced, hext]
  cases answer with
  | error ret => exact .inl ⟨_, _, fun _ => rfl⟩
  | ok text =>
      cases text with
      | none =>
          dsimp only
          by_cases hp : st.pending = []
          · left
            exact ⟨c, .OK, fun _ => if_pos hp⟩
          · right
            exact ⟨hp, c, fun _ => if_neg hp⟩
      | some tnc2 =>
          dsimp only
          generalize bridge_rx_send_tnc2_to_kiss_client w client_fd tnc2 (c.count .loraham_rx) = r
          by_cases hret : r.2 ≠ .OK
          · left
            exact ⟨r.1, r.2, fun _ => if_pos hret⟩
          · by_cases hp : st.pending = []
            · left
              exact ⟨r.1, .OK, fun _ => (if_neg hret).trans (if_pos hp)⟩
            · right
              exact ⟨hp, r.1, fun _ => (if_neg hret).trans (if_neg hp)⟩

/-- `bridge_rx_handle_loraham_chunk` with its calls. -/
def bridge_rx_handle_loraham_chunk_traced (w : Nat → List write_ret) (client_fd : Bool)
    (rx_state : loraham_rx_state_t) (buf : Bytes) (c : bridge_rx_t) :
    (bridge_rx_t × loraham_rx_state_t × Lhkt) × List extract_call :=
  handle_loraham_chunk_loop_traced w client_fd (rx_state.pending.length + buf.length + 1) rx_state
    buf c

theorem bridge_rx_handle_loraham_chunk_traced_fst (w : Nat → List write_ret) (client_fd : Bool)
    (rx_state : loraham_rx_state_t) (buf : Bytes) (c : bridge_rx_t) :
    (bridge_rx_handle_loraham_chunk_traced w client_fd rx_state buf c).1
      = bridge_rx_handle_loraham_chunk w client_fd rx_state buf c :=
  handle_loraham_chunk_loop_traced_fst w client_fd _ rx_state buf c

/-- `bridge_rx_send_loraham_packet_to_kiss_client` with its calls. -/
def bridge_rx_send_loraham_packet_traced (w : Nat → List write_ret) (client_fd : Bool)
    (packet : Bytes) (c : bridge_rx_t) : (bridge_rx_t × Lhkt) × List extract_call :=
  if !client_fd then ((c, .ERR), [])
  else
    let before := c.stats.loraham_rx
    let t := bridge_rx_handle_loraham_chunk_traced w client_fd loraham_rx_state_init packet c
    let r := t.1
    if r.2.2 ≠ .OK then ((r.1, r.2.2), t.2)
    else
      let t' := bridge_rx_handle_loraham_chunk_traced w client_fd r.2.1 [] r.1
      let r := t'.1
      if r.2.2 ≠ .OK then ((r.1, r.2.2), t.2 ++ t'.2)
      else if r.1.stats.loraham_rx = before then
        ((r.1.count .loraham_drop, .ERR_FORMAT), t.2 ++ t'.2)
      else ((r.1, .OK), t.2 ++ t'.2)

theorem bridge_rx_send_loraham_packet_traced_fst (w : Nat → List write_ret) (client_fd : Bool)
    (packet : Bytes) (c : bridge_rx_t) :
    (bridge_rx_send_loraham_packet_traced w client_fd packet c).1
      = bridge_rx_send_loraham_packet_to_kiss_client w client_fd packet c := by
  unfold bridge_rx_send_loraham_packet_traced bridge_rx_send_loraham_packet_to_kiss_client
  simp only [bridge_rx_handle_loraham_chunk_traced_fst]
  cases client_fd with
  | false => rfl
  | true =>
      simp only [Bool.not_true, Bool.false_eq_true, if_false]
      split
      · rfl
      · split
        · rfl
        · split <;> rfl

/-- `bridge_rx_handle_framed_frame` with its calls. -/
def bridge_rx_handle_framed_frame_traced (w : Nat → List write_ret) (client_fd : Bool)
    (frame : loraham_frame_t) (c : bridge_rx_t) : (bridge_rx_t × Lhkt) × List extract_call :=
  if frame.type = LORAHAM_FRAME_RX_PACKET then
    let c := log_rx_packet frame.payload c
    if !client_fd then ((c.count .loraham_drop, .OK), [])
    else if frame.payload.length < BRIDGE_RX_LORAHAM_META_LEN then
      ((c.count .loraham_drop, .OK), [])
    else bridge_rx_send_loraham_packet_traced w client_fd (rf_bytes frame.payload) c
  else if frame.type = LORAHAM_FRAME_ERROR then ((c.count .loraham_framed_errors, .OK), [])
  else ((c.count .loraham_drop, .OK), [])

theorem bridge_rx_handle_framed_frame_traced_fst (w : Nat → List write_ret) (client_fd : Bool)
    (frame : loraham_frame_t) (c : bridge_rx_t) :
    (bridge_rx_handle_framed_frame_traced w client_fd frame c).1
      = bridge_rx_handle_framed_frame w client_fd frame c := by
  unfold bridge_rx_handle_framed_frame_traced bridge_rx_handle_framed_frame
  split
  · dsimp only
    split
    · rfl
    · split
      · rfl
      · apply bridge_rx_send_loraham_packet_traced_fst
  · split <;> rfl

/-- The calls of the extractor while a frame is handled. -/
def frame_calls (w : Nat → List write_ret) (client_fd : Bool) (frame : loraham_frame_t)
    (c : bridge_rx_t) : List extract_call :=
  (bridge_rx_handle_framed_frame_traced w client_fd frame c).2

/-! ## Room in the extractor -/

/-- Where the extractor has got to after some work: its text leaves room for the
terminator, at most `n` bytes are pending, and no buffer was too small. -/
structure Within (n : Nat) (r : loraham_rx_state_t × Except Lhkt (Option Bytes)) : Prop where
  room : r.1.buf.length < LHKT_TNC2_MAX_LINE
  pending_le : r.1.pending.length ≤ n
  fits : r.2 ≠ .error .ERR_NOSPACE

theorem Within.mono {n m : Nat} {r : loraham_rx_state_t × Except Lhkt (Option Bytes)}
    (h : Within n r) (hnm : n ≤ m) : Within m r := by
  constructor
  · exact h.room
  · exact Nat.le_trans h.pending_le hnm
  · exact h.fits

/-- A failure for a text that is too long starts over. -/
theorem Within.too_long (n : Nat) : Within n (loraham_rx_state_init, .error .ERR_LONG) := by
  constructor
  · decide
  · exact Nat.zero_le n
  · simp

/-- A state that goes on without a text. -/
theorem Within.goes_on {n : Nat} {state : loraham_rx_state_t}
    (hroom : state.buf.length < LHKT_TNC2_MAX_LINE) (hpending : state.pending.length ≤ n) :
    Within n (state, .ok none) := by
  constructor
  · exact hroom
  · exact hpending
  · simp

/-- Text is appended only where there is room for it and the terminator. -/
theorem append_payload_within (state : loraham_rx_state_t) (b : UInt8) :
    Within state.pending.length
      (match loraham_append_payload state b with
        | .error ret => (loraham_rx_state_init, .error ret)
        | .ok state => (state, .ok none)) := by
  unfold loraham_append_payload
  by_cases hfull : LHKT_TNC2_MAX_LINE - 1 ≤ state.buf.length
  · rw [if_pos hfull]
    apply Within.too_long
  · rw [if_neg hfull]
    apply Within.goes_on
    · show (state.buf ++ [b]).length < LHKT_TNC2_MAX_LINE
      rw [List.length_append, List.length_singleton]
      omega
    · exact Nat.le_refl _

/-- So the text always fits into a line buffer when it is handed on. -/
theorem emit_plain_within {state : loraham_rx_state_t}
    (hroom : state.buf.length < LHKT_TNC2_MAX_LINE) (keep : Bool) :
    Within state.pending.length (loraham_emit_tnc2 state LHKT_TNC2_MAX_LINE false keep) := by
  unfold loraham_emit_tnc2
  simp only [Bool.false_eq_true, false_and, if_false]
  split
  · apply Within.goes_on
    · exact hroom
    · exact Nat.le_refl _
  · rw [if_neg (by omega)]
    constructor
    · simp
    · exact Nat.le_refl _
    · simp

/-- The matched part of a header is put back only where there is room for it. -/
theorem append_hdr_prefix_within {state : loraham_rx_state_t}
    {k : loraham_rx_state_t → loraham_rx_state_t × Except Lhkt (Option Bytes)}
    (hroom : state.buf.length < LHKT_TNC2_MAX_LINE)
    (hk : ∀ state' : loraham_rx_state_t, state'.buf.length < LHKT_TNC2_MAX_LINE →
      state'.pending = state.pending → Within state.pending.length (k state')) :
    Within state.pending.length
      (match loraham_append_hdr_prefix state with
        | .error ret => (loraham_rx_state_init, .error ret)
        | .ok state => k state) := by
  cases hflushed : loraham_append_hdr_prefix state with
  | error ret =>
      rw [append_hdr_prefix_error hflushed]
      apply Within.too_long
  | ok state' =>
      obtain ⟨hstate, hfit⟩ := append_hdr_prefix_ok hflushed
      apply hk
      · exact hfit hroom
      · rw [hstate]

theorem emit_within {state : loraham_rx_state_t} (hroom : state.buf.length < LHKT_TNC2_MAX_LINE)
    (flush keep : Bool) :
    Within state.pending.length (loraham_emit_tnc2 state LHKT_TNC2_MAX_LINE flush keep) := by
  by_cases hflush : flush = true ∧ state.seen_header = true ∧ 0 < state.hdr_len
  · -- after the flush there is nothing more to put back
    have hsplit : loraham_emit_tnc2 state LHKT_TNC2_MAX_LINE flush keep
        = match loraham_append_hdr_prefix state with
          | .error ret => (loraham_rx_state_init, .error ret)
          | .ok state => loraham_emit_tnc2 state LHKT_TNC2_MAX_LINE false keep := by
      unfold loraham_emit_tnc2
      rw [if_pos hflush]
      cases loraham_append_hdr_prefix state with
      | error ret => rfl
      | ok state' => simp
    rw [hsplit]
    apply append_hdr_prefix_within hroom
    intro state' hroom' hpending
    rw [← hpending]
    exact emit_plain_within hroom' keep
  · have hsame : loraham_emit_tnc2 state LHKT_TNC2_MAX_LINE flush keep
        = loraham_emit_tnc2 state LHKT_TNC2_MAX_LINE false keep := by
      unfold loraham_emit_tnc2
      rw [if_neg hflush]
      simp
    rw [hsame]
    exact emit_plain_within hroom keep

/-- A byte of a text, when what was matched of a header is text already. -/
theorem extract_text_byte_within {state : loraham_rx_state_t}
    (hroom : state.buf.length < LHKT_TNC2_MAX_LINE) (b : UInt8) :
    Within state.pending.length
      (if b = ch '\r' ∨ b = ch '\n' then loraham_emit_tnc2 state LHKT_TNC2_MAX_LINE true false
        else if b = LORAHAM_APRS_HDR0 then ({ state with hdr_len := 1 }, .ok none)
        else match loraham_append_payload state b with
          | .error ret => (loraham_rx_state_init, .error ret)
          | .ok state => (state, .ok none)) := by
  by_cases heol : b = ch '\r' ∨ b = ch '\n'
  · rw [if_pos heol]
    exact emit_within hroom true false
  · rw [if_neg heol]
    by_cases hstart : b = LORAHAM_APRS_HDR0
    · rw [if_pos hstart]
      apply Within.goes_on
      · exact hroom
      · exact Nat.le_refl _
    · rw [if_neg hstart]
      apply append_payload_within

/-- **One byte.** -/
theorem extract_byte_within {state : loraham_rx_state_t}
    (hroom : state.buf.length < LHKT_TNC2_MAX_LINE) (b : UInt8) :
    Within state.pending.length (loraham_extract_byte LHKT_TNC2_MAX_LINE state b) := by
  -- the states that only match on keep the text and the pending bytes
  have hkeep : ∀ (seen : Bool) (n : Nat), Within state.pending.length
      ({ state with seen_header := seen, hdr_len := n }, .ok none) := by
    intro seen n
    apply Within.goes_on
    · exact hroom
    · exact Nat.le_refl _
  unfold loraham_extract_byte
  by_cases hseen : (!state.seen_header) = true
  · -- outside a packet nothing is stored
    rw [if_pos hseen]
    dsimp only
    by_cases hb : b = loraham_hdr.getD state.hdr_len 0
    · rw [if_pos hb]
      by_cases hend : state.hdr_len + 1 = LHKT_LORAHAM_HDR_LEN
      · rw [if_pos hend]
        apply Within.goes_on
        · simp
        · exact Nat.le_refl _
      · rw [if_neg hend]
        apply hkeep
    · rw [if_neg hb]
      by_cases hstart : b = LORAHAM_APRS_HDR0
      · rw [if_pos hstart]
        apply hkeep
      · rw [if_neg hstart]
        apply hkeep
  · rw [if_neg hseen]
    dsimp only
    by_cases hb : 0 < state.hdr_len ∧ b = loraham_hdr.getD state.hdr_len 0
    · rw [if_pos hb]
      by_cases hend : state.hdr_len + 1 = LHKT_LORAHAM_HDR_LEN
      · -- the next header hands on the text so far
        rw [if_pos hend]
        exact @emit_within { state with hdr_len := state.hdr_len + 1 } hroom false true
      · rw [if_neg hend]
        apply hkeep
    · rw [if_neg hb]
      by_cases hpart : 0 < state.hdr_len
      · rw [if_pos hpart]
        apply append_hdr_prefix_within hroom
        intro state' hroom' hpending
        rw [← hpending]
        exact extract_text_byte_within hroom' b
      · rw [if_neg hpart]
        exact extract_text_byte_within hroom b

/-- The loop over the pending bytes takes the first one in any case. -/
theorem extract_pending_cons_within {bytes : Bytes}
    (hrest : ∀ {state : loraham_rx_state_t}, state.buf.length < LHKT_TNC2_MAX_LINE →
      Within bytes.length (loraham_extract_pending LHKT_TNC2_MAX_LINE state bytes))
    {state : loraham_rx_state_t} (hroom : state.buf.length < LHKT_TNC2_MAX_LINE) (b : UInt8) :
    Within bytes.length (loraham_extract_pending LHKT_TNC2_MAX_LINE state (b :: bytes)) := by
  have hbyte := @extract_byte_within { state with pending := bytes } hroom b
  unfold loraham_extract_pending
  split
  · rename_i hst
    rw [hst] at hbyte
    exact hrest hbyte.room
  · rename_i hst
    rw [hst] at hbyte
    exact hbyte

/-- What it leaves of them is pending. -/
theorem extract_pending_within (bytes : Bytes) : ∀ {state : loraham_rx_state_t},
    state.buf.length < LHKT_TNC2_MAX_LINE →
      Within bytes.length (loraham_extract_pending LHKT_TNC2_MAX_LINE state bytes) := by
  induction bytes with
  | nil =>
      intro state hroom
      apply Within.goes_on
      · exact hroom
      · exact Nat.le_refl 0
  | cons b bytes ih =>
      intro state hroom
      apply (extract_pending_cons_within ih hroom b).mono
      simp

/-- A call, when the data has room behind the pending bytes: it loops over all
bytes at hand, and without any it flushes. -/
theorem extract_tnc2_of_pending {state : loraham_rx_state_t} {data : Bytes} {n : Nat}
    (hfit : state.pending.length + data.length ≤ LHKT_LORAHAM_RX_PENDING)
    (h : Within n (loraham_extract_pending LHKT_TNC2_MAX_LINE state (state.pending ++ data))) :
    Within n (loraham_extract_tnc2 state data LHKT_TNC2_MAX_LINE) := by
  unfold loraham_extract_tnc2
  dsimp only
  rw [if_neg (by omega)]
  split
  · rename_i st hst
    rw [hst] at h
    split
    · exact (emit_within h.room true false).mono h.pending_le
    · exact h
  · rename_i hst
    rw [hst] at h
    exact h

/-- **One call** stays within its buffers, and no more is pending afterwards. -/
theorem extract_tnc2_within {state : loraham_rx_state_t} {data : Bytes}
    (hroom : state.buf.length < LHKT_TNC2_MAX_LINE)
    (hfit : state.pending.length + data.length ≤ LHKT_LORAHAM_RX_PENDING) :
    Within (state.pending.length + data.length)
      (loraham_extract_tnc2 state data LHKT_TNC2_MAX_LINE) := by
  apply extract_tnc2_of_pending hfit
  rw [← List.length_append]
  exact extract_pending_within _ hroom

/-- A call makes progress: afterwards nothing is pending, or less than before. -/
theorem extract_tnc2_progress {state : loraham_rx_state_t} {data : Bytes}
    (hroom : state.buf.length < LHKT_TNC2_MAX_LINE)
    (hfit : state.pending.length + data.length ≤ LHKT_LORAHAM_RX_PENDING) :
    (loraham_extract_tnc2 state data LHKT_TNC2_MAX_LINE).1.pending = [] ∨
      (loraham_extract_tnc2 state data LHKT_TNC2_MAX_LINE).1.pending.length
        < state.pending.length + data.length := by
  by_cases hnil : state.pending ++ data = []
  · -- without bytes at hand there are none afterwards
    have hwithin := (extract_tnc2_within hroom hfit).pending_le
    rw [← List.length_append, hnil] at hwithin
    exact .inl (List.eq_nil_of_length_eq_zero (Nat.le_zero.mp hwithin))
  · obtain ⟨b, bytes, hbytes⟩ := List.exists_cons_of_ne_nil hnil
    have hpending := extract_pending_cons_within (extract_pending_within bytes) hroom b
    rw [← hbytes] at hpending
    have hless := (extract_tnc2_of_pending hfit hpending).pending_le
    have hlen : bytes.length + 1 = state.pending.length + data.length := by
      rw [← List.length_append, hbytes, List.length_cons]
    right
    omega

/-! ## The loops -/

/-- The states in which the extractor is called, and left: the text has room, and
so have the bytes at hand. -/
def InLimits (state : loraham_rx_state_t) (data : Bytes) : Prop :=
  state.buf.length < LHKT_TNC2_MAX_LINE ∧
    state.pending.length + data.length ≤ LHKT_LORAHAM_RX_PENDING

/-- A call leaves a state in which it can be called again. -/
theorem InLimits.next {state : loraham_rx_state_t} {data : Bytes} (h : InLimits state data) :
    InLimits (loraham_extract_tnc2 state data LHKT_TNC2_MAX_LINE).1 [] := by
  have hwithin := extract_tnc2_within h.1 h.2
  constructor
  · exact hwithin.room
  · exact Nat.le_trans hwithin.pending_le h.2

/-- **The rounds of the loop** stay within the limits, whatever becomes of the
texts. -/
theorem handle_loraham_chunk_loop_in_limits (w : Nat → List write_ret) (client_fd : Bool)
    (rounds : Nat) : ∀ (state : loraham_rx_state_t) (data : Bytes) (c : bridge_rx_t),
      InLimits state data →
        InLimits (handle_loraham_chunk_loop_traced w client_fd rounds state data c).1.2.1 [] ∧
        ∀ call ∈ (handle_loraham_chunk_loop_traced w client_fd rounds state data c).2,
          InLimits call.state call.data := by
  induction rounds with
  | zero =>
      intro state data c h
      have hnil : InLimits state [] := ⟨h.1, Nat.le_trans (Nat.le_add_right _ _) h.2⟩
      exact ⟨hnil, by simp [handle_loraham_chunk_loop_traced]⟩
  | succ rounds ih =>
      intro state data c h
      have hst := h.next
      rcases handle_loraham_chunk_loop_round w client_fd state data c with
        ⟨c', ret, hround⟩ | ⟨-, c', hround⟩
      · rw [hround]
        refine ⟨hst, ?_⟩
        intro call hcall
        rw [List.mem_singleton.mp hcall]
        exact h
      · -- what the call has left is where the next round starts
        obtain ⟨hend, hcalls⟩ := ih _ [] c' hst
        rw [hround]
        refine ⟨hend, ?_⟩
        intro call hcall
        rcases List.mem_cons.mp hcall with rfl | hcall
        · exact h
        · exact hcalls call hcall

/-- **The loop ends by itself**: more rounds than there are bytes at hand make no
difference. -/
theorem handle_loraham_chunk_loop_ends (w : Nat → List write_ret) (client_fd : Bool)
    (rounds : Nat) : ∀ (more : Nat) (state : loraham_rx_state_t) (data : Bytes) (c : bridge_rx_t),
      InLimits state data → state.pending.length + data.length < rounds →
        handle_loraham_chunk_loop_traced w client_fd (rounds + more) state data c
          = handle_loraham_chunk_loop_traced w client_fd rounds state data c := by
  induction rounds with
  | zero => exact fun _ _ _ _ _ hrounds => absurd hrounds (Nat.not_lt_zero _)
  | succ rounds ih =>
      intro more state data c h hrounds
      rw [Nat.add_right_comm]
      rcases handle_loraham_chunk_loop_round w client_fd state data c with
        ⟨c', ret, hround⟩ | ⟨hp, c', hround⟩
      · rw [hround, hround]
      · -- there are fewer bytes at hand in the next round
        have hlt := (extract_tnc2_progress h.1 h.2).resolve_left hp
        have hrest : (loraham_extract_tnc2 state data LHKT_TNC2_MAX_LINE).1.pending.length
            + ([] : Bytes).length < rounds := by
          rw [List.length_nil]
          omega
        rw [hround, hround, ih more _ [] c' h.next hrest]

theorem not_mem_calls {call : extract_call} (hcall : call ∈ ([] : List extract_call)) :
    InLimits call.state call.data := absurd hcall List.not_mem_nil

/-- **A packet**: the first call handles its bytes, the second one flushes. -/
theorem packet_calls_in_limits (w : Nat → List write_ret) (client_fd : Bool) {packet : Bytes}
    (hlen : packet.length ≤ LHKT_LORAHAM_RX_PENDING) (c : bridge_rx_t) :
    ∀ call ∈ (bridge_rx_send_loraham_packet_traced w client_fd packet c).2,
      InLimits call.state call.data := by
  have hstart : InLimits loraham_rx_state_init packet := by
    constructor
    · decide
    · show 0 + packet.length ≤ LHKT_LORAHAM_RX_PENDING
      omega
  obtain ⟨hend, hfirst⟩ := handle_loraham_chunk_loop_in_limits w client_fd
    (loraham_rx_state_init.pending.length + packet.length + 1) _ _ c hstart
  unfold bridge_rx_send_loraham_packet_traced bridge_rx_handle_loraham_chunk_traced
  split
  · exact fun _ => not_mem_calls
  · dsimp only
    split
    · exact hfirst
    · have hsecond := fun rounds c' =>
        (handle_loraham_chunk_loop_in_limits w client_fd rounds _ [] c' hend).2
      repeat' split
      all_goals
        intro call hcall
        rcases List.mem_append.mp hcall with hcall | hcall
        · exact hfirst call hcall
        · exact hsecond _ _ call hcall

/-- **A frame of the daemon's stream.** -/
theorem frame_calls_in_limits (w : Nat → List write_ret) (client_fd : Bool)
    {frame : loraham_frame_t} (hlen : frame.payload.length ≤ LHKT_FRAMED_MAX_PAYLOAD)
    (c : bridge_rx_t) :
    ∀ call ∈ frame_calls w client_fd frame c, InLimits call.state call.data := by
  have hpacket : (rf_bytes frame.payload).length ≤ LHKT_LORAHAM_RX_PENDING := by
    unfold rf_bytes
    rw [List.length_drop]
    simp only [LHKT_FRAMED_MAX_PAYLOAD] at hlen
    simp only [LHKT_LORAHAM_RX_PENDING]
    omega
  unfold frame_calls bridge_rx_handle_framed_frame_traced
  split
  · dsimp only
    split
    · exact fun _ => not_mem_calls
    · split
      · exact fun _ => not_mem_calls
      · exact packet_calls_in_limits w client_fd hpacket _
  · split
    · exact fun _ => not_mem_calls
    · exact fun _ => not_mem_calls

/-- A call within the limits neither overflows nor fails for want of space. -/
theorem InLimits.fits {call : extract_call} (h : InLimits call.state call.data) :
    ¬ call.Overflows ∧ call.answer ≠ .error .ERR_NOSPACE := by
  have hfit := h.2
  constructor
  · rintro ⟨-, hover⟩
    omega
  · exact (extract_tnc2_within h.1 h.2).fits

/-! ## The drop branches -/

/-- An accepted line: its frame is written to the client, and what can fail is
the write. -/
theorem send_tnc2_accepted {line : Bytes} {frame : ax25_frame_t}
    (h : tnc2_parse_line line = .ok frame) (w : Nat → List write_ret) (c : bridge_rx_t) :
    bridge_rx_send_tnc2_to_kiss_client w true line c =
      let c := (c.count .tnc2_rx).count .ax25_tx
      let sent := bridge_rx_write_all_fd w (kiss_data_frame (ui_octets frame)) c.client_tx
      let c := { c with client_tx := c.client_tx ++ [sent] }
      if !sent.ok then (c.count .kiss_drop, .ERR_CLIENT_SOCKET) else (c.count .kiss_tx, .OK) := by
  obtain ⟨hax25, hkiss⟩ := encode_accepted h
  unfold bridge_rx_send_tnc2_to_kiss_client
  rw [h]
  dsimp only
  rw [hax25]
  dsimp only
  rw [hkiss]
  rfl

/-- No line is dropped by an encoder. -/
theorem send_tnc2_drops (w : Nat → List write_ret) (client_fd : Bool) (line : Bytes)
    (c : bridge_rx_t) :
    let r := bridge_rx_send_tnc2_to_kiss_client w client_fd line c
    r.1.stats.ax25_drop = c.stats.ax25_drop ∧
      (r.1.stats.kiss_drop ≠ c.stats.kiss_drop → r.2 = .ERR_CLIENT_SOCKET ∧
        ∃ sent, r.1.client_tx = c.client_tx ++ [sent] ∧ IsKissFrame sent.buf ∧ sent.ok = false) := by
  cases client_fd with
  | false => exact ⟨rfl, fun hkiss => absurd rfl hkiss⟩
  | true =>
      cases hline : tnc2_parse_line line with
      | error ret =>
          unfold bridge_rx_send_tnc2_to_kiss_client
          rw [hline]
          exact ⟨rfl, fun hkiss => absurd rfl hkiss⟩
      | ok frame =>
          rw [send_tnc2_accepted hline]
          dsimp only
          generalize hsent : bridge_rx_write_all_fd w (kiss_data_frame (ui_octets frame))
            ((c.count .tnc2_rx).count .ax25_tx).client_tx = sent
          cases hok : sent.ok with
          | true => exact ⟨rfl, fun hkiss => absurd rfl hkiss⟩
          | false =>
              have hframe : IsKissFrame sent.buf := by
                rw [← hsent]
                exact ⟨ui_octets frame, (encode_accepted hline).2⟩
              exact ⟨rfl, fun _ => ⟨rfl, sent, rfl, hframe, hok⟩⟩

/-- **Fixed buffers are never the reason for a drop.** A frame of the client is
refused by the formatter only for a NUL in its payload, and the packet is refused
only for being too long for the radio. No call of the extractor while a frame of
the daemon's stream is handled overflows the pending bytes or lacks space for a
text. Every accepted line is encoded, so the bridge counts no drop for an encoder:
what remains is a failed write of a complete frame. -/
theorem buffers_never_drop :
    (∀ data frame, ax25_decode_ui data = .ok frame →
      (∀ ret, tnc2_format_line frame LHKT_TNC2_MAX_LINE = .error ret ↔
        ret = .ERR_FORMAT ∧ 0 ∈ frame.payload) ∧
      ∀ tnc2, tnc2_format_line frame LHKT_TNC2_MAX_LINE = .ok tnc2 →
        ∀ ret, loraham_build_aprs_packet tnc2 LHKT_LORAHAM_TX_MAX = .error ret →
          ret = .ERR_LONG) ∧
    (∀ (w : Nat → List write_ret) (client_fd : Bool) (payload : Bytes) (c : bridge_rx_t),
      payload.length ≤ 1024 →
        ∀ call ∈ frame_calls w client_fd ⟨LORAHAM_FRAME_RX_PACKET, payload⟩ c,
          ¬ call.Overflows ∧ call.answer ≠ .error .ERR_NOSPACE) ∧
    (∀ line frame, tnc2_parse_line line = .ok frame →
      ∃ ax25_raw kiss_raw, ax25_encode_ui frame LHKT_AX25_MAX_FRAME = .ok ax25_raw ∧
        kiss_encode_data_frame ax25_raw LHKT_KISS_MAX_FRAME = .ok kiss_raw) ∧
    ∀ (w : Nat → List write_ret) (client_fd : Bool) (line : Bytes) (c : bridge_rx_t),
      let r := bridge_rx_send_tnc2_to_kiss_client w client_fd line c
      r.1.stats.ax25_drop = c.stats.ax25_drop ∧
        (r.1.stats.kiss_drop ≠ c.stats.kiss_drop → r.2 = .ERR_CLIENT_SOCKET ∧
          ∃ sent, r.1.client_tx = c.client_tx ++ [sent] ∧ IsKissFrame sent.buf ∧
            sent.ok = false) := by
  refine ⟨?_, ?_, ?_, send_tnc2_drops⟩
  · intro data frame hdecode
    obtain ⟨hv, -⟩ := ax25_decode_ui_valid hdecode
    constructor
    · intro ret
      rw [tnc2_format_line_valid hv]
      by_cases h0 : 0 ∈ frame.payload
      · rw [if_pos h0]
        simp [h0, eq_comm]
      · rw [if_neg h0]
        simp [h0]
    · intro tnc2 _ ret hbuild
      unfold loraham_build_aprs_packet at hbuild
      dsimp only at hbuild
      split at hbuild
      · exact (Except.error.inj hbuild).symm
      · -- the buffer is as long as the longest packet
        exact nomatch hbuild
  · intro w client_fd payload c hlen call hcall
    exact (frame_calls_in_limits w client_fd hlen c call hcall).fits
  · intro line frame hline
    obtain ⟨hax25, hkiss⟩ := encode_accepted hline
    exact ⟨_, _, hax25, hkiss⟩

/-- The frame of one line, from the client to the radio and back. -/
theorem buffers_never_drop_one_line :
    let frame : ax25_frame_t := ⟨⟨ascii "B", 0, false⟩, ⟨ascii "A", 0, false⟩, [], ascii "x"⟩
    let payload := [0, 0, 0, 0] ++ loraham_hdr ++ ascii "A>B:x"
    let calls := frame_calls (fun _ => []) true ⟨LORAHAM_FRAME_RX_PACKET, payload⟩ {}
    (∀ ret, tnc2_format_line frame LHKT_TNC2_MAX_LINE = .error ret ↔
      ret = .ERR_FORMAT ∧ 0 ∈ frame.payload) ∧
    calls.length = 2 ∧ (∀ call ∈ calls, ¬ call.Overflows ∧ call.answer ≠ .error .ERR_NOSPACE) ∧
    ∃ ax25_raw kiss_raw, ax25_encode_ui frame LHKT_AX25_MAX_FRAME = .ok ax25_raw ∧
      kiss_encode_data_frame ax25_raw LHKT_KISS_MAX_FRAME = .ok kiss_raw := by
  intro frame payload calls
  obtain ⟨htx, hrx, hline, -⟩ := buffers_never_drop
  have hdecode : ax25_decode_ui (ui_octets frame) = .ok frame := by decide +kernel
  have hparse : tnc2_parse_line (ascii "A>B:x") = .ok frame := by decide +kernel
  refine ⟨(htx _ frame hdecode).1, by decide +kernel, ?_, hline _ frame hparse⟩
  exact hrx (fun _ => []) true payload {} (by decide +kernel)

end LorahamKissTnc.Limits
