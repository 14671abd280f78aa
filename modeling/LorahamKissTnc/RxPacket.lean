/-
One received packet: which texts the extractor finds in it, and what becomes of
them.

`loraham_extract_tnc2` stops at the first text and keeps the bytes behind it, and
two loops around it call it again. Here the same automaton runs over a whole
packet at once (`extract_all`), and the two loops are shown to deliver exactly
the texts it finds, one by one, up to the first that is not a TNC2 line.
`packet_texts` adds the flush at the end of the packet. With a client whose
socket does not fail, a packet is delivered without an error exactly when it is
`Deliverable`: the extractor finds at least one text, and every text parses.
-/
import LorahamKissTnc.BridgeRx

set_option autoImplicit false

open LorahamKissTnc.Lib.CString LorahamKissTnc.Lib.Channel LorahamKissTnc.Lib.Machine
open LorahamKissTnc.Config LorahamKissTnc.Kiss LorahamKissTnc.Ax25 LorahamKissTnc.Tnc2
open LorahamKissTnc.LorahamSock LorahamKissTnc.BridgeRx

namespace LorahamKissTnc.RxPacket

/-! ## The texts of a packet -/

/-- An answer of the extractor without the state it leaves behind a failure. -/
def settled (r : loraham_rx_state_t × Except Lhkt (Option Bytes)) :
    Except Lhkt (loraham_rx_state_t × Option Bytes) :=
  match r with
  | (_, .error ret) => .error ret
  | (state, .ok text) => .ok (state, text)

/-- The extractor over a stretch of bytes, not stopping at the texts it finds. -/
def extract_all : loraham_rx_state_t → Bytes → Except Lhkt (loraham_rx_state_t × List Bytes)
  | state, [] => .ok (state, [])
  | state, b :: bytes => do
      let (state, text) ← settled (loraham_extract_byte LHKT_TNC2_MAX_LINE state b)
      let (state, texts) ← extract_all state bytes
      .ok (state, text.toList ++ texts)

/-- The texts of a whole packet: the last one is flushed at its end. -/
def packet_texts (packet : Bytes) : Except Lhkt (List Bytes) := do
  let (state, texts) ← extract_all loraham_rx_state_init packet
  let (_, text) ← settled (loraham_emit_tnc2 state LHKT_TNC2_MAX_LINE true false)
  .ok (texts ++ text.toList)

/-- The packet holds at least one text, and every text is a TNC2 line. -/
def Deliverable (packet : Bytes) : Prop :=
  match packet_texts packet with
  | .error _ => False
  | .ok texts => texts ≠ [] ∧ ∀ text ∈ texts, (tnc2_parse_line text).isOk = true

instance (packet : Bytes) : Decidable (Deliverable packet) :=
  show Decidable (match packet_texts packet with
    | .error _ => False
    | .ok texts => texts ≠ [] ∧ ∀ text ∈ texts, (tnc2_parse_line text).isOk = true) from
  match packet_texts packet with
  | .error _ => inferInstanceAs (Decidable False)
  | .ok texts => inferInstanceAs
      (Decidable (texts ≠ [] ∧ ∀ text ∈ texts, (tnc2_parse_line text).isOk = true))

/-! ## Pending bytes do not matter to a round -/

/-- A payload is appended as a whole, if there is room behind it for the terminator. -/
theorem append_payload_loop (bytes : Bytes) : ∀ state : loraham_rx_state_t,
    bytes.foldlM loraham_append_payload state
      = if bytes = [] ∨ state.buf.length + bytes.length < LHKT_TNC2_MAX_LINE then
          .ok { state with buf := state.buf ++ bytes }
        else .error .ERR_LONG := by
  induction bytes with
  | nil =>
      intro state
      rw [if_pos (.inl rfl), List.append_nil]
      rfl
  | cons b bytes ih =>
      intro state
      rw [List.foldlM_cons, loraham_append_payload]
      by_cases hfull : LHKT_TNC2_MAX_LINE - 1 ≤ state.buf.length
      · rw [if_pos hfull, if_neg]
        · rfl
        · simp only [List.length_cons, LHKT_TNC2_MAX_LINE] at hfull ⊢
          simp only [reduceCtorEq, false_or]
          omega
      · rw [if_neg hfull]
        show bytes.foldlM loraham_append_payload { state with buf := state.buf ++ [b] } = _
        rw [ih]
        have hlen : (state.buf ++ [b]).length + bytes.length
            = state.buf.length + (b :: bytes).length := by
          rw [List.length_append, List.length_singleton, List.length_cons]
          omega
        simp only [hlen, reduceCtorEq, false_or, List.append_assoc, List.singleton_append]
        by_cases hnil : bytes = []
        · rw [if_pos (.inl hnil), if_pos]
          simp only [hnil, List.length_singleton, LHKT_TNC2_MAX_LINE] at hfull ⊢
          omega
        · simp only [hnil, false_or]

/-- The matched part of a header goes into the text, when it fits. -/
theorem loraham_append_hdr_prefix_eq (state : loraham_rx_state_t) :
    loraham_append_hdr_prefix state
      = if loraham_hdr.take state.hdr_len = [] ∨
            state.buf.length + (loraham_hdr.take state.hdr_len).length < LHKT_TNC2_MAX_LINE then
          .ok { state with buf := state.buf ++ loraham_hdr.take state.hdr_len, hdr_len := 0 }
        else .error .ERR_LONG := by
  unfold loraham_append_hdr_prefix
  rw [append_payload_loop]
  split <;> rfl

/-- What does not fit is too long. -/
theorem append_hdr_prefix_error {state : loraham_rx_state_t} {ret : Lhkt}
    (h : loraham_append_hdr_prefix state = .error ret) : ret = .ERR_LONG := by
  rw [loraham_append_hdr_prefix_eq] at h
  split at h
  · exact nomatch h
  · exact (Except.error.inj h).symm

/-- What fits leaves room for the terminator, unless there was none before. -/
theorem append_hdr_prefix_ok {state state' : loraham_rx_state_t}
    (h : loraham_append_hdr_prefix state = .ok state') :
    state' = { state with buf := state.buf ++ loraham_hdr.take state.hdr_len, hdr_len := 0 } ∧
      (state.buf.length < LHKT_TNC2_MAX_LINE → state'.buf.length < LHKT_TNC2_MAX_LINE) := by
  rw [loraham_append_hdr_prefix_eq] at h
  split at h
  · rename_i hfit
    rw [← Except.ok.inj h]
    refine ⟨rfl, fun hroom => ?_⟩
    rw [List.length_append]
    rcases hfit with hnil | hfit
    · rw [hnil, List.length_nil]
      omega
    · exact hfit
  · exact nomatch h

/-- Setting the pending bytes of an answer. -/
def repend (pending : Bytes) (r : Except Lhkt (loraham_rx_state_t × Option Bytes)) :
    Except Lhkt (loraham_rx_state_t × Option Bytes) :=
  r.map fun (state, text) => ({ state with pending := pending }, text)

/-- What is still pending does not matter for what is emitted. -/
theorem emit_repend (state : loraham_rx_state_t) (pending : Bytes) (size : Nat) (flush keep : Bool) :
    settled (loraham_emit_tnc2 { state with pending := pending } size flush keep)
      = repend pending (settled (loraham_emit_tnc2 state size flush keep)) := by
  unfold loraham_emit_tnc2
  simp only [loraham_append_hdr_prefix_eq]
  by_cases hflush : flush = true ∧ state.seen_header = true ∧ 0 < state.hdr_len
  · simp only [if_pos hflush]
    split
    · rename_i ret h
      split at h
      · exact nomatch h
      · rename_i hfit
        rw [if_neg hfit]
        exact Except.error.inj h ▸ rfl
    · rename_i state' h
      split at h
      · rename_i hfit
        rw [if_pos hfit]
        rw [← Except.ok.inj h]
        dsimp only
        split
        · rfl
        · split <;> rfl
      · exact nomatch h
  · simp only [if_neg hflush]
    split
    · rfl
    · split <;> rfl

/-- What follows once a header in progress has become text. -/
theorem plain_byte_repend (size : Nat) (st : loraham_rx_state_t) (pending : Bytes) (b : UInt8) :
    settled (if b = ch '\r' ∨ b = ch '\n' then
        loraham_emit_tnc2 { st with pending := pending } size true false
      else if b = LORAHAM_APRS_HDR0 then
        ({ st with hdr_len := 1, pending := pending }, .ok none)
      else match loraham_append_payload { st with pending := pending } b with
        | .error ret => (loraham_rx_state_init, .error ret)
        | .ok st => (st, .ok none))
      = repend pending (settled (if b = ch '\r' ∨ b = ch '\n' then
          loraham_emit_tnc2 st size true false
        else if b = LORAHAM_APRS_HDR0 then ({ st with hdr_len := 1 }, .ok none)
        else match loraham_append_payload st b with
          | .error ret => (loraham_rx_state_init, .error ret)
          | .ok st => (st, .ok none))) := by
  split
  · exact emit_repend st pending size true false
  · split
    · rfl
    · unfold loraham_append_payload
      dsimp only
      by_cases hfull : LHKT_TNC2_MAX_LINE - 1 ≤ st.buf.length
      · rw [if_pos hfull, if_pos hfull]
        rfl
      · rw [if_neg hfull, if_neg hfull]
        rfl

/-- **A round ignores the pending bytes.** -/
theorem extract_byte_repend (size : Nat) (state : loraham_rx_state_t) (pending : Bytes) (b : UInt8) :
    settled (loraham_extract_byte size { state with pending := pending } b)
      = repend pending (settled (loraham_extract_byte size state b)) := by
  unfold loraham_extract_byte
  dsimp only
  split
  · split
    · split <;> rfl
    · split <;> rfl
  · split
    · split
      · exact emit_repend { state with hdr_len := state.hdr_len + 1 } pending size false true
      · rfl
    · by_cases hlen : 0 < state.hdr_len
      · simp only [if_pos hlen, loraham_append_hdr_prefix_eq]
        by_cases hfit : loraham_hdr.take state.hdr_len = [] ∨ state.buf.length +
            (loraham_hdr.take state.hdr_len).length < LHKT_TNC2_MAX_LINE
        · simp only [if_pos hfit]
          exact plain_byte_repend size
            { state with buf := state.buf ++ loraham_hdr.take state.hdr_len, hdr_len := 0 } pending b
        · simp only [if_neg hfit]
          rfl
      · simp only [if_neg hlen]
        exact plain_byte_repend size state pending b

/-! ## The extractor up to its first text -/

/-- How an answer of the extractor, which stops at the first text, fits into
`extract_all` over the same bytes: the rest is still pending. -/
def Starts (bytes : Bytes) (all : Except Lhkt (loraham_rx_state_t × List Bytes)) :
    loraham_rx_state_t × Except Lhkt (Option Bytes) → Prop
  | (state, .ok none) => state.pending = [] ∧ all = .ok (state, [])
  | (state, .ok (some text)) => state.pending.length < bytes.length ∧
      all = (extract_all { state with pending := [] } state.pending).map
        fun (state, texts) => (state, text :: texts)
  | (_, .error ret) => all = .error ret

/-- A round that found nothing. -/
theorem Starts.cons {bytes : Bytes} {all : Except Lhkt (loraham_rx_state_t × List Bytes)}
    {r : loraham_rx_state_t × Except Lhkt (Option Bytes)} (h : Starts bytes all r) (b : UInt8) :
    Starts (b :: bytes) all r := by
  match r with
  | (_, .ok none) => exact h
  | (_, .ok (some _)) => exact ⟨Nat.lt_succ_of_lt h.1, h.2⟩
  | (_, .error _) => exact h

/-- The loop over the pending bytes. -/
theorem extract_pending_starts (bytes : Bytes) : ∀ state : loraham_rx_state_t,
    Starts bytes (extract_all { state with pending := [] } bytes)
      (loraham_extract_pending LHKT_TNC2_MAX_LINE state bytes) := by
  induction bytes with
  | nil => exact fun state => ⟨rfl, rfl⟩
  | cons b bytes ih =>
      intro state
      have hbyte := extract_byte_repend LHKT_TNC2_MAX_LINE { state with pending := [] } bytes b
      have hnone := extract_byte_repend LHKT_TNC2_MAX_LINE { state with pending := [] } [] b
      unfold loraham_extract_pending extract_all
      generalize loraham_extract_byte LHKT_TNC2_MAX_LINE { state with pending := bytes } b = r
        at hbyte ⊢
      generalize settled (loraham_extract_byte LHKT_TNC2_MAX_LINE { state with pending := [] } b)
        = r' at hbyte hnone ⊢
      match r', r, hbyte with
      | .error _, (_, .error _), hbyte => exact (Except.error.inj hbyte) ▸ rfl
      | .ok (st', text'), (st, .ok text), hbyte =>
          obtain ⟨rfl, rfl⟩ := Prod.mk.inj (Except.ok.inj hbyte)
          -- without pending bytes before, there are none afterwards
          have hst' : { st' with pending := [] } = st' := (Prod.mk.inj (Except.ok.inj hnone)).1.symm
          match text with
          | none =>
              have h := (ih { st' with pending := bytes }).cons b
              rw [hst'] at h
              have hall : ((do
                  let (state, texts) ← extract_all st' bytes
                  .ok (state, (none : Option Bytes).toList ++ texts)) : Except Lhkt _)
                  = extract_all st' bytes := by
                match extract_all st' bytes with
                | .error _ => rfl
                | .ok (_, _) => rfl
              show Starts _ (do
                let (state, texts) ← extract_all st' bytes
                .ok (state, (none : Option Bytes).toList ++ texts)) _
              rw [hall]
              exact h
          | some text =>
              refine ⟨Nat.lt_succ_self _, ?_⟩
              show (do
                let (state, texts) ← extract_all st' bytes
                .ok (state, (some text : Option Bytes).toList ++ texts)) = _
              rw [hst']
              match extract_all st' bytes with
              | .error _ => rfl
              | .ok (_, _) => rfl

/-! ## Results that drop a packet -/

/-- The packet is dropped for what it holds. -/
def Drops (ret : Lhkt) : Prop := ret = .ERR_LONG ∨ ret = .ERR_FORMAT ∨ ret = .ERR_NOSPACE

theorem Drops.ne_ok {ret : Lhkt} (h : Drops ret) : ret ≠ .OK := by
  rcases h with rfl | rfl | rfl <;> decide

theorem Drops.ne_client {ret : Lhkt} (h : Drops ret) : ret ≠ .ERR_CLIENT_SOCKET := by
  rcases h with rfl | rfl | rfl <;> decide

/-- What fails while a text is emitted drops the packet. -/
theorem emit_error {state state' : loraham_rx_state_t} {size : Nat} {flush keep : Bool} {ret : Lhkt}
    (h : loraham_emit_tnc2 state size flush keep = (state', .error ret)) : Drops ret := by
  unfold loraham_emit_tnc2 at h
  dsimp only at h
  split at h
  · rename_i hflushed
    split at hflushed
    · rw [← Except.error.inj (Prod.mk.inj h).2]
      exact .inl (append_hdr_prefix_error hflushed)
    · exact nomatch hflushed
  · split at h
    · exact nomatch (Prod.mk.inj h).2
    · split at h
      · exact .inr (.inr (Except.error.inj (Prod.mk.inj h).2).symm)
      · exact nomatch (Prod.mk.inj h).2

/-- What fails at a byte drops the packet. -/
theorem extract_byte_error {size : Nat} {state state' : loraham_rx_state_t} {b : UInt8} {ret : Lhkt}
    (h : loraham_extract_byte size state b = (state', .error ret)) : Drops ret := by
  unfold loraham_extract_byte at h
  dsimp only at h
  split at h
  · -- outside a packet nothing fails
    repeat' split at h
    all_goals exact nomatch (Prod.mk.inj h).2
  · split at h
    · split at h
      · exact emit_error h
      · exact nomatch (Prod.mk.inj h).2
    · split at h
      · rename_i hflushed
        split at hflushed
        · rw [← Except.error.inj (Prod.mk.inj h).2]
          exact .inl (append_hdr_prefix_error hflushed)
        · exact nomatch hflushed
      · split at h
        · exact emit_error h
        · split at h
          · exact nomatch (Prod.mk.inj h).2
          · split at h
            · rename_i happend
              unfold loraham_append_payload at happend
              split at happend
              · rw [← Except.error.inj (Prod.mk.inj h).2, ← Except.error.inj happend]
                exact .inl rfl
              · exact nomatch happend
            · exact nomatch (Prod.mk.inj h).2

theorem extract_pending_error (size : Nat) (bytes : Bytes) : ∀ {state state' : loraham_rx_state_t}
    {ret : Lhkt}, loraham_extract_pending size state bytes = (state', .error ret) → Drops ret := by
  induction bytes with
  | nil => exact fun h => nomatch (Prod.mk.inj h).2
  | cons b bytes ih =>
      intro state state' ret h
      unfold loraham_extract_pending at h
      split at h
      · exact ih h
      · rename_i hbyte
        rw [h] at hbyte
        exact extract_byte_error hbyte

/-! ## Delivering the texts -/

/-- The client's socket takes everything that is written to it. -/
def WritesSucceed (w : Nat → List write_ret) : Prop :=
  ∀ n len, (write_loop len 0 (w n)).2 = true

theorem writesSucceed_default : WritesSucceed fun _ => [] := fun _ _ => rfl

/-- The KISS frame the client gets for a text. -/
def text_frame (text : Bytes) : Bytes :=
  match tnc2_parse_line text with
  | .error _ => []
  | .ok frame => kiss_data_frame (ui_octets frame)

/-- The buffers written to the client. -/
def client_frames (c : bridge_rx_t) : List Bytes := c.client_tx.map Sent.buf

/-- Both encoders succeed on an accepted line: its frame is valid, so it has at
most 328 octets, and escaping at most doubles them. -/
theorem encode_accepted {line : Bytes} {frame : ax25_frame_t}
    (h : tnc2_parse_line line = .ok frame) :
    ax25_encode_ui frame LHKT_AX25_MAX_FRAME = .ok (ui_octets frame) ∧
      kiss_encode_data_frame (ui_octets frame) LHKT_KISS_MAX_FRAME
        = .ok (kiss_data_frame (ui_octets frame)) := by
  have hparse := checked_parse_line line
  rw [h] at hparse
  have hv : frame.Valid := hparse
  constructor
  · exact ax25_encode_ui_valid hv
  · have hlen := length_ui_octets_le hv
    have hfit := length_kiss_data_frame_le (ui_octets frame)
    rw [kiss_encode_data_frame_eq, if_pos (by simp only [LHKT_KISS_MAX_FRAME]; omega)]

/-- A text for a client that takes it: the one frame is written, or the text is
dropped because it is no TNC2 line. -/
theorem send_tnc2_cases {w : Nat → List write_ret} (hw : WritesSucceed w) (text : Bytes)
    (c : bridge_rx_t) :
    ((tnc2_parse_line text).isOk = true ∧
      (bridge_rx_send_tnc2_to_kiss_client w true text c).2 = .OK ∧
      client_frames (bridge_rx_send_tnc2_to_kiss_client w true text c).1
        = client_frames c ++ [text_frame text] ∧
      (bridge_rx_send_tnc2_to_kiss_client w true text c).1.stats.loraham_rx = c.stats.loraham_rx) ∨
    ((tnc2_parse_line text).isOk = false ∧
      Drops (bridge_rx_send_tnc2_to_kiss_client w true text c).2) := by
  have hparse := checked_parse_line text
  unfold bridge_rx_send_tnc2_to_kiss_client text_frame
  rw [if_neg (by decide)]
  match hline : tnc2_parse_line text with
  | .error ret =>
      rw [hline] at hparse
      rcases hparse with rfl | rfl
      · exact .inr ⟨rfl, .inl rfl⟩
      · exact .inr ⟨rfl, .inr (.inl rfl)⟩
  | .ok frame =>
      obtain ⟨hax25, hkiss⟩ := encode_accepted hline
      refine .inl ⟨rfl, ?_⟩
      dsimp only
      rw [hax25]
      dsimp only
      rw [hkiss]
      dsimp only
      have hok : (bridge_rx_write_all_fd w (kiss_data_frame (ui_octets frame))
          ((c.count .tnc2_rx).count .ax25_tx).client_tx).ok = true := hw _ _
      rw [hok]
      refine ⟨rfl, ?_, rfl⟩
      show List.map Sent.buf (c.client_tx ++ [_]) = _
      rw [List.map_append]
      rfl

/-- One text after the other, up to the first that fails. -/
def deliver_texts (w : Nat → List write_ret) : List Bytes → bridge_rx_t → bridge_rx_t × Lhkt
  | [], c => (c, .OK)
  | text :: texts, c =>
      let r := bridge_rx_send_tnc2_to_kiss_client w true text (c.count .loraham_rx)
      if r.2 ≠ .OK then r
      else deliver_texts w texts r.1

/-- The texts are delivered one by one, as long as the client takes them. -/
theorem deliver_texts_cons (w : Nat → List write_ret) (text : Bytes) (texts : List Bytes)
    (c : bridge_rx_t) : deliver_texts w (text :: texts) c
      = if (bridge_rx_send_tnc2_to_kiss_client w true text (c.count .loraham_rx)).2 ≠ .OK then
          bridge_rx_send_tnc2_to_kiss_client w true text (c.count .loraham_rx)
        else deliver_texts w texts
          (bridge_rx_send_tnc2_to_kiss_client w true text (c.count .loraham_rx)).1 := rfl

/-- All texts are delivered, or one of them is no TNC2 line. -/
theorem deliver_texts_cases {w : Nat → List write_ret} (hw : WritesSucceed w) (texts : List Bytes) :
    ∀ c : bridge_rx_t,
      ((∀ text ∈ texts, (tnc2_parse_line text).isOk = true) ∧ (deliver_texts w texts c).2 = .OK ∧
        client_frames (deliver_texts w texts c).1 = client_frames c ++ texts.map text_frame ∧
        (deliver_texts w texts c).1.stats.loraham_rx = c.stats.loraham_rx + texts.length) ∨
      ((∃ text ∈ texts, (tnc2_parse_line text).isOk = false) ∧
        Drops (deliver_texts w texts c).2) := by
  induction texts with
  | nil =>
      intro c
      refine .inl ⟨by simp, rfl, ?_, rfl⟩
      rw [List.map_nil, List.append_nil]
      rfl
  | cons text texts ih =>
      intro c
      unfold deliver_texts
      dsimp only
      rcases send_tnc2_cases hw text (c.count .loraham_rx) with ⟨hline, hok, hsent, hcount⟩ | ⟨hline, hdrop⟩
      · rw [if_neg (not_ne_iff.mpr hok)]
        rcases ih (bridge_rx_send_tnc2_to_kiss_client w true text (c.count .loraham_rx)).1 with
          ⟨hlines, hok', hsent', hcount'⟩ | ⟨⟨t, ht, hbad⟩, hdrop⟩
        · refine .inl ⟨?_, hok', ?_, ?_⟩
          · exact List.forall_mem_cons.mpr ⟨hline, hlines⟩
          · rw [hsent', hsent, List.map_cons, List.append_assoc]
            rfl
          · rw [hcount', hcount, List.length_cons]
            show c.stats.loraham_rx + 1 + texts.length = _
            omega
        · exact .inr ⟨⟨t, List.mem_cons_of_mem _ ht, hbad⟩, hdrop⟩
      · rw [if_pos hdrop.ne_ok]
        exact .inr ⟨⟨text, List.mem_cons_self, hline⟩, hdrop⟩

/-! ## The two loops around the extractor -/

/-- A loop over the bytes delivered the texts in them, or dropped the packet. -/
def Handled (w : Nat → List write_ret) (c : bridge_rx_t)
    (all : Except Lhkt (loraham_rx_state_t × List Bytes))
    (r : bridge_rx_t × loraham_rx_state_t × Lhkt) : Prop :=
  match all with
  | .error _ => Drops r.2.2
  | .ok (state, texts) => r.2.2 = (deliver_texts w texts c).2 ∧
      (r.2.2 = .OK → r.1 = (deliver_texts w texts c).1 ∧ r.2.1 = state)

/-- Without new bytes to flush for, the extractor is its loop. -/
theorem extract_tnc2_pending (state : loraham_rx_state_t) (data : Bytes) (size : Nat)
    (hne : state.pending ++ data ≠ [])
    (hfit : data ≠ [] → state.pending.length + data.length ≤ LHKT_LORAHAM_RX_PENDING) :
    loraham_extract_tnc2 state data size
      = loraham_extract_pending size state (state.pending ++ data) := by
  unfold loraham_extract_tnc2
  dsimp only
  rw [if_neg]
  · have hflush : (decide (data = [] ∧ state.pending = [])) = false := by
      rw [decide_eq_false_iff_not]
      rintro ⟨rfl, hp⟩
      exact hne (by rw [hp]; rfl)
    rw [hflush]
    generalize loraham_extract_pending size state (state.pending ++ data) = r
    obtain ⟨st, answer⟩ := r
    match answer with
    | .ok none => rfl
    | .ok (some _) => rfl
    | .error _ => rfl
  · rintro ⟨hdata, hlong⟩
    have := hfit hdata
    omega

/-- Every further round has fewer bytes pending, so the rounds suffice. -/
theorem handle_loraham_chunk_loop_handled {w : Nat → List write_ret} (hw : WritesSucceed w)
    (rounds : Nat) : ∀ (state : loraham_rx_state_t) (buf : Bytes) (c : bridge_rx_t),
      state.pending ++ buf ≠ [] →
      (buf ≠ [] → state.pending.length + buf.length ≤ LHKT_LORAHAM_RX_PENDING) →
      (state.pending ++ buf).length < rounds →
      Handled w c (extract_all { state with pending := [] } (state.pending ++ buf))
        (handle_loraham_chunk_loop w true rounds state buf c) := by
  induction rounds with
  | zero => exact fun _ _ _ _ _ h => absurd h (Nat.not_lt_zero _)
  | succ rounds ih =>
      intro state buf c hne hfit hrounds
      have hstart := extract_pending_starts (state.pending ++ buf) state
      rw [handle_loraham_chunk_loop, extract_tnc2_pending state buf _ hne hfit]
      generalize hext : loraham_extract_pending LHKT_TNC2_MAX_LINE state (state.pending ++ buf) = r
        at hstart ⊢
      generalize extract_all { state with pending := [] } (state.pending ++ buf) = all at hstart ⊢
      obtain ⟨st, answer⟩ := r
      match answer with
      | .error ret =>
          obtain rfl : all = .error ret := hstart
          exact extract_pending_error _ _ hext
      -- nothing more to extract: the loop ends with nothing pending
      | .ok none =>
          obtain ⟨hpending, rfl⟩ : st.pending = [] ∧ all = .ok (st, []) := hstart
          dsimp only
          rw [if_pos hpending]
          exact ⟨rfl, fun _ => ⟨rfl, rfl⟩⟩
      | .ok (some text) =>
          obtain ⟨hless, hall⟩ : st.pending.length < (state.pending ++ buf).length ∧
            all = _ := hstart
          dsimp only
          -- one text: it is delivered, and the rest of the packet follows the hypothesis
          have hdeliver := fun texts => deliver_texts_cons w text texts c
          have hsend := send_tnc2_cases hw text (c.count .loraham_rx)
          generalize bridge_rx_send_tnc2_to_kiss_client w true text (c.count .loraham_rx) = sent
            at hdeliver hsend ⊢
          by_cases hret : sent.2 ≠ .OK
          · -- the text is no TNC2 line, whatever is pending behind it
            have hdrop : Drops sent.2 := by
              rcases hsend with ⟨_, hok, _⟩ | ⟨_, hdrop⟩
              · exact absurd hok hret
              · exact hdrop
            rw [if_pos hret, hall]
            match extract_all { st with pending := [] } st.pending with
            | .error _ => exact hdrop
            | .ok (_, texts) =>
                refine ⟨?_, fun h => absurd h hret⟩
                rw [hdeliver, if_pos hret]
          · rw [if_neg hret]
            by_cases hpending : st.pending = []
            · have hst : { st with pending := [] } = st := by rw [← hpending]
              rw [if_pos hpending, hall, hpending]
              refine ⟨?_, fun _ => ⟨?_, hst.symm⟩⟩
              · rw [hdeliver, if_neg hret]
                rfl
              · rw [hdeliver, if_neg hret]
                rfl
            · -- a further round, over what is still pending
              have h := ih st [] sent.1 (by rw [List.append_nil]; exact hpending)
                (fun h => absurd rfl h) (by rw [List.append_nil]; omega)
              rw [List.append_nil] at h
              rw [if_neg hpending, hall]
              generalize handle_loraham_chunk_loop w true rounds st [] sent.1 = r at h ⊢
              generalize extract_all { st with pending := [] } st.pending = all' at h ⊢
              match all' with
              | .error _ => exact h
              | .ok (state', texts) =>
                  refine ⟨?_, fun hok => ⟨?_, (h.2 hok).2⟩⟩
                  · rw [hdeliver, if_neg hret]
                    exact h.1
                  · rw [hdeliver, if_neg hret]
                    exact (h.2 hok).1

/-- Behind a whole packet nothing is held back that was not before. -/
theorem extract_all_pending (bytes : Bytes) : ∀ {state state' : loraham_rx_state_t}
    {texts : List Bytes}, extract_all state bytes = .ok (state', texts) → state.pending = [] →
      state'.pending = [] := by
  induction bytes with
  | nil =>
      intro state state' texts h hp
      rw [← (Prod.mk.inj (Except.ok.inj h)).1]
      exact hp
  | cons b bytes ih =>
      intro state state' texts h hp
      have hbyte := extract_byte_repend LHKT_TNC2_MAX_LINE state [] b
      rw [show ({ state with pending := [] } : loraham_rx_state_t) = state by rw [← hp]] at hbyte
      obtain ⟨⟨st, text⟩, hst, h⟩ := bind_eq_ok h
      obtain ⟨⟨st', texts'⟩, hst', h⟩ := bind_eq_ok h
      rw [hst] at hbyte
      have hpst : st.pending = [] := by
        rw [(Prod.mk.inj (Except.ok.inj hbyte)).1]
      rw [← (Prod.mk.inj (Except.ok.inj h)).1]
      exact ih hst' hpst

/-- The call without bytes flushes the text in progress. -/
theorem handle_loraham_chunk_flush {w : Nat → List write_ret} (state : loraham_rx_state_t)
    (c : bridge_rx_t) (hp : state.pending = []) :
    match settled (loraham_emit_tnc2 state LHKT_TNC2_MAX_LINE true false) with
    | .error _ => Drops (bridge_rx_handle_loraham_chunk w true state [] c).2.2
    | .ok (_, text) =>
        (bridge_rx_handle_loraham_chunk w true state [] c).2.2
            = (deliver_texts w text.toList c).2 ∧
          (bridge_rx_handle_loraham_chunk w true state [] c).1
            = (deliver_texts w text.toList c).1 := by
  -- with nothing pending and nothing read, the extractor only flushes
  have hextract : loraham_extract_tnc2 state [] LHKT_TNC2_MAX_LINE
      = loraham_emit_tnc2 state LHKT_TNC2_MAX_LINE true false := by
    have hst : { state with pending := [] } = state := by rw [← hp]
    unfold loraham_extract_tnc2
    rw [hp]
    simp [loraham_extract_pending, hst]
  unfold bridge_rx_handle_loraham_chunk
  rw [hp]
  show match settled _ with
    | .error _ => Drops (handle_loraham_chunk_loop w true 1 state [] c).2.2
    | .ok (_, text) => (handle_loraham_chunk_loop w true 1 state [] c).2.2 = _ ∧
        (handle_loraham_chunk_loop w true 1 state [] c).1 = _
  rw [handle_loraham_chunk_loop, hextract]
  generalize hemit : loraham_emit_tnc2 state LHKT_TNC2_MAX_LINE true false = r
  obtain ⟨st, answer⟩ := r
  match answer with
  | .error ret => exact emit_error hemit
  | .ok none =>
      show _ = Lhkt.OK ∧ _ = c
      dsimp only
      split <;> exact ⟨rfl, rfl⟩
  | .ok (some text) =>
      show _ = (deliver_texts w [text] c).2 ∧ _ = (deliver_texts w [text] c).1
      unfold deliver_texts
      dsimp only
      split
      · exact ⟨rfl, rfl⟩
      · rename_i hret
        split <;> exact ⟨rfl, rfl⟩

/-- The first call handles the whole packet, also an empty one. -/
theorem handle_loraham_chunk_packet {w : Nat → List write_ret} (hw : WritesSucceed w)
    (packet : Bytes) (c : bridge_rx_t) (hlen : packet.length ≤ LHKT_LORAHAM_RX_PENDING) :
    Handled w c (extract_all loraham_rx_state_init packet)
      (bridge_rx_handle_loraham_chunk w true loraham_rx_state_init packet c) := by
  by_cases hne : packet = []
  · rw [hne]
    exact ⟨rfl, fun _ => ⟨rfl, rfl⟩⟩
  · exact handle_loraham_chunk_loop_handled hw _ loraham_rx_state_init packet c hne
      (fun _ => by show 0 + packet.length ≤ _; omega)
      (by show packet.length < 0 + packet.length + 1; omega)

/-- The texts of a packet: those its bytes end, and the one that is left at its end. -/
theorem packet_texts_eq {packet : Bytes} {state : loraham_rx_state_t} {texts : List Bytes}
    (h : extract_all loraham_rx_state_init packet = .ok (state, texts)) :
    packet_texts packet
      = (settled (loraham_emit_tnc2 state LHKT_TNC2_MAX_LINE true false)).map
          fun (_, text) => texts ++ text.toList := by
  unfold packet_texts
  rw [h]
  show (do
    let (_, text) ← settled (loraham_emit_tnc2 state LHKT_TNC2_MAX_LINE true false)
    .ok (texts ++ text.toList)) = _
  match settled (loraham_emit_tnc2 state LHKT_TNC2_MAX_LINE true false) with
  | .error _ => rfl
  | .ok (_, _) => rfl

/-- A packet that is split into texts is deliverable if there is one and each of them is
a line. -/
theorem deliverable_iff {packet : Bytes} {texts : List Bytes} (h : packet_texts packet = .ok texts) :
    Deliverable packet ↔ texts ≠ [] ∧ ∀ text ∈ texts, (tnc2_parse_line text).isOk = true := by
  unfold Deliverable
  rw [h]

/-- A packet with an error is not deliverable. -/
theorem not_deliverable_of_error {packet : Bytes} {ret : Lhkt}
    (h : packet_texts packet = .error ret) : ¬ Deliverable packet := by
  unfold Deliverable
  rw [h]
  exact id

/-- One text that is no line is enough. -/
theorem not_deliverable_of_text {packet : Bytes} {texts : List Bytes}
    (h : packet_texts packet = .ok texts) {text : Bytes} (ht : text ∈ texts)
    (hline : (tnc2_parse_line text).isOk = false) : ¬ Deliverable packet := by
  intro hdel
  have hok := ((deliverable_iff h).mp hdel).2 text ht
  exact absurd (hline.symm.trans hok) Bool.false_ne_true

/-- A bad text of the first call is a text of the packet, whatever the flush makes
of the rest. -/
theorem not_deliverable_of_first {packet : Bytes} {state : loraham_rx_state_t}
    {texts : List Bytes} (hall : extract_all loraham_rx_state_init packet = .ok (state, texts))
    {text : Bytes} (ht : text ∈ texts) (hline : (tnc2_parse_line text).isOk = false) :
    ¬ Deliverable packet := by
  have htexts := packet_texts_eq hall
  match hemit : settled (loraham_emit_tnc2 state LHKT_TNC2_MAX_LINE true false) with
  | .error ret =>
      rw [hemit] at htexts
      exact not_deliverable_of_error htexts
  | .ok (_, last) =>
      rw [hemit] at htexts
      have htexts : packet_texts packet = .ok (texts ++ last.toList) := htexts
      exact not_deliverable_of_text htexts (List.mem_append_left _ ht) hline

/-- What can become of a packet: all its texts are written, or it is dropped
because it is not deliverable. -/
def PacketOutcome (packet : Bytes) (c : bridge_rx_t) (out : bridge_rx_t × Lhkt) : Prop :=
  (∃ texts, packet_texts packet = .ok texts ∧ Deliverable packet ∧ out.2 = .OK ∧
    client_frames out.1 = client_frames c ++ texts.map text_frame) ∨
  (¬ Deliverable packet ∧ Drops out.2)

/-- The second call and the check behind it, when the first call has written all
its texts. -/
theorem send_loraham_packet_flushed {w : Nat → List write_ret} (hw : WritesSucceed w)
    {packet : Bytes} {state : loraham_rx_state_t} {texts : List Bytes}
    (hall : extract_all loraham_rx_state_init packet = .ok (state, texts)) (c c' : bridge_rx_t)
    (hlines : ∀ text ∈ texts, (tnc2_parse_line text).isOk = true)
    (hsent : client_frames c' = client_frames c ++ texts.map text_frame)
    (hcount : c'.stats.loraham_rx = c.stats.loraham_rx + texts.length) :
    let r := bridge_rx_handle_loraham_chunk w true state [] c'
    PacketOutcome packet c
      (if r.2.2 ≠ .OK then (r.1, r.2.2)
        else if r.1.stats.loraham_rx = c.stats.loraham_rx then
          (r.1.count .loraham_drop, .ERR_FORMAT)
        else (r.1, .OK)) := by
  dsimp only
  have htexts := packet_texts_eq hall
  have hflush := handle_loraham_chunk_flush (w := w) state c' (extract_all_pending packet hall rfl)
  generalize bridge_rx_handle_loraham_chunk w true state [] c' = r at hflush ⊢
  match hemit : settled (loraham_emit_tnc2 state LHKT_TNC2_MAX_LINE true false) with
  | .error ret =>
      rw [hemit] at hflush htexts
      have hdrop : Drops r.2.2 := hflush
      rw [if_pos hdrop.ne_ok]
      exact .inr ⟨not_deliverable_of_error htexts, hdrop⟩
  | .ok (_, text) =>
      rw [hemit] at hflush htexts
      have htexts : packet_texts packet = .ok (texts ++ text.toList) := htexts
      obtain ⟨hret, hc⟩ := hflush
      rw [hret, hc]
      rcases deliver_texts_cases hw text.toList c' with
        ⟨hlines', hdel', hsent', hcount'⟩ | ⟨⟨t, ht, hline⟩, hdrop⟩
      · rw [if_neg (not_ne_iff.mpr hdel'), hcount', hcount]
        by_cases hnil : texts ++ text.toList = []
        · -- no text at all: the count is what it was
          obtain ⟨h1, h2⟩ := List.append_eq_nil_iff.mp hnil
          rw [if_pos (by rw [h1, h2]; rfl)]
          refine .inr ⟨fun h => ?_, .inr (.inl rfl)⟩
          exact ((deliverable_iff htexts).mp h).1 hnil
        · have hpos : 0 < texts.length + text.toList.length := by
            rw [← List.length_append]
            exact List.length_pos_iff.mpr hnil
          rw [if_neg (by omega)]
          refine .inl ⟨_, htexts, (deliverable_iff htexts).mpr ⟨hnil, ?_⟩, rfl, ?_⟩
          · intro t ht
            rcases List.mem_append.mp ht with ht | ht
            · exact hlines t ht
            · exact hlines' t ht
          · rw [hsent', hsent, List.map_append, List.append_assoc]
      · rw [if_pos hdrop.ne_ok]
        exact .inr ⟨not_deliverable_of_text htexts (List.mem_append_right _ ht) hline, hdrop⟩

/-- **One packet.** With a client whose writes succeed, the KISS frames of all
its texts are written, or it is dropped because it is not deliverable. -/
theorem send_loraham_packet_cases {w : Nat → List write_ret} (hw : WritesSucceed w)
    (packet : Bytes) (c : bridge_rx_t) (hlen : packet.length ≤ LHKT_LORAHAM_RX_PENDING) :
    PacketOutcome packet c (bridge_rx_send_loraham_packet_to_kiss_client w true packet c) := by
  have hfirst := handle_loraham_chunk_packet hw packet c hlen
  unfold bridge_rx_send_loraham_packet_to_kiss_client
  rw [if_neg (by decide)]
  dsimp only
  generalize bridge_rx_handle_loraham_chunk w true loraham_rx_state_init packet c = r at hfirst ⊢
  match hall : extract_all loraham_rx_state_init packet with
  | .error ret =>
      rw [hall] at hfirst
      have hdrop : Drops r.2.2 := hfirst
      have herr : packet_texts packet = .error ret := by
        unfold packet_texts
        rw [hall]
        rfl
      rw [if_pos hdrop.ne_ok]
      exact .inr ⟨not_deliverable_of_error herr, hdrop⟩
  | .ok (state, texts) =>
      rw [hall] at hfirst
      obtain ⟨hret, hok⟩ := hfirst
      rcases deliver_texts_cases hw texts c with ⟨hlines, hdel, hsent, hcount⟩ | ⟨hbad, hdrop⟩
      · have hret := hret.trans hdel
        obtain ⟨hc, hst⟩ := hok hret
        rw [if_neg (not_ne_iff.mpr hret), hst, hc]
        exact send_loraham_packet_flushed hw hall c _ hlines hsent hcount
      · rw [if_pos (hret ▸ hdrop.ne_ok)]
        obtain ⟨t, ht, hline⟩ := hbad
        exact .inr ⟨not_deliverable_of_first hall ht hline, hret ▸ hdrop⟩

/-! ## No failure of the client -/

/-- **What fails in a chunk** drops the packet. -/
theorem extract_tnc2_error {state state' : loraham_rx_state_t} {data : Bytes} {size : Nat} {ret : Lhkt}
    (h : loraham_extract_tnc2 state data size = (state', .error ret)) : Drops ret := by
  unfold loraham_extract_tnc2 at h
  dsimp only at h
  split at h
  · rw [← Except.error.inj (Prod.mk.inj h).2]
    exact .inl rfl
  · split at h
    · split at h
      · exact emit_error h
      · exact nomatch (Prod.mk.inj h).2
    · rename_i hpending
      rw [h] at hpending
      exact extract_pending_error _ _ hpending

/-- Whatever fails in a packet, it is not the client. -/
theorem handle_loraham_chunk_loop_ne_client {w : Nat → List write_ret} (hw : WritesSucceed w)
    (rounds : Nat) (state : loraham_rx_state_t) (buf : Bytes) (c : bridge_rx_t) :
    (handle_loraham_chunk_loop w true rounds state buf c).2.2 ≠ .ERR_CLIENT_SOCKET := by
  apply handle_loraham_chunk_loop_elim (P := fun _ _ ret => ret ≠ .ERR_CLIENT_SOCKET) w true
  · simp
  · exact fun _ _ _ _ _ hext => (extract_tnc2_error hext).ne_client
  · intro c tnc2
    rcases send_tnc2_cases hw tnc2 (c.count .loraham_rx) with ⟨_, hok, _⟩ | ⟨_, hdrop⟩
    · rw [hok]
      decide
    · exact hdrop.ne_client
  · exact fun _ _ _ _ _ hrest => hrest

/-- **A client whose writes succeed is never given up** by the idle path. -/
theorem handle_framed_frame_ne_client {w : Nat → List write_ret} (hw : WritesSucceed w)
    (client_fd : Bool) (frame : loraham_frame_t) (c : bridge_rx_t) :
    (bridge_rx_handle_framed_frame w client_fd frame c).2 ≠ .ERR_CLIENT_SOCKET := by
  match client_fd with
  | false =>
      rw [(bridge_rx_handle_framed_frame_no_client w frame c).2]
      decide
  | true =>
      unfold bridge_rx_handle_framed_frame
      split
      · dsimp only
        rw [if_neg (by decide)]
        split
        · simp
        · apply bridge_rx_send_loraham_packet_elim (P := fun _ _ ret => ret ≠ .ERR_CLIENT_SOCKET) w true
          · simp
          · exact fun _ _ _ => handle_loraham_chunk_loop_ne_client hw _ _ _ _
          · simp
          · exact fun _ _ _ _ _ hrest => hrest
      · split <;> simp

/-- Whatever fails in a read, it is not the client. -/
theorem handle_framed_chunk_ne_client {w : Nat → List write_ret} (hw : WritesSucceed w)
    (client_fd : Bool) (buf : Bytes) : ∀ (state : loraham_framed_rx_state_t) (c : bridge_rx_t),
      (bridge_rx_handle_framed_chunk w client_fd state buf c).2.2 ≠ .ERR_CLIENT_SOCKET := by
  induction buf with
  | nil => exact fun _ _ => by simp [bridge_rx_handle_framed_chunk]
  | cons b buf ih =>
      intro state c
      unfold bridge_rx_handle_framed_chunk
      split
      · dsimp only
        split
        · exact handle_framed_frame_ne_client hw client_fd _ c
        · exact ih _ _
      · exact ih _ _
      · rename_i hbyte
        rw [(loraham_framed_decode_byte_error hbyte).1]
        simp

/-! ## Frames -/

/-- The decoder never announces or hands out more than the largest payload. -/
theorem loraham_framed_decode_byte_len {state : loraham_framed_rx_state_t}
    (h : state.payload_len ≤ LHKT_FRAMED_MAX_PAYLOAD) (b : UInt8) :
    (loraham_framed_decode_byte state b).1.payload_len ≤ LHKT_FRAMED_MAX_PAYLOAD ∧
      ∀ frame, (loraham_framed_decode_byte state b).2 = .ok (some frame) →
        frame.payload.length ≤ LHKT_FRAMED_MAX_PAYLOAD := by
  have hemit : ∀ st : loraham_framed_rx_state_t, st.payload_len ≤ LHKT_FRAMED_MAX_PAYLOAD →
      (loraham_frame_emit st).payload.length ≤ LHKT_FRAMED_MAX_PAYLOAD := by
    intro st hst
    rw [loraham_frame_emit, List.length_take]
    omega
  unfold loraham_framed_decode_byte
  dsimp only
  split
  · split
    · exact ⟨h, fun _ hf => nomatch hf⟩
    · split
      · exact ⟨Nat.zero_le _, fun _ hf => nomatch hf⟩
      · rename_i hlong
        split
        · refine ⟨Nat.zero_le _, fun frame hf => ?_⟩
          rw [← Option.some.inj (Except.ok.inj hf)]
          exact hemit _ (Nat.le_of_not_lt hlong)
        · exact ⟨Nat.le_of_not_lt hlong, fun _ hf => nomatch hf⟩
  · split
    · exact ⟨h, fun _ hf => nomatch hf⟩
    · refine ⟨Nat.zero_le _, fun frame hf => ?_⟩
      rw [← Option.some.inj (Except.ok.inj hf)]
      exact hemit _ h

/-- Every RX_PACKET frame but those without metadata holds a deliverable packet. -/
def FrameDeliverable (frame : loraham_frame_t) : Prop :=
  frame.type = LORAHAM_FRAME_RX_PACKET → BRIDGE_RX_LORAHAM_META_LEN ≤ frame.payload.length →
    Deliverable (rf_bytes frame.payload)

instance (frame : loraham_frame_t) : Decidable (FrameDeliverable frame) :=
  inferInstanceAs (Decidable (_ → _ → _))

/-- The KISS frames that come from a frame of the daemon's stream. -/
def frame_frames (frame : loraham_frame_t) : List Bytes :=
  if frame.type = LORAHAM_FRAME_RX_PACKET ∧
      BRIDGE_RX_LORAHAM_META_LEN ≤ frame.payload.length then
    match packet_texts (rf_bytes frame.payload) with
    | .error _ => []
    | .ok texts => texts.map text_frame
  else []

/-- **One frame of the daemon's stream.** -/
theorem handle_framed_frame_cases {w : Nat → List write_ret} (hw : WritesSucceed w)
    (frame : loraham_frame_t) (c : bridge_rx_t)
    (hlen : frame.payload.length ≤ LHKT_FRAMED_MAX_PAYLOAD) :
    (FrameDeliverable frame ∧ (bridge_rx_handle_framed_frame w true frame c).2 = .OK ∧
      client_frames (bridge_rx_handle_framed_frame w true frame c).1
        = client_frames c ++ frame_frames frame) ∨
    (¬ FrameDeliverable frame ∧ Drops (bridge_rx_handle_framed_frame w true frame c).2) := by
  have hlog : client_frames (log_rx_packet frame.payload c) = client_frames c := by
    unfold client_frames
    rw [log_rx_packet_client_tx]
  have hrf : (rf_bytes frame.payload).length ≤ LHKT_LORAHAM_RX_PENDING := by
    unfold rf_bytes
    rw [List.length_drop]
    simp only [LHKT_FRAMED_MAX_PAYLOAD] at hlen
    simp only [LHKT_LORAHAM_RX_PENDING]
    omega
  unfold bridge_rx_handle_framed_frame frame_frames FrameDeliverable
  by_cases htype : frame.type = LORAHAM_FRAME_RX_PACKET
  · rw [if_pos htype]
    dsimp only
    rw [if_neg (by decide)]
    by_cases hmeta : BRIDGE_RX_LORAHAM_META_LEN ≤ frame.payload.length
    · rw [if_neg (Nat.not_lt.mpr hmeta), if_pos ⟨htype, hmeta⟩]
      -- a packet with its metadata: the extractor decides
      rcases send_loraham_packet_cases hw (rf_bytes frame.payload) (log_rx_packet frame.payload c)
        hrf with ⟨texts, htexts, hdel, hret, hframes⟩ | ⟨hno, hdrop⟩
      · refine .inl ⟨fun _ _ => hdel, hret, ?_⟩
        rw [hframes, hlog, htexts]
      · exact .inr ⟨fun h => hno (h htype hmeta), hdrop⟩
    · -- too short for its metadata: passed over
      rw [if_pos (Nat.lt_of_not_le hmeta), if_neg (fun h => hmeta h.2)]
      refine .inl ⟨fun _ h => absurd h hmeta, rfl, ?_⟩
      rw [List.append_nil]
      exact hlog
  · have hnone : ¬(frame.type = LORAHAM_FRAME_RX_PACKET ∧
        BRIDGE_RX_LORAHAM_META_LEN ≤ frame.payload.length) := fun h => htype h.1
    rw [if_neg htype, if_neg hnone, List.append_nil]
    -- a frame of another type is nothing for the client
    refine .inl ⟨fun h => absurd h htype, ?_⟩
    split
    · exact ⟨rfl, rfl⟩
    · exact ⟨rfl, rfl⟩

end LorahamKissTnc.RxPacket
