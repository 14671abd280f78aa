/-
`bridge_rx.c`: from a frame of the daemon's stream to KISS frames for the client.

`bridge_rx_t` is what this path touches: the counters, the records handed to the
RF log, and what was written to the KISS client that is connected now. How the
client socket behaves is the argument `w`: `w n` is the script of the `n`th write
on the connection. `client_fd` says whether there is a client at all, as seen by
the caller, which is not always what the main loop sees.

The facts about what is written are collected in `Delivers`: whatever the RX
path does, it appends encoded KISS frames to the client's stream, and only the
last one can be incomplete, and then the result is `LHKT_ERR_CLIENT_SOCKET`.
-/
import LorahamKissTnc.LorahamSock
import LorahamKissTnc.Tnc2
import LorahamKissTnc.Kiss

set_option autoImplicit false

open LorahamKissTnc.Lib.CString LorahamKissTnc.Lib.Channel LorahamKissTnc.Lib.Machine
open LorahamKissTnc.Config LorahamKissTnc.Kiss LorahamKissTnc.Ax25 LorahamKissTnc.Tnc2
open LorahamKissTnc.LorahamSock

namespace LorahamKissTnc.BridgeRx

abbrev BRIDGE_RX_LORAHAM_META_LEN : Nat := 4

/-! ## What the RX path touches -/

/-- The outcome texts of a TX record. -/
inductive rflog_outcome where
  | ok
  | unconfirmed
  deriving DecidableEq, Repr

/-- A record handed to the RF log: `lhkt_rflog_rx` or `lhkt_rflog_tx`. -/
inductive rflog_entry where
  | rx (rssi_cdbm snr_cdb : Int) (packet : Bytes)
  | tx (outcome : rflog_outcome) (packet : Bytes)
  deriving DecidableEq, Repr

/-- Counters, RF log, and the stream to the client connected now. -/
structure bridge_rx_t where
  stats : lhkt_stats_t := {}
  rflog : List rflog_entry := []
  client_tx : List (Sent UInt8) := []
  deriving DecidableEq, Repr

/-- `stats->counter++`. -/
def bridge_rx_t.count (c : bridge_rx_t) (counter : lhkt_counter) : bridge_rx_t :=
  { c with stats := c.stats.incr counter }

/-- A record for the RF log. -/
def bridge_rx_t.log (c : bridge_rx_t) (entry : rflog_entry) : bridge_rx_t :=
  { c with rflog := c.rflog ++ [entry] }

@[simp] theorem count_client_tx (c : bridge_rx_t) (counter : lhkt_counter) :
    (c.count counter).client_tx = c.client_tx := rfl

/-! ## Writing to the client -/

/-- `bridge_rx_write_all_fd` behind what the client was sent already. -/
def bridge_rx_write_all_fd (w : Nat → List write_ret) (buf : Bytes) (tx : List (Sent UInt8)) :
    Sent UInt8 :=
  let r := write_loop buf.length 0 (w tx.length)
  ⟨buf, r.1, r.2⟩

/-- Success is reported exactly when everything was taken. -/
theorem bridge_rx_write_all_fd_ok_iff (w : Nat → List write_ret) (buf : Bytes)
    (tx : List (Sent UInt8)) :
    (bridge_rx_write_all_fd w buf tx).ok = true ↔ (bridge_rx_write_all_fd w buf tx).Complete :=
  (write_loop_spec buf.length (w tx.length) 0 (Nat.zero_le _)).2

/-- `bridge_rx_send_tnc2_to_kiss_client`. -/
def bridge_rx_send_tnc2_to_kiss_client (w : Nat → List write_ret) (client_fd : Bool)
    (tnc2 : Bytes) (c : bridge_rx_t) : bridge_rx_t × Lhkt :=
  if !client_fd then (c, .ERR)
  else match tnc2_parse_line tnc2 with
  | .error ret => (c.count .tnc2_drop, ret)
  | .ok ax25 =>
      let c := c.count .tnc2_rx
      match ax25_encode_ui ax25 LHKT_AX25_MAX_FRAME with
      | .error ret => (c.count .ax25_drop, ret)
      | .ok ax25_raw =>
          let c := c.count .ax25_tx
          match kiss_encode_data_frame ax25_raw LHKT_KISS_MAX_FRAME with
          | .error ret => (c.count .kiss_drop, ret)
          | .ok kiss_raw =>
              let sent := bridge_rx_write_all_fd w kiss_raw c.client_tx
              let c := { c with client_tx := c.client_tx ++ [sent] }
              if !sent.ok then (c.count .kiss_drop, .ERR_CLIENT_SOCKET)
              else (c.count .kiss_tx, .OK)

/-! ## One LoRa-APRS packet -/

/-- The loop of `bridge_rx_handle_loraham_chunk`. Every further round takes at
least one pending byte, so the rounds are bounded by the bytes at hand. -/
def handle_loraham_chunk_loop (w : Nat → List write_ret) (client_fd : Bool) :
    Nat → loraham_rx_state_t → Bytes → bridge_rx_t → bridge_rx_t × loraham_rx_state_t × Lhkt
  | 0, rx_state, _, c => (c, rx_state, .OK)
  | rounds + 1, rx_state, buf, c =>
      match loraham_extract_tnc2 rx_state buf LHKT_TNC2_MAX_LINE with
      | (rx_state, .ok (some tnc2)) =>
          let c := c.count .loraham_rx
          let r := bridge_rx_send_tnc2_to_kiss_client w client_fd tnc2 c
          if r.2 ≠ .OK then (r.1, rx_state, r.2)
          else if rx_state.pending = [] then (r.1, rx_state, .OK)
          else handle_loraham_chunk_loop w client_fd rounds rx_state [] r.1
      | (rx_state, .ok none) =>
          if rx_state.pending = [] then (c, rx_state, .OK)
          else handle_loraham_chunk_loop w client_fd rounds rx_state [] c
      | (rx_state, .error ret) =>
          (c.count .loraham_drop, rx_state, ret)

/-- `bridge_rx_handle_loraham_chunk`. -/
def bridge_rx_handle_loraham_chunk (w : Nat → List write_ret) (client_fd : Bool)
    (rx_state : loraham_rx_state_t) (buf : Bytes) (c : bridge_rx_t) :
    bridge_rx_t × loraham_rx_state_t × Lhkt :=
  handle_loraham_chunk_loop w client_fd (rx_state.pending.length + buf.length + 1) rx_state buf c

/-- `bridge_rx_send_loraham_packet_to_kiss_client`. -/
def bridge_rx_send_loraham_packet_to_kiss_client (w : Nat → List write_ret) (client_fd : Bool)
    (packet : Bytes) (c : bridge_rx_t) : bridge_rx_t × Lhkt :=
  if !client_fd then (c, .ERR)
  else
    let before := c.stats.loraham_rx
    let r := bridge_rx_handle_loraham_chunk w client_fd loraham_rx_state_init packet c
    if r.2.2 ≠ .OK then (r.1, r.2.2)
    else
      let r := bridge_rx_handle_loraham_chunk w client_fd r.2.1 [] r.1
      if r.2.2 ≠ .OK then (r.1, r.2.2)
      else if r.1.stats.loraham_rx = before then
        (r.1.count .loraham_drop, .ERR_FORMAT)
      else (r.1, .OK)

/-! ## Frames of the daemon's stream -/

/-- Two payload bytes as an `int16_t`. -/
def int16_le (lo hi : UInt8) : Int :=
  let n : Int := lo.toNat ||| (hi.toNat <<< 8)
  if 32768 ≤ n then n - 65536 else n

/-- The RF bytes of an RX_PACKET payload, behind the metadata. -/
def rf_bytes (payload : Bytes) : Bytes := payload.drop BRIDGE_RX_LORAHAM_META_LEN

/-- The RF log records what the radio delivered, with or without a client. -/
def log_rx_packet (payload : Bytes) (c : bridge_rx_t) : bridge_rx_t :=
  if BRIDGE_RX_LORAHAM_META_LEN ≤ payload.length then
    c.log (.rx (int16_le (payload.getD 0 0) (payload.getD 1 0))
      (int16_le (payload.getD 2 0) (payload.getD 3 0)) (rf_bytes payload))
  else c

/-- Logging a packet writes nothing to the client. -/
@[simp] theorem log_rx_packet_client_tx (payload : Bytes) (c : bridge_rx_t) :
    (log_rx_packet payload c).client_tx = c.client_tx := by
  unfold log_rx_packet
  split <;> rfl

@[simp] theorem log_rx_packet_stats (payload : Bytes) (c : bridge_rx_t) :
    (log_rx_packet payload c).stats = c.stats := by
  unfold log_rx_packet
  split <;> rfl

/-- `bridge_rx_handle_framed_frame`. -/
def bridge_rx_handle_framed_frame (w : Nat → List write_ret) (client_fd : Bool)
    (frame : loraham_frame_t) (c : bridge_rx_t) : bridge_rx_t × Lhkt :=
  if frame.type = LORAHAM_FRAME_RX_PACKET then
    let c := log_rx_packet frame.payload c
    if !client_fd then (c.count .loraham_drop, .OK)
    else if frame.payload.length < BRIDGE_RX_LORAHAM_META_LEN then (c.count .loraham_drop, .OK)
    else bridge_rx_send_loraham_packet_to_kiss_client w client_fd (rf_bytes frame.payload) c
  else if frame.type = LORAHAM_FRAME_ERROR then (c.count .loraham_framed_errors, .OK)
  else (c.count .loraham_drop, .OK)

/-- `bridge_rx_handle_framed_chunk`: the first result other than `LHKT_OK` ends
the loop. -/
def bridge_rx_handle_framed_chunk (w : Nat → List write_ret) (client_fd : Bool) :
    loraham_framed_rx_state_t → Bytes → bridge_rx_t →
      bridge_rx_t × loraham_framed_rx_state_t × Lhkt
  | frame_state, [], c => (c, frame_state, .OK)
  | frame_state, b :: buf, c =>
      match loraham_framed_decode_byte frame_state b with
      | (frame_state, .ok (some frame)) =>
          let r := bridge_rx_handle_framed_frame w client_fd frame c
          if r.2 ≠ .OK then (r.1, frame_state, r.2)
          else bridge_rx_handle_framed_chunk w client_fd frame_state buf r.1
      | (frame_state, .ok none) => bridge_rx_handle_framed_chunk w client_fd frame_state buf c
      | (frame_state, .error ret) =>
          (c.count .loraham_drop, frame_state, ret)

/-! ## What the client gets -/

/-- The bytes are an encoded KISS data frame. -/
def IsKissFrame (buf : Bytes) : Prop :=
  ∃ data, kiss_encode_data_frame data LHKT_KISS_MAX_FRAME = .ok buf

/-- From `c` to `c'` only encoded KISS frames were written to the client, all
complete, unless the last one was cut short and `ret` says so. -/
def Delivers (c c' : bridge_rx_t) (ret : Lhkt) : Prop :=
  Appends Sent.Complete (fun s => IsKissFrame s.buf) (ret = .ERR_CLIENT_SOCKET) c.client_tx
    c'.client_tx

/-- Writing nothing is delivering nothing. -/
theorem Delivers.of_eq {c c' : bridge_rx_t} (ret : Lhkt) (h : c'.client_tx = c.client_tx) :
    Delivers c c' ret := by
  unfold Delivers
  rw [h]
  exact appends_refl _

/-- Two pieces of work, the first of which did not fail. -/
theorem Delivers.trans {c c' c'' : bridge_rx_t} {ret : Lhkt} (h : Delivers c c' .OK)
    (h' : Delivers c' c'' ret) : Delivers c c'' ret :=
  Appends.trans (h.mono fun h => nomatch h) h'

/-- Counters and log entries do not matter to `Delivers`. -/
theorem Delivers.congr {c c' d d' : bridge_rx_t} {ret : Lhkt} (h : Delivers c c' ret)
    (hc : d.client_tx = c.client_tx) (hc' : d'.client_tx = c'.client_tx) : Delivers d d' ret := by
  unfold Delivers
  rw [hc, hc']
  exact h

/-- A text is delivered as one frame, or not at all. -/
theorem bridge_rx_send_tnc2_delivers (w : Nat → List write_ret) (client_fd : Bool) (tnc2 : Bytes)
    (c : bridge_rx_t) :
    Delivers c (bridge_rx_send_tnc2_to_kiss_client w client_fd tnc2 c).1
      (bridge_rx_send_tnc2_to_kiss_client w client_fd tnc2 c).2 := by
  unfold bridge_rx_send_tnc2_to_kiss_client
  split
  · exact Delivers.of_eq _ rfl
  · split
    · exact Delivers.of_eq _ rfl
    · rename_i ax25 _
      dsimp only
      split
      · exact Delivers.of_eq _ rfl
      · rename_i ax25_raw _
        split
        · exact Delivers.of_eq _ rfl
        · rename_i kiss_raw hkiss
          -- the one place that writes: the entry is complete unless the write failed
          set sent := bridge_rx_write_all_fd w kiss_raw
            ((c.count .tnc2_rx).count .ax25_tx).client_tx with hsent
          have hframe : IsKissFrame sent.buf := ⟨ax25_raw, hkiss⟩
          split
          · exact appends_one c.client_tx hframe (.inr rfl)
          · rename_i hok
            have hok : sent.ok = true := by simpa using hok
            exact appends_one c.client_tx hframe
              (.inl ((bridge_rx_write_all_fd_ok_iff w kiss_raw _).mp hok))

section Elim

variable {P : bridge_rx_t → bridge_rx_t → Lhkt → Prop} (w : Nat → List write_ret) (client_fd : Bool)

/-- **A rule for the loop.** What holds of doing nothing, of a text that is sent and
of a failed call, and can be put together behind a success, holds of the loop: a
piece of work that failed ends it. -/
theorem handle_loraham_chunk_loop_elim (hnone : ∀ c, P c c .OK)
    (hdrop : ∀ c rx_state buf rx_state' ret,
      loraham_extract_tnc2 rx_state buf LHKT_TNC2_MAX_LINE = (rx_state', .error ret) →
        P c (c.count .loraham_drop) ret)
    (hsend : ∀ c tnc2,
      P c (bridge_rx_send_tnc2_to_kiss_client w client_fd tnc2 (c.count .loraham_rx)).1
        (bridge_rx_send_tnc2_to_kiss_client w client_fd tnc2 (c.count .loraham_rx)).2)
    (htrans : ∀ c c' c'' ret, P c c' .OK → P c' c'' ret → P c c'' ret) (rounds : Nat) :
    ∀ (rx_state : loraham_rx_state_t) (buf : Bytes) (c : bridge_rx_t),
      P c (handle_loraham_chunk_loop w client_fd rounds rx_state buf c).1
        (handle_loraham_chunk_loop w client_fd rounds rx_state buf c).2.2 := by
  induction rounds with
  | zero => exact fun _ _ c => hnone c
  | succ rounds ih =>
      intro rx_state buf c
      unfold handle_loraham_chunk_loop
      split
      · rename_i rx_state tnc2 _
        have hfirst := hsend c tnc2
        dsimp only
        split
        · exact hfirst
        · rename_i hret
          rw [not_ne_iff.mp hret] at hfirst
          split
          · exact hfirst
          · exact htrans _ _ _ _ hfirst (ih _ _ _)
      · split
        · exact hnone c
        · exact ih _ _ _
      · rename_i hext
        exact hdrop _ _ _ _ _ hext

/-- **A rule for a packet**: two calls, and a count when they found no text. -/
theorem bridge_rx_send_loraham_packet_elim (hclosed : ∀ c, P c c .ERR)
    (hchunk : ∀ rx_state buf c,
      P c (bridge_rx_handle_loraham_chunk w client_fd rx_state buf c).1
        (bridge_rx_handle_loraham_chunk w client_fd rx_state buf c).2.2)
    (hempty : ∀ c, P c (c.count .loraham_drop) .ERR_FORMAT)
    (htrans : ∀ c c' c'' ret, P c c' .OK → P c' c'' ret → P c c'' ret) (packet : Bytes)
    (c : bridge_rx_t) :
    P c (bridge_rx_send_loraham_packet_to_kiss_client w client_fd packet c).1
      (bridge_rx_send_loraham_packet_to_kiss_client w client_fd packet c).2 := by
  unfold bridge_rx_send_loraham_packet_to_kiss_client
  split
  · exact hclosed c
  · dsimp only
    have hfirst := hchunk loraham_rx_state_init packet c
    generalize bridge_rx_handle_loraham_chunk w client_fd loraham_rx_state_init packet c = r
      at hfirst ⊢
    split
    · exact hfirst
    · rename_i hret
      rw [not_ne_iff.mp hret] at hfirst
      have hboth := htrans _ _ _ _ hfirst (hchunk r.2.1 [] r.1)
      generalize bridge_rx_handle_loraham_chunk w client_fd r.2.1 [] r.1 = r' at hboth ⊢
      split
      · exact hboth
      · rename_i hret'
        rw [not_ne_iff.mp hret'] at hboth
        split
        · exact htrans _ _ _ _ hboth (hempty _)
        · exact hboth

end Elim

/-- The texts of a packet are delivered one by one. -/
theorem handle_loraham_chunk_loop_delivers (w : Nat → List write_ret) (client_fd : Bool)
    (rounds : Nat) (rx_state : loraham_rx_state_t) (buf : Bytes) (c : bridge_rx_t) :
    Delivers c (handle_loraham_chunk_loop w client_fd rounds rx_state buf c).1
      (handle_loraham_chunk_loop w client_fd rounds rx_state buf c).2.2 := by
  apply handle_loraham_chunk_loop_elim w client_fd
  · exact fun c => Delivers.of_eq _ rfl
  · exact fun c _ _ _ ret _ => Delivers.of_eq ret rfl
  · exact fun c tnc2 => (bridge_rx_send_tnc2_delivers w client_fd tnc2 _).congr rfl rfl
  · exact fun _ _ _ _ hfirst hrest => hfirst.trans hrest

/-- The texts of a packet, with the one left at its end. -/
theorem bridge_rx_send_loraham_packet_delivers (w : Nat → List write_ret) (client_fd : Bool)
    (packet : Bytes) (c : bridge_rx_t) :
    Delivers c (bridge_rx_send_loraham_packet_to_kiss_client w client_fd packet c).1
      (bridge_rx_send_loraham_packet_to_kiss_client w client_fd packet c).2 := by
  apply bridge_rx_send_loraham_packet_elim w client_fd
  · exact fun c => Delivers.of_eq _ rfl
  · exact fun rx_state buf c => handle_loraham_chunk_loop_delivers w client_fd _ rx_state buf c
  · exact fun c => Delivers.of_eq _ rfl
  · exact fun _ _ _ _ hfirst hrest => hfirst.trans hrest

/-- Without a client nothing is written and nothing can fail. -/
theorem bridge_rx_handle_framed_frame_no_client (w : Nat → List write_ret)
    (frame : loraham_frame_t) (c : bridge_rx_t) :
    (bridge_rx_handle_framed_frame w false frame c).1.client_tx = c.client_tx ∧
      (bridge_rx_handle_framed_frame w false frame c).2 = .OK := by
  unfold bridge_rx_handle_framed_frame
  split
  · exact ⟨log_rx_packet_client_tx frame.payload c, rfl⟩
  · split <;> exact ⟨rfl, rfl⟩

/-- **A frame of the daemon** delivers the texts of its packet, or nothing. -/
theorem bridge_rx_handle_framed_frame_delivers (w : Nat → List write_ret) (client_fd : Bool)
    (frame : loraham_frame_t) (c : bridge_rx_t) :
    Delivers c (bridge_rx_handle_framed_frame w client_fd frame c).1
      (bridge_rx_handle_framed_frame w client_fd frame c).2 := by
  have hlog := log_rx_packet_client_tx frame.payload c
  unfold bridge_rx_handle_framed_frame
  split
  · dsimp only
    split
    · exact Delivers.of_eq _ hlog
    · split
      · exact Delivers.of_eq _ hlog
      · exact (bridge_rx_send_loraham_packet_delivers w client_fd _ _).congr hlog.symm rfl
  · split <;> exact Delivers.of_eq _ rfl

/-- **The idle path.** One chunk of the daemon's stream, in any decoder state. -/
theorem bridge_rx_handle_framed_chunk_delivers (w : Nat → List write_ret) (client_fd : Bool)
    (buf : Bytes) : ∀ (frame_state : loraham_framed_rx_state_t) (c : bridge_rx_t),
      Delivers c (bridge_rx_handle_framed_chunk w client_fd frame_state buf c).1
        (bridge_rx_handle_framed_chunk w client_fd frame_state buf c).2.2 := by
  induction buf with
  | nil => exact fun _ c => Delivers.of_eq _ rfl
  | cons b buf ih =>
      intro frame_state c
      unfold bridge_rx_handle_framed_chunk
      split
      · rename_i frame_state frame _
        have hframe := bridge_rx_handle_framed_frame_delivers w client_fd frame c
        dsimp only
        split
        · exact hframe
        · rename_i hret
          rw [not_ne_iff.mp hret] at hframe
          exact hframe.trans (ih _ _)
      · exact ih _ _
      · exact Delivers.of_eq _ rfl

/-! ## What the receive path keeps -/

/-- The counters of the receive path. -/
def rx_counters : List lhkt_counter :=
  [.tnc2_drop, .tnc2_rx, .ax25_drop, .ax25_tx, .kiss_drop, .kiss_tx, .loraham_rx, .loraham_drop,
    .loraham_framed_errors]

/-- What everything that is done to the receiver keeps: a count, a write to the
client, and a record for the RF log. -/
structure RxInvariant (I : bridge_rx_t → Prop) : Prop where
  counted : ∀ c, ∀ counter ∈ rx_counters, I c → I (c.count counter)
  written : ∀ (c : bridge_rx_t) sent, I c → I { c with client_tx := c.client_tx ++ [sent] }
  logged : ∀ c rssi_cdbm snr_cdb packet, I c → I (c.log (.rx rssi_cdbm snr_cdb packet))

section RxInvariant

variable {I : bridge_rx_t → Prop} (w : Nat → List write_ret) (client_fd : Bool)

/-- A text keeps the invariant. -/
theorem RxInvariant.send_tnc2 (h : RxInvariant I) (tnc2 : Bytes) {c : bridge_rx_t} (hc : I c) :
    I (bridge_rx_send_tnc2_to_kiss_client w client_fd tnc2 c).1 := by
  have hparsed := h.counted c .tnc2_rx (by decide) hc
  have hencoded := h.counted _ .ax25_tx (by decide) hparsed
  unfold bridge_rx_send_tnc2_to_kiss_client
  split
  · exact hc
  · split
    · exact h.counted c .tnc2_drop (by decide) hc
    · dsimp only
      split
      · exact h.counted _ .ax25_drop (by decide) hparsed
      · split
        · exact h.counted _ .kiss_drop (by decide) hencoded
        · split
          · exact h.counted _ .kiss_drop (by decide) (h.written _ _ hencoded)
          · exact h.counted _ .kiss_tx (by decide) (h.written _ _ hencoded)

/-- A packet of the radio keeps the invariant. -/
theorem RxInvariant.loraham_packet (h : RxInvariant I) (packet : Bytes) {c : bridge_rx_t}
    (hc : I c) : I (bridge_rx_send_loraham_packet_to_kiss_client w client_fd packet c).1 := by
  have htrans : ∀ c c' c'' : bridge_rx_t, Lhkt → (I c → I c') → (I c' → I c'') → I c → I c'' :=
    fun _ _ _ _ hfirst hrest hc => hrest (hfirst hc)
  refine bridge_rx_send_loraham_packet_elim (P := fun c c' _ => I c → I c') w client_fd
    (fun _ hc => hc) ?_ (fun c => h.counted c .loraham_drop (by decide)) htrans packet c hc
  intro rx_state buf c
  exact handle_loraham_chunk_loop_elim (P := fun c c' _ => I c → I c') w client_fd (fun _ hc => hc)
    (fun c _ _ _ _ _ => h.counted c .loraham_drop (by decide))
    (fun c tnc2 hc => h.send_tnc2 w client_fd tnc2 (h.counted c .loraham_rx (by decide) hc))
    htrans _ rx_state buf c

/-- A frame of the daemon keeps the invariant. -/
theorem RxInvariant.framed_frame (h : RxInvariant I) (frame : loraham_frame_t) {c : bridge_rx_t}
    (hc : I c) : I (bridge_rx_handle_framed_frame w client_fd frame c).1 := by
  have hlogged : I (log_rx_packet frame.payload c) := by
    unfold log_rx_packet
    split
    · exact h.logged c _ _ _ hc
    · exact hc
  unfold bridge_rx_handle_framed_frame
  split
  · dsimp only
    split
    · exact h.counted _ .loraham_drop (by decide) hlogged
    · split
      · exact h.counted _ .loraham_drop (by decide) hlogged
      · exact h.loraham_packet w client_fd _ hlogged
  · split
    · exact h.counted c .loraham_framed_errors (by decide) hc
    · exact h.counted c .loraham_drop (by decide) hc

/-- **An invariant of the receiver** survives a chunk of the daemon's stream. -/
theorem RxInvariant.framed_chunk (h : RxInvariant I) (buf : Bytes) :
    ∀ (frame_state : loraham_framed_rx_state_t) (c : bridge_rx_t), I c →
      I (bridge_rx_handle_framed_chunk w client_fd frame_state buf c).1 := by
  induction buf with
  | nil => exact fun _ _ hc => hc
  | cons b buf ih =>
      intro frame_state c hc
      unfold bridge_rx_handle_framed_chunk
      split
      · rename_i frame_state frame _
        have hframe := h.framed_frame w client_fd frame hc
        dsimp only
        split
        · exact hframe
        · exact ih _ _ hframe
      · exact ih _ _ hc
      · exact h.counted c .loraham_drop (by decide) hc

end RxInvariant

end LorahamKissTnc.BridgeRx
