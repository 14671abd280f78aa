/-
What becomes of the frames a KISS client sends: each is queued, dropped and
counted once, or ignored.

A data frame passes a port check, three conversions and the push, each with its
own error codes and its own counter. `Outcome` is the account of one frame;
that of a read from the client follows byte by byte, where every frame the
decoder completes and every frame it gives up add one to one side of the balance
(`handle_client_bytes_balance`), and that of a run is the sum over its reads.
`kiss_drop` also counts the frames the decoder gives up, so these stand in the
balance beside the data frames.
-/
import LorahamKissTnc.TxDecisions
import LorahamKissTnc.KissStream

set_option autoImplicit false

open LorahamKissTnc.Lib.CString LorahamKissTnc.Lib.Channel LorahamKissTnc.Lib.Machine
open LorahamKissTnc.Config LorahamKissTnc.Kiss LorahamKissTnc.Ax25 LorahamKissTnc.Tnc2
open LorahamKissTnc.LorahamSock LorahamKissTnc.BridgeConf LorahamKissTnc.BridgeTxQueue
open LorahamKissTnc.BridgeRx LorahamKissTnc.BridgeKiss LorahamKissTnc.BridgeLoraham
open LorahamKissTnc.Bridge LorahamKissTnc.KissStream LorahamKissTnc.OnAir LorahamKissTnc.TxDrops
open LorahamKissTnc.TxDecisions

namespace LorahamKissTnc.KissIngress

/-! ## The account of one frame -/

/-- No drop counter has changed. -/
def NoDrop (a b : lhkt_stats_t) : Prop :=
  b.kiss_drop = a.kiss_drop ∧ b.ax25_drop = a.ax25_drop ∧ b.tnc2_drop = a.tnc2_drop ∧
    b.loraham_drop = a.loraham_drop ∧ b.tx_drop_oversize = a.tx_drop_oversize

/-- Exactly one of the four drop counters has been incremented, by one. -/
def OneDrop (a b : lhkt_stats_t) : Prop :=
  (b.kiss_drop = a.kiss_drop + 1 ∧ b.ax25_drop = a.ax25_drop ∧ b.tnc2_drop = a.tnc2_drop ∧
    b.loraham_drop = a.loraham_drop) ∨
  (b.kiss_drop = a.kiss_drop ∧ b.ax25_drop = a.ax25_drop + 1 ∧ b.tnc2_drop = a.tnc2_drop ∧
    b.loraham_drop = a.loraham_drop) ∨
  (b.kiss_drop = a.kiss_drop ∧ b.ax25_drop = a.ax25_drop ∧ b.tnc2_drop = a.tnc2_drop + 1 ∧
    b.loraham_drop = a.loraham_drop) ∨
  (b.kiss_drop = a.kiss_drop ∧ b.ax25_drop = a.ax25_drop ∧ b.tnc2_drop = a.tnc2_drop ∧
    b.loraham_drop = a.loraham_drop + 1)

/-- The frame passes the port check and its text is formatted. -/
def Formats (f : kiss_frame_t) (tnc2 : Bytes) : Prop :=
  f.port = 0 ∧ ∃ ax25, ax25_decode_ui f.data = .ok ax25 ∧
    tnc2_format_line ax25 LHKT_TNC2_MAX_LINE = .ok tnc2

/-- The frame passes the port check and all conversions. -/
def Converts (f : kiss_frame_t) : Prop :=
  ∃ tnc2 packet, Formats f tnc2 ∧ loraham_build_aprs_packet tnc2 LHKT_LORAHAM_TX_MAX = .ok packet

/-- The formatted text does not fit into a packet with its header. -/
def Oversize (f : kiss_frame_t) : Prop := ∃ tnc2, Formats f tnc2 ∧ 252 < tnc2.length

/-- One packet was added at the end of the queue. -/
def Appended (q q' : txq_t) (now : Int) : Prop :=
  q'.gone = q.gone ∧ ∃ packet,
    q'.queue.toList = q.queue.toList ++ [{ packet := packet, queued_ms := now }]

/-- What handling a frame may come to. -/
structure Outcome (cfg : lhkt_config_t) (f : kiss_frame_t) (now : Int) (stats : lhkt_stats_t)
    (q : txq_t) (stats' : lhkt_stats_t) (q' : txq_t) (ret : Lhkt) : Prop where
  queued_or_kept : (ret = .OK ∧ NoDrop stats stats' ∧ Appended q q' now) ∨ q' = q
  dropped : q' = q → f.command = KISS_CMD_DATA → cfg.rx_only = false →
    ret.code < 0 ∧ OneDrop stats stats' ∧
      (Oversize f → stats'.tx_drop_oversize = stats.tx_drop_oversize + 1) ∧
      (¬ Oversize f → stats'.tx_drop_oversize = stats.tx_drop_oversize)
  ignored : f.command ≠ KISS_CMD_DATA ∨ (cfg.rx_only = true ∧ Converts f) →
    ret = .OK ∧ NoDrop stats stats' ∧ q' = q

/-! ## The stages -/

theorem error_ne_ok {α : Type} {ret ret' : Lhkt} (h : (.error ret : Except Lhkt α) = .error ret')
    (hret : ret ≠ .OK) : ret' ≠ .OK := by
  rw [← Except.error.inj h]
  exact hret

/-- An address that is not one is malformed. -/
theorem ax25_decode_addr_error {data : Bytes} {is_path : Bool} {ret : Lhkt}
    (h : ax25_decode_addr data is_path = .error ret) : ret ≠ .OK := by
  unfold ax25_decode_addr at h
  dsimp only at h
  repeat' split at h
  all_goals first
    | exact error_ne_ok h (by decide)
    | exact nomatch h

/-- The address field fails in one of its addresses. -/
theorem ax25_decode_addrs_error (room : Nat) : ∀ (data : Bytes) (addrs : List ax25_addr_t)
    (ret : Lhkt), ax25_decode_addrs room data addrs = .error ret → ret ≠ .OK := by
  induction room with
  | zero =>
      intro data addrs ret h
      cases h
  | succ room ih =>
      intro data addrs ret h
      rw [ax25_decode_addrs] at h
      by_cases hshort : data.length < AX25_ADDR_LEN
      · rw [if_pos hshort] at h
        cases h
      · rw [if_neg hshort] at h
        rcases bind_eq_error h with haddr | ⟨addr, -, hrest⟩
        · exact ax25_decode_addr_error haddr
        · -- the last address ends the field, and behind another one it goes on
          by_cases hlast : data.getD 6 0 &&& AX25_ADDR_LAST ≠ 0
          · rw [if_pos hlast] at hrest
            cases hrest
          · rw [if_neg hlast] at hrest
            exact ih _ _ _ hrest

/-- A rejected frame comes with an error code. -/
theorem ax25_decode_ui_error {data : Bytes} {ret : Lhkt} (h : ax25_decode_ui data = .error ret) :
    ret ≠ .OK := by
  unfold ax25_decode_ui at h
  rcases bind_eq_error h with haddrs | ⟨⟨addrs, last, rest⟩, -, hframe⟩
  · exact ax25_decode_addrs_error _ _ _ _ haddrs
  · -- behind the addresses every way out but the last is an error
    dsimp only at hframe
    repeat' split at hframe
    all_goals first
      | exact error_ne_ok hframe (by decide)
      | exact nomatch hframe

/-- The text of a decoded frame, or a refusal because of a NUL. -/
theorem format_line_decoded {data : Bytes} {ax25 : ax25_frame_t}
    (h : ax25_decode_ui data = .ok ax25) :
    tnc2_format_line ax25 LHKT_TNC2_MAX_LINE = .error .ERR_FORMAT ∨
      ∃ tnc2, tnc2_format_line ax25 LHKT_TNC2_MAX_LINE = .ok tnc2 ∧ cstr tnc2 = tnc2 := by
  obtain ⟨hv, _⟩ := ax25_decode_ui_valid h
  rw [tnc2_format_line_valid hv]
  by_cases h0 : 0 ∈ ax25.payload
  · rw [if_pos h0]
    exact .inl rfl
  · rw [if_neg h0]
    exact .inr ⟨_, rfl, cstr_eq_self (tnc2_text_line hv h0).1⟩

/-- A packet is built unless the text is too long for it. -/
theorem build_packet_eq {tnc2 : Bytes} (h : cstr tnc2 = tnc2) :
    loraham_build_aprs_packet tnc2 LHKT_LORAHAM_TX_MAX
      = if 252 < tnc2.length then .error .ERR_LONG else .ok (loraham_hdr ++ tnc2) := by
  unfold loraham_build_aprs_packet
  rw [h]
  dsimp only [LHKT_LORAHAM_TX_MAX, LHKT_LORAHAM_HDR_LEN]
  by_cases hlong : 252 < tnc2.length
  · rw [if_pos hlong, if_pos (by omega)]
  · rw [if_neg hlong, if_neg (by omega), if_neg (by omega)]

theorem Formats.unique {f : kiss_frame_t} {tnc2 tnc2' : Bytes} (h : Formats f tnc2)
    (h' : Formats f tnc2') : tnc2 = tnc2' := by
  obtain ⟨-, ax25, hax25, htnc2⟩ := h
  obtain ⟨-, ax25', hax25', htnc2'⟩ := h'
  rw [Except.ok.inj (hax25.symm.trans hax25')] at htnc2
  exact Except.ok.inj (htnc2.symm.trans htnc2')

theorem Formats.cstr_eq {f : kiss_frame_t} {tnc2 : Bytes} (h : Formats f tnc2) :
    cstr tnc2 = tnc2 := by
  obtain ⟨-, ax25, hax25, htnc2⟩ := h
  rcases format_line_decoded hax25 with hfail | ⟨tnc2', htnc2', hcstr⟩
  · exact nomatch hfail.symm.trans htnc2
  · rwa [Except.ok.inj (htnc2'.symm.trans htnc2)] at hcstr

/-- A frame on port 0 without a text: it is not an AX.25 UI frame, or its text
would hold a NUL. -/
theorem handle_data_frame_no_text {f : kiss_frame_t} (cfg : lhkt_config_t) (now : Int)
    (stats : lhkt_stats_t) (q : txq_t) (hport : f.port = 0) (h : ∀ tnc2, ¬ Formats f tnc2) :
    ∃ ret stats', bridge_kiss_handle_data_frame f cfg now stats q = (stats', q, ret) ∧
      ret ≠ .OK ∧ OneDrop stats stats' ∧ stats'.tx_drop_oversize = stats.tx_drop_oversize := by
  unfold bridge_kiss_handle_data_frame
  cases hax25 : ax25_decode_ui f.data with
  | error ret =>
      exact ⟨ret, _, rfl, ax25_decode_ui_error hax25, .inr (.inl ⟨rfl, rfl, rfl, rfl⟩), rfl⟩
  | ok ax25 =>
      dsimp only
      rcases format_line_decoded hax25 with hfail | ⟨tnc2, htnc2, -⟩
      · rw [hfail]
        exact ⟨_, _, rfl, by decide, .inr (.inr (.inl ⟨rfl, rfl, rfl, rfl⟩)), rfl⟩
      · exact absurd ⟨hport, ax25, hax25, htnc2⟩ (h tnc2)

/-- A frame with a text: it is too long, suppressed in RX-only mode, or pushed. -/
theorem handle_data_frame_text {f : kiss_frame_t} {tnc2 : Bytes} (cfg : lhkt_config_t) (now : Int)
    (stats : lhkt_stats_t) (q : txq_t) (h : Formats f tnc2) :
    bridge_kiss_handle_data_frame f cfg now stats q =
      let stats := (stats.incr .ax25_rx).incr .tnc2_tx
      if 252 < tnc2.length then ((stats.incr .loraham_drop).incr .tx_drop_oversize, q, .ERR_LONG)
      else if cfg.rx_only then (stats, q, .OK)
      else
        let r := q.push cfg f (loraham_hdr ++ tnc2) now
        if r.2 ≠ .OK then (stats.incr .loraham_drop, r.1, r.2) else (stats, r.1, .OK) := by
  have hcstr := h.cstr_eq
  obtain ⟨-, ax25, hax25, htnc2⟩ := h
  unfold bridge_kiss_handle_data_frame
  rw [hax25]
  dsimp only
  rw [htnc2]
  dsimp only
  rw [build_packet_eq hcstr]
  by_cases hlong : 252 < tnc2.length
  · rw [if_pos hlong, if_pos hlong]
    rfl
  · rw [if_neg hlong, if_neg hlong]

theorem converts_iff {f : kiss_frame_t} {tnc2 : Bytes} (h : Formats f tnc2) :
    Converts f ↔ ¬ 252 < tnc2.length := by
  have hcstr := h.cstr_eq
  constructor
  · rintro ⟨tnc2', packet, h', hbuild⟩ hlong
    rw [h'.unique h, build_packet_eq hcstr, if_pos hlong] at hbuild
    exact nomatch hbuild
  · intro hshort
    exact ⟨tnc2, loraham_hdr ++ tnc2, h, by rw [build_packet_eq hcstr, if_neg hshort]⟩

/-- The account of a frame with a text. -/
theorem handle_data_frame_text_outcome {f : kiss_frame_t} {tnc2 : Bytes} (cfg : lhkt_config_t)
    (now : Int) (stats : lhkt_stats_t) (q : txq_t) (h : Formats f tnc2)
    (hdata : f.command = KISS_CMD_DATA) :
    Outcome cfg f now stats q (bridge_kiss_handle_data_frame f cfg now stats q).1
      (bridge_kiss_handle_data_frame f cfg now stats q).2.1
      (bridge_kiss_handle_data_frame f cfg now stats q).2.2 := by
  have hover : Oversize f ↔ 252 < tnc2.length := by
    constructor
    · rintro ⟨tnc2', h', hlong⟩
      rwa [h'.unique h] at hlong
    · exact fun hlong => ⟨tnc2, h, hlong⟩
  rw [handle_data_frame_text cfg now stats q h]
  dsimp only
  by_cases hlong : 252 < tnc2.length
  · -- too long for a packet: the only drop that is also counted as oversize
    rw [if_pos hlong]
    constructor
    · exact .inr rfl
    · intro _ _ _
      exact ⟨(Lhkt.code_neg_iff .ERR_LONG).mpr (by decide), .inr (.inr (.inr ⟨rfl, rfl, rfl, rfl⟩)),
        fun _ => rfl, fun hshort => absurd (hover.mpr hlong) hshort⟩
    · rintro (hcmd | ⟨-, hconv⟩)
      · exact absurd hdata hcmd
      · exact absurd hlong ((converts_iff h).mp hconv)
  · rw [if_neg hlong]
    -- the frame converts, so RX-only mode suppresses it, or it is pushed
    cases hrx : cfg.rx_only with
    | true =>
        rw [if_pos rfl]
        constructor
        · exact .inr rfl
        · exact fun _ _ hno => nomatch hrx.symm.trans hno
        · exact fun _ => ⟨rfl, ⟨rfl, rfl, rfl, rfl, rfl⟩, rfl⟩
    | false =>
        rw [if_neg Bool.false_ne_true]
        have hignored : ¬ (f.command ≠ KISS_CMD_DATA ∨ (cfg.rx_only = true ∧ Converts f)) := by
          rintro (hcmd | ⟨hyes, -⟩)
          · exact hcmd hdata
          · exact nomatch hrx.symm.trans hyes
        rcases txq_push_cases q cfg f (loraham_hdr ++ tnc2) now with ⟨hq, hret⟩ | ⟨queue, hpush, hq⟩
        · rw [if_pos hret]
          constructor
          · exact .inr hq
          · intro _ _ _
            exact ⟨(Lhkt.code_neg_iff _).mpr hret, .inr (.inr (.inr ⟨rfl, rfl, rfl, rfl⟩)),
              fun hbig => absurd (hover.mp hbig) hlong, fun _ => rfl⟩
          · exact fun h => absurd h hignored
        · rw [hq, if_neg (not_not_intro rfl)]
          have hlist := toList_push hpush
          constructor
          · exact .inl ⟨rfl, ⟨rfl, rfl, rfl, rfl, rfl⟩, rfl, _, hlist⟩
          · intro hsame
            -- a queue with one packet more is not the same queue
            have hqueue : queue = q.queue := congrArg (·.queue) hsame
            rw [hqueue] at hlist
            exact absurd hlist (by simp)
          · exact fun h => absurd h hignored

/-- **Every frame has one outcome.** -/
theorem handle_frame_outcome (cfg : lhkt_config_t) (f : kiss_frame_t) (params : kiss_params_t)
    (now : Int) (stats : lhkt_stats_t) (q : txq_t) :
    Outcome cfg f now stats q (bridge_kiss_handle_frame f params cfg now stats q).2.1
      (bridge_kiss_handle_frame f params cfg now stats q).2.2.1
      (bridge_kiss_handle_frame f params cfg now stats q).2.2.2 := by
  unfold bridge_kiss_handle_frame
  dsimp only
  by_cases hdata : f.command = KISS_CMD_DATA
  · rw [if_pos hdata]
    by_cases hport : f.port = 0
    · rw [if_neg (not_not_intro hport)]
      -- a data frame on port 0: what becomes of it depends on its text
      by_cases htext : ∃ tnc2, Formats f tnc2
      · obtain ⟨tnc2, h⟩ := htext
        exact handle_data_frame_text_outcome cfg now stats q h hdata
      · have hnone : ∀ tnc2, ¬ Formats f tnc2 := fun tnc2 h => htext ⟨tnc2, h⟩
        obtain ⟨ret, stats', hr, hret, hdrop, hsize⟩ :=
          handle_data_frame_no_text cfg now stats q hport hnone
        rw [hr]
        constructor
        · exact .inr rfl
        · intro _ _ _
          refine ⟨(Lhkt.code_neg_iff ret).mpr hret, hdrop, ?_, fun _ => hsize⟩
          rintro ⟨tnc2, h, -⟩
          exact absurd h (hnone tnc2)
        · rintro (hcmd | ⟨-, tnc2, packet, h, -⟩)
          · exact absurd hdata hcmd
          · exact absurd h (hnone tnc2)
    · -- any other port is refused and counted as a KISS drop
      rw [if_pos hport]
      constructor
      · exact .inr rfl
      · intro _ _ _
        refine ⟨(Lhkt.code_neg_iff .ERR_UNSUPPORTED).mpr (by decide), .inl ⟨rfl, rfl, rfl, rfl⟩, ?_,
          fun _ => rfl⟩
        rintro ⟨tnc2, h, -⟩
        exact absurd h.1 hport
      · rintro (hcmd | ⟨-, tnc2, packet, h, -⟩)
        · exact absurd hdata hcmd
        · exact absurd h.1 hport
  · -- a parameter command or an unknown one: no counter, no queue
    rw [if_neg hdata]
    constructor
    · exact .inr rfl
    · exact fun _ hcmd => absurd hcmd hdata
    · exact fun _ => ⟨rfl, ⟨rfl, rfl, rfl, rfl, rfl⟩, rfl⟩

/-! ## A read from the client -/

/-- The four drop counters together. -/
def drops (stats : lhkt_stats_t) : Nat :=
  stats.kiss_drop + stats.ax25_drop + stats.tnc2_drop + stats.loraham_drop

/-- What the decoder completes or gives up in these bytes. -/
def client_events (dec : kiss_decoder_t) (bytes : Bytes) : List (Except Lhkt kiss_frame_t) :=
  events_of (kiss_decode dec bytes).2

/-- The data frames among the events. -/
def data_frames (events : List (Except Lhkt kiss_frame_t)) : Nat :=
  events.countP fun
    | .ok f => f.command = KISS_CMD_DATA
    | .error _ => false

/-- The frames the decoder gave up. -/
def decode_errors (events : List (Except Lhkt kiss_frame_t)) : Nat :=
  events.countP fun
    | .ok _ => false
    | .error _ => true

/-- From `s` to `s'`, of `n` frames some were queued and the others counted as
drops. -/
def Balance (s s' : bridge_t) (n : Nat) : Prop :=
  ∃ queued dropped, s'.txq.queue.count = s.txq.queue.count + queued ∧
    s'.txq.accepted.length = s.txq.accepted.length + queued ∧
    drops s'.rx.stats = drops s.rx.stats + dropped ∧ queued + dropped = n

theorem Balance.refl (s : bridge_t) : Balance s s 0 := ⟨0, 0, rfl, rfl, rfl, rfl⟩

theorem Balance.trans {s s' s'' : bridge_t} {m n : Nat} (h : Balance s s' m)
    (h' : Balance s' s'' n) : Balance s s'' (m + n) := by
  obtain ⟨a, d, hcount, haccepted, hdrops, hsum⟩ := h
  obtain ⟨a', d', hcount', haccepted', hdrops', hsum'⟩ := h'
  exact ⟨a + a', d + d', by omega, by omega, by omega, by omega⟩

/-- A completed frame: a data frame is queued or counted, another one is
neither. -/
theorem handle_frame_balance {cfg : lhkt_config_t} (hrx : cfg.rx_only = false) (f : kiss_frame_t)
    (params : kiss_params_t) (now : Int) (stats : lhkt_stats_t) (q : txq_t) :
    ∃ queued dropped,
      (bridge_kiss_handle_frame f params cfg now stats q).2.2.1.queue.count
        = q.queue.count + queued ∧
      (bridge_kiss_handle_frame f params cfg now stats q).2.2.1.accepted.length
        = q.accepted.length + queued ∧
      drops (bridge_kiss_handle_frame f params cfg now stats q).2.1 = drops stats + dropped ∧
      queued + dropped = data_frames [.ok f] := by
  have h := handle_frame_outcome cfg f params now stats q
  have hcases := bridge_kiss_handle_frame_cases f params cfg now stats q
  generalize bridge_kiss_handle_frame f params cfg now stats q = r at h hcases ⊢
  obtain ⟨params', stats', q', ret⟩ := r
  dsimp only at h hcases ⊢
  by_cases hdata : f.command = KISS_CMD_DATA
  · have hone : data_frames [.ok f] = 1 := by simp [data_frames, hdata]
    rw [hone]
    rcases h.queued_or_kept with ⟨-, ⟨hk, ha, ht, hl, -⟩, -, packet, hlist⟩ | hsame
    · have hcount : q'.queue.count = q.queue.count + 1 := by
        rw [← length_toList, hlist, List.length_append, length_toList]
        rfl
      refine ⟨1, 0, hcount, ?_, by unfold drops; omega, rfl⟩
      -- the packet behind the queue is also the last one accepted
      rcases hcases with hsame | ⟨_, _, _, _, _, _, _, _, _, _, _, hq⟩
      · rw [hsame] at hcount
        omega
      · rw [hq]
        simp
    · -- the queue is as it was, so one of the four counters has moved
      obtain ⟨-, hdrop, -, -⟩ := h.dropped hsame hdata hrx
      rw [hsame]
      refine ⟨0, 1, rfl, rfl, ?_, rfl⟩
      unfold drops
      rcases hdrop with ⟨hk, ha, ht, hl⟩ | ⟨hk, ha, ht, hl⟩ | ⟨hk, ha, ht, hl⟩ | ⟨hk, ha, ht, hl⟩ <;>
        omega
  · have hzero : data_frames [.ok f] = 0 := by simp [data_frames, hdata]
    obtain ⟨-, ⟨hk, ha, ht, hl, -⟩, hsame⟩ := h.ignored (.inl hdata)
    rw [hzero, hsame]
    exact ⟨0, 0, rfl, rfl, by unfold drops; omega, rfl⟩

/-- Giving up a socket changes neither the queue nor a drop counter. -/
theorem drop_data_balance (s : bridge_t) : Balance s (drop_data s) 0 := by
  unfold drop_data bridge_loraham_disconnect_data_socket
  dsimp only
  split <;> exact ⟨0, 0, rfl, rfl, rfl, rfl⟩

theorem drop_conf_balance (s : bridge_t) : Balance s (drop_conf s) 0 := by
  unfold drop_conf bridge_loraham_disconnect_conf_socket
  dsimp only
  split <;> exact ⟨0, 0, rfl, rfl, rfl, rfl⟩

/-- One byte. -/
theorem handle_client_byte_balance {cfg : lhkt_config_t} (hrx : cfg.rx_only = false) (now : Int)
    (b : UInt8) (s : bridge_t) :
    Balance s (handle_client_byte cfg now b s)
        (data_frames (events_of [(kiss_decode_byte s.kiss_dec b).2]) +
          decode_errors (events_of [(kiss_decode_byte s.kiss_dec b).2])) ∧
      (handle_client_byte cfg now b s).kiss_dec = (kiss_decode_byte s.kiss_dec b).1 := by
  unfold handle_client_byte
  generalize kiss_decode_byte s.kiss_dec b = r
  obtain ⟨dec, answer⟩ := r
  cases answer with
  | error ret =>
      have hcount : drops (s.rx.count .kiss_drop).stats = drops s.rx.stats + 1 := by
        show s.rx.stats.kiss_drop + 1 + s.rx.stats.ax25_drop + s.rx.stats.tnc2_drop
          + s.rx.stats.loraham_drop = _
        unfold drops
        omega
      exact ⟨⟨0, 1, rfl, rfl, hcount, rfl⟩, rfl⟩
  | ok frame =>
      cases frame with
      | none => exact ⟨⟨0, 0, rfl, rfl, rfl, rfl⟩, rfl⟩
      | some f =>
          obtain ⟨queued, dropped, hcount, haccepted, hdrops, hsum⟩ :=
            handle_frame_balance hrx f s.kiss_params now (s.rx.stats.incr .kiss_rx) s.txq
          dsimp only
          generalize bridge_kiss_handle_frame f s.kiss_params cfg now (s.rx.stats.incr .kiss_rx)
            s.txq = r at hcount haccepted hdrops
          -- the frame is accounted for, and then a socket may be given up
          have hframe : Balance s { s with
              kiss_dec := dec
              kiss_params := r.1
              rx := { s.rx with stats := r.2.1 }
              txq := r.2.2.1 } (data_frames [.ok f]) :=
            ⟨queued, dropped, hcount, haccepted, hdrops, hsum⟩
          split
          · exact ⟨hframe.trans (drop_data_balance _), rfl⟩
          · split
            · exact ⟨hframe.trans (drop_conf_balance _), rfl⟩
            · exact ⟨hframe, rfl⟩

/-- The events of a stream, byte by byte. -/
theorem client_events_cons (dec : kiss_decoder_t) (b : UInt8) (bytes : Bytes) :
    client_events dec (b :: bytes) = events_of [(kiss_decode_byte dec b).2]
      ++ client_events (kiss_decode_byte dec b).1 bytes := by
  unfold client_events
  rw [kiss_decode_cons]
  exact events_of_append [(kiss_decode_byte dec b).2] _

/-- All bytes of a read. -/
theorem handle_client_bytes_balance {cfg : lhkt_config_t} (hrx : cfg.rx_only = false)
    (now : Nat → Int) (buf : Bytes) : ∀ (i : Nat) (s : bridge_t),
    Balance s (handle_client_bytes cfg now i buf s)
      (data_frames (client_events s.kiss_dec buf) +
        decode_errors (client_events s.kiss_dec buf)) := by
  induction buf with
  | nil => exact fun i s => Balance.refl s
  | cons b buf ih =>
      intro i s
      obtain ⟨hbyte, hdec⟩ := handle_client_byte_balance hrx (now i) b s
      have hrest := ih (i + 1) (handle_client_byte cfg (now i) b s)
      rw [hdec] at hrest
      have hall := hbyte.trans hrest
      rw [client_events_cons]
      unfold data_frames decode_errors at hall ⊢
      rw [List.countP_append, List.countP_append]
      rw [handle_client_bytes]
      convert hall using 1
      omega

/-! ## A run -/

/-- The bytes a step reads from the client. -/
def read_bytes (s : bridge_t) (e : bridge_env) : Bytes :=
  if s.pc = .client ∧ s.client_fd ∧ s.ready.client then
    match e.client with
    | .read bytes => bytes
    | _ => []
  else []

/-- The data frames a step sees. -/
def step_frames (s : bridge_t) (e : bridge_env) : Nat :=
  data_frames (client_events s.kiss_dec (read_bytes s e))

/-- The frames the decoder gives up in a step. -/
def step_errors (s : bridge_t) (e : bridge_env) : Nat :=
  decode_errors (client_events s.kiss_dec (read_bytes s e))

/-- The drops counted while a step reads the client. -/
def step_drops (cfg : lhkt_config_t) (s : bridge_t) (e : bridge_env) : Nat :=
  if s.pc = .client then drops (bridge_step cfg s e).rx.stats - drops s.rx.stats else 0

/-- The sum of an amount over the steps of a run. -/
def run_sum (cfg : lhkt_config_t) (amount : bridge_t → bridge_env → Nat) :
    bridge_t → List bridge_env → Nat
  | _, [] => 0
  | s, e :: es => amount s e + run_sum cfg amount (bridge_step cfg s e) es

/-- A drain accepts nothing. -/
theorem drain_accepted (e : drain_env) (cfg : lhkt_config_t) (client_fd : Bool) (s : io_t)
    (q : txq_t) :
    (bridge_loraham_tx_queue_drain_with_client e cfg client_fd s q).2.1.accepted = q.accepted := by
  refine drain_elim (I := fun _ q' => q'.accepted = q.accepted)
    (P := fun r => r.2.1.accepted = q.accepted) e cfg client_fd s q rfl (fun _ _ _ h _ => h)
    (fun _ _ _ _ h _ _ _ => h) (fun _ _ _ h _ => h) (fun _ _ _ h _ => h) ?_
  intro s' q' item now s'' ret written h _ _ _ _
  unfold tx_finished
  split
  · exact h
  · exact h

/-- Only reading the client accepts packets. -/
theorem bridge_step_accepted {cfg : lhkt_config_t} {s : bridge_t} {e : bridge_env}
    (hclient : s.pc ≠ .client) : (bridge_step cfg s e).txq.accepted = s.txq.accepted := by
  by_cases htop : s.pc = .top
  · cases hstop : s.stop || e.signal with
    | false =>
        rw [bridge_step_drained htop hstop]
        exact drain_accepted _ _ _ _ _
    | true =>
        rw [bridge_step_stopped htop hstop]
  · rw [bridge_step_txq htop hclient]

/-- A step that reads the client. -/
theorem bridge_client_balance {cfg : lhkt_config_t} (hrx : cfg.rx_only = false) {s : bridge_t}
    (e : bridge_env) (hpc : s.pc = .client) :
    Balance s (bridge_step cfg s e) (step_frames s e + step_errors s e) := by
  rw [bridge_step_client cfg e hpc]
  unfold step_frames step_errors read_bytes bridge_client
  by_cases hready : s.client_fd = true ∧ s.ready.client = true
  · rw [if_pos hready, if_pos ⟨hpc, hready⟩]
    cases e.client with
    | soft => exact ⟨0, 0, rfl, rfl, rfl, rfl⟩
    | fail => exact ⟨0, 0, rfl, rfl, rfl, rfl⟩
    | read bytes =>
        cases bytes with
        | nil => exact ⟨0, 0, rfl, rfl, rfl, rfl⟩
        | cons b buf => exact handle_client_bytes_balance hrx e.now (b :: buf) 0 s
  · rw [if_neg hready, if_neg fun hrun => hready hrun.2]
    exact ⟨0, 0, rfl, rfl, rfl, rfl⟩

/-- The account of a step. -/
theorem bridge_step_ingress {cfg : lhkt_config_t} (hrx : cfg.rx_only = false) (s : bridge_t)
    (e : bridge_env) :
    (bridge_step cfg s e).txq.accepted.length + step_drops cfg s e
      = s.txq.accepted.length + step_frames s e + step_errors s e := by
  by_cases hclient : s.pc = .client
  · obtain ⟨queued, dropped, -, haccepted, hdrops, hsum⟩ := bridge_client_balance hrx e hclient
    unfold step_drops
    rw [if_pos hclient]
    omega
  · have hnone : read_bytes s e = [] := if_neg fun hrun => hclient hrun.1
    unfold step_drops step_frames step_errors
    rw [if_neg hclient, bridge_step_accepted hclient, hnone]
    rfl

/-- The account of a run. -/
theorem bridge_run_ingress {cfg : lhkt_config_t} (hrx : cfg.rx_only = false)
    (es : List bridge_env) : ∀ s : bridge_t,
    (run (bridge_step cfg) s es).txq.accepted.length + run_sum cfg (step_drops cfg) s es
      = s.txq.accepted.length + run_sum cfg step_frames s es + run_sum cfg step_errors s es := by
  induction es with
  | nil => exact fun s => rfl
  | cons e es ih =>
      intro s
      have hstep := bridge_step_ingress hrx s e
      have hrest := ih (bridge_step cfg s e)
      rw [run_cons, run_sum, run_sum, run_sum]
      omega

/-- **KISS ingress has one outcome per frame.** Every frame is queued at the end
of the queue without a count, or leaves the queue as it is: then a data frame
outside RX-only mode is answered with an error code and counted by one of the
four drop counters, and an ignored frame by none. So the data frames of a read,
with those the decoder gave up, are the packets queued and the drops counted
during the read, and the same holds of the sums over a run. -/
theorem kiss_ingress_one_outcome (cfg : lhkt_config_t) :
    (∀ (f : kiss_frame_t) (params : kiss_params_t) (now : Int) (stats : lhkt_stats_t) (q : txq_t),
      Outcome cfg f now stats q (bridge_kiss_handle_frame f params cfg now stats q).2.1
        (bridge_kiss_handle_frame f params cfg now stats q).2.2.1
        (bridge_kiss_handle_frame f params cfg now stats q).2.2.2) ∧
    (cfg.rx_only = false →
      (∀ (now : Nat → Int) (i : Nat) (buf : Bytes) (s : bridge_t),
        let s' := handle_client_bytes cfg now i buf s
        s'.txq.queue.count + drops s'.rx.stats = s.txq.queue.count + drops s.rx.stats +
          data_frames (client_events s.kiss_dec buf) +
          decode_errors (client_events s.kiss_dec buf)) ∧
      ∀ (start : start_env) (es : List bridge_env),
        (bridge_run cfg start es).txq.accepted.length +
            run_sum cfg (step_drops cfg) (bridge_start cfg start) es
          = run_sum cfg step_frames (bridge_start cfg start) es +
            run_sum cfg step_errors (bridge_start cfg start) es) := by
  constructor
  · exact fun f params now stats q => handle_frame_outcome cfg f params now stats q
  · intro hrx
    constructor
    · intro now i buf s
      obtain ⟨queued, dropped, hcount, -, hdrops, hsum⟩ :=
        handle_client_bytes_balance hrx now buf i s
      dsimp only
      omega
    · intro start es
      have h := bridge_run_ingress hrx es (bridge_start cfg start)
      rw [bridge_start_txq] at h
      exact h.trans (by simp)

/-- A run in which one packet is accepted: one data frame, no drop. -/
theorem kiss_ingress_one_outcome_run :
    let es := iteration client_connects ++ iteration (packet_arrives (ascii "x") status_ready)
    (bridge_run lhkt_config_defaults {} es).txq.accepted.length +
        run_sum lhkt_config_defaults (step_drops lhkt_config_defaults)
          (bridge_start lhkt_config_defaults {}) es
      = run_sum lhkt_config_defaults step_frames (bridge_start lhkt_config_defaults {}) es +
        run_sum lhkt_config_defaults step_errors (bridge_start lhkt_config_defaults {}) es := by
  exact ((kiss_ingress_one_outcome lhkt_config_defaults).2 (by decide)).2 {} _

end LorahamKissTnc.KissIngress
