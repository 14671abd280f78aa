/-
`bridge_kiss.c`: from a KISS frame of the client to a packet in the TX queue.

`txq_t` is the queue together with its history: every packet that was accepted,
with the KISS frame it came from; every packet that left the queue, with what
became of it; and a snapshot of the situation in which each transmission was
started. The history is only written to.

The last section says once what handling a frame can do to the queue: nothing,
or append the packet made from that very frame.
-/
import LorahamKissTnc.BridgeTxQueue
import LorahamKissTnc.LorahamSock
import LorahamKissTnc.Tnc2
import LorahamKissTnc.Kiss

set_option autoImplicit false

open LorahamKissTnc.Lib.CString LorahamKissTnc.Lib.Machine
open LorahamKissTnc.Config LorahamKissTnc.Kiss LorahamKissTnc.Ax25 LorahamKissTnc.Tnc2
open LorahamKissTnc.LorahamSock LorahamKissTnc.BridgeConf LorahamKissTnc.BridgeTxQueue

namespace LorahamKissTnc.BridgeKiss

/-! ## The queue and its history -/

/-- A packet accepted by `bridge_tx_queue_push`. -/
structure tx_accept where
  frame : kiss_frame_t
  packet : Bytes
  deriving DecidableEq, Repr

/-- What became of a packet that left the queue. -/
inductive tx_fate where
  | sent
  | dropped
  deriving DecidableEq, Repr

/-- The situation in which `bridge_loraham_send_packet_with_client` was called:
the packet and its age, the two descriptors, and the history of the CONF
connection. -/
structure tx_start where
  packet : Bytes
  queued_ms : Int
  now : Int
  data_fd : Bool
  conf_fd : Bool
  events : List conf_event

/-- The TX queue and its history. -/
structure txq_t where
  queue : bridge_tx_queue_t := bridge_tx_queue_init
  accepted : List tx_accept := []
  gone : List (Bytes × tx_fate) := []
  starts : List tx_start := []

/-- `bridge_tx_queue_push`, remembering the packet when it is accepted. -/
def txq_t.push (q : txq_t) (cfg : lhkt_config_t) (frame : kiss_frame_t) (packet : Bytes)
    (now : Int) : txq_t × Lhkt :=
  match bridge_tx_queue_push q.queue cfg packet now with
  | .ok queue => ({ q with queue := queue, accepted := q.accepted ++ [⟨frame, packet⟩] }, .OK)
  | .error ret => (q, ret)

/-- `bridge_tx_queue_pop`, remembering what became of the packet. -/
def txq_t.pop (q : txq_t) (packet : Bytes) (fate : tx_fate) : txq_t :=
  { q with queue := bridge_tx_queue_pop q.queue, gone := q.gone ++ [(packet, fate)] }

/-! ## KISS ingress -/

/-- `bridge_kiss_handle_data_frame` at time `now`. -/
def bridge_kiss_handle_data_frame (kiss_frame : kiss_frame_t) (cfg : lhkt_config_t) (now : Int)
    (stats : lhkt_stats_t) (q : txq_t) : lhkt_stats_t × txq_t × Lhkt :=
  match ax25_decode_ui kiss_frame.data with
  | .error ret => (stats.incr .ax25_drop, q, ret)
  | .ok ax25 =>
      let stats := stats.incr .ax25_rx
      match tnc2_format_line ax25 LHKT_TNC2_MAX_LINE with
      | .error ret => (stats.incr .tnc2_drop, q, ret)
      | .ok tnc2 =>
          let stats := stats.incr .tnc2_tx
          match loraham_build_aprs_packet tnc2 LHKT_LORAHAM_TX_MAX with
          | .error ret =>
              let stats := stats.incr .loraham_drop
              (if ret = .ERR_LONG then stats.incr .tx_drop_oversize else stats, q, ret)
          | .ok lora_pkt =>
              -- the codecs run and count all the same, only nothing is queued
              if cfg.rx_only then (stats, q, .OK)
              else
                -- a full queue refuses the new packet, the queued ones stay
                let r := q.push cfg kiss_frame lora_pkt now
                if r.2 ≠ .OK then (stats.incr .loraham_drop, r.1, r.2)
                else (stats, r.1, .OK)

/-- `bridge_kiss_handle_frame` at time `now`. -/
def bridge_kiss_handle_frame (kiss_frame : kiss_frame_t) (kiss_params : kiss_params_t)
    (cfg : lhkt_config_t) (now : Int) (stats : lhkt_stats_t) (q : txq_t) :
    kiss_params_t × lhkt_stats_t × txq_t × Lhkt :=
  let kiss_params := kiss_handle_command kiss_params kiss_frame
  if kiss_frame.command = KISS_CMD_DATA then
    -- there is one radio, on port 0
    if kiss_frame.port ≠ 0 then (kiss_params, stats.incr .kiss_drop, q, .ERR_UNSUPPORTED)
    else (kiss_params, bridge_kiss_handle_data_frame kiss_frame cfg now stats q)
  else (kiss_params, stats, q, .OK)

/-! ## What a frame can do to the queue -/

/-- The packet the three codecs make from an AX.25 frame. -/
theorem packet_of_codecs {data tnc2 packet : Bytes} {frame : ax25_frame_t}
    (hax25 : ax25_decode_ui data = .ok frame)
    (htnc2 : tnc2_format_line frame LHKT_TNC2_MAX_LINE = .ok tnc2)
    (hpacket : loraham_build_aprs_packet tnc2 LHKT_LORAHAM_TX_MAX = .ok packet) :
    frame.Valid ∧ 0 ∉ frame.payload ∧ packet = loraham_hdr ++ tnc2_text frame ∧
      packet.length ≤ LHKT_LORAHAM_TX_MAX := by
  obtain ⟨hv, _⟩ := ax25_decode_ui_valid hax25
  rw [tnc2_format_line_valid hv] at htnc2
  split at htnc2
  · exact nomatch htnc2
  · rename_i h0
    have hcstr : cstr tnc2 = tnc2_text frame := by
      rw [← Except.ok.inj htnc2, cstr_eq_self (tnc2_text_line hv h0).1]
    unfold loraham_build_aprs_packet at hpacket
    dsimp only at hpacket
    rw [hcstr] at hpacket
    split at hpacket
    · exact nomatch hpacket
    · rename_i hlen
      have hpacket : packet = loraham_hdr ++ tnc2_text frame := (Except.ok.inj hpacket).symm
      refine ⟨hv, h0, hpacket, ?_⟩
      rw [hpacket, List.length_append]
      exact Nat.le_of_not_lt hlen

/-- A push either leaves everything as it was, or appends. -/
theorem txq_push_cases (q : txq_t) (cfg : lhkt_config_t) (frame : kiss_frame_t) (packet : Bytes)
    (now : Int) :
    ((q.push cfg frame packet now).1 = q ∧ (q.push cfg frame packet now).2 ≠ .OK) ∨
    ∃ queue, bridge_tx_queue_push q.queue cfg packet now = .ok queue ∧
      q.push cfg frame packet now
        = ({ q with queue := queue, accepted := q.accepted ++ [⟨frame, packet⟩] }, .OK) := by
  unfold txq_t.push
  split
  · rename_i queue hpush
    exact .inr ⟨queue, hpush, rfl⟩
  · rename_i ret hpush
    refine .inl ⟨rfl, ?_⟩
    unfold bridge_tx_queue_push at hpush
    split at hpush
    · rw [← Except.error.inj hpush]
      exact fun h => Lhkt.noConfusion h
    · split at hpush
      · rw [← Except.error.inj hpush]
        exact fun h => Lhkt.noConfusion h
      · exact absurd hpush (by simp)

/-- **KISS ingress.** A frame leaves the queue and its history as they are, or,
outside RX-only mode, appends the packet the three codecs make from it. -/
theorem bridge_kiss_handle_frame_cases (kiss_frame : kiss_frame_t) (kiss_params : kiss_params_t)
    (cfg : lhkt_config_t) (now : Int) (stats : lhkt_stats_t) (q : txq_t) :
    (bridge_kiss_handle_frame kiss_frame kiss_params cfg now stats q).2.2.1 = q ∨
    ∃ ax25 tnc2 packet queue, cfg.rx_only = false ∧ kiss_frame.command = KISS_CMD_DATA ∧
      kiss_frame.port = 0 ∧ ax25_decode_ui kiss_frame.data = .ok ax25 ∧
      tnc2_format_line ax25 LHKT_TNC2_MAX_LINE = .ok tnc2 ∧
      loraham_build_aprs_packet tnc2 LHKT_LORAHAM_TX_MAX = .ok packet ∧
      bridge_tx_queue_push q.queue cfg packet now = .ok queue ∧
      (bridge_kiss_handle_frame kiss_frame kiss_params cfg now stats q).2.2.1
        = { q with queue := queue, accepted := q.accepted ++ [⟨kiss_frame, packet⟩] } := by
  unfold bridge_kiss_handle_frame
  dsimp only
  split
  · rename_i hcmd
    split
    · exact .inl rfl
    · rename_i hport
      unfold bridge_kiss_handle_data_frame
      split
      · exact .inl rfl
      · rename_i ax25 hax25
        dsimp only
        split
        · exact .inl rfl
        · rename_i tnc2 htnc2
          split
          · exact .inl rfl
          · rename_i packet hpacket
            split
            · exact .inl rfl
            · rename_i hrx
              rcases txq_push_cases q cfg kiss_frame packet now with ⟨hq, hret⟩ | ⟨queue, hpush, hq⟩
              · rw [if_pos hret]
                exact .inl hq
              · rw [hq, if_neg (by simp)]
                exact .inr ⟨ax25, tnc2, packet, queue, by simpa using hrx, hcmd,
                  not_ne_iff.mp hport, hax25, htnc2, hpacket, hpush, rfl⟩
  · exact .inl rfl

end LorahamKissTnc.BridgeKiss
