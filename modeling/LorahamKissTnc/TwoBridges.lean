/-
Two bridges over the air.

Bridge A runs, with everything that can happen to it; its daemon sends what it
receives on DATA. Some of that is heard by the daemon of bridge B, in order, which
hands it over as RX_PACKET frames with metadata of its own, between any other frames.
Bridge B runs as well. `two_bridges` follows a frame through all of it: what the
client of B gets decodes to a selection, in order, of the AX.25 frames the clients of
A have sent, with callsigns in upper case and payloads on one line.

The one thing it asks of A's clients is that no payload holds the LoRa-APRS header,
which the receiving side takes for the start of another packet.
-/
import LorahamKissTnc.DaemonView
import LorahamKissTnc.RxDelivery
import LorahamKissTnc.EndToEnd
import LorahamKissTnc.KissIngress

set_option autoImplicit false

open LorahamKissTnc.Lib.CString LorahamKissTnc.Lib.Channel LorahamKissTnc.Lib.Machine
open LorahamKissTnc.Config LorahamKissTnc.Kiss LorahamKissTnc.Ax25
open LorahamKissTnc.Tnc2 LorahamKissTnc.LorahamSock
open LorahamKissTnc.BridgeConf LorahamKissTnc.BridgeTxQueue LorahamKissTnc.BridgeRx
open LorahamKissTnc.BridgeKiss LorahamKissTnc.BridgeLoraham LorahamKissTnc.Bridge
open LorahamKissTnc.TxOnce LorahamKissTnc.KissStream LorahamKissTnc.KissIngress
open LorahamKissTnc.RxPacket LorahamKissTnc.RxFaults LorahamKissTnc.EndToEnd
open LorahamKissTnc.DaemonView LorahamKissTnc.RxDelivery

namespace LorahamKissTnc.TwoBridges

variable {cfg : lhkt_config_t}

/-! ## What was accepted -/

/-- The packet is what the three codecs make of the client's frame. -/
def Codes (a : tx_accept) (ax25 : ax25_frame_t) : Prop :=
  ax25_decode_ui a.frame.data = .ok ax25 ∧ ∃ tnc2,
    tnc2_format_line ax25 LHKT_TNC2_MAX_LINE = .ok tnc2 ∧
    loraham_build_aprs_packet tnc2 LHKT_LORAHAM_TX_MAX = .ok a.packet

/-- Everything accepted came from a frame of a client. -/
def Coded (q : txq_t) : Prop := ∀ a ∈ q.accepted, ∃ ax25, Codes a ax25

theorem Coded.push {q : txq_t} (h : Coded q) (frame : kiss_frame_t) (kiss_params : kiss_params_t)
    (now : Int) (stats : lhkt_stats_t) :
    Coded (bridge_kiss_handle_frame frame kiss_params cfg now stats q).2.2.1 := by
  rcases bridge_kiss_handle_frame_cases frame kiss_params cfg now stats q with
    hq | ⟨ax25, tnc2, packet, queue, _, _, _, hax25, htnc2, hpacket, _, hq⟩
  · rw [hq]
    exact h
  · rw [hq]
    intro a ha
    rcases List.mem_append.mp ha with ha | ha
    · exact h a ha
    · rw [List.mem_singleton.mp ha]
      exact ⟨ax25, hax25, tnc2, htnc2, hpacket⟩

theorem bridge_step_coded (cfg : lhkt_config_t) (s : bridge_t) (e : bridge_env)
    (h : Coded s.txq) : Coded (bridge_step cfg s e).txq := by
  refine bridge_step_elim (P := fun s => Coded s.txq) cfg s e h ?_ ?_ (fun _ hs => hs)
    (fun _ hs => hs) (fun _ hs => hs) ?_ (fun _ hs _ => hs) (fun _ _ _ _ _ => h) ?_
    (fun _ hs _ => hs) ?_ (fun _ hs _ => hs) ?_
  · rintro s _ ⟨_, _, _, _, _, _, _, rfl⟩ hs
    exact hs
  · intro s hs
    rw [bridge_exit_txq]
    exact hs
  · intro _ _
    rw [handle_drain_result_txq]
    unfold Coded
    rw [show (bridge_drain cfg e s).1.txq.accepted = s.txq.accepted from drain_accepted _ _ _ _ _]
    exact h
  · intro _ _ _ _ _
    unfold pending_config
    dsimp only
    split <;> exact h
  · exact fun s frame stats now hs => hs.push frame s.kiss_params now stats
  · intro b buf _ _ _
    rw [handle_chunk_result_txq]
    exact h

theorem bridge_run_coded (cfg : lhkt_config_t) (start : start_env) (es : List bridge_env) :
    Coded (bridge_run cfg start es).txq := by
  refine run_invariant (P := fun s => Coded s.txq) (fun s e hs => bridge_step_coded cfg s e hs) es
    _ ?_
  rw [OnAir.bridge_start_txq]
  exact fun _ h => absurd h List.not_mem_nil

/-! ## What is heard -/

/-- An RX_PACKET frame: metadata and the packet. -/
def rx_frame (heard : Bytes × Bytes) : loraham_frame_t :=
  ⟨LORAHAM_FRAME_RX_PACKET, heard.1 ++ heard.2⟩

/-- A packet that crosses the receiving bridge as one line. -/
theorem rx_frame_heard {ax25 : ax25_frame_t} (hv : ax25.Valid) (h0 : 0 ∉ ax25.payload)
    (hhdr : ¬ loraham_hdr <:+: ax25.payload) {meta_bytes : Bytes}
    (hmeta : meta_bytes.length = BRIDGE_RX_LORAHAM_META_LEN)
    (hlen : (loraham_hdr ++ tnc2_text ax25).length ≤ LHKT_LORAHAM_TX_MAX) :
    FrameDeliverable (rx_frame (meta_bytes, loraham_hdr ++ tnc2_text ax25)) ∧
      alone (rx_frame (meta_bytes, loraham_hdr ++ tnc2_text ax25))
        = [kiss_data_frame (ui_octets (normalized ax25))] := by
  have hplain := handle_framed_frame_plain writesSucceed_default hmeta
    (plain_tnc2_text hv h0 hhdr) {}
  obtain ⟨sent, hsent, hbuf, _, hret⟩ := send_tnc2_parsed writesSucceed_default
    (tnc2_parse_format hv h0) ((log_rx_packet (meta_bytes ++ (loraham_hdr ++ tnc2_text ax25))
      {}).count .loraham_rx)
  constructor
  · have hfits : (rx_frame (meta_bytes, loraham_hdr ++ tnc2_text ax25)).payload.length
        ≤ LHKT_FRAMED_MAX_PAYLOAD := by
      show (meta_bytes ++ (loraham_hdr ++ tnc2_text ax25)).length ≤ LHKT_FRAMED_MAX_PAYLOAD
      rw [List.length_append, hmeta]
      simp only [LHKT_LORAHAM_TX_MAX, BRIDGE_RX_LORAHAM_META_LEN, LHKT_FRAMED_MAX_PAYLOAD] at hlen ⊢
      omega
    rcases handle_framed_frame_cases writesSucceed_default _ {} hfits with ⟨hdel, _⟩ | ⟨_, hdrop⟩
    · exact hdel
    · refine absurd ?_ hdrop.ne_ok
      exact (congrArg Prod.snd hplain).trans hret
  · unfold alone client_frames rx_frame
    rw [hplain, hsent, List.map_append, List.map_singleton, hbuf, count_client_tx,
      log_rx_packet_client_tx]
    rfl

/-- The other frames between them give nothing. -/
theorem flatMap_alone (frames : List loraham_frame_t) :
    frames.flatMap alone
      = (frames.filter fun frame => frame.type = LORAHAM_FRAME_RX_PACKET).flatMap alone := by
  induction frames with
  | nil => rfl
  | cons frame frames ih =>
      rw [List.flatMap_cons, ih]
      by_cases hrx : frame.type = LORAHAM_FRAME_RX_PACKET
      · rw [List.filter_cons_of_pos (by simpa using hrx), List.flatMap_cons]
      · rw [List.filter_cons_of_neg (by simpa using hrx), alone_other hrx, List.nil_append]

/-- A client's decoder finds the frames that were written. -/
theorem kiss_decode_written (data : List Bytes) (h : ∀ d ∈ data, d.length < LHKT_KISS_MAX_FRAME) :
    events_of (kiss_decode kiss_decoder_init (data.map kiss_data_frame).flatten).2
      = data.map fun d => .ok ⟨0, KISS_CMD_DATA, d⟩ := by
  rw [← List.flatMap_def, ← kiss_decode_frames data kiss_decoder_init h]
  cases data with
  | nil => rfl
  | cons d data => rfl

/-- What the client gets for the packets heard. -/
theorem heard_alone {code : tx_accept → ax25_frame_t} (heard : List (Bytes × Bytes)) :
    ∀ sent : List tx_accept, heard.map Prod.snd = sent.map tx_accept.packet →
      (∀ h ∈ heard, h.1.length = BRIDGE_RX_LORAHAM_META_LEN) →
      (∀ a ∈ sent, Codes a (code a) ∧ ¬ loraham_hdr <:+: (code a).payload) →
      (∀ frame ∈ heard.map rx_frame, FrameDeliverable frame) ∧
      (heard.map rx_frame).flatMap alone
        = (sent.map fun a => ui_octets (normalized (code a))).map kiss_data_frame := by
  induction heard with
  | nil =>
      intro sent hsent _ _
      obtain rfl := List.map_eq_nil_iff.mp hsent.symm
      exact ⟨fun _ h => absurd h List.not_mem_nil, rfl⟩
  | cons h heard ih =>
      intro sent hsent hmeta hcodes
      cases sent with
      | nil => exact nomatch hsent
      | cons a sent =>
          obtain ⟨hpacket, hrest⟩ := List.cons.inj hsent
          obtain ⟨hdel, halone⟩ := ih sent hrest (fun g hg => hmeta g (List.mem_cons_of_mem h hg))
            fun b hb => hcodes b (List.mem_cons_of_mem a hb)
          obtain ⟨⟨hax25, tnc2, htnc2, hbuild⟩, hhdr⟩ := hcodes a List.mem_cons_self
          obtain ⟨hv, h0, hp, hlen⟩ := packet_of_codecs hax25 htnc2 hbuild
          rw [hp] at hlen
          have hone := rx_frame_heard hv h0 hhdr (hmeta h List.mem_cons_self) hlen
          rw [← hp, ← hpacket] at hone
          constructor
          · exact List.forall_mem_cons.mpr ⟨hone.1, hdel⟩
          · rw [List.map_cons, List.flatMap_cons, halone]
            show alone (rx_frame (h.1, h.2)) ++ _ = _
            rw [hone.2]
            rfl

/-! ## The receiving bridge -/

/-- Behind `es` a client and the DATA connection are there; throughout `fs` both stay, and
the client takes what is written to it. -/
structure Listens (cfg : lhkt_config_t) (start : start_env) (es fs : List bridge_env) : Prop where
  takes : ∀ e ∈ fs, ClientTakes e
  client : (bridge_run cfg start es).client_fd = true
  open_data : (bridge_run cfg start es).data.fd = true
  same_client : (bridge_run cfg start (es ++ fs)).clients = (bridge_run cfg start es).clients
  same_data : (bridge_run cfg start (es ++ fs)).data.closed
    = (bridge_run cfg start es).data.closed

/-- What was read on DATA from one state to the other. -/
def read_since (s s' : bridge_t) : Bytes := s'.data.link.rx.drop s.data.link.rx.length

/-- What was written to the client from one state to the other. -/
def written_since (s s' : bridge_t) : Bytes :=
  ((client_frames s'.rx).drop (client_frames s.rx).length).flatten

/-- The stretch of the stream has no framing error, and its RX_PACKET frames carry these
packets behind these metadata. -/
structure Carries (state : loraham_framed_rx_state_t) (bytes : Bytes)
    (heard : List (Bytes × Bytes)) : Prop where
  framed : WellFramed state bytes
  meta_len : ∀ h ∈ heard, h.1.length = BRIDGE_RX_LORAHAM_META_LEN
  packets : (stream_frames state bytes).filter (fun frame => frame.type = LORAHAM_FRAME_RX_PACKET)
    = heard.map rx_frame

/-- **Two bridges.** Bridge A is in any state of any run; some of the packets its daemon
received are heard, in order, by bridge B while it listens, between any other frames
and in any portions. Then what B writes to its client decodes to AX.25 frames that
clients of A have sent: a selection of the accepted ones, in order, each with callsigns
in upper case and the payload on one line. -/
theorem two_bridges (cfgA : lhkt_config_t) (startA : start_env) (esA : List bridge_env)
    (hfcntl : ∀ e ∈ esA, e.drain.send.write.FcntlOk)
    (hplain : ∀ a ∈ (bridge_run cfgA startA esA).txq.accepted, ∀ ax25,
      ax25_decode_ui a.frame.data = .ok ax25 → ¬ loraham_hdr <:+: ax25.payload)
    (cfgB : lhkt_config_t) (startB : start_env) (esB fsB : List bridge_env)
    (hlistens : Listens cfgB startB esB fsB) (heard : List (Bytes × Bytes))
    (hair : List.Sublist (heard.map Prod.snd)
      ((daemon_received (bridge_run cfgA startA esA).data).map loraham_frame_t.payload))
    (hcarries : Carries (bridge_run cfgB startB esB).data.framed
      (read_since (bridge_run cfgB startB esB) (bridge_run cfgB startB (esB ++ fsB))) heard) :
    ∃ sent : List (tx_accept × ax25_frame_t),
      List.Sublist (sent.map Prod.fst) (bridge_run cfgA startA esA).txq.accepted ∧
      (∀ p ∈ sent, Codes p.1 p.2) ∧
      sent.map (fun p => p.1.packet) = heard.map Prod.snd ∧
      events_of (kiss_decode kiss_decoder_init (written_since (bridge_run cfgB startB esB)
          (bridge_run cfgB startB (esB ++ fsB)))).2
        = (sent.map fun p => .ok ⟨0, KISS_CMD_DATA, ui_octets (normalized p.2)⟩) ∧
      ∀ p ∈ sent, ax25_decode_ui (ui_octets (normalized p.2)) = .ok (normalized p.2) := by
  -- the sending side: what was heard is a selection of what was accepted
  have honce : Once (bridge_run cfgA startA esA) :=
    run_induction (P := Once) (fun s e hs he => bridge_step_once cfgA s e hs he) esA _
      (bridge_start_once cfgA startA) (guarded_of_forall esA hfcntl _)
  obtain ⟨hsent, hselect⟩ := daemon_received_sublist honce (bridge_run_taken cfgA startA esA)
  have hcoded := bridge_run_coded cfgA startA esA
  generalize (bridge_run cfgA startA esA).txq = q at hplain hsent hselect hcoded ⊢
  rw [hsent] at hair
  obtain ⟨accepted, haccepted, hpackets⟩ := List.sublist_map_iff.mp (hair.trans hselect)
  have hcode : ∃ code : tx_accept → ax25_frame_t, ∀ a ∈ accepted, Codes a (code a) := by
    have hall : ∀ a ∈ accepted, ∃ ax25, Codes a ax25 := fun a ha => hcoded a (haccepted.subset ha)
    have : Nonempty ax25_frame_t := ⟨sample_frame⟩
    choose! code hcode using hall
    exact ⟨code, hcode⟩
  obtain ⟨code, hcode⟩ := hcode
  obtain ⟨hdel, halone⟩ := heard_alone heard accepted hpackets hcarries.meta_len fun a ha =>
    ⟨hcode a ha, hplain a (haccepted.subset ha) _ (hcode a ha).1⟩
  have hvalid : ∀ a ∈ accepted, (normalized (code a)).Valid := by
    intro a ha
    obtain ⟨hax25, tnc2, htnc2, hbuild⟩ := hcode a ha
    obtain ⟨hv, h0, _, _⟩ := packet_of_codecs hax25 htnc2 hbuild
    exact normalized_valid hv h0
  -- the receiving side: all of it is delivered
  obtain ⟨hbounded, bytes, hreads⟩ := run_hears cfgB startB esB fsB hlistens.takes hlistens.client
    hlistens.open_data (by unfold ended; rw [hlistens.same_client, hlistens.same_data])
  have hbytes : read_since (bridge_run cfgB startB esB) (bridge_run cfgB startB (esB ++ fsB))
      = bytes := by
    unfold read_since
    rw [hreads.rx, List.drop_left]
  rw [hbytes] at hcarries
  have hsound : Sound (bridge_run cfgB startB esB).data.framed bytes := by
    refine ⟨hcarries.framed, fun frame hframe => ?_⟩
    by_cases hrx : frame.type = LORAHAM_FRAME_RX_PACKET
    · apply hdel
      rw [← hcarries.packets]
      exact List.mem_filter.mpr ⟨hframe, by simpa using hrx⟩
    · exact fun h => absurd h hrx
  have hwritten : written_since (bridge_run cfgB startB esB) (bridge_run cfgB startB (esB ++ fsB))
      = ((accepted.map fun a => ui_octets (normalized (code a))).map kiss_data_frame).flatten := by
    unfold written_since
    rw [hreads.frames trivial hbounded hsound, List.drop_left]
    unfold delivered
    rw [flatMap_alone, hcarries.packets, halone]
  refine ⟨accepted.map fun a => (a, code a), ?_, ?_, ?_, ?_, ?_⟩
  · rw [List.map_map]
    show List.Sublist (accepted.map id) q.accepted
    rw [List.map_id]
    exact haccepted
  · intro p hp
    obtain ⟨a, ha, rfl⟩ := List.mem_map.mp hp
    exact hcode a ha
  · rw [List.map_map, hpackets]
    rfl
  · rw [hwritten, kiss_decode_written]
    · rw [List.map_map, List.map_map]
      rfl
    · intro data hdata
      obtain ⟨a, ha, rfl⟩ := List.mem_map.mp hdata
      have hlen := length_ui_octets_le (hvalid a ha)
      simp only [LHKT_KISS_MAX_FRAME]
      omega
  · intro p hp
    obtain ⟨a, ha, rfl⟩ := List.mem_map.mp hp
    have hdecode := (kiss_ax25_decode (hvalid a ha)).2
    rwa [plain_normalized] at hdecode

/-- Two frames that go out and are heard, the second of them cut in two by the reads of B. -/
theorem two_bridges_two_packets :
    let send (text : Bytes) := iteration (packet_arrives text status_ready)
    let result : bridge_env := { drain := { send := { result := { rounds :=
      [{ wait := .read [LORAHAM_FRAME_TX_RESULT, 4, 0, 0, 0, 1, 0] }] } } } }
    let esA := iteration client_connects ++ send (ascii "one") ++ iteration result ++
      send (ascii "two") ++ iteration result
    let A := bridge_run lhkt_config_defaults {} esA
    let heard :=
      ((daemon_received A.data).map loraham_frame_t.payload).map fun p => ([1, 2, 3, 4], p)
    let stream := (heard.map rx_frame).flatMap FramedCodec.framed_bytes
    let esB := iteration client_connects
    let fsB := iteration (data_arrives (stream.take 40)) ++
      iteration (data_arrives (stream.drop 40))
    let B := bridge_run lhkt_config_defaults {} esB
    let B' := bridge_run lhkt_config_defaults {} (esB ++ fsB)
    heard.length = 2 ∧ ∃ sent : List (tx_accept × ax25_frame_t),
      List.Sublist (sent.map Prod.fst) A.txq.accepted ∧ (∀ p ∈ sent, Codes p.1 p.2) ∧
      sent.map (fun p => p.1.packet) = heard.map Prod.snd ∧
      events_of (kiss_decode kiss_decoder_init (written_since B B')).2
        = (sent.map fun p => .ok ⟨0, KISS_CMD_DATA, ui_octets (normalized p.2)⟩) ∧
      ∀ p ∈ sent, ax25_decode_ui (ui_octets (normalized p.2)) = .ok (normalized p.2) := by
  intro send result esA A heard stream esB fsB B B'
  refine ⟨by decide +kernel, two_bridges lhkt_config_defaults {} esA (by decide +kernel) ?_
    lhkt_config_defaults {} esB fsB ⟨?_, by decide +kernel, by decide +kernel, by decide +kernel,
      by decide +kernel⟩ heard (by decide +kernel) ⟨?_, by decide +kernel, by decide +kernel⟩⟩
  · intro a ha ax25 hax25
    have hall : ∀ a ∈ A.txq.accepted, ((ax25_decode_ui a.frame.data).toOption.all
        fun ax25 => !decide (loraham_hdr <:+: ax25.payload)) = true := by decide +kernel
    have hone := hall a ha
    rw [hax25] at hone
    have hone : (!decide (loraham_hdr <:+: ax25.payload)) = true := hone
    simpa using hone
  · intro e he
    simp only [fsB, iteration, List.mem_append, List.mem_replicate] at he
    rcases he with ⟨_, rfl⟩ | ⟨_, rfl⟩ <;> exact ⟨writesSucceed_default, writesSucceed_default⟩
  · intro ret
    cases ret <;> decide +kernel

end LorahamKissTnc.TwoBridges
