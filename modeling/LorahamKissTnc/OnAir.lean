/-
What goes on the air: every packet in the TX queue is the LoRa-APRS header and
one well-formed TNC2 line, whatever bytes a KISS client sends.

`OnAirPacket` states the grammar of the line on its own, without the formatter: source,
destination and digipeaters as texts with their alphabets, the separators, and
where the first `>` and the first `:` are. The formatter's output for a valid
AX.25 frame satisfies it, and nothing but formatter output reaches the queue.
-/
import LorahamKissTnc.TxOnce

set_option autoImplicit false

open LorahamKissTnc.Lib.CString LorahamKissTnc.Lib.Channel LorahamKissTnc.Lib.Machine
open LorahamKissTnc.Config LorahamKissTnc.Kiss LorahamKissTnc.Ax25 LorahamKissTnc.Tnc2
open LorahamKissTnc.LorahamSock LorahamKissTnc.BridgeConf LorahamKissTnc.BridgeTxQueue
open LorahamKissTnc.BridgeRx LorahamKissTnc.BridgeKiss LorahamKissTnc.BridgeLoraham
open LorahamKissTnc.Bridge LorahamKissTnc.TxOnce

namespace LorahamKissTnc.OnAir

/-! ## The grammar of a line -/

/-- A station: 1 to 6 alphanumerics, and `-1` to `-15` behind them or nothing. -/
def IsStation (text : Bytes) : Prop :=
  ∃ call suffix, text = call ++ suffix ∧ 1 ≤ call.length ∧ call.length ≤ 6 ∧
    (∀ c ∈ call, isalnum c = true) ∧
    (suffix = [] ∨ ∃ n, 1 ≤ n ∧ n ≤ 15 ∧ suffix = ch '-' :: fmt_u n)

/-- A digipeater: a station, with a `*` behind it or not. -/
def IsDigi (text : Bytes) : Prop :=
  ∃ station, IsStation station ∧ (text = station ∨ text = station ++ [ch '*'])

/-- The parts of a line. -/
structure line_t where
  src : Bytes
  dst : Bytes
  digis : List Bytes
  payload : Bytes

/-- `SRC>DST,DIGI,...:PAYLOAD`. -/
def line_t.text (l : line_t) : Bytes :=
  l.src ++ ch '>' :: (l.dst ++ l.digis.flatMap (ch ',' :: ·) ++ ch ':' :: l.payload)

/-- The parts are what their places allow, a `*` stands behind a digipeater only,
and the line is one line. -/
structure line_t.WellFormed (l : line_t) : Prop where
  src : IsStation l.src
  dst : IsStation l.dst
  digis : ∀ digi ∈ l.digis, IsDigi digi
  digis_le : l.digis.length ≤ 8
  src_star : ch '*' ∉ l.src
  dst_star : ch '*' ∉ l.dst
  digis_star : ∀ digi ∈ l.digis, ch '*' ∉ digi.dropLast
  no_nul : 0 ∉ l.text
  no_cr : ch '\r' ∉ l.text
  no_lf : ch '\n' ∉ l.text

/-- The packet of an AX.25 frame as it goes on the air: the text before the first
`>` is the formatted source, the text behind the first `:` is the payload on one
line. -/
structure OnAirPacket (frame : ax25_frame_t) (packet : Bytes) : Prop where
  length_le : packet.length ≤ 255
  line : ∃ l : line_t, packet = [0x3c, 0xff, 0x01] ++ l.text ∧ l.WellFormed ∧
    (∃ rest, cut (ch '>') l.text = some (station_text frame.src, rest)) ∧
    (∃ header, cut (ch ':') l.text = some (header, oneline frame.payload))

/-! ## The formatter keeps to it -/

theorem isStation_bare_text {addr : ax25_addr_t} (hv : addr.Valid) : IsStation (bare_text addr) := by
  refine ⟨addr.call, _, rfl, hv.call_pos, hv.call_le, hv.call_alnum, ?_⟩
  split
  · exact .inl rfl
  · rename_i h0
    have hle : addr.ssid.toNat ≤ 15 := hv.ssid_le
    have hne : addr.ssid.toNat ≠ 0 := fun h => h0 (UInt8.toNat_inj.mp h)
    exact .inr ⟨addr.ssid.toNat, by omega, hle, rfl⟩

theorem star_notMem_bare_text {addr : ax25_addr_t} (hv : addr.Valid) : ch '*' ∉ bare_text addr := by
  intro h
  have hchar := bare_text_char hv _ h
  revert hchar
  decide

theorem isDigi_addr_text {addr : ax25_addr_t} (hv : addr.Valid) :
    IsDigi (addr_text addr) ∧ ch '*' ∉ (addr_text addr).dropLast := by
  have hstation := isStation_bare_text hv
  have hstar := star_notMem_bare_text hv
  rw [addr_text_eq]
  split
  · rw [List.dropLast_concat]
    exact ⟨⟨_, hstation, .inr rfl⟩, hstar⟩
  · rw [List.append_nil]
    exact ⟨⟨_, hstation, .inl rfl⟩, fun h => hstar (List.dropLast_subset _ h)⟩

/-- The parts of the line of a frame. -/
def line_of (frame : ax25_frame_t) : line_t where
  src := station_text frame.src
  dst := station_text frame.dst
  digis := frame.path.map addr_text
  payload := oneline frame.payload

theorem line_of_text (frame : ax25_frame_t) : (line_of frame).text = tnc2_text frame := by
  unfold line_t.text line_of tnc2_text path_text
  rw [List.flatMap_map]

theorem line_of_wellFormed {frame : ax25_frame_t} (hv : frame.Valid) (h0 : 0 ∉ frame.payload) :
    (line_of frame).WellFormed := by
  obtain ⟨hnul, hlf, hcr⟩ := tnc2_text_line hv h0
  rw [← line_of_text] at hnul hlf hcr
  refine ⟨?_, ?_, ?_, ?_, ?_, ?_, ?_, hnul, hcr, hlf⟩
  · show IsStation (station_text frame.src)
    rw [station_text_eq]
    exact isStation_bare_text hv.src
  · show IsStation (station_text frame.dst)
    rw [station_text_eq]
    exact isStation_bare_text hv.dst
  · intro digi hdigi
    obtain ⟨a, ha, rfl⟩ := List.mem_map.mp hdigi
    exact (isDigi_addr_text (hv.path a ha)).1
  · exact (List.length_map _).trans_le hv.path_le
  · show ch '*' ∉ station_text frame.src
    rw [station_text_eq]
    exact star_notMem_bare_text hv.src
  · show ch '*' ∉ station_text frame.dst
    rw [station_text_eq]
    exact star_notMem_bare_text hv.dst
  · intro digi hdigi
    obtain ⟨a, ha, rfl⟩ := List.mem_map.mp hdigi
    exact (isDigi_addr_text (hv.path a ha)).2

/-- **The three codecs together**: what they accept is on-air well-formed. -/
theorem onAir_of_codecs {data tnc2 packet : Bytes} {frame : ax25_frame_t}
    (hax25 : ax25_decode_ui data = .ok frame)
    (htnc2 : tnc2_format_line frame LHKT_TNC2_MAX_LINE = .ok tnc2)
    (hpacket : loraham_build_aprs_packet tnc2 LHKT_LORAHAM_TX_MAX = .ok packet) :
    OnAirPacket frame packet := by
  obtain ⟨hv, h0, hpacket, hlen⟩ := packet_of_codecs hax25 htnc2 hpacket
  obtain ⟨hgt, hcolon, _⟩ := separators_not_addr_char
  refine ⟨hlen, line_of frame, ?_, line_of_wellFormed hv h0, ?_, ?_⟩
  · rw [hpacket, line_of_text]
    rfl
  · rw [line_of_text, tnc2_text, cut_append _ (notMem_station_text hv.src hgt)]
    exact ⟨_, rfl⟩
  · -- neither source, destination nor path holds a colon
    have hheader : ch ':' ∉ station_text frame.src ++ ch '>' ::
        (station_text frame.dst ++ path_text frame.path) := by
      simp only [List.mem_append, List.mem_cons, not_or]
      exact ⟨notMem_station_text hv.src hcolon, by decide,
        notMem_station_text hv.dst hcolon, notMem_path_text hv.path hcolon (by decide)⟩
    have hsplit : tnc2_text frame = (station_text frame.src ++ ch '>' ::
        (station_text frame.dst ++ path_text frame.path)) ++
          ch ':' :: oneline frame.payload := by
      simp [tnc2_text]
    rw [line_of_text, hsplit, cut_append _ hheader]
    exact ⟨_, rfl⟩

/-! ## The main loop -/

/-- What the queue's history says about what was accepted. -/
structure Airworthy (cfg : lhkt_config_t) (q : txq_t) : Prop where
  accounted : Accounted q
  frames : ∀ a ∈ q.accepted, ∃ frame, ax25_decode_ui a.frame.data = .ok frame ∧
    OnAirPacket frame a.packet
  rx_only : cfg.rx_only = true → q.accepted = []

theorem Airworthy.congr {cfg : lhkt_config_t} {q q' : txq_t} (h : Airworthy cfg q)
    (hacc : Accounted q') (heq : q'.accepted = q.accepted) : Airworthy cfg q' :=
  ⟨hacc, by rw [heq]; exact h.frames, by rw [heq]; exact h.rx_only⟩

/-- A frame of the client adds nothing, or a well-formed packet. -/
theorem Airworthy.push {cfg : lhkt_config_t} {q : txq_t} (h : Airworthy cfg q) (frame kiss_params)
    (now : Int) (stats : lhkt_stats_t) :
    Airworthy cfg (bridge_kiss_handle_frame frame kiss_params cfg now stats q).2.2.1 := by
  have hacc := h.accounted.push frame kiss_params cfg now stats
  rcases bridge_kiss_handle_frame_cases frame kiss_params cfg now stats q with
    hq | ⟨ax25, tnc2, packet, queue, hrx, _, _, hax25, htnc2, hpacket, _, hq⟩
  · rw [hq]
    exact h
  · rw [hq] at hacc ⊢
    refine ⟨hacc, ?_, ?_⟩
    · intro a ha
      rcases List.mem_append.mp ha with ha | ha
      · exact h.frames a ha
      · rw [List.mem_singleton.mp ha]
        exact ⟨ax25, hax25, onAir_of_codecs hax25 htnc2 hpacket⟩
    · intro honly
      rw [hrx] at honly
      exact absurd honly Bool.false_ne_true

/-- The wait clock of the head. -/
theorem Airworthy.set_head {cfg : lhkt_config_t} {q : txq_t} {item item' : bridge_tx_item_t}
    (h : Airworthy cfg q) (hitem : bridge_tx_queue_head q.queue = some item)
    (hpacket : item'.packet = item.packet) :
    Airworthy cfg { q with queue := bridge_tx_queue_set_head q.queue item' } := by
  refine h.congr ?_ rfl
  unfold Accounted
  rw [packets_set_head hitem hpacket]
  exact h.accounted

theorem Airworthy.pop {cfg : lhkt_config_t} {q : txq_t} {item : bridge_tx_item_t}
    (h : Airworthy cfg q) (hitem : bridge_tx_queue_head q.queue = some item) (fate : tx_fate) :
    Airworthy cfg (q.pop item.packet fate) :=
  h.congr (h.accounted.pop hitem fate) rfl

/-- In RX-only mode the queue has no head. -/
theorem Airworthy.rx_only_false {cfg : lhkt_config_t} {q : txq_t} {item : bridge_tx_item_t}
    (h : Airworthy cfg q) (hitem : bridge_tx_queue_head q.queue = some item) :
    cfg.rx_only = false := by
  by_contra hrx
  have hnone := h.rx_only (by simpa using hrx)
  have hacc : q.accepted.map tx_accept.packet = _ := h.accounted
  rw [hnone, packets_of_head hitem] at hacc
  exact absurd hacc.symm (by simp)

/-- A drain takes packets out and accepts none. -/
theorem drain_airworthy (e : drain_env) {cfg : lhkt_config_t} (client_fd : Bool) (s : io_t)
    (q : txq_t) (h : Airworthy cfg q) :
    Airworthy cfg (bridge_loraham_tx_queue_drain_with_client e cfg client_fd s q).2.1 := by
  refine drain_elim (I := fun _ q => Airworthy cfg q) (P := fun r => Airworthy cfg r.2.1)
    e cfg client_fd s q h (fun _ _ _ h _ => h) ?_ ?_ (fun _ _ _ h _ => h) ?_
  · exact fun _ q item item' h hitem hpacket _ => h.set_head hitem hpacket
  · exact fun _ q item h hitem => h.pop hitem .dropped
  · intro s q item now s' ret written h hitem _ _ _
    show Airworthy cfg (tx_finished (tx_started q s item now) item ret written)
    have hstarted : Airworthy cfg (tx_started q s item now) := h.congr h.accounted rfl
    unfold tx_finished
    split
    · exact hstarted.pop hitem .sent
    · exact hstarted

/-- One step of the main loop. -/
theorem bridge_step_airworthy (cfg : lhkt_config_t) (s : bridge_t) (e : bridge_env)
    (h : Airworthy cfg s.txq) : Airworthy cfg (bridge_step cfg s e).txq := by
  refine bridge_step_elim (P := fun s => Airworthy cfg s.txq) cfg s e h ?_ ?_ (fun _ hs => hs)
    (fun _ hs => hs) (fun _ hs => hs) ?_ (fun _ hs _ => hs) (fun _ _ _ _ _ => h) ?_
    (fun _ hs _ => hs) ?_ (fun _ hs _ => hs) ?_
  · rintro s _ ⟨_, _, _, _, _, _, _, rfl⟩ hs
    exact hs
  · intro s hs
    rw [bridge_exit_txq]
    exact hs
  · intro _ _
    rw [handle_drain_result_txq]
    exact drain_airworthy e.drain s.client_fd s.toio_t s.txq h
  · intro _ _ _ _ _
    unfold pending_config
    dsimp only
    split <;> exact h
  · exact fun s frame stats now hs => hs.push frame s.kiss_params now stats
  · intro b buf _ _ _
    rw [handle_chunk_result_txq]
    exact h

theorem bridge_start_txq (cfg : lhkt_config_t) (e : start_env) : (bridge_start cfg e).txq = {} := by
  unfold bridge_start
  dsimp only
  split
  · rw [bridge_exit_txq]
    rfl
  · rfl

/-- **On-air well-formedness.** In every state of every run, whatever the clients
sent: each packet accepted into the TX queue is the on-air form of the AX.25
frame it came from, the queue holds accepted packets only, and in RX-only mode
nothing is ever accepted. -/
theorem accepted_packets_well_formed (cfg : lhkt_config_t) (e : start_env) (es : List bridge_env) :
    let q := (bridge_run cfg e es).txq
    (∀ a ∈ q.accepted, ∃ frame, ax25_decode_ui a.frame.data = .ok frame ∧ OnAirPacket frame a.packet) ∧
    (∀ packet ∈ q.queue.packets, packet ∈ q.accepted.map tx_accept.packet) ∧
    (cfg.rx_only = true → q.accepted = []) := by
  have hstart : Airworthy cfg (bridge_start cfg e).txq := by
    rw [bridge_start_txq]
    exact ⟨rfl, fun a ha => absurd ha List.not_mem_nil, fun _ => rfl⟩
  have hrun : Airworthy cfg (bridge_run cfg e es).txq :=
    run_invariant (P := fun s => Airworthy cfg s.txq)
      (fun s e hs => bridge_step_airworthy cfg s e hs) es _ hstart
  refine ⟨hrun.frames, ?_, hrun.rx_only⟩
  intro packet hpacket
  have hacc : (bridge_run cfg e es).txq.accepted.map tx_accept.packet = _ := hrun.accounted
  rw [hacc]
  exact List.mem_append_right _ hpacket

end LorahamKissTnc.OnAir
