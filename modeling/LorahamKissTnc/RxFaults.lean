/-
What a bad packet does to the packets behind it.

The main loop takes every failure of the idle path that is not the client's for
a stream that lost its framing, and gives up the DATA connection. But most
failures come from one packet: no LoRa-APRS header, no TNC2 line, a text that is
too long. `Isolated` says that packets do not disturb each other: no read fails,
the connection stays, and the client gets of every frame what it would get of
that frame alone. It holds exactly when there is no bad packet in the stream.
-/
import LorahamKissTnc.Bridge
import LorahamKissTnc.RxPacket

set_option autoImplicit false

open LorahamKissTnc.Lib.CString LorahamKissTnc.Lib.Channel LorahamKissTnc.Lib.Machine
open LorahamKissTnc.Config LorahamKissTnc.LorahamSock LorahamKissTnc.BridgeRx
open LorahamKissTnc.BridgeLoraham LorahamKissTnc.Bridge LorahamKissTnc.RxPacket

namespace LorahamKissTnc.RxFaults

/-! ## Reads and frames -/

/-- The frames of a stretch of the stream. -/
def stream_frames (state : loraham_framed_rx_state_t) (bytes : Bytes) : List loraham_frame_t :=
  frames_of (loraham_framed_decode state bytes).2

/-- No frame of the stream is longer than the decoder takes. -/
def WellFramed (state : loraham_framed_rx_state_t) (bytes : Bytes) : Prop :=
  ∀ ret, .error ret ∉ (loraham_framed_decode state bytes).2

/-- One read of the idle path, with what the main loop does about its result. -/
def handle_read (w : Nat → List write_ret) (s : bridge_t) (buf : Bytes) : bridge_t × Lhkt :=
  let r := handle_data_bytes w buf s
  (handle_chunk_result r.2 r.1, r.2)

/-- What a frame gives to a client when there is no other frame. -/
def alone (frame : loraham_frame_t) : List Bytes :=
  client_frames (bridge_rx_handle_framed_frame (fun _ => []) true frame {}).1

/-- **Fault isolation.** No read returns a negative value, the DATA connection
stays, and the client gets of every frame what it would get of it alone. -/
def Isolated (w : Nat → List write_ret) (s : bridge_t) (reads : List Bytes) : Prop :=
  (∀ ret ∈ (scan (handle_read w) s reads).2, 0 ≤ ret.code) ∧
    (scan (handle_read w) s reads).1.data.fd = true ∧
    client_frames (scan (handle_read w) s reads).1.rx
      = client_frames s.rx ++ (stream_frames s.data.framed reads.flatten).flatMap alone

theorem stream_frames_append (state : loraham_framed_rx_state_t) (a b : Bytes) :
    stream_frames state (a ++ b)
      = stream_frames state a ++ stream_frames (loraham_framed_decode state a).1 b := by
  unfold stream_frames
  rw [loraham_framed_decode_append, frames_of_append]

theorem wellFramed_append {state : loraham_framed_rx_state_t} {a b : Bytes} :
    WellFramed state (a ++ b) ↔
      WellFramed state a ∧ WellFramed (loraham_framed_decode state a).1 b := by
  unfold WellFramed
  rw [loraham_framed_decode_append]
  simp only [List.mem_append, not_or, forall_and]

/-- Alone, a deliverable frame gives its KISS frames. -/
theorem alone_eq {frame : loraham_frame_t} (h : FrameDeliverable frame)
    (hlen : frame.payload.length ≤ LHKT_FRAMED_MAX_PAYLOAD) : alone frame = frame_frames frame := by
  rcases handle_framed_frame_cases writesSucceed_default frame {} hlen with ⟨_, _, hf⟩ | ⟨hno, _⟩
  · exact hf
  · exact absurd h hno

/-! ## One read -/

/-- All frames of a read are delivered, or the read fails at a bad packet. -/
theorem handle_framed_chunk_cases {w : Nat → List write_ret} (hw : WritesSucceed w) (buf : Bytes) :
    ∀ (state : loraham_framed_rx_state_t) (c : bridge_rx_t),
      state.payload_len ≤ LHKT_FRAMED_MAX_PAYLOAD → WellFramed state buf →
      ((∀ frame ∈ stream_frames state buf, FrameDeliverable frame) ∧
        (bridge_rx_handle_framed_chunk w true state buf c).2
          = ((loraham_framed_decode state buf).1, .OK) ∧
        (loraham_framed_decode state buf).1.payload_len ≤ LHKT_FRAMED_MAX_PAYLOAD ∧
        client_frames (bridge_rx_handle_framed_chunk w true state buf c).1
          = client_frames c ++ (stream_frames state buf).flatMap alone) ∨
      ((∃ frame ∈ stream_frames state buf, ¬ FrameDeliverable frame) ∧
        Drops (bridge_rx_handle_framed_chunk w true state buf c).2.2) := by
  induction buf with
  | nil =>
      intro state c hlen _
      refine .inl ⟨fun _ h => absurd h List.not_mem_nil, rfl, hlen, ?_⟩
      exact (List.append_nil _).symm
  | cons b buf ih =>
      intro state c hlen hframed
      obtain ⟨hlen', hframe_len⟩ := loraham_framed_decode_byte_len hlen b
      unfold WellFramed at hframed
      unfold stream_frames at ih ⊢
      rw [loraham_framed_decode_cons] at hframed ⊢
      rw [bridge_rx_handle_framed_chunk.eq_2]
      generalize loraham_framed_decode_byte state b = r at hlen' hframe_len hframed ⊢
      obtain ⟨state', answer⟩ := r
      dsimp only at hlen' hframe_len hframed ⊢
      have hrest : WellFramed state' buf := fun ret h => hframed ret (List.mem_cons_of_mem _ h)
      rcases answer with ret | _ | frame
      · -- a well framed stream has no framing error
        exact absurd List.mem_cons_self (hframed ret)
      · exact ih state' c hlen' hrest
      · show ((∀ f ∈ frame :: frames_of _, FrameDeliverable f) ∧ _) ∨
          ((∃ f ∈ frame :: frames_of _, ¬ FrameDeliverable f) ∧ _)
        dsimp only
        have hle := hframe_len frame rfl
        rcases handle_framed_frame_cases hw frame c hle with ⟨hdel, hret, hsent⟩ | ⟨hno, hdrop⟩
        · -- this frame is delivered, the rest decides
          rw [if_neg (not_ne_iff.mpr hret)]
          rcases ih state' (bridge_rx_handle_framed_frame w true frame c).1 hlen' hrest with
            ⟨hall, hok, hst, hframes⟩ | ⟨⟨f, hf, hno⟩, hdrop⟩
          · refine .inl ⟨List.forall_mem_cons.mpr ⟨hdel, hall⟩, hok, hst, ?_⟩
            rw [hframes, hsent, List.append_assoc, ← alone_eq hdel hle]
            rfl
          · exact .inr ⟨⟨f, List.mem_cons_of_mem _ hf, hno⟩, hdrop⟩
        · -- this one is not, and the loop ends here
          rw [if_pos hdrop.ne_ok]
          exact .inr ⟨⟨frame, List.mem_cons_self, hno⟩, hdrop⟩

/-! ## A stream in reads -/

theorem isolated_iff_deliverable {w : Nat → List write_ret} (hw : WritesSucceed w)
    (reads : List Bytes) : ∀ s : bridge_t, s.client_fd = true → s.data.fd = true →
      s.data.framed.payload_len ≤ LHKT_FRAMED_MAX_PAYLOAD →
      WellFramed s.data.framed reads.flatten →
      (Isolated w s reads ↔
        ∀ frame ∈ stream_frames s.data.framed reads.flatten, FrameDeliverable frame) := by
  induction reads with
  | nil =>
      intro s _ hopen _ _
      refine iff_of_true ⟨fun _ h => absurd h List.not_mem_nil, hopen, ?_⟩
        fun _ h => absurd h List.not_mem_nil
      exact (List.append_nil _).symm
  | cons buf reads ih =>
      intro s hclient hopen hlen hframed
      rw [List.flatten_cons] at hframed ⊢
      obtain ⟨hframed, hrest⟩ := wellFramed_append.mp hframed
      have hread : handle_data_bytes w buf s = ({ s with
          rx := (bridge_rx_handle_framed_chunk w true s.data.framed buf s.rx).1
          data := { s.data with
            framed := (bridge_rx_handle_framed_chunk w true s.data.framed buf s.rx).2.1
            link := { s.data.link with rx := s.data.link.rx ++ buf } } },
          (bridge_rx_handle_framed_chunk w true s.data.framed buf s.rx).2.2) := by
        unfold handle_data_bytes
        rw [hclient]
      unfold Isolated
      rw [scan_cons, List.flatten_cons, stream_frames_append, List.forall_mem_append]
      rcases handle_framed_chunk_cases hw buf s.data.framed s.rx hlen hframed with
        ⟨hall, hok, hst, hsent⟩ | ⟨⟨frame, hmem, hno⟩, hdrop⟩
      · -- the first read went well: the rest is the same question in the next state
        have hstep : handle_read w s buf = ({ s with
            rx := (bridge_rx_handle_framed_chunk w true s.data.framed buf s.rx).1
            data := { s.data with
              framed := (loraham_framed_decode s.data.framed buf).1
              link := { s.data.link with rx := s.data.link.rx ++ buf } } }, .OK) := by
          unfold handle_read
          rw [hread, hok]
          rfl
        rw [hstep]
        have h := ih { s with
            rx := (bridge_rx_handle_framed_chunk w true s.data.framed buf s.rx).1
            data := { s.data with
              framed := (loraham_framed_decode s.data.framed buf).1
              link := { s.data.link with rx := s.data.link.rx ++ buf } } } hclient hopen hst hrest
        unfold Isolated at h
        dsimp only at h ⊢
        rw [hsent, List.append_assoc, ← List.flatMap_append] at h
        rw [List.forall_mem_cons, and_iff_right hall, ← h, and_assoc]
        exact and_iff_right (by decide)
      · -- the first read fails
        refine iff_of_false ?_ ?_
        · rintro ⟨hcodes, -⟩
          have hret : (handle_read w s buf).2
              = (bridge_rx_handle_framed_chunk w true s.data.framed buf s.rx).2.2 := by
            unfold handle_read
            rw [hread]
          have hcode := hcodes _ List.mem_cons_self
          rw [hret] at hcode
          exact absurd ((Lhkt.code_neg_iff _).mpr hdrop.ne_ok) (Int.not_lt.mpr hcode)
        · exact fun h => hno (h.1 frame hmem)

/-- **RX fault isolation** holds for a stream exactly when every RX_PACKET frame
in it that has metadata holds a deliverable packet. -/
theorem rx_faults_isolated_iff {w : Nat → List write_ret} (hw : WritesSucceed w) (s : bridge_t)
    (hclient : s.client_fd = true) (hopen : s.data.fd = true)
    (hinit : s.data.framed = loraham_framed_rx_state_init) (reads : List Bytes)
    (hframed : WellFramed loraham_framed_rx_state_init reads.flatten) :
    Isolated w s reads ↔ ∀ frame ∈ stream_frames loraham_framed_rx_state_init reads.flatten,
      FrameDeliverable frame := by
  have h := isolated_iff_deliverable hw reads s hclient hopen
  rw [hinit] at h
  exact h (Nat.zero_le _) hframed

/-- A good packet in two reads. -/
theorem rx_faults_isolated_two_reads :
    let s := bridge_run lhkt_config_defaults {} (iteration client_connects)
    let packet := framed_rx_packet (loraham_hdr ++ ascii "A>B:x")
    Isolated (fun _ => []) s [packet.take 5, packet.drop 5] := by
  refine (rx_faults_isolated_iff writesSucceed_default _ (by decide +kernel) (by decide +kernel)
    (by decide +kernel) _ ?_).mpr (by decide +kernel)
  intro ret
  cases ret <;> decide +kernel

/-- A packet without the LoRa-APRS header, and a good one behind it in the same
read: the read fails, the DATA connection is given up, and the client gets
nothing of the good packet. -/
theorem rx_fault_spreads :
    let s := bridge_run lhkt_config_defaults {} (iteration client_connects)
    let good := framed_rx_packet (loraham_hdr ++ ascii "A>B:x")
    let reads := [framed_rx_packet (ascii "noise") ++ good]
    let after := bridge_run lhkt_config_defaults {}
      (iteration client_connects ++ iteration (data_arrives reads.flatten))
    s.client_fd = true ∧ s.data.fd = true ∧ s.data.framed = loraham_framed_rx_state_init ∧
      WellFramed loraham_framed_rx_state_init reads.flatten ∧
      ¬ Isolated (fun _ => []) s reads ∧
      after.data.fd = false ∧ client_frames after.rx = [] ∧
      (stream_frames loraham_framed_rx_state_init good).flatMap alone ≠ [] := by
  refine ⟨by decide +kernel, by decide +kernel, by decide +kernel, ?_, ?_, by decide +kernel,
    by decide +kernel, by decide +kernel⟩
  · intro ret
    cases ret <;> decide +kernel
  · rintro ⟨-, hopen, -⟩
    revert hopen
    decide +kernel

end LorahamKissTnc.RxFaults
