/-
No buffer of the bridge ever holds more than its array has room for.

The four buffers that live as long as the loop are filled a byte at a time, from
two sockets and a client, and each store checks for room in its own way: the KISS
decoder before a byte, the CONF reader with one place kept for the terminator, the
framed decoder only once, when the header has told the length. `InBounds` holds in
every state of every run. For the framed decoder that takes the waiting loops of a
transmission as well, since they read the same connection into the same decoder.
-/
import LorahamKissTnc.Recovery
import LorahamKissTnc.ClientIngress
import LorahamKissTnc.KissStream

set_option autoImplicit false

open LorahamKissTnc.Lib.CString LorahamKissTnc.Lib.Channel LorahamKissTnc.Lib.Machine
open LorahamKissTnc.Config LorahamKissTnc.Kiss LorahamKissTnc.LorahamSock
open LorahamKissTnc.BridgeConf LorahamKissTnc.BridgeTxQueue LorahamKissTnc.BridgeRx
open LorahamKissTnc.BridgeKiss LorahamKissTnc.BridgeLoraham LorahamKissTnc.Bridge
open LorahamKissTnc.KissStream LorahamKissTnc.FramedStream LorahamKissTnc.Connections
open LorahamKissTnc.OnAir LorahamKissTnc.Recovery LorahamKissTnc.ClientIngress

namespace LorahamKissTnc.Bounds

/-! ## The framed decoder -/

/-- The header fills its three bytes, and a payload that is being read has room for
its next byte. -/
def FramedFits (state : loraham_framed_rx_state_t) : Prop :=
  state.payload.length ≤ LHKT_FRAMED_MAX_PAYLOAD ∧
    (state.header.length < 3 ∨ state.header.length = 3 ∧
      state.payload.length < state.payload_len ∧ state.payload_len ≤ LHKT_FRAMED_MAX_PAYLOAD)

theorem framedFits_init : FramedFits loraham_framed_rx_state_init :=
  ⟨Nat.zero_le _, .inl (by decide)⟩

/-- The length is checked when the header is complete, and never again. -/
theorem FramedFits.byte {state : loraham_framed_rx_state_t} (h : FramedFits state) (b : UInt8) :
    FramedFits (loraham_framed_decode_byte state b).1 := by
  obtain ⟨hpayload, hheader⟩ := h
  unfold loraham_framed_decode_byte
  split
  · rename_i hshort
    have hlen : (state.header ++ [b]).length = state.header.length + 1 := by simp
    dsimp only
    split
    · rename_i hopen
      exact ⟨hpayload, .inl hopen⟩
    · rename_i hfull
      split
      · exact framedFits_init
      · rename_i hroom
        split
        · exact framedFits_init
        · rename_i hsome
          refine ⟨Nat.zero_le _, .inr ⟨?_, Nat.pos_of_ne_zero hsome, Nat.le_of_not_lt hroom⟩⟩
          show (state.header ++ [b]).length = 3
          omega
  · rename_i hfull
    obtain ⟨hthree, hlt, hmax⟩ := hheader.resolve_left hfull
    have hlen : (state.payload ++ [b]).length = state.payload.length + 1 := by simp
    dsimp only
    split
    · rename_i hmore
      refine ⟨?_, .inr ⟨hthree, hmore, hmax⟩⟩
      show (state.payload ++ [b]).length ≤ LHKT_FRAMED_MAX_PAYLOAD
      omega
    · exact framedFits_init

/-- The decoder keeps within its buffer, whatever it reads. -/
theorem FramedFits.decode (bytes : Bytes) : ∀ {state : loraham_framed_rx_state_t},
    FramedFits state → FramedFits (loraham_framed_decode state bytes).1 := by
  induction bytes with
  | nil => exact fun h => h
  | cons b bytes ih =>
      intro state h
      rw [loraham_framed_decode_cons]
      exact ih (h.byte b)

/-! ## The wait for a TX_RESULT

It decodes what it reads up to where it gives up, so every way out has to be looked
at. -/

section Wait

variable (w : Nat → List write_ret)

/-- A frame that is handled is no longer in the decoder. -/
theorem wait_frame_fits (frame : loraham_frame_t) {l : wait_t} (h : FramedFits l.data.framed) :
    FramedFits (wait_frame w frame l).data.framed := by
  rw [wait_frame_data]
  exact h

theorem wait_rest_fits (buf : Bytes) : ∀ l : wait_t, FramedFits l.data.framed →
    FramedFits (wait_rest w buf l).1.data.framed := by
  induction buf with
  | nil => exact fun _ h => h
  | cons b buf ih =>
      intro l h
      have hbyte := h.byte b
      rw [wait_rest.eq_2]
      generalize loraham_framed_decode_byte l.data.framed b = r at hbyte ⊢
      obtain ⟨framed, answer⟩ := r
      cases answer with
      -- a framing error ends the wait where it stands
      | error _ => exact hbyte
      | ok frame =>
          cases frame with
          | none => exact ih _ hbyte
          | some frame =>
              dsimp only
              split
              · -- a second result is counted and passed over
                exact ih _ hbyte
              · apply ih
                exact wait_frame_fits w frame hbyte

theorem wait_scan_fits (buf : Bytes) : ∀ l : wait_t, FramedFits l.data.framed →
    FramedFits (wait_scan w buf l).1.data.framed := by
  induction buf with
  | nil => exact fun _ h => h
  | cons b buf ih =>
      intro l h
      have hbyte := h.byte b
      rw [wait_scan.eq_2]
      generalize loraham_framed_decode_byte l.data.framed b = r at hbyte ⊢
      obtain ⟨framed, answer⟩ := r
      cases answer with
      | error _ => exact hbyte
      | ok frame =>
          cases frame with
          | none => exact ih _ hbyte
          | some frame =>
              dsimp only
              split
              · -- the result, with the rest of the buffer behind it
                split
                · exact hbyte
                · exact wait_rest_fits w buf _ hbyte
              · apply ih
                exact wait_frame_fits w frame hbyte

/-- **All reads of a wait** keep within the buffer. -/
theorem wait_rounds_fits (deadline : Int) (rounds : List data_round) (l : wait_t)
    (h : FramedFits l.data.framed) :
    FramedFits (wait_rounds w deadline rounds l).1.data.framed := by
  refine wait_rounds_elim (P := fun l r => FramedFits l.data.framed → FramedFits r.1.data.framed)
    w deadline (fun _ _ h => h) (fun _ _ _ hrest h => hrest h) ?_ ?_ rounds l h
  · intro l stop buf l' r hscan hrest h
    have hread := wait_scan_fits w buf (l.received stop buf) h
    rw [hscan] at hread
    exact hrest hread
  · intro l stop buf l' ret hscan h
    have hread := wait_scan_fits w buf (l.received stop buf) h
    rwa [hscan] at hread

end Wait

variable {cfg : lhkt_config_t}

/-- **A transmission** leaves the decoder in bounds. -/
theorem send_packet_fits (e : send_env) (client_fd : Bool) (packet : Bytes) {s : io_t}
    (h : FramedFits s.data.framed) :
    FramedFits (bridge_loraham_send_packet_with_client e cfg client_fd packet s).1.data.framed := by
  have hwritten : ∀ {s₁ s₂ : io_t} {ret : Lhkt}, tx_prepare e cfg s = (s₁, .OK) →
      bridge_loraham_write e packet s₁ = (s₂, ret) → FramedFits s₂.data.framed := by
    intro s₁ s₂ ret hprep hwrite
    obtain ⟨_, hcmd⟩ := tx_written_frame hprep hwrite
    rw [hcmd.data_eq]
    exact h
  refine send_packet_elim (P := fun r => FramedFits r.1.data.framed) e cfg client_fd packet s
    ?_ ?_ ?_ ?_ ?_
  · rintro s' _ (rfl | rfl) _ <;> exact h
  · intro s₁ _ hprep _
    have hcmd := commandsOnly_tx_prepare e cfg s
    rw [hprep] at hcmd
    rw [hcmd.data_eq]
    exact h
  · intro s₁ s₂ _ hprep hwrite _
    rw [(commandsOnly_tx_write_failed e cfg s₂).data_eq]
    exact hwritten hprep hwrite
  · intro s₁ s₂ hprep hwrite _
    -- the wait is the only part that decodes
    have hwait : FramedFits
        (bridge_loraham_wait_tx_result e.result cfg client_fd s₂).1.data.framed := by
      unfold bridge_loraham_wait_tx_result
      split
      · exact hwritten hprep hwrite
      · exact wait_rounds_fits e.result.client _ e.result.rounds _ (hwritten hprep hwrite)
    unfold tx_confirm_result
    generalize bridge_loraham_wait_tx_result e.result cfg client_fd s₂ = r at hwait ⊢
    obtain ⟨s₃, client_error, ret⟩ := r
    cases ret with
    | error _ =>
        dsimp only
        rw [(reportsOnly_tx_result_missing e cfg packet s₃).data_eq]
        exact hwait
    | ok result =>
        dsimp only
        rw [(reportsOnly_tx_result_received e cfg packet client_error result s₃).data_eq]
        exact hwait
  · intro s₁ s₂ hprep hwrite _
    obtain ⟨_, _, hrep⟩ := reportsOnly_tx_confirm_events e cfg packet s₂
    have hs₂ := hwritten hprep hwrite
    rw [hrep.data_eq]
    exact hs₂

/-! ## The CONF reader -/

/-- The line has room for its terminator. -/
def LineFits (c : conf_t) : Prop := c.state.line.length < LHKT_CONF_LINE_MAX

/-- A byte of CONF is put into the line only if there is room for it. -/
theorem feed_byte_fits {state : bridge_conf_state_t} (h : state.line.length < LHKT_CONF_LINE_MAX)
    (b : UInt8) : (bridge_conf_feed_byte state b).1.line.length < LHKT_CONF_LINE_MAX := by
  unfold bridge_conf_feed_byte
  split
  · exact h
  · split
    · split <;> exact Nat.zero_lt_succ _
    · split
      · exact h
      · split
        · exact Nat.zero_lt_succ _
        · rename_i hroom
          show (state.line ++ [b]).length < LHKT_CONF_LINE_MAX
          rw [List.length_append, List.length_singleton]
          omega

/-- The bytes of CONF keep within the line. -/
theorem feed_fits (buf : Bytes) : ∀ {state : bridge_conf_state_t},
    state.line.length < LHKT_CONF_LINE_MAX →
      (bridge_conf_feed state buf).1.line.length < LHKT_CONF_LINE_MAX := by
  induction buf with
  | nil => exact fun h => h
  | cons b buf ih =>
      intro state h
      unfold bridge_conf_feed at ih ⊢
      rw [scan_cons]
      exact ih (feed_byte_fits h b)

/-- **Whatever is read on CONF**, and in whatever pieces. -/
theorem LineFits.fed {c c' : conf_t} (h : LineFits c) (hfed : Fed c c') : LineFits c' := by
  obtain ⟨chunks, rfl⟩ := hfed
  induction chunks generalizing c with
  | nil => exact h
  | cons buf chunks ih => exact ih (feed_fits buf h)

theorem lineFits_init (c : conf_t) : LineFits { c with state := bridge_conf_state_init } :=
  Nat.zero_lt_succ _

/-- A configuration leaves the line alone. -/
theorem LineFits.config {c : conf_t} (h : LineFits c) (e : config_env) :
    LineFits (bridge_loraham_send_initial_config_with_state e cfg c).1 := by
  unfold bridge_loraham_send_initial_config_with_state
  split
  · exact h
  · dsimp only
    split
    · exact h
    · split
      · exact h
      · split <;> exact h

/-! ## The main loop -/

/-- The buffers that are filled from a socket. -/
def Fits (d : data_t) (c : conf_t) : Prop := FramedFits d.framed ∧ LineFits c

/-- **A drain** reads both sockets. -/
theorem drain_fits (e : drain_env) (client_fd : Bool) {s : io_t} (q : txq_t)
    (h : Fits s.data s.conf) :
    Fits (bridge_loraham_tx_queue_drain_with_client e cfg client_fd s q).1.data
      (bridge_loraham_tx_queue_drain_with_client e cfg client_fd s q).1.conf := by
  refine drain_elim (I := fun s' _ => Fits s'.data s'.conf) (P := fun r => Fits r.1.data r.1.conf)
    e cfg client_fd s q h ?_ (fun _ _ _ _ h _ _ _ => h) (fun _ _ _ h _ => h)
    (fun _ _ _ h _ => h) ?_
  · exact fun s' _ read h _ => ⟨h.1, h.2.fed (fed_read_available read s'.conf)⟩
  · intro s' _ item _ s'' _ _ h _ _ _ hsend
    have hframed : FramedFits (bridge_loraham_send_packet_with_client e.send cfg client_fd
        item.packet s').1.data.framed :=
      send_packet_fits e.send client_fd item.packet h.1
    obtain ⟨c', tx, freqs, hfed, hconf⟩ :=
      send_packet_conf_frame e.send cfg client_fd item.packet s'
    rw [hsend] at hframed hconf
    have hconf : s''.conf = { c' with tx := tx, freqs := freqs } := hconf
    have hline := h.2.fed hfed
    refine ⟨hframed, ?_⟩
    rw [hconf]
    exact hline

/-- Giving up DATA empties the decoder. -/
theorem drop_data_fits {s : bridge_t} (h : Fits s.data s.conf) :
    Fits (drop_data s).data (drop_data s).conf := by
  unfold drop_data bridge_loraham_disconnect_data_socket
  split <;> exact ⟨framedFits_init, h.2⟩

/-- Giving up CONF leaves DATA in its buffer, and empties the line. -/
theorem drop_conf_fits {s : bridge_t} (h : Fits s.data s.conf) :
    Fits (drop_conf s).data (drop_conf s).conf := by
  unfold drop_conf bridge_loraham_disconnect_conf_socket
  split
  · exact h
  · exact ⟨h.1, lineFits_init s.conf⟩

/-- Leaving the loop overfills nothing. -/
theorem bridge_exit_fits {s : bridge_t} (h : Fits s.data s.conf) :
    Fits (bridge_exit s).data (bridge_exit s).conf := by
  rw [bridge_exit_data, bridge_exit_conf]
  constructor
  · unfold close_data
    split <;> exact h.1
  · unfold close_conf
    split <;> exact h.2

/-- One step of the main loop. -/
theorem bridge_step_fits (s : bridge_t) (e : bridge_env) (h : Fits s.data s.conf) :
    Fits (bridge_step cfg s e).data (bridge_step cfg s e).conf := by
  refine bridge_step_elim (P := fun s => Fits s.data s.conf) cfg s e h ?_
    (fun _ => bridge_exit_fits) (fun _ hs => hs) (fun _ => drop_data_fits)
    (fun _ => drop_conf_fits) ?_ (fun s hs _ => ⟨hs.1, lineFits_init s.conf⟩) ?_ ?_
    (fun _ hs _ => hs) (fun _ _ _ _ hs => hs)
    (fun s hs _ => ⟨hs.1, hs.2.fed (fed_read_available e.conf s.conf)⟩) ?_
  · rintro s _ ⟨_, _, _, _, _, _, _, rfl⟩ hs
    exact hs
  · intro _ _
    have hdrained : Fits (bridge_drain cfg e s).1.data (bridge_drain cfg e s).1.conf :=
      drain_fits e.drain s.client_fd s.txq h
    unfold handle_drain_result
    split
    · exact drop_data_fits hdrained
    · split
      · exact drop_conf_fits hdrained
      · split <;> exact hdrained
  · exact fun _ _ _ _ _ => ⟨framedFits_init, h.2.config e.config⟩
  · intro _ _ _ _ _
    unfold pending_config
    dsimp only
    split <;> exact ⟨h.1, h.2.config e.config⟩
  · intro b buf _ _ _
    obtain ⟨pre, _, _, hst, _, _⟩ := handle_framed_chunk_decoded e.client_write s.client_fd
      (b :: buf) s.data.framed s.rx
    have hread : Fits (handle_data_bytes e.client_write (b :: buf) s).1.data
        (handle_data_bytes e.client_write (b :: buf) s).1.conf := by
      refine ⟨?_, h.2⟩
      show FramedFits (bridge_rx_handle_framed_chunk e.client_write s.client_fd s.data.framed
        (b :: buf) s.rx).2.1
      rw [hst]
      exact h.1.decode pre
    unfold handle_chunk_result
    split
    · exact hread
    · split
      · exact drop_data_fits hread
      · exact hread

/-- At the start all buffers are empty. -/
theorem bridge_start_fits (start : start_env) :
    Fits (bridge_start cfg start).data (bridge_start cfg start).conf := by
  have hline : LineFits (send_initial_config start.config cfg
      { conf := { fd := start.conf_connect } }).1.conf :=
    LineFits.config (lineFits_init { fd := start.conf_connect }) start.config
  unfold bridge_start
  dsimp only
  split
  · exact bridge_exit_fits ⟨framedFits_init, hline⟩
  · exact ⟨framedFits_init, hline⟩

/-- Every buffer holds what its array has room for. -/
structure InBounds (s : bridge_t) : Prop where
  kiss : s.kiss_dec.buf.length ≤ LHKT_KISS_MAX_FRAME
  line : s.conf.state.line.length < LHKT_CONF_LINE_MAX
  header : s.data.framed.header.length ≤ 3
  payload : s.data.framed.payload.length ≤ LHKT_FRAMED_MAX_PAYLOAD
  packets : ∀ packet ∈ s.txq.queue.packets,
    packet.length ≠ 0 ∧ packet.length ≤ LHKT_LORAHAM_TX_MAX

/-- **The buffers stay in bounds.** In every state of every run, whatever is read
from the client and the daemon, in whatever pieces, and wherever a connection is
lost: the KISS frame, the CONF line with its terminator, the header and the payload
of a daemon's frame, and the packets in the queue fit their arrays. -/
theorem buffers_in_bounds (cfg : lhkt_config_t) (start : start_env) (es : List bridge_env) :
    InBounds (bridge_run cfg start es) := by
  have hfits : Fits (bridge_run cfg start es).data (bridge_run cfg start es).conf :=
    run_invariant (P := fun s : bridge_t => Fits s.data s.conf)
      (fun s e hs => bridge_step_fits s e hs) es _ (bridge_start_fits start)
  -- the KISS decoder has read what the client sent
  obtain ⟨v, _, hserved⟩ := bridge_run_served cfg start es
  refine ⟨?_, hfits.2, ?_, hfits.1.1, airworthy_lengths (bridge_run_airworthy cfg start es)⟩
  · rw [hserved.decoder]
    exact (kiss_decode_length v.hearing kiss_decoder_init (Nat.zero_le _)).1
  · rcases hfits.1.2 with hopen | ⟨hfull, _⟩
    · exact Nat.le_of_lt hopen
    · exact Nat.le_of_eq hfull

end LorahamKissTnc.Bounds
