/-
What the daemon makes of the bytes on DATA.

`written_packets` is told from the bridge's own records of its writes. A daemon has
only bytes: it runs the framed decoder over what comes out of each connection, from a
fresh state. The two agree (`daemon_receives_written`): a cut frame can only be the
last on its connection, it completes nothing there, and the next connection starts
afresh. So the packets the daemon gets, over all connections, are those the bridge
counts as sent, and the daemon never sees a framing error.
-/
import LorahamKissTnc.Connections
import LorahamKissTnc.FramedCodec
import LorahamKissTnc.RxFaults

set_option autoImplicit false

open LorahamKissTnc.Lib.CString LorahamKissTnc.Lib.Channel LorahamKissTnc.Lib.Machine
open LorahamKissTnc.Config LorahamKissTnc.LorahamSock LorahamKissTnc.BridgeConf
open LorahamKissTnc.BridgeTxQueue LorahamKissTnc.BridgeRx LorahamKissTnc.BridgeKiss
open LorahamKissTnc.BridgeLoraham LorahamKissTnc.Bridge LorahamKissTnc.TxOnce
open LorahamKissTnc.FramedCodec LorahamKissTnc.RxFaults LorahamKissTnc.Connections

namespace LorahamKissTnc.DaemonView

/-! ## One connection -/

/-- The frames a daemon decodes on a connection. -/
def daemon_frames (link : data_link) : List loraham_frame_t :=
  stream_frames loraham_framed_rx_state_init (bytes link.tx)

/-- The frames a daemon decodes on all of them. -/
def daemon_received (d : data_t) : List loraham_frame_t :=
  (d.closed ++ [d.link]).flatMap daemon_frames

/-- The frame around a packet. -/
def tx_packet_frame (packet : Bytes) : loraham_frame_t := ⟨LORAHAM_FRAME_TX_PACKET, packet⟩

theorem framed_bytes_tx_packet (packet : Bytes) :
    framed_bytes (tx_packet_frame packet) = framed_tx_packet packet := rfl

theorem tx_packet_fits {packet : Bytes} (h : packet.length ≤ LHKT_LORAHAM_TX_MAX) :
    (tx_packet_frame packet).payload.length ≤ LHKT_FRAMED_MAX_PAYLOAD :=
  h.trans (by decide)

/-- One answer for each byte. -/
theorem length_framed_decode (data : Bytes) : ∀ state : loraham_framed_rx_state_t,
    (loraham_framed_decode state data).2.length = data.length := by
  induction data with
  | nil => exact fun _ => rfl
  | cons b data ih =>
      intro state
      rw [loraham_framed_decode_cons, List.length_cons, List.length_cons, ih]

/-- Nothing but the last answer of a frame says anything. -/
theorem quiet_prefix {n : Nat} {frame : loraham_frame_t}
    {a b : List (Except Lhkt (Option loraham_frame_t))} (h : a ++ b = quiet_then n frame)
    (hb : b ≠ []) : ∀ answer ∈ a, answer = .ok none := by
  obtain ⟨init, last, rfl⟩ : ∃ init last, b = init ++ [last] :=
    ⟨b.dropLast, b.getLast hb, (List.dropLast_append_getLast hb).symm⟩
  unfold quiet_then at h
  rw [← List.append_assoc] at h
  have hquiet := List.append_inj_left' h rfl
  intro answer ha
  have hmem :
      answer ∈ List.replicate n (Except.ok none : Except Lhkt (Option loraham_frame_t)) := by
    rw [← hquiet]
    exact List.mem_append_left _ ha
  exact List.eq_of_mem_replicate hmem

/-- A cut frame completes nothing and is no error. -/
theorem decode_cut {frame : loraham_frame_t}
    (h : frame.payload.length ≤ LHKT_FRAMED_MAX_PAYLOAD) {n : Nat}
    (hn : n < (framed_bytes frame).length) :
    ∀ answer ∈ (loraham_framed_decode loraham_framed_rx_state_init ((framed_bytes frame).take n)).2,
      answer = .ok none := by
  have hwhole := congrArg Prod.snd (decode_framed_bytes h)
  rw [← List.take_append_drop n (framed_bytes frame), loraham_framed_decode_append] at hwhole
  refine quiet_prefix hwhole ?_
  apply List.ne_nil_of_length_pos
  rw [length_framed_decode, List.length_drop]
  omega

theorem frames_of_quiet {answers : List (Except Lhkt (Option loraham_frame_t))}
    (h : ∀ answer ∈ answers, answer = .ok none) : frames_of answers = [] := by
  unfold frames_of
  rw [List.filterMap_eq_nil_iff]
  intro answer ha
  rw [h answer ha]

/-- Complete frames are their packets' frames. -/
theorem bytes_of_complete {tx : List (Sent UInt8)} (hclean : Clean Sent.Complete tx)
    (hframes : ∀ s ∈ tx, IsTxFrame s.buf) :
    bytes tx = ((written_packets tx).map tx_packet_frame).flatMap framed_bytes ∧
      ∀ packet ∈ written_packets tx, packet.length ≤ LHKT_LORAHAM_TX_MAX := by
  induction tx with
  | nil => exact ⟨rfl, fun _ h => absurd h List.not_mem_nil⟩
  | cons s tx ih =>
      obtain ⟨hbytes, hlen⟩ := ih (fun t ht => hclean t (List.mem_cons_of_mem s ht))
        fun t ht => hframes t (List.mem_cons_of_mem s ht)
      obtain ⟨packet, hfit, hbuf⟩ := hframes s List.mem_cons_self
      have hcomplete : s.taken = s.buf.length := hclean s List.mem_cons_self
      have hwritten : written_packets (s :: tx) = packet :: written_packets tx := by
        unfold written_packets
        rw [List.filter_cons_of_pos (by simpa using hclean s List.mem_cons_self), List.map_cons,
          hbuf]
        rfl
      have hsent : s.bytes = framed_bytes (tx_packet_frame packet) := by
        unfold Sent.bytes
        rw [hcomplete, List.take_length, hbuf, framed_bytes_tx_packet]
      rw [hwritten]
      constructor
      · show s.bytes ++ bytes tx = _
        rw [hbytes, hsent]
        rfl
      · exact List.forall_mem_cons.mpr ⟨hfit, hlen⟩

/-- A connection without a cut frame. -/
theorem daemon_frames_clean {tx : List (Sent UInt8)} (hclean : Clean Sent.Complete tx)
    (hframes : ∀ s ∈ tx, IsTxFrame s.buf) :
    stream_frames loraham_framed_rx_state_init (bytes tx)
        = (written_packets tx).map tx_packet_frame ∧
      WellFramed loraham_framed_rx_state_init (bytes tx) ∧
      (loraham_framed_decode loraham_framed_rx_state_init (bytes tx)).1
        = loraham_framed_rx_state_init := by
  obtain ⟨hbytes, hlen⟩ := bytes_of_complete hclean hframes
  obtain ⟨hdecoded, hok, hstate⟩ := decode_frames ((written_packets tx).map tx_packet_frame) (by
    intro frame hframe
    obtain ⟨packet, hpacket, rfl⟩ := List.mem_map.mp hframe
    exact tx_packet_fits (hlen packet hpacket))
  rw [← hbytes] at hdecoded hok hstate
  refine ⟨hdecoded, ?_, hstate⟩
  intro ret hret
  obtain ⟨frame, hframe⟩ := hok _ hret
  exact nomatch hframe

/-- **One connection**: the daemon decodes the complete frames, and no error. -/
theorem daemon_frames_eq {tx : List (Sent UInt8)} (h : IntactTx tx)
    (htaken : ∀ s ∈ tx, s.taken ≤ s.buf.length) :
    stream_frames loraham_framed_rx_state_init (bytes tx)
        = (written_packets tx).map tx_packet_frame ∧
      WellFramed loraham_framed_rx_state_init (bytes tx) := by
  obtain ⟨hintact, hframes⟩ := h
  rcases List.eq_nil_or_concat tx with rfl | ⟨init, last, rfl⟩
  · exact ⟨rfl, fun _ h => absurd h List.not_mem_nil⟩
  · rw [List.concat_eq_append] at hintact hframes ⊢
    have hinit : Clean Sent.Complete init := by
      intro s hs
      apply hintact
      rwa [List.dropLast_concat]
    obtain ⟨hdecoded, hwell, hstate⟩ := daemon_frames_clean hinit
      fun s hs => hframes s (List.mem_append_left _ hs)
    by_cases hlast : last.Complete
    · obtain ⟨hdecoded, hwell, -⟩ := daemon_frames_clean
        (clean_append.mpr ⟨hinit, clean_singleton.mpr hlast⟩) hframes
      exact ⟨hdecoded, hwell⟩
    · -- the last frame is cut
      obtain ⟨packet, hfit, hbuf⟩ := hframes last (by simp)
      have hbytes : bytes (init ++ [last]) = bytes init ++ last.bytes := by
        unfold bytes
        rw [List.flatMap_append, List.flatMap_singleton]
      have hshort : last.taken < last.buf.length :=
        lt_of_le_of_ne (htaken last (by simp)) hlast
      have hcut : ∀ answer ∈ (loraham_framed_decode loraham_framed_rx_state_init last.bytes).2,
          answer = .ok none := by
        unfold Sent.bytes
        rw [hbuf, ← framed_bytes_tx_packet] at hshort ⊢
        exact decode_cut (tx_packet_fits hfit) hshort
      have hwritten : written_packets (init ++ [last]) = written_packets init := by
        rw [written_packets_append]
        unfold written_packets
        rw [List.filter_cons_of_neg (by simpa using hlast), List.filter_nil, List.map_nil,
          List.append_nil]
      rw [hbytes, hwritten, stream_frames_append, wellFramed_append, hstate, hdecoded]
      refine ⟨?_, hwell, ?_⟩
      · unfold stream_frames
        rw [frames_of_quiet hcut, List.append_nil]
      · exact fun ret hret => nomatch hcut _ hret

/-! ## The main loop -/

/-- No write took more than there was. -/
def Taken (d : data_t) : Prop := ∀ s ∈ tx_history d, s.taken ≤ s.buf.length

theorem Taken.congr {d d' : data_t} (h : Taken d) (heq : tx_history d' = tx_history d) :
    Taken d' := by
  unfold Taken
  rw [heq]
  exact h

/-- What a drain hands to DATA. -/
theorem Taken.submits {d d' : data_t} (h : Taken d) (hsub : Submits d d') : Taken d' := by
  rcases hsub.tx with htx | ⟨sent, _, htaken, htx⟩
  · refine h.congr ?_
    unfold tx_history
    rw [hsub.closed, htx]
  · unfold Taken tx_history
    rw [hsub.closed, htx, ← List.append_assoc]
    intro s hs
    rcases List.mem_append.mp hs with hs | hs
    · exact h s hs
    · rw [List.mem_singleton.mp hs]
      exact htaken

theorem bridge_step_taken (cfg : lhkt_config_t) (s : bridge_t) (e : bridge_env)
    (h : Taken s.data) : Taken (bridge_step cfg s e).data := by
  refine bridge_step_elim (P := fun s => Taken s.data) cfg s e h ?_ ?_ (fun _ hs => hs) ?_ ?_ ?_
    (fun _ hs _ => hs) ?_ ?_ (fun _ hs _ => hs) (fun _ _ _ _ hs => hs) (fun _ hs _ => hs) ?_
  · rintro s _ ⟨_, _, _, _, _, _, _, rfl⟩ hs
    exact hs
  · intro s hs
    rw [bridge_exit_data]
    exact hs.congr (tx_history_close_data s.data)
  · exact fun s hs => hs.congr (tx_history_drop_data s)
  · intro s hs
    rw [drop_conf_data]
    exact hs
  · intro _ _
    have hdrained : Taken (bridge_drain cfg e s).1.data :=
      h.submits (submits_drain cfg e.drain s.client_fd s.toio_t s.txq)
    unfold handle_drain_result
    split
    · exact hdrained.congr (tx_history_drop_data _)
    · split
      · rw [drop_conf_data]
        exact hdrained
      · split <;> exact hdrained
  · intro _ _ _ _ _ t ht
    -- a fresh connection has an empty history
    have hclosed : t ∈ (s.data.closed.map data_link.tx).flatten ++ [] := ht
    rw [List.append_nil] at hclosed
    exact h t (List.mem_append_left _ hclosed)
  · intro _ _ _ _ _
    unfold pending_config
    dsimp only
    split <;> exact h
  · intro b buf _ _ _
    have hread : Taken (handle_data_bytes e.client_write (b :: buf) s).1.data := h
    unfold handle_chunk_result
    split
    · exact hread
    · split
      · exact hread.congr (tx_history_drop_data _)
      · exact hread

theorem bridge_run_taken (cfg : lhkt_config_t) (start : start_env) (es : List bridge_env) :
    Taken (bridge_run cfg start es).data := by
  refine run_invariant (P := fun s => Taken s.data) (fun s e hs => bridge_step_taken cfg s e hs) es
    _ ?_
  unfold bridge_start
  dsimp only
  have hstart : Taken { fd := start.data_connect } := fun _ h => absurd h List.not_mem_nil
  split
  · rw [bridge_exit_data]
    exact hstart.congr (tx_history_close_data _)
  · exact hstart

/-- All connections of a state that a run can reach. -/
theorem daemon_received_eq {s : bridge_t} (honce : Once s) (htaken : Taken s.data) :
    daemon_received s.data = (written_packets (tx_history s.data)).map tx_packet_frame ∧
    ∀ link ∈ s.data.closed ++ [s.data.link],
      daemon_frames link = (written_packets link.tx).map tx_packet_frame ∧
      WellFramed loraham_framed_rx_state_init (bytes link.tx) := by
  have hlink : ∀ link ∈ s.data.closed ++ [s.data.link], ∀ t ∈ link.tx, t.taken ≤ t.buf.length := by
    intro link hlink t ht
    apply htaken
    unfold tx_history
    rcases List.mem_append.mp hlink with hlink | hlink
    · exact List.mem_append_left _ (List.mem_flatten.mpr ⟨_, List.mem_map_of_mem hlink, ht⟩)
    · rw [List.mem_singleton.mp hlink] at ht
      exact List.mem_append_right _ ht
  have hall : ∀ links : List data_link, (∀ link ∈ links, IntactTx link.tx) →
      (∀ link ∈ links, ∀ t ∈ link.tx, t.taken ≤ t.buf.length) → links.flatMap daemon_frames
        = (written_packets (links.map data_link.tx).flatten).map tx_packet_frame := by
    intro links
    induction links with
    | nil => exact fun _ _ => rfl
    | cons link links ih =>
        intro hintact htaken
        rw [List.flatMap_cons, List.map_cons, List.flatten_cons, written_packets_append,
          List.map_append, ih (fun l hl => hintact l (List.mem_cons_of_mem link hl))
            fun l hl => htaken l (List.mem_cons_of_mem link hl)]
        congr 1
        exact (daemon_frames_eq (hintact link List.mem_cons_self)
          (htaken link List.mem_cons_self)).1
  constructor
  · unfold daemon_received
    rw [hall _ honce.1.streams hlink]
    unfold tx_history
    rw [List.map_append, List.flatten_append, List.map_singleton, List.flatten_singleton]
  · exact fun link hmem => daemon_frames_eq (honce.1.streams link hmem) (hlink link hmem)

/-- The packets the daemon gets are a selection of the accepted ones. -/
theorem daemon_received_sublist {s : bridge_t} (honce : Once s) (htaken : Taken s.data) :
    (daemon_received s.data).map loraham_frame_t.payload = sent_packets s.txq ∧
    List.Sublist (sent_packets s.txq) (s.txq.accepted.map tx_accept.packet) := by
  constructor
  · rw [(daemon_received_eq honce htaken).1, List.map_map, ← honce.1.written]
    exact List.map_id _
  · have haccounted : s.txq.accepted.map tx_accept.packet = _ := honce.1.accounted
    rw [haccounted]
    exact (List.filter_sublist.map Prod.fst).trans (List.sublist_append_left _ _)

/-- **The daemon receives what was written.** In every run, with any writes cut short and
any reconnects: on each DATA connection the framed decoder finds exactly the complete
frames, in order, and no error, and over all connections the packets it gets are those
that left the queue as sent, a selection of the accepted ones in their order. -/
theorem daemon_receives_written (cfg : lhkt_config_t) (start : start_env) (es : List bridge_env)
    (hfcntl : ∀ e ∈ es, e.drain.send.write.FcntlOk) :
    let s := bridge_run cfg start es
    daemon_received s.data = (written_packets (tx_history s.data)).map tx_packet_frame ∧
    (∀ link ∈ s.data.closed ++ [s.data.link],
      daemon_frames link = (written_packets link.tx).map tx_packet_frame ∧
      WellFramed loraham_framed_rx_state_init (bytes link.tx)) ∧
    (daemon_received s.data).map loraham_frame_t.payload = sent_packets s.txq ∧
    List.Sublist (sent_packets s.txq) (s.txq.accepted.map tx_accept.packet) := by
  intro s
  have honce : Once s := run_induction (P := Once) (fun s e hs he => bridge_step_once cfg s e hs he)
    es _ (bridge_start_once cfg start) (guarded_of_forall es hfcntl _)
  have htaken : Taken s.data := bridge_run_taken cfg start es
  obtain ⟨hreceived, hlinks⟩ := daemon_received_eq honce htaken
  exact ⟨hreceived, hlinks, daemon_received_sublist honce htaken⟩

/-- A packet whose frame is cut short on one connection: the daemon finds nothing there,
and gets the packet once, from the next. -/
theorem daemon_receives_written_retry :
    let cut : bridge_env :=
      { drain := { send := { write := { writes := [.accept 5, .fail] } } } }
    let status : bridge_env :=
      { select := .ready { conf := true }
        conf := { chunks := [status_ready ++ ascii "\n"] } }
    let es := iteration client_connects ++ iteration (packet_arrives (ascii "x") status_ready) ++
      [cut, cut] ++ iteration status ++ [({} : bridge_env)]
    let s := bridge_run lhkt_config_defaults {} es
    (s.data.closed ++ [s.data.link]).map (fun link => (bytes link.tx).length) = [5, 20, 0] ∧
      (s.data.closed ++ [s.data.link]).map (fun link => (written_packets link.tx).length)
        = [0, 1, 0] ∧
      ∀ link ∈ s.data.closed ++ [s.data.link],
        daemon_frames link = (written_packets link.tx).map tx_packet_frame := by
  intro cut status es s
  exact ⟨by decide +kernel, by decide +kernel, fun link hlink =>
    ((daemon_receives_written lhkt_config_defaults {} es (by decide +kernel)).2.1 link hlink).1⟩

end LorahamKissTnc.DaemonView
