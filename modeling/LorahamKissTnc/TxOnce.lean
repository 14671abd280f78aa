/-
Every packet is transmitted at most once, in the order of the queue.

The queue's history splits what was accepted into packets that are gone and
packets that still wait; each gone packet was sent or dropped. The history of
the DATA connections holds what was really written. The invariant `TxHistory`
ties the two: the packets completely written, over all connections, are exactly
the gone packets that count as sent, in that order. It holds because a packet is
popped as sent exactly when the write of its frame was reported as successful,
whatever the rest of the transmission returns, and because a truncated frame is
the last thing on its connection: the failing write makes the main loop give the
connection up.
-/
import LorahamKissTnc.FramedStream

set_option autoImplicit false

open LorahamKissTnc.Lib.CString LorahamKissTnc.Lib.Channel LorahamKissTnc.Lib.Machine
open LorahamKissTnc.Config LorahamKissTnc.LorahamSock LorahamKissTnc.BridgeConf
open LorahamKissTnc.BridgeTxQueue LorahamKissTnc.BridgeRx LorahamKissTnc.BridgeKiss
open LorahamKissTnc.BridgeLoraham LorahamKissTnc.Bridge LorahamKissTnc.FramedStream

namespace LorahamKissTnc.TxOnce

/-! ## Histories -/

/-- The bytes are a TX_PACKET frame. -/
def IsTxFrame (buf : Bytes) : Prop :=
  ∃ packet, packet.length ≤ LHKT_LORAHAM_TX_MAX ∧ buf = framed_tx_packet packet

/-- A stream of TX_PACKET frames of which only the last can be incomplete. -/
def IntactTx (h : List (Sent UInt8)) : Prop := Intact Sent.Complete h ∧ ∀ s ∈ h, IsTxFrame s.buf

/-- Everything written on DATA connections, in order. -/
def tx_history (d : data_t) : List (Sent UInt8) :=
  (d.closed.map data_link.tx).flatten ++ d.link.tx

/-- The packets completely written as TX_PACKET frames: the frames without type
and length. -/
def written_packets (h : List (Sent UInt8)) : List Bytes :=
  (h.filter fun s => s.Complete).map fun s => s.buf.drop 3

/-- The packets that left the queue as sent. -/
def sent_packets (q : txq_t) : List Bytes :=
  (q.gone.filter fun g => g.2 = .sent).map Prod.fst

theorem written_packets_append (h k : List (Sent UInt8)) :
    written_packets (h ++ k) = written_packets h ++ written_packets k := by
  unfold written_packets
  rw [List.filter_append, List.map_append]

/-! ## The queue -/

/-- What was accepted is gone or still in the queue. -/
def Accounted (q : txq_t) : Prop :=
  q.accepted.map tx_accept.packet = q.gone.map Prod.fst ++ q.queue.packets

/-- The head packet is in front of the others. -/
theorem packets_of_head {queue : bridge_tx_queue_t} {item : bridge_tx_item_t}
    (h : bridge_tx_queue_head queue = some item) :
    queue.packets = item.packet :: (bridge_tx_queue_pop queue).packets := by
  rw [bridge_tx_queue_head_eq] at h
  obtain ⟨rest, hlist⟩ := List.head?_eq_some_iff.mp h
  unfold bridge_tx_queue_t.packets
  rw [toList_pop, hlist, List.map_cons, List.tail_cons]

theorem count_of_head {queue : bridge_tx_queue_t} {item : bridge_tx_item_t}
    (h : bridge_tx_queue_head queue = some item) : queue.count ≠ 0 := by
  intro h0
  rw [bridge_tx_queue_head, if_pos h0] at h
  exact absurd h (by simp)

/-- Starting or clearing the wait clock of the head changes no packet. -/
theorem packets_set_head {queue : bridge_tx_queue_t} {item item' : bridge_tx_item_t}
    (h : bridge_tx_queue_head queue = some item) (hpacket : item'.packet = item.packet) :
    (bridge_tx_queue_set_head queue item').packets = queue.packets := by
  rw [packets_of_head h]
  unfold bridge_tx_queue_t.packets
  rw [toList_set_head item' (count_of_head h), toList_pop, List.map_cons, hpacket]

/-- The head leaves the queue, with whatever fate. -/
theorem Accounted.pop {q : txq_t} {item : bridge_tx_item_t} (h : Accounted q)
    (hitem : bridge_tx_queue_head q.queue = some item) (fate : tx_fate) :
    Accounted (q.pop item.packet fate) := by
  unfold Accounted at h ⊢
  show q.accepted.map tx_accept.packet
    = (q.gone ++ [(item.packet, fate)]).map Prod.fst ++ (bridge_tx_queue_pop q.queue).packets
  rw [h, packets_of_head hitem, List.map_append, List.append_assoc]
  rfl

/-- A frame of the client may add a packet. -/
theorem Accounted.push {q : txq_t} (h : Accounted q) (frame kiss_params) (cfg : lhkt_config_t)
    (now : Int) (stats : lhkt_stats_t) :
    Accounted (bridge_kiss_handle_frame frame kiss_params cfg now stats q).2.2.1 := by
  rcases bridge_kiss_handle_frame_cases frame kiss_params cfg now stats q with
    hq | ⟨ax25, tnc2, packet, queue, _, _, _, _, _, _, hpush, hq⟩
  · rw [hq]
    exact h
  · rw [hq]
    unfold Accounted at h ⊢
    have hpackets : queue.packets = q.queue.packets ++ [packet] := by
      unfold bridge_tx_queue_t.packets
      rw [toList_push hpush, List.map_append]
      rfl
    show (q.accepted ++ [tx_accept.mk frame packet]).map tx_accept.packet
      = q.gone.map Prod.fst ++ queue.packets
    rw [List.map_append, h, hpackets, List.append_assoc]
    rfl

theorem bridge_kiss_handle_frame_gone (frame kiss_params) (cfg : lhkt_config_t) (now : Int)
    (stats : lhkt_stats_t) (q : txq_t) :
    (bridge_kiss_handle_frame frame kiss_params cfg now stats q).2.2.1.gone = q.gone := by
  rcases bridge_kiss_handle_frame_cases frame kiss_params cfg now stats q with
    hq | ⟨_, _, _, _, _, _, _, _, _, _, _, hq⟩
  · rw [hq]
  · rw [hq]

theorem sent_packets_pop_sent (q : txq_t) (packet : Bytes) :
    sent_packets (q.pop packet .sent) = sent_packets q ++ [packet] := by
  unfold sent_packets
  show ((q.gone ++ [(packet, tx_fate.sent)]).filter _).map _ = _
  rw [List.filter_append, List.map_append]
  rfl

theorem sent_packets_pop_dropped (q : txq_t) (packet : Bytes) :
    sent_packets (q.pop packet .dropped) = sent_packets q := by
  unfold sent_packets
  show ((q.gone ++ [(packet, tx_fate.dropped)]).filter _).map _ = _
  rw [List.filter_append, List.map_append]
  exact List.append_nil _

/-! ## The queue against the connections -/

/-- The invariant that links the queue and the DATA connections. -/
structure TxHistory (d : data_t) (q : txq_t) : Prop where
  accounted : Accounted q
  written : written_packets (tx_history d) = sent_packets q
  streams : ∀ link ∈ d.closed ++ [d.link], IntactTx link.tx
  unopened : d.fd = false → d.link.tx = []

/-- Reading does not matter, nor does the history of starts. -/
theorem TxHistory.congr {d d' : data_t} {q q' : txq_t} (h : TxHistory d q) (hfd : d'.fd = d.fd)
    (hclosed : d'.closed = d.closed) (htx : d'.link.tx = d.link.tx) (hq : Accounted q')
    (hgone : q'.gone = q.gone) : TxHistory d' q' where
  accounted := hq
  written := by
    unfold tx_history sent_packets
    rw [hclosed, htx, hgone]
    exact h.written
  streams := by
    intro link hlink
    rw [hclosed] at hlink
    rcases List.mem_append.mp hlink with hlink | hlink
    · exact h.streams link (List.mem_append_left _ hlink)
    · rw [List.mem_singleton.mp hlink, htx]
      exact h.streams d.link (by simp)
  unopened := by
    rw [hfd, htx]
    exact h.unopened

theorem TxHistory.open_intact {d : data_t} {q : txq_t} (h : TxHistory d q) : IntactTx d.link.tx :=
  h.streams d.link (by simp)

/-- The three outcomes of handing a packet to the DATA connection: it is refused
for its length, it is truncated, or it is complete and reported so. -/
theorem loraham_send_framed_tx_packet_cases {e : sock_env} (he : e.FcntlOk) (packet : Bytes)
    (tx : List (Sent UInt8)) :
    ((loraham_send_framed_tx_packet e packet tx).1 = tx ∧
      (loraham_send_framed_tx_packet e packet tx).2 ≠ .OK) ∨
    ∃ sent, (loraham_send_framed_tx_packet e packet tx).1 = tx ++ [sent] ∧
      sent.buf = framed_tx_packet packet ∧ packet.length ≤ LHKT_LORAHAM_TX_MAX ∧
      ((loraham_send_framed_tx_packet e packet tx).2 = .OK ↔ sent.Complete) := by
  unfold loraham_send_framed_tx_packet
  split
  · exact .inl ⟨rfl, fun h => nomatch h⟩
  · rename_i hlen
    refine .inr ⟨_, rfl, loraham_sock_write_buf e _, Nat.le_of_not_lt hlen, ?_⟩
    rw [← loraham_sock_write_ok_iff he]
    dsimp only
    split
    · rename_i hok
      exact ⟨fun _ => hok, fun _ => rfl⟩
    · rename_i hok
      exact ⟨fun h => (nomatch h), fun h => absurd h hok⟩

/-- One more write on the open connection. -/
theorem TxHistory.write {d d' : data_t} {q : txq_t} {packet : Bytes} {sent : Sent UInt8}
    (h : TxHistory d q) (hclean : Clean Sent.Complete d.link.tx) (hopen : d.fd = true)
    (hlen : packet.length ≤ LHKT_LORAHAM_TX_MAX) (hbuf : sent.buf = framed_tx_packet packet)
    (hfd : d'.fd = d.fd) (hclosed : d'.closed = d.closed)
    (htx : d'.link.tx = d.link.tx ++ [sent]) :
    written_packets (tx_history d')
        = sent_packets q ++ (if sent.Complete then [packet] else []) ∧
      (∀ link ∈ d'.closed ++ [d'.link], IntactTx link.tx) ∧ (d'.fd = false → d'.link.tx = []) := by
  refine ⟨?_, ?_, ?_⟩
  · have hhist : tx_history d' = tx_history d ++ [sent] := by
      unfold tx_history
      rw [hclosed, htx, List.append_assoc]
    rw [hhist, written_packets_append, h.written]
    congr 1
    unfold written_packets
    split
    · rename_i hcomplete
      rw [List.filter_cons_of_pos (by simpa using hcomplete), List.filter_nil, List.map_singleton,
        hbuf]
      rfl
    · rename_i hcomplete
      rw [List.filter_cons_of_neg (by simpa using hcomplete), List.filter_nil, List.map_nil]
  · intro link hlink
    rw [hclosed] at hlink
    rcases List.mem_append.mp hlink with hlink | hlink
    · exact h.streams link (List.mem_append_left _ hlink)
    · rw [List.mem_singleton.mp hlink, htx]
      -- only the last send of a connection may be cut, and this is the last one now
      refine ⟨hclean.intact_append sent, ?_⟩
      intro s hs
      rcases List.mem_append.mp hs with hs | hs
      · exact h.open_intact.2 s hs
      · rw [List.mem_singleton.mp hs]
        exact ⟨packet, hlen, hbuf⟩
  · intro hclosed'
    rw [hfd, hopen] at hclosed'
    exact absurd hclosed' (by simp)

/-! ## A drain -/

/-- What a drain guarantees: the invariant, and a connection that can be written
on, unless the result says that it has to be given up. -/
def Drained (d : data_t) (q : txq_t) (ret : Lhkt) : Prop :=
  TxHistory d q ∧ (Clean Sent.Complete d.link.tx ∨ ret = .ERR_TX_SOCKET)

/-- The packet could not be written whole: it stays in the queue. -/
theorem drained_failed {e : sock_env} (he : e.FcntlOk) {d d' : data_t} {q : txq_t} {packet : Bytes}
    (h : TxHistory d q) (hclean : Clean Sent.Complete d.link.tx) (hopen : d.fd = true)
    (hret : (loraham_send_framed_tx_packet e packet d.link.tx).2 ≠ .OK)
    (hfd : d'.fd = d.fd) (hclosed : d'.closed = d.closed)
    (htx' : d'.link.tx = (loraham_send_framed_tx_packet e packet d.link.tx).1) :
    Drained d' q .ERR_TX_SOCKET := by
  rcases loraham_send_framed_tx_packet_cases he packet d.link.tx with
    ⟨htx, _⟩ | ⟨sent, htx, hbuf, hlen, hok⟩
  · rw [htx] at htx'
    exact ⟨h.congr hfd hclosed htx' h.accounted rfl, .inl (htx' ▸ hclean)⟩
  · rw [htx] at htx'
    have hcut : ¬ sent.Complete := fun hc => hret (hok.mpr hc)
    obtain ⟨hwritten, hstreams, hunopened⟩ := h.write hclean hopen hlen hbuf hfd hclosed htx'
    rw [if_neg hcut, List.append_nil] at hwritten
    exact ⟨⟨h.accounted, hwritten, hstreams, hunopened⟩, .inr rfl⟩

/-- The packet is out: it leaves the queue, whatever happens afterwards. -/
theorem drained_written {e : sock_env} (he : e.FcntlOk) {d d' : data_t} {q : txq_t}
    {item : bridge_tx_item_t} (h : TxHistory d q) (hclean : Clean Sent.Complete d.link.tx)
    (hopen : d.fd = true) (hitem : bridge_tx_queue_head q.queue = some item)
    (hret : (loraham_send_framed_tx_packet e item.packet d.link.tx).2 = .OK)
    (hfd : d'.fd = d.fd) (hclosed : d'.closed = d.closed)
    (htx' : d'.link.tx = (loraham_send_framed_tx_packet e item.packet d.link.tx).1) (ret : Lhkt) :
    Drained d' (q.pop item.packet .sent) ret := by
  rcases loraham_send_framed_tx_packet_cases he item.packet d.link.tx with
    ⟨_, hbad⟩ | ⟨sent, htx, hbuf, hlen, hok⟩
  · exact absurd hret hbad
  · rw [htx] at htx'
    have hcomplete : sent.Complete := hok.mp hret
    obtain ⟨hwritten, hstreams, hunopened⟩ := h.write hclean hopen hlen hbuf hfd hclosed htx'
    rw [if_pos hcomplete, ← sent_packets_pop_sent] at hwritten
    refine ⟨⟨h.accounted.pop hitem .sent, hwritten, hstreams, hunopened⟩, .inl ?_⟩
    rw [htx']
    exact clean_append.mpr ⟨hclean, clean_singleton.mpr hcomplete⟩

/-- **A drain** keeps the queue and the connection in step. -/
theorem drain_txHistory (e : drain_env) (cfg : lhkt_config_t) (client_fd : Bool) (s : io_t)
    (q : txq_t) (he : e.send.write.FcntlOk) (h : TxHistory s.data q)
    (hclean : Clean Sent.Complete s.data.link.tx) :
    Drained (bridge_loraham_tx_queue_drain_with_client e cfg client_fd s q).1.data
      (bridge_loraham_tx_queue_drain_with_client e cfg client_fd s q).2.1
      (bridge_loraham_tx_queue_drain_with_client e cfg client_fd s q).2.2 := by
  refine drain_elim
    (I := fun s q => TxHistory s.data q ∧ Clean Sent.Complete s.data.link.tx)
    (P := fun r => Drained r.1.data r.2.1 r.2.2) e cfg client_fd s q ⟨h, hclean⟩
    (fun _ _ _ h _ => h) ?_ ?_ (fun _ _ ret h _ => ⟨h.1, .inl h.2⟩) ?_
  · -- the wait clock of the head
    rintro s q item item' ⟨h, hclean⟩ hitem hpacket _
    refine ⟨h.congr rfl rfl rfl ?_ rfl, hclean⟩
    unfold Accounted
    rw [packets_set_head hitem hpacket]
    exact h.accounted
  · -- an expired packet
    rintro s q item ⟨h, hclean⟩ hitem
    refine ⟨⟨h.accounted.pop hitem .dropped, ?_, h.streams, h.unopened⟩, hclean⟩
    rw [sent_packets_pop_dropped]
    exact h.written
  · -- the transmission, by the ways it can end
    rintro s q item now s' ret written ⟨h, hclean⟩ hitem hgate hsel hsend
    show Drained s'.data (tx_finished (tx_started q s item now) item ret written) ret
    have hstarted : TxHistory s.data (tx_started q s item now) :=
      h.congr rfl rfl rfl h.accounted rfl
    have key := send_packet_elim
      (P := fun r => Drained r.1.data
        (tx_finished (tx_started q s item now) item r.2.1 r.2.2) r.2.1)
      e.send cfg client_fd item.packet s ?_ ?_ ?_ ?_ ?_
    · rw [hsend] at key
      exact key
    · -- given up before anything was prepared: the packet stays
      rintro s' ret hs' hret
      have hkeep : ¬ (false = true ∨ ret = .OK) := by
        rcases hret with rfl | rfl <;> simp
      have hdata : s'.data = s.data := by
        rcases hs' with rfl | rfl <;> rfl
      show Drained s'.data (tx_finished _ item ret false) ret
      rw [tx_finished, if_neg hkeep, hdata]
      exact ⟨hstarted, .inl hclean⟩
    · -- the frequency could not be set: the packet stays
      intro s₁ ret hprep hret
      have hcmd := commandsOnly_tx_prepare e.send cfg s
      rw [hprep] at hcmd
      have hkeep : ¬ (false = true ∨ ret = .OK) := by simpa using hret
      show Drained s₁.data (tx_finished _ item ret false) ret
      rw [tx_finished, if_neg hkeep, hcmd.data_eq]
      exact ⟨hstarted, .inl hclean⟩
    · -- the write failed, so the stream ends in a partial frame
      intro s₁ s₂ ret hprep hwrite hret
      obtain ⟨hret', hcmd⟩ := tx_written_frame hprep hwrite
      show Drained (tx_write_failed e.send cfg s₂).1.data (tx_finished _ item _ false) _
      rw [tx_finished, if_neg (by simp), (commandsOnly_tx_write_failed e.send cfg s₂).data_eq]
      exact drained_failed he hstarted hclean hgate.data_fd (hret' ▸ hret) (by rw [hcmd.data_eq])
        (by rw [hcmd.data_eq]) (by rw [hcmd.data_eq])
    · -- written; the wait for a TX_RESULT only reads
      intro s₁ s₂ hprep hwrite _
      obtain ⟨hret', hcmd⟩ := tx_written_frame hprep hwrite
      obtain ⟨framed, rx, hdata⟩ :=
        tx_confirm_result_data e.send cfg client_fd item.packet s₂
      show Drained (tx_confirm_result e.send cfg client_fd item.packet s₂).1.data
        (tx_finished _ item _ true) _
      rw [tx_finished, if_pos (.inl rfl)]
      rw [hcmd.data_eq] at hdata
      exact drained_written he hstarted hclean hgate.data_fd hitem hret'.symm (by rw [hdata])
        (by rw [hdata]) (by rw [hdata]) _
    · -- written; the wait for TX events does not touch the connection
      intro s₁ s₂ hprep hwrite _
      obtain ⟨hret', hcmd⟩ := tx_written_frame hprep hwrite
      obtain ⟨state, events, hrep⟩ := reportsOnly_tx_confirm_events e.send cfg item.packet s₂
      have hdata := hrep.data_eq.trans hcmd.data_eq
      show Drained (tx_confirm_events e.send cfg item.packet s₂).1.data
        (tx_finished _ item _ true) _
      rw [tx_finished, if_pos (.inl rfl)]
      exact drained_written he hstarted hclean hgate.data_fd hitem hret'.symm (by rw [hdata])
        (by rw [hdata]) (by rw [hdata]) _

/-! ## The main loop -/

/-- The invariant of the main loop. -/
def Once (s : bridge_t) : Prop :=
  TxHistory s.data s.txq ∧ Clean Sent.Complete s.data.link.tx

/-- The connection is given up: its history is closed. -/
theorem drop_data_once {s : bridge_t} (h : TxHistory s.data s.txq) : Once (drop_data s) := by
  unfold drop_data bridge_loraham_disconnect_data_socket
  split
  · rename_i hfd
    have hfd : s.data.fd = false := by simpa using hfd
    refine ⟨h.congr rfl rfl rfl h.accounted rfl, ?_⟩
    show Clean Sent.Complete s.data.link.tx
    rw [h.unopened hfd]
    exact clean_nil
  · refine ⟨⟨h.accounted, ?_, ?_, fun _ => rfl⟩, clean_nil⟩
    · rw [← h.written]
      unfold tx_history
      simp
    · intro link hlink
      rcases List.mem_append.mp hlink with hlink | hlink
      · exact h.streams link hlink
      · rw [List.mem_singleton.mp hlink]
        exact ⟨clean_nil.intact, by simp⟩

theorem handle_drain_result_once {ret : Lhkt} {s : bridge_t} (h : Drained s.data s.txq ret) :
    Once (handle_drain_result ret s) := by
  obtain ⟨hhist, hclean⟩ := h
  unfold handle_drain_result
  split
  · exact drop_data_once hhist
  · rename_i hret
    have hclean : Clean Sent.Complete s.data.link.tx := by
      refine hclean.resolve_right ?_
      rintro rfl
      exact hret (by decide)
    split
    · exact ⟨by rw [drop_conf_data]; exact hhist, by rw [drop_conf_data]; exact hclean⟩
    · split <;> exact ⟨hhist, hclean⟩

theorem bridge_exit_once {s : bridge_t} (h : Once s) : Once (bridge_exit s) := by
  unfold Once
  rw [bridge_exit_data, bridge_exit_txq]
  unfold close_data
  split
  · have hdrop := drop_data_once h.1
    unfold drop_data bridge_loraham_disconnect_data_socket at hdrop
    rename_i hfd
    rw [if_neg (by simp [hfd])] at hdrop
    exact ⟨hdrop.1.congr rfl rfl rfl hdrop.1.accounted rfl, hdrop.2⟩
  · exact h

/-- One step of the main loop. -/
theorem bridge_step_once (cfg : lhkt_config_t) (s : bridge_t) (e : bridge_env) (h : Once s)
    (he : e.drain.send.write.FcntlOk) : Once (bridge_step cfg s e) := by
  refine bridge_step_elim (P := Once) cfg s e h ?_ (fun _ => bridge_exit_once) (fun _ hs => hs)
    (fun _ hs => drop_data_once hs.1) ?_ ?_ (fun _ hs _ => hs) ?_ ?_ (fun _ hs _ => hs) ?_
    (fun _ hs _ => hs) ?_
  · rintro s _ ⟨_, _, _, _, _, _, _, rfl⟩ hs
    exact hs
  · intro s hs
    exact ⟨by rw [drop_conf_data]; exact hs.1, by rw [drop_conf_data]; exact hs.2⟩
  · exact fun _ _ => handle_drain_result_once
      (drain_txHistory e.drain cfg s.client_fd s.toio_t s.txq he h.1 h.2)
  · -- a fresh connection in place of a closed one
    intro _ _ _ hfd _
    have htx := h.1.unopened hfd
    refine ⟨⟨h.1.accounted, ?_, ?_, fun _ => rfl⟩, clean_nil⟩
    · show written_packets (tx_history (connect_data s.data)) = sent_packets s.txq
      rw [← h.1.written]
      unfold tx_history
      rw [htx]
      rfl
    · intro link hlink
      rcases List.mem_append.mp hlink with hlink | hlink
      · exact h.1.streams link (List.mem_append_left _ hlink)
      · rw [List.mem_singleton.mp hlink]
        exact ⟨clean_nil.intact, by simp [reconnect_config, send_initial_config, connect_data]⟩
  · intro _ _ _ _ _
    unfold pending_config
    dsimp only
    split <;> exact h
  · exact fun s frame stats now hs =>
      ⟨hs.1.congr rfl rfl rfl (hs.1.accounted.push frame s.kiss_params cfg now stats)
        (bridge_kiss_handle_frame_gone frame s.kiss_params cfg now stats s.txq), hs.2⟩
  · intro b buf _ _ _
    have hread : Once (handle_data_bytes e.client_write (b :: buf) s).1 :=
      ⟨h.1.congr rfl rfl rfl h.1.accounted rfl, h.2⟩
    unfold handle_chunk_result
    split
    · exact hread
    · split
      · exact drop_data_once hread.1
      · exact hread

theorem bridge_start_once (cfg : lhkt_config_t) (e : start_env) : Once (bridge_start cfg e) := by
  have hinit : ∀ s : bridge_t, s.txq = {} → s.data = { fd := s.data.fd } → Once s := by
    intro s htxq hdata
    unfold Once
    rw [htxq, hdata]
    refine ⟨⟨rfl, rfl, ?_, fun _ => rfl⟩, clean_nil⟩
    intro link hlink
    rw [List.mem_singleton.mp hlink]
    exact ⟨clean_nil.intact, by simp⟩
  unfold bridge_start
  dsimp only
  split
  · exact bridge_exit_once (hinit _ rfl rfl)
  · exact hinit _ rfl rfl

/-- **At most once and in order.** In every state of every run: what was accepted
is gone or queued, in order; the packets completely written over all DATA
connections are exactly those gone as sent, so a subsequence of what was
accepted, and every other packet that is gone was dropped; and each connection
carries complete TX_PACKET frames followed by at most one truncated frame. -/
theorem tx_at_most_once_in_order (cfg : lhkt_config_t) (e : start_env) (es : List bridge_env)
    (hfcntl : ∀ e ∈ es, e.drain.send.write.FcntlOk) :
    let s := bridge_run cfg e es
    let accepted := s.txq.accepted.map tx_accept.packet
    let written := written_packets (tx_history s.data)
    accepted = s.txq.gone.map Prod.fst ++ s.txq.queue.packets ∧
    written = (s.txq.gone.filter fun g => g.2 = .sent).map Prod.fst ∧
    List.Sublist written accepted ∧
    ∀ link ∈ s.data.closed ++ [s.data.link], Intact Sent.Complete link.tx ∧
      (∀ t ∈ link.tx, IsTxFrame t.buf) ∧ FramedBy IsTxFrame (bytes link.tx) := by
  have hrun : Once (bridge_run cfg e es) :=
    run_induction (P := Once) (fun s e hs he => bridge_step_once cfg s e hs he) es _
      (bridge_start_once cfg e) (guarded_of_forall es hfcntl _)
  have haccounted : (bridge_run cfg e es).txq.accepted.map tx_accept.packet = _ :=
    hrun.1.accounted
  refine ⟨haccounted, hrun.1.written, ?_, ?_⟩
  · rw [haccounted, hrun.1.written]
    exact (List.filter_sublist.map Prod.fst).trans (List.sublist_append_left _ _)
  · intro link hlink
    obtain ⟨hintact, hframes⟩ := hrun.1.streams link hlink
    exact ⟨hintact, hframes, (hintact.mono fun _ => Sent.Complete.whole).framedBy hframes⟩

/-- A packet whose frame is cut short goes out whole on the next connection. -/
theorem tx_at_most_once_in_order_retry :
    let cut : bridge_env :=
      { drain := { send := { write := { writes := [.accept 5, .fail] } } } }
    let status : bridge_env :=
      { select := .ready { conf := true }
        conf := { chunks := [status_ready ++ ascii "\n"] } }
    let es := iteration client_connects ++ iteration (packet_arrives (ascii "x") status_ready) ++
      [cut, cut] ++ iteration status ++ [({} : bridge_env)]
    let s := bridge_run lhkt_config_defaults {} es
    (tx_history s.data).map Sent.taken = [5, 20] ∧
      List.Sublist (written_packets (tx_history s.data)) (s.txq.accepted.map tx_accept.packet) := by
  exact ⟨by decide +kernel,
    (tx_at_most_once_in_order lhkt_config_defaults {} _ (by decide +kernel)).2.2.1⟩

end LorahamKissTnc.TxOnce
