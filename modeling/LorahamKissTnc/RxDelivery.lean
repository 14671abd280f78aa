/-
What the daemon sends reaches the client, once and in order.

Frames are read in two places: by the main loop when DATA is readable, and by the
wait for a TX_RESULT in the middle of a drain. Both move the one decoder of the
connection and write to the one client, so the client sees a single stream:
`Reads` says of a stretch of reading, in either place, that the decoder has moved
over exactly the bytes read and that the client got of each frame what it would
get of it alone. `bridge_step_hears` carries it through the main loop for as long
as the client and the DATA connection stay the same, which the numbers of ended
connections show (`ended`).
-/
import LorahamKissTnc.RxFaults
import LorahamKissTnc.Connections

set_option autoImplicit false

open LorahamKissTnc.Lib.CString LorahamKissTnc.Lib.Channel LorahamKissTnc.Lib.Machine
open LorahamKissTnc.Config LorahamKissTnc.Kiss LorahamKissTnc.LorahamSock LorahamKissTnc.BridgeConf
open LorahamKissTnc.BridgeTxQueue LorahamKissTnc.BridgeRx LorahamKissTnc.BridgeKiss
open LorahamKissTnc.BridgeLoraham LorahamKissTnc.Bridge LorahamKissTnc.FramedStream
open LorahamKissTnc.RxPacket LorahamKissTnc.RxFaults LorahamKissTnc.Connections

namespace LorahamKissTnc.RxDelivery

/-! ## Stretches of the stream -/

/-- What a stretch of the stream gives to the client. -/
def delivered (state : loraham_framed_rx_state_t) (bytes : Bytes) : List Bytes :=
  (stream_frames state bytes).flatMap alone

/-- The stretch has no framing error, and each packet in it can be delivered. -/
structure Sound (state : loraham_framed_rx_state_t) (bytes : Bytes) : Prop where
  framed : WellFramed state bytes
  deliverable : ∀ frame ∈ stream_frames state bytes, FrameDeliverable frame

/-- The bytes of two reads are delivered as those of one. -/
theorem delivered_append (state : loraham_framed_rx_state_t) (a b : Bytes) :
    delivered state (a ++ b)
      = delivered state a ++ delivered (loraham_framed_decode state a).1 b := by
  unfold delivered
  rw [stream_frames_append, List.flatMap_append]

/-- A stream is sound if both of its parts are, each from where the decoder is. -/
theorem sound_append {state : loraham_framed_rx_state_t} {a b : Bytes} :
    Sound state (a ++ b) ↔ Sound state a ∧ Sound (loraham_framed_decode state a).1 b := by
  constructor
  · rintro ⟨hframed, hall⟩
    obtain ⟨ha, hb⟩ := wellFramed_append.mp hframed
    rw [stream_frames_append, List.forall_mem_append] at hall
    exact ⟨⟨ha, hall.1⟩, ⟨hb, hall.2⟩⟩
  · rintro ⟨⟨ha, hda⟩, ⟨hb, hdb⟩⟩
    refine ⟨wellFramed_append.mpr ⟨ha, hb⟩, ?_⟩
    rw [stream_frames_append, List.forall_mem_append]
    exact ⟨hda, hdb⟩

/-- One byte in front of a stretch. -/
theorem delivered_cons {state state' : loraham_framed_rx_state_t} {b : UInt8}
    {answer : Option loraham_frame_t}
    (h : loraham_framed_decode_byte state b = (state', .ok answer)) (bytes : Bytes) :
    delivered state (b :: bytes) = answer.toList.flatMap alone ++ delivered state' bytes := by
  unfold delivered stream_frames
  rw [loraham_framed_decode_cons, h]
  cases answer with
  | none => rfl
  | some frame =>
      show (frame :: frames_of (loraham_framed_decode state' bytes).2).flatMap alone = _
      rw [List.flatMap_cons, Option.toList_some, List.flatMap_singleton]

/-- In a sound stream the first byte is no error, and ends no packet but a deliverable
one. -/
theorem sound_cons {state state' : loraham_framed_rx_state_t} {b : UInt8}
    {answer : Except Lhkt (Option loraham_frame_t)}
    (h : loraham_framed_decode_byte state b = (state', answer)) {bytes : Bytes}
    (hs : Sound state (b :: bytes)) :
    (∃ frame, answer = .ok frame ∧ ∀ f ∈ frame, FrameDeliverable f) ∧ Sound state' bytes := by
  obtain ⟨hframed, hall⟩ := hs
  unfold WellFramed at hframed
  unfold stream_frames at hall
  rw [loraham_framed_decode_cons, h] at hframed hall
  have hrest : WellFramed state' bytes := fun ret hret => hframed ret (List.mem_cons_of_mem _ hret)
  rcases answer with ret | _ | frame
  · exact absurd List.mem_cons_self (hframed ret)
  · exact ⟨⟨none, rfl, fun _ hf => nomatch hf⟩, hrest, hall⟩
  · have hall : ∀ f ∈ frame :: frames_of (loraham_framed_decode state' bytes).2,
        FrameDeliverable f := hall
    rw [List.forall_mem_cons] at hall
    refine ⟨⟨some frame, rfl, ?_⟩, hrest, hall.2⟩
    intro f hf
    obtain rfl := Option.some.inj hf
    exact hall.1

/-- A decoder never waits for more than the largest payload. -/
def Bounded (state : loraham_framed_rx_state_t) : Prop :=
  state.payload_len ≤ LHKT_FRAMED_MAX_PAYLOAD

/-- The decoder keeps within its buffer. -/
theorem Bounded.decode (bytes : Bytes) : ∀ {state : loraham_framed_rx_state_t},
    Bounded state → Bounded (loraham_framed_decode state bytes).1 := by
  induction bytes with
  | nil => exact fun h => h
  | cons b bytes ih =>
      intro state h
      rw [loraham_framed_decode_cons]
      exact ih (loraham_framed_decode_byte_len h b).1

/-! ## Reading -/

/-- From `d` and `c` these bytes were read and decoded; when all is well with the client,
it got what the frames in them give. -/
structure Reads (well : Prop) (bytes : Bytes) (d : data_t) (c : bridge_rx_t) (d' : data_t)
    (c' : bridge_rx_t) : Prop where
  fd : d'.fd = d.fd
  closed : d'.closed = d.closed
  rx : d'.link.rx = d.link.rx ++ bytes
  framed : d'.framed = (loraham_framed_decode d.framed bytes).1
  frames : well → Bounded d.framed → Sound d.framed bytes →
    client_frames c' = client_frames c ++ delivered d.framed bytes

/-- Nothing was read. -/
theorem Reads.of_eq (well : Prop) {d d' : data_t} {c c' : bridge_rx_t} (hfd : d'.fd = d.fd)
    (hclosed : d'.closed = d.closed) (hrx : d'.link.rx = d.link.rx) (hframed : d'.framed = d.framed)
    (htx : c'.client_tx = c.client_tx) : Reads well [] d c d' c' := by
  refine ⟨hfd, hclosed, by rw [hrx, List.append_nil], hframed, fun _ _ _ => ?_⟩
  show client_frames c' = client_frames c ++ []
  unfold client_frames
  rw [htx, List.append_nil]

/-- One stretch and the next, for a client with which all stays well at least while
packets are sound. -/
theorem Reads.trans {well well' : Prop} {a b : Bytes} {d d' d'' : data_t} {c c' c'' : bridge_rx_t}
    (h : Reads well a d c d' c') (h' : Reads well' b d' c' d'' c'')
    (hstays : well → Bounded d.framed → Sound d.framed a → well') :
    Reads well (a ++ b) d c d'' c'' := by
  refine ⟨h'.fd.trans h.fd, h'.closed.trans h.closed, ?_, ?_, ?_⟩
  · rw [h'.rx, h.rx, List.append_assoc]
  · rw [h'.framed, h.framed, loraham_framed_decode_append]
  · intro hwell hlen hsound
    obtain ⟨ha, hb⟩ := sound_append.mp hsound
    rw [← h.framed] at hb
    have hlen' : Bounded d'.framed := by
      rw [h.framed]
      exact hlen.decode a
    rw [h'.frames (hstays hwell hlen ha) hlen' hb, h.frames hwell hlen ha, delivered_append,
      h.framed, List.append_assoc]

theorem Reads.mono {well well' : Prop} {bytes : Bytes} {d d' : data_t} {c c' : bridge_rx_t}
    (h : Reads well bytes d c d' c') (hwell : well' → well) : Reads well' bytes d c d' c' :=
  { h with frames := fun hgood => h.frames (hwell hgood) }

/-! ## The wait for a TX_RESULT -/

section Wait

variable {w : Nat → List write_ret}

/-- What decoding a byte and handling what it completes does. -/
theorem wait_frame_hears (hw : WritesSucceed w) (frame : loraham_frame_t) (l : wait_t)
    (hclient : l.client_fd = true) (hlen : frame.payload.length ≤ LHKT_FRAMED_MAX_PAYLOAD)
    (hdel : FrameDeliverable frame) :
    (wait_frame w frame l).client_fd = true ∧ (wait_frame w frame l).data = l.data ∧
    client_frames (wait_frame w frame l).rx = client_frames l.rx ++ alone frame := by
  rcases handle_framed_frame_cases hw frame l.rx hlen with ⟨_, hret, hframes⟩ | ⟨hno, _⟩
  · unfold wait_frame
    dsimp only
    rw [hclient, if_neg (by rw [hret]; exact nofun), alone_eq hdel hlen]
    exact ⟨rfl, rfl, hframes⟩
  · exact absurd hdel hno

/-- Only an RX_PACKET gives the client anything. -/
theorem alone_other {frame : loraham_frame_t} (h : ¬frame.type = LORAHAM_FRAME_RX_PACKET) :
    alone frame = [] := by
  unfold alone bridge_rx_handle_framed_frame
  rw [if_neg h]
  split <;> rfl

/-- A TX_RESULT is nothing for the client. -/
theorem alone_tx_result {frame : loraham_frame_t} (h : frame.type = LORAHAM_FRAME_TX_RESULT) :
    alone frame = [] :=
  alone_other (by rw [h]; decide)

/-- A stretch of the buffer has been handled for a client. -/
structure Scans (buf : Bytes) (l l' : wait_t) : Prop where
  client : l'.client_fd = true
  data : l'.data = { l.data with framed := (loraham_framed_decode l.data.framed buf).1 }
  frames : client_frames l'.rx = client_frames l.rx ++ delivered l.data.framed buf

theorem Scans.nil {l : wait_t} (h : l.client_fd = true) : Scans [] l l :=
  ⟨h, rfl, (List.append_nil _).symm⟩

/-- One byte, and what it completed, before the rest. -/
theorem Scans.cons {l l₁ l' : wait_t} {b : UInt8} {buf : Bytes} {state : loraham_framed_rx_state_t}
    {answer : Option loraham_frame_t} (h : Scans buf l₁ l')
    (hbyte : loraham_framed_decode_byte l.data.framed b = (state, .ok answer))
    (hdata : l₁.data = { l.data with framed := state })
    (hframes : client_frames l₁.rx = client_frames l.rx ++ answer.toList.flatMap alone) :
    Scans (b :: buf) l l' := by
  refine ⟨h.client, ?_, ?_⟩
  · rw [h.data, hdata, loraham_framed_decode_cons, hbyte]
  · rw [h.frames, hframes, hdata, delivered_cons hbyte, List.append_assoc]

/-- The rest of the buffer behind the TX_RESULT. -/
theorem wait_rest_hears (hw : WritesSucceed w) (buf : Bytes) : ∀ l : wait_t,
    l.client_fd = true → Bounded l.data.framed → Sound l.data.framed buf →
      Scans buf l (wait_rest w buf l).1 := by
  induction buf with
  | nil => exact fun l hclient _ _ => Scans.nil hclient
  | cons b buf ih =>
      intro l hclient hlen hsound
      rw [wait_rest.eq_2]
      generalize hbyte : loraham_framed_decode_byte l.data.framed b = r
      obtain ⟨state, answer⟩ := r
      obtain ⟨⟨frame, rfl, hdel⟩, hrest⟩ := sound_cons hbyte hsound
      obtain ⟨hlen', hframe_len⟩ := loraham_framed_decode_byte_len hlen b
      rw [hbyte] at hlen' hframe_len
      cases frame with
      | none =>
          have hnext := ih (l.decoded state) hclient hlen' hrest
          exact hnext.cons hbyte rfl (List.append_nil _).symm
      | some frame =>
          dsimp only
          split
          · rename_i htype
            have hnext := ih { l.decoded state with rx := l.rx.count .loraham_drop } hclient hlen'
              hrest
            refine hnext.cons hbyte rfl ?_
            rw [Option.toList_some, List.flatMap_singleton, alone_tx_result htype, List.append_nil]
            rfl
          · obtain ⟨hclient', hdata, hframes⟩ := wait_frame_hears hw frame (l.decoded state) hclient
              (hframe_len frame rfl) (hdel frame rfl)
            have hnext := ih (wait_frame w frame (l.decoded state)) hclient'
              (by rw [hdata]; exact hlen') (by rw [hdata]; exact hrest)
            refine hnext.cons hbyte hdata ?_
            rw [Option.toList_some, List.flatMap_singleton]
            exact hframes

/-- A buffer of the wait: it fails, or all of it is handled. -/
theorem wait_scan_hears (hw : WritesSucceed w) (buf : Bytes) : ∀ l : wait_t,
    l.client_fd = true → Bounded l.data.framed → Sound l.data.framed buf →
      (∃ ret, (wait_scan w buf l).2 = some (.error ret)) ∨ Scans buf l (wait_scan w buf l).1 := by
  induction buf with
  | nil => exact fun l hclient _ _ => .inr (Scans.nil hclient)
  | cons b buf ih =>
      intro l hclient hlen hsound
      rw [wait_scan.eq_2]
      generalize hbyte : loraham_framed_decode_byte l.data.framed b = r
      obtain ⟨state, answer⟩ := r
      obtain ⟨⟨frame, rfl, hdel⟩, hrest⟩ := sound_cons hbyte hsound
      obtain ⟨hlen', hframe_len⟩ := loraham_framed_decode_byte_len hlen b
      rw [hbyte] at hlen' hframe_len
      cases frame with
      | none =>
          exact (ih (l.decoded state) hclient hlen' hrest).imp_right fun hnext =>
            hnext.cons hbyte rfl (List.append_nil _).symm
      | some frame =>
          dsimp only
          split
          · rename_i htype
            split
            · exact .inl ⟨_, rfl⟩
            · have hnext := wait_rest_hears hw buf (l.decoded state) hclient hlen' hrest
              refine .inr (hnext.cons hbyte rfl ?_)
              rw [Option.toList_some, List.flatMap_singleton, alone_tx_result htype,
                List.append_nil]
              rfl
          · obtain ⟨hclient', hdata, hframes⟩ := wait_frame_hears hw frame (l.decoded state) hclient
              (hframe_len frame rfl) (hdel frame rfl)
            refine (ih (wait_frame w frame (l.decoded state)) hclient' (by rw [hdata]; exact hlen')
              (by rw [hdata]; exact hrest)).imp_right fun hnext => hnext.cons hbyte hdata ?_
            rw [Option.toList_some, List.flatMap_singleton]
            exact hframes

/-- A buffer that was read and did not fail the wait. -/
theorem wait_buffer_reads (buf : Bytes) (l : wait_t) (stop : Bool)
    (hok : ∀ ret, (wait_scan w buf (l.received stop buf)).2 ≠ some (.error ret)) :
    Reads (l.client_fd = true ∧ WritesSucceed w) buf l.data l.rx
      (wait_scan w buf (l.received stop buf)).1.data
      (wait_scan w buf (l.received stop buf)).1.rx := by
  obtain ⟨framed, hdata, hframed⟩ := wait_scan_decoded w buf (l.received stop buf)
  refine ⟨by rw [hdata]; rfl, by rw [hdata]; rfl, by rw [hdata]; rfl, ?_, ?_⟩
  · rw [hdata]
    exact hframed hok
  · rintro ⟨hclient, hw⟩ hlen hsound
    rcases wait_scan_hears hw buf (l.received stop buf) hclient hlen hsound with
      ⟨ret, hret⟩ | hscan
    · exact absurd hret (hok ret)
    · exact hscan.frames

/-- The client stays with the wait for as long as it reads sound packets. -/
theorem wait_scan_client (buf : Bytes) (l : wait_t) (stop : Bool)
    (hok : ∀ ret, (wait_scan w buf (l.received stop buf)).2 ≠ some (.error ret)) :
    l.client_fd = true ∧ WritesSucceed w → Bounded l.data.framed → Sound l.data.framed buf →
      (wait_scan w buf (l.received stop buf)).1.client_fd = true ∧ WritesSucceed w := by
  rintro ⟨hclient, hw⟩ hlen hsound
  rcases wait_scan_hears hw buf (l.received stop buf) hclient hlen hsound with ⟨ret, hret⟩ | hscan
  · exact absurd hret (hok ret)
  · exact ⟨hscan.client, hw⟩

/-- **A wait that succeeds** has read, and the client got what was read. -/
theorem wait_rounds_reads (w : Nat → List write_ret) (deadline : Int) (rounds : List data_round) :
    ∀ l : wait_t, ∀ result, (wait_rounds w deadline rounds l).2 = .ok result →
      ∃ bytes, Reads (l.client_fd = true ∧ WritesSucceed w) bytes l.data l.rx
        (wait_rounds w deadline rounds l).1.data (wait_rounds w deadline rounds l).1.rx := by
  apply wait_rounds_elim (P := fun l r => ∀ result, r.2 = .ok result →
    ∃ bytes, Reads (l.client_fd = true ∧ WritesSucceed w) bytes l.data l.rx r.1.data r.1.rx)
  · exact fun l stop result h => nomatch h
  · exact fun l stop r hrest => hrest
  · intro l stop buf l' r hscan hrest result hresult
    obtain ⟨bytes, hreads⟩ := hrest result hresult
    have hok : ∀ ret, (wait_scan w buf (l.received stop buf)).2 ≠ some (.error ret) := by
      rw [hscan]
      exact fun ret h => nomatch h
    have hbuffer := wait_buffer_reads buf l stop hok
    have hclient := wait_scan_client buf l stop hok
    rw [hscan] at hbuffer hclient
    exact ⟨buf ++ bytes, hbuffer.trans hreads hclient⟩
  · intro l stop buf l' ret hscan result hresult
    have hok : ∀ ret, (wait_scan w buf (l.received stop buf)).2 ≠ some (.error ret) := by
      have hresult : ret = .ok result := hresult
      rw [hscan, hresult]
      exact fun ret h => nomatch h
    have hbuffer := wait_buffer_reads buf l stop hok
    rw [hscan] at hbuffer
    exact ⟨buf, hbuffer⟩

end Wait

/-! ## A drain -/

/-- What a part of a drain did to DATA and to the client: the connection is to be
given up, or it was read. -/
def Heard (well : Prop) (s s' : io_t) (ret : Lhkt) : Prop :=
  s'.data.fd = s.data.fd ∧ s'.data.closed = s.data.closed ∧
    (bridge_loraham_should_reconnect_data_socket ret = false →
      ∃ bytes, Reads well bytes s.data s.rx s'.data s'.rx)

/-- DATA was not read, and nothing was written to the client. -/
structure Aside (s s' : io_t) : Prop where
  fd : s'.data.fd = s.data.fd
  closed : s'.data.closed = s.data.closed
  rx : s'.data.link.rx = s.data.link.rx
  framed : s'.data.framed = s.data.framed
  client_tx : s'.rx.client_tx = s.rx.client_tx

theorem Aside.trans {s s' s'' : io_t} (h : Aside s s') (h' : Aside s' s'') : Aside s s'' :=
  ⟨h'.fd.trans h.fd, h'.closed.trans h.closed, h'.rx.trans h.rx, h'.framed.trans h.framed,
    h'.client_tx.trans h.client_tx⟩

theorem Aside.of_data {s s' : io_t} (hdata : s'.data = s.data)
    (htx : s'.rx.client_tx = s.rx.client_tx) : Aside s s' :=
  ⟨by rw [hdata], by rw [hdata], by rw [hdata], by rw [hdata], htx⟩

/-- Preparing and writing a packet. -/
theorem aside_written {e : send_env} {cfg : lhkt_config_t} {packet : Bytes} {s s₁ s₂ : io_t}
    {ret : Lhkt} (hprep : tx_prepare e cfg s = (s₁, .OK))
    (hwrite : bridge_loraham_write e packet s₁ = (s₂, ret)) : Aside s s₂ := by
  obtain ⟨-, hcmd⟩ := tx_written_frame hprep hwrite
  have hwritten : Aside s { s with data := { s.data with link := { s.data.link with
      tx := (loraham_send_framed_tx_packet e.write packet s.data.link.tx).1 } } } :=
    ⟨rfl, rfl, rfl, rfl, rfl⟩
  exact hwritten.trans (Aside.of_data hcmd.data_eq hcmd.client_tx_eq)

/-- There is nothing to hear in such a step. -/
theorem Aside.heard {s s' : io_t} (h : Aside s s') (well : Prop) (ret : Lhkt) :
    Heard well s s' ret :=
  ⟨h.fd, h.closed, fun _ => ⟨[], Reads.of_eq well h.fd h.closed h.rx h.framed h.client_tx⟩⟩

/-- First nothing was read, then something. -/
theorem Aside.then {s s' s'' : io_t} {well : Prop} {ret : Lhkt} (h : Aside s s')
    (h' : Heard well s' s'' ret) : Heard well s s'' ret := by
  obtain ⟨hfd, hclosed, hreads⟩ := h'
  refine ⟨hfd.trans h.fd, hclosed.trans h.closed, fun hret => ?_⟩
  obtain ⟨bytes, hbytes⟩ := hreads hret
  have hall := (Reads.of_eq well h.fd h.closed h.rx h.framed h.client_tx).trans hbytes
    fun hwell _ _ => hwell
  exact ⟨bytes, hall⟩

/-- **A wait for the TX_RESULT** delivers what it reads for the client. -/
theorem heard_tx_confirm_result (cfg : lhkt_config_t) (e : send_env) (client_fd : Bool)
    (packet : Bytes) (s : io_t) :
    Heard (client_fd = true ∧ WritesSucceed e.result.client) s
      (tx_confirm_result e cfg client_fd packet s).1 (tx_confirm_result e cfg client_fd packet s).2 := by
  obtain ⟨framed, rx, hdata⟩ := tx_confirm_result_data e cfg client_fd packet s
  refine ⟨by rw [hdata], by rw [hdata], ?_⟩
  unfold tx_confirm_result
  generalize hwait : bridge_loraham_wait_tx_result e.result cfg client_fd s = r
  obtain ⟨s', client_error, ret⟩ := r
  match ret with
  | .error _ =>
      intro hret
      -- without a result the connection is given up, so there is nothing to show
      have hret : bridge_loraham_should_reconnect_data_socket .ERR_TX_RESULT = false := hret
      exact absurd hret (by decide)
  | .ok result =>
      intro _
      show ∃ bytes, Reads (client_fd = true ∧ WritesSucceed e.result.client) bytes s.data s.rx
        (tx_result_received e cfg packet client_error result s').1.data
        (tx_result_received e cfg packet client_error result s').1.rx
      have hreports := reportsOnly_tx_result_received e cfg packet client_error result s'
      rcases bridge_loraham_wait_tx_result_cases hwait with ⟨_, _, hbad⟩ | ⟨l, hl, _, hs'⟩
      · exact nomatch hbad
      · obtain ⟨bytes, hreads⟩ := wait_rounds_reads e.result.client
          (e.result.start + cfg.tx_busy_timeout_ms) e.result.rounds
          ⟨s.stop, s.rx, s.data, client_fd, .OK⟩ result (by rw [hl])
        rw [hl] at hreads
        have hdata : s'.data = l.data := by rw [hs']
        have hrx : s'.rx.client_tx = l.rx.client_tx := by rw [hs']
        -- behind the wait nothing is read or delivered
        have htail : Reads (client_fd = true ∧ WritesSucceed e.result.client) [] l.data l.rx
            (tx_result_received e cfg packet client_error result s').1.data
            (tx_result_received e cfg packet client_error result s').1.rx := by
          rw [hreports.data_eq, hdata]
          exact Reads.of_eq _ rfl rfl rfl rfl (hreports.client_tx_eq.trans hrx)
        have hall := hreads.trans htail fun h _ _ => h
        rw [List.append_nil] at hall
        exact ⟨bytes, hall⟩

/-- **A drain.** -/
theorem drain_heard (cfg : lhkt_config_t) (e : drain_env) (client_fd : Bool) (s : io_t)
    (q : txq_t) : Heard (client_fd = true ∧ WritesSucceed e.send.result.client) s
      (bridge_loraham_tx_queue_drain_with_client e cfg client_fd s q).1
      (bridge_loraham_tx_queue_drain_with_client e cfg client_fd s q).2.2 := by
  generalize hwell : (client_fd = true ∧ WritesSucceed e.send.result.client) = well
  refine drain_elim (I := fun s' _ => Aside s s') (P := fun r => Heard well s r.1 r.2.2)
    e cfg client_fd s q ⟨rfl, rfl, rfl, rfl, rfl⟩ ?_ (fun _ _ _ _ h _ _ _ => h)
    ?_ (fun _ _ ret h _ => h.heard well ret) ?_
  · exact fun s' _ _ h _ => h.trans (Aside.of_data rfl rfl)
  · exact fun s' _ _ h _ => h.trans (Aside.of_data rfl rfl)
  · intro s' q' item now s'' ret written h _ _ _ hsend
    show Heard well s s'' ret
    have key := send_packet_elim (P := fun r => Heard well s' r.1 r.2.1)
      e.send cfg client_fd item.packet s' ?_ ?_ ?_ ?_ ?_
    · rw [hsend] at key
      exact h.then key
    · rintro s₁ ret (rfl | rfl) _
      · exact Aside.heard ⟨rfl, rfl, rfl, rfl, rfl⟩ well ret
      · have hcount : Aside s' (s'.count .loraham_drop) := ⟨rfl, rfl, rfl, rfl, rfl⟩
        exact hcount.heard well ret
    · intro s₁ ret hprep _
      -- the shift failed, and nothing was written to DATA
      have hcmd := commandsOnly_tx_prepare e.send cfg s'
      rw [hprep] at hcmd
      exact (Aside.of_data hcmd.data_eq hcmd.client_tx_eq).heard well ret
    · intro s₁ s₂ ret hprep hwrite _
      have hcmd := commandsOnly_tx_write_failed e.send cfg s₂
      exact ((aside_written hprep hwrite).trans (Aside.of_data hcmd.data_eq
        hcmd.client_tx_eq)).heard well _
    · intro s₁ s₂ hprep hwrite _
      -- the wait for the TX_RESULT is the one part that reads DATA
      rw [← hwell]
      exact (aside_written hprep hwrite).then
        (heard_tx_confirm_result cfg e.send client_fd item.packet s₂)
    · intro s₁ s₂ hprep hwrite _
      obtain ⟨state, events, hreports⟩ := reportsOnly_tx_confirm_events e.send cfg item.packet s₂
      exact ((aside_written hprep hwrite).trans (Aside.of_data hreports.data_eq
        hreports.client_tx_eq)).heard well _

/-! ## The main loop -/

/-- The connections to clients and on DATA that have ended. -/
def ended (s : bridge_t) : Nat := s.clients.length + s.data.closed.length

/-- From `s` on, client and DATA connection are the same, and the client got what was
read; or one of them has ended. -/
inductive Hears (s s' : bridge_t) : Prop
  | ends (more : ended s < ended s')
  | stays (same : ended s' = ended s) (client : s'.client_fd = true) (fd : s'.data.fd = true)
      (bytes : Bytes) (reads : Reads True bytes s.data s.rx s'.data s'.rx)

/-- The client's visit has ended. -/
theorem ended_close_client (s : bridge_t) : ended (close_client s) = ended s + 1 := by
  show (s.clients ++ [s.rx.client_tx]).length + s.data.closed.length = _
  rw [List.length_append, List.length_singleton]
  unfold ended
  omega

/-- A connection that is given up has ended. -/
theorem ended_drop_data (s : bridge_t) :
    ended s ≤ ended (drop_data s) ∧ (s.data.fd = true → ended s < ended (drop_data s)) := by
  have hclients : (drop_data s).clients = s.clients := rfl
  unfold ended
  rw [hclients]
  rcases drop_data_cases s with ⟨hfd, _, hclosed⟩ | ⟨_, hclosed⟩
  · rw [hclosed, hfd]
    exact ⟨Nat.le_refl _, nofun⟩
  · rw [hclosed, List.length_append, List.length_singleton]
    exact ⟨by omega, fun _ => by omega⟩

/-- Leaving the loop ends a client's visit, if there is one. -/
theorem ended_exit (s : bridge_t) :
    ended s ≤ ended (bridge_exit s) ∧ (s.client_fd = true → ended s < ended (bridge_exit s)) := by
  have hdata : s.data.closed.length ≤ (bridge_exit s).data.closed.length := by
    rw [bridge_exit_data]
    rcases close_data_cases s.data with ⟨_, hclosed⟩ | ⟨_, _, hclosed⟩
    · rw [hclosed]
    · rw [hclosed, List.length_append]
      omega
  have hclients : (bridge_exit s).clients
      = if s.client_fd then s.clients ++ [s.rx.client_tx] else s.clients := by
    unfold bridge_exit
    dsimp only
    split
    · rename_i hfd
      exact (if_pos hfd).symm
    · rename_i hfd
      exact (if_neg hfd).symm
  unfold ended
  rw [hclients]
  split
  · rw [List.length_append, List.length_singleton]
    exact ⟨by omega, fun _ => by omega⟩
  · rename_i hfd
    exact ⟨by omega, fun h => absurd h hfd⟩

section Hears

variable {s₀ s s' : bridge_t}

/-- What ends a connection, if there is one. -/
theorem Hears.more (h : Hears s₀ s) (hle : ended s ≤ ended s')
    (hmore : s.client_fd = true → s.data.fd = true → ended s < ended s') : Hears s₀ s' := by
  cases h with
  | ends more => exact .ends (by omega)
  | stays same client fd bytes reads =>
      have hmore := hmore client fd
      exact .ends (by omega)

/-- What has nothing to do with the two connections. -/
theorem Hears.congr (h : Hears s₀ s) (hclients : s'.clients = s.clients)
    (hclient : s'.client_fd = s.client_fd) (hdata : s'.data = s.data)
    (htx : s'.rx.client_tx = s.rx.client_tx) : Hears s₀ s' := by
  have hended : ended s' = ended s := by
    unfold ended
    rw [hclients, hdata]
  cases h with
  | ends more => exact .ends (by omega)
  | stays same client fd bytes reads =>
      have hnone : Reads True [] s.data s.rx s'.data s'.rx :=
        Reads.of_eq True (by rw [hdata]) (by rw [hdata]) (by rw [hdata]) (by rw [hdata]) htx
      exact .stays (by omega) (hclient.trans client) (by rw [hdata]; exact fd) _
        (reads.trans hnone fun h _ _ => h)

/-- Closing the client ends what is compared. -/
theorem Hears.close_client (h : Hears s₀ s) : Hears s₀ (close_client s) := by
  have hended := ended_close_client s
  exact h.more (by omega) fun _ _ => by omega

theorem Hears.drop_data (h : Hears s₀ s) : Hears s₀ (drop_data s) :=
  h.more (ended_drop_data s).1 fun _ hfd => (ended_drop_data s).2 hfd

/-- CONF does not matter for what is heard. -/
theorem Hears.drop_conf (h : Hears s₀ s) : Hears s₀ (drop_conf s) := by
  refine h.congr rfl rfl (drop_conf_data s) ?_
  unfold Bridge.drop_conf bridge_loraham_disconnect_conf_socket
  dsimp only
  split <;> rfl

theorem Hears.exit (h : Hears s₀ s) : Hears s₀ (bridge_exit s) :=
  h.more (ended_exit s).1 fun hclient _ => (ended_exit s).2 hclient

/-- More is read. -/
theorem Hears.reads (h : Hears s₀ s) (hclients : s'.clients = s.clients)
    (hclient : s'.client_fd = s.client_fd) (hclosed : s'.data.closed = s.data.closed)
    (hreads : s.client_fd = true → ∃ bytes, Reads True bytes s.data s.rx s'.data s'.rx) :
    Hears s₀ s' := by
  have hended : ended s' = ended s := by
    unfold ended
    rw [hclients, hclosed]
  cases h with
  | ends more => exact .ends (by omega)
  | stays same client fd bytes reads =>
      obtain ⟨more, hmore⟩ := hreads client
      exact .stays (by omega) (hclient.trans client) (hmore.fd.trans fd) _
        (reads.trans hmore fun h _ _ => h)

/-- What the main loop does with the result of a drain. -/
theorem Hears.drain_result (h : Hears s₀ s) {well : Prop} {ret : Lhkt}
    (hclients : s'.clients = s.clients) (hclient : s'.client_fd = s.client_fd)
    (hheard : Heard well s.toio_t s'.toio_t ret) (hwell : s.client_fd = true → well) :
    Hears s₀ (handle_drain_result ret s') := by
  obtain ⟨hfd, hclosed, hreads⟩ := hheard
  have hended : ended s' = ended s := by
    unfold ended
    rw [hclients, hclosed]
  unfold handle_drain_result
  split
  · -- the DATA connection is given up
    obtain ⟨hle, hmore⟩ := ended_drop_data s'
    rw [hended] at hle hmore
    exact h.more hle fun _ hopen => hmore (hfd.trans hopen)
  · rename_i hkeep
    have hsame : Hears s₀ s' := by
      refine h.reads hclients hclient hclosed fun hopen => ?_
      obtain ⟨bytes, hbytes⟩ := hreads (by simpa using hkeep)
      exact ⟨bytes, hbytes.mono fun _ => hwell hopen⟩
    split
    · exact hsame.drop_conf
    · split
      · exact hsame.close_client
      · exact hsame

/-- An idle read: the connection is given up, or everything in it was handled. -/
theorem Hears.chunk {w : Nat → List write_ret} (hw : WritesSucceed w) (h : Hears s₀ s)
    (buf : Bytes) (hopen : s.data.fd = true) :
    Hears s₀ (handle_chunk_result (handle_data_bytes w buf s).2 (handle_data_bytes w buf s).1) := by
  have hfd : (handle_data_bytes w buf s).1.data.fd = true := hopen
  have hended : ended (handle_data_bytes w buf s).1 = ended s := rfl
  obtain ⟨pre, post, hbuf, hst, hsame, hall⟩ :=
    handle_framed_chunk_decoded w s.client_fd buf s.data.framed s.rx
  unfold handle_chunk_result
  split
  · rename_i hclient
    exact absurd (of_decide_eq_true hclient)
      (handle_framed_chunk_ne_client hw s.client_fd buf s.data.framed s.rx)
  · split
    · have hdrop := (ended_drop_data (handle_data_bytes w buf s).1).2 hfd
      exact h.more (by omega) fun _ _ => by omega
    · rename_i hret
      have hpost : post = [] := hall (not_ne_iff.mp hret)
      rw [hpost, List.append_nil] at hbuf
      rw [← hbuf] at hst
      refine h.reads rfl rfl rfl fun hclient => ⟨buf, rfl, rfl, rfl, hst, fun _ hlen hsound => ?_⟩
      show client_frames (bridge_rx_handle_framed_chunk w s.client_fd s.data.framed buf s.rx).1 = _
      rw [hclient]
      rcases handle_framed_chunk_cases hw buf s.data.framed s.rx hlen hsound.framed with
        ⟨_, _, _, hframes⟩ | ⟨⟨frame, hmem, hno⟩, _⟩
      · exact hframes
      · exact absurd (hsound.deliverable frame hmem) hno

end Hears

/-- The client takes what is written to it. -/
structure ClientTakes (e : bridge_env) : Prop where
  idle : WritesSucceed e.client_write
  waiting : WritesSucceed e.drain.send.result.client

/-- **One step of the main loop.** -/
theorem bridge_step_hears (cfg : lhkt_config_t) (s₀ s : bridge_t) (e : bridge_env)
    (he : ClientTakes e) (h : Hears s₀ s) : Hears s₀ (bridge_step cfg s e) := by
  refine bridge_step_elim (P := fun s => Hears s₀ s) cfg s e h ?_ (fun _ hs => hs.exit)
    (fun _ hs => hs.close_client) (fun _ hs => hs.drop_data) (fun _ hs => hs.drop_conf) ?_ ?_ ?_ ?_
    ?_ ?_ ?_ ?_
  · rintro s _ ⟨_, _, _, _, _, _, _, rfl⟩ hs
    exact hs.congr rfl rfl rfl rfl
  · exact fun _ _ => h.drain_result rfl rfl (drain_heard cfg e.drain s.client_fd s.toio_t s.txq)
      fun hclient => ⟨hclient, he.waiting⟩
  · exact fun s hs _ => hs.congr rfl rfl rfl rfl
  · intro _ _ _ hclosed _
    refine h.more (Nat.le_refl _) fun _ hopen => ?_
    rw [hclosed] at hopen
    exact nomatch hopen
  · intro _ _ _ _ _
    unfold pending_config
    dsimp only
    split <;> exact h.congr rfl rfl rfl rfl
  · intro s hs hgone
    refine hs.more (Nat.le_refl _) fun hopen _ => ?_
    rw [hgone] at hopen
    exact nomatch hopen
  · exact fun s _ _ _ hs => hs.congr rfl rfl rfl rfl
  · exact fun s hs _ => hs.congr rfl rfl rfl rfl
  · exact fun b buf _ hopen _ => h.chunk he.idle (b :: buf) hopen

/-! ## Runs -/

/-- The decoder of an open connection is bounded. -/
def OpenBounded (d : data_t) : Prop := d.fd = true → Bounded d.framed

/-- One step of the main loop keeps the decoder within its buffer. -/
theorem bridge_step_bounded (cfg : lhkt_config_t) (s : bridge_t) (e : bridge_env)
    (h : OpenBounded s.data) : OpenBounded (bridge_step cfg s e).data := by
  refine bridge_step_elim (P := fun s => OpenBounded s.data) cfg s e h ?_ ?_ (fun _ hs => hs) ?_ ?_
    ?_ (fun _ hs _ => hs) ?_ ?_ (fun _ hs _ => hs) (fun _ _ _ _ hs => hs) (fun _ hs _ => hs) ?_
  · rintro s _ ⟨_, _, _, _, _, _, _, rfl⟩ hs
    exact hs
  · intro s _ hopen
    rw [bridge_exit_data_fd] at hopen
    exact nomatch hopen
  · intro s _ hopen
    rw [drop_data_fd] at hopen
    exact nomatch hopen
  · intro s hs
    rw [drop_conf_data]
    exact hs
  · intro _ _
    obtain ⟨hfd, _, hreads⟩ := drain_heard cfg e.drain s.client_fd s.toio_t s.txq
    -- a drain that keeps the connection decoded what it read
    have hdrained : bridge_loraham_should_reconnect_data_socket (bridge_drain cfg e s).2 = false →
        OpenBounded (bridge_drain cfg e s).1.data := by
      intro hkeep hopen
      obtain ⟨bytes, hbytes⟩ := hreads hkeep
      have hframed : (bridge_drain cfg e s).1.data.framed = _ := hbytes.framed
      rw [hframed]
      exact (h (hfd.symm.trans hopen)).decode bytes
    unfold handle_drain_result
    split
    · intro hopen
      rw [drop_data_fd] at hopen
      exact nomatch hopen
    · rename_i hkeep
      have hdrained := hdrained (by simpa using hkeep)
      split
      · rw [drop_conf_data]
        exact hdrained
      · split <;> exact hdrained
  · exact fun _ _ _ _ _ _ => Nat.zero_le _
  · intro _ _ _ _ _
    unfold pending_config
    dsimp only
    split <;> exact h
  · intro b buf _ _ _
    -- of an idle read, the decoder saw a part that may be all of it
    obtain ⟨pre, _, _, hst, _, _⟩ := handle_framed_chunk_decoded e.client_write s.client_fd
      (b :: buf) s.data.framed s.rx
    have hread : OpenBounded (handle_data_bytes e.client_write (b :: buf) s).1.data := by
      intro hopen
      show Bounded (bridge_rx_handle_framed_chunk e.client_write s.client_fd s.data.framed
        (b :: buf) s.rx).2.1
      rw [hst]
      exact (h hopen).decode pre
    unfold handle_chunk_result
    split
    · exact hread
    · split
      · intro hopen
        rw [drop_data_fd] at hopen
        exact nomatch hopen
      · exact hread

/-- A run for as long as the client and the connection stay. -/
theorem run_hears (cfg : lhkt_config_t) (start : start_env) (es fs : List bridge_env)
    (htakes : ∀ e ∈ fs, ClientTakes e) (hclient : (bridge_run cfg start es).client_fd = true)
    (hopen : (bridge_run cfg start es).data.fd = true)
    (hsame : ended (bridge_run cfg start (es ++ fs)) = ended (bridge_run cfg start es)) :
    Bounded (bridge_run cfg start es).data.framed ∧
    ∃ bytes, Reads True bytes (bridge_run cfg start es).data (bridge_run cfg start es).rx
      (bridge_run cfg start (es ++ fs)).data (bridge_run cfg start (es ++ fs)).rx := by
  have hbounded : OpenBounded (bridge_run cfg start es).data := by
    refine run_invariant (P := fun s => OpenBounded s.data)
      (fun s e hs => bridge_step_bounded cfg s e hs) es _ ?_
    unfold bridge_start
    dsimp only
    split
    · intro h
      rw [bridge_exit_data_fd] at h
      exact nomatch h
    · exact fun _ => Nat.zero_le _
  have hrun : Hears (bridge_run cfg start es) (bridge_run cfg start (es ++ fs)) := by
    unfold bridge_run
    rw [run_append]
    refine run_induction (fun s e hs he => bridge_step_hears cfg _ s e he hs) fs _ ?_
      (guarded_of_forall fs htakes _)
    exact .stays rfl hclient hopen [] (Reads.of_eq True rfl rfl rfl rfl rfl)
  refine ⟨hbounded hopen, ?_⟩
  cases hrun with
  | ends more => omega
  | stays same client fd bytes reads => exact ⟨bytes, reads⟩

/-- **What is read is delivered.** In every run, from any state with a client and a DATA
connection, for as long as both stay the same and the client takes what is written to
it: whatever bytes are read, in whatever portions, by the idle loop or by the wait for
a TX_RESULT in a drain, the decoder is where they lead; and if there is no framing
error and no packet that cannot be delivered among them, the client got of each frame
what it would get of it alone, once and in order. -/
theorem rx_delivered (cfg : lhkt_config_t) (start : start_env) (es fs : List bridge_env)
    (htakes : ∀ e ∈ fs, ClientTakes e) (hclient : (bridge_run cfg start es).client_fd = true)
    (hopen : (bridge_run cfg start es).data.fd = true)
    (hclients : (bridge_run cfg start (es ++ fs)).clients = (bridge_run cfg start es).clients)
    (hclosed : (bridge_run cfg start (es ++ fs)).data.closed
      = (bridge_run cfg start es).data.closed) :
    let s := bridge_run cfg start es
    let s' := bridge_run cfg start (es ++ fs)
    ∃ bytes, s'.data.link.rx = s.data.link.rx ++ bytes ∧
      s'.data.framed = (loraham_framed_decode s.data.framed bytes).1 ∧
      (Sound s.data.framed bytes → client_frames s'.rx
        = client_frames s.rx ++ (stream_frames s.data.framed bytes).flatMap alone) := by
  intro s s'
  have hsame : ended s' = ended s := by
    unfold ended
    rw [hclients, hclosed]
  obtain ⟨hbounded, bytes, reads⟩ := run_hears cfg start es fs htakes hclient hopen hsame
  exact ⟨bytes, reads.rx, reads.framed, fun hsound => reads.frames trivial hbounded hsound⟩

/-- A packet that arrives half in an idle read and half in the wait for the TX_RESULT of
a packet of the client, and one behind that TX_RESULT. -/
theorem rx_delivered_around_result :
    let packet := framed_rx_packet (loraham_hdr ++ ascii "A>B:x")
    let result : Bytes := [LORAHAM_FRAME_TX_RESULT, 4, 0, 0, 0, 1, 0]
    let answer : bridge_env := { drain := { send := { result :=
      { rounds := [{ wait := .read (packet.drop 5 ++ result ++ packet) }] } } } }
    let es := iteration client_connects
    let fs := iteration { packet_arrives (ascii "x") status_ready with
        select := .ready { client := true, conf := true, data := true }
        data := .read (packet.take 5) } ++ [answer]
    let s := bridge_run lhkt_config_defaults {} es
    let s' := bridge_run lhkt_config_defaults {} (es ++ fs)
    (client_frames s'.rx).length = 2 ∧ s'.txq.queue.packets = [] ∧
    ∃ bytes, s'.data.link.rx = s.data.link.rx ++ bytes ∧
      s'.data.framed = (loraham_framed_decode s.data.framed bytes).1 ∧
      (Sound s.data.framed bytes → client_frames s'.rx
        = client_frames s.rx ++ (stream_frames s.data.framed bytes).flatMap alone) := by
  intro packet result answer es fs s s'
  refine ⟨by decide +kernel, by decide +kernel, rx_delivered lhkt_config_defaults {} es fs ?_
    (by decide +kernel) (by decide +kernel) (by decide +kernel) (by decide +kernel)⟩
  intro e he
  simp only [fs, iteration, List.mem_append, List.mem_replicate, List.mem_singleton] at he
  rcases he with ⟨_, rfl⟩ | rfl <;> exact ⟨writesSucceed_default, writesSucceed_default⟩

end LorahamKissTnc.RxDelivery
