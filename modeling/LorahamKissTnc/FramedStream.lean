/-
Who decodes the daemon's stream: the framed decoder against everything that was
read on the DATA connection.

Two loops consume the stream, the idle path and the wait for a TX_RESULT, and
both can leave a read buffer in the middle. The wait only does so when the
connection is given up afterwards. The idle path also leaves when the write to
the KISS client fails, and then the connection stays: bytes behind the frame
that could not be delivered are never decoded. `NoTailBehindFailure` names the
reads where that does not happen, by the frames in them and the client's writes;
under it the decoder is in sync with the stream in every state of every run.
-/
import LorahamKissTnc.Bridge
import LorahamKissTnc.ClientWrites
import Mathlib.Data.List.Infix

set_option autoImplicit false

open LorahamKissTnc.Lib.CString LorahamKissTnc.Lib.Channel LorahamKissTnc.Lib.Machine
open LorahamKissTnc.Config LorahamKissTnc.LorahamSock LorahamKissTnc.BridgeConf
open LorahamKissTnc.BridgeTxQueue LorahamKissTnc.BridgeRx LorahamKissTnc.BridgeKiss
open LorahamKissTnc.BridgeLoraham LorahamKissTnc.Bridge LorahamKissTnc.ClientWrites

namespace LorahamKissTnc.FramedStream

/-! ## The decoder and the stream -/

/-- The decoder state is what decoding everything read on the connection gives. -/
def InSync (d : data_t) : Prop :=
  d.framed = (loraham_framed_decode loraham_framed_rx_state_init d.link.rx).1

/-- While the connection is open, its decoder is in sync. -/
def Sync (d : data_t) : Prop := d.fd = true → InSync d

/-- More bytes are read and decoded. -/
theorem InSync.append {d : data_t} (h : InSync d) (bytes : Bytes) :
    InSync { d with
      framed := (loraham_framed_decode d.framed bytes).1
      link := { d.link with rx := d.link.rx ++ bytes } } := by
  unfold InSync at h ⊢
  rw [loraham_framed_decode_append, ← h]

/-- Only what was read and the decoder matter. -/
theorem Sync.congr {d d' : data_t} (h : Sync d) (hfd : d'.fd = d.fd)
    (hframed : d'.framed = d.framed) (hrx : d'.link.rx = d.link.rx) : Sync d' := by
  intro hopen
  unfold InSync
  rw [hframed, hrx]
  exact h (hfd ▸ hopen)

/-! ## The idle path -/

/-- How far the chunk loop comes: it decodes a part of the buffer, which is all
of it unless it returns a failure, and it returns the same for that part
alone. -/
theorem handle_framed_chunk_decoded (w : Nat → List write_ret) (client_fd : Bool) (buf : Bytes) :
    ∀ (st : loraham_framed_rx_state_t) (c : bridge_rx_t), ∃ pre post, buf = pre ++ post ∧
      (bridge_rx_handle_framed_chunk w client_fd st buf c).2.1
        = (loraham_framed_decode st pre).1 ∧
      bridge_rx_handle_framed_chunk w client_fd st pre c
        = bridge_rx_handle_framed_chunk w client_fd st buf c ∧
      ((bridge_rx_handle_framed_chunk w client_fd st buf c).2.2 = .OK → post = []) := by
  induction buf with
  | nil => exact fun st c => ⟨[], [], rfl, rfl, rfl, fun _ => rfl⟩
  | cons b buf ih =>
      intro st c
      have hdecode : ∀ pre, (loraham_framed_decode st (b :: pre)).1
          = (loraham_framed_decode (loraham_framed_decode_byte st b).1 pre).1 := by
        intro pre
        rw [loraham_framed_decode_cons]
      rw [bridge_rx_handle_framed_chunk.eq_2]
      generalize hbyte : loraham_framed_decode_byte st b = r at hdecode ⊢
      obtain ⟨st', answer⟩ := r
      cases answer with
      | error ret =>
          refine ⟨[b], buf, rfl, (hdecode []).symm, ?_, ?_⟩
          · rw [bridge_rx_handle_framed_chunk.eq_2, hbyte]
          · intro hret
            rw [(loraham_framed_decode_byte_error hbyte).1] at hret
            exact Lhkt.noConfusion hret
      | ok found =>
          cases found with
          | none =>
              obtain ⟨pre, post, hbuf, hst, hsame, hall⟩ := ih st' c
              refine ⟨b :: pre, post, by rw [hbuf]; rfl, by rw [hdecode, hst], ?_, hall⟩
              rw [bridge_rx_handle_framed_chunk.eq_2, hbyte]
              exact hsame
          | some frame =>
              dsimp only
              split
              · -- the frame failed: the loop ends behind its last byte
                rename_i hret
                refine ⟨[b], buf, rfl, (hdecode []).symm, ?_, fun h => absurd h hret⟩
                rw [bridge_rx_handle_framed_chunk.eq_2, hbyte]
                dsimp only
                rw [if_pos hret]
              · rename_i hret
                obtain ⟨pre, post, hbuf, hst, hsame, hall⟩ :=
                  ih st' (bridge_rx_handle_framed_frame w client_fd frame c).1
                refine ⟨b :: pre, post, by rw [hbuf]; rfl, by rw [hdecode, hst], ?_, hall⟩
                rw [bridge_rx_handle_framed_chunk.eq_2, hbyte]
                dsimp only
                rw [if_neg hret, hsame]

/-! ## The wait for a TX_RESULT -/

theorem wait_frame_data (w : Nat → List write_ret) (frame : loraham_frame_t) (l : wait_t) :
    (wait_frame w frame l).data = l.data := by
  unfold wait_frame
  dsimp only
  split <;> rfl

/-- The rest of the buffer is decoded to its end, or the wait fails. -/
theorem wait_rest_decoded (w : Nat → List write_ret) (buf : Bytes) : ∀ l : wait_t,
    ∃ framed, (wait_rest w buf l).1.data = { l.data with framed := framed } ∧
      ((wait_rest w buf l).2 = .OK → framed = (loraham_framed_decode l.data.framed buf).1) := by
  induction buf with
  | nil => exact fun l => ⟨l.data.framed, rfl, fun _ => rfl⟩
  | cons b buf ih =>
      intro l
      rw [wait_rest.eq_2, loraham_framed_decode_cons]
      generalize loraham_framed_decode_byte l.data.framed b = r
      obtain ⟨st', answer⟩ := r
      cases answer with
      | error _ => exact ⟨st', rfl, fun h => Lhkt.noConfusion h⟩
      | ok found =>
          cases found with
          | none => exact ih (l.decoded st')
          | some frame =>
              dsimp only
              split
              · obtain ⟨framed, hdata, hok⟩ :=
                  ih { l.decoded st' with rx := l.rx.count .loraham_drop }
                exact ⟨framed, hdata, hok⟩
              · obtain ⟨framed, hdata, hok⟩ := ih (wait_frame w frame (l.decoded st'))
                rw [wait_frame_data] at hdata hok
                exact ⟨framed, hdata, hok⟩

/-- A buffer is decoded to its end, or the wait fails. -/
theorem wait_scan_decoded (w : Nat → List write_ret) (buf : Bytes) : ∀ l : wait_t,
    ∃ framed, (wait_scan w buf l).1.data = { l.data with framed := framed } ∧
      ((∀ ret, (wait_scan w buf l).2 ≠ some (.error ret)) →
        framed = (loraham_framed_decode l.data.framed buf).1) := by
  induction buf with
  | nil => exact fun l => ⟨l.data.framed, rfl, fun _ => rfl⟩
  | cons b buf ih =>
      intro l
      rw [wait_scan.eq_2, loraham_framed_decode_cons]
      generalize loraham_framed_decode_byte l.data.framed b = r
      obtain ⟨st', answer⟩ := r
      cases answer with
      | error _ => exact ⟨st', rfl, fun h => absurd rfl (h .ERR_TX_RESULT)⟩
      | ok found =>
          cases found with
          | none => exact ih (l.decoded st')
          | some frame =>
              dsimp only
              split
              · split
                · exact ⟨st', rfl, fun h => absurd rfl (h .ERR_TX_RESULT)⟩
                · obtain ⟨framed, hdata, hok⟩ := wait_rest_decoded w buf (l.decoded st')
                  refine ⟨framed, hdata, fun h => hok ?_⟩
                  by_contra hret
                  rw [if_neg hret] at h
                  exact h _ rfl
              · obtain ⟨framed, hdata, hok⟩ := ih (wait_frame w frame (l.decoded st'))
                rw [wait_frame_data] at hdata hok
                exact ⟨framed, hdata, hok⟩

/-- What a wait does to the DATA connection: it reads, and when it succeeds it
has decoded everything it read. -/
theorem wait_rounds_decoded (w : Nat → List write_ret) (deadline : Int)
    (rounds : List data_round) : ∀ l : wait_t, ∃ framed bytes,
      (wait_rounds w deadline rounds l).1.data
        = { l.data with
            framed := framed
            link := { l.data.link with rx := l.data.link.rx ++ bytes } } ∧
      (∀ result, (wait_rounds w deadline rounds l).2 = .ok result →
        framed = (loraham_framed_decode l.data.framed bytes).1) := by
  apply wait_rounds_elim (P := fun l r => ∃ framed bytes,
    r.1.data = { l.data with
      framed := framed
      link := { l.data.link with rx := l.data.link.rx ++ bytes } } ∧
    (∀ result, r.2 = .ok result → framed = (loraham_framed_decode l.data.framed bytes).1))
  · intro l stop
    exact ⟨l.data.framed, [], by rw [List.append_nil], fun _ h => nomatch h⟩
  · exact fun l stop r hrest => hrest
  · intro l stop buf l' r hscan ⟨framed', bytes, hdata', hok'⟩
    -- a read that decides nothing was decoded to its end
    obtain ⟨framed, hdata, hok⟩ := wait_scan_decoded w buf (l.received stop buf)
    rw [hscan] at hdata hok
    have hdata : l'.data = { l.data with
        framed := framed
        link := { l.data.link with rx := l.data.link.rx ++ buf } } := hdata
    have hframed : framed = (loraham_framed_decode l.data.framed buf).1 :=
      hok (fun _ h => nomatch h)
    rw [hdata] at hdata' hok'
    refine ⟨framed', buf ++ bytes, ?_, ?_⟩
    · rw [hdata', ← List.append_assoc]
    · intro result hresult
      rw [loraham_framed_decode_append, ← hframed]
      exact hok' result hresult
  · intro l stop buf l' ret hscan
    obtain ⟨framed, hdata, hok⟩ := wait_scan_decoded w buf (l.received stop buf)
    rw [hscan] at hdata hok
    -- a read that decides may end in the middle, unless it gives a result
    refine ⟨framed, buf, hdata, ?_⟩
    intro result hresult
    have hresult : ret = .ok result := hresult
    exact hok (fun _ h => by simp [hresult] at h)

/-- What confirming a packet by TX_RESULT does to the DATA connection: it reads. -/
theorem tx_confirm_result_data (e : send_env) (cfg : lhkt_config_t) (client_fd : Bool)
    (packet : Bytes) (s : io_t) : ∃ framed rx, (tx_confirm_result e cfg client_fd packet s).1.data
      = { s.data with framed := framed, link := { s.data.link with rx := rx } } := by
  unfold tx_confirm_result
  generalize hwait : bridge_loraham_wait_tx_result e.result cfg client_fd s = r
  obtain ⟨s', client_error, ret⟩ := r
  have hdata : ∃ framed rx, s'.data
      = { s.data with framed := framed, link := { s.data.link with rx := rx } } := by
    rcases bridge_loraham_wait_tx_result_cases hwait with ⟨hs', _, _⟩ | ⟨l, hl, _, hs'⟩
    · exact ⟨s.data.framed, s.data.link.rx, by rw [hs']⟩
    · obtain ⟨framed, bytes, hdata, _⟩ := wait_rounds_decoded e.result.client
        (e.result.start + cfg.tx_busy_timeout_ms) e.result.rounds
        ⟨s.stop, s.rx, s.data, client_fd, .OK⟩
      rw [hl] at hdata
      exact ⟨framed, _, by rw [hs']; exact hdata⟩
  obtain ⟨framed, rx, hdata⟩ := hdata
  refine ⟨framed, rx, ?_⟩
  match ret with
  | .error _ => exact (reportsOnly_tx_result_missing e cfg packet s').data_eq.trans hdata
  | .ok result =>
      exact (reportsOnly_tx_result_received e cfg packet client_error result s').data_eq.trans hdata

/-! ## A drain -/

/-- A closed connection is in sync with nothing to say. -/
theorem sync_of_closed {d : data_t} (h : d.fd = false) : Sync d :=
  fun hopen => absurd (h ▸ hopen) Bool.false_ne_true

theorem tx_confirm_result_sync (e : send_env) (cfg : lhkt_config_t) (client_fd : Bool)
    (packet : Bytes) (s : io_t) (h : Sync s.data)
    (hret : (tx_confirm_result e cfg client_fd packet s).2 ≠ .ERR_TX_RESULT) :
    Sync (tx_confirm_result e cfg client_fd packet s).1.data := by
  unfold tx_confirm_result at hret ⊢
  generalize hwait : bridge_loraham_wait_tx_result e.result cfg client_fd s = r at hret ⊢
  obtain ⟨s', client_error, ret⟩ := r
  match ret with
  | .error _ => exact absurd rfl hret
  | .ok result =>
      show Sync (tx_result_received e cfg packet client_error result s').1.data
      rw [(reportsOnly_tx_result_received e cfg packet client_error result s').data_eq]
      rcases bridge_loraham_wait_tx_result_cases hwait with ⟨_, _, hbad⟩ | ⟨l, hl, _, hs'⟩
      · exact nomatch hbad
      · obtain ⟨framed, bytes, hdata, hok⟩ := wait_rounds_decoded e.result.client
          (e.result.start + cfg.tx_busy_timeout_ms) e.result.rounds
          ⟨s.stop, s.rx, s.data, client_fd, .OK⟩
        rw [hl] at hdata hok
        have hdata : l.data = _ := hdata
        rw [hs']
        show Sync l.data
        rw [hdata, hok result rfl]
        exact fun hopen => (h hopen).append bytes

/-- **A drain.** Unless its result makes the main loop give up the DATA
connection, a drain leaves the decoder in sync. -/
theorem drain_sync (e : drain_env) (cfg : lhkt_config_t) (client_fd : Bool) (s : io_t)
    (q : txq_t) (h : Sync s.data) :
    bridge_loraham_should_reconnect_data_socket
        (bridge_loraham_tx_queue_drain_with_client e cfg client_fd s q).2.2 = false →
      Sync (bridge_loraham_tx_queue_drain_with_client e cfg client_fd s q).1.data := by
  refine drain_elim (I := fun s _ => Sync s.data)
    (P := fun r => bridge_loraham_should_reconnect_data_socket r.2.2 = false → Sync r.1.data)
    e cfg client_fd s q h (fun s q read h _ => h) (fun s q _ _ h _ _ _ => h)
    (fun s q _ h _ => h) (fun s q ret h _ _ => h) ?_
  intro s q item now s' ret written h hitem hgate hsel hsend
  show bridge_loraham_should_reconnect_data_socket ret = false → Sync s'.data
  have key := send_packet_elim
    (P := fun r => bridge_loraham_should_reconnect_data_socket r.2.1 = false → Sync r.1.data)
    e.send cfg client_fd item.packet s ?_ ?_ ?_ ?_ ?_
  · rw [hsend] at key
    exact key
  · rintro s' ret (rfl | rfl) _ _
    · exact h
    · exact h
  · intro s₁ ret hprep _ _
    have hcmd := commandsOnly_tx_prepare e.send cfg s
    rw [hprep] at hcmd
    show Sync s₁.data
    rw [hcmd.data_eq]
    exact h
  · intro s₁ s₂ ret _ _ _ hno
    -- after a failed write the data socket is reconnected
    exact absurd hno (by simp [bridge_loraham_should_reconnect_data_socket])
  · intro s₁ s₂ hprep hwrite _ hret
    obtain ⟨-, hcmd⟩ := tx_written_frame hprep hwrite
    have h₂ : Sync s₂.data := by
      rw [hcmd.data_eq]
      exact h.congr rfl rfl rfl
    refine tx_confirm_result_sync e.send cfg client_fd item.packet s₂ h₂ ?_
    -- as it is when the wait ran into a framing error
    intro hbad
    rw [hbad] at hret
    exact absurd hret (by simp [bridge_loraham_should_reconnect_data_socket])
  · intro s₁ s₂ hprep hwrite _ _
    obtain ⟨-, hcmd⟩ := tx_written_frame hprep hwrite
    obtain ⟨state, events, hrep⟩ := reportsOnly_tx_confirm_events e.send cfg item.packet s₂
    show Sync (tx_confirm_events e.send cfg item.packet s₂).1.data
    rw [hrep.data_eq]
    show Sync s₂.data
    rw [hcmd.data_eq]
    exact h.congr rfl rfl rfl

/-! ## The main loop -/

/-- A read for a client that fails a write is a read whose last byte ends the
packet that the failing write is for: the client takes all frames of every proper
initial part of the read. -/
def NoTailBehindFailure (s : bridge_t) (e : bridge_env) : Prop :=
  s.pc = .data → s.data.fd = true → s.ready.data = true → s.client_fd = true →
    ∀ pre post, e.data = .read (pre ++ post) → post ≠ [] →
      AllTaken e.client_write s.rx.client_tx.length
        (stream_writes (loraham_framed_decode s.data.framed pre).2)

/-- The bytes of a read. -/
def read_bytes : read_env → Bytes
  | .read buf => buf
  | _ => []

/-- Looking at the proper initial parts of the read decides it. -/
theorem noTailBehindFailure_iff (s : bridge_t) (e : bridge_env) :
    NoTailBehindFailure s e ↔
      ¬ (s.pc = .data ∧ s.data.fd = true ∧ s.ready.data = true ∧ s.client_fd = true) ∨
        ∀ pre ∈ (read_bytes e.data).inits, pre = read_bytes e.data ∨
          AllTaken e.client_write s.rx.client_tx.length
            (stream_writes (loraham_framed_decode s.data.framed pre).2) := by
  constructor
  · intro h
    rw [or_iff_not_imp_left, not_not]
    rintro ⟨hpc, hopen, hready, hclient⟩ pre hpre
    rw [or_iff_not_imp_left]
    intro hne
    obtain ⟨post, hbuf⟩ := (List.mem_inits _ _).mp hpre
    have hpost : post ≠ [] := by
      intro hnil
      rw [hnil, List.append_nil] at hbuf
      exact hne hbuf
    refine h hpc hopen hready hclient pre post ?_ hpost
    cases hread : e.data with
    | read buf =>
        rw [hread] at hbuf
        rw [hbuf]
        rfl
    | _ =>
        rw [hread] at hbuf
        exact absurd (List.append_eq_nil_iff.mp hbuf).2 hpost
  · intro h hpc hopen hready hclient pre post hread hpost
    have h := h.resolve_left (not_not_intro ⟨hpc, hopen, hready, hclient⟩)
    rw [hread] at h
    refine (h pre ((List.mem_inits _ _).mpr ⟨post, rfl⟩)).resolve_left ?_
    exact fun hsame => hpost (List.self_eq_append_right.mp hsame)

instance (s : bridge_t) (e : bridge_env) : Decidable (NoTailBehindFailure s e) :=
  decidable_of_iff _ (noTailBehindFailure_iff s e).symm

theorem handle_drain_result_sync {ret : Lhkt} {s : bridge_t}
    (h : bridge_loraham_should_reconnect_data_socket ret = false → Sync s.data) :
    Sync (handle_drain_result ret s).data := by
  unfold handle_drain_result
  split
  · exact sync_of_closed (drop_data_fd s)
  · rename_i hret
    have h := h (by simpa using hret)
    split
    · rw [drop_conf_data]
      exact h
    · split <;> exact h

/-- An idle read: the connection is given up, or everything was decoded. -/
theorem handle_chunk_result_sync (w : Nat → List write_ret) (buf : Bytes) (s : bridge_t)
    (h : InSync s.data)
    (htail : ∀ pre post, buf = pre ++ post → post ≠ [] →
      (bridge_rx_handle_framed_chunk w s.client_fd s.data.framed pre s.rx).2.2
        ≠ .ERR_CLIENT_SOCKET) :
    Sync (handle_chunk_result (handle_data_bytes w buf s).2 (handle_data_bytes w buf s).1).data := by
  obtain ⟨pre, post, hbuf, hst, hsame, hall⟩ :=
    handle_framed_chunk_decoded w s.client_fd buf s.data.framed s.rx
  have hwhole : post = [] → InSync (handle_data_bytes w buf s).1.data := by
    intro hpost
    rw [hpost, List.append_nil] at hbuf
    show InSync { s.data with framed := _, link := _ }
    rw [hst, ← hbuf]
    exact h.append buf
  unfold handle_chunk_result
  split
  · -- the client is closed; the bytes behind the failing frame are the issue
    rename_i hclient
    refine fun _ => hwhole ?_
    by_contra hpost
    refine htail pre post hbuf hpost ?_
    rw [hsame]
    exact of_decide_eq_true hclient
  · split
    · exact sync_of_closed (drop_data_fd _)
    · rename_i hret
      exact fun _ => hwhole (hall (not_ne_iff.mp hret))

/-- The decoder of a stream in sync announces no more than the largest payload. -/
theorem InSync.payload_len {d : data_t} (h : InSync d) :
    d.framed.payload_len ≤ LHKT_FRAMED_MAX_PAYLOAD := by
  rw [h]
  exact loraham_framed_decode_len _ (Nat.zero_le _)

/-- In a read without a tail behind a failure, no proper initial part ends in the
failure of a client write. -/
theorem NoTailBehindFailure.chunk {s : bridge_t} {e : bridge_env} {pre post : Bytes}
    (h : NoTailBehindFailure s e) (hsync : InSync s.data) (hpc : s.pc = .data)
    (hopen : s.data.fd = true) (hready : s.ready.data = true)
    (hread : e.data = .read (pre ++ post)) (hpost : post ≠ []) :
    (bridge_rx_handle_framed_chunk e.client_write s.client_fd s.data.framed pre s.rx).2.2
      ≠ .ERR_CLIENT_SOCKET := by
  cases hclient : s.client_fd with
  | false => exact handle_framed_chunk_no_client e.client_write pre s.data.framed s.rx
  | true =>
      intro hfailed
      exact (handle_framed_chunk_offers e.client_write pre s.data.framed s.rx
        hsync.payload_len).mp hfailed (h hpc hopen hready hclient pre post hread hpost)

/-- One step of the main loop keeps the decoder in sync. -/
theorem bridge_step_sync (cfg : lhkt_config_t) (s : bridge_t) (e : bridge_env)
    (h : Sync s.data) (htail : NoTailBehindFailure s e) : Sync (bridge_step cfg s e).data := by
  by_cases hquiet : s.pc = .data ∧ s.ready.data = false
  · -- nothing to read
    obtain ⟨hpc, hready⟩ := hquiet
    have hstep : bridge_step cfg s e = { s with pc := .top } := by
      unfold bridge_step
      rw [hpc]
      exact if_neg fun hread => Bool.false_ne_true (hready ▸ hread.2)
    rw [hstep]
    exact h
  refine bridge_step_elim (P := fun s => Sync s.data) cfg s e h ?_ ?_ ?_ ?_ ?_ ?_ ?_ ?_ ?_ ?_ ?_
    ?_ ?_
  · rintro s _ ⟨_, _, _, _, _, _, _, rfl⟩ hs
    exact hs
  · exact fun s _ => sync_of_closed (bridge_exit_data_fd s)
  · exact fun s hs => hs
  · exact fun s _ => sync_of_closed (drop_data_fd s)
  · intro s hs
    rw [drop_conf_data]
    exact hs
  · exact fun _ _ => handle_drain_result_sync (drain_sync e.drain cfg s.client_fd _ s.txq h)
  · exact fun s hs _ => hs
  · -- a fresh connection starts with a fresh decoder
    exact fun _ _ _ _ _ _ => rfl
  · intro _ _ _ _ _
    unfold pending_config
    dsimp only
    split <;> exact h
  · exact fun s hs _ => hs
  · exact fun s _ _ _ hs => hs
  · exact fun s hs _ => hs
  · intro b buf hpc hopen hread
    have hready : s.ready.data = true := by
      cases hready : s.ready.data with
      | true => rfl
      | false => exact absurd ⟨hpc, hready⟩ hquiet
    refine handle_chunk_result_sync e.client_write (b :: buf) s (h hopen) ?_
    intro pre post hbuf hpost
    exact htail.chunk (h hopen) hpc hopen hready (by rw [hread, hbuf]) hpost

theorem bridge_start_sync (cfg : lhkt_config_t) (e : start_env) : Sync (bridge_start cfg e).data := by
  unfold bridge_start
  dsimp only
  split
  · exact sync_of_closed (bridge_exit_data_fd _)
  · exact fun _ => rfl

/-- **Framed-stream ownership.** In every state of a run whose idle reads hold
nothing behind a packet that the client did not take, an open DATA connection has a
decoder in the state that all its bytes lead to. -/
theorem framed_stream_in_sync (cfg : lhkt_config_t) (e : start_env) (es : List bridge_env)
    (h : Guarded (bridge_step cfg) NoTailBehindFailure (bridge_start cfg e) es)
    (hopen : (bridge_run cfg e es).data.fd = true) :
    (bridge_run cfg e es).data.framed
      = (loraham_framed_decode loraham_framed_rx_state_init
          (bridge_run cfg e es).data.link.rx).1 := by
  have hrun : Sync (bridge_run cfg e es).data :=
    run_induction (P := fun s => Sync s.data)
      (fun s e hs hc => bridge_step_sync cfg s e hs hc) es _ (bridge_start_sync cfg e) h
  exact hrun hopen

/-- A client takes the frame of one packet and not that of the next, which ends the
read; the connection stays, in sync, with the header of a further frame read after it. -/
theorem framed_stream_in_sync_read :
    let packet := framed_rx_packet (loraham_hdr ++ ascii "A>B:x")
    let connect : bridge_env :=
      { select := .ready { listen := true }, accept := .peer 0x7f000001 true }
    let failing : bridge_env :=
      { select := .ready { data := true }
        data := .read (packet ++ packet)
        client_write := fun n => if n = 0 then [] else [.fail] }
    let behind : bridge_env :=
      { select := .ready { data := true }, data := .read [LORAHAM_FRAME_RX_PACKET, 7] }
    let s := bridge_run lhkt_config_defaults {}
      (iteration connect ++ iteration failing ++ iteration behind)
    s.client_fd = false ∧ s.data.framed
      = (loraham_framed_decode loraham_framed_rx_state_init s.data.link.rx).1 := by
  exact ⟨by decide +kernel, framed_stream_in_sync _ _ _ (by decide +kernel) (by decide +kernel)⟩

/-- With a client whose socket fails, the byte behind the frame is lost: the
connection stays open, and its decoder is not where the stream is. -/
theorem framed_stream_tail_lost :
    let connect : bridge_env :=
      { select := .ready { listen := true }, accept := .peer 0x7f000001 true }
    let read : bridge_env :=
      { select := .ready { data := true }
        data := .read (framed_rx_packet (loraham_hdr ++ ascii "A>B:x") ++ [LORAHAM_FRAME_RX_PACKET])
        client_write := fun _ => [.fail] }
    let s := bridge_run lhkt_config_defaults {} (iteration connect ++ iteration read)
    s.data.fd = true ∧ s.data.framed
      ≠ (loraham_framed_decode loraham_framed_rx_state_init s.data.link.rx).1 := by
  decide +kernel

end LorahamKissTnc.FramedStream
