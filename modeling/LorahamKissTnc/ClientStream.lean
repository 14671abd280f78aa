/-
What a KISS client gets to see: complete frames, and at most one truncated frame
at the very end of its connection.

A write to the client can fail after any number of bytes. In the idle path the
failure is the result of the chunk, and the client is closed at once. In the
wait for a TX_RESULT it travels in `*client_error`, and two exits of the send
function return something else: a missing TX_RESULT and a failed restore of the
RX frequency. Then the client stays connected behind a truncated frame.

`wait_writes` are the frames that the reads of a wait have for a client, and a
client write fails there exactly when these are not all taken
(`wait_tx_result_client_error`). `ClientFailureReported` says what has to happen
then: a valid TX_RESULT comes in time, with no framing error behind it in its read,
and the commands of the restore are sent. Under it the stream of every client is
intact in every state of every run.
-/
import LorahamKissTnc.TxEvents

set_option autoImplicit false

open LorahamKissTnc.Lib.CString LorahamKissTnc.Lib.Channel LorahamKissTnc.Lib.Machine
open LorahamKissTnc.Config LorahamKissTnc.Kiss LorahamKissTnc.LorahamSock
open LorahamKissTnc.BridgeConf LorahamKissTnc.BridgeTxQueue LorahamKissTnc.BridgeRx
open LorahamKissTnc.BridgeKiss LorahamKissTnc.BridgeLoraham LorahamKissTnc.Bridge
open LorahamKissTnc.ClientWrites LorahamKissTnc.TxWait LorahamKissTnc.TxAccounting
open LorahamKissTnc.TxEvents

namespace LorahamKissTnc.ClientStream

/-! ## Streams of encoded frames -/

/-- A stream of encoded KISS frames of which only the last can be incomplete. -/
def IntactStream (h : List (Sent UInt8)) : Prop :=
  Intact Sent.Complete h ∧ ∀ s ∈ h, IsKissFrame s.buf

/-- A stream of complete encoded KISS frames. -/
def CleanStream (h : List (Sent UInt8)) : Prop :=
  Clean Sent.Complete h ∧ ∀ s ∈ h, IsKissFrame s.buf

/-- A stream without a truncated frame is intact. -/
theorem CleanStream.intact {h : List (Sent UInt8)} (hc : CleanStream h) : IntactStream h :=
  ⟨hc.1.intact, hc.2⟩

theorem cleanStream_nil : CleanStream [] := ⟨clean_nil, by simp⟩

/-- What the RX path adds to a clean stream leaves it intact. -/
theorem Delivers.intactStream {c c' : bridge_rx_t} {ret : Lhkt} (h : Delivers c c' ret)
    (hc : CleanStream c.client_tx) : IntactStream c'.client_tx :=
  ⟨h.intact hc.1, h.units hc.2⟩

/-- And clean, when no client failure is reported. -/
theorem Delivers.cleanStream {c c' : bridge_rx_t} {ret : Lhkt} (h : Delivers c c' ret)
    (hret : ret ≠ .ERR_CLIENT_SOCKET) (hc : CleanStream c.client_tx) :
    CleanStream c'.client_tx :=
  ⟨h.clean hret hc.1, h.units hc.2⟩

/-- A result other than a client failure carries no information. -/
theorem Delivers.of_ne {c c' : bridge_rx_t} {ret : Lhkt} (h : Delivers c c' ret)
    (hret : ret ≠ .ERR_CLIENT_SOCKET) (ret' : Lhkt) : Delivers c c' ret' :=
  h.mono fun h => absurd h hret

/-! ## The wait for a TX_RESULT -/

/-- The wait has delivered frames, and after a failure it has no client left. -/
def WaitDelivers (c : bridge_rx_t) (l : wait_t) : Prop :=
  Delivers c l.rx l.client_error ∧ (l.client_error ≠ .OK → l.client_fd = false)

/-- A frame in the wait is delivered, as long as the client is there. -/
theorem WaitDelivers.frame {c : bridge_rx_t} {l : wait_t} (h : WaitDelivers c l)
    (w : Nat → List write_ret) (frame : loraham_frame_t) : WaitDelivers c (wait_frame w frame l) := by
  obtain ⟨hdel, hfd⟩ := h
  have hframe := bridge_rx_handle_framed_frame_delivers w l.client_fd frame l.rx
  unfold wait_frame
  dsimp only
  by_cases herr : l.client_error = .OK
  · rw [herr] at hdel
    have hboth := hdel.trans hframe
    split
    · rename_i hret
      rw [hret] at hboth
      exact ⟨hboth, fun _ => rfl⟩
    · rename_i hret
      exact ⟨Delivers.of_ne hboth hret l.client_error, hfd⟩
  · -- the client has been given up: nothing is written, nothing can fail
    have hgone := hfd herr
    obtain ⟨htx, hok⟩ := bridge_rx_handle_framed_frame_no_client w frame l.rx
    rw [hgone]
    rw [if_neg (by rw [hok]; exact fun h => nomatch h)]
    exact ⟨hdel.congr rfl htx, fun _ => rfl⟩

/-- Everything in the wait delivers. -/
theorem waitInvariant_delivers (w : Nat → List write_ret) (c : bridge_rx_t) :
    WaitInvariant w (WaitDelivers c) where
  decoded := fun _ _ h => h
  counted := fun _ h => ⟨h.1.congr rfl rfl, h.2⟩
  frame := fun frame _ h => h.frame w frame
  stopped := fun _ _ h => h
  received := fun _ _ _ h => h

/-- What a wait writes to the client, and what it says about it. -/
theorem bridge_loraham_wait_tx_result_delivers {e : result_env} {cfg : lhkt_config_t}
    {client_fd : Bool} {s s' : io_t} {client_error : Lhkt}
    {ret : Except Lhkt loraham_tx_result_t}
    (h : bridge_loraham_wait_tx_result e cfg client_fd s = (s', client_error, ret)) :
    Delivers s.rx s'.rx client_error := by
  rcases bridge_loraham_wait_tx_result_cases h with ⟨hs, _, _⟩ | ⟨l, hl, herr, hs⟩
  · rw [hs]
    exact Delivers.of_eq _ rfl
  · have hrounds := (waitInvariant_delivers e.client s.rx).rounds
      (e.start + cfg.tx_busy_timeout_ms) e.rounds ⟨s.stop, s.rx, s.data, client_fd, .OK⟩
      ⟨Delivers.of_eq _ rfl, fun h => absurd rfl h⟩
    rw [hl] at hrounds
    rw [hs, herr]
    exact hrounds.1

/-! ## The frames for a wait -/

/-- The frames for the answers of the decoder behind a TX_RESULT, up to a framing
error. -/
def rest_writes : List (Except Lhkt (Option loraham_frame_t)) → List Bytes
  | [] => []
  | .error _ :: _ => []
  | .ok none :: answers => rest_writes answers
  | .ok (some frame) :: answers => frame_writes frame ++ rest_writes answers

/-- The frames for a read of the wait: those in front of what decides it, and the rest
when that is a valid TX_RESULT. -/
def read_writes : List (Except Lhkt (Option loraham_frame_t)) → List Bytes
  | [] => []
  | .error _ :: _ => []
  | .ok none :: answers => read_writes answers
  | .ok (some frame) :: answers =>
      if frame.type = LORAHAM_FRAME_TX_RESULT then
        if (loraham_decode_tx_result frame).isOk then rest_writes answers else []
      else frame_writes frame ++ read_writes answers

/-- The frames for the reads of a wait, which ends with the one that decides. -/
def wait_writes : loraham_framed_rx_state_t → List Bytes → List Bytes
  | _, [] => []
  | state, buf :: reads =>
      read_writes (loraham_framed_decode state buf).2 ++
        if (decided (loraham_framed_decode state buf).2).isNone then
          wait_writes (loraham_framed_decode state buf).1 reads
        else []

/-- The wait has a client, and no write to it has failed. -/
def Served (l : wait_t) : Prop := l.client_fd = true ∧ l.client_error = .OK

/-- The wait has given its client up. -/
def Lost (l : wait_t) : Prop := l.client_fd = false ∧ l.client_error = .ERR_CLIENT_SOCKET

/-- From `l` to `l'` the wait had the frames for its client: all are taken, or the
client is given up. -/
def WaitOffers (w : Nat → List write_ret) (frames : List Bytes) (l l' : wait_t) : Prop :=
  (AllTaken w l.rx.client_tx.length frames ∧ Served l' ∧
      l'.rx.client_tx.length = l.rx.client_tx.length + frames.length) ∨
    (¬ AllTaken w l.rx.client_tx.length frames ∧ Lost l')

section WaitOffers

variable {w : Nat → List write_ret}

/-- Where nothing is for the client, nothing is offered. -/
theorem waitOffers_nil {l l' : wait_t} (h : Served l') (htx : l'.rx.client_tx = l.rx.client_tx) :
    WaitOffers w [] l l' :=
  .inl ⟨trivial, h, by rw [htx]; rfl⟩

/-- Nothing is done for a client that was given up. -/
theorem waitInvariant_lost (w : Nat → List write_ret) : WaitInvariant w Lost where
  decoded := fun _ _ h => h
  counted := fun _ h => h
  frame := by
    rintro frame l ⟨hfd, herr⟩
    have hok := (bridge_rx_handle_framed_frame_no_client w frame l.rx).2
    unfold wait_frame
    rw [hfd]
    dsimp only
    rw [if_neg (by rw [hok]; decide)]
    exact ⟨rfl, herr⟩
  stopped := fun _ _ h => h
  received := fun _ _ _ h => h

/-- More frames behind the first. -/
theorem WaitOffers.trans {a b : List Bytes} {l l' l'' : wait_t} (h : WaitOffers w a l l')
    (h' : Served l' → WaitOffers w b l' l'') (hlost : Lost l' → Lost l'') :
    WaitOffers w (a ++ b) l l'' := by
  unfold WaitOffers
  rw [allTaken_append]
  rcases h with ⟨htaken, hserved, hlen⟩ | ⟨hfailed, hgone⟩
  · rw [and_iff_right htaken, ← hlen, List.length_append, ← Nat.add_assoc, ← hlen]
    exact h' hserved
  · exact .inr ⟨fun hall => hfailed hall.1, hlost hgone⟩

/-- A frame other than a TX_RESULT. -/
theorem wait_frame_offers (frame : loraham_frame_t) {l : wait_t} (h : Served l) :
    WaitOffers w (frame_writes frame) l (wait_frame w frame l) := by
  obtain ⟨hfd, herr⟩ := h
  have hoffers := handle_framed_frame_offers w frame l.rx
  unfold wait_frame
  rw [hfd]
  dsimp only
  split
  · rename_i hret
    exact .inr ⟨hoffers.failed_iff.mp hret, rfl, rfl⟩
  · rename_i hret
    refine .inl ⟨?_, ⟨rfl, herr⟩, hoffers.sent hret⟩
    exact not_not.mp fun hfailed => hret (hoffers.failed_iff.mpr hfailed)

/-- The frames in the rest of a read. -/
theorem wait_rest_offers (buf : Bytes) : ∀ {l : wait_t}, Served l →
    WaitOffers w (rest_writes (loraham_framed_decode l.data.framed buf).2) l
      (wait_rest w buf l).1 := by
  induction buf with
  | nil => exact fun h => waitOffers_nil h rfl
  | cons b buf ih =>
      intro l h
      rw [wait_rest.eq_2, loraham_framed_decode_cons]
      generalize loraham_framed_decode_byte l.data.framed b = r
      obtain ⟨st, ret | _ | frame⟩ := r
      · exact waitOffers_nil h rfl
      · exact @ih (l.decoded st) h
      · dsimp only
        rw [rest_writes]
        by_cases htype : frame.type = LORAHAM_FRAME_TX_RESULT
        · -- a second result has nothing for the client
          have hnone : frame_writes frame = [] := by
            refine if_neg fun hrx => ?_
            rw [htype] at hrx
            exact absurd hrx.1 (by decide)
          rw [if_pos htype, hnone]
          exact @ih { l.decoded st with rx := l.rx.count .loraham_drop } h
        · rw [if_neg htype]
          have hframe := @wait_frame_offers w frame (l.decoded st) h
          refine hframe.trans (fun hserved => ?_) ((waitInvariant_lost w).rest buf _)
          have hrest := ih hserved
          rw [FramedStream.wait_frame_data] at hrest
          exact hrest

/-- The frames in a read of the wait. -/
theorem wait_scan_offers (buf : Bytes) : ∀ {l : wait_t}, Served l →
    WaitOffers w (read_writes (loraham_framed_decode l.data.framed buf).2) l
      (wait_scan w buf l).1 := by
  induction buf with
  | nil => exact fun h => waitOffers_nil h rfl
  | cons b buf ih =>
      intro l h
      rw [wait_scan.eq_2, loraham_framed_decode_cons]
      generalize loraham_framed_decode_byte l.data.framed b = r
      obtain ⟨st, ret | _ | frame⟩ := r
      · exact waitOffers_nil h rfl
      · exact @ih (l.decoded st) h
      · dsimp only
        rw [read_writes]
        by_cases htype : frame.type = LORAHAM_FRAME_TX_RESULT
        · rw [if_pos htype, if_pos htype]
          cases loraham_decode_tx_result frame with
          | error ret => exact waitOffers_nil h rfl
          | ok result => exact @wait_rest_offers w buf (l.decoded st) h
        · rw [if_neg htype, if_neg htype]
          have hframe := @wait_frame_offers w frame (l.decoded st) h
          refine hframe.trans (fun hserved => ?_) ((waitInvariant_lost w).scan buf _)
          have hscan := ih hserved
          rw [FramedStream.wait_frame_data] at hscan
          exact hscan

/-- **The wait** for a client that may not take everything. -/
theorem wait_rounds_offers (deadline : Int) (rounds : List data_round) {l : wait_t} (h : Served l)
    (hstop : l.stop = false) :
    WaitOffers w (wait_writes l.data.framed (reads_in_time deadline rounds)) l
      (wait_rounds w deadline rounds l).1 := by
  refine wait_rounds_running (P := fun l rounds r => Served l →
    WaitOffers w (wait_writes l.data.framed (reads_in_time deadline rounds)) l r.1) w deadline
    (fun _ _ h => waitOffers_nil h rfl) ?_ ?_ ?_ ?_ rounds l hstop h
  · intro l round rounds hbrought h
    rw [reads_in_time_end hbrought]
    exact waitOffers_nil h rfl
  · intro l round rounds hbrought ih h
    rw [reads_in_time_skip hbrought]
    exact ih h
  · intro l round rounds b buf l' hbrought hscan hdec hframed ih h
    have hoffers := @wait_scan_offers w (b :: buf) (l.received false (b :: buf)) h
    rw [hscan] at hoffers
    rw [reads_in_time_read hbrought, wait_writes, hdec, ← hframed]
    exact WaitOffers.trans hoffers ih ((waitInvariant_lost w).rounds deadline rounds l')
  · intro l round rounds b buf l' decision hbrought hscan hdec _ h
    have hoffers := @wait_scan_offers w (b :: buf) (l.received false (b :: buf)) h
    rw [hscan] at hoffers
    rw [reads_in_time_read hbrought, wait_writes, hdec, if_neg (show ¬ (some decision).isNone = true from
      Bool.false_ne_true), List.append_nil]
    exact hoffers

end WaitOffers

/-- **The client in a wait** fails exactly when it does not take the frames that the
reads in time have for it. -/
theorem wait_tx_result_client_error {e : result_env} {cfg : lhkt_config_t} {s s' : io_t}
    {client_error : Lhkt} {ret : Except Lhkt loraham_tx_result_t}
    (h : bridge_loraham_wait_tx_result e cfg true s = (s', client_error, ret))
    (hopen : s.data.fd = true) (hstop : s.stop = false) :
    client_error = .ERR_CLIENT_SOCKET ↔ ¬ AllTaken e.client s.rx.client_tx.length
      (wait_writes s.data.framed
        (reads_in_time (e.start + cfg.tx_busy_timeout_ms) e.rounds)) := by
  have hoffers := @wait_rounds_offers e.client (e.start + cfg.tx_busy_timeout_ms) e.rounds
    ⟨s.stop, s.rx, s.data, true, .OK⟩ ⟨rfl, rfl⟩ hstop
  unfold bridge_loraham_wait_tx_result at h
  rw [if_neg (by simp [hopen])] at h
  obtain ⟨-, herr, -⟩ : _ ∧ _ = client_error ∧ _ := by
    obtain ⟨hs, hrest⟩ := Prod.mk.inj h
    exact ⟨hs, Prod.mk.inj hrest⟩
  rw [← herr]
  rcases hoffers with ⟨htaken, hserved, -⟩ | ⟨hfailed, hlost⟩
  · refine iff_of_false ?_ (not_not_intro htaken)
    rw [hserved.2]
    decide
  · exact iff_of_true hlost.2 hfailed

/-- A wait without a client has nothing to report. -/
theorem wait_tx_result_no_client {e : result_env} {cfg : lhkt_config_t} {s s' : io_t}
    {client_error : Lhkt} {ret : Except Lhkt loraham_tx_result_t}
    (h : bridge_loraham_wait_tx_result e cfg false s = (s', client_error, ret)) :
    client_error = .OK := by
  have hinv : WaitInvariant e.client (fun l => l.client_fd = false ∧ l.client_error = .OK) := by
    refine ⟨fun _ _ h => h, fun _ h => h, ?_, fun _ _ h => h, fun _ _ _ h => h⟩
    rintro frame l ⟨hfd, herr⟩
    have hok := (bridge_rx_handle_framed_frame_no_client e.client frame l.rx).2
    unfold wait_frame
    rw [hfd]
    dsimp only
    rw [if_neg (by rw [hok]; decide)]
    exact ⟨rfl, herr⟩
  rcases bridge_loraham_wait_tx_result_cases h with ⟨-, herr, -⟩ | ⟨l, hl, herr, -⟩
  · exact herr
  · have hrounds := hinv.rounds (e.start + cfg.tx_busy_timeout_ms) e.rounds
      ⟨s.stop, s.rx, s.data, false, .OK⟩ ⟨rfl, rfl⟩
    rw [hl] at hrounds
    rw [herr]
    exact hrounds.2

/-! ## A drain -/

/-- The reads in time of the wait that a drain comes to. -/
def drain_reads (cfg : lhkt_config_t) (e : bridge_env) : List Bytes :=
  reads_in_time (e.drain.send.result.start + cfg.tx_busy_timeout_ms) e.drain.send.result.rounds

/-- When the drain of a running loop writes a packet whose TX_RESULT is waited for, and
the client does not take the frames that come in between: a valid TX_RESULT is read in
time, no framing error follows it in its read, and the way back to the RX frequency
works. -/
def ClientFailureReported (cfg : lhkt_config_t) (s : bridge_t) (e : bridge_env) : Prop :=
  s.pc = .top → (s.stop || e.signal) = false → s.client_fd = true → ∀ s₀ q item,
    drain_select e.drain cfg (s.txq.queue.count + 1) 0 s.toio_t s.txq = (s₀, q, .send item) →
    Written e.drain.send cfg item.packet s₀ →
    bridge_conf_txresult_enabled s₀.conf.state = true →
    ¬ AllTaken e.drain.send.result.client s.rx.client_tx.length
      (wait_writes s.data.framed (drain_reads cfg e)) →
    (∃ result, stream_verdict s.data.framed (drain_reads cfg e).flatten = some (.ok result)) ∧
      clean_tail s.data.framed (drain_reads cfg e) ∧ Restores cfg e.drain.send.restore false

/-- The tail of a transmission, after the wait: it returns the client's failure
unless the restore fails. -/
theorem tx_result_received_ret (e : send_env) (cfg : lhkt_config_t) (packet : Bytes)
    (client_error : Lhkt) (result : loraham_tx_result_t) (s : io_t)
    (hrestore : (bridge_loraham_restore_rx_freq e.restore cfg
      (tx_result_logged packet result s)).2 = .OK) :
    (tx_result_received e cfg packet client_error result s).2 = client_error := by
  unfold tx_result_received
  dsimp only
  rw [if_neg (fun h => h hrestore)]
  split <;> rfl

/-- **The end of a transmission** whose TX_RESULT is waited for: a failing client comes
out as the result. -/
theorem tx_confirm_result_delivers {e : send_env} {cfg : lhkt_config_t} {client_fd : Bool}
    {packet : Bytes} {s : io_t} (hopen : s.data.fd = true) (hconf : s.conf.fd = true)
    (hrx : cfg.have_rx_freq = true) (hstop : s.stop = false)
    (hrep : client_fd = true → ∀ reads,
      reads = reads_in_time (e.result.start + cfg.tx_busy_timeout_ms) e.result.rounds →
      ¬ AllTaken e.result.client s.rx.client_tx.length (wait_writes s.data.framed reads) →
      (∃ result, stream_verdict s.data.framed reads.flatten = some (.ok result)) ∧
        clean_tail s.data.framed reads ∧ Restores cfg e.restore false) :
    Delivers s.rx (tx_confirm_result e cfg client_fd packet s).1.rx
      (tx_confirm_result e cfg client_fd packet s).2 := by
  have hverdict := wait_tx_result_verdict e.result cfg client_fd s hopen hstop
  have hstopped := @wait_tx_result_stopped cfg e.result client_fd s hopen hstop
  unfold tx_confirm_result
  generalize hwait : bridge_loraham_wait_tx_result e.result cfg client_fd s = r
    at hverdict hstopped ⊢
  obtain ⟨s₃, client_error, ret⟩ := r
  have hdel := bridge_loraham_wait_tx_result_delivers hwait
  by_cases herr : client_error = .ERR_CLIENT_SOCKET
  · -- the failure has to come out as the result
    subst herr
    have hclient : client_fd = true := by
      cases client_fd with
      | true => rfl
      | false => exact absurd (wait_tx_result_no_client hwait) (by decide)
    subst hclient
    obtain ⟨⟨result, hresult⟩, hclean, hrestores⟩ := hrep rfl _ rfl
      ((wait_tx_result_client_error hwait hopen hstop).mp rfl)
    have hret : ret = .ok result := by
      have hverdict : ret = wait_verdict _ _ := hverdict
      rw [hverdict, wait_verdict_clean _ _ hclean, hresult]
      rfl
    subst hret
    have hrun : s₃.stop = false := by
      have hstopped : s₃.stop = _ := hstopped
      rw [hstopped]
      exact result_stopped_of_verdict hverdict.symm
    have hfd : (tx_result_logged packet result s₃).conf.fd = true := by
      obtain ⟨_, _, hlogged⟩ := tx_result_logged_frame packet result s₃
      rw [hlogged]
      rcases bridge_loraham_wait_tx_result_cases hwait with ⟨hs, -, -⟩ | ⟨l, -, -, hs⟩
      · rw [hs]
        exact hconf
      · rw [hs]
        exact hconf
    have hrestore := (@restore_ok_iff cfg e.restore (tx_result_logged packet result s₃) hrx
      hfd).mpr (by
        obtain ⟨_, _, hlogged⟩ := tx_result_logged_frame packet result s₃
        rw [hlogged]
        show Restores cfg e.restore s₃.stop
        rw [hrun]
        exact hrestores)
    show Delivers s.rx (tx_result_received e cfg packet .ERR_CLIENT_SOCKET result s₃).1.rx
      (tx_result_received e cfg packet .ERR_CLIENT_SOCKET result s₃).2
    rw [tx_result_received_ret _ _ _ _ _ _ hrestore]
    exact hdel.congr rfl (reportsOnly_tx_result_received _ _ _ _ _ _).client_tx_eq
  · cases ret with
    | error _ =>
        exact Delivers.of_ne (hdel.congr rfl
          (reportsOnly_tx_result_missing _ _ _ _).client_tx_eq) herr _
    | ok result =>
        exact Delivers.of_ne (hdel.congr rfl
          (reportsOnly_tx_result_received _ _ _ _ _ _).client_tx_eq) herr _

/-- **A drain** appends frames to the client's stream, and reports the one that
could not be written. -/
theorem drain_delivers (cfg : lhkt_config_t) (e : bridge_env) (s : bridge_t)
    (hpc : s.pc = .top) (hrun : (s.stop || e.signal) = false)
    (hrep : ClientFailureReported cfg s e) :
    Delivers s.rx (bridge_drain cfg e s).1.rx (bridge_drain cfg e s).2 := by
  have hstop : s.stop = false := (Bool.or_eq_false_iff.mp hrun).1
  refine drain_elim (I := fun s' _ => s'.rx.client_tx = s.rx.client_tx ∧ s'.data = s.data ∧
      s'.stop = false)
    (P := fun r => Delivers s.rx r.1.rx r.2.2) e.drain cfg s.client_fd s.toio_t s.txq
    ⟨rfl, rfl, hstop⟩ (fun _ _ _ h _ => h) (fun _ _ _ _ h _ _ _ => h) (fun _ _ _ h _ => h)
    (fun _ _ ret h _ => Delivers.of_eq ret h.1) ?_
  rintro s₀ q item now s' ret written ⟨htx, hdata, hstop₀⟩ hitem hgate hsel hsend
  show Delivers s.rx s'.rx ret
  rw [send_packet_with_client] at hsend
  have key := send_packet_ways (P := fun r => Delivers s.rx r.1.rx r.2.1) true e.drain.send cfg
    s.client_fd item.packet s₀ (fun _ => Delivers.of_eq _ htx) (fun _ _ _ => Delivers.of_eq _ htx)
    ?_ ?_ ?_
  · rw [hsend] at key
    exact key
  · intro _ _
    -- the shift failed
    exact Delivers.of_eq _ ((commandsOnly_tx_prepare e.drain.send cfg s₀).client_tx_eq.trans htx)
  · intro _ hprep hwrite
    have hcmd := tx_sent_frame item.packet hprep
    -- the packet was not written, and nothing is waited for
    refine Delivers.of_eq _ ((commandsOnly_tx_write_failed e.drain.send cfg _).client_tx_eq.trans ?_)
    exact hcmd.client_tx_eq.trans htx
  · intro hwritten
    have hcmd := tx_sent_frame item.packet hwritten.prepared
    -- the wait begins with the decoder and the client as the step found them
    have hstop₂ : (tx_sent e.drain.send cfg item.packet s₀).stop = false :=
      (tx_prepare_stop hwritten.prepared).trans hstop₀
    generalize tx_sent e.drain.send cfg item.packet s₀ = s₂ at hcmd hstop₂ ⊢
    have htx₂ : s₂.rx.client_tx = s.rx.client_tx := hcmd.client_tx_eq.trans htx
    have hframed : s₂.data.framed = s.data.framed := by
      rw [hcmd.data_eq, ← hdata]
    have hstate : s₂.conf.state = s₀.conf.state ∧ s₂.conf.fd = s₀.conf.fd := by
      obtain ⟨_, _, hconf⟩ := hcmd.conf_frame
      rw [hconf]
      exact ⟨rfl, rfl⟩
    unfold tx_confirm
    rw [hstate.1]
    by_cases henabled : bridge_conf_txresult_enabled s₀.conf.state = true
    · rw [if_pos henabled, if_pos rfl]
      refine (tx_confirm_result_delivers ?_ (hstate.2.trans hgate.conf_fd)
        hwritten.sendable.have_rx_freq hstop₂ ?_).congr htx₂.symm rfl
      · rw [hcmd.data_eq]
        exact hgate.data_fd
      · rintro hclient _ rfl hfailed
        rw [htx₂, hframed] at hfailed
        rw [hframed]
        -- the client did not take the frames: the condition of the step applies
        exact hrep hpc hrun hclient s₀ _ item hsel hwritten henabled hfailed
    · rw [if_neg henabled]
      obtain ⟨_, _, hevents⟩ := reportsOnly_tx_confirm_events e.drain.send cfg item.packet s₂
      exact Delivers.of_eq _ (hevents.client_tx_eq.trans htx₂)

/-! ## The main loop -/

/-- Every stream is intact, and the stream of a connected client is clean: its
client is closed as soon as a write to it has failed. -/
def Streams (s : bridge_t) : Prop :=
  (∀ h ∈ s.clients, IntactStream h) ∧ CleanStream s.rx.client_tx

/-- The streams are the same. -/
theorem Streams.congr {s s' : bridge_t} (h : Streams s) (hclients : s'.clients = s.clients)
    (htx : s'.rx.client_tx = s.rx.client_tx) : Streams s' := by
  unfold Streams
  rw [hclients, htx]
  exact h

/-- Closing the client puts its stream to the finished ones. -/
theorem close_client_streams {s : bridge_t} (hclients : ∀ h ∈ s.clients, IntactStream h)
    (htx : IntactStream s.rx.client_tx) : Streams (close_client s) := by
  refine ⟨?_, cleanStream_nil⟩
  intro h hh
  rcases List.mem_append.mp hh with hh | hh
  · exact hclients h hh
  · rw [List.mem_singleton.mp hh]
    exact htx

theorem drop_data_streams {s : bridge_t} (h : Streams s) : Streams (drop_data s) := by
  unfold drop_data bridge_loraham_disconnect_data_socket
  split <;> exact h.congr rfl rfl

theorem drop_conf_streams {s : bridge_t} (h : Streams s) : Streams (drop_conf s) := by
  unfold drop_conf bridge_loraham_disconnect_conf_socket
  split <;> exact h.congr rfl rfl

/-- Leaving the loop closes the client, and writes nothing to it. -/
theorem bridge_exit_streams {s : bridge_t} (h : Streams s) : Streams (bridge_exit s) := by
  unfold bridge_exit
  dsimp only
  split
  · exact (close_client_streams (s := collect_cad_stats s) h.1 h.2.intact).congr rfl rfl
  · exact h.congr rfl rfl

/-- What the main loop does with a drain: the stream is clean, or the client is
closed. -/
theorem handle_drain_result_streams {ret : Lhkt} {s s' : bridge_t} (h : Streams s)
    (hclients : s'.clients = s.clients) (hdel : Delivers s.rx s'.rx ret) :
    Streams (handle_drain_result ret s') := by
  have hall : ∀ k ∈ s'.clients, IntactStream k := by
    rw [hclients]
    exact h.1
  have hclean : ret ≠ .ERR_CLIENT_SOCKET → Streams s' :=
    fun hret => ⟨hall, Delivers.cleanStream hdel hret h.2⟩
  unfold handle_drain_result
  split
  · rename_i hret
    refine drop_data_streams (hclean ?_)
    rintro rfl
    exact absurd hret (by decide)
  · split
    · rename_i hret
      refine drop_conf_streams (hclean ?_)
      rintro rfl
      exact absurd hret (by decide)
    · split
      · exact close_client_streams hall (Delivers.intactStream hdel h.2)
      · rename_i hret
        refine hclean ?_
        rintro rfl
        exact hret rfl

/-- The same for an idle read. -/
theorem handle_chunk_result_streams {ret : Lhkt} {s s' : bridge_t} (h : Streams s)
    (hclients : s'.clients = s.clients) (hdel : Delivers s.rx s'.rx ret) :
    Streams (handle_chunk_result ret s') := by
  have hall : ∀ k ∈ s'.clients, IntactStream k := by
    rw [hclients]
    exact h.1
  unfold handle_chunk_result
  split
  · exact close_client_streams hall (Delivers.intactStream hdel h.2)
  · rename_i hret
    have hret : ret ≠ .ERR_CLIENT_SOCKET := by
      rintro rfl
      exact hret rfl
    have hclean : Streams s' := ⟨hall, Delivers.cleanStream hdel hret h.2⟩
    split
    · exact drop_data_streams hclean
    · exact hclean

/-- One step of the main loop. -/
theorem bridge_step_streams (cfg : lhkt_config_t) (s : bridge_t) (e : bridge_env)
    (h : Streams s) (hrep : ClientFailureReported cfg s e) : Streams (bridge_step cfg s e) := by
  refine bridge_step_elim (P := Streams) cfg s e h ?_ (fun _ => bridge_exit_streams)
    (fun _ hs => close_client_streams hs.1 hs.2.intact) (fun _ => drop_data_streams)
    (fun _ => drop_conf_streams) ?_ ?_ ?_ ?_ ?_ ?_ ?_ ?_
  · rintro s _ ⟨_, _, _, _, _, _, _, rfl⟩ hs
    exact hs.congr rfl rfl
  · intro hpc hrun
    exact handle_drain_result_streams h rfl (drain_delivers cfg e s hpc hrun hrep)
  · exact fun s hs _ => hs.congr rfl rfl
  · exact fun _ _ _ _ _ => h.congr rfl rfl
  · intro _ _ _ _ _
    unfold pending_config
    dsimp only
    split <;> exact h.congr rfl rfl
  · exact fun s hs _ => ⟨hs.1, cleanStream_nil⟩
  · exact fun s _ _ _ hs => hs.congr rfl rfl
  · exact fun s hs _ => hs.congr rfl rfl
  · intro b buf _ _ _
    exact handle_chunk_result_streams h rfl
      (bridge_rx_handle_framed_chunk_delivers e.client_write s.client_fd (b :: buf)
        s.data.framed s.rx)

theorem bridge_start_streams (cfg : lhkt_config_t) (e : start_env) :
    Streams (bridge_start cfg e) := by
  have hinit : ∀ s : bridge_t, s.clients = [] → s.rx.client_tx = [] → Streams s := by
    intro s hclients htx
    refine ⟨?_, htx ▸ cleanStream_nil⟩
    rw [hclients]
    intro k hk
    exact absurd hk List.not_mem_nil
  unfold bridge_start
  dsimp only
  split
  · exact bridge_exit_streams (hinit _ rfl rfl)
  · exact hinit _ rfl rfl

/-- **KISS client stream integrity.** In every state of a run in which client
failures are reported, what each client got, the connected one included, is
complete KISS frames followed by at most one truncated frame; only the last
write on a connection is ever incomplete, and then the client is gone. -/
theorem client_streams_intact (cfg : lhkt_config_t) (e : start_env) (es : List bridge_env)
    (h : Guarded (bridge_step cfg) (ClientFailureReported cfg) (bridge_start cfg e) es) :
    (∀ k ∈ (bridge_run cfg e es).clients ++ [(bridge_run cfg e es).rx.client_tx],
      Intact Sent.Complete k ∧ (∀ s ∈ k, IsKissFrame s.buf) ∧ FramedBy IsKissFrame (bytes k)) ∧
    Clean Sent.Complete (bridge_run cfg e es).rx.client_tx := by
  have hrun : Streams (bridge_run cfg e es) :=
    run_induction (P := Streams) (fun s e hs hc => bridge_step_streams cfg s e hs hc) es _
      (bridge_start_streams cfg e) h
  refine ⟨?_, hrun.2.1⟩
  intro k hk
  have hintact : IntactStream k := by
    rcases List.mem_append.mp hk with hk | hk
    · exact hrun.1 k hk
    · rw [List.mem_singleton.mp hk]
      exact hrun.2.intact
  exact ⟨hintact.1, hintact.2, (hintact.1.mono fun _ => Sent.Complete.whole).framedBy hintact.2⟩

/-- A drain that finds the queue empty has nothing to report. -/
theorem clientFailureReported_of_empty {cfg : lhkt_config_t} {s : bridge_t} {e : bridge_env}
    (h : s.txq.queue.count = 0) : ClientFailureReported cfg s e := by
  intro _ _ _ s₀ q item hsel
  rw [drain_select_empty e.drain cfg 0 s.toio_t h] at hsel
  exact absurd (congrArg (fun r => r.2.2) hsel) (fun h => drain_next.noConfusion h)

/-- A delivery cut short during the wait for a TX_RESULT that comes in the next read:
the client has a truncated frame and is gone. -/
theorem client_streams_intact_cut :
    let send : bridge_env :=
      { drain := { send := { result :=
          { rounds := [{ wait := .read (framed_rx_packet (loraham_hdr ++ ascii "A>B:x")) },
              { wait := .read result_frame }]
            client := fun _ => [.accept 3, .fail] } } } }
    let s := bridge_run lhkt_config_defaults {} (iteration client_connects ++
      iteration (packet_arrives (ascii "x") status_ready) ++ [send])
    s.rx.stats.loraham_tx = 1 ∧ s.clients.map (·.map Sent.taken) = [[3]] ∧
      ∀ k ∈ s.clients, FramedBy IsKissFrame (bytes k) := by
  refine ⟨by decide +kernel, by decide +kernel, fun k hk => ?_⟩
  refine ((client_streams_intact lhkt_config_defaults {} _ ?_).1 k
    (List.mem_append_left _ hk)).2.2
  refine ⟨?_, ?_, ?_, ?_, ?_, ?_, ?_, ?_, ?_, ?_, ?_, ?_, ?_, trivial⟩
  -- the last step is the transmission; in front of it the queue is empty at every drain
  rotate_right
  · intro _ _ _ _ _ _ _ _ _ _
    refine ⟨⟨⟨LORAHAM_TX_STATUS_OK, 3, 0x1234⟩, by decide +kernel⟩, by decide +kernel, ?_⟩
    exact .inr (.inl (by decide +kernel))
  all_goals first
    | exact clientFailureReported_of_empty (by decide +kernel)
    | exact fun hpc => absurd hpc (by decide +kernel)

/-- A delivery cut short during the wait for a TX_RESULT that never comes: the
client stays, and the next packet is written behind the truncated frame. -/
theorem client_stream_cut_inside :
    let rx := framed_rx_packet (loraham_hdr ++ ascii "A>B:x")
    let send : bridge_env :=
      { drain := { send := { result :=
          { rounds := [{ wait := .read rx }], client := fun _ => [.accept 3, .fail] } } } }
    let s := bridge_run lhkt_config_defaults {}
      (iteration client_connects ++ iteration (packet_arrives (ascii "x") status_ready) ++
        [send, send] ++ iteration (data_arrives rx))
    s.client_fd = true ∧ s.rx.client_tx.map Sent.taken = [3, 20] ∧
      ¬ Intact Sent.Complete s.rx.client_tx := by
  decide +kernel

end LorahamKissTnc.ClientStream
