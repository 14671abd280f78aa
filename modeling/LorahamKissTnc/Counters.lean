/-
The counters against what happened.

Every counter of `lhkt_stats_t` is incremented somewhere along a path and never
looked at by the bridge, so nothing but the code says that they fit together. Two
such facts hold in every state of every run. `reconnects_counted`: the counter
`socket_reconnects` is a function of the connections there have been, in which a
lost DATA connection weighs twice, since its loss and its replacement are both
counted, and a lost CONF connection once. `texts_counted`: every text taken from
the radio and every frame taken from the client is in exactly one of the counters
of the next stage, and the counters at the end of the way to the client are the
numbers of KISS frames handed to clients and of those that got through whole.
-/
import LorahamKissTnc.StepRules
import LorahamKissTnc.Limits

set_option autoImplicit false

open LorahamKissTnc.Lib.CString LorahamKissTnc.Lib.Channel LorahamKissTnc.Lib.Machine
open LorahamKissTnc.Config LorahamKissTnc.Kiss LorahamKissTnc.Ax25 LorahamKissTnc.Tnc2
open LorahamKissTnc.LorahamSock LorahamKissTnc.BridgeConf LorahamKissTnc.BridgeTxQueue
open LorahamKissTnc.BridgeRx LorahamKissTnc.BridgeKiss LorahamKissTnc.BridgeLoraham
open LorahamKissTnc.Bridge LorahamKissTnc.Connections LorahamKissTnc.StepRules
open LorahamKissTnc.Limits

namespace LorahamKissTnc.Counters

variable {cfg : lhkt_config_t}

/-! ## Reconnects -/

/-- The connections there have been, as `socket_reconnects` counts them. -/
def connections (s : bridge_t) : Nat :=
  s.conf.closed.length + 2 * s.data.closed.length + s.data.fd.toNat

/-- The counter and the connections keep step from a common start. -/
def Reconnected (first : Bool) (s : bridge_t) : Prop :=
  s.rx.stats.socket_reconnects + first.toNat = connections s

theorem Reconnected.congr {first : Bool} {s s' : bridge_t} (h : Reconnected first s)
    (hstats : s'.rx.stats.socket_reconnects = s.rx.stats.socket_reconnects)
    (hconf : s'.conf.closed = s.conf.closed) (hfd : s'.data.fd = s.data.fd)
    (hdata : s'.data.closed = s.data.closed) : Reconnected first s' := by
  unfold Reconnected connections at *
  rw [hstats, hconf, hfd, hdata]
  exact h

/-- Neither the receiver nor a transmission counts reconnects. -/
theorem txRule_reconnects (client_fd : Bool) (n : Nat) :
    TxRule client_fd (fun c => c.stats.socket_reconnects = n) := by
  have hcount : ∀ (c : bridge_rx_t) (counter : lhkt_counter), counter ≠ .socket_reconnects →
      c.stats.socket_reconnects = n → (c.count counter).stats.socket_reconnects = n := by
    intro c counter hne hc
    cases counter <;> first | exact hc | exact absurd rfl hne
  have hrx : RxInvariant (fun c => c.stats.socket_reconnects = n) := by
    refine ⟨fun c counter hcounter hc => hcount c counter ?_ hc, fun _ _ hc => hc,
      fun _ _ _ _ hc => hc⟩
    rintro rfl
    exact absurd hcounter (by decide)
  refine { RxRule.of_invariant hrx client_fd with
    restore_failed := fun c hc => hcount c _ (by decide) hc
    confirmed := fun c hc => hcount c _ (by decide) hc
    logged_ok := fun _ _ hc => hc
    unconfirmed := fun _ _ hc => hc }

/-- Giving up DATA counts one, if it was open. -/
theorem drop_data_reconnected {first : Bool} {s : bridge_t} (h : Reconnected first s) :
    Reconnected first (drop_data s) := by
  unfold drop_data bridge_loraham_disconnect_data_socket
  unfold Reconnected connections at *
  dsimp only
  split
  · exact h
  · rename_i hfd
    have hfd : s.data.fd = true := by simpa using hfd
    rw [hfd] at h
    -- the loss is counted once more than the open connection was
    show s.rx.stats.socket_reconnects + 1 + first.toNat = s.conf.closed.length
      + 2 * (s.data.closed ++ [s.data.link]).length + Bool.toNat false
    rw [List.length_append, List.length_singleton]
    simp only [Bool.toNat_true, Bool.toNat_false] at h ⊢
    omega

/-- Giving up CONF counts one, if it was open. -/
theorem drop_conf_reconnected {first : Bool} {s : bridge_t} (h : Reconnected first s) :
    Reconnected first (drop_conf s) := by
  unfold drop_conf bridge_loraham_disconnect_conf_socket
  unfold Reconnected connections at *
  dsimp only
  split
  · exact h
  · show s.rx.stats.socket_reconnects + 1 + first.toNat
      = (s.conf.closed ++ [s.conf.tx]).length + 2 * s.data.closed.length + s.data.fd.toNat
    rw [List.length_append, List.length_singleton]
    omega

/-- One step of the main loop. -/
theorem bridge_step_reconnected {first : Bool} (s : bridge_t) (e : bridge_env)
    (h : Reconnected first s) :
    (bridge_step cfg s e).pc ≠ .done → Reconnected first (bridge_step cfg s e) := by
  refine bridge_step_pieces (P := Reconnected first)
    (Q := fun s => s.pc ≠ .done → Reconnected first s) s e h (fun _ hs _ => hs) ?_
    (fun _ _ _ _ _ hs => hs.congr rfl rfl rfl rfl) (fun _ hs => hs.congr rfl rfl rfl rfl)
    (fun _ hs => hs.congr rfl rfl rfl rfl) (fun _ hs => hs.congr rfl rfl rfl rfl)
    (fun _ hs => hs.congr rfl rfl rfl rfl) (fun _ hs => drop_data_reconnected hs)
    (fun _ hs => drop_conf_reconnected hs) ?_ (fun _ hs _ => hs.congr rfl rfl rfl rfl) ?_ ?_
    (fun _ hs _ => hs.congr rfl rfl rfl rfl) ?_ ?_ ?_
  · exact fun s _ hpc => absurd (bridge_exit_pc s) hpc
  · intro _ _
    have hdata := submits_drain cfg e.drain s.client_fd s.toio_t s.txq
    have hconf := retunes_drain cfg e.drain s.client_fd s.toio_t s.txq
    exact h.congr ((txRule_reconnects s.client_fd _).drain e.drain s.txq rfl) hconf.closed
      hdata.fd hdata.closed
  · intro s hs _ hfd
    unfold Reconnected connections at *
    rw [hfd] at hs
    show s.rx.stats.socket_reconnects + 1 + first.toNat
      = s.conf.closed.length + 2 * s.data.closed.length + Bool.toNat true
    simp only [Bool.toNat_true, Bool.toNat_false] at hs ⊢
    omega
  · intro s _ hs _ _
    exact hs.congr rfl (send_initial_config_closed cfg e.config s.conf) rfl rfl
  · intro s _ frame now hs
    refine hs.congr ?_ rfl rfl rfl
    apply handle_frame_counts (I := fun stats => stats.socket_reconnects
      = s.rx.stats.socket_reconnects)
    · intro stats counter hcounter hc
      cases counter <;> first | exact hc | exact absurd hcounter (by decide)
    · rfl
  · intro s hs _
    obtain ⟨_, _, hread⟩ := bridge_conf_read_available_frame e.conf s.conf
    refine hs.congr rfl ?_ rfl rfl
    rw [hread]
  · intro s b buf hs _ _
    exact hs.congr ((txRule_reconnects s.client_fd _).framed_chunk e.client_write (b :: buf)
      s.data.framed s.rx rfl) rfl rfl rfl

/-- **Reconnects are counted.** In every state of every run up to the exit: the
counter is the number of CONF connections lost, and twice the number of DATA
connections lost with the open one, less the one the loop was started with. -/
theorem reconnects_counted (cfg : lhkt_config_t) (start : start_env) (es : List bridge_env)
    (hpc : (bridge_run cfg start es).pc ≠ .done) :
    (bridge_run cfg start es).rx.stats.socket_reconnects + start.data_connect.toNat
      = (bridge_run cfg start es).conf.closed.length
        + 2 * (bridge_run cfg start es).data.closed.length
        + (bridge_run cfg start es).data.fd.toNat := by
  refine run_invariant (P := fun s => s.pc ≠ .done → Reconnected start.data_connect s) ?_ es _
    ?_ hpc
  · intro s e hs hpc
    by_cases hdone : s.pc = .done
    · have hsame : bridge_step cfg s e = s := by rw [bridge_step, hdone]
      rw [hsame] at hpc
      exact absurd hdone hpc
    · exact bridge_step_reconnected s e (hs hdone) hpc
  · unfold bridge_start
    dsimp only
    split
    · exact fun hpc => absurd (bridge_exit_pc _) hpc
    · intro _
      have hclosed := send_initial_config_closed cfg start.config
        { fd := start.conf_connect }
      show 0 + start.data_connect.toNat
        = (bridge_loraham_send_initial_config_with_state start.config cfg
          { fd := start.conf_connect }).1.closed.length + 2 * 0 + start.data_connect.toNat
      rw [hclosed]
      simp

/-- The DATA connection of the start is lost and replaced. -/
theorem reconnects_counted_replaced :
    let gone : bridge_env := { select := .ready { data := true }, data := .read [] }
    let es : List bridge_env := iteration gone ++ ([{}, {}] : List bridge_env)
    (bridge_run lhkt_config_defaults {} es).rx.stats.socket_reconnects + 1 = 3 := by
  intro gone es
  have hcount := reconnects_counted lhkt_config_defaults {} es (by decide +kernel)
  exact hcount.trans (by decide +kernel)

/-! ## Texts on their way to a client -/

/-- The KISS frames handed to clients so far, on all connections. -/
def handed_frames (s : bridge_t) : List (Sent UInt8) := s.clients.flatten ++ s.rx.client_tx

/-- The stages against each other, and the last one against the frames: a text
from the radio parses or is dropped, one for the radio is formatted or dropped,
and every text that parses becomes a frame. -/
structure TextCounts (stats : lhkt_stats_t) (frames : List (Sent UInt8)) : Prop where
  texts : stats.loraham_rx + stats.ax25_rx = stats.tnc2_rx + stats.tnc2_tx + stats.tnc2_drop
  tnc2_rx : stats.tnc2_rx = frames.length
  ax25_tx : stats.ax25_tx = frames.length
  kiss_tx : stats.kiss_tx = (frames.filter fun s => s.Complete).length

theorem textCounts_init : TextCounts {} [] := ⟨rfl, rfl, rfl, rfl⟩

/-- Other counters do not matter. -/
theorem TextCounts.congr {stats stats' : lhkt_stats_t} {frames : List (Sent UInt8)}
    (h : TextCounts stats frames) (hloraham : stats'.loraham_rx = stats.loraham_rx)
    (hax25 : stats'.ax25_rx = stats.ax25_rx) (hrx : stats'.tnc2_rx = stats.tnc2_rx)
    (htx : stats'.tnc2_tx = stats.tnc2_tx) (hdrop : stats'.tnc2_drop = stats.tnc2_drop)
    (hencoded : stats'.ax25_tx = stats.ax25_tx) (hkiss : stats'.kiss_tx = stats.kiss_tx) :
    TextCounts stats' frames := by
  refine ⟨?_, hrx.trans h.tnc2_rx, hencoded.trans h.ax25_tx, hkiss.trans h.kiss_tx⟩
  rw [hloraham, hax25, hrx, htx, hdrop]
  exact h.texts

/-- The counters a text passes. -/
def text_counters : List lhkt_counter :=
  [.loraham_rx, .ax25_rx, .tnc2_rx, .tnc2_tx, .tnc2_drop, .ax25_tx, .kiss_tx]

/-- Other counters do not matter. -/
theorem TextCounts.count {stats : lhkt_stats_t} {frames : List (Sent UInt8)}
    (h : TextCounts stats frames) (counter : lhkt_counter) (hother : counter ∉ text_counters) :
    TextCounts (stats.incr counter) frames := by
  cases counter <;>
    first
    | exact h.congr rfl rfl rfl rfl rfl rfl rfl
    | exact absurd (by decide) hother

/-- **A text for the client** that is connected. -/
theorem TextCounts.text {before : List (Sent UInt8)} {c : bridge_rx_t}
    (h : TextCounts c.stats (before ++ c.client_tx)) (w : Nat → List write_ret) (tnc2 : Bytes) :
    TextCounts (bridge_rx_send_tnc2_to_kiss_client w true tnc2 (c.count .loraham_rx)).1.stats
      (before ++ (bridge_rx_send_tnc2_to_kiss_client w true tnc2
        (c.count .loraham_rx)).1.client_tx) := by
  obtain ⟨htexts, hrx, hencoded, hkiss⟩ := h
  cases hline : tnc2_parse_line tnc2 with
  | error ret =>
      -- a text that is no line is counted as dropped, and nothing is written
      unfold bridge_rx_send_tnc2_to_kiss_client
      rw [hline]
      refine ⟨?_, hrx, hencoded, hkiss⟩
      show c.stats.loraham_rx + 1 + c.stats.ax25_rx
        = c.stats.tnc2_rx + c.stats.tnc2_tx + (c.stats.tnc2_drop + 1)
      omega
  | ok frame =>
      rw [send_tnc2_accepted hline]
      have hwhole := bridge_rx_write_all_fd_ok_iff w (kiss_data_frame (ui_octets frame))
        (((c.count .loraham_rx).count .tnc2_rx).count .ax25_tx).client_tx
      dsimp only
      generalize bridge_rx_write_all_fd w (kiss_data_frame (ui_octets frame))
        (((c.count .loraham_rx).count .tnc2_rx).count .ax25_tx).client_tx = sent at hwhole ⊢
      have htexts' : c.stats.loraham_rx + 1 + c.stats.ax25_rx
          = c.stats.tnc2_rx + 1 + c.stats.tnc2_tx + c.stats.tnc2_drop := by omega
      have hlen : (before ++ (c.client_tx ++ [sent])).length
          = (before ++ c.client_tx).length + 1 := by
        rw [← List.append_assoc, List.length_append, List.length_singleton]
      have hfilter : ((before ++ (c.client_tx ++ [sent])).filter fun s => s.Complete)
          = ((before ++ c.client_tx).filter fun s => s.Complete)
            ++ [sent].filter fun s => s.Complete := by
        rw [← List.append_assoc, List.filter_append]
      cases hok : sent.ok with
      | false =>
          -- handed to the client, but not taken as a whole
          have hcut : ¬ sent.Complete := fun hc => absurd (hok.symm.trans (hwhole.mpr hc)) (by simp)
          rw [List.filter_cons_of_neg (by simpa using hcut), List.filter_nil,
            List.append_nil] at hfilter
          refine ⟨htexts', ?_, ?_, ?_⟩
          · show c.stats.tnc2_rx + 1 = (before ++ (c.client_tx ++ [sent])).length
            rw [hlen, hrx]
          · show c.stats.ax25_tx + 1 = (before ++ (c.client_tx ++ [sent])).length
            rw [hlen, hencoded]
          · show c.stats.kiss_tx
              = ((before ++ (c.client_tx ++ [sent])).filter fun s => s.Complete).length
            rw [hfilter, hkiss]
      | true =>
          have hcomplete : sent.Complete := hwhole.mp hok
          rw [List.filter_cons_of_pos (by simpa using hcomplete), List.filter_nil] at hfilter
          refine ⟨htexts', ?_, ?_, ?_⟩
          · show c.stats.tnc2_rx + 1 = (before ++ (c.client_tx ++ [sent])).length
            rw [hlen, hrx]
          · show c.stats.ax25_tx + 1 = (before ++ (c.client_tx ++ [sent])).length
            rw [hlen, hencoded]
          · show c.stats.kiss_tx + 1
              = ((before ++ (c.client_tx ++ [sent])).filter fun s => s.Complete).length
            rw [hfilter, hkiss, List.length_append, List.length_singleton]

/-- What a transmission does leaves the texts alone, apart from the frames it
delivers while it waits. -/
theorem txRule_texts (client_fd : Bool) (before : List (Sent UInt8)) :
    TxRule client_fd (fun c => TextCounts c.stats (before ++ c.client_tx)) where
  lost := by
    intro c counter hcounter hc
    simp only [List.mem_cons, List.not_mem_nil, or_false] at hcounter
    rcases hcounter with rfl | rfl
    · exact hc.count .loraham_drop (by decide)
    · exact hc.count .loraham_framed_errors (by decide)
  text := fun _ w tnc2 c hc => hc.text w tnc2
  logged := fun _ _ _ _ hc => hc
  restore_failed := fun _ hc => hc.count .tx_restore_failures (by decide)
  confirmed := fun _ hc => hc.count .loraham_tx (by decide)
  logged_ok := fun _ _ hc => hc
  unconfirmed := fun _ _ hc => hc.count .tx_unconfirmed (by decide)

/-- Nothing is written without a client. -/
theorem txRule_silent : TxRule false (fun c => c.client_tx = []) where
  lost := fun _ _ _ hc => hc
  text := fun hno => absurd hno (by simp)
  logged := fun _ _ _ _ hc => hc
  restore_failed := fun _ hc => hc
  confirmed := fun _ hc => hc
  logged_ok := fun _ _ hc => hc
  unconfirmed := fun _ _ hc => hc

/-- **A frame of the client.** -/
theorem handle_frame_texts {stats : lhkt_stats_t} {frames : List (Sent UInt8)}
    (h : TextCounts stats frames) (frame : kiss_frame_t) (kiss_params : kiss_params_t) (now : Int)
    (q : txq_t) :
    TextCounts (bridge_kiss_handle_frame frame kiss_params cfg now stats q).2.1 frames := by
  have hformatted : TextCounts ((stats.incr .ax25_rx).incr .tnc2_tx) frames := by
    refine ⟨?_, h.tnc2_rx, h.ax25_tx, h.kiss_tx⟩
    have htexts := h.texts
    show stats.loraham_rx + (stats.ax25_rx + 1)
      = stats.tnc2_rx + (stats.tnc2_tx + 1) + stats.tnc2_drop
    omega
  unfold bridge_kiss_handle_frame
  dsimp only
  split
  · split
    · exact h.count .kiss_drop (by decide)
    · unfold bridge_kiss_handle_data_frame
      split
      · exact h.count .ax25_drop (by decide)
      · dsimp only
        split
        · refine ⟨?_, h.tnc2_rx, h.ax25_tx, h.kiss_tx⟩
          have htexts := h.texts
          show stats.loraham_rx + (stats.ax25_rx + 1)
            = stats.tnc2_rx + stats.tnc2_tx + (stats.tnc2_drop + 1)
          omega
        · split
          · have hdropped := hformatted.count .loraham_drop (by decide)
            split
            · exact hdropped.count .tx_drop_oversize (by decide)
            · exact hdropped
          · split
            · exact hformatted
            · split
              · exact hformatted.count .loraham_drop (by decide)
              · exact hformatted
  · exact h

/-- The counters agree with the frames, and there are frames for a client only. -/
structure Delivered (s : bridge_t) : Prop where
  counts : TextCounts s.rx.stats (handed_frames s)
  alone : s.client_fd = false → s.rx.client_tx = []

theorem Delivered.congr {s s' : bridge_t} (h : Delivered s)
    (hcounts : TextCounts s'.rx.stats (handed_frames s)) (hclients : s'.clients = s.clients)
    (htx : s'.rx.client_tx = s.rx.client_tx) (hfd : s'.client_fd = s.client_fd) : Delivered s' := by
  refine ⟨?_, by rw [hfd, htx]; exact h.alone⟩
  unfold handed_frames at hcounts ⊢
  rw [hclients, htx]
  exact hcounts

/-- Closing the client moves its frames. -/
theorem close_client_delivered {s : bridge_t} (h : Delivered s) : Delivered (close_client s) := by
  refine ⟨?_, fun _ => rfl⟩
  have hframes : handed_frames (close_client s) = handed_frames s := by
    show (s.clients ++ [s.rx.client_tx]).flatten ++ [] = s.clients.flatten ++ s.rx.client_tx
    simp
  rw [hframes]
  exact h.counts

/-- Giving up DATA hands nothing over. -/
theorem drop_data_delivered {s : bridge_t} (h : Delivered s) : Delivered (drop_data s) := by
  unfold drop_data bridge_loraham_disconnect_data_socket
  dsimp only
  split
  · exact h.congr h.counts rfl rfl rfl
  · exact h.congr (h.counts.count .socket_reconnects (by decide)) rfl rfl rfl

/-- Giving up CONF hands nothing over. -/
theorem drop_conf_delivered {s : bridge_t} (h : Delivered s) : Delivered (drop_conf s) := by
  unfold drop_conf bridge_loraham_disconnect_conf_socket
  dsimp only
  split
  · exact h.congr h.counts rfl rfl rfl
  · exact h.congr (h.counts.count .socket_reconnects (by decide)) rfl rfl rfl

/-- Leaving the loop moves the frames of the last client to those of the others. -/
theorem bridge_exit_delivered {s : bridge_t} (h : Delivered s) : Delivered (bridge_exit s) := by
  have hcad : Delivered (collect_cad_stats s) :=
    h.congr (h.counts.congr rfl rfl rfl rfl rfl rfl rfl) rfl rfl rfl
  unfold bridge_exit
  dsimp only
  split
  · have hclosed := close_client_delivered hcad
    exact hclosed.congr hclosed.counts rfl rfl rfl
  · exact hcad.congr hcad.counts rfl rfl rfl

/-- What the receiver may do, with the client or without one. -/
theorem Delivered.received {s s' : bridge_t} (h : Delivered s) (hclients : s'.clients = s.clients)
    (hfd : s'.client_fd = s.client_fd)
    (hkept : ∀ {I : bridge_rx_t → Prop}, TxRule s.client_fd I → I s.rx → I s'.rx) :
    Delivered s' := by
  refine ⟨?_, fun hno => ?_⟩
  · unfold handed_frames
    rw [hclients]
    exact hkept (txRule_texts s.client_fd s.clients.flatten) h.counts
  · rw [hfd] at hno
    rw [hno] at hkept
    exact hkept txRule_silent (h.alone hno)

/-- One step of the main loop. -/
theorem bridge_step_delivered (s : bridge_t) (e : bridge_env) (h : Delivered s) :
    Delivered (bridge_step cfg s e) := by
  have hcount : ∀ (s : bridge_t) (counter : lhkt_counter), counter ∉ text_counters →
      Delivered s → Delivered { s with rx := s.rx.count counter } :=
    fun s counter hother hs => hs.congr (hs.counts.count counter hother) rfl rfl rfl
  refine bridge_step_pieces (P := Delivered) s e h (fun _ hs => hs)
    (fun _ hs => bridge_exit_delivered hs) (fun _ _ _ _ _ hs => hs.congr hs.counts rfl rfl rfl)
    (fun _ hs => hs.congr (hs.counts.congr rfl rfl rfl rfl rfl rfl rfl) rfl rfl rfl)
    (fun s hs => hcount s .kiss_drop (by decide) hs)
    (fun s hs => hcount s .client_disconnects (by decide) hs)
    (fun _ hs => close_client_delivered hs) (fun _ hs => drop_data_delivered hs)
    (fun _ hs => drop_conf_delivered hs) ?_ (fun _ hs _ => hs.congr hs.counts rfl rfl rfl) ?_
    (fun _ _ hs _ _ => hs.congr hs.counts rfl rfl rfl) ?_ ?_
    (fun _ hs _ => hs.congr hs.counts rfl rfl rfl) ?_
  · intro _ _
    exact h.received rfl rfl fun hrule hs => hrule.drain e.drain s.txq hs
  · intro s hs _ _
    have hcounted := hcount s .socket_reconnects (by decide) hs
    exact hcounted.congr hcounted.counts rfl rfl rfl
  · intro s hs hfd
    -- there was nothing in the stream of a client that was not there
    refine ⟨?_, fun _ => rfl⟩
    have hframes : handed_frames (open_client s) = handed_frames s := by
      unfold handed_frames
      rw [hs.alone hfd]
      rfl
    rw [hframes]
    exact hs.counts
  · intro s _ frame now hs
    refine hs.congr ?_ rfl rfl rfl
    exact handle_frame_texts (hs.counts.count .kiss_rx (by decide)) frame s.kiss_params now
      s.txq
  · intro s b buf hs _ _
    exact hs.received rfl rfl fun hrule hs =>
      hrule.framed_chunk e.client_write (b :: buf) s.data.framed s.rx hs

theorem bridge_start_delivered (start : start_env) : Delivered (bridge_start cfg start) := by
  have hstart : ∀ s : bridge_t, s.rx = {} → s.clients = [] → Delivered s := by
    intro s hrx hclients
    refine ⟨?_, fun _ => by rw [hrx]⟩
    unfold handed_frames
    rw [hrx, hclients]
    exact textCounts_init
  unfold bridge_start
  dsimp only
  split
  · exact bridge_exit_delivered (hstart _ rfl rfl)
  · exact hstart _ rfl rfl

/-- **Every text is counted once at every stage.** In every state of every run: the
texts from the radio and the frames from the client are together the lines that
parsed, the lines that were formatted, and the drops between them; every line that
parsed became a KISS frame for the client; and the frames counted as sent are
those that went out whole, over all client connections. -/
theorem texts_counted (cfg : lhkt_config_t) (start : start_env) (es : List bridge_env) :
    TextCounts (bridge_run cfg start es).rx.stats (handed_frames (bridge_run cfg start es)) :=
  (run_invariant (fun s e hs => bridge_step_delivered s e hs) es _
    (bridge_start_delivered start)).counts

end LorahamKissTnc.Counters
