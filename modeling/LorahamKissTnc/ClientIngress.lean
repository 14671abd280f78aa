/-
The client side of the main loop, against a server for one client at a time.

The abstract server only knows who came, what was heard and who left, and admits a
peer by its address. The main loop keeps a decoder, five parameters and a queue, and
resets the first two in two places. That these are what the current client's bytes
make of them, and nothing an earlier client left behind, is the refinement
`bridge_serves`: the steps of a run are actions the server accepts, and what was
queued is a selection of what the clients' streams hold. With the daemon's side
(`DaemonView`) it gives the way through the whole bridge, `requested_by_clients`.
-/
import LorahamKissTnc.Lib.Server
import LorahamKissTnc.DaemonView
import LorahamKissTnc.KissIngress

set_option autoImplicit false

open LorahamKissTnc.Lib.CString LorahamKissTnc.Lib.Channel LorahamKissTnc.Lib.Machine
open LorahamKissTnc.Lib.Simulation LorahamKissTnc.Lib.Server
open LorahamKissTnc.Config LorahamKissTnc.Kiss LorahamKissTnc.Ax25 LorahamKissTnc.Tnc2
open LorahamKissTnc.LorahamSock LorahamKissTnc.BridgeConf LorahamKissTnc.BridgeTxQueue
open LorahamKissTnc.BridgeRx LorahamKissTnc.BridgeKiss LorahamKissTnc.BridgeLoraham
open LorahamKissTnc.Bridge LorahamKissTnc.KissStream LorahamKissTnc.OnAir LorahamKissTnc.TxOnce
open LorahamKissTnc.KissIngress LorahamKissTnc.Connections LorahamKissTnc.DaemonView

namespace LorahamKissTnc.ClientIngress

/-! ## What a stream of the client holds -/

/-- The frames a decoder completes on these bytes. -/
def completed (dec : kiss_decoder_t) (bytes : Bytes) : List kiss_frame_t :=
  (client_events dec bytes).filterMap Except.toOption

/-- The frames of a stream, by the batch definition. -/
def frames_in (bytes : Bytes) : List kiss_frame_t := (kiss_batch bytes).filterMap Except.toOption

/-- The parameters a stream sets. -/
def params_after (bytes : Bytes) : kiss_params_t :=
  run kiss_handle_command kiss_params_init (frames_in bytes)

/-- The packet a frame asks for. -/
def packet_of (f : kiss_frame_t) : Option Bytes :=
  if f.command = KISS_CMD_DATA ∧ f.port = 0 then
    Except.toOption do
      let ax25 ← ax25_decode_ui f.data
      let tnc2 ← tnc2_format_line ax25 LHKT_TNC2_MAX_LINE
      loraham_build_aprs_packet tnc2 LHKT_LORAHAM_TX_MAX
  else none

/-- The entry of the queue's history that goes with it. -/
def accept_of (f : kiss_frame_t) : Option tx_accept := (packet_of f).map fun packet => ⟨f, packet⟩

/-- The frames are those that a fresh decoder completes. -/
theorem frames_in_eq (bytes : Bytes) : frames_in bytes = completed kiss_decoder_init bytes := by
  unfold frames_in completed client_events
  rw [kiss_decode_from_init]

/-- What comes behind is decoded from where the decoder is. -/
theorem frames_in_append (a b : Bytes) :
    frames_in (a ++ b) = frames_in a ++ completed (kiss_decode kiss_decoder_init a).1 b := by
  rw [frames_in_eq, frames_in_eq]
  unfold completed client_events
  rw [kiss_decode_append, events_of_append, List.filterMap_append]

/-- The parameters behind more bytes are those behind the frames they complete. -/
theorem params_after_append (a b : Bytes) :
    params_after (a ++ b)
      = run kiss_handle_command (params_after a)
          (completed (kiss_decode kiss_decoder_init a).1 b) := by
  unfold params_after
  rw [frames_in_append, run_append]

/-- A frame adds its packet to the queue's history, or nothing. -/
theorem handle_frame_accepts (f : kiss_frame_t) (params : kiss_params_t) (cfg : lhkt_config_t)
    (now : Int) (stats : lhkt_stats_t) (q : txq_t) :
    ∃ l, (bridge_kiss_handle_frame f params cfg now stats q).2.2.1.accepted = q.accepted ++ l ∧
      l.Sublist ([f].filterMap accept_of) := by
  rcases bridge_kiss_handle_frame_cases f params cfg now stats q with
    hq | ⟨ax25, tnc2, packet, queue, _, hcmd, hport, hax25, htnc2, hpacket, _, hq⟩
  · rw [hq]
    exact ⟨[], (List.append_nil _).symm, List.nil_sublist _⟩
  · have haccept : accept_of f = some ⟨f, packet⟩ := by
      unfold accept_of packet_of
      rw [if_pos ⟨hcmd, hport⟩, hax25]
      show Option.map _ (Except.toOption ((tnc2_format_line ax25 LHKT_TNC2_MAX_LINE).bind _)) = _
      rw [htnc2]
      show Option.map _ (Except.toOption (loraham_build_aprs_packet tnc2 LHKT_LORAHAM_TX_MAX)) = _
      rw [hpacket]
      rfl
    rw [hq]
    refine ⟨[⟨f, packet⟩], rfl, ?_⟩
    rw [List.filterMap_cons_some haccept, List.filterMap_nil]

/-- Of a frame only a command changes the parameters. -/
theorem handle_frame_params (f : kiss_frame_t) (params : kiss_params_t) (cfg : lhkt_config_t)
    (now : Int) (stats : lhkt_stats_t) (q : txq_t) :
    (bridge_kiss_handle_frame f params cfg now stats q).1 = kiss_handle_command params f := by
  unfold bridge_kiss_handle_frame
  dsimp only
  split
  · split <;> rfl
  · rfl

/-! ## What a read does -/

/-- From `s` to `s'` the decoder went to `dec`, and these frames were handled. -/
structure Took (s s' : bridge_t) (dec : kiss_decoder_t) (frames : List kiss_frame_t) : Prop where
  connected : s'.client_fd = s.client_fd
  decoder : s'.kiss_dec = dec
  params : s'.kiss_params = run kiss_handle_command s.kiss_params frames
  accepted : ∃ l, s'.txq.accepted = s.txq.accepted ++ l ∧ l.Sublist (frames.filterMap accept_of)

theorem Took.none {s s' : bridge_t} (hfd : s'.client_fd = s.client_fd)
    (hdec : s'.kiss_dec = s.kiss_dec) (hparams : s'.kiss_params = s.kiss_params)
    (haccepted : s'.txq.accepted = s.txq.accepted) : Took s s' s.kiss_dec [] where
  connected := hfd
  decoder := hdec
  params := hparams
  accepted := ⟨[], by rw [haccepted, List.append_nil], List.nil_sublist _⟩

/-- Frames are taken after each other. -/
theorem Took.append {s s₁ s₂ : bridge_t} {dec dec' : kiss_decoder_t} {fs gs : List kiss_frame_t}
    (h : Took s s₁ dec fs) (h' : Took s₁ s₂ dec' gs) : Took s s₂ dec' (fs ++ gs) := by
  constructor
  · rw [h'.connected, h.connected]
  · exact h'.decoder
  · rw [h'.params, h.params, run_append]
  · obtain ⟨l, hl, hsub⟩ := h.accepted
    obtain ⟨l', hl', hsub'⟩ := h'.accepted
    refine ⟨l ++ l', by rw [hl', hl, List.append_assoc], ?_⟩
    rw [List.filterMap_append]
    exact hsub.append hsub'

/-- One byte. -/
theorem handle_client_byte_took (cfg : lhkt_config_t) (now : Int) (b : UInt8) (s : bridge_t) :
    Took s (handle_client_byte cfg now b s) (kiss_decode_byte s.kiss_dec b).1
      (completed s.kiss_dec [b]) := by
  have hone : completed s.kiss_dec [b]
      = (events_of [(kiss_decode_byte s.kiss_dec b).2]).filterMap Except.toOption := rfl
  rw [hone]
  unfold handle_client_byte
  generalize kiss_decode_byte s.kiss_dec b = r
  obtain ⟨dec, answer⟩ := r
  cases answer with
  | error ret => exact ⟨rfl, rfl, rfl, [], (List.append_nil _).symm, List.nil_sublist _⟩
  | ok frame =>
      cases frame with
      | none => exact ⟨rfl, rfl, rfl, [], (List.append_nil _).symm, List.nil_sublist _⟩
      | some f =>
          have haccepts :=
            handle_frame_accepts f s.kiss_params cfg now (s.rx.stats.incr .kiss_rx) s.txq
          have hparams :=
            handle_frame_params f s.kiss_params cfg now (s.rx.stats.incr .kiss_rx) s.txq
          dsimp only
          -- a socket that is given up behind the frame is no business of the client's
          split
          · exact ⟨rfl, rfl, hparams, haccepts⟩
          · split
            · exact ⟨rfl, rfl, hparams, haccepts⟩
            · exact ⟨rfl, rfl, hparams, haccepts⟩

/-- All bytes of a read. -/
theorem handle_client_bytes_took (cfg : lhkt_config_t) (now : Nat → Int) (buf : Bytes) :
    ∀ (i : Nat) (s : bridge_t), Took s (handle_client_bytes cfg now i buf s)
      (kiss_decode s.kiss_dec buf).1 (completed s.kiss_dec buf) := by
  induction buf with
  | nil => exact fun _ s => Took.none rfl rfl rfl rfl
  | cons b buf ih =>
      intro i s
      have hbyte := handle_client_byte_took cfg (now i) b s
      have hrest := ih (i + 1) (handle_client_byte cfg (now i) b s)
      rw [hbyte.decoder] at hrest
      have hall := hbyte.append hrest
      have hsplit : completed s.kiss_dec (b :: buf) = completed s.kiss_dec [b]
          ++ completed (kiss_decode_byte s.kiss_dec b).1 buf := by
        unfold completed
        rw [client_events_cons, List.filterMap_append]
        rfl
      rw [hsplit]
      exact hall

/-! ## What a step does to the client -/

/-- What the loop has for the client. -/
def client_view (s : bridge_t) : Bool × kiss_decoder_t × kiss_params_t × List tx_accept :=
  (s.client_fd, s.kiss_dec, s.kiss_params, s.txq.accepted)

/-- The client is gone, or nobody was there. -/
def Left (s s' : bridge_t) : Prop :=
  client_view s' = (false, kiss_decoder_init, kiss_params_init, s.txq.accepted)

/-- Nothing happened to the client, or it is gone. -/
def Rests (s s' : bridge_t) : Prop := client_view s' = client_view s ∨ Left s s'

theorem Rests.trans {s s₁ s₂ : bridge_t} (h : Rests s s₁) (h' : Rests s₁ s₂) : Rests s s₂ := by
  have haccepted : s₁.txq.accepted = s.txq.accepted := by
    rcases h with hsame | hleft
    · exact congrArg (·.2.2.2) hsame
    · exact congrArg (·.2.2.2) hleft
  rcases h' with hsame | hleft
  · rcases h with hsame' | hleft'
    · exact .inl (hsame.trans hsame')
    · exact .inr (hsame.trans hleft')
  · refine .inr (hleft.trans ?_)
    rw [haccepted]

/-- Leaving the loop takes nothing from the client. -/
theorem bridge_exit_rests (s : bridge_t) : Rests s (bridge_exit s) := by
  unfold bridge_exit
  dsimp only
  split
  · exact .inr rfl
  · exact .inl rfl

/-- What the loop makes of the result of a drain takes nothing from the client. -/
theorem handle_drain_result_rests (ret : Lhkt) (s : bridge_t) :
    Rests s (handle_drain_result ret s) := by
  unfold handle_drain_result
  split
  · exact .inl rfl
  · split
    · exact .inl rfl
    · split
      · exact .inr rfl
      · exact .inl rfl

/-- A drain takes nothing from the client. -/
theorem drained_rests (cfg : lhkt_config_t) (e : bridge_env) (s : bridge_t) :
    Rests s (drained cfg e s) := by
  have hdrain : Rests s (bridge_drain cfg e s).1 := by
    have haccepted : (bridge_drain cfg e s).1.txq.accepted = s.txq.accepted :=
      drain_accepted e.drain cfg s.client_fd s.toio_t s.txq
    exact .inl (congrArg (fun l => (s.client_fd, s.kiss_dec, s.kiss_params, l)) haccepted)
  have hcad : Rests (handle_drain_result (bridge_drain cfg e s).2 (bridge_drain cfg e s).1)
      (drained cfg e s) := .inl rfl
  exact (hdrain.trans (handle_drain_result_rests _ _)).trans hcad

theorem bridge_top_rests (cfg : lhkt_config_t) (e : bridge_env) (s : bridge_t) :
    Rests s (bridge_top cfg e s) := by
  cases hstop : s.stop || e.signal with
  | true =>
      rw [bridge_top_stopping hstop]
      have hflag : Rests s { s with stop := true } := .inl rfl
      exact hflag.trans (bridge_exit_rests _)
  | false =>
      rw [bridge_top_running hstop]
      split
      · exact (drained_rests cfg e s).trans (bridge_exit_rests _)
      · exact (drained_rests cfg e s).trans (.inl rfl)

/-- A select timeout only looks after the connections. -/
theorem bridge_timeout_view (cfg : lhkt_config_t) (e : bridge_env) (s : bridge_t) :
    client_view (bridge_timeout cfg e s) = client_view s := by
  refine bridge_timeout_elim (P := fun s' => client_view s' = client_view s) cfg e s rfl
    (fun _ => rfl) (fun _ _ _ => rfl) ?_
  intro _ _ _
  unfold pending_config
  dsimp only
  split <;> rfl

theorem bridge_select_rests (cfg : lhkt_config_t) (e : bridge_env) (s : bridge_t) :
    Rests s (bridge_select cfg e s) := by
  unfold bridge_select
  split
  · exact bridge_exit_rests s
  · exact .inl rfl
  · exact .inl (bridge_timeout_view cfg e s)
  · exact .inl rfl

theorem bridge_conf_rests (e : bridge_env) (s : bridge_t) :
    Rests s (Bridge.bridge_conf e s) := by
  unfold Bridge.bridge_conf
  split
  · dsimp only
    split <;> exact .inl rfl
  · exact .inl rfl

/-- The data phase may close the client, and takes nothing from it. -/
theorem bridge_data_rests (e : bridge_env) (s : bridge_t) : Rests s (bridge_data e s) := by
  unfold bridge_data
  split
  · split
    · exact .inl rfl
    · exact .inl rfl
    · exact .inl rfl
    · -- a text that cannot be delivered costs the client its connection
      unfold handle_chunk_result
      dsimp only
      split
      · exact .inr rfl
      · split <;> exact .inl rfl
  · exact .inl rfl

/-- A client from this address is taken in. -/
def Came (cfg : lhkt_config_t) (e : bridge_env) (s s' : bridge_t) : Prop :=
  s.client_fd = false ∧
    client_view s' = (true, kiss_decoder_init, kiss_params_init, s.txq.accepted) ∧
    ∃ addr nonblocking, e.accept = .peer addr nonblocking ∧
      lhkt_ipv4_in_cidr addr cfg.bind_net cfg.bind_prefix = true

/-- **The accept phase**: nobody comes, or a client that may. -/
theorem bridge_accept_visit (cfg : lhkt_config_t) (e : bridge_env) (s : bridge_t) :
    Rests s (bridge_accept cfg e s) ∨ Came cfg e s (bridge_accept cfg e s) := by
  unfold bridge_accept
  by_cases hlisten : !s.client_fd ∧ s.ready.listen
  · rw [if_pos hlisten]
    have hnone : s.client_fd = false := by simpa using hlisten.1
    cases haccept : e.accept with
    | again => exact .inl (.inl rfl)
    | fail => exact .inl (.inl rfl)
    | peer addr nonblocking =>
        dsimp only
        -- the address is looked at before anything is set up for the client
        by_cases hgate : lhkt_ipv4_in_cidr addr cfg.bind_net cfg.bind_prefix = true
        · rw [if_neg (by rw [hgate]; decide)]
          cases hblock : nonblocking with
          | false => exact .inl (.inl rfl)
          | true => exact .inr ⟨hnone, rfl, addr, nonblocking, haccept, hgate⟩
        · rw [if_pos (by simpa using hgate)]
          exact .inl (.inl rfl)
  · rw [if_neg hlisten]
    exact .inl (.inl rfl)

/-- The client side of a step: what was read is handled, and the client stays; or the
client is gone; or one comes. -/
theorem bridge_step_visit (cfg : lhkt_config_t) (s : bridge_t) (e : bridge_env) :
    Took s (bridge_step cfg s e) (kiss_decode s.kiss_dec (read_bytes s e)).1
        (completed s.kiss_dec (read_bytes s e)) ∨
      Left s (bridge_step cfg s e) ∨ Came cfg e s (bridge_step cfg s e) := by
  -- without a read the client's state is as it was, or reset
  have hrests : read_bytes s e = [] → Rests s (bridge_step cfg s e) →
      Took s (bridge_step cfg s e) (kiss_decode s.kiss_dec (read_bytes s e)).1
          (completed s.kiss_dec (read_bytes s e)) ∨
        Left s (bridge_step cfg s e) ∨ Came cfg e s (bridge_step cfg s e) := by
    intro hread hrest
    rw [hread]
    rcases hrest with hsame | hleft
    · exact .inl (Took.none (congrArg (·.1) hsame) (congrArg (·.2.1) hsame)
        (congrArg (·.2.2.1) hsame) (congrArg (·.2.2.2) hsame))
    · exact .inr (.inl hleft)
  have hunread : s.pc ≠ .client → read_bytes s e = [] := fun hpc => if_neg fun h => hpc h.1
  cases hpc : s.pc with
  | top =>
      apply hrests (hunread (by rw [hpc]; decide))
      rw [bridge_step, hpc]
      exact bridge_top_rests cfg e s
  | select =>
      apply hrests (hunread (by rw [hpc]; decide))
      rw [bridge_step, hpc]
      exact bridge_select_rests cfg e s
  | accept =>
      have hread := hunread (by rw [hpc]; decide)
      rcases bridge_accept_visit cfg e s with hrest | hcame
      · apply hrests hread
        rw [bridge_step, hpc]
        exact hrest
      · refine .inr (.inr ?_)
        rw [bridge_step, hpc]
        exact hcame
  | client =>
      rw [bridge_step_client cfg e hpc]
      by_cases hready : s.client_fd = true ∧ s.ready.client = true
      · unfold read_bytes bridge_client
        rw [if_pos hready, if_pos ⟨hpc, hready⟩]
        cases e.client with
        | soft => exact .inl (Took.none rfl rfl rfl rfl)
        | fail => exact .inr (.inl rfl)
        | read bytes =>
            cases bytes with
            | nil => exact .inr (.inl rfl)
            | cons b buf =>
                have htook := handle_client_bytes_took cfg e.now (b :: buf) 0 s
                exact .inl ⟨htook.connected, htook.decoder, htook.params, htook.accepted⟩
      · unfold read_bytes bridge_client
        rw [if_neg hready, if_neg fun h => hready h.2]
        exact .inl (Took.none rfl rfl rfl rfl)
  | conf =>
      apply hrests (hunread (by rw [hpc]; decide))
      rw [bridge_step, hpc]
      exact bridge_conf_rests e s
  | data =>
      apply hrests (hunread (by rw [hpc]; decide))
      rw [bridge_step, hpc]
      exact bridge_data_rests e s
  | done =>
      apply hrests (hunread (by rw [hpc]; decide))
      rw [bridge_step, hpc]
      exact .inl rfl

/-! ## The refinement -/

/-- The peers the configuration admits. -/
def admitted (cfg : lhkt_config_t) (addr : UInt32) : Bool :=
  lhkt_ipv4_in_cidr addr cfg.bind_net cfg.bind_prefix

/-- What a step is for the server: read off the client's descriptor before and behind
it, the peer of `accept`, and what was read. -/
def client_actions (cfg : lhkt_config_t) (s : bridge_t) (e : bridge_env) :
    List (action UInt32 UInt8) :=
  match s.client_fd, (bridge_step cfg s e).client_fd, e.accept with
  | false, true, .peer addr _ => [.come addr]
  | false, _, _ => []
  | true, true, _ => [.hear (read_bytes s e)]
  | true, false, _ => [.leave]

/-- The packets the clients' streams ask for, each with its frame. -/
def asked (v : server UInt32 UInt8) : List tx_accept :=
  v.output fun bytes => (frames_in bytes).filterMap accept_of

/-- The loop has for the client what the server has heard from it, and has queued a
selection of what was asked for. -/
structure Served (s : bridge_t) (v : server UInt32 UInt8) : Prop where
  connected : s.client_fd = v.now.isSome
  decoder : s.kiss_dec = (kiss_decode kiss_decoder_init v.hearing).1
  params : s.kiss_params = params_after v.hearing
  accepted : s.txq.accepted.Sublist (asked v)

/-- With nobody there the loop is as it was at the start. -/
theorem Served.of_none {s : bridge_t} {v : server UInt32 UInt8} (hnow : v.now = none)
    (hview : client_view s = (false, kiss_decoder_init, kiss_params_init, s.txq.accepted))
    (haccepted : s.txq.accepted.Sublist (asked v)) : Served s v := by
  have hhearing : v.hearing = [] := by
    unfold server.hearing
    rw [hnow]
  constructor
  · rw [hnow]
    exact congrArg (·.1) hview
  · rw [hhearing]
    exact congrArg (·.2.1) hview
  · rw [hhearing]
    exact congrArg (·.2.2.1) hview
  · exact haccepted

/-- A client that comes is served from then on. -/
theorem Served.came {cfg : lhkt_config_t} {e : bridge_env} {s s' : bridge_t}
    {v : server UInt32 UInt8} (h : Served s v) (hcame : Came cfg e s s') :
    ∃ addr nonblocking v', e.accept = .peer addr nonblocking ∧
      serve (admitted cfg) v (.come addr) = some v' ∧ Served s' v' := by
  obtain ⟨hfd, hview, addr, nonblocking, haccept, hgate⟩ := hcame
  have hnow : v.now = none := by
    have hsome := h.connected
    rw [hfd] at hsome
    simpa using hsome.symm
  refine ⟨addr, nonblocking, _, haccept, if_pos ⟨by rw [hnow]; rfl, hgate⟩, ?_⟩
  constructor
  · exact congrArg (·.1) hview
  · exact congrArg (·.2.1) hview
  · exact congrArg (·.2.2.1) hview
  · have haccepted : s'.txq.accepted = s.txq.accepted := congrArg (·.2.2.2) hview
    unfold asked
    rw [haccepted, output_come _ rfl hnow addr]
    exact h.accepted

/-- The visit of a client that leaves is over. -/
theorem Served.left {s s' : bridge_t} {v : server UInt32 UInt8} (h : Served s v)
    (hleft : Left s s') {c : visit UInt32 UInt8} (hnow : v.now = some c) :
    Served s' { past := v.past ++ [c], now := none } := by
  have haccepted : s'.txq.accepted = s.txq.accepted := congrArg (·.2.2.2) hleft
  refine Served.of_none rfl ?_ ?_
  · rw [haccepted]
    exact hleft
  · unfold asked
    rw [haccepted, output_leave _ hnow]
    exact h.accepted

/-- What is read goes on where the decoder was, on both sides. -/
theorem Served.took {s s' : bridge_t} {v : server UInt32 UInt8} (h : Served s v) {data : Bytes}
    (htook : Took s s' (kiss_decode s.kiss_dec data).1 (completed s.kiss_dec data))
    {c : visit UInt32 UInt8} (hnow : v.now = some c) :
    Served s' { v with now := some { c with heard := c.heard ++ data } } := by
  have hhearing : v.hearing = c.heard := by
    unfold server.hearing
    rw [hnow]
  have hdec := h.decoder
  have hparams := h.params
  rw [hhearing] at hdec hparams
  rw [hdec] at htook
  constructor
  · rw [htook.connected, h.connected, hnow]
    rfl
  · rw [htook.decoder]
    show _ = (kiss_decode kiss_decoder_init (c.heard ++ data)).1
    rw [kiss_decode_append]
  · rw [htook.params, hparams]
    exact (params_after_append c.heard data).symm
  · obtain ⟨l, hl, hsub⟩ := htook.accepted
    have hmore : (frames_in (c.heard ++ data)).filterMap accept_of
        = (frames_in c.heard).filterMap accept_of
          ++ (completed (kiss_decode kiss_decoder_init c.heard).1 data).filterMap accept_of := by
      rw [frames_in_append, List.filterMap_append]
    unfold asked
    rw [hl, output_hear _ hnow hmore]
    exact h.accepted.append hsub

/-- Nobody is there, nobody comes. -/
theorem Served.idle {s s' : bridge_t} {v : server UInt32 UInt8} (h : Served s v)
    (hfd : s.client_fd = false)
    (hstep : client_view s' = client_view s ∨ Left s s') : Served s' v := by
  have hnow : v.now = none := by
    have hsome := h.connected
    rw [hfd] at hsome
    simpa using hsome.symm
  have hhearing : v.hearing = [] := by
    unfold server.hearing
    rw [hnow]
  have hview : client_view s = (false, kiss_decoder_init, kiss_params_init, s.txq.accepted) := by
    unfold client_view
    rw [hfd, h.decoder, h.params, hhearing]
    rfl
  have hgone : client_view s' = (false, kiss_decoder_init, kiss_params_init, s.txq.accepted) := by
    rcases hstep with hsame | hleft
    · exact hsame.trans hview
    · exact hleft
  have haccepted : s'.txq.accepted = s.txq.accepted := congrArg (·.2.2.2) hgone
  refine Served.of_none hnow ?_ ?_
  · rw [haccepted]
    exact hgone
  · rw [haccepted]
    exact h.accepted

/-- **One step.** The server accepts what the step is for it. -/
theorem bridge_step_serves (cfg : lhkt_config_t) :
    Simulates (bridge_step cfg) (fun _ _ => True) (serve (admitted cfg)) (client_actions cfg)
      Served where
  step := by
    intro s v e h _
    have hvisit := bridge_step_visit cfg s e
    unfold client_actions
    generalize bridge_step cfg s e = s' at hvisit ⊢
    cases hfd : s.client_fd with
    | false =>
        -- without a client nothing is read, and one may come
        have hunread : read_bytes s e = [] := if_neg (by rw [hfd]; simp)
        rw [hunread] at hvisit
        rcases hvisit with htook | hleft | hcame
        · have hoff : s'.client_fd = false := htook.connected.trans hfd
          rw [hoff]
          refine ⟨v, rfl, h.idle hfd (.inl ?_)⟩
          obtain ⟨l, hl, hsub⟩ := htook.accepted
          rw [List.sublist_nil.mp hsub, List.append_nil] at hl
          unfold client_view
          rw [htook.connected, htook.decoder, htook.params, hl]
          rfl
        · have hoff : s'.client_fd = false := congrArg (·.1) hleft
          rw [hoff]
          exact ⟨v, rfl, h.idle hfd (.inr hleft)⟩
        · have hon : s'.client_fd = true := congrArg (·.1) hcame.2.1
          obtain ⟨addr, nonblocking, v', haccept, hserve, hserved⟩ := h.came hcame
          rw [hon, haccept]
          refine ⟨v', ?_, hserved⟩
          show (serve (admitted cfg) v (.come addr)).bind some = some v'
          rw [hserve]
          rfl
    | true =>
        -- with a client, it is heard or it leaves; nobody else comes
        obtain ⟨c, hnow⟩ : ∃ c, v.now = some c := by
          have hsome := h.connected
          rw [hfd] at hsome
          exact Option.isSome_iff_exists.mp hsome.symm
        rcases hvisit with htook | hleft | hcame
        · have hon : s'.client_fd = true := htook.connected.trans hfd
          rw [hon]
          refine ⟨_, ?_, h.took htook hnow⟩
          show (serve (admitted cfg) v (.hear (read_bytes s e))).bind some = _
          rw [serve, hnow]
          rfl
        · have hoff : s'.client_fd = false := congrArg (·.1) hleft
          rw [hoff]
          refine ⟨_, ?_, h.left hleft hnow⟩
          show (serve (admitted cfg) v .leave).bind some = _
          rw [serve, hnow]
          rfl
        · exact absurd (hfd.symm.trans hcame.1) (by decide)

theorem bridge_start_served (cfg : lhkt_config_t) (start : start_env) :
    Served (bridge_start cfg start) {} := by
  have hview : client_view (bridge_start cfg start)
      = (false, kiss_decoder_init, kiss_params_init, (bridge_start cfg start).txq.accepted) := by
    rw [bridge_start_txq]
    unfold bridge_start
    dsimp only
    split <;> rfl
  refine Served.of_none rfl hview ?_
  rw [bridge_start_txq]
  exact List.nil_sublist _

/-- **Every run serves**: what its steps do with clients is what a server does. -/
theorem bridge_run_served (cfg : lhkt_config_t) (start : start_env) (es : List bridge_env) :
    ∃ v, (labels (bridge_step cfg) (client_actions cfg) (bridge_start cfg start) es).foldlM
        (serve (admitted cfg)) {} = some v ∧ Served (bridge_run cfg start es) v :=
  (bridge_step_serves cfg).run es _ _ (bridge_start_served cfg start)
    (guarded_of_forall es (fun _ _ => trivial) _)

/-- **The client side is a server for one client at a time.** In every run the server
accepts what the steps are for it, and it admits by address. In the state reached the
decoder and the parameters are those of the current client's bytes alone, and the
queue has accepted a selection, in order, of the packets asked for by the frames in
the clients' streams, none of them put together from two clients' bytes. -/
theorem bridge_serves (cfg : lhkt_config_t) (start : start_env) (es : List bridge_env) :
    ∃ v, (labels (bridge_step cfg) (client_actions cfg) (bridge_start cfg start) es).foldlM
        (serve (admitted cfg)) {} = some v ∧
      Served (bridge_run cfg start es) v ∧
      ∀ c ∈ v.visits, lhkt_ipv4_in_cidr c.peer cfg.bind_net cfg.bind_prefix = true := by
  obtain ⟨v, hactions, hserved⟩ := bridge_run_served cfg start es
  exact ⟨v, hactions, hserved,
    served_admitted _ hactions fun _ hc => absurd hc List.not_mem_nil⟩

/-! ## Through the whole bridge -/

/-- The packets among what was asked for. -/
theorem asked_packets (v : server UInt32 UInt8) :
    (asked v).map tx_accept.packet = (v.output frames_in).filterMap packet_of := by
  unfold asked server.output
  rw [List.map_flatMap, List.filterMap_flatMap]
  congr 1
  funext c
  rw [List.map_filterMap]
  congr 1
  funext f
  unfold accept_of
  rw [Option.map_map]
  exact Option.map_id_apply

/-- **What the daemon receives was asked for.** In every run, what the daemon decodes
as packets on all DATA connections is a selection, in order and without repetition, of
the packets that the frames in the streams of admitted clients ask for. -/
theorem requested_by_clients (cfg : lhkt_config_t) (start : start_env) (es : List bridge_env)
    (hfcntl : ∀ e ∈ es, e.drain.send.write.FcntlOk) :
    ∃ v, (labels (bridge_step cfg) (client_actions cfg) (bridge_start cfg start) es).foldlM
        (serve (admitted cfg)) {} = some v ∧
      (∀ c ∈ v.visits, lhkt_ipv4_in_cidr c.peer cfg.bind_net cfg.bind_prefix = true) ∧
      ((daemon_received (bridge_run cfg start es).data).map loraham_frame_t.payload).Sublist
        ((v.output frames_in).filterMap packet_of) := by
  obtain ⟨v, hactions, hserved⟩ := bridge_run_served cfg start es
  have honce : Once (bridge_run cfg start es) := run_induction (P := Once)
    (fun s e hs he => bridge_step_once cfg s e hs he) es _ (bridge_start_once cfg start)
    (guarded_of_forall es hfcntl _)
  obtain ⟨hsent, hsub⟩ := daemon_received_sublist honce (bridge_run_taken cfg start es)
  refine ⟨v, hactions, served_admitted _ hactions fun _ hc => absurd hc List.not_mem_nil, ?_⟩
  rw [hsent, ← asked_packets]
  exact hsub.trans (hserved.accepted.map _)

/-- A client that leaves in the middle of a frame, and another one whose packet the
daemon gets: what the first had sent of its frame is gone with it. -/
theorem requested_by_clients_cut :
    let half : bridge_env :=
      { select := .ready { client := true }
        client := .read ((kiss_data_frame (ascii "lost")).take 3) }
    let gone : bridge_env := { select := .ready { client := true }, client := .read [] }
    let es := iteration client_connects ++ iteration half ++ (iteration gone).take 4 ++
      iteration client_connects ++ iteration (packet_arrives (ascii "x") status_ready) ++
      [({} : bridge_env)]
    let s := bridge_run lhkt_config_defaults {} es
    (daemon_received s.data).length = 1 ∧ s.rx.stats.kiss_drop = 0 ∧
      ∃ v, (labels (bridge_step lhkt_config_defaults) (client_actions lhkt_config_defaults)
          (bridge_start lhkt_config_defaults {}) es).foldlM
          (serve (admitted lhkt_config_defaults)) {} = some v ∧
        (∀ c ∈ v.visits, lhkt_ipv4_in_cidr c.peer lhkt_config_defaults.bind_net
          lhkt_config_defaults.bind_prefix = true) ∧
        ((daemon_received s.data).map loraham_frame_t.payload).Sublist
          ((v.output frames_in).filterMap packet_of) := by
  intro half gone es s
  exact ⟨by decide +kernel, by decide +kernel,
    requested_by_clients lhkt_config_defaults {} es (by decide +kernel)⟩

end LorahamKissTnc.ClientIngress
