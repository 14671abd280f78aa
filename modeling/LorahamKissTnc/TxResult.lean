/-
Which TX_RESULT a packet is recorded with.

The protocol carries no correlation, so the bridge takes the first TX_RESULT it
reads after a packet for that packet's result. That is right because no earlier
result can still be unread when a packet is written: a wait that ends without a
result, or with an invalid one, gives the connection up together with whatever
may still come on it. `Answered` is this balance: between two steps every packet
written on the open connection has had its result.

A record names its packet by connection and by position. `RecordTrue` compares
it with the result frame at the same position among those the daemon sent on the
same connection, and the RF log and the counters are what is on record (`Shown`).

A daemon that sends TX_RESULT frames says so in its STATUS lines. Where the bridge
reads that off none of them, it takes the CONF events for the result instead, and
reports a packet as transmitted whose TX_RESULT it never looks at. `Announces` is the
condition on the lines.
-/
import LorahamKissTnc.TxGate
import LorahamKissTnc.TxWait
import LorahamKissTnc.TxDrops
import LorahamKissTnc.TxRecords
import LorahamKissTnc.RxPacket
import LorahamKissTnc.ConfStatus
import LorahamKissTnc.StepRules

set_option autoImplicit false

open LorahamKissTnc.Lib.CString LorahamKissTnc.Lib.Channel LorahamKissTnc.Lib.Machine
open LorahamKissTnc.Config LorahamKissTnc.LorahamSock LorahamKissTnc.BridgeConf
open LorahamKissTnc.BridgeTxQueue LorahamKissTnc.BridgeRx LorahamKissTnc.BridgeKiss
open LorahamKissTnc.BridgeLoraham LorahamKissTnc.Bridge LorahamKissTnc.FramedStream
open LorahamKissTnc.TxOnce LorahamKissTnc.TxGate LorahamKissTnc.TxWait LorahamKissTnc.RxPacket
open LorahamKissTnc.TxAccounting LorahamKissTnc.TxDrops LorahamKissTnc.TxRecords
open LorahamKissTnc.ConfStatus LorahamKissTnc.StepRules

namespace LorahamKissTnc.TxResult

/-! ## Results and packets -/

/-- The TX_RESULT frames among the answers of the decoder. -/
def results_of (answers : List (Except Lhkt (Option loraham_frame_t))) : List loraham_frame_t :=
  (frames_of answers).filter fun frame => frame.type = LORAHAM_FRAME_TX_RESULT

/-- The TX_RESULT frames the daemon sent on a connection, as far as they were
read. -/
def tx_results (rx : Bytes) : List loraham_frame_t :=
  results_of (loraham_framed_decode loraham_framed_rx_state_init rx).2

/-- The DATA connections, the one now open last. -/
def links (d : data_t) : List data_link := d.closed ++ [d.link]

theorem results_of_append (a b : List (Except Lhkt (Option loraham_frame_t))) :
    results_of (a ++ b) = results_of a ++ results_of b := by
  unfold results_of
  rw [frames_of_append, List.filter_append]

/-- More bytes give more results. -/
theorem tx_results_append (rx bytes : Bytes) :
    tx_results (rx ++ bytes) = tx_results rx
      ++ results_of (loraham_framed_decode
          (loraham_framed_decode loraham_framed_rx_state_init rx).1 bytes).2 := by
  unfold tx_results
  rw [loraham_framed_decode_append, results_of_append]

/-- What decides a wait with success is the first TX_RESULT. -/
theorem results_of_decided {answers : List (Except Lhkt (Option loraham_frame_t))}
    {result : loraham_tx_result_t} {rest : List (Except Lhkt (Option loraham_frame_t))}
    (h : decided answers = some (.ok result, rest)) :
    ∃ frame, results_of answers = frame :: results_of rest ∧
      loraham_decode_tx_result frame = .ok result := by
  induction answers with
  | nil => exact nomatch h
  | cons answer answers ih =>
      match answer with
      | .error _ => exact nomatch (Prod.mk.inj (Option.some.inj h)).1
      | .ok none => exact ih h
      | .ok (some frame) =>
          have hframes : frames_of (.ok (some frame) :: answers) = frame :: frames_of answers := rfl
          rw [decided] at h
          unfold results_of
          rw [hframes]
          by_cases htype : frame.type = LORAHAM_FRAME_TX_RESULT
          · rw [if_pos htype] at h
            obtain ⟨hverdict, rfl⟩ := Prod.mk.inj (Option.some.inj h)
            refine ⟨frame, List.filter_cons_of_pos (by simpa using htype), ?_⟩
            unfold frame_verdict at hverdict
            split at hverdict
            · exact nomatch hverdict
            · rename_i result' hresult
              rw [hresult, Except.ok.inj hverdict]
          · rw [if_neg htype] at h
            rw [List.filter_cons_of_neg (by simpa using htype)]
            exact ih h

/-- Where nothing decides there is no TX_RESULT. -/
theorem results_of_undecided {answers : List (Except Lhkt (Option loraham_frame_t))}
    (h : decided answers = none) : results_of answers = [] := by
  induction answers with
  | nil => rfl
  | cons answer answers ih =>
      rcases answer with ret | _ | frame
      · cases h
      · exact ih h
      · have hframes : frames_of (.ok (some frame) :: answers) = frame :: frames_of answers := rfl
        rw [decided] at h
        unfold results_of
        rw [hframes]
        by_cases htype : frame.type = LORAHAM_FRAME_TX_RESULT
        · rw [if_pos htype] at h
          cases h
        · rw [if_neg htype] at h
          rw [List.filter_cons_of_neg (by simpa using htype)]
          exact ih h

/-- **A wait that succeeds** took the first TX_RESULT among the bytes it read. -/
theorem wait_rounds_first (w : Nat → List write_ret) (deadline : Int) {result : loraham_tx_result_t}
    (rounds : List data_round) : ∀ l : wait_t, (wait_rounds w deadline rounds l).2 = .ok result →
      ∃ bytes frame rest,
        (wait_rounds w deadline rounds l).1.data.link.rx = l.data.link.rx ++ bytes ∧
        results_of (loraham_framed_decode l.data.framed bytes).2 = frame :: rest ∧
        loraham_decode_tx_result frame = .ok result := by
  apply wait_rounds_elim (P := fun l r => r.2 = .ok result → ∃ bytes frame rest,
    r.1.data.link.rx = l.data.link.rx ++ bytes ∧
    results_of (loraham_framed_decode l.data.framed bytes).2 = frame :: rest ∧
    loraham_decode_tx_result frame = .ok result)
  · exact fun l stop h => nomatch h
  · exact fun l stop r hrest => hrest
  · -- nothing in this read decides: the result is among the later bytes
    intro l stop buf l' r hread hrest hok
    have hscan := wait_scan_verdict w buf (l.received stop buf)
    have hnone := @wait_scan_none w buf (l.received stop buf)
    rw [hread] at hscan hnone
    have hdec : decided (loraham_framed_decode l.data.framed buf).2 = none :=
      Option.map_eq_none_iff.mp hscan.symm
    have hdata : l'.data = _ := hnone rfl
    obtain ⟨bytes, frame, rest, hrx, hresults, hdecode⟩ := hrest hok
    rw [hdata] at hrx hresults
    refine ⟨buf ++ bytes, frame, rest, ?_, ?_, hdecode⟩
    · rw [hrx, ← List.append_assoc]
      rfl
    · rw [loraham_framed_decode_append, results_of_append, results_of_undecided hdec]
      exact hresults
  · -- the first frame that decides is the first TX_RESULT
    intro l stop buf l' ret hread hok
    have hok : ret = .ok result := hok
    have hscan := wait_scan_verdict w buf (l.received stop buf)
    obtain ⟨framed, hdata, -⟩ := wait_scan_decoded w buf (l.received stop buf)
    rw [hread] at hscan hdata
    obtain ⟨⟨verdict, answers⟩, hdec, hverdict⟩ := Option.map_eq_some_iff.mp hscan.symm
    have hverdict : read_verdict verdict answers = .ok result := hverdict.trans hok
    unfold read_verdict at hverdict
    split at hverdict
    · rw [hverdict] at hdec
      obtain ⟨frame, hresults, hdecode⟩ := results_of_decided hdec
      refine ⟨buf, frame, results_of answers, ?_, hresults, hdecode⟩
      show l'.data.link.rx = _
      rw [show l'.data = _ from hdata]
      rfl
    · exact nomatch hverdict

/-! ## Records -/

/-- What a record says about the result. -/
def Says (kind : record_kind) (result : loraham_tx_result_t) : Prop :=
  match kind with
  | .rflog_ok => result.status = LORAHAM_TX_STATUS_OK
  | .loraham_tx => result.status = LORAHAM_TX_STATUS_OK
  | .refused status => status = result.status ∧ result.status ≠ LORAHAM_TX_STATUS_OK

/-- The record names a packet written on a connection, and says what the
TX_RESULT for that packet says: the one at the packet's position among those
that came on the same connection. -/
def RecordTrue (d : data_t) (r : tx_record) : Prop :=
  ∃ link frame result, (links d)[r.conn]? = some link ∧
    (written_packets link.tx)[r.index]? = some r.packet ∧
    (tx_results link.rx)[r.index]? = some frame ∧
    loraham_decode_tx_result frame = .ok result ∧ Says r.kind result

/-- Every connection is still there, with what went over it before. -/
def Extends (d d' : data_t) : Prop :=
  ∀ (i : Nat) link, (links d)[i]? = some link →
    ∃ link', (links d')[i]? = some link' ∧ link.rx <+: link'.rx ∧ link.tx <+: link'.tx

theorem getElem?_of_prefix {α : Type} {l m : List α} {i : Nat} {a : α} (h : l <+: m)
    (ha : l[i]? = some a) : m[i]? = some a := by
  obtain ⟨more, rfl⟩ := h
  have hi : i < l.length := (List.getElem?_eq_some_iff.mp ha).1
  rw [List.getElem?_append_left hi]
  exact ha

/-- What is true of a packet stays true. -/
theorem RecordTrue.mono {d d' : data_t} {r : tx_record} (h : RecordTrue d r) (hext : Extends d d') :
    RecordTrue d' r := by
  obtain ⟨link, frame, result, hlink, hpacket, hframe, hdecode, hsays⟩ := h
  obtain ⟨link', hlink', ⟨bytes, hrx⟩, ⟨sent, htx⟩⟩ := hext r.conn link hlink
  refine ⟨link', frame, result, hlink', ?_, ?_, hdecode, hsays⟩
  · rw [← htx, written_packets_append]
    exact getElem?_of_prefix (List.prefix_append _ _) hpacket
  · rw [← hrx, tx_results_append]
    exact getElem?_of_prefix (List.prefix_append _ _) hframe

theorem Extends.of_eq {d d' : data_t} (hclosed : d'.closed = d.closed) (hlink : d'.link = d.link) :
    Extends d d' := by
  intro i link h
  unfold links at h ⊢
  rw [hclosed, hlink]
  exact ⟨link, h, List.prefix_refl _, List.prefix_refl _⟩

/-- The open connection goes on. -/
theorem Extends.grow {d d' : data_t} (hclosed : d'.closed = d.closed)
    (hrx : d.link.rx <+: d'.link.rx) (htx : d.link.tx <+: d'.link.tx) : Extends d d' := by
  intro i link h
  unfold links at h ⊢
  rw [hclosed]
  by_cases hi : i < d.closed.length
  · rw [List.getElem?_append_left hi] at h ⊢
    exact ⟨link, h, List.prefix_refl _, List.prefix_refl _⟩
  · rw [List.getElem?_append_right (by omega)] at h ⊢
    obtain ⟨hi', rfl⟩ := List.getElem?_eq_some_iff.mp h
    have hzero : i - d.closed.length = 0 := by
      rw [List.length_singleton] at hi'
      omega
    simp only [hzero, List.getElem_cons_zero, List.getElem?_cons_zero]
    exact ⟨d'.link, rfl, hrx, htx⟩

/-- The open connection becomes a closed one. -/
theorem Extends.close {d d' : data_t} (hclosed : d'.closed = d.closed ++ [d.link]) :
    Extends d d' := by
  intro i link h
  unfold links at h ⊢
  rw [hclosed]
  exact ⟨link, getElem?_of_prefix (List.prefix_append _ _) h, List.prefix_refl _,
    List.prefix_refl _⟩

/-- The records added when a TX_RESULT was received are about the packet written
last, and say what the result says. -/
theorem tx_result_received_records (e : send_env) (cfg : lhkt_config_t) (packet : Bytes)
    (client_error : Lhkt) (result : loraham_tx_result_t) (s : io_t) :
    ∀ r ∈ (tx_result_received e cfg packet client_error result s).1.records, r ∈ s.records ∨
      (r.packet = packet ∧ r.conn = s.data.closed.length ∧ r.index = s.data.link.tx.length - 1 ∧
        Says r.kind result) := by
  -- the record of a confirmed transmission, written before the restore
  have hlogged : (tx_result_logged packet result s).data = s.data ∧
      ∀ r ∈ (tx_result_logged packet result s).records, r ∈ s.records ∨
        (r.packet = packet ∧ r.conn = s.data.closed.length ∧ r.index = s.data.link.tx.length - 1 ∧
          Says r.kind result) := by
    unfold tx_result_logged
    split
    · rename_i hstatus
      refine ⟨rfl, fun r hr => ?_⟩
      rcases List.mem_append.mp hr with hr | hr
      · exact .inl hr
      · rw [List.mem_singleton.mp hr]
        exact .inr ⟨rfl, rfl, rfl, hstatus⟩
    · exact ⟨rfl, fun r hr => .inl hr⟩
  obtain ⟨stop, stats, tx, freqs, hrestore⟩ :=
    commandsOnly_restore e.restore cfg (tx_result_logged packet result s)
  unfold tx_result_received
  dsimp only
  rw [hrestore]
  split
  · intro r hr
    rw [hrestore] at hr
    exact hlogged.2 r hr
  · split
    · rename_i hstatus
      intro r hr
      rcases List.mem_append.mp hr with hr | hr
      · exact hlogged.2 r hr
      · rw [List.mem_singleton.mp hr]
        -- after it: the record of a refusal, which the restore does not move to another link
        refine .inr ⟨rfl, ?_, ?_, rfl, hstatus⟩
        · exact congrArg (fun d : data_t => d.closed.length) hlogged.1
        · exact congrArg (fun d : data_t => d.link.tx.length - 1) hlogged.1
    · rename_i hstatus
      intro r hr
      rcases List.mem_append.mp hr with hr | hr
      · exact hlogged.2 r hr
      · rw [List.mem_singleton.mp hr]
        refine .inr ⟨rfl, ?_, ?_, not_ne_iff.mp hstatus⟩
        · exact congrArg (fun d : data_t => d.closed.length) hlogged.1
        · exact congrArg (fun d : data_t => d.link.tx.length - 1) hlogged.1

/-- Without a TX_RESULT nothing comes on record. -/
theorem tx_result_missing_records (e : send_env) (cfg : lhkt_config_t) (packet : Bytes) (s : io_t) :
    (tx_result_missing e cfg packet s).1.records = s.records := by
  have hrestore := commandsOnly_restore e.restore cfg
    ((s.count .tx_unconfirmed).log_tx .unconfirmed packet)
  exact hrestore.records_eq

/-! ## The balance -/

/-- What is assumed of the daemon: on no connection more TX_RESULT frames were
read than packets were written. -/
def DaemonSound (d : data_t) : Prop :=
  ∀ link ∈ links d, (tx_results link.rx).length ≤ (written_packets link.tx).length

instance (d : data_t) : Decidable (DaemonSound d) :=
  inferInstanceAs (Decidable (∀ link ∈ links d, _))

/-- Between two steps, every packet written on the open connection has had its
result. -/
structure Answered (d : data_t) : Prop where
  sync : Sync d
  complete : d.fd = true → Clean Sent.Complete d.link.tx
  balance : d.fd = true → (tx_results d.link.rx).length = d.link.tx.length
  unopened : d.fd = false → d.link = {}

/-- On a connection without a truncated frame every write is a packet. -/
theorem written_packets_clean {tx : List (Sent UInt8)} (h : Clean Sent.Complete tx) :
    (written_packets tx).length = tx.length := by
  unfold written_packets
  rw [List.length_map, List.filter_eq_self.mpr fun s hs => by simpa using h s hs]

/-- A packet is written behind what was written before. -/
theorem send_framed_tx_packet_extends (e : sock_env) (packet : Bytes) (tx : List (Sent UInt8)) :
    tx <+: (loraham_send_framed_tx_packet e packet tx).1 := by
  unfold loraham_send_framed_tx_packet
  split
  · exact List.prefix_refl _
  · exact List.prefix_append _ _

/-- The last packet written is at the position the records give. -/
theorem written_packets_last {tx : List (Sent UInt8)} {sent : Sent UInt8} {packet : Bytes}
    (h : Clean Sent.Complete tx) (hcomplete : sent.Complete)
    (hbuf : sent.buf = framed_tx_packet packet) :
    (written_packets (tx ++ [sent]))[(tx ++ [sent]).length - 1]? = some packet := by
  have hlast : written_packets [sent] = [packet] := by
    unfold written_packets
    rw [List.filter_cons_of_pos (by simpa using hcomplete), List.filter_nil, List.map_singleton,
      hbuf]
    rfl
  rw [written_packets_append, hlast, List.length_append, List.length_singleton,
    Nat.add_sub_cancel, List.getElem?_append_right (by rw [written_packets_clean h]),
    written_packets_clean h, Nat.sub_self]
  rfl

/-! ## The announcement -/

/-- The line is a STATUS line with the token `TXRESULT=1`. -/
def Carries (line : Bytes) : Prop :=
  ∃ ts, line = ConfStatus.status_line ts ∧ (ts.map status_token.key).Nodup ∧
    Has ts (ascii "TXRESULT") [digit true]

/-- On one of the STATUS lines handled since the CONF connection was opened or
configured last, a 1 stands behind the first `TXRESULT=`. -/
def Announces (events : List conf_event) : Prop :=
  ∃ line ∈ since_config events, is_status line = true ∧ Behind (ascii "TXRESULT=") line true

/-- How the code reads the flag off a line. -/
theorem txresult_behind_iff (line : Bytes) :
    bridge_status_flag_token line (ascii "TXRESULT=") = some true ↔
      Behind (ascii "TXRESULT=") line true :=
  @flag_eq_some_iff (ascii "TXRESULT") line (by decide) true

instance (events : List conf_event) : Decidable (Announces events) :=
  decidable_of_iff (∃ line ∈ since_config events, is_status line = true ∧
      bridge_status_flag_token line (ascii "TXRESULT=") = some true)
    (exists_congr fun line => and_congr_right fun _ => and_congr_right fun _ =>
      txresult_behind_iff line)

/-- On a line with the token, that is so exactly when no other token on it passes
for this one. -/
theorem behind_iff_harmless {ts : List status_token} (hkeys : (ts.map status_token.key).Nodup)
    (hhas : Has ts (ascii "TXRESULT") [digit true]) :
    Behind (ascii "TXRESULT=") (ConfStatus.status_line ts) true ↔
      Harmless ts (ascii "TXRESULT") := by
  rw [← flag_iff_harmless (ascii "TXRESULT") hkeys (by decide) (by decide) (by decide),
    ← txresult_behind_iff]
  change bridge_status_flag_token _ (ascii "TXRESULT" ++ [ch '=']) = _ ↔ _
  constructor
  · intro hflag b
    rw [hflag, Option.some.injEq]
    constructor
    · rintro rfl
      exact hhas
    · exact fun hb => (digit_injective (List.singleton_inj.mp (hb.unique hkeys hhas))).symm
  · exact fun h => (h true).mpr hhas

/-- Behind the gate, when they are announced, TX_RESULT frames are on. -/
theorem txresult_enabled_of_gate {cfg : lhkt_config_t} {s : io_t} {item : bridge_tx_item_t}
    {now : Int} (h : Tracks s.conf.state s.conf.events) (hgate : Gate cfg s item now)
    (hannounced : Announces s.conf.events) :
    bridge_conf_txresult_enabled s.conf.state = true := by
  obtain ⟨line, hline, hstatus, hbehind⟩ := hannounced
  have hflag : txresult_flag line = some true := by
    unfold txresult_flag
    rw [if_pos hstatus]
    exact (txresult_behind_iff line).mpr hbehind
  -- there is a flag since the last configuration, so the flag is known
  have hmem : true ∈ (since_config s.conf.events).filterMap txresult_flag :=
    List.mem_filterMap.mpr ⟨line, hline, hflag⟩
  have htracks := h.txresult
  unfold last_flag at htracks
  rw [List.getLast?_eq_some_getLast (List.ne_nil_of_mem hmem)] at htracks
  split at htracks
  · rename_i hknown
    unfold bridge_conf_txresult_enabled
    rw [hknown, hgate.txresult hknown]
    rfl
  · exact nomatch htracks

/-- A packet is written only behind such an announcement. -/
def Announced (cfg : lhkt_config_t) (e : drain_env) (s : io_t) (q : txq_t) : Prop :=
  ∀ s₀ q₀ item, drain_start e cfg s q = (s₀, q₀, .send item) →
    Written e.send cfg item.packet s₀ → Announces s₀.conf.events

instance (cfg : lhkt_config_t) (e : drain_env) (s : io_t) (q : txq_t) :
    Decidable (Announced cfg e s q) :=
  match h : drain_start e cfg s q with
  | (_, _, .ret _) => isTrue fun _ _ _ heq =>
      nomatch (Prod.mk.inj (Prod.mk.inj (h.symm.trans heq)).2).2
  | (s₀, _, .send item) =>
      decidable_of_iff (Written e.send cfg item.packet s₀ → Announces s₀.conf.events)
        ⟨fun hann s₁ q₁ item' heq => by
          obtain ⟨hs, hrest⟩ := Prod.mk.inj (h.symm.trans heq)
          rw [← hs, ← drain_next.send.inj (Prod.mk.inj hrest).2]
          exact hann, fun hall => hall s₀ _ item h⟩

/-! ## A drain -/

/-- What a drain has to keep. -/
structure Kept (d : data_t) (records : List tx_record) (c : conf_t) : Prop where
  answered : Answered d
  records : ∀ r ∈ records, RecordTrue d r
  tracks : c.fd = true → Tracks c.state c.events

/-- What a drain leaves: true records, and the balance, unless the connection is
given up. -/
def Drained (s : io_t) (ret : Lhkt) : Prop :=
  (∀ r ∈ s.records, RecordTrue s.data r) ∧
    (Answered s.data ∨
      (bridge_loraham_should_reconnect_data_socket ret = true ∧ s.data.fd = true))

/-- Nothing happened to the DATA connection. -/
theorem Kept.drained {s s' : io_t} {ret : Lhkt} (h : Kept s.data s.records s.conf)
    (hdata : s'.data = s.data) (hrecords : s'.records = s.records) : Drained s' ret := by
  unfold Drained
  rw [hdata, hrecords]
  exact ⟨h.records, .inl h.answered⟩

/-- The connection is given up: what is recorded stays true. -/
theorem Kept.given_up {s s' : io_t} {ret : Lhkt} (h : Kept s.data s.records s.conf)
    (hfd : s'.data.fd = true) (hext : Extends s.data s'.data) (hrecords : s'.records = s.records)
    (hret : bridge_loraham_should_reconnect_data_socket ret = true) : Drained s' ret := by
  refine ⟨fun r hr => ?_, .inr ⟨hret, hfd⟩⟩
  rw [hrecords] at hr
  exact (h.records r hr).mono hext

/-- **The confirmed packet.** It was the only one without a result, so the first
result read since it was written is its own, and no further one was read. -/
theorem Answered.confirm {d d' : data_t} {bytes : Bytes} {sent : Sent UInt8} {frame : loraham_frame_t}
    {rest : List loraham_frame_t} (h : Answered d) (hopen : d.fd = true)
    (hd' : d' = { d with
      framed := (loraham_framed_decode d.framed bytes).1
      link := { rx := d.link.rx ++ bytes, tx := d.link.tx ++ [sent] } })
    (hresults : results_of (loraham_framed_decode d.framed bytes).2 = frame :: rest)
    (hcomplete : sent.Complete)
    (hsound : (tx_results d'.link.rx).length ≤ (written_packets d'.link.tx).length) :
    Answered d' ∧ (tx_results d'.link.rx)[d'.link.tx.length - 1]? = some frame := by
  subst hd'
  have hsync : InSync d := h.sync hopen
  have hbalance := h.balance hopen
  have hclean : Clean Sent.Complete (d.link.tx ++ [sent]) :=
    clean_append.mpr ⟨h.complete hopen, clean_singleton.mpr hcomplete⟩
  have hall : tx_results (d.link.rx ++ bytes) = tx_results d.link.rx ++ frame :: rest := by
    rw [tx_results_append, ← hsync, hresults]
  have hsound : (tx_results (d.link.rx ++ bytes)).length
      ≤ (written_packets (d.link.tx ++ [sent])).length := hsound
  rw [hall, written_packets_clean hclean, List.length_append, List.length_append, hbalance,
    List.length_cons, List.length_singleton] at hsound
  refine ⟨⟨fun _ => hsync.append bytes, fun _ => hclean, fun _ => ?_, ?_⟩, ?_⟩
  · show (tx_results (d.link.rx ++ bytes)).length = (d.link.tx ++ [sent]).length
    rw [hall, List.length_append, List.length_append, hbalance, List.length_cons,
      List.length_singleton]
    omega
  · intro hclosed
    exact absurd (hopen.symm.trans hclosed) (by decide)
  · show (tx_results (d.link.rx ++ bytes))[(d.link.tx ++ [sent]).length - 1]? = some frame
    rw [hall, List.length_append, List.length_singleton, Nat.add_sub_cancel, ← hbalance,
      List.getElem?_append_right (Nat.le_refl _), Nat.sub_self]
    rfl

/-- What a wait that succeeds leaves on the DATA connection. -/
theorem wait_tx_result_ok {e : result_env} {cfg : lhkt_config_t} {client_fd : Bool} {s s' : io_t}
    {client_error : Lhkt} {result : loraham_tx_result_t}
    (h : bridge_loraham_wait_tx_result e cfg client_fd s = (s', client_error, .ok result)) :
    ∃ bytes frame rest, s'.records = s.records ∧
      s'.data = { s.data with
        framed := (loraham_framed_decode s.data.framed bytes).1
        link := { s.data.link with rx := s.data.link.rx ++ bytes } } ∧
      results_of (loraham_framed_decode s.data.framed bytes).2 = frame :: rest ∧
      loraham_decode_tx_result frame = .ok result := by
  rcases bridge_loraham_wait_tx_result_cases h with ⟨_, _, hbad⟩ | ⟨l, hl, _, rfl⟩
  · exact nomatch hbad
  · obtain ⟨framed, bytes, hdata, hok⟩ := wait_rounds_decoded e.client
      (e.start + cfg.tx_busy_timeout_ms) e.rounds ⟨s.stop, s.rx, s.data, client_fd, .OK⟩
    obtain ⟨bytes', frame, rest, hrx, hresults, hdecode⟩ := wait_rounds_first e.client
      (e.start + cfg.tx_busy_timeout_ms) e.rounds ⟨s.stop, s.rx, s.data, client_fd, .OK⟩
      (by rw [hl])
    rw [hl] at hdata hok hrx
    have hdata : l.data = _ := hdata
    obtain rfl : bytes = bytes' := by
      have hrx : l.data.link.rx = s.data.link.rx ++ bytes' := hrx
      rw [hdata] at hrx
      exact List.append_cancel_left hrx
    refine ⟨bytes, frame, rest, rfl, ?_, hresults, hdecode⟩
    show l.data = _
    rw [hdata, hok result rfl]

/-- A wait that fails has read, and recorded nothing. -/
theorem wait_tx_result_error {e : result_env} {cfg : lhkt_config_t} {client_fd : Bool} {s s' : io_t}
    {client_error ret : Lhkt}
    (h : bridge_loraham_wait_tx_result e cfg client_fd s = (s', client_error, .error ret)) :
    s'.records = s.records ∧ s'.data.fd = s.data.fd ∧ Extends s.data s'.data := by
  rcases bridge_loraham_wait_tx_result_cases h with ⟨rfl, _, _⟩ | ⟨l, hl, _, rfl⟩
  · exact ⟨rfl, rfl, Extends.of_eq rfl rfl⟩
  · obtain ⟨framed, bytes, hdata, -⟩ := wait_rounds_decoded e.client
      (e.start + cfg.tx_busy_timeout_ms) e.rounds ⟨s.stop, s.rx, s.data, client_fd, .OK⟩
    rw [hl] at hdata
    have hdata : l.data = _ := hdata
    refine ⟨rfl, ?_, ?_⟩
    · show l.data.fd = s.data.fd
      rw [hdata]
    · show Extends s.data l.data
      rw [hdata]
      exact Extends.grow rfl (List.prefix_append _ _) (List.prefix_refl _)

theorem Extends.trans {d d' d'' : data_t} (h : Extends d d') (h' : Extends d' d'') :
    Extends d d'' := by
  intro i link hlink
  obtain ⟨link', hlink', hrx, htx⟩ := h i link hlink
  obtain ⟨link'', hlink'', hrx', htx'⟩ := h' i link' hlink'
  exact ⟨link'', hlink'', hrx.trans hrx', htx.trans htx'⟩

/-- The packet is out, and its result is waited for. -/
theorem confirmed_drained {e : send_env} {cfg : lhkt_config_t} {client_fd : Bool} {packet : Bytes}
    {s s₂ : io_t} (h : Kept s.data s.records s.conf) (hopen : s.data.fd = true)
    (hwrite : (loraham_send_framed_tx_packet e.write packet s.data.link.tx).2 = .OK)
    (hcmd : CommandsOnly { s with data := { s.data with link := { s.data.link with
      tx := (loraham_send_framed_tx_packet e.write packet s.data.link.tx).1 } } } s₂)
    (hsound : ∀ link ∈ links (tx_confirm_result e cfg client_fd packet s₂).1.data,
      (tx_results link.rx).length ≤ (written_packets link.tx).length) :
    Drained (tx_confirm_result e cfg client_fd packet s₂).1
      (tx_confirm_result e cfg client_fd packet s₂).2 := by
  obtain ⟨sent, htx, hcomplete, hbuf⟩ := send_framed_tx_packet_ok hwrite
  rw [htx] at hcmd
  have hdata₂ := hcmd.data_eq
  have hrecords₂ : s₂.records = s.records := hcmd.records_eq
  have hext₂ : Extends s.data s₂.data := by
    rw [hdata₂]
    exact Extends.grow rfl (List.prefix_refl _) (List.prefix_append _ _)
  unfold tx_confirm_result at hsound ⊢
  generalize hwait : bridge_loraham_wait_tx_result e.result cfg client_fd s₂ = r at hsound ⊢
  obtain ⟨s₃, client_error, ret⟩ := r
  match ret with
  -- no result: the connection is given up, so no later answer can be misread
  | .error ret =>
      obtain ⟨hrecords, hfd, hext⟩ := wait_tx_result_error hwait
      have hdata := (reportsOnly_tx_result_missing e cfg packet s₃).data_eq
      refine h.given_up ?_ ?_ ?_ rfl
      · rw [hdata, hfd, hdata₂]
        exact hopen
      · rw [hdata]
        exact hext₂.trans hext
      · rw [tx_result_missing_records, hrecords, hrecords₂]
  -- the result is the first one behind the packet, which is the last written
  | .ok result =>
      obtain ⟨bytes, frame, rest, hrecords, hdata₃, hresults, hdecode⟩ := wait_tx_result_ok hwait
      have hdata := (reportsOnly_tx_result_received e cfg packet client_error result s₃).data_eq
      have hadded := tx_result_received_records e cfg packet client_error result s₃
      rw [hdata₂] at hdata₃ hresults
      have hsound : ∀ link ∈ links (tx_result_received e cfg packet client_error result s₃).1.data,
        (tx_results link.rx).length ≤ (written_packets link.tx).length := hsound
      rw [hdata] at hsound
      obtain ⟨hanswered, hframe⟩ := h.answered.confirm hopen hdata₃ hresults hcomplete
        (hsound s₃.data.link (List.mem_append_right _ List.mem_cons_self))
      have hext : Extends s.data s₃.data := by
        rw [hdata₃]
        exact Extends.grow rfl (List.prefix_append _ _) (List.prefix_append _ _)
      show Drained (tx_result_received e cfg packet client_error result s₃).1 _
      unfold Drained
      rw [hdata]
      refine ⟨fun r hr => ?_, .inl hanswered⟩
      rcases hadded r hr with hold | ⟨hpacket, hconn, hindex, hsays⟩
      · -- an older record
        rw [hrecords, hrecords₂] at hold
        exact (h.records r hold).mono hext
      · -- the new one
        refine ⟨s₃.data.link, frame, result, ?_, ?_, ?_, hdecode, hsays⟩
        · rw [hconn, links, List.getElem?_append_right (Nat.le_refl _), Nat.sub_self]
          rfl
        · rw [hindex, hpacket, hdata₃]
          exact written_packets_last (h.answered.complete hopen) hcomplete hbuf
        · rw [hindex]
          exact hframe

/-- Records made before are about packets written before. -/
theorem RecordTrue.before {d d' : data_t} {r : tx_record} (h : RecordTrue d r)
    (hclosed : d'.closed = d.closed) {sent : Sent UInt8}
    (htx : d'.link.tx = d.link.tx ++ [sent]) : Before d' r := by
  obtain ⟨link, _, _, hlink, hpacket, -, -, -⟩ := h
  unfold Before
  rw [hclosed, htx, List.length_append, List.length_singleton, Nat.add_sub_cancel]
  unfold links at hlink
  by_cases hconn : r.conn < d.closed.length
  · exact .inl hconn
  · -- on the open connection
    rw [List.getElem?_append_right (by omega)] at hlink
    obtain ⟨hlast, rfl⟩ := List.getElem?_eq_some_iff.mp hlink
    rw [List.length_singleton] at hlast
    have hzero : r.conn - d.closed.length = 0 := by omega
    simp only [hzero, List.getElem_cons_zero] at hpacket
    have hindex := (List.getElem?_eq_some_iff.mp hpacket).1
    have hwritten : (written_packets d.link.tx).length ≤ d.link.tx.length := by
      unfold written_packets
      rw [List.length_map]
      exact List.length_filter_le _ _
    exact .inr ⟨by omega, by omega⟩

/-- What is shown when the result was waited for. -/
theorem confirm_result_shown (e : send_env) (cfg : lhkt_config_t) (client_fd : Bool)
    (packet : Bytes) {s : io_t} (h : Shown s.rx s.records)
    (hbefore : ∀ r ∈ s.records, Before s.data r) :
    Shown (tx_confirm_result e cfg client_fd packet s).1.rx
      (tx_confirm_result e cfg client_fd packet s).1.records := by
  have hquiet := quiet_wait_tx_result e.result cfg client_fd s
  unfold tx_confirm_result
  generalize hwait : bridge_loraham_wait_tx_result e.result cfg client_fd s = r at hquiet ⊢
  obtain ⟨s', client_error, ret⟩ := r
  have hwaited := h.quiet hquiet
  cases ret with
  | error ret =>
      obtain ⟨hrecords, -, -⟩ := wait_tx_result_error hwait
      show Shown (tx_result_missing e cfg packet s').1.rx (tx_result_missing e cfg packet s').1.records
      rw [tx_result_missing_records, hrecords]
      exact hwaited.quiet (quiet_tx_result_missing e cfg packet s')
  | ok result =>
      obtain ⟨_, _, _, hrecords, hdata, -, -⟩ := wait_tx_result_ok hwait
      rw [← hrecords] at hwaited hbefore
      refine tx_result_received_shown e cfg packet client_error result hwaited fun r hr => ?_
      -- the wait reads, so the packet is still the one written last
      rw [hdata]
      exact hbefore r hr

/-- The write of a packet and what leads to it show no result. -/
theorem quiet_tx_sent (e : send_env) (cfg : lhkt_config_t) (packet : Bytes) (s : io_t) :
    Quiet s.rx (tx_sent e cfg packet s).rx :=
  quiet_tx_prepare e cfg s

section Drain

variable {e : drain_env} {cfg : lhkt_config_t} {client_fd : Bool} {s : io_t} {q : txq_t}

/-- **What was announced** is looked at: the result of a written packet is waited
for. -/
theorem tx_confirm_announced {s₀ : io_t} {q₀ : txq_t} {item : bridge_tx_item_t} {now : Int}
    (htracks : s₀.conf.fd = true → Tracks s₀.conf.state s₀.conf.events)
    (hgate : Gate cfg s₀ item now) (hannounced : Announced cfg e s q)
    (hsel : drain_start e cfg s q = (s₀, q₀, .send item))
    (hw : Written e.send cfg item.packet s₀) :
    tx_confirm true e.send cfg client_fd item.packet (tx_sent e.send cfg item.packet s₀)
      = tx_confirm_result e.send cfg client_fd item.packet
          (tx_sent e.send cfg item.packet s₀) := by
  have hon := txresult_enabled_of_gate (htracks hgate.conf_fd) hgate
    (hannounced s₀ q₀ item hsel hw)
  -- behind the write, the flags of the CONF connection are still those of the gate
  obtain ⟨_, _, hconf⟩ := (tx_sent_frame item.packet hw.prepared).conf_frame
  have hon' : bridge_conf_txresult_enabled (tx_sent e.send cfg item.packet s₀).conf.state = true := by
    rw [hconf]
    exact hon
  unfold tx_confirm
  rw [if_pos hon', if_pos rfl]

/-- **A drain** records only results of the packet it is about. -/
theorem drain_drained (h : Kept s.data s.records s.conf) (hannounced : Announced cfg e s q)
    (hsound : DaemonSound (bridge_loraham_tx_queue_drain_with_client e cfg client_fd s q).1.data) :
    Drained (bridge_loraham_tx_queue_drain_with_client e cfg client_fd s q).1
      (bridge_loraham_tx_queue_drain_with_client e cfg client_fd s q).2.2 := by
  revert hsound
  refine drain_elim (I := fun s _ => Kept s.data s.records s.conf)
    (P := fun r => DaemonSound r.1.data → Drained r.1 r.2.2) e cfg client_fd s q h ?_
    (fun _ _ _ _ h _ _ _ => h) (fun _ _ _ h _ => h) (fun _ _ _ h _ _ => h.drained rfl rfl) ?_
  · -- CONF is read
    intro s q read h hopen
    exact ⟨h.answered, h.records,
      fun _ => (h.tracks hopen).fed (fed_read_available read s.conf)⟩
  · -- a transmission, by the ways it can end
    intro s q item now s' ret written h hitem hgate hsel hsend
    rw [send_packet_with_client] at hsend
    have key := send_packet_ways
      (P := fun r => DaemonSound r.1.data → Drained r.1 r.2.1) true e.send cfg client_fd
      item.packet s (fun _ _ => h.drained rfl rfl) (fun _ _ _ _ => h.drained rfl rfl) ?_ ?_ ?_
    · rw [hsend] at key
      exact key
    · intro _ _ _
      have hcmd := commandsOnly_tx_prepare e.send cfg s
      exact h.drained hcmd.data_eq hcmd.records_eq
    · intro _ hprep _ _
      have hprep : tx_prepare e.send cfg s = ((tx_prepare e.send cfg s).1, .OK) :=
        Prod.ext rfl hprep
      obtain ⟨_, hcmd⟩ := tx_written_frame hprep rfl
      have hall := hcmd.trans (commandsOnly_tx_write_failed e.send cfg _)
      refine h.given_up ?_ ?_ hall.records_eq rfl
      · rw [show (tx_write_failed e.send cfg (tx_sent e.send cfg item.packet s)).1.data = _ from
          hall.data_eq]
        exact hgate.data_fd
      · rw [show (tx_write_failed e.send cfg (tx_sent e.send cfg item.packet s)).1.data = _ from
          hall.data_eq]
        exact Extends.grow rfl (List.prefix_refl _) (send_framed_tx_packet_extends _ _ _)
    · intro hw hsound
      have hcmd := tx_sent_frame item.packet hw.prepared
      rw [tx_confirm_announced h.tracks hgate hannounced hsel hw] at hsound ⊢
      exact confirmed_drained h hgate.data_fd hw.frame hcmd hsound

/-- **A drain** shows what it records. -/
theorem drain_shown (h : Kept s.data s.records s.conf) (hshown : Shown s.rx s.records)
    (hannounced : Announced cfg e s q) :
    Shown (bridge_loraham_tx_queue_drain_with_client e cfg client_fd s q).1.rx
      (bridge_loraham_tx_queue_drain_with_client e cfg client_fd s q).1.records := by
  refine drain_elim (I := fun s _ => Kept s.data s.records s.conf ∧ Shown s.rx s.records)
    (P := fun r => Shown r.1.rx r.1.records) e cfg client_fd s q ⟨h, hshown⟩ ?_
    (fun _ _ _ _ h _ _ _ => h) ?_ (fun _ _ _ h _ => h.2) ?_
  · rintro s q read ⟨h, hshown⟩ hopen
    exact ⟨⟨h.answered, h.records,
      fun _ => (h.tracks hopen).fed (fed_read_available read s.conf)⟩, hshown⟩
  · exact fun s _ _ h _ => ⟨h.1, h.2.quiet (quiet_count s.rx (by decide))⟩
  · rintro s q item now s' ret written ⟨h, hshown⟩ hitem hgate hsel hsend
    rw [send_packet_with_client] at hsend
    have key := send_packet_ways (P := fun r => Shown r.1.rx r.1.records) true e.send cfg client_fd
      item.packet s (fun _ => hshown) ?_ ?_ ?_ ?_
    · rw [hsend] at key
      exact key
    · exact fun _ _ _ => hshown.quiet (quiet_count s.rx (by decide))
    · intro _ _
      rw [(commandsOnly_tx_prepare e.send cfg s).records_eq]
      exact hshown.quiet (quiet_tx_prepare e.send cfg s)
    · intro _ _ _
      have hrecords : (tx_sent e.send cfg item.packet s).records = s.records :=
        (commandsOnly_tx_prepare e.send cfg s).records_eq
      rw [(commandsOnly_tx_write_failed e.send cfg _).records_eq, hrecords]
      exact hshown.quiet ((quiet_tx_sent e.send cfg item.packet s).trans
        (quiet_tx_write_failed e.send cfg _))
    · -- the packet is the last one written when its result is recorded
      intro hw
      have hcmd := tx_sent_frame item.packet hw.prepared
      obtain ⟨sent, htx, -, -⟩ := send_framed_tx_packet_ok hw.frame
      have hrecords := hcmd.records_eq
      rw [tx_confirm_announced h.tracks hgate hannounced hsel hw]
      apply confirm_result_shown
      · rw [hrecords]
        exact hshown.quiet (quiet_tx_sent e.send cfg item.packet s)
      · rw [hrecords]
        intro r hr
        apply (h.records r hr).before
        · rw [hcmd.data_eq]
        · rw [hcmd.data_eq]
          exact htx

end Drain

/-! ## The main loop -/

/-- What the main loop keeps. -/
def Attributed (s : bridge_t) : Prop :=
  Answered s.data ∧ ∀ r ∈ s.records, RecordTrue s.data r

/-- A step without a record keeps the attribution. -/
theorem Attributed.extend {s s' : bridge_t} (h : Attributed s) (hrecords : s'.records = s.records)
    (hext : Extends s.data s'.data) (hanswered : Answered s'.data) : Attributed s' := by
  refine ⟨hanswered, fun r hr => ?_⟩
  rw [hrecords] at hr
  exact (h.2 r hr).mono hext

/-- A closed connection with nothing on it needs no answer. -/
theorem answered_closed {d : data_t} (hfd : d.fd = false) (hlink : d.link = {}) : Answered d := by
  have habsurd : d.fd ≠ true := by simp [hfd]
  exact ⟨sync_of_closed hfd, fun hopen => absurd hopen habsurd, fun hopen => absurd hopen habsurd,
    fun _ => hlink⟩

/-- The assumption about the daemon is one about the past as well. -/
theorem DaemonSound.before {d d' : data_t} (h : DaemonSound d') (hlinks : links d ⊆ links d') :
    DaemonSound d :=
  fun link hlink => h link (hlinks hlink)

/-- A connection that ends stays among all of them. -/
theorem links_subset_of_closed {d d' : data_t} (h : d'.closed = d.closed ++ [d.link]) :
    links d ⊆ links d' := by
  unfold links
  rw [h]
  exact List.subset_append_left _ _

/-- Giving up DATA changes no record and loses no byte. -/
theorem drop_data_frame (s : bridge_t) :
    (drop_data s).records = s.records ∧ links s.data ⊆ links (drop_data s).data ∧
      Extends s.data (drop_data s).data := by
  have hrecords := drop_data_records s
  rcases drop_data_cases s with ⟨_, hlink, hclosed⟩ | ⟨_, hclosed⟩
  · refine ⟨hrecords, ?_, Extends.of_eq hclosed hlink⟩
    unfold links
    rw [hlink, hclosed]
    exact List.Subset.refl _
  · exact ⟨hrecords, links_subset_of_closed hclosed, Extends.close hclosed⟩

/-- Giving the connection up, whatever state it is in. -/
theorem drop_data_attributed {s : bridge_t} (hrecords : ∀ r ∈ s.records, RecordTrue s.data r)
    (h : s.data.fd = true ∨ Answered s.data) : Attributed (drop_data s) := by
  obtain ⟨hsame, -, hext⟩ := drop_data_frame s
  refine ⟨?_, fun r hr => ?_⟩
  · rcases drop_data_cases s with ⟨hfd, hlink, -⟩ | ⟨hlink, -⟩
    · have hanswered : Answered s.data := h.resolve_left (by simp [hfd])
      exact answered_closed (drop_data_fd s) (hlink.trans (hanswered.unopened hfd))
    · exact answered_closed (drop_data_fd s) hlink
  · rw [hsame] at hr
    exact (hrecords r hr).mono hext

/-- Leaving the loop keeps the attribution. -/
theorem bridge_exit_attributed {s : bridge_t} (h : Attributed s) : Attributed (bridge_exit s) := by
  have hrecords := bridge_exit_records s
  rcases close_data_cases s.data with ⟨_, hsame⟩ | ⟨hfd, hlink, hclosed⟩
  · refine h.extend hrecords ?_ ?_
    · rw [bridge_exit_data, hsame]
      exact Extends.of_eq rfl rfl
    · rw [bridge_exit_data, hsame]
      exact h.1
  · refine h.extend hrecords ?_ ?_
    · rw [bridge_exit_data]
      exact Extends.close hclosed
    · rw [bridge_exit_data]
      exact answered_closed hfd hlink

/-- No connection is lost when the loop is left. -/
theorem links_subset_bridge_exit (s : bridge_t) : links s.data ⊆ links (bridge_exit s).data := by
  rw [bridge_exit_data]
  rcases close_data_cases s.data with ⟨_, hsame⟩ | ⟨_, _, hclosed⟩
  · rw [hsame]
    exact List.Subset.refl _
  · exact links_subset_of_closed hclosed

/-- What the main loop does with the result of a drain. -/
theorem handle_drain_result_attributed {ret : Lhkt} {s : bridge_t} (h : Drained s.toio_t ret) :
    Attributed (handle_drain_result ret s) := by
  obtain ⟨hrecords, hanswered⟩ := h
  unfold handle_drain_result
  split
  · exact drop_data_attributed hrecords (hanswered.symm.imp And.right id)
  · rename_i hret
    have hanswered : Answered s.data := hanswered.resolve_right fun hdrop => hret hdrop.1
    split
    · unfold Attributed
      rw [drop_conf_data, drop_conf_records]
      exact ⟨hanswered, hrecords⟩
    · split <;> exact ⟨hanswered, hrecords⟩

/-- No connection is lost behind a drain. -/
theorem links_subset_handle_drain_result (ret : Lhkt) (s : bridge_t) :
    links s.data ⊆ links (handle_drain_result ret s).data := by
  unfold handle_drain_result
  split
  · exact (drop_data_frame s).2.1
  · split
    · rw [drop_conf_data]
      exact List.Subset.refl _
    · split <;> exact List.Subset.refl _

/-- **An idle read** brings no TX_RESULT: there is no packet it could be for. -/
theorem handle_data_bytes_attributed {w : Nat → List write_ret} (hw : WritesSucceed w) (buf : Bytes)
    {s : bridge_t} (h : Attributed s) (hopen : s.data.fd = true)
    (hsound : (tx_results (s.data.link.rx ++ buf)).length ≤ (written_packets s.data.link.tx).length) :
    Attributed (handle_chunk_result (handle_data_bytes w buf s).2 (handle_data_bytes w buf s).1) := by
  have hext : Extends s.data (handle_data_bytes w buf s).1.data :=
    Extends.grow rfl (List.prefix_append _ _) (List.prefix_refl _)
  have hsync := handle_chunk_result_sync w buf s (h.1.sync hopen) fun pre _ _ _ =>
    handle_framed_chunk_ne_client hw s.client_fd pre s.data.framed s.rx
  have hrecords : ∀ r ∈ s.records, RecordTrue (handle_data_bytes w buf s).1.data r :=
    fun r hr => (h.2 r hr).mono hext
  have hbalance : (tx_results (s.data.link.rx ++ buf)).length = s.data.link.tx.length := by
    have hbefore := h.1.balance hopen
    rw [written_packets_clean (h.1.complete hopen)] at hsound
    have hmore : (tx_results s.data.link.rx).length ≤ (tx_results (s.data.link.rx ++ buf)).length := by
      rw [tx_results_append, List.length_append]
      exact Nat.le_add_right _ _
    omega
  have hopen' : (handle_data_bytes w buf s).1.data.fd ≠ false := by
    show s.data.fd ≠ false
    simp [hopen]
  unfold handle_chunk_result at hsync ⊢
  split
  · rename_i hclient
    rw [if_pos hclient] at hsync
    exact ⟨⟨hsync, fun _ => h.1.complete hopen, fun _ => hbalance,
      fun hclosed => absurd hclosed hopen'⟩, hrecords⟩
  · rename_i hclient
    rw [if_neg hclient] at hsync
    split
    · exact drop_data_attributed hrecords (.inl hopen)
    · rename_i hok
      rw [if_neg hok] at hsync
      exact ⟨⟨hsync, fun _ => h.1.complete hopen, fun _ => hbalance,
        fun hclosed => absurd hclosed hopen'⟩, hrecords⟩

/-- What a read leaves among the connections. -/
theorem handle_chunk_result_link (ret : Lhkt) (s : bridge_t) :
    s.data.link ∈ links (handle_chunk_result ret s).data := by
  have hlast : s.data.link ∈ links s.data := List.mem_append_right _ List.mem_cons_self
  unfold handle_chunk_result
  split
  · exact hlast
  · split
    · exact (drop_data_frame s).2.1 hlast
    · exact hlast

/-- What goes out in a step was announced. -/
def ResultsAnnounced (cfg : lhkt_config_t) (s : bridge_t) (e : bridge_env) : Prop :=
  s.pc = .top → (s.stop || e.signal) = false → Announced cfg e.drain s.toio_t s.txq

instance (cfg : lhkt_config_t) (s : bridge_t) (e : bridge_env) :
    Decidable (ResultsAnnounced cfg s e) :=
  inferInstanceAs (Decidable (_ → _))

/-- One step of the main loop. -/
theorem bridge_step_attributed (cfg : lhkt_config_t) (s : bridge_t) (e : bridge_env)
    (hwatched : Watched cfg s.conf s.txq) (h : Attributed s) (hw : WritesSucceed e.client_write)
    (hannounced : ResultsAnnounced cfg s e) (hsound : DaemonSound (bridge_step cfg s e).data) :
    Attributed (bridge_step cfg s e) := by
  -- what is assumed of the state behind the step holds of every state inside it
  revert hsound
  refine bridge_step_elim (P := fun s => DaemonSound s.data → Attributed s) cfg s e
    (fun _ => h) ?_ ?_ (fun _ hs => hs) ?_ ?_ ?_ (fun _ hs _ => hs) ?_ ?_ (fun _ hs _ => hs) ?_
    (fun _ hs _ => hs) ?_
  · rintro s _ ⟨_, _, _, _, _, _, _, rfl⟩ hs
    exact hs
  · exact fun s hs hsound =>
      bridge_exit_attributed (hs (hsound.before (links_subset_bridge_exit s)))
  · intro s hs hsound
    obtain ⟨hanswered, hrecords⟩ := hs (hsound.before (drop_data_frame s).2.1)
    exact drop_data_attributed hrecords (.inr hanswered)
  · intro s hs hsound
    unfold Attributed
    rw [drop_conf_data] at hsound ⊢
    rw [drop_conf_records]
    exact hs hsound
  · intro hpc hrun hsound
    have hlinks := links_subset_handle_drain_result (bridge_drain cfg e s).2 (bridge_drain cfg e s).1
    exact handle_drain_result_attributed (drain_drained ⟨h.1, h.2, hwatched.tracks⟩
      (hannounced hpc hrun) (hsound.before hlinks))
  · -- a fresh connection in place of a closed one
    intro _ _ _ hfd _ _
    refine h.extend rfl (Extends.of_eq rfl (h.1.unopened hfd).symm) ?_
    exact ⟨fun _ => rfl, fun _ => clean_nil, fun _ => rfl, fun hclosed => nomatch hclosed⟩
  · intro _ _ _ _ _
    unfold pending_config
    dsimp only
    split <;> exact fun _ => h
  · exact fun _ _ _ _ hs hsound => hs hsound
  · intro b buf _ hopen _ hsound
    exact handle_data_bytes_attributed hw (b :: buf) h hopen
      (hsound _ (handle_chunk_result_link _ (handle_data_bytes e.client_write (b :: buf) s).1))

/-- What the client sends and what is read besides shows no transmission. -/
theorem bridge_step_shown (cfg : lhkt_config_t) (s : bridge_t) (e : bridge_env)
    (hwatched : Watched cfg s.conf s.txq) (h : Attributed s) (hshown : Shown s.rx s.records)
    (hannounced : ResultsAnnounced cfg s e) :
    Shown (bridge_step cfg s e).rx (bridge_step cfg s e).records := by
  refine bridge_step_pieces (P := fun s => Shown s.rx s.records)
    (Q := fun s => Shown s.rx s.records) s e hshown (fun _ hs => hs) ?_ (fun _ _ _ _ _ hs => hs) ?_
    ?_ ?_ (fun _ hs => hs.quiet ⟨rfl, rfl, Nat.le_refl _⟩) ?_ ?_ ?_ (fun _ hs _ => hs) ?_
    (fun _ _ hs _ _ => hs) (fun _ hs _ => hs.quiet ⟨rfl, rfl, Nat.le_refl _⟩) ?_
    (fun _ hs _ => hs) ?_
  · intro s hs
    unfold bridge_exit
    dsimp only
    split <;> exact hs.quiet ⟨rfl, rfl, Nat.le_refl _⟩
  · exact fun s hs => hs.quiet ⟨rfl, rfl, Nat.le_refl _⟩
  · exact fun s hs => hs.quiet (quiet_count s.rx (by decide))
  · exact fun s hs => hs.quiet (quiet_count s.rx (by decide))
  · intro s hs
    unfold drop_data bridge_loraham_disconnect_data_socket
    split <;> exact hs.quiet ⟨rfl, rfl, Nat.le_refl _⟩
  · intro s hs
    unfold drop_conf bridge_loraham_disconnect_conf_socket
    split <;> exact hs.quiet ⟨rfl, rfl, Nat.le_refl _⟩
  · exact fun hpc hrun => drain_shown ⟨h.1, h.2, hwatched.tracks⟩ hshown (hannounced hpc hrun)
  · exact fun s hs _ _ => hs.quiet (quiet_count s.rx (by decide))
  · intro s kiss_dec frame now hs
    refine hs.quiet (handle_frame_counts (I := fun stats => Quiet s.rx { s.rx with stats := stats })
      ?_ frame s.kiss_params now s.txq (quiet_count s.rx (by decide)))
    intro stats counter hcounter hstats
    refine hstats.trans (quiet_count { s.rx with stats := stats } ?_)
    rintro rfl
    exact absurd hcounter (by decide)
  · intro s b buf hs _ _
    exact hs.quiet ((rxInvariant_quiet s.rx).framed_chunk e.client_write s.client_fd (b :: buf)
      s.data.framed s.rx (Quiet.refl s.rx))

/-- At the start nothing is on record and nothing is shown. -/
theorem bridge_start_shown (cfg : lhkt_config_t) (e : start_env) :
    Shown (bridge_start cfg e).rx (bridge_start cfg e).records := by
  unfold bridge_start
  dsimp only
  split
  · unfold bridge_exit
    dsimp only
    split <;> exact shown_init.quiet ⟨rfl, rfl, Nat.le_refl _⟩
  · exact shown_init

theorem bridge_start_attributed (cfg : lhkt_config_t) (e : start_env) :
    Attributed (bridge_start cfg e) := by
  have hinit : ∀ s : bridge_t, s.data = { fd := e.data_connect } → s.records = [] →
      Attributed s := by
    intro s hdata hrecords
    refine ⟨?_, fun r hr => ?_⟩
    · rw [hdata]
      exact ⟨fun _ => rfl, fun _ => clean_nil, fun _ => rfl, fun _ => rfl⟩
    · rw [hrecords] at hr
      exact absurd hr List.not_mem_nil
  unfold bridge_start
  dsimp only
  split
  · exact bridge_exit_attributed (hinit _ rfl rfl)
  · exact hinit _ rfl rfl

/-- The assumptions on a step: the state behind it is one a sound daemon leads
to, and the writes to the client succeed. -/
def Assumed (cfg : lhkt_config_t) (s : bridge_t) (e : bridge_env) : Prop :=
  DaemonSound (bridge_step cfg s e).data ∧ WritesSucceed e.client_write

/-- **TX_RESULT attribution.** In every run against a daemon that answers each
packet at most once, behind the packet and in order, and in which each packet is
written behind a STATUS line that announces the TX_RESULT frames as it is read:
what was recorded about a packet is what the daemon's TX_RESULT for this packet
says, and the RF log and the counters show what was recorded. -/
theorem tx_results_attributed (cfg : lhkt_config_t) (e : start_env) (es : List bridge_env)
    (h : Guarded (bridge_step cfg) (fun s e => Assumed cfg s e ∧ ResultsAnnounced cfg s e)
      (bridge_start cfg e) es) :
    let s := bridge_run cfg e es
    (∀ r ∈ s.records, RecordTrue s.data r) ∧ Shown s.rx s.records := by
  have hrun := run_induction
    (P := fun s => Watched cfg s.conf s.txq ∧ Attributed s ∧ Shown s.rx s.records)
    (fun s e ⟨hwatched, hs, hshown⟩ hc => ⟨bridge_step_watched cfg s e hwatched,
      bridge_step_attributed cfg s e hwatched hs hc.1.2 hc.2 hc.1.1,
      bridge_step_shown cfg s e hwatched hs hshown hc.2⟩) es _
    ⟨bridge_start_watched cfg e, bridge_start_attributed cfg e, bridge_start_shown cfg e⟩ h
  exact ⟨hrun.2.1.2, hrun.2.2⟩

/-- A refusal of the packet written last. -/
def refusal_frame : Bytes := [LORAHAM_FRAME_TX_RESULT, 4, 0, 1, 0, 0x35, 0x12]

/-- Two packets with different results on one connection: the second is refused,
and so it is recorded. -/
theorem tx_results_attributed_refused :
    let answer (bytes : Bytes) : bridge_env := { drain := { send := { result := reading [bytes] } } }
    let es := iteration client_connects ++ iteration (packet_arrives (ascii "x") status_ready) ++
      iteration { packet_arrives (ascii "y") status_ready with drain := (answer result_frame).drain }
      ++ [answer refusal_frame]
    let s := bridge_run lhkt_config_defaults {} es
    s.records.map tx_record.kind = [.rflog_ok, .loraham_tx, .refused 1] ∧
      (∀ r ∈ s.records, RecordTrue s.data r) ∧ Shown s.rx s.records := by
  refine ⟨by decide +kernel, tx_results_attributed lhkt_config_defaults {} _ ?_⟩
  refine guarded_and _ _ (guarded_and _ _ (by decide +kernel) ?_) (by decide +kernel)
  refine guarded_of_forall (C := fun e : bridge_env => WritesSucceed e.client_write) _ ?_ _
  intro e he
  simp only [iteration, List.mem_append, List.mem_replicate, List.mem_singleton] at he
  rcases he with ((⟨_, rfl⟩ | ⟨_, rfl⟩) | ⟨_, rfl⟩) | rfl <;> exact writesSucceed_default

/-- The token of a name and a value in which no separator stands. -/
def status_token_of (key value : Bytes)
    (h : (ch '=' ∉ key ∧ ch ' ' ∉ key) ∧ ch ' ' ∉ value) : status_token :=
  ⟨key, value, h.1.1, h.1.2, h.2⟩

/-- `STATUS RADIO=READY TX=0 XTXRESULT=7 TXRESULT=1`: a daemon that also reports
another value, under a name that ends in `TXRESULT`. -/
def xtxresult_tokens : List status_token :=
  [status_token_of (ascii "RADIO") (ascii "READY") (by decide),
    status_token_of (ascii "TX") (ascii "0") (by decide),
    status_token_of (ascii "XTXRESULT") (ascii "7") (by decide),
    status_token_of (ascii "TXRESULT") (ascii "1") (by decide)]

/-- Every line that is this one announces by its tokens. -/
theorem carries_xtxresult {starts : List tx_start}
    (h : ∀ st ∈ starts, ∀ l ∈ lines st.events, l = ConfStatus.status_line xtxresult_tokens) :
    ∀ st ∈ starts, ∀ l ∈ lines st.events, Carries l := by
  intro st hst l hl
  rw [h st hst l hl]
  exact ⟨xtxresult_tokens, rfl, by decide,
    ⟨ascii "TXRESULT", ascii "1", by decide, by decide, by decide⟩, by decide, rfl, rfl⟩

/-- Where no TX_RESULT says that a packet was transmitted, none is on record as such. -/
theorem uncounted_of_refused {c : bridge_rx_t} {records : List tx_record} {d : data_t}
    (h : Shown c records) (htrue : ∀ r ∈ records, RecordTrue d r)
    (hrefused : ∀ link ∈ links d, ∀ frame ∈ tx_results link.rx,
      (loraham_decode_tx_result frame).toOption.map loraham_tx_result_t.status
        ≠ some LORAHAM_TX_STATUS_OK) : c.stats.loraham_tx = 0 := by
  rw [h.counted, List.countP_eq_zero]
  intro r hr hkind
  obtain ⟨link, frame, result, hlink, -, hframe, hdecode, hsays⟩ := htrue r hr
  rw [of_decide_eq_true hkind] at hsays
  apply hrefused link (List.mem_of_getElem? hlink) frame (List.mem_of_getElem? hframe)
  rw [hdecode]
  exact congrArg some hsays

/-- Behind this line the CONF events decide: the packet is logged and counted as
transmitted, and the TX_RESULT by which the daemon refuses it is passed over. -/
theorem tx_result_passed_over :
    let line := ascii "STATUS RADIO=READY TX=0 XTXRESULT=7 TXRESULT=1"
    let send : bridge_env := { drain := { send := { complete :=
      { start_rounds := [{ wait := .ready { chunks := [ascii "TX=1\nTX=0\n"] } }] } } } }
    let es := iteration client_connects ++ iteration (packet_arrives (ascii "x") line) ++ [send] ++
      iteration (data_arrives refusal_frame)
    let s := bridge_run lhkt_config_defaults {} es
    Guarded (bridge_step lhkt_config_defaults) (Assumed lhkt_config_defaults)
      (bridge_start lhkt_config_defaults {}) es ∧
    (∀ st ∈ s.txq.starts, ∀ l ∈ lines st.events, Carries l) ∧
    ok_packets s.rx.rflog = written_packets s.data.link.tx ∧ s.rx.stats.loraham_tx = 1 ∧
    (tx_results s.data.link.rx).map loraham_decode_tx_result = [.ok ⟨1, 0, 0x1235⟩] ∧
    ¬ ∃ records, (∀ r ∈ records, RecordTrue s.data r) ∧ Shown s.rx records := by
  refine ⟨guarded_and _ _ (by decide +kernel) ?_, ?_, by decide +kernel, by decide +kernel,
    by decide +kernel, ?_⟩
  · refine guarded_of_forall (C := fun e : bridge_env => WritesSucceed e.client_write) _ ?_ _
    intro e he
    simp only [iteration, List.mem_append, List.mem_replicate, List.mem_singleton] at he
    rcases he with ((⟨_, rfl⟩ | ⟨_, rfl⟩) | rfl) | ⟨_, rfl⟩ <;> exact writesSucceed_default
  · exact carries_xtxresult (by decide +kernel)
  · rintro ⟨records, htrue, hshown⟩
    exact absurd (uncounted_of_refused hshown htrue (by decide +kernel)) (by decide +kernel)

end LorahamKissTnc.TxResult
