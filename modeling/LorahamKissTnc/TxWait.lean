/-
The verdict of the wait for a TX_RESULT, and how it depends on the reads.

The wait decodes what it reads byte by byte until a TX_RESULT frame or a framing
error decides it, and then goes on to the end of the same read, so that frames
behind the result are not lost. A framing error there turns a valid result into
a failure: the stream has to be synchronised anew, and `LHKT_ERR_TX_RESULT` is
how the caller is told. So the verdict is a function of the stream alone but for
that error: which bytes share a read with the result decides whether it is seen
now or by the idle path later.
-/
import LorahamKissTnc.FramedStream

set_option autoImplicit false

open LorahamKissTnc.Lib.CString LorahamKissTnc.Lib.Channel LorahamKissTnc.Lib.Machine
open LorahamKissTnc.Config LorahamKissTnc.LorahamSock LorahamKissTnc.BridgeRx
open LorahamKissTnc.BridgeLoraham LorahamKissTnc.FramedStream

namespace LorahamKissTnc.TxWait

/-! ## What decides -/

/-- The verdict a TX_RESULT frame gives. -/
def frame_verdict (frame : loraham_frame_t) : Except Lhkt loraham_tx_result_t :=
  match loraham_decode_tx_result frame with
  | .error _ => .error .ERR_TX_RESULT
  | .ok result => .ok result

/-- The first TX_RESULT frame or framing error among the answers of the decoder:
its verdict, and the answers behind it. -/
def decided : List (Except Lhkt (Option loraham_frame_t)) →
    Option (Except Lhkt loraham_tx_result_t × List (Except Lhkt (Option loraham_frame_t)))
  | [] => none
  | .error _ :: answers => some (.error .ERR_TX_RESULT, answers)
  | .ok none :: answers => decided answers
  | .ok (some frame) :: answers =>
      if frame.type = LORAHAM_FRAME_TX_RESULT then some (frame_verdict frame, answers)
      else decided answers

/-- No framing error among the answers. -/
def no_error (answers : List (Except Lhkt (Option loraham_frame_t))) : Bool :=
  answers.all Except.isOk

/-- The verdict a whole stream gives, if it decides at all. -/
def stream_verdict (state : loraham_framed_rx_state_t) (bytes : Bytes) :
    Option (Except Lhkt loraham_tx_result_t) :=
  (decided (loraham_framed_decode state bytes).2).map Prod.fst

/-- The read that decides holds no framing error behind what decides. -/
def clean_tail : loraham_framed_rx_state_t → List Bytes → Bool
  | _, [] => true
  | state, buf :: reads =>
      match decided (loraham_framed_decode state buf).2 with
      | none => clean_tail (loraham_framed_decode state buf).1 reads
      | some (_, answers) => no_error answers

/-- What comes later does not change what is decided. -/
theorem decided_append {answers : List (Except Lhkt (Option loraham_frame_t))}
    {verdict : Except Lhkt loraham_tx_result_t}
    {rest : List (Except Lhkt (Option loraham_frame_t))} (h : decided answers = some (verdict, rest))
    (more : List (Except Lhkt (Option loraham_frame_t))) :
    decided (answers ++ more) = some (verdict, rest ++ more) := by
  induction answers with
  | nil => exact nomatch h
  | cons answer answers ih =>
      match answer with
      | .error _ =>
          obtain ⟨rfl, rfl⟩ := Prod.mk.inj (Option.some.inj h)
          rfl
      | .ok none => exact ih h
      | .ok (some frame) =>
          rw [List.cons_append]
          unfold decided at h ⊢
          split
          · rename_i htype
            rw [if_pos htype] at h
            obtain ⟨rfl, rfl⟩ := Prod.mk.inj (Option.some.inj h)
            rfl
          · rename_i htype
            rw [if_neg htype] at h
            exact ih h

theorem decided_append_none {answers : List (Except Lhkt (Option loraham_frame_t))}
    (h : decided answers = none) (more : List (Except Lhkt (Option loraham_frame_t))) :
    decided (answers ++ more) = decided more := by
  induction answers with
  | nil => rfl
  | cons answer answers ih =>
      match answer with
      | .error _ => exact nomatch h
      | .ok none => exact ih h
      | .ok (some frame) =>
          rw [List.cons_append]
          unfold decided at h
          split at h
          · exact nomatch h
          · rename_i htype
            rw [decided, if_neg htype]
            exact ih h

/-! ## One read -/

/-- Behind the result only a framing error matters. -/
theorem wait_rest_verdict (w : Nat → List write_ret) (buf : Bytes) : ∀ l : wait_t,
    (wait_rest w buf l).2
      = if no_error (loraham_framed_decode l.data.framed buf).2 then .OK else .ERR_TX_RESULT := by
  induction buf with
  | nil => exact fun l => rfl
  | cons b buf ih =>
      intro l
      rw [wait_rest.eq_2, loraham_framed_decode_cons]
      generalize loraham_framed_decode_byte l.data.framed b = r
      obtain ⟨st, ret | _ | frame⟩ := r
      · rfl
      · exact ih (l.decoded st)
      · dsimp only
        split
        · exact ih _
        · have h := ih (wait_frame w frame (l.decoded st))
          rw [wait_frame_data] at h
          exact h

/-- The verdict of a read that decides. -/
def read_verdict (verdict : Except Lhkt loraham_tx_result_t)
    (answers : List (Except Lhkt (Option loraham_frame_t))) : Except Lhkt loraham_tx_result_t :=
  if no_error answers then verdict else .error .ERR_TX_RESULT

theorem read_verdict_error (answers : List (Except Lhkt (Option loraham_frame_t))) :
    read_verdict (.error .ERR_TX_RESULT) answers = .error .ERR_TX_RESULT := by
  unfold read_verdict
  split <;> rfl

/-- **One read.** It decides when the stream does, and then a framing error
behind is a failure. -/
theorem wait_scan_verdict (w : Nat → List write_ret) (buf : Bytes) : ∀ l : wait_t,
    (wait_scan w buf l).2 = (decided (loraham_framed_decode l.data.framed buf).2).map
      fun (verdict, answers) => read_verdict verdict answers := by
  induction buf with
  | nil => exact fun l => rfl
  | cons b buf ih =>
      intro l
      rw [wait_scan.eq_2, loraham_framed_decode_cons]
      generalize loraham_framed_decode_byte l.data.framed b = r
      obtain ⟨st, ret | _ | frame⟩ := r
      · exact congrArg some (read_verdict_error _).symm
      · exact ih (l.decoded st)
      · dsimp only
        rw [decided]
        by_cases htype : frame.type = LORAHAM_FRAME_TX_RESULT
        · rw [if_pos htype, if_pos htype, Option.map_some, frame_verdict]
          cases loraham_decode_tx_result frame with
          | error ret => exact congrArg some (read_verdict_error _).symm
          | ok result =>
              have hrest := wait_rest_verdict w buf (l.decoded st)
              have hrest : _ = if no_error (loraham_framed_decode st buf).2 = true then Lhkt.OK
                else .ERR_TX_RESULT := hrest
              dsimp only
              rw [hrest]
              unfold read_verdict
              split <;> rfl
        · have h := ih (wait_frame w frame (l.decoded st))
          rw [wait_frame_data] at h
          rw [if_neg htype, if_neg htype]
          exact h

/-! ## A stream in reads -/

/-- What the rounds of a wait read. -/
def reads (rounds : List data_round) : List Bytes :=
  rounds.filterMap fun round => match round.wait with
    | .read bytes => some bytes
    | _ => none

/-- The rounds of a wait that is neither stopped nor too late: each reads between
1 and 512 bytes, or is an interrupted call. -/
def InTime (deadline : Int) (rounds : List data_round) : Prop :=
  ∀ round ∈ rounds, round.signal = false ∧ round.now < deadline ∧
    (round.wait = .eintr ∨ round.wait = .read_again ∨
      ∃ bytes, round.wait = .read bytes ∧ bytes ≠ [] ∧ bytes.length ≤ 512)

/-- What a wait reads while it is neither stopped nor too late: it ends at the first
round that is, at one without data, and at the end of the stream. -/
def reads_in_time (deadline : Int) : List data_round → List Bytes
  | [] => []
  | round :: rounds =>
      if round.signal ∨ deadline ≤ round.now then []
      else match round.wait with
        | .eintr => reads_in_time deadline rounds
        | .read_again => reads_in_time deadline rounds
        | .read (b :: buf) => (b :: buf) :: reads_in_time deadline rounds
        | _ => []

/-- When all rounds are in time, that is all they read. -/
theorem reads_in_time_eq {deadline : Int} {rounds : List data_round} (h : InTime deadline rounds) :
    reads_in_time deadline rounds = reads rounds := by
  induction rounds with
  | nil => rfl
  | cons round rounds ih =>
      obtain ⟨⟨hsignal, hnow, hwait⟩, hrest⟩ := List.forall_mem_cons.mp h
      have hgoes : ¬ (round.signal = true ∨ deadline ≤ round.now) := by
        rw [hsignal]
        exact fun h => h.elim Bool.false_ne_true (Int.not_le.mpr hnow)
      rw [reads_in_time, if_neg hgoes]
      rcases hwait with hwait | hwait | ⟨bytes, hwait, hne, -⟩
      · have hreads : reads (round :: rounds) = reads rounds :=
          List.filterMap_cons_none (by rw [hwait])
        rw [hwait, hreads]
        exact ih hrest
      · have hreads : reads (round :: rounds) = reads rounds :=
          List.filterMap_cons_none (by rw [hwait])
        rw [hwait, hreads]
        exact ih hrest
      · have hreads : reads (round :: rounds) = bytes :: reads rounds :=
          List.filterMap_cons_some (by rw [hwait])
        rw [hwait, hreads, ← ih hrest]
        obtain _ | ⟨b, buf⟩ := bytes
        · exact absurd rfl hne
        · rfl

/-- What the wait answers for a stream in reads. -/
def wait_verdict : loraham_framed_rx_state_t → List Bytes → Except Lhkt loraham_tx_result_t
  | _, [] => .error .ERR_TX_RESULT
  | state, buf :: reads =>
      match decided (loraham_framed_decode state buf).2 with
      | none => wait_verdict (loraham_framed_decode state buf).1 reads
      | some (verdict, answers) => read_verdict verdict answers

/-- A read that does not decide is decoded to its end. -/
theorem wait_scan_none {w : Nat → List write_ret} {buf : Bytes} {l : wait_t}
    (h : (wait_scan w buf l).2 = none) :
    (wait_scan w buf l).1.data
      = { l.data with framed := (loraham_framed_decode l.data.framed buf).1 } := by
  obtain ⟨framed, hdata, hok⟩ := wait_scan_decoded w buf l
  rw [hdata, hok fun ret hret => by rw [h] at hret; exact nomatch hret]

theorem wait_frame_stop (w : Nat → List write_ret) (frame : loraham_frame_t) (l : wait_t) :
    (wait_frame w frame l).stop = l.stop := by
  unfold wait_frame
  dsimp only
  split <;> rfl

theorem wait_rest_stop (w : Nat → List write_ret) (buf : Bytes) : ∀ l : wait_t,
    (wait_rest w buf l).1.stop = l.stop := by
  induction buf with
  | nil => exact fun _ => rfl
  | cons b buf ih =>
      intro l
      rw [wait_rest.eq_2]
      generalize loraham_framed_decode_byte l.data.framed b = r
      obtain ⟨st, ret | _ | frame⟩ := r
      · rfl
      · exact ih (l.decoded st)
      · dsimp only
        split
        · exact ih _
        · exact (ih _).trans (wait_frame_stop w frame (l.decoded st))

/-- Nothing in a read looks at the stop request. -/
theorem wait_scan_stop (w : Nat → List write_ret) (buf : Bytes) : ∀ l : wait_t,
    (wait_scan w buf l).1.stop = l.stop := by
  induction buf with
  | nil => exact fun _ => rfl
  | cons b buf ih =>
      intro l
      rw [wait_scan.eq_2]
      generalize loraham_framed_decode_byte l.data.framed b = r
      obtain ⟨st, ret | _ | frame⟩ := r
      · rfl
      · exact ih (l.decoded st)
      · dsimp only
        split
        · split
          · rfl
          · exact wait_rest_stop w buf (l.decoded st)
        · exact (ih _).trans (wait_frame_stop w frame (l.decoded st))

/-! ## The rounds of a running wait -/

/-- What a round brings to a wait that is neither stopped nor too late: bytes, or
nothing yet; or it ends the wait. -/
def brought (deadline : Int) (round : data_round) : Option Bytes :=
  if round.signal ∨ deadline ≤ round.now then none
  else match round.wait with
    | .eintr => some []
    | .read_again => some []
    | .read (b :: buf) => some (b :: buf)
    | _ => none

section Rounds

variable {w : Nat → List write_ret} {deadline : Int} {round : data_round}
  {rounds : List data_round}

/-- Nothing is read behind a round that ends the wait. -/
theorem reads_in_time_end (h : brought deadline round = none) :
    reads_in_time deadline (round :: rounds) = [] := by
  unfold brought at h
  unfold reads_in_time
  split
  · rfl
  · rename_i hgoes
    rw [if_neg hgoes] at h
    split at h
    · exact nomatch h
    · exact nomatch h
    · exact nomatch h
    · rfl

/-- A round without data waits for the next. -/
theorem reads_in_time_skip (h : brought deadline round = some []) :
    reads_in_time deadline (round :: rounds) = reads_in_time deadline rounds := by
  unfold brought at h
  rw [reads_in_time]
  split at h
  · exact nomatch h
  · rename_i hgoes
    rw [if_neg hgoes]
    split at h
    · rfl
    · rfl
    · exact nomatch h
    · exact nomatch h

/-- A round with data reads it. -/
theorem reads_in_time_read {b : UInt8} {buf : Bytes}
    (h : brought deadline round = some (b :: buf)) :
    reads_in_time deadline (round :: rounds) = (b :: buf) :: reads_in_time deadline rounds := by
  unfold brought at h
  rw [reads_in_time]
  split at h
  · exact nomatch h
  · rename_i hgoes
    rw [if_neg hgoes]
    split at h
    · exact nomatch h
    · exact nomatch h
    · rw [← Option.some.inj h]
    · exact nomatch h

/-- A round that does not end the wait requests no stop. -/
theorem signal_of_brought {bytes : Bytes} (h : brought deadline round = some bytes) :
    round.signal = false := by
  unfold brought at h
  split at h
  · exact nomatch h
  · rename_i hgoes
    exact Bool.eq_false_of_not_eq_true fun hsignal => hgoes (.inl hsignal)

end Rounds

/-- What a read says about the decision is what its bytes say. -/
theorem wait_scan_answer {w : Nat → List write_ret} {buf : Bytes} {l l' : wait_t}
    {answer : Option (Except Lhkt loraham_tx_result_t)} (h : wait_scan w buf l = (l', answer)) :
    answer = (decided (loraham_framed_decode l.data.framed buf).2).map
      fun decision => read_verdict decision.1 decision.2 := by
  rw [← wait_scan_verdict w buf l, h]

/-- **A rule for a running wait**, by what its rounds bring. A read that decides
nothing leaves the decoder where its bytes lead to; one that decides ends the wait. -/
theorem wait_rounds_running
    {P : wait_t → List data_round → wait_t × Except Lhkt loraham_tx_result_t → Prop}
    (w : Nat → List write_ret) (deadline : Int)
    (hnil : ∀ l, l.stop = false → P l [] (l, .error .ERR_TX_RESULT))
    (hend : ∀ l round rounds, brought deadline round = none →
      P l (round :: rounds) ({ l with stop := round.signal }, .error .ERR_TX_RESULT))
    (hskip : ∀ l round rounds, brought deadline round = some [] →
      P l rounds (wait_rounds w deadline rounds l) →
      P l (round :: rounds) (wait_rounds w deadline rounds l))
    (hmore : ∀ l round rounds b buf l', brought deadline round = some (b :: buf) →
      wait_scan w (b :: buf) (l.received false (b :: buf)) = (l', none) →
      decided (loraham_framed_decode l.data.framed (b :: buf)).2 = none →
      l'.data.framed = (loraham_framed_decode l.data.framed (b :: buf)).1 →
      P l' rounds (wait_rounds w deadline rounds l') →
      P l (round :: rounds) (wait_rounds w deadline rounds l'))
    (hdone : ∀ l round rounds b buf l' decision, brought deadline round = some (b :: buf) →
      wait_scan w (b :: buf) (l.received false (b :: buf))
        = (l', some (read_verdict decision.1 decision.2)) →
      decided (loraham_framed_decode l.data.framed (b :: buf)).2 = some decision →
      l'.stop = false → P l (round :: rounds) (l', read_verdict decision.1 decision.2))
    (rounds : List data_round) :
    ∀ l, l.stop = false → P l rounds (wait_rounds w deadline rounds l) := by
  induction rounds with
  | nil => exact hnil
  | cons round rounds ih =>
      intro l hstop
      unfold wait_rounds
      dsimp only
      rw [hstop, Bool.false_or]
      by_cases hsignal : round.signal = true
      · rw [if_pos hsignal]
        exact hend l round rounds (if_pos (.inl hsignal))
      rw [if_neg hsignal]
      -- the wait is looked at in the order of the source: the stop request, then the clock
      by_cases hlate : deadline ≤ round.now
      · rw [if_pos hlate]
        exact hend l round rounds (if_pos (.inr hlate))
      rw [if_neg hlate]
      have hbrought : brought deadline round = _ := if_neg (not_or.mpr ⟨hsignal, hlate⟩)
      have hsignal : round.signal = false := Bool.eq_false_of_not_eq_true hsignal
      have hsame : ({ l with stop := false } : wait_t) = l := by rw [← hstop]
      have hskip := fun hb => hskip l round rounds hb (ih l hstop)
      have hend := hend l round rounds
      rw [hsignal, hsame] at hend ⊢
      cases hwait : round.wait with
      | eintr => exact hskip (by rw [hbrought, hwait])
      | read_again => exact hskip (by rw [hbrought, hwait])
      | read bytes =>
          rw [hwait] at hbrought
          obtain _ | ⟨b, buf⟩ := bytes
          · exact hend hbrought
          -- there are bytes: what the scan answers is what they decide
          have hrun := wait_scan_stop w (b :: buf) (l.received false (b :: buf))
          have hnone := @wait_scan_none w (b :: buf) (l.received false (b :: buf))
          rcases hscan : wait_scan w (b :: buf) (l.received false (b :: buf)) with ⟨l', answer⟩
          have hanswer := wait_scan_answer hscan
          rw [hscan] at hrun hnone
          have hround := hscan
          unfold wait_t.received at hround
          dsimp only
          rw [hround]
          cases hdec : decided (loraham_framed_decode l.data.framed (b :: buf)).2 with
          | none =>
              obtain rfl : answer = none := hanswer.trans (congrArg _ hdec)
              have hdata : l'.data = _ := hnone rfl
              have hframed : l'.data.framed = _ := congrArg data_t.framed hdata
              exact hmore l round rounds b buf l' hbrought hscan hdec hframed (ih l' hrun)
          | some decision =>
              obtain rfl : answer = some _ := hanswer.trans (congrArg _ hdec)
              exact hdone l round rounds b buf l' decision hbrought hscan hdec hrun
      | _ => exact hend (by rw [hbrought, hwait])

/-- **The wait**, for whatever its rounds bring. -/
theorem wait_rounds_verdict (w : Nat → List write_ret) (deadline : Int) (rounds : List data_round) :
    ∀ l : wait_t, l.stop = false → (wait_rounds w deadline rounds l).2
      = wait_verdict l.data.framed (reads_in_time deadline rounds) := by
  refine wait_rounds_running (P := fun l rounds r =>
    r.2 = wait_verdict l.data.framed (reads_in_time deadline rounds)) w deadline
    (fun _ _ => rfl) ?_ ?_ ?_ ?_ rounds
  · intro l round rounds hbrought
    rw [reads_in_time_end hbrought]
    rfl
  · intro l round rounds hbrought ih
    rw [reads_in_time_skip hbrought]
    exact ih
  · -- the read decided nothing: the decoder goes on where it was
    intro l round rounds b buf l' hbrought _ hdec hframed ih
    rw [reads_in_time_read hbrought, wait_verdict, hdec, ← hframed]
    exact ih
  · intro l round rounds b buf l' decision hbrought _ hdec _
    rw [reads_in_time_read hbrought, wait_verdict, hdec]

/-! ## The verdict and the stream -/

/-- The read that decides is the one in which the stream decides. -/
theorem stream_verdict_cons (state : loraham_framed_rx_state_t) (buf : Bytes) (bytes : Bytes) :
    stream_verdict state (buf ++ bytes)
      = match decided (loraham_framed_decode state buf).2 with
        | none => stream_verdict (loraham_framed_decode state buf).1 bytes
        | some (verdict, _) => some verdict := by
  unfold stream_verdict
  rw [loraham_framed_decode_append]
  match hdec : decided (loraham_framed_decode state buf).2 with
  | none => rw [decided_append_none hdec]
  | some (verdict, rest) =>
      rw [decided_append hdec]
      rfl

/-- Without a framing error behind what decides, the verdict is the stream's. -/
theorem wait_verdict_clean (reads : List Bytes) : ∀ state : loraham_framed_rx_state_t,
    clean_tail state reads → wait_verdict state reads
      = (stream_verdict state reads.flatten).getD (.error .ERR_TX_RESULT) := by
  induction reads with
  | nil => exact fun _ _ => rfl
  | cons buf reads ih =>
      intro state hclean
      rw [wait_verdict, List.flatten_cons, stream_verdict_cons]
      unfold clean_tail at hclean
      match hdec : decided (loraham_framed_decode state buf).2 with
      | none =>
          rw [hdec] at hclean
          exact ih _ hclean
      | some (verdict, answers) =>
          rw [hdec] at hclean
          exact if_pos hclean

/-- With one, it is a failure. -/
theorem wait_verdict_dirty (reads : List Bytes) : ∀ state : loraham_framed_rx_state_t,
    ¬ clean_tail state reads → wait_verdict state reads = .error .ERR_TX_RESULT := by
  induction reads with
  | nil => exact fun _ h => absurd rfl h
  | cons buf reads ih =>
      intro state hdirty
      rw [wait_verdict]
      unfold clean_tail at hdirty
      match hdec : decided (loraham_framed_decode state buf).2 with
      | none =>
          rw [hdec] at hdirty
          exact ih _ hdirty
      | some (verdict, answers) =>
          rw [hdec] at hdirty
          exact if_neg hdirty

theorem wait_tx_result_verdict (e : result_env) (cfg : lhkt_config_t) (client_fd : Bool) (s : io_t)
    (hopen : s.data.fd = true) (hstop : s.stop = false) :
    (bridge_loraham_wait_tx_result e cfg client_fd s).2.2
      = wait_verdict s.data.framed
          (reads_in_time (e.start + cfg.tx_busy_timeout_ms) e.rounds) := by
  unfold bridge_loraham_wait_tx_result
  rw [if_neg (by simp [hopen])]
  exact wait_rounds_verdict e.client _ e.rounds ⟨s.stop, s.rx, s.data, client_fd, .OK⟩ hstop

/-- **The verdict of the wait.** For every decoder state and every splitting of
the stream into reads, it is what the first TX_RESULT frame or framing error of
the stream says, unless a framing error follows it in the same read, which makes
it a failure. So two splittings agree unless such an error shares a read with the
TX_RESULT in one of them. -/
theorem tx_result_verdict_of_stream (cfg : lhkt_config_t) (client_fd : Bool) (s : io_t)
    (hopen : s.data.fd = true) (hstop : s.stop = false) (e e' : result_env)
    (hin : InTime (e.start + cfg.tx_busy_timeout_ms) e.rounds)
    (hin' : InTime (e'.start + cfg.tx_busy_timeout_ms) e'.rounds)
    (hbytes : (reads e.rounds).flatten = (reads e'.rounds).flatten) :
    (clean_tail s.data.framed (reads e.rounds) →
      (bridge_loraham_wait_tx_result e cfg client_fd s).2.2
        = (stream_verdict s.data.framed (reads e.rounds).flatten).getD (.error .ERR_TX_RESULT)) ∧
    (¬ clean_tail s.data.framed (reads e.rounds) →
      (bridge_loraham_wait_tx_result e cfg client_fd s).2.2 = .error .ERR_TX_RESULT) ∧
    (clean_tail s.data.framed (reads e.rounds) → clean_tail s.data.framed (reads e'.rounds) →
      (bridge_loraham_wait_tx_result e cfg client_fd s).2.2
        = (bridge_loraham_wait_tx_result e' cfg client_fd s).2.2) := by
  rw [wait_tx_result_verdict e cfg client_fd s hopen hstop, reads_in_time_eq hin,
    wait_tx_result_verdict e' cfg client_fd s hopen hstop, reads_in_time_eq hin']
  refine ⟨wait_verdict_clean _ _, wait_verdict_dirty _ _, fun hclean hclean' => ?_⟩
  rw [wait_verdict_clean _ _ hclean, wait_verdict_clean _ _ hclean', hbytes]

/-- Rounds that read the given pieces at once. -/
def reading (pieces : List Bytes) : result_env :=
  { rounds := pieces.map fun bytes => { wait := .read bytes } }

/-- A TX_RESULT frame with status OK and sequence number 0x1234. -/
def result_frame : Bytes := [LORAHAM_FRAME_TX_RESULT, 4, 0, 0, 3, 0x34, 0x12]

theorem inTime_reading {pieces : List Bytes} {deadline : Int} (hdeadline : 0 < deadline)
    (h : ∀ bytes ∈ pieces, bytes ≠ [] ∧ bytes.length ≤ 512) :
    InTime deadline (reading pieces).rounds := by
  intro round hround
  obtain ⟨bytes, hbytes, rfl⟩ := List.mem_map.mp hround
  exact ⟨rfl, hdeadline, .inr (.inr ⟨bytes, rfl, h bytes hbytes⟩)⟩

/-- The result at once and in two reads, with the start of another frame behind
it. -/
theorem tx_result_verdict_two_reads :
    let s : io_t := { data := { fd := true } }
    (bridge_loraham_wait_tx_result (reading [result_frame ++ [1]]) lhkt_config_defaults true s).2.2
      = (bridge_loraham_wait_tx_result (reading [result_frame.take 3, result_frame.drop 3 ++ [1]])
          lhkt_config_defaults true s).2.2 :=
  (tx_result_verdict_of_stream lhkt_config_defaults true { data := { fd := true } } rfl rfl
    (reading [result_frame ++ [1]]) (reading [result_frame.take 3, result_frame.drop 3 ++ [1]])
    (inTime_reading (by decide) (by decide)) (inTime_reading (by decide) (by decide))
    (by decide)).2.2 (by decide) (by decide)

/-- The header of a frame that is too long behind the result: in the same read
it makes the wait fail, in a read of its own it does not. -/
theorem tx_result_verdict_split :
    let s : io_t := { data := { fd := true } }
    let tail : Bytes := [LORAHAM_FRAME_RX_PACKET, 0xff, 0xff]
    (bridge_loraham_wait_tx_result (reading [result_frame ++ tail]) lhkt_config_defaults true s).2.2
        = .error .ERR_TX_RESULT ∧
      (bridge_loraham_wait_tx_result (reading [result_frame, tail]) lhkt_config_defaults true s).2.2
        = .ok ⟨LORAHAM_TX_STATUS_OK, 3, 0x1234⟩ ∧
      stream_verdict s.data.framed (result_frame ++ tail)
        = some (.ok ⟨LORAHAM_TX_STATUS_OK, 3, 0x1234⟩) := by
  decide +kernel

end LorahamKissTnc.TxWait
