/-
Which frames the client is written for a stretch of the daemon's stream, and what
becomes of the first one it does not take.

`RxPacket` follows a packet to a client that takes everything. Here the writes may
fail, so the texts matter one by one: `found_texts` are those the extractor finds in
a packet, up to an error of its own, and the client is written the frames of the
texts in front of the first that is no TNC2 line (`packet_writes`). Over the answers
of the framed decoder these add up to `stream_writes`, which ends where the idle
path ends. Nothing here depends on the writes; they come in with `AllTaken`: a piece
of work returns `LHKT_ERR_CLIENT_SOCKET` exactly when one of its frames is not taken
(`Offers`).
-/
import LorahamKissTnc.RxPacket

set_option autoImplicit false

open LorahamKissTnc.Lib.CString LorahamKissTnc.Lib.Channel LorahamKissTnc.Lib.Machine
open LorahamKissTnc.Config LorahamKissTnc.Kiss LorahamKissTnc.Ax25 LorahamKissTnc.Tnc2
open LorahamKissTnc.LorahamSock LorahamKissTnc.BridgeRx LorahamKissTnc.RxPacket

namespace LorahamKissTnc.ClientWrites

/-! ## Frames for the client -/

/-- The extractor over a stretch of bytes: the texts it finds, and the state behind
them unless it fails on the way. -/
def extract_texts : loraham_rx_state_t → Bytes → List Bytes × Option loraham_rx_state_t
  | state, [] => ([], some state)
  | state, b :: bytes =>
      match settled (loraham_extract_byte LHKT_TNC2_MAX_LINE state b) with
      | .error _ => ([], none)
      | .ok (state, text) =>
          let r := extract_texts state bytes
          (text.toList ++ r.1, r.2)

/-- The text in progress at the end of a packet. -/
def flush_texts (state : loraham_rx_state_t) : List Bytes × Option loraham_rx_state_t :=
  match settled (loraham_emit_tnc2 state LHKT_TNC2_MAX_LINE true false) with
  | .error _ => ([], none)
  | .ok (state, text) => (text.toList, some state)

/-- The texts found in a packet, up to an error. A packet that is too long for the
extractor is refused as a whole. -/
def found_texts (packet : Bytes) : List Bytes :=
  if LHKT_LORAHAM_RX_PENDING < packet.length then []
  else
    let r := extract_texts loraham_rx_state_init packet
    r.1 ++ r.2.elim [] fun state => (flush_texts state).1

/-- The frames for a series of texts: it ends at the first that is no TNC2 line. -/
def text_writes : List Bytes → List Bytes
  | [] => []
  | text :: texts => if (tnc2_parse_line text).isOk then text_frame text :: text_writes texts else []

/-- The frames for a packet. -/
def packet_writes (packet : Bytes) : List Bytes := text_writes (found_texts packet)

/-- The frames for a frame of the daemon's stream. -/
def frame_writes (frame : loraham_frame_t) : List Bytes :=
  if frame.type = LORAHAM_FRAME_RX_PACKET ∧
      BRIDGE_RX_LORAHAM_META_LEN ≤ frame.payload.length then
    packet_writes (rf_bytes frame.payload)
  else []

/-- The frames for the answers of the decoder on the idle path, which ends at a
framing error or a bad packet. -/
def stream_writes : List (Except Lhkt (Option loraham_frame_t)) → List Bytes
  | [] => []
  | .error _ :: _ => []
  | .ok none :: answers => stream_writes answers
  | .ok (some frame) :: answers =>
      frame_writes frame ++ if FrameDeliverable frame then stream_writes answers else []

/-! ## Writes that are taken -/

/-- The frames are taken in full, the first as the `n`th write on the connection. -/
def AllTaken (w : Nat → List write_ret) : Nat → List Bytes → Prop
  | _, [] => True
  | n, frame :: frames => (write_loop frame.length 0 (w n)).2 = true ∧ AllTaken w (n + 1) frames

instance decidableAllTaken (w : Nat → List write_ret) :
    (n : Nat) → (frames : List Bytes) → Decidable (AllTaken w n frames)
  | _, [] => inferInstanceAs (Decidable True)
  | n, frame :: frames =>
      have := decidableAllTaken w (n + 1) frames
      inferInstanceAs (Decidable ((write_loop frame.length 0 (w n)).2 = true ∧ _))

theorem allTaken_append {w : Nat → List write_ret} {a b : List Bytes} : ∀ {n : Nat},
    AllTaken w n (a ++ b) ↔ AllTaken w n a ∧ AllTaken w (n + a.length) b := by
  induction a with
  | nil => exact fun {n} => (and_iff_right trivial).symm
  | cons frame a ih =>
      intro n
      have hlen : n + (frame :: a).length = n + 1 + a.length := by
        rw [List.length_cons]
        omega
      rw [hlen, List.cons_append, AllTaken, AllTaken, ih, and_assoc]

/-! ## Work for a client -/

/-- From `c` to `c'` the client was written the frames, up to the first that it did
not take. `good` says whether the work goes on behind them. -/
structure Offers (w : Nat → List write_ret) (frames : List Bytes) (good : Prop)
    (c c' : bridge_rx_t) (ret : Lhkt) : Prop where
  failed_iff : ret = .ERR_CLIENT_SOCKET ↔ ¬ AllTaken w c.client_tx.length frames
  ok_iff : ret = .OK ↔ AllTaken w c.client_tx.length frames ∧ good
  sent : ret ≠ .ERR_CLIENT_SOCKET → c'.client_tx.length = c.client_tx.length + frames.length

section Offers

variable {w : Nat → List write_ret} {frames more : List Bytes} {good good' : Prop}
  {c c' c'' : bridge_rx_t} {ret : Lhkt}

/-- Only the stream to the client matters. -/
theorem Offers.congr {d d' : bridge_rx_t} (h : Offers w frames good c c' ret)
    (hc : d.client_tx = c.client_tx) (hc' : d'.client_tx = c'.client_tx) :
    Offers w frames good d d' ret := by
  constructor
  · rw [hc]
    exact h.failed_iff
  · rw [hc]
    exact h.ok_iff
  · rw [hc, hc']
    exact h.sent

theorem Offers.of_iff (h : Offers w frames good c c' ret) (hgood : good ↔ good') :
    Offers w frames good' c c' ret :=
  ⟨h.failed_iff, h.ok_iff.trans (and_congr_right fun _ => hgood), h.sent⟩

/-- Nothing to write, and nothing wrong. -/
theorem offers_nil (htx : c'.client_tx = c.client_tx) (hgood : good) :
    Offers w [] good c c' .OK := by
  refine ⟨iff_of_false (by decide) fun h => h trivial, iff_of_true rfl ⟨trivial, hgood⟩, ?_⟩
  intro _
  rw [htx]
  rfl

/-- Nothing to write, and the packet is dropped. -/
theorem offers_drop (htx : c'.client_tx = c.client_tx) (hret : Drops ret) (hgood : ¬ good) :
    Offers w [] good c c' ret := by
  refine ⟨iff_of_false hret.ne_client fun h => h trivial,
    iff_of_false hret.ne_ok fun h => hgood h.2, ?_⟩
  intro _
  rw [htx]
  rfl

/-- A frame is not taken. -/
theorem offers_failed (hfailed : ¬ AllTaken w c.client_tx.length frames) :
    Offers w frames good c c' .ERR_CLIENT_SOCKET :=
  ⟨iff_of_true rfl hfailed, iff_of_false (by decide) fun h => hfailed h.1,
    fun hno => absurd rfl hno⟩

/-- Work that went through, and is found to be bad in the end. -/
theorem Offers.fail (h : Offers w frames good c c' .OK) (hret : Drops ret) (hgood : ¬ good')
    (hc'' : c''.client_tx = c'.client_tx) : Offers w frames good' c c'' ret := by
  have htaken := (h.ok_iff.mp rfl).1
  refine ⟨iff_of_false hret.ne_client fun h => h htaken,
    iff_of_false hret.ne_ok fun h => hgood h.2, fun _ => ?_⟩
  rw [hc'']
  exact h.sent (by decide)

/-- Work that did not go through is no better for a stricter `good`. -/
theorem Offers.strict (h : Offers w frames good c c' ret) (hret : ret ≠ .OK)
    (hgood : good' → good) : Offers w frames good' c c' ret :=
  ⟨h.failed_iff, iff_of_false hret fun hall => hret (h.ok_iff.mpr ⟨hall.1, hgood hall.2⟩), h.sent⟩

/-- More work behind the first piece. -/
theorem Offers.trans (h : Offers w frames good c c' .OK) (h' : Offers w more good' c' c'' ret) :
    Offers w (frames ++ more) (good ∧ good') c c'' ret := by
  obtain ⟨htaken, hgood⟩ := h.ok_iff.mp rfl
  have hlen := h.sent (by decide)
  constructor
  · rw [h'.failed_iff, allTaken_append, hlen, and_iff_right htaken]
  · rw [h'.ok_iff, allTaken_append, hlen, and_iff_right htaken, and_iff_right hgood]
  · intro hret
    rw [h'.sent hret, hlen, List.length_append, Nat.add_assoc]

/-- The first piece ends the work: nothing more is written, and it was a client
failure or bad. -/
theorem Offers.stop (h : Offers w frames good c c' ret) (hret : ret ≠ .OK)
    (hmore : ¬ good → more = []) (hgood : good' → good) :
    Offers w (frames ++ more) good' c c' ret := by
  by_cases hclient : ret = .ERR_CLIENT_SOCKET
  · have hfailed := h.failed_iff.mp hclient
    rw [hclient]
    exact offers_failed fun hall => hfailed (allTaken_append.mp hall).1
  · have htaken : AllTaken w c.client_tx.length frames :=
      not_not.mp fun hno => hclient (h.failed_iff.mpr hno)
    have hbad : ¬ good := fun hok => hret (h.ok_iff.mpr ⟨htaken, hok⟩)
    rw [hmore hbad, List.append_nil]
    exact h.strict hret hgood

end Offers

/-! ## One text -/

theorem text_writes_append (a b : List Bytes) :
    text_writes (a ++ b) = text_writes a
      ++ if ∀ text ∈ a, (tnc2_parse_line text).isOk = true then text_writes b else [] := by
  induction a with
  | nil => simp [text_writes]
  | cons text a ih =>
      rw [List.cons_append, text_writes, text_writes]
      by_cases hline : (tnc2_parse_line text).isOk = true
      · rw [if_pos hline, if_pos hline, ih, List.cons_append]
        simp [hline]
      · rw [if_neg hline, if_neg hline, List.nil_append, if_neg]
        exact fun h => hline (h text List.mem_cons_self)

/-- **A text** for a client that may not take it. -/
theorem send_tnc2_offers (w : Nat → List write_ret) (text : Bytes) (c : bridge_rx_t) :
    Offers w (text_writes [text]) ((tnc2_parse_line text).isOk = true) c
        (bridge_rx_send_tnc2_to_kiss_client w true text c).1
        (bridge_rx_send_tnc2_to_kiss_client w true text c).2 ∧
      ((bridge_rx_send_tnc2_to_kiss_client w true text c).2 = .OK →
        (bridge_rx_send_tnc2_to_kiss_client w true text c).1.stats.loraham_rx
          = c.stats.loraham_rx) := by
  have hparse := checked_parse_line text
  unfold bridge_rx_send_tnc2_to_kiss_client
  rw [if_neg (show ¬ (!true) = true by decide)]
  cases hline : tnc2_parse_line text with
  | error ret =>
      -- no line, so there is nothing for the client
      have hwrites : text_writes [text] = [] := by
        rw [text_writes, hline]
        rfl
      rw [hline] at hparse
      have hdrop : Drops ret := by
        rcases hparse with hlong | hformat
        · exact .inl hlong
        · exact .inr (.inl hformat)
      rw [hwrites]
      exact ⟨offers_drop rfl hdrop (fun h => nomatch h), fun hok => absurd hok hdrop.ne_ok⟩
  | ok frame =>
      have hwrites : text_writes [text] = [kiss_data_frame (ui_octets frame)] := by
        rw [text_writes, text_writes, text_frame, hline]
        rfl
      -- a line is always encoded: only the write can fail
      obtain ⟨hax25, hkiss⟩ := encode_accepted hline
      rw [hwrites]
      dsimp only
      rw [hax25]
      dsimp only
      rw [hkiss]
      dsimp only
      have hok : (bridge_rx_write_all_fd w (kiss_data_frame (ui_octets frame))
          ((c.count .tnc2_rx).count .ax25_tx).client_tx).ok
          = (write_loop (kiss_data_frame (ui_octets frame)).length 0 (w c.client_tx.length)).2 := rfl
      have htaken : AllTaken w c.client_tx.length [kiss_data_frame (ui_octets frame)] ↔
          (write_loop (kiss_data_frame (ui_octets frame)).length 0 (w c.client_tx.length)).2
            = true := and_iff_left trivial
      rw [hok]
      cases hsent : (write_loop (kiss_data_frame (ui_octets frame)).length 0
          (w c.client_tx.length)).2 with
      | false =>
          have hfailed : ¬ AllTaken w c.client_tx.length [kiss_data_frame (ui_octets frame)] := by
            rw [htaken, hsent]
            decide
          exact ⟨offers_failed hfailed, fun hno => nomatch hno⟩
      | true =>
          have hall := htaken.mpr hsent
          refine ⟨⟨iff_of_false (fun h => nomatch h) fun h => h hall, iff_of_true rfl ⟨hall, rfl⟩,
            fun _ => ?_⟩, fun _ => rfl⟩
          exact List.length_append

/-! ## The loop around the extractor -/

/-- How an answer of the extractor, which stops at the first text, fits into
`extract_texts` over the same bytes. -/
def Found (bytes : Bytes) (found : List Bytes × Option loraham_rx_state_t) :
    loraham_rx_state_t × Except Lhkt (Option Bytes) → Prop
  | (state, .ok none) => state.pending = [] ∧ found = ([], some state)
  | (state, .ok (some text)) => state.pending.length < bytes.length ∧
      found = (text :: (extract_texts { state with pending := [] } state.pending).1,
        (extract_texts { state with pending := [] } state.pending).2)
  | (_, .error _) => found = ([], none)

/-- The loop over the pending bytes finds what is found. -/
theorem extract_pending_found (bytes : Bytes) : ∀ state : loraham_rx_state_t,
    Found bytes (extract_texts { state with pending := [] } bytes)
      (loraham_extract_pending LHKT_TNC2_MAX_LINE state bytes) := by
  induction bytes with
  | nil => exact fun state => ⟨rfl, rfl⟩
  | cons b bytes ih =>
      intro state
      have hbyte := extract_byte_repend LHKT_TNC2_MAX_LINE { state with pending := [] } bytes b
      have hnone := extract_byte_repend LHKT_TNC2_MAX_LINE { state with pending := [] } [] b
      unfold loraham_extract_pending extract_texts
      generalize loraham_extract_byte LHKT_TNC2_MAX_LINE { state with pending := bytes } b = r
        at hbyte ⊢
      generalize settled (loraham_extract_byte LHKT_TNC2_MAX_LINE { state with pending := [] } b)
        = r' at hbyte hnone ⊢
      obtain ⟨st, ret | text⟩ := r
      · cases r' with
        | error ret' => rfl
        | ok r' => cases hbyte
      · cases r' with
        | error ret' => cases hbyte
        | ok r' =>
            obtain ⟨st', text'⟩ := r'
            obtain ⟨rfl, rfl⟩ := Prod.mk.inj (Except.ok.inj hbyte)
            -- without pending bytes before, there are none afterwards
            have hst' : { st' with pending := [] } = st' :=
              (Prod.mk.inj (Except.ok.inj hnone)).1.symm
            cases text with
            | none =>
                have h := ih { st' with pending := bytes }
                rw [hst'] at h
                dsimp only
                generalize loraham_extract_pending LHKT_TNC2_MAX_LINE { st' with pending := bytes }
                  bytes = r at h ⊢
                obtain ⟨st, ret | _ | text⟩ := r
                · exact h
                · exact h
                · exact ⟨Nat.lt_succ_of_lt h.1, h.2⟩
            | some text =>
                refine ⟨Nat.lt_succ_self _, ?_⟩
                show (text :: (extract_texts st' bytes).1, _) = _
                rw [hst']

/-- The loop over bytes wrote the client the frames of the texts in them. -/
structure Extracted (w : Nat → List write_ret) (c : bridge_rx_t)
    (found : List Bytes × Option loraham_rx_state_t)
    (r : bridge_rx_t × loraham_rx_state_t × Lhkt) : Prop where
  offers : Offers w (text_writes found.1)
    (found.2.isSome = true ∧ ∀ text ∈ found.1, (tnc2_parse_line text).isOk = true) c r.1 r.2.2
  ok : r.2.2 = .OK →
    found.2 = some r.2.1 ∧ r.1.stats.loraham_rx = c.stats.loraham_rx + found.1.length

/-- Nothing found, and nothing wrong. -/
theorem extracted_nil (w : Nat → List write_ret) (c : bridge_rx_t) (state : loraham_rx_state_t) :
    Extracted w c ([], some state) (c, state, .OK) :=
  ⟨offers_nil rfl ⟨rfl, fun _ h => absurd h List.not_mem_nil⟩, fun _ => ⟨rfl, rfl⟩⟩

/-- The extractor fails: nothing is written, and the packet is dropped. -/
theorem extracted_drop (w : Nat → List write_ret) (c : bridge_rx_t) (state : loraham_rx_state_t)
    {ret : Lhkt} (hdrop : Drops ret) :
    Extracted w c ([], none) (c.count .loraham_drop, state, ret) :=
  ⟨offers_drop rfl hdrop fun h => absurd h.1 (by decide), fun hok => absurd hok hdrop.ne_ok⟩

/-- One text in front of more work. -/
theorem Extracted.cons {w : Nat → List write_ret} {c : bridge_rx_t} {text : Bytes}
    {found : List Bytes × Option loraham_rx_state_t}
    {r : bridge_rx_t × loraham_rx_state_t × Lhkt}
    (hok : (bridge_rx_send_tnc2_to_kiss_client w true text (c.count .loraham_rx)).2 = .OK)
    (h : Extracted w (bridge_rx_send_tnc2_to_kiss_client w true text (c.count .loraham_rx)).1
      found r) : Extracted w c (text :: found.1, found.2) r := by
  obtain ⟨hsend, hcount⟩ := send_tnc2_offers w text (c.count .loraham_rx)
  have hcount := hcount hok
  rw [hok] at hsend
  have hline := (hsend.ok_iff.mp rfl).2
  have hboth := (hsend.congr (d := c) rfl rfl).trans h.offers
  have hwrites : text_writes [text] ++ text_writes found.1 = text_writes (text :: found.1) := by
    rw [text_writes, text_writes, text_writes, if_pos hline, if_pos hline]
    rfl
  rw [hwrites] at hboth
  refine ⟨hboth.of_iff ?_, fun hret => ⟨(h.ok hret).1, ?_⟩⟩
  · simp only [hline, true_and, List.forall_mem_cons]
  · rw [(h.ok hret).2, hcount, List.length_cons]
    show c.stats.loraham_rx + 1 + found.1.length = _
    omega

/-- A text that ends the work. -/
theorem Extracted.stop {w : Nat → List write_ret} {c : bridge_rx_t} {text : Bytes}
    {found : List Bytes × Option loraham_rx_state_t} {state : loraham_rx_state_t}
    (hret : (bridge_rx_send_tnc2_to_kiss_client w true text (c.count .loraham_rx)).2 ≠ .OK) :
    Extracted w c (text :: found.1, found.2)
      ((bridge_rx_send_tnc2_to_kiss_client w true text (c.count .loraham_rx)).1, state,
        (bridge_rx_send_tnc2_to_kiss_client w true text (c.count .loraham_rx)).2) := by
  have hsend := (send_tnc2_offers w text (c.count .loraham_rx)).1
  have hwrites : text_writes (text :: found.1) = text_writes [text]
      ++ if (tnc2_parse_line text).isOk = true then text_writes found.1 else [] := by
    have h := text_writes_append [text] found.1
    simpa using h
  refine ⟨?_, fun hok => absurd hok hret⟩
  rw [hwrites]
  exact (hsend.congr (d := c) rfl rfl).stop hret (fun hbad => if_neg hbad)
    fun hgood => hgood.2 text List.mem_cons_self

/-- **The loop**, whose rounds suffice as every further one has fewer bytes
pending. -/
theorem handle_loraham_chunk_loop_extracted (w : Nat → List write_ret) (rounds : Nat) :
    ∀ (state : loraham_rx_state_t) (buf : Bytes) (c : bridge_rx_t),
      state.pending ++ buf ≠ [] →
      (buf ≠ [] → state.pending.length + buf.length ≤ LHKT_LORAHAM_RX_PENDING) →
      (state.pending ++ buf).length < rounds →
      Extracted w c (extract_texts { state with pending := [] } (state.pending ++ buf))
        (handle_loraham_chunk_loop w true rounds state buf c) := by
  induction rounds with
  | zero => exact fun _ _ _ _ _ h => absurd h (Nat.not_lt_zero _)
  | succ rounds ih =>
      intro state buf c hne hfit hrounds
      have hstart := extract_pending_found (state.pending ++ buf) state
      rw [handle_loraham_chunk_loop, extract_tnc2_pending state buf _ hne hfit]
      generalize hext : loraham_extract_pending LHKT_TNC2_MAX_LINE state (state.pending ++ buf) = r
        at hstart ⊢
      generalize extract_texts { state with pending := [] } (state.pending ++ buf) = found
        at hstart ⊢
      obtain ⟨st, ret | _ | text⟩ := r
      · obtain rfl : found = ([], none) := hstart
        exact extracted_drop w c st (extract_pending_error _ _ hext)
      · -- nothing more to extract
        obtain ⟨hpending, rfl⟩ : st.pending = [] ∧ found = ([], some st) := hstart
        dsimp only
        rw [if_pos hpending]
        exact extracted_nil w c st
      · obtain ⟨hless, rfl⟩ : st.pending.length < (state.pending ++ buf).length ∧
          found = _ := hstart
        dsimp only
        by_cases hret :
            (bridge_rx_send_tnc2_to_kiss_client w true text (c.count .loraham_rx)).2 ≠ .OK
        · rw [if_pos hret]
          exact Extracted.stop hret
        · rw [if_neg hret]
          have hok := not_ne_iff.mp hret
          by_cases hpending : st.pending = []
          · have hst : { st with pending := [] } = st := by rw [← hpending]
            rw [if_pos hpending, hpending, hst]
            exact Extracted.cons hok (extracted_nil w _ st)
          · -- a further round, over what is still pending
            have h := ih st [] (bridge_rx_send_tnc2_to_kiss_client w true text
              (c.count .loraham_rx)).1 (by rw [List.append_nil]; exact hpending)
              (fun h => absurd rfl h) (by rw [List.append_nil]; omega)
            rw [List.append_nil] at h
            rw [if_neg hpending]
            exact Extracted.cons hok h

/-! ## One packet -/

/-- What the extractor finds is what `extract_all` gives, unless that fails. -/
theorem extract_texts_all (bytes : Bytes) : ∀ state : loraham_rx_state_t,
    (∀ state', (extract_texts state bytes).2 = some state' →
      extract_all state bytes = .ok (state', (extract_texts state bytes).1)) ∧
    ((extract_texts state bytes).2 = none → ∃ ret, extract_all state bytes = .error ret) := by
  induction bytes with
  | nil =>
      refine fun state => ⟨fun state' h => ?_, fun h => absurd h (Option.some_ne_none _)⟩
      rw [← Option.some.inj h]
      rfl
  | cons b bytes ih =>
      intro state
      unfold extract_texts extract_all
      generalize settled (loraham_extract_byte LHKT_TNC2_MAX_LINE state b) = r
      cases r with
      | error ret => exact ⟨fun _ h => absurd h.symm (Option.some_ne_none _), fun _ => ⟨ret, rfl⟩⟩
      | ok r =>
          obtain ⟨st, text⟩ := r
          obtain ⟨hok, herror⟩ := ih st
          constructor
          · intro state' h
            dsimp only [bind, Except.bind]
            rw [hok state' h]
          · intro h
            obtain ⟨ret, hret⟩ := herror h
            refine ⟨ret, ?_⟩
            dsimp only [bind, Except.bind]
            rw [hret]

/-- The call that flushes the text in progress. -/
theorem handle_loraham_chunk_flushed (w : Nat → List write_ret) (state : loraham_rx_state_t)
    (c : bridge_rx_t) (hp : state.pending = []) :
    Extracted w c (flush_texts state) (bridge_rx_handle_loraham_chunk w true state [] c) := by
  -- with nothing pending and nothing read, the extractor only flushes
  have hextract : loraham_extract_tnc2 state [] LHKT_TNC2_MAX_LINE
      = loraham_emit_tnc2 state LHKT_TNC2_MAX_LINE true false := by
    have hst : { state with pending := [] } = state := by rw [← hp]
    unfold loraham_extract_tnc2
    rw [hp]
    simp [loraham_extract_pending, hst]
  unfold bridge_rx_handle_loraham_chunk flush_texts
  rw [hp]
  show Extracted w c _ (handle_loraham_chunk_loop w true 1 state [] c)
  rw [handle_loraham_chunk_loop, hextract]
  generalize hemit : loraham_emit_tnc2 state LHKT_TNC2_MAX_LINE true false = r
  obtain ⟨st, ret | _ | text⟩ := r
  · exact extracted_drop w c st (emit_error hemit)
  · show Extracted w c ([], some st) (if st.pending = [] then (c, st, .OK) else (c, st, .OK))
    rw [ite_self]
    exact extracted_nil w c st
  · show Extracted w c ([text], some st) _
    dsimp only
    by_cases hret : (bridge_rx_send_tnc2_to_kiss_client w true text (c.count .loraham_rx)).2 ≠ .OK
    · rw [if_pos hret]
      exact @Extracted.stop w c text ([], some st) st hret
    · have hdone := Extracted.cons (not_ne_iff.mp hret) (extracted_nil w _ st)
      rw [if_neg hret, handle_loraham_chunk_loop, ite_self]
      exact hdone

/-- The first call handles the whole packet, also an empty one. -/
theorem handle_loraham_chunk_extracted (w : Nat → List write_ret) (packet : Bytes)
    (c : bridge_rx_t) (hlen : packet.length ≤ LHKT_LORAHAM_RX_PENDING) :
    Extracted w c (extract_texts loraham_rx_state_init packet)
      (bridge_rx_handle_loraham_chunk w true loraham_rx_state_init packet c) := by
  by_cases hne : packet = []
  · rw [hne]
    exact extracted_nil w c loraham_rx_state_init
  · exact handle_loraham_chunk_loop_extracted w _ loraham_rx_state_init packet c hne
      (fun _ => by show 0 + packet.length ≤ _; omega)
      (by show packet.length < 0 + packet.length + 1; omega)

/-- A packet is deliverable when the extractor goes through, finds a text, and every
text is a TNC2 line. -/
theorem deliverable_iff_found (packet : Bytes) :
    Deliverable packet ↔ ∃ state, (extract_texts loraham_rx_state_init packet).2 = some state ∧
      (flush_texts state).2.isSome = true ∧
      (extract_texts loraham_rx_state_init packet).1 ++ (flush_texts state).1 ≠ [] ∧
      ∀ text ∈ (extract_texts loraham_rx_state_init packet).1 ++ (flush_texts state).1,
        (tnc2_parse_line text).isOk = true := by
  obtain ⟨hok, herror⟩ := extract_texts_all packet loraham_rx_state_init
  cases hfound : (extract_texts loraham_rx_state_init packet).2 with
  | none =>
      obtain ⟨ret, hret⟩ := herror hfound
      have htexts : packet_texts packet = .error ret := by
        unfold packet_texts
        rw [hret]
        rfl
      refine iff_of_false (not_deliverable_of_error htexts) ?_
      rintro ⟨_, hbad, -⟩
      exact nomatch hbad
  | some state =>
      have htexts := packet_texts_eq (hok state hfound)
      have hstate : ∀ P : loraham_rx_state_t → Prop,
          (∃ state', some state = some state' ∧ P state') ↔ P state := by
        intro P
        simp
      rw [hstate]
      unfold flush_texts
      cases hemit : settled (loraham_emit_tnc2 state LHKT_TNC2_MAX_LINE true false) with
      | error ret =>
          rw [hemit] at htexts
          exact iff_of_false (not_deliverable_of_error htexts) fun h => Bool.false_ne_true h.1
      | ok r =>
          rw [hemit] at htexts
          rw [deliverable_iff htexts]
          exact (and_iff_right rfl).symm

/-- **A packet** for a client that may not take all of it. -/
theorem send_loraham_packet_offers (w : Nat → List write_ret) (packet : Bytes) (c : bridge_rx_t)
    (hlen : packet.length ≤ LHKT_LORAHAM_RX_PENDING) :
    Offers w (packet_writes packet) (Deliverable packet) c
      (bridge_rx_send_loraham_packet_to_kiss_client w true packet c).1
      (bridge_rx_send_loraham_packet_to_kiss_client w true packet c).2 := by
  have hfirst := handle_loraham_chunk_extracted w packet c hlen
  have hall := (extract_texts_all packet loraham_rx_state_init).1
  rw [deliverable_iff_found]
  unfold bridge_rx_send_loraham_packet_to_kiss_client packet_writes found_texts
  rw [if_neg (Nat.not_lt.mpr hlen), if_neg (show ¬ (!true) = true by decide)]
  dsimp only
  generalize extract_texts loraham_rx_state_init packet = found at hfirst hall ⊢
  generalize bridge_rx_handle_loraham_chunk w true loraham_rx_state_init packet c = r at hfirst ⊢
  by_cases hret : r.2.2 ≠ .OK
  · -- the first call ends it
    rw [if_pos hret, text_writes_append]
    refine hfirst.offers.stop hret ?_ ?_
    · intro hbad
      by_cases hlines : ∀ text ∈ found.1, (tnc2_parse_line text).isOk = true
      · have hnone : found.2 = none := by
          rw [← Option.not_isSome_iff_eq_none]
          exact fun hsome => hbad ⟨hsome, hlines⟩
        rw [if_pos hlines, hnone]
        rfl
      · exact if_neg hlines
    · rintro ⟨state, hstate, -, -, hlines⟩
      exact ⟨by rw [hstate]; rfl, fun text ht => hlines text (List.mem_append_left _ ht)⟩
  · have hret := not_ne_iff.mp hret
    obtain ⟨hstate, hcount⟩ := hfirst.ok hret
    have hoffers := hfirst.offers
    rw [hret] at hoffers
    have hlines := (hoffers.ok_iff.mp rfl).2.2
    have hflush := handle_loraham_chunk_flushed w r.2.1 r.1
      (extract_all_pending packet (hall _ hstate) rfl)
    rw [if_neg (not_ne_iff.mpr hret), hstate, text_writes_append, if_pos hlines]
    generalize bridge_rx_handle_loraham_chunk w true r.2.1 [] r.1 = r' at hflush ⊢
    have hboth := hoffers.trans hflush.offers
    by_cases hret' : r'.2.2 ≠ .OK
    · rw [if_pos hret']
      refine hboth.strict hret' ?_
      rintro ⟨state, hsame, hsome, -, hboth⟩
      obtain rfl := Option.some.inj hsame
      refine ⟨⟨by rw [hstate]; rfl, hlines⟩, hsome, ?_⟩
      exact fun text ht => hboth text (List.mem_append_right _ ht)
    · have hret' := not_ne_iff.mp hret'
      obtain ⟨hstate', hcount'⟩ := hflush.ok hret'
      rw [hret'] at hboth
      obtain ⟨-, -, hsome, hlines'⟩ := hboth.ok_iff.mp rfl
      rw [if_neg (not_ne_iff.mpr hret')]
      by_cases hnil : found.1 ++ (flush_texts r.2.1).1 = []
      · -- no text at all: the count is what it was
        obtain ⟨h1, h2⟩ := List.append_eq_nil_iff.mp hnil
        rw [if_pos (by rw [hcount', hcount, h1, h2]; rfl)]
        refine hboth.fail (.inr (.inl rfl)) ?_ rfl
        rintro ⟨state, hsame, -, hne, -⟩
        obtain rfl := Option.some.inj hsame
        exact hne hnil
      · have hpos : 0 < found.1.length + (flush_texts r.2.1).1.length := by
          rw [← List.length_append]
          exact List.length_pos_iff.mpr hnil
        rw [if_neg (by omega)]
        refine hboth.of_iff (iff_of_true (hboth.ok_iff.mp rfl).2 ?_)
        refine ⟨r.2.1, rfl, hsome, hnil, ?_⟩
        intro text ht
        exact (List.mem_append.mp ht).elim (hlines text) (hlines' text)

/-! ## The daemon's stream -/

/-- A frame without anything for a client. -/
theorem handle_framed_frame_quiet (w : Nat → List write_ret) (frame : loraham_frame_t)
    (c : bridge_rx_t) (h : ¬ (frame.type = LORAHAM_FRAME_RX_PACKET ∧
      BRIDGE_RX_LORAHAM_META_LEN ≤ frame.payload.length)) :
    (bridge_rx_handle_framed_frame w true frame c).1.client_tx = c.client_tx ∧
      (bridge_rx_handle_framed_frame w true frame c).2 = .OK := by
  unfold bridge_rx_handle_framed_frame
  by_cases htype : frame.type = LORAHAM_FRAME_RX_PACKET
  · rw [if_pos htype]
    dsimp only
    rw [if_neg (show ¬ (!true) = true by decide),
      if_pos (Nat.lt_of_not_le fun hmeta => h ⟨htype, hmeta⟩)]
    exact ⟨log_rx_packet_client_tx _ _, rfl⟩
  · rw [if_neg htype]
    split
    · exact ⟨rfl, rfl⟩
    · exact ⟨rfl, rfl⟩

/-- A packet that is too long for the extractor is dropped with nothing written. -/
theorem send_loraham_packet_long (w : Nat → List write_ret) (packet : Bytes) (c : bridge_rx_t)
    {good : Prop} (hlen : LHKT_LORAHAM_RX_PENDING < packet.length) (hgood : ¬ good) :
    Offers w (packet_writes packet) good c
      (bridge_rx_send_loraham_packet_to_kiss_client w true packet c).1
      (bridge_rx_send_loraham_packet_to_kiss_client w true packet c).2 := by
  have hlong : loraham_extract_tnc2 loraham_rx_state_init packet LHKT_TNC2_MAX_LINE
      = (loraham_rx_state_init, .error .ERR_LONG) := by
    have hne : packet ≠ [] := by
      rintro rfl
      exact absurd hlen (Nat.not_lt_zero _)
    exact if_pos ⟨hne, hlen⟩
  have hchunk : bridge_rx_handle_loraham_chunk w true loraham_rx_state_init packet c
      = (c.count .loraham_drop, loraham_rx_state_init, .ERR_LONG) := by
    unfold bridge_rx_handle_loraham_chunk
    rw [handle_loraham_chunk_loop, hlong]
  unfold bridge_rx_send_loraham_packet_to_kiss_client packet_writes found_texts
  rw [if_pos hlen, if_neg (show ¬ (!true) = true by decide), hchunk]
  exact offers_drop rfl (.inl rfl) hgood

/-- The texts of the frame, if it has any, go through: `FrameDeliverable` for a frame
of any length. -/
def FrameTaken (frame : loraham_frame_t) : Prop :=
  frame.type = LORAHAM_FRAME_RX_PACKET → BRIDGE_RX_LORAHAM_META_LEN ≤ frame.payload.length →
    (rf_bytes frame.payload).length ≤ LHKT_LORAHAM_RX_PENDING ∧ Deliverable (rf_bytes frame.payload)

theorem frameTaken_iff {frame : loraham_frame_t}
    (hlen : frame.payload.length ≤ LHKT_FRAMED_MAX_PAYLOAD) :
    FrameTaken frame ↔ FrameDeliverable frame := by
  have hrf : (rf_bytes frame.payload).length ≤ LHKT_LORAHAM_RX_PENDING := by
    unfold rf_bytes
    rw [List.length_drop]
    simp only [LHKT_FRAMED_MAX_PAYLOAD] at hlen
    simp only [LHKT_LORAHAM_RX_PENDING]
    omega
  unfold FrameTaken FrameDeliverable
  rw [and_iff_right hrf]

/-- **A frame** for a client that may not take all of it. -/
theorem handle_framed_frame_offers (w : Nat → List write_ret) (frame : loraham_frame_t)
    (c : bridge_rx_t) :
    Offers w (frame_writes frame) (FrameTaken frame) c
      (bridge_rx_handle_framed_frame w true frame c).1
      (bridge_rx_handle_framed_frame w true frame c).2 := by
  unfold frame_writes FrameTaken
  by_cases h : frame.type = LORAHAM_FRAME_RX_PACKET ∧
      BRIDGE_RX_LORAHAM_META_LEN ≤ frame.payload.length
  · have hpacket : Offers w (packet_writes (rf_bytes frame.payload))
        ((rf_bytes frame.payload).length ≤ LHKT_LORAHAM_RX_PENDING ∧
          Deliverable (rf_bytes frame.payload)) (log_rx_packet frame.payload c)
        (bridge_rx_send_loraham_packet_to_kiss_client w true (rf_bytes frame.payload)
          (log_rx_packet frame.payload c)).1
        (bridge_rx_send_loraham_packet_to_kiss_client w true (rf_bytes frame.payload)
          (log_rx_packet frame.payload c)).2 := by
      by_cases hrf : (rf_bytes frame.payload).length ≤ LHKT_LORAHAM_RX_PENDING
      · rw [and_iff_right hrf]
        exact send_loraham_packet_offers w _ _ hrf
      · exact send_loraham_packet_long w _ _ (Nat.lt_of_not_le hrf) fun h => hrf h.1
    unfold bridge_rx_handle_framed_frame
    rw [if_pos h, if_pos h.1]
    dsimp only
    rw [if_neg (show ¬ (!true) = true by decide), if_neg (Nat.not_lt.mpr h.2)]
    refine (hpacket.congr (log_rx_packet_client_tx _ _).symm rfl).of_iff ?_
    exact ⟨fun hdel _ _ => hdel, fun hdel => hdel h.1 h.2⟩
  · obtain ⟨htx, hret⟩ := handle_framed_frame_quiet w frame c h
    rw [if_neg h, hret]
    exact offers_nil htx fun htype hmeta => absurd ⟨htype, hmeta⟩ h

/-- The decoder of the stream never announces more than the largest payload. -/
theorem loraham_framed_decode_len (bytes : Bytes) : ∀ {state : loraham_framed_rx_state_t},
    state.payload_len ≤ LHKT_FRAMED_MAX_PAYLOAD →
      (loraham_framed_decode state bytes).1.payload_len ≤ LHKT_FRAMED_MAX_PAYLOAD := by
  induction bytes with
  | nil => exact fun h => h
  | cons b bytes ih =>
      intro state h
      rw [loraham_framed_decode_cons]
      exact ih (loraham_framed_decode_byte_len h b).1

/-- Without a client no client fails. -/
theorem handle_framed_chunk_no_client (w : Nat → List write_ret) (buf : Bytes) :
    ∀ (state : loraham_framed_rx_state_t) (c : bridge_rx_t),
      (bridge_rx_handle_framed_chunk w false state buf c).2.2 ≠ .ERR_CLIENT_SOCKET := by
  induction buf with
  | nil => exact fun _ _ h => nomatch h
  | cons b buf ih =>
      intro state c
      rw [bridge_rx_handle_framed_chunk.eq_2]
      generalize hbyte : loraham_framed_decode_byte state b = r
      obtain ⟨state', ret | _ | frame⟩ := r
      · show ret ≠ .ERR_CLIENT_SOCKET
        rw [(loraham_framed_decode_byte_error hbyte).1]
        decide
      · exact ih state' c
      · dsimp only
        rw [if_neg (not_ne_iff.mpr (bridge_rx_handle_framed_frame_no_client w frame c).2)]
        exact ih state' _

/-- **A read of the idle path** for a client that may not take all of it. -/
theorem handle_framed_chunk_offers (w : Nat → List write_ret) (buf : Bytes) :
    ∀ (state : loraham_framed_rx_state_t) (c : bridge_rx_t),
      state.payload_len ≤ LHKT_FRAMED_MAX_PAYLOAD →
      ((bridge_rx_handle_framed_chunk w true state buf c).2.2 = .ERR_CLIENT_SOCKET ↔
        ¬ AllTaken w c.client_tx.length (stream_writes (loraham_framed_decode state buf).2)) := by
  induction buf with
  | nil => exact fun _ _ _ => iff_of_false (fun h => nomatch h) fun h => h trivial
  | cons b buf ih =>
      intro state c hlen
      obtain ⟨hlen', hframe_len⟩ := loraham_framed_decode_byte_len hlen b
      rw [bridge_rx_handle_framed_chunk.eq_2, loraham_framed_decode_cons]
      generalize hbyte : loraham_framed_decode_byte state b = r at hlen' hframe_len ⊢
      obtain ⟨state', ret | _ | frame⟩ := r
      · -- a framing error is no failure of the client
        have hret := (loraham_framed_decode_byte_error hbyte).1
        refine iff_of_false ?_ fun h => h trivial
        show ret ≠ .ERR_CLIENT_SOCKET
        rw [hret]
        decide
      · exact ih state' c hlen'
      · dsimp only
        have hoffers := (handle_framed_frame_offers w frame c).of_iff
          (frameTaken_iff (hframe_len frame rfl))
        rw [stream_writes, allTaken_append]
        by_cases hret : (bridge_rx_handle_framed_frame w true frame c).2 ≠ .OK
        · -- the loop ends here: behind a bad packet nothing is written
          rw [if_pos hret]
          rw [← allTaken_append]
          exact (hoffers.stop hret (fun hbad => if_neg hbad) id).failed_iff
        · have hok := not_ne_iff.mp hret
          rw [hok] at hoffers
          obtain ⟨htaken, hdel⟩ := hoffers.ok_iff.mp rfl
          rw [if_neg hret, if_pos hdel, and_iff_right htaken, ← hoffers.sent (by decide)]
          exact ih state' _ hlen'

end LorahamKissTnc.ClientWrites
