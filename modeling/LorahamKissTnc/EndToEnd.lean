/-
From one bridge to the other: a packet as the TX path builds it, received and
handed to the client of a second bridge.

The extractor looks for headers and line ends also inside a packet, although the
frame around it gives the length. Over a text without either it is a copy
(`extract_all_text`): what it has stored, together with the part of a header it
has matched, is the text so far. A header inside the text ends the text there
(`extract_pending_header`), so the receiving client gets a shorter payload.
-/
import LorahamKissTnc.BridgeKiss
import LorahamKissTnc.RxPacket

set_option autoImplicit false

open LorahamKissTnc.Lib.CString LorahamKissTnc.Lib.Channel LorahamKissTnc.Lib.Machine
open LorahamKissTnc.Config LorahamKissTnc.Kiss LorahamKissTnc.Ax25 LorahamKissTnc.Tnc2
open LorahamKissTnc.LorahamSock LorahamKissTnc.BridgeRx LorahamKissTnc.BridgeKiss
open LorahamKissTnc.RxPacket

namespace LorahamKissTnc.EndToEnd

/-! ## The extractor inside a text -/

/-- The text so far: what is stored, and the part of a header that may still
turn out to be text. -/
def text_so_far (state : loraham_rx_state_t) : Bytes :=
  state.buf ++ loraham_hdr.take state.hdr_len

/-- Behind a header, with at most a part of the next one. -/
structure InText (state : loraham_rx_state_t) : Prop where
  seen : state.seen_header = true
  hdr_lt : state.hdr_len < LHKT_LORAHAM_HDR_LEN
  fits : (text_so_far state).length < LHKT_TNC2_MAX_LINE

/-- What was matched of a header goes into the text. -/
theorem flush_hdr {state : loraham_rx_state_t} (h : InText state) :
    (if 0 < state.hdr_len then loraham_append_hdr_prefix state else .ok state)
      = .ok { state with buf := text_so_far state, hdr_len := 0 } := by
  have hfits := h.fits
  unfold text_so_far at hfits ⊢
  rw [List.length_append] at hfits
  split
  · rw [loraham_append_hdr_prefix_eq, if_pos (.inr hfits)]
  · rename_i hlen
    have hzero : state.hdr_len = 0 := by omega
    rw [hzero, List.take_zero, List.append_nil, ← hzero]

/-- A byte that does not continue a header, behind the flush. -/
theorem extract_byte_flushed {state : loraham_rx_state_t} (h : InText state) {b : UInt8}
    (hr : b ≠ ch '\r') (hn : b ≠ ch '\n')
    (hno : ¬(0 < state.hdr_len ∧ b = loraham_hdr.getD state.hdr_len 0))
    (hfit : (text_so_far state ++ [b]).length < LHKT_TNC2_MAX_LINE) :
    loraham_extract_byte LHKT_TNC2_MAX_LINE state b
      = (if b = LORAHAM_APRS_HDR0 then { state with buf := text_so_far state, hdr_len := 1 }
          else { state with buf := text_so_far state ++ [b], hdr_len := 0 }, .ok none) := by
  unfold loraham_extract_byte
  rw [if_neg (by simp [h.seen]), if_neg hno]
  dsimp only
  rw [flush_hdr h]
  dsimp only
  rw [if_neg (by simp [hr, hn])]
  split
  · rfl
  · rw [List.length_append, List.length_singleton] at hfit
    rw [loraham_append_payload, if_neg]
    dsimp only
    simp only [LHKT_TNC2_MAX_LINE] at hfit ⊢
    omega

/-- **One byte of text.** Unless it completes a header, a byte is added to the
text, and the part of a header matched afterwards is at its end. -/
theorem extract_byte_text {state : loraham_rx_state_t} (h : InText state) {b : UInt8}
    (hr : b ≠ ch '\r') (hn : b ≠ ch '\n')
    (hhdr : ¬ loraham_hdr <:+: loraham_hdr.take state.hdr_len ++ [b])
    (hfit : (text_so_far state ++ [b]).length < LHKT_TNC2_MAX_LINE) :
    ∃ state', loraham_extract_byte LHKT_TNC2_MAX_LINE state b = (state', .ok none) ∧
      InText state' ∧ state'.pending = state.pending ∧
      text_so_far state' = text_so_far state ++ [b] ∧
      loraham_hdr.take state'.hdr_len <:+ loraham_hdr.take state.hdr_len ++ [b] := by
  by_cases hnext : 0 < state.hdr_len ∧ b = loraham_hdr.getD state.hdr_len 0
  · -- the header goes on, but is not complete
    obtain ⟨hpos, hb⟩ := hnext
    have hlt := h.hdr_lt
    -- two matched bytes and this one would be a header
    have hone : state.hdr_len = 1 := by
      by_contra hne
      have htwo : state.hdr_len = 2 := by
        simp only [LHKT_LORAHAM_HDR_LEN] at hlt
        omega
      refine hhdr ?_
      rw [hb, htwo]
      exact List.infix_refl _
    have htake : loraham_hdr.take (state.hdr_len + 1) = loraham_hdr.take state.hdr_len ++ [b] := by
      rw [hb, hone]
      rfl
    have htext : text_so_far { state with hdr_len := state.hdr_len + 1 }
        = text_so_far state ++ [b] := by
      unfold text_so_far
      dsimp only
      rw [htake, List.append_assoc]
    refine ⟨{ state with hdr_len := state.hdr_len + 1 }, ?_, ⟨h.seen, ?_, ?_⟩, rfl, htext, ?_⟩
    · unfold loraham_extract_byte
      rw [if_neg (by simp [h.seen]), if_pos ⟨hpos, hb⟩]
      dsimp only
      rw [if_neg (by rw [hone]; decide)]
    · show state.hdr_len + 1 < LHKT_LORAHAM_HDR_LEN
      rw [hone]
      decide
    · rw [htext]
      exact hfit
    · show loraham_hdr.take (state.hdr_len + 1) <:+ _
      rw [htake]
  · -- what was matched is text after all, and the byte may start a new header
    have hstep := extract_byte_flushed h hr hn hnext hfit
    by_cases hstart : b = LORAHAM_APRS_HDR0
    · rw [if_pos hstart] at hstep
      have htext : text_so_far { state with buf := text_so_far state, hdr_len := 1 }
          = text_so_far state ++ [b] := by
        rw [hstart]
        rfl
      refine ⟨_, hstep, ⟨h.seen, by show 1 < 3; decide, ?_⟩, rfl, htext, ?_⟩
      · rw [htext]
        exact hfit
      · show [LORAHAM_APRS_HDR0] <:+ _
        rw [← hstart]
        exact List.suffix_append _ _
    · rw [if_neg hstart] at hstep
      have htext : text_so_far { state with buf := text_so_far state ++ [b], hdr_len := 0 }
          = text_so_far state ++ [b] := List.append_nil _
      refine ⟨_, hstep, ⟨h.seen, by show 0 < 3; decide, ?_⟩, rfl, htext, List.nil_suffix⟩
      rw [htext]
      exact hfit

/-- **A text without line ends and headers** is stored as it is. -/
theorem extract_all_text (text : Bytes) : ∀ {state : loraham_rx_state_t}, InText state →
    ch '\r' ∉ text → ch '\n' ∉ text → ¬ loraham_hdr <:+: loraham_hdr.take state.hdr_len ++ text →
    (text_so_far state ++ text).length < LHKT_TNC2_MAX_LINE →
    ∃ state', extract_all state text = .ok (state', []) ∧ InText state' ∧
      state'.pending = state.pending ∧ text_so_far state' = text_so_far state ++ text := by
  induction text with
  | nil => exact fun {state} h _ _ _ _ => ⟨state, rfl, h, rfl, (List.append_nil _).symm⟩
  | cons b text ih =>
      intro state h hr hn hhdr hfit
      rw [List.mem_cons, not_or] at hr hn
      rw [← List.singleton_append, ← List.append_assoc] at hhdr hfit
      obtain ⟨st, hbyte, hst, hp, htext, hsuffix⟩ := extract_byte_text h (Ne.symm hr.1)
        (Ne.symm hn.1) (fun hin => hhdr (hin.trans (List.prefix_append _ _).isInfix))
        (by rw [List.length_append] at hfit; omega)
      have hclean : ¬ loraham_hdr <:+: loraham_hdr.take st.hdr_len ++ text := by
        obtain ⟨pre, hpre⟩ := hsuffix
        intro hin
        refine hhdr (hin.trans ⟨pre, [], ?_⟩)
        rw [List.append_nil, ← hpre, List.append_assoc]
      obtain ⟨st', hall, hst', hp', htext'⟩ := ih hst hr.2 hn.2 hclean (by rw [htext]; exact hfit)
      refine ⟨st', ?_, hst', hp'.trans hp, ?_⟩
      · rw [extract_all, hbyte]
        show (extract_all st text >>= fun r => Except.ok (r.1, [] ++ r.2)) = _
        rw [hall]
        rfl
      · rw [htext', htext, List.append_assoc, List.singleton_append]

theorem extract_all_append {a b : Bytes} : ∀ {state state' : loraham_rx_state_t},
    extract_all state a = .ok (state', []) → extract_all state (a ++ b) = extract_all state' b := by
  induction a with
  | nil =>
      intro state state' h
      rw [List.nil_append, (Prod.mk.inj (Except.ok.inj h)).1]
  | cons x a ih =>
      intro state state' h
      rw [extract_all] at h
      obtain ⟨⟨st, text⟩, hst, h⟩ := bind_eq_ok h
      obtain ⟨⟨st', texts⟩, hst', h⟩ := bind_eq_ok h
      obtain ⟨rfl, htexts⟩ := Prod.mk.inj (Except.ok.inj h)
      obtain ⟨htext, rfl⟩ := List.append_eq_nil_iff.mp htexts
      rw [List.cons_append, extract_all, hst]
      show (extract_all st (a ++ b) >>= fun r => Except.ok (r.1, text.toList ++ r.2)) = _
      rw [ih hst', htext]
      match extract_all st' b with
      | .error _ => rfl
      | .ok _ => rfl

/-- The state behind the header at the start of a packet. -/
def behind_header : loraham_rx_state_t := { seen_header := true }

theorem inText_behind_header : InText behind_header := ⟨rfl, by decide, by decide⟩

/-- The header at the start of a packet opens the text. -/
theorem extract_all_start (text : Bytes) :
    extract_all loraham_rx_state_init (loraham_hdr ++ text) = extract_all behind_header text := by
  show (extract_all behind_header text >>= fun r => Except.ok (r.1, [] ++ r.2)) >>= _ >>= _ = _
  match extract_all behind_header text with
  | .error _ => rfl
  | .ok _ => rfl

/-- The flush at the end of a packet hands out the text. -/
theorem emit_text {state : loraham_rx_state_t} (h : InText state) (hne : text_so_far state ≠ []) :
    loraham_emit_tnc2 state LHKT_TNC2_MAX_LINE true false
      = ({ state with buf := [], hdr_len := 0, seen_header := false },
        .ok (some (text_so_far state))) := by
  have hflush := flush_hdr h
  unfold loraham_emit_tnc2
  simp only [h.seen, true_and, hflush]
  rw [if_neg (by simp [hne]), if_neg (Nat.not_le.mpr h.fits)]

/-! ## A packet with one text -/

/-- A text that crosses the extractor unchanged. -/
structure Plain (text : Bytes) : Prop where
  ne_nil : text ≠ []
  lt : text.length < LHKT_TNC2_MAX_LINE
  no_cr : ch '\r' ∉ text
  no_lf : ch '\n' ∉ text
  no_hdr : ¬ loraham_hdr <:+: text

/-- **One text.** A packet with a plain text behind its header is that text. -/
theorem send_loraham_packet_plain {w : Nat → List write_ret} (hw : WritesSucceed w) {text : Bytes}
    (h : Plain text) (c : bridge_rx_t) :
    bridge_rx_send_loraham_packet_to_kiss_client w true (loraham_hdr ++ text) c
      = bridge_rx_send_tnc2_to_kiss_client w true text (c.count .loraham_rx) := by
  obtain ⟨state, hall, hst, hp, htext⟩ := extract_all_text text inText_behind_header h.no_cr h.no_lf
    h.no_hdr h.lt
  have htext : text_so_far state = text := htext
  have hemit := emit_text hst (htext.symm ▸ h.ne_nil)
  rw [← extract_all_start] at hall
  have hlen : (loraham_hdr ++ text).length ≤ LHKT_LORAHAM_RX_PENDING := by
    have := h.lt
    simp only [LHKT_TNC2_MAX_LINE] at this
    rw [List.length_append]
    show 3 + text.length ≤ 1024
    omega
  have hfirst := handle_loraham_chunk_packet hw (loraham_hdr ++ text) c hlen
  rw [hall] at hfirst
  obtain ⟨hret, hok⟩ := hfirst
  have hret : _ = Lhkt.OK := hret
  obtain ⟨hc, hst'⟩ := hok hret
  have hc : _ = c := hc
  have hflush := handle_loraham_chunk_flush (w := w) state c hp
  rw [hemit, htext] at hflush
  obtain ⟨hret', hc'⟩ := hflush
  have hone : deliver_texts w [text] c
      = bridge_rx_send_tnc2_to_kiss_client w true text (c.count .loraham_rx) := by
    rw [deliver_texts_cons]
    split
    · rfl
    · rename_i hsend
      exact Prod.ext rfl (not_ne_iff.mp hsend).symm
  rw [show (some text).toList = [text] from rfl, hone] at hret' hc'
  unfold bridge_rx_send_loraham_packet_to_kiss_client
  rw [if_neg (by decide)]
  dsimp only
  rw [if_neg (not_ne_iff.mpr hret), hc, hst', hret', hc']
  rcases send_tnc2_cases hw text (c.count .loraham_rx) with ⟨_, hsent, _, hcount⟩ | ⟨_, hdrop⟩
  · -- the one text was counted, so this is no packet without a text
    have hmore : ¬(bridge_rx_send_tnc2_to_kiss_client w true text (c.count .loraham_rx)).1.stats.loraham_rx
        = c.stats.loraham_rx := by
      rw [hcount]
      exact Nat.succ_ne_self _
    rw [if_neg (not_ne_iff.mpr hsent), if_neg hmore, ← hsent]
  · rw [if_pos hdrop.ne_ok]

/-- The frame around such a packet, with any metadata. -/
theorem handle_framed_frame_plain {w : Nat → List write_ret} (hw : WritesSucceed w) {m text : Bytes}
    (hm : m.length = BRIDGE_RX_LORAHAM_META_LEN) (h : Plain text) (c : bridge_rx_t) :
    bridge_rx_handle_framed_frame w true
        ⟨LORAHAM_FRAME_RX_PACKET, m ++ (loraham_hdr ++ text)⟩ c
      = bridge_rx_send_tnc2_to_kiss_client w true text
          ((log_rx_packet (m ++ (loraham_hdr ++ text)) c).count .loraham_rx) := by
  unfold bridge_rx_handle_framed_frame
  rw [if_pos rfl]
  dsimp only
  rw [if_neg (by decide), if_neg (by rw [List.length_append]; omega), rf_bytes, ← hm,
    List.drop_left, send_loraham_packet_plain hw h]

/-! ## A header inside the text -/

/-- The extractor stops at the byte that ends the first text. -/
theorem extract_pending_first (pre : Bytes) : ∀ {state st st' : loraham_rx_state_t} {b : UInt8}
    (post : Bytes) {text : Bytes}, extract_all { state with pending := [] } pre = .ok (st, []) →
      loraham_extract_byte LHKT_TNC2_MAX_LINE st b = (st', .ok (some text)) →
      loraham_extract_pending LHKT_TNC2_MAX_LINE state (pre ++ b :: post)
        = ({ st' with pending := post }, .ok (some text)) := by
  induction pre with
  -- the byte that completes the text; the rest of the buffer only changes what is pending
  | nil =>
      intro state st st' b post text hall hbyte
      obtain rfl : { state with pending := [] } = st := (Prod.mk.inj (Except.ok.inj hall)).1
      have hrepend := extract_byte_repend LHKT_TNC2_MAX_LINE { state with pending := [] } post b
      rw [hbyte] at hrepend
      rw [List.nil_append, loraham_extract_pending]
      generalize loraham_extract_byte LHKT_TNC2_MAX_LINE { state with pending := post } b = r
        at hrepend ⊢
      obtain ⟨st₁, ret | text₁⟩ := r
      · cases hrepend
      · obtain ⟨rfl, rfl⟩ := Prod.mk.inj (Except.ok.inj hrepend)
        rfl
  | cons x pre ih =>
      intro state st st' b post text hall hbyte
      have hrepend := extract_byte_repend LHKT_TNC2_MAX_LINE { state with pending := [] }
        (pre ++ b :: post) x
      have hnone := extract_byte_repend LHKT_TNC2_MAX_LINE { state with pending := [] } [] x
      -- no text up to here, so none at the first byte and the state goes on
      rw [extract_all] at hall
      obtain ⟨⟨st₁, text₁⟩, hst₁, hall⟩ := bind_eq_ok hall
      obtain ⟨⟨st₂, texts⟩, hst₂, hall⟩ := bind_eq_ok hall
      obtain ⟨rfl, htexts⟩ := Prod.mk.inj (Except.ok.inj hall)
      obtain ⟨htext₁, rfl⟩ := List.append_eq_nil_iff.mp htexts
      obtain rfl : text₁ = none := Option.toList_eq_nil_iff.mp htext₁
      rw [hst₁] at hrepend
      have hnone := hst₁.symm.trans (hnone.trans (congrArg _ hst₁))
      have hst₁' : { st₁ with pending := [] } = st₁ := (Prod.mk.inj (Except.ok.inj hnone)).1.symm
      rw [List.cons_append, loraham_extract_pending]
      generalize loraham_extract_byte LHKT_TNC2_MAX_LINE
        { state with pending := pre ++ b :: post } x = r at hrepend ⊢
      obtain ⟨st₂, ret | text₂⟩ := r
      · cases hrepend
      · obtain ⟨rfl, rfl⟩ := Prod.mk.inj (Except.ok.inj hrepend)
        exact ih post (hst₁'.symm ▸ hst₂) hbyte

/-- The first two bytes of a header inside a text are held back. -/
theorem extract_all_hdr_start {state : loraham_rx_state_t} (h : InText state)
    (hfit : (text_so_far state ++ [LORAHAM_APRS_HDR0]).length < LHKT_TNC2_MAX_LINE) :
    extract_all state [LORAHAM_APRS_HDR0, LORAHAM_APRS_HDR1]
      = .ok ({ state with buf := text_so_far state, hdr_len := 2 }, []) := by
  have hno : ¬(0 < state.hdr_len ∧ LORAHAM_APRS_HDR0 = loraham_hdr.getD state.hdr_len 0) := by
    rintro ⟨hpos, heq⟩
    have hlt := h.hdr_lt
    simp only [LHKT_LORAHAM_HDR_LEN] at hlt
    have hcases : state.hdr_len = 1 ∨ state.hdr_len = 2 := by omega
    rcases hcases with h1 | h2
    · rw [h1] at heq
      exact absurd heq (by decide)
    · rw [h2] at heq
      exact absurd heq (by decide)
  have hfirst := extract_byte_flushed h (by decide) (by decide) hno hfit
  rw [if_pos rfl] at hfirst
  have hsecond : loraham_extract_byte LHKT_TNC2_MAX_LINE
      { state with buf := text_so_far state, hdr_len := 1 } LORAHAM_APRS_HDR1
      = ({ state with buf := text_so_far state, hdr_len := 2 }, .ok none) := by
    unfold loraham_extract_byte
    rw [if_neg (by simp [h.seen]), if_pos ⟨Nat.one_pos, rfl⟩]
    rfl
  rw [extract_all, hfirst]
  show (extract_all { state with buf := text_so_far state, hdr_len := 1 } [LORAHAM_APRS_HDR1]
    >>= fun r => Except.ok (r.1, [] ++ r.2)) = _
  rw [extract_all, hsecond]
  rfl

/-- The third byte ends the text. -/
theorem extract_byte_hdr_end {state : loraham_rx_state_t} (h : InText state)
    (hne : text_so_far state ≠ []) :
    loraham_extract_byte LHKT_TNC2_MAX_LINE
        { state with buf := text_so_far state, hdr_len := 2 } LORAHAM_APRS_HDR2
      = ({ state with buf := [], hdr_len := 0, seen_header := true },
        .ok (some (text_so_far state))) := by
  unfold loraham_extract_byte
  rw [if_neg (by simp [h.seen]), if_pos ⟨Nat.two_pos, rfl⟩]
  dsimp only
  rw [if_pos rfl]
  unfold loraham_emit_tnc2
  simp only [Bool.false_eq_true, false_and, if_false]
  rw [if_neg (by simp [h.seen, hne]), if_neg (Nat.not_le.mpr h.fits)]

/-- **A header inside a packet** ends the text before it. -/
theorem extract_pending_header {text : Bytes} (h : Plain text) (post : Bytes)
    (hfit : text.length + 1 < LHKT_TNC2_MAX_LINE) :
    ∃ state : loraham_rx_state_t, loraham_extract_pending LHKT_TNC2_MAX_LINE
        loraham_rx_state_init (loraham_hdr ++ (text ++ loraham_hdr ++ post))
      = ({ state with pending := post }, .ok (some text)) := by
  obtain ⟨state, hall, hst, hp, htext⟩ := extract_all_text text inText_behind_header h.no_cr h.no_lf
    h.no_hdr h.lt
  have htext : text_so_far state = text := htext
  have hstart := extract_all_hdr_start hst (by rw [htext, List.length_append]; exact hfit)
  have hend := extract_byte_hdr_end hst (htext.symm ▸ h.ne_nil)
  rw [htext] at hstart hend
  have hpre : extract_all loraham_rx_state_init
      (loraham_hdr ++ (text ++ [LORAHAM_APRS_HDR0, LORAHAM_APRS_HDR1]))
      = .ok ({ state with buf := text, hdr_len := 2 }, []) := by
    rw [extract_all_start, extract_all_append hall, hstart]
  have hfirst : loraham_extract_pending LHKT_TNC2_MAX_LINE loraham_rx_state_init _ = _ :=
    extract_pending_first _ post hpre hend
  refine ⟨{ state with buf := [], hdr_len := 0, seen_header := true }, ?_⟩
  rw [← hfirst]
  simp [loraham_hdr]

/-! ## What is written -/

theorem delivers_prefix {c c' : bridge_rx_t} {ret : Lhkt} (h : Delivers c c' ret) :
    c.client_tx <+: c'.client_tx := by
  obtain ⟨sent, hsent, -, -⟩ := h
  exact ⟨sent, hsent.symm⟩

/-- A text that parses is written as one complete KISS frame. -/
theorem send_tnc2_parsed {w : Nat → List write_ret} (hw : WritesSucceed w) {text : Bytes}
    {frame : ax25_frame_t} (h : tnc2_parse_line text = .ok frame) (c : bridge_rx_t) :
    ∃ sent, (bridge_rx_send_tnc2_to_kiss_client w true text c).1.client_tx = c.client_tx ++ [sent] ∧
      sent.buf = kiss_data_frame (ui_octets frame) ∧ sent.Complete ∧
      (bridge_rx_send_tnc2_to_kiss_client w true text c).2 = .OK := by
  have hdel := bridge_rx_send_tnc2_delivers w true text c
  rcases send_tnc2_cases hw text c with ⟨_, hret, hframes, _⟩ | ⟨hno, _⟩
  · obtain ⟨more, hmore, -, hclean⟩ := hdel
    have hclean : Clean Sent.Complete more := by
      rcases hclean with hclean | ⟨hcut, _⟩
      · exact hclean
      · rw [hret] at hcut
        exact Lhkt.noConfusion hcut
    unfold client_frames at hframes
    rw [hmore, List.map_append] at hframes
    have hone := List.append_cancel_left hframes
    obtain ⟨sent, rfl⟩ : ∃ sent, more = [sent] := by
      have hlen := congrArg List.length hone
      rw [List.length_map] at hlen
      exact List.length_eq_one_iff.mp hlen
    refine ⟨sent, hmore, ?_, hclean sent List.mem_cons_self, hret⟩
    have hbuf : sent.buf = text_frame text := (List.cons.inj hone).1
    rw [hbuf, text_frame, h]
  · rw [h] at hno
    exact absurd hno (by simp [Except.isOk, Except.toBool])

/-- The KISS frame of a valid AX.25 frame decodes to that frame. -/
theorem kiss_ax25_decode {frame : ax25_frame_t} (hv : frame.Valid) :
    events_of (kiss_decode kiss_decoder_init (kiss_data_frame (ui_octets frame))).2
        = [.ok ⟨0, KISS_CMD_DATA, ui_octets frame⟩] ∧
      ax25_decode_ui (ui_octets frame) = .ok frame.plain := by
  have hlen := length_ui_octets_le hv
  exact ⟨(kiss_decode_encode _ (by simp only [LHKT_KISS_MAX_FRAME]; omega)).2,
    ax25_decode_encode hv⟩

/-- What the first call writes stays written. -/
theorem send_loraham_packet_extends (w : Nat → List write_ret) (packet : Bytes) (c : bridge_rx_t) :
    (bridge_rx_handle_loraham_chunk w true loraham_rx_state_init packet c).1.client_tx
      <+: (bridge_rx_send_loraham_packet_to_kiss_client w true packet c).1.client_tx := by
  unfold bridge_rx_send_loraham_packet_to_kiss_client
  rw [if_neg (by decide)]
  dsimp only
  generalize bridge_rx_handle_loraham_chunk w true loraham_rx_state_init packet c = r
  have hflush := delivers_prefix (handle_loraham_chunk_loop_delivers w true
    (r.2.1.pending.length + ([] : Bytes).length + 1) r.2.1 [] r.1)
  split
  · exact List.prefix_refl _
  · split
    · exact hflush
    · split
      · exact hflush
      · exact hflush

/-- With a header inside, the client gets the text before it as its first frame. -/
theorem send_loraham_packet_header {w : Nat → List write_ret} (hw : WritesSucceed w) {text : Bytes}
    (h : Plain text) (post : Bytes) (hfit : text.length + 1 < LHKT_TNC2_MAX_LINE)
    (hlen : (loraham_hdr ++ (text ++ loraham_hdr ++ post)).length ≤ LHKT_LORAHAM_RX_PENDING)
    {frame : ax25_frame_t} (hparse : tnc2_parse_line text = .ok frame) (c : bridge_rx_t) :
    ∃ sent more, (bridge_rx_send_loraham_packet_to_kiss_client w true
        (loraham_hdr ++ (text ++ loraham_hdr ++ post)) c).1.client_tx
        = c.client_tx ++ sent :: more ∧
      sent.buf = kiss_data_frame (ui_octets frame) := by
  obtain ⟨sent, hsent, hbuf, -, hret⟩ := send_tnc2_parsed hw hparse (c.count .loraham_rx)
  obtain ⟨state, hext⟩ := extract_pending_header h post hfit
  have hext' : loraham_extract_tnc2 loraham_rx_state_init
      (loraham_hdr ++ (text ++ loraham_hdr ++ post)) LHKT_TNC2_MAX_LINE
      = ({ state with pending := post }, .ok (some text)) := by
    rw [extract_tnc2_pending _ _ _ (by simp [loraham_hdr, loraham_rx_state_init])
      (fun _ => by show 0 + _ ≤ _; omega)]
    exact hext
  have hloop : c.client_tx ++ [sent] <+: (bridge_rx_handle_loraham_chunk w true
      loraham_rx_state_init (loraham_hdr ++ (text ++ loraham_hdr ++ post)) c).1.client_tx := by
    unfold bridge_rx_handle_loraham_chunk
    rw [handle_loraham_chunk_loop, hext']
    dsimp only
    rw [if_neg (not_ne_iff.mpr hret)]
    have hsent : (bridge_rx_send_tnc2_to_kiss_client w true text (c.count .loraham_rx)).1.client_tx
        = c.client_tx ++ [sent] := hsent
    rw [← hsent]
    split
    · exact List.prefix_refl _
    · exact delivers_prefix (handle_loraham_chunk_loop_delivers w true _ _ _ _)
  obtain ⟨more, hmore⟩ := hloop.trans (send_loraham_packet_extends w _ c)
  refine ⟨sent, more, ?_, hbuf⟩
  rw [← hmore, List.append_assoc, List.singleton_append]

/-- What is written for a plain text that parses. -/
theorem handle_framed_frame_parsed {w : Nat → List write_ret} (hw : WritesSucceed w) {m text : Bytes}
    (hm : m.length = BRIDGE_RX_LORAHAM_META_LEN) (h : Plain text) {frame : ax25_frame_t}
    (hline : tnc2_parse_line text = .ok frame) (c : bridge_rx_t) :
    ∃ sent, (bridge_rx_handle_framed_frame w true
        ⟨LORAHAM_FRAME_RX_PACKET, m ++ (loraham_hdr ++ text)⟩ c).1.client_tx = c.client_tx ++ [sent] ∧
      sent.Complete ∧
      events_of (kiss_decode kiss_decoder_init sent.buf).2
        = [.ok ⟨0, KISS_CMD_DATA, ui_octets frame⟩] ∧
      ax25_decode_ui (ui_octets frame) = .ok frame.plain := by
  have hv : frame.Valid := by
    have hchecked := checked_parse_line text
    rw [hline] at hchecked
    exact hchecked
  obtain ⟨sent, hsent, hbuf, hcomplete, -⟩ := send_tnc2_parsed hw hline
    ((log_rx_packet (m ++ (loraham_hdr ++ text)) c).count .loraham_rx)
  obtain ⟨hevents, hdecode⟩ := kiss_ax25_decode hv
  refine ⟨sent, ?_, hcomplete, by rw [hbuf]; exact hevents, hdecode⟩
  rw [handle_framed_frame_plain hw hm h, hsent, count_client_tx, log_rx_packet_client_tx]

/-! ## Headers in the payload -/

/-- Replacing line ends neither makes nor removes a header. -/
theorem hdr_infix_oneline {payload : Bytes} (h : loraham_hdr <:+: oneline payload) :
    loraham_hdr <:+: payload := by
  obtain ⟨s, t, hst⟩ := h
  obtain ⟨l, r, rfl, hl, -⟩ := List.map_eq_append_iff.mp hst.symm
  obtain ⟨a, k, rfl, -, hk⟩ := List.map_eq_append_iff.mp hl
  -- a space is no header byte, so no byte of the occurrence was replaced
  have hsame : ∀ b ∈ k, (if b = ch '\n' ∨ b = ch '\r' then ch ' ' else b) = b := by
    intro b hb
    have hmem := List.mem_map_of_mem hb (f := fun b => if b = ch '\n' ∨ b = ch '\r' then ch ' ' else b)
    rw [hk] at hmem
    split
    · rename_i heol
      rw [if_pos heol] at hmem
      exact absurd hmem (by decide)
    · rfl
  have hk : k = loraham_hdr := by
    rw [← hk]
    exact ((List.map_congr_left hsame).trans (List.map_id k)).symm
  exact ⟨a, r, by rw [hk]⟩

/-- In the text of a frame a header can only be in the payload. -/
theorem hdr_infix_text {frame : ax25_frame_t} (hv : frame.Valid)
    (h : loraham_hdr <:+: tnc2_text frame) : loraham_hdr <:+: frame.payload := by
  have hchar : addr_char LORAHAM_APRS_HDR0 = false := by decide
  have hsplit : tnc2_text frame = (station_text frame.src ++ ch '>' ::
      (station_text frame.dst ++ path_text frame.path ++ [ch ':'])) ++ oneline frame.payload := by
    simp [tnc2_text]
  rw [hsplit] at h
  refine hdr_infix_oneline (infix_of_infix_append h ?_)
  simp only [List.mem_append, List.mem_cons, List.not_mem_nil, or_false, not_or]
  exact ⟨notMem_station_text hv.src hchar, by decide,
    ⟨notMem_station_text hv.dst hchar, notMem_path_text hv.path hchar (by decide)⟩, by decide⟩

/-- The text of a frame is plain, but for headers in its payload. -/
theorem plain_tnc2_text {frame : ax25_frame_t} (hv : frame.Valid) (h0 : 0 ∉ frame.payload)
    (hhdr : ¬ loraham_hdr <:+: frame.payload) : Plain (tnc2_text frame) := by
  obtain ⟨-, hn, hr⟩ := tnc2_text_line hv h0
  have hlen := length_tnc2_text_le hv
  exact ⟨by simp [tnc2_text], by simp only [LHKT_TNC2_MAX_LINE]; omega, hr, hn,
    fun h => hhdr (hdr_infix_text hv h)⟩

theorem oneline_append (a b : Bytes) : oneline (a ++ b) = oneline a ++ oneline b :=
  List.map_append

/-- Normalised frames carry no mark on destination and source. -/
theorem plain_normalized (frame : ax25_frame_t) : (normalized frame).plain = normalized frame := rfl

theorem normalized_valid {frame : ax25_frame_t} (hv : frame.Valid) (h0 : 0 ∉ frame.payload) :
    (normalized frame).Valid := by
  have h := checked_parse_line (tnc2_text frame)
  rw [tnc2_parse_format hv h0] at h
  exact h

/-! ## Two bridges -/

/-- The receiving bridge writes exactly one KISS frame for the packet, and it
decodes to the frame the sending bridge got, with callsigns in upper case and
the payload on one line. -/
def Agrees (w : Nat → List write_ret) (c : bridge_rx_t) (m packet : Bytes) (frame : ax25_frame_t) :
    Prop :=
  ∃ sent data, (bridge_rx_handle_framed_frame w true ⟨LORAHAM_FRAME_RX_PACKET, m ++ packet⟩
      c).1.client_tx = c.client_tx ++ [sent] ∧ sent.Complete ∧
    events_of (kiss_decode kiss_decoder_init sent.buf).2 = [.ok ⟨0, KISS_CMD_DATA, data⟩] ∧
    ax25_decode_ui data = .ok (normalized frame)

/-- With a header inside, the first frame written has a shorter payload. -/
theorem Agrees.no_header {m : Bytes} {frame : ax25_frame_t} {w : Nat → List write_ret}
    {c : bridge_rx_t} (hv : frame.Valid) (h0 : 0 ∉ frame.payload)
    (hlen : (loraham_hdr ++ tnc2_text frame).length ≤ LHKT_LORAHAM_TX_MAX)
    (hm : m.length = BRIDGE_RX_LORAHAM_META_LEN) (hw : WritesSucceed w)
    (h : Agrees w c m (loraham_hdr ++ tnc2_text frame) frame) :
    ¬ loraham_hdr <:+: frame.payload := by
  intro hhdr
  obtain ⟨sent, data, hsent, -, hkiss, hdecode⟩ := h
  have hne : loraham_hdr ≠ [] := List.cons_ne_nil _ _
  obtain ⟨pa, pb, hpay, hfirst⟩ := exists_first_infix hne hhdr
  -- the frame whose payload ends before the header
  have hva : ax25_frame_t.Valid { frame with payload := pa } := by
    refine ⟨hv.dst, hv.src, hv.path, hv.path_le, ?_⟩
    have hle := hv.payload_le
    rw [hpay, List.length_append, List.length_append] at hle
    show pa.length ≤ LHKT_AX25_MAX_PAYLOAD
    omega
  have h0a : 0 ∉ pa := by
    rw [hpay] at h0
    exact fun h => h0 (List.mem_append_left _ (List.mem_append_left _ h))
  have htext : tnc2_text frame
      = tnc2_text { frame with payload := pa } ++ loraham_hdr ++ oneline pb := by
    have hone : oneline frame.payload = oneline pa ++ loraham_hdr ++ oneline pb := by
      rw [hpay, oneline_append, oneline_append]
      rfl
    unfold tnc2_text
    rw [hone]
    simp
  have hlena := length_tnc2_text_le hva
  rw [htext] at hlen hsent
  obtain ⟨sent', more, hsent', hbuf⟩ := send_loraham_packet_header hw
    (plain_tnc2_text hva h0a hfirst) (oneline pb) (by simp only [LHKT_TNC2_MAX_LINE]; omega)
    (Nat.le_trans hlen (by decide)) (tnc2_parse_format hva h0a)
    (log_rx_packet (m ++ (loraham_hdr ++ (tnc2_text { frame with payload := pa } ++ loraham_hdr
      ++ oneline pb))) c)
  unfold bridge_rx_handle_framed_frame at hsent
  rw [if_pos rfl] at hsent
  dsimp only at hsent
  rw [if_neg (by decide), if_neg (by rw [List.length_append]; omega), rf_bytes, ← hm,
    List.drop_left, hsent', log_rx_packet_client_tx] at hsent
  obtain ⟨rfl, -⟩ := List.cons.inj (List.append_cancel_left hsent)
  obtain ⟨hevents, hplainframe⟩ := kiss_ax25_decode (normalized_valid hva h0a)
  rw [hbuf, hevents] at hkiss
  obtain rfl : ui_octets _ = data := by simpa using hkiss
  rw [hplainframe, plain_normalized] at hdecode
  have hpayload : oneline pa = oneline frame.payload :=
    congrArg ax25_frame_t.payload (Except.ok.inj hdecode)
  have hcount := congrArg List.length hpayload
  rw [length_oneline, length_oneline, hpay, List.length_append, List.length_append] at hcount
  have hthree : loraham_hdr.length = 3 := rfl
  omega

/-- **Two bridges agree end to end** on a frame exactly when its payload does not
hold the LoRa-APRS header. -/
theorem bridges_agree_iff {data tnc2 packet m : Bytes} {frame : ax25_frame_t}
    {w : Nat → List write_ret} (hax25 : ax25_decode_ui data = .ok frame)
    (htnc2 : tnc2_format_line frame LHKT_TNC2_MAX_LINE = .ok tnc2)
    (hpacket : loraham_build_aprs_packet tnc2 LHKT_LORAHAM_TX_MAX = .ok packet)
    (hm : m.length = BRIDGE_RX_LORAHAM_META_LEN) (hw : WritesSucceed w) (c : bridge_rx_t) :
    Agrees w c m packet frame ↔ ¬ loraham_hdr <:+: frame.payload := by
  obtain ⟨hv, h0, rfl, hlen⟩ := packet_of_codecs hax25 htnc2 hpacket
  refine ⟨fun h => h.no_header hv h0 hlen hm hw, fun hhdr => ?_⟩
  obtain ⟨sent, hsent, hcomplete, hevents, hdecode⟩ := handle_framed_frame_parsed hw hm
    (plain_tnc2_text hv h0 hhdr) (tnc2_parse_format hv h0) c
  exact ⟨sent, ui_octets (normalized frame), hsent, hcomplete, hevents, hdecode⟩

/-- A frame with a lower-case callsign, an SSID, a repeated digipeater, and a
line end in its payload. -/
def sample_frame : ax25_frame_t where
  dst := ⟨ascii "aplhm", 0, false⟩
  src := ⟨ascii "N0CALL", 7, false⟩
  path := [⟨ascii "WIDE1", 1, true⟩]
  payload := ascii "<hi\r\n"

theorem bridges_agree_sample :
    Agrees (fun _ => []) {} [1, 2, 3, 4] (loraham_hdr ++ tnc2_text sample_frame) sample_frame := by
  have hax25 : ax25_decode_ui (ui_octets sample_frame) = .ok sample_frame := by decide +kernel
  have htnc2 : tnc2_format_line sample_frame LHKT_TNC2_MAX_LINE = .ok (tnc2_text sample_frame) := by
    decide +kernel
  exact (bridges_agree_iff hax25 htnc2 (by decide +kernel) rfl (fun _ _ => rfl) {}).mpr
    (by decide +kernel)

/-- A payload that holds the header and a further line: the client gets two
frames, the first with a cut payload. -/
theorem bridges_disagree_header :
    let frame : ax25_frame_t := ⟨⟨ascii "B", 0, false⟩, ⟨ascii "A", 0, false⟩, [],
      ascii "x" ++ loraham_hdr ++ ascii "A>B:y"⟩
    let packet := loraham_hdr ++ tnc2_text frame
    ax25_decode_ui (ui_octets frame) = .ok frame ∧
      tnc2_format_line frame LHKT_TNC2_MAX_LINE = .ok (tnc2_text frame) ∧
      loraham_build_aprs_packet (tnc2_text frame) LHKT_LORAHAM_TX_MAX = .ok packet ∧
      ¬ Agrees (fun _ => []) {} [0, 0, 0, 0] packet frame := by
  refine ⟨by decide +kernel, by decide +kernel, by decide +kernel, ?_⟩
  rintro ⟨sent, data, hsent, -⟩
  have htwo := congrArg List.length hsent
  revert htwo
  rw [List.length_append, List.length_singleton]
  decide +kernel

/-! ## A text is delivered unaltered or not at all -/

/-- The part of a line behind the first colon that follows the first `>`. -/
def info_field (line : Bytes) : Option Bytes := do
  let (_, rest) ← cut (ch '>') line
  let (_, info) ← cut (ch ':') rest
  some info

/-- One of the drop counters has grown. -/
def DropCounted (before after : lhkt_stats_t) : Prop :=
  before.loraham_drop < after.loraham_drop ∨ before.tnc2_drop < after.tnc2_drop ∨
    before.ax25_drop < after.ax25_drop ∨ before.kiss_drop < after.kiss_drop

/-- Nothing is written and a drop is counted, or the one KISS frame written
carries the information field of the text. -/
def Unaltered (w : Nat → List write_ret) (c : bridge_rx_t) (m text : Bytes) : Prop :=
  let c' := (bridge_rx_handle_framed_frame w true
    ⟨LORAHAM_FRAME_RX_PACKET, m ++ (loraham_hdr ++ text)⟩ c).1
  (c'.client_tx = c.client_tx ∧ DropCounted c.stats c'.stats) ∨
    ∃ sent data frame, c'.client_tx = c.client_tx ++ [sent] ∧ sent.Complete ∧
      events_of (kiss_decode kiss_decoder_init sent.buf).2 = [.ok ⟨0, KISS_CMD_DATA, data⟩] ∧
      ax25_decode_ui data = .ok frame ∧ info_field text = some frame.payload

/-- The parser takes the payload from the line it sees. -/
theorem parse_line_payload {buf : Bytes} {frame : ax25_frame_t}
    (h : tnc2_parse_line buf = .ok frame) :
    info_field (tnc2_strip_eol (cstr buf)) = some frame.payload := by
  unfold tnc2_parse_line at h
  dsimp only at h
  split at h
  · exact nomatch h
  · split at h
    · exact nomatch h
    · rename_i src_part rest hgt
      split at h
      · exact nomatch h
      · split at h
        · exact nomatch h
        · rename_i addr_part payload hcolon
          split at h
          · exact nomatch h
          · obtain ⟨src, -, h⟩ := bind_eq_ok h
            obtain ⟨⟨dst, path⟩, -, h⟩ := bind_eq_ok h
            unfold info_field
            rw [hgt]
            show (cut (ch ':') rest).bind _ = _
            rw [hcolon, ← Except.ok.inj h]
            rfl

/-- More text behind a line is more information field. -/
theorem info_field_append {line info : Bytes} (h : info_field line = some info) (more : Bytes) :
    info_field (line ++ more) = some (info ++ more) := by
  unfold info_field at h ⊢
  obtain ⟨⟨a, rest⟩, hgt, hrest⟩ := Option.bind_eq_some_iff.mp h
  obtain ⟨⟨b, info'⟩, hcolon, hinfo⟩ := Option.bind_eq_some_iff.mp hrest
  obtain rfl : info' = info := Option.some.inj hinfo
  obtain ⟨rfl, ha⟩ := cut_eq_some_iff.mp hgt
  obtain ⟨rfl, hb⟩ := cut_eq_some_iff.mp hcolon
  rw [List.append_assoc, List.cons_append, cut_append _ ha]
  show (cut (ch ':') _).bind _ = _
  rw [List.append_assoc, List.cons_append, cut_append _ hb]
  rfl

/-- The line a plain text holds for the parser. -/
theorem info_field_of_parse {text : Bytes} (h : Plain text) {frame : ax25_frame_t}
    (hline : tnc2_parse_line text = .ok frame) : info_field (cstr text) = some frame.payload := by
  have hstrip : tnc2_strip_eol (cstr text) = cstr text := by
    refine strip_eol_eq_self (fun hr => h.no_cr ?_) (fun hn => h.no_lf ?_)
    · exact List.takeWhile_subset _ hr
    · exact List.takeWhile_subset _ hn
  rw [← hstrip]
  exact parse_line_payload hline

/-- A text that parses and is delivered unaltered has no NUL: what follows the
NUL would be missing. -/
theorem Unaltered.no_nul {w : Nat → List write_ret} (hw : WritesSucceed w) {m text : Bytes}
    (hm : m.length = BRIDGE_RX_LORAHAM_META_LEN) (h : Plain text) {c : bridge_rx_t}
    {frame : ax25_frame_t} (hline : tnc2_parse_line text = .ok frame)
    (hu : Unaltered w c m text) : 0 ∉ text := by
  obtain ⟨sent, hsent, -, hevents, hdecode⟩ := handle_framed_frame_parsed hw hm h hline c
  rcases hu with ⟨hnone, -⟩ | ⟨sent', data, frame', hsent', -, hkiss, hax25, hfield⟩
  · rw [hsent] at hnone
    exact absurd hnone (by simp)
  · rw [hsent] at hsent'
    obtain rfl : sent = sent' := by simpa using hsent'
    rw [hevents] at hkiss
    obtain rfl : ui_octets frame = data := by simpa using hkiss
    rw [hdecode] at hax25
    rw [← Except.ok.inj hax25] at hfield
    obtain ⟨more, hmore⟩ : cstr text <+: text := List.takeWhile_prefix _
    have hlong := info_field_append (info_field_of_parse h hline) more
    rw [hmore, hfield] at hlong
    have hself : frame.payload = frame.payload ++ more := Option.some.inj hlong
    have hnil : more = [] := by simpa using hself
    rw [hnil, List.append_nil] at hmore
    rw [← hmore]
    exact zero_notMem_cstr text

/-- **Unaltered or not at all.** A plain text is delivered so exactly when it has
no NUL, or the part before its first NUL is no TNC2 line. -/
theorem rx_text_unaltered_iff {w : Nat → List write_ret} (hw : WritesSucceed w) {m text : Bytes}
    (hm : m.length = BRIDGE_RX_LORAHAM_META_LEN) (h : Plain text) (c : bridge_rx_t) :
    Unaltered w c m text ↔ (0 ∈ text → (tnc2_parse_line (cstr text)).isOk = false) := by
  have hcstr : tnc2_parse_line (cstr text) = tnc2_parse_line text := by
    unfold tnc2_parse_line
    rw [cstr_eq_self (zero_notMem_cstr text)]
  rw [hcstr]
  match hline : tnc2_parse_line text with
  | .error ret =>
      -- no line: dropped, whatever follows a NUL
      refine iff_of_true (.inl ?_) fun _ => rfl
      rw [handle_framed_frame_plain hw hm h, bridge_rx_send_tnc2_to_kiss_client, if_neg (by decide),
        hline]
      refine ⟨log_rx_packet_client_tx _ c, .inr (.inl ?_)⟩
      show c.stats.tnc2_drop < (log_rx_packet _ c).stats.tnc2_drop + 1
      rw [log_rx_packet_stats]
      exact Nat.lt_succ_self _
  | .ok frame =>
      refine ⟨fun hu hmem => absurd hmem (hu.no_nul hw hm h hline), fun hzero => ?_⟩
      have hno : 0 ∉ text := fun hmem => Bool.false_ne_true (hzero hmem).symm
      have hinfo := info_field_of_parse h hline
      rw [cstr_eq_self hno] at hinfo
      obtain ⟨sent, hsent, hcomplete, hevents, hdecode⟩ := handle_framed_frame_parsed hw hm h hline c
      exact .inr ⟨sent, ui_octets frame, frame.plain, hsent, hcomplete, hevents, hdecode, hinfo⟩

/-- A text with further separators in its information field. -/
theorem rx_text_unaltered_line :
    Unaltered (fun _ => []) {} [0, 0, 0, 0] (ascii "A>B:x:y>z") :=
  (rx_text_unaltered_iff (fun _ _ => rfl) rfl
    ⟨by decide, by decide, by decide, by decide, by decide⟩ {}).mpr (by decide)

/-- A NUL in the information field: the client gets the part before it. -/
theorem rx_text_cut_at_nul : Plain (ascii "A>B:x" ++ 0 :: ascii "y") ∧
    ¬ Unaltered (fun _ => []) {} [0, 0, 0, 0] (ascii "A>B:x" ++ 0 :: ascii "y") := by
  have hplain : Plain (ascii "A>B:x" ++ 0 :: ascii "y") :=
    ⟨by decide, by decide, by decide, by decide, by decide⟩
  have hline : tnc2_parse_line (ascii "A>B:x" ++ 0 :: ascii "y")
      = .ok ⟨⟨ascii "B", 0, false⟩, ⟨ascii "A", 0, false⟩, [], ascii "x"⟩ := by decide +kernel
  exact ⟨hplain, fun hu => hu.no_nul (fun _ _ => rfl) rfl hplain hline (by decide)⟩

end LorahamKissTnc.EndToEnd
