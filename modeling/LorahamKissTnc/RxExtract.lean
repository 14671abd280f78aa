/-
The lines of a received packet, as the format defines them, and as the two calls
of `bridge_rx_handle_loraham_chunk` find them.

The reference (`packet_lines`) looks ahead: at every byte it asks whether a
complete header starts here. The extractor cannot look ahead. It matches a header
byte by byte, keeps the bytes matched so far out of the text, and puts them back
when the header does not go on. The two agree because a state of the extractor
stands for the reference over the matched part of a header followed by the bytes
to come (`extract_byte_lines`): a byte either extends the match, which changes
nothing in that sequence, or shows that no header starts in it, and then the
reference walks over the same bytes as text.

A header has three different bytes, so a match that fails can only start again
at the byte that ended it.
-/
import LorahamKissTnc.RxPacket

set_option autoImplicit false

open LorahamKissTnc.Lib.CString LorahamKissTnc.Lib.Channel LorahamKissTnc.Lib.Machine
open LorahamKissTnc.Config LorahamKissTnc.Kiss LorahamKissTnc.Ax25 LorahamKissTnc.Tnc2
open LorahamKissTnc.LorahamSock LorahamKissTnc.BridgeRx LorahamKissTnc.RxPacket

namespace LorahamKissTnc.RxExtract

/-! ## The reference -/

/-- The line a run becomes: none while skipping, and none for an empty run. -/
def line_of : Option Bytes → List Bytes
  | none => []
  | some run => if run = [] then [] else [run]

/-- The lines of the bytes `p`, inside a text run or skipping to the next header.
`skip` counts the bytes of a header that are still to come. -/
def lines_from : Nat → Option Bytes → Bytes → List Bytes
  | _, run, [] => line_of run
  | skip + 1, run, _ :: p => lines_from skip run p
  | 0, run, b :: p =>
      if loraham_hdr.isPrefixOf (b :: p) then line_of run ++ lines_from 2 (some []) p
      else match run with
        | none => lines_from 0 none p
        | some text =>
            if b = ch '\r' ∨ b = ch '\n' then line_of (some text) ++ lines_from 0 none p
            else lines_from 0 (some (text ++ [b])) p

/-- The lines of a packet: skip to the first header, then one line for each
non-empty run up to a line end, the next header or the end of the packet. -/
def packet_lines (packet : Bytes) : List Bytes := lines_from 0 none packet

theorem lines_from_hdr (run : Option Bytes) (p : Bytes) :
    lines_from 0 run (loraham_hdr ++ p) = line_of run ++ lines_from 0 (some []) p := by
  cases run with
  | none => rfl
  | some text => rfl

/-- A byte of a run. -/
theorem lines_from_text {text : Bytes} {b : UInt8} {p : Bytes}
    (hhdr : loraham_hdr.isPrefixOf (b :: p) = false) (hr : b ≠ ch '\r') (hn : b ≠ ch '\n') :
    lines_from 0 (some text) (b :: p) = lines_from 0 (some (text ++ [b])) p := by
  rw [lines_from, if_neg (by simp [hhdr]), if_neg (by simp [hr, hn])]

/-- A line end. -/
theorem lines_from_eol {text : Bytes} {b : UInt8} {p : Bytes} (hb : b = ch '\r' ∨ b = ch '\n') :
    lines_from 0 (some text) (b :: p) = line_of (some text) ++ lines_from 0 none p := by
  have hhdr : loraham_hdr.isPrefixOf (b :: p) = false := by
    rcases hb with rfl | rfl
    · rfl
    · rfl
  rw [lines_from, if_neg (by simp [hhdr]), if_pos hb]

theorem lines_from_skip {b : UInt8} {p : Bytes} (hhdr : loraham_hdr.isPrefixOf (b :: p) = false) :
    lines_from 0 none (b :: p) = lines_from 0 none p := by
  rw [lines_from, if_neg (by simp [hhdr])]

theorem not_isPrefixOf_cons {b : UInt8} (hb : b ≠ LORAHAM_APRS_HDR0) (p : Bytes) :
    loraham_hdr.isPrefixOf (b :: p) = false := by
  simp [loraham_hdr, List.isPrefixOf, Ne.symm hb]

/-- A run only grows: one of the lines holds what there is of it. -/
theorem exists_line_of_run (p : Bytes) : ∀ (skip : Nat) (text : Bytes), text ≠ [] →
    ∃ l ∈ lines_from skip (some text) p, text.length ≤ l.length := by
  induction p with
  | nil =>
      intro skip text hne
      refine ⟨text, ?_, Nat.le_refl _⟩
      simp [lines_from, line_of, hne]
  | cons b p ih =>
      intro skip text hne
      have hline : text ∈ line_of (some text) := by simp [line_of, hne]
      cases skip with
      | succ skip => exact ih skip text hne
      | zero =>
          rw [lines_from]
          by_cases hhdr : loraham_hdr.isPrefixOf (b :: p) = true
          · rw [if_pos hhdr]
            exact ⟨text, List.mem_append_left _ hline, Nat.le_refl _⟩
          · rw [if_neg hhdr]
            by_cases hb : b = ch '\r' ∨ b = ch '\n'
            · rw [if_pos hb]
              exact ⟨text, List.mem_append_left _ hline, Nat.le_refl _⟩
            · rw [if_neg hb]
              obtain ⟨l, hl, hlen⟩ := ih 0 (text ++ [b]) (by simp)
              rw [List.length_append] at hlen
              exact ⟨l, hl, by omega⟩

/-- Runs of acceptable length. -/
def Fits (lines : List Bytes) : Prop := ∀ l ∈ lines, l.length < LHKT_TNC2_MAX_LINE

theorem Fits.run {text p : Bytes} (h : Fits (lines_from 0 (some text) p)) :
    text.length < LHKT_TNC2_MAX_LINE := by
  by_cases hne : text = []
  · rw [hne]
    decide
  · obtain ⟨l, hl, hlen⟩ := exists_line_of_run p 0 text hne
    exact Nat.lt_of_le_of_lt hlen (h l hl)

/-! ## A match that fails -/

/-- The matched part of a header is text when the next byte does not continue it. -/
theorem lines_from_mismatch {n : Nat} (hn : n < LHKT_LORAHAM_HDR_LEN) {b : UInt8}
    (hb : b ≠ loraham_hdr.getD n 0) (text p : Bytes) :
    lines_from 0 (some text) (loraham_hdr.take n ++ b :: p)
      = lines_from 0 (some (text ++ loraham_hdr.take n)) (b :: p) := by
  match n, hn with
  | 0, _ =>
      show _ = lines_from 0 (some (text ++ [])) (b :: p)
      rw [List.append_nil]
      rfl
  | 1, _ =>
      have hb : b ≠ LORAHAM_APRS_HDR1 := hb
      show lines_from 0 (some text) (LORAHAM_APRS_HDR0 :: b :: p) = _
      rw [lines_from_text _ (by decide) (by decide)]
      · rfl
      · simp [loraham_hdr, List.isPrefixOf, Ne.symm hb]
  | 2, _ =>
      have hb : b ≠ LORAHAM_APRS_HDR2 := hb
      show lines_from 0 (some text) (LORAHAM_APRS_HDR0 :: LORAHAM_APRS_HDR1 :: b :: p) = _
      rw [lines_from_text _ (by decide) (by decide),
        lines_from_text (not_isPrefixOf_cons (by decide) _) (by decide) (by decide),
        List.append_assoc]
      · rfl
      · simp [loraham_hdr, List.isPrefixOf, Ne.symm hb]

/-- While skipping it is just skipped. -/
theorem lines_from_mismatch_skip {n : Nat} (hn : n < LHKT_LORAHAM_HDR_LEN) {b : UInt8}
    (hb : b ≠ loraham_hdr.getD n 0) (p : Bytes) :
    lines_from 0 none (loraham_hdr.take n ++ b :: p) = lines_from 0 none (b :: p) := by
  match n, hn with
  | 0, _ => rfl
  | 1, _ =>
      have hb : b ≠ LORAHAM_APRS_HDR1 := hb
      show lines_from 0 none (LORAHAM_APRS_HDR0 :: b :: p) = _
      rw [lines_from_skip]
      simp [loraham_hdr, List.isPrefixOf, Ne.symm hb]
  | 2, _ =>
      have hb : b ≠ LORAHAM_APRS_HDR2 := hb
      show lines_from 0 none (LORAHAM_APRS_HDR0 :: LORAHAM_APRS_HDR1 :: b :: p) = _
      rw [lines_from_skip, lines_from_skip (not_isPrefixOf_cons (by decide) _)]
      simp [loraham_hdr, List.isPrefixOf, Ne.symm hb]

/-! ## The extractor -/

/-- The run the extractor is in. -/
def run_of (state : loraham_rx_state_t) : Option Bytes :=
  if state.seen_header then some state.buf else none

/-- What is left to do: the reference over the matched part of a header and the
bytes to come. -/
def lines_left (state : loraham_rx_state_t) (p : Bytes) : List Bytes :=
  lines_from 0 (run_of state) (loraham_hdr.take state.hdr_len ++ p)

/-- At most a part of a header is matched, and the text fits. -/
structure Extracting (state : loraham_rx_state_t) : Prop where
  hdr_lt : state.hdr_len < LHKT_LORAHAM_HDR_LEN
  buf_lt : state.buf.length < LHKT_TNC2_MAX_LINE

theorem take_hdr_succ {n : Nat} (hn : n < LHKT_LORAHAM_HDR_LEN) (p : Bytes) :
    loraham_hdr.take n ++ loraham_hdr.getD n 0 :: p = loraham_hdr.take (n + 1) ++ p := by
  match n, hn with
  | 0, _ => rfl
  | 1, _ => rfl
  | 2, _ => rfl

/-- The extractor hands on a run at its end, unless it is empty. -/
theorem emit_lines {state : loraham_rx_state_t} (hbuf : state.buf.length < LHKT_TNC2_MAX_LINE)
    (hseen : state.seen_header = true) (keep : Bool) :
    ∃ text, loraham_emit_tnc2 state LHKT_TNC2_MAX_LINE false keep
        = ({ state with buf := [], hdr_len := 0, seen_header := keep }, .ok text) ∧
      text.toList = line_of (some state.buf) := by
  unfold loraham_emit_tnc2
  simp only [Bool.false_eq_true, false_and, if_false]
  by_cases hnil : state.buf = []
  · refine ⟨none, ?_, by simp [line_of, hnil]⟩
    rw [if_pos (.inr hnil)]
    cases keep with
    | true => simp [hnil, hseen]
    | false => simp [hnil]
  · refine ⟨some state.buf, ?_, by simp [line_of, hnil]⟩
    rw [if_neg (by simp [hseen, hnil]), if_neg (Nat.not_le.mpr hbuf)]

/-- **One byte while skipping.** -/
theorem extract_byte_skip {state : loraham_rx_state_t} (h : Extracting state)
    (hseen : state.seen_header = false) (b : UInt8) (p : Bytes) :
    ∃ state', loraham_extract_byte LHKT_TNC2_MAX_LINE state b = (state', .ok none) ∧
      Extracting state' ∧ lines_left state (b :: p) = lines_left state' p := by
  have hlt := h.hdr_lt
  unfold loraham_extract_byte
  rw [if_pos (by simp [hseen])]
  by_cases hb : b = loraham_hdr.getD state.hdr_len 0
  · rw [if_pos hb]
    dsimp only
    have hmatch : lines_left state (b :: p)
        = lines_from 0 none (loraham_hdr.take (state.hdr_len + 1) ++ p) := by
      rw [lines_left, run_of, hseen, hb, take_hdr_succ hlt]
      rfl
    by_cases hend : state.hdr_len + 1 = LHKT_LORAHAM_HDR_LEN
    · -- the header is complete: an empty run starts
      rw [if_pos hend]
      refine ⟨_, rfl, ⟨Nat.succ_pos 2, Nat.succ_pos 511⟩, ?_⟩
      rw [hmatch, hend]
      exact lines_from_hdr none p
    · rw [if_neg hend]
      refine ⟨_, rfl, ⟨by show state.hdr_len + 1 < _; omega, h.buf_lt⟩, ?_⟩
      rw [hmatch, lines_left, run_of]
      simp only [hseen, Bool.false_eq_true, if_false]
  · rw [if_neg hb]
    have hmatch : lines_left state (b :: p) = lines_from 0 none (b :: p) := by
      rw [lines_left, run_of, hseen]
      exact lines_from_mismatch_skip hlt hb p
    by_cases hstart : b = LORAHAM_APRS_HDR0
    · rw [if_pos hstart]
      refine ⟨_, rfl, ⟨Nat.one_lt_succ_succ 1, h.buf_lt⟩, ?_⟩
      rw [hmatch, lines_left, run_of, hstart]
      simp only [hseen, Bool.false_eq_true, if_false]
      rfl
    · rw [if_neg hstart]
      refine ⟨_, rfl, ⟨Nat.succ_pos 2, h.buf_lt⟩, ?_⟩
      rw [hmatch, lines_from_skip (not_isPrefixOf_cons hstart p), lines_left, run_of]
      simp only [hseen, Bool.false_eq_true, if_false]
      rfl

/-- **One byte of a text** that does not continue a header, when what was matched
is text already. -/
theorem extract_byte_plain {state : loraham_rx_state_t} (hseen : state.seen_header = true)
    (hzero : state.hdr_len = 0) (hbuf : state.buf.length < LHKT_TNC2_MAX_LINE) (b : UInt8)
    (p : Bytes) (hfits : Fits (lines_left state (b :: p))) :
    ∃ state' text, (if b = ch '\r' ∨ b = ch '\n' then
          loraham_emit_tnc2 state LHKT_TNC2_MAX_LINE true false
        else if b = LORAHAM_APRS_HDR0 then ({ state with hdr_len := 1 }, .ok none)
        else match loraham_append_payload state b with
          | .error ret => (loraham_rx_state_init, .error ret)
          | .ok state => (state, .ok none)) = (state', .ok text) ∧
      Extracting state' ∧ lines_left state (b :: p) = text.toList ++ lines_left state' p := by
  have hleft : lines_left state (b :: p) = lines_from 0 (some state.buf) (b :: p) := by
    rw [lines_left, run_of, hseen, hzero]
    rfl
  rw [hleft] at hfits ⊢
  by_cases heol : b = ch '\r' ∨ b = ch '\n'
  · -- nothing is matched, so flushing does not change the run
    have hflush : loraham_emit_tnc2 state LHKT_TNC2_MAX_LINE true false
        = loraham_emit_tnc2 state LHKT_TNC2_MAX_LINE false false := by
      unfold loraham_emit_tnc2
      simp [hzero]
    obtain ⟨text, hemit, htext⟩ := emit_lines hbuf hseen false
    rw [if_pos heol, hflush, hemit]
    refine ⟨_, text, rfl, ⟨Nat.succ_pos 2, Nat.succ_pos 511⟩, ?_⟩
    rw [lines_from_eol heol, htext]
    rfl
  · rw [if_neg heol]
    rw [not_or] at heol
    by_cases hstart : b = LORAHAM_APRS_HDR0
    · rw [if_pos hstart]
      refine ⟨_, none, rfl, ⟨Nat.one_lt_succ_succ 1, hbuf⟩, ?_⟩
      rw [lines_left, run_of, hstart]
      simp only [hseen, if_true]
      rfl
    · rw [if_neg hstart]
      rw [lines_from_text (not_isPrefixOf_cons hstart p) heol.1 heol.2] at hfits ⊢
      -- the run goes on, and there is room for the byte because it fits
      have hlen := hfits.run
      have hroom : ¬LHKT_TNC2_MAX_LINE - 1 ≤ state.buf.length := by
        rw [List.length_append, List.length_singleton] at hlen
        omega
      rw [loraham_append_payload, if_neg hroom]
      refine ⟨_, none, rfl, ⟨by show state.hdr_len < _; rw [hzero]; decide, hlen⟩, ?_⟩
      rw [lines_left, run_of]
      simp only [hseen, if_true, hzero]
      rfl

/-- **One byte.** The lines left before it are the one it completes and the lines
left after it. -/
theorem extract_byte_lines {state : loraham_rx_state_t} (h : Extracting state) (b : UInt8)
    (p : Bytes) (hfits : Fits (lines_left state (b :: p))) :
    ∃ state' text, loraham_extract_byte LHKT_TNC2_MAX_LINE state b = (state', .ok text) ∧
      Extracting state' ∧ lines_left state (b :: p) = text.toList ++ lines_left state' p := by
  have hlt := h.hdr_lt
  cases hseen : state.seen_header with
  | false =>
      obtain ⟨state', hbyte, hst', hleft⟩ := extract_byte_skip h hseen b p
      exact ⟨state', none, hbyte, hst', hleft⟩
  | true =>
      have hleft : lines_left state (b :: p)
          = lines_from 0 (some state.buf) (loraham_hdr.take state.hdr_len ++ b :: p) := by
        rw [lines_left, run_of, hseen]
        rfl
      unfold loraham_extract_byte
      rw [if_neg (by simp [hseen])]
      by_cases hb : 0 < state.hdr_len ∧ b = loraham_hdr.getD state.hdr_len 0
      · rw [if_pos hb]
        dsimp only
        rw [hleft, hb.2, take_hdr_succ hlt]
        by_cases hend : state.hdr_len + 1 = LHKT_LORAHAM_HDR_LEN
        · -- a complete header: the run before it ends, and the next one starts
          obtain ⟨text, hemit, htext⟩ := @emit_lines
            { state with hdr_len := state.hdr_len + 1 } h.buf_lt hseen true
          rw [if_pos hend, hemit, hend]
          refine ⟨_, text, rfl, ⟨Nat.succ_pos 2, Nat.succ_pos 511⟩, ?_⟩
          rw [htext]
          exact lines_from_hdr (some state.buf) p
        · rw [if_neg hend]
          refine ⟨_, none, rfl, ⟨by show state.hdr_len + 1 < _; omega, h.buf_lt⟩, ?_⟩
          rw [lines_left, run_of]
          simp only [hseen, if_true]
          rfl
      · rw [if_neg hb]
        dsimp only
        -- without a match there is nothing to put back, and with one it is text
        set flushed : loraham_rx_state_t :=
          { state with buf := state.buf ++ loraham_hdr.take state.hdr_len, hdr_len := 0 } with hdef
        have hsame : lines_left state (b :: p) = lines_left flushed (b :: p) := by
          rw [hleft, lines_left, run_of, hdef]
          simp only [hseen, if_true]
          by_cases hzero : state.hdr_len = 0
          · rw [hzero]
            simp
          · exact lines_from_mismatch hlt (fun hc => hb ⟨Nat.pos_of_ne_zero hzero, hc⟩) _ _
        have hroom : flushed.buf.length < LHKT_TNC2_MAX_LINE := by
          rw [hsame, lines_left, run_of, hdef] at hfits
          simp only [hseen, if_true] at hfits
          exact hfits.run
        have hflush : (if 0 < state.hdr_len then loraham_append_hdr_prefix state else .ok state)
            = .ok flushed := by
          by_cases hzero : state.hdr_len = 0
          · rw [if_neg (by omega), hdef, hzero, List.take_zero, List.append_nil, ← hzero]
          · have hfit : state.buf.length + (loraham_hdr.take state.hdr_len).length
                < LHKT_TNC2_MAX_LINE := by
              rw [← List.length_append]
              exact hroom
            rw [if_pos (Nat.pos_of_ne_zero hzero), loraham_append_hdr_prefix_eq,
              if_pos (.inr hfit)]
        rw [hflush]
        rw [hsame] at hfits ⊢
        exact @extract_byte_plain flushed hseen rfl hroom b p hfits

/-- The flush at the end of a packet. -/
theorem emit_flush_lines {state : loraham_rx_state_t} (h : Extracting state)
    (hfits : Fits (lines_left state [])) :
    ∃ state' text, loraham_emit_tnc2 state LHKT_TNC2_MAX_LINE true false = (state', .ok text) ∧
      lines_left state [] = text.toList := by
  have hlt := h.hdr_lt
  cases hseen : state.seen_header with
  | false =>
      -- while skipping, a matched part of a header is skipped too
      refine ⟨{ state with hdr_len := 0, seen_header := false }, none, ?_, ?_⟩
      · unfold loraham_emit_tnc2
        simp [hseen]
      · rw [lines_left, run_of, hseen, List.append_nil]
        match state.hdr_len, hlt with
        | 0, _ => rfl
        | 1, _ => rfl
        | 2, _ => rfl
  | true =>
      have hleft : lines_left state []
          = line_of (some (state.buf ++ loraham_hdr.take state.hdr_len)) := by
        rw [lines_left, run_of, hseen, List.append_nil]
        match state.hdr_len, hlt with
        | 0, _ => rw [List.take_zero, List.append_nil]; rfl
        | 1, _ => rfl
        | 2, _ =>
            show line_of (some (state.buf ++ [LORAHAM_APRS_HDR0] ++ [LORAHAM_APRS_HDR1])) = _
            rw [List.append_assoc]
            rfl
      -- inside a run it is text, and the whole run fits
      have hroom : (state.buf ++ loraham_hdr.take state.hdr_len).length < LHKT_TNC2_MAX_LINE := by
        by_cases hnil : state.buf ++ loraham_hdr.take state.hdr_len = []
        · rw [hnil]
          decide
        · apply hfits
          rw [hleft]
          simp [line_of, hnil]
      obtain ⟨text, hemit, htext⟩ := @emit_lines
        { state with buf := state.buf ++ loraham_hdr.take state.hdr_len, hdr_len := 0 }
        hroom hseen false
      refine ⟨{ pending := state.pending }, text, ?_, hleft.trans htext.symm⟩
      rw [← hemit]
      unfold loraham_emit_tnc2
      by_cases hzero : state.hdr_len = 0
      · simp [hzero, loraham_rx_packet_clear]
      · have hpos := Nat.pos_of_ne_zero hzero
        rw [List.length_append] at hroom
        simp only [hseen, hpos, and_self, if_true, loraham_append_hdr_prefix_eq]
        rw [if_pos (.inr hroom)]
        simp

/-- **A packet.** The extractor finds the lines of the reference. -/
theorem extract_all_lines (p : Bytes) : ∀ {state : loraham_rx_state_t}, Extracting state →
    Fits (lines_left state p) →
    ∃ state' texts, extract_all state p = .ok (state', texts) ∧ Extracting state' ∧
      lines_left state p = texts ++ lines_left state' [] := by
  induction p with
  | nil => exact fun {state} h _ => ⟨state, [], rfl, h, rfl⟩
  | cons b p ih =>
      intro state h hfits
      obtain ⟨st, text, hbyte, hst, hleft⟩ := extract_byte_lines h b p hfits
      have hrest : Fits (lines_left st p) := by
        intro l hl
        apply hfits
        rw [hleft]
        exact List.mem_append_right _ hl
      obtain ⟨st', texts, hall, hst', hleft'⟩ := ih hst hrest
      refine ⟨st', text.toList ++ texts, ?_, hst', ?_⟩
      · rw [extract_all, hbyte]
        show (extract_all st p >>= fun r => Except.ok (r.1, text.toList ++ r.2)) = _
        rw [hall]
        rfl
      · rw [hleft, hleft', List.append_assoc]

/-! ## The two calls -/

/-- Delivering goes on where it stopped. -/
theorem deliver_texts_append (w : Nat → List write_ret) (texts more : List Bytes) :
    ∀ c : bridge_rx_t, (deliver_texts w texts c).2 = .OK →
      deliver_texts w (texts ++ more) c = deliver_texts w more (deliver_texts w texts c).1 := by
  induction texts with
  | nil => exact fun c _ => rfl
  | cons text texts ih =>
      intro c hok
      rw [List.cons_append]
      rw [deliver_texts_cons] at hok ⊢
      by_cases hret : (bridge_rx_send_tnc2_to_kiss_client w true text (c.count .loraham_rx)).2 ≠ .OK
      · rw [if_pos hret] at hok
        exact absurd hok hret
      · rw [if_neg hret] at hok ⊢
        rw [ih _ hok, deliver_texts_cons, if_neg hret]

/-- The call without bytes takes one round. -/
theorem handle_loraham_chunk_loop_flush (w : Nat → List write_ret) (rounds : Nat)
    {state : loraham_rx_state_t} (hp : state.pending = []) (c : bridge_rx_t) :
    handle_loraham_chunk_loop w true (rounds + 1) state [] c
      = bridge_rx_handle_loraham_chunk w true state [] c := by
  have hpending : ∀ st text, loraham_extract_tnc2 state [] LHKT_TNC2_MAX_LINE = (st, .ok text) →
      st.pending = [] := by
    intro st text hext
    have hst : { state with pending := [] } = state := by rw [← hp]
    have hemit : loraham_emit_tnc2 state LHKT_TNC2_MAX_LINE true false = (st, .ok text) := by
      rw [← hext]
      unfold loraham_extract_tnc2
      rw [hp]
      simp [loraham_extract_pending, hst]
    have hrepend := emit_repend state [] LHKT_TNC2_MAX_LINE true false
    rw [hst, hemit] at hrepend
    exact congrArg (fun r : loraham_rx_state_t × Option Bytes => r.1.pending)
      (Except.ok.inj hrepend)
  unfold bridge_rx_handle_loraham_chunk
  rw [hp]
  show _ = handle_loraham_chunk_loop w true 1 state [] c
  rw [handle_loraham_chunk_loop, handle_loraham_chunk_loop]
  generalize hext : loraham_extract_tnc2 state [] LHKT_TNC2_MAX_LINE = r
  obtain ⟨st, ret | _ | text⟩ := r
  · rfl
  · dsimp only
    rw [if_pos (hpending st _ hext), if_pos (hpending st _ hext)]
  · dsimp only
    by_cases hret : (bridge_rx_send_tnc2_to_kiss_client w true text (c.count .loraham_rx)).2 ≠ .OK
    · rw [if_pos hret, if_pos hret]
    · rw [if_neg hret, if_neg hret, if_pos (hpending st _ hext), if_pos (hpending st _ hext)]

/-- The first call, over all bytes of the packet. -/
theorem handle_loraham_chunk_loop_first {w : Nat → List write_ret} (hw : WritesSucceed w)
    {p : Bytes} (hlen : p.length ≤ LHKT_LORAHAM_RX_PENDING) {state : loraham_rx_state_t}
    {texts : List Bytes} (hall : extract_all loraham_rx_state_init p = .ok (state, texts))
    (c : bridge_rx_t) (hok : (deliver_texts w texts c).2 = .OK) (rounds : Nat)
    (hrounds : p.length < rounds) :
    handle_loraham_chunk_loop w true rounds loraham_rx_state_init p c
      = ((deliver_texts w texts c).1, state, .OK) := by
  by_cases hne : p = []
  · subst hne
    obtain ⟨n, rfl⟩ : ∃ n, rounds = n + 1 := ⟨rounds - 1, by omega⟩
    obtain ⟨rfl, rfl⟩ := Prod.mk.inj (Except.ok.inj hall)
    rfl
  · have h := handle_loraham_chunk_loop_handled hw rounds loraham_rx_state_init p c hne
      (fun _ => by show 0 + p.length ≤ _; omega) hrounds
    have hall : extract_all { loraham_rx_state_init with pending := [] }
        (loraham_rx_state_init.pending ++ p) = .ok (state, texts) := hall
    rw [hall] at h
    obtain ⟨hret, hsame⟩ := h
    have hret := hret.trans hok
    obtain ⟨hc, hst⟩ := hsame hret
    rw [← hc, ← hst, ← hret]

/-- **Extraction is the reference.** When no run of the packet is too long and
every line is accepted, the two calls of `bridge_rx_handle_loraham_chunk` succeed
and hand on exactly the lines of the packet, one after the other. They end by
themselves: more rounds than there are bytes make no difference. -/
theorem packet_extraction_is_reference {w : Nat → List write_ret} (hw : WritesSucceed w)
    {p : Bytes} (hlen : p.length ≤ 1020) (hruns : ∀ l ∈ packet_lines p, l.length ≤ 511)
    (haccept : ∀ l ∈ packet_lines p, (tnc2_parse_line l).isOk = true) (c : bridge_rx_t) :
    let first := bridge_rx_handle_loraham_chunk w true loraham_rx_state_init p c
    let second := bridge_rx_handle_loraham_chunk w true first.2.1 [] first.1
    packet_texts p = .ok (packet_lines p) ∧
      first.2.2 = .OK ∧ second.2.2 = .OK ∧
      second.1 = (deliver_texts w (packet_lines p) c).1 ∧
      client_frames second.1 = client_frames c ++ (packet_lines p).map text_frame ∧
      (∀ rounds, p.length < rounds →
        handle_loraham_chunk_loop w true rounds loraham_rx_state_init p c = first) ∧
      (∀ rounds, 0 < rounds →
        handle_loraham_chunk_loop w true rounds first.2.1 [] first.1 = second) := by
  intro first second
  have hfits : Fits (lines_left loraham_rx_state_init p) :=
    fun l hl => Nat.lt_succ_of_le (hruns l hl)
  obtain ⟨state, texts, hall, hst, hleft⟩ := extract_all_lines p ⟨by decide, by decide⟩ hfits
  have hrest : Fits (lines_left state []) := by
    intro l hl
    apply hfits
    rw [hleft]
    exact List.mem_append_right _ hl
  obtain ⟨state', text, hemit, hlast⟩ := emit_flush_lines hst hrest
  have hlines : packet_lines p = texts ++ text.toList := by
    rw [← hlast]
    exact hleft
  have hp := extract_all_pending p hall rfl
  -- every line is accepted, so the whole delivery succeeds, and its first part does
  rcases deliver_texts_cases hw (packet_lines p) c with ⟨-, hok, hsent, -⟩ | ⟨⟨t, ht, hbad⟩, -⟩
  swap
  · exact absurd (hbad.symm.trans (haccept t ht)) Bool.false_ne_true
  have hok₁ : (deliver_texts w texts c).2 = .OK := by
    rcases deliver_texts_cases hw texts c with ⟨-, hok, -, -⟩ | ⟨⟨t, ht, hbad⟩, -⟩
    · exact hok
    · have hmem : t ∈ packet_lines p := by
        rw [hlines]
        exact List.mem_append_left _ ht
      exact absurd (hbad.symm.trans (haccept t hmem)) Bool.false_ne_true
  have hloop := handle_loraham_chunk_loop_first hw (by simp only [LHKT_LORAHAM_RX_PENDING]; omega)
    hall c hok₁
  have hfirst : first = ((deliver_texts w texts c).1, state, .OK) :=
    hloop _ (by show p.length < 0 + p.length + 1; omega)
  have hflush := handle_loraham_chunk_flush (w := w) state (deliver_texts w texts c).1 hp
  rw [hemit] at hflush
  have hsecond : second = bridge_rx_handle_loraham_chunk w true state []
      (deliver_texts w texts c).1 := by
    show bridge_rx_handle_loraham_chunk w true first.2.1 [] first.1 = _
    rw [hfirst]
  obtain ⟨hret, hc⟩ := hflush
  rw [← hsecond, ← deliver_texts_append w texts text.toList c hok₁, ← hlines] at hret hc
  refine ⟨?_, ?_, hret.trans hok, hc, ?_, ?_, ?_⟩
  · rw [packet_texts_eq hall, hemit, hlines]
    rfl
  · rw [hfirst]
  · rw [hc]
    exact hsent
  · intro rounds hrounds
    rw [hfirst]
    exact hloop rounds hrounds
  · intro rounds hrounds
    obtain ⟨n, rfl⟩ : ∃ n, rounds = n + 1 := ⟨rounds - 1, by omega⟩
    rw [hsecond, hfirst]
    exact handle_loraham_chunk_loop_flush w n hp _

/-- Noise, a line that ends in a part of a header, and a second line after a
complete one. -/
theorem packet_extraction_two_lines :
    let p := ascii "noise" ++ loraham_hdr ++ ascii "A>B:x<" ++ loraham_hdr ++ ascii "C>D:y\n<z"
    packet_lines p = [ascii "A>B:x<", ascii "C>D:y"] ∧
      packet_texts p = .ok [ascii "A>B:x<", ascii "C>D:y"] := by
  intro p
  have hlines : packet_lines p = [ascii "A>B:x<", ascii "C>D:y"] := by decide +kernel
  have h := (packet_extraction_is_reference writesSucceed_default
    (by decide +kernel : p.length ≤ 1020) (by rw [hlines]; decide +kernel)
    (by rw [hlines]; decide +kernel) {}).1
  rw [hlines] at h
  exact ⟨hlines, h⟩

end LorahamKissTnc.RxExtract
