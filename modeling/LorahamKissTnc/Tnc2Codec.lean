/-
The TNC2 line in both directions, and the lines the parser accepts.

The round trip from a frame is `tnc2_parse_format`. Here it is read for frames
whose callsigns are already in upper case, where nothing but the line ends of the
payload and the marks on destination and source can change; and from a line,
where the first formatting settles everything: parsing and formatting once more
gives the same text.

The second half compares the parser with the grammar of a line,

  SRC '>' DST (',' DIGI)* ':' PAYLOAD

stated on the text alone (`LineText`). The path loop looks for an empty component
after it has cut at a comma, so it sees one in front and one in the middle; the
rest behind the last comma it never looks at, because an empty rest ends the loop.
So the parser accepts the grammar and, besides, every line whose path has a comma
too many at its end (`tnc2_parse_accepts_iff`).
-/
import LorahamKissTnc.Tnc2

set_option autoImplicit false

open LorahamKissTnc.Lib.CString LorahamKissTnc.Lib.Machine
open LorahamKissTnc.Config LorahamKissTnc.Ax25 LorahamKissTnc.Tnc2

namespace LorahamKissTnc.Tnc2Codec

/-! ## Upper case -/

/-- A callsign in capital letters and digits. -/
def Upper (addr : ax25_addr_t) : Prop :=
  ∀ c ∈ addr.call, isupper c = true ∨ isdigit c = true

/-- A frame all of whose callsigns are in upper case. -/
structure UpperFrame (frame : ax25_frame_t) : Prop where
  dst : Upper frame.dst
  src : Upper frame.src
  path : ∀ addr ∈ frame.path, Upper addr

theorem toupper_upper (c : UInt8) : isupper c = true ∨ isdigit c = true → toupper c = c := by
  revert c
  exact forall_byte (by decide +kernel)

theorem upper_toupper (c : UInt8) :
    isalnum c = true → isupper (toupper c) = true ∨ isdigit (toupper c) = true := by
  revert c
  exact forall_byte (by decide +kernel)

theorem Upper.call_eq {addr : ax25_addr_t} (h : Upper addr) : addr.call.map toupper = addr.call := by
  have hid : addr.call.map toupper = addr.call.map id := by
    apply List.map_congr_left
    intro c hc
    exact toupper_upper c (h c hc)
  rw [hid, List.map_id]

/-- The parser writes callsigns in upper case. -/
theorem checked_addr_parse_upper (text : Bytes) :
    Checked (fun addr => addr.Valid ∧ Upper addr) (ax25_addr_parse text) := by
  have hchecked := checked_addr_parse text
  cases hparse : ax25_addr_parse text with
  | error ret =>
      rw [hparse] at hchecked
      exact hchecked
  | ok addr =>
      rw [hparse] at hchecked
      refine ⟨hchecked, ?_⟩
      obtain ⟨call, ssid, star, htext, rfl⟩ := ax25_addr_parse_ok hparse
      intro c hc
      obtain ⟨b, hb, rfl⟩ := List.mem_map.mp hc
      exact upper_toupper b (htext.call_alnum b hb)

/-- What every accepted line gives: a valid frame in upper case, without NUL. -/
theorem tnc2_parse_line_ok {line : Bytes} {frame : ax25_frame_t}
    (h : tnc2_parse_line line = .ok frame) :
    frame.Valid ∧ UpperFrame frame ∧ 0 ∉ frame.payload := by
  have hchecked := checked_parse_line_of checked_addr_parse_upper
    (fun _ ha => ⟨plain_addr_valid ha.1, ha.2⟩) line
  rw [h] at hchecked
  obtain ⟨⟨hdst, hsrc, hpath⟩, hlen, hpay, h0⟩ := hchecked
  exact ⟨⟨hdst.1, hsrc.1, fun a ha => (hpath a ha).1, hlen, hpay⟩,
    ⟨hdst.2, hsrc.2, fun a ha => (hpath a ha).2⟩, h0⟩

/-! ## The round trips -/

/-- What a frame in upper case is after a trip through the text: without marks on
destination and source, and with the payload on one line. -/
theorem normalized_upper {frame : ax25_frame_t} (h : UpperFrame frame) :
    normalized frame = { frame.plain with payload := oneline frame.payload } := by
  have hpath : frame.path.map (fun a => (⟨a.call.map toupper, a.ssid, a.repeated⟩ : ax25_addr_t))
      = frame.path.map id := by
    apply List.map_congr_left
    intro a ha
    rw [(h.path a ha).call_eq]
    rfl
  rw [normalized, h.dst.call_eq, h.src.call_eq, hpath, List.map_id]
  rfl

theorem oneline_oneline (payload : Bytes) : oneline (oneline payload) = oneline payload := by
  rw [oneline, oneline, List.map_map]
  apply List.map_congr_left
  intro b _
  by_cases hb : b = ch '\n' ∨ b = ch '\r'
  · rw [Function.comp_apply, if_pos hb]
    decide
  · rw [Function.comp_apply, if_neg hb, if_neg hb]

/-- The text does not show what `normalized` drops of a frame in upper case. -/
theorem tnc2_text_normalized {frame : ax25_frame_t} (h : UpperFrame frame) :
    tnc2_text (normalized frame) = tnc2_text frame := by
  rw [normalized_upper h]
  simp only [tnc2_text, ax25_frame_t.plain, station_text, oneline_oneline]

/-- **Line round trips.** Every frame within the limits whose callsigns are in
upper case and whose payload has no NUL is formatted and parsed to itself, with
CR and LF of the payload replaced by spaces and no mark on destination and
source. For every accepted line, formatting the frame succeeds, and parsing and
formatting that text gives the text again. -/
theorem tnc2_line_round_trips :
    (∀ frame : ax25_frame_t, frame.Valid → UpperFrame frame → 0 ∉ frame.payload →
      ∃ text, tnc2_format_line frame LHKT_TNC2_MAX_LINE = .ok text ∧
        tnc2_parse_line text = .ok { frame.plain with payload := oneline frame.payload }) ∧
    (∀ (line : Bytes) (frame : ax25_frame_t), tnc2_parse_line line = .ok frame →
      ∃ text frame', tnc2_format_line frame LHKT_TNC2_MAX_LINE = .ok text ∧
        tnc2_parse_line text = .ok frame' ∧
        tnc2_format_line frame' LHKT_TNC2_MAX_LINE = .ok text) := by
  constructor
  · intro frame hv hupper h0
    refine ⟨tnc2_text frame, ?_, ?_⟩
    · rw [tnc2_format_line_valid hv, if_neg h0]
    · rw [tnc2_parse_format hv h0, normalized_upper hupper]
  · intro line frame h
    obtain ⟨hv, hupper, h0⟩ := tnc2_parse_line_ok h
    have hagain := tnc2_parse_format hv h0
    obtain ⟨hv', -, h0'⟩ := tnc2_parse_line_ok hagain
    refine ⟨tnc2_text frame, normalized frame, ?_, hagain, ?_⟩
    · rw [tnc2_format_line_valid hv, if_neg h0]
    · rw [tnc2_format_line_valid hv', if_neg h0', tnc2_text_normalized hupper]

/-- A line in small letters with a leading zero in the SSID, marks on all three
addresses, separators in the payload and a line end. -/
def untidy_line : Bytes := ascii "dj0che-07*>aprs*,Wide1-1*::DC2EH>x,y:hello\r\n"

/-- The frame it is. -/
def tidy_frame : ax25_frame_t :=
  ⟨⟨ascii "APRS", 0, false⟩, ⟨ascii "DJ0CHE", 7, false⟩, [⟨ascii "WIDE1", 1, true⟩],
    ascii ":DC2EH>x,y:hello"⟩

/-- The untidy line is accepted; its frame makes both trips. -/
theorem tnc2_line_round_trips_untidy :
    tnc2_parse_line untidy_line = .ok tidy_frame ∧
      (∃ text, tnc2_format_line tidy_frame LHKT_TNC2_MAX_LINE = .ok text ∧
        tnc2_parse_line text
          = .ok { tidy_frame.plain with payload := oneline tidy_frame.payload }) ∧
      ∃ text frame', tnc2_format_line tidy_frame LHKT_TNC2_MAX_LINE = .ok text ∧
        tnc2_parse_line text = .ok frame' ∧
        tnc2_format_line frame' LHKT_TNC2_MAX_LINE = .ok text := by
  have hparse : tnc2_parse_line untidy_line = .ok tidy_frame := by decide +kernel
  obtain ⟨hv, hupper, h0⟩ := tnc2_parse_line_ok hparse
  refine ⟨hparse, ?_, ?_⟩
  · exact tnc2_line_round_trips.1 tidy_frame hv hupper h0
  · exact tnc2_line_round_trips.2 untidy_line tidy_frame hparse

/-! ## The grammar of a line -/

/-- A text that is an address. -/
def IsAddr (text : Bytes) : Prop := ∃ call ssid star, AddrText text call ssid star

/-- A comma in front of every component. -/
def commas (digis : List Bytes) : Bytes := digis.flatMap fun digi => ch ',' :: digi

/-- The line `SRC>DST,DIGI,...:PAYLOAD`, cut at the first `>` and the first `:`
behind it, with `behind` between the last component and the colon. -/
structure LineText (line src dst : Bytes) (digis : List Bytes) (behind payload : Bytes) : Prop where
  line_eq : line = src ++ ch '>' :: (dst ++ commas digis ++ behind ++ ch ':' :: payload)
  first_gt : ch '>' ∉ src
  first_colon : ch ':' ∉ dst ++ commas digis ++ behind
  digis_le : digis.length ≤ LHKT_AX25_MAX_REPEATERS
  payload_le : payload.length ≤ LHKT_AX25_MAX_PAYLOAD
  src_addr : IsAddr src
  dst_addr : IsAddr dst
  digis_addr : ∀ digi ∈ digis, IsAddr digi

/-- The grammar: nothing between the last component and the colon. -/
def IsLine (line : Bytes) : Prop :=
  ∃ src dst digis payload, LineText line src dst digis [] payload

/-- A line of the grammar with a path, but for a comma behind its last component. -/
def TrailingComma (line : Bytes) : Prop :=
  ∃ src dst digis payload, digis ≠ [] ∧ LineText line src dst digis [ch ','] payload

theorem addr_parse_accepts_iff {text : Bytes} :
    (∃ addr, ax25_addr_parse text = .ok addr) ↔ IsAddr text := by
  constructor
  · rintro ⟨addr, h⟩
    obtain ⟨call, ssid, star, htext, -⟩ := ax25_addr_parse_ok h
    exact ⟨call, ssid, star, htext⟩
  · rintro ⟨call, ssid, star, htext⟩
    exact ⟨_, htext.parse⟩

/-- An address text holds address characters only. -/
theorem IsAddr.char {text : Bytes} (h : IsAddr text) {c : UInt8} (hc : c ∈ text) :
    addr_char c = true := by
  obtain ⟨call, ssid, star, htext⟩ := h
  rw [htext.text_eq] at hc
  simp only [addr_char, decide_eq_true_eq]
  rcases List.mem_append.mp hc with hc | hc
  · rcases List.mem_append.mp hc with hc | hc
    · exact .inl (htext.call_alnum c hc)
    · cases hs : ssid with
      | none => rw [hs] at hc; exact absurd hc List.not_mem_nil
      | some digits =>
          rw [hs] at hc
          rcases List.mem_cons.mp hc with hc | hc
          · exact .inr (.inl hc)
          · exact .inl (isdigit_isalnum c (htext.ssid_digits digits hs c hc))
  · cases star with
    | true => exact .inr (.inr (List.mem_singleton.mp hc))
    | false => exact absurd hc List.not_mem_nil

theorem IsAddr.notMem {text : Bytes} (h : IsAddr text) {c : UInt8} (hc : addr_char c = false) :
    c ∉ text := by
  intro hm
  rw [h.char hm] at hc
  exact nomatch hc

theorem IsAddr.ne_nil {text : Bytes} (h : IsAddr text) : text ≠ [] := by
  obtain ⟨call, ssid, star, htext⟩ := h
  have hcall : call ≠ [] := List.ne_nil_of_length_pos htext.call_pos
  rw [htext.text_eq]
  simp [hcall]

/-! ## The path loop and the grammar -/

/-- What the path loop accepts: components separated by commas, and at most one
comma behind them. -/
structure PathText (p : Bytes) (digi : Bytes) (digis : List Bytes) (behind : Bytes) : Prop where
  text_eq : p = digi ++ commas digis ++ behind
  behind_eq : behind = [] ∨ behind = [ch ',']
  digi_addr : IsAddr digi
  digis_addr : ∀ d ∈ digis, IsAddr d

/-- The loop accepts nothing else. Induction over the room in `frame->path`. -/
theorem path_loop_ok (room : Nat) : ∀ (p : Bytes) (path path' : List ax25_addr_t),
    tnc2_parse_path_loop room p path = .ok path' →
      p = [] ∨ ∃ digi digis behind, PathText p digi digis behind ∧ digis.length < room := by
  induction room with
  | zero =>
      intro p path path' h
      rw [tnc2_parse_path_loop] at h
      split at h
      · rename_i hp
        exact .inl hp
      · cases h
  | succ room ih =>
      intro p path path' h
      rw [tnc2_parse_path_loop] at h
      split at h
      · rename_i hp
        exact .inl hp
      right
      split at h
      · rename_i digi rest hcut
        obtain ⟨hp, -⟩ := cut_eq_some_iff.mp hcut
        split at h
        · cases h
        obtain ⟨addr, haddr, h⟩ := bind_eq_ok h
        have hdigi : IsAddr digi := addr_parse_accepts_iff.mp ⟨addr, haddr⟩
        rcases ih rest _ _ h with hrest | ⟨digi', digis, behind, hpath, hlen⟩
        · -- the loop ends behind the comma without looking
          refine ⟨digi, [], [ch ','], ⟨?_, .inr rfl, hdigi, by simp⟩, Nat.succ_pos room⟩
          rw [hp, hrest]
          simp [commas]
        · refine ⟨digi, digi' :: digis, behind, ⟨?_, hpath.behind_eq, hdigi, ?_⟩, ?_⟩
          · rw [hp, hpath.text_eq]
            simp [commas]
          · intro d hd
            rcases List.mem_cons.mp hd with rfl | hd
            · exact hpath.digi_addr
            · exact hpath.digis_addr d hd
          · rw [List.length_cons]
            omega
      · obtain ⟨addr, haddr, -⟩ := bind_eq_ok h
        refine ⟨p, [], [], ⟨?_, .inl rfl, addr_parse_accepts_iff.mp ⟨addr, haddr⟩, by simp⟩,
          Nat.succ_pos room⟩
        simp [commas]

/-- The loop accepts all of these. Induction over the components. -/
theorem path_loop_accepts (digis : List Bytes) :
    ∀ (p digi behind : Bytes) (room : Nat) (path : List ax25_addr_t),
      PathText p digi digis behind → digis.length < room →
      ∃ path', tnc2_parse_path_loop room p path = .ok path' := by
  obtain ⟨-, -, hcomma, -⟩ := separators_not_addr_char
  induction digis with
  | nil =>
      intro p digi behind room path h hroom
      obtain ⟨room, rfl⟩ : ∃ r, room = r + 1 := ⟨room - 1, by omega⟩
      obtain ⟨addr, haddr⟩ := addr_parse_accepts_iff.mpr h.digi_addr
      have hne := h.digi_addr.ne_nil
      have hnot := h.digi_addr.notMem hcomma
      rw [h.text_eq, commas, List.flatMap_nil, List.append_nil, tnc2_parse_path_loop,
        if_neg (by simp [hne])]
      -- the text ends here, or a comma follows and the loop ends before the empty component
      rcases h.behind_eq with hb | hb
      · rw [hb, List.append_nil, cut_eq_none_iff.mpr hnot]
        simp only [haddr, bind, Except.bind]
        exact ⟨_, rfl⟩
      · rw [hb, cut_append _ hnot]
        simp only [if_neg hne, haddr, bind, Except.bind, tnc2_parse_path_loop_nil]
        exact ⟨_, rfl⟩
  | cons digi' digis ih =>
      intro p digi behind room path h hroom
      rw [List.length_cons] at hroom
      obtain ⟨room, rfl⟩ : ∃ r, room = r + 1 := ⟨room - 1, by omega⟩
      obtain ⟨addr, haddr⟩ := addr_parse_accepts_iff.mpr h.digi_addr
      have hne := h.digi_addr.ne_nil
      have hsplit : p = digi ++ ch ',' :: (digi' ++ commas digis ++ behind) := by
        rw [h.text_eq]
        simp [commas]
      have hrest : PathText (digi' ++ commas digis ++ behind) digi' digis behind :=
        ⟨rfl, h.behind_eq, h.digis_addr digi' List.mem_cons_self,
          fun d hd => h.digis_addr d (List.mem_cons_of_mem digi' hd)⟩
      obtain ⟨path', hpath'⟩ := ih _ digi' behind room (path ++ [addr]) hrest (by omega)
      rw [hsplit, tnc2_parse_path_loop, if_neg (by simp), cut_append _ (h.digi_addr.notMem hcomma)]
      simp only [if_neg hne, haddr, bind, Except.bind]
      exact ⟨path', hpath'⟩

/-- What `tnc2_parse_path` accepts: a destination, at most eight digipeaters, and
a comma behind the last of them. -/
structure AddrPart (part dst : Bytes) (digis : List Bytes) (behind : Bytes) : Prop where
  text_eq : part = dst ++ commas digis ++ behind
  dst_addr : IsAddr dst
  digis_addr : ∀ d ∈ digis, IsAddr d
  digis_le : digis.length ≤ LHKT_AX25_MAX_REPEATERS
  behind_eq : behind = [] ∨ behind = [ch ','] ∧ digis ≠ []

/-- Nothing else is accepted. -/
theorem parse_path_ok {part : Bytes} {r : ax25_addr_t × List ax25_addr_t}
    (h : tnc2_parse_path part = .ok r) : ∃ dst digis behind, AddrPart part dst digis behind := by
  unfold tnc2_parse_path at h
  split at h
  · exact nomatch h
  split at h
  · -- there is a comma: the path loop runs on what is behind it
    rename_i dst rest hcut
    obtain ⟨hp, -⟩ := cut_eq_some_iff.mp hcut
    obtain ⟨addr, haddr, h⟩ := bind_eq_ok h
    split at h
    · exact nomatch h
    rename_i hne
    obtain ⟨path, hpath, -⟩ := bind_eq_ok h
    rcases path_loop_ok _ _ _ _ hpath with hnil | ⟨digi, digis, behind, htext, hlen⟩
    · exact absurd hnil hne
    refine ⟨dst, digi :: digis, behind, ?_, addr_parse_accepts_iff.mp ⟨addr, haddr⟩, ?_, hlen, ?_⟩
    · rw [hp, htext.text_eq]
      simp [commas]
    · intro d hd
      rcases List.mem_cons.mp hd with rfl | hd
      · exact htext.digi_addr
      · exact htext.digis_addr d hd
    · rcases htext.behind_eq with hb | hb
      · exact .inl hb
      · exact .inr ⟨hb, List.cons_ne_nil _ _⟩
  · obtain ⟨addr, haddr, -⟩ := bind_eq_ok h
    exact ⟨part, [], [], by simp [commas], addr_parse_accepts_iff.mp ⟨addr, haddr⟩,
      by simp, Nat.zero_le _, .inl rfl⟩

/-- All of these are accepted. -/
theorem AddrPart.accepted {part dst behind : Bytes} {digis : List Bytes}
    (h : AddrPart part dst digis behind) : ∃ r, tnc2_parse_path part = .ok r := by
  obtain ⟨-, -, hcomma, -⟩ := separators_not_addr_char
  obtain ⟨addr, haddr⟩ := addr_parse_accepts_iff.mpr h.dst_addr
  have hnot := h.dst_addr.notMem hcomma
  unfold tnc2_parse_path
  rw [h.text_eq, if_neg (by simp [h.dst_addr.ne_nil])]
  cases digis with
  | nil =>
      have hb : behind = [] := by
        rcases h.behind_eq with hb | hb
        · exact hb
        · exact absurd rfl hb.2
      rw [hb, commas, List.flatMap_nil, List.append_nil, List.append_nil,
        cut_eq_none_iff.mpr hnot]
      simp only [haddr, bind, Except.bind]
      exact ⟨_, rfl⟩
  | cons digi digis =>
      have hsplit : dst ++ commas (digi :: digis) ++ behind
          = dst ++ ch ',' :: (digi ++ commas digis ++ behind) := by
        simp [commas]
      have hdigi := h.digis_addr digi List.mem_cons_self
      have hrest : PathText (digi ++ commas digis ++ behind) digi digis behind :=
        ⟨rfl, h.behind_eq.imp_right fun hb => hb.1, hdigi,
          fun d hd => h.digis_addr d (List.mem_cons_of_mem digi hd)⟩
      obtain ⟨path, hpath⟩ := path_loop_accepts digis _ digi behind LHKT_AX25_MAX_REPEATERS []
        hrest h.digis_le
      rw [hsplit, cut_append _ hnot]
      simp only [haddr, bind, Except.bind, hpath]
      rw [if_neg (by simp [hdigi.ne_nil])]
      exact ⟨_, rfl⟩

/-! ## The line and the grammar -/

/-- A line of the grammar, but for a comma the parser does not see. -/
def Accepted (text : Bytes) : Prop :=
  ∃ src dst digis behind payload, LineText text src dst digis behind payload ∧
    (behind = [] ∨ behind = [ch ','] ∧ digis ≠ [])

theorem accepted_iff {text : Bytes} : Accepted text ↔ IsLine text ∨ TrailingComma text := by
  constructor
  · rintro ⟨src, dst, digis, behind, payload, hline, rfl | ⟨rfl, hne⟩⟩
    · exact .inl ⟨src, dst, digis, payload, hline⟩
    · exact .inr ⟨src, dst, digis, payload, hne, hline⟩
  · rintro (⟨src, dst, digis, payload, hline⟩ | ⟨src, dst, digis, payload, hne, hline⟩)
    · exact ⟨src, dst, digis, [], payload, hline, .inl rfl⟩
    · exact ⟨src, dst, digis, [ch ','], payload, hline, .inr ⟨rfl, hne⟩⟩

/-- Every accepted line is such a line. -/
theorem parse_line_accepted {line : Bytes} (h0 : 0 ∉ line) {frame : ax25_frame_t}
    (h : tnc2_parse_line line = .ok frame) : Accepted (tnc2_strip_eol line) := by
  unfold tnc2_parse_line at h
  dsimp only at h
  rw [cstr_eq_self h0] at h
  split at h
  · exact nomatch h
  split at h
  · exact nomatch h
  rename_i src rest hcut
  obtain ⟨htext, hfirst⟩ := cut_eq_some_iff.mp hcut
  split at h
  · exact nomatch h
  split at h
  · exact nomatch h
  rename_i addr_part payload hcut
  obtain ⟨hrest, hfirst'⟩ := cut_eq_some_iff.mp hcut
  split at h
  · exact nomatch h
  rename_i hpay
  obtain ⟨addr, haddr, h⟩ := bind_eq_ok h
  obtain ⟨r, hr, -⟩ := bind_eq_ok h
  obtain ⟨dst, digis, behind, hpart⟩ := parse_path_ok hr
  refine ⟨src, dst, digis, behind, payload, ⟨?_, hfirst, ?_, hpart.digis_le, ?_, ?_,
    hpart.dst_addr, hpart.digis_addr⟩, hpart.behind_eq⟩
  · rw [htext, hrest, hpart.text_eq]
  · rw [← hpart.text_eq]
    exact hfirst'
  · exact Nat.le_of_not_lt hpay
  · exact addr_parse_accepts_iff.mp ⟨addr, haddr⟩

/-- Every such line is accepted, if it fits into the buffer. -/
theorem Accepted.parse_line {line : Bytes} (h0 : 0 ∉ line)
    (hlen : line.length < LHKT_TNC2_MAX_LINE) (h : Accepted (tnc2_strip_eol line)) :
    ∃ frame, tnc2_parse_line line = .ok frame := by
  obtain ⟨src, dst, digis, behind, payload, hline, hbehind⟩ := h
  have hpart : AddrPart (dst ++ commas digis ++ behind) dst digis behind :=
    ⟨rfl, hline.dst_addr, hline.digis_addr, hline.digis_le, hbehind⟩
  obtain ⟨addr, haddr⟩ := addr_parse_accepts_iff.mpr hline.src_addr
  obtain ⟨r, hr⟩ := hpart.accepted
  unfold tnc2_parse_line
  dsimp only
  rw [cstr_eq_self h0, if_neg (by omega), hline.line_eq, cut_append _ hline.first_gt]
  dsimp only
  rw [if_neg hline.src_addr.ne_nil, cut_append _ hline.first_colon]
  dsimp only
  rw [if_neg (Nat.not_lt.mpr hline.payload_le), haddr, hr]
  exact ⟨_, rfl⟩

/-- **What the parser accepts**: the lines of the grammar, and those with a comma
behind the path. -/
theorem tnc2_parse_accepts_iff {line : Bytes} (h0 : 0 ∉ line)
    (hlen : line.length < LHKT_TNC2_MAX_LINE) :
    (∃ frame, tnc2_parse_line line = .ok frame) ↔
      IsLine (tnc2_strip_eol line) ∨ TrailingComma (tnc2_strip_eol line) := by
  rw [← accepted_iff]
  constructor
  · rintro ⟨frame, h⟩
    exact parse_line_accepted h0 h
  · exact Accepted.parse_line h0 hlen

/-- The comma too many is not in the grammar: the text in front of the colon ends
in an address character there. -/
theorem not_isLine_of_trailingComma {line : Bytes} (h : TrailingComma line) : ¬IsLine line := by
  obtain ⟨-, -, hcomma, -⟩ := separators_not_addr_char
  rintro ⟨src, dst, digis, payload, hline⟩
  obtain ⟨src', dst', digis', payload', -, htrail⟩ := h
  -- both readings cut the line at the same places
  have hgt : src ++ ch '>' :: (dst ++ commas digis ++ [] ++ ch ':' :: payload)
      = src' ++ ch '>' :: (dst' ++ commas digis' ++ [ch ','] ++ ch ':' :: payload') := by
    rw [← hline.line_eq, ← htrail.line_eq]
  have hcut := cut_append (dst ++ commas digis ++ [] ++ ch ':' :: payload) hline.first_gt
  rw [hgt, cut_append _ htrail.first_gt] at hcut
  obtain ⟨-, hrest⟩ := Prod.mk.inj (Option.some.inj hcut)
  have hcut := cut_append payload hline.first_colon
  rw [← hrest, cut_append _ htrail.first_colon] at hcut
  obtain ⟨hpart, -⟩ := Prod.mk.inj (Option.some.inj hcut)
  -- and the last character of the part between them is a comma, or it is not
  rw [List.append_nil] at hpart
  have hlast : (dst ++ commas digis).getLast? = some (ch ',') := by
    rw [← hpart]
    simp
  rcases List.eq_nil_or_concat digis with rfl | ⟨digis, digi, rfl⟩
  · rw [commas, List.flatMap_nil, List.append_nil] at hlast
    exact hline.dst_addr.notMem hcomma (List.mem_of_getLast? hlast)
  · have hdigi := hline.digis_addr digi (by simp)
    have hsplit : dst ++ commas (digis ++ [digi]) = dst ++ commas digis ++ [ch ','] ++ digi := by
      simp [commas]
    rw [List.concat_eq_append] at hlast
    rw [hsplit, List.getLast?_append_of_ne_nil _ hdigi.ne_nil] at hlast
    exact hdigi.notMem hcomma (List.mem_of_getLast? hlast)

/-- **The parser and the grammar agree on a line exactly when it is not a line of
the grammar with a comma behind its path.** -/
theorem tnc2_parse_is_grammar_iff {line : Bytes} (h0 : 0 ∉ line) (hlen : line.length ≤ 511) :
    ((∃ frame, tnc2_parse_line line = .ok frame) ↔ IsLine (tnc2_strip_eol line)) ↔
      ¬TrailingComma (tnc2_strip_eol line) := by
  rw [tnc2_parse_accepts_iff h0 (by simp only [LHKT_TNC2_MAX_LINE]; omega)]
  constructor
  · intro h htrail
    exact not_isLine_of_trailingComma htrail (h.mp (.inr htrail))
  · intro hnot
    constructor
    · rintro (h | h)
      · exact h
      · exact absurd h hnot
    · exact .inl

/-- A line whose path ends in a comma. -/
def comma_line : Bytes := ascii "DJ0CHE-10>APRS,WIDE1-1,:payload"

theorem trailingComma_comma_line : TrailingComma (tnc2_strip_eol comma_line) := by
  refine ⟨ascii "DJ0CHE-10", ascii "APRS", [ascii "WIDE1-1"], ascii "payload", by simp,
    ⟨by decide +kernel, by decide +kernel, by decide +kernel, by decide, by decide, ?_, ?_, ?_⟩⟩
  · exact addr_parse_accepts_iff.mp ⟨⟨ascii "DJ0CHE", 10, false⟩, by decide +kernel⟩
  · exact addr_parse_accepts_iff.mp ⟨⟨ascii "APRS", 0, false⟩, by decide +kernel⟩
  · intro digi hdigi
    obtain rfl := List.mem_singleton.mp hdigi
    exact addr_parse_accepts_iff.mp ⟨⟨ascii "WIDE1", 1, false⟩, by decide +kernel⟩

/-- It is accepted, and it is not a line of the grammar. -/
theorem comma_line_accepted :
    0 ∉ comma_line ∧ comma_line.length ≤ 511 ∧
      tnc2_parse_line comma_line = .ok ⟨⟨ascii "APRS", 0, false⟩, ⟨ascii "DJ0CHE", 10, false⟩,
        [⟨ascii "WIDE1", 1, false⟩], ascii "payload"⟩ ∧
      ¬IsLine (tnc2_strip_eol comma_line) :=
  ⟨by decide +kernel, by decide, by decide +kernel,
    not_isLine_of_trailingComma trailingComma_comma_line⟩

/-- The same line without the comma: parser and grammar agree on it exactly when
it has no comma behind its path. -/
theorem tnc2_parse_is_grammar_plain_line :
    let line := ascii "DJ0CHE-10>APRS,WIDE1-1:payload"
    ((∃ frame, tnc2_parse_line line = .ok frame) ↔ IsLine (tnc2_strip_eol line)) ↔
      ¬TrailingComma (tnc2_strip_eol line) :=
  tnc2_parse_is_grammar_iff (by decide +kernel) (by decide)

end LorahamKissTnc.Tnc2Codec
