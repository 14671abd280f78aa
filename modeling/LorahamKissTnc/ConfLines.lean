/-
The CONF line reader is line splitting: what `bridge_conf_feed` hands to
`bridge_conf_handle_line` are the newline-terminated lines of the stream with
every CR removed, less the lines that do not fit its buffer.

The reader's state is compared with the line as it really stands so far, which
the buffer no longer holds once the line is too long. `Reading L state` says what
the two have to do with each other: up to `LHKT_CONF_LINE_MAX - 1` bytes the
buffer is the line, beyond that it is empty and the reader discards. A CR leaves
`L` alone, a newline ends it and any other byte grows it, so chunk boundaries,
CRs and overlong lines never meet in one case.
-/
import LorahamKissTnc.BridgeConf

set_option autoImplicit false

open LorahamKissTnc.Lib.CString LorahamKissTnc.Lib.Machine
open LorahamKissTnc.BridgeConf

namespace LorahamKissTnc.ConfLines

/-! ## The reference -/

/-- The terminated lines of a text that fit the buffer; what stands behind the
last newline is no line. -/
def fitting_lines (text : Bytes) : List Bytes :=
  (text.splitOn (ch '\n')).dropLast.filter fun l => l.length ≤ LHKT_CONF_LINE_MAX - 1

/-- The lines of a CONF stream. -/
def conf_lines (stream : Bytes) : List Bytes := fitting_lines (stream.filter (· ≠ ch '\r'))

/-- Text without a newline holds no terminated line. -/
theorem fitting_lines_unterminated {text : Bytes} (h : ch '\n' ∉ text) :
    fitting_lines text = [] := by
  rw [fitting_lines, List.splitOn_eq_singleton h]
  rfl

/-- A newline ends the line before it, which counts when it fits. -/
theorem fitting_lines_newline {L : Bytes} (text : Bytes) (h : ch '\n' ∉ L) :
    fitting_lines (L ++ ch '\n' :: text)
      = (if L.length ≤ LHKT_CONF_LINE_MAX - 1 then [L] else []) ++ fitting_lines text := by
  have hne : text.splitOn (ch '\n') ≠ [] := List.splitOn_ne_nil _ _
  rw [fitting_lines, List.splitOn_append_cons_self_of_not_mem h, List.dropLast_cons_of_ne_nil hne,
    List.filter_cons]
  by_cases hfit : L.length ≤ LHKT_CONF_LINE_MAX - 1
  · rw [if_pos (decide_eq_true hfit), if_pos hfit]
    rfl
  · rw [if_neg (by simpa using hfit), if_neg hfit]
    rfl

/-! ## One byte -/

/-- The reader's state in the middle of the line `L`. -/
def Reading (L : Bytes) (state : bridge_conf_state_t) : Prop :=
  if L.length ≤ LHKT_CONF_LINE_MAX - 1 then state.discard = false ∧ state.line = L
  else state.discard = true ∧ state.line = []

theorem reading_init : Reading [] bridge_conf_state_init := ⟨rfl, rfl⟩

theorem Reading.of_fits {L : Bytes} {state : bridge_conf_state_t} (h : Reading L state)
    (hL : L.length ≤ LHKT_CONF_LINE_MAX - 1) : state.discard = false ∧ state.line = L := by
  rwa [Reading, if_pos hL] at h

theorem Reading.of_overlong {L : Bytes} {state : bridge_conf_state_t} (h : Reading L state)
    (hL : ¬ L.length ≤ LHKT_CONF_LINE_MAX - 1) : state.discard = true ∧ state.line = [] := by
  rwa [Reading, if_neg hL] at h

/-- The buffer never fills up: the terminator always has room. -/
theorem Reading.length_line_le {L : Bytes} {state : bridge_conf_state_t} (h : Reading L state) :
    state.line.length ≤ LHKT_CONF_LINE_MAX - 1 := by
  by_cases hL : L.length ≤ LHKT_CONF_LINE_MAX - 1
  · rw [(h.of_fits hL).2]
    exact hL
  · rw [(h.of_overlong hL).2]
    exact Nat.zero_le _

theorem feed_byte_cr (state : bridge_conf_state_t) :
    bridge_conf_feed_byte state (ch '\r') = (state, none) := if_pos rfl

/-- Handling a line does not write the discard flag. -/
theorem handle_line_discard (state : bridge_conf_state_t) (l : Bytes) :
    (bridge_conf_handle_line state l).discard = state.discard := by
  unfold bridge_conf_handle_line
  split
  · rfl
  · split
    · rfl
    · split
      · rfl
      · split <;> rfl

/-- A newline hands over the line when it fits and starts the next one. -/
theorem feed_byte_newline {L : Bytes} {state : bridge_conf_state_t} (h : Reading L state)
    (hnul : 0 ∉ L) :
    Reading [] (bridge_conf_feed_byte state (ch '\n')).1 ∧
      (bridge_conf_feed_byte state (ch '\n')).2.toList
        = if L.length ≤ LHKT_CONF_LINE_MAX - 1 then [L] else [] := by
  have hcr : ¬ ch '\n' = ch '\r' := by decide
  unfold bridge_conf_feed_byte
  rw [if_neg hcr, if_pos rfl]
  by_cases hL : L.length ≤ LHKT_CONF_LINE_MAX - 1
  · obtain ⟨hdiscard, hline⟩ := h.of_fits hL
    rw [hdiscard, hline, cstr_eq_self hnul, if_neg Bool.false_ne_true, if_pos hL]
    exact ⟨⟨(handle_line_discard state L).trans hdiscard, rfl⟩, rfl⟩
  · obtain ⟨hdiscard, -⟩ := h.of_overlong hL
    rw [hdiscard, if_pos rfl, if_neg hL]
    exact ⟨⟨rfl, rfl⟩, rfl⟩

/-- Any other byte belongs to the line; the one that would take the terminator's
place is where the line turns out to be too long. -/
theorem feed_byte_text {L : Bytes} {state : bridge_conf_state_t} {c : UInt8}
    (h : Reading L state) (hcr : ¬ c = ch '\r') (hlf : ¬ c = ch '\n') :
    Reading (L ++ [c]) (bridge_conf_feed_byte state c).1 ∧
      (bridge_conf_feed_byte state c).2 = none := by
  have hlen : (L ++ [c]).length = L.length + 1 := by simp
  unfold bridge_conf_feed_byte
  rw [if_neg hcr, if_neg hlf, Reading, hlen]
  by_cases hL : L.length ≤ LHKT_CONF_LINE_MAX - 1
  · obtain ⟨hdiscard, hline⟩ := h.of_fits hL
    rw [hdiscard, hline, if_neg Bool.false_ne_true]
    by_cases hfull : LHKT_CONF_LINE_MAX ≤ L.length + 1
    · rw [if_pos hfull, if_neg (by omega)]
      exact ⟨⟨rfl, rfl⟩, rfl⟩
    · rw [if_neg hfull, if_pos (by omega)]
      exact ⟨⟨rfl, rfl⟩, rfl⟩
  · obtain ⟨hdiscard, hline⟩ := h.of_overlong hL
    rw [hdiscard, if_pos rfl, if_neg (by omega)]
    exact ⟨⟨hdiscard, hline⟩, rfl⟩

/-! ## A stream -/

theorem bridge_conf_feed_cons (state : bridge_conf_state_t) (c : UInt8) (buf : Bytes) :
    bridge_conf_feed state (c :: buf)
      = ((bridge_conf_feed (bridge_conf_feed_byte state c).1 buf).1,
          (bridge_conf_feed_byte state c).2.toList
            ++ (bridge_conf_feed (bridge_conf_feed_byte state c).1 buf).2) := by
  unfold bridge_conf_feed
  rw [scan_cons]
  cases (bridge_conf_feed_byte state c).2 <;> rfl

/-- What one chunk hands over, from the middle of the line `L`. The induction is
on the chunk, and `L` is the part of the current line read so far. -/
theorem bridge_conf_feed_lines (buf : Bytes) : ∀ (L : Bytes) (state : bridge_conf_state_t),
    Reading L state → ch '\n' ∉ L → 0 ∉ L → 0 ∉ buf →
    (bridge_conf_feed state buf).2 = fitting_lines (L ++ buf.filter (· ≠ ch '\r')) ∧
      ∃ L', Reading L' (bridge_conf_feed state buf).1 := by
  induction buf with
  | nil =>
      intro L state h hlf _ _
      rw [List.filter_nil, List.append_nil, fitting_lines_unterminated hlf]
      exact ⟨rfl, L, h⟩
  | cons c buf ih =>
      intro L state h hlf hnul hcbuf
      obtain ⟨hc, hbuf⟩ := not_or.mp fun h => hcbuf (List.mem_cons.mpr h)
      rw [bridge_conf_feed_cons]
      by_cases hcr : c = ch '\r'
      · subst hcr
        -- a carriage return is skipped, also by the reference
        rw [feed_byte_cr, List.filter_cons_of_neg (by simp)]
        exact ih L state h hlf hnul hbuf
      · rw [List.filter_cons_of_pos (by simpa using hcr)]
        by_cases hnl : c = ch '\n'
        · subst hnl
          -- the line read so far ends, and an empty one starts
          obtain ⟨hnext, hout⟩ := feed_byte_newline h hnul
          obtain ⟨hrest, hstate⟩ := ih [] _ hnext List.not_mem_nil List.not_mem_nil hbuf
          rw [fitting_lines_newline _ hlf, hout, hrest]
          exact ⟨rfl, hstate⟩
        · obtain ⟨hnext, hout⟩ := feed_byte_text h hcr hnl
          have hlf' : ch '\n' ∉ L ++ [c] := by simpa [hlf] using Ne.symm hnl
          have hnul' : 0 ∉ L ++ [c] := by simpa [hnul] using hc
          obtain ⟨hrest, hstate⟩ := ih (L ++ [c]) _ hnext hlf' hnul' hbuf
          rw [hout, hrest, List.append_assoc]
          exact ⟨rfl, hstate⟩

theorem bridge_conf_feed_append (state : bridge_conf_state_t) (a b : Bytes) :
    bridge_conf_feed state (a ++ b)
      = ((bridge_conf_feed (bridge_conf_feed state a).1 b).1,
          (bridge_conf_feed state a).2 ++ (bridge_conf_feed (bridge_conf_feed state a).1 b).2) := by
  unfold bridge_conf_feed
  rw [scan_append]
  dsimp only
  rw [List.filterMap_append]

/-- Chunk boundaries do not matter. -/
theorem conf_feed_flatten (chunks : List Bytes) (c : conf_t) :
    chunks.foldl conf_t.feed c = c.feed chunks.flatten := by
  induction chunks generalizing c with
  | nil =>
      show c = { c with state := c.state, events := c.events ++ [] }
      rw [List.append_nil]
  | cons buf chunks ih =>
      rw [List.foldl_cons, ih, List.flatten_cons]
      unfold conf_t.feed
      rw [bridge_conf_feed_append]
      dsimp only
      rw [List.map_append, List.append_assoc]

/-! ## What the handled lines leave behind -/

/-- The flags and counters of a state, without its line buffer. -/
def flags (state : bridge_conf_state_t) : bridge_conf_state_t :=
  { state with line := [], discard := false }

/-- Handling a line neither reads nor writes the line buffer. -/
theorem flags_handle_line (state : bridge_conf_state_t) (l : Bytes) :
    flags (bridge_conf_handle_line state l) = bridge_conf_handle_line (flags state) l := by
  unfold bridge_conf_handle_line flags
  split
  · rfl
  · split
    · rfl
    · split
      · rfl
      · split <;> rfl

/-- The lines handed over are exactly what the flags have seen. -/
theorem flags_feed (state : bridge_conf_state_t) (buf : Bytes) :
    flags (bridge_conf_feed state buf).1
      = (bridge_conf_feed state buf).2.foldl bridge_conf_handle_line (flags state) := by
  induction buf generalizing state with
  | nil => rfl
  | cons c buf ih =>
      rw [bridge_conf_feed_cons, List.foldl_append, ih]
      congr 1
      rcases bridge_conf_feed_byte_cases state c with ⟨l, hl, hstate⟩ | ⟨hl, line, discard, hstate⟩
      · rw [hl, hstate]
        exact flags_handle_line state l
      · rw [hl, hstate]
        rfl

/-- **The CONF reader is line splitting.** Whatever the chunks, the lines handled
are those of the stream with every CR removed that are terminated and at most
511 bytes long, in order; the flags are what handling these lines makes of the
initial ones; and the buffer always has room for the terminator. -/
theorem conf_reader_splits_lines (c : conf_t) (chunks : List Bytes)
    (hnul : ∀ buf ∈ chunks, 0 ∉ buf) :
    let c' := chunks.foldl conf_t.feed { c with state := bridge_conf_state_init }
    c'.events = c.events ++ (conf_lines chunks.flatten).map .line ∧
      flags c'.state
        = (conf_lines chunks.flatten).foldl bridge_conf_handle_line bridge_conf_state_init ∧
      c'.state.line.length ≤ 511 := by
  intro c'
  have hstream : 0 ∉ chunks.flatten := by
    intro h
    obtain ⟨buf, hbuf, h0⟩ := List.mem_flatten.mp h
    exact hnul buf hbuf h0
  have hfeed : c' = conf_t.feed { c with state := bridge_conf_state_init } chunks.flatten :=
    conf_feed_flatten _ _
  obtain ⟨hlines, L, hread⟩ := bridge_conf_feed_lines chunks.flatten [] bridge_conf_state_init
    reading_init List.not_mem_nil List.not_mem_nil hstream
  have hlines : (bridge_conf_feed bridge_conf_state_init chunks.flatten).2
      = conf_lines chunks.flatten := hlines
  rw [hfeed]
  unfold conf_t.feed
  dsimp only
  refine ⟨by rw [hlines], ?_, hread.length_line_le⟩
  rw [flags_feed, hlines]
  rfl

/-- An event that comes in two chunks with a CR inside it, then an unterminated
line. -/
theorem conf_reader_splits_lines_two_chunks :
    (([ascii "TX\r=1\r", ascii "\nCAD=0"]).foldl conf_t.feed {}).events
      = [.line (ascii "TX=1")] := by
  have h := (conf_reader_splits_lines {} [ascii "TX\r=1\r", ascii "\nCAD=0"] (by decide)).1
  exact h.trans (by decide +kernel)

end LorahamKissTnc.ConfLines
