/-
`rflog.c`, the text of a record: one line for each packet heard or sent.

A record is put together in a buffer of fixed size by a position that moves on by
the length of each part, whether or not the part fitted, and the two loops over
the packet stop short of the end with margins of their own. `Tracks` follows
the buffer through this: what was written is the record itself, or the position
is at the end and what was written agrees with the record up to the last two
bytes, which are overwritten anyway. So the result is the record when it fits,
and otherwise its first bytes and a newline (`rflog_append_tail_eq`).

The record can be taken apart again from its end, where neither the packet nor
the texts in front can imitate a separator (`rflog_split_record`).
-/
import LorahamKissTnc.Lib.Buffer

set_option autoImplicit false

open LorahamKissTnc.Lib.CString LorahamKissTnc.Lib.Buffer

namespace LorahamKissTnc.RfLog

/-! ## The parts of a record -/

/-- A byte in a quoted field: quote and backslash would break the quoting. -/
def rflog_char (c : UInt8) : UInt8 :=
  if 0x20 ≤ c ∧ c < 0x7f ∧ c ≠ ch '"' ∧ c ≠ ch '\\' then c else ch '.'

/-- `lhkt_rflog_tnc2_summary` into a buffer of `out_size` bytes. -/
def lhkt_rflog_tnc2_summary (packet : Bytes) (out_size : Nat) : Option Bytes :=
  if out_size = 0 then none
  else if packet.length < 3 ∨ packet.getD 0 0 ≠ 0x3c ∨ packet.getD 1 0 ≠ 0xff ∨
      packet.getD 2 0 ≠ 0x01 then none
  else
    let n := packet.length - 3
    let n := if out_size ≤ n then out_size - 1 else n
    some (((packet.drop 3).take n).map rflog_char)

/-- `static const char digits[]`. -/
def digits : Bytes := ascii "0123456789abcdef"

/-- A byte as two hexadecimal digits. -/
def hex_byte (c : UInt8) : Bytes := [digits.getD (c >>> 4).toNat 0, digits.getD (c &&& 0x0f).toNat 0]

/-- The size of `tnc2[]`. -/
abbrev TNC2_SIZE : Nat := 260

/-! ## Putting it together -/

/-- `rflog_put`. -/
def rflog_put (out : Bytes) (pos : Nat) (text : Bytes) : Option (Bytes × Nat) :=
  (snprintf out pos (if pos < out.length then out.length - pos else 0) text).map fun r =>
    (r.1, if r.2 < 0 then pos else pos + r.2.toNat)

/-- The two loops over the packet: while there is room behind it, `enc` of the
byte is stored. -/
def rflog_loop (enc : UInt8 → Bytes) : Bytes → Bytes → Nat → Option (Bytes × Nat)
  | [], out, pos => some (out, pos)
  | c :: packet, out, pos =>
      if pos + (enc c).length < out.length then
        (store_list out pos (enc c)).bind fun out =>
          rflog_loop enc packet out (pos + (enc c).length)
      else some (out, pos)

/-- The end of the record: a truncated one still ends in a newline. -/
def rflog_finish (out : Bytes) (pos : Nat) : Option (Bytes × Nat) :=
  if out.length ≤ pos then do
    let out ← store out (out.length - 2) (ch '\n')
    let out ← store out (out.length - 1) 0
    some (out, out.length - 1)
  else do
    let out ← store out pos 0
    some (out, pos)

/-- The summary in front of the packet, when it has one. -/
def rflog_put_tnc2 (out : Bytes) (pos : Nat) (packet : Bytes) : Option (Bytes × Nat) :=
  match lhkt_rflog_tnc2_summary packet TNC2_SIZE with
  | none => some (out, pos)
  | some tnc2 => do
      let (out, pos) ← rflog_put out pos (ascii " tnc2=\"")
      let (out, pos) ← rflog_put out pos tnc2
      rflog_put out pos (ascii "\"")

/-- `rflog_append_tail`. -/
def rflog_append_tail (out : Bytes) (pos : Nat) (packet : Bytes) : Option (Bytes × Nat) := do
  let (out, pos) ← rflog_put_tnc2 out pos packet
  let (out, pos) ← rflog_put out pos (ascii " hex=")
  let (out, pos) ← rflog_loop hex_byte packet out pos
  let (out, pos) ← rflog_put out pos (ascii " ascii=\"")
  let (out, pos) ← rflog_loop (fun c => [rflog_char c]) packet out pos
  let (out, pos) ← rflog_put out pos (ascii "\"\n")
  rflog_finish out pos

/-- The two formats, which differ in the text at the beginning. A text that is
longer than an `int` can say makes `snprintf` fail. -/
def rflog_format (out head packet : Bytes) : Option (Bytes × Nat) :=
  if out.length < 8 then some (out, 0)
  else do
    let (out, n) ← snprintf out 0 out.length head
    if n < 0 then some (out, 0)
    else rflog_append_tail out (if n.toNat < out.length then n.toNat else out.length - 1) packet

/-- `"%s RX rssi=%.2f snr=%.2f len=%zu"`. A number of hundredths divided by 100.0
is nearest to a multiple of 0.01, so two decimals print it exactly. -/
def rx_head (utc : Option Bytes) (rssi_cdbm snr_cdb : Int) (len : Nat) : Bytes :=
  utc.getD (ascii "-") ++ ascii " RX rssi=" ++ fmt_f 2 (rssi_cdbm / 100) ++
    ascii " snr=" ++ fmt_f 2 (snr_cdb / 100) ++ ascii " len=" ++ fmt_u len

/-- `"%s TX rssi=- snr=- len=%zu outcome=%s"`. -/
def tx_head (utc outcome : Option Bytes) (len : Nat) : Bytes :=
  utc.getD (ascii "-") ++ ascii " TX rssi=- snr=- len=" ++ fmt_u len ++
    ascii " outcome=" ++ outcome.getD (ascii "-")

/-- `lhkt_rflog_format_rx`. -/
def lhkt_rflog_format_rx (out : Bytes) (utc : Option Bytes) (rssi_cdbm snr_cdb : Int)
    (packet : Bytes) : Option (Bytes × Nat) :=
  rflog_format out (rx_head utc rssi_cdbm snr_cdb packet.length) packet

/-- `lhkt_rflog_format_tx`. -/
def lhkt_rflog_format_tx (out : Bytes) (utc outcome : Option Bytes) (packet : Bytes) :
    Option (Bytes × Nat) :=
  rflog_format out (tx_head utc outcome packet.length) packet

/-! ## Following the position -/

/-- The text of a record so far is `text`, and the position is `pos`. What was
written is that text, as far as the buffer goes; or the position is at most `slack`
bytes from the end, the text no longer fits, and what was written agrees with it
up to the two bytes at the end. -/
def Tracks (slack : Nat) (out : Bytes) (pos : Nat) (text : Bytes) : Prop :=
  ∃ written, pos = written.length ∧ written.take (out.length - 1) <+: out ∧
    (written = text ∨ out.length ≤ pos + slack ∧ out.length ≤ text.length ∧
      written.take (out.length - 2) = text.take (out.length - 2))

section Tracks

variable {slack pos : Nat} {out text : Bytes}

theorem Tracks.mono {slack' : Nat} (h : Tracks slack out pos text) (hle : slack ≤ slack') :
    Tracks slack' out pos text := by
  obtain ⟨written, hpos, hout, hsame | ⟨hend, hlong, hagree⟩⟩ := h
  · exact ⟨written, hpos, hout, .inl hsame⟩
  · exact ⟨written, hpos, hout, .inr ⟨by omega, hlong, hagree⟩⟩

/-- The writing half of `rflog_put`. -/
theorem rflog_put_extends {written : Bytes} (h : written.take (out.length - 1) <+: out)
    (new : Bytes) (hnew : new.length ≤ INT_MAX) :
    ∃ out', rflog_put out written.length new = some (out', written.length + new.length) ∧
      out'.length = out.length ∧ (written ++ new).take (out.length - 1) <+: out' := by
  have hint : ¬ INT_MAX < new.length := by omega
  have hnonneg : ¬ ((new.length : Nat) : Int) < 0 := by omega
  unfold rflog_put
  by_cases hroom : written.length < out.length
  · rw [List.take_of_length_le (by omega)] at h
    obtain ⟨out', hprint, hlen, hext⟩ := snprintf_extends h hroom new
    refine ⟨out', ?_, hlen, hext⟩
    rw [if_pos hroom, hprint, if_neg hint, Option.map_some]
    dsimp only
    rw [if_neg hnonneg, Int.toNat_natCast]
  · -- nothing is written behind the end
    refine ⟨out, ?_, rfl, ?_⟩
    · rw [if_neg hroom, snprintf, if_pos rfl, if_neg hint, Option.map_some]
      dsimp only
      rw [if_neg hnonneg, Int.toNat_natCast]
    · rwa [List.take_append_of_le_length (by omega)]

/-- **A text is put.** -/
theorem Tracks.put (h : Tracks slack out pos text) (hslack : slack ≤ 2) (new : Bytes)
    (hnew : new.length ≤ INT_MAX) :
    ∃ out' pos', rflog_put out pos new = some (out', pos') ∧ out'.length = out.length ∧
      Tracks (slack - new.length) out' pos' (text ++ new) := by
  obtain ⟨written, rfl, hout, hcase⟩ := h
  obtain ⟨out', hput, hlen, hout'⟩ := rflog_put_extends hout new hnew
  refine ⟨out', _, hput, hlen, written ++ new, ?_, ?_, ?_⟩
  · rw [List.length_append]
  · rwa [hlen]
  · rw [hlen]
    rcases hcase with rfl | ⟨hend, hlong, hagree⟩
    · exact .inl rfl
    · -- the position is behind the end already: what is put changes nothing in front
      refine .inr ⟨by omega, ?_, ?_⟩
      · rw [List.length_append]
        omega
      · rw [List.take_append_of_le_length (by omega), List.take_append_of_le_length (by omega),
          hagree]

/-- **A loop over the packet.** It stops at the last place where a byte fits in
front of the terminator, or behind the last byte. -/
theorem Tracks.loop {enc : UInt8 → Bytes} {width : Nat} (henc : ∀ c, (enc c).length = width)
    (hwidth : 0 < width) (hle : width ≤ 2) (packet : Bytes) :
    ∀ {out : Bytes} {pos : Nat} {text : Bytes}, Tracks slack out pos text → slack ≤ width →
      ∃ out' pos', rflog_loop enc packet out pos = some (out', pos') ∧
        out'.length = out.length ∧ Tracks width out' pos' (text ++ packet.flatMap enc) := by
  induction packet with
  | nil =>
      intro out pos text h hslack
      rw [List.flatMap_nil, List.append_nil]
      exact ⟨out, pos, rfl, rfl, h.mono hslack⟩
  | cons c packet ih =>
      intro out pos text h hslack
      have hc := henc c
      rw [rflog_loop]
      obtain ⟨written, rfl, hout, hcase⟩ := h
      by_cases hroom : written.length + (enc c).length < out.length
      · rw [if_pos hroom]
        -- with room left, nothing has been cut off so far
        have hsame : written = text := by
          rcases hcase with hsame | ⟨hend, -, -⟩
          · exact hsame
          · omega
        subst hsame
        rw [List.take_of_length_le (by omega)] at hout
        obtain ⟨out₁, hstore, hlen₁, hext⟩ := store_list_extends (enc c) hout (by omega)
        have hnext : Tracks slack out₁ (written.length + (enc c).length) (written ++ enc c) := by
          refine ⟨written ++ enc c, List.length_append.symm, ?_, .inl rfl⟩
          exact (List.take_prefix _ _).trans hext
        obtain ⟨out', pos', hloop, hlen, htracks⟩ := ih hnext hslack
        refine ⟨out', pos', ?_, hlen.trans hlen₁, ?_⟩
        · rw [hstore, Option.bind_some, hloop]
        · rwa [List.flatMap_cons, ← List.append_assoc]
      · rw [if_neg hroom]
        refine ⟨out, written.length, rfl, rfl, written, rfl, hout, .inr ⟨by omega, ?_, ?_⟩⟩
        · rw [List.length_append, List.flatMap_cons, List.length_append]
          rcases hcase with rfl | ⟨-, hlong, -⟩
          · omega
          · omega
        · rcases hcase with rfl | ⟨hend, hlong, hagree⟩
          · rw [List.take_append_of_le_length (by omega)]
          · rw [List.take_append_of_le_length (by omega), hagree]

/-- What the buffer ends up with: the record when it fits, and otherwise its first
bytes and a newline. -/
def line_of (size : Nat) (text : Bytes) : Bytes :=
  if text.length < size then text else text.take (size - 2) ++ [ch '\n']

/-- The position is behind the end: the last two bytes become a newline and the
terminator. -/
theorem rflog_finish_cut (hend : out.length ≤ pos) (htext : text <+: out)
    (hlen : text.length + 2 = out.length) :
    ∃ out', rflog_finish out pos = some (out', (text ++ [ch '\n']).length) ∧
      out'.length = out.length ∧ text ++ [ch '\n'] ++ [0] <+: out' := by
  have hnewline := store_extends htext (by omega) (ch '\n')
  have hlen₁ : (text ++ [ch '\n']).length = text.length + 1 := List.length_append
  have hset : (out.set text.length (ch '\n')).length = out.length := List.length_set
  have hnul := store_extends hnewline (by omega) 0
  have hsecond : out.length - 2 = text.length := by omega
  have hlast : out.length - 1 = (text ++ [ch '\n']).length := by omega
  refine ⟨_, ?_, ?_, hnul⟩
  · rw [rflog_finish, if_pos hend, hsecond, store_eq (by omega)]
    simp only [bind, Option.bind_some]
    rw [hset, hlast, store_eq (by omega), Option.bind_some, List.length_set, hset, hlast]
  · rw [List.length_set, hset]

/-- The position is inside: the terminator goes there. -/
theorem rflog_finish_whole (htext : text <+: out) (hlt : text.length < out.length) :
    ∃ out', rflog_finish out text.length = some (out', text.length) ∧
      out'.length = out.length ∧ text ++ [0] <+: out' := by
  refine ⟨_, ?_, List.length_set, store_extends htext hlt 0⟩
  rw [rflog_finish, if_neg (by omega), store_eq hlt]
  rfl

/-- **The end of the record.** -/
theorem Tracks.finish (h : Tracks 0 out pos text) (hsize : 2 ≤ out.length) :
    ∃ out', rflog_finish out pos = some (out', (line_of out.length text).length) ∧
      out'.length = out.length ∧ line_of out.length text ++ [0] <+: out' := by
  obtain ⟨written, rfl, hout, hcase⟩ := h
  unfold line_of
  by_cases hend : out.length ≤ written.length
  · have hlong : out.length ≤ text.length := by
      rcases hcase with rfl | ⟨-, hlong, -⟩
      · exact hend
      · exact hlong
    have hagree : written.take (out.length - 2) = text.take (out.length - 2) := by
      rcases hcase with rfl | ⟨-, -, hagree⟩
      · rfl
      · exact hagree
    have htext : text.take (out.length - 2) <+: out := by
      rw [← hagree]
      exact (List.take_prefix_take_left (by omega)).trans hout
    rw [if_neg (by omega)]
    apply rflog_finish_cut hend htext
    rw [List.length_take]
    omega
  · -- nothing was cut off
    have hsame : written = text := by
      rcases hcase with hsame | ⟨hcut, -, -⟩
      · exact hsame
      · omega
    subst hsame
    rw [List.take_of_length_le (by omega)] at hout
    rw [if_pos (by omega)]
    exact rflog_finish_whole hout (by omega)

end Tracks

/-! ## Records -/

/-- The field with the summary, when the packet has one. -/
def tnc2_field (packet : Bytes) : Bytes :=
  match lhkt_rflog_tnc2_summary packet TNC2_SIZE with
  | none => []
  | some tnc2 => ascii " tnc2=\"" ++ tnc2 ++ ascii "\""

/-- The full record. -/
def record (head packet : Bytes) : Bytes :=
  head ++ tnc2_field packet ++ ascii " hex=" ++ packet.flatMap hex_byte ++ ascii " ascii=\"" ++
    packet.map rflog_char ++ ascii "\"\n"

/-- The TNC2 field fits its buffer with the terminator. -/
theorem length_summary_lt {packet : Bytes} {out_size : Nat} {tnc2 : Bytes}
    (h : lhkt_rflog_tnc2_summary packet out_size = some tnc2) : tnc2.length < out_size := by
  unfold lhkt_rflog_tnc2_summary at h
  split at h
  · exact nomatch h
  · split at h
    · exact nomatch h
    · rw [← Option.some.inj h, List.length_map, List.length_take]
      split <;> omega

section Format

variable {slack pos : Nat} {out text : Bytes}

/-- The TNC2 field is put behind what was written so far. -/
theorem Tracks.put_tnc2 (h : Tracks slack out pos text) (hslack : slack ≤ 2) (packet : Bytes) :
    ∃ out' pos', rflog_put_tnc2 out pos packet = some (out', pos') ∧ out'.length = out.length ∧
      Tracks slack out' pos' (text ++ tnc2_field packet) := by
  unfold rflog_put_tnc2 tnc2_field
  cases htnc2 : lhkt_rflog_tnc2_summary packet TNC2_SIZE with
  | none =>
      rw [List.append_nil]
      exact ⟨out, pos, rfl, rfl, h⟩
  | some tnc2 =>
      have hshort := length_summary_lt htnc2
      simp only [TNC2_SIZE] at hshort
      -- the first put takes up the slack, and the next two have none left
      obtain ⟨out₁, pos₁, hput₁, hlen₁, h₁⟩ := h.put hslack (ascii " tnc2=\"") (by decide)
      obtain ⟨out₂, pos₂, hput₂, hlen₂, h₂⟩ := h₁.put (by omega) tnc2 (by simp only [INT_MAX]; omega)
      obtain ⟨out₃, pos₃, hput₃, hlen₃, h₃⟩ := h₂.put (by omega) (ascii "\"") (by decide)
      have htext : text ++ (ascii " tnc2=\"" ++ tnc2 ++ ascii "\"")
          = text ++ ascii " tnc2=\"" ++ tnc2 ++ ascii "\"" := by
        simp only [List.append_assoc]
      rw [htext]
      have hput : (do
          let (out, pos) ← rflog_put out pos (ascii " tnc2=\"")
          let (out, pos) ← rflog_put out pos tnc2
          rflog_put out pos (ascii "\"")) = some (out₃, pos₃) := by
        simp only [bind, hput₁, hput₂, hput₃, Option.bind_some]
      exact ⟨out₃, pos₃, hput, hlen₃.trans (hlen₂.trans hlen₁), h₃.mono (by omega)⟩

/-- **The tail of a record**, behind a head of which at most the last byte was cut
off. -/
theorem rflog_append_tail_eq {head : Bytes} (h : Tracks 1 out pos head) (hsize : 8 ≤ out.length)
    (packet : Bytes) :
    ∃ out', rflog_append_tail out pos packet
        = some (out', (line_of out.length (record head packet)).length) ∧
      out'.length = out.length ∧ line_of out.length (record head packet) ++ [0] <+: out' := by
  have hhex : ∀ c, (hex_byte c).length = 2 := fun _ => rfl
  have hchar : ∀ c, [rflog_char c].length = 1 := fun _ => rfl
  obtain ⟨out₁, pos₁, hput₁, hlen₁, h₁⟩ := h.put_tnc2 (by omega) packet
  obtain ⟨out₂, pos₂, hput₂, hlen₂, h₂⟩ := h₁.put (by omega) (ascii " hex=") (by decide)
  obtain ⟨out₃, pos₃, hput₃, hlen₃, h₃⟩ := h₂.loop hhex (by omega) (by omega) packet (by omega)
  obtain ⟨out₄, pos₄, hput₄, hlen₄, h₄⟩ := h₃.put (by omega) (ascii " ascii=\"") (by decide)
  -- here the text put last is what makes room for the narrower margin
  have hlabel : (ascii " ascii=\"").length = 8 := by decide
  obtain ⟨out₅, pos₅, hput₅, hlen₅, h₅⟩ := h₄.loop hchar (by omega) (by omega) packet (by omega)
  obtain ⟨out₆, pos₆, hput₆, hlen₆, h₆⟩ := h₅.put (by omega) (ascii "\"\n") (by decide)
  have hlen : out₆.length = out.length := by omega
  have htext : head ++ tnc2_field packet ++ ascii " hex=" ++ packet.flatMap hex_byte ++
      ascii " ascii=\"" ++ packet.flatMap (fun c => [rflog_char c]) ++ ascii "\"\n"
        = record head packet := by
    rw [record, List.map_eq_flatMap]
  rw [htext] at h₆
  obtain ⟨out', hfinish, hlen', hext⟩ := h₆.finish (by omega)
  rw [hlen] at hfinish hlen' hext
  refine ⟨out', ?_, hlen', hext⟩
  unfold rflog_append_tail
  simp only [bind, hput₁, hput₂, hput₃, hput₄, hput₅, hput₆, Option.bind_some, hfinish]

/-- **A record**, whose head can be measured. -/
theorem rflog_format_eq (hsize : 8 ≤ out.length) {head : Bytes} (hhead : head.length ≤ INT_MAX)
    (packet : Bytes) :
    ∃ out', rflog_format out head packet
        = some (out', (line_of out.length (record head packet)).length) ∧
      out'.length = out.length ∧ line_of out.length (record head packet) ++ [0] <+: out' := by
  have hnil : ([] : Bytes) <+: out := List.nil_prefix
  obtain ⟨out₁, hprint, hlen, hext⟩ := snprintf_extends hnil (by simp only [List.length_nil]; omega) head
  rw [List.length_nil, Nat.sub_zero, if_neg (by omega)] at hprint
  have hnonneg : ¬ ((head.length : Nat) : Int) < 0 := by omega
  have htracks : Tracks 1 out₁ (if head.length < out.length then head.length else out.length - 1)
      head := by
    rw [List.nil_append] at hext
    by_cases hfits : head.length < out.length
    · rw [if_pos hfits]
      rw [← hlen] at hext
      exact ⟨head, rfl, hext, .inl rfl⟩
    · -- the position is put back in front of the terminator
      rw [if_neg hfits]
      refine ⟨head.take (out.length - 1), ?_, ?_, .inr ⟨?_, ?_, ?_⟩⟩
      · rw [List.length_take]
        omega
      · rwa [hlen, List.take_take, Nat.min_self]
      · omega
      · omega
      · rw [hlen, List.take_take, Nat.min_eq_left (by omega)]
  obtain ⟨out', htail, hlen', hline⟩ := rflog_append_tail_eq htracks (by omega) packet
  rw [hlen] at htail hlen' hline
  refine ⟨out', ?_, hlen', hline⟩
  unfold rflog_format
  rw [if_neg (by omega)]
  simp only [bind, hprint, Option.bind_some, if_neg hnonneg, Int.toNat_natCast]
  rw [hlen, htail]

/-- A head that is too long for an `int`: no record, and nothing outside. -/
theorem rflog_format_overlong (hsize : 8 ≤ out.length) {head : Bytes}
    (hhead : INT_MAX < head.length) (packet : Bytes) :
    ∃ out', rflog_format out head packet = some (out', 0) ∧ out'.length = out.length := by
  have hnil : ([] : Bytes) <+: out := List.nil_prefix
  obtain ⟨out₁, hprint, hlen, -⟩ := snprintf_extends hnil (by simp only [List.length_nil]; omega) head
  rw [List.length_nil, Nat.sub_zero, if_pos hhead] at hprint
  refine ⟨out₁, ?_, hlen⟩
  unfold rflog_format
  rw [if_neg (by omega)]
  simp only [bind, hprint, Option.bind_some]
  rfl

end Format

/-! ## Lines -/

/-- A text on one line: no newline and no terminator in it. -/
def Plain (text : Bytes) : Prop := ch '\n' ∉ text ∧ 0 ∉ text

instance (text : Bytes) : Decidable (Plain text) := by
  unfold Plain
  infer_instance

/-- The buffer holds one line of `n` bytes: the terminator is behind them, the last
of them is a newline, and neither occurs before. -/
structure Line (out : Bytes) (n : Nat) : Prop where
  pos : 1 ≤ n
  le : n ≤ out.length - 1
  nul : out[n]? = some 0
  newline : out[n - 1]? = some (ch '\n')
  plain : ∀ i < n - 1, out[i]? ≠ some (ch '\n') ∧ out[i]? ≠ some 0

theorem Plain.append {a b : Bytes} (ha : Plain a) (hb : Plain b) : Plain (a ++ b) := by
  constructor
  · rw [List.mem_append]
    exact fun h => h.elim ha.1 hb.1
  · rw [List.mem_append]
    exact fun h => h.elim ha.2 hb.2

/-- A text is plain if each of its characters is. -/
theorem plain_of_forall {text : Bytes} (h : ∀ c ∈ text, c ≠ ch '\n' ∧ c ≠ 0) : Plain text :=
  ⟨fun hm => (h _ hm).1 rfl, fun hm => (h _ hm).2 rfl⟩

/-- A plain text with its newline is one line. -/
theorem line_of_plain {out body : Bytes} (hplain : Plain body)
    (h : body ++ [ch '\n'] ++ [0] <+: out) : Line out (body ++ [ch '\n']).length := by
  have hlen := h.length_le
  have hn : (body ++ [ch '\n']).length = body.length + 1 := List.length_append
  rw [List.length_append, List.length_singleton] at hlen
  obtain ⟨rest, rfl⟩ := h
  refine ⟨by omega, by omega, ?_, ?_, ?_⟩
  · rw [List.append_assoc, List.getElem?_append_right (Nat.le_refl _), Nat.sub_self]
    rfl
  · rw [hn, Nat.add_sub_cancel, List.append_assoc, List.append_assoc,
      List.getElem?_append_right (Nat.le_refl _), Nat.sub_self]
    rfl
  · intro i hi
    rw [List.append_assoc, List.append_assoc, List.getElem?_append_left (by omega)]
    exact ⟨fun hc => hplain.1 (List.mem_of_getElem? hc), fun hc => hplain.2 (List.mem_of_getElem? hc)⟩

/-- A plain text and a newline, cut to size, is one again. -/
theorem line_of_eq {body : Bytes} (hplain : Plain body) (size : Nat) (hsize : 2 ≤ size) :
    ∃ body', Plain body' ∧ line_of size (body ++ [ch '\n']) = body' ++ [ch '\n'] := by
  unfold line_of
  by_cases hfits : (body ++ [ch '\n']).length < size
  · exact ⟨body, hplain, if_pos hfits⟩
  · refine ⟨body.take (size - 2), ?_, ?_⟩
    · exact ⟨fun hm => hplain.1 (List.mem_of_mem_take hm), fun hm => hplain.2 (List.mem_of_mem_take hm)⟩
    · rw [List.length_append, List.length_singleton] at hfits
      rw [if_neg (by rw [List.length_append, List.length_singleton]; omega),
        List.take_append_of_le_length (by omega)]

/-! ## Nothing in a record breaks the line -/

/-- What a character is replaced by ends no field, no line and no string. -/
theorem rflog_char_cases (c : UInt8) :
    rflog_char c ≠ ch '\n' ∧ rflog_char c ≠ 0 ∧ rflog_char c ≠ ch '"' ∧ rflog_char c ≠ ch '\\' :=
  forall_byte (p := fun c => rflog_char c ≠ ch '\n' ∧ rflog_char c ≠ 0 ∧ rflog_char c ≠ ch '"' ∧
    rflog_char c ≠ ch '\\') (by decide +kernel) c

/-- The two halves of a byte, which it is put together from. -/
theorem halves (c : UInt8) :
    (c >>> 4).toNat < 16 ∧ (c &&& 0x0f).toNat < 16 ∧
      16 * (c >>> 4).toNat + (c &&& 0x0f).toNat = c.toNat :=
  forall_byte (p := fun c => (c >>> 4).toNat < 16 ∧ (c &&& 0x0f).toNat < 16 ∧
    16 * (c >>> 4).toNat + (c &&& 0x0f).toNat = c.toNat) (by decide +kernel) c

theorem digit_mem {i : Nat} (hi : i < 16) : digits.getD i 0 ∈ digits := by
  have hlen : i < digits.length := hi
  rw [← List.getElem_eq_getD (h := hlen)]
  exact List.getElem_mem hlen

/-- Every digit of a byte is one of the sixteen. -/
theorem hex_byte_digits (c : UInt8) : ∀ d ∈ hex_byte c, d ∈ digits := by
  intro d hd
  obtain ⟨hhigh, hlow, -⟩ := halves c
  rcases List.mem_cons.mp hd with rfl | hd
  · exact digit_mem hhigh
  · rw [List.mem_singleton.mp hd]
    exact digit_mem hlow

theorem plain_chars (text : Bytes) : Plain (text.map rflog_char) := by
  apply plain_of_forall
  intro c hc
  obtain ⟨b, -, rfl⟩ := List.mem_map.mp hc
  exact ⟨(rflog_char_cases b).1, (rflog_char_cases b).2.1⟩

theorem plain_hex (packet : Bytes) : Plain (packet.flatMap hex_byte) := by
  have hdigits : ∀ d ∈ digits, d ≠ ch '\n' ∧ d ≠ 0 := by decide +kernel
  apply plain_of_forall
  intro d hd
  obtain ⟨c, -, hc⟩ := List.mem_flatMap.mp hd
  exact hdigits d (hex_byte_digits c d hc)

/-- The summary is the packet behind the marker, in printable characters. -/
theorem summary_eq {packet : Bytes} {out_size : Nat} {tnc2 : Bytes}
    (h : lhkt_rflog_tnc2_summary packet out_size = some tnc2) :
    ∃ n, tnc2 = ((packet.drop 3).take n).map rflog_char := by
  unfold lhkt_rflog_tnc2_summary at h
  split at h
  · exact nomatch h
  · split at h
    · exact nomatch h
    · exact ⟨_, (Option.some.inj h).symm⟩

/-- The TNC2 field is plain, if there is one. -/
theorem plain_tnc2_field (packet : Bytes) : Plain (tnc2_field packet) := by
  unfold tnc2_field
  cases htnc2 : lhkt_rflog_tnc2_summary packet TNC2_SIZE with
  | none => exact ⟨List.not_mem_nil, List.not_mem_nil⟩
  | some tnc2 =>
      obtain ⟨n, rfl⟩ := summary_eq htnc2
      have hlabel : Plain (ascii " tnc2=\"") := by decide
      have hquote : Plain (ascii "\"") := by decide
      exact (hlabel.append (plain_chars _)).append hquote

/-- **A record is one line**, when its head has no line break in it. -/
theorem record_eq_line {head : Bytes} (hhead : Plain head) (packet : Bytes) :
    ∃ body, Plain body ∧ record head packet = body ++ [ch '\n'] := by
  have hhex : Plain (ascii " hex=") := by decide
  have hascii : Plain (ascii " ascii=\"") := by decide
  have hquote : Plain (ascii "\"") := by decide
  have hend : ascii "\"\n" = ascii "\"" ++ [ch '\n'] := by decide
  refine ⟨_, ?_, by rw [record, hend, ← List.append_assoc]⟩
  have hbytes := ((hhead.append (plain_tnc2_field packet)).append hhex).append (plain_hex packet)
  exact ((hbytes.append hascii).append (plain_chars packet)).append hquote

/-- An optional text, or the dash that stands for it. -/
theorem plain_getD {text : Option Bytes} (h : ∀ t ∈ text, Plain t) :
    Plain (text.getD (ascii "-")) := by
  cases text with
  | none => decide
  | some t => exact h t rfl

/-- An unsigned number is printed plain. -/
theorem plain_fmt_u (n : Nat) : Plain (fmt_u n) := by
  apply plain_of_forall
  intro c hc
  have hdigit := fmt_u_digits n c hc
  refine ⟨?_, ?_⟩
  · rintro rfl
    exact absurd hdigit (by decide)
  · rintro rfl
    exact absurd hdigit (by decide)

/-- A number with decimals is printed plain, with its sign and its point. -/
theorem plain_fmt_f (prec : Nat) (q : ℚ) : Plain (fmt_f prec q) := by
  apply plain_of_forall
  intro c hc
  rcases fmt_f_chars prec q c hc with hdigit | rfl | rfl
  · refine ⟨?_, ?_⟩
    · rintro rfl
      exact absurd hdigit (by decide)
    · rintro rfl
      exact absurd hdigit (by decide)
  · decide
  · decide

/-- **The head of an RX line** is plain, as the time is. -/
theorem plain_rx_head {utc : Option Bytes} (hutc : ∀ t ∈ utc, Plain t) (rssi_cdbm snr_cdb : Int)
    (len : Nat) : Plain (rx_head utc rssi_cdbm snr_cdb len) := by
  have hrssi : Plain (ascii " RX rssi=") := by decide
  have hsnr : Plain (ascii " snr=") := by decide
  have hlen : Plain (ascii " len=") := by decide
  have hmeta := (((plain_getD hutc).append hrssi).append (plain_fmt_f 2 (rssi_cdbm / 100)))
  exact ((((hmeta.append hsnr).append (plain_fmt_f 2 (snr_cdb / 100))).append hlen).append
    (plain_fmt_u len))

/-- **The head of a TX line** is plain, as the time and the outcome are. -/
theorem plain_tx_head {utc outcome : Option Bytes} (hutc : ∀ t ∈ utc, Plain t)
    (houtcome : ∀ t ∈ outcome, Plain t) (len : Nat) : Plain (tx_head utc outcome len) := by
  have hlen : Plain (ascii " TX rssi=- snr=- len=") := by decide
  have hlabel : Plain (ascii " outcome=") := by decide
  exact ((((plain_getD hutc).append hlen).append (plain_fmt_u len)).append hlabel).append
    (plain_getD houtcome)

/-! ## Taking a record apart -/

/-- The fields of a record: the text in front, the summary, the packet, and the
packet in printable characters. -/
structure rflog_fields where
  head : Bytes
  tnc2 : Option Bytes
  packet : Bytes
  ascii : Bytes
  deriving DecidableEq, Repr

/-- The text before the last `c` and the text behind it. -/
def cut_last (c : UInt8) (s : Bytes) : Option (Bytes × Bytes) :=
  (cut c s.reverse).map fun p => (p.2.reverse, p.1.reverse)

/-- The text in front of a fixed ending. -/
def strip (ending s : Bytes) : Option Bytes :=
  if ending <:+ s then some (s.take (s.length - ending.length)) else none

/-- The bytes that hexadecimal digits stand for, two for each byte. -/
def hex_decode : Bytes → Option Bytes
  | [] => some []
  | [_] => none
  | a :: b :: rest =>
      if a ∈ digits ∧ b ∈ digits then
        (hex_decode rest).map (UInt8.ofNat (16 * digits.idxOf a + digits.idxOf b) :: ·)
      else none

/-- A record taken apart, field by field from its end. The packet tells whether
there is a summary. -/
def rflog_split (line : Bytes) : Option rflog_fields := do
  let s ← strip (ascii "\"\n") line
  let (s, text) ← cut_last (ch '"') s
  let s ← strip (ascii " ascii=") s
  let (s, hex) ← cut_last (ch '=') s
  let s ← strip (ascii " hex") s
  let packet ← hex_decode hex
  match lhkt_rflog_tnc2_summary packet TNC2_SIZE with
  | none => some ⟨s, none, packet, text⟩
  | some _ => do
      let s ← strip (ascii "\"") s
      let (s, tnc2) ← cut_last (ch '"') s
      let s ← strip (ascii " tnc2=") s
      some ⟨s, some tnc2, packet, text⟩

/-- An ending that was put on can be taken off. -/
theorem strip_append (s ending : Bytes) : strip ending (s ++ ending) = some s := by
  rw [strip, if_pos (List.suffix_append _ _), List.length_append, Nat.add_sub_cancel,
    List.take_left]

/-- The last separator is the one behind which there is no other. -/
theorem cut_last_append {c : UInt8} (a : Bytes) {b : Bytes} (h : c ∉ b) :
    cut_last c (a ++ c :: b) = some (a, b) := by
  rw [cut_last, List.reverse_append, List.reverse_cons, List.append_assoc, List.singleton_append,
    cut_append _ (by rwa [List.mem_reverse]), Option.map_some, List.reverse_reverse,
    List.reverse_reverse]

/-- A digit stands at its own value. -/
theorem idxOf_digit {i : Nat} (hi : i < 16) : digits.idxOf (digits.getD i 0) = i := by
  have hall : ∀ i : Fin 16, digits.idxOf (digits.getD i 0) = i := by decide +kernel
  exact hall ⟨i, hi⟩

/-- A byte is read back from its digits. -/
theorem hex_byte_decode (c : UInt8) :
    ∃ a b, hex_byte c = [a, b] ∧ a ∈ digits ∧ b ∈ digits ∧
      UInt8.ofNat (16 * digits.idxOf a + digits.idxOf b) = c := by
  obtain ⟨hhigh, hlow, hbyte⟩ := halves c
  refine ⟨_, _, rfl, digit_mem hhigh, digit_mem hlow, ?_⟩
  rw [idxOf_digit hhigh, idxOf_digit hlow, hbyte, UInt8.ofNat_toNat]

/-- **The hex field is the packet.** -/
theorem hex_decode_flatMap (packet : Bytes) : hex_decode (packet.flatMap hex_byte) = some packet := by
  induction packet with
  | nil => rfl
  | cons c packet ih =>
      obtain ⟨a, b, hbyte, ha, hb, hval⟩ := hex_byte_decode c
      rw [List.flatMap_cons, hbyte]
      show (if a ∈ digits ∧ b ∈ digits then
        (hex_decode (packet.flatMap hex_byte)).map
          (UInt8.ofNat (16 * digits.idxOf a + digits.idxOf b) :: ·) else none) = _
      rw [if_pos ⟨ha, hb⟩, ih, hval]
      rfl

/-- No quote is left in a field of replaced characters. -/
theorem quote_notMem_chars (text : Bytes) : ch '"' ∉ text.map rflog_char := by
  intro h
  obtain ⟨c, -, hc⟩ := List.mem_map.mp h
  exact (rflog_char_cases c).2.2.1 hc

/-- No equals sign stands in hex digits. -/
theorem equals_notMem_hex (packet : Bytes) : ch '=' ∉ packet.flatMap hex_byte := by
  intro h
  obtain ⟨c, -, hc⟩ := List.mem_flatMap.mp h
  exact absurd (hex_byte_digits c _ hc) (by decide +kernel)

/-- **A record is taken apart into what it was made of**, whatever stands in its
head. -/
theorem rflog_split_record (head packet : Bytes) :
    rflog_split (record head packet) = some ⟨head, lhkt_rflog_tnc2_summary packet TNC2_SIZE,
      packet, packet.map rflog_char⟩ := by
  have hquote : ascii " ascii=\"" = ascii " ascii=" ++ [ch '"'] := by decide
  have hequals : ascii " hex=" = ascii " hex" ++ [ch '='] := by decide
  have hlabel : ascii " tnc2=\"" = ascii " tnc2=" ++ [ch '"'] := by decide
  have hchars := cut_last_append (c := ch '"') (head ++ tnc2_field packet ++ ascii " hex=" ++
    packet.flatMap hex_byte ++ ascii " ascii=") (quote_notMem_chars packet)
  have hhex := cut_last_append (c := ch '=') (head ++ tnc2_field packet ++ ascii " hex")
    (equals_notMem_hex packet)
  have hrecord : record head packet = head ++ tnc2_field packet ++ ascii " hex=" ++
      packet.flatMap hex_byte ++ ascii " ascii=" ++ ch '"' :: packet.map rflog_char ++
        ascii "\"\n" := by
    rw [record, hquote]
    simp only [List.append_assoc, List.singleton_append]
  have hfield : head ++ tnc2_field packet ++ ascii " hex=" ++ packet.flatMap hex_byte
      = head ++ tnc2_field packet ++ ascii " hex" ++ ch '=' :: packet.flatMap hex_byte := by
    rw [hequals]
    simp only [List.append_assoc, List.singleton_append]
  unfold rflog_split
  rw [hrecord]
  simp only [bind, strip_append, Option.bind_some, hchars]
  rw [hfield]
  simp only [hhex, strip_append, Option.bind_some, hex_decode_flatMap]
  -- what is left is the head, and the summary if the packet has one
  unfold tnc2_field
  cases htnc2 : lhkt_rflog_tnc2_summary packet TNC2_SIZE with
  | none => rw [List.append_nil]
  | some tnc2 =>
      obtain ⟨n, htext⟩ := summary_eq htnc2
      have hplain : ch '"' ∉ tnc2 := by
        rw [htext]
        exact quote_notMem_chars _
      have hsummary : head ++ (ascii " tnc2=\"" ++ tnc2 ++ ascii "\"")
          = head ++ ascii " tnc2=" ++ ch '"' :: tnc2 ++ ascii "\"" := by
        rw [hlabel]
        simp only [List.append_assoc, List.singleton_append]
      simp only [hsummary, strip_append, Option.bind_some, cut_last_append _ hplain]

/-! ## The two formats -/

/-- What a format must leave behind: nothing outside the buffer, and a line. When
the record fits it is the line, its quoted fields are plain, and it can be taken
apart into the packet and these fields. -/
structure Logged (out head packet out' : Bytes) (n : Nat) : Prop where
  size : out'.length = out.length
  line : Line out' n
  record : (record head packet).length < out.length →
    out'.take n = record head packet ∧
      rflog_split (out'.take n) = some ⟨head, lhkt_rflog_tnc2_summary packet TNC2_SIZE, packet,
        packet.map rflog_char⟩

/-- A quoted field of the record of a packet. -/
def Quoted (packet field : Bytes) : Prop :=
  field = packet.map rflog_char ∨ lhkt_rflog_tnc2_summary packet TNC2_SIZE = some field

/-- A quoted field holds neither the quote nor the escape. -/
theorem quoted_plain {packet field : Bytes} (h : Quoted packet field) :
    ch '"' ∉ field ∧ ch '\\' ∉ field := by
  have hchars : ∀ text : Bytes, ch '"' ∉ text.map rflog_char ∧ ch '\\' ∉ text.map rflog_char := by
    intro text
    refine ⟨quote_notMem_chars text, fun hm => ?_⟩
    obtain ⟨c, -, hc⟩ := List.mem_map.mp hm
    exact (rflog_char_cases c).2.2.2 hc
  rcases h with rfl | htnc2
  · exact hchars packet
  · obtain ⟨n, rfl⟩ := summary_eq htnc2
    exact hchars _

/-- A format with a head on one line. -/
theorem rflog_format_logged {out head : Bytes} (hsize : 8 ≤ out.length) (hhead : Plain head)
    (hint : head.length ≤ INT_MAX) (packet : Bytes) :
    ∃ out' n, rflog_format out head packet = some (out', n) ∧ Logged out head packet out' n := by
  obtain ⟨out', hformat, hlen, hext⟩ := rflog_format_eq hsize hint packet
  obtain ⟨body, hbody, hrecord⟩ := record_eq_line hhead packet
  obtain ⟨body', hbody', hline⟩ := line_of_eq hbody out.length (by omega)
  rw [← hrecord] at hline
  refine ⟨out', _, hformat, hlen, ?_, ?_⟩
  · rw [hline] at hext ⊢
    exact line_of_plain hbody' hext
  · intro hfits
    -- the whole record is in front of the terminator, and splits into its fields
    have hwhole : line_of out.length (RfLog.record head packet) = RfLog.record head packet :=
      if_pos hfits
    rw [hwhole] at hext ⊢
    have htake : out'.take (RfLog.record head packet).length = RfLog.record head packet :=
      (List.prefix_iff_eq_take.mp ((List.prefix_append _ _).trans hext)).symm
    exact ⟨htake, htake.symm ▸ rflog_split_record head packet⟩

/-- **RF log records are bounded single lines.** Whatever the packet and the
metadata are, and however small the buffer of at least 8 bytes is: nothing is
written outside, and a record whose head `snprintf` can measure is one terminated
line; when it fits it can be taken apart into its fields. For a longer head there
is no record. The quoted fields have no quote and no backslash. -/
theorem rflog_records_bounded (out : Bytes) (hsize : 8 ≤ out.length) (utc outcome : Option Bytes)
    (hutc : ∀ t ∈ utc, Plain t) (houtcome : ∀ t ∈ outcome, Plain t) (rssi_cdbm snr_cdb : Int)
    (packet : Bytes) :
    let rx := rx_head utc rssi_cdbm snr_cdb packet.length
    let tx := tx_head utc outcome packet.length
    (rx.length ≤ INT_MAX → ∃ out' n,
      lhkt_rflog_format_rx out utc rssi_cdbm snr_cdb packet = some (out', n) ∧
        Logged out rx packet out' n) ∧
    (tx.length ≤ INT_MAX → ∃ out' n,
      lhkt_rflog_format_tx out utc outcome packet = some (out', n) ∧ Logged out tx packet out' n) ∧
    (INT_MAX < rx.length → ∃ out',
      lhkt_rflog_format_rx out utc rssi_cdbm snr_cdb packet = some (out', 0) ∧
        out'.length = out.length) ∧
    (INT_MAX < tx.length → ∃ out',
      lhkt_rflog_format_tx out utc outcome packet = some (out', 0) ∧ out'.length = out.length) ∧
    ∀ field, Quoted packet field → ch '"' ∉ field ∧ ch '\\' ∉ field := by
  intro rx tx
  have hrx : Plain rx := plain_rx_head hutc rssi_cdbm snr_cdb packet.length
  have htx : Plain tx := plain_tx_head hutc houtcome packet.length
  refine ⟨?_, ?_, ?_, ?_, ?_⟩
  · exact fun hint => rflog_format_logged hsize hrx hint packet
  · exact fun hint => rflog_format_logged hsize htx hint packet
  · exact fun hint => rflog_format_overlong hsize hint packet
  · exact fun hint => rflog_format_overlong hsize hint packet
  · exact fun field => quoted_plain

/-- A packet heard, with the marker of a TNC2 text. -/
theorem rflog_records_bounded_heard :
    let out : Bytes := List.replicate 128 0
    let packet : Bytes := [0x3c, 0xff, 0x01] ++ ascii "A\"B"
    ∃ out' n, lhkt_rflog_format_rx out (some (ascii "12:00Z")) (-8050) 925 packet
        = some (out', n) ∧ Line out' n ∧
      out'.take n = ascii ("12:00Z RX rssi=-80.50 snr=9.25 len=6 tnc2=\"A.B\" " ++
        "hex=3cff01412242 ascii=\"<..A.B\"\n") := by
  intro out packet
  obtain ⟨out', n, hformat, hlogged⟩ := (rflog_records_bounded out (by decide +kernel)
    (some (ascii "12:00Z")) none (by decide) (by decide) (-8050) 925 packet).1 (by decide +kernel)
  refine ⟨out', n, hformat, hlogged.line, ?_⟩
  rw [(hlogged.record (by decide +kernel)).1]
  decide +kernel

/-- A text of 2 GiB. -/
theorem exists_overlong : ∃ text : Bytes, Plain text ∧ text.length = INT_MAX + 1 := by
  refine ⟨List.replicate (INT_MAX + 1) (ch 'x'), ?_, List.length_replicate⟩
  apply plain_of_forall
  intro c hc
  rw [List.eq_of_mem_replicate hc]
  decide

/-- A time text longer than an `int` can say: `snprintf` fails, and there is no
line. -/
theorem rflog_no_record :
    ¬ ∀ (out : Bytes) (utc : Option Bytes) (rssi_cdbm snr_cdb : Int) (packet : Bytes),
      8 ≤ out.length → (∀ t ∈ utc, Plain t) → ∃ out' n,
        lhkt_rflog_format_rx out utc rssi_cdbm snr_cdb packet = some (out', n) ∧ 1 ≤ n := by
  intro hall
  obtain ⟨utc, hplain, hutc⟩ := exists_overlong
  have hlong : INT_MAX < (rx_head (some utc) 0 0 0).length := by
    unfold rx_head
    simp only [Option.getD_some, List.length_append, hutc]
    omega
  have hsize : 8 ≤ (List.replicate 8 (0 : UInt8)).length := by decide
  obtain ⟨out', n, hformat, hpos⟩ := hall (List.replicate 8 0) (some utc) 0 0 [] hsize (by
    intro t ht
    rw [← Option.some.inj ht]
    exact hplain)
  obtain ⟨out'', hfail, -⟩ := rflog_format_overlong hsize hlong []
  rw [lhkt_rflog_format_rx, List.length_nil, hfail] at hformat
  have hn := (Prod.mk.inj (Option.some.inj hformat)).2
  omega

end LorahamKissTnc.RfLog
