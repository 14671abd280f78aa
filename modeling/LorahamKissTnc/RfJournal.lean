/-
`rflog.c`, from the calls to the files, and from the files back to the calls.

`lhkt_rflog_rx` and `lhkt_rflog_tx` put a record into a buffer on the stack and write
it as one line. A reader that has nothing but the two files cuts them into lines and
takes each line apart (`rflog_read`): it gets the time, the kind, the metadata to the
hundredth and the packet. So without failures the files tell exactly the last calls
(`journal_reads_back`), and what they do not tell any more has made room for more than
the limit of newer bytes.

What is read as a transmission was logged as one, also where a line for a received
packet was cut off at the end of the buffer (`journal_tx`).
-/
import LorahamKissTnc.Lib.Numerals
import LorahamKissTnc.RfLog
import LorahamKissTnc.RfLogFile
import LorahamKissTnc.TxAccounting

set_option autoImplicit false

open LorahamKissTnc.Lib.CString LorahamKissTnc.Lib.Buffer LorahamKissTnc.Lib.Machine
open LorahamKissTnc.Lib.Numerals LorahamKissTnc.BridgeRx LorahamKissTnc.RfLog
open LorahamKissTnc.RfLogFile LorahamKissTnc.TxAccounting

namespace LorahamKissTnc.RfJournal

/-! ## The calls -/

/-- The size of `line[]`. -/
abbrev LHKT_RFLOG_LINE_MAX : Nat := 1280

/-- The environment of a call: what `rflog_utc_now` puts into `utc[40]`, which is made
of digits, `-`, `T`, `:`, `.` and `Z`, what is in `line[]` before, and the files. -/
structure entry_env extends write_env where
  utc : Bytes := ascii "1970-01-01T00:00:00.000Z"
  line : Bytes := List.replicate LHKT_RFLOG_LINE_MAX 0
  utc_length : utc.length < 40 := by decide
  utc_plain : Plain utc := by decide
  utc_blank : ch ' ' ∉ utc := by decide
  line_length : line.length = LHKT_RFLOG_LINE_MAX := by simp

/-- A record that was put together goes into the live file. The other case is a store
outside the buffer. -/
def rflog_write_record (max_bytes : Nat) (e : entry_env) (r : Option (Bytes × Nat)) (s : rflog_t) :
    rflog_t :=
  match r with
  | some (line, n) => rflog_write_line max_bytes e.towrite_env (line.take n) s
  | none => s

/-- `lhkt_rflog_rx` with an open log. -/
def lhkt_rflog_rx (max_bytes : Nat) (e : entry_env) (rssi_cdbm snr_cdb : Int) (packet : Bytes)
    (s : rflog_t) : rflog_t :=
  rflog_write_record max_bytes e
    (lhkt_rflog_format_rx e.line (some e.utc) rssi_cdbm snr_cdb packet) s

/-- The texts the callers have for an outcome. -/
def outcome_text : rflog_outcome → Bytes
  | .ok => ascii "ok"
  | .unconfirmed => ascii "unconfirmed"

/-- `lhkt_rflog_tx` with an open log. -/
def lhkt_rflog_tx (max_bytes : Nat) (e : entry_env) (outcome : rflog_outcome) (packet : Bytes)
    (s : rflog_t) : rflog_t :=
  rflog_write_record max_bytes e
    (lhkt_rflog_format_tx e.line (some e.utc) (some (outcome_text outcome)) packet) s

/-- One call. -/
def log_entry (max_bytes : Nat) (s : rflog_t) (w : rflog_entry × entry_env) : rflog_t :=
  match w.1 with
  | .rx rssi_cdbm snr_cdb packet => lhkt_rflog_rx max_bytes w.2 rssi_cdbm snr_cdb packet s
  | .tx outcome packet => lhkt_rflog_tx max_bytes w.2 outcome packet s

/-! ## The reader -/

/-- The lines of a file that ends in a newline. -/
def file_lines (file : Bytes) : List Bytes :=
  (file.splitOn (ch '\n')).dropLast.map (· ++ [ch '\n'])

/-- The value in a token `key=value`. -/
def token_value (key token : Bytes) : Option Bytes :=
  if key <+: token then some (token.drop key.length) else none

def read_outcome (text : Bytes) : Option rflog_outcome :=
  if text = ascii "ok" then some .ok
  else if text = ascii "unconfirmed" then some .unconfirmed
  else none

/-- The time, and what a record says besides its packet. -/
def read_head (head : Bytes) : Option (Bytes × (Bytes → rflog_entry)) :=
  match head.splitOn (ch ' ') with
  | [utc, kind, rssi, snr, _] =>
      if kind = ascii "RX" then do
        let rssi ← (token_value (ascii "rssi=") rssi).bind read_fixed
        let snr ← (token_value (ascii "snr=") snr).bind read_fixed
        some (utc, .rx rssi snr)
      else none
  | [utc, kind, _, _, _, outcome] =>
      if kind = ascii "TX" then do
        let outcome ← (token_value (ascii "outcome=") outcome).bind read_outcome
        some (utc, .tx outcome)
      else none
  | _ => none

/-- **The reader** of a line. -/
def rflog_read (line : Bytes) : Option (Bytes × rflog_entry) := do
  let fields ← rflog_split line
  let (utc, entry) ← read_head fields.head
  some (utc, entry fields.packet)

/-- The transmission a line tells of. -/
def read_tx (line : Bytes) : Option (rflog_outcome × Bytes) :=
  match rflog_read line with
  | some (_, .tx outcome packet) => some (outcome, packet)
  | _ => none

/-! ## A call writes a line -/

/-- The text in front of the packet. -/
def entry_head (utc : Bytes) : rflog_entry → Bytes
  | .rx rssi_cdbm snr_cdb packet => rx_head (some utc) rssi_cdbm snr_cdb packet.length
  | .tx outcome packet => tx_head (some utc) (some (outcome_text outcome)) packet.length

def entry_packet : rflog_entry → Bytes
  | .rx _ _ packet => packet
  | .tx _ packet => packet

/-- The line of a call; `snprintf` fails on a head that an `int` cannot measure. -/
def entry_line (w : rflog_entry × entry_env) : Bytes :=
  if (entry_head w.2.utc w.1).length ≤ INT_MAX then
    line_of LHKT_RFLOG_LINE_MAX (record (entry_head w.2.utc w.1) (entry_packet w.1))
  else []

/-- What is written for a record is its line, cut to the buffer. -/
theorem rflog_write_record_eq (max_bytes : Nat) (e : entry_env) (head packet : Bytes)
    (s : rflog_t) :
    rflog_write_record max_bytes e (rflog_format e.line head packet) s
      = rflog_write_line max_bytes e.towrite_env
          (if head.length ≤ INT_MAX then line_of LHKT_RFLOG_LINE_MAX (record head packet) else [])
          s := by
  have hsize : 8 ≤ e.line.length := by
    rw [e.line_length]
    decide
  by_cases hhead : head.length ≤ INT_MAX
  · obtain ⟨out, hformat, _, hext⟩ := rflog_format_eq hsize hhead packet
    rw [e.line_length] at hformat hext
    have htake : out.take (line_of LHKT_RFLOG_LINE_MAX (record head packet)).length
        = line_of LHKT_RFLOG_LINE_MAX (record head packet) :=
      (List.prefix_iff_eq_take.mp ((List.prefix_append _ _).trans hext)).symm
    rw [hformat, if_pos hhead, rflog_write_record, htake]
  · obtain ⟨out, hformat, _⟩ := rflog_format_overlong hsize (Nat.lt_of_not_le hhead) packet
    rw [hformat, if_neg hhead, rflog_write_record, List.take_zero]

/-- **A call writes its line.** -/
theorem log_entry_eq (max_bytes : Nat) (s : rflog_t) (w : rflog_entry × entry_env) :
    log_entry max_bytes s w
      = rflog_write_line max_bytes w.2.towrite_env (entry_line w) s := by
  obtain ⟨entry, e⟩ := w
  cases entry with
  | rx rssi_cdbm snr_cdb packet => exact rflog_write_record_eq max_bytes e _ packet s
  | tx outcome packet => exact rflog_write_record_eq max_bytes e _ packet s

/-- A line that was written ends in its only newline. -/
theorem entry_line_cases (w : rflog_entry × entry_env) :
    entry_line w = [] ∨ ∃ body, ch '\n' ∉ body ∧ entry_line w = body ++ [ch '\n'] := by
  unfold entry_line
  split
  · have hutc : ∀ t ∈ some w.2.utc, Plain t := by
      intro t ht
      rw [← Option.some.inj ht]
      exact w.2.utc_plain
    have hhead : Plain (entry_head w.2.utc w.1) := by
      cases w.1 with
      | rx rssi_cdbm snr_cdb packet => exact plain_rx_head hutc rssi_cdbm snr_cdb packet.length
      | tx outcome packet =>
          refine plain_tx_head hutc ?_ packet.length
          intro t ht
          rw [← Option.some.inj ht]
          cases outcome <;> decide
    obtain ⟨body, hbody, hrecord⟩ := record_eq_line hhead (entry_packet w.1)
    obtain ⟨body', hbody', hline⟩ := line_of_eq hbody LHKT_RFLOG_LINE_MAX (by decide)
    rw [hrecord]
    exact .inr ⟨body', hbody'.1, hline⟩
  · exact .inl rfl

/-! ## The lines of the files -/

/-- The first line of a file. -/
theorem file_lines_cons {body : Bytes} (h : ch '\n' ∉ body) (rest : Bytes) :
    file_lines (body ++ [ch '\n'] ++ rest) = (body ++ [ch '\n']) :: file_lines rest := by
  have hne : rest.splitOn (ch '\n') ≠ [] := List.splitOn_ne_nil _ _
  unfold file_lines
  rw [List.append_assoc, List.singleton_append, List.splitOn_append_cons_self_of_not_mem h,
    List.dropLast_cons_of_ne_nil hne, List.map_cons]

/-- Lines one behind the other are cut where they were put together. -/
theorem filterMap_file_lines {α : Type} (read : Bytes → Option α) (hread : read [] = none)
    (ws : List (rflog_entry × entry_env)) :
    (file_lines (ws.map entry_line).flatten).filterMap read = ws.filterMap fun w =>
      read (entry_line w) := by
  induction ws with
  | nil => rfl
  | cons w ws ih =>
      rw [List.map_cons, List.flatten_cons, List.filterMap_cons]
      rcases entry_line_cases w with hnone | ⟨body, hbody, hline⟩
      · rw [hnone, hread, List.nil_append]
        exact ih
      · rw [hline, file_lines_cons hbody, List.filterMap_cons, ih]

/-- What the files hold of the lines: the last ones, all of them or more bytes than the
limit, and no file more than the limit when a line is not. -/
structure Holds (max_bytes : Nat) (gone kept : List Bytes) (s : rflog_t) : Prop where
  text : s.prev ++ s.live = kept.flatten
  segments : ∃ before now, kept = before ++ now ∧ s.prev = before.flatten ∧ s.live = now.flatten
  room : gone = [] ∨ max_bytes < s.prev.length + s.live.length
  bounds : LHKT_RFLOG_LINE_MAX ≤ max_bytes → s.prev.length ≤ max_bytes ∧ s.live.length ≤ max_bytes

/-- A line without failures. -/
theorem rflog_write_line_ok (max_bytes : Nat) {e : write_env} (he : NoFailure e) (line : Bytes)
    (s : rflog_t) :
    rflog_write_line max_bytes e line s
      = if max_bytes < s.live.length + line.length then { live := line, prev := s.live }
        else { s with live := s.live ++ line } := by
  obtain ⟨hfstat, hopen, hcopy, htrunc, happend⟩ := he
  have hline : line.take (rflog_write_loop line.length 0 e.append) = line := by
    rw [rflog_write_loop_eq happend _ 0 (Nat.zero_le _), List.take_length]
  have hroll : rflog_roll e s = { live := [], prev := s.live } := by
    rcases rflog_copy_to_previous_cases e s with ⟨hclosed, -⟩ | ⟨-, k, hk, -⟩ | ⟨-, -, hdone⟩
    · exact absurd (hopen.symm.trans hclosed) (by decide)
    · exact absurd (not_fails_of_forall hk) hcopy
    · simp [rflog_roll, hdone, htrunc]
  unfold rflog_write_line
  rw [hline]
  by_cases hlong : max_bytes < s.live.length + line.length
  · rw [if_pos ⟨hfstat, hlong⟩, if_pos hlong, hroll]
    rfl
  · rw [if_neg fun h => hlong h.2, if_neg hlong]

/-- One line more: it is in the files, behind those that were there, of which some may
go. -/
theorem Holds.line {max_bytes : Nat} {gone kept : List Bytes} {s : rflog_t}
    (h : Holds max_bytes gone kept s) {e : write_env} (he : NoFailure e) {line : Bytes}
    (hline : line.length < LHKT_RFLOG_LINE_MAX) :
    ∃ gone' kept', gone' ++ kept' = gone ++ kept ++ [line] ∧
      Holds max_bytes gone' kept' (rflog_write_line max_bytes e line s) := by
  obtain ⟨before, now, rfl, hprev, hlive⟩ := h.segments
  rw [rflog_write_line_ok max_bytes he]
  by_cases hlong : max_bytes < s.live.length + line.length
  · -- the live lines become the previous segment, and what was before them is lost
    rw [if_pos hlong]
    refine ⟨gone ++ before, now ++ [line], by simp, ?_⟩
    constructor
    · simp [hlive]
    · exact ⟨now, [line], rfl, hlive, by simp⟩
    · exact .inr hlong
    · intro hmax
      exact ⟨(h.bounds hmax).2, le_of_lt (lt_of_lt_of_le hline hmax)⟩
  · rw [if_neg hlong]
    refine ⟨gone, before ++ (now ++ [line]), by simp, ?_⟩
    constructor
    · simp [hlive, hprev]
    · exact ⟨before, now ++ [line], rfl, hprev, by simp [hlive]⟩
    · refine h.room.imp_right fun hroom => ?_
      show max_bytes < s.prev.length + (s.live ++ line).length
      rw [List.length_append]
      omega
    · intro hmax
      refine ⟨(h.bounds hmax).1, ?_⟩
      show (s.live ++ line).length ≤ max_bytes
      rw [List.length_append]
      omega

/-- The line of a call is shorter than the buffer. -/
theorem entry_line_length (w : rflog_entry × entry_env) :
    (entry_line w).length < LHKT_RFLOG_LINE_MAX := by
  unfold entry_line line_of
  split
  · split
    · assumption
    · rw [List.length_append, List.length_take, List.length_singleton]
      simp only [LHKT_RFLOG_LINE_MAX]
      omega
  · decide

/-- **The files after any calls**, without failures. -/
theorem holds_run {max_bytes : Nat} (ws : List (rflog_entry × entry_env)) :
    ∀ {gone kept : List Bytes} {s : rflog_t}, Holds max_bytes gone kept s →
      (∀ w ∈ ws, NoFailure w.2.towrite_env) →
      ∃ gone' kept', gone' ++ kept' = gone ++ kept ++ ws.map entry_line ∧
        Holds max_bytes gone' kept' (run (log_entry max_bytes) s ws) := by
  induction ws with
  | nil =>
      intro gone kept s h _
      exact ⟨gone, kept, by simp, h⟩
  | cons w ws ih =>
      intro gone kept s h hok
      obtain ⟨gone₁, kept₁, hlines₁, h₁⟩ := h.line (hok w List.mem_cons_self) (entry_line_length w)
      rw [← log_entry_eq] at h₁
      obtain ⟨gone', kept', hlines, h'⟩ := ih h₁ fun w' hw' => hok w' (List.mem_cons_of_mem w hw')
      refine ⟨gone', kept', ?_, h'⟩
      rw [hlines, hlines₁, List.map_cons, List.append_assoc _ [entry_line w],
        List.singleton_append]

/-- From empty files, the calls the files still tell of. -/
theorem journal_holds (max_bytes : Nat) (ws : List (rflog_entry × entry_env))
    (hok : ∀ w ∈ ws, NoFailure w.2.towrite_env) :
    ∃ k, (run (log_entry max_bytes) {} ws).prev ++ (run (log_entry max_bytes) {} ws).live
        = ((ws.drop k).map entry_line).flatten ∧
      (k = 0 ∨ max_bytes < (run (log_entry max_bytes) {} ws).prev.length
        + (run (log_entry max_bytes) {} ws).live.length) ∧
      (LHKT_RFLOG_LINE_MAX ≤ max_bytes →
        (run (log_entry max_bytes) {} ws).prev.length ≤ max_bytes ∧
        (run (log_entry max_bytes) {} ws).live.length ≤ max_bytes) := by
  have hstart : Holds max_bytes [] [] {} :=
    ⟨rfl, ⟨[], [], rfl, rfl, rfl⟩, .inl rfl, fun _ => ⟨Nat.zero_le _, Nat.zero_le _⟩⟩
  obtain ⟨gone, kept, hlines, h⟩ := holds_run ws hstart hok
  rw [List.append_nil, List.nil_append] at hlines
  have hkept : kept = (ws.drop gone.length).map entry_line := by
    rw [List.map_drop, ← hlines, List.drop_left]
  refine ⟨gone.length, ?_, h.room.imp_left fun hnone => ?_, h.bounds⟩
  · rw [h.text, hkept]
  · rw [hnone]
    rfl

/-! ## A line is read back -/

/-- The arguments are in the ranges of their types, and the packet is one that the radio
can carry. -/
def Fits : rflog_entry → Prop
  | .rx rssi_cdbm snr_cdb packet =>
      (-32768 ≤ rssi_cdbm ∧ rssi_cdbm ≤ 32767) ∧ (-32768 ≤ snr_cdb ∧ snr_cdb ≤ 32767) ∧
        packet.length ≤ 255
  | .tx _ packet => packet.length ≤ 255

instance (entry : rflog_entry) : Decidable (Fits entry) := by
  cases entry with
  | rx rssi_cdbm snr_cdb packet => exact inferInstanceAs (Decidable (_ ∧ _ ∧ _))
  | tx outcome packet => exact inferInstanceAs (Decidable (_ ≤ _))

/-- A 16-bit number of hundredths has seven characters at most. -/
theorem length_fmt_f_int16 {n : Int} (h : -32768 ≤ n ∧ n ≤ 32767) :
    (fmt_f 2 (n / 100)).length ≤ 7 := by
  have hbound : n.natAbs < 10 ^ (3 + 2) := by
    norm_num
    omega
  have hlen : (fmt_f 2 (n / 10 ^ 2)).length ≤ 3 + 2 + 2 :=
    length_fmt_f_le (by decide) (by decide) hbound
  have hcents : (n : ℚ) / 10 ^ 2 = n / 100 := by norm_num
  rwa [hcents] at hlen

/-- The text in front of the packet fits well into the buffer. -/
theorem length_entry_head {utc : Bytes} (hutc : utc.length < 40) {entry : rflog_entry}
    (h : Fits entry) : (entry_head utc entry).length ≤ 120 := by
  have hlen : ∀ packet : Bytes, packet.length ≤ 255 → (fmt_u packet.length).length ≤ 3 :=
    fun packet hp => length_fmt_u_le (by decide) (by omega)
  cases entry with
  | rx rssi_cdbm snr_cdb packet =>
      obtain ⟨hrssi, hsnr, hpacket⟩ := h
      have hrssi := length_fmt_f_int16 hrssi
      have hsnr := length_fmt_f_int16 hsnr
      have hlen := hlen packet hpacket
      have h1 : (ascii " RX rssi=").length = 9 := by decide
      have h2 : (ascii " snr=").length = 5 := by decide
      have h3 : (ascii " len=").length = 5 := by decide
      unfold entry_head rx_head
      simp only [Option.getD_some, List.length_append, h1, h2, h3]
      omega
  | tx outcome packet =>
      have hlen := hlen packet h
      have h1 : (ascii " TX rssi=- snr=- len=").length = 21 := by decide
      have h2 : (ascii " outcome=").length = 9 := by decide
      have h3 : (outcome_text outcome).length ≤ 11 := by cases outcome <;> decide
      unfold entry_head tx_head
      simp only [Option.getD_some, List.length_append, h1, h2]
      omega

/-- A record of a radio packet has 1048 characters at most behind its head. -/
theorem length_record (head : Bytes) {packet : Bytes} (h : packet.length ≤ 255) :
    (record head packet).length ≤ head.length + 1048 := by
  have hfield : (tnc2_field packet).length ≤ 268 := by
    unfold tnc2_field
    cases htnc2 : lhkt_rflog_tnc2_summary packet TNC2_SIZE with
    | none => decide
    | some tnc2 =>
        have hshort := length_summary_lt htnc2
        have h1 : (ascii " tnc2=\"").length = 7 := by decide
        have h2 : (ascii "\"").length = 1 := by decide
        simp only [List.length_append, h1, h2]
        simp only [TNC2_SIZE] at hshort
        omega
  have hhex : (packet.flatMap hex_byte).length = 2 * packet.length := by
    have hbyte : ∀ c, (hex_byte c).length = 2 := fun _ => rfl
    simp [List.length_flatMap, hbyte, Nat.mul_comm]
  have h1 : (ascii " hex=").length = 5 := by decide
  have h2 : (ascii " ascii=\"").length = 8 := by decide
  have h3 : (ascii "\"\n").length = 2 := by decide
  unfold record
  simp only [List.length_append, List.length_map, hhex, h1, h2, h3]
  omega

/-- A record that fits is its line. -/
theorem entry_line_eq {w : rflog_entry × entry_env} (h : Fits w.1) :
    entry_line w = record (entry_head w.2.utc w.1) (entry_packet w.1) := by
  have hhead := length_entry_head w.2.utc_length h
  have hpacket : (entry_packet w.1).length ≤ 255 := by
    cases hw : w.1 with
    | rx rssi_cdbm snr_cdb packet =>
        rw [hw] at h
        exact h.2.2
    | tx outcome packet =>
        rw [hw] at h
        exact h
  have hlen := length_record (entry_head w.2.utc w.1) hpacket
  unfold entry_line line_of
  rw [if_pos (by simp only [INT_MAX]; omega), if_pos (by simp only [LHKT_RFLOG_LINE_MAX]; omega)]

theorem blank_notMem_fmt_u (n : Nat) : ch ' ' ∉ fmt_u n := by
  intro h
  exact absurd (fmt_u_digits n _ h) (by decide)

theorem blank_notMem_fmt_f (prec : Nat) (q : ℚ) : ch ' ' ∉ fmt_f prec q := by
  intro h
  rcases fmt_f_chars prec q _ h with hdigit | hpoint | hsign
  · exact absurd hdigit (by decide)
  · exact absurd hpoint (by decide)
  · exact absurd hsign (by decide)

/-- The value behind a key. -/
theorem token_value_append (key value : Bytes) : token_value key (key ++ value) = some value := by
  unfold token_value
  rw [if_pos (List.prefix_append _ _), List.drop_left]

/-- An outcome that was printed is read back. -/
theorem read_outcome_text (outcome : rflog_outcome) :
    read_outcome (outcome_text outcome) = some outcome := by
  cases outcome <;> decide

/-- The head of a received packet's record. -/
theorem read_rx_head {utc : Bytes} (hutc : ch ' ' ∉ utc) (rssi_cdbm snr_cdb : Int) (len : Nat) :
    read_head (rx_head (some utc) rssi_cdbm snr_cdb len)
      = some (utc, .rx rssi_cdbm snr_cdb) := by
  have hcents : ∀ n : Int, read_fixed (fmt_f 2 (n / 100)) = some n := by
    intro n
    have hread : read_fixed (fmt_f 2 (n / 10 ^ 2)) = some n :=
      read_fixed_fmt_f (by decide) n
    rwa [show (n : ℚ) / 10 ^ 2 = n / 100 by norm_num] at hread
  -- the head is cut at its blanks: no field holds one
  have htokens : (rx_head (some utc) rssi_cdbm snr_cdb len).splitOn (ch ' ')
      = [utc, ascii "RX", ascii "rssi=" ++ fmt_f 2 (rssi_cdbm / 100),
          ascii "snr=" ++ fmt_f 2 (snr_cdb / 100), ascii "len=" ++ fmt_u len] := by
    have hhead : rx_head (some utc) rssi_cdbm snr_cdb len = utc ++ ch ' ' :: (ascii "RX" ++
        ch ' ' :: (ascii "rssi=" ++ fmt_f 2 (rssi_cdbm / 100) ++ ch ' ' :: (ascii "snr=" ++
          fmt_f 2 (snr_cdb / 100) ++ ch ' ' :: (ascii "len=" ++ fmt_u len)))) := by
      have h1 : ascii " RX rssi=" = ch ' ' :: (ascii "RX" ++ ch ' ' :: ascii "rssi=") := by decide
      have h2 : ascii " snr=" = ch ' ' :: ascii "snr=" := by decide
      have h3 : ascii " len=" = ch ' ' :: ascii "len=" := by decide
      unfold rx_head
      rw [h1, h2, h3, Option.getD_some]
      simp only [List.append_assoc, List.cons_append]
    have hkind : ch ' ' ∉ ascii "RX" := by decide
    have hrssi : ch ' ' ∉ ascii "rssi=" ++ fmt_f 2 (rssi_cdbm / 100) := by
      rw [List.mem_append, not_or]
      exact ⟨by decide, blank_notMem_fmt_f 2 _⟩
    have hsnr : ch ' ' ∉ ascii "snr=" ++ fmt_f 2 (snr_cdb / 100) := by
      rw [List.mem_append, not_or]
      exact ⟨by decide, blank_notMem_fmt_f 2 _⟩
    have hlen : ch ' ' ∉ ascii "len=" ++ fmt_u len := by
      rw [List.mem_append, not_or]
      exact ⟨by decide, blank_notMem_fmt_u len⟩
    rw [hhead, List.splitOn_append_cons_self_of_not_mem hutc,
      List.splitOn_append_cons_self_of_not_mem hkind,
      List.splitOn_append_cons_self_of_not_mem hrssi,
      List.splitOn_append_cons_self_of_not_mem hsnr, List.splitOn_eq_singleton hlen]
  unfold read_head
  rw [htokens]
  dsimp only
  rw [if_pos rfl, token_value_append, token_value_append, Option.bind_some, Option.bind_some,
    hcents, hcents]
  rfl

/-- The head of a sent packet's record. -/
theorem read_tx_head {utc : Bytes} (hutc : ch ' ' ∉ utc) (outcome : rflog_outcome) (len : Nat) :
    read_head (tx_head (some utc) (some (outcome_text outcome)) len) = some (utc, .tx outcome) := by
  have htokens : (tx_head (some utc) (some (outcome_text outcome)) len).splitOn (ch ' ')
      = [utc, ascii "TX", ascii "rssi=-", ascii "snr=-", ascii "len=" ++ fmt_u len,
          ascii "outcome=" ++ outcome_text outcome] := by
    have hhead : tx_head (some utc) (some (outcome_text outcome)) len = utc ++ ch ' ' ::
        (ascii "TX" ++ ch ' ' :: (ascii "rssi=-" ++ ch ' ' :: (ascii "snr=-" ++ ch ' ' ::
          (ascii "len=" ++ fmt_u len ++ ch ' ' ::
            (ascii "outcome=" ++ outcome_text outcome))))) := by
      have h1 : ascii " TX rssi=- snr=- len=" = ch ' ' :: (ascii "TX" ++ ch ' ' ::
          (ascii "rssi=-" ++ ch ' ' :: (ascii "snr=-" ++ ch ' ' :: ascii "len="))) := by decide
      have h2 : ascii " outcome=" = ch ' ' :: ascii "outcome=" := by decide
      unfold tx_head
      rw [h1, h2, Option.getD_some, Option.getD_some]
      simp only [List.append_assoc, List.cons_append]
    have hkind : ch ' ' ∉ ascii "TX" := by decide
    have hrssi : ch ' ' ∉ ascii "rssi=-" := by decide
    have hsnr : ch ' ' ∉ ascii "snr=-" := by decide
    have hlen : ch ' ' ∉ ascii "len=" ++ fmt_u len := by
      rw [List.mem_append, not_or]
      exact ⟨by decide, blank_notMem_fmt_u len⟩
    have houtcome : ch ' ' ∉ ascii "outcome=" ++ outcome_text outcome := by
      cases outcome <;> decide
    rw [hhead, List.splitOn_append_cons_self_of_not_mem hutc,
      List.splitOn_append_cons_self_of_not_mem hkind,
      List.splitOn_append_cons_self_of_not_mem hrssi,
      List.splitOn_append_cons_self_of_not_mem hsnr,
      List.splitOn_append_cons_self_of_not_mem hlen, List.splitOn_eq_singleton houtcome]
  unfold read_head
  rw [htokens]
  dsimp only
  rw [if_pos rfl, token_value_append, Option.bind_some, read_outcome_text]
  rfl

/-- **A line that fits is read back.** -/
theorem rflog_read_entry_line {w : rflog_entry × entry_env} (h : Fits w.1) :
    rflog_read (entry_line w) = some (w.2.utc, w.1) := by
  unfold rflog_read
  rw [entry_line_eq h, rflog_split_record]
  obtain ⟨entry, e⟩ := w
  cases entry with
  | rx rssi_cdbm snr_cdb packet =>
      have hhead := read_rx_head e.utc_blank rssi_cdbm snr_cdb packet.length
      show (read_head (rx_head (some e.utc) rssi_cdbm snr_cdb packet.length)).bind _ = _
      rw [hhead]
      rfl
  | tx outcome packet =>
      have hhead := read_tx_head e.utc_blank outcome packet.length
      show (read_head (tx_head (some e.utc) (some (outcome_text outcome)) packet.length)).bind _ = _
      rw [hhead]
      rfl

/-- **The log can be read back.** Without failures, and with records that fit: a reader
of the two files gets the times and the calls, without a gap up to the last one; what
it does not get is followed by more than the limit of newer bytes; and neither file
takes more than the limit, when a line does not. -/
theorem journal_reads_back (max_bytes : Nat) (ws : List (rflog_entry × entry_env))
    (hok : ∀ w ∈ ws, NoFailure w.2.towrite_env) (hfits : ∀ w ∈ ws, Fits w.1) :
    let s := run (log_entry max_bytes) {} ws
    ∃ k, (file_lines (s.prev ++ s.live)).filterMap rflog_read
        = (ws.drop k).map (fun w => (w.2.utc, w.1)) ∧
      (k = 0 ∨ max_bytes < s.prev.length + s.live.length) ∧
      (LHKT_RFLOG_LINE_MAX ≤ max_bytes →
        s.prev.length ≤ max_bytes ∧ s.live.length ≤ max_bytes) := by
  intro s
  obtain ⟨k, htext, hroom, hbounds⟩ := journal_holds max_bytes ws hok
  refine ⟨k, ?_, hroom, hbounds⟩
  have hread : ∀ ws : List (rflog_entry × entry_env), (∀ w ∈ ws, Fits w.1) →
      ws.filterMap (fun w => rflog_read (entry_line w)) = ws.map fun w => (w.2.utc, w.1) := by
    intro ws
    induction ws with
    | nil => exact fun _ => rfl
    | cons w ws ih =>
        intro hfits
        rw [List.filterMap_cons, rflog_read_entry_line (hfits w List.mem_cons_self), List.map_cons,
          ih fun w' hw' => hfits w' (List.mem_cons_of_mem w hw')]
  rw [htext, filterMap_file_lines rflog_read (by decide),
    hread _ fun w hw => hfits w (List.mem_of_mem_drop hw)]

/-- Three packets with room for two: the first one is lost, and the reader has the
metadata of the second and the outcome of the third. -/
theorem journal_reads_back_two :
    let ws : List (rflog_entry × entry_env) :=
      [(.tx .unconfirmed (ascii "first"), {}), (.rx (-8050) 925 (ascii "second"), {}),
        (.tx .ok (ascii "third"), {})]
    let s := run (log_entry 110) {} ws
    (file_lines (s.prev ++ s.live)).filterMap rflog_read
        = (ws.drop 1).map (fun w => (w.2.utc, w.1)) ∧
      ∃ k, (file_lines (s.prev ++ s.live)).filterMap rflog_read
          = (ws.drop k).map (fun w => (w.2.utc, w.1)) ∧
        (k = 0 ∨ 110 < s.prev.length + s.live.length) ∧
        (LHKT_RFLOG_LINE_MAX ≤ 110 → s.prev.length ≤ 110 ∧ s.live.length ≤ 110) := by
  intro ws s
  refine ⟨by decide +kernel, journal_reads_back 110 ws ?_ (by decide)⟩
  unfold NoFailure
  decide

/-! ## What is read as a transmission -/

theorem strip_leading {ending s t : Bytes} (h : strip ending s = some t) : t <+: s := by
  unfold strip at h
  split at h
  · rw [← Option.some.inj h]
    exact List.take_prefix _ _
  · exact absurd h (by simp)

/-- What stands in front of the last separator is a beginning. -/
theorem cut_last_leading {c : UInt8} {s a b : Bytes} (h : cut_last c s = some (a, b)) :
    a <+: s := by
  unfold cut_last at h
  obtain ⟨p, hcut, hp⟩ := Option.map_eq_some_iff.mp h
  obtain ⟨hs, -⟩ := cut_eq_some_iff.mp hcut
  obtain rfl : p.2.reverse = a := congrArg Prod.fst hp
  rw [← List.reverse_suffix, List.reverse_reverse, hs]
  exact (List.suffix_cons _ _).trans (List.suffix_append _ _)

/-- Taking a line apart only cuts at its end. -/
theorem rflog_split_head {line : Bytes} {fields : rflog_fields}
    (h : rflog_split line = some fields) : fields.head <+: line := by
  unfold rflog_split at h
  obtain ⟨s₁, h₁, h⟩ := Option.bind_eq_some_iff.mp h
  obtain ⟨⟨s₂, text⟩, h₂, h⟩ := Option.bind_eq_some_iff.mp h
  obtain ⟨s₃, h₃, h⟩ := Option.bind_eq_some_iff.mp h
  obtain ⟨⟨s₄, hex⟩, h₄, h⟩ := Option.bind_eq_some_iff.mp h
  obtain ⟨s₅, h₅, h⟩ := Option.bind_eq_some_iff.mp h
  obtain ⟨packet, _, h⟩ := Option.bind_eq_some_iff.mp h
  have hhex : s₅ <+: line := (strip_leading h₅).trans ((cut_last_leading h₄).trans
    ((strip_leading h₃).trans ((cut_last_leading h₂).trans (strip_leading h₁))))
  split at h
  · rw [← Option.some.inj h]
    exact hhex
  · obtain ⟨s₆, h₆, h⟩ := Option.bind_eq_some_iff.mp h
    obtain ⟨⟨s₇, tnc2⟩, h₇, h⟩ := Option.bind_eq_some_iff.mp h
    obtain ⟨s₈, h₈, h⟩ := Option.bind_eq_some_iff.mp h
    rw [← Option.some.inj h]
    exact (strip_leading h₈).trans ((cut_last_leading h₇).trans ((strip_leading h₆).trans hhex))

/-- The first letter behind the time. -/
def kind_letter (line : Bytes) : Option UInt8 := (cut (ch ' ') line).bind fun p => p.2.head?

/-- The letter behind the time tells the kind of the line. -/
theorem kind_letter_eq {utc : Bytes} (hutc : ch ' ' ∉ utc) (c : UInt8) (rest : Bytes) :
    kind_letter (utc ++ ch ' ' :: c :: rest) = some c := by
  unfold kind_letter
  rw [cut_append _ hutc]
  rfl

/-- The first of several tokens. -/
theorem splitOn_cons {s a b : Bytes} {l : List Bytes} (h : s.splitOn (ch ' ') = a :: b :: l) :
    ∃ rest, ch ' ' ∉ a ∧ s = a ++ ch ' ' :: rest ∧ rest.splitOn (ch ' ') = b :: l := by
  cases hcut : cut (ch ' ') s with
  | none =>
      rw [List.splitOn_eq_singleton (cut_eq_none_iff.mp hcut)] at h
      exact absurd (List.cons.inj h).2 (by simp)
  | some p =>
      obtain ⟨first, rest⟩ := p
      obtain ⟨rfl, hfirst⟩ := cut_eq_some_iff.mp hcut
      rw [List.splitOn_append_cons_self_of_not_mem hfirst] at h
      obtain ⟨rfl, hrest⟩ := List.cons.inj h
      exact ⟨rest, hfirst, rfl, hrest⟩

/-- What is read as a transmission has the letter of one. -/
theorem kind_letter_of_tx {line utc packet : Bytes} {outcome : rflog_outcome}
    (h : rflog_read line = some (utc, .tx outcome packet)) : kind_letter line = some (ch 'T') := by
  unfold rflog_read at h
  obtain ⟨fields, hsplit, h⟩ := Option.bind_eq_some_iff.mp h
  obtain ⟨⟨utc', entry⟩, hhead, h⟩ := Option.bind_eq_some_iff.mp h
  obtain ⟨rest, hline⟩ := rflog_split_head hsplit
  have hentry : entry fields.packet = .tx outcome packet := congrArg Prod.snd (Option.some.inj h)
  unfold read_head at hhead
  split at hhead
  · -- the tokens of a received packet make a received packet
    split at hhead
    · obtain ⟨rssi, _, hhead⟩ := Option.bind_eq_some_iff.mp hhead
      obtain ⟨snr, _, hhead⟩ := Option.bind_eq_some_iff.mp hhead
      obtain ⟨rfl, rfl⟩ := Prod.mk.inj (Option.some.inj hhead)
      exact absurd hentry (by simp)
    · exact absurd hhead (by simp)
  · rename_i htokens
    split at hhead
    · rename_i hkind
      obtain ⟨rest₁, hutc, hhead₁, htokens₁⟩ := splitOn_cons htokens
      obtain ⟨rest₂, _, hhead₂, _⟩ := splitOn_cons htokens₁
      rw [← hline, hhead₁, hhead₂, hkind, List.append_assoc]
      exact kind_letter_eq hutc (ch 'T') _
    · exact absurd hhead (by simp)
  · exact absurd hhead (by simp)

/-- The time and the letter are in front of everything that can be cut off. -/
theorem kind_letter_line_of {utc : Bytes} (hutc : ch ' ' ∉ utc) (hlen : utc.length < 40) (c : UInt8)
    (tail : Bytes) :
    kind_letter (line_of LHKT_RFLOG_LINE_MAX (utc ++ ch ' ' :: c :: tail)) = some c := by
  unfold line_of
  split
  · exact kind_letter_eq hutc c tail
  · have hroom : LHKT_RFLOG_LINE_MAX - 2 = utc.length + (1276 - utc.length + 1 + 1) := by
      simp only [LHKT_RFLOG_LINE_MAX]
      omega
    rw [hroom, List.take_length_add_append, List.take_succ_cons, List.take_succ_cons,
      List.append_assoc]
    exact kind_letter_eq hutc c _

/-- The letter of a received packet is an R. -/
theorem record_rx_letter (utc : Bytes) (rssi_cdbm snr_cdb : Int) (len : Nat) (packet : Bytes) :
    ∃ tail, record (rx_head (some utc) rssi_cdbm snr_cdb len) packet
      = utc ++ ch ' ' :: ch 'R' :: tail := by
  have hkind : ascii " RX rssi=" = ch ' ' :: ch 'R' :: ascii "X rssi=" := by decide
  unfold record rx_head
  rw [hkind, Option.getD_some]
  simp only [List.append_assoc, List.cons_append]
  exact ⟨_, rfl⟩

/-- The line of a received packet, whole or cut off, is not read as a transmission. -/
theorem read_tx_rx (rssi_cdbm snr_cdb : Int) (packet : Bytes) (e : entry_env) :
    read_tx (entry_line (.rx rssi_cdbm snr_cdb packet, e)) = none := by
  have hletter : kind_letter (entry_line (.rx rssi_cdbm snr_cdb packet, e)) ≠ some (ch 'T') := by
    unfold entry_line
    split
    · obtain ⟨tail, hrecord⟩ :=
        record_rx_letter e.utc rssi_cdbm snr_cdb packet.length packet
      show kind_letter (line_of LHKT_RFLOG_LINE_MAX
        (record (rx_head (some e.utc) rssi_cdbm snr_cdb packet.length) packet)) ≠ _
      rw [hrecord, kind_letter_line_of e.utc_blank e.utc_length]
      decide
    · decide
  unfold read_tx
  split
  · rename_i hread
    exact absurd (kind_letter_of_tx hread) hletter
  · rfl

/-- **What the files say was transmitted was logged as transmitted.** Whatever was
received besides, of any length: a reader of the files finds as transmissions the last
ones of those logged, and no others. -/
theorem journal_tx (max_bytes : Nat) (ws : List (rflog_entry × entry_env))
    (hok : ∀ w ∈ ws, NoFailure w.2.towrite_env)
    (hfits : ∀ w ∈ ws, ∀ outcome packet, w.1 = .tx outcome packet → packet.length ≤ 255) :
    let s := run (log_entry max_bytes) {} ws
    ∃ k, (file_lines (s.prev ++ s.live)).filterMap read_tx
        = (tx_log (ws.map Prod.fst)).drop k ∧
      (k = 0 ∨ max_bytes < s.prev.length + s.live.length) := by
  intro s
  obtain ⟨k, htext, hroom, -⟩ := journal_holds max_bytes ws hok
  have hread : ∀ ws : List (rflog_entry × entry_env),
      (∀ w ∈ ws, ∀ outcome packet, w.1 = .tx outcome packet → packet.length ≤ 255) →
      ws.filterMap (fun w => read_tx (entry_line w)) = tx_log (ws.map Prod.fst) := by
    intro ws
    induction ws with
    | nil => exact fun _ => rfl
    | cons w ws ih =>
        intro hfits
        have hrest := ih fun w' hw' => hfits w' (List.mem_cons_of_mem w hw')
        have hfirst := hfits w List.mem_cons_self
        obtain ⟨entry, e⟩ := w
        cases entry with
        | rx rssi_cdbm snr_cdb packet =>
            rw [List.filterMap_cons, read_tx_rx]
            exact hrest
        | tx outcome packet =>
            have hline : read_tx (entry_line (.tx outcome packet, e)) = some (outcome, packet) := by
              have hfit : Fits (.tx outcome packet) := hfirst outcome packet rfl
              unfold read_tx
              rw [rflog_read_entry_line (w := (.tx outcome packet, e)) hfit]
            rw [List.filterMap_cons, hline, hrest]
            rfl
  refine ⟨(tx_log ((ws.map Prod.fst).take k)).length, ?_, ?_⟩
  · rw [htext, filterMap_file_lines read_tx (by decide),
      hread _ fun w hw => hfits w (List.mem_of_mem_drop hw), List.map_drop]
    have hsplit : tx_log (ws.map Prod.fst)
        = tx_log ((ws.map Prod.fst).take k) ++ tx_log ((ws.map Prod.fst).drop k) := by
      unfold tx_log
      rw [← List.filterMap_append, List.take_append_drop]
    rw [hsplit, List.drop_left]
  · refine hroom.imp_left fun hk => ?_
    rw [hk]
    rfl

end LorahamKissTnc.RfJournal
