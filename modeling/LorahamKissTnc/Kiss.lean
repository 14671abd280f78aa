/-
`kiss.c`: the streaming KISS decoder and the data-frame encoder.

The decoder's buffer is the list of the bytes it has stored, so `dec->len` is
the length of `buf`. A decoder call answers 0, 1 or a negative code; here that
is `Except Lhkt (Option kiss_frame_t)`, with `.ok none` for 0.

Besides the functions this file proves what the encoder produces
(`kiss_encode_data_frame_eq`: the delimiters around the escaped bytes, or
`ERR_NOSPACE` when that does not fit) and that the decoder inverts it
(`kiss_decode_encode`), which is what the end-to-end statements use.
-/
import LorahamKissTnc.Config
import LorahamKissTnc.Lib.Machine

set_option autoImplicit false

open LorahamKissTnc.Lib.CString LorahamKissTnc.Lib.Machine
open LorahamKissTnc.Config

namespace LorahamKissTnc.Kiss

abbrev KISS_FEND : UInt8 := 0xC0
abbrev KISS_FESC : UInt8 := 0xDB
abbrev KISS_TFEND : UInt8 := 0xDC
abbrev KISS_TFESC : UInt8 := 0xDD

abbrev KISS_CMD_DATA : UInt8 := 0
abbrev KISS_CMD_TXDELAY : UInt8 := 1
abbrev KISS_CMD_PERSIST : UInt8 := 2
abbrev KISS_CMD_SLOTTIME : UInt8 := 3
abbrev KISS_CMD_TXTAIL : UInt8 := 4
abbrev KISS_CMD_FULLDUPLEX : UInt8 := 5

/-- `kiss_frame_t`; `data_len` is the length of `data`. -/
structure kiss_frame_t where
  port : UInt8
  command : UInt8
  data : Bytes
  deriving DecidableEq, Repr

/-- `kiss_decoder_t`; `len` is the length of `buf`. -/
structure kiss_decoder_t where
  in_frame : Bool
  escaped : Bool
  buf : Bytes
  deriving DecidableEq, Repr

/-- `kiss_params_t`. -/
structure kiss_params_t where
  txdelay : UInt8 := 0
  persistence : UInt8 := 0
  slottime : UInt8 := 0
  txtail : UInt8 := 0
  fullduplex : UInt8 := 0
  deriving DecidableEq, Repr

/-! ## The decoder -/

/-- `kiss_decoder_init`. -/
def kiss_decoder_init : kiss_decoder_t := ⟨false, false, []⟩

/-- `kiss_params_init`. -/
def kiss_params_init : kiss_params_t := {}

/-- `kiss_decoder_reset_frame`: only the current frame. -/
def kiss_decoder_reset_frame (dec : kiss_decoder_t) : kiss_decoder_t :=
  { dec with escaped := false, buf := [] }

/-- `kiss_decoder_drop_frame`: also leave the frame. -/
def kiss_decoder_drop_frame (_dec : kiss_decoder_t) : kiss_decoder_t :=
  ⟨false, false, []⟩

/-- `kiss_make_frame`; nothing for a frame without a command byte. -/
def kiss_make_frame (dec : kiss_decoder_t) : Option kiss_frame_t :=
  match dec.buf with
  | [] => none
  | cmd :: data => some ⟨(cmd >>> 4) &&& 0x0f, cmd &&& 0x0f, data⟩

/-- `kiss_decode_byte`. -/
def kiss_decode_byte (dec : kiss_decoder_t) (byte : UInt8) :
    kiss_decoder_t × Except Lhkt (Option kiss_frame_t) :=
  if byte = KISS_FEND then
    -- FEND ends a frame and begins the next
    if !dec.in_frame then
      (kiss_decoder_reset_frame { dec with in_frame := true }, .ok none)
    else if dec.escaped then
      -- a dangling FESC: the frame is dropped, this FEND opens the next one
      ({ kiss_decoder_drop_frame dec with in_frame := true }, .error .ERR_FORMAT)
    else
      (kiss_decoder_reset_frame dec, .ok (kiss_make_frame dec))
  else if !dec.in_frame then
    (dec, .ok none)
  else if dec.escaped ∧ byte ≠ KISS_TFEND ∧ byte ≠ KISS_TFESC then
    -- nothing is taken up again before the next FEND
    (kiss_decoder_drop_frame dec, .error .ERR_FORMAT)
  else if !dec.escaped ∧ byte = KISS_FESC then
    ({ dec with escaped := true }, .ok none)
  else
    let byte :=
      if dec.escaped then (if byte = KISS_TFEND then KISS_FEND else KISS_FESC) else byte
    -- too long: the rest is skipped up to the next FEND
    if LHKT_KISS_MAX_FRAME ≤ dec.buf.length then
      (kiss_decoder_drop_frame dec, .error .ERR_LONG)
    else
      ({ dec with escaped := false, buf := dec.buf ++ [byte] }, .ok none)

/-- The decoder over a stretch of the stream, with one answer per byte. -/
def kiss_decode (dec : kiss_decoder_t) (bytes : Bytes) :
    kiss_decoder_t × List (Except Lhkt (Option kiss_frame_t)) :=
  scan kiss_decode_byte dec bytes

/-- The non-zero answers of a decoder, in order: frames and drops. -/
def events_of (answers : List (Except Lhkt (Option kiss_frame_t))) :
    List (Except Lhkt kiss_frame_t) :=
  answers.filterMap fun
    | .ok none => none
    | .ok (some frame) => some (.ok frame)
    | .error e => some (.error e)

/-! ## Commands -/

/-- `kiss_handle_command`: remember the known parameters, ignore the rest. -/
def kiss_handle_command (params : kiss_params_t) (frame : kiss_frame_t) : kiss_params_t :=
  match frame.data with
  | [] => params
  | value :: _ =>
      if frame.command = KISS_CMD_TXDELAY then { params with txdelay := value }
      else if frame.command = KISS_CMD_PERSIST then { params with persistence := value }
      else if frame.command = KISS_CMD_SLOTTIME then { params with slottime := value }
      else if frame.command = KISS_CMD_TXTAIL then { params with txtail := value }
      else if frame.command = KISS_CMD_FULLDUPLEX then { params with fullduplex := value }
      else params

/-! ## The encoder -/

/-- `kiss_put_escaped`, with `*pos` the length of `out`. -/
def kiss_put_escaped (out_size : Nat) (out : Bytes) (byte : UInt8) : Except Lhkt Bytes :=
  if byte = KISS_FEND then
    -- an escaped byte needs room for two
    if out.length + 2 > out_size then .error .ERR_NOSPACE
    else .ok (out ++ [KISS_FESC, KISS_TFEND])
  else if byte = KISS_FESC then
    if out.length + 2 > out_size then .error .ERR_NOSPACE
    else .ok (out ++ [KISS_FESC, KISS_TFESC])
  else if out.length + 1 > out_size then .error .ERR_NOSPACE
  else .ok (out ++ [byte])

/-- `kiss_encode_data_frame`. -/
def kiss_encode_data_frame (data : Bytes) (out_size : Nat) : Except Lhkt Bytes :=
  if out_size < 3 then .error .ERR_NOSPACE
  else do
    let out ← kiss_put_escaped out_size [KISS_FEND] KISS_CMD_DATA
    let out ← data.foldlM (kiss_put_escaped out_size) out
    if out.length + 1 > out_size then .error .ERR_NOSPACE
    else .ok (out ++ [KISS_FEND])

/-! ## What the encoder produces -/

/-- The bytes one payload byte becomes. -/
def escape (byte : UInt8) : Bytes :=
  if byte = KISS_FEND then [KISS_FESC, KISS_TFEND]
  else if byte = KISS_FESC then [KISS_FESC, KISS_TFESC]
  else [byte]

/-- A whole data frame on port 0. -/
def kiss_data_frame (data : Bytes) : Bytes :=
  KISS_FEND :: KISS_CMD_DATA :: data.flatMap escape ++ [KISS_FEND]

theorem kiss_put_escaped_eq (out_size : Nat) (out : Bytes) (byte : UInt8) :
    kiss_put_escaped out_size out byte
      = if out.length + (escape byte).length ≤ out_size then .ok (out ++ escape byte)
        else .error .ERR_NOSPACE := by
  unfold kiss_put_escaped escape
  by_cases h1 : byte = KISS_FEND
  · simp only [if_pos h1, List.length_cons, List.length_nil, Nat.zero_add]
    split <;> split <;> first | rfl | omega
  · by_cases h2 : byte = KISS_FESC
    · simp only [if_neg h1, if_pos h2, List.length_cons, List.length_nil, Nat.zero_add]
      split <;> split <;> first | rfl | omega
    · simp only [if_neg h1, if_neg h2, List.length_cons, List.length_nil, Nat.zero_add]
      split <;> split <;> first | rfl | omega

/-- The escaping loop: everything, or no space. The space checks are made byte
by byte, but a prefix never needs more than the whole. -/
theorem put_escaped_loop_eq (out_size : Nat) (data out : Bytes) (hout : out.length ≤ out_size) :
    data.foldlM (kiss_put_escaped out_size) out
      = if out.length + (data.flatMap escape).length ≤ out_size
        then .ok (out ++ data.flatMap escape) else .error .ERR_NOSPACE := by
  induction data generalizing out with
  | nil => rw [List.flatMap_nil, List.append_nil, List.length_nil, Nat.add_zero, if_pos hout]; rfl
  | cons b data ih =>
      rw [List.foldlM_cons, kiss_put_escaped_eq, List.flatMap_cons, List.length_append]
      by_cases hb : out.length + (escape b).length ≤ out_size
      · rw [if_pos hb]
        have hlen : (out ++ escape b).length ≤ out_size := by rwa [List.length_append]
        show data.foldlM (kiss_put_escaped out_size) (out ++ escape b) = _
        rw [ih (out ++ escape b) hlen, List.length_append, List.append_assoc, Nat.add_assoc]
      · rw [if_neg hb, if_neg (by omega)]
        rfl

/-- **The encoder.** The frame, when it fits; `ERR_NOSPACE` otherwise. -/
theorem kiss_encode_data_frame_eq (data : Bytes) (out_size : Nat) :
    kiss_encode_data_frame data out_size
      = if (kiss_data_frame data).length ≤ out_size then .ok (kiss_data_frame data)
        else .error .ERR_NOSPACE := by
  have hlen : (kiss_data_frame data).length = 3 + (data.flatMap escape).length := by
    simp only [kiss_data_frame, List.cons_append, List.length_cons, List.length_append,
      List.length_nil]
    omega
  unfold kiss_encode_data_frame
  by_cases h3 : out_size < 3
  · rw [if_pos h3, if_neg (by omega)]
  · have hcmd : kiss_put_escaped out_size [KISS_FEND] KISS_CMD_DATA
        = .ok [KISS_FEND, KISS_CMD_DATA] := by
      rw [kiss_put_escaped_eq, if_pos (by show 2 ≤ out_size; omega)]
      rfl
    rw [if_neg h3, hcmd]
    show (data.foldlM (kiss_put_escaped out_size) [KISS_FEND, KISS_CMD_DATA] >>= _) = _
    rw [put_escaped_loop_eq out_size data _ (by show 2 ≤ out_size; omega)]
    by_cases hfit : 3 + (data.flatMap escape).length ≤ out_size
    · rw [if_pos (by show 2 + _ ≤ out_size; omega), if_pos (by omega)]
      show (if _ then _ else _) = _
      rw [if_neg (by simp only [List.length_append, List.length_cons, List.length_nil]; omega)]
      rfl
    · rw [if_neg (by omega : ¬(kiss_data_frame data).length ≤ out_size)]
      by_cases hloop : 2 + (data.flatMap escape).length ≤ out_size
      · rw [if_pos (by show 2 + _ ≤ out_size; omega)]
        show (if _ then _ else _) = _
        rw [if_pos (by simp only [List.length_append, List.length_cons, List.length_nil]; omega)]
      · rw [if_neg (by show ¬2 + _ ≤ out_size; omega)]
        rfl

theorem length_escape_le (byte : UInt8) : (escape byte).length ≤ 2 := by
  unfold escape
  split
  · exact Nat.le_refl 2
  · split
    · exact Nat.le_refl 2
    · exact Nat.le_succ 1

theorem length_kiss_data_frame_le (data : Bytes) :
    (kiss_data_frame data).length ≤ 3 + 2 * data.length := by
  have hesc : (data.flatMap escape).length ≤ 2 * data.length := by
    induction data with
    | nil => exact Nat.le_refl 0
    | cons b data ih =>
        have hb := length_escape_le b
        rw [List.flatMap_cons, List.length_append, List.length_cons]
        omega
  simp only [kiss_data_frame, List.cons_append, List.length_cons, List.length_append,
    List.length_nil]
  omega

/-! ## The decoder inverts the encoder -/

/-- Inside a frame, FESC only arms the escape. -/
theorem kiss_decode_byte_fesc (buf : Bytes) :
    kiss_decode_byte ⟨true, false, buf⟩ KISS_FESC = (⟨true, true, buf⟩, .ok none) := rfl

/-- The byte after FESC stores the byte it stands for. -/
theorem kiss_decode_byte_tfend (buf : Bytes) (hbuf : buf.length < LHKT_KISS_MAX_FRAME) :
    kiss_decode_byte ⟨true, true, buf⟩ KISS_TFEND
      = (⟨true, false, buf ++ [KISS_FEND]⟩, .ok none) := by
  show (if LHKT_KISS_MAX_FRAME ≤ buf.length then _ else _) = _
  rw [if_neg (by omega)]
  rfl

theorem kiss_decode_byte_tfesc (buf : Bytes) (hbuf : buf.length < LHKT_KISS_MAX_FRAME) :
    kiss_decode_byte ⟨true, true, buf⟩ KISS_TFESC
      = (⟨true, false, buf ++ [KISS_FESC]⟩, .ok none) := by
  show (if LHKT_KISS_MAX_FRAME ≤ buf.length then _ else _) = _
  rw [if_neg (by omega)]
  rfl

/-- Any other byte inside a frame stores itself. -/
theorem kiss_decode_byte_plain (buf : Bytes) (byte : UInt8) (h1 : byte ≠ KISS_FEND)
    (h2 : byte ≠ KISS_FESC) (hbuf : buf.length < LHKT_KISS_MAX_FRAME) :
    kiss_decode_byte ⟨true, false, buf⟩ byte = (⟨true, false, buf ++ [byte]⟩, .ok none) := by
  have hroom : ¬LHKT_KISS_MAX_FRAME ≤ buf.length := by omega
  simp only [kiss_decode_byte, h1, h2, hroom, if_false, Bool.not_true, Bool.false_eq_true,
    false_and, and_false]

/-- Inside a frame, the bytes of one escaped byte store that byte. -/
theorem kiss_decode_escape (buf : Bytes) (byte : UInt8) (hbuf : buf.length < LHKT_KISS_MAX_FRAME) :
    (kiss_decode ⟨true, false, buf⟩ (escape byte)).1 = ⟨true, false, buf ++ [byte]⟩ ∧
      events_of (kiss_decode ⟨true, false, buf⟩ (escape byte)).2 = [] := by
  unfold escape kiss_decode
  by_cases h1 : byte = KISS_FEND
  · subst h1
    rw [if_pos rfl, scan_cons, kiss_decode_byte_fesc, scan_cons, kiss_decode_byte_tfend buf hbuf]
    exact ⟨rfl, rfl⟩
  · by_cases h2 : byte = KISS_FESC
    · subst h2
      rw [if_neg h1, if_pos rfl, scan_cons, kiss_decode_byte_fesc, scan_cons,
        kiss_decode_byte_tfesc buf hbuf]
      exact ⟨rfl, rfl⟩
    · rw [if_neg h1, if_neg h2, scan_cons, kiss_decode_byte_plain buf byte h1 h2 hbuf]
      exact ⟨rfl, rfl⟩

theorem events_of_append (a b : List (Except Lhkt (Option kiss_frame_t))) :
    events_of (a ++ b) = events_of a ++ events_of b := List.filterMap_append

/-- Inside a frame, escaped payload is stored byte for byte, without an event. -/
theorem kiss_decode_payload (data buf : Bytes)
    (hlen : buf.length + data.length ≤ LHKT_KISS_MAX_FRAME) :
    (kiss_decode ⟨true, false, buf⟩ (data.flatMap escape)).1 = ⟨true, false, buf ++ data⟩ ∧
      events_of (kiss_decode ⟨true, false, buf⟩ (data.flatMap escape)).2 = [] := by
  induction data generalizing buf with
  | nil => rw [List.flatMap_nil, List.append_nil]; exact ⟨rfl, rfl⟩
  | cons b data ih =>
      rw [List.length_cons] at hlen
      obtain ⟨hst, hfr⟩ := kiss_decode_escape buf b (by omega)
      obtain ⟨hst', hfr'⟩ := ih (buf ++ [b]) (by rw [List.length_append, List.length_singleton]; omega)
      rw [List.flatMap_cons, kiss_decode, scan_append]
      rw [kiss_decode] at hst hfr hst' hfr'
      rw [hst]
      refine ⟨?_, ?_⟩
      · rw [hst', List.append_assoc, List.singleton_append]
      · rw [events_of_append, hfr, hfr', List.append_nil]

/-- Behind a delimiter, the rest of an encoded data frame is reported as that
frame, and the decoder is at the start of the next one. -/
theorem kiss_decode_body (data : Bytes) (hlen : data.length < LHKT_KISS_MAX_FRAME) :
    (kiss_decode ⟨true, false, []⟩ (KISS_CMD_DATA :: data.flatMap escape ++ [KISS_FEND])).1
        = ⟨true, false, []⟩ ∧
      events_of (kiss_decode ⟨true, false, []⟩
        (KISS_CMD_DATA :: data.flatMap escape ++ [KISS_FEND])).2
          = [.ok ⟨0, KISS_CMD_DATA, data⟩] := by
  obtain ⟨hst, hfr⟩ := kiss_decode_payload data [KISS_CMD_DATA]
    (by rw [List.length_singleton]; omega)
  have hopen : kiss_decode ⟨true, false, []⟩ [KISS_CMD_DATA]
      = (⟨true, false, [KISS_CMD_DATA]⟩, [.ok none]) := by decide
  have hclose : kiss_decode ⟨true, false, [KISS_CMD_DATA] ++ data⟩ [KISS_FEND]
      = (⟨true, false, []⟩, [.ok (some ⟨0, KISS_CMD_DATA, data⟩)]) := by
    simp [kiss_decode, scan, kiss_decode_byte, kiss_decoder_reset_frame, kiss_make_frame]
  rw [kiss_decode] at hst hfr hopen hclose
  rw [← List.singleton_append, List.append_assoc, kiss_decode, scan_append, hopen, scan_append, hst,
    hclose]
  refine ⟨rfl, ?_⟩
  rw [events_of_append, events_of_append, hfr]
  rfl

/-- **Round trip.** A fresh decoder that is fed one encoded data frame reports
exactly that frame, without an error, and is at the start of the next one
afterwards. -/
theorem kiss_decode_encode (data : Bytes) (hlen : data.length < LHKT_KISS_MAX_FRAME) :
    (kiss_decode kiss_decoder_init (kiss_data_frame data)).1 = ⟨true, false, []⟩ ∧
      events_of (kiss_decode kiss_decoder_init (kiss_data_frame data)).2
        = [.ok ⟨0, KISS_CMD_DATA, data⟩] :=
  kiss_decode_body data hlen

end LorahamKissTnc.Kiss
