/-
The KISS decoder against its batch definition, and against the encoder.

The batch definition cuts the stream at the delimiters and looks at each piece as
a whole: `unescape` reads a piece from left to right and stops at the first thing
that is wrong with it. The streaming decoder keeps, inside a piece, exactly what
`unescape` has read of it so far (`kiss_decode_segment`); a delimiter brings it
back to the same state from everywhere (`kiss_decode_byte_fend`), so the pieces
do not influence each other.

That last fact is also why the decoder finds the encoder's frames again behind
any garbage.
-/
import LorahamKissTnc.Kiss

set_option autoImplicit false

open LorahamKissTnc.Lib.CString LorahamKissTnc.Lib.Machine
open LorahamKissTnc.Config LorahamKissTnc.Kiss

namespace LorahamKissTnc.KissStream

/-! ## The batch definition -/

/-- One more unescaped byte, if there is room for it. -/
def stored (room : Nat) (byte : UInt8) (rest : Nat → Except Lhkt (Bytes × Bool)) :
    Except Lhkt (Bytes × Bool) :=
  match room with
  | 0 => .error .ERR_LONG
  | room + 1 => (rest room).map fun r => (byte :: r.1, r.2)

/-- The bytes a piece between two delimiters stands for, and whether it ends in
the middle of an escape. The first bad escape, or the first byte for which there
is no room, makes it an error. -/
def unescape : Nat → Bytes → Except Lhkt (Bytes × Bool)
  | _, [] => .ok ([], false)
  | room, b :: rest =>
      if b = KISS_FESC then
        match rest with
        | [] => .ok ([], true)
        | c :: rest =>
            if c = KISS_TFEND then stored room KISS_FEND fun room => unescape room rest
            else if c = KISS_TFESC then stored room KISS_FESC fun room => unescape room rest
            else .error .ERR_FORMAT
      else stored room b fun room => unescape room rest

/-- What a piece with a delimiter behind it gives. -/
def closed_segment (segment : Bytes) : List (Except Lhkt kiss_frame_t) :=
  match unescape LHKT_KISS_MAX_FRAME segment with
  | .error ret => [.error ret]
  | .ok (_, true) => [.error .ERR_FORMAT]
  | .ok ([], false) => []
  | .ok (cmd :: data, false) => [.ok ⟨(cmd >>> 4) &&& 0x0f, cmd &&& 0x0f, data⟩]

/-- What the piece at the end of the stream gives: an error it has already. -/
def open_segment (segment : Bytes) : List (Except Lhkt kiss_frame_t) :=
  match unescape LHKT_KISS_MAX_FRAME segment with
  | .error ret => [.error ret]
  | .ok _ => []

/-- The pieces in order, the last one without a delimiter behind it. -/
def segment_events : List Bytes → List (Except Lhkt kiss_frame_t)
  | [] => []
  | [segment] => open_segment segment
  | segment :: segments => closed_segment segment ++ segment_events segments

/-- The whole stream: what is in front of the first delimiter does not count. -/
def kiss_batch (bytes : Bytes) : List (Except Lhkt kiss_frame_t) :=
  segment_events (bytes.splitOn KISS_FEND).tail

/-! ## One piece -/

theorem kiss_decode_cons (dec : kiss_decoder_t) (b : UInt8) (bytes : Bytes) :
    kiss_decode dec (b :: bytes)
      = ((kiss_decode (kiss_decode_byte dec b).1 bytes).1,
          (kiss_decode_byte dec b).2 :: (kiss_decode (kiss_decode_byte dec b).1 bytes).2) := rfl

theorem kiss_decode_append (dec : kiss_decoder_t) (a b : Bytes) :
    kiss_decode dec (a ++ b)
      = ((kiss_decode (kiss_decode dec a).1 b).1,
          (kiss_decode dec a).2 ++ (kiss_decode (kiss_decode dec a).1 b).2) :=
  scan_append kiss_decode_byte dec a b

/-- Outside a frame nothing but a delimiter matters. -/
theorem kiss_decode_outside (bytes : Bytes) (h : KISS_FEND ∉ bytes) :
    (kiss_decode ⟨false, false, []⟩ bytes).1 = ⟨false, false, []⟩ ∧
      events_of (kiss_decode ⟨false, false, []⟩ bytes).2 = [] := by
  induction bytes with
  | nil => exact ⟨rfl, rfl⟩
  | cons b bytes ih =>
      simp only [List.mem_cons, not_or] at h
      have hbyte : kiss_decode_byte ⟨false, false, []⟩ b = (⟨false, false, []⟩, .ok none) := by
        simp [kiss_decode_byte, Ne.symm h.1]
      rw [kiss_decode_cons, hbyte]
      exact ih h.2

/-- What the decoder has done with a piece, of which `buf` was stored before. -/
def Follows (buf : Bytes) (r : kiss_decoder_t × List (Except Lhkt (Option kiss_frame_t))) :
    Except Lhkt (Bytes × Bool) → Prop
  | .ok (data, escaped) => r.1 = ⟨true, escaped, buf ++ data⟩ ∧ events_of r.2 = []
  | .error ret => r.1 = ⟨false, false, []⟩ ∧ events_of r.2 = [.error ret]

/-- The rest of a piece, with or without an escape pending. -/
def resumed (escaped : Bool) (room : Nat) (bytes : Bytes) : Except Lhkt (Bytes × Bool) :=
  if escaped then unescape room (KISS_FESC :: bytes) else unescape room bytes

/-- A byte that drops the frame: what follows up to the delimiter is skipped. -/
theorem follows_drop {dec : kiss_decoder_t} {b : UInt8} {bytes : Bytes} {ret : Lhkt} (buf : Bytes)
    (hbyte : kiss_decode_byte dec b = (⟨false, false, []⟩, .error ret)) (h : KISS_FEND ∉ bytes) :
    Follows buf (kiss_decode dec (b :: bytes)) (.error ret) := by
  obtain ⟨hstate, hevents⟩ := kiss_decode_outside bytes h
  rw [kiss_decode_cons, hbyte]
  refine ⟨hstate, ?_⟩
  show events_of (.error ret :: _) = _
  rw [show events_of (.error ret :: (kiss_decode ⟨false, false, []⟩ bytes).2)
    = .error ret :: events_of (kiss_decode ⟨false, false, []⟩ bytes).2 from rfl, hevents]

/-- A byte without an event. -/
theorem follows_step {dec dec' : kiss_decoder_t} {b : UInt8} {bytes buf : Bytes}
    {r : Except Lhkt (Bytes × Bool)} (hbyte : kiss_decode_byte dec b = (dec', .ok none))
    (h : Follows buf (kiss_decode dec' bytes) r) : Follows buf (kiss_decode dec (b :: bytes)) r := by
  rw [kiss_decode_cons, hbyte]
  match r with
  | .ok _ => exact ⟨h.1, h.2⟩
  | .error _ => exact ⟨h.1, h.2⟩

/-- A byte that is stored, or for which there is no room. -/
theorem follows_stored {dec : kiss_decoder_t} {b value : UInt8} {bytes buf : Bytes}
    (hbuf : buf.length ≤ LHKT_KISS_MAX_FRAME) (h : KISS_FEND ∉ bytes)
    (hbyte : kiss_decode_byte dec b
      = if LHKT_KISS_MAX_FRAME ≤ buf.length then (⟨false, false, []⟩, .error .ERR_LONG)
        else (⟨true, false, buf ++ [value]⟩, .ok none))
    (ih : (buf ++ [value]).length ≤ LHKT_KISS_MAX_FRAME →
      Follows (buf ++ [value]) (kiss_decode ⟨true, false, buf ++ [value]⟩ bytes)
        (unescape (LHKT_KISS_MAX_FRAME - (buf ++ [value]).length) bytes)) :
    Follows buf (kiss_decode dec (b :: bytes))
      (stored (LHKT_KISS_MAX_FRAME - buf.length) value fun room => unescape room bytes) := by
  by_cases hfull : LHKT_KISS_MAX_FRAME ≤ buf.length
  · rw [if_pos hfull] at hbyte
    have hroom : LHKT_KISS_MAX_FRAME - buf.length = 0 := by omega
    rw [hroom]
    exact follows_drop buf hbyte h
  · rw [if_neg hfull] at hbyte
    have hlen : (buf ++ [value]).length = buf.length + 1 := by simp
    have hroom : LHKT_KISS_MAX_FRAME - buf.length
        = LHKT_KISS_MAX_FRAME - (buf ++ [value]).length + 1 := by omega
    have ih := ih (by omega)
    rw [hroom, stored]
    refine follows_step hbyte ?_
    -- the byte moves from what was stored to what the piece gives
    match hr : unescape (LHKT_KISS_MAX_FRAME - (buf ++ [value]).length) bytes with
    | .error ret =>
        rw [hr] at ih
        exact ih
    | .ok (data, escaped) =>
        rw [hr] at ih
        refine ⟨?_, ih.2⟩
        rw [ih.1]
        simp

/-- **Inside a piece** the decoder has what `unescape` has read so far. -/
theorem kiss_decode_segment (bytes : Bytes) : ∀ (escaped : Bool) (buf : Bytes),
    KISS_FEND ∉ bytes → buf.length ≤ LHKT_KISS_MAX_FRAME →
    Follows buf (kiss_decode ⟨true, escaped, buf⟩ bytes)
      (resumed escaped (LHKT_KISS_MAX_FRAME - buf.length) bytes) := by
  induction bytes with
  | nil =>
      intro escaped buf _ _
      cases escaped <;> simp [resumed, unescape, Follows, kiss_decode, events_of]
  | cons b bytes ih =>
      intro escaped buf hfend hbuf
      simp only [List.mem_cons, not_or] at hfend
      have hne : b ≠ KISS_FEND := Ne.symm hfend.1
      have hnext : ∀ value, (buf ++ [value]).length ≤ LHKT_KISS_MAX_FRAME →
          Follows (buf ++ [value]) (kiss_decode ⟨true, false, buf ++ [value]⟩ bytes)
            (unescape (LHKT_KISS_MAX_FRAME - (buf ++ [value]).length) bytes) :=
        fun value hlen => ih false (buf ++ [value]) hfend.2 hlen
      cases escaped with
      | true =>
          -- the second byte of an escape
          show Follows buf _ (unescape _ (KISS_FESC :: b :: bytes))
          rw [unescape, if_pos rfl]
          by_cases h1 : b = KISS_TFEND
          · rw [if_pos h1]
            refine follows_stored hbuf hfend.2 ?_ (hnext KISS_FEND)
            rw [h1]
            rfl
          · rw [if_neg h1]
            by_cases h2 : b = KISS_TFESC
            · rw [if_pos h2]
              refine follows_stored hbuf hfend.2 ?_ (hnext KISS_FESC)
              rw [h2]
              rfl
            · rw [if_neg h2]
              refine follows_drop buf ?_ hfend.2
              simp [kiss_decode_byte, kiss_decoder_drop_frame, hne, h1, h2]
      | false =>
          show Follows buf _ (unescape _ (b :: bytes))
          by_cases h1 : b = KISS_FESC
          · -- the decoder and the batch definition both wait for the next byte
            have hrest := ih true buf hfend.2 hbuf
            rw [h1]
            exact follows_step (kiss_decode_byte_fesc buf) hrest
          · rw [unescape.eq_def]
            dsimp only
            rw [if_neg h1]
            refine follows_stored hbuf hfend.2 ?_ (hnext b)
            simp [kiss_decode_byte, kiss_decoder_drop_frame, hne, h1]

/-! ## The delimiters -/

/-- Behind a delimiter the decoder is at the start of a frame, whatever happened
before. -/
theorem kiss_decode_byte_fend (dec : kiss_decoder_t) :
    (kiss_decode_byte dec KISS_FEND).1 = ⟨true, false, []⟩ := by
  obtain ⟨in_frame, escaped, buf⟩ := dec
  cases in_frame <;> cases escaped <;> rfl

/-- The delimiter reports what the piece in front of it gives, unless that was
reported already. -/
theorem kiss_decode_closed {segment : Bytes} (h : KISS_FEND ∉ segment) (bytes : Bytes) :
    events_of (kiss_decode ⟨true, false, []⟩ (segment ++ KISS_FEND :: bytes)).2
      = closed_segment segment ++ events_of (kiss_decode ⟨true, false, []⟩ bytes).2 := by
  have hsegment : Follows [] (kiss_decode ⟨true, false, []⟩ segment)
      (unescape LHKT_KISS_MAX_FRAME segment) :=
    kiss_decode_segment segment false [] h (Nat.zero_le _)
  rw [kiss_decode_append, kiss_decode_cons, kiss_decode_byte_fend, events_of_append]
  have hsplit : ∀ answer, events_of (answer :: (kiss_decode ⟨true, false, []⟩ bytes).2)
      = events_of [answer] ++ events_of (kiss_decode ⟨true, false, []⟩ bytes).2 :=
    fun answer => events_of_append [answer] _
  rw [hsplit, ← List.append_assoc]
  congr 1
  unfold closed_segment
  match hr : unescape LHKT_KISS_MAX_FRAME segment with
  | .error ret =>
      -- the frame was dropped, so this delimiter only opens the next one
      rw [hr] at hsegment
      rw [hsegment.1, hsegment.2]
      rfl
  | .ok (data, true) =>
      rw [hr] at hsegment
      rw [hsegment.1, hsegment.2]
      rfl
  | .ok ([], false) =>
      rw [hr] at hsegment
      rw [hsegment.1, hsegment.2]
      rfl
  | .ok (cmd :: data, false) =>
      rw [hr] at hsegment
      rw [hsegment.1, hsegment.2]
      rfl

theorem kiss_decode_open {segment : Bytes} (h : KISS_FEND ∉ segment) :
    events_of (kiss_decode ⟨true, false, []⟩ segment).2 = open_segment segment := by
  have hsegment : Follows [] (kiss_decode ⟨true, false, []⟩ segment)
      (unescape LHKT_KISS_MAX_FRAME segment) :=
    kiss_decode_segment segment false [] h (Nat.zero_le _)
  unfold open_segment
  match hr : unescape LHKT_KISS_MAX_FRAME segment with
  | .error ret =>
      rw [hr] at hsegment
      exact hsegment.2
  | .ok (data, escaped) =>
      rw [hr] at hsegment
      exact hsegment.2

/-- The pieces behind the first delimiter. The induction is on what is still to
come; `segment` is what there is of the current piece. -/
theorem kiss_decode_segments (bytes : Bytes) : ∀ segment : Bytes, KISS_FEND ∉ segment →
    events_of (kiss_decode ⟨true, false, []⟩ (segment ++ bytes)).2
      = segment_events ((bytes.splitOn KISS_FEND).modifyHead (segment ++ ·)) := by
  induction bytes with
  | nil =>
      intro segment h
      rw [List.append_nil, List.splitOn_nil, List.modifyHead_cons, List.append_nil]
      exact kiss_decode_open h
  | cons b bytes ih =>
      intro segment h
      obtain ⟨first, rest, hcut⟩ := List.exists_cons_of_ne_nil (List.splitOn_ne_nil KISS_FEND bytes)
      rw [List.splitOn_cons_eq_if_modifyHead]
      by_cases hb : b = KISS_FEND
      · have hrest := ih [] List.not_mem_nil
        rw [hcut] at hrest ⊢
        rw [hb, kiss_decode_closed h, if_pos (by simp), List.modifyHead_cons, List.append_nil]
        rw [List.nil_append, List.modifyHead_cons, List.nil_append] at hrest
        rw [hrest]
        rfl
      · have hmem : KISS_FEND ∉ segment ++ [b] := by
          simp [h, Ne.symm hb]
        have hrest := ih (segment ++ [b]) hmem
        rw [hcut] at hrest ⊢
        rw [List.append_assoc, List.singleton_append] at hrest
        rw [hrest, if_neg (by simpa using hb)]
        simp

/-- A fresh decoder waits for the first delimiter. -/
theorem kiss_decode_from_init (bytes : Bytes) :
    events_of (kiss_decode kiss_decoder_init bytes).2 = kiss_batch bytes := by
  unfold kiss_batch
  induction bytes with
  | nil => rfl
  | cons b bytes ih =>
      obtain ⟨first, rest, hcut⟩ := List.exists_cons_of_ne_nil (List.splitOn_ne_nil KISS_FEND bytes)
      rw [List.splitOn_cons_eq_if_modifyHead, kiss_decode_cons]
      by_cases hb : b = KISS_FEND
      · have hrest := kiss_decode_segments bytes [] List.not_mem_nil
        rw [List.nil_append, hcut, List.modifyHead_cons, List.nil_append] at hrest
        rw [hb, kiss_decode_byte_fend, if_pos (by simp), List.tail_cons, hcut]
        exact hrest
      · have hbyte : kiss_decode_byte kiss_decoder_init b = (kiss_decoder_init, .ok none) := by
          simp [kiss_decode_byte, kiss_decoder_init, hb]
        rw [hbyte, if_neg (by simpa using hb), hcut, List.modifyHead_cons, List.tail_cons]
        rw [hcut, List.tail_cons] at ih
        exact ih

/-! ## The bounds -/

/-- The buffer never holds more than it can. -/
theorem kiss_decode_byte_length {dec : kiss_decoder_t} (h : dec.buf.length ≤ LHKT_KISS_MAX_FRAME)
    (b : UInt8) :
    (kiss_decode_byte dec b).1.buf.length ≤ LHKT_KISS_MAX_FRAME ∧
      ∀ frame, (kiss_decode_byte dec b).2 = .ok (some frame) →
        frame.data.length < LHKT_KISS_MAX_FRAME := by
  unfold kiss_decode_byte
  split
  · split
    · exact ⟨Nat.zero_le _, fun _ hf => nomatch hf⟩
    · split
      · exact ⟨Nat.zero_le _, fun _ hf => nomatch hf⟩
      · refine ⟨Nat.zero_le _, fun frame hf => ?_⟩
        -- the command byte is stored too
        unfold kiss_make_frame at hf
        split at hf
        · exact nomatch hf
        · rename_i cmd data hbuf
          obtain rfl := Option.some.inj (Except.ok.inj hf)
          rw [hbuf, List.length_cons] at h
          exact h
  · split
    · exact ⟨h, fun _ hf => nomatch hf⟩
    · split
      · exact ⟨Nat.zero_le _, fun _ hf => nomatch hf⟩
      · split
        · exact ⟨h, fun _ hf => nomatch hf⟩
        · dsimp only
          split
          · exact ⟨Nat.zero_le _, fun _ hf => nomatch hf⟩
          · rename_i hroom
            refine ⟨?_, fun _ hf => nomatch hf⟩
            simp only [List.length_append, List.length_singleton]
            omega

theorem kiss_decode_length (bytes : Bytes) : ∀ dec : kiss_decoder_t,
    dec.buf.length ≤ LHKT_KISS_MAX_FRAME →
    (kiss_decode dec bytes).1.buf.length ≤ LHKT_KISS_MAX_FRAME ∧
      ∀ frame, .ok frame ∈ events_of (kiss_decode dec bytes).2 →
        frame.data.length < LHKT_KISS_MAX_FRAME := by
  induction bytes with
  | nil => exact fun dec h => ⟨h, fun _ hf => absurd hf List.not_mem_nil⟩
  | cons b bytes ih =>
      intro dec h
      obtain ⟨hbuf, hframe⟩ := kiss_decode_byte_length h b
      obtain ⟨hrest, hframes⟩ := ih _ hbuf
      rw [kiss_decode_cons]
      refine ⟨hrest, fun frame hf => ?_⟩
      rw [show (kiss_decode_byte dec b).2 :: (kiss_decode (kiss_decode_byte dec b).1 bytes).2
        = [(kiss_decode_byte dec b).2] ++ (kiss_decode (kiss_decode_byte dec b).1 bytes).2 from rfl,
        events_of_append, List.mem_append] at hf
      rcases hf with hf | hf
      · match hanswer : (kiss_decode_byte dec b).2 with
        | .ok none =>
            rw [hanswer] at hf
            exact absurd hf List.not_mem_nil
        | .ok (some frame') =>
            rw [hanswer] at hf
            obtain rfl := Except.ok.inj (List.mem_singleton.mp hf)
            exact hframe frame hanswer
        | .error ret =>
            rw [hanswer] at hf
            exact nomatch List.mem_singleton.mp hf
      · exact hframes frame hf

/-- **The streaming decoder is the batch definition.** For every stream, and so
for every prefix of one, a fresh decoder reports exactly what the batch
definition gives, and stays within its bounds. -/
theorem kiss_decode_is_batch (bytes : Bytes) :
    events_of (kiss_decode kiss_decoder_init bytes).2 = kiss_batch bytes ∧
      (kiss_decode kiss_decoder_init bytes).1.buf.length ≤ 1024 ∧
      ∀ frame, .ok frame ∈ events_of (kiss_decode kiss_decoder_init bytes).2 →
        frame.data.length ≤ 1023 := by
  obtain ⟨hbuf, hframes⟩ := kiss_decode_length bytes kiss_decoder_init (Nat.zero_le _)
  exact ⟨kiss_decode_from_init bytes, hbuf, fun frame hf => Nat.le_of_lt_succ (hframes frame hf)⟩

example : kiss_batch [1, 0xC0, 0xC0, 0x12, 7, 0xC0, 0xDB, 0xC0, 0xDB, 1, 2, 0xC0, 3]
    = [.ok ⟨1, 2, [7]⟩, .error .ERR_FORMAT, .error .ERR_FORMAT] := by decide +kernel

/-! ## The encoder's frames behind anything -/

/-- Encoded frames one behind the other, from any state: only the first delimiter
can report something of what was before. -/
theorem kiss_decode_frames (data : List Bytes) : ∀ dec : kiss_decoder_t,
    (∀ d ∈ data, d.length < LHKT_KISS_MAX_FRAME) →
    events_of ((kiss_decode dec (data.flatMap kiss_data_frame)).2.drop 1)
      = data.map fun d => .ok ⟨0, KISS_CMD_DATA, d⟩ := by
  induction data with
  | nil => exact fun _ _ => rfl
  | cons d data ih =>
      intro dec hlen
      simp only [List.mem_cons, forall_eq_or_imp] at hlen
      obtain ⟨hstate, hevents⟩ := kiss_decode_body d hlen.1
      have hframe : (d :: data).flatMap kiss_data_frame
          = KISS_FEND :: ((KISS_CMD_DATA :: d.flatMap escape ++ [KISS_FEND])
            ++ data.flatMap kiss_data_frame) := rfl
      rw [hframe, kiss_decode_cons, kiss_decode_byte_fend, List.drop_succ_cons, List.drop_zero,
        kiss_decode_append, hstate, events_of_append, hevents]
      -- the next frame's first delimiter closes an empty piece
      have hnext := ih ⟨true, false, []⟩ hlen.2
      have hquiet : events_of (kiss_decode ⟨true, false, []⟩ (data.flatMap kiss_data_frame)).2
          = events_of ((kiss_decode ⟨true, false, []⟩ (data.flatMap kiss_data_frame)).2.drop 1) := by
        match data with
        | [] => rfl
        | _ :: _ => rfl
      rw [hquiet, hnext]
      rfl

/-- The bytes the encoder has to escape. -/
def escaped_bytes (data : Bytes) : Nat :=
  (data.filter fun b => b = KISS_FEND ∨ b = KISS_FESC).length

theorem length_escape (data : Bytes) :
    (data.flatMap escape).length = data.length + escaped_bytes data := by
  unfold escaped_bytes
  induction data with
  | nil => rfl
  | cons b data ih =>
      rw [List.flatMap_cons, List.length_append, ih]
      by_cases hb : b = KISS_FEND ∨ b = KISS_FESC
      · have hlen : (escape b).length = 2 := by
          rcases hb with rfl | rfl <;> rfl
        rw [List.filter_cons_of_pos (by simpa using hb)]
        simp only [List.length_cons]
        omega
      · have hlen : (escape b).length = 1 := by
          simp only [not_or] at hb
          simp [escape, hb]
        rw [List.filter_cons_of_neg (by simpa using hb)]
        simp only [List.length_cons]
        omega

/-- `*out_len`: zero from the start, the length of the frame at the end. -/
def kiss_out_len (r : Except Lhkt Bytes) : Nat :=
  match r with
  | .ok out => out.length
  | .error _ => 0

/-- **Round trip with resynchronisation.** From any state of the decoder, so also
behind any garbage, encoded data frames give at most one event at the first
delimiter and then exactly the frames; and the encoder runs out of space exactly
when delimiters, command and escaped bytes do not fit. -/
theorem kiss_round_trip :
    (∀ (dec : kiss_decoder_t) (data frames : List Bytes),
      (∀ d ∈ data, d.length ≤ 1023) →
      List.Forall₂ (fun d frame => ∃ out_size, kiss_encode_data_frame d out_size = .ok frame)
        data frames →
      (events_of ((kiss_decode dec frames.flatten).2.take 1)).length ≤ 1 ∧
      events_of ((kiss_decode dec frames.flatten).2.drop 1)
        = data.map fun d => .ok ⟨0, KISS_CMD_DATA, d⟩) ∧
    ∀ (d : Bytes) (out_size : Nat),
      (kiss_encode_data_frame d out_size = .error .ERR_NOSPACE ∧
          kiss_out_len (kiss_encode_data_frame d out_size) = 0 ↔
        out_size < 3 + d.length + escaped_bytes d) := by
  have hlen : ∀ d, (kiss_data_frame d).length = 3 + d.length + escaped_bytes d := by
    intro d
    have hesc := length_escape d
    simp only [kiss_data_frame, List.cons_append, List.length_cons, List.length_append,
      List.length_nil]
    omega
  refine ⟨fun dec data frames hdata hframes => ?_, fun d out_size => ?_⟩
  · -- whatever space was offered, a frame that was encoded is the one encoding of its data
    have hflat : frames.flatten = data.flatMap kiss_data_frame := by
      clear hdata
      induction hframes with
      | nil => rfl
      | cons hframe _ ih =>
          obtain ⟨out_size, hframe⟩ := hframe
          rw [kiss_encode_data_frame_eq] at hframe
          split at hframe
          · rw [List.flatten_cons, List.flatMap_cons, ih, Except.ok.inj hframe]
          · cases hframe
    rw [hflat]
    refine ⟨?_, kiss_decode_frames data dec fun d hd => Nat.lt_succ_of_le (hdata d hd)⟩
    calc (events_of ((kiss_decode dec (data.flatMap kiss_data_frame)).2.take 1)).length
        ≤ ((kiss_decode dec (data.flatMap kiss_data_frame)).2.take 1).length :=
          List.length_filterMap_le _ _
      _ ≤ 1 := List.length_take_le _ _
  · rw [kiss_encode_data_frame_eq, ← hlen d]
    by_cases hfit : (kiss_data_frame d).length ≤ out_size
    · rw [if_pos hfit]
      refine iff_of_false ?_ (by omega)
      rintro ⟨hret, -⟩
      cases hret
    · rw [if_neg hfit]
      exact iff_of_true ⟨rfl, rfl⟩ (by omega)

/-- Two frames behind a dangling escape: one error, and the frames. -/
theorem kiss_round_trip_garbage :
    let dec := (kiss_decode kiss_decoder_init [7, KISS_FEND, 5, KISS_FESC]).1
    let data : List Bytes := [[KISS_FEND, 1], []]
    let frames := [kiss_data_frame [KISS_FEND, 1], kiss_data_frame []]
    events_of (kiss_decode dec frames.flatten).2
        = .error .ERR_FORMAT :: data.map (fun d => .ok ⟨0, KISS_CMD_DATA, d⟩) ∧
      events_of ((kiss_decode dec frames.flatten).2.drop 1)
        = data.map fun d => .ok ⟨0, KISS_CMD_DATA, d⟩ := by
  refine ⟨by decide +kernel, (kiss_round_trip.1 _ _ _ (by decide) ?_).2⟩
  exact .cons ⟨6, rfl⟩ (.cons ⟨3, rfl⟩ .nil)

end LorahamKissTnc.KissStream
