/-
The framing of the DATA socket in both directions: what `loraham_framed_decode_byte`
makes of any byte stream, and that it gives back the frames a stream was made of.

A stream is read in units: a frame, or the three bytes of a header that announces
more than the largest payload. Where the decoder stands is said by `Consumed`: the
bytes fed so far are whole units, then the header bytes it holds, then the payload
bytes it holds. So a reported error can be placed in the stream (the third byte of
a header, `framed_byte_error_iff`), and the write into the payload buffer has room
because a frame is handed out with the byte that completes it.
-/
import LorahamKissTnc.LorahamSock

set_option autoImplicit false

open LorahamKissTnc.Lib.CString LorahamKissTnc.Lib.Channel LorahamKissTnc.Lib.Machine
open LorahamKissTnc.Config LorahamKissTnc.LorahamSock

namespace LorahamKissTnc.FramedCodec

/-! ## Frames as bytes -/

/-- The payload length a header declares, little endian. -/
def declared_len (lo hi : UInt8) : Nat := lo.toNat ||| (hi.toNat <<< 8)

/-- A frame on the wire: type, 16-bit little-endian length, payload. -/
def framed_bytes (frame : loraham_frame_t) : Bytes :=
  frame.type :: UInt8.ofNat (frame.payload.length &&& 0xff) ::
    UInt8.ofNat ((frame.payload.length >>> 8) &&& 0xff) :: frame.payload

/-- A length of 16 bits survives its two bytes. -/
theorem declared_len_bytes {n : Nat} (hn : n < 65536) :
    declared_len (UInt8.ofNat (n &&& 0xff)) (UInt8.ofNat ((n >>> 8) &&& 0xff)) = n := by
  have hlo : (UInt8.ofNat (n &&& 0xff)).toNat = n % 256 := by
    rw [UInt8.toNat_ofNat', show (0xff : Nat) = 2 ^ 8 - 1 from rfl, Nat.and_two_pow_sub_one_eq_mod]
    omega
  have hhi : (UInt8.ofNat ((n >>> 8) &&& 0xff)).toNat = n / 256 := by
    rw [UInt8.toNat_ofNat', show (0xff : Nat) = 2 ^ 8 - 1 from rfl, Nat.and_two_pow_sub_one_eq_mod,
      Nat.shiftRight_eq_div_pow]
    omega
  rw [declared_len, hlo, hhi, Nat.or_comm, ← Nat.shiftLeft_add_eq_or_of_lt (by omega),
    Nat.shiftLeft_eq]
  omega

/-! ## One byte -/

/-- The first two bytes of a header are kept. -/
theorem decode_byte_header {part : Bytes} (hpart : part.length < 2) (b : UInt8) :
    loraham_framed_decode_byte { header := part } b = ({ header := part ++ [b] }, .ok none) := by
  unfold loraham_framed_decode_byte
  have hlen : (part ++ [b]).length < 3 := by
    rw [List.length_append, List.length_singleton]
    omega
  rw [if_pos (by show part.length < 3; omega)]
  dsimp only
  rw [if_pos hlen]

/-- The third byte settles the length: too long, an empty frame, or a payload to
come. -/
theorem decode_byte_length (t lo hi : UInt8) :
    loraham_framed_decode_byte { header := [t, lo] } hi
      = if LHKT_FRAMED_MAX_PAYLOAD < declared_len lo hi then
          (loraham_framed_rx_state_init, .error .ERR_LONG)
        else if declared_len lo hi = 0 then
          (loraham_framed_rx_state_init, .ok (some ⟨t, []⟩))
        else (⟨[t, lo, hi], t, declared_len lo hi, []⟩, .ok none) := by
  unfold loraham_framed_decode_byte
  rw [if_pos (by show 2 < 3; decide)]
  dsimp only
  rw [if_neg (by show ¬3 < 3; decide)]
  show (if LHKT_FRAMED_MAX_PAYLOAD < declared_len lo hi then _ else
    if declared_len lo hi = 0 then _ else _) = _
  by_cases hlong : LHKT_FRAMED_MAX_PAYLOAD < declared_len lo hi
  · rw [if_pos hlong, if_pos hlong]
  · rw [if_neg hlong, if_neg hlong]
    by_cases hzero : declared_len lo hi = 0
    · rw [if_pos hzero, if_pos hzero, loraham_frame_emit]
      simp
    · rw [if_neg hzero, if_neg hzero]
      rfl

/-- A payload byte is kept, and the last one completes the frame. -/
theorem decode_byte_payload (t lo hi : UInt8) {len : Nat} {payload : Bytes}
    (hlt : payload.length < len) (b : UInt8) :
    loraham_framed_decode_byte ⟨[t, lo, hi], t, len, payload⟩ b
      = if payload.length + 1 < len then (⟨[t, lo, hi], t, len, payload ++ [b]⟩, .ok none)
        else (loraham_framed_rx_state_init, .ok (some ⟨t, payload ++ [b]⟩)) := by
  unfold loraham_framed_decode_byte
  rw [if_neg (by show ¬3 < 3; decide)]
  dsimp only
  have hlen : (payload ++ [b]).length = payload.length + 1 := by
    rw [List.length_append, List.length_singleton]
  rw [hlen]
  by_cases hmore : payload.length + 1 < len
  · rw [if_pos hmore, if_pos hmore]
  · rw [if_neg hmore, if_neg hmore, loraham_frame_emit]
    dsimp only
    rw [List.take_of_length_le (by omega)]

/-! ## One frame, and a list of frames -/

/-- The answers to a stretch of bytes that hands out nothing but one frame at its
end. -/
def quiet_then (n : Nat) (frame : loraham_frame_t) : List (Except Lhkt (Option loraham_frame_t)) :=
  List.replicate n (.ok none) ++ [.ok (some frame)]

theorem frames_of_quiet_then (n : Nat) (frame : loraham_frame_t) :
    frames_of (quiet_then n frame) = [frame] := by
  rw [quiet_then, frames_of_append]
  have hquiet : frames_of (List.replicate n (.ok none)) = [] := by
    induction n with
    | zero => rfl
    | succ n ih => exact ih
  rw [hquiet]
  rfl

theorem decode_payload (t lo hi : UInt8) (rest : Bytes) :
    ∀ payload : Bytes, rest ≠ [] →
      loraham_framed_decode ⟨[t, lo, hi], t, payload.length + rest.length, payload⟩ rest
        = (loraham_framed_rx_state_init, quiet_then (rest.length - 1) ⟨t, payload ++ rest⟩) := by
  induction rest with
  | nil => exact fun _ h => absurd rfl h
  | cons b rest ih =>
      intro payload _
      rw [loraham_framed_decode_cons, decode_byte_payload t lo hi (by simp) b]
      by_cases hnil : rest = []
      · subst hnil
        rw [if_neg (by simp)]
        rfl
      · have hpos : 0 < rest.length := List.length_pos_iff.mpr hnil
        have hlen : payload.length + (b :: rest).length = (payload ++ [b]).length + rest.length := by
          simp only [List.length_append, List.length_cons, List.length_nil]
          omega
        rw [if_pos (by rw [List.length_cons]; omega), hlen]
        dsimp only
        rw [ih (payload ++ [b]) hnil, List.append_assoc, List.length_cons, Nat.add_sub_cancel]
        obtain ⟨n, hn⟩ : ∃ n, rest.length = n + 1 := ⟨rest.length - 1, by omega⟩
        rw [hn, Nat.add_sub_cancel]
        rfl

/-- **One frame.** Its bytes hand it out with the last of them. -/
theorem decode_framed_bytes {frame : loraham_frame_t}
    (h : frame.payload.length ≤ LHKT_FRAMED_MAX_PAYLOAD) :
    loraham_framed_decode loraham_framed_rx_state_init (framed_bytes frame)
      = (loraham_framed_rx_state_init, quiet_then (2 + frame.payload.length) frame) := by
  have hlen := declared_len_bytes (n := frame.payload.length)
    (by simp only [LHKT_FRAMED_MAX_PAYLOAD] at h; omega)
  unfold framed_bytes
  generalize UInt8.ofNat (frame.payload.length &&& 0xff) = lo at hlen ⊢
  generalize UInt8.ofNat ((frame.payload.length >>> 8) &&& 0xff) = hi at hlen ⊢
  have hfirst : loraham_framed_decode_byte loraham_framed_rx_state_init frame.type
      = ({ header := [frame.type] }, .ok none) :=
    @decode_byte_header [] Nat.two_pos frame.type
  have hsecond : loraham_framed_decode_byte { header := [frame.type] } lo
      = ({ header := [frame.type, lo] }, .ok none) :=
    @decode_byte_header [frame.type] Nat.one_lt_two lo
  rw [loraham_framed_decode_cons, hfirst, loraham_framed_decode_cons, hsecond,
    loraham_framed_decode_cons, decode_byte_length, hlen, if_neg (Nat.not_lt.mpr h)]
  by_cases hzero : frame.payload.length = 0
  · -- an empty payload: the frame is complete with its header
    have hnil : frame.payload = [] := List.length_eq_zero_iff.mp hzero
    rw [if_pos hzero, hnil]
    show _ = (_, quiet_then 2 frame)
    rw [show frame = ⟨frame.type, []⟩ from hnil ▸ rfl]
    rfl
  · have hne : frame.payload ≠ [] := fun hc => hzero (by rw [hc]; rfl)
    rw [if_neg hzero]
    dsimp only
    have hrest := decode_payload frame.type lo hi frame.payload [] hne
    rw [List.length_nil, Nat.zero_add] at hrest
    rw [hrest]
    obtain ⟨n, hn⟩ : ∃ n, frame.payload.length = n + 1 := ⟨frame.payload.length - 1, by omega⟩
    rw [hn, Nat.add_sub_cancel, Nat.add_comm 2]
    rfl

/-- **A list of frames.** -/
theorem decode_frames (frames : List loraham_frame_t)
    (h : ∀ frame ∈ frames, frame.payload.length ≤ LHKT_FRAMED_MAX_PAYLOAD) :
    let r := loraham_framed_decode loraham_framed_rx_state_init (frames.flatMap framed_bytes)
    frames_of r.2 = frames ∧ (∀ answer ∈ r.2, ∃ frame, answer = .ok frame) ∧
      r.1 = loraham_framed_rx_state_init := by
  induction frames with
  | nil => exact ⟨rfl, fun _ ha => absurd ha List.not_mem_nil, rfl⟩
  | cons frame frames ih =>
      obtain ⟨hframes, hok, hstate⟩ := ih fun f hf => h f (List.mem_cons_of_mem _ hf)
      have hone := decode_framed_bytes (h frame List.mem_cons_self)
      rw [List.flatMap_cons, loraham_framed_decode_append, hone]
      refine ⟨?_, ?_, hstate⟩
      · rw [frames_of_append, frames_of_quiet_then, hframes]
        rfl
      · intro answer ha
        rcases List.mem_append.mp ha with ha | ha
        · rcases List.mem_append.mp ha with ha | ha
          · exact ⟨none, List.eq_of_mem_replicate ha⟩
          · exact ⟨some frame, List.mem_singleton.mp ha⟩
        · exact hok answer ha

/-! ## Any stream -/

/-- A unit of the stream: a frame, or a header that announces too much. -/
def IsUnit (u : Bytes) : Prop :=
  (∃ frame : loraham_frame_t, frame.payload.length ≤ LHKT_FRAMED_MAX_PAYLOAD ∧
      u = framed_bytes frame) ∨
    ∃ t lo hi, LHKT_FRAMED_MAX_PAYLOAD < declared_len lo hi ∧ u = [t, lo, hi]

/-- The decoder holds part of a header and nothing else. -/
def InHeader (state : loraham_framed_rx_state_t) : Prop :=
  state.header.length < 3 ∧ state = { header := state.header }

/-- The decoder holds a complete header and part of the payload it announces. -/
def InPayload (state : loraham_framed_rx_state_t) : Prop :=
  ∃ t lo hi, state.header = [t, lo, hi] ∧ state.type = t ∧
    state.payload_len = declared_len lo hi ∧ state.payload.length < state.payload_len ∧
    state.payload_len ≤ LHKT_FRAMED_MAX_PAYLOAD

/-- The bytes `s` are whole units, then what the decoder holds. -/
def Consumed (s : Bytes) (state : loraham_framed_rx_state_t) : Prop :=
  (InHeader state ∨ InPayload state) ∧
    ∃ units : List Bytes, (∀ u ∈ units, IsUnit u) ∧
      s = units.flatten ++ state.header ++ state.payload

theorem consumed_init : Consumed [] loraham_framed_rx_state_init :=
  ⟨.inl ⟨by decide, rfl⟩, [], fun _ h => absurd h List.not_mem_nil, rfl⟩

/-- What the decoder holds has become a unit. -/
theorem consumed_unit {units : List Bytes} {u s : Bytes} (hunits : ∀ u ∈ units, IsUnit u)
    (hu : IsUnit u) (hs : s = units.flatten ++ u) : Consumed s loraham_framed_rx_state_init := by
  refine ⟨.inl ⟨by decide, rfl⟩, units ++ [u], ?_, ?_⟩
  · intro v hv
    rcases List.mem_append.mp hv with hv | hv
    · exact hunits v hv
    · rw [List.mem_singleton.mp hv]
      exact hu
  · rw [hs, List.flatten_append]
    simp [loraham_framed_rx_state_init]

/-- The two bytes of a declared length are the two bytes that declare it. -/
theorem declared_len_eq (lo hi : UInt8) :
    UInt8.ofNat (declared_len lo hi &&& 0xff) = lo ∧
      UInt8.ofNat ((declared_len lo hi >>> 8) &&& 0xff) = hi := by
  have hlo := lo.toNat_lt
  have hhi := hi.toNat_lt
  have hsum : declared_len lo hi = hi.toNat * 256 + lo.toNat := by
    rw [declared_len, Nat.or_comm, ← Nat.shiftLeft_add_eq_or_of_lt hlo, Nat.shiftLeft_eq]
  rw [show (0xff : Nat) = 2 ^ 8 - 1 from rfl, Nat.and_two_pow_sub_one_eq_mod,
    Nat.and_two_pow_sub_one_eq_mod, Nat.shiftRight_eq_div_pow, hsum]
  constructor
  · rw [show (hi.toNat * 256 + lo.toNat) % 2 ^ 8 = lo.toNat by omega, UInt8.ofNat_toNat]
  · rw [show (hi.toNat * 256 + lo.toNat) / 2 ^ 8 % 2 ^ 8 = hi.toNat by omega, UInt8.ofNat_toNat]

theorem framed_bytes_of_header {t lo hi : UInt8} {payload : Bytes}
    (h : payload.length = declared_len lo hi) :
    framed_bytes ⟨t, payload⟩ = t :: lo :: hi :: payload := by
  obtain ⟨hlo, hhi⟩ := declared_len_eq lo hi
  rw [framed_bytes]
  dsimp only
  rw [h, hlo, hhi]

/-- **One byte of any stream.** -/
theorem consumed_byte {s : Bytes} {state : loraham_framed_rx_state_t} (h : Consumed s state)
    (b : UInt8) : Consumed (s ++ [b]) (loraham_framed_decode_byte state b).1 := by
  obtain ⟨hwhere, units, hunits, hs⟩ := h
  rcases hwhere with ⟨hlt, hstate⟩ | ⟨t, lo, hi, hheader, htype, hlen, hpos, hmax⟩
  · generalize state.header = part at hlt hstate hs
    subst hstate
    have hs : s = units.flatten ++ part := by
      rw [hs]
      exact List.append_nil _
    by_cases htwo : part.length < 2
    · rw [decode_byte_header htwo]
      refine ⟨.inl ⟨?_, rfl⟩, units, hunits, ?_⟩
      · show (part ++ [b]).length < 3
        rw [List.length_append, List.length_singleton]
        omega
      · rw [hs]
        simp
    · -- the third header byte: the payload is too long, empty, or to come
      obtain ⟨t, lo, rfl⟩ : ∃ t lo, part = [t, lo] := by
        apply List.length_eq_two.mp
        omega
      rw [decode_byte_length]
      by_cases hlong : LHKT_FRAMED_MAX_PAYLOAD < declared_len lo b
      · rw [if_pos hlong]
        refine consumed_unit hunits (.inr ⟨t, lo, b, hlong, rfl⟩) ?_
        rw [hs]
        simp
      · rw [if_neg hlong]
        by_cases hzero : declared_len lo b = 0
        · rw [if_pos hzero]
          refine consumed_unit hunits (.inl ⟨⟨t, []⟩, Nat.zero_le _, rfl⟩) ?_
          rw [framed_bytes_of_header (by rw [hzero]; rfl), hs]
          simp
        · rw [if_neg hzero]
          refine ⟨.inr ⟨t, lo, b, rfl, rfl, rfl, Nat.pos_of_ne_zero hzero, Nat.le_of_not_lt hlong⟩,
            units, hunits, ?_⟩
          rw [hs]
          simp
  · -- inside a payload: the frame is handed out with its last byte
    obtain ⟨header, type, len, payload⟩ := state
    dsimp only at hheader htype hlen hpos hmax hs
    subst hheader htype
    rw [decode_byte_payload _ _ _ hpos]
    by_cases hmore : payload.length + 1 < len
    · rw [if_pos hmore]
      refine ⟨.inr ⟨type, lo, hi, rfl, rfl, hlen, ?_, hmax⟩, units, hunits, ?_⟩
      · show (payload ++ [b]).length < len
        rw [List.length_append, List.length_singleton]
        exact hmore
      · rw [hs]
        simp
    · rw [if_neg hmore]
      have hfull : (payload ++ [b]).length = declared_len lo hi := by
        rw [List.length_append, List.length_singleton]
        omega
      refine consumed_unit hunits (.inl ⟨⟨type, payload ++ [b]⟩, ?_, rfl⟩) ?_
      · show (payload ++ [b]).length ≤ _
        rw [hfull]
        omega
      · rw [framed_bytes_of_header hfull, hs]
        simp

/-- **Any stream.** -/
theorem consumed_decode (bytes : Bytes) : ∀ {s : Bytes} {state : loraham_framed_rx_state_t},
    Consumed s state → Consumed (s ++ bytes) (loraham_framed_decode state bytes).1 := by
  induction bytes with
  | nil =>
      intro s state h
      rw [List.append_nil]
      exact h
  | cons b bytes ih =>
      intro s state h
      rw [loraham_framed_decode_cons, List.append_cons]
      exact ih (consumed_byte h b)

/-- The one error, and where it is. -/
theorem framed_byte_error_iff {s : Bytes} {state : loraham_framed_rx_state_t}
    (h : Consumed s state) (b : UInt8) (ret : Lhkt) :
    (loraham_framed_decode_byte state b).2 = .error ret ↔
      ret = .ERR_LONG ∧ ∃ t lo, state.header = [t, lo] ∧
        LHKT_FRAMED_MAX_PAYLOAD < declared_len lo b := by
  obtain ⟨hwhere, -⟩ := h
  rcases hwhere with ⟨hlt, hstate⟩ | ⟨t, lo, hi, hheader, htype, hlen, hpos, -⟩
  · generalize state.header = part at hlt hstate ⊢
    subst hstate
    by_cases htwo : part.length < 2
    · rw [decode_byte_header htwo]
      refine iff_of_false (fun h => nomatch h) ?_
      rintro ⟨-, t, lo, hpart, -⟩
      rw [hpart] at htwo
      exact absurd htwo (by simp)
    · -- the third header byte is the only one that can be refused
      obtain ⟨t, lo, rfl⟩ : ∃ t lo, part = [t, lo] := by
        apply List.length_eq_two.mp
        omega
      rw [decode_byte_length]
      by_cases hlong : LHKT_FRAMED_MAX_PAYLOAD < declared_len lo b
      · rw [if_pos hlong]
        constructor
        · intro h
          exact ⟨(Except.error.inj h).symm, t, lo, rfl, hlong⟩
        · rintro ⟨rfl, -⟩
          rfl
      · rw [if_neg hlong]
        refine iff_of_false ?_ ?_
        · by_cases hzero : declared_len lo b = 0
          · rw [if_pos hzero]
            exact fun h => nomatch h
          · rw [if_neg hzero]
            exact fun h => nomatch h
        · rintro ⟨-, t', lo', hpart, hlong'⟩
          obtain ⟨-, hrest⟩ := List.cons.inj hpart
          obtain ⟨rfl, -⟩ := List.cons.inj hrest
          exact hlong hlong'
  · -- a payload byte is stored, whatever it is
    obtain ⟨header, type, len, payload⟩ := state
    dsimp only at hheader htype hpos ⊢
    subst hheader htype
    rw [decode_byte_payload _ _ _ hpos]
    refine iff_of_false ?_ ?_
    · by_cases hmore : payload.length + 1 < len
      · rw [if_pos hmore]
        exact fun h => nomatch h
      · rw [if_neg hmore]
        exact fun h => nomatch h
    · rintro ⟨-, t', lo', hpart, -⟩
      exact absurd (congrArg List.length hpart) (by simp)

/-- **The framed codec.** The bytes of a list of frames decode to that list,
without an error and back to the initial state, and `loraham_send_framed_tx_packet`
writes this layout. On any stream, an error is reported exactly at the third byte
of a header that declares too much, the state afterwards is the initial one, and
in a state with a complete header there is room for the next payload byte. -/
theorem framed_codec_round_trip :
    (∀ frames : List loraham_frame_t, (∀ frame ∈ frames, frame.payload.length ≤ 1024) →
      let r := loraham_framed_decode loraham_framed_rx_state_init (frames.flatMap framed_bytes)
      frames_of r.2 = frames ∧ (∀ answer ∈ r.2, ∃ frame, answer = .ok frame) ∧
        r.1 = loraham_framed_rx_state_init) ∧
    (∀ (e : sock_env) (payload : Bytes) (tx : List (Sent UInt8)), payload.length ≤ 255 →
      (loraham_send_framed_tx_packet e payload tx).1
        = tx ++ [loraham_sock_write e (framed_bytes ⟨LORAHAM_FRAME_TX_PACKET, payload⟩)]) ∧
    (∀ (s : Bytes) (b : UInt8),
      let state := (loraham_framed_decode loraham_framed_rx_state_init s).1
      let r := loraham_framed_decode_byte state b
      Consumed s state ∧
        (∀ ret, r.2 = .error ret ↔
          ret = .ERR_LONG ∧ ∃ t lo, state.header = [t, lo] ∧ 1024 < declared_len lo b) ∧
        (∀ ret, r.2 = .error ret → r.1 = loraham_framed_rx_state_init) ∧
        (state.header.length = 3 →
          state.payload.length < state.payload_len ∧ state.payload_len ≤ 1024)) := by
  refine ⟨decode_frames, ?_, ?_⟩
  · intro e payload tx hlen
    unfold loraham_send_framed_tx_packet
    rw [if_neg (Nat.not_lt.mpr hlen)]
    rfl
  · intro s b state r
    have hconsumed : Consumed s state := by
      have h := consumed_decode s consumed_init
      rw [List.nil_append] at h
      exact h
    refine ⟨hconsumed, framed_byte_error_iff hconsumed b, ?_, ?_⟩
    · intro ret hret
      exact (loraham_framed_decode_byte_error (Prod.ext rfl hret)).2
    · intro hheader
      rcases hconsumed.1 with ⟨hlt, -⟩ | ⟨-, -, -, -, -, -, hpos, hmax⟩
      · omega
      · exact ⟨hpos, hmax⟩

/-- An empty frame between two others, and a stream that goes on behind a header
that announces too much. -/
theorem framed_codec_empty_frame :
    frames_of (loraham_framed_decode loraham_framed_rx_state_init
        ([⟨1, [7]⟩, ⟨2, []⟩, ⟨3, [8, 9]⟩].flatMap framed_bytes)).2
      = [⟨1, [7]⟩, ⟨2, []⟩, ⟨3, [8, 9]⟩] ∧
    (loraham_framed_decode loraham_framed_rx_state_init ([1, 0xff, 0xff] ++ [5, 0, 0])).2
      = [.ok none, .ok none, .error .ERR_LONG, .ok none, .ok none, .ok (some ⟨5, []⟩)] :=
  ⟨(framed_codec_round_trip.1 [⟨1, [7]⟩, ⟨2, []⟩, ⟨3, [8, 9]⟩] (by decide)).1, by decide⟩

end LorahamKissTnc.FramedCodec
