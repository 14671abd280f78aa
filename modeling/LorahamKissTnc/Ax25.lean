/-
`ax25.c`: AX.25 addresses as text and as octets, and UI frames.

A callsign is a C string of at most six characters, so it is a list of bytes;
the path and the payload are lists whose lengths are the source's `path_len` and
`payload_len`. The two buffer-walking loops (`ax25_decode_ui` over the address
list, `ax25_encode_ui` over the path) are recursions with the source's own
counters as fuel: there are at most ten addresses.

`Valid` is what a frame that came through the decoder satisfies
(`ax25_decode_ui_valid`), and it is enough for the encoder to succeed and for
the decoder to give the frame back (`ax25_decode_encode`), up to the repeated
flags of destination and source, which the wire format does not have.
-/
import Mathlib.Data.List.GetD
import LorahamKissTnc.Config
import LorahamKissTnc.Lib.Machine

set_option autoImplicit false

open LorahamKissTnc.Lib.CString LorahamKissTnc.Lib.Machine
open LorahamKissTnc.Config

namespace LorahamKissTnc.Ax25

abbrev AX25_ADDR_LEN : Nat := 7
abbrev AX25_CTRL_UI : UInt8 := 0x03
abbrev AX25_PID_NONE : UInt8 := 0xf0

abbrev AX25_ADDR_BIT7 : UInt8 := 0x80
abbrev AX25_ADDR_RESERVED : UInt8 := 0x60
abbrev AX25_ADDR_LAST : UInt8 := 0x01
abbrev AX25_ADDR_SSID_MASK : UInt8 := 0x0f

/-- `ax25_addr_t`; `call` is the C string in the array. -/
structure ax25_addr_t where
  call : Bytes
  ssid : UInt8
  repeated : Bool
  deriving DecidableEq, Repr

/-- `ax25_frame_t`. -/
structure ax25_frame_t where
  dst : ax25_addr_t
  src : ax25_addr_t
  path : List ax25_addr_t
  payload : Bytes
  deriving DecidableEq, Repr

/-! ## Addresses as text -/

/-- The callsign checks at the end of `ax25_addr_parse`. -/
def ax25_addr_parse_call (call : Bytes) (ssid : UInt8) (repeated : Bool) :
    Except Lhkt ax25_addr_t :=
  if call.length < 1 ∨ 6 < call.length then .error .ERR_FORMAT
  else if !call.all isalnum then .error .ERR_FORMAT
  else .ok ⟨call.map toupper, ssid, repeated⟩

/-- `ax25_addr_parse`. The local copy has 16 bytes. -/
def ax25_addr_parse (text : Bytes) : Except Lhkt ax25_addr_t :=
  if text = [] then .error .ERR_FORMAT
  else if 16 ≤ text.length then .error .ERR_LONG
  else
    let repeated : Bool := text.getLast? = some (ch '*')
    let tmp := if repeated then text.dropLast else text
    match cut (ch '-') tmp with
    | some (call, dash) =>
        if dash = [] then .error .ERR_FORMAT
        else if !dash.all isdigit then .error .ERR_FORMAT
        else if 15 < digits_value dash then .error .ERR_FORMAT
        else ax25_addr_parse_call call (UInt8.ofNat (digits_value dash)) repeated
    | none => ax25_addr_parse_call tmp 0 repeated

/-- The text `ax25_addr_format` writes when it fits. -/
def addr_text (addr : ax25_addr_t) : Bytes :=
  addr.call ++ (if addr.ssid = 0 then [] else ch '-' :: fmt_u addr.ssid.toNat) ++
    (if addr.repeated then [ch '*'] else [])

/-- `ax25_addr_format`. -/
def ax25_addr_format (addr : ax25_addr_t) (out_size : Nat) : Except Lhkt Bytes :=
  if out_size = 0 ∨ addr.call = [] then .error .ERR_FORMAT
  else if 15 < addr.ssid then .error .ERR_FORMAT
  else if out_size ≤ (addr_text addr).length then .error .ERR_NOSPACE
  else .ok (addr_text addr)

/-! ## Addresses as octets -/

/-- The seven octets `ax25_encode_addr` writes. A callsign shorter than six
characters is padded with spaces. -/
def addr_octets (addr : ax25_addr_t) (last bit7 : Bool) : Bytes :=
  ((List.range 6).map fun i => addr.call.getD i (ch ' ') <<< 1) ++
    [AX25_ADDR_RESERVED ||| ((addr.ssid &&& AX25_ADDR_SSID_MASK) <<< 1)
      ||| (if bit7 then AX25_ADDR_BIT7 else 0) ||| (if last then AX25_ADDR_LAST else 0)]

/-- `ax25_encode_addr`. -/
def ax25_encode_addr (addr : ax25_addr_t) (last bit7 : Bool) : Except Lhkt Bytes :=
  if addr.call = [] ∨ 15 < addr.ssid then .error .ERR_FORMAT
  else .ok (addr_octets addr last bit7)

/-- `ax25_decode_addr` of seven octets. -/
def ax25_decode_addr (data : Bytes) (is_path : Bool) : Except Lhkt ax25_addr_t :=
  let call := (data.take 6).map fun (b : UInt8) => (b >>> 1) &&& 0x7f
  if call.any (fun c => c ≠ ch ' ' ∧ !isalnum c) then .error .ERR_FORMAT
  else
    let call := call.rdropWhile (· = ch ' ')
    if call.length < 1 then .error .ERR_FORMAT
    else if ch ' ' ∈ call then .error .ERR_FORMAT
    else
      let ssid_octet := data.getD 6 0
      .ok ⟨call, (ssid_octet >>> 1) &&& AX25_ADDR_SSID_MASK,
        is_path ∧ ssid_octet &&& AX25_ADDR_BIT7 ≠ 0⟩

/-! ## UI frames -/

/-- The path loop of `ax25_encode_ui`: the last address carries the extension
bit, and bit 7 is the repeated flag. -/
def ax25_encode_path : List ax25_addr_t → Except Lhkt Bytes
  | [] => .ok []
  | addr :: rest => do
      let octets ← ax25_encode_addr addr (rest = []) addr.repeated
      let more ← ax25_encode_path rest
      .ok (octets ++ more)

/-- `ax25_encode_ui`. -/
def ax25_encode_ui (frame : ax25_frame_t) (out_size : Nat) : Except Lhkt Bytes :=
  if LHKT_AX25_MAX_REPEATERS < frame.path.length ∨
      LHKT_AX25_MAX_PAYLOAD < frame.payload.length then .error .ERR_LONG
  else
    let need := (2 + frame.path.length) * AX25_ADDR_LEN + 2 + frame.payload.length
    if LHKT_AX25_MAX_FRAME < need then .error .ERR_LONG
    else if out_size < need then .error .ERR_NOSPACE
    else do
      let dst ← ax25_encode_addr frame.dst false true
      let src ← ax25_encode_addr frame.src (frame.path = []) false
      let path ← ax25_encode_path frame.path
      .ok (dst ++ src ++ path ++ [AX25_CTRL_UI, AX25_PID_NONE] ++ frame.payload)

/-- The address loop of `ax25_decode_ui`. `room` is what is left of
`LHKT_AX25_MAX_ADDRS`; the answer is the addresses, whether the last one carried
the extension bit, and the octets behind them. -/
def ax25_decode_addrs : Nat → Bytes → List ax25_addr_t →
    Except Lhkt (List ax25_addr_t × Bool × Bytes)
  | 0, data, addrs => .ok (addrs, false, data)
  | room + 1, data, addrs =>
      if data.length < AX25_ADDR_LEN then .ok (addrs, false, data)
      else do
        let addr ← ax25_decode_addr (data.take AX25_ADDR_LEN) (2 ≤ addrs.length)
        if data.getD 6 0 &&& AX25_ADDR_LAST ≠ 0 then
          .ok (addrs ++ [addr], true, data.drop AX25_ADDR_LEN)
        else ax25_decode_addrs room (data.drop AX25_ADDR_LEN) (addrs ++ [addr])

/-- `ax25_decode_ui`. -/
def ax25_decode_ui (data : Bytes) : Except Lhkt ax25_frame_t := do
  let (addrs, last, rest) ← ax25_decode_addrs LHKT_AX25_MAX_ADDRS data []
  match addrs with
  | dst :: src :: path =>
      if !last then .error .ERR_FORMAT
      else match rest with
        | ctrl :: pid :: payload =>
            if ctrl ≠ AX25_CTRL_UI ∨ pid ≠ AX25_PID_NONE then .error .ERR_UNSUPPORTED
            else if LHKT_AX25_MAX_PAYLOAD < payload.length then .error .ERR_LONG
            else .ok ⟨dst, src, path, payload⟩
        | _ => .error .ERR_SHORT
  | _ => .error .ERR_FORMAT

/-! ## Valid frames -/

/-- A station address as AX.25 has it. -/
structure ax25_addr_t.Valid (addr : ax25_addr_t) : Prop where
  call_pos : 1 ≤ addr.call.length
  call_le : addr.call.length ≤ 6
  call_alnum : ∀ c ∈ addr.call, isalnum c = true
  ssid_le : addr.ssid ≤ 15

/-- A frame within the source's limits, all of whose addresses are valid. -/
structure ax25_frame_t.Valid (frame : ax25_frame_t) : Prop where
  dst : frame.dst.Valid
  src : frame.src.Valid
  path : ∀ addr ∈ frame.path, addr.Valid
  path_le : frame.path.length ≤ LHKT_AX25_MAX_REPEATERS
  payload_le : frame.payload.length ≤ LHKT_AX25_MAX_PAYLOAD

/-- `*` is a path-only marker: the frame without it on destination and source. -/
def ax25_frame_t.plain (frame : ax25_frame_t) : ax25_frame_t :=
  { frame with dst := { frame.dst with repeated := false },
               src := { frame.src with repeated := false } }

/-! ## What the address parser accepts -/

/-- What a parser of text may answer: a value with `P`, or a rejection as too
long or malformed. -/
def Checked {α : Type} (P : α → Prop) : Except Lhkt α → Prop
  | .ok a => P a
  | .error ret => ret = .ERR_LONG ∨ ret = .ERR_FORMAT

/-- One parser behind the other. -/
theorem Checked.bind {α β : Type} {P : α → Prop} {Q : β → Prop} {x : Except Lhkt α}
    {f : α → Except Lhkt β} (hx : Checked P x) (hf : ∀ a, P a → Checked Q (f a)) :
    Checked Q (x >>= f) := by
  match x with
  | .ok a => exact hf a hx
  | .error _ => exact hx

/-- What is checked may be stated more weakly. -/
theorem Checked.mono {α : Type} {P Q : α → Prop} {x : Except Lhkt α} (hx : Checked P x)
    (h : ∀ a, P a → Q a) : Checked Q x := by
  match x with
  | .ok a => exact h a hx
  | .error _ => exact hx

theorem toupper_alnum (c : UInt8) : isalnum c = true → isalnum (toupper c) = true := by
  revert c
  exact forall_byte (by decide +kernel)

/-- A callsign that is accepted makes a valid address. -/
theorem checked_addr_parse_call (call : Bytes) {ssid : UInt8} (repeated : Bool) (hssid : ssid ≤ 15) :
    Checked ax25_addr_t.Valid (ax25_addr_parse_call call ssid repeated) := by
  unfold ax25_addr_parse_call
  split
  · exact .inr rfl
  · rename_i hlen
    split
    · exact .inr rfl
    · rename_i hall
      have hall : call.all isalnum = true := by simpa using hall
      refine ⟨?_, ?_, ?_, hssid⟩
      · rw [List.length_map]
        omega
      · rw [List.length_map]
        omega
      · intro c hc
        obtain ⟨b, hb, rfl⟩ := List.mem_map.mp hc
        exact toupper_alnum b (List.all_eq_true.mp hall b hb)

/-- **The address parser** answers with a valid address, or rejects the text. -/
theorem checked_addr_parse (text : Bytes) : Checked ax25_addr_t.Valid (ax25_addr_parse text) := by
  unfold ax25_addr_parse
  split
  · exact .inr rfl
  · split
    · exact .inl rfl
    · dsimp only
      split
      · rename_i call dash _
        split
        · exact .inr rfl
        · split
          · exact .inr rfl
          · split
            · exact .inr rfl
            · rename_i hle
              refine checked_addr_parse_call call _ ?_
              rw [UInt8.le_iff_toNat_le, UInt8.toNat_ofNat']
              show digits_value dash % 256 ≤ 15
              omega
      · exact checked_addr_parse_call _ _ (by decide)

/-! ## The grammar of an address -/

/-- The SSID part of an address text, if there is one. -/
def ssid_part : Option Bytes → Bytes
  | none => []
  | some digits => ch '-' :: digits

/-- The SSID it gives. -/
def ssid_value : Option Bytes → Nat
  | none => 0
  | some digits => digits_value digits

/-- The mark of a repeated digipeater. -/
def star_part (star : Bool) : Bytes := if star then [ch '*'] else []

/-- One to six letters and digits, then a dash and digits of value at most 15 or
nothing, then a star or nothing; together at most 15 characters. -/
structure AddrText (text call : Bytes) (ssid : Option Bytes) (star : Bool) : Prop where
  text_eq : text = call ++ ssid_part ssid ++ star_part star
  text_le : text.length ≤ 15
  call_pos : 1 ≤ call.length
  call_le : call.length ≤ 6
  call_alnum : ∀ c ∈ call, isalnum c = true
  ssid_ne : ssid ≠ some []
  ssid_digits : ∀ digits ∈ ssid, ∀ c ∈ digits, isdigit c = true
  ssid_le : ssid_value ssid ≤ 15

/-- The address the text stands for. -/
def addr_of (call : Bytes) (ssid : Option Bytes) (star : Bool) : ax25_addr_t :=
  ⟨call.map toupper, UInt8.ofNat (ssid_value ssid), star⟩

/-- A callsign that is accepted has one to six letters and digits, and is put into upper
case. -/
theorem ax25_addr_parse_call_ok {call : Bytes} {ssid : UInt8} {repeated : Bool}
    {addr : ax25_addr_t} (h : ax25_addr_parse_call call ssid repeated = .ok addr) :
    1 ≤ call.length ∧ call.length ≤ 6 ∧ (∀ c ∈ call, isalnum c = true) ∧
      addr = ⟨call.map toupper, ssid, repeated⟩ := by
  unfold ax25_addr_parse_call at h
  split at h
  · exact nomatch h
  rename_i hlen
  split at h
  · exact nomatch h
  rename_i hall
  refine ⟨by omega, by omega, ?_, (Except.ok.inj h).symm⟩
  intro c hc
  have hall : call.all isalnum = true := by simpa using hall
  exact List.all_eq_true.mp hall c hc

/-- A text is itself without its last character, if that is a star, and the star. -/
theorem star_split (text : Bytes) :
    (if decide (text.getLast? = some (ch '*')) then text.dropLast else text)
      ++ star_part (decide (text.getLast? = some (ch '*'))) = text := by
  by_cases h : text.getLast? = some (ch '*')
  · have hne : text ≠ [] := by
      rintro rfl
      exact nomatch h
    rw [List.getLast?_eq_some_getLast hne] at h
    have hlast := Option.some.inj h
    rw [List.getLast?_eq_some_getLast hne]
    simp only [hlast, decide_true, if_true, star_part]
    rw [← hlast]
    exact List.dropLast_append_getLast hne
  · simp [h, star_part]

/-- Every text the parser accepts has the form, and gives the address it stands
for. -/
theorem ax25_addr_parse_ok {text : Bytes} {addr : ax25_addr_t}
    (h : ax25_addr_parse text = .ok addr) :
    ∃ call ssid star, AddrText text call ssid star ∧ addr = addr_of call ssid star := by
  unfold ax25_addr_parse at h
  split at h
  · exact nomatch h
  split at h
  · exact nomatch h
  rename_i hlen
  dsimp only at h
  have hsplit := star_split text
  generalize decide (text.getLast? = some (ch '*')) = star at h hsplit
  split at h
  · -- there is a dash: digits behind it
    rename_i call digits hcut
    split at h
    · exact nomatch h
    rename_i hne
    split at h
    · exact nomatch h
    rename_i hdigits
    split at h
    · exact nomatch h
    rename_i hvalue
    obtain ⟨hpos, hle, hall, rfl⟩ := ax25_addr_parse_call_ok h
    have htext : text = call ++ ssid_part (some digits) ++ star_part star := by
      rw [← hsplit, (cut_eq_some_iff.mp hcut).1]
      rfl
    have hdigits : digits.all isdigit = true := by simpa using hdigits
    refine ⟨call, some digits, star, ⟨htext, by omega, hpos, hle, hall, ?_, ?_, ?_⟩, rfl⟩
    · simpa using hne
    · intro ds hds c hc
      obtain rfl := Option.some.inj hds
      exact List.all_eq_true.mp hdigits c hc
    · exact Nat.le_of_not_lt hvalue
  · -- no dash: the SSID is 0
    obtain ⟨hpos, hle, hall, rfl⟩ := ax25_addr_parse_call_ok h
    refine ⟨_, none, star, ⟨?_, by omega, hpos, hle, hall, by simp, by simp, Nat.zero_le _⟩, rfl⟩
    rw [ssid_part, List.append_nil, hsplit]

/-- A letter or a digit is neither a star nor a dash. -/
theorem alnum_ne (c : UInt8) : isalnum c = true → c ≠ ch '*' ∧ c ≠ ch '-' := by
  revert c
  exact forall_byte (by decide +kernel)

theorem isdigit_isalnum (c : UInt8) : isdigit c = true → isalnum c = true := by
  revert c
  exact forall_byte (by decide +kernel)

/-- The unstarred text does not end in a star, so the parser sees the star exactly
when there is one. -/
theorem AddrText.last {text call : Bytes} {ssid : Option Bytes} {star : Bool}
    (h : AddrText text call ssid star) : decide (text.getLast? = some (ch '*')) = star := by
  rw [h.text_eq]
  cases star with
  | true => simp [star_part]
  | false =>
      rw [star_part, if_neg (by decide), List.append_nil, decide_eq_false_iff_not]
      intro hlast
      have hmem := List.mem_of_getLast? hlast
      -- the star would be a letter, a digit or the dash
      rcases List.mem_append.mp hmem with hm | hm
      · exact (alnum_ne _ (h.call_alnum _ hm)).1 rfl
      · cases hs : ssid with
        | none => rw [hs] at hm; exact List.not_mem_nil hm
        | some digits =>
            rw [hs] at hm
            rcases List.mem_cons.mp hm with hm | hm
            · exact absurd hm (by decide)
            · exact (alnum_ne _ (isdigit_isalnum _ (h.ssid_digits digits hs _ hm))).1 rfl

/-- Every text of the form is accepted. -/
theorem AddrText.parse {text call : Bytes} {ssid : Option Bytes} {star : Bool}
    (h : AddrText text call ssid star) :
    ax25_addr_parse text = .ok (addr_of call ssid star) := by
  have hlen := h.text_le
  have hpos := h.call_pos
  have hle := h.call_le
  have hne : text ≠ [] := by
    rw [h.text_eq]
    have hcall : call ≠ [] := List.ne_nil_of_length_pos hpos
    simp [hcall]
  -- the star is taken off first, and then the SSID at the first dash
  have hbare : (if star = true then text.dropLast else text) = call ++ ssid_part ssid := by
    rw [h.text_eq]
    cases star with
    | true => rw [if_pos rfl, star_part, if_pos rfl, List.dropLast_concat]
    | false => rw [if_neg (by decide), star_part, if_neg (by decide), List.append_nil]
  have hdash : ch '-' ∉ call := fun hm => (alnum_ne _ (h.call_alnum _ hm)).2 rfl
  have hcall : ∀ s r, ax25_addr_parse_call call s r = .ok ⟨call.map toupper, s, r⟩ := by
    intro s r
    have hall : call.all isalnum = true := List.all_eq_true.mpr h.call_alnum
    rw [ax25_addr_parse_call, if_neg (by omega), if_neg (by rw [hall]; decide)]
  unfold ax25_addr_parse
  simp only [h.last, hbare, if_neg hne, if_neg (by omega : ¬16 ≤ text.length)]
  cases hs : ssid with
  | none =>
      rw [ssid_part, List.append_nil, cut_eq_none_iff.mpr hdash]
      exact hcall _ _
  | some digits =>
      have hdne : digits ≠ [] := fun h0 => h.ssid_ne (by rw [hs, h0])
      have hdigits : digits.all isdigit = true := List.all_eq_true.mpr (h.ssid_digits digits hs)
      have hvalue : ¬15 < digits_value digits := by
        have hv := h.ssid_le
        rw [hs] at hv
        exact Nat.not_lt.mpr hv
      rw [ssid_part, cut_append _ hdash]
      simp only [if_neg hdne, hdigits, Bool.not_true, Bool.false_eq_true, if_false, if_neg hvalue,
        hcall]
      rfl

/-! ## What the decoder accepts -/

/-- Four bits hold the SSID. -/
theorem ssid_octet_le (b : UInt8) : (b >>> 1) &&& AX25_ADDR_SSID_MASK ≤ 15 := by
  revert b
  exact forall_byte (by decide +kernel)

/-- The six characters `ax25_decode_addr` reads. -/
def call_octets (data : Bytes) : Bytes :=
  (data.take 6).map fun (b : UInt8) => (b >>> 1) &&& 0x7f

/-- What `ax25_decode_addr` accepts, and the address it makes of it. -/
theorem ax25_decode_addr_ok {data : Bytes} {is_path : Bool} {addr : ax25_addr_t}
    (h : ax25_decode_addr data is_path = .ok addr) :
    ((call_octets data).any fun c => c ≠ ch ' ' ∧ !isalnum c) = false ∧
      1 ≤ ((call_octets data).rdropWhile (· = ch ' ')).length ∧
      ch ' ' ∉ (call_octets data).rdropWhile (· = ch ' ') ∧
      addr = ⟨(call_octets data).rdropWhile (· = ch ' '),
        (data.getD 6 0 >>> 1) &&& AX25_ADDR_SSID_MASK,
        is_path ∧ data.getD 6 0 &&& AX25_ADDR_BIT7 ≠ 0⟩ := by
  unfold ax25_decode_addr at h
  rw [← call_octets] at h
  dsimp only at h
  split at h
  · exact nomatch h
  rename_i hany
  split at h
  · exact nomatch h
  rename_i hpos
  split at h
  · exact nomatch h
  rename_i hspace
  exact ⟨by simpa using hany, by omega, hspace, (Except.ok.inj h).symm⟩

/-- Every address `ax25_decode_addr` accepts is valid, and only path addresses
are ever marked repeated. -/
theorem ax25_decode_addr_valid {data : Bytes} {is_path : Bool} {addr : ax25_addr_t}
    (h : ax25_decode_addr data is_path = .ok addr) :
    addr.Valid ∧ (is_path = false → addr.repeated = false) := by
  obtain ⟨hany, hpos, hspace, rfl⟩ := ax25_decode_addr_ok h
  have hpre := List.rdropWhile_prefix (fun c => decide (c = ch ' ')) (call_octets data)
  have hlen : (call_octets data).length ≤ 6 := by
    rw [call_octets, List.length_map]
    exact List.length_take_le 6 data
  refine ⟨⟨hpos, hpre.length_le.trans hlen, ?_, ssid_octet_le _⟩, ?_⟩
  · intro c hc
    -- a stored character is not a space, so the character check let it through
    have hne : c ≠ ch ' ' := fun heq => hspace (heq ▸ hc)
    have hok := List.any_eq_false.mp hany c (hpre.subset hc)
    simpa [hne] using hok
  · intro hp
    simp [hp]

/-- The invariant of the address loop: collected addresses are valid, there are
never more than the room allows, and the first two are not marked repeated. -/
theorem ax25_decode_addrs_valid (room : Nat) :
    ∀ (data : Bytes) (addrs addrs' : List ax25_addr_t) (last : Bool) (rest : Bytes),
      (∀ a ∈ addrs, a.Valid) → (∀ a ∈ addrs.take 2, a.repeated = false) →
      ax25_decode_addrs room data addrs = .ok (addrs', last, rest) →
      (∀ a ∈ addrs', a.Valid) ∧ (∀ a ∈ addrs'.take 2, a.repeated = false) ∧
        addrs'.length ≤ addrs.length + room := by
  induction room with
  | zero =>
      intro data addrs addrs' last rest hv hr h
      obtain ⟨rfl, -⟩ := Prod.mk.inj (Except.ok.inj h)
      exact ⟨hv, hr, by omega⟩
  | succ room ih =>
      intro data addrs addrs' last rest hv hr h
      rw [ax25_decode_addrs] at h
      split at h
      · obtain ⟨rfl, -⟩ := Prod.mk.inj (Except.ok.inj h)
        exact ⟨hv, hr, by omega⟩
      obtain ⟨addr, haddr, h⟩ := bind_eq_ok h
      obtain ⟨hav, hrep⟩ := ax25_decode_addr_valid haddr
      have hv' : ∀ a ∈ addrs ++ [addr], a.Valid := by
        intro a ha
        rcases List.mem_append.mp ha with ha | ha
        · exact hv a ha
        · rw [List.mem_singleton.mp ha]; exact hav
      -- bit 7 counts from the third address on only
      have hr' : ∀ a ∈ (addrs ++ [addr]).take 2, a.repeated = false := by
        intro a ha
        rw [List.take_append] at ha
        rcases List.mem_append.mp ha with ha | ha
        · exact hr a ha
        · by_cases h2 : 2 ≤ addrs.length
          · rw [show 2 - addrs.length = 0 by omega, List.take_zero] at ha
            exact absurd ha List.not_mem_nil
          · rw [List.mem_singleton.mp (List.mem_of_mem_take ha)]
            exact hrep (by simpa using h2)
      have hlen : (addrs ++ [addr]).length = addrs.length + 1 := by
        rw [List.length_append, List.length_singleton]
      split at h
      · obtain ⟨rfl, -⟩ := Prod.mk.inj (Except.ok.inj h)
        exact ⟨hv', hr', by omega⟩
      · obtain ⟨h1, h2, h3⟩ := ih _ _ _ _ _ hv' hr' h
        exact ⟨h1, h2, by omega⟩

/-- Whatever the decoder accepts is an address list with its extension bit, the
UI control octet, the PID octet and a payload that fits. -/
theorem ax25_decode_ui_ok {data : Bytes} {frame : ax25_frame_t}
    (h : ax25_decode_ui data = .ok frame) :
    ax25_decode_addrs LHKT_AX25_MAX_ADDRS data []
        = .ok (frame.dst :: frame.src :: frame.path, true,
            [AX25_CTRL_UI, AX25_PID_NONE] ++ frame.payload) ∧
      frame.payload.length ≤ LHKT_AX25_MAX_PAYLOAD := by
  unfold ax25_decode_ui at h
  obtain ⟨⟨addrs, last, rest⟩, haddrs, h⟩ := bind_eq_ok h
  dsimp only at h
  split at h
  · split at h
    · exact nomatch h
    rename_i hlast
    split at h
    · split at h
      · exact nomatch h
      rename_i hui
      split at h
      · exact nomatch h
      rename_i hpay
      obtain rfl := Except.ok.inj h
      obtain ⟨rfl, rfl⟩ : _ = AX25_CTRL_UI ∧ _ = AX25_PID_NONE := by simpa using hui
      refine ⟨?_, Nat.le_of_not_lt hpay⟩
      rw [haddrs]
      simpa using hlast
    · exact nomatch h
  · exact nomatch h

/-- **Every decoded frame is valid**, whatever the octets were, and has no
repeated mark on destination or source. -/
theorem ax25_decode_ui_valid {data : Bytes} {frame : ax25_frame_t}
    (h : ax25_decode_ui data = .ok frame) : frame.Valid ∧ frame.plain = frame := by
  obtain ⟨haddrs, hpay⟩ := ax25_decode_ui_ok h
  obtain ⟨hv, hr, hlen⟩ := ax25_decode_addrs_valid _ _ _ _ _ _ (by simp) (by simp) haddrs
  have hd := hr frame.dst (by simp)
  have hs := hr frame.src (by simp)
  refine ⟨⟨hv _ (by simp), hv _ (by simp), fun a ha => hv a (by simp [ha]), ?_, hpay⟩, ?_⟩
  · simp only [List.length_cons, List.length_nil, LHKT_AX25_MAX_ADDRS] at hlen
    show frame.path.length ≤ 8
    omega
  · have hdst : { frame.dst with repeated := false } = frame.dst := by rw [← hd]
    have hsrc : { frame.src with repeated := false } = frame.src := by rw [← hs]
    rw [ax25_frame_t.plain, hdst, hsrc]

/-! ## The decoder inverts the encoder -/

/-- Shifting a callsign character out and in again loses nothing. -/
theorem shift_char (c : UInt8) : isalnum c = true ∨ c = ch ' ' →
    ((c <<< 1) >>> 1) &&& 0x7f = c := by
  revert c
  exact forall_byte (by decide +kernel)

/-- The three things the SSID octet carries, read back. -/
theorem ssid_octet_read (s : UInt8) : s ≤ 15 → ∀ bit7 last : Bool,
    let octet := AX25_ADDR_RESERVED ||| ((s &&& AX25_ADDR_SSID_MASK) <<< 1)
      ||| (if bit7 then AX25_ADDR_BIT7 else 0) ||| (if last then AX25_ADDR_LAST else 0)
    (octet >>> 1) &&& AX25_ADDR_SSID_MASK = s ∧
      decide (octet &&& AX25_ADDR_BIT7 ≠ 0) = bit7 ∧
      decide (octet &&& AX25_ADDR_LAST ≠ 0) = last := by
  revert s
  exact forall_byte (by decide +kernel)

/-- Reading six characters past the end gives the callsign padded with spaces. -/
theorem padded_call (call : Bytes) (h : call.length ≤ 6) :
    (List.range 6).map (fun i => call.getD i (ch ' '))
      = call ++ List.replicate (6 - call.length) (ch ' ') := by
  apply List.ext_getElem
  · simp only [List.length_map, List.length_range, List.length_append, List.length_replicate]
    omega
  · intro i h1 h2
    rw [List.getElem_map, List.getElem_range]
    by_cases hi : i < call.length
    · rw [List.getD_eq_getElem _ _ hi, List.getElem_append_left hi]
    · rw [List.getD_eq_default _ _ (by omega), List.getElem_append_right (by omega),
        List.getElem_replicate]

/-- The padding is exactly what trailing-space removal removes. -/
theorem rdropWhile_padded {call : Bytes} (n : Nat) (h : ch ' ' ∉ call) :
    (call ++ List.replicate n (ch ' ')).rdropWhile (· = ch ' ') = call := by
  induction n with
  | zero =>
      rw [List.replicate_zero, List.append_nil, List.rdropWhile_eq_self_iff]
      intro hne hlast
      exact h (of_decide_eq_true hlast ▸ List.getLast_mem hne)
  | succ n ih =>
      rw [List.replicate_succ', ← List.append_assoc, List.rdropWhile_concat_pos _ _ _ (by simp)]
      exact ih

/-- An address has seven octets. -/
theorem length_addr_octets (addr : ax25_addr_t) (last bit7 : Bool) :
    (addr_octets addr last bit7).length = AX25_ADDR_LEN := by
  simp [addr_octets]

/-- The octets of a valid address decode to that address, with bit 7 read as the
repeated flag on path addresses only. -/
theorem ax25_decode_addr_octets {addr : ax25_addr_t} (hv : addr.Valid) (last bit7 is_path : Bool) :
    ax25_decode_addr (addr_octets addr last bit7) is_path
      = .ok { addr with repeated := is_path && bit7 } := by
  have hspace : ch ' ' ∉ addr.call := by
    intro hm
    have := hv.call_alnum _ hm
    revert this
    decide
  have hcall : ((addr_octets addr last bit7).take 6).map (fun (b : UInt8) => (b >>> 1) &&& 0x7f)
      = addr.call ++ List.replicate (6 - addr.call.length) (ch ' ') := by
    rw [addr_octets, List.take_left' (by simp), List.map_map, ← padded_call addr.call hv.call_le]
    apply List.map_congr_left
    intro i _
    apply shift_char
    by_cases hi : i < addr.call.length
    · rw [List.getD_eq_getElem _ _ hi]
      exact .inl (hv.call_alnum _ (List.getElem_mem hi))
    · rw [List.getD_eq_default _ _ (by omega)]
      exact .inr rfl
  have hany : ((addr.call ++ List.replicate (6 - addr.call.length) (ch ' ')).any
      fun c => c ≠ ch ' ' ∧ !isalnum c) = false := by
    rw [List.any_eq_false]
    intro c hc
    rcases List.mem_append.mp hc with hc | hc
    · simp [hv.call_alnum c hc]
    · simp [List.eq_of_mem_replicate hc]
  have hoctet : (addr_octets addr last bit7).getD 6 0
      = AX25_ADDR_RESERVED ||| ((addr.ssid &&& AX25_ADDR_SSID_MASK) <<< 1)
        ||| (if bit7 then AX25_ADDR_BIT7 else 0) ||| (if last then AX25_ADDR_LAST else 0) := by
    rw [addr_octets, List.getD_eq_getElem _ _ (by simp), List.getElem_append_right (by simp)]
    simp
  obtain ⟨hssid, hbit7, -⟩ := ssid_octet_read addr.ssid hv.ssid_le bit7 last
  unfold ax25_decode_addr
  simp only [hcall, hany, rdropWhile_padded _ hspace, hoctet, hssid]
  rw [if_neg (by simp), if_neg (by have := hv.call_pos; omega), if_neg hspace, Bool.decide_and, hbit7]
  simp

/-- A list of addresses with their bit 7, the last one closed by the extension
bit. -/
def addr_list_octets : List (ax25_addr_t × Bool) → Bytes
  | [] => []
  | a :: rest => addr_octets a.1 (rest = []) a.2 ++ addr_list_octets rest

theorem length_addr_list_octets (l : List (ax25_addr_t × Bool)) :
    (addr_list_octets l).length = l.length * AX25_ADDR_LEN := by
  induction l with
  | nil => rfl
  | cons a l ih =>
      rw [addr_list_octets, List.length_append, length_addr_octets, ih, List.length_cons]
      simp only [AX25_ADDR_LEN]
      omega

/-- The address loop over an encoded address list: it stops behind the last one. -/
theorem ax25_decode_addrs_octets (rest : Bytes) (l : List (ax25_addr_t × Bool)) :
    ∀ (room : Nat) (addrs : List ax25_addr_t), l ≠ [] → l.length ≤ room →
      (∀ a ∈ l, a.1.Valid) →
      ax25_decode_addrs room (addr_list_octets l ++ rest) addrs
        = .ok (addrs ++ l.mapIdx (fun i a =>
            { a.1 with repeated := decide (2 ≤ addrs.length + i) && a.2 }), true, rest) := by
  induction l with
  | nil => intro room addrs h; exact absurd rfl h
  | cons a l ih =>
      intro room addrs _ hroom hv
      obtain ⟨room, rfl⟩ : ∃ r, room = r + 1 := ⟨room - 1, by rw [List.length_cons] at hroom; omega⟩
      have ha : a.1.Valid := hv a List.mem_cons_self
      have hlen := length_addr_octets a.1 (l = []) a.2
      have htake : (addr_list_octets (a :: l) ++ rest).take AX25_ADDR_LEN
          = addr_octets a.1 (l = []) a.2 := by
        rw [addr_list_octets, List.append_assoc, List.take_left' hlen]
      have hdrop : (addr_list_octets (a :: l) ++ rest).drop AX25_ADDR_LEN
          = addr_list_octets l ++ rest := by
        rw [addr_list_octets, List.append_assoc, List.drop_left' hlen]
      -- the extension bit is set on the last address and only there
      have hlast : (addr_list_octets (a :: l) ++ rest).getD 6 0 &&& AX25_ADDR_LAST ≠ 0 ↔ l = [] := by
        have h6 : (addr_list_octets (a :: l) ++ rest).getD 6 0
            = (addr_octets a.1 (l = []) a.2).getD 6 0 := by
          rw [addr_list_octets, List.append_assoc, List.getD_append _ _ _ _ (by rw [hlen]; decide)]
        have hoct := (ssid_octet_read a.1.ssid ha.ssid_le a.2 (l = [])).2.2
        rw [decide_eq_decide] at hoct
        rw [h6, addr_octets, List.getD_eq_getElem _ _ (by simp), List.getElem_append_right (by simp)]
        simpa using hoct
      have hge : ¬(addr_list_octets (a :: l) ++ rest).length < AX25_ADDR_LEN := by
        rw [List.length_append, length_addr_list_octets, List.length_cons]
        simp only [AX25_ADDR_LEN]
        omega
      rw [ax25_decode_addrs, if_neg hge, htake, ax25_decode_addr_octets ha, hdrop]
      show (if _ then _ else _) = _
      by_cases hl : l = []
      · rw [if_pos (hlast.mpr hl)]
        subst hl
        simp [addr_list_octets]
      · rw [if_neg (fun h => hl (hlast.mp h))]
        -- one address further on, the index of every later one grows by one
        rw [ih room _ hl (by rw [List.length_cons] at hroom; omega)
          (fun b hb => hv b (List.mem_cons_of_mem a hb))]
        rw [List.mapIdx_cons, List.append_assoc, List.singleton_append]
        simp only [List.length_append, List.length_singleton, Nat.add_zero, Nat.add_assoc,
          Nat.add_comm 1]

/-- The octets of a whole UI frame. -/
def ui_octets (frame : ax25_frame_t) : Bytes :=
  addr_list_octets ((frame.dst, true) :: (frame.src, false) ::
      frame.path.map fun a => (a, a.repeated)) ++
    [AX25_CTRL_UI, AX25_PID_NONE] ++ frame.payload

/-- The length of a UI frame. -/
theorem length_ui_octets (frame : ax25_frame_t) :
    (ui_octets frame).length
      = (2 + frame.path.length) * AX25_ADDR_LEN + 2 + frame.payload.length := by
  rw [ui_octets, List.length_append, List.length_append, length_addr_list_octets]
  simp only [List.length_cons, List.length_map, List.length_nil, AX25_ADDR_LEN]
  omega

/-- A valid address is encoded. -/
theorem ax25_encode_addr_valid {addr : ax25_addr_t} (hv : addr.Valid) (last bit7 : Bool) :
    ax25_encode_addr addr last bit7 = .ok (addr_octets addr last bit7) := by
  have hne : addr.call ≠ [] := List.ne_nil_of_length_pos hv.call_pos
  have hssid : ¬15 < addr.ssid := UInt8.not_lt.mpr hv.ssid_le
  rw [ax25_encode_addr, if_neg (by simp [hne, hssid])]

/-- A path of valid addresses is encoded. -/
theorem ax25_encode_path_valid (path : List ax25_addr_t) (hv : ∀ a ∈ path, a.Valid) :
    ax25_encode_path path = .ok (addr_list_octets (path.map fun a => (a, a.repeated))) := by
  induction path with
  | nil => rfl
  | cons a path ih =>
      rw [ax25_encode_path, ax25_encode_addr_valid (hv a List.mem_cons_self),
        ih fun b hb => hv b (List.mem_cons_of_mem a hb)]
      simp [addr_list_octets, bind, Except.bind]

/-- **The encoder succeeds on every valid frame** when the buffer has the size
the bridge gives it, and writes `ui_octets`. -/
theorem ax25_encode_ui_valid {frame : ax25_frame_t} (hv : frame.Valid) :
    ax25_encode_ui frame LHKT_AX25_MAX_FRAME = .ok (ui_octets frame) := by
  have hpath := hv.path_le
  have hpay := hv.payload_le
  simp only [LHKT_AX25_MAX_REPEATERS, LHKT_AX25_MAX_PAYLOAD] at hpath hpay
  unfold ax25_encode_ui
  rw [if_neg (by simp only [LHKT_AX25_MAX_REPEATERS, LHKT_AX25_MAX_PAYLOAD]; omega)]
  dsimp only
  rw [if_neg (by simp only [LHKT_AX25_MAX_FRAME, AX25_ADDR_LEN]; omega),
    if_neg (by simp only [LHKT_AX25_MAX_FRAME, AX25_ADDR_LEN]; omega),
    ax25_encode_addr_valid hv.dst, ax25_encode_addr_valid hv.src,
    ax25_encode_path_valid _ hv.path]
  simp [ui_octets, addr_list_octets, bind, Except.bind]

/-- The octets never exceed the largest UI frame. -/
theorem length_ui_octets_le {frame : ax25_frame_t} (hv : frame.Valid) :
    (ui_octets frame).length ≤ 328 := by
  have hpath := hv.path_le
  have hpay := hv.payload_le
  simp only [LHKT_AX25_MAX_REPEATERS, LHKT_AX25_MAX_PAYLOAD] at hpath hpay
  rw [length_ui_octets]
  simp only [AX25_ADDR_LEN]
  omega

/-- **Round trip.** Decoding the octets of a valid frame gives the frame, with
the repeated flags of destination and source cleared. -/
theorem ax25_decode_encode {frame : ax25_frame_t} (hv : frame.Valid) :
    ax25_decode_ui (ui_octets frame) = .ok frame.plain := by
  have hpath := hv.path_le
  simp only [LHKT_AX25_MAX_REPEATERS] at hpath
  have hall : ∀ a ∈ (frame.dst, true) :: (frame.src, false) ::
      frame.path.map (fun a => (a, a.repeated)), a.1.Valid := by
    intro a ha
    rcases List.mem_cons.mp ha with rfl | ha
    · exact hv.dst
    rcases List.mem_cons.mp ha with rfl | ha
    · exact hv.src
    obtain ⟨b, hb, rfl⟩ := List.mem_map.mp ha
    exact hv.path b hb
  have hloop := ax25_decode_addrs_octets ([AX25_CTRL_UI, AX25_PID_NONE] ++ frame.payload) _
    LHKT_AX25_MAX_ADDRS [] (List.cons_ne_nil _ _)
    (by simp only [List.length_cons, List.length_map, LHKT_AX25_MAX_ADDRS]; omega) hall
  -- on path positions bit 7 is the flag itself, so the path comes back unchanged
  have hback : (frame.path.map fun a => (a, a.repeated)).mapIdx
      (fun i a => { a.1 with repeated := decide (2 ≤ i + 1 + 1) && a.2 }) = frame.path := by
    apply List.ext_getElem
    · simp
    · intro i h1 h2
      simp
  unfold ax25_decode_ui
  rw [ui_octets, List.append_assoc, hloop]
  simp only [List.mapIdx_cons, List.nil_append, List.length_nil, Nat.zero_add, hback, bind,
    Except.bind]
  have hfit : ¬LHKT_AX25_MAX_PAYLOAD < frame.payload.length := by
    have := hv.payload_le
    omega
  simp [hfit, ax25_frame_t.plain]

end LorahamKissTnc.Ax25
