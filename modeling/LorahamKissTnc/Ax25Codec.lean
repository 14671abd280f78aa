/-
The AX.25 UI codec in both directions.

One direction is `ax25_decode_encode`: a frame within the limits comes back from
its octets. The other starts at the octets, and they may be anything: whatever
`ax25_decode_ui` accepts is re-encoded to the same octets, except for the bits
the frame has no room for. `normalise` says which these are. The decoder drops
bit 0 of the callsign octets, the two reserved bits of an SSID octet, and bit 7
of the SSID octet on destination and source, where it is the command bit; the
encoder writes 0, 1 1, and 1 or 0 there.

The argument follows the decoder's loop over the address list. One address at a
time, the octets of the decoded address are the normalised octets it came from
(`addr_octets_decoded`): the padding that was stripped is the padding that is
written, and the extension bit is kept because the loop stops at exactly the
address that carries it.
-/
import LorahamKissTnc.Ax25

set_option autoImplicit false

open LorahamKissTnc.Lib.CString LorahamKissTnc.Lib.Machine
open LorahamKissTnc.Config LorahamKissTnc.Ax25

namespace LorahamKissTnc.Ax25Codec

/-! ## The bits a frame does not hold -/

/-- An SSID octet with the reserved bits set, and bit 7 as a command frame has it:
1 on the destination (position 0), 0 on the source (position 1). On a path
address bit 7 is the repeated flag and stays. -/
def normalise_ssid (pos : Nat) (octet : UInt8) : UInt8 :=
  if pos = 0 then octet ||| AX25_ADDR_RESERVED ||| AX25_ADDR_BIT7
  else if pos = 1 then (octet ||| AX25_ADDR_RESERVED) &&& 0x7f
  else octet ||| AX25_ADDR_RESERVED

/-- The seven octets of the address at position `pos`: bit 0 of the callsign
octets is cleared. -/
def normalise_addr (pos : Nat) (octets : Bytes) : Bytes :=
  (octets.take 6).map (fun (b : UInt8) => b &&& 0xfe) ++ [normalise_ssid pos (octets.getD 6 0)]

/-- `count` addresses from position `pos` on, and the octets behind them as they
are. -/
def normalise_addrs : Nat → Nat → Bytes → Bytes
  | 0, _, data => data
  | count + 1, pos, data =>
      normalise_addr pos (data.take AX25_ADDR_LEN) ++
        normalise_addrs count (pos + 1) (data.drop AX25_ADDR_LEN)

/-- A frame with `count` addresses. -/
def normalise (count : Nat) (data : Bytes) : Bytes := normalise_addrs count 0 data

/-! ## One address -/

/-- Bit 7 as the encoder writes it for the address at position `pos`. -/
def bit7_at (pos : Nat) (addr : ax25_addr_t) : Bool :=
  if pos = 0 then true else if pos = 1 then false else addr.repeated

/-- What the two shifts lose of a callsign octet is bit 0. -/
theorem shift_octet (b : UInt8) : ((b >>> 1) &&& 0x7f) <<< 1 = b &&& 0xfe := by
  revert b
  exact forall_byte (by decide +kernel)

/-- The SSID octet written for what was read from an SSID octet. -/
theorem ssid_octet_written (b : UInt8) :
    let octet := fun bit7 : Bool => AX25_ADDR_RESERVED
      ||| ((((b >>> 1) &&& AX25_ADDR_SSID_MASK) &&& AX25_ADDR_SSID_MASK) <<< 1)
      ||| (if bit7 then AX25_ADDR_BIT7 else 0)
      ||| (if decide (b &&& AX25_ADDR_LAST ≠ 0) then AX25_ADDR_LAST else 0)
    octet true = b ||| AX25_ADDR_RESERVED ||| AX25_ADDR_BIT7 ∧
      octet false = (b ||| AX25_ADDR_RESERVED) &&& 0x7f ∧
      octet (decide (b &&& AX25_ADDR_BIT7 ≠ 0)) = b ||| AX25_ADDR_RESERVED := by
  revert b
  exact forall_byte (by decide +kernel)

/-- Stripping the padding and padding again gives the six characters back. -/
theorem pad_stripped {call : Bytes} (h : call.length = 6) :
    (List.range 6).map (fun i => (call.rdropWhile (· = ch ' ')).getD i (ch ' ')) = call := by
  have hsplit : call.rdropWhile (· = ch ' ') ++ call.rtakeWhile (· = ch ' ') = call :=
    List.rdropWhile_append_rtakeWhile
  have hspaces : call.rtakeWhile (· = ch ' ')
      = List.replicate (call.rtakeWhile (· = ch ' ')).length (ch ' ') := by
    apply List.eq_replicate_of_mem
    intro c hc
    simpa using List.mem_rtakeWhile_imp hc
  have hlen : (call.rdropWhile (· = ch ' ')).length + (call.rtakeWhile (· = ch ' ')).length = 6 := by
    rw [← List.length_append, hsplit, h]
  rw [padded_call _ (by omega)]
  have hpad : 6 - (call.rdropWhile (· = ch ' ')).length
      = (call.rtakeWhile (· = ch ' ')).length := by omega
  rw [hpad, ← hspaces, hsplit]

/-- **One address re-encoded.** The octets written for a decoded address are the
normalised octets it was decoded from. -/
theorem addr_octets_decoded {data : Bytes} {pos : Nat} {addr : ax25_addr_t}
    (hlen : data.length = AX25_ADDR_LEN)
    (h : ax25_decode_addr data (2 ≤ pos) = .ok addr) :
    addr_octets addr (data.getD 6 0 &&& AX25_ADDR_LAST ≠ 0) (bit7_at pos addr)
      = normalise_addr pos data := by
  obtain ⟨-, -, -, haddr⟩ := ax25_decode_addr_ok h
  have hcall : (call_octets data).length = 6 := by
    rw [call_octets, List.length_map, List.length_take, hlen]
    decide
  rw [addr_octets, normalise_addr]
  congr 1
  · -- the callsign octets
    have hshift : (List.range 6).map (fun i => addr.call.getD i (ch ' ') <<< 1)
        = ((List.range 6).map fun i => addr.call.getD i (ch ' ')).map fun (c : UInt8) => c <<< 1 := by
      rw [List.map_map]
      rfl
    rw [hshift, haddr, pad_stripped hcall, call_octets, List.map_map]
    apply List.map_congr_left
    intro b _
    exact shift_octet b
  · -- the SSID octet, by position
    obtain ⟨hdst, hsrc, hpath⟩ := ssid_octet_written (data.getD 6 0)
    congr 1
    rw [haddr, normalise_ssid, bit7_at]
    by_cases h0 : pos = 0
    · rw [if_pos h0, if_pos h0]
      exact hdst
    · rw [if_neg h0, if_neg h0]
      by_cases h1 : pos = 1
      · rw [if_pos h1, if_pos h1]
        exact hsrc
      · rw [if_neg h1, if_neg h1]
        have h2 : 2 ≤ pos := by omega
        simpa [h2] using hpath

/-! ## The address list -/

/-- The loop over the address list: re-encoding the addresses it collected gives
the normalised octets it walked over. The extension bit comes out right because
the loop went on exactly at the addresses without it. -/
theorem addr_list_octets_decoded (room : Nat) :
    ∀ (data : Bytes) (addrs addrs' : List ax25_addr_t) (rest : Bytes),
      ax25_decode_addrs room data addrs = .ok (addrs', true, rest) →
      ∃ new : List ax25_addr_t, new ≠ [] ∧ addrs' = addrs ++ new ∧
        addr_list_octets (new.mapIdx fun i a => (a, bit7_at (addrs.length + i) a)) ++ rest
          = normalise_addrs new.length addrs.length data := by
  induction room with
  | zero =>
      intro data addrs addrs' rest h
      cases h
  | succ room ih =>
      intro data addrs addrs' rest h
      rw [ax25_decode_addrs] at h
      split at h
      · cases h
      rename_i hge
      have hlen : (data.take AX25_ADDR_LEN).length = AX25_ADDR_LEN := by
        rw [List.length_take]
        omega
      have h6 : (data.take AX25_ADDR_LEN).getD 6 0 = data.getD 6 0 := by
        rw [List.getD_eq_getElem?_getD, List.getD_eq_getElem?_getD,
          List.getElem?_take_of_lt (by decide)]
      obtain ⟨addr, haddr, h⟩ := bind_eq_ok h
      have hone := addr_octets_decoded hlen haddr
      rw [h6] at hone
      split at h
      · rename_i hlast
        -- the extension bit: this was the last address
        obtain ⟨rfl, hrest⟩ := Prod.mk.inj (Except.ok.inj h)
        obtain ⟨-, rfl⟩ := Prod.mk.inj hrest
        refine ⟨[addr], by simp, rfl, ?_⟩
        rw [decide_eq_true hlast] at hone
        simp [addr_list_octets, normalise_addrs, ← hone]
      · rename_i hlast
        -- no extension bit: it cannot come back as the last one, since one follows
        obtain ⟨new, hne, rfl, hnew⟩ := ih _ _ _ _ h
        refine ⟨addr :: new, by simp, by simp, ?_⟩
        rw [decide_eq_false hlast] at hone
        rw [List.length_append, List.length_singleton] at hnew
        rw [List.mapIdx_cons, addr_list_octets, List.length_cons, normalise_addrs, ← hnew, ← hone]
        simp [hne, Nat.add_assoc, Nat.add_comm 1]

/-! ## The whole frame -/

/-- **Re-encoding.** The octets of a decoded frame are the octets it was decoded
from, normalised. -/
theorem ui_octets_decoded {data : Bytes} {frame : ax25_frame_t}
    (h : ax25_decode_ui data = .ok frame) :
    ui_octets frame = normalise (2 + frame.path.length) data := by
  obtain ⟨new, -, hnew, hoctets⟩ := addr_list_octets_decoded _ _ _ _ _ (ax25_decode_ui_ok h).1
  rw [List.nil_append] at hnew
  subst hnew
  have hpath : frame.path.mapIdx (fun i a => (a, bit7_at (0 + (i + 1 + 1)) a))
      = frame.path.map fun a => (a, a.repeated) := by
    apply List.ext_getElem
    · simp
    · intro i h1 h2
      simp [bit7_at]
  rw [List.mapIdx_cons, List.mapIdx_cons, List.length_nil] at hoctets
  simp only [List.length_cons] at hoctets
  rw [normalise, Nat.add_comm 2, ← hoctets, hpath, ui_octets]
  simp [bit7_at]

/-- **Both round trips.** Every frame within the limits is encoded and decoded to
itself, with the repeated flags of destination and source cleared. Whatever the
decoder accepts is encoded again to the octets it came from, in which only the
bits that `normalise` names have changed. -/
theorem ax25_ui_round_trips :
    (∀ frame : ax25_frame_t, frame.Valid →
      ∃ out, ax25_encode_ui frame LHKT_AX25_MAX_FRAME = .ok out ∧
        ax25_decode_ui out = .ok frame.plain) ∧
    (∀ (data : Bytes) (frame : ax25_frame_t), ax25_decode_ui data = .ok frame →
      ax25_encode_ui frame LHKT_AX25_MAX_FRAME
        = .ok (normalise (2 + frame.path.length) data)) := by
  constructor
  · intro frame hv
    exact ⟨ui_octets frame, ax25_encode_ui_valid hv, ax25_decode_encode hv⟩
  · intro data frame h
    rw [ax25_encode_ui_valid (ax25_decode_ui_valid h).1, ui_octets_decoded h]

/-- A frame with one repeated digipeater, from a sender of AX.25 2.0: both command
bits are 0, as are the reserved bits of the path address. -/
def old_frame_octets : Bytes :=
  [0x82, 0xa0, 0xa4, 0xa6, 0x40, 0x40, 0x60, 0x88, 0x98, 0x62, 0xa8, 0xa6, 0xa8, 0x74,
    0xae, 0x92, 0x88, 0x8a, 0x62, 0x40, 0x83, 0x03, 0xf0, 0x21]

/-- The frame it is. -/
def old_frame : ax25_frame_t :=
  ⟨⟨ascii "APRS", 0, false⟩, ⟨ascii "DL1TST", 10, false⟩, [⟨ascii "WIDE1", 1, true⟩], ascii "!"⟩

/-- The old frame is decoded, and it is encoded again with the command bit on the
destination and the reserved bits on the path address. -/
theorem ax25_ui_round_trips_old_frame :
    ax25_decode_ui old_frame_octets = .ok old_frame ∧
      ax25_encode_ui old_frame LHKT_AX25_MAX_FRAME = .ok (normalise 3 old_frame_octets) ∧
      ∃ out, ax25_encode_ui old_frame LHKT_AX25_MAX_FRAME = .ok out ∧
        ax25_decode_ui out = .ok old_frame.plain := by
  have hdecode : ax25_decode_ui old_frame_octets = .ok old_frame := by decide +kernel
  refine ⟨hdecode, ?_, ?_⟩
  · exact ax25_ui_round_trips.2 old_frame_octets old_frame hdecode
  · exact ax25_ui_round_trips.1 old_frame (ax25_decode_ui_valid hdecode).1

end LorahamKissTnc.Ax25Codec
