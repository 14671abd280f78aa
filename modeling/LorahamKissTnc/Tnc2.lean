/-
`tnc2.c`: one TNC2 text line per UI frame, `SRC>DST,DIGI,...:PAYLOAD`.

The parser cuts its copy of the line in place with `strchr`; here every such cut
is `cut`, the text before and after the first separator. The path loop recurses
on the room left in `frame->path`, which is the check the source makes first in
every round.

The format has no escaping, so reading a line back rests on which characters can
occur where. That is the content of `tnc2_parse_format`: for a valid frame whose
payload has no NUL, parsing the formatted line gives the frame back, with
callsigns in upper case, CR and LF of the payload replaced by spaces, and no
repeated mark on destination and source.
-/
import LorahamKissTnc.Ax25

set_option autoImplicit false

open LorahamKissTnc.Lib.CString LorahamKissTnc.Lib.Machine
open LorahamKissTnc.Config LorahamKissTnc.Ax25

namespace LorahamKissTnc.Tnc2

/-! ## Parsing -/

/-- `tnc2_strip_eol`. -/
def tnc2_strip_eol (line : Bytes) : Bytes :=
  line.rdropWhile fun c => c = ch '\n' ∨ c = ch '\r'

/-- Nothing is stripped of a text without line ends. -/
theorem strip_eol_eq_self {line : Bytes} (hr : ch '\r' ∉ line) (hn : ch '\n' ∉ line) :
    tnc2_strip_eol line = line := by
  rw [tnc2_strip_eol, List.rdropWhile_eq_self_iff]
  intro hne hlast
  rcases of_decide_eq_true hlast with h | h
  · exact hn (h ▸ List.getLast_mem hne)
  · exact hr (h ▸ List.getLast_mem hne)

/-- The path loop of `tnc2_parse_path`. `room` is what is left of
`LHKT_AX25_MAX_REPEATERS`; an empty rest ends the loop, also behind a comma. -/
def tnc2_parse_path_loop : Nat → Bytes → List ax25_addr_t → Except Lhkt (List ax25_addr_t)
  | room, p, path =>
      -- `while (*p != '\0')`: behind a trailing comma the loop just ends
      if p = [] then .ok path
      else match room with
        | 0 => .error .ERR_LONG
        | room + 1 =>
            match cut (ch ',') p with
            | some (digi, rest) =>
                if digi = [] then .error .ERR_FORMAT
                else do
                  let addr ← ax25_addr_parse digi
                  tnc2_parse_path_loop room rest (path ++ [addr])
            | none => do
                let addr ← ax25_addr_parse p
                .ok (path ++ [addr])

@[simp] theorem tnc2_parse_path_loop_nil (room : Nat) (path : List ax25_addr_t) :
    tnc2_parse_path_loop room [] path = .ok path := by
  cases room with
  | zero => rw [tnc2_parse_path_loop, if_pos rfl]
  | succ room => rw [tnc2_parse_path_loop, if_pos rfl]

/-- `tnc2_parse_path`: destination and path. A `*` on the destination is
tolerated and dropped. -/
def tnc2_parse_path (addr_part : Bytes) : Except Lhkt (ax25_addr_t × List ax25_addr_t) :=
  if addr_part = [] then .error .ERR_FORMAT
  else match cut (ch ',') addr_part with
    | some (p, rest) => do
        let dst ← ax25_addr_parse p
        -- a comma with nothing behind it is checked here, not in the loop
        if rest = [] then .error .ERR_FORMAT
        else do
          let path ← tnc2_parse_path_loop LHKT_AX25_MAX_REPEATERS rest []
          .ok ({ dst with repeated := false }, path)
    | none => do
        let dst ← ax25_addr_parse addr_part
        .ok ({ dst with repeated := false }, [])

/-- `tnc2_parse_line` of the string a buffer holds. -/
def tnc2_parse_line (buf : Bytes) : Except Lhkt ax25_frame_t :=
  let line := cstr buf
  if LHKT_TNC2_MAX_LINE ≤ line.length then .error .ERR_LONG
  else match cut (ch '>') (tnc2_strip_eol line) with
    | none => .error .ERR_FORMAT
    | some (src_part, rest) =>
        if src_part = [] then .error .ERR_FORMAT
        else match cut (ch ':') rest with
          | none => .error .ERR_FORMAT
          | some (addr_part, payload) =>
              -- the length of the payload is checked before any address
              if LHKT_AX25_MAX_PAYLOAD < payload.length then .error .ERR_LONG
              else do
                let src ← ax25_addr_parse src_part
                let (dst, path) ← tnc2_parse_path addr_part
                .ok ⟨dst, { src with repeated := false }, path, payload⟩

/-! ## Formatting -/

/-- `tnc2_format_station`: an address with the `*` suppressed. -/
def tnc2_format_station (addr : ax25_addr_t) (out_size : Nat) : Except Lhkt Bytes :=
  ax25_addr_format { addr with repeated := false } out_size

/-- `tnc2_append_mem`, with `*pos` the length of `out`. One byte is kept for the
terminator. -/
def tnc2_append_mem (out_size : Nat) (out data : Bytes) : Except Lhkt Bytes :=
  if out_size ≤ out.length + data.length then .error .ERR_NOSPACE
  else .ok (out ++ data)

/-- `tnc2_append_str`. -/
def tnc2_append_str (out_size : Nat) (out text : Bytes) : Except Lhkt Bytes :=
  tnc2_append_mem out_size out text

/-- A payload as one line: CR and LF become spaces. -/
def oneline (payload : Bytes) : Bytes :=
  payload.map fun b => if b = ch '\n' ∨ b = ch '\r' then ch ' ' else b

/-- `tnc2_format_line`. Addresses are formatted into a 32-byte buffer. -/
def tnc2_format_line (frame : ax25_frame_t) (out_size : Nat) : Except Lhkt Bytes :=
  if out_size = 0 then .error .ERR
  else if LHKT_AX25_MAX_REPEATERS < frame.path.length then .error .ERR_LONG
  else if LHKT_AX25_MAX_PAYLOAD < frame.payload.length then .error .ERR_LONG
  -- a NUL would end the line early
  else if 0 ∈ frame.payload then .error .ERR_FORMAT
  else do
    let addr ← tnc2_format_station frame.src 32
    let out ← tnc2_append_str out_size [] addr
    let out ← tnc2_append_str out_size out (ascii ">")
    let addr ← tnc2_format_station frame.dst 32
    let out ← tnc2_append_str out_size out addr
    let out ← frame.path.foldlM (fun out digi => do
      let out ← tnc2_append_str out_size out (ascii ",")
      let addr ← ax25_addr_format digi 32
      tnc2_append_str out_size out addr) out
    let out ← tnc2_append_str out_size out (ascii ":")
    if frame.payload = [] then .ok out
    else tnc2_append_mem out_size out (oneline frame.payload)

/-! ## The text of a frame -/

/-- A station: the address without the `*`. -/
def station_text (addr : ax25_addr_t) : Bytes := addr_text { addr with repeated := false }

/-- The path, one comma in front of every digipeater. -/
def path_text (path : List ax25_addr_t) : Bytes := path.flatMap fun a => ch ',' :: addr_text a

/-- `SRC>DST,DIGI,...:PAYLOAD`. -/
def tnc2_text (frame : ax25_frame_t) : Bytes :=
  station_text frame.src ++ ch '>' :: (station_text frame.dst ++ path_text frame.path ++
    ch ':' :: oneline frame.payload)

/-- What a frame is after a trip through the text: callsigns in upper case, the
payload on one line, and no mark on destination and source. -/
def normalized (frame : ax25_frame_t) : ax25_frame_t where
  dst := ⟨frame.dst.call.map toupper, frame.dst.ssid, false⟩
  src := ⟨frame.src.call.map toupper, frame.src.ssid, false⟩
  path := frame.path.map fun a => ⟨a.call.map toupper, a.ssid, a.repeated⟩
  payload := oneline frame.payload

/-! ## Which characters an address can have -/

/-- The characters of a formatted address. -/
def addr_char (c : UInt8) : Bool := isalnum c ∨ c = ch '-' ∨ c = ch '*'

/-- The facts about the decimal text of an SSID the parser relies on. -/
theorem fmt_u_ssid (s : UInt8) : s ≤ 15 → (fmt_u s.toNat).all isdigit = true ∧
    fmt_u s.toNat ≠ [] ∧ (fmt_u s.toNat).length ≤ 2 ∧
    UInt8.ofNat (digits_value (fmt_u s.toNat)) = s ∧ digits_value (fmt_u s.toNat) ≤ 15 := by
  revert s
  exact forall_byte (by decide +kernel)

/-- The unstarred part of a formatted address. -/
def bare_text (addr : ax25_addr_t) : Bytes :=
  addr.call ++ (if addr.ssid = 0 then [] else ch '-' :: fmt_u addr.ssid.toNat)

/-- An address is printed as the bare one, with a star if it was repeated. -/
theorem addr_text_eq (addr : ax25_addr_t) :
    addr_text addr = bare_text addr ++ (if addr.repeated then [ch '*'] else []) := rfl

/-- A station is printed without a star. -/
theorem station_text_eq (addr : ax25_addr_t) : station_text addr = bare_text addr := by
  simp [station_text, addr_text, bare_text]

/-- The bare address has letters, digits and the dash. -/
theorem bare_text_char {addr : ax25_addr_t} (hv : addr.Valid) (c : UInt8) (hc : c ∈ bare_text addr) :
    isalnum c = true ∨ c = ch '-' := by
  rcases List.mem_append.mp hc with hc | hc
  · exact .inl (hv.call_alnum c hc)
  · split at hc
    · exact absurd hc List.not_mem_nil
    · rcases List.mem_cons.mp hc with rfl | hc
      · exact .inr rfl
      · have hall := (fmt_u_ssid addr.ssid hv.ssid_le).1
        exact .inl (isdigit_isalnum c (List.all_eq_true.mp hall c hc))

/-- The printed address has only characters of an address. -/
theorem addr_text_char {addr : ax25_addr_t} (hv : addr.Valid) (c : UInt8) (hc : c ∈ addr_text addr) :
    addr_char c = true := by
  rw [addr_text_eq] at hc
  simp only [addr_char, decide_eq_true_eq]
  rcases List.mem_append.mp hc with hc | hc
  · rcases bare_text_char hv c hc with h | h
    · exact .inl h
    · exact .inr (.inl h)
  · split at hc
    · exact .inr (.inr (List.mem_singleton.mp hc))
    · exact absurd hc List.not_mem_nil

theorem bare_text_pos {addr : ax25_addr_t} (hv : addr.Valid) : 1 ≤ (bare_text addr).length := by
  rw [bare_text, List.length_append]
  have := hv.call_pos
  omega

/-- A bare address has six characters, a dash and two digits at most. -/
theorem length_bare_text_le {addr : ax25_addr_t} (hv : addr.Valid) : (bare_text addr).length ≤ 9 := by
  have hcall := hv.call_le
  have hdig := (fmt_u_ssid addr.ssid hv.ssid_le).2.2.1
  rw [bare_text, List.length_append]
  split
  · rw [List.length_nil]; omega
  · rw [List.length_cons]; omega

/-- A printed address has ten characters at most, with its star. -/
theorem length_addr_text_le {addr : ax25_addr_t} (hv : addr.Valid) : (addr_text addr).length ≤ 10 := by
  have := length_bare_text_le hv
  rw [addr_text_eq, List.length_append]
  split
  · rw [List.length_singleton]; omega
  · rw [List.length_nil]; omega

/-- No separator of the line format, no line end and no NUL is an address
character. -/
theorem separators_not_addr_char : addr_char (ch '>') = false ∧ addr_char (ch ':') = false ∧
    addr_char (ch ',') = false ∧ addr_char 0 = false ∧ addr_char (ch '\n') = false ∧
    addr_char (ch '\r') = false := by decide

/-- An address text does not hold a byte that is no address character. -/
theorem notMem_addr_text {addr : ax25_addr_t} (hv : addr.Valid) {c : UInt8}
    (hc : addr_char c = false) : c ∉ addr_text addr := by
  intro hm
  rw [addr_text_char hv c hm] at hc
  exact absurd hc (by decide)

theorem addr_text_ne_nil {addr : ax25_addr_t} (hv : addr.Valid) : addr_text addr ≠ [] := by
  have := bare_text_pos hv
  intro h
  rw [addr_text_eq] at h
  rw [(List.append_eq_nil_iff.mp h).1, List.length_nil] at this
  omega

/-! ## Addresses round trip -/

/-- The digits behind the dash; there is no dash for SSID 0. -/
def ssid_digits (ssid : UInt8) : Option Bytes :=
  if ssid = 0 then none else some (fmt_u ssid.toNat)

/-- The digits of an SSID have its value. -/
theorem ssid_value_digits {ssid : UInt8} (h : ssid ≤ 15) :
    UInt8.ofNat (ssid_value (ssid_digits ssid)) = ssid ∧ ssid_value (ssid_digits ssid) ≤ 15 := by
  obtain ⟨-, -, -, hval, hle⟩ := fmt_u_ssid ssid h
  rw [ssid_digits]
  by_cases h0 : ssid = 0
  · rw [if_pos h0, h0]
    decide
  · rw [if_neg h0]
    exact ⟨hval, hle⟩

/-- The text of a valid address has the form the parser accepts. -/
theorem addr_text_form {addr : ax25_addr_t} (hv : addr.Valid) :
    AddrText (addr_text addr) addr.call (ssid_digits addr.ssid) addr.repeated := by
  obtain ⟨hdig, hdne, -⟩ := fmt_u_ssid addr.ssid hv.ssid_le
  have hlen := length_addr_text_le hv
  refine ⟨?_, by omega, hv.call_pos, hv.call_le, hv.call_alnum, ?_, ?_,
    (ssid_value_digits hv.ssid_le).2⟩
  · rw [addr_text, ssid_digits, star_part]
    by_cases h0 : addr.ssid = 0
    · rw [if_pos h0, if_pos h0, ssid_part]
    · rw [if_neg h0, if_neg h0, ssid_part]
  · rw [ssid_digits]
    split
    · simp
    · simpa using hdne
  · intro digits hd
    rw [ssid_digits] at hd
    split at hd
    · cases hd
    · obtain rfl := Option.some.inj hd
      exact List.all_eq_true.mp hdig

/-- **Address round trip.** Parsing the text of a valid address gives the
address in upper case. -/
theorem ax25_addr_parse_text {addr : ax25_addr_t} (hv : addr.Valid) :
    ax25_addr_parse (addr_text addr) = .ok ⟨addr.call.map toupper, addr.ssid, addr.repeated⟩ := by
  rw [(addr_text_form hv).parse, addr_of, (ssid_value_digits hv.ssid_le).1]

/-! ## What the parser accepts -/

section Checked

/- Whatever the address parser guarantees of an address holds of every address of
a parsed line, as long as it does not depend on the repeated flag. -/
variable {P : ax25_addr_t → Prop}

/-- Behind any loop over the path the addresses are checked, and there is room for them.
-/
theorem checked_parse_path_loop (hP : ∀ text, Checked P (ax25_addr_parse text)) (room : Nat) :
    ∀ (p : Bytes) (path : List ax25_addr_t), (∀ a ∈ path, P a) →
      Checked (fun path' => (∀ a ∈ path', P a) ∧ path'.length ≤ path.length + room)
        (tnc2_parse_path_loop room p path) := by
  induction room with
  | zero =>
      intro p path hv
      rw [tnc2_parse_path_loop]
      split
      · exact ⟨hv, Nat.le_refl _⟩
      · exact .inl rfl
  | succ room ih =>
      intro p path hv
      have happend : ∀ addr : ax25_addr_t, P addr → ∀ a ∈ path ++ [addr], P a := by
        intro addr haddr a ha
        rcases List.mem_append.mp ha with ha | ha
        · exact hv a ha
        · exact List.mem_singleton.mp ha ▸ haddr
      rw [tnc2_parse_path_loop]
      split
      · exact ⟨hv, Nat.le_add_right _ _⟩
      · split
        · rename_i digi rest _
          split
          · exact .inr rfl
          · refine (hP digi).bind fun addr haddr => ?_
            have h := ih rest (path ++ [addr]) (happend addr haddr)
            rw [List.length_append, List.length_singleton, Nat.add_assoc, Nat.add_comm 1] at h
            exact h
        · refine (hP p).bind fun addr haddr => ?_
          refine ⟨happend addr haddr, ?_⟩
          rw [List.length_append, List.length_singleton]
          omega

/-- Behind any header the destination and the path are checked. -/
theorem checked_parse_path (hP : ∀ text, Checked P (ax25_addr_parse text))
    (hplain : ∀ a, P a → P { a with repeated := false }) (addr_part : Bytes) :
    Checked (fun r : ax25_addr_t × List ax25_addr_t => P r.1 ∧ (∀ a ∈ r.2, P a) ∧
        r.2.length ≤ LHKT_AX25_MAX_REPEATERS) (tnc2_parse_path addr_part) := by
  unfold tnc2_parse_path
  split
  · exact .inr rfl
  · split
    · rename_i p rest _
      refine (hP p).bind fun dst hdst => ?_
      split
      · exact .inr rfl
      · refine (checked_parse_path_loop hP LHKT_AX25_MAX_REPEATERS rest [] (by simp)).bind
          fun path hpath => ?_
        exact ⟨hplain dst hdst, hpath.1, by simpa using hpath.2⟩
    · refine (hP addr_part).bind fun dst hdst => ?_
      exact ⟨hplain dst hdst, by simp, Nat.zero_le _⟩

/-- What the line parser guarantees of its frame; a payload cut out of a C string
has no NUL. -/
theorem checked_parse_line_of (hP : ∀ text, Checked P (ax25_addr_parse text))
    (hplain : ∀ a, P a → P { a with repeated := false }) (buf : Bytes) :
    Checked (fun frame => (P frame.dst ∧ P frame.src ∧ ∀ a ∈ frame.path, P a) ∧
        frame.path.length ≤ LHKT_AX25_MAX_REPEATERS ∧
        frame.payload.length ≤ LHKT_AX25_MAX_PAYLOAD ∧ 0 ∉ frame.payload)
      (tnc2_parse_line buf) := by
  unfold tnc2_parse_line
  dsimp only
  split
  · exact .inl rfl
  · split
    · exact .inr rfl
    · rename_i src_part rest hgt
      split
      · exact .inr rfl
      · split
        · exact .inr rfl
        · rename_i addr_part payload hcolon
          split
          · exact .inl rfl
          · rename_i hlen
            refine (hP src_part).bind fun src hsrc => ?_
            refine (checked_parse_path hP hplain addr_part).bind fun r hr => ?_
            refine ⟨⟨hr.1, hplain src hsrc, hr.2.1⟩, hr.2.2, Nat.le_of_not_lt hlen, ?_⟩
            intro h0
            apply zero_notMem_cstr buf
            apply (List.rdropWhile_prefix _ _).subset
            rw [← tnc2_strip_eol, (cut_eq_some_iff.mp hgt).1, (cut_eq_some_iff.mp hcolon).1]
            simp [show 0 ∈ payload from h0]

end Checked

/-- The repeated bit does not count for validity. -/
theorem plain_addr_valid {addr : ax25_addr_t} (hv : addr.Valid) :
    ax25_addr_t.Valid { addr with repeated := false } :=
  ⟨hv.call_pos, hv.call_le, hv.call_alnum, hv.ssid_le⟩

/-- **The line parser** answers with a valid frame, or rejects the line. -/
theorem checked_parse_line (buf : Bytes) : Checked ax25_frame_t.Valid (tnc2_parse_line buf) := by
  refine (checked_parse_line_of checked_addr_parse (fun _ => plain_addr_valid) buf).mono ?_
  rintro frame ⟨⟨hdst, hsrc, hpath⟩, hlen, hpay, -⟩
  exact ⟨hdst, hsrc, hpath, hlen, hpay⟩

/-! ## Formatting succeeds -/

/-- A valid address is printed in full. -/
theorem ax25_addr_format_valid {addr : ax25_addr_t} (hv : addr.Valid) :
    ax25_addr_format addr 32 = .ok (addr_text addr) := by
  have hlen := length_addr_text_le hv
  have hne : addr.call ≠ [] := List.ne_nil_of_length_pos hv.call_pos
  have hssid : ¬15 < addr.ssid := UInt8.not_lt.mpr hv.ssid_le
  rw [ax25_addr_format, if_neg (by simp [hne]), if_neg hssid, if_neg (by omega)]

/-- A valid station is printed in full. -/
theorem tnc2_format_station_valid {addr : ax25_addr_t} (hv : addr.Valid) :
    tnc2_format_station addr 32 = .ok (station_text addr) := by
  exact ax25_addr_format_valid (plain_addr_valid hv)

/-- A text that fits is appended. -/
theorem tnc2_append_str_fits {out_size : Nat} {out text : Bytes}
    (h : out.length + text.length < out_size) :
    tnc2_append_str out_size out text = .ok (out ++ text) := by
  rw [tnc2_append_str, tnc2_append_mem, if_neg (by omega)]

/-- A path takes eleven characters for each repeater at most. -/
theorem length_path_text_le {path : List ax25_addr_t} (hv : ∀ a ∈ path, a.Valid) :
    (path_text path).length ≤ 11 * path.length := by
  induction path with
  | nil => exact Nat.le_refl 0
  | cons a path ih =>
      have ha := length_addr_text_le (hv a List.mem_cons_self)
      have hrest := ih fun b hb => hv b (List.mem_cons_of_mem a hb)
      rw [path_text] at hrest ⊢
      rw [List.flatMap_cons, List.length_append, List.length_cons, List.length_cons]
      omega

/-- The path loop of the formatter. -/
theorem format_path_loop (path : List ax25_addr_t) (hv : ∀ a ∈ path, a.Valid) :
    ∀ out : Bytes, out.length + (path_text path).length < LHKT_TNC2_MAX_LINE →
      path.foldlM (fun out digi => do
        let out ← tnc2_append_str LHKT_TNC2_MAX_LINE out (ascii ",")
        let addr ← ax25_addr_format digi 32
        tnc2_append_str LHKT_TNC2_MAX_LINE out addr) out = .ok (out ++ path_text path) := by
  induction path with
  | nil =>
      intro out _
      rw [path_text, List.flatMap_nil, List.append_nil]
      rfl
  | cons a path ih =>
      intro out hlen
      have hsplit : path_text (a :: path) = ch ',' :: addr_text a ++ path_text path := by
        rw [path_text, List.flatMap_cons]
        rfl
      have hcomma : (ascii ",").length = 1 := by decide
      rw [hsplit, List.length_append, List.length_cons] at hlen
      rw [List.foldlM_cons, tnc2_append_str_fits (by rw [hcomma]; omega),
        ax25_addr_format_valid (hv a List.mem_cons_self)]
      show (tnc2_append_str LHKT_TNC2_MAX_LINE (out ++ ascii ",") (addr_text a) >>= _) = _
      rw [tnc2_append_str_fits (by rw [List.length_append, hcomma]; omega)]
      show List.foldlM _ (out ++ ascii "," ++ addr_text a) path = _
      rw [ih (fun b hb => hv b (List.mem_cons_of_mem a hb)) _
        (by rw [List.length_append, List.length_append, hcomma]; omega), hsplit]
      simp [show ascii "," = [ch ','] by decide]

theorem length_oneline (payload : Bytes) : (oneline payload).length = payload.length :=
  List.length_map _

/-- The longest line a valid frame can give. -/
theorem length_tnc2_text_le {frame : ax25_frame_t} (hv : frame.Valid) :
    (tnc2_text frame).length ≤ 364 := by
  have hsrc := length_bare_text_le hv.src
  have hdst := length_bare_text_le hv.dst
  have hpath := length_path_text_le hv.path
  have hple := hv.path_le
  have hpay := hv.payload_le
  simp only [LHKT_AX25_MAX_REPEATERS, LHKT_AX25_MAX_PAYLOAD] at hple hpay
  rw [tnc2_text, station_text_eq, station_text_eq]
  simp only [List.length_append, List.length_cons, length_oneline]
  omega

/-- **Formatting a valid frame** fails only for a NUL in the payload. -/
theorem tnc2_format_line_valid {frame : ax25_frame_t} (hv : frame.Valid) :
    tnc2_format_line frame LHKT_TNC2_MAX_LINE
      = if 0 ∈ frame.payload then .error .ERR_FORMAT else .ok (tnc2_text frame) := by
  have hlen := length_tnc2_text_le hv
  have hple := hv.path_le
  have hpay := hv.payload_le
  unfold tnc2_format_line
  rw [if_neg (by decide), if_neg (by omega), if_neg (by omega)]
  by_cases h0 : 0 ∈ frame.payload
  · rw [if_pos h0, if_pos h0]
  have hgt : ascii ">" = [ch '>'] := by decide
  have hcolon : ascii ":" = [ch ':'] := by decide
  -- every append below fits because the whole line does
  rw [tnc2_text] at hlen
  simp only [List.length_append, List.length_cons, length_oneline] at hlen
  rw [if_neg h0, if_neg h0, tnc2_format_station_valid hv.src, tnc2_format_station_valid hv.dst]
  simp only [bind, Except.bind, hgt, hcolon]
  rw [tnc2_append_str_fits (by simp only [List.length_nil, LHKT_TNC2_MAX_LINE]; omega)]
  dsimp only
  rw [tnc2_append_str_fits (by
    simp only [List.length_append, List.length_cons, List.length_nil, LHKT_TNC2_MAX_LINE]; omega)]
  dsimp only
  rw [tnc2_append_str_fits (by
    simp only [List.length_append, List.length_cons, List.length_nil, LHKT_TNC2_MAX_LINE]; omega)]
  dsimp only
  have hloop := format_path_loop frame.path hv.path
    ([] ++ station_text frame.src ++ [ch '>'] ++ station_text frame.dst) (by
      simp only [List.length_append, List.length_cons, List.length_nil, LHKT_TNC2_MAX_LINE]; omega)
  simp only [bind, Except.bind] at hloop
  rw [show ascii "," = [ch ','] by decide] at hloop
  rw [show ascii "," = [ch ','] by decide, hloop]
  dsimp only
  rw [tnc2_append_str_fits (by
    simp only [List.length_append, List.length_cons, List.length_nil, LHKT_TNC2_MAX_LINE]; omega)]
  dsimp only
  by_cases hnil : frame.payload = []
  · rw [if_pos hnil]
    simp [tnc2_text, hnil, oneline]
  · rw [if_neg hnil, ← tnc2_append_str, tnc2_append_str_fits (by
      simp only [List.length_append, List.length_cons, List.length_nil, length_oneline,
        LHKT_TNC2_MAX_LINE]; omega)]
    simp [tnc2_text]

/-! ## Parsing a formatted line -/

/-- A payload line holds neither CR nor LF, and no NUL it did not hold before. -/
theorem oneline_no_eol (payload : Bytes) :
    ch '\n' ∉ oneline payload ∧ ch '\r' ∉ oneline payload ∧
      (0 ∉ payload → 0 ∉ oneline payload) := by
  refine ⟨?_, ?_, ?_⟩
  · intro h
    obtain ⟨b, -, hb⟩ := List.mem_map.mp h
    split at hb
    · exact absurd hb (by decide)
    · rename_i hne; exact hne (.inl hb)
  · intro h
    obtain ⟨b, -, hb⟩ := List.mem_map.mp h
    split at hb
    · exact absurd hb (by decide)
    · rename_i hne; exact hne (.inr hb)
  · intro h0 h
    obtain ⟨b, hm, hb⟩ := List.mem_map.mp h
    split at hb
    · exact absurd hb (by decide)
    · exact h0 (hb ▸ hm)

/-- What is no character of an address does not stand in a station. -/
theorem notMem_station_text {addr : ax25_addr_t} (hv : addr.Valid) {c : UInt8}
    (hc : addr_char c = false) : c ∉ station_text addr := by
  exact notMem_addr_text (plain_addr_valid hv) hc

/-- Apart from commas, the path text holds only address characters. -/
theorem notMem_path_text {path : List ax25_addr_t} (hv : ∀ a ∈ path, a.Valid) {c : UInt8}
    (hc : addr_char c = false) (hne : c ≠ ch ',') : c ∉ path_text path := by
  intro h
  obtain ⟨a, ha, hm⟩ := List.mem_flatMap.mp h
  rcases List.mem_cons.mp hm with h | h
  · exact hne h
  · exact notMem_addr_text (hv a ha) hc h

/-- No byte of the line is a NUL, a CR or an LF. -/
theorem tnc2_text_line {frame : ax25_frame_t} (hv : frame.Valid) (h0 : 0 ∉ frame.payload) :
    0 ∉ tnc2_text frame ∧ ch '\n' ∉ tnc2_text frame ∧ ch '\r' ∉ tnc2_text frame := by
  obtain ⟨-, -, -, hz, hn, hr⟩ := separators_not_addr_char
  obtain ⟨hon, hor, hoz⟩ := oneline_no_eol frame.payload
  have key : ∀ c : UInt8, addr_char c = false → c ≠ ch ',' → c ≠ ch '>' → c ≠ ch ':' →
      c ∉ oneline frame.payload → c ∉ tnc2_text frame := by
    intro c hc h1 h2 h3 h4
    simp only [tnc2_text, List.mem_append, List.mem_cons, not_or]
    exact ⟨notMem_station_text hv.src hc, h2,
      ⟨notMem_station_text hv.dst hc, notMem_path_text hv.path hc h1⟩, h3, h4⟩
  exact ⟨key 0 hz (by decide) (by decide) (by decide) (hoz h0),
    key _ hn (by decide) (by decide) (by decide) hon,
    key _ hr (by decide) (by decide) (by decide) hor⟩

/-- The path loop of the parser over a formatted path, entered behind the first
comma. -/
theorem parse_path_loop_text (path : List ax25_addr_t) (hv : ∀ a ∈ path, a.Valid) :
    ∀ (a : ax25_addr_t) (room : Nat) (acc : List ax25_addr_t), a.Valid → path.length < room →
      tnc2_parse_path_loop room (addr_text a ++ path_text path) acc
        = .ok (acc ++ (a :: path).map fun a => ⟨a.call.map toupper, a.ssid, a.repeated⟩) := by
  obtain ⟨-, -, hcomma, -⟩ := separators_not_addr_char
  induction path with
  | nil =>
      intro a room acc ha hroom
      obtain ⟨room, rfl⟩ : ∃ r, room = r + 1 := ⟨room - 1, by rw [List.length_nil] at hroom; omega⟩
      rw [path_text, List.flatMap_nil, List.append_nil, tnc2_parse_path_loop,
        if_neg (addr_text_ne_nil ha)]
      simp only [cut_eq_none_iff.mpr (notMem_addr_text ha hcomma), ax25_addr_parse_text ha, bind,
        Except.bind, List.map_cons, List.map_nil]
  | cons b path ih =>
      intro a room acc ha hroom
      obtain ⟨room, rfl⟩ : ∃ r, room = r + 1 := ⟨room - 1, by rw [List.length_cons] at hroom; omega⟩
      have hsplit : addr_text a ++ path_text (b :: path)
          = addr_text a ++ ch ',' :: (addr_text b ++ path_text path) := by
        rw [path_text, List.flatMap_cons]
        rfl
      have hne : addr_text a ++ ch ',' :: (addr_text b ++ path_text path) ≠ [] := by simp
      rw [hsplit, tnc2_parse_path_loop, if_neg hne]
      simp only [cut_append _ (notMem_addr_text ha hcomma), if_neg (addr_text_ne_nil ha),
        ax25_addr_parse_text ha, bind, Except.bind]
      rw [ih (fun c hc => hv c (List.mem_cons_of_mem b hc)) b room _ (hv b List.mem_cons_self)
        (by rw [List.length_cons] at hroom; omega)]
      simp

/-- The destination and path part of a formatted line. -/
theorem tnc2_parse_path_text {frame : ax25_frame_t} (hv : frame.Valid) :
    tnc2_parse_path (station_text frame.dst ++ path_text frame.path)
      = .ok ((normalized frame).dst, (normalized frame).path) := by
  obtain ⟨-, -, hcomma, -⟩ := separators_not_addr_char
  have hplain := plain_addr_valid hv.dst
  have hdst := ax25_addr_parse_text hplain
  have hne : station_text frame.dst ≠ [] := addr_text_ne_nil hplain
  rw [← station_text] at hdst
  unfold tnc2_parse_path
  rw [if_neg (by simp [hne])]
  cases hp : frame.path with
  | nil =>
      rw [path_text, List.flatMap_nil, List.append_nil,
        cut_eq_none_iff.mpr (notMem_station_text hv.dst hcomma)]
      simp only [hdst, bind, Except.bind, normalized, hp, List.map_nil]
  | cons b path =>
      have hsplit : station_text frame.dst ++ path_text (b :: path)
          = station_text frame.dst ++ ch ',' :: (addr_text b ++ path_text path) := by
        rw [path_text, List.flatMap_cons]
        rfl
      have hpv : ∀ a ∈ b :: path, a.Valid := fun a ha => hv.path a (hp ▸ ha)
      have hrest : addr_text b ++ path_text path ≠ [] := by
        simp [addr_text_ne_nil (hpv b List.mem_cons_self)]
      have hroom : path.length < LHKT_AX25_MAX_REPEATERS := by
        have := hv.path_le
        rw [hp, List.length_cons] at this
        omega
      rw [hsplit, cut_append _ (notMem_station_text hv.dst hcomma)]
      simp only [hdst, bind, Except.bind, if_neg hrest]
      rw [parse_path_loop_text path (fun a ha => hpv a (List.mem_cons_of_mem b ha)) b _ _
        (hpv b List.mem_cons_self) hroom]
      simp only [normalized, hp, List.nil_append]

/-- **Line round trip.** Parsing the line of a valid frame without NUL gives the
normalised frame. -/
theorem tnc2_parse_format {frame : ax25_frame_t} (hv : frame.Valid) (h0 : 0 ∉ frame.payload) :
    tnc2_parse_line (tnc2_text frame) = .ok (normalized frame) := by
  obtain ⟨hz, hn, hr⟩ := tnc2_text_line hv h0
  obtain ⟨hgt, hcolon, -⟩ := separators_not_addr_char
  have hlen := length_tnc2_text_le hv
  have hplain := plain_addr_valid hv.src
  have hsrc := ax25_addr_parse_text hplain
  rw [← station_text] at hsrc
  have hsne : station_text frame.src ≠ [] := addr_text_ne_nil hplain
  have hhead : ch ':' ∉ station_text frame.dst ++ path_text frame.path := by
    rw [List.mem_append, not_or]
    exact ⟨notMem_station_text hv.dst hcolon, notMem_path_text hv.path hcolon (by decide)⟩
  have hpay : ¬LHKT_AX25_MAX_PAYLOAD < (oneline frame.payload).length := by
    have := hv.payload_le
    rw [length_oneline]
    omega
  unfold tnc2_parse_line
  dsimp only
  rw [cstr_eq_self hz, if_neg (by simp only [LHKT_TNC2_MAX_LINE]; omega), strip_eol_eq_self hr hn]
  rw [tnc2_text, cut_append _ (notMem_station_text hv.src hgt)]
  dsimp only
  rw [if_neg hsne, cut_append _ hhead]
  dsimp only
  rw [if_neg hpay, hsrc, tnc2_parse_path_text hv]
  rfl

end LorahamKissTnc.Tnc2
