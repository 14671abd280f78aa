/-
Which arguments `--bind` accepts.

An argument is documented as an IPv4 address, or one with a slash and a prefix
length from 0 to 32 (`BindForm`). The length is read by `strtol`, which reads
more than digits: white space and a sign in front of them. The checks behind it
reject what is left over at the end, a text with no digit in it, and a value out
of range, but they do not see what was skipped at the beginning. So the texts
accepted are the documented ones and these (`MarkedBits`), and no others.
-/
import LorahamKissTnc.ListenAddress

set_option autoImplicit false

open LorahamKissTnc.Lib.CString LorahamKissTnc.Config LorahamKissTnc.ListenAddress

namespace LorahamKissTnc.BindGrammar

/-! ## Prefix lengths -/

/-- A prefix length as documented: digits with a value from 0 to 32. -/
structure BitsText (text : Bytes) (bits : Nat) : Prop where
  ne_nil : text ≠ []
  all_digits : text.all isdigit = true
  value : digits_value text = bits
  le : bits ≤ 32

/-- A number from 0 to 32 with white space or a sign in front of its digits. -/
def MarkedBits (text : Bytes) (bits : Nat) : Prop :=
  ∃ blanks sign digits, text = blanks ++ sign ++ digits ∧ blanks ++ sign ≠ [] ∧
    Numeral blanks sign digits ∧ numeral_value sign digits = bits ∧ bits ≤ 32

/-- A documented length has only digits in it, so it is no marked one. -/
theorem BitsText.not_marked {text : Bytes} {bits bits' : Nat} (h : BitsText text bits) :
    ¬ MarkedBits text bits' := by
  rintro ⟨blanks, sign, digits, rfl, hmark, hnum, -, -⟩
  have hall := h.all_digits
  rw [List.all_append, List.all_append, Bool.and_eq_true, Bool.and_eq_true] at hall
  cases blanks with
  | cons c blanks =>
      have hdigit := List.all_eq_true.mp hall.1.1 c List.mem_cons_self
      have hblank := List.all_eq_true.mp hnum.all_blanks c List.mem_cons_self
      exact absurd hblank (by simp [(isdigit_plain hdigit).1])
  | nil =>
      rcases hnum.sign_cases with rfl | rfl | rfl
      · exact hmark rfl
      · exact absurd hall.1.2 (by decide)
      · exact absurd hall.1.2 (by decide)

/-- The checks of the source on what `strtol` answers. -/
def Unreadable (text : Bytes) : Prop :=
  (strtol 10 text).rest = text ∨ (strtol 10 text).rest ≠ [] ∨ (strtol 10 text).value < 0 ∨
    32 < (strtol 10 text).value

theorem readable_numeral {blanks sign digits : Bytes} {bits : Nat}
    (h : Numeral blanks sign digits) (hvalue : numeral_value sign digits = bits)
    (hle : bits ≤ 32) :
    ¬ Unreadable (blanks ++ sign ++ digits) ∧
      (strtol 10 (blanks ++ sign ++ digits)).value.toNat = bits := by
  obtain ⟨hrest, hstrtol⟩ := h.strtol_eq
  rw [hvalue] at hstrtol
  constructor
  · rintro (hnone | hbehind | hneg | hbig)
    · rw [hrest] at hnone
      exact h.digits_ne (List.append_eq_nil_iff.mp hnone.symm).2
    · exact hbehind hrest
    · omega
    · omega
  · omega

/-- **What the checks let through.** -/
theorem readable_iff (text : Bytes) (bits : Nat) :
    (¬ Unreadable text ∧ (strtol 10 text).value.toNat = bits) ↔
      BitsText text bits ∨ MarkedBits text bits := by
  constructor
  · rintro ⟨hread, hbits⟩
    simp only [Unreadable, not_or, not_not, not_lt] at hread
    obtain ⟨hmoved, hrest, hneg, hbig⟩ := hread
    have hne : text ≠ [] := by
      rintro rfl
      exact hmoved hrest
    obtain ⟨blanks, sign, digits, rfl, hnum⟩ := numeral_of_strtol hrest hne
    have hstrtol := hnum.strtol_eq.2
    have hvalue : numeral_value sign digits = bits := by omega
    -- a documented number is one without white space and without a sign
    by_cases hmark : blanks ++ sign = []
    · left
      obtain ⟨rfl, rfl⟩ := List.append_eq_nil_iff.mp hmark
      have hdigits : ((digits_value digits : Nat) : Int) = bits := hvalue
      exact ⟨hne, hnum.all_digits, by exact_mod_cast hdigits, by omega⟩
    · right
      exact ⟨blanks, sign, digits, rfl, hmark, hnum, hvalue, by omega⟩
  · rintro (h | ⟨blanks, sign, digits, rfl, -, hnum, hvalue, hle⟩)
    · have hnum : Numeral [] [] text := ⟨rfl, .inl rfl, h.all_digits, h.ne_nil⟩
      have hvalue : numeral_value [] text = bits := by
        rw [← h.value]
        rfl
      exact readable_numeral hnum hvalue h.le
    · exact readable_numeral hnum hvalue hle

/-! ## Arguments -/

section Bind

variable (inet_pton : Bytes → Option UInt32)

/-- An argument as documented, with the address and the prefix length it names. -/
inductive BindForm : Bytes → UInt32 → Nat → Prop
  | address {addr : Bytes} {ip : UInt32} (h : inet_pton addr = some ip) : BindForm addr ip 32
  | network {addr digits : Bytes} {ip : UInt32} {bits : Nat} (h : inet_pton addr = some ip)
      (hbits : BitsText digits bits) : BindForm (addr ++ ch '/' :: digits) ip bits

/-- An address with a marked prefix length behind it. -/
def MarkedForm (arg : Bytes) (ip : UInt32) (bits : Nat) : Prop :=
  ∃ addr text, arg = addr ++ ch '/' :: text ∧ inet_pton addr = some ip ∧ MarkedBits text bits

/-- `inet_pton` takes dotted quads only: digits and dots. -/
def DottedOnly : Prop :=
  ∀ addr ip, inet_pton addr = some ip → addr ≠ [] ∧ ∀ c ∈ addr, isdigit c = true ∨ c = ch '.'

variable {inet_pton}

theorem DottedOnly.no_slash (h : DottedOnly inet_pton) {addr : Bytes} {ip : UInt32}
    (haddr : inet_pton addr = some ip) : ch '/' ∉ addr := by
  intro hmem
  rcases (h addr ip haddr).2 _ hmem with hdigit | hdot
  · exact absurd hdigit (by decide)
  · exact absurd hdot (by decide)

/-- The two halves of an argument are what stands around its first slash. -/
theorem DottedOnly.halves (h : DottedOnly inet_pton) {addr addr' text text' : Bytes}
    {ip ip' : UInt32} (haddr : inet_pton addr = some ip) (haddr' : inet_pton addr' = some ip')
    (heq : addr ++ ch '/' :: text = addr' ++ ch '/' :: text') : addr = addr' ∧ text = text' := by
  have hcut := cut_append text (h.no_slash haddr)
  rw [heq, cut_append text' (h.no_slash haddr')] at hcut
  exact ⟨(Prod.mk.inj (Option.some.inj hcut)).1.symm, (Prod.mk.inj (Option.some.inj hcut)).2.symm⟩

/-- No argument is both. -/
theorem BindForm.not_marked (hquad : DottedOnly inet_pton) {arg : Bytes} {ip ip' : UInt32}
    {bits bits' : Nat} (h : BindForm inet_pton arg ip bits) :
    ¬ MarkedForm inet_pton arg ip' bits' := by
  rintro ⟨addr, text, harg, haddr, hmarked⟩
  cases h with
  | address hip =>
      apply hquad.no_slash hip
      rw [harg]
      exact List.mem_append_right _ List.mem_cons_self
  | network hip hbits =>
      obtain ⟨-, rfl⟩ := hquad.halves hip haddr harg
      exact hbits.not_marked hmarked

/-- An argument without a slash. -/
theorem forms_address_iff {arg : Bytes} (hslash : ch '/' ∉ arg) (ip : UInt32) (bits : Nat) :
    (BindForm inet_pton arg ip bits ∨ MarkedForm inet_pton arg ip bits) ↔
      inet_pton arg = some ip ∧ bits = 32 := by
  constructor
  · rintro (h | ⟨addr, text, rfl, -, -⟩)
    · cases h with
      | address hip => exact ⟨hip, rfl⟩
      | network _ _ => exact absurd (List.mem_append_right _ List.mem_cons_self) hslash
    · exact absurd (List.mem_append_right _ List.mem_cons_self) hslash
  · rintro ⟨hip, rfl⟩
    exact .inl (.address hip)

/-- An argument with a slash. -/
theorem forms_network_iff (hquad : DottedOnly inet_pton) {addr text : Bytes}
    (hslash : ch '/' ∉ addr) (ip : UInt32) (bits : Nat) :
    (BindForm inet_pton (addr ++ ch '/' :: text) ip bits ∨
        MarkedForm inet_pton (addr ++ ch '/' :: text) ip bits) ↔
      inet_pton addr = some ip ∧ (BitsText text bits ∨ MarkedBits text bits) := by
  have hcut := cut_append text hslash
  constructor
  · rintro (h | ⟨addr', text', harg, haddr, hmarked⟩)
    · -- a bare address has no slash, so only the network form is left
      generalize harg : addr ++ ch '/' :: text = arg at h
      cases h with
      | address hip =>
          refine absurd ?_ (hquad.no_slash hip)
          rw [← harg]
          exact List.mem_append_right _ List.mem_cons_self
      | network hip hbits =>
          rw [harg, cut_append _ (hquad.no_slash hip)] at hcut
          obtain ⟨rfl, rfl⟩ := Prod.mk.inj (Option.some.inj hcut)
          exact ⟨hip, .inl hbits⟩
    · rw [harg, cut_append _ (hquad.no_slash haddr)] at hcut
      obtain ⟨rfl, rfl⟩ := Prod.mk.inj (Option.some.inj hcut)
      exact ⟨haddr, .inr hmarked⟩
  · rintro ⟨hip, hbits | hmarked⟩
    · exact .inl (.network hip hbits)
    · exact .inr ⟨addr, text, rfl, hip, hmarked⟩

/-- The last part of the source: the address is looked at. -/
theorem bind_network_ok_iff (buf : Bytes) (bits' : Nat) {net : UInt32} {bits : Nat} :
    (match inet_pton buf with
      | none => Except.error Lhkt.ERR_FORMAT
      | some ip_host => .ok (bind_mask ip_host bits', bits')) = .ok (net, bits) ↔
      ∃ ip, inet_pton buf = some ip ∧ net = bind_mask ip bits ∧ bits' = bits := by
  cases hip : inet_pton buf with
  | none => simp
  | some ip =>
      constructor
      · intro h
        obtain ⟨rfl, rfl⟩ := Prod.mk.inj (Except.ok.inj h)
        exact ⟨ip, rfl, rfl, rfl⟩
      · rintro ⟨ip', hip', rfl, rfl⟩
        rw [Option.some.inj hip']

/-- **What is accepted**, and as what. -/
theorem bind_parse_ok_iff (hquad : DottedOnly inet_pton) {arg : Bytes}
    (hlen : arg.length < LHKT_HOST_MAX) {net : UInt32} {bits : Nat} :
    lhkt_bind_parse inet_pton arg = .ok (net, bits) ↔
      ∃ ip, net = bind_mask ip bits ∧
        (BindForm inet_pton arg ip bits ∨ MarkedForm inet_pton arg ip bits) := by
  by_cases hnil : arg = []
  · -- the empty text is rejected at once, and no address is empty
    rw [lhkt_bind_parse, if_pos hnil]
    constructor
    · intro h
      cases h
    · rintro ⟨ip, -, hform⟩
      rw [hnil, forms_address_iff List.not_mem_nil] at hform
      exact absurd rfl (hquad [] ip hform.1).1
  rw [lhkt_bind_parse, if_neg hnil, if_neg (by omega)]
  dsimp only
  cases hcut : cut (ch '/') arg with
  | none =>
      simp only [forms_address_iff (cut_eq_none_iff.mp hcut)]
      apply (bind_network_ok_iff arg 32).trans
      constructor
      · rintro ⟨ip, hip, hnet, rfl⟩
        exact ⟨ip, hnet, hip, rfl⟩
      · rintro ⟨ip, hnet, hip, rfl⟩
        exact ⟨ip, hip, hnet, rfl⟩
  | some halves =>
      obtain ⟨addr, text⟩ := halves
      obtain ⟨rfl, hslash⟩ := cut_eq_some_iff.mp hcut
      dsimp only
      simp only [forms_network_iff hquad hslash, ← readable_iff]
      by_cases hread : Unreadable text
      · have hchecks := hread
        unfold Unreadable at hchecks
        rw [if_pos hchecks]
        constructor
        · intro h
          cases h
        · rintro ⟨ip, -, -, hok, -⟩
          exact absurd hread hok
      · -- behind the checks only `inet_pton` decides
        have hchecks := hread
        unfold Unreadable at hchecks
        rw [if_neg hchecks]
        apply (bind_network_ok_iff addr _).trans
        constructor
        · rintro ⟨ip, hip, hnet, hbits⟩
          exact ⟨ip, hnet, hip, hread, hbits⟩
        · rintro ⟨ip, hnet, hip, -, hbits⟩
          exact ⟨ip, hip, hnet, hbits⟩

/-- An argument that is read is accepted, and its prefix length is stored. -/
theorem bind_apply_of_parse (cfg : lhkt_config_t) {arg : Bytes} {net : UInt32} {bits : Nat}
    (h : lhkt_bind_parse inet_pton arg = .ok (net, bits)) :
    (lhkt_bind_apply inet_pton cfg arg).2 = .OK ∧
      lhkt_config_t.bind_prefix (lhkt_bind_apply inet_pton cfg arg).1 = (bits : Int) := by
  unfold lhkt_bind_apply
  rw [h]
  exact ⟨rfl, rfl⟩

/-- Only an argument that is read is accepted. -/
theorem parse_of_bind_apply {cfg : lhkt_config_t} {arg : Bytes}
    (h : (lhkt_bind_apply inet_pton cfg arg).2 = .OK) :
    ∃ net bits, lhkt_bind_parse inet_pton arg = .ok (net, bits) := by
  unfold lhkt_bind_apply at h
  cases hparse : lhkt_bind_parse inet_pton arg with
  | error ret =>
      rw [hparse] at h
      have hret := lhkt_bind_parse_error inet_pton hparse
      rw [hret] at h
      exact nomatch h
  | ok r => exact ⟨r.1, r.2, rfl⟩

/-- The grammar, for one argument: it is accepted exactly when it is a documented
form, and when it is taken to admit every address, its prefix length is a zero. -/
def Exact (inet_pton : Bytes → Option UInt32) (cfg : lhkt_config_t) (arg : Bytes) : Prop :=
  ((lhkt_bind_apply inet_pton cfg arg).2 = .OK ↔ ∃ ip bits, BindForm inet_pton arg ip bits) ∧
    ((lhkt_bind_apply inet_pton cfg arg).2 = .OK →
      lhkt_config_t.bind_prefix (lhkt_bind_apply inet_pton cfg arg).1 = 0 →
        ∃ ip, BindForm inet_pton arg ip 0)

/-- **The grammar of `--bind`.** An argument that fits the buffer is treated as
documented, accepted in the documented forms and no others, exactly when it is not
an address with a marked prefix length. -/
theorem bind_grammar_exact_iff (hquad : DottedOnly inet_pton) (cfg : lhkt_config_t) {arg : Bytes}
    (hlen : arg.length < 64) :
    Exact inet_pton cfg arg ↔ ¬ ∃ ip bits, MarkedForm inet_pton arg ip bits := by
  constructor
  · rintro hexact ⟨ip, bits, hmarked⟩
    -- it is accepted, so it would have to be a documented form as well
    have hparse := (bind_parse_ok_iff hquad hlen).mpr ⟨ip, rfl, .inr hmarked⟩
    obtain ⟨ip', bits', hform⟩ := hexact.1.mp (bind_apply_of_parse cfg hparse).1
    exact hform.not_marked hquad hmarked
  · intro hunmarked
    have hform : ∀ {net : UInt32} {bits : Nat}, lhkt_bind_parse inet_pton arg = .ok (net, bits) →
        ∃ ip, BindForm inet_pton arg ip bits := by
      intro net bits hparse
      obtain ⟨ip, -, hform | hmarked⟩ := (bind_parse_ok_iff hquad hlen).mp hparse
      · exact ⟨ip, hform⟩
      · exact absurd ⟨ip, bits, hmarked⟩ hunmarked
    refine ⟨⟨fun hok => ?_, ?_⟩, fun hok hall => ?_⟩
    · obtain ⟨net, bits, hparse⟩ := parse_of_bind_apply hok
      obtain ⟨ip, h⟩ := hform hparse
      exact ⟨ip, bits, h⟩
    · rintro ⟨ip, bits, h⟩
      exact (bind_apply_of_parse cfg ((bind_parse_ok_iff hquad hlen).mpr ⟨ip, rfl, .inl h⟩)).1
    · obtain ⟨net, bits, hparse⟩ := parse_of_bind_apply hok
      obtain ⟨ip, h⟩ := hform hparse
      rw [(bind_apply_of_parse cfg hparse).2] at hall
      obtain rfl : bits = 0 := by omega
      exact ⟨ip, h⟩

end Bind

/-! ## The C library -/

theorem quad_octet_dotted {s : Bytes} {n : UInt32} (h : quad_octet s = some n) :
    s ≠ [] ∧ s.all isdigit = true := by
  unfold quad_octet at h
  split at h
  · exact nomatch h
  · rename_i hs
    simp only [not_or] at hs
    exact ⟨hs.1, by simpa using hs.2.2.1⟩

theorem inet_pton_quad_dotted : DottedOnly inet_pton_quad := by
  intro addr ip h
  unfold inet_pton_quad at h
  simp only [bind, Option.bind_eq_some_iff] at h
  obtain ⟨⟨a, s₁⟩, ha, ⟨b, s₂⟩, hb, ⟨c, d⟩, hc, na, hna, nb, hnb, nc, hnc, nd, hnd, -⟩ := h
  obtain ⟨rfl, -⟩ := cut_eq_some_iff.mp ha
  obtain ⟨rfl, -⟩ := cut_eq_some_iff.mp hb
  obtain ⟨rfl, -⟩ := cut_eq_some_iff.mp hc
  refine ⟨by simp, ?_⟩
  intro x hx
  have hoctet : ∀ {s : Bytes} {n : UInt32}, quad_octet s = some n → x ∈ s → isdigit x = true :=
    fun hs hmem => List.all_eq_true.mp (quad_octet_dotted hs).2 x hmem
  simp only [List.mem_append, List.mem_cons] at hx
  rcases hx with hx | hx | hx | hx | hx | hx | hx
  · exact .inl (hoctet hna hx)
  · exact .inr hx
  · exact .inl (hoctet hnb hx)
  · exact .inr hx
  · exact .inl (hoctet hnc hx)
  · exact .inr hx
  · exact .inl (hoctet hnd hx)

/-- A LAN, written with the digits of its prefix length. -/
theorem bind_grammar_exact_lan :
    Exact inet_pton_quad lhkt_config_defaults (ascii "192.168.0.0/24") := by
  have hform : BindForm inet_pton_quad (ascii "192.168.0.0" ++ ch '/' :: ascii "24")
      0xC0A80000 24 := .network (by decide +kernel) ⟨by decide, by decide, by decide, by decide⟩
  have harg : ascii "192.168.0.0/24" = ascii "192.168.0.0" ++ ch '/' :: ascii "24" := by
    decide +kernel
  apply (bind_grammar_exact_iff inet_pton_quad_dotted lhkt_config_defaults (by decide)).mpr
  rintro ⟨ip, bits, hmarked⟩
  rw [harg] at hmarked
  exact hform.not_marked inet_pton_quad_dotted hmarked

/-- A minus sign in front of the zero: accepted, and everybody may connect. -/
theorem bind_grammar_minus_zero :
    let r := lhkt_bind_apply inet_pton_quad lhkt_config_defaults (ascii "1.2.3.4/-0")
    r.2 = .OK ∧ lhkt_config_t.bind_prefix r.1 = 0 ∧
      lhkt_ipv4_in_cidr 0x08080808 r.1.bind_net (lhkt_config_t.bind_prefix r.1) = true ∧
      (¬ ∃ ip bits, BindForm inet_pton_quad (ascii "1.2.3.4/-0") ip bits) ∧
      ¬ Exact inet_pton_quad lhkt_config_defaults (ascii "1.2.3.4/-0") := by
  intro r
  have hok : r.2 = .OK := by decide +kernel
  have hnoform : ¬ ∃ ip bits, BindForm inet_pton_quad (ascii "1.2.3.4/-0") ip bits := by
    rintro ⟨ip, bits, hform⟩
    have hmarked : MarkedForm inet_pton_quad (ascii "1.2.3.4/-0") 0x01020304 0 :=
      ⟨ascii "1.2.3.4", ascii "-0", by decide +kernel, by decide +kernel, [], [ch '-'],
        [ch '0'], by decide, by decide, ⟨by decide, .inr (.inl rfl), by decide, by decide⟩, by decide,
        by decide⟩
    exact hform.not_marked inet_pton_quad_dotted hmarked
  refine ⟨hok, by decide +kernel, by decide +kernel, hnoform, ?_⟩
  intro hexact
  exact hnoform (hexact.1.mp hok)

end LorahamKissTnc.BindGrammar
