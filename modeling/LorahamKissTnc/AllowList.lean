/-
What the source allow-list admits.

An argument `a/N` of `--bind` stands for the block of the addresses that share
their first `N` bits with `a`. The program masks twice, when the argument is
applied and when a peer is checked, and treats the lengths 0 and 32 apart each
time because C has no shift by 32. All of these cases are one mask
(`bind_mask_toBitVec`, `ipv4_in_cidr_iff`), and the rest is about blocks: whether
the one that is admitted lies in 127.0.0.0/8 decides about the listen address.
-/
import LorahamKissTnc.Config
import LorahamKissTnc.Lib.Mask

set_option autoImplicit false

open LorahamKissTnc.Lib.CString LorahamKissTnc.Lib.Mask LorahamKissTnc.Config

namespace LorahamKissTnc.AllowList

/-! ## Arguments -/

/-- An address as a text: four decimal octets. -/
def dotted_quad (a : UInt32) : Bytes :=
  let octet (n : UInt32) : Bytes := fmt_u ((a >>> n) &&& 0xFF).toNat
  octet 24 ++ [ch '.'] ++ octet 16 ++ [ch '.'] ++ octet 8 ++ [ch '.'] ++ octet 0

/-- The texts for a block: `a/N`, or `a` alone for a single address. -/
def BlockText (a : UInt32) (bits : Nat) (arg : Bytes) : Prop :=
  arg = dotted_quad a ++ ch '/' :: fmt_u bits ∨ (bits = 32 ∧ arg = dotted_quad a)

/-- An octet prints as at most three digits. -/
theorem fmt_u_octet (n : UInt32) :
    (fmt_u (n &&& 0xFF).toNat).length ≤ 3 ∧ ch '/' ∉ fmt_u (n &&& 0xFF).toNat := by
  have hall : ∀ k : Fin 256, (fmt_u k).length ≤ 3 ∧ ch '/' ∉ fmt_u k := by decide +kernel
  have hlt : (n &&& 0xFF).toNat < 256 := by
    rw [UInt32.toNat_and]
    exact Nat.lt_succ_of_le Nat.and_le_right
  exact hall ⟨_, hlt⟩

/-- A prefix length is read back. -/
theorem strtol_bits {bits : Nat} (h : bits ≤ 32) :
    strtol 10 (fmt_u bits) = ⟨bits, [], false⟩ ∧ fmt_u bits ≠ [] ∧ (fmt_u bits).length ≤ 2 := by
  have hall : ∀ k : Fin 33, strtol 10 (fmt_u k) = ⟨(k : Nat), [], false⟩ ∧ fmt_u k ≠ [] ∧
      (fmt_u k).length ≤ 2 := by decide +kernel
  exact hall ⟨bits, by omega⟩

theorem length_dotted_quad_le (a : UInt32) : (dotted_quad a).length ≤ 15 := by
  have h0 := (fmt_u_octet (a >>> 24)).1
  have h1 := (fmt_u_octet (a >>> 16)).1
  have h2 := (fmt_u_octet (a >>> 8)).1
  have h3 := (fmt_u_octet (a >>> 0)).1
  unfold dotted_quad
  simp only [List.length_append, List.length_singleton]
  omega

theorem slash_notMem_dotted_quad (a : UInt32) : ch '/' ∉ dotted_quad a := by
  have h0 := (fmt_u_octet (a >>> 24)).2
  have h1 := (fmt_u_octet (a >>> 16)).2
  have h2 := (fmt_u_octet (a >>> 8)).2
  have h3 := (fmt_u_octet (a >>> 0)).2
  have hdot : ch '/' ≠ ch '.' := by decide
  unfold dotted_quad
  simp only [List.mem_append, List.mem_singleton]
  simp only [h0, h1, h2, h3, hdot, or_self, not_false_eq_true]

theorem dotted_quad_ne_nil (a : UInt32) : dotted_quad a ≠ [] := by
  unfold dotted_quad
  simp

/-- **The argument is read as it is written.** -/
theorem bind_parse_block {inet_pton : Bytes → Option UInt32} {a : UInt32} {bits : Nat} {arg : Bytes}
    (hbits : bits ≤ 32) (hpton : inet_pton (dotted_quad a) = some a) (h : BlockText a bits arg) :
    lhkt_bind_parse inet_pton arg = .ok (bind_mask a bits, bits) := by
  have hlen := length_dotted_quad_le a
  have hslash := slash_notMem_dotted_quad a
  unfold lhkt_bind_parse
  rcases h with rfl | ⟨rfl, rfl⟩
  · obtain ⟨hstrtol, hne, hdigits⟩ := strtol_bits hbits
    have hshort : ¬ LHKT_HOST_MAX ≤ (dotted_quad a ++ ch '/' :: fmt_u bits).length := by
      simp only [List.length_append, List.length_cons, LHKT_HOST_MAX]
      omega
    rw [if_neg (by simp), if_neg hshort]
    dsimp only
    -- the first slash is the one in front of the length
    rw [cut_append _ hslash]
    dsimp only
    rw [hstrtol]
    dsimp only
    rw [if_neg, hpton]
    · rfl
    · simp only [not_or]
      refine ⟨hne.symm, not_not_intro rfl, ?_, ?_⟩
      · omega
      · omega
  · have hshort : ¬ LHKT_HOST_MAX ≤ (dotted_quad a).length := by
      simp only [LHKT_HOST_MAX]
      omega
    rw [if_neg (dotted_quad_ne_nil a), if_neg hshort]
    dsimp only
    rw [cut_eq_none_iff.mpr hslash]
    dsimp only
    rw [hpton]

/-! ## Masks -/

/-- The shifted ones of the source, where C allows the shift. -/
theorem ones_shift_toBitVec {bits : Nat} (hpos : 0 < bits) (hbits : bits ≤ 32) :
    ((0xFFFFFFFF : UInt32) <<< UInt32.ofNat (32 - bits)).toBitVec = mask 32 bits := by
  have hall : ∀ k : Fin 33, 0 < k.val →
      ((0xFFFFFFFF : UInt32) <<< UInt32.ofNat (32 - k.val)).toBitVec = mask 32 k.val := by
    decide +kernel
  exact hall ⟨bits, by omega⟩ hpos

/-- The network is the masked address, also for the lengths treated apart. -/
theorem bind_mask_toBitVec (a : UInt32) {bits : Nat} (hbits : bits ≤ 32) :
    (bind_mask a bits).toBitVec = a.toBitVec &&& mask 32 bits := by
  unfold bind_mask
  by_cases hzero : bits = 0
  · rw [hzero, if_pos rfl, UInt32.toBitVec_and]
    rfl
  · rw [if_neg hzero, UInt32.toBitVec_and, ones_shift_toBitVec (by omega) hbits]

/-- **The check of a peer**, for any network. -/
theorem ipv4_in_cidr_iff (x net : UInt32) {bits : Nat} (hbits : bits ≤ 32) :
    lhkt_ipv4_in_cidr x net bits = true ↔ Agree bits x.toBitVec net.toBitVec := by
  unfold lhkt_ipv4_in_cidr
  by_cases hzero : bits = 0
  · -- everything matches, and there is no bit to agree in
    rw [if_pos (by omega)]
    subst hzero
    simp [Agree]
  · rw [if_neg (by omega)]
    by_cases hfull : bits = 32
    · rw [if_pos (by omega), beq_iff_eq, hfull, agree_width_iff, UInt32.toBitVec_inj]
    · rw [if_neg (by omega)]
      have hshift : ((32 : Int) - bits).toNat = 32 - bits := by omega
      dsimp only
      rw [hshift, beq_iff_eq, ← UInt32.toBitVec_inj, UInt32.toBitVec_and, UInt32.toBitVec_and,
        ones_shift_toBitVec (by omega) hbits]
      exact and_mask_eq_iff hbits

/-- The addresses that are admitted are those of the block. -/
theorem admitted_iff (x a : UInt32) {bits : Nat} (hbits : bits ≤ 32) :
    lhkt_ipv4_in_cidr x (bind_mask a bits) bits = true ↔ Agree bits x.toBitVec a.toBitVec := by
  have hnet := agree_and_mask hbits a.toBitVec
  rw [ipv4_in_cidr_iff x _ hbits, bind_mask_toBitVec a hbits]
  constructor
  · exact fun h => h.trans hnet
  · exact fun h => h.trans hnet.symm

/-! ## Loopback -/

/-- The network part of 127.0.0.0/8. -/
def loopback : BitVec 32 := 0x7f000000

/-- An address lies in 127.0.0.0/8 when its first octet says so. -/
theorem first_octet_iff (x : UInt32) : x >>> 24 = 127 ↔ Agree 8 x.toBitVec loopback := by
  rw [agree_iff_ushiftRight (by omega), ← UInt32.toBitVec_inj, UInt32.toBitVec_shiftRight]
  rfl

/-- The octet is what is left of the address: the mask of the source changes
nothing. -/
theorem first_octet_and (x : UInt32) : (x >>> 24) &&& (0xFF : UInt32) = x >>> 24 := by
  apply UInt32.toNat_inj.mp
  rw [UInt32.toNat_and, UInt32.toNat_shiftRight]
  show x.toNat >>> 24 &&& 2 ^ 8 - 1 = x.toNat >>> 24
  have hlt := x.toNat_lt
  rw [Nat.and_two_pow_sub_one_eq_mod, Nat.shiftRight_eq_div_pow]
  omega

/-- **The loopback rule** is about the whole block. -/
theorem bind_loopback_iff (a : UInt32) {bits : Nat} (hbits : bits ≤ 32) :
    bind_loopback (bind_mask a bits) bits = true ↔
      ∀ x, lhkt_ipv4_in_cidr x (bind_mask a bits) bits = true → x >>> 24 = 127 := by
  have hblock : (∀ x, lhkt_ipv4_in_cidr x (bind_mask a bits) bits = true → x >>> 24 = 127) ↔
      ∀ x : BitVec 32, Agree bits x a.toBitVec → Agree 8 x loopback := by
    constructor
    · intro h x hx
      exact (first_octet_iff ⟨x⟩).mp (h ⟨x⟩ ((admitted_iff ⟨x⟩ a hbits).mpr hx))
    · intro h x hx
      exact (first_octet_iff x).mpr (h x.toBitVec ((admitted_iff x a hbits).mp hx))
  have hnet : Agree bits (bind_mask a bits).toBitVec a.toBitVec := by
    rw [bind_mask_toBitVec a hbits]
    exact agree_and_mask hbits a.toBitVec
  rw [hblock, block_subset_iff (by omega)]
  unfold bind_loopback
  rw [first_octet_and, decide_eq_true_eq, first_octet_iff]
  constructor
  · rintro ⟨hoctet, hlen⟩
    exact ⟨hlen, (hnet.mono hlen).symm.trans hoctet⟩
  · rintro ⟨hlen, hoctet⟩
    exact ⟨(hnet.mono hlen).trans hoctet, hlen⟩

/-- **The allow-list means what it says.** A block written as `a/N`, or as `a`
alone, is accepted, and then a peer is admitted exactly when its first `N` bits
are those of `a`; the program listens on the loopback address exactly when every
address it admits is a loopback address, and on all addresses otherwise. An
argument that is not accepted leaves the configuration as it is. -/
theorem allow_list_admits_block (inet_pton : Bytes → Option UInt32) (cfg : lhkt_config_t) :
    (∀ (a : UInt32) (bits : Nat) (arg : Bytes), bits ≤ 32 →
      inet_pton (dotted_quad a) = some a → BlockText a bits arg →
      let bound := (lhkt_bind_apply inet_pton cfg arg).1
      (lhkt_bind_apply inet_pton cfg arg).2 = .OK ∧
        (∀ x : UInt32, lhkt_ipv4_in_cidr x bound.bind_net bound.bind_prefix = true ↔
          ∀ i < bits, x.toBitVec.getMsbD i = a.toBitVec.getMsbD i) ∧
        (bound.kiss_host = ascii "127.0.0.1" ↔
          ∀ x, lhkt_ipv4_in_cidr x bound.bind_net bound.bind_prefix = true → x >>> 24 = 127) ∧
        (bound.kiss_host ≠ ascii "127.0.0.1" → bound.kiss_host = ascii "0.0.0.0")) ∧
    ∀ arg, (lhkt_bind_apply inet_pton cfg arg).2 ≠ .OK →
      (lhkt_bind_apply inet_pton cfg arg).1 = cfg := by
  constructor
  · intro a bits arg hbits hpton harg
    have hparse := bind_parse_block hbits hpton harg
    have hlisten := bind_loopback_iff a hbits
    unfold lhkt_bind_apply
    rw [hparse]
    dsimp only
    refine ⟨rfl, fun x => admitted_iff x a hbits, ?_, ?_⟩
    · rw [← hlisten]
      unfold bind_listen
      cases bind_loopback (bind_mask a bits) bits with
      | true => simp
      | false => decide
    · unfold bind_listen
      cases bind_loopback (bind_mask a bits) bits with
      | true => exact fun h => absurd rfl h
      | false => exact fun _ => rfl
  · intro arg hfail
    unfold lhkt_bind_apply at hfail ⊢
    cases hparse : lhkt_bind_parse inet_pton arg with
    | error ret => rfl
    | ok r =>
        rw [hparse] at hfail
        exact absurd rfl hfail

/-- A local network, written with an address inside it: a neighbour is admitted,
an address of the next network is not. -/
theorem allow_list_admits_block_lan :
    let inet_pton (s : Bytes) : Option UInt32 :=
      if s = ascii "192.168.178.55" then some 0xC0A8B237 else none
    let r := lhkt_bind_apply inet_pton lhkt_config_defaults (ascii "192.168.178.55/24")
    let bound := r.1
    r.2 = .OK ∧ bound.kiss_host = ascii "0.0.0.0" ∧
      lhkt_ipv4_in_cidr 0xC0A8B201 bound.bind_net bound.bind_prefix = true ∧
      lhkt_ipv4_in_cidr 0xC0A8B301 bound.bind_net bound.bind_prefix = false ∧
      (lhkt_bind_apply inet_pton lhkt_config_defaults (ascii "bogus")).1 = lhkt_config_defaults := by
  intro inet_pton r bound
  obtain ⟨haccept, hreject⟩ := allow_list_admits_block inet_pton lhkt_config_defaults
  obtain ⟨hok, hpeer, hlisten, hall⟩ := haccept 0xC0A8B237 24 (ascii "192.168.178.55/24")
    (by decide) (by decide +kernel) (.inl (by decide +kernel))
  refine ⟨hok, hall ?_, (hpeer _).mpr (by decide +kernel), ?_, hreject _ (by decide +kernel)⟩
  · intro hloop
    have hfirst := hlisten.mp hloop 0xC0A8B201 ((hpeer _).mpr (by decide +kernel))
    exact absurd hfirst (by decide +kernel)
  · apply Bool.eq_false_iff.mpr
    intro hin
    exact absurd ((hpeer _).mp hin) (by decide +kernel)

end LorahamKissTnc.AllowList
