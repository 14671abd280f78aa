/-
Numbers read back from their text.

`%u` and `%.<prec>f` print a number as decimal digits, the second with a sign and a
point. A number of `10 ^ -prec`s is printed exactly, so a reader that drops the point
and reads the digits has the number again (`read_fixed_fmt_f`). The lengths of the
texts follow from the size of the number.
-/
import LorahamKissTnc.Lib.CString

set_option autoImplicit false

open LorahamKissTnc.Lib.CString

namespace LorahamKissTnc.Lib.Numerals

/-! ## Digits -/

/-- The value of digits, with what stands in front of them. -/
theorem foldl_digits (l : List Char) : ∀ n : Nat, (∀ c ∈ l, c.isDigit = true) →
    (l.map ch).foldl (fun n c => 10 * n + (c.toNat - 48)) n = Nat.ofDigitChars 10 l n := by
  induction l with
  | nil => exact fun n _ => Nat.ofDigitChars_nil.symm
  | cons c l ih =>
      intro n h
      have hrange : 48 ≤ c.toNat ∧ c.toNat ≤ 57 := by
        have hc := h c List.mem_cons_self
        simpa [Char.isDigit, UInt32.le_iff_toNat_le] using hc
      have hval : (ch c).toNat = c.toNat := by
        rw [ch, Nat.toUInt8, UInt8.toNat_ofNat']
        omega
      rw [List.map_cons, List.foldl_cons, Nat.ofDigitChars_cons, hval]
      exact ih _ fun d hd => h d (List.mem_cons_of_mem c hd)

theorem digits_value_map {l : List Char} (h : ∀ c ∈ l, c.isDigit = true) :
    digits_value (l.map ch) = Nat.ofDigitChars 10 l 0 := foldl_digits l 0 h

theorem toDigits_isDigit (n : Nat) : ∀ c ∈ Nat.toDigits 10 n, c.isDigit = true :=
  fun _ hc => Nat.isDigit_of_mem_toDigits (by decide) (by decide) hc

theorem length_fmt_u_le {n k : Nat} (hk : 0 < k) (h : n < 10 ^ k) : (fmt_u n).length ≤ k := by
  unfold fmt_u
  rw [List.length_map]
  exact (Nat.length_toDigits_le_iff (by decide) hk).mpr h

theorem fmt_u_ne_nil (n : Nat) : fmt_u n ≠ [] := by
  unfold fmt_u
  rw [ne_eq, List.map_eq_nil_iff]
  exact Nat.toDigits_ne_nil

/-! ## A sign and a point -/

/-- An integer is its own nearest one. -/
theorem round_half_even_natCast (n : Nat) : round_half_even (n : ℚ) = n := by
  have hfloor : (n : ℚ).floor.toNat = n := by
    rw [show (n : ℚ).floor = ⌊(n : ℚ)⌋ from rfl, Int.floor_natCast, Int.toNat_natCast]
  unfold round_half_even
  dsimp only
  rw [hfloor, sub_self, if_pos (by norm_num)]

/-- The digits behind the point: as many as were asked for. -/
def fraction (prec n : Nat) : List Char :=
  List.replicate (prec - (Nat.toDigits 10 (n % 10 ^ prec)).length) '0' ++
    Nat.toDigits 10 (n % 10 ^ prec)

theorem length_fraction {prec : Nat} (hprec : 0 < prec) (n : Nat) :
    (fraction prec n).length = prec := by
  have hlt : n % 10 ^ prec < 10 ^ prec := Nat.mod_lt _ (by positivity)
  have hlen := (Nat.length_toDigits_le_iff (by decide) hprec).mpr hlt
  unfold fraction
  rw [List.length_append, List.length_replicate]
  omega

/-- A number of `10 ^ -prec`s, in decimal. -/
theorem fmt_f_eq (prec : Nat) (n : Int) :
    fmt_f prec (n / 10 ^ prec)
      = (if n < 0 then [ch '-'] else []) ++ fmt_u (n.natAbs / 10 ^ prec) ++
        ch '.' :: (fraction prec n.natAbs).map ch := by
  have hpos : (0 : ℚ) < 10 ^ prec := by positivity
  have habs : |(n : ℚ) / 10 ^ prec| * 10 ^ prec = (n.natAbs : ℚ) := by
    rw [abs_div, abs_of_pos hpos, div_mul_cancel₀ _ hpos.ne', Nat.cast_natAbs, Int.cast_abs]
  have hsign : (n : ℚ) / 10 ^ prec < 0 ↔ n < 0 := by
    rw [div_lt_iff₀ hpos, zero_mul, Int.cast_lt_zero]
  unfold fmt_f fraction
  dsimp only
  rw [habs, round_half_even_natCast, List.map_append, List.map_replicate, List.length_map]
  simp only [hsign, List.append_assoc, List.cons_append, List.nil_append]

/-- The number a text without a sign stands for, in units of its last digit. -/
def read_magnitude (s : Bytes) : Option Nat :=
  (cut (ch '.') s).map fun p => digits_value (p.1 ++ p.2)

/-- The number a text stands for, in units of its last digit. -/
def read_fixed : Bytes → Option Int
  | [] => none
  | c :: rest =>
      if c = ch '-' then (read_magnitude rest).map fun n : Nat => -(n : Int)
      else (read_magnitude (c :: rest)).map fun n : Nat => (n : Int)

theorem read_magnitude_eq {prec : Nat} (hprec : 0 < prec) (n : Nat) :
    read_magnitude (fmt_u (n / 10 ^ prec) ++ ch '.' :: (fraction prec n).map ch) = some n := by
  have hpoint : ch '.' ∉ fmt_u (n / 10 ^ prec) := by
    intro h
    exact absurd (fmt_u_digits _ _ h) (by decide)
  have hdigits : ∀ c ∈ Nat.toDigits 10 (n / 10 ^ prec) ++ fraction prec n, c.isDigit = true := by
    unfold fraction
    intro c hc
    rcases List.mem_append.mp hc with hc | hc
    · exact toDigits_isDigit _ c hc
    · rcases List.mem_append.mp hc with hc | hc
      · rw [List.eq_of_mem_replicate hc]
        decide
      · exact toDigits_isDigit _ c hc
  have hfraction : Nat.ofDigitChars 10 (fraction prec n) 0 = n % 10 ^ prec := by
    unfold fraction
    rw [Nat.ofDigitChars_append, Nat.ofDigitChars_replicate_zero, Nat.mul_zero,
      Nat.ofDigitChars_ten_toDigits]
  unfold read_magnitude
  rw [cut_append _ hpoint, Option.map_some]
  congr 1
  unfold fmt_u
  rw [← List.map_append, digits_value_map hdigits, Nat.ofDigitChars_append,
    Nat.ofDigitChars_ten_toDigits, Nat.ofDigitChars_eq_ofDigitChars_zero, length_fraction hprec,
    hfraction]
  exact Nat.div_add_mod n (10 ^ prec)

/-- **`%.<prec>f` of a number of `10 ^ -prec`s is read back.** -/
theorem read_fixed_fmt_f {prec : Nat} (hprec : 0 < prec) (n : Int) :
    read_fixed (fmt_f prec (n / 10 ^ prec)) = some n := by
  have hmagnitude := read_magnitude_eq hprec n.natAbs
  rw [fmt_f_eq]
  by_cases hneg : n < 0
  · rw [if_pos hneg, List.singleton_append, List.cons_append, read_fixed, if_pos rfl, hmagnitude,
      Option.map_some]
    congr 1
    omega
  · rw [if_neg hneg, List.nil_append]
    obtain ⟨d, rest, hdigits⟩ := List.exists_cons_of_ne_nil (fmt_u_ne_nil (n.natAbs / 10 ^ prec))
    have hd : d ≠ ch '-' := by
      rintro rfl
      have hdigit := fmt_u_digits (n.natAbs / 10 ^ prec) (ch '-') (by
        rw [hdigits]
        exact List.mem_cons_self)
      exact absurd hdigit (by decide)
    rw [hdigits, List.cons_append] at hmagnitude ⊢
    rw [read_fixed, if_neg hd, hmagnitude, Option.map_some]
    congr 1
    omega

/-- A sign, the digits in front of the point, and those behind it. -/
theorem length_fmt_f_le {prec k : Nat} (hprec : 0 < prec) (hk : 0 < k) {n : Int}
    (h : n.natAbs < 10 ^ (k + prec)) : (fmt_f prec (n / 10 ^ prec)).length ≤ k + prec + 2 := by
  have hint : (fmt_u (n.natAbs / 10 ^ prec)).length ≤ k := by
    apply length_fmt_u_le hk
    rw [Nat.div_lt_iff_lt_mul (by positivity), ← pow_add]
    exact h
  have hsign : (if n < 0 then [ch '-'] else [] : Bytes).length ≤ 1 := by
    split <;> simp
  rw [fmt_f_eq, List.length_append, List.length_append, List.length_cons, List.length_map,
    length_fraction hprec]
  omega

/-! ## Lengths of what is only bounded -/

/-- Rounding does not go past an integer. -/
theorem round_half_even_le {q : ℚ} {n : Nat} (h0 : 0 ≤ q) (h : q ≤ n) : round_half_even q ≤ n := by
  have hfloor : (q.floor.toNat : ℚ) ≤ q := by
    rw [show q.floor = ⌊q⌋ from rfl]
    have hcast : ((⌊q⌋.toNat : ℤ) : ℚ) = ⌊q⌋ := by
      rw [Int.toNat_of_nonneg (Int.floor_nonneg.mpr h0)]
    calc (⌊q⌋.toNat : ℚ) = ⌊q⌋ := by exact_mod_cast hcast
      _ ≤ q := Int.floor_le q
  have hle : q.floor.toNat ≤ n := by exact_mod_cast hfloor.trans h
  unfold round_half_even
  dsimp only
  rcases Nat.lt_or_eq_of_le hle with hlt | heq
  · split
    · exact hle
    · split
      · exact hlt
      · split
        · exact hle
        · exact hlt
  · -- at the bound itself nothing is left to round
    have hrest : q - q.floor.toNat < 1 / 2 := by
      rw [heq]
      linarith
    rw [if_pos hrest]
    exact hle

/-- The text of a value between 0 and a bound. -/
theorem length_fmt_f_le_of_le {prec k : Nat} (hprec : 0 < prec) (hk : 0 < k) {q : ℚ} {m : Nat}
    (h0 : 0 ≤ q) (h : q ≤ m) (hm : m < 10 ^ k) : (fmt_f prec q).length ≤ k + prec + 1 := by
  have hround : round_half_even (|q| * 10 ^ prec) ≤ m * 10 ^ prec := by
    have hscaled : |q| * 10 ^ prec ≤ ((m * 10 ^ prec : Nat) : ℚ) := by
      rw [abs_of_nonneg h0]
      push_cast
      gcongr
    exact round_half_even_le (by positivity) hscaled
  have hint : (fmt_u (round_half_even (|q| * 10 ^ prec) / 10 ^ prec)).length ≤ k := by
    apply length_fmt_u_le hk
    calc round_half_even (|q| * 10 ^ prec) / 10 ^ prec ≤ m * 10 ^ prec / 10 ^ prec :=
          Nat.div_le_div_right hround
      _ = m := Nat.mul_div_cancel m (by positivity)
      _ < 10 ^ k := hm
  have hfraction := length_fraction hprec (round_half_even (|q| * 10 ^ prec))
  unfold fraction at hfraction
  rw [List.length_append, List.length_replicate] at hfraction
  unfold fmt_f
  dsimp only
  rw [if_neg (not_lt.mpr h0), List.nil_append]
  simp only [List.length_append, List.length_singleton, List.length_replicate, List.length_map]
  omega

theorem length_fmt_d_le {n : Int} {k : Nat} (hk : 0 < k) (h0 : 0 ≤ n) (h : n < 10 ^ k) :
    (fmt_d n).length ≤ k := by
  unfold fmt_d
  rw [if_neg (not_lt.mpr h0)]
  apply length_fmt_u_le hk
  zify
  rwa [abs_of_nonneg h0]

end LorahamKissTnc.Lib.Numerals
