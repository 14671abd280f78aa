/-
Words that agree in their first bits.

A word with a length `n` stands for a block: the words with the same first `n`
bits. Masking is how a program compares them, and `and_mask_eq_iff` is all that
has to be known about it. Of two blocks one lies in the other exactly when its
words have a longer prefix that starts with the prefix of the other
(`block_subset_iff`): from a shorter one, a word leaves the other block when the
next bit is flipped.
-/
import Mathlib.Data.BitVec

set_option autoImplicit false

namespace LorahamKissTnc.Lib.Mask

variable {w : Nat}

/-! ## Agreement -/

/-- The first `n` bits are the same. -/
def Agree (n : Nat) (x y : BitVec w) : Prop := ∀ i < n, x.getMsbD i = y.getMsbD i

theorem agree_refl (n : Nat) (x : BitVec w) : Agree n x x := fun _ _ => rfl

theorem Agree.symm {n : Nat} {x y : BitVec w} (h : Agree n x y) : Agree n y x :=
  fun i hi => (h i hi).symm

theorem Agree.trans {n : Nat} {x y z : BitVec w} (h : Agree n x y) (h' : Agree n y z) :
    Agree n x z :=
  fun i hi => (h i hi).trans (h' i hi)

theorem Agree.mono {n m : Nat} {x y : BitVec w} (h : Agree n x y) (hmn : m ≤ n) : Agree m x y :=
  fun i hi => h i (Nat.lt_of_lt_of_le hi hmn)

/-- Words that agree in all bits are the same. -/
theorem agree_width_iff {x y : BitVec w} : Agree w x y ↔ x = y := by
  constructor
  · intro h
    apply BitVec.eq_of_getMsbD_eq
    exact h
  · rintro rfl
    exact agree_refl w x

/-- Agreement, by shifting the other bits out. -/
theorem agree_iff_ushiftRight {n : Nat} (hn : n ≤ w) {x y : BitVec w} :
    Agree n x y ↔ x >>> (w - n) = y >>> (w - n) := by
  constructor
  · intro h
    apply BitVec.eq_of_getMsbD_eq
    intro i hi
    rw [BitVec.getMsbD_ushiftRight, BitVec.getMsbD_ushiftRight]
    by_cases hout : i < w - n
    · simp [hout]
    · rw [h (i - (w - n)) (by omega)]
  · intro h i hi
    have hbit := congrArg (fun z : BitVec w => z.getMsbD (i + (w - n))) h
    simp only [BitVec.getMsbD_ushiftRight, Nat.add_sub_cancel] at hbit
    have hin : i + (w - n) < w := by omega
    have hlow : ¬ i + (w - n) < w - n := by omega
    simpa [hin, hlow] using hbit

/-! ## Masks -/

/-- `n` ones, and zeros behind them. -/
def mask (w n : Nat) : BitVec w := BitVec.allOnes w <<< (w - n)

theorem getMsbD_mask {n : Nat} (hn : n ≤ w) (i : Nat) : (mask w n).getMsbD i = decide (i < n) := by
  unfold mask
  rw [BitVec.getMsbD_shiftLeft, BitVec.getMsbD_allOnes]
  apply decide_eq_decide.mpr
  omega

/-- A masked word agrees with the word. -/
theorem agree_and_mask {n : Nat} (hn : n ≤ w) (x : BitVec w) : Agree n (x &&& mask w n) x := by
  intro i hi
  rw [BitVec.getMsbD_and, getMsbD_mask hn]
  simp [hi]

/-- **Comparing masked words** compares their first bits. -/
theorem and_mask_eq_iff {n : Nat} (hn : n ≤ w) {x y : BitVec w} :
    x &&& mask w n = y &&& mask w n ↔ Agree n x y := by
  constructor
  · intro h
    have hx := (agree_and_mask hn x).symm
    rw [h] at hx
    exact hx.trans (agree_and_mask hn y)
  · intro h
    apply BitVec.eq_of_getMsbD_eq
    intro i _
    rw [BitVec.getMsbD_and, BitVec.getMsbD_and, getMsbD_mask hn]
    by_cases hi : i < n
    · rw [h i hi]
    · simp [hi]

/-! ## Blocks -/

/-- A bit flipped. -/
theorem exists_flip {n : Nat} (hn : n < w) (x : BitVec w) :
    ∃ y : BitVec w, Agree n y x ∧ y.getMsbD n ≠ x.getMsbD n := by
  refine ⟨x ^^^ BitVec.twoPow w (w - 1 - n), ?_, ?_⟩
  · intro i hi
    rw [BitVec.getMsbD_xor, BitVec.getMsbD_twoPow]
    have hother : ¬ i = w - (w - 1 - n) - 1 := by omega
    simp [hother]
  · rw [BitVec.getMsbD_xor, BitVec.getMsbD_twoPow]
    have hhere : n = w - (w - 1 - n) - 1 := by omega
    have hin : w - 1 - n < w := by omega
    rw [decide_eq_true hin, decide_eq_true hhere]
    simp

/-- **One block lies in another** exactly when its prefix continues the prefix of
the other. -/
theorem block_subset_iff {n m : Nat} (hm : m ≤ w) {a b : BitVec w} :
    (∀ x, Agree n x a → Agree m x b) ↔ m ≤ n ∧ Agree m a b := by
  constructor
  · intro h
    have hab := h a (agree_refl n a)
    refine ⟨?_, hab⟩
    by_contra hlt
    obtain ⟨y, hagree, hflip⟩ := exists_flip (show n < w by omega) a
    have hyb := h y hagree
    exact hflip ((hyb n (by omega)).trans (hab n (by omega)).symm)
  · rintro ⟨hmn, hab⟩ x hx
    exact (hx.mono hmn).trans hab

end LorahamKissTnc.Lib.Mask
