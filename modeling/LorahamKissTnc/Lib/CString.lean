/-
C strings and the few `string.h`, `ctype.h` and `stdio.h` functions that text
protocols are written with, over lists of bytes.

A C string is the bytes before the terminator, so the terminator itself never
appears: `cstr` is what a `char *` reader sees of a buffer, everything before
the first NUL. `strchr` is only ever used to cut a string in two, so it is
modelled as that (`cut`), with the characterisation `cut_eq_some_iff` doing all
the work: the separator is the first one, and the two halves are what surrounds
it. `strstr` returns the suffix it points at.

The character classes are those of the C locale. The `printf` conversions are
the ones whose text a program can rely on: unsigned decimal, signed decimal,
two-digit hexadecimal, and fixed point of an exactly known value, rounded half
to even as the conversion specification has it.
-/
import Mathlib.Data.List.Basic
import Mathlib.Data.List.DropRight
import Mathlib.Data.List.Infix
import Mathlib.Data.Rat.Defs
import Mathlib.Data.Rat.Floor

set_option autoImplicit false

namespace LorahamKissTnc.Lib.CString

/-- A byte string. -/
abbrev Bytes := List UInt8

/-- The byte of an ASCII character. -/
def ch (c : Char) : UInt8 := c.toNat.toUInt8

/-- The bytes of an ASCII literal. -/
def ascii (s : String) : Bytes := s.toList.map ch

/-! ## Strings in buffers -/

/-- What a `char *` reader sees of a buffer: the bytes before the first NUL. -/
def cstr (buf : Bytes) : Bytes := buf.takeWhile (· ≠ 0)

/-- A buffer without NUL is read in full. -/
theorem cstr_eq_self {buf : Bytes} (h : 0 ∉ buf) : cstr buf = buf := by
  rw [cstr, List.takeWhile_eq_self_iff]
  intro b hb
  have hne : b ≠ 0 := fun h0 => h (h0 ▸ hb)
  simpa using hne

/-- A C string holds no NUL. -/
theorem zero_notMem_cstr (buf : Bytes) : 0 ∉ cstr buf := by
  intro h
  have := List.mem_takeWhile_imp h
  simp at this

/-! ## Cutting at the first separator -/

section Cut

variable {α : Type*} [DecidableEq α]

/-- `p = strchr(s, c)` followed by `*p = '\0'`: the text before the first `c`
and the text after it, or nothing when `c` does not occur. -/
def cut (c : α) : List α → Option (List α × List α)
  | [] => none
  | x :: xs => if x = c then some ([], xs) else (cut c xs).map fun p => (x :: p.1, p.2)

theorem cut_eq_some_iff {c : α} {s a b : List α} :
    cut c s = some (a, b) ↔ s = a ++ c :: b ∧ c ∉ a := by
  induction s generalizing a with
  | nil => simp [cut]
  | cons x xs ih =>
      rw [cut]
      by_cases hx : x = c
      · subst hx
        rw [if_pos rfl]
        constructor
        · intro h
          obtain ⟨rfl, rfl⟩ := Prod.mk.inj (Option.some.inj h)
          exact ⟨rfl, List.not_mem_nil⟩
        · rintro ⟨h, hn⟩
          cases a with
          | nil => simpa using h
          | cons y a => exact absurd (List.mem_cons.mpr (.inl (List.cons.inj h).1)) hn
      · rw [if_neg hx]
        constructor
        · intro h
          obtain ⟨⟨a', b'⟩, hcut, hab⟩ := Option.map_eq_some_iff.mp h
          obtain ⟨rfl, rfl⟩ := Prod.mk.inj hab
          obtain ⟨hs, hn⟩ := ih.mp hcut
          exact ⟨by rw [hs]; rfl, by simp [hn, Ne.symm hx]⟩
        · rintro ⟨h, hn⟩
          cases a with
          | nil => exact absurd (List.cons.inj h).1 hx
          | cons y a =>
              obtain ⟨rfl, hxs⟩ := List.cons.inj h
              rw [ih.mpr ⟨hxs, fun hm => hn (List.mem_cons_of_mem _ hm)⟩]
              rfl

theorem cut_eq_none_iff {c : α} {s : List α} : cut c s = none ↔ c ∉ s := by
  induction s with
  | nil => simp [cut]
  | cons x xs ih =>
      rw [cut]
      by_cases hx : x = c
      · simp [hx]
      · rw [if_neg hx, Option.map_eq_none_iff, ih, List.mem_cons, not_or]
        exact ⟨fun h => ⟨Ne.symm hx, h⟩, fun h => h.2⟩

/-- The cut at a separator that does not occur before it. -/
theorem cut_append {c : α} {a : List α} (b : List α) (h : c ∉ a) :
    cut c (a ++ c :: b) = some (a, b) := cut_eq_some_iff.mpr ⟨rfl, h⟩

end Cut

/-! ## Searching for a text -/

section Infix

variable {α : Type*} {key l : List α}

/-- A text that occurs has a first occurrence: it does not occur before it. -/
theorem exists_first_infix (hkey : key ≠ []) (h : key <:+: l) :
    ∃ a b, l = a ++ key ++ b ∧ ¬ key <:+: a := by
  have hpos := List.length_pos_iff.mpr hkey
  obtain ⟨a, b, rfl⟩ := h
  induction hn : a.length using Nat.strong_induction_on generalizing a b with
  | _ n ih =>
      by_cases ha : key <:+: a
      · obtain ⟨a', b', rfl⟩ := ha
        obtain ⟨a'', b'', heq, hfirst⟩ := ih a'.length
          (by rw [← hn, List.length_append, List.length_append]; omega) a' (b' ++ key ++ b) rfl
        refine ⟨a'', b'', ?_, hfirst⟩
        rw [← heq]
        simp only [List.append_assoc]
      · exact ⟨a, b, rfl, ha⟩

/-- A text whose first character does not occur before a place occurs behind it. -/
theorem infix_of_infix_append {x : α} {u v : List α} (h : (x :: key) <:+: u ++ v) (hx : x ∉ u) :
    (x :: key) <:+: v := by
  induction u with
  | nil => exact h
  | cons y u ih =>
      rw [List.mem_cons, not_or] at hx
      rw [List.cons_append, List.infix_cons_iff] at h
      rcases h with h | h
      · exact absurd (List.cons_prefix_cons.mp h).1 hx.1
      · exact ih h hx.2

/-- A text whose last character does not occur behind a place occurs before it. -/
theorem infix_of_infix_concat {x : α} {u v : List α} (h : (key ++ [x]) <:+: u ++ v) (hx : x ∉ v) :
    (key ++ [x]) <:+: u := by
  rw [← List.reverse_infix, List.reverse_append] at h ⊢
  rw [List.reverse_append] at h
  exact infix_of_infix_append h (by simpa using hx)

end Infix

/-- `strstr(s, key)`: the suffix of `s` that starts at the first occurrence of
`key`. -/
def strstr (key : Bytes) : Bytes → Option Bytes
  | [] => if key = [] then some [] else none
  | x :: xs => if key.isPrefixOf (x :: xs) then some (x :: xs) else strstr key xs

section Strstr

variable {key : Bytes}

/-- Nothing is found exactly when the text does not occur. -/
theorem strstr_eq_none_iff {s : Bytes} : strstr key s = none ↔ ¬ key <:+: s := by
  induction s with
  | nil =>
      by_cases hkey : key = []
      · simp [strstr, hkey]
      · simp [strstr, hkey, List.infix_nil]
  | cons x xs ih =>
      rw [strstr, List.infix_cons_iff, not_or]
      by_cases hpre : key <+: x :: xs
      · rw [if_pos (List.isPrefixOf_iff_prefix.mpr hpre)]
        exact ⟨fun h => (nomatch h), fun h => absurd hpre h.1⟩
      · rw [if_neg (by simpa using hpre), ih]
        exact ⟨fun h => ⟨hpre, h⟩, fun h => h.2⟩

/-- What is found starts with the text. -/
theorem strstr_prefix {s p : Bytes} (h : strstr key s = some p) : key <+: p := by
  induction s with
  | nil =>
      rw [strstr] at h
      by_cases hkey : key = []
      · rw [hkey]
        exact List.nil_prefix
      · rw [if_neg hkey] at h
        exact nomatch h
  | cons x xs ih =>
      rw [strstr] at h
      by_cases hpre : key <+: x :: xs
      · rw [if_pos (List.isPrefixOf_iff_prefix.mpr hpre)] at h
        rwa [← Option.some.inj h]
      · rw [if_neg (by simpa using hpre)] at h
        exact ih h

/-- The first occurrence: the text does not end anywhere before it does. -/
theorem strstr_first {a : Bytes} (b : Bytes) (h : ¬ key <:+: a ++ key.dropLast) :
    strstr key (a ++ (key ++ b)) = some (key ++ b) := by
  induction a with
  | nil =>
      cases hkb : key ++ b with
      | nil =>
          rw [(List.append_eq_nil_iff.mp hkb).1] at h
          exact absurd List.nil_infix h
      | cons x xs =>
          rw [List.nil_append, strstr, ← hkb,
            if_pos (List.isPrefixOf_iff_prefix.mpr (List.prefix_append key b))]
  | cons x a ih =>
      have hpre : ¬ key <+: x :: (a ++ (key ++ b)) := by
        -- a match here would lie within `x :: a` and all of `key` but its last byte
        intro hpre
        apply h
        have hshort : x :: a ++ key.dropLast <+: x :: (a ++ (key ++ b)) := by
          rw [← List.cons_append, List.prefix_append_right_inj]
          exact (List.dropLast_prefix key).trans (List.prefix_append key b)
        refine (List.prefix_of_prefix_length_le hpre hshort ?_).isInfix
        rw [List.length_append, List.length_cons, List.length_dropLast]
        omega
      rw [List.cons_append, strstr, if_neg (by simpa using hpre)]
      exact ih fun hin => h (List.infix_cons hin)

/-- A text without `c` is looked for on one side of a `c` and then on the other. -/
theorem strstr_append_cons {c : UInt8} (hkey : key ≠ []) (hc : c ∉ key) (a b : Bytes) :
    strstr key (a ++ c :: b) = ((strstr key a).map (· ++ c :: b)).or (strstr key b) := by
  induction a with
  | nil =>
      have hpre : ¬ key <+: c :: b := by
        cases key with
        | nil => exact absurd rfl hkey
        | cons k key =>
            intro hpre
            exact hc (List.mem_cons.mpr (.inl (List.cons_prefix_cons.mp hpre).1.symm))
      simp [strstr, hkey, hpre]
  | cons x a ih =>
      rw [List.cons_append, strstr, strstr]
      by_cases hpre : key <+: x :: a
      · have hlong : key <+: x :: (a ++ c :: b) :=
          hpre.trans (List.prefix_append (x :: a) (c :: b))
        simp [hpre, hlong]
      · have hlong : ¬ key <+: x :: (a ++ c :: b) := by
          -- it would have to reach the separator
          intro hlong
          have hsep : x :: a ++ [c] <+: x :: (a ++ c :: b) := ⟨b, by simp⟩
          rcases List.prefix_or_prefix_of_prefix hlong hsep with hshort | hshort
          · rcases List.prefix_concat_iff.mp hshort with rfl | hshort
            · exact hc List.mem_concat_self
            · exact hpre hshort
          · exact hc (hshort.subset List.mem_concat_self)
        rw [if_neg (by simpa using hlong), if_neg (by simpa using hpre), ih]

/-- An occurrence of a text without `c` does not reach across a `c`. -/
theorem infix_append_cons_iff {c : UInt8} (hkey : key ≠ []) (hc : c ∉ key) {a b : Bytes} :
    key <:+: a ++ c :: b ↔ key <:+: a ∨ key <:+: b := by
  rw [← not_iff_not, not_or, ← strstr_eq_none_iff, ← strstr_eq_none_iff, ← strstr_eq_none_iff,
    strstr_append_cons hkey hc, Option.or_eq_none_iff, Option.map_eq_none_iff]

end Strstr

/-! ## Character classes -/

/-- `isdigit` in the C locale. -/
def isdigit (c : UInt8) : Bool := 48 ≤ c ∧ c ≤ 57

/-- `isupper` in the C locale. -/
def isupper (c : UInt8) : Bool := 65 ≤ c ∧ c ≤ 90

/-- `isalnum` in the C locale. -/
def isalnum (c : UInt8) : Bool :=
  (48 ≤ c ∧ c ≤ 57) ∨ (65 ≤ c ∧ c ≤ 90) ∨ (97 ≤ c ∧ c ≤ 122)

/-- `toupper` in the C locale. -/
def toupper (c : UInt8) : UInt8 := if 97 ≤ c ∧ c ≤ 122 then c - 32 else c

/-- `tolower` in the C locale. -/
def tolower (c : UInt8) : UInt8 := if 65 ≤ c ∧ c ≤ 90 then c + 32 else c

/-- `isspace` in the C locale. -/
def isspace (c : UInt8) : Bool := c = 32 ∨ (9 ≤ c ∧ c ≤ 13)

/-- `strcasecmp(s, t) == 0` in the C locale. -/
def strcaseeq (s t : Bytes) : Bool := s.map tolower = t.map tolower

/-- `strtol(s, NULL, 10)` of a string of digits. -/
def digits_value (s : Bytes) : Nat := s.foldl (fun n c => 10 * n + (c.toNat - 48)) 0

/-- A property of every byte is a property of the 256 values. -/
theorem forall_byte {p : UInt8 → Prop} (h : ∀ n : Fin 256, p (UInt8.ofNat n.val)) (b : UInt8) :
    p b := by
  have := h ⟨b.toNat, b.toNat_lt⟩
  rwa [UInt8.ofNat_toNat] at this

/-! ## Numbers in texts -/

/-- The value of a character as a digit; letters are the digits from ten on. -/
def digit_value (c : UInt8) : Nat :=
  if 48 ≤ c ∧ c ≤ 57 then c.toNat - 48
  else if 97 ≤ tolower c ∧ tolower c ≤ 122 then (tolower c).toNat - 87
  else 36

/-- What `strtol` answers: the value, the text from `*endptr` on, and whether it
set `errno` because the value does not fit. -/
structure strtol_t where
  value : Int
  rest : Bytes
  erange : Bool
  deriving DecidableEq, Repr

/-- An optional sign. -/
def strtol_sign : Bytes → Bool × Bytes
  | [] => (false, [])
  | c :: s => if c = ch '-' then (true, s) else if c = ch '+' then (false, s) else (false, c :: s)

/-- The base of the digits and the text behind a base mark. Base 0 reads the base
off the text: `0x` and a hexadecimal digit, a leading `0`, or decimal. -/
def strtol_base (base : Nat) (s : Bytes) : Nat × Bytes :=
  if (base = 0 ∨ base = 16) ∧ s.head? = some (ch '0') ∧
      tolower (s.getD 1 0) = ch 'x' ∧ 2 < s.length ∧ digit_value (s.getD 2 0) < 16 then
    (16, s.drop 2)
  else if base = 0 then (if s.head? = some (ch '0') then 8 else 10, s)
  else (base, s)

/-- `strtol(s, &end, base)` with a 64-bit `long`. Without a digit nothing is
converted, and `end` is `s`. -/
def strtol (base : Nat) (s : Bytes) : strtol_t :=
  let (negative, t) := strtol_sign (s.dropWhile isspace)
  let (base, t) := strtol_base base t
  let digits := t.takeWhile fun c => digit_value c < base
  if digits = [] then ⟨0, s, false⟩
  else
    let n : Int := digits.foldl (fun n c => base * n + digit_value c) 0
    let value := if negative then -n else n
    let rest := t.dropWhile fun c => digit_value c < base
    if value < -2 ^ 63 then ⟨-2 ^ 63, rest, true⟩
    else if 2 ^ 63 - 1 < value then ⟨2 ^ 63 - 1, rest, true⟩
    else ⟨value, rest, false⟩

example : strtol 0 (ascii " -0x1Fz") = ⟨-31, ascii "z", false⟩ := by decide +kernel

/-! ## Decimal numerals -/

theorem digit_value_lt_ten_iff (c : UInt8) : digit_value c < 10 ↔ isdigit c = true :=
  forall_byte (p := fun c => digit_value c < 10 ↔ isdigit c = true) (by decide +kernel) c

theorem digit_value_of_isdigit {c : UInt8} (h : isdigit c = true) :
    digit_value c = c.toNat - 48 := by
  have hdigit : 48 ≤ c ∧ c ≤ 57 := by simpa [isdigit] using h
  rw [digit_value, if_pos hdigit]

/-- A digit is no white space and no sign. -/
theorem isdigit_plain {c : UInt8} (h : isdigit c = true) :
    isspace c = false ∧ c ≠ ch '-' ∧ c ≠ ch '+' :=
  forall_byte (p := fun c => isdigit c = true → isspace c = false ∧ c ≠ ch '-' ∧ c ≠ ch '+')
    (by decide +kernel) c h

/-- The value `strtol` accumulates over digits. -/
theorem foldl_digit_value (digits : Bytes) (h : digits.all isdigit = true) : ∀ n : Nat,
    digits.foldl (fun (n : Int) c => ((10 : Nat) : Int) * n + digit_value c) n
      = (digits.foldl (fun n c => 10 * n + (c.toNat - 48)) n : Nat) := by
  induction digits with
  | nil => exact fun n => rfl
  | cons c digits ih =>
      intro n
      rw [List.all_cons, Bool.and_eq_true] at h
      rw [List.foldl_cons, List.foldl_cons, ← ih h.2, digit_value_of_isdigit h.1]
      push_cast
      rfl

/-- White space, an optional sign, and at least one digit. -/
structure Numeral (blanks sign digits : Bytes) : Prop where
  all_blanks : blanks.all isspace = true
  sign_cases : sign = [] ∨ sign = [ch '-'] ∨ sign = [ch '+']
  all_digits : digits.all isdigit = true
  digits_ne : digits ≠ []

/-- The value of a numeral. -/
def numeral_value (sign digits : Bytes) : Int :=
  if sign = [ch '-'] then -digits_value digits else digits_value digits

/-- The sign is cut off. -/
theorem strtol_sign_cases (t : Bytes) :
    ∃ sign, (sign = [] ∨ sign = [ch '-'] ∨ sign = [ch '+']) ∧ t = sign ++ (strtol_sign t).2 := by
  cases t with
  | nil => exact ⟨[], .inl rfl, rfl⟩
  | cons c t =>
      by_cases hminus : c = ch '-'
      · refine ⟨[ch '-'], .inr (.inl rfl), ?_⟩
        simp only [strtol_sign, if_pos hminus]
        rw [hminus]
        rfl
      · by_cases hplus : c = ch '+'
        · refine ⟨[ch '+'], .inr (.inr rfl), ?_⟩
          simp only [strtol_sign, if_neg hminus, if_pos hplus]
          rw [hplus]
          rfl
        · refine ⟨[], .inl rfl, ?_⟩
          simp only [strtol_sign, if_neg hminus, if_neg hplus]
          rfl

/-- In base ten there is no base mark. -/
theorem strtol_base_ten (s : Bytes) : strtol_base 10 s = (10, s) := by
  rw [strtol_base, if_neg (by simp), if_neg (by decide)]

/-- A value is taken as far as a `long` goes. -/
theorem strtol_clamp (value : Int) (rest : Bytes) :
    let r : strtol_t :=
      if value < -2 ^ 63 then ⟨-2 ^ 63, rest, true⟩
      else if 2 ^ 63 - 1 < value then ⟨2 ^ 63 - 1, rest, true⟩
      else ⟨value, rest, false⟩
    r.rest = rest ∧ r.value = max (-2 ^ 63) (min (2 ^ 63 - 1) value) := by
  dsimp only
  by_cases hlow : value < -2 ^ 63
  · rw [if_pos hlow]
    exact ⟨rfl, by dsimp only; omega⟩
  · rw [if_neg hlow]
    by_cases hhigh : 2 ^ 63 - 1 < value
    · rw [if_pos hhigh]
      exact ⟨rfl, by dsimp only; omega⟩
    · rw [if_neg hhigh]
      exact ⟨rfl, by dsimp only; omega⟩

/-- What `strtol` reads to its end is a numeral. -/
theorem numeral_of_strtol {s : Bytes} (hrest : (strtol 10 s).rest = []) (hs : s ≠ []) :
    ∃ blanks sign digits, s = blanks ++ sign ++ digits ∧ Numeral blanks sign digits := by
  obtain ⟨sign, hsign, htext⟩ := strtol_sign_cases (s.dropWhile isspace)
  generalize ht : (strtol_sign (s.dropWhile isspace)).2 = t at htext
  have hsplit : s = s.takeWhile isspace ++ sign ++ t := by
    rw [List.append_assoc, ← htext, List.takeWhile_append_dropWhile]
  unfold strtol at hrest
  simp only [ht, strtol_base_ten] at hrest
  by_cases hnone : (t.takeWhile fun c => digit_value c < 10) = []
  · rw [if_pos hnone] at hrest
    exact absurd hrest hs
  · rw [if_neg hnone] at hrest
    -- the digits go to the end of the text
    have hend : (t.dropWhile fun c => digit_value c < 10) = [] :=
      (strtol_clamp _ _).1.symm.trans hrest
    refine ⟨s.takeWhile isspace, sign, t, hsplit, List.all_takeWhile, hsign, ?_, ?_⟩
    · apply List.all_eq_true.mpr
      intro c hc
      have hlt := List.dropWhile_eq_nil_iff.mp hend c hc
      exact (digit_value_lt_ten_iff c).mp (by simpa using hlt)
    · rintro rfl
      exact hnone rfl

section Numeral

variable {blanks sign digits : Bytes}

/-- The white space is skipped, and the sign is read. -/
theorem Numeral.strtol_sign_eq (h : Numeral blanks sign digits) :
    strtol_sign ((blanks ++ sign ++ digits).dropWhile isspace)
      = (decide (sign = [ch '-']), digits) := by
  have hblank : ∀ c ∈ blanks, isspace c = true := List.all_eq_true.mp h.all_blanks
  have hminus : isspace (ch '-') = false := by decide
  have hplus : isspace (ch '+') = false := by decide
  have hpm : ch '+' ≠ ch '-' := by decide
  rw [List.append_assoc, List.dropWhile_append_of_pos hblank]
  rcases h.sign_cases with rfl | rfl | rfl
  · -- without a sign the first digit stops both the blanks and the sign
    cases hdigits : digits with
    | nil => exact absurd hdigits h.digits_ne
    | cons c rest =>
        have hall := h.all_digits
        rw [hdigits, List.all_cons, Bool.and_eq_true] at hall
        obtain ⟨hspace, hm, hp⟩ := isdigit_plain hall.1
        rw [List.nil_append, List.dropWhile_cons_of_neg (by simp [hspace])]
        simp only [strtol_sign, if_neg hm, if_neg hp]
        rfl
  · rw [List.singleton_append, List.dropWhile_cons_of_neg (by simp [hminus])]
    rfl
  · rw [List.singleton_append, List.dropWhile_cons_of_neg (by simp [hplus])]
    simp only [strtol_sign, if_neg hpm]
    rfl

/-- A numeral is read to its end, and its value as far as a `long` goes. -/
theorem Numeral.strtol_eq (h : Numeral blanks sign digits) :
    (strtol 10 (blanks ++ sign ++ digits)).rest = [] ∧
      (strtol 10 (blanks ++ sign ++ digits)).value
        = max (-2 ^ 63) (min (2 ^ 63 - 1) (numeral_value sign digits)) := by
  have hall : ∀ c ∈ digits, (decide (digit_value c < 10)) = true := by
    intro c hc
    have hdigit := List.all_eq_true.mp h.all_digits c hc
    exact decide_eq_true ((digit_value_lt_ten_iff c).mpr hdigit)
  have htake : (digits.takeWhile fun c => digit_value c < 10) = digits :=
    List.takeWhile_eq_self_iff.mpr hall
  have hdrop : (digits.dropWhile fun c => digit_value c < 10) = [] :=
    List.dropWhile_eq_nil_iff.mpr hall
  have hvalue : digits.foldl (fun (n : Int) c => ((10 : Nat) : Int) * n + digit_value c) 0
      = digits_value digits := foldl_digit_value digits h.all_digits 0
  unfold strtol
  simp only [h.strtol_sign_eq, strtol_base_ten, htake, hdrop, if_neg h.digits_ne, hvalue,
    decide_eq_true_eq]
  exact strtol_clamp (numeral_value sign digits) []

end Numeral

/-! ## `printf` conversions -/

/-- `%u`. -/
def fmt_u (n : Nat) : Bytes := (Nat.toDigits 10 n).map ch

/-- `%d`. -/
def fmt_d (n : Int) : Bytes := if n < 0 then ch '-' :: fmt_u n.natAbs else fmt_u n.natAbs

/-- `%02X`. -/
def fmt_02X (n : Nat) : Bytes :=
  let s := (Nat.toDigits 16 n).map fun c => toupper (ch c)
  List.replicate (2 - s.length) (ch '0') ++ s

/-- Nearest integer of a non-negative value, halves to the even neighbour. -/
def round_half_even (q : ℚ) : Nat :=
  let n := q.floor.toNat
  let r := q - n
  if r < 1 / 2 then n else if 1 / 2 < r then n + 1 else if n % 2 = 0 then n else n + 1

/-- `%.<prec>f` of an exactly known value. -/
def fmt_f (prec : Nat) (q : ℚ) : Bytes :=
  let n := round_half_even (|q| * 10 ^ prec)
  let frac := (Nat.toDigits 10 (n % 10 ^ prec)).map ch
  (if q < 0 then [ch '-'] else []) ++ fmt_u (n / 10 ^ prec) ++ [ch '.'] ++
    List.replicate (prec - frac.length) (ch '0') ++ frac

example : fmt_f 6 (4337750 / 10000) = ascii "433.775000" := by decide +kernel

theorem isdigit_ch {c : Char} (h : c.isDigit = true) : isdigit (ch c) = true := by
  have hrange : 48 ≤ c.toNat ∧ c.toNat ≤ 57 := by
    simpa [Char.isDigit, UInt32.le_iff_toNat_le] using h
  have hval : (ch c).toNat = c.toNat := by
    rw [ch, Nat.toUInt8, UInt8.toNat_ofNat']
    omega
  rw [isdigit, decide_eq_true_eq, UInt8.le_iff_toNat_le, UInt8.le_iff_toNat_le, hval]
  exact hrange

/-- A number prints as digits. -/
theorem fmt_u_digits (n : Nat) : ∀ c ∈ fmt_u n, isdigit c = true := by
  intro c hc
  obtain ⟨d, hd, rfl⟩ := List.mem_map.mp hc
  exact isdigit_ch (Nat.isDigit_of_mem_toDigits (by decide) (by decide) hd)

/-- A number with a fraction prints as digits, a point and at most a sign. -/
theorem fmt_f_chars (prec : Nat) (q : ℚ) :
    ∀ c ∈ fmt_f prec q, isdigit c = true ∨ c = ch '.' ∨ c = ch '-' := by
  intro c hc
  unfold fmt_f at hc
  simp only [List.mem_append] at hc
  rcases hc with (((hsign | hint) | hpoint) | hpad) | hfrac
  · split at hsign
    · exact .inr (.inr (List.mem_singleton.mp hsign))
    · exact absurd hsign List.not_mem_nil
  · exact .inl (fmt_u_digits _ c hint)
  · exact .inr (.inl (List.mem_singleton.mp hpoint))
  · rw [List.eq_of_mem_replicate hpad]
    exact .inl (by decide)
  · exact .inl (fmt_u_digits _ c hfrac)

end LorahamKissTnc.Lib.CString
