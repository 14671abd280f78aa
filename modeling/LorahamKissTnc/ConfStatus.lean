/-
The flags of a STATUS line, token by token.

`bridge_status_flag_token` looks for `TX=` anywhere on the line and reads the
byte behind the first place it stands. It does not ask whether a token starts
there, nor whether the token ends behind the digit, and the radio state is
looked for in the same way. So a line is read as its tokens say exactly when the
first token with `TX=` somewhere in it is the token `TX=0` or `TX=1` itself or
happens to agree with it, and likewise for the other keys.

No key searched for contains a space, so an occurrence never reaches across two
tokens (`strstr_append_cons`): the whole line is decided token by token, by the
first one that has the key anywhere in it.
-/
import Mathlib.Data.List.Nodup
import LorahamKissTnc.BridgeConf

set_option autoImplicit false

open LorahamKissTnc.Lib.CString
open LorahamKissTnc.BridgeConf

namespace LorahamKissTnc.ConfStatus

/-! ## Status lines -/

/-- A `KEY=VALUE` token: the key ends at the first `=`, and there is no space in
it. -/
structure status_token where
  key : Bytes
  value : Bytes
  key_eq : ch '=' ∉ key
  key_space : ch ' ' ∉ key
  value_space : ch ' ' ∉ value
  deriving DecidableEq

def status_token.text (t : status_token) : Bytes := t.key ++ ch '=' :: t.value

/-- `STATUS ` and the tokens, separated by spaces. -/
def status_line (ts : List status_token) : Bytes :=
  ascii "STATUS " ++ [ch ' '].intercalate (ts.map (·.text))

def digit (b : Bool) : UInt8 := if b then ch '1' else ch '0'

/-- The token `key=value` is on the line. -/
def Has (ts : List status_token) (key value : Bytes) : Prop :=
  ∃ t ∈ ts, t.key = key ∧ t.value = value

/-- The text stands in some token of the line. -/
def Mentions (ts : List status_token) (text : Bytes) : Prop := ∃ t ∈ ts, text <:+: t.text

/-! ## What the tokens say -/

/-- A flag is set to the digit of its token, and left alone without one. -/
def FlagRead (ts : List status_token) (key : Bytes) (old new : Bool) : Prop :=
  (∀ b, Has ts key [digit b] → new = b) ∧ ((∀ b, ¬ Has ts key [digit b]) → new = old)

/-- The radio state is what its token says, and left alone without one. -/
def RadioRead (ts : List status_token) (old new : Bool) : Prop :=
  (Has ts (ascii "RADIO") (ascii "READY") → new = true) ∧
  (Has ts (ascii "RADIO") (ascii "FAILED") ∨ Has ts (ascii "RADIO") (ascii "UNINITIALIZED") →
    new = false) ∧
  (¬ Has ts (ascii "RADIO") (ascii "READY") ∧ ¬ Has ts (ascii "RADIO") (ascii "FAILED") ∧
    ¬ Has ts (ascii "RADIO") (ascii "UNINITIALIZED") → new = old)

/-- The flags of `new` are those of `old` with what the tokens say written into
them. -/
structure TokensRead (ts : List status_token) (old new : bridge_conf_state_t) : Prop where
  tx : FlagRead ts (ascii "TX") old.tx_busy new.tx_busy
  cad : FlagRead ts (ascii "CAD") old.cad_busy new.cad_busy
  txresult : FlagRead ts (ascii "TXRESULT") old.txresult_enabled new.txresult_enabled
  known : new.txresult_known = true ↔
    old.txresult_known = true ∨ ∃ b, Has ts (ascii "TXRESULT") [digit b]
  radio : RadioRead ts old.radio_ready new.radio_ready

/-! ## When a line is read as its tokens say -/

/-- `needle` stands in the text with the digit `b` behind its first place. -/
def Behind (needle text : Bytes) (b : Bool) : Prop :=
  ∃ u v, text = u ++ (needle ++ digit b :: v) ∧ ¬ needle <:+: u

/-- The first token with `key=` anywhere in it is `key=0` or `key=1` itself, or
the digit it shows is the one of the token further right, or it shows none and
there is no such token. -/
def Harmless (ts : List status_token) (key : Bytes) : Prop :=
  ∀ before t after, ts = before ++ t :: after →
    (∀ s ∈ before, ¬ (key ++ [ch '=']) <:+: s.text) → (key ++ [ch '=']) <:+: t.text →
    (t.key = key ∧ ∃ b, t.value = [digit b]) ∨
    (∃ b, Behind (key ++ [ch '=']) t.text b ∧ Has after key [digit b]) ∨
    ((∀ b, ¬ Behind (key ++ [ch '=']) t.text b) ∧ ∀ b, ¬ Has after key [digit b])

/-- `RADIO=READY` stands nowhere but in the token that says so, and the two other
states only beside a token that says one of the three. -/
def RadioHarmless (ts : List status_token) : Prop :=
  (Mentions ts (ascii "RADIO=READY") → Has ts (ascii "RADIO") (ascii "READY")) ∧
  (Mentions ts (ascii "RADIO=FAILED") ∨ Mentions ts (ascii "RADIO=UNINITIALIZED") →
    Has ts (ascii "RADIO") (ascii "READY") ∨ Has ts (ascii "RADIO") (ascii "FAILED") ∨
      Has ts (ascii "RADIO") (ascii "UNINITIALIZED"))

/-- No token on the line passes for another one. -/
def NoDecoys (ts : List status_token) : Prop :=
  Harmless ts (ascii "TX") ∧ Harmless ts (ascii "CAD") ∧ Harmless ts (ascii "TXRESULT") ∧
    RadioHarmless ts

/-! ## Searching a text -/

theorem digit_ne_space (b : Bool) : ¬ ch ' ' = digit b := by
  revert b
  decide

/-- The byte behind the key is read as a digit. -/
theorem flag_of_strstr {line needle v : Bytes} (h : strstr needle line = some (needle ++ v))
    (b : Bool) : bridge_status_flag_token line needle = some b ↔ v.head? = some (digit b) := by
  unfold bridge_status_flag_token
  rw [h]
  dsimp only
  rw [List.drop_left]
  cases v with
  | nil => simp
  | cons d v =>
      rw [List.head?_cons, Option.some.injEq]
      dsimp only
      by_cases h1 : d = ch '1'
      · subst h1
        cases b <;> decide
      · by_cases h0 : d = ch '0'
        · subst h0
          cases b <;> decide
        · cases b <;> simp [h1, h0, digit]

/-- On a text without the key there is no flag. -/
theorem flag_of_absent {line needle : Bytes} (h : ¬ needle <:+: line) :
    bridge_status_flag_token line needle = none := by
  unfold bridge_status_flag_token
  rw [strstr_eq_none_iff.mpr h]

/-- The digit that is read is the one behind the first place of the key. The key
ends in its only `=`, so no place of it overlaps another. -/
theorem flag_eq_some_iff {key line : Bytes} (hkey : ch '=' ∉ key) (b : Bool) :
    bridge_status_flag_token line (key ++ [ch '=']) = some b ↔
      Behind (key ++ [ch '=']) line b := by
  have hfirst : ∀ u v, ¬ (key ++ [ch '=']) <:+: u →
      strstr (key ++ [ch '=']) (u ++ (key ++ [ch '='] ++ v)) = some (key ++ [ch '='] ++ v) := by
    intro u v hu
    apply strstr_first
    rw [List.dropLast_concat]
    exact fun hin => hu (infix_of_infix_concat hin hkey)
  constructor
  · intro h
    by_cases hin : (key ++ [ch '=']) <:+: line
    · obtain ⟨u, v, rfl, hu⟩ := exists_first_infix (by simp) hin
      rw [List.append_assoc u] at h ⊢
      rw [flag_of_strstr (hfirst u v hu)] at h
      obtain ⟨w, rfl⟩ := List.head?_eq_some_iff.mp h
      exact ⟨u, w, rfl, hu⟩
    · rw [flag_of_absent hin] at h
      exact nomatch h
  · rintro ⟨u, v, rfl, hu⟩
    rw [flag_of_strstr (hfirst u _ hu)]
    rfl

/-! ## Searching a line -/

section Needle

variable {needle : Bytes}

/-- The flag comes from the part before a space when the key stands there. -/
theorem flag_before_space (hne : needle ≠ []) (hspace : ch ' ' ∉ needle) {a : Bytes} (b : Bytes)
    (h : needle <:+: a) :
    bridge_status_flag_token (a ++ ch ' ' :: b) needle = bridge_status_flag_token a needle := by
  cases hfind : strstr needle a with
  | none => exact absurd h (strstr_eq_none_iff.mp hfind)
  | some p =>
      obtain ⟨v, rfl⟩ := strstr_prefix hfind
      have hline : strstr needle (a ++ ch ' ' :: b) = some (needle ++ (v ++ ch ' ' :: b)) := by
        rw [strstr_append_cons hne hspace, hfind, ← List.append_assoc]
        rfl
      apply Option.ext
      intro d
      rw [flag_of_strstr hline, flag_of_strstr hfind]
      cases v with
      | nil => simp [digit_ne_space]
      | cons x v => rfl

/-- Otherwise it comes from the part behind it. -/
theorem flag_behind_space (hne : needle ≠ []) (hspace : ch ' ' ∉ needle) {a : Bytes} (b : Bytes)
    (h : ¬ needle <:+: a) :
    bridge_status_flag_token (a ++ ch ' ' :: b) needle = bridge_status_flag_token b needle := by
  unfold bridge_status_flag_token
  rw [strstr_append_cons hne hspace, strstr_eq_none_iff.mpr h]
  rfl

/-- A text without a space stands on the line where it stands in a token. -/
theorem infix_tokens_iff (hne : needle ≠ []) (hspace : ch ' ' ∉ needle) (ts : List status_token) :
    needle <:+: [ch ' '].intercalate (ts.map (·.text)) ↔ Mentions ts needle := by
  induction ts with
  | nil => simp [Mentions, List.intercalate_nil, hne]
  | cons t ts ih =>
      cases ts with
      | nil => simp [Mentions]
      | cons t' ts =>
          rw [List.map_cons, List.map_cons, List.intercalate_cons_cons, List.append_assoc,
            List.singleton_append, infix_append_cons_iff hne hspace]
          rw [List.map_cons] at ih
          rw [ih]
          simp [Mentions]

/-- The flag of the tokens is the flag of the first one that has the key. -/
theorem flag_tokens (hne : needle ≠ []) (hspace : ch ' ' ∉ needle) (before : List status_token)
    (t : status_token) (after : List status_token) (hbefore : ∀ s ∈ before, ¬ needle <:+: s.text)
    (ht : needle <:+: t.text) :
    bridge_status_flag_token ([ch ' '].intercalate ((before ++ t :: after).map (·.text))) needle
      = bridge_status_flag_token t.text needle := by
  induction before with
  | nil =>
      cases after with
      | nil => rw [List.nil_append, List.map_singleton, List.intercalate_singleton]
      | cons t' after =>
          rw [List.nil_append, List.map_cons, List.map_cons, List.intercalate_cons_cons,
            List.append_assoc, List.singleton_append]
          exact flag_before_space hne hspace _ ht
  | cons s before ih =>
      have hrest : ((before ++ t :: after).map (·.text)) ≠ [] := by simp
      rw [List.cons_append, List.map_cons, List.intercalate_cons_of_ne_nil hrest,
        List.append_assoc, List.singleton_append,
        flag_behind_space hne hspace _ (hbefore s List.mem_cons_self)]
      exact ih fun s hs => hbefore s (List.mem_cons_of_mem _ hs)

theorem status_line_eq (ts : List status_token) :
    status_line ts = ascii "STATUS" ++ ch ' ' :: [ch ' '].intercalate (ts.map (·.text)) := rfl

/-- A text is looked for in the tokens, when it is no part of `STATUS`. -/
theorem infix_status_line_iff (hne : needle ≠ []) (hspace : ch ' ' ∉ needle)
    (hstatus : ¬ needle <:+: ascii "STATUS") (ts : List status_token) :
    needle <:+: status_line ts ↔ Mentions ts needle := by
  rw [status_line_eq, infix_append_cons_iff hne hspace, infix_tokens_iff hne hspace]
  simp [hstatus]

end Needle

/-! ## One flag -/

theorem digit_injective {b b' : Bool} (h : digit b = digit b') : b = b' := by
  revert b b'
  decide

theorem space_notMem_needle {key : Bytes} (h : ch ' ' ∉ key) : ch ' ' ∉ key ++ [ch '='] := by
  have hne : ¬ ch ' ' = ch '=' := by decide
  simp [h, hne]

theorem Has.mentions {ts : List status_token} {key value : Bytes} (h : Has ts key value) :
    Mentions ts (key ++ ch '=' :: value) := by
  obtain ⟨t, ht, rfl, rfl⟩ := h
  exact ⟨t, ht, List.infix_refl _⟩

/-- With distinct keys a key has one value. -/
theorem Has.unique {ts : List status_token} (hkeys : (ts.map (·.key)).Nodup)
    {key value value' : Bytes} (h : Has ts key value) (h' : Has ts key value') :
    value = value' := by
  obtain ⟨t, ht, hk, rfl⟩ := h
  obtain ⟨t', ht', hk', rfl⟩ := h'
  rw [List.inj_on_of_nodup_map hkeys ht ht' (hk.trans hk'.symm)]

section Flag

variable {ts : List status_token} {key : Bytes}

/-- A flag that is overwritten with `v` when there is one is read as the tokens
say exactly when `v` is the digit of the token. -/
theorem flagRead_iff (v : Option Bool) :
    (∀ old, FlagRead ts key old (v.getD old)) ↔ ∀ b, v = some b ↔ Has ts key [digit b] := by
  constructor
  · intro h b
    constructor
    · rintro rfl
      by_contra hb
      by_cases hother : Has ts key [digit !b]
      · have := (h b).1 (!b) hother
        simp at this
      · -- without a token the flag would keep its old value, whichever that is
        have hnone : ∀ b', ¬ Has ts key [digit b'] := by
          intro b'
          rcases Bool.eq_or_eq_not b' b with rfl | rfl
          · exact hb
          · exact hother
        have := (h (!b)).2 hnone
        simp at this
    · intro hb
      cases v with
      | none =>
          have := (h (!b)).1 b hb
          simp at this
      | some b' => rw [← (h b).1 b hb]; rfl
  · intro h old
    constructor
    · intro b hb
      rw [(h b).mpr hb]
      rfl
    · intro hnone
      cases v with
      | none => rfl
      | some b => exact absurd ((h b).mp rfl) (hnone b)

/-- A token of the key's own does not stand before the first one that has it. -/
theorem has_split_iff {before : List status_token} {t : status_token} {after : List status_token}
    (hbefore : ∀ s ∈ before, ¬ (key ++ [ch '=']) <:+: s.text) (value : Bytes) :
    Has (before ++ t :: after) key value ↔
      (t.key = key ∧ t.value = value) ∨ Has after key value := by
  constructor
  · rintro ⟨s, hs, hk, hv⟩
    rcases List.mem_append.mp hs with hs | hs
    · exfalso
      apply hbefore s hs
      rw [status_token.text, hk]
      exact ⟨[], s.value, by simp⟩
    · rcases List.mem_cons.mp hs with rfl | hs
      · exact .inl ⟨hk, hv⟩
      · exact .inr ⟨s, hs, hk, hv⟩
  · rintro (⟨hk, hv⟩ | ⟨s, hs, hk, hv⟩)
    · exact ⟨t, by simp, hk, hv⟩
    · exact ⟨s, by simp [hs], hk, hv⟩

/-- On the key's own token the flag is the first byte of the value. -/
theorem flag_own {t : status_token} (hown : t.key = key) (b : Bool) :
    bridge_status_flag_token t.text (key ++ [ch '=']) = some b ↔
      t.value.head? = some (digit b) := by
  apply flag_of_strstr
  have htext : t.text = [] ++ (key ++ [ch '='] ++ t.value) := by
    rw [status_token.text, hown]
    simp
  rw [htext]
  apply strstr_first
  rw [List.nil_append, List.dropLast_concat]
  intro hin
  have := hin.length_le
  simp at this

/-- When the first token that has the key is its own one, the value must be one
digit or not start with one. -/
theorem flag_own_iff {t : status_token} (hown : t.key = key) :
    (∀ b, bridge_status_flag_token t.text (key ++ [ch '=']) = some b ↔ t.value = [digit b]) ↔
      (∃ b, t.value = [digit b]) ∨
        ∀ b, ¬ bridge_status_flag_token t.text (key ++ [ch '=']) = some b := by
  simp only [flag_own hown]
  constructor
  · intro h
    by_cases hd : ∃ b, t.value.head? = some (digit b)
    · obtain ⟨b, hb⟩ := hd
      exact .inl ⟨b, (h b).mp hb⟩
    · exact .inr fun b hb => hd ⟨b, hb⟩
  · rintro (⟨b, hb⟩ | hno) b'
    · rw [hb]
      simp
    · constructor
      · exact fun hb => absurd hb (hno b')
      · intro hb
        rw [hb] at hno
        exact absurd rfl (hno b')

/-- When it is another one, it must agree with the key's own token. -/
theorem flag_other_iff {after : List status_token} (hkeys : (after.map (·.key)).Nodup)
    (v : Option Bool) :
    (∀ b, v = some b ↔ Has after key [digit b]) ↔
      (∃ b, v = some b ∧ Has after key [digit b]) ∨
        ((∀ b, ¬ v = some b) ∧ ∀ b, ¬ Has after key [digit b]) := by
  constructor
  · intro h
    by_cases hd : ∃ b, v = some b
    · obtain ⟨b, hb⟩ := hd
      exact .inl ⟨b, hb, (h b).mp hb⟩
    · exact .inr ⟨fun b hb => hd ⟨b, hb⟩, fun b hb => hd ⟨b, (h b).mpr hb⟩⟩
  · rintro (⟨b, hb, hhas⟩ | ⟨hno, hnone⟩) b'
    · constructor
      · intro hb'
        rw [← Option.some.inj (hb.symm.trans hb')]
        exact hhas
      · intro hb'
        rw [digit_injective (List.singleton_inj.mp (Has.unique hkeys hb' hhas))]
        exact hb
    · exact ⟨fun hb => absurd hb (hno b'), fun hb => absurd hb (hnone b')⟩

/-- The line's first token with `key=` in it decides the flag. -/
theorem flag_split_iff (hkey : ch '=' ∉ key) (hspace : ch ' ' ∉ key)
    (hstatus : ¬ (key ++ [ch '=']) <:+: ascii "STATUS") {before : List status_token}
    {t : status_token} {after : List status_token}
    (hkeys : ((before ++ t :: after).map (·.key)).Nodup)
    (hbefore : ∀ s ∈ before, ¬ (key ++ [ch '=']) <:+: s.text)
    (ht : (key ++ [ch '=']) <:+: t.text) :
    (∀ b, bridge_status_flag_token (status_line (before ++ t :: after)) (key ++ [ch '=']) = some b ↔
        Has (before ++ t :: after) key [digit b]) ↔
      (t.key = key ∧ ∃ b, t.value = [digit b]) ∨
      (∃ b, Behind (key ++ [ch '=']) t.text b ∧ Has after key [digit b]) ∨
      ((∀ b, ¬ Behind (key ++ [ch '=']) t.text b) ∧ ∀ b, ¬ Has after key [digit b]) := by
  have hne : key ++ [ch '='] ≠ [] := by simp
  have hsep : ch ' ' ∉ key ++ [ch '='] := space_notMem_needle hspace
  have hflag : bridge_status_flag_token (status_line (before ++ t :: after)) (key ++ [ch '='])
      = bridge_status_flag_token t.text (key ++ [ch '=']) := by
    rw [status_line_eq, flag_behind_space hne hsep _ hstatus,
      flag_tokens hne hsep before t after hbefore ht]
  have htail : ((t :: after).map (·.key)).Nodup := by
    rw [List.map_append] at hkeys
    exact (List.nodup_append.mp hkeys).2.1
  obtain ⟨hfresh, hafter⟩ := List.nodup_cons.mp htail
  simp only [hflag, has_split_iff hbefore, ← flag_eq_some_iff hkey]
  by_cases hown : t.key = key
  · have hnone : ∀ v, ¬ Has after key v := by
      rintro v ⟨s, hs, hk, -⟩
      exact hfresh (List.mem_map.mpr ⟨s, hs, hk.trans hown.symm⟩)
    simp only [hown, hnone, true_and, or_false, and_false, exists_false, false_or,
      not_false_eq_true, implies_true, and_true]
    exact flag_own_iff hown
  · simp only [hown, false_and, false_or]
    exact flag_other_iff hafter _

/-- The flag read off a line is the token's exactly when no token passes for it. -/
theorem flag_iff_harmless (key : Bytes) (hkeys : (ts.map (·.key)).Nodup) (hkey : ch '=' ∉ key)
    (hspace : ch ' ' ∉ key) (hstatus : ¬ (key ++ [ch '=']) <:+: ascii "STATUS") :
    (∀ b, bridge_status_flag_token (status_line ts) (key ++ [ch '=']) = some b ↔
      Has ts key [digit b]) ↔ Harmless ts key := by
  constructor
  · rintro h before t after rfl hbefore ht
    exact (flag_split_iff hkey hspace hstatus hkeys hbefore ht).mp h
  · intro h
    cases hfind : ts.find? fun t => decide ((key ++ [ch '=']) <:+: t.text) with
    | some t =>
        obtain ⟨ht, before, after, rfl, hbefore⟩ := List.find?_eq_some_iff_append.mp hfind
        have hbefore : ∀ s ∈ before, ¬ (key ++ [ch '=']) <:+: s.text := by simpa using hbefore
        have ht : (key ++ [ch '=']) <:+: t.text := by simpa using ht
        exact (flag_split_iff hkey hspace hstatus hkeys hbefore ht).mpr
          (h before t after rfl hbefore ht)
    | none =>
        have hnone : ∀ t ∈ ts, ¬ (key ++ [ch '=']) <:+: t.text := by simpa using hfind
        have hline : ¬ (key ++ [ch '=']) <:+: status_line ts := by
          rw [infix_status_line_iff (by simp) (space_notMem_needle hspace) hstatus]
          rintro ⟨t, ht, hin⟩
          exact hnone t ht hin
        intro b
        rw [flag_of_absent hline]
        constructor
        · exact fun hb => nomatch hb
        · rintro ⟨t, ht, rfl, -⟩
          exact absurd ⟨[], t.value, by simp [status_token.text]⟩ (hnone t ht)

/-- The same for the flag as it is stored. -/
theorem flagRead_iff_harmless (key : Bytes) (hkeys : (ts.map (·.key)).Nodup) (hkey : ch '=' ∉ key)
    (hspace : ch ' ' ∉ key) (hstatus : ¬ (key ++ [ch '=']) <:+: ascii "STATUS") :
    (∀ old, FlagRead ts key old
      ((bridge_status_flag_token (status_line ts) (key ++ [ch '='])).getD old)) ↔
      Harmless ts key :=
  (flagRead_iff _).trans (flag_iff_harmless key hkeys hkey hspace hstatus)

/-- Two lines on which no token passes for the key's are read alike when they
have the same token. -/
theorem flag_congr (key : Bytes) {ts' : List status_token} (hkeys : (ts.map (·.key)).Nodup)
    (hkeys' : (ts'.map (·.key)).Nodup) (hkey : ch '=' ∉ key) (hspace : ch ' ' ∉ key)
    (hstatus : ¬ (key ++ [ch '=']) <:+: ascii "STATUS") (h : Harmless ts key)
    (h' : Harmless ts' key) (hsame : ∀ value, Has ts key value ↔ Has ts' key value) :
    bridge_status_flag_token (status_line ts) (key ++ [ch '='])
      = bridge_status_flag_token (status_line ts') (key ++ [ch '=']) := by
  apply Option.ext
  intro b
  rw [(flag_iff_harmless key hkeys hkey hspace hstatus).mpr h b,
    (flag_iff_harmless key hkeys' hkey hspace hstatus).mpr h' b]
  exact hsame _

end Flag

/-! ## The radio state -/

theorem radio_mentions {needle : Bytes} (hne : needle ≠ []) (hspace : ch ' ' ∉ needle)
    (hstatus : ¬ needle <:+: ascii "STATUS") (ts : List status_token) :
    (strstr needle (status_line ts)).isSome = true ↔ Mentions ts needle := by
  rw [← infix_status_line_iff hne hspace hstatus, ← not_iff_not, ← strstr_eq_none_iff,
    Bool.not_eq_true, Option.isSome_eq_false_iff, Option.isNone_iff_eq_none]

/-- A radio token is found. -/
theorem has_radio_found (ts : List status_token) (value : Bytes) (hspace : ch ' ' ∉ value)
    (hstatus : ¬ (ascii "RADIO" ++ ch '=' :: value) <:+: ascii "STATUS")
    (h : Has ts (ascii "RADIO") value) :
    (strstr (ascii "RADIO" ++ ch '=' :: value) (status_line ts)).isSome = true := by
  have hsep : ch ' ' ∉ ascii "RADIO" ++ ch '=' :: value := by
    rw [List.mem_append, List.mem_cons]
    rintro (h | h | h)
    · revert h
      decide
    · revert h
      decide
    · exact hspace h
  exact (radio_mentions (by simp) hsep hstatus ts).mpr h.mentions

/-- The radio state is searched for as a text on the whole line. -/
theorem radio_iff_harmless {ts : List status_token} (hkeys : (ts.map (·.key)).Nodup) :
    (∀ old, RadioRead ts old
      (if (strstr (ascii "RADIO=READY") (status_line ts)).isSome then true
        else if (strstr (ascii "RADIO=FAILED") (status_line ts)).isSome ∨
            (strstr (ascii "RADIO=UNINITIALIZED") (status_line ts)).isSome then false
        else old)) ↔ RadioHarmless ts := by
  unfold RadioHarmless
  rw [← radio_mentions (by decide) (by decide) (by decide),
    ← radio_mentions (by decide) (by decide) (by decide),
    ← radio_mentions (by decide) (by decide) (by decide)]
  have hready := has_radio_found ts (ascii "READY") (by decide) (by decide)
  have hfailed := has_radio_found ts (ascii "FAILED") (by decide) (by decide)
  have huninit := has_radio_found ts (ascii "UNINITIALIZED") (by decide) (by decide)
  have hready_failed : Has ts (ascii "RADIO") (ascii "READY") →
      ¬ Has ts (ascii "RADIO") (ascii "FAILED") := fun h h' =>
    absurd (h.unique hkeys h') (by decide)
  have hready_uninit : Has ts (ascii "RADIO") (ascii "READY") →
      ¬ Has ts (ascii "RADIO") (ascii "UNINITIALIZED") := fun h h' =>
    absurd (h.unique hkeys h') (by decide)
  change Has ts (ascii "RADIO") (ascii "READY") →
    (strstr (ascii "RADIO=READY") (status_line ts)).isSome = true at hready
  change Has ts (ascii "RADIO") (ascii "FAILED") →
    (strstr (ascii "RADIO=FAILED") (status_line ts)).isSome = true at hfailed
  change Has ts (ascii "RADIO") (ascii "UNINITIALIZED") →
    (strstr (ascii "RADIO=UNINITIALIZED") (status_line ts)).isSome = true at huninit
  -- what is left speaks of the three searches and the three tokens only
  generalize (strstr (ascii "RADIO=READY") (status_line ts)).isSome = r at *
  generalize (strstr (ascii "RADIO=FAILED") (status_line ts)).isSome = f at *
  generalize (strstr (ascii "RADIO=UNINITIALIZED") (status_line ts)).isSome = u at *
  unfold RadioRead
  constructor
  · intro h
    -- a state that keeps the old value is told apart by starting from the other one
    obtain ⟨-, hoff, hkeep⟩ := h false
    obtain ⟨-, -, hkeep'⟩ := h true
    cases r with
    | true =>
        rw [if_pos rfl] at hoff hkeep
        grind
    | false =>
        rw [if_neg Bool.false_ne_true] at hkeep'
        grind
  · rintro ⟨hr, ho⟩ old
    cases r with
    | true =>
        rw [if_pos rfl]
        grind
    | false =>
        rw [if_neg Bool.false_ne_true]
        grind

theorem RadioRead.congr {ts ts' : List status_token} {old new new' : Bool}
    (h : RadioRead ts old new) (h' : RadioRead ts' old new')
    (hsame : ∀ value, Has ts (ascii "RADIO") value ↔ Has ts' (ascii "RADIO") value) :
    new = new' := by
  obtain ⟨hon, hoff, hkeep⟩ := h
  obtain ⟨hon', hoff', hkeep'⟩ := h'
  simp only [← hsame] at hon' hoff' hkeep'
  by_cases hr : Has ts (ascii "RADIO") (ascii "READY")
  · rw [hon hr, hon' hr]
  · by_cases ho : Has ts (ascii "RADIO") (ascii "FAILED") ∨
        Has ts (ascii "RADIO") (ascii "UNINITIALIZED")
    · rw [hoff ho, hoff' ho]
    · have hnone := not_or.mp ho
      rw [hkeep ⟨hr, hnone⟩, hkeep' ⟨hr, hnone⟩]

/-! ## The line -/

/-- A STATUS line is no event line. -/
theorem handle_line_status (state : bridge_conf_state_t) (ts : List status_token) :
    bridge_conf_handle_line state (status_line ts) =
      { state with
        have_status := true
        radio_ready :=
          if (strstr (ascii "RADIO=READY") (status_line ts)).isSome then true
          else if (strstr (ascii "RADIO=FAILED") (status_line ts)).isSome ∨
              (strstr (ascii "RADIO=UNINITIALIZED") (status_line ts)).isSome then false
          else state.radio_ready
        tx_busy := (bridge_status_flag_token (status_line ts) (ascii "TX=")).getD state.tx_busy
        cad_busy := (bridge_status_flag_token (status_line ts) (ascii "CAD=")).getD state.cad_busy
        txresult_known :=
          (bridge_status_flag_token (status_line ts) (ascii "TXRESULT=")).isSome
            || state.txresult_known
        txresult_enabled :=
          (bridge_status_flag_token (status_line ts) (ascii "TXRESULT=")).getD
            state.txresult_enabled } := by
  rfl

section Line

variable {ts : List status_token}

/-- Whatever the flags were before, the line is read as its tokens say exactly
when no token on it passes for another one. -/
theorem tokensRead_iff (hkeys : (ts.map (·.key)).Nodup) :
    (∀ state, TokensRead ts state (bridge_conf_handle_line state (status_line ts))) ↔
      NoDecoys ts := by
  constructor
  · intro h
    refine ⟨?_, ?_, ?_, ?_⟩
    · apply (flagRead_iff_harmless _ hkeys (by decide) (by decide) (by decide)).mp
      exact fun old => (h { bridge_conf_state_init with tx_busy := old }).tx
    · apply (flagRead_iff_harmless _ hkeys (by decide) (by decide) (by decide)).mp
      exact fun old => (h { bridge_conf_state_init with cad_busy := old }).cad
    · apply (flagRead_iff_harmless _ hkeys (by decide) (by decide) (by decide)).mp
      exact fun old => (h { bridge_conf_state_init with txresult_enabled := old }).txresult
    · apply (radio_iff_harmless hkeys).mp
      exact fun old => (h { bridge_conf_state_init with radio_ready := old }).radio
  · rintro ⟨htx, hcad, hresult, hradio⟩ state
    constructor
    · exact (flagRead_iff_harmless _ hkeys (by decide) (by decide) (by decide)).mpr htx _
    · exact (flagRead_iff_harmless _ hkeys (by decide) (by decide) (by decide)).mpr hcad _
    · exact (flagRead_iff_harmless _ hkeys (by decide) (by decide) (by decide)).mpr hresult _
    · have hflag := (flag_iff_harmless _ hkeys (by decide) (by decide) (by decide)).mpr hresult
      rw [handle_line_status, Bool.or_eq_true, or_comm]
      apply or_congr_right
      rw [Option.isSome_iff_exists]
      exact exists_congr hflag
    · exact (radio_iff_harmless hkeys).mpr hradio _

/-- Other tokens and the order of the tokens do not matter on such lines. -/
theorem handle_line_congr {ts' : List status_token} (hkeys : (ts.map (·.key)).Nodup)
    (hkeys' : (ts'.map (·.key)).Nodup) (h : NoDecoys ts) (h' : NoDecoys ts')
    (hsame : ∀ key ∈ [ascii "TX", ascii "CAD", ascii "TXRESULT", ascii "RADIO"], ∀ value,
      Has ts key value ↔ Has ts' key value) (state : bridge_conf_state_t) :
    bridge_conf_handle_line state (status_line ts)
      = bridge_conf_handle_line state (status_line ts') := by
  have htx := flag_congr (ascii "TX") hkeys hkeys' (by decide) (by decide) (by decide)
    h.1 h'.1 (hsame _ (by decide))
  have hcad := flag_congr (ascii "CAD") hkeys hkeys' (by decide) (by decide) (by decide)
    h.2.1 h'.2.1 (hsame _ (by decide))
  have hresult := flag_congr (ascii "TXRESULT") hkeys hkeys' (by decide) (by decide) (by decide)
    h.2.2.1 h'.2.2.1 (hsame _ (by decide))
  have hradio := ((radio_iff_harmless hkeys).mpr h.2.2.2 state.radio_ready).congr
    ((radio_iff_harmless hkeys').mpr h'.2.2.2 state.radio_ready) (hsame _ (by decide))
  rw [handle_line_status, handle_line_status, hradio]
  change bridge_status_flag_token (status_line ts) (ascii "TX=") = _ at htx
  change bridge_status_flag_token (status_line ts) (ascii "CAD=") = _ at hcad
  change bridge_status_flag_token (status_line ts) (ascii "TXRESULT=") = _ at hresult
  rw [htx, hcad, hresult]
  rfl

end Line

/-- **When the flags are those of the tokens.** A STATUS line with distinct keys
is read as its tokens say, whatever the flags were before, exactly when no token
on it passes for another one; and lines of that kind with the same tokens of the
four keys are read alike, whatever else is on them and in whatever order. -/
theorem status_flags_iff (ts : List status_token) (hkeys : (ts.map (·.key)).Nodup) :
    ((∀ state, TokensRead ts state (bridge_conf_handle_line state (status_line ts))) ↔
      NoDecoys ts) ∧
    ∀ ts' : List status_token, (ts'.map (·.key)).Nodup → NoDecoys ts → NoDecoys ts' →
      (∀ key ∈ [ascii "TX", ascii "CAD", ascii "TXRESULT", ascii "RADIO"], ∀ value,
        Has ts key value ↔ Has ts' key value) →
      ∀ state, bridge_conf_handle_line state (status_line ts)
        = bridge_conf_handle_line state (status_line ts') := by
  constructor
  · exact tokensRead_iff hkeys
  · intro ts' hkeys' h h' hsame state
    exact handle_line_congr hkeys hkeys' h h' hsame state

/-! ## Lines -/

/-- `RADIO=READY TX=0 CAD=0`. -/
def plain_tokens : List status_token :=
  [⟨ascii "RADIO", ascii "READY", by decide, by decide, by decide⟩,
    ⟨ascii "TX", ascii "0", by decide, by decide, by decide⟩,
    ⟨ascii "CAD", ascii "0", by decide, by decide, by decide⟩]

/-- `LASTTX=1 TX=0`: a daemon that also reports its last transmission. -/
def lasttx_tokens : List status_token :=
  [⟨ascii "LASTTX", ascii "1", by decide, by decide, by decide⟩,
    ⟨ascii "TX", ascii "0", by decide, by decide, by decide⟩]

theorem status_flags_plain_line :
    (plain_tokens.map (·.key)).Nodup ∧ NoDecoys plain_tokens := by
  refine ⟨by decide, (status_flags_iff plain_tokens (by decide)).1.mp fun state => ?_⟩
  have htx : bridge_status_flag_token (status_line plain_tokens) (ascii "TX=") = some false := by
    decide
  have hcad : bridge_status_flag_token (status_line plain_tokens) (ascii "CAD=") = some false := by
    decide
  have hresult : bridge_status_flag_token (status_line plain_tokens) (ascii "TXRESULT=") = none := by
    decide
  rw [handle_line_status, htx, hcad, hresult]
  constructor
  · exact (flagRead_iff (some false)).mpr (by unfold Has; decide) _
  · exact (flagRead_iff (some false)).mpr (by unfold Has; decide) _
  · exact (flagRead_iff none).mpr (by unfold Has; decide) _
  · have hnone : ¬ ∃ b, Has plain_tokens (ascii "TXRESULT") [digit b] := by
      unfold Has
      decide
    simp [hnone]
  · have hready : Has plain_tokens (ascii "RADIO") (ascii "READY") := by
      unfold Has
      decide
    refine ⟨fun _ => rfl, ?_, fun h => absurd hready h.1⟩
    rintro (h | h)
    · exact absurd (hready.unique (by decide) h) (by decide)
    · exact absurd (hready.unique (by decide) h) (by decide)

/-- On `STATUS LASTTX=1 TX=0` an idle radio is read as transmitting. -/
theorem status_flag_of_other_key :
    (lasttx_tokens.map (·.key)).Nodup ∧
      status_line lasttx_tokens = ascii "STATUS LASTTX=1 TX=0" ∧
      ¬ ∀ state, TokensRead lasttx_tokens state
        (bridge_conf_handle_line state (status_line lasttx_tokens)) := by
  refine ⟨by decide, by decide, fun h => ?_⟩
  have hread := (h bridge_conf_state_init).tx.1 false
    ⟨⟨ascii "TX", ascii "0", by decide, by decide, by decide⟩, by decide, rfl, rfl⟩
  revert hread
  decide

end LorahamKissTnc.ConfStatus
