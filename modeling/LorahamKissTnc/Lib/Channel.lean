/-
Write histories of a byte channel, and what it means for them to stay framed.

A writer hands whole units (frames, lines) to a transport that may take only
part of one before it fails. The history keeps every unit with the number of
bytes the transport took. Two predicates matter: `Clean`, every unit so far went
out whole, and `Intact`, every unit but possibly the last one did. A reader of
an intact channel sees whole units followed by at most one truncated one
(`FramedBy`), which is what `Intact.framedBy` states.

What counts as whole is a parameter `P`, because two notions are in use: a unit
that was taken completely, and a unit of which either everything or nothing was
taken.
-/
import Mathlib.Data.List.Basic

set_option autoImplicit false

namespace LorahamKissTnc.Lib.Channel

variable {α : Type*}

/-- One unit handed to the transport: its bytes, how many of them were taken,
and whether the writer was told that the write succeeded. -/
structure Sent (α : Type*) where
  buf : List α
  taken : Nat
  ok : Bool
  deriving DecidableEq, Repr

/-- The bytes of the unit that really went out. -/
def Sent.bytes (s : Sent α) : List α := s.buf.take s.taken

/-- The whole unit went out. -/
def Sent.Complete (s : Sent α) : Prop := s.taken = s.buf.length

/-- Nothing of the unit went out, or all of it did. -/
def Sent.Whole (s : Sent α) : Prop := s.taken = 0 ∨ s.Complete

instance (s : Sent α) : Decidable s.Complete := inferInstanceAs (Decidable (_ = _))

instance (s : Sent α) : Decidable s.Whole := inferInstanceAs (Decidable (_ ∨ _))

/-- Everything that went out over the channel. -/
def bytes (h : List (Sent α)) : List α := h.flatMap Sent.bytes

/-- Every unit satisfies `P`. -/
def Clean (P : Sent α → Prop) (h : List (Sent α)) : Prop := ∀ s ∈ h, P s

/-- Every unit but possibly the last one satisfies `P`. -/
def Intact (P : Sent α → Prop) (h : List (Sent α)) : Prop := ∀ s ∈ h.dropLast, P s

instance {P : Sent α → Prop} [DecidablePred P] (h : List (Sent α)) : Decidable (Clean P h) :=
  inferInstanceAs (Decidable (∀ s ∈ h, P s))

instance {P : Sent α → Prop} [DecidablePred P] (h : List (Sent α)) : Decidable (Intact P h) :=
  inferInstanceAs (Decidable (∀ s ∈ h.dropLast, P s))

/-- The units of which something went out. -/
def taking (h : List (Sent α)) : List (Sent α) := h.filter fun s => s.taken ≠ 0

/-- The bytes are whole units, then at most one proper prefix of a unit. -/
def FramedBy (U : List α → Prop) (bs : List α) : Prop :=
  ∃ (units : List (List α)) (tail : List α), bs = units.flatten ++ tail ∧ (∀ u ∈ units, U u) ∧
    (tail = [] ∨ ∃ u, U u ∧ tail <+: u ∧ tail.length < u.length)

/-- The history `k` goes on from `h` with units `U`, all of which satisfy `P`;
only when `cut` holds may the last one not. This is what one writer guarantees,
with `cut` the result it returns after a failure. -/
def Appends (P U : Sent α → Prop) (cut : Prop) (h k : List (Sent α)) : Prop :=
  ∃ sent, k = h ++ sent ∧ (∀ s ∈ sent, U s) ∧ (Clean P sent ∨ (cut ∧ Intact P sent))

variable {P Q U : Sent α → Prop} {cut cut' : Prop}

theorem clean_nil : Clean P ([] : List (Sent α)) := by
  intro s hs
  exact absurd hs List.not_mem_nil

theorem clean_append {h k : List (Sent α)} : Clean P (h ++ k) ↔ Clean P h ∧ Clean P k := by
  simp only [Clean, List.mem_append]
  constructor
  · exact fun H => ⟨fun s hs => H s (.inl hs), fun s hs => H s (.inr hs)⟩
  · rintro ⟨hh, hk⟩ s (hs | hs)
    · exact hh s hs
    · exact hk s hs

theorem clean_singleton {s : Sent α} : Clean P [s] ↔ P s := by
  simp only [Clean, List.mem_singleton, forall_eq]

/-- A clean stream is intact. -/
theorem Clean.intact {h : List (Sent α)} (hc : Clean P h) : Intact P h :=
  fun s hs => hc s (List.dropLast_subset h hs)

/-- One more write on a clean channel leaves it intact, whatever the transport
took of it. -/
theorem Clean.intact_append {h : List (Sent α)} (hc : Clean P h) (s : Sent α) :
    Intact P (h ++ [s]) := by
  intro t ht
  rw [List.dropLast_concat] at ht
  exact hc t ht

theorem Intact.mono {h : List (Sent α)} (hi : Intact P h) (hPQ : ∀ s, P s → Q s) : Intact Q h :=
  fun s hs => hPQ s (hi s hs)

/-- A clean channel that goes on as an intact one is intact. -/
theorem Clean.append_intact {h k : List (Sent α)} (hc : Clean P h) (hi : Intact P k) :
    Intact P (h ++ k) := by
  intro s hs
  rcases List.eq_nil_or_concat k with rfl | ⟨init, last, rfl⟩
  · rw [List.append_nil] at hs
    exact hc s (List.dropLast_subset h hs)
  · rw [List.concat_eq_append, ← List.append_assoc, List.dropLast_concat] at hs
    rw [List.concat_eq_append] at hi
    rcases List.mem_append.mp hs with hs | hs
    · exact hc s hs
    · exact hi s (by rwa [List.dropLast_concat])

/-- Nothing was written. -/
theorem appends_refl (h : List (Sent α)) : Appends P U cut h h :=
  ⟨[], (List.append_nil h).symm, by simp, .inl clean_nil⟩

/-- One unit was written. -/
theorem appends_one (h : List (Sent α)) {s : Sent α} (hU : U s) (hs : P s ∨ cut) :
    Appends P U cut h (h ++ [s]) := by
  refine ⟨[s], rfl, ?_, ?_⟩
  · intro t ht
    rw [List.mem_singleton.mp ht]
    exact hU
  · rcases hs with hs | hcut
    · exact .inl (clean_singleton.mpr hs)
    · exact .inr ⟨hcut, fun t ht => absurd ht List.not_mem_nil⟩

theorem Appends.mono {h k : List (Sent α)} (hk : Appends P U cut h k) (hcut : cut → cut') :
    Appends P U cut' h k := by
  obtain ⟨sent, happ, hU, hsent⟩ := hk
  exact ⟨sent, happ, hU, hsent.imp_right fun h => ⟨hcut h.1, h.2⟩⟩

/-- Two writers after each other, the first of which did not fail. -/
theorem Appends.trans {h k l : List (Sent α)} (hk : Appends P U False h k)
    (hl : Appends P U cut k l) : Appends P U cut h l := by
  obtain ⟨sent, rfl, hU, hsent⟩ := hk
  obtain ⟨sent', rfl, hU', hsent'⟩ := hl
  have hclean : Clean P sent := hsent.resolve_right fun h => h.1
  refine ⟨sent ++ sent', List.append_assoc h sent sent', ?_, ?_⟩
  · intro s hs
    rcases List.mem_append.mp hs with hs | hs
    · exact hU s hs
    · exact hU' s hs
  · rcases hsent' with hsent' | ⟨hcut, hintact⟩
    · exact .inl (clean_append.mpr ⟨hclean, hsent'⟩)
    · exact .inr ⟨hcut, hclean.append_intact hintact⟩

/-- Appended units are units, like those in front. -/
theorem Appends.units {h k : List (Sent α)} (hk : Appends P U cut h k) (hU : ∀ s ∈ h, U s) :
    ∀ s ∈ k, U s := by
  obtain ⟨sent, rfl, hsent, _⟩ := hk
  intro s hs
  rcases List.mem_append.mp hs with hs | hs
  · exact hU s hs
  · exact hsent s hs

/-- Nothing is cut: the stream stays clean. -/
theorem Appends.clean {h k : List (Sent α)} (hk : Appends P U cut h k) (hcut : ¬ cut)
    (hc : Clean P h) : Clean P k := by
  obtain ⟨sent, rfl, _, hsent⟩ := hk
  exact clean_append.mpr ⟨hc, hsent.resolve_right fun h => hcut h.1⟩

/-- Behind a clean stream one cut unit is allowed. -/
theorem Appends.intact {h k : List (Sent α)} (hk : Appends P U cut h k) (hc : Clean P h) :
    Intact P k := by
  obtain ⟨sent, rfl, _, hsent⟩ := hk
  rcases hsent with hsent | ⟨_, hsent⟩
  · exact hc.append_intact hsent.intact
  · exact hc.append_intact hsent

/-- A unit taken as a whole is not truncated. -/
theorem Sent.Complete.whole {s : Sent α} (h : s.Complete) : s.Whole := .inr h

/-- Whole units contribute exactly the units that were taken. -/
theorem bytes_of_clean {h : List (Sent α)} (hc : Clean Sent.Whole h) :
    bytes h = ((h.filter (fun s => s.taken ≠ 0)).map Sent.buf).flatten := by
  induction h with
  | nil => rfl
  | cons s h ih =>
      have hs : s.Whole := hc s List.mem_cons_self
      have hrest := ih fun t ht => hc t (List.mem_cons_of_mem s ht)
      rw [bytes, List.flatMap_cons]
      rw [bytes] at hrest
      by_cases h0 : s.taken = 0
      · rw [List.filter_cons_of_neg (by simp [h0]), ← hrest, Sent.bytes, h0, List.take_zero,
          List.nil_append]
      · have hfull : s.taken = s.buf.length := hs.resolve_left h0
        rw [List.filter_cons_of_pos (by simp [h0]), List.map_cons, List.flatten_cons, ← hrest,
          Sent.bytes, hfull, List.take_length]

theorem taking_append (h k : List (Sent α)) : taking (h ++ k) = taking h ++ taking k :=
  List.filter_append h k

/-- A unit of which something was taken was written. -/
theorem mem_of_taking {h : List (Sent α)} {s : Sent α} (hs : s ∈ taking h) : s ∈ h :=
  (List.mem_filter.mp hs).1

/-- Units of which nothing went out do not matter. -/
theorem taking_silent {h : List (Sent α)} (hs : ∀ s ∈ h, s.taken = 0) : taking h = [] :=
  List.filter_eq_nil_iff.mpr fun s hmem => by simp [hs s hmem]

/-- A unit of which nothing was taken truncates nothing. -/
theorem clean_taking {h : List (Sent α)} : Clean Sent.Whole (taking h) ↔ Clean Sent.Whole h := by
  refine ⟨fun hc s hs => ?_, fun hc s hs => hc s (mem_of_taking hs)⟩
  by_cases h0 : s.taken = 0
  · exact .inl h0
  · exact hc s (List.mem_filter.mpr ⟨hs, by simpa using h0⟩)

/-- A unit of which nothing was taken has no bytes on the stream. -/
theorem bytes_taking (h : List (Sent α)) : bytes (taking h) = bytes h := by
  induction h with
  | nil => rfl
  | cons s h ih =>
      unfold bytes taking at ih ⊢
      by_cases h0 : s.taken = 0
      · rw [List.filter_cons_of_neg (by simp [h0]), ih, List.flatMap_cons, Sent.bytes, h0,
          List.take_zero, List.nil_append]
      · rw [List.filter_cons_of_pos (by simp [h0]), List.flatMap_cons, ih, List.flatMap_cons]

/-- Of a single unit nothing but itself can be cut. -/
theorem intact_taking_toList (s : Option (Sent α)) : Intact P (taking s.toList) := by
  have hlen : (taking s.toList).length ≤ 1 := by
    refine Nat.le_trans (List.length_filter_le _ _) ?_
    cases s with
    | none => exact Nat.zero_le 1
    | some t => exact Nat.le_refl 1
  intro t ht
  have hnil : (taking s.toList).dropLast = [] := by
    rw [← List.length_eq_zero_iff, List.length_dropLast]
    omega
  rw [hnil] at ht
  exact absurd ht List.not_mem_nil

/-- What a reader of an intact channel sees. -/
theorem Intact.framedBy {U : List α → Prop} {h : List (Sent α)} (hi : Intact Sent.Whole h)
    (hU : ∀ s ∈ h, U s.buf) : FramedBy U (bytes h) := by
  rcases List.eq_nil_or_concat h with rfl | ⟨init, last, rfl⟩
  · exact ⟨[], [], rfl, by simp, .inl rfl⟩
  · have hinit : Clean Sent.Whole init := by
      intro s hs
      apply hi
      rwa [List.concat_eq_append, List.dropLast_concat]
    have hunits : ∀ u ∈ (init.filter (fun s => s.taken ≠ 0)).map Sent.buf, U u := by
      intro u hu
      obtain ⟨s, hs, rfl⟩ := List.mem_map.mp hu
      have hs' : s ∈ init := (List.mem_filter.mp hs).1
      exact hU s (by simp [hs'])
    have hbytes : bytes (init.concat last)
        = ((init.filter (fun s => s.taken ≠ 0)).map Sent.buf).flatten ++ last.bytes := by
      rw [← bytes_of_clean hinit, bytes, List.concat_eq_append, List.flatMap_append, bytes,
        List.flatMap_singleton]
    have hlast : U last.buf := hU last (by simp)
    by_cases hshort : last.taken < last.buf.length
    · -- the last unit was cut short: it is the truncated tail
      refine ⟨_, last.bytes, hbytes, hunits, .inr ⟨last.buf, hlast, List.take_prefix _ _, ?_⟩⟩
      rw [Sent.bytes, List.length_take]
      omega
    · refine ⟨(init.filter (fun s => s.taken ≠ 0)).map Sent.buf ++ [last.buf], [], ?_, ?_, .inl rfl⟩
      · rw [hbytes, List.flatten_append, List.flatten_singleton, List.append_nil, Sent.bytes,
          List.take_of_length_le (by omega)]
      · intro u hu
        rcases List.mem_append.mp hu with hu | hu
        · exact hunits u hu
        · rw [List.mem_singleton.mp hu]; exact hlast

end LorahamKissTnc.Lib.Channel
