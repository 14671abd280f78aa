/-
Writing into a buffer of fixed size.

A store outside the buffer is a fault (`none`), so a computation that ends
without one has written inside only. What stands in a buffer is described by the
text it starts with: a store right behind that text extends it (`store_extends`),
and so does storing a list of bytes one after the other. `snprintf` is the one
library function that writes here.
-/
import LorahamKissTnc.Lib.CString

set_option autoImplicit false

open LorahamKissTnc.Lib.CString

namespace LorahamKissTnc.Lib.Buffer

variable {α : Type*}

/-! ## Stores -/

/-- `buf[i] = x`. -/
def store (buf : List α) (i : Nat) (x : α) : Option (List α) :=
  if i < buf.length then some (buf.set i x) else none

/-- `buf[i++] = x` for each element in turn. -/
def store_list (buf : List α) (i : Nat) : List α → Option (List α)
  | [] => some buf
  | x :: xs => (store buf i x).bind fun buf => store_list buf (i + 1) xs

theorem store_eq {buf : List α} {i : Nat} (h : i < buf.length) (x : α) :
    store buf i x = some (buf.set i x) := if_pos h

/-- A store right behind the text. -/
theorem store_extends {text buf : List α} (h : text <+: buf) (hlt : text.length < buf.length)
    (x : α) : text ++ [x] <+: buf.set text.length x := by
  obtain ⟨rest, rfl⟩ := h
  cases rest with
  | nil =>
      rw [List.append_nil] at hlt
      exact absurd hlt (Nat.lt_irrefl _)
  | cons y rest =>
      rw [List.set_append_right _ _ (Nat.le_refl _), Nat.sub_self, List.set_cons_zero]
      exact (List.prefix_append_right_inj text).mpr ⟨rest, rfl⟩

/-- A list of stores behind the text. -/
theorem store_list_extends (xs : List α) : ∀ {text buf : List α}, text <+: buf →
    text.length + xs.length ≤ buf.length →
      ∃ buf', store_list buf text.length xs = some buf' ∧ buf'.length = buf.length ∧
        text ++ xs <+: buf' := by
  induction xs with
  | nil =>
      intro text buf h _
      refine ⟨buf, rfl, rfl, ?_⟩
      rwa [List.append_nil]
  | cons x xs ih =>
      intro text buf h hroom
      rw [List.length_cons] at hroom
      have hlt : text.length < buf.length := by omega
      obtain ⟨buf', hstore, hlen, hext⟩ := ih (store_extends h hlt x)
        (by rw [List.length_append, List.length_singleton, List.length_set]; omega)
      rw [List.length_append, List.length_singleton] at hstore
      refine ⟨buf', ?_, ?_, ?_⟩
      · rw [store_list, store_eq hlt, Option.bind_some, hstore]
      · rw [hlen, List.length_set]
      · rwa [List.append_assoc, List.singleton_append] at hext

/-! ## `snprintf` -/

abbrev INT_MAX : Nat := 2 ^ 31 - 1

/-- `snprintf(buf + i, size, "%s", text)`: the text as far as it goes and the
terminator, or nothing when `size` is 0. The result is the length of the whole
text, and negative when that is no `int`. -/
def snprintf (buf : Bytes) (i size : Nat) (text : Bytes) : Option (Bytes × Int) :=
  let n : Int := if INT_MAX < text.length then -1 else text.length
  if size = 0 then some (buf, n)
  else (store_list buf i (text.take (size - 1) ++ [0])).map fun buf => (buf, n)

/-- Behind the text, with the rest of the buffer for `size`: the new text is there
as far as it fits in front of the terminator. -/
theorem snprintf_extends {text buf : Bytes} (h : text <+: buf) (hlt : text.length < buf.length)
    (new : Bytes) :
    ∃ buf', snprintf buf text.length (buf.length - text.length) new
        = some (buf', if INT_MAX < new.length then (-1 : Int) else new.length) ∧
      buf'.length = buf.length ∧ (text ++ new).take (buf.length - 1) <+: buf' := by
  have hroom : text.length + (new.take (buf.length - text.length - 1) ++ [0]).length
      ≤ buf.length := by
    rw [List.length_append, List.length_take, List.length_singleton]
    omega
  obtain ⟨buf', hstore, hlen, hext⟩ := store_list_extends _ h hroom
  refine ⟨buf', ?_, hlen, ?_⟩
  · rw [snprintf, if_neg (by omega), hstore, Option.map_some]
  · have hsize : buf.length - 1 - text.length = buf.length - text.length - 1 := by omega
    rw [List.take_append, List.take_of_length_le (by omega), hsize]
    rw [← List.append_assoc] at hext
    exact (List.prefix_append _ _).trans hext

end LorahamKissTnc.Lib.Buffer
