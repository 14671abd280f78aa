/-
A server for one client at a time, which reads a stream from each.

`serve` is the abstract server: a client comes when nobody is there and the server
admits it, is heard, and leaves; anything else is refused. What the server knows of
a client begins empty, so a decoder that starts afresh with every client is a
function of the current visit (`hearing`), and what it made of all clients is the
concatenation over the visits (`output`). Each action has one lemma for either.
-/
import LorahamKissTnc.Lib.Simulation

set_option autoImplicit false

open LorahamKissTnc.Lib.Machine

namespace LorahamKissTnc.Lib.Server

variable {α β γ : Type*}

/-! ## The server -/

/-- Who came, and what was heard from it. -/
structure visit (α β : Type*) where
  peer : α
  heard : List β := []
  deriving DecidableEq

/-- The visits that are over, and the one that is not. -/
structure server (α β : Type*) where
  past : List (visit α β) := []
  now : Option (visit α β) := none
  deriving DecidableEq

/-- What can happen to a server. -/
inductive action (α β : Type*) where
  | come (peer : α)
  | hear (data : List β)
  | leave

/-- One action, if it is possible. -/
def serve (admitted : α → Bool) (v : server α β) : action α β → Option (server α β)
  | .come peer =>
      if v.now.isNone ∧ admitted peer then some { v with now := some { peer := peer } } else none
  | .hear data => v.now.map fun c => { v with now := some { c with heard := c.heard ++ data } }
  | .leave => v.now.map fun c => { past := v.past ++ [c], now := none }

/-- All visits, in order. -/
def server.visits (v : server α β) : List (visit α β) := v.past ++ v.now.toList

/-- What was heard from the client that is there. -/
def server.hearing (v : server α β) : List β :=
  match v.now with
  | some c => c.heard
  | none => []

/-- What a decoder makes of all visits, each from its beginning. -/
def server.output (decode : List β → List γ) (v : server α β) : List γ :=
  v.visits.flatMap fun c => decode c.heard

/-! ## Who is admitted -/

theorem serve_admitted {admitted : α → Bool} {v v' : server α β} {a : action α β}
    (h : serve admitted v a = some v') (hv : ∀ c ∈ v.visits, admitted c.peer = true) :
    ∀ c ∈ v'.visits, admitted c.peer = true := by
  cases a with
  | come peer =>
      rw [serve] at h
      by_cases hcome : v.now.isNone ∧ admitted peer
      · rw [if_pos hcome] at h
        obtain rfl := Option.some.inj h
        intro c hc
        rcases List.mem_append.mp hc with hpast | hnow
        · exact hv c (List.mem_append_left _ hpast)
        · have hnew : c = { peer := peer } := by simpa using hnow
          rw [hnew]
          exact hcome.2
      · rw [if_neg hcome] at h
        exact nomatch h
  | hear data =>
      rw [serve] at h
      obtain ⟨c, hnow, rfl⟩ := Option.map_eq_some_iff.mp h
      have hvisits : v.visits = v.past ++ [c] := by
        rw [server.visits, hnow]
        rfl
      rw [hvisits] at hv
      intro d hd
      rcases List.mem_append.mp hd with hpast | hd
      · exact hv d (List.mem_append_left _ hpast)
      · -- the same client, with more heard from it
        have hsame : d = { c with heard := c.heard ++ data } := by simpa using hd
        rw [hsame]
        exact hv c (List.mem_append_right _ List.mem_cons_self)
  | leave =>
      rw [serve] at h
      obtain ⟨c, hnow, rfl⟩ := Option.map_eq_some_iff.mp h
      intro d hd
      apply hv
      rw [server.visits, hnow]
      simpa [server.visits] using hd

/-- **Only admitted clients are ever served.** -/
theorem served_admitted {admitted : α → Bool} (actions : List (action α β)) :
    ∀ {v v' : server α β}, actions.foldlM (serve admitted) v = some v' →
      (∀ c ∈ v.visits, admitted c.peer = true) → ∀ c ∈ v'.visits, admitted c.peer = true := by
  induction actions with
  | nil =>
      intro v v' h hv
      obtain rfl := Option.some.inj h
      exact hv
  | cons a actions ih =>
      intro v v' h hv
      rw [List.foldlM_cons] at h
      obtain ⟨v₁, hfirst, hrest⟩ := Option.bind_eq_some_iff.mp h
      exact ih hrest (serve_admitted hfirst hv)

/-! ## What the decoder has -/

section Decoder

variable (decode : List β → List γ)

@[simp] theorem output_init : ({} : server α β).output decode = [] := rfl

/-- A client that comes has said nothing yet. -/
theorem output_come (hdecode : decode [] = []) {v : server α β} (hnow : v.now = none) (peer : α) :
    ({ v with now := some { peer := peer } } : server α β).output decode = v.output decode := by
  unfold server.output server.visits
  rw [hnow, Option.toList_some, Option.toList_none, List.append_nil, List.flatMap_append,
    List.flatMap_singleton, hdecode, List.append_nil]

/-- A client that leaves takes nothing back. -/
theorem output_leave {v : server α β} {c : visit α β} (hnow : v.now = some c) :
    ({ past := v.past ++ [c], now := none } : server α β).output decode = v.output decode := by
  unfold server.output server.visits
  rw [hnow, Option.toList_some, Option.toList_none, List.append_nil]

/-- What is heard adds what the decoder makes of it at this point of the visit. -/
theorem output_hear {v : server α β} {c : visit α β} (hnow : v.now = some c) {data : List β}
    {more : List γ} (hmore : decode (c.heard ++ data) = decode c.heard ++ more) :
    ({ v with now := some { c with heard := c.heard ++ data } } : server α β).output decode
      = v.output decode ++ more := by
  unfold server.output server.visits
  rw [hnow, Option.toList_some, Option.toList_some, List.flatMap_append, List.flatMap_append,
    List.flatMap_singleton, List.flatMap_singleton, hmore, List.append_assoc]

end Decoder

end LorahamKissTnc.Lib.Server
