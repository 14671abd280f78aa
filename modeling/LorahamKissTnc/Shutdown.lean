/-
The end of a run.

The stop request is only looked at at the head of an iteration and in the pauses
of a transmission, so a request that arrives elsewhere finds the loop somewhere
in the middle. What is left of the iteration then is `steps_left`, and every step
takes it down: six steps after the request the loop is over. What is proved
about these last steps is what they do not do: no packet is handed to the daemon
and none leaves the queue. Behind the loop every descriptor is closed, and
nothing happens any more.

The clause with content is the one about the packets: between the request and the
end the loop may still accept a client, queue its packets and reconnect, but the
only place that transmits is behind the look at the request.
-/
import LorahamKissTnc.Connections
import LorahamKissTnc.Lib.Progress

set_option autoImplicit false

open LorahamKissTnc.Lib.CString LorahamKissTnc.Lib.Channel LorahamKissTnc.Lib.Machine
open LorahamKissTnc.Lib.Progress LorahamKissTnc.Config LorahamKissTnc.BridgeConf
open LorahamKissTnc.BridgeKiss LorahamKissTnc.BridgeLoraham LorahamKissTnc.Bridge
open LorahamKissTnc.TxOnce LorahamKissTnc.Connections

namespace LorahamKissTnc.Shutdown

variable {cfg : lhkt_config_t}

/-! ## What is left of the loop -/

/-- The steps until the loop is over, once it is asked to stop. -/
def steps_left : bridge_pc → Nat
  | .select => 6
  | .accept => 5
  | .client => 4
  | .conf => 3
  | .data => 2
  | .top => 1
  | .done => 0

theorem steps_left_le (pc : bridge_pc) : steps_left pc ≤ 6 := by
  cases pc <;> simp [steps_left]

/-- The request stays. -/
theorem bridge_step_stop (s : bridge_t) (e : bridge_env) (h : s.stop = true) :
    (bridge_step cfg s e).stop = true := by
  have hdata : ∀ s : bridge_t, s.stop = true → (drop_data s).stop = true := by
    intro s hs
    unfold drop_data bridge_loraham_disconnect_data_socket
    dsimp only
    split <;> exact hs
  have hconf : ∀ s : bridge_t, s.stop = true → (drop_conf s).stop = true := by
    intro s hs
    unfold drop_conf bridge_loraham_disconnect_conf_socket
    dsimp only
    split <;> exact hs
  have hexit : ∀ s : bridge_t, s.stop = true → (bridge_exit s).stop = true := by
    intro s hs
    unfold bridge_exit
    dsimp only
    split <;> exact hs
  have hbytes : ∀ (buf : Bytes) (i : Nat) (s : bridge_t), s.stop = true →
      (handle_client_bytes cfg e.now i buf s).stop = true := by
    intro buf
    induction buf with
    | nil => exact fun _ _ hs => hs
    | cons b buf ih =>
        intro i s hs
        refine ih (i + 1) _ ?_
        unfold handle_client_byte
        split
        · dsimp only
          split
          · exact hdata _ hs
          · split
            · exact hconf _ hs
            · exact hs
        · exact hs
        · exact hs
  unfold bridge_step
  split
  · rw [bridge_top_stopping (by rw [h]; rfl)]
    exact hexit _ rfl
  · unfold bridge_select
    split
    · exact hexit s h
    · exact h
    · refine bridge_timeout_elim (P := fun s => s.stop = true) cfg e s h (fun _ => h)
        (fun _ _ _ => h) (fun _ _ _ => ?_)
      unfold pending_config
      dsimp only
      split <;> exact h
    · exact h
  · unfold bridge_accept
    split
    · split
      · exact h
      · -- the pause behind a failed accept looks at the request too
        show ((bridge_runtime_sleep_ms 100 e.signal s.toio_t).1).stop = true
        unfold bridge_runtime_sleep_ms
        simp [h]
      · split
        · exact h
        · split <;> exact h
    · exact h
  · unfold bridge_client
    split
    · split
      · exact h
      · exact h
      · exact h
      · exact hbytes _ 0 s h
    · exact h
  · unfold bridge_conf
    split
    · dsimp only
      split
      · exact hconf _ h
      · exact h
    · exact h
  · unfold bridge_data
    split
    · split
      · exact h
      · exact hdata s h
      · exact hdata s h
      · show (handle_chunk_result _ _).stop = true
        unfold handle_chunk_result
        split
        · exact h
        · split
          · exact hdata _ h
          · exact h
    · exact h
  · exact h

/-- Every part of the loop goes on to a later one, and the head of the loop obeys
the request. -/
theorem bridge_step_left (s : bridge_t) (e : bridge_env) (h : s.stop = true) :
    steps_left (bridge_step cfg s e).pc ≤ steps_left s.pc - 1 := by
  unfold bridge_step
  split
  · rw [bridge_top_stopping (by rw [h]; rfl)]
    simp [steps_left]
  · rename_i hpc
    rw [hpc]
    unfold bridge_select
    split <;> simp [steps_left]
  · rename_i hpc
    rw [hpc]
    unfold bridge_accept
    split
    · split
      · simp [steps_left]
      · simp [steps_left]
      · split
        · simp [steps_left]
        · split <;> simp [steps_left]
    · simp [steps_left]
  · rename_i hpc
    rw [hpc]
    unfold bridge_client
    split
    · split <;> simp [steps_left]
    · simp [steps_left]
  · rename_i hpc
    rw [hpc]
    unfold bridge_conf
    split
    · dsimp only
      split <;> simp [steps_left]
    · simp [steps_left]
  · rename_i hpc
    rw [hpc]
    unfold bridge_data
    split
    · split <;> simp [steps_left]
    · simp [steps_left]
  · rename_i hpc
    rw [hpc]
    simp [steps_left]

/-! ## What the last steps do not do -/

/-- What was handed to the daemon, and what became of the packets. -/
def outcome (s : bridge_t) : List (Sent UInt8) × List (Bytes × tx_fate) :=
  (tx_history s.data, s.txq.gone)

/-- **A step that is asked to stop transmits nothing** and lets no packet go. -/
theorem bridge_step_outcome (s : bridge_t) (e : bridge_env) (h : s.stop = true)
    (hconn : Connected s) : outcome (bridge_step cfg s e) = outcome s := by
  refine bridge_step_elim (P := fun s' => outcome s' = outcome s) cfg s e rfl ?_ ?_
    (fun _ hs => hs) ?_ ?_ ?_ (fun _ hs _ => hs) ?_ ?_ (fun _ hs _ => hs) ?_ (fun _ hs _ => hs) ?_
  · rintro s _ ⟨_, _, _, _, _, _, _, rfl⟩ hs
    exact hs
  · intro s hs
    rw [← hs]
    unfold outcome
    rw [bridge_exit_data, bridge_exit_txq, tx_history_close_data]
  · intro s hs
    rw [← hs]
    unfold outcome
    rw [tx_history_drop_data]
    rfl
  · intro s hs
    rw [← hs]
    unfold outcome
    rw [drop_conf_data]
    rfl
  · -- the drain is behind the look at the request
    exact fun _ hrun => absurd (h.symm.trans (Bool.or_eq_false_iff.mp hrun).1) (by simp)
  · -- a fresh connection takes the place of one that had no stream left
    intro _ _ _ hfd _
    have hlink := hconn.data hfd
    unfold outcome tx_history
    rw [hlink]
    rfl
  · intro _ _ _ _ _
    unfold pending_config
    dsimp only
    split <;> rfl
  · intro s frame stats now hs
    rw [← hs]
    unfold outcome
    rw [bridge_kiss_handle_frame_gone]
  · intro b buf _ _ _
    unfold handle_chunk_result
    split
    · rfl
    · split
      · unfold outcome
        rw [tx_history_drop_data]
        rfl
      · rfl

/-! ## Behind the loop -/

/-- The loop is left through the exit only. -/
theorem bridge_step_done (s : bridge_t) (e : bridge_env) (h : s.pc = .done → Closed s)
    (hdone : (bridge_step cfg s e).pc = .done) : Closed (bridge_step cfg s e) := by
  unfold bridge_step at hdone ⊢
  split
  · rename_i hpc
    rw [hpc] at hdone
    dsimp only at hdone
    by_cases hstop : (s.stop || e.signal) = true
    · rw [bridge_top_stopping hstop]
      exact closed_bridge_exit _
    · -- without a stop request only a connection that does not fit into `fd_set` leaves the loop
      rw [bridge_top_running (by simpa using hstop)] at hdone ⊢
      split
      · exact closed_bridge_exit _
      · rename_i hfit
        rw [if_neg hfit] at hdone
        exact nomatch hdone
  · rename_i hpc
    rw [hpc] at hdone
    dsimp only at hdone
    -- a `select` that fails leaves the loop; no other answer does
    unfold bridge_select at hdone ⊢
    split
    · exact closed_bridge_exit _
    all_goals
      rename_i hselect
      rw [hselect] at hdone
      exact nomatch hdone
  · rename_i hpc
    rw [hpc] at hdone
    have hne : (bridge_accept cfg e s).pc ≠ .done := by
      unfold bridge_accept
      split
      · split
        · simp
        · simp
        · split
          · simp
          · split <;> simp
      · simp
    exact absurd hdone hne
  · rename_i hpc
    rw [hpc] at hdone
    have hne : (bridge_client cfg e s).pc ≠ .done := by
      unfold bridge_client
      split
      · split <;> simp
      · simp
    exact absurd hdone hne
  · rename_i hpc
    rw [hpc] at hdone
    have hne : (bridge_conf e s).pc ≠ .done := by
      unfold bridge_conf
      split
      · dsimp only
        split <;> simp
      · simp
    exact absurd hdone hne
  · rename_i hpc
    rw [hpc] at hdone
    have hne : (bridge_data e s).pc ≠ .done := by
      unfold bridge_data
      split
      · split <;> simp
      · simp
    exact absurd hdone hne
  · rename_i hpc
    exact h hpc

/-- **Behind the loop every descriptor is closed**, in every run. -/
theorem bridge_run_done (cfg : lhkt_config_t) (e : start_env) (es : List bridge_env)
    (hdone : (bridge_run cfg e es).pc = .done) : Closed (bridge_run cfg e es) := by
  refine run_invariant (P := fun s => s.pc = .done → Closed s)
    (fun s e hs => bridge_step_done s e hs) es _ ?_ hdone
  intro hstart
  unfold bridge_start at hstart ⊢
  dsimp only at hstart ⊢
  split
  · exact closed_bridge_exit _
  · rename_i hlisten
    rw [if_neg hlisten] at hstart
    exact nomatch hstart

/-- **Shutdown.** From the moment the loop has seen the stop request, wherever it
is: no packet is handed to the daemon and none leaves the queue, in six steps the
loop is over, then every descriptor is closed, and nothing changes any more. -/
theorem stop_ends_the_run (cfg : lhkt_config_t) (e : start_env) (es fs : List bridge_env)
    (hstop : (bridge_run cfg e es).stop = true) :
    tx_history (bridge_run cfg e (es ++ fs)).data = tx_history (bridge_run cfg e es).data ∧
    (bridge_run cfg e (es ++ fs)).txq.gone = (bridge_run cfg e es).txq.gone ∧
    (6 ≤ fs.length → (bridge_run cfg e (es ++ fs)).pc = .done ∧
      Closed (bridge_run cfg e (es ++ fs)) ∧
      ∀ gs, bridge_run cfg e (es ++ fs ++ gs) = bridge_run cfg e (es ++ fs)) := by
  have hsplit : ∀ es fs, bridge_run cfg e (es ++ fs)
      = run (bridge_step cfg) (bridge_run cfg e es) fs := fun es fs => run_append _ _ es fs
  obtain ⟨_, hsame⟩ := run_unchanged (P := fun s => s.stop = true ∧ Connected s) outcome
    (fun s e hs => ⟨⟨bridge_step_stop s e hs.1, bridge_step_connected cfg s e hs.2⟩,
      bridge_step_outcome s e hs.1 hs.2⟩) fs ⟨hstop, bridge_run_connected cfg e es⟩
  rw [← hsplit] at hsame
  obtain ⟨hhistory, hgone⟩ := Prod.mk.inj hsame
  refine ⟨hhistory, hgone, fun hlen => ?_⟩
  -- the steps that are left bound the rest of the run
  have hadvances : Advances (bridge_step cfg) (fun _ _ => True) (fun s => s.stop = true)
      (fun s => steps_left s.pc) :=
    ⟨fun s e hs _ => bridge_step_stop s e hs, fun s e hs _ => bridge_step_left s e hs⟩
  have hpc := (hadvances.finished fs hstop (guarded_of_forall fs (fun _ _ => trivial) _)
    (Nat.le_trans (steps_left_le _) hlen)).2
  rw [← hsplit] at hpc
  have hdone : (bridge_run cfg e (es ++ fs)).pc = .done := by
    generalize (bridge_run cfg e (es ++ fs)).pc = pc at hpc
    cases pc <;> simp [steps_left] at hpc
    rfl
  refine ⟨hdone, bridge_run_done cfg e (es ++ fs) hdone, fun gs => ?_⟩
  rw [hsplit]
  apply run_absorbing
  intro e'
  rw [bridge_step, hdone]

/-- A packet waits in the queue for a STATUS line, which comes with the drain behind a
failed accept. It would be sent then; with a stop request in the pause it stays where
it is. -/
theorem stop_ends_the_run_in_accept :
    let leaves : bridge_env := { select := .ready { client := true }, client := .read [] }
    let es (signal : Bool) : List bridge_env := iteration client_connects ++
      iteration (packet_arrives (ascii "x") []) ++ List.replicate 4 leaves ++
      [({} : bridge_env), { select := .ready { listen := true } },
        { accept := .fail, signal := signal }]
    let drains : bridge_env :=
      { drain := { rounds := fun _ => { read := { chunks := [status_ready ++ ascii "\n"] } } } }
    let s := bridge_run lhkt_config_defaults {} (es true ++ iteration drains)
    (bridge_run lhkt_config_defaults {} (es false ++ iteration drains)).txq.gone.length = 1 ∧
      s.txq.queue.count = 1 ∧
      tx_history s.data = tx_history (bridge_run lhkt_config_defaults {} (es true)).data ∧
      s.txq.gone = (bridge_run lhkt_config_defaults {} (es true)).txq.gone ∧ Closed s := by
  intro leaves es drains s
  have hend := stop_ends_the_run lhkt_config_defaults {} (es true) (iteration drains)
    (by decide +kernel)
  exact ⟨by decide +kernel, by decide +kernel, hend.1, hend.2.1, (hend.2.2 (by decide)).2.1⟩

end LorahamKissTnc.Shutdown
