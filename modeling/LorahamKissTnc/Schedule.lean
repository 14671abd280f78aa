/-
How long the main loop waits in `select`, and when it prints its counters.

`timed_step` is a step of the main loop with the part of the iteration that the
loop's own state does not depend on: the timeout `select` is given, and the
periodic printing. The reasons to wake up are written down apart from the code, with
the time each can wait; a connection that is down comes before the queue and a
pending configuration, which cannot go on without it. The timeout is the earliest of
the reasons that are left (`select_timeout_earliest`), and it is never zero, so the
loop does not spin. The printing is a timer that each iteration looks at; with an iteration
that takes at most `slack` longer than its timeout, two prints are an interval
apart, up to that slack (`stats_cadence`), and each shows the counters of a moment
of the run.
-/
import LorahamKissTnc.Bridge
import LorahamKissTnc.ConfigFile
import LorahamKissTnc.Lib.Timer

set_option autoImplicit false

open LorahamKissTnc.Lib.Machine LorahamKissTnc.Lib.Timer LorahamKissTnc.Lib.CString
open LorahamKissTnc.Config LorahamKissTnc.ConfigFile
open LorahamKissTnc.BridgeTxQueue LorahamKissTnc.Bridge

namespace LorahamKissTnc.Schedule

/-! ## The timeout of `select` -/

/-- `LHKT_RECONNECT_DELAY_SEC`. -/
def LHKT_RECONNECT_DELAY_SEC : Int := 1

/-- `LHKT_QUEUE_POLL_USEC`. -/
def LHKT_QUEUE_POLL_USEC : Int := 100000

/-- `LHKT_IDLE_POLL_SEC`. -/
def LHKT_IDLE_POLL_SEC : Int := 5

/-- `struct timeval`. -/
structure timeval where
  tv_sec : Int := 0
  tv_usec : Int := 0
  deriving DecidableEq, Repr

/-- What `select` accepts. -/
def timeval.Valid (tv : timeval) : Prop := 0 ≤ tv.tv_sec ∧ 0 ≤ tv.tv_usec ∧ tv.tv_usec < 1000000

instance (tv : timeval) : Decidable tv.Valid :=
  inferInstanceAs (Decidable (0 ≤ tv.tv_sec ∧ 0 ≤ tv.tv_usec ∧ tv.tv_usec < 1000000))

/-- A timeout in microseconds. -/
def timeval.usec (tv : timeval) : Int := tv.tv_sec * 1000000 + tv.tv_usec

/-- What the state of the bridge asks for: a reconnect, the queue, a configuration
that is still pending. -/
def poll_timeout (s : bridge_t) : Option timeval :=
  if !s.data.fd || !s.conf.fd then some ⟨LHKT_RECONNECT_DELAY_SEC, 0⟩
  else if !bridge_tx_queue_empty s.txq.queue then some ⟨0, LHKT_QUEUE_POLL_USEC⟩
  else if !s.config_ok then some ⟨LHKT_RECONNECT_DELAY_SEC, 0⟩
  else none

/-- The time to the next print, as `wait_sec` and `wait_usec`. -/
def stats_wait (remaining_ms : Int) : timeval :=
  ⟨remaining_ms.tdiv 1000, remaining_ms.tmod 1000 * 1000⟩

/-- The timeout is clamped to the next print. -/
def clamp_timeout (timeout : Option timeval) (wait : timeval) : timeval :=
  match timeout with
  | none => wait
  | some tv =>
      if tv.tv_sec > wait.tv_sec ∨ (tv.tv_sec = wait.tv_sec ∧ tv.tv_usec > wait.tv_usec) then wait
      else tv

/-! ## The loop with its clock -/

/-- The main loop, `next_stats_ms`, the timeout of the last `select`, and the
counters printed so far with the time of each. `looks` are the readings of the
clock. -/
structure timed_t where
  bridge : bridge_t
  next_stats_ms : Int := 0
  tv : timeval := {}
  prints : List (Int × lhkt_stats_t) := []
  looks : List Int := []

/-- A step's environment, and what `bridge_runtime_now_ms` returns. -/
structure timed_env where
  env : bridge_env := {}
  now_ms : Int := 0

/-- From the descriptor set to `select`. -/
def schedule (cfg : lhkt_config_full_t) (now_ms : Int) (s : timed_t) : timed_t :=
  let timeout := poll_timeout s.bridge
  if cfg.stats_interval > 0 then
    let interval_ms := cfg.stats_interval * 1000
    let next_stats_ms := if s.next_stats_ms = 0 then now_ms + interval_ms else s.next_stats_ms
    let due := now_ms ≥ next_stats_ms
    let next_stats_ms := if due then now_ms + interval_ms else next_stats_ms
    let remaining_ms := if next_stats_ms - now_ms < 0 then 0 else next_stats_ms - now_ms
    { s with
      next_stats_ms := next_stats_ms
      -- `lhkt_stats_print`
      prints := if due then s.prints ++ [(now_ms, s.bridge.rx.stats)] else s.prints
      tv := clamp_timeout timeout (stats_wait remaining_ms)
      looks := s.looks ++ [now_ms] }
  else { s with tv := timeout.getD ⟨LHKT_IDLE_POLL_SEC, 0⟩ }

/-- The step reaches `select`. -/
def Reaches (cfg : lhkt_config_full_t) (s : timed_t) (e : timed_env) : Prop :=
  s.bridge.pc = .top ∧ (bridge_step cfg.tolhkt_config_t s.bridge e.env).pc = .select

instance (cfg : lhkt_config_full_t) (s : timed_t) (e : timed_env) : Decidable (Reaches cfg s e) :=
  inferInstanceAs (Decidable (_ ∧ _))

/-- A step that reaches `select` sets its timeout first. -/
def timed_step (cfg : lhkt_config_full_t) (s : timed_t) (e : timed_env) : timed_t :=
  let bridge := bridge_step cfg.tolhkt_config_t s.bridge e.env
  if Reaches cfg s e then schedule cfg e.now_ms { s with bridge := bridge }
  else { s with bridge := bridge }

/-- From the head of `lhkt_bridge_run` to its loop. -/
def timed_start (cfg : lhkt_config_full_t) (start : start_env) : timed_t :=
  { bridge := bridge_start cfg.tolhkt_config_t start }

/-- The state after a run. -/
def timed_run (cfg : lhkt_config_full_t) (start : start_env) (es : List timed_env) : timed_t :=
  run (timed_step cfg) (timed_start cfg start) es

/-! ## The main loop does not depend on it -/

variable {cfg : lhkt_config_full_t}

@[simp] theorem schedule_bridge (cfg : lhkt_config_full_t) (now_ms : Int) (s : timed_t) :
    (schedule cfg now_ms s).bridge = s.bridge := by
  unfold schedule
  dsimp only
  split <;> rfl

@[simp] theorem timed_step_bridge (cfg : lhkt_config_full_t) (s : timed_t) (e : timed_env) :
    (timed_step cfg s e).bridge = bridge_step cfg.tolhkt_config_t s.bridge e.env := by
  unfold timed_step
  dsimp only
  split
  · rw [schedule_bridge]
  · rfl

/-- The main loop of a timed run is the run of the main loop. -/
theorem timed_run_bridge (cfg : lhkt_config_full_t) (start : start_env) (es : List timed_env) :
    (timed_run cfg start es).bridge
      = bridge_run cfg.tolhkt_config_t start (es.map timed_env.env) := by
  have hrun : ∀ s : timed_t, (run (timed_step cfg) s es).bridge
      = run (bridge_step cfg.tolhkt_config_t) s.bridge (es.map timed_env.env) := by
    induction es with
    | nil => exact fun _ => rfl
    | cons e es ih =>
        intro s
        rw [run_cons, ih, timed_step_bridge]
        rfl
  exact hrun (timed_start cfg start)

/-- The ways through a step: the part behind the drain, or the main loop alone. -/
theorem timed_step_elim {P : timed_t → Prop} (s : timed_t) (e : timed_env)
    (hschedule : Reaches cfg s e → P (schedule cfg e.now_ms
      { s with bridge := bridge_step cfg.tolhkt_config_t s.bridge e.env }))
    (hbridge : ¬Reaches cfg s e →
      P { s with bridge := bridge_step cfg.tolhkt_config_t s.bridge e.env }) :
    P (timed_step cfg s e) := by
  unfold timed_step
  dsimp only
  split
  · rename_i hreaches
    exact hschedule hreaches
  · rename_i helse
    exact hbridge helse

/-! ## Timeouts -/

theorem stats_wait_valid {remaining_ms : Int} (h : 0 ≤ remaining_ms) :
    (stats_wait remaining_ms).Valid := by
  unfold stats_wait timeval.Valid
  dsimp only
  rw [Int.tdiv_eq_ediv_of_nonneg h, Int.tmod_eq_emod_of_nonneg h]
  omega

theorem stats_wait_usec {remaining_ms : Int} (h : 0 ≤ remaining_ms) :
    (stats_wait remaining_ms).usec = remaining_ms * 1000 := by
  unfold stats_wait timeval.usec
  dsimp only
  rw [Int.tdiv_eq_ediv_of_nonneg h, Int.tmod_eq_emod_of_nonneg h]
  omega

theorem poll_timeout_valid {s : bridge_t} {tv : timeval} (h : poll_timeout s = some tv) :
    tv.Valid ∧ 0 < tv.usec := by
  unfold poll_timeout at h
  split at h
  · obtain rfl := Option.some.inj h
    decide
  · split at h
    · obtain rfl := Option.some.inj h
      decide
    · split at h
      · obtain rfl := Option.some.inj h
        decide
      · exact nomatch h

/-- The two comparisons of the clamp are the comparison of the times. -/
theorem clamp_timeout_some {tv wait : timeval} (htv : tv.Valid) (hwait : wait.Valid) :
    (clamp_timeout (some tv) wait).Valid ∧
    (clamp_timeout (some tv) wait).usec = min tv.usec wait.usec := by
  unfold timeval.Valid at htv hwait
  unfold clamp_timeout
  dsimp only
  split
  · rename_i hlater
    refine ⟨hwait, (min_eq_right ?_).symm⟩
    unfold timeval.usec
    omega
  · rename_i hlater
    refine ⟨htv, (min_eq_left ?_).symm⟩
    unfold timeval.usec
    omega

/-- The time to the next print, for a loop that prints. -/
def until_print (cfg : lhkt_config_full_t) (s : timed_t) : Option Int :=
  if cfg.stats_interval > 0 then s.looks.getLast?.map (s.next_stats_ms - ·) else none

/-- The reasons to wake up that are in the state of the bridge. -/
inductive reason where
  | connection_down
  | packet_queued
  | config_pending
  deriving DecidableEq, Repr

/-- How long the reason can wait, in microseconds. -/
def reason.usec : reason → Int
  | .connection_down => 1000000
  | .packet_queued => 100000
  | .config_pending => 1000000

/-- The reason is there. -/
def Stands (s : bridge_t) : reason → Prop
  | .connection_down => s.data.fd = false ∨ s.conf.fd = false
  | .packet_queued => 0 < s.txq.queue.count
  | .config_pending => s.config_ok = false

instance (s : bridge_t) : DecidablePred (Stands s)
  | .connection_down => inferInstanceAs (Decidable (_ ∨ _))
  | .packet_queued => inferInstanceAs (Decidable (_ < _))
  | .config_pending => inferInstanceAs (Decidable (_ = _))

/-- The reason counts: a connection that is down comes before the other two, which
are of no use until it is up again. -/
def Counts (s : bridge_t) (r : reason) : Prop :=
  Stands s r ∧ (Stands s .connection_down → r = .connection_down)

instance (s : bridge_t) : DecidablePred (Counts s) := fun _ => inferInstanceAs (Decidable (_ ∧ _))

/-- The times of the reasons that count. -/
def waits (s : bridge_t) : List Int :=
  (([.connection_down, .packet_queued, .config_pending] : List reason).filter (Counts s)).map
    reason.usec

/-- **What the code looks at first wins**: of the reasons that count it takes the
earliest. -/
theorem poll_timeout_earliest (s : bridge_t) :
    (poll_timeout s).map timeval.usec = (waits s).min? := by
  have hempty : bridge_tx_queue_empty s.txq.queue = !decide (0 < s.txq.queue.count) := by
    unfold bridge_tx_queue_empty
    rw [← decide_not]
    exact decide_eq_decide.mpr (by omega)
  unfold poll_timeout waits
  by_cases hdown : Stands s .connection_down
  · have hcode : (!s.data.fd || !s.conf.fd) = true := by simpa [Stands] using hdown
    have honly : ∀ r, Counts s r ↔ r = .connection_down := by
      intro r
      constructor
      · exact fun h => h.2 hdown
      · rintro rfl
        exact ⟨hdown, fun _ => rfl⟩
    rw [if_pos hcode]
    simp only [honly]
    rfl
  · have hcode : ¬ (!s.data.fd || !s.conf.fd) = true := by simpa [Stands] using hdown
    have hall : ∀ r, Counts s r ↔ Stands s r :=
      fun r => and_iff_left fun h => absurd h hdown
    rw [if_neg hcode, hempty]
    simp only [hall]
    rw [List.filter_cons_of_neg (by simpa using hdown)]
    by_cases hqueued : Stands s .packet_queued
    · have hcount : 0 < s.txq.queue.count := hqueued
      rw [List.filter_cons_of_pos (by simpa using hqueued), if_pos (by simp [hcount])]
      by_cases hpending : Stands s .config_pending
      · rw [List.filter_cons_of_pos (by simpa using hpending)]
        rfl
      · rw [List.filter_cons_of_neg (by simpa using hpending)]
        rfl
    · have hcount : ¬ 0 < s.txq.queue.count := hqueued
      rw [List.filter_cons_of_neg (by simpa using hqueued), if_neg (by simp [hcount])]
      by_cases hpending : Stands s .config_pending
      · have hconfig : s.config_ok = false := hpending
        rw [List.filter_cons_of_pos (by simpa using hpending), hconfig]
        rfl
      · have hconfig : s.config_ok = true := by simpa [Stands] using hpending
        rw [List.filter_cons_of_neg (by simpa using hpending), hconfig]
        rfl

/-- The times the loop can wait: for the reasons that count, and for the next
print. -/
def wakes (cfg : lhkt_config_full_t) (s : timed_t) : List Int :=
  waits s.bridge ++ ((until_print cfg s).map (· * 1000)).toList

/-- The minimum with one more element. -/
theorem min?_append_singleton (l : List Int) (a : Int) :
    (l ++ [a]).min? = some (l.min?.elim a (min · a)) := by
  induction l with
  | nil => rfl
  | cons b l ih =>
      rw [List.cons_append, List.min?_cons, ih, List.min?_cons]
      cases l.min? with
      | none => rfl
      | some c => exact congrArg some (min_assoc b c a).symm

/-- The timeout `select` is given. -/
structure Awaits (cfg : lhkt_config_full_t) (s : timed_t) : Prop where
  valid : s.tv.Valid
  positive : 0 < s.tv.usec
  earliest : s.tv.usec = (wakes cfg s).min?.getD (LHKT_IDLE_POLL_SEC * 1000000)

/-- The printing is a timer that the iteration looks at. -/
def stats_timer (s : timed_t) : timer := ⟨s.next_stats_ms, s.prints.map Prod.fst⟩

theorem schedule_timer (h : cfg.stats_interval > 0) (now_ms : Int) (s : timed_t) :
    stats_timer (schedule cfg now_ms s)
      = look (cfg.stats_interval * 1000) (stats_timer s) now_ms := by
  unfold schedule stats_timer look
  dsimp only
  rw [if_pos h]
  dsimp only
  generalize (if s.next_stats_ms = 0 then now_ms + cfg.stats_interval * 1000
    else s.next_stats_ms) = next_stats_ms
  by_cases hdue : next_stats_ms ≤ now_ms
  · rw [if_pos hdue, if_pos hdue, if_pos hdue, List.map_append, List.map_singleton]
  · rw [if_neg hdue, if_neg hdue, if_neg hdue]

/-- Behind a look there is time left until the next print. -/
theorem schedule_next (h : cfg.stats_interval > 0) (now_ms : Int) (s : timed_t) :
    now_ms < (schedule cfg now_ms s).next_stats_ms := by
  have hlook : now_ms < (look (cfg.stats_interval * 1000) (stats_timer s) now_ms).due :=
    look_due (by omega) (stats_timer s) now_ms
  rw [← schedule_timer h] at hlook
  exact hlook

/-- The clamp, for a loop that prints. -/
theorem schedule_tv (h : cfg.stats_interval > 0) (now_ms : Int) (s : timed_t) :
    (schedule cfg now_ms s).tv = clamp_timeout (poll_timeout s.bridge)
      (stats_wait ((schedule cfg now_ms s).next_stats_ms - now_ms)) := by
  have hnext := schedule_next h now_ms s
  unfold schedule at hnext ⊢
  dsimp only at hnext ⊢
  rw [if_pos h] at hnext ⊢
  dsimp only at hnext ⊢
  rw [if_neg (Int.not_lt.mpr (Int.sub_nonneg_of_le (Int.le_of_lt hnext)))]

theorem schedule_looks (h : cfg.stats_interval > 0) (now_ms : Int) (s : timed_t) :
    (schedule cfg now_ms s).looks = s.looks ++ [now_ms] := by
  unfold schedule
  dsimp only
  rw [if_pos h]

/-- The earliest of the times, for a loop that prints. -/
theorem wakes_printing (h : cfg.stats_interval > 0) (now_ms : Int) (s : timed_t) :
    (wakes cfg (schedule cfg now_ms s)).min? = some
      (((poll_timeout s.bridge).map timeval.usec).elim
        (((schedule cfg now_ms s).next_stats_ms - now_ms) * 1000)
        (min · (((schedule cfg now_ms s).next_stats_ms - now_ms) * 1000))) := by
  unfold wakes until_print
  rw [if_pos h, schedule_bridge, schedule_looks h, List.getLast?_concat, poll_timeout_earliest]
  exact min?_append_singleton _ _

/-- **The timeout of one iteration.** -/
theorem schedule_awaits (now_ms : Int) (s : timed_t) : Awaits cfg (schedule cfg now_ms s) := by
  by_cases h : cfg.stats_interval > 0
  · -- a loop that prints
    have hnext := schedule_next h now_ms s
    have hleft : 0 ≤ (schedule cfg now_ms s).next_stats_ms - now_ms := by omega
    have hwait := stats_wait_valid hleft
    have husec := stats_wait_usec hleft
    have htv := schedule_tv h now_ms s
    have hwakes := wakes_printing h now_ms s
    rw [← husec] at hwakes
    cases hpoll : poll_timeout s.bridge with
    | none =>
        rw [hpoll] at htv hwakes
        have htv : (schedule cfg now_ms s).tv
            = stats_wait ((schedule cfg now_ms s).next_stats_ms - now_ms) := htv
        refine ⟨by rwa [htv], by rw [htv, husec]; omega, ?_⟩
        rw [htv, hwakes]
        rfl
    | some tv =>
        rw [hpoll] at htv hwakes
        obtain ⟨hvalid, hpositive⟩ := poll_timeout_valid hpoll
        obtain ⟨hclamped, hmin⟩ := clamp_timeout_some hvalid hwait
        refine ⟨by rwa [htv], ?_, ?_⟩
        · rw [htv, hmin, husec]
          exact lt_min hpositive (by omega)
        · rw [htv, hmin, hwakes]
          rfl
  · have htv : (schedule cfg now_ms s).tv
        = (poll_timeout s.bridge).getD ⟨LHKT_IDLE_POLL_SEC, 0⟩ := by
      unfold schedule
      dsimp only
      rw [if_neg h]
    have hwakes : (wakes cfg (schedule cfg now_ms s)).min?
        = (poll_timeout s.bridge).map timeval.usec := by
      unfold wakes until_print
      rw [if_neg h, schedule_bridge, poll_timeout_earliest]
      exact congrArg List.min? (List.append_nil _)
    cases hpoll : poll_timeout s.bridge with
    | none =>
        rw [hpoll] at htv hwakes
        refine ⟨by rw [htv]; decide, by rw [htv]; decide, ?_⟩
        rw [htv, hwakes]
        rfl
    | some tv =>
        obtain ⟨hvalid, hpositive⟩ := poll_timeout_valid hpoll
        rw [hpoll] at htv hwakes
        refine ⟨by rwa [htv], by rwa [htv], ?_⟩
        rw [htv, hwakes]
        rfl

/-! ## Runs -/

/-- `select` is only reached from the head of the loop. -/
theorem top_of_select {cfg : lhkt_config_t} {s : bridge_t} {e : bridge_env}
    (h : (bridge_step cfg s e).pc = .select) : s.pc = .top := by
  unfold bridge_step at h
  split at h
  · rename_i htop
    exact htop
  · unfold bridge_select at h
    split at h <;> exact nomatch h
  · unfold bridge_accept at h
    split at h
    · split at h
      · exact nomatch h
      · exact nomatch h
      · split at h
        · exact nomatch h
        · split at h <;> exact nomatch h
    · exact nomatch h
  · unfold bridge_client at h
    split at h
    · split at h <;> exact nomatch h
    · exact nomatch h
  · unfold bridge_conf at h
    split at h
    · dsimp only at h
      split at h <;> exact nomatch h
    · exact nomatch h
  · unfold bridge_data at h
    split at h
    · split at h <;> exact nomatch h
    · exact nomatch h
  · rename_i hdone
    rw [hdone] at h
    exact nomatch h

theorem bridge_start_pc_ne (cfg : lhkt_config_t) (start : start_env) :
    (bridge_start cfg start).pc ≠ .select := by
  unfold bridge_start
  dsimp only
  split
  · exact nofun
  · exact nofun

/-- **The timeout is the earliest reason to wake up.** In every run, whenever the loop
waits in `select`, the timeout is one that `select` accepts, it is not zero, and it
is the earliest of the reasons to wake up: a connection that is down; while both are
up, a packet in the queue and a configuration that is pending; and the next print. It
is five seconds where there is none. -/
theorem select_timeout_earliest (cfg : lhkt_config_full_t) (start : start_env)
    (es : List timed_env) :
    (timed_run cfg start es).bridge.pc = .select → Awaits cfg (timed_run cfg start es) := by
  have hrun : ∀ s : timed_t, (s.bridge.pc = .select → Awaits cfg s) →
      (run (timed_step cfg) s es).bridge.pc = .select → Awaits cfg (run (timed_step cfg) s es) := by
    refine fun s => run_invariant (P := fun s => s.bridge.pc = .select → Awaits cfg s) ?_ es s
    intro s e _
    refine timed_step_elim (P := fun s => s.bridge.pc = .select → Awaits cfg s) s e ?_ ?_
    · exact fun _ _ => schedule_awaits e.now_ms _
    · intro helse hselect
      exact absurd ⟨top_of_select hselect, hselect⟩ helse
  refine hrun (timed_start cfg start) ?_
  intro hselect
  exact absurd hselect (bridge_start_pc_ne cfg.tolhkt_config_t start)

/-- A packet waits for a STATUS line: the loop looks at the queue after a tenth of a
second, or earlier for a print. With a DATA connection that cannot be opened it is a
second, in spite of the packet. -/
theorem select_timeout_earliest_print :
    let cfg : lhkt_config_full_t :=
      { lhkt_config_full_defaults true true with stats_interval := 120 }
    let packet := iteration client_connects ++ iteration (packet_arrives (ascii "x") [])
    let es (connect : Bool) (now : Int) : List timed_env :=
      packet.map (fun e => ⟨{ e with connect := connect }, 1000⟩) ++ [⟨{}, now⟩]
    let s := timed_run cfg {} (es true 2000)
    let s' := timed_run cfg {} (es true 120950)
    let down := timed_run cfg { data_connect := false } (es false 2000)
    s.bridge.txq.queue.count = 1 ∧ down.bridge.txq.queue.count = 1 ∧
      s.tv = ⟨0, 100000⟩ ∧ s'.tv = ⟨0, 50000⟩ ∧ down.tv = ⟨1, 0⟩ ∧
      Awaits cfg s ∧ Awaits cfg s' ∧ Awaits cfg down := by
  intro cfg packet es s s' down
  exact ⟨by decide +kernel, by decide +kernel, by decide +kernel, by decide +kernel,
    by decide +kernel, select_timeout_earliest cfg {} _ (by decide +kernel),
    select_timeout_earliest cfg {} _ (by decide +kernel),
    select_timeout_earliest cfg _ _ (by decide +kernel)⟩

/-! ## Printing -/

/-- The clock does not go back, and an iteration takes at most `slack` longer than the
timeout it computed. -/
def Prompt (cfg : lhkt_config_full_t) (slack : Int) (s : timed_t) (e : timed_env) : Prop :=
  Reaches cfg s e → 0 ≤ e.now_ms ∧ ∀ last ∈ s.looks.getLast?,
    last ≤ e.now_ms ∧ (e.now_ms - last) * 1000 ≤ s.tv.usec + slack * 1000

instance (cfg : lhkt_config_full_t) (slack : Int) (s : timed_t) (e : timed_env) :
    Decidable (Prompt cfg slack s e) :=
  inferInstanceAs (Decidable (_ → _))

/-- The timer before the first look, and behind one. -/
inductive OnTime (cfg : lhkt_config_full_t) (slack : Int) (s : timed_t) : Prop
  | unarmed (looks : s.looks = []) (timer : stats_timer s = {})
  | armed (first now : Int) (head : s.looks.head? = some first) (last : s.looks.getLast? = some now)
      (paced : Paced (cfg.stats_interval * 1000) slack first (stats_timer s))
      (past : ∀ t ∈ (first :: s.prints.map Prod.fst).getLast?, t ≤ now)
      (due : now < s.next_stats_ms)
      (waits : s.tv.usec ≤ (s.next_stats_ms - now) * 1000)

/-- The timeout does not go beyond the next print. -/
theorem schedule_waits (h : cfg.stats_interval > 0) (now_ms : Int) (s : timed_t) :
    (schedule cfg now_ms s).tv.usec ≤ ((schedule cfg now_ms s).next_stats_ms - now_ms) * 1000 := by
  have hearliest : (schedule cfg now_ms s).tv.usec
      = (wakes cfg (schedule cfg now_ms s)).min?.getD (LHKT_IDLE_POLL_SEC * 1000000) :=
    (schedule_awaits now_ms s).earliest
  rw [hearliest, wakes_printing h]
  cases poll_timeout s.bridge with
  | none => exact le_refl _
  | some tv => exact min_le_right _ _

/-- **One step keeps the time.** -/
theorem timed_step_onTime (h : cfg.stats_interval > 0) {slack : Int} (s : timed_t)
    (e : timed_env) (hs : OnTime cfg slack s) (he : Prompt cfg slack s e) :
    OnTime cfg slack (timed_step cfg s e) := by
  have hpos : 0 < cfg.stats_interval * 1000 := by omega
  refine timed_step_elim s e ?_ ?_
  · intro hreaches
    obtain ⟨hnonneg, hlast⟩ := he hreaches
    generalize hs' : ({ s with bridge := bridge_step cfg.tolhkt_config_t s.bridge e.env } : timed_t)
      = s'
    have htimer : stats_timer s' = stats_timer s := by rw [← hs']; rfl
    have hlooks : s'.looks = s.looks := by rw [← hs']
    have hlook := schedule_timer h e.now_ms s'
    have hall := schedule_looks h e.now_ms s'
    rw [htimer] at hlook
    rw [hlooks] at hall
    cases hs with
    | unarmed looks timer =>
        rw [timer] at hlook
        rw [looks, List.nil_append] at hall
        -- the first look arms the timer and prints nothing
        have hpaced : Paced (cfg.stats_interval * 1000) slack e.now_ms
            (stats_timer (schedule cfg e.now_ms s')) := by
          rw [hlook]
          exact paced_armed hpos hnonneg
        refine OnTime.armed e.now_ms e.now_ms (by rw [hall]; rfl) (by rw [hall]; rfl) hpaced ?_
          (schedule_next h e.now_ms s') (schedule_waits h e.now_ms s')
        show ∀ t ∈ (e.now_ms :: (stats_timer (schedule cfg e.now_ms s')).fired).getLast?,
          t ≤ e.now_ms
        rw [hlook]
        exact look_past fun t ht => (Option.some.inj ht).ge
    | armed first now head last paced past due waits =>
        -- the loop looks in time, so a print is late by the slack at most
        obtain ⟨hforward, hprompt⟩ := hlast now last
        have hpaced : Paced (cfg.stats_interval * 1000) slack first
            (stats_timer (schedule cfg e.now_ms s')) := by
          rw [hlook]
          refine paced.look hpos ?_
          show e.now_ms ≤ s.next_stats_ms + slack
          omega
        refine OnTime.armed first e.now_ms ?_ (by rw [hall, List.getLast?_concat]) hpaced ?_
          (schedule_next h e.now_ms s') (schedule_waits h e.now_ms s')
        · rw [hall, List.head?_append, head]
          rfl
        · show ∀ t ∈ (first :: (stats_timer (schedule cfg e.now_ms s')).fired).getLast?,
            t ≤ e.now_ms
          rw [hlook]
          exact look_past fun t ht => (past t ht).trans hforward
  · intro _
    cases hs with
    | unarmed looks timer => exact .unarmed looks timer
    | armed first now head last paced past due waits =>
        exact .armed first now head last paced past due waits

/-- What an iteration prints are the counters at its `select`. -/
theorem schedule_prints (cfg : lhkt_config_full_t) (now_ms : Int) (s : timed_t) :
    ∀ p ∈ (schedule cfg now_ms s).prints, p ∈ s.prints ∨ p.2 = s.bridge.rx.stats := by
  intro p hp
  unfold schedule at hp
  dsimp only at hp
  split at hp
  · dsimp only at hp
    generalize (if s.next_stats_ms = 0 then now_ms + cfg.stats_interval * 1000
      else s.next_stats_ms) = next_stats_ms at hp
    split at hp
    · rcases List.mem_append.mp hp with hold | hnew
      · exact .inl hold
      · obtain rfl := List.mem_singleton.mp hnew
        exact .inr rfl
    · exact .inl hp
  · exact .inl hp

/-- **What is printed** are the counters of a moment of the run. -/
theorem prints_of_run (cfg : lhkt_config_full_t) (start : start_env) (es : List timed_env) :
    ∀ p ∈ (timed_run cfg start es).prints, ∃ past, past <+: es ∧
      (timed_run cfg start past).bridge.pc = .select ∧
      p.2 = (timed_run cfg start past).bridge.rx.stats := by
  induction es using List.reverseRecOn with
  | nil => exact fun p hp => absurd hp List.not_mem_nil
  | append_singleton es e ih =>
      have hlast : timed_run cfg start (es ++ [e]) = timed_step cfg (timed_run cfg start es) e :=
        run_append _ _ es [e]
      have hearlier : ∀ p ∈ (timed_run cfg start es).prints, ∃ past, past <+: es ++ [e] ∧
          (timed_run cfg start past).bridge.pc = .select ∧
          p.2 = (timed_run cfg start past).bridge.rx.stats := by
        intro p hp
        obtain ⟨past, hpast, hshows⟩ := ih p hp
        exact ⟨past, hpast.trans (List.prefix_append es [e]), hshows⟩
      have hbridge := congrArg timed_t.bridge hlast
      rw [timed_step_bridge] at hbridge
      intro p hp
      rw [hlast] at hp
      revert hp
      refine timed_step_elim (P := fun s => p ∈ s.prints → _) (timed_run cfg start es) e ?_ ?_
      · intro hreaches hp
        rcases schedule_prints cfg e.now_ms _ p hp with hold | hnew
        · exact hearlier p hold
        · refine ⟨es ++ [e], List.prefix_rfl, ?_, ?_⟩
          · rw [hbridge]
            exact hreaches.2
          · rw [hbridge]
            exact hnew
      · exact fun _ hp => hearlier p hp

/-- **The counters are printed on time.** A loop that prints, by a clock that does
not go back and with iterations that take at most `slack` longer than their timeout:
two prints are at least an interval apart, and at most the slack more; as many
have been made as there were intervals since the first iteration, up to that
slack; and each shows the counters as they were at a `select` of the run. -/
theorem stats_cadence (cfg : lhkt_config_full_t) (h : cfg.stats_interval > 0) (slack : Int)
    (start : start_env) (es : List timed_env)
    (hprompt : Guarded (timed_step cfg) (Prompt cfg slack) (timed_start cfg start) es) :
    let s := timed_run cfg start es
    let interval_ms := cfg.stats_interval * 1000
    (∀ first ∈ s.looks.head?, ∀ now ∈ s.looks.getLast?,
      Spread interval_ms (interval_ms + slack) (first :: s.prints.map Prod.fst) ∧
      s.prints.length * interval_ms ≤ now - first ∧
      now - first < s.prints.length * (interval_ms + slack) + interval_ms) ∧
    ∀ p ∈ s.prints, ∃ past, past <+: es ∧
      (bridge_run cfg.tolhkt_config_t start (past.map timed_env.env)).pc = .select ∧
      p.2 = (bridge_run cfg.tolhkt_config_t start (past.map timed_env.env)).rx.stats := by
  intro s interval_ms
  refine ⟨?_, ?_⟩
  · intro first hfirst now hnow
    have htime : OnTime cfg slack s := run_induction (timed_step_onTime h) es _ (.unarmed rfl rfl)
      hprompt
    cases htime with
    | unarmed looks timer =>
        rw [looks] at hfirst
        exact nomatch hfirst
    | armed first' now' head last paced past due waits =>
        rw [head] at hfirst
        rw [last] at hnow
        obtain rfl := Option.some.inj hfirst
        obtain rfl := Option.some.inj hnow
        have hrate := paced.rate past due
        rw [show (stats_timer s).fired.length = s.prints.length from List.length_map _] at hrate
        exact ⟨paced.spread, hrate⟩
  · intro p hp
    obtain ⟨past, hpast, hpc, hstats⟩ := prints_of_run cfg start es p hp
    rw [timed_run_bridge] at hpc hstats
    exact ⟨past, hpast, hpc, hstats⟩

/-- A second between prints, and iterations that are up to a fifth late: in five
seconds there are four. -/
theorem stats_cadence_late :
    let cfg : lhkt_config_full_t := { lhkt_config_full_defaults true true with stats_interval := 1 }
    let es : List timed_env := ([1000, 2000, 3200, 4200, 5300, 6000] : List Int).flatMap fun now =>
      [⟨{}, now⟩, ⟨{}, now⟩]
    let s := timed_run cfg {} es
    s.prints.map Prod.fst = [2000, 3200, 4200, 5300] ∧
      Spread 1000 (1000 + 200) (1000 :: s.prints.map Prod.fst) := by
  intro cfg es s
  exact ⟨by decide +kernel, ((stats_cadence cfg (by decide) 200 {} es (by decide +kernel)).1 1000
    (by decide +kernel) 6000 (by decide +kernel)).1⟩

end LorahamKissTnc.Schedule
