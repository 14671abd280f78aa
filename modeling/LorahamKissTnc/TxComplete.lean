/-
Confirmation by CONF events: what `bridge_loraham_wait_tx_complete` concludes
from the lines it reads.

Everything the two waiting loops look at is a function of the lines handled
since the call: the level flag is the last TX indication among them, and the
counter of TX=1 events has moved by the number of such lines (`feed_tx_busy`,
`feed_tx_busy_seq`). So a result is never LHKT_OK without a TX=1 line and an idle
indication behind the last one.

The converse does not hold. The loops look at the level flag between two reads
only, and the idle counter decides nothing: when a completed transition is
followed by another TX=1 in the same read, it is not seen. The wait succeeds
exactly when some read ends with the flag idle, from the one that brings the
first TX=1 on.
-/
import LorahamKissTnc.ConfLines
import LorahamKissTnc.TxGate

set_option autoImplicit false

open LorahamKissTnc.Lib.CString LorahamKissTnc.Lib.Channel LorahamKissTnc.Lib.Machine
open LorahamKissTnc.Config LorahamKissTnc.BridgeConf LorahamKissTnc.BridgeLoraham
open LorahamKissTnc.ConfLines LorahamKissTnc.TxGate

namespace LorahamKissTnc.TxComplete

/-! ## TX indications -/

/-- A line that says the radio is not transmitting: the event TX=0, or a STATUS
line whose TX flag is 0. -/
def Idle (l : Bytes) : Prop :=
  l = ascii "TX=0" ∨
    is_status l = true ∧ bridge_status_flag_token l (ascii "TX=") = some false

/-- An event line is its key and one digit. -/
theorem parse_flag_line_iff {line key : Bytes} {value : Bool} :
    bridge_parse_flag_line line key = some value ↔
      line = key ++ ascii (if value then "1" else "0") := by
  unfold bridge_parse_flag_line
  by_cases hpre : key <+: line
  · obtain ⟨rest, rfl⟩ := hpre
    rw [if_neg (by simp), List.drop_left, List.append_cancel_left_eq]
    by_cases h1 : rest = ascii "1"
    · subst h1
      cases value <;> decide
    · by_cases h0 : rest = ascii "0"
      · subst h0
        cases value <;> decide
      · cases value <;> simp [h1, h0]
  · have hno : key.isPrefixOf line = false :=
      Bool.eq_false_iff.mpr fun h => hpre (List.isPrefixOf_iff_prefix.mp h)
    rw [hno, if_pos Bool.not_false]
    constructor
    · exact fun h => nomatch h
    · rintro rfl
      exact absurd (List.prefix_append _ _) hpre

theorem tx_flag_busy_event : tx_flag (ascii "TX=1") = some true := by decide

/-- What clears the flag is an idle indication. -/
theorem idle_of_tx_flag {l : Bytes} (h : tx_flag l = some false) : Idle l := by
  unfold tx_flag at h
  cases htx : bridge_parse_flag_line l (ascii "TX=") with
  | some value =>
      rw [htx] at h
      rw [Option.some.inj h] at htx
      exact .inl (parse_flag_line_iff.mp htx)
  | none =>
      rw [htx] at h
      by_cases hstatus : is_status l = true
      · exact .inr ⟨hstatus, by simpa [hstatus] using h⟩
      · simp [hstatus] at h

/-- The counter of TX=1 events counts these lines and no others. -/
theorem handle_line_tx_busy_seq (state : bridge_conf_state_t) (l : Bytes) :
    (bridge_conf_handle_line state l).tx_busy_seq
      = state.tx_busy_seq + if l = ascii "TX=1" then 1 else 0 := by
  by_cases hbusy : l = ascii "TX=1"
  · subst hbusy
    rfl
  · rw [if_neg hbusy]
    unfold bridge_conf_handle_line
    split
    · rfl
    · cases htx : bridge_parse_flag_line l (ascii "TX=") with
      | some value =>
          cases value with
          | true => exact absurd (parse_flag_line_iff.mp htx) hbusy
          | false => rfl
      | none =>
          cases bridge_parse_flag_line l (ascii "CAD=") with
          | some value => rfl
          | none =>
              dsimp only
              split <;> rfl

/-- The level flag after some lines is the last indication among them. -/
theorem handle_lines_tx_busy (ls : List Bytes) (state : bridge_conf_state_t) :
    (ls.foldl bridge_conf_handle_line state).tx_busy
      = (last_flag tx_flag ls).getD state.tx_busy := by
  induction ls using List.reverseRecOn with
  | nil => rfl
  | append_singleton ls l ih =>
      rw [List.foldl_concat, (handle_line_flags _ l).1, ih, last_flag_concat]
      cases tx_flag l <;> rfl

/-- The busy counter counts the TX=1 lines that are handled. -/
theorem handle_lines_tx_busy_seq (ls : List Bytes) (state : bridge_conf_state_t) :
    (ls.foldl bridge_conf_handle_line state).tx_busy_seq
      = state.tx_busy_seq + ls.count (ascii "TX=1") := by
  induction ls using List.reverseRecOn with
  | nil => rfl
  | append_singleton ls l ih =>
      rw [List.foldl_concat, handle_line_tx_busy_seq, ih, List.count_append, Nat.add_assoc,
        List.count_singleton]
      by_cases h : l = ascii "TX=1"
      · simp [h]
      · simp [h]

/-- Behind a read the flag is that of the last line which has one. -/
theorem feed_tx_busy (state : bridge_conf_state_t) (buf : Bytes) :
    (bridge_conf_feed state buf).1.tx_busy
      = (last_flag tx_flag (bridge_conf_feed state buf).2).getD state.tx_busy :=
  (congrArg (·.tx_busy) (flags_feed state buf)).trans (handle_lines_tx_busy _ (flags state))

/-- Of a read, the busy counter counts the TX=1 lines. -/
theorem feed_tx_busy_seq (state : bridge_conf_state_t) (buf : Bytes) :
    (bridge_conf_feed state buf).1.tx_busy_seq
      = state.tx_busy_seq + (bridge_conf_feed state buf).2.count (ascii "TX=1") :=
  (congrArg (·.tx_busy_seq) (flags_feed state buf)).trans
    (handle_lines_tx_busy_seq _ (flags state))

/-! ## No false confirmation -/

/-- Reading handled these lines and nothing else happened to the flags. -/
theorem fed_lines {c c' : conf_t} (h : Fed c c') :
    ∃ ls : List Bytes, c'.events = c.events ++ ls.map .line ∧
      c'.state.tx_busy = (last_flag tx_flag ls).getD c.state.tx_busy ∧
      c'.state.tx_busy_seq = c.state.tx_busy_seq + ls.count (ascii "TX=1") := by
  obtain ⟨chunks, rfl⟩ := h
  rw [conf_feed_flatten]
  exact ⟨_, rfl, feed_tx_busy c.state _, feed_tx_busy_seq c.state _⟩

/-- The first loop ends well only when a TX=1 event was counted. -/
theorem wait_tx_start_ok {start_busy_seq : Nat} {deadline : Int} (rounds : List conf_round) :
    ∀ c : conf_t, (wait_tx_start start_busy_seq deadline rounds c).2 = .OK →
      (wait_tx_start start_busy_seq deadline rounds c).1.state.tx_busy_seq ≠ start_busy_seq := by
  induction rounds with
  | nil =>
      intro c hok hseq
      simp only [wait_tx_start] at hok hseq
      rw [if_neg (not_not_intro hseq)] at hok
      exact nomatch hok
  | cons round rounds ih =>
      intro c hok
      unfold wait_tx_start at hok ⊢
      by_cases hseq : c.state.tx_busy_seq ≠ start_busy_seq
      · rw [if_pos hseq]
        exact hseq
      · rw [if_neg hseq] at hok ⊢
        by_cases hlate : deadline ≤ round.now
        · rw [if_pos hlate] at hok
          exact nomatch hok
        · rw [if_neg hlate] at hok ⊢
          cases hread : bridge_conf_wait_read round.wait c with
          | mk c' r =>
              rw [hread] at hok
              cases r with
              | error _ => exact nomatch hok
              | ok _ => exact ih c' hok

/-- The second loop ends well only when the flag is idle. -/
theorem wait_tx_idle_ok {deadline : Int} (rounds : List conf_round) :
    ∀ s : io_t, (wait_tx_idle deadline rounds s).2 = .OK →
      (wait_tx_idle deadline rounds s).1.conf.state.tx_busy = false := by
  induction rounds with
  | nil =>
      intro s hok
      simp only [wait_tx_idle] at hok ⊢
      by_contra hbusy
      rw [if_pos (by simpa using hbusy)] at hok
      exact nomatch hok
  | cons round rounds ih =>
      intro s hok
      unfold wait_tx_idle at hok ⊢
      by_cases hidle : s.conf.state.tx_busy = false
      · rw [hidle]
        exact hidle
      · have hbusy : s.conf.state.tx_busy = true := by simpa using hidle
        rw [hbusy, if_neg (by simp)] at hok ⊢
        dsimp only at hok ⊢
        -- a set flag: the only way to success is a further round
        by_cases hstop : (s.stop || round.signal) = true
        · rw [if_pos hstop] at hok
          exact nomatch hok
        · rw [if_neg hstop] at hok ⊢
          by_cases hlate : deadline ≤ round.now
          · rw [if_pos hlate] at hok
            exact nomatch hok
          · rw [if_neg hlate] at hok ⊢
            cases hread : bridge_conf_wait_read round.wait s.conf with
            | mk c' r =>
                rw [hread] at hok
                cases r with
                | error _ => exact nomatch hok
                | ok _ => exact ih _ hok

/-- Lines that end idle after a TX=1 event have an idle indication behind the
last one. -/
theorem idle_behind_last_busy {ls : List Bytes} (hseen : ascii "TX=1" ∈ ls)
    (hidle : last_flag tx_flag ls ≠ some true) :
    ∃ pre post, ls = pre ++ ascii "TX=1" :: post ∧ ascii "TX=1" ∉ post ∧ ∃ l ∈ post, Idle l := by
  obtain ⟨post, pre, hrev, hlast⟩ := List.eq_append_cons_of_mem (List.mem_reverse.mpr hseen)
  have hls : ls = pre.reverse ++ ascii "TX=1" :: post.reverse := by
    rw [← List.reverse_reverse ls, hrev]
    simp
  refine ⟨pre.reverse, post.reverse, hls, by simpa using hlast, ?_⟩
  -- the last indication is not the one of the TX=1 line, so it stands behind it
  cases hpost : last_flag tx_flag post.reverse with
  | none =>
      have hnone := List.getLast?_eq_none_iff.mp hpost
      apply absurd _ hidle
      rw [hls, last_flag, List.filterMap_append, List.filterMap_cons, tx_flag_busy_event, hnone]
      simp
  | some value =>
      obtain ⟨l, hl, hflag⟩ := List.mem_filterMap.mp (List.mem_of_getLast? hpost)
      have hvalue : last_flag tx_flag ls = some value := by
        rw [hls, last_flag, List.filterMap_append, List.filterMap_cons, tx_flag_busy_event]
        unfold last_flag at hpost
        rw [List.getLast?_append, List.getLast?_cons, hpost]
        rfl
      cases value with
      | true => exact absurd hvalue hidle
      | false => exact ⟨l, hl, idle_of_tx_flag hflag⟩

/-- What the wait has read when it ends well. -/
theorem wait_tx_complete_ok {e : complete_env} {cfg : lhkt_config_t} {s : io_t}
    (hidle : s.conf.state.tx_busy = false)
    (hok : (bridge_loraham_wait_tx_complete e cfg s).2 = .OK) :
    (bridge_loraham_wait_tx_complete e cfg s).1.conf.state.tx_busy = false ∧
      (bridge_loraham_wait_tx_complete e cfg s).1.conf.state.tx_busy_seq
        ≠ s.conf.state.tx_busy_seq := by
  unfold bridge_loraham_wait_tx_complete at hok ⊢
  by_cases hfd : s.conf.fd = true
  · rw [hfd, if_neg (by simp)] at hok ⊢
    dsimp only at hok ⊢
    by_cases hsaw : (wait_saw_tx e s.conf).2 = .OK
    · rw [if_neg (not_not_intro hsaw)] at hok ⊢
      have hstart : (wait_saw_tx e s.conf).1.state.tx_busy_seq ≠ s.conf.state.tx_busy_seq := by
        unfold wait_saw_tx at hsaw ⊢
        rw [hidle, if_neg Bool.false_ne_true] at hsaw ⊢
        exact wait_tx_start_ok _ _ hsaw
      by_cases hdone : (!(wait_saw_tx e s.conf).1.state.tx_busy) = true ∧
          (wait_saw_tx e s.conf).1.state.tx_busy_seq ≠ s.conf.state.tx_busy_seq ∧
          (wait_saw_tx e s.conf).1.state.tx_idle_seq ≠ s.conf.state.tx_idle_seq
      · rw [if_pos hdone]
        exact ⟨by simpa using hdone.1, hstart⟩
      · rw [if_neg hdone] at hok ⊢
        refine ⟨wait_tx_idle_ok _ _ hok, ?_⟩
        -- the second loop only reads on, and the counter never goes back
        obtain ⟨stop, c', hfed, hframe⟩ := wait_tx_idle_frame
          (e.busy + cfg.tx_busy_timeout_ms) e.busy_rounds
          { s with conf := (wait_saw_tx e s.conf).1 }
        rw [hframe]
        obtain ⟨ls, -, -, hseq⟩ := fed_lines hfed
        obtain ⟨ls', -, -, hseq'⟩ := fed_lines (wait_saw_tx_fed e s.conf)
        dsimp only at hseq ⊢
        omega
    · rw [if_pos hsaw] at hok
      exact absurd hok hsaw
  · rw [if_pos (by simpa using hfd)] at hok
    exact nomatch hok

/-- **No false confirmation.** When the wait starts with an idle radio and ends
with LHKT_OK, a TX=1 event was handled during the call, an idle indication stands
behind the last one, and the radio is idle again. -/
theorem confirmation_has_transition (e : complete_env) (cfg : lhkt_config_t) (s : io_t)
    (hidle : s.conf.state.tx_busy = false)
    (hok : (bridge_loraham_wait_tx_complete e cfg s).2 = .OK) :
    (bridge_loraham_wait_tx_complete e cfg s).1.conf.state.tx_busy = false ∧
    ∃ ls : List Bytes,
      (bridge_loraham_wait_tx_complete e cfg s).1.conf.events = s.conf.events ++ ls.map .line ∧
      ∃ pre post, ls = pre ++ ascii "TX=1" :: post ∧ ascii "TX=1" ∉ post ∧
        ∃ l ∈ post, Idle l := by
  obtain ⟨hend, hseq⟩ := wait_tx_complete_ok hidle hok
  obtain ⟨stop, c', hfed, hframe⟩ := bridge_loraham_wait_tx_complete_frame e cfg s
  rw [hframe] at hend hseq ⊢
  obtain ⟨ls, hevents, hbusy, hcount⟩ := fed_lines hfed
  refine ⟨hend, ls, hevents, idle_behind_last_busy ?_ ?_⟩
  · apply List.count_pos_iff.mp
    dsimp only at hseq
    omega
  · intro hlast
    rw [hlast] at hbusy
    dsimp only at hend
    rw [hend] at hbusy
    exact nomatch hbusy

/-- The bridge with an open and idle CONF connection. -/
def idle_io : io_t := { conf := { fd := true } }

/-- TX=1 in one read, TX=0 in the next. -/
def two_reads : complete_env where
  start_rounds := [{ wait := .ready { chunks := [ascii "TX=1\n"] } }]
  busy_rounds := [{ wait := .ready { chunks := [ascii "TX=0\n"] } }]

/-- The two events in two reads confirm. -/
theorem confirmation_has_transition_two_reads :
    idle_io.conf.state.tx_busy = false ∧
      (bridge_loraham_wait_tx_complete two_reads lhkt_config_defaults idle_io).2 = .OK ∧
      (bridge_loraham_wait_tx_complete two_reads lhkt_config_defaults idle_io).1.conf.state.tx_busy
        = false := by
  refine ⟨by decide, by decide +kernel, ?_⟩
  exact (confirmation_has_transition two_reads lhkt_config_defaults idle_io (by decide)
    (by decide +kernel)).1

/-! ## The lines of a round -/

/-- What a round of waiting reads. -/
def round_bytes (round : conf_round) : Bytes :=
  match round.wait with
  | .ready read => read.chunks.flatten
  | _ => []

/-- The lines handled while these rounds are read. -/
def lines_read (c : conf_t) (rounds : List conf_round) : List Bytes :=
  (bridge_conf_feed c.state (rounds.flatMap round_bytes)).2

/-- No read of the round fails. -/
def Quiet (round : conf_round) : Prop :=
  round.wait ≠ .fail ∧ ∀ read, round.wait = .ready read → read.last = .again

theorem feed_nil (c : conf_t) : c.feed [] = c := (conf_feed_flatten [] c).symm

theorem feed_append (c : conf_t) (a b : Bytes) : c.feed (a ++ b) = (c.feed a).feed b := by
  have h := conf_feed_flatten [a, b] c
  rw [List.flatten_cons, List.flatten_cons, List.flatten_nil, List.append_nil] at h
  exact h.symm

/-- A quiet round feeds its bytes to the parser. -/
theorem wait_read_quiet {round : conf_round} (h : Quiet round) (c : conf_t) :
    ∃ got, bridge_conf_wait_read round.wait c = (c.feed (round_bytes round), .ok got) := by
  unfold round_bytes
  cases hwait : round.wait with
  | fail => exact absurd hwait h.1
  | eintr => exact ⟨false, by rw [feed_nil]; rfl⟩
  | timeout => exact ⟨false, by rw [feed_nil]; rfl⟩
  | ready read =>
      refine ⟨true, ?_⟩
      unfold bridge_conf_wait_read bridge_conf_read_available
      dsimp only
      rw [conf_feed_flatten, h.2 read hwait]
      rfl

/-- The lines of more rounds come behind those of the first. -/
theorem lines_read_append (c : conf_t) (a b : List conf_round) :
    lines_read c (a ++ b)
      = lines_read c a ++ lines_read (c.feed (a.flatMap round_bytes)) b := by
  unfold lines_read
  rw [List.flatMap_append, bridge_conf_feed_append]
  rfl

theorem lines_read_cons (c : conf_t) (round : conf_round) (rounds : List conf_round) :
    lines_read c (round :: rounds)
      = lines_read c [round] ++ lines_read (c.feed (round_bytes round)) rounds := by
  have h := lines_read_append c [round] rounds
  rwa [List.flatMap_singleton] at h

/-- The counter has moved exactly when a TX=1 event was handled. -/
theorem feed_busy_seq_ne_iff (c : conf_t) (rounds : List conf_round) :
    (c.feed (rounds.flatMap round_bytes)).state.tx_busy_seq ≠ c.state.tx_busy_seq ↔
      ascii "TX=1" ∈ lines_read c rounds := by
  have h := feed_tx_busy_seq c.state (rounds.flatMap round_bytes)
  rw [← List.count_pos_iff]
  unfold lines_read
  show (bridge_conf_feed c.state _).1.tx_busy_seq ≠ _ ↔ _
  omega

/-! ## The first loop -/

/-- The rounds `a` are in time and bring the first TX=1 event with the last of
them. -/
structure Brings (deadline : Int) (rounds : List conf_round) (c : conf_t) (a : List conf_round) :
    Prop where
  taken : a <+: rounds
  in_time : ∀ round ∈ a, round.now < deadline
  seen : ascii "TX=1" ∈ lines_read c a
  first : ascii "TX=1" ∉ lines_read c a.dropLast

/-- The event comes in a round. -/
theorem Brings.ne_nil {deadline : Int} {rounds : List conf_round} {c : conf_t}
    {a : List conf_round} (h : Brings deadline rounds c a) : a ≠ [] := by
  rintro rfl
  exact absurd h.seen List.not_mem_nil

/-- The event comes in the first round, or is waited for from there on. -/
theorem brings_cons_iff {deadline : Int} {round : conf_round} {rounds : List conf_round}
    {c : conf_t} {a : List conf_round} :
    Brings deadline (round :: rounds) c (round :: a) ↔
      round.now < deadline ∧
      if ascii "TX=1" ∈ lines_read c [round] then a = []
      else Brings deadline rounds (c.feed (round_bytes round)) a := by
  constructor
  · intro h
    refine ⟨h.in_time round List.mem_cons_self, ?_⟩
    -- what the rounds before the last one did not bring
    have hfirst : a ≠ [] → ascii "TX=1" ∉ lines_read c [round] ∧
        ascii "TX=1" ∉ lines_read (c.feed (round_bytes round)) a.dropLast := by
      intro hne
      have hfirst := h.first
      rw [List.dropLast_cons_of_ne_nil hne, lines_read_cons, List.mem_append, not_or] at hfirst
      exact hfirst
    by_cases hnow : ascii "TX=1" ∈ lines_read c [round]
    · rw [if_pos hnow]
      by_contra hne
      exact (hfirst hne).1 hnow
    · rw [if_neg hnow]
      have hseen := h.seen
      rw [lines_read_cons, List.mem_append] at hseen
      have hseen := hseen.resolve_left hnow
      have hne : a ≠ [] := by
        rintro rfl
        exact absurd hseen List.not_mem_nil
      exact ⟨(List.cons_prefix_cons.mp h.taken).2,
        fun r hr => h.in_time r (List.mem_cons_of_mem _ hr), hseen, (hfirst hne).2⟩
  · -- the round brings the event itself, or leaves it to the others
    rintro ⟨hnow, h⟩
    by_cases hseen : ascii "TX=1" ∈ lines_read c [round]
    · rw [if_pos hseen] at h
      subst h
      exact ⟨List.cons_prefix_cons.mpr ⟨rfl, List.nil_prefix⟩, by simpa using hnow, hseen,
        List.not_mem_nil⟩
    · rw [if_neg hseen] at h
      refine ⟨List.cons_prefix_cons.mpr ⟨rfl, h.taken⟩, ?_, ?_, ?_⟩
      · intro r hr
        rcases List.mem_cons.mp hr with rfl | hr
        · exact hnow
        · exact h.in_time r hr
      · rw [lines_read_cons]
        exact List.mem_append_right _ h.seen
      · rw [List.dropLast_cons_of_ne_nil h.ne_nil, lines_read_cons, List.mem_append, not_or]
        exact ⟨hseen, h.first⟩

/-- One round of the first loop before any TX=1 event. -/
theorem wait_tx_start_round {deadline : Int} {round : conf_round} {rounds : List conf_round}
    {c : conf_t} (hquiet : Quiet round) :
    wait_tx_start c.state.tx_busy_seq deadline (round :: rounds) c =
      if deadline ≤ round.now then (c, .ERR_UNSUPPORTED)
      else wait_tx_start c.state.tx_busy_seq deadline rounds (c.feed (round_bytes round)) := by
  obtain ⟨got, hread⟩ := wait_read_quiet hquiet c
  rw [wait_tx_start, if_neg (not_not_intro rfl), hread]

/-- With the event seen the first loop ends. -/
theorem wait_tx_start_seen {start_busy_seq : Nat} {deadline : Int} (rounds : List conf_round)
    {c : conf_t} (h : c.state.tx_busy_seq ≠ start_busy_seq) :
    wait_tx_start start_busy_seq deadline rounds c = (c, .OK) := by
  cases rounds with
  | nil => rw [wait_tx_start, if_pos h]
  | cons round rounds => rw [wait_tx_start, if_pos h]

/-- The first loop reads up to the first TX=1 event, when it comes in time. -/
theorem wait_tx_start_brings {deadline : Int} {rounds : List conf_round}
    (hquiet : ∀ round ∈ rounds, Quiet round) :
    ∀ (c : conf_t) (a : List conf_round), Brings deadline rounds c a →
      wait_tx_start c.state.tx_busy_seq deadline rounds c
        = (c.feed (a.flatMap round_bytes), .OK) := by
  induction rounds with
  | nil =>
      intro c a h
      exact absurd (List.prefix_nil.mp h.taken) h.ne_nil
  | cons round rounds ih =>
      intro c a h
      cases a with
      | nil => exact absurd rfl h.ne_nil
      | cons first a =>
          obtain ⟨rfl, -⟩ := List.cons_prefix_cons.mp h.taken
          obtain ⟨hnow, hrest⟩ := brings_cons_iff.mp h
          rw [wait_tx_start_round (hquiet first List.mem_cons_self), if_neg (by omega)]
          have hseq := feed_busy_seq_ne_iff c [first]
          rw [List.flatMap_singleton] at hseq
          by_cases hseen : ascii "TX=1" ∈ lines_read c [first]
          · rw [if_pos hseen] at hrest
            subst hrest
            rw [List.flatMap_singleton]
            exact wait_tx_start_seen rounds (hseq.mpr hseen)
          · rw [if_neg hseen] at hrest
            have hkeep := not_not.mp (mt hseq.mp hseen)
            rw [← hkeep, ih (fun r hr => hquiet r (List.mem_cons_of_mem _ hr)) _ a hrest,
              List.flatMap_cons, feed_append]

/-- When it does not come in time, the first loop gives up. -/
theorem wait_tx_start_brought {deadline : Int} {rounds : List conf_round}
    (hquiet : ∀ round ∈ rounds, Quiet round) :
    ∀ c : conf_t, (wait_tx_start c.state.tx_busy_seq deadline rounds c).2 = .OK →
      ∃ a, Brings deadline rounds c a := by
  induction rounds with
  | nil =>
      intro c hok
      rw [wait_tx_start, if_neg (not_not_intro rfl)] at hok
      exact nomatch hok
  | cons round rounds ih =>
      intro c hok
      rw [wait_tx_start_round (hquiet round List.mem_cons_self)] at hok
      by_cases hlate : deadline ≤ round.now
      · rw [if_pos hlate] at hok
        exact nomatch hok
      · rw [if_neg hlate] at hok
        have hseq := feed_busy_seq_ne_iff c [round]
        rw [List.flatMap_singleton] at hseq
        by_cases hseen : ascii "TX=1" ∈ lines_read c [round]
        · refine ⟨[round], brings_cons_iff.mpr ⟨by omega, ?_⟩⟩
          rw [if_pos hseen]
        · have hkeep := not_not.mp (mt hseq.mp hseen)
          rw [← hkeep] at hok
          obtain ⟨a, ha⟩ := ih (fun r hr => hquiet r (List.mem_cons_of_mem _ hr)) _ hok
          refine ⟨round :: a, brings_cons_iff.mpr ⟨by omega, ?_⟩⟩
          rw [if_neg hseen]
          exact ha

/-! ## The second loop -/

/-- The rounds `b` are in time and leave the flag idle. -/
structure Settles (deadline : Int) (rounds : List conf_round) (c : conf_t) (b : List conf_round) :
    Prop where
  taken : b <+: rounds
  in_time : ∀ round ∈ b, round.now < deadline
  idle : (c.feed (b.flatMap round_bytes)).state.tx_busy = false

/-- No round is needed where TX is idle. -/
theorem settles_nil_iff {deadline : Int} {rounds : List conf_round} {c : conf_t} :
    Settles deadline rounds c [] ↔ c.state.tx_busy = false := by
  constructor
  · intro h
    have hidle := h.idle
    rwa [List.flatMap_nil, feed_nil] at hidle
  · intro h
    exact ⟨List.nil_prefix, by simp, by rwa [List.flatMap_nil, feed_nil]⟩

/-- One round more is waited for, if it is in time. -/
theorem settles_cons_iff {deadline : Int} {round : conf_round} {rounds : List conf_round}
    {c : conf_t} {b : List conf_round} :
    Settles deadline (round :: rounds) c (round :: b) ↔
      round.now < deadline ∧ Settles deadline rounds (c.feed (round_bytes round)) b := by
  constructor
  · rintro ⟨htaken, hnow, hidle⟩
    rw [List.flatMap_cons, feed_append] at hidle
    exact ⟨hnow round List.mem_cons_self, (List.cons_prefix_cons.mp htaken).2,
      fun r hr => hnow r (List.mem_cons_of_mem _ hr), hidle⟩
  · rintro ⟨hnow, htaken, hrest, hidle⟩
    refine ⟨List.cons_prefix_cons.mpr ⟨rfl, htaken⟩, ?_, ?_⟩
    · intro r hr
      rcases List.mem_cons.mp hr with rfl | hr
      · exact hnow
      · exact hrest r hr
    · rw [List.flatMap_cons, feed_append]
      exact hidle

/-- The flag is idle at once, or after a first round in time. -/
theorem exists_settles_cons {deadline : Int} {round : conf_round} {rounds : List conf_round}
    {c : conf_t} :
    (∃ b, Settles deadline (round :: rounds) c b) ↔
      c.state.tx_busy = false ∨
      round.now < deadline ∧ ∃ b, Settles deadline rounds (c.feed (round_bytes round)) b := by
  constructor
  · rintro ⟨b, h⟩
    cases b with
    | nil => exact .inl (settles_nil_iff.mp h)
    | cons first b =>
        obtain ⟨rfl, -⟩ := List.cons_prefix_cons.mp h.taken
        obtain ⟨hnow, hrest⟩ := settles_cons_iff.mp h
        exact .inr ⟨hnow, b, hrest⟩
  · rintro (h | ⟨hnow, b, h⟩)
    · exact ⟨[], settles_nil_iff.mpr h⟩
    · exact ⟨round :: b, settles_cons_iff.mpr ⟨hnow, h⟩⟩

/-- The second loop ends well exactly when some rounds in time leave the flag
idle. -/
theorem wait_tx_idle_iff {deadline : Int} {rounds : List conf_round}
    (hquiet : ∀ round ∈ rounds, Quiet round) (hsignal : ∀ round ∈ rounds, round.signal = false) :
    ∀ s : io_t, s.stop = false →
      ((wait_tx_idle deadline rounds s).2 = .OK ↔ ∃ b, Settles deadline rounds s.conf b) := by
  induction rounds with
  | nil =>
      -- without a round left, the flag decides
      intro s _
      rw [wait_tx_idle]
      constructor
      · intro hok
        refine ⟨[], settles_nil_iff.mpr ?_⟩
        by_contra hbusy
        rw [if_pos (by simpa using hbusy)] at hok
        exact nomatch hok
      · rintro ⟨b, h⟩
        rw [List.prefix_nil.mp h.taken, settles_nil_iff] at h
        rw [h]
        rfl
  | cons round rounds ih =>
      intro s hstop
      rw [wait_tx_idle, exists_settles_cons]
      by_cases hbusy : s.conf.state.tx_busy = true
      · -- while the flag is set, the round reads, if it starts in time
        obtain ⟨got, hread⟩ := wait_read_quiet (hquiet round List.mem_cons_self) s.conf
        have hround := ih (fun r hr => hquiet r (List.mem_cons_of_mem _ hr))
          (fun r hr => hsignal r (List.mem_cons_of_mem _ hr))
          { s with stop := false, conf := s.conf.feed (round_bytes round) } rfl
        rw [hbusy, if_neg (by simp)]
        dsimp only
        rw [hstop, hsignal round List.mem_cons_self, if_neg (by simp), hread]
        by_cases hlate : deadline ≤ round.now
        · rw [if_pos hlate]
          constructor
          · exact fun h => nomatch h
          · rintro (h | ⟨hnow, -⟩)
            · exact nomatch h
            · omega
        · rw [if_neg hlate]
          refine hround.trans ⟨fun h => .inr ⟨by omega, h⟩, ?_⟩
          rintro (h | ⟨-, h⟩)
          · exact nomatch h
          · exact h
      · -- an idle flag ends the wait before any read
        have hidle : s.conf.state.tx_busy = false := by simpa using hbusy
        rw [hidle, if_pos (by simp)]
        exact ⟨fun _ => .inl rfl, fun _ => rfl⟩

/-! ## When a transition is confirmed -/

/-- Some read in time ends with an idle indication as the last one, from the read
on that brings the first TX=1 event. -/
def IdleAfterRead (e : complete_env) (cfg : lhkt_config_t) (c : conf_t) : Prop :=
  ∃ a b, Brings (e.start + LHKT_TX_START_WAIT_MS) e.start_rounds c a ∧
    b <+: e.busy_rounds ∧ (∀ round ∈ b, round.now < e.busy + cfg.tx_busy_timeout_ms) ∧
    last_flag tx_flag (lines_read c (a ++ b)) = some false

/-- The flag is idle behind these rounds when the last indication is. -/
theorem settles_iff {deadline : Int} {rounds : List conf_round} {c : conf_t}
    {a b : List conf_round} (hseen : ascii "TX=1" ∈ lines_read c a) :
    Settles deadline rounds (c.feed (a.flatMap round_bytes)) b ↔
      b <+: rounds ∧ (∀ round ∈ b, round.now < deadline) ∧
        last_flag tx_flag (lines_read c (a ++ b)) = some false := by
  have hflag : ((c.feed (a.flatMap round_bytes)).feed (b.flatMap round_bytes)).state.tx_busy
      = (last_flag tx_flag (lines_read c (a ++ b))).getD c.state.tx_busy := by
    rw [← feed_append, ← List.flatMap_append]
    exact feed_tx_busy c.state _
  -- the TX=1 line is an indication, so there is a last one
  have hsome : last_flag tx_flag (lines_read c (a ++ b)) ≠ none := by
    intro hnone
    have hempty := List.getLast?_eq_none_iff.mp hnone
    have hmem : ascii "TX=1" ∈ lines_read c (a ++ b) := by
      rw [lines_read_append]
      exact List.mem_append_left _ hseen
    have := List.mem_filterMap.mpr ⟨_, hmem, tx_flag_busy_event⟩
    rw [hempty] at this
    exact absurd this List.not_mem_nil
  cases hlast : last_flag tx_flag (lines_read c (a ++ b)) with
  | none => exact absurd hlast hsome
  | some value =>
      rw [hlast] at hflag
      constructor
      · rintro ⟨htaken, hnow, hidle⟩
        exact ⟨htaken, hnow, congrArg some (hflag.symm.trans hidle)⟩
      · rintro ⟨htaken, hnow, hidle⟩
        exact ⟨htaken, hnow, hflag.trans (Option.some.inj hidle)⟩

/-- Behind the first loop the two tests of the code come to one: the second loop
is left at once when the flag is idle. -/
theorem wait_tx_complete_eq {e : complete_env} {cfg : lhkt_config_t} {s : io_t} {c : conf_t}
    (hfd : s.conf.fd = true) (hsaw : wait_saw_tx e s.conf = (c, .OK)) :
    (bridge_loraham_wait_tx_complete e cfg s).2
      = (wait_tx_idle (e.busy + cfg.tx_busy_timeout_ms) e.busy_rounds { s with conf := c }).2 := by
  unfold bridge_loraham_wait_tx_complete
  rw [hfd, if_neg (by simp), hsaw]
  dsimp only
  rw [if_neg (not_not_intro rfl)]
  by_cases hdone : (!c.state.tx_busy) = true ∧ c.state.tx_busy_seq ≠ s.conf.state.tx_busy_seq ∧
      c.state.tx_idle_seq ≠ s.conf.state.tx_idle_seq
  · rw [if_pos hdone]
    have hidle : c.state.tx_busy = false := by simpa using hdone.1
    cases e.busy_rounds with
    | nil => rw [wait_tx_idle, hidle]; rfl
    | cons round rounds => rw [wait_tx_idle, hidle]; rfl
  · rw [if_neg hdone]

/-- **When a transmission is confirmed.** With an idle radio at the start, no
failing read and no stop, the wait ends with LHKT_OK exactly when some read in
time, from the one that brings the first TX=1 event on, leaves the flag idle. A
TX=0 event behind which another indication follows in the same read is not
enough. -/
theorem confirmation_iff (e : complete_env) (cfg : lhkt_config_t) (s : io_t)
    (hfd : s.conf.fd = true) (hidle : s.conf.state.tx_busy = false) (hstop : s.stop = false)
    (hquiet : ∀ round ∈ e.start_rounds ++ e.busy_rounds, Quiet round)
    (hsignal : ∀ round ∈ e.busy_rounds, round.signal = false) :
    (bridge_loraham_wait_tx_complete e cfg s).2 = .OK ↔ IdleAfterRead e cfg s.conf := by
  have hstart : ∀ round ∈ e.start_rounds, Quiet round := fun r hr =>
    hquiet r (List.mem_append_left _ hr)
  have hbusy : ∀ round ∈ e.busy_rounds, Quiet round := fun r hr =>
    hquiet r (List.mem_append_right _ hr)
  have hsaw : wait_saw_tx e s.conf = wait_tx_start s.conf.state.tx_busy_seq
      (e.start + LHKT_TX_START_WAIT_MS) e.start_rounds s.conf := by
    unfold wait_saw_tx
    rw [hidle]
    rfl
  -- what the second loop does behind any reads of the first
  have hrest : ∀ a, (wait_tx_idle (e.busy + cfg.tx_busy_timeout_ms) e.busy_rounds
      { s with conf := s.conf.feed (List.flatMap round_bytes a) }).2 = .OK ↔
        ∃ b, Settles (e.busy + cfg.tx_busy_timeout_ms) e.busy_rounds
          (s.conf.feed (a.flatMap round_bytes)) b := fun a =>
    wait_tx_idle_iff hbusy hsignal { s with conf := s.conf.feed (a.flatMap round_bytes) } hstop
  constructor
  · intro hok
    -- a confirmation needs both loops to succeed
    by_cases hstarted : (wait_saw_tx e s.conf).2 = .OK
    · rw [hsaw] at hstarted
      obtain ⟨a, ha⟩ := wait_tx_start_brought hstart s.conf hstarted
      rw [wait_tx_complete_eq hfd (hsaw.trans (wait_tx_start_brings hstart s.conf a ha)),
        hrest a] at hok
      obtain ⟨b, hb⟩ := hok
      exact ⟨a, b, ha, (settles_iff ha.seen).mp hb⟩
    · unfold bridge_loraham_wait_tx_complete at hok
      rw [hfd, if_neg (by simp)] at hok
      dsimp only at hok
      rw [if_pos hstarted] at hok
      exact absurd hok hstarted
  · rintro ⟨a, b, ha, hb⟩
    rw [wait_tx_complete_eq hfd (hsaw.trans (wait_tx_start_brings hstart s.conf a ha)), hrest a]
    exact ⟨b, (settles_iff ha.seen).mpr hb⟩

/-- The events in two reads, the idle one in the second. -/
theorem confirmation_iff_two_reads : IdleAfterRead two_reads lhkt_config_defaults idle_io.conf := by
  refine (confirmation_iff two_reads lhkt_config_defaults idle_io rfl rfl rfl ?_ ?_).mp
    (by decide +kernel)
  · simp [two_reads, Quiet]
  · simp [two_reads]

/-- TX=1, TX=0 and the next TX=1 in one read, then nothing until the deadline. -/
def back_to_back : complete_env where
  start_rounds := [{ wait := .ready { chunks := [ascii "TX=1\nTX=0\nTX=1\n"] } }]
  busy_rounds := [{ now := 120000 }]

/-- A completed transition that is not confirmed: the lines handled have a TX=0
event behind a TX=1 event, both in time, and the wait ends with LHKT_ERR. -/
theorem transition_missed_in_one_read :
    idle_io.conf.fd = true ∧ idle_io.conf.state.tx_busy = false ∧ idle_io.stop = false ∧
      (∀ round ∈ back_to_back.start_rounds ++ back_to_back.busy_rounds,
        Quiet round ∧ round.signal = false) ∧
      (bridge_loraham_wait_tx_complete back_to_back lhkt_config_defaults idle_io).1.conf.events
        = [.line (ascii "TX=1"), .line (ascii "TX=0"), .line (ascii "TX=1")] ∧
      (bridge_loraham_wait_tx_complete back_to_back lhkt_config_defaults idle_io).2 = .ERR := by
  refine ⟨rfl, rfl, rfl, ?_, by decide +kernel, by decide +kernel⟩
  simp [back_to_back, Quiet]

end LorahamKissTnc.TxComplete
