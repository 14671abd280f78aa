/-
`bridge_conf.c`: the CONF socket, from the bytes the daemon sends on it to the
flags the transmit gate reads.

The line buffer is the list of the bytes in it; a completed line is handled as
the C string it holds. `bridge_conf_feed` answers with the lines it handed to
`bridge_conf_handle_line`, so that a caller can keep the history of a
connection: `conf_t` is the descriptor and the parser state together with what
was written on the connection, the lines that were handled and the initial
configurations that were started (`events`), the write histories of earlier
connections, and the frequencies reported as sent.

`bridge_conf_read_available` reads until the socket has no more; its environment
is the chunks it gets and how the reading ends. Interrupted reads are retried
and leave no trace.
-/
import LorahamKissTnc.LorahamSock

set_option autoImplicit false

open LorahamKissTnc.Lib.CString LorahamKissTnc.Lib.Channel LorahamKissTnc.Lib.Machine
open LorahamKissTnc.Config

namespace LorahamKissTnc.BridgeConf

abbrev LHKT_CONF_LINE_MAX : Nat := 512

/-! ## The parser -/

/-- `bridge_conf_state_t`; `line_len` is the length of `line`. -/
structure bridge_conf_state_t where
  tx_busy : Bool := false
  cad_busy : Bool := false
  radio_ready : Bool := false
  have_status : Bool := false
  txresult_known : Bool := false
  txresult_enabled : Bool := false
  tx_seq : Nat := 0
  tx_busy_seq : Nat := 0
  tx_idle_seq : Nat := 0
  cad_seq : Nat := 0
  cad_busy_seq : Nat := 0
  cad_idle_seq : Nat := 0
  line : Bytes := []
  discard : Bool := false
  deriving DecidableEq, Repr

/-- `bridge_conf_state_init`. -/
def bridge_conf_state_init : bridge_conf_state_t := {}

/-- `bridge_conf_txresult_enabled`. -/
def bridge_conf_txresult_enabled (state : bridge_conf_state_t) : Bool :=
  state.txresult_known && state.txresult_enabled

/-- `bridge_parse_flag_line`: the whole line is the key and one digit. -/
def bridge_parse_flag_line (line key : Bytes) : Option Bool :=
  if !key.isPrefixOf line then none
  else if line.drop key.length = ascii "1" then some true
  else if line.drop key.length = ascii "0" then some false
  else none

/-- `bridge_status_flag_token`: the digit behind the first occurrence of the
key. -/
def bridge_status_flag_token (line key : Bytes) : Option Bool :=
  match strstr key line with
  | none => none
  | some pos =>
      -- whether a token starts there is not looked at
      match pos.drop key.length with
      | [] => none
      | d :: _ => if d = ch '1' then some true else if d = ch '0' then some false else none

/-- A line starting with `STATUS `. -/
def is_status (line : Bytes) : Bool := (ascii "STATUS ").isPrefixOf line

/-- `bridge_conf_handle_line`. -/
def bridge_conf_handle_line (state : bridge_conf_state_t) (line : Bytes) : bridge_conf_state_t :=
  if line = [] then state
  else match bridge_parse_flag_line line (ascii "TX=") with
  | some value =>
      -- an event counts; the flags of a STATUS line below do not
      { state with
        tx_busy := value
        tx_seq := state.tx_seq + 1
        tx_busy_seq := if value then state.tx_busy_seq + 1 else state.tx_busy_seq
        tx_idle_seq := if value then state.tx_idle_seq else state.tx_idle_seq + 1 }
  | none =>
    match bridge_parse_flag_line line (ascii "CAD=") with
    | some value =>
        { state with
          cad_busy := value
          cad_seq := state.cad_seq + 1
          cad_busy_seq := if value then state.cad_busy_seq + 1 else state.cad_busy_seq
          cad_idle_seq := if value then state.cad_idle_seq else state.cad_idle_seq + 1 }
    | none =>
        if is_status line then
          { state with
            have_status := true
            radio_ready :=
              if (strstr (ascii "RADIO=READY") line).isSome then true
              else if (strstr (ascii "RADIO=FAILED") line).isSome ∨
                  (strstr (ascii "RADIO=UNINITIALIZED") line).isSome then false
              -- any other state, or none, leaves the flag
              else state.radio_ready
            tx_busy := (bridge_status_flag_token line (ascii "TX=")).getD state.tx_busy
            cad_busy := (bridge_status_flag_token line (ascii "CAD=")).getD state.cad_busy
            txresult_known :=
              (bridge_status_flag_token line (ascii "TXRESULT=")).isSome || state.txresult_known
            txresult_enabled :=
              (bridge_status_flag_token line (ascii "TXRESULT=")).getD state.txresult_enabled }
        else state

/-- One byte of `bridge_conf_feed`, answering with the line it completed. -/
def bridge_conf_feed_byte (state : bridge_conf_state_t) (c : UInt8) :
    bridge_conf_state_t × Option Bytes :=
  if c = ch '\r' then (state, none)
  else if c = ch '\n' then
    -- the end of an over-long line: none of it is handled
    if state.discard then ({ state with discard := false, line := [] }, none)
    else
      ({ bridge_conf_handle_line state (cstr state.line) with line := [] }, some (cstr state.line))
  else if state.discard then (state, none)
  -- too long for the buffer with its terminator
  else if LHKT_CONF_LINE_MAX ≤ state.line.length + 1 then
    ({ state with discard := true, line := [] }, none)
  else ({ state with line := state.line ++ [c] }, none)

/-- `bridge_conf_feed`: the state afterwards and the lines that were handled. -/
def bridge_conf_feed (state : bridge_conf_state_t) (buf : Bytes) :
    bridge_conf_state_t × List Bytes :=
  let r := scan bridge_conf_feed_byte state buf
  (r.1, r.2.filterMap id)

/-! ## The connection -/

/-- What happens on a CONF connection as far as the transmit gate is concerned:
a line is handled, or an initial configuration is started. -/
inductive conf_event where
  | line (l : Bytes)
  | config
  deriving DecidableEq, Repr

/-- The CONF descriptor, its parser state and its history. -/
structure conf_t where
  fd : Bool := false
  state : bridge_conf_state_t := {}
  tx : List (Sent UInt8) := []
  events : List conf_event := []
  closed : List (List (Sent UInt8)) := []
  freqs : List ℚ := []

/-- How reading until there is no more ends. -/
inductive read_end where
  | again
  | eof
  | fail
  deriving DecidableEq, Repr

/-- The environment of one `bridge_conf_read_available`. -/
structure conf_read_env where
  chunks : List Bytes := []
  last : read_end := .again
  deriving DecidableEq, Repr

/-- The bytes of one read are fed to the parser. -/
def conf_t.feed (c : conf_t) (buf : Bytes) : conf_t :=
  let r := bridge_conf_feed c.state buf
  { c with state := r.1, events := c.events ++ r.2.map .line }

/-- `bridge_conf_read_available` on an open socket. -/
def bridge_conf_read_available (e : conf_read_env) (c : conf_t) : conf_t × Lhkt :=
  (e.chunks.foldl conf_t.feed c, if e.last = .again then .OK else .ERR)

/-- What `select` says in `bridge_conf_wait_read`. -/
inductive conf_wait_env where
  | fail
  | eintr
  | timeout
  | ready (read : conf_read_env)
  deriving DecidableEq, Repr

/-- `bridge_conf_wait_read` on an open socket. -/
def bridge_conf_wait_read (e : conf_wait_env) (c : conf_t) : conf_t × Except Lhkt Bool :=
  match e with
  | .fail => (c, .error .ERR)
  -- an interrupted wait is one in which nothing came
  | .eintr => (c, .ok false)
  | .timeout => (c, .ok false)
  | .ready read =>
      let r := bridge_conf_read_available read c
      (r.1, if r.2 = .OK then .ok true else .error .ERR)

/-! ## CAD counters -/

/-- `cad_stats_busy_seq` and `cad_stats_idle_seq` of the main loop. -/
structure cad_seen_t where
  busy_seq : Nat := 0
  idle_seq : Nat := 0
  deriving DecidableEq, Repr

/-- `bridge_conf_collect_cad_stats`. A sequence number that went back belongs to
a new connection. -/
def bridge_conf_collect_cad_stats (state : bridge_conf_state_t) (stats : lhkt_stats_t)
    (last : cad_seen_t) : lhkt_stats_t × cad_seen_t :=
  let busy := min last.busy_seq state.cad_busy_seq
  let idle := min last.idle_seq state.cad_idle_seq
  ({ stats with
      cad_busy_events := stats.cad_busy_events + (state.cad_busy_seq - busy)
      cad_idle_events := stats.cad_idle_events + (state.cad_idle_seq - idle)
      cad_current_busy := state.cad_busy },
    ⟨state.cad_busy_seq, state.cad_idle_seq⟩)

/-! ## What reading can change -/

/-- A step of the parser either handles the line it completed or leaves every
flag and counter alone. -/
theorem bridge_conf_feed_byte_cases (state : bridge_conf_state_t) (c : UInt8) :
    (∃ l, (bridge_conf_feed_byte state c).2 = some l ∧
      (bridge_conf_feed_byte state c).1 = { bridge_conf_handle_line state l with line := [] }) ∨
    ((bridge_conf_feed_byte state c).2 = none ∧ ∃ line discard,
      (bridge_conf_feed_byte state c).1 = { state with line := line, discard := discard }) := by
  unfold bridge_conf_feed_byte
  split
  · exact .inr ⟨rfl, state.line, state.discard, rfl⟩
  · split
    · split
      · exact .inr ⟨rfl, [], false, rfl⟩
      · exact .inl ⟨cstr state.line, rfl, rfl⟩
    · split
      · exact .inr ⟨rfl, state.line, state.discard, rfl⟩
      · split
        · exact .inr ⟨rfl, [], true, rfl⟩
        · exact .inr ⟨rfl, state.line ++ [c], state.discard, rfl⟩

/-- **Induction over what is read.** A relation between the parser state and the
history of the connection holds after a feed when it survives the two things a
byte can do: handle a line, or move bytes in and out of the line buffer. -/
theorem bridge_conf_feed_induction {P : bridge_conf_state_t → List conf_event → Prop}
    (hline : ∀ state events l, P state events →
      P { bridge_conf_handle_line state l with line := [] } (events ++ [.line l]))
    (hbuf : ∀ state events line discard, P state events →
      P { state with line := line, discard := discard } events)
    (buf : Bytes) : ∀ state events, P state events →
      P (bridge_conf_feed state buf).1 (events ++ (bridge_conf_feed state buf).2.map .line) := by
  induction buf with
  | nil =>
      intro state events h
      show P state (events ++ [])
      rwa [List.append_nil]
  | cons c buf ih =>
      intro state events h
      unfold bridge_conf_feed at ih ⊢
      rw [scan_cons]
      rcases bridge_conf_feed_byte_cases state c with ⟨l, hl, hstate⟩ | ⟨hl, line, discard, hstate⟩
      · rw [hl]
        show P _ (events ++ (.line l :: _))
        rw [List.append_cons, hstate]
        exact ih _ _ (hline state events l h)
      · rw [hl, hstate]
        exact ih _ _ (hbuf state events line discard h)

/-- The same for everything one `bridge_conf_read_available` reads. -/
theorem conf_feed_all_induction {P : bridge_conf_state_t → List conf_event → Prop}
    (hline : ∀ state events l, P state events →
      P { bridge_conf_handle_line state l with line := [] } (events ++ [.line l]))
    (hbuf : ∀ state events line discard, P state events →
      P { state with line := line, discard := discard } events)
    (chunks : List Bytes) : ∀ c : conf_t, P c.state c.events →
      P (chunks.foldl conf_t.feed c).state (chunks.foldl conf_t.feed c).events := by
  induction chunks with
  | nil => exact fun c h => h
  | cons buf chunks ih =>
      intro c h
      exact ih (c.feed buf) (bridge_conf_feed_induction hline hbuf buf c.state c.events h)

/-- Reading changes the parser state and the lines handled, nothing else. -/
theorem conf_feed_all_frame (chunks : List Bytes) (c : conf_t) :
    ∃ state events, chunks.foldl conf_t.feed c = { c with state := state, events := events } := by
  induction chunks generalizing c with
  | nil => exact ⟨c.state, c.events, rfl⟩
  | cons buf chunks ih =>
      obtain ⟨state, events, h⟩ := ih (c.feed buf)
      exact ⟨state, events, h⟩

theorem bridge_conf_read_available_frame (e : conf_read_env) (c : conf_t) :
    ∃ state events, (bridge_conf_read_available e c).1
      = { c with state := state, events := events } :=
  conf_feed_all_frame e.chunks c

/-- Between `c` and `c'` bytes were read and fed to the parser. -/
def Fed (c c' : conf_t) : Prop := ∃ chunks : List Bytes, c' = chunks.foldl conf_t.feed c

theorem Fed.refl (c : conf_t) : Fed c c := ⟨[], rfl⟩

theorem Fed.trans {c c' c'' : conf_t} (h : Fed c c') (h' : Fed c' c'') : Fed c c'' := by
  obtain ⟨chunks, rfl⟩ := h
  obtain ⟨chunks', rfl⟩ := h'
  exact ⟨chunks ++ chunks', List.foldl_append.symm⟩

theorem Fed.frame {c c' : conf_t} (h : Fed c c') :
    ∃ state events, c' = { c with state := state, events := events } := by
  obtain ⟨chunks, rfl⟩ := h
  exact conf_feed_all_frame chunks c

/-- Reading does not see what was written before. -/
theorem Fed.commands {c c' : conf_t} {tx : List (Sent UInt8)} {freqs : List ℚ}
    (h : Fed { c with tx := tx, freqs := freqs } c') :
    ∃ c'', Fed c c'' ∧ c' = { c'' with tx := tx, freqs := freqs } := by
  obtain ⟨chunks, rfl⟩ := h
  refine ⟨chunks.foldl conf_t.feed c, ⟨chunks, rfl⟩, ?_⟩
  induction chunks generalizing c with
  | nil => rfl
  | cons buf chunks ih => exact @ih (c.feed buf)

theorem fed_read_available (e : conf_read_env) (c : conf_t) :
    Fed c (bridge_conf_read_available e c).1 :=
  ⟨e.chunks, rfl⟩

theorem fed_wait_read (e : conf_wait_env) (c : conf_t) : Fed c (bridge_conf_wait_read e c).1 := by
  match e with
  | .fail => exact Fed.refl c
  | .eintr => exact Fed.refl c
  | .timeout => exact Fed.refl c
  | .ready read => exact fed_read_available read c

end LorahamKissTnc.BridgeConf
