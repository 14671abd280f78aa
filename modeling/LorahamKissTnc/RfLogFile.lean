/-
`rflog.c`, retention: the live file and `<path>.1`.

A line that would take the live file past its limit first copies it to
`<path>.1` and truncates it. The kernel answers every call on its own: the copy
consumes one list of answers for its reads and writes, appending the line
another, and a list that ends stands for a kernel that does the rest at once.
`Fails` reads off the answers alone whether the copy fails and how far it has
come by then.

`<path>.1` is opened with `O_TRUNC`, so a copy that fails later leaves the bytes
copied so far in the place of the previous segment (`rollover_keeps_iff`). Without
failures the two files are a suffix of what was written, line by line
(`Segments`).
-/
import LorahamKissTnc.Lib.CString
import LorahamKissTnc.Lib.Machine

set_option autoImplicit false

open LorahamKissTnc.Lib.CString LorahamKissTnc.Lib.Machine

namespace LorahamKissTnc.RfLogFile

/-! ## The files -/

/-- The contents of the live file and of `<path>.1`; a file that does not exist
has none. -/
structure rflog_t where
  live : Bytes := []
  prev : Bytes := []
  deriving DecidableEq, Repr

/-- What `pread` or `write` answers: a number of bytes, which a read of a file
that has more keeps between 1 and the size of the buffer. -/
inductive io_ret where
  | count (n : Nat)
  | eintr
  | fail
  deriving DecidableEq, Repr

/-- The environment of `rflog_write_line`. -/
structure write_env where
  fstat : Bool := true
  opened : Bool := true
  copy : List io_ret := []
  truncated : Bool := true
  append : List io_ret := []
  deriving DecidableEq, Repr

/-- The size of `chunk[]`. -/
abbrev CHUNK_SIZE : Nat := 65536

/-- The bytes a read of up to `CHUNK_SIZE` gives when `n` are offered and `left`
are there. -/
def pread_count (n left : Nat) : Nat := min (min (max 1 n) CHUNK_SIZE) left

/-- The loop of `rflog_copy_to_previous`: `off` bytes were read, `rest` is the part
of them still to be written, `prev` is what was written. -/
def rflog_copy_loop (live : Bytes) : Nat → Bytes → Bytes → List io_ret → Bytes × Bool
  | off, rest, prev, [] => (prev ++ rest ++ live.drop off, true)
  | off, rest, prev, .eintr :: script => rflog_copy_loop live off rest prev script
  | _, _, prev, .fail :: _ => (prev, false)
  | off, [], prev, .count n :: script =>
      let chunk := (live.drop off).take (pread_count n (live.length - off))
      -- reading nothing is the end of the file
      if chunk = [] then (prev, true)
      else rflog_copy_loop live (off + chunk.length) chunk prev script
  | off, b :: rest, prev, .count n :: script =>
      rflog_copy_loop live off ((b :: rest).drop n) (prev ++ (b :: rest).take n) script

/-- `rflog_copy_to_previous`. Opening truncates. -/
def rflog_copy_to_previous (e : write_env) (s : rflog_t) : rflog_t × Bool :=
  if !e.opened then (s, false)
  else
    let r := rflog_copy_loop s.live 0 [] [] e.copy
    ({ s with prev := r.1 }, r.2)

/-- The loop of `rflog_write_line`: the number of bytes of the line that are
written, `done` of `len` so far. -/
def rflog_write_loop (len : Nat) : Nat → List io_ret → Nat
  | _, [] => len
  | done, r :: script =>
      if len ≤ done then done
      else match r with
        | .count n => rflog_write_loop len (min (done + n) len) script
        | .eintr => rflog_write_loop len done script
        | .fail => done

/-- The line does not fit any more: the live file is copied, and truncated when the
copy succeeded. -/
def rflog_roll (e : write_env) (s : rflog_t) : rflog_t :=
  let r := rflog_copy_to_previous e s
  if r.2 ∧ e.truncated then { r.1 with live := [] } else r.1

/-- `rflog_write_line` with `g_max_bytes`. -/
def rflog_write_line (max_bytes : Nat) (e : write_env) (line : Bytes) (s : rflog_t) : rflog_t :=
  let s := if e.fstat ∧ max_bytes < s.live.length + line.length then rflog_roll e s else s
  { s with live := s.live ++ line.take (rflog_write_loop line.length 0 e.append) }

/-! ## The copy -/

/-- The answers fail the copy of a file of `size` bytes when `k` bytes of it have
been written; `off` bytes were read so far, and `rest` of them are to be written. -/
inductive Fails (size : Nat) : Nat → Nat → List io_ret → Nat → Prop
  | fail {off rest : Nat} {script : List io_ret} : Fails size off rest (.fail :: script) (off - rest)
  | eintr {off rest : Nat} {script : List io_ret} {k : Nat} (h : Fails size off rest script k) :
      Fails size off rest (.eintr :: script) k
  | read {off n : Nat} {script : List io_ret} {k : Nat} (hmore : off < size)
      (h : Fails size (off + pread_count n (size - off)) (pread_count n (size - off)) script k) :
      Fails size off 0 (.count n :: script) k
  | write {off rest n : Nat} {script : List io_ret} {k : Nat}
      (h : Fails size off (rest + 1 - n) script k) :
      Fails size off (rest + 1) (.count n :: script) k

/-- Where the copy stands: `prev` is the beginning of the file, and `rest` is the
next part of what was read. -/
structure Copying (live : Bytes) (off : Nat) (rest prev : Bytes) : Prop where
  split : prev ++ rest = live.take off
  le : off ≤ live.length

theorem Copying.start (live : Bytes) : Copying live 0 [] [] := ⟨rfl, Nat.zero_le _⟩

theorem Copying.length {live rest prev : Bytes} {off : Nat} (h : Copying live off rest prev) :
    prev.length + rest.length = off := by
  have hlen := congrArg List.length h.split
  have hle := h.le
  rw [List.length_append, List.length_take] at hlen
  omega

theorem Copying.prev_eq {live rest prev : Bytes} {off : Nat} (h : Copying live off rest prev) :
    prev = live.take (off - rest.length) := by
  have hlen := h.length
  have htake := congrArg (List.take prev.length) h.split
  rw [List.take_left, List.take_take] at htake
  rw [htake]
  congr 1
  omega

theorem Copying.whole {live rest prev : Bytes} {off : Nat} (h : Copying live off rest prev) :
    prev ++ rest ++ live.drop off = live := by
  rw [h.split, List.take_append_drop]

/-- A chunk is read when the last one is written. -/
theorem Copying.read {live prev : Bytes} {off : Nat} (h : Copying live off [] prev) (n : Nat)
    (hmore : off < live.length) :
    ((live.drop off).take (pread_count n (live.length - off))).length
        = pread_count n (live.length - off) ∧
      Copying live (off + pread_count n (live.length - off))
        ((live.drop off).take (pread_count n (live.length - off))) prev := by
  have hcount : pread_count n (live.length - off) ≤ live.length - off := Nat.min_le_right _ _
  refine ⟨?_, ?_, by omega⟩
  · rw [List.length_take, List.length_drop]
    omega
  · have hsplit := h.split
    rw [List.append_nil] at hsplit
    rw [hsplit, List.take_add]

/-- Some of it is written. -/
theorem Copying.write {live rest prev : Bytes} {off : Nat} (h : Copying live off rest prev)
    (n : Nat) : Copying live off (rest.drop n) (prev ++ rest.take n) := by
  refine ⟨?_, h.le⟩
  rw [List.append_assoc, List.take_append_drop, h.split]

theorem pread_count_pos {n left : Nat} (h : 0 < left) : 0 < pread_count n left := by
  unfold pread_count
  simp only [CHUNK_SIZE]
  omega

/-- **A failed copy** leaves the bytes written so far. -/
theorem copy_loop_of_fails {live : Bytes} {off r k : Nat} {script : List io_ret}
    (hfails : Fails live.length off r script k) : ∀ {rest prev : Bytes}, rest.length = r →
      Copying live off rest prev →
        rflog_copy_loop live off rest prev script = (live.take k, false) := by
  induction hfails with
  | fail =>
      intro rest prev hr h
      -- what was written is everything up to the reading position but the rest
      rw [rflog_copy_loop, h.prev_eq, hr]
  | eintr _ ih =>
      intro rest prev hr h
      rw [rflog_copy_loop]
      exact ih hr h
  | @read off n script k hmore _ ih =>
      intro rest prev hr h
      -- nothing is left to write, so the next answer is one of `pread`
      obtain rfl := List.length_eq_zero_iff.mp hr
      obtain ⟨hlen, hread⟩ := h.read n hmore
      have hpos : 0 < pread_count n (live.length - off) := pread_count_pos (by omega)
      have hchunk : (live.drop off).take (pread_count n (live.length - off)) ≠ [] := by
        rw [← List.length_pos_iff, hlen]
        exact hpos
      rw [rflog_copy_loop, if_neg hchunk, hlen]
      exact ih hlen hread
  | @write off r n script k _ ih =>
      intro rest prev hr h
      match rest with
      | [] => exact absurd hr (by simp)
      | b :: rest =>
          rw [rflog_copy_loop]
          apply ih
          · rw [List.length_drop, hr]
          · exact h.write n

/-- **A copy that does not fail** is complete. -/
theorem copy_loop_of_not_fails {live : Bytes} (script : List io_ret) :
    ∀ {off : Nat} {rest prev : Bytes}, Copying live off rest prev →
      (∀ k, ¬ Fails live.length off rest.length script k) →
        rflog_copy_loop live off rest prev script = (live, true) := by
  induction script with
  | nil =>
      intro off rest prev h _
      rw [rflog_copy_loop, h.whole]
  | cons ret script ih =>
      intro off rest prev h hnever
      cases ret with
      | eintr =>
          rw [rflog_copy_loop]
          exact ih h fun k hk => hnever k (.eintr hk)
      | fail => exact absurd .fail (hnever _)
      | count n =>
          cases rest with
          | nil =>
              rw [rflog_copy_loop]
              by_cases hmore : off < live.length
              · obtain ⟨hlen, hread⟩ := h.read n hmore
                have hpos : 0 < pread_count n (live.length - off) := pread_count_pos (by omega)
                have hchunk : (live.drop off).take (pread_count n (live.length - off)) ≠ [] := by
                  rw [← List.length_pos_iff, hlen]
                  exact hpos
                rw [if_neg hchunk, hlen]
                apply ih hread
                intro k hk
                rw [hlen] at hk
                exact hnever k (.read hmore hk)
              · -- the end of the file
                have hle := h.le
                have hend : live.drop off = [] := List.drop_eq_nil_of_le (by omega)
                have hwhole := h.whole
                rw [hend, List.append_nil, List.append_nil] at hwhole
                rw [hend, List.take_nil, if_pos rfl, hwhole]
          | cons b rest =>
              rw [rflog_copy_loop]
              apply ih (h.write n)
              intro k hk
              rw [List.length_drop] at hk
              exact hnever k (.write hk)

/-- `rflog_copy_to_previous`, told from the answers alone. -/
theorem rflog_copy_to_previous_cases (e : write_env) (s : rflog_t) :
    (e.opened = false ∧ rflog_copy_to_previous e s = (s, false)) ∨
      (e.opened = true ∧ ∃ k, Fails s.live.length 0 0 e.copy k ∧
        rflog_copy_to_previous e s = ({ s with prev := s.live.take k }, false)) ∨
      (e.opened = true ∧ (∀ k, ¬ Fails s.live.length 0 0 e.copy k) ∧
        rflog_copy_to_previous e s = ({ s with prev := s.live }, true)) := by
  unfold rflog_copy_to_previous
  cases hopen : e.opened with
  | false => exact .inl ⟨rfl, rfl⟩
  | true =>
      right
      by_cases hfails : ∃ k, Fails s.live.length 0 0 e.copy k
      · obtain ⟨k, hk⟩ := hfails
        -- the file was emptied when it was opened, so only the copied bytes are in it
        refine .inl ⟨rfl, k, hk, ?_⟩
        simp only [copy_loop_of_fails hk rfl (.start s.live)]
        rfl
      · have hnever : ∀ k, ¬ Fails s.live.length 0 0 e.copy k := fun k hk => hfails ⟨k, hk⟩
        refine .inr ⟨rfl, hnever, ?_⟩
        simp only [copy_loop_of_not_fails e.copy (.start s.live) hnever]
        rfl

/-! ## One line -/

/-- The line does not fit, so the file is to be copied first. -/
def Rolls (max_bytes : Nat) (e : write_env) (line : Bytes) (s : rflog_t) : Prop :=
  e.fstat = true ∧ max_bytes < s.live.length + line.length

/-- The copy was made, from the first byte to the last. -/
def Copied (max_bytes : Nat) (e : write_env) (line : Bytes) (s : rflog_t) : Prop :=
  Rolls max_bytes e line s ∧ (rflog_copy_to_previous e s).2 = true

/-- Nothing is lost on a failed copy: without a complete one the previous segment
is as it was, and the live file has only been extended, by a part of the line. -/
def Kept (max_bytes : Nat) (e : write_env) (line : Bytes) (s : rflog_t) : Prop :=
  ¬ Copied max_bytes e line s →
    (rflog_write_line max_bytes e line s).prev = s.prev ∧
      ∃ part, part <+: line ∧ (rflog_write_line max_bytes e line s).live = s.live ++ part

/-- The branch that loses something: the file is opened and thereby emptied, and the
copy fails with other bytes in it than those that were there. -/
def Overwritten (max_bytes : Nat) (e : write_env) (line : Bytes) (s : rflog_t) : Prop :=
  Rolls max_bytes e line s ∧ e.opened = true ∧
    ∃ k, Fails s.live.length 0 0 e.copy k ∧ s.live.take k ≠ s.prev

/-- What becomes of the previous segment and of the live file before the line is
written. -/
theorem rflog_write_line_eq (max_bytes : Nat) (e : write_env) (line : Bytes) (s : rflog_t) :
    ∃ part, part <+: line ∧
      ((¬ Rolls max_bytes e line s ∧
        rflog_write_line max_bytes e line s = { s with live := s.live ++ part }) ∨
      (Rolls max_bytes e line s ∧ rflog_write_line max_bytes e line s
        = { rflog_roll e s with live := (rflog_roll e s).live ++ part })) := by
  refine ⟨line.take (rflog_write_loop line.length 0 e.append), List.take_prefix _ _, ?_⟩
  unfold rflog_write_line
  by_cases hroll : Rolls max_bytes e line s
  · have hcond := hroll
    unfold Rolls at hcond
    rw [if_pos hcond]
    exact .inr ⟨hroll, rfl⟩
  · have hcond := hroll
    unfold Rolls at hcond
    rw [if_neg hcond]
    exact .inl ⟨hroll, rfl⟩

/-- **A failed copy**, exactly. -/
theorem kept_iff (max_bytes : Nat) (e : write_env) (line : Bytes) (s : rflog_t) :
    Kept max_bytes e line s ↔ ¬ Overwritten max_bytes e line s := by
  obtain ⟨part, hpart, ⟨hroll, hwrite⟩ | ⟨hroll, hwrite⟩⟩ := rflog_write_line_eq max_bytes e line s
  · -- the line fits
    refine iff_of_true (fun _ => ?_) (fun hover => hroll hover.1)
    rw [hwrite]
    exact ⟨rfl, part, hpart, rfl⟩
  unfold Kept Copied Overwritten
  rw [hwrite]
  rcases rflog_copy_to_previous_cases e s with ⟨hopen, hcopy⟩ | ⟨hopen, k, hk, hcopy⟩ |
    ⟨hopen, hnever, hcopy⟩
  · -- opening failed
    refine iff_of_true (fun _ => ?_) (fun hover => ?_)
    · have hkeep : rflog_roll e s = s := by
        simp [rflog_roll, hcopy]
      rw [hkeep]
      exact ⟨rfl, part, hpart, rfl⟩
    · rw [hopen] at hover
      exact Bool.false_ne_true hover.2.1
  · have hroll' : rflog_roll e s = { s with prev := s.live.take k } := by
      simp [rflog_roll, hcopy]
    rw [hroll', hcopy]
    constructor
    · rintro hkept ⟨-, -, k', hk', hne⟩
      have hprev : s.live.take k = s.prev := (hkept fun hdone => Bool.false_ne_true hdone.2).1
      -- the answers fail the copy in one place only
      have hsame : s.live.take k' = s.live.take k := by
        have hloop := copy_loop_of_fails hk rfl (.start s.live)
        rw [copy_loop_of_fails hk' rfl (.start s.live)] at hloop
        exact congrArg Prod.fst hloop
      exact hne (hsame.trans hprev)
    · intro hnot _
      have hprev : s.live.take k = s.prev := by
        by_contra hne
        exact hnot ⟨hroll, hopen, k, hk, hne⟩
      exact ⟨hprev, part, hpart, rfl⟩
  · -- the copy is complete
    refine iff_of_true (fun hdone => ?_) ?_
    · rw [hcopy] at hdone
      exact absurd ⟨hroll, rfl⟩ hdone
    · rintro ⟨-, -, k, hk, -⟩
      exact hnever k hk

/-! ## Without failures -/

/-- No operation fails; interrupted calls and partial counts may still occur. -/
def NoFailure (e : write_env) : Prop :=
  e.fstat = true ∧ e.opened = true ∧ .fail ∉ e.copy ∧ e.truncated = true ∧ .fail ∉ e.append

/-- The files hold consecutive lines of a sequence, up to its last. -/
def Segments (lines : List Bytes) (s : rflog_t) : Prop :=
  ∃ gone before now, lines = gone ++ before ++ now ∧ s.prev = before.flatten ∧
    s.live = now.flatten

theorem not_fails_of_forall {size off rest k : Nat} {script : List io_ret}
    (hfails : Fails size off rest script k) : .fail ∈ script := by
  induction hfails with
  | fail => exact List.mem_cons_self
  | eintr _ ih => exact List.mem_cons_of_mem _ ih
  | read _ _ ih => exact List.mem_cons_of_mem _ ih
  | write _ ih => exact List.mem_cons_of_mem _ ih

/-- Without a failure the whole line is written. -/
theorem rflog_write_loop_eq {script : List io_ret} (hscript : .fail ∉ script) (len : Nat) :
    ∀ done ≤ len, rflog_write_loop len done script = len := by
  induction script with
  | nil => exact fun done _ => rfl
  | cons ret script ih =>
      intro done hdone
      rw [List.mem_cons, not_or] at hscript
      unfold rflog_write_loop
      by_cases hfull : len ≤ done
      · rw [if_pos hfull]
        omega
      · rw [if_neg hfull]
        cases ret with
        | count n => exact ih hscript.2 _ (Nat.min_le_right _ _)
        | eintr => exact ih hscript.2 done hdone
        | fail => exact absurd rfl hscript.1

/-- **A line**, without failures. -/
theorem Segments.line {lines : List Bytes} {s : rflog_t} (h : Segments lines s)
    (max_bytes : Nat) {e : write_env} (he : NoFailure e) (line : Bytes) :
    Segments (lines ++ [line]) (rflog_write_line max_bytes e line s) := by
  obtain ⟨gone, before, now, rfl, hprev, hlive⟩ := h
  obtain ⟨hfstat, hopen, hcopy, htrunc, happend⟩ := he
  have hline : line.take (rflog_write_loop line.length 0 e.append) = line := by
    rw [rflog_write_loop_eq happend _ 0 (Nat.zero_le _), List.take_length]
  -- without a failure the copy is complete, and the live file starts over
  have hroll : rflog_roll e s = { live := [], prev := s.live } := by
    rcases rflog_copy_to_previous_cases e s with ⟨hclosed, -⟩ | ⟨-, k, hk, -⟩ | ⟨-, -, hdone⟩
    · exact absurd (hopen.symm.trans hclosed) (by decide)
    · exact absurd (not_fails_of_forall hk) hcopy
    · simp [rflog_roll, hdone, htrunc]
  unfold rflog_write_line
  rw [hline]
  split
  · -- the live lines become the previous segment
    refine ⟨gone ++ before, now, [line], rfl, ?_, ?_⟩
    · rw [hroll, ← hlive]
    · rw [hroll]
      simp
  · refine ⟨gone, before, now ++ [line], ?_, hprev, ?_⟩
    · rw [List.append_assoc]
    · rw [List.flatten_append, ← hlive]
      simp

/-- Any lines. -/
theorem Segments.run {max_bytes : Nat} (ws : List (Bytes × write_env)) :
    ∀ {lines : List Bytes} {s : rflog_t}, Segments lines s → (∀ w ∈ ws, NoFailure w.2) →
      Segments (lines ++ ws.map Prod.fst)
        (run (fun s w => rflog_write_line max_bytes w.2 w.1 s) s ws) := by
  induction ws with
  | nil =>
      intro lines s h _
      rw [List.map_nil, List.append_nil]
      exact h
  | cons w ws ih =>
      intro lines s h hws
      have hnext := h.line max_bytes (hws w List.mem_cons_self) w.1
      rw [List.map_cons, List.append_cons]
      exact ih hnext fun w' hw' => hws w' (List.mem_cons_of_mem _ hw')

/-- **RF log rollover.** A line loses nothing on a failed copy exactly when it is not
the case that the copy is opened and then fails with other bytes written than the
previous segment had. And while no operation fails, the previous segment and the
live file together are always a contiguous suffix of all lines written. -/
theorem rollover_keeps_iff (max_bytes : Nat) :
    (∀ (e : write_env) (line : Bytes) (s : rflog_t),
      Kept max_bytes e line s ↔ ¬ Overwritten max_bytes e line s) ∧
    ∀ (before now : List Bytes) (ws : List (Bytes × write_env)), (∀ w ∈ ws, NoFailure w.2) →
      Segments (before ++ now ++ ws.map Prod.fst)
        (run (fun s w => rflog_write_line max_bytes w.2 w.1 s) ⟨now.flatten, before.flatten⟩ ws) := by
  constructor
  · exact fun e line s => kept_iff max_bytes e line s
  · intro before now ws hws
    exact Segments.run ws ⟨[], before, now, rfl, rfl, rfl⟩ hws

/-- Two lines with room for one: the second rolls the first out, whatever the pieces
are in which it is copied. -/
theorem rollover_keeps_two :
    let ws : List (Bytes × write_env) :=
      [(ascii "A\n", {}), (ascii "B\n", { copy := [.count 1, .eintr, .count 1, .count 9] })]
    let s := run (fun s w => rflog_write_line 3 w.2 w.1 s) ⟨[], []⟩ ws
    s = { live := ascii "B\n", prev := ascii "A\n" } ∧ Segments (ws.map Prod.fst) s := by
  intro ws s
  exact ⟨by decide, (rollover_keeps_iff 3).2 [] [] ws (by unfold NoFailure; decide)⟩

/-- The disk is full when the first chunk of the copy is written: the previous
segment is gone, and nothing is in its place. -/
theorem rollover_loses_previous :
    let s : rflog_t := { live := ascii "B\n", prev := ascii "A\n" }
    let e : write_env := { copy := [.count 2, .fail] }
    ¬ Copied 3 e (ascii "C\n") s ∧
      rflog_write_line 3 e (ascii "C\n") s = { live := ascii "B\nC\n", prev := [] } ∧
      ¬ Kept 3 e (ascii "C\n") s := by
  intro s e
  have hcopied : ¬ Copied 3 e (ascii "C\n") s := fun h => absurd h.2 (by decide)
  refine ⟨hcopied, by decide, ?_⟩
  intro hkept
  exact absurd (hkept hcopied).1 (by decide)

end LorahamKissTnc.RfLogFile
