import ThreadHaul.Lib.Runs
import ThreadHaul.Logging.Live
import ThreadHaul.Service.ReadLog

/-!
# Following a Log That Rotates

The log is followed while the logger writes it. The logger changes the live file one
call of the system after the other, and the client may ask between any two of them.
When the file is full it is renamed, and a new one takes its place.

`ReadLog` takes a file that is shorter than the offset for a new one. A new file that
is as long as the offset by the time the client asks is taken for the old one, so the
lines before the offset are never returned, and the entries that follow start in the
middle of a line. `Shorter` excludes this, and `noticed_iff` says that nothing else
goes wrong: a client that notices every rotation has the entries of the lines before
its offset in the current file, once each.

## Main definitions

* `Follower`: The live file and the client.
* `Followed`, `FollowEvent`: The logger at work, and the client in between.
* `Noticed`: A call after a rotation starts over and says so.
* `Delivered`: The client has the lines of the current file before its offset.
* `Shorter`: A new file is shorter than the offset, or there is none yet.

## Theorems

* `live_run`: The file is the one the logger wrote, once its calls are through.
* `noticed_iff_shorter`: One call.
* `noticed_iff`: Every run.
-/

namespace ThreadHaul

namespace Service

open Channel LineCursor Logging Runs

/-- The live file, the offset of the last reply, whether the file was renamed or
    deleted since, and the entries since the last reply that started over. -/
structure Follower where
  live : Option Bytes
  offset : Int := 0
  rotated : Bool := false
  entries : List Json := []

/-- A logger, the calls of a write that are still to come, and the client. -/
structure Followed where
  store : Store
  pending : List LiveEvent := []
  follower : Follower

/-- What happens to a log and a client that reads it. -/
inductive FollowEvent
  /-- A write begins. -/
  | write (line : Bytes) (calls : Calls)
  /-- The next call of the write. -/
  | os
  /-- The client asks. What is appended before the file is read is part of a later
      call of the write. -/
  | call (grown : Bytes)

section Steps

variable (p : Primitives)

/-- The reply to a call with an offset. -/
def Follower.reply (s : Follower) (grown : Bytes) (offset : Int) : LogReply :=
  readLog p.parse (s.live.map fun content => ⟨content, grown⟩) true offset

/-- The client asks from its offset on, and takes what comes. -/
def Follower.call (s : Follower) (grown : Bytes) : Follower :=
  let r := s.reply p grown s.offset
  { live := s.live
    offset := r.offset
    rotated := false
    entries := if r.reset then r.entries else s.entries ++ r.entries }

/-- A system call of the logger. -/
def Follower.os (s : Follower) (e : LiveEvent) : Follower :=
  { s with live := liveStep s.live e, rotated := s.rotated || decide (e = .removed) }

/-- A write begins when the one before has made all its calls, since the logger has
    a lock. -/
def Followed.step (s : Followed) : FollowEvent → Followed
  | .write line calls =>
      if s.pending = [] then
        { s with
          store := (writeLine p calls s.store line).store
          pending := liveEvents p calls s.store line }
      else s
  | .os =>
      match s.pending with
      | [] => s
      | e :: rest => { s with pending := rest, follower := s.follower.os e }
  | .call grown => { s with follower := s.follower.call p grown }

/-- A client that starts with offset 0. -/
def Followed.start (store : Store) : Followed where
  store := store
  follower := { live := store.disk 0 }

/-- A call after a rotation starts at the beginning of the file and says so. -/
def Noticed (s : Followed) : FollowEvent → Prop
  | .call grown => s.follower.rotated = true → 0 < s.follower.offset →
      s.follower.reply p grown s.follower.offset
        = { s.follower.reply p grown 0 with reset := true }
  | .write _ _ | .os => True

/-- Where the file has not been rotated since the last call, the client has the
    entries of the lines before its offset. -/
def Delivered (s : Followed) : Prop :=
  s.follower.rotated = false →
    0 ≤ s.follower.offset ∧
      Cursor 10 (s.follower.live.getD []) s.follower.offset.toNat ∧
      s.follower.entries = (lines 10 ((s.follower.live.getD []).take
        s.follower.offset.toNat)).filterMap (entryOf p.parse)

/-- A file that is read after a rotation is shorter than the offset. -/
def Shorter (s : Followed) : FollowEvent → Prop
  | .call _ => s.follower.rotated = true → 0 < s.follower.offset →
      ∀ content, s.follower.live = some content → (content.length : Int) < s.follower.offset
  | .write _ _ | .os => True

end Steps

section Live

variable {p : Primitives}

/-- The file that the logger wrote is the one that is followed, once the calls of the
    write are through. -/
theorem live_step (s : Followed) (i : FollowEvent)
    (h : s.pending.foldl liveStep s.follower.live = s.store.disk 0) :
    (s.step p i).pending.foldl liveStep (s.step p i).follower.live
      = (s.step p i).store.disk 0 := by
  -- A write announces its events, and the operating system carries them out one by one.
  cases i with
  | write line calls =>
      unfold Followed.step
      dsimp only
      split_ifs with hidle
      · rw [hidle, List.foldl_nil] at h
        dsimp only
        rw [live_writeLine, h]
      · exact h
  | os =>
      unfold Followed.step
      rcases hpending : s.pending with _ | ⟨e, rest⟩
      · dsimp only
        exact h
      · rw [hpending, List.foldl_cons] at h
        exact h
  | call grown => exact h

theorem live_run (store : Store) (l : List FollowEvent) :
    let s := run (Followed.step p) (Followed.start store) l
    s.pending.foldl liveStep s.follower.live = s.store.disk 0 :=
  run_invariant (Followed.step p)
    (fun s => s.pending.foldl liveStep s.follower.live = s.store.disk 0) live_step l _ rfl

end Live

section Calls

variable (p : Primitives)

theorem reply_none (s : Follower) (h : s.live = none) (grown : Bytes) (offset : Int) :
    s.reply p grown offset =
      { offset := 0, reset := decide (offset ≠ 0),
        note := some (ascii "log file not created yet") } := by
  rw [Follower.reply, h]
  rfl

theorem reply_some (s : Follower) (content : Bytes) (h : s.live = some content) (grown : Bytes)
    (offset : Int) :
    s.reply p grown offset = readLog p.parse (some ⟨content, grown⟩) true offset := by
  rw [Follower.reply, h]
  rfl

/-- A call after a rotation starts over exactly if the file is shorter than the offset,
    or there is none. -/
theorem noticed_iff_shorter (s : Followed) (i : FollowEvent) : Noticed p s i ↔ Shorter s i := by
  cases i with
  | write line calls => exact Iff.rfl
  | os => exact Iff.rfl
  | call grown =>
      refine forall_congr' fun _ => forall_congr' fun hpos => ?_
      cases hlive : s.follower.live with
      | none =>
          rw [reply_none p s.follower hlive, reply_none p s.follower hlive]
          refine iff_of_true ?_ fun content hcontent => absurd hcontent (Option.some_ne_none _).symm
          rw [decide_eq_true hpos.ne']
      | some content =>
          constructor
          · intro hreply content' hcontent
            cases hcontent
            by_contra hlong
            -- The offset is inside the file, and the reply does not start over.
            rcases Int.eq_ofNat_of_zero_le hpos.le with ⟨n, hn⟩
            have hwithin := readLog_within p.parse ⟨content, grown⟩ n (by dsimp only; omega)
            rw [reply_some p s.follower content hlive, hn, hwithin] at hreply
            exact Bool.false_ne_true (congrArg LogReply.reset hreply)
          · intro hshort
            rw [reply_some p s.follower content hlive, reply_some p s.follower content hlive]
            exact readLog_behind p.parse ⟨content, grown⟩ true _ (hshort content rfl)

end Calls

section Delivery

variable (p : Primitives)

/-- What is kept: where the file has not been rotated the client has the lines before
    its offset, and with offset 0 it has nothing. -/
structure Kept (s : Follower) (n : Nat) : Prop where
  offset : s.offset = n
  current : s.rotated = false →
    Cursor 10 (s.live.getD []) n ∧
      s.entries = (lines 10 ((s.live.getD []).take n)).filterMap (entryOf p.parse)
  empty : n = 0 → s.entries = []

variable {p}

theorem kept_os (s : Follower) (n : Nat) (h : Kept p s n) (e : LiveEvent) :
    Kept p (s.os e) n := by
  refine ⟨h.offset, ?_, h.empty⟩
  intro hrotated
  rcases Bool.or_eq_false_iff.mp hrotated with ⟨hold, hkept⟩
  -- An append leaves what was read; a removal means that the file was rotated.
  cases e with
  | opened => exact h.current hold
  | appended data =>
      have happend := cursor_append (s.live.getD []) n data (h.current hold).1
      refine ⟨happend.1, ?_⟩
      change s.entries = (lines 10 ((s.live.getD [] ++ data).take n)).filterMap (entryOf p.parse)
      rw [happend.2]
      exact (h.current hold).2
  | removed => cases hkept

/-- A client that has just had a reply has the lines before its offset. -/
theorem kept_of_entries (s : Follower) (content : Bytes) (hlive : s.live = some content) (n : Nat)
    (hoffset : s.offset = n) (hcursor : Cursor 10 content n)
    (hentries : s.entries = (lines 10 (content.take n)).filterMap (entryOf p.parse)) :
    Kept p s n := by
  refine ⟨hoffset, fun _ => ?_, ?_⟩
  · rw [hlive]
    exact ⟨hcursor, hentries⟩
  · rintro rfl
    rw [hentries, List.take_zero, lines_nil, List.filterMap_nil]

/-- A call with an offset inside the file, from a client that has the lines before it. -/
theorem kept_within (s : Follower) (content grown : Bytes) (hlive : s.live = some content) (n : Nat)
    (hoffset : s.offset = n) (hcursor : Cursor 10 content n)
    (hentries : s.entries = (lines 10 (content.take n)).filterMap (entryOf p.parse)) :
    Kept p (s.call p grown) (advance 10 kMaxRead content n) := by
  have hreply := reply_some p s content hlive grown n
  rw [readLog_within p.parse ⟨content, grown⟩ n hcursor.1, ← hoffset] at hreply
  refine kept_of_entries (s.call p grown) content hlive _ (congrArg LogReply.offset hreply)
    (cursor_advance kMaxRead content n hcursor) ?_
  unfold Follower.call
  dsimp only
  rw [hreply, lines_take_advance kMaxRead content n hcursor, List.filterMap_append, ← hentries]
  exact if_neg Bool.false_ne_true

/-- A call with an offset behind the end of the file. -/
theorem kept_behind (s : Follower) (content grown : Bytes) (hlive : s.live = some content)
    (hshort : (content.length : Int) < s.offset) :
    Kept p (s.call p grown) (advance 10 kMaxRead content 0) := by
  -- The reply is the one to offset 0, but for the flag.
  have hfirst := readLog_within p.parse ⟨content, grown⟩ 0 (Nat.zero_le _)
  rw [Nat.cast_zero] at hfirst
  have hreply := reply_some p s content hlive grown s.offset
  rw [readLog_behind p.parse ⟨content, grown⟩ true s.offset hshort, hfirst] at hreply
  refine kept_of_entries (s.call p grown) content hlive _ (congrArg LogReply.offset hreply)
    (cursor_advance kMaxRead content 0 (cursor_zero content)) ?_
  unfold Follower.call
  dsimp only
  rw [hreply, lines_take_advance kMaxRead content 0 (cursor_zero content), List.filterMap_append,
    List.take_zero, lines_nil, List.filterMap_nil, List.nil_append]
  exact if_pos rfl

theorem kept_call (s : Followed) (n : Nat) (h : Kept p s.follower n) (grown : Bytes)
    (hshorter : Shorter s (.call grown)) : ∃ n', Kept p (s.follower.call p grown) n' := by
  cases hlive : s.follower.live with
  | none =>
      -- There is no file, and the client starts over.
      have hreply := reply_none p s.follower hlive grown s.follower.offset
      have hentries : (s.follower.call p grown).entries = [] := by
        unfold Follower.call
        dsimp only
        rw [hreply]
        dsimp only
        split_ifs with hreset
        · rfl
        · rw [decide_eq_true_iff, not_not, h.offset, Int.natCast_eq_zero] at hreset
          rw [h.empty hreset, List.append_nil]
      refine ⟨0, congrArg LogReply.offset hreply, fun _ => ?_, fun _ => hentries⟩
      refine ⟨cursor_zero _, ?_⟩
      rw [hentries, List.take_zero, lines_nil, List.filterMap_nil]
  | some content =>
      by_cases hfresh : s.follower.rotated = true ∧ 0 < s.follower.offset
      · exact ⟨_, kept_behind s.follower content grown hlive
          (hshorter hfresh.1 hfresh.2 content hlive)⟩
      · have hcaught : Cursor 10 content n ∧
            s.follower.entries = (lines 10 (content.take n)).filterMap (entryOf p.parse) := by
          by_cases hrotated : s.follower.rotated = true
          · -- The client is at the start of the file, whichever file it is.
            have hzero : n = 0 := by
              have hstart := not_and.mp hfresh hrotated
              rw [h.offset] at hstart
              omega
            rw [h.empty hzero, hzero, List.take_zero, lines_nil, List.filterMap_nil]
            exact ⟨cursor_zero content, rfl⟩
          · have hcurrent := h.current (Bool.eq_false_iff.mpr hrotated)
            rw [hlive] at hcurrent
            exact hcurrent
        exact ⟨_, kept_within s.follower content grown hlive n h.offset hcaught.1 hcaught.2⟩

theorem kept_step (s : Followed) (i : FollowEvent) (hshorter : Shorter s i)
    (h : ∃ n, Kept p s.follower n) : ∃ n, Kept p (s.step p i).follower n := by
  rcases h with ⟨n, hn⟩
  -- A write alone changes no file, so the follower is where it was.
  cases i with
  | write line calls =>
      unfold Followed.step
      dsimp only
      split_ifs
      · exact ⟨n, hn⟩
      · exact ⟨n, hn⟩
  | os =>
      unfold Followed.step
      rcases s.pending with _ | ⟨e, rest⟩
      · exact ⟨n, hn⟩
      · exact ⟨n, kept_os s.follower n hn e⟩
  | call grown => exact kept_call s n hn grown hshorter

theorem delivered_of_kept (s : Followed) (h : ∃ n, Kept p s.follower n) : Delivered p s := by
  rcases h with ⟨n, hn⟩
  intro hrotated
  have hnat : s.follower.offset.toNat = n := by
    rw [hn.offset, Int.toNat_natCast]
  rw [hnat, hn.offset]
  exact ⟨Int.natCast_nonneg n, hn.current hrotated⟩

variable (p)

/-- In every run of a logger and a client, every rotation is noticed and what the
    client has are the lines of the current file before its offset, once each, exactly
    if every file that is read after a rotation is shorter than the offset. -/
theorem noticed_iff (store : Store) (l : List FollowEvent) :
    (Along (Followed.step p) (Noticed p) (Followed.start store) l ∧
        Throughout (Followed.step p) (Delivered p) (Followed.start store) l) ↔
      Along (Followed.step p) Shorter (Followed.start store) l := by
  -- Step by step, a rotation is noticed just under the condition.
  have hiff : Along (Followed.step p) (Noticed p) (Followed.start store) l ↔
      Along (Followed.step p) Shorter (Followed.start store) l :=
    along_iff_along (Followed.step p) (Noticed p) Shorter (fun _ => True)
      (fun _ _ _ => trivial) (fun s i _ => noticed_iff_shorter p s i) l _ trivial
  have hstart : Kept p (Followed.start store).follower 0 := by
    refine ⟨rfl, fun _ => ⟨cursor_zero _, ?_⟩, fun _ => rfl⟩
    rw [List.take_zero, lines_nil, List.filterMap_nil]
    rfl
  rw [hiff]
  refine and_iff_left_of_imp fun hshorter => ?_
  exact throughout_of_along (Followed.step p) Shorter (fun s => ∃ n, Kept p s.follower n)
    (Delivered p) delivered_of_kept kept_step l _ hshorter ⟨0, hstart⟩

end Delivery

section Missed

/-- No file, and room for 100 bytes in each. -/
def smallStore : Store where
  disk _ := none
  logger := { maxFileBytes := 100, maxRotatedFiles := 1 }

/-- A write with all its calls: `n` of them. -/
def writeEvents (line : Bytes) (n : Nat) : List FollowEvent :=
  .write line {} :: List.replicate n .os

/-- A short line is written and read, and a long one is written. It does not fit, so it
    goes into a new file. -/
def missedEvents : List FollowEvent :=
  writeEvents (longEntry 4) 2 ++ .call [] :: writeEvents (longEntry 60) 3

/-- The new file is as long as the offset, and the client does not notice. -/
theorem not_noticed_missed :
    ¬ Along (Followed.step lengthPrimitives) (Noticed lengthPrimitives)
        (Followed.start smallStore) (missedEvents ++ [.call []]) := by
  intro h
  rw [along_append] at h
  have hshorter := (noticed_iff_shorter lengthPrimitives _ _).mp h.2.1
  have hlive : (run (Followed.step lengthPrimitives) (Followed.start smallStore)
      missedEvents).follower.live.isSome = true := by
    decide +kernel
  -- The new file is already as long as the offset of the client.
  have hlong : (run (Followed.step lengthPrimitives) (Followed.start smallStore)
        missedEvents).follower.offset ≤
      ((run (Followed.step lengthPrimitives) (Followed.start smallStore)
        missedEvents).follower.live.getD []).length := by
    decide +kernel
  rcases Option.isSome_iff_exists.mp hlive with ⟨content, hcontent⟩
  have hshort := hshorter (by decide +kernel) (by decide +kernel) content hcontent
  rw [hcontent, Option.getD_some] at hlong
  omega

end Missed

end Service

end ThreadHaul
