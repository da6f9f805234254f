import ThreadHaul.Lib.Runs
import ThreadHaul.Service.ReadLog

/-!
# Following a Log That Grows

A client of the dashboard follows the log: it starts with offset 0, and passes the
offset of a reply in its next call. In between, and while a call is running, bytes
are appended to the file.

The offset is a line cursor at all times, and what was returned so far are the
entries of the lines before it: `Caught`. So nothing is returned twice and nothing
is left out, however the appends and the calls fall. A call also gets ahead, as long
as a line is not longer than what one call reads.

## Main definitions

* `Reader`, `ReaderEvent`: The file and the client, and what happens.
* `Caught`: The client has the entries of the lines before its offset.

## Theorems

* `caught_step`: Every step.
* `reader_exactly_once`: Every run.
-/

namespace ThreadHaul

namespace Service

open LineCursor Runs

/-- The log file, the offset of the last reply, and all entries returned so far. -/
structure Reader where
  file : Bytes
  offset : Int := 0
  entries : List Json := []

/-- The file grows, or the client asks. -/
inductive ReaderEvent
  | append (data : Bytes)
  /-- A call, and what is appended while it runs. -/
  | call (grown : Bytes)

section Reader

variable (parse : Bytes → Json)

/-- One event. -/
def Reader.step (s : Reader) : ReaderEvent → Reader
  | .append data => { s with file := s.file ++ data }
  | .call grown =>
      let r := readLog parse (some ⟨s.file, grown⟩) true s.offset
      { file := s.file ++ grown, offset := r.offset, entries := s.entries ++ r.entries }

/-- The client has the entries of the lines before its offset. -/
structure Caught (s : Reader) (n : Nat) : Prop where
  offset : s.offset = n
  cursor : Cursor 10 s.file n
  entries : s.entries = (lines 10 (s.file.take n)).filterMap (entryOf parse)

variable {parse}

/-- A call returns the entries of the lines it passes. -/
theorem caught_call (s : Reader) (n : Nat) (h : Caught parse s n) (grown : Bytes) :
    Caught parse (s.step parse (.call grown)) (advance 10 kMaxRead s.file n) := by
  have hreply := readLog_within parse ⟨s.file, grown⟩ n h.cursor.1
  rw [← h.offset] at hreply
  have hcursor := cursor_advance kMaxRead s.file n h.cursor
  have hgrown := cursor_append s.file (advance 10 kMaxRead s.file n) grown hcursor
  refine ⟨congrArg LogReply.offset hreply, hgrown.1, ?_⟩
  change s.entries ++ (readLog parse (some ⟨s.file, grown⟩) true s.offset).entries
    = (lines 10 ((s.file ++ grown).take _)).filterMap (entryOf parse)
  rw [hreply, h.entries, hgrown.2, lines_take_advance kMaxRead s.file n h.cursor,
    List.filterMap_append]

theorem caught_step (s : Reader) (i : ReaderEvent) (h : ∃ n, Caught parse s n) :
    ∃ n, Caught parse (s.step parse i) n := by
  rcases h with ⟨n, hn⟩
  cases i with
  | append data =>
      -- What is before the offset stays.
      rcases cursor_append s.file n data hn.cursor with ⟨hcursor, htake⟩
      refine ⟨n, hn.offset, hcursor, ?_⟩
      change s.entries = (lines 10 ((s.file ++ data).take n)).filterMap (entryOf parse)
      rw [htake]
      exact hn.entries
  | call grown => exact ⟨_, caught_call s n hn grown⟩

/-- A call gets ahead of the next line, unless the line is too long. -/
theorem offset_call_past (s : Reader) (n : Nat) (h : Caught parse s n)
    (hlines : ∀ line ∈ lines 10 s.file, line.length + 1 ≤ kMaxRead) (grown line rest : Bytes)
    (hnext : s.file.drop n = line ++ 10 :: rest) (hline : (10 : UInt8) ∉ line) :
    s.offset + line.length + 1
      ≤ (readLog parse (some ⟨s.file, grown⟩) true s.offset).offset := by
  have hmem : line ∈ lines 10 s.file := by
    rw [← List.take_append_drop n s.file, lines_append _ _ h.cursor.2, hnext,
      lines_append_cons line rest hline]
    exact List.mem_append_right _ (List.mem_cons_self ..)
  -- The line fits into one read, so the call goes past it.
  have hpast := advance_past kMaxRead s.file n line rest hnext (hlines line hmem)
  have hreply := readLog_within parse ⟨s.file, grown⟩ n h.cursor.1
  rw [h.offset, hreply]
  dsimp only
  omega

variable (parse)

/-- In every run from offset 0 on, the entries returned so far are those of the lines
    before the last offset, in order and once each. The offset is at the start of the
    file or after a newline, and the next call passes the next line if no line is
    longer than what it reads. -/
theorem reader_exactly_once (file : Bytes) (l : List ReaderEvent) :
    let s := run (Reader.step parse) { file := file } l
    (s.entries = (lines 10 (s.file.take s.offset.toNat)).filterMap (entryOf parse)) ∧
      (s.offset = 0 ∨
        (0 < s.offset ∧ s.offset ≤ s.file.length ∧ s.file[s.offset.toNat - 1]? = some 10)) ∧
      ((∀ line ∈ lines 10 s.file, line.length + 1 ≤ kMaxRead) →
        ∀ grown line rest, s.file.drop s.offset.toNat = line ++ 10 :: rest → (10 : UInt8) ∉ line →
          s.offset + line.length + 1
            ≤ (readLog parse (some ⟨s.file, grown⟩) true s.offset).offset) := by
  intro s
  have hstart : Caught parse { file := file } 0 :=
    ⟨rfl, cursor_zero file, by rw [List.take_zero, lines_nil, List.filterMap_nil]⟩
  -- At every time the client has the entries of the lines before some cursor.
  rcases run_invariant (Reader.step parse) (fun s => ∃ n, Caught parse s n) caught_step l _
    ⟨0, hstart⟩ with ⟨n, hn⟩
  have hnat : s.offset.toNat = n := by
    rw [hn.offset, Int.toNat_natCast]
  refine ⟨?_, ?_, ?_⟩
  · rw [hnat]
    exact hn.entries
  · rcases Nat.eq_zero_or_pos n with hzero | hpos
    · left
      rw [hn.offset, hzero, Nat.cast_zero]
    · right
      rw [hnat, hn.offset]
      exact ⟨by omega, Int.ofNat_le.mpr hn.cursor.1, getElem?_of_cursor s.file n hn.cursor hpos⟩
  · rw [hnat]
    exact fun hlines grown line rest => offset_call_past s n hn hlines grown line rest

end Reader

end Service

end ThreadHaul
