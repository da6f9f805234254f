import ThreadHaul.Service.ReadLog

/-!
# Getting Ahead in the Log

How far a client of `ReadLog` gets that passes the offset of each reply on.

A call reads a slice of the file, of 1 MiB at most, and returns the end of the last
whole line in it. With a line at the offset that does not fit into the slice, the
slice has no newline, and the reply is the offset of the call: the next call is the
same call again. The log can have such lines, because a command of a controller is
logged as it is, and comes in a frame of up to 1 MiB of its own.

So the calls are those of a line cursor, and what is known of line cursors says
when they get ahead.

## Main definitions

* `nextOffset`: The offset that a reply says to ask for next.
* `GetsAhead`: A call passes a line, if there is one.
* `ReachesEnd`: Some number of calls passes all lines.

## Theorems

* `iterate_nextOffset`: The calls are the moves of a line cursor.
* `readLog_progress_iff`: When one call gets ahead, and when the calls get to the
  end.
-/

namespace ThreadHaul

namespace Service

open LineCursor

section Progress

variable (parse : Bytes → Json)

/-- `logOffset = r.offset` of `refreshLog`. -/
def nextOffset (content : Bytes) (offset : Int) : Int :=
  (readLog parse (some ⟨content, []⟩) true offset).offset

/-- If there is a whole line after the offset, the offset of the reply is greater. -/
def GetsAhead (f : LogFile) (n : Nat) : Prop :=
  lines 10 (f.content.drop n) ≠ [] → (n : Int) < (readLog parse (some f) true n).offset

/-- A client that repeats the call gets to the end of the last whole line. -/
def ReachesEnd (content : Bytes) (n : Nat) : Prop :=
  ∃ k, (nextOffset parse content)^[k] n = upTo 10 content

theorem nextOffset_cursor (content : Bytes) (n : Nat) (h : Cursor 10 content n) :
    nextOffset parse content n = advance 10 kMaxRead content n := by
  rw [nextOffset, readLog_within parse ⟨content, []⟩ n h.1]

/-- The calls are the moves of a line cursor. -/
theorem iterate_nextOffset (content : Bytes) (n : Nat) (h : Cursor 10 content n) (k : Nat) :
    (nextOffset parse content)^[k] n = ((advance 10 kMaxRead content)^[k] n : Nat) := by
  induction k generalizing n with
  | zero => rfl
  | succ k ih =>
      rw [Function.iterate_succ_apply, Function.iterate_succ_apply,
        nextOffset_cursor parse content n h]
      exact ih _ (cursor_advance kMaxRead content n h)

/-- One call gets ahead exactly if the next line fits into what it reads. -/
theorem getsAhead_iff (f : LogFile) (n : Nat) (h : Cursor 10 f.content n) :
    GetsAhead parse f n ↔
      ∀ line ∈ (lines 10 (f.content.drop n)).head?, line.length + 1 ≤ kMaxRead := by
  unfold GetsAhead
  rw [readLog_within parse f n h.1]
  -- What follows the offset holds a whole line, or only a part of one.
  by_cases hmem : (10 : UInt8) ∈ f.content.drop n
  · rcases List.eq_append_cons_of_mem hmem with ⟨line, rest, hnext, hline⟩
    have hmoves := lt_advance_iff kMaxRead f.content n line rest hnext hline
    have hlines : lines 10 (f.content.drop n) = line :: lines 10 rest := by
      rw [hnext, lines_append_cons line rest hline]
    rw [hlines, List.head?_cons, Int.ofNat_lt, hmoves]
    constructor
    · intro hahead first hfirst
      rw [← Option.some.inj hfirst]
      exact hahead (List.cons_ne_nil _ _)
    · intro hfits _
      exact hfits line rfl
  · rw [lines_of_notMem _ hmem]
    exact ⟨fun _ line hline => absurd hline (Option.not_mem_none line),
      fun _ hsome => absurd rfl hsome⟩

/-- When one call gets ahead of an offset at the start of the file or after a
    newline, and when a client that repeats the call gets to the end. -/
theorem readLog_progress_iff (f : LogFile) (n : Nat) (h : Cursor 10 f.content n) :
    (GetsAhead parse f n ↔
        ∀ line ∈ (lines 10 (f.content.drop n)).head?, line.length + 1 ≤ kMaxRead) ∧
      (ReachesEnd parse f.content n ↔
        ∀ line ∈ lines 10 (f.content.drop n), line.length + 1 ≤ kMaxRead) := by
  refine ⟨getsAhead_iff parse f n h, ?_⟩
  rw [← exists_iterate_iff kMaxRead f.content n h]
  refine exists_congr fun k => ?_
  rw [iterate_nextOffset parse f.content n h, Int.natCast_inj]

end Progress

/-- Two entries, and the client has the first. -/
theorem readLog_progress_iff_two :
    GetsAhead (fun _ => .object []) ⟨ascii "\x7b\x7d\n\x7b\x7d\n", []⟩ 3 ∧
      ReachesEnd (fun _ => .object []) (ascii "\x7b\x7d\n\x7b\x7d\n") 3 := by
  have hcursor : Cursor 10 (ascii "\x7b\x7d\n\x7b\x7d\n") 3 :=
    ⟨by decide +kernel, Or.inr (by decide +kernel)⟩
  -- The offset is between the two lines, and the second one is short.
  have hlines : lines 10 ((ascii "\x7b\x7d\n\x7b\x7d\n").drop 3) = [ascii "\x7b\x7d"] := by
    decide +kernel
  have hiff := readLog_progress_iff (fun _ => .object [])
    ⟨ascii "\x7b\x7d\n\x7b\x7d\n", []⟩ 3 hcursor
  rw [hlines] at hiff
  have hfits : (ascii "\x7b\x7d").length + 1 ≤ kMaxRead := by
    decide +kernel
  exact ⟨hiff.1.mpr fun line hline => Option.some.inj hline ▸ hfits,
    hiff.2.mpr (List.forall_mem_singleton.mpr hfits)⟩

/-- A line of 1 MiB at the start of the file. -/
def longLog : LogFile where
  content := List.replicate kMaxRead 97 ++ [10]

/-- The line is not passed by one call, nor by any number of them. -/
theorem not_getsAhead_longLog :
    ¬ GetsAhead (fun _ => .object []) longLog 0 ∧
      ¬ ReachesEnd (fun _ => .object []) longLog.content 0 := by
  have hline : (10 : UInt8) ∉ List.replicate kMaxRead 97 := by
    rw [List.mem_replicate]
    rintro ⟨-, h⟩
    cases h
  have hlong : ¬ (List.replicate kMaxRead (97 : UInt8)).length + 1 ≤ kMaxRead := by
    rw [List.length_replicate]
    omega
  have hlines : lines 10 (longLog.content.drop 0) = [List.replicate kMaxRead 97] := by
    rw [List.drop_zero, longLog, lines_append_cons _ [] hline, lines_nil]
  have hcursor := @cursor_zero _ (10 : UInt8) longLog.content
  -- The one line fills what is read at a time, and its newline comes after.
  constructor
  · rw [getsAhead_iff _ longLog 0 hcursor, hlines]
    exact fun h => hlong (h _ rfl)
  · rintro ⟨k, hk⟩
    -- Later calls read the same bytes again.
    rw [iterate_nextOffset _ longLog.content 0 hcursor, Int.natCast_inj] at hk
    have hall := (exists_iterate_iff kMaxRead longLog.content 0 hcursor).mp ⟨k, hk⟩
    rw [hlines] at hall
    exact hlong (hall _ (List.mem_singleton_self _))

end Service

end ThreadHaul
