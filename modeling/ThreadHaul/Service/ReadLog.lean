import ThreadHaul.Common.Json
import ThreadHaul.Lib.LineCursor

/-!
# Reading the Log

`ReadLog`: the entries of the log behind an offset, and the offset to ask for next.

A call reads a slice of the file and goes through the whole lines of it. The offset
it was asked with comes from the reply to the call before, and a file that is
shorter than that was rotated.

The parser and the writer are taken to return, however deep a line is nested.

With an offset inside the file a call is one step of a line cursor: `readLog_within`.
With an offset behind the end it is a call with offset 0 that says so:
`readLog_behind`.

## Main definitions

* `LogFile`: The file as a call finds it.
* `LogReply`: The members of the reply that depend on the file.
* `entryOf`: The entry in a line.
* `collect`: The loop over the lines.
* `readSlice`, `readLog`: `ReadLog`.

## Theorems

* `collect_eq`: The loop collects the entries of the whole lines.
* `readLog_within`: An offset inside the file.
* `readLog_behind`: An offset behind the end.
-/

namespace ThreadHaul

namespace Service

open LineCursor

/-- The most bytes that a first call reads. -/
def kTail : Nat := 256 * 1024

/-- The most bytes that a later call reads. -/
def kMaxRead : Nat := 1024 * 1024

/-- The file that `CreateFile` opens: what is in it when its size is asked for, and
    what is appended before it is read. -/
structure LogFile where
  content : Bytes
  grown : Bytes := []

/-- The reply, beside `ok` and `log_path`. -/
structure LogReply where
  offset : Int
  reset : Bool
  size : Option Int := none
  entries : List Json := []
  note : Option Bytes := none

/-- `std::string::find`, from a position on. -/
def findByte (buf : Bytes) (c : UInt8) (p : Nat) : Option Nat := ((buf.drop p).idxOf? c).map (p + ·)

/-- `std::string::rfind`. -/
def rfindByte (buf : Bytes) (c : UInt8) : Option Nat :=
  (buf.reverse.idxOf? c).map (buf.length - 1 - ·)

/-- The end of the last whole line, if it is not before `first`. -/
def lastEnd (buf : Bytes) (first : Nat) : Nat :=
  match rfindByte buf 10 with
  | none => first
  | some nl => if nl < first then first else nl + 1

section ReadLog

variable (parse : Bytes → Json)

/-- The entry in a line. What does not parse is discarded, and so is what is not an
    object. -/
def entryOf (line : Bytes) : Option Json :=
  let e := parse (stripCr line)
  if !e.isDiscarded && e.isObject then some e else none

/-- Where the line at a position ends. -/
def lineEnd (buf : Bytes) (stop p : Nat) : Nat :=
  match findByte buf 10 p with
  | none => stop
  | some nl => if stop < nl then stop else nl

theorem le_lineEnd (buf : Bytes) (stop p : Nat) (h : p < stop) : p ≤ lineEnd buf stop p := by
  unfold lineEnd findByte
  cases (buf.drop p).idxOf? 10 with
  | none => exact h.le
  | some k =>
      simp only [Option.map_some]
      split_ifs with hk
      · exact h.le
      · exact Nat.le_add_right p k

/-- The loop over the lines, from a position on. -/
def collect (buf : Bytes) (stop p : Nat) : List Json :=
  if p < stop then
    let nl := lineEnd buf stop p
    (entryOf parse ((buf.drop p).take (nl - p))).toList ++ collect buf stop (nl + 1)
  else []
termination_by stop - p
decreasing_by
  have hend := le_lineEnd buf stop p ‹_›
  omega

/-- What is read from a position on: nothing, if nothing is there or reading fails. -/
def readSlice (f : LogFile) (reads : Bool) (start : Int) : Bytes :=
  let length := min ((f.content.length : Int) - start) kMaxRead
  if 0 < length ∧ reads = true then
    ((f.content ++ f.grown).drop start.toNat).take length.toNat
  else []

/-- `ReadLog`. There is no file if it cannot be opened. -/
def readLog (file : Option LogFile) (reads : Bool) (offset : Int) : LogReply :=
  match file with
  | none =>
      { offset := 0, reset := decide (offset ≠ 0), note := some (ascii "log file not created yet") }
  | some f =>
      let size : Int := f.content.length
      -- The tail of the file on the first load, and all of it after a rotation.
      let reset := decide (offset < 0 ∨ size < offset)
      let start : Int :=
        if offset < 0 then max 0 (size - kTail) else if size < offset then 0 else offset
      let buf := readSlice f reads start
      let first : Nat :=
        if offset < 0 ∧ 0 < start then
          match findByte buf 10 0 with
          | none => buf.length
          | some nl => nl + 1
        else 0
      let stop := lastEnd buf first
      { offset := start + stop
        reset := reset
        size := some size
        entries := collect parse buf stop first }

end ReadLog

section Find

theorem idxOf?_append_cons (line rest : Bytes) (c : UInt8) (h : c ∉ line) :
    (line ++ c :: rest).idxOf? c = some line.length := by
  induction line with
  | nil => rw [List.nil_append, List.idxOf?_cons, if_pos (beq_self_eq_true c), List.length_nil]
  | cons b line ih =>
      rw [List.mem_cons, not_or] at h
      have hne : ¬ (b == c) = true := fun heq => h.1 (eq_of_beq heq).symm
      rw [List.cons_append, List.idxOf?_cons, if_neg hne, ih h.2, Option.map_some,
        List.length_cons]

/-- A search from the start finds what comes before the byte, if it is there at all. -/
theorem findByte_zero (buf : Bytes) (c : UInt8) :
    (c ∉ buf ∧ findByte buf c 0 = none) ∨
      ∃ before rest, c ∉ before ∧ buf = before ++ c :: rest ∧
        findByte buf c 0 = some before.length := by
  by_cases h : c ∈ buf
  · rcases List.eq_append_cons_of_mem h with ⟨before, rest, heq, hbefore⟩
    refine Or.inr ⟨before, rest, hbefore, heq, ?_⟩
    rw [findByte, List.drop_zero, heq, idxOf?_append_cons before rest c hbefore, Option.map_some,
      Nat.zero_add]
  · refine Or.inl ⟨h, ?_⟩
    rw [findByte, List.drop_zero, List.idxOf?_eq_none_iff.mpr h]
    rfl

/-- One from further on does not look at what comes before. -/
theorem findByte_append_cons (before rest : Bytes) (b c : UInt8) :
    findByte (before ++ b :: rest) c (before.length + 1) =
      (findByte rest c 0).map (before.length + 1 + ·) := by
  have hdrop : (before ++ b :: rest).drop (before.length + 1) = rest := by
    rw [List.drop_length_add_append, List.drop_succ_cons, List.drop_zero]
  rw [findByte, hdrop, findByte, List.drop_zero, Option.map_map]
  refine congrArg (fun f => (rest.idxOf? c).map f) (funext fun i => ?_)
  rw [Function.comp_apply, Nat.zero_add]

/-- The end of the last whole line is the position after the last newline. -/
theorem lastEnd_zero (buf : Bytes) : lastEnd buf 0 = upTo 10 buf := by
  unfold lastEnd
  by_cases h : (10 : UInt8) ∈ buf
  · -- The search from the end finds the last newline.
    rcases exists_last buf h with ⟨before, rest, rfl, hrest⟩
    have hreverse : (before ++ 10 :: rest).reverse = rest.reverse ++ 10 :: before.reverse := by
      rw [List.reverse_append, List.reverse_cons, List.append_assoc, List.singleton_append]
    have hfind : rfindByte (before ++ 10 :: rest) 10 = some before.length := by
      rw [rfindByte, hreverse,
        idxOf?_append_cons _ _ _ (fun hmem => hrest (List.mem_reverse.mp hmem)), Option.map_some,
        List.length_reverse, List.length_append, List.length_cons]
      exact congrArg some (by omega)
    rw [hfind, upTo_append_cons before rest hrest]
    exact if_neg (Nat.not_lt_zero _)
  · have hnone : rfindByte buf 10 = none := by
      rw [rfindByte, List.idxOf?_eq_none_iff.mpr (fun hmem => h (List.mem_reverse.mp hmem))]
      rfl
    rw [hnone, upTo_of_not_mem buf h]

end Find

section Collect

variable (parse : Bytes → Json)

/-- The loop collects the entries of the whole lines. -/
theorem collect_eq (buf : Bytes) (stop : Nat) (hends : Ends 10 (buf.take stop)) (p : Nat)
    (hstop : stop ≤ buf.length) :
    collect parse buf stop p = (lines 10 ((buf.take stop).drop p)).filterMap (entryOf parse) := by
  have hlength : (buf.take stop).length = stop := List.length_take_of_le hstop
  fun_induction collect parse buf stop p with
  | case1 p hp nl ih =>
      -- The last byte before `stop` is a newline, so there is one from `p` on.
      have hmem : (10 : UInt8) ∈ (buf.take stop).drop p := by
        rcases hends with hnil | hlast
        · rw [hnil, List.length_nil] at hlength
          omega
        · refine List.mem_of_getLast? ?_
          rw [List.getLast?_drop, if_neg (by omega)]
          exact hlast
      rcases List.eq_append_cons_of_mem hmem with ⟨line, rest, heq, hline⟩
      have hbuf : buf.drop p = line ++ 10 :: (rest ++ buf.drop stop) := by
        have hsplit : buf.drop p = (buf.take stop).drop p ++ buf.drop stop := by
          rw [← List.drop_append_of_le_length (by omega), List.take_append_drop]
        rw [hsplit, heq, List.append_assoc, List.cons_append]
      have hfits : p + line.length < stop := by
        have hcount := congrArg List.length heq
        rw [List.length_drop, hlength, List.length_append, List.length_cons] at hcount
        omega
      have hnl : lineEnd buf stop p = p + line.length := by
        rw [lineEnd, findByte, hbuf, idxOf?_append_cons _ _ _ hline]
        change (if stop < p + line.length then stop else p + line.length) = p + line.length
        exact if_neg (by omega)
      have hdrop : (buf.take stop).drop (lineEnd buf stop p + 1) = rest := by
        rw [hnl, Nat.add_assoc, ← List.drop_drop, heq, List.drop_length_add_append,
          List.drop_succ_cons, List.drop_zero]
      have htake : (buf.drop p).take (lineEnd buf stop p - p) = line := by
        rw [hnl, Nat.add_sub_cancel_left, hbuf, List.take_left]
      rw [ih, hdrop, htake, heq, lines_append_cons line rest hline, List.filterMap_cons]
      cases entryOf parse line with
      | none => rfl
      | some entry => rfl
  | case2 p hp =>
      rw [List.drop_eq_nil_of_le (by omega), lines_nil, List.filterMap_nil]

/-- What is read from a position inside the file. What is appended in the meantime
    is not in it. -/
theorem readSlice_within (f : LogFile) (start : Nat) (h : start ≤ f.content.length) :
    readSlice f true start = slice kMaxRead f.content start := by
  have hlength : (min ((f.content.length : Int) - start) kMaxRead).toNat
      = min kMaxRead (f.content.length - start) := by omega
  unfold readSlice
  dsimp only
  split_ifs with hread
  · rw [hlength, Int.toNat_natCast, List.drop_append_of_le_length h, slice, ← List.take_take,
      List.take_append_of_le_length (List.length_drop ..).ge,
      List.take_of_length_le (List.length_drop ..).le]
  · -- Nothing is left to read, and the slice is empty as well.
    have hend : f.content.length ≤ start := by
      simp only [kMaxRead, and_true, not_lt] at hread
      omega
    rw [slice, List.drop_eq_nil_of_le hend, List.take_nil]

/-- An offset inside the file: the entries in the whole lines of a slice. -/
theorem readLog_within (f : LogFile) (offset : Nat) (h : offset ≤ f.content.length) :
    readLog parse (some f) true offset =
      { offset := advance 10 kMaxRead f.content offset
        reset := false
        size := some f.content.length
        entries := (lines 10 ((slice kMaxRead f.content offset).take
          (upTo 10 (slice kMaxRead f.content offset)))).filterMap (entryOf parse) } := by
  -- Within the file there is no reset, and the slice is that of a line cursor.
  have hnonneg : ¬ ((offset : Int) < 0) := by omega
  have hinside : ¬ ((f.content.length : Int) < offset) := by omega
  unfold readLog
  simp only [hnonneg, hinside, or_self, decide_false, if_false, false_and,
    readSlice_within f offset h, lastEnd_zero]
  rw [collect_eq parse _ _ (ends_take_upTo _) 0 (upTo_le_length _), List.drop_zero, advance,
    Nat.cast_add]

/-- An offset behind the end of the file: the file was rotated, and it is read from
    its start. -/
theorem readLog_behind (f : LogFile) (reads : Bool) (offset : Int)
    (h : (f.content.length : Int) < offset) :
    readLog parse (some f) reads offset
      = { readLog parse (some f) reads 0 with reset := true } := by
  have hnonneg : ¬ (offset < 0) := by omega
  have hinside : ¬ ((f.content.length : Int) < 0) := by omega
  unfold readLog
  simp only [h, hnonneg, hinside, or_true, lt_self_iff_false, decide_true, if_true,
    if_false, false_and]

end Collect

end Service

end ThreadHaul
