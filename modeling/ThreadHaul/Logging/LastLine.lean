import ThreadHaul.Logging.Tamper

/-!
# The Last Line of a Log

When `LastLineHash` finds the hash of the last line of a file.

The check of a file and `LastLineHash` do not read the same lines. The check splits
the whole file at its newlines and takes one carriage return from the end of each
line. `LastLineHash` reads the last 64 KiB, takes all that ends lines from their
end, however many there are, and looks for a newline from there.

So there are two ways to miss. A line may end in carriage returns of its own, and a
line may begin before the part of the file that is read. Both are conditions on the
last line that is not blank and on what comes after it, `FindsLast`. There is nothing
in the way of a long line: what the daemon logs includes the commands of a
controller, which are as long as a frame.

## Main definitions

* `Blank`: A line that does not count.
* `FindsLast`: The last line that counts is found.

## Theorems

* `exists_last`: Some line is the last one that is not blank, or all of them are.
* `logLines_last`: The last line that the check sees.
* `lastLineHash_stripped`: What is hashed does not end with a carriage return.
* `lastLineHash_body`: What is hashed if the line does not either.
* `lastLineHash_iff`: When the hash is that of the last line.
-/

namespace ThreadHaul

namespace Logging

open Channel TextLines

/-- A line that the check of a file skips. -/
def Blank (line : Bytes) : Prop := line = [] ∨ line = [13]

/-- The last line that is not blank does not end in two carriage returns, and it
    begins within the last 64 KiB. -/
def FindsLast (lines : List Bytes) : Prop :=
  ∀ init line blanks, lines = init ++ line :: blanks → ¬ Blank line → (∀ l ∈ blanks, Blank l) →
    ¬ [13, 13] <:+ line ∧ (unlines 10 (line :: blanks)).length ≤ 65536

section Lines

/-- Some line is the last one that is not blank, or all of them are. -/
theorem exists_last (lines : List Bytes) :
    (∀ l ∈ lines, Blank l) ∨
      ∃ init line blanks, lines = init ++ line :: blanks ∧ ¬ Blank line ∧
        ∀ l ∈ blanks, Blank l := by
  -- From the end: a blank line is passed over, and the first other one is the last line.
  induction lines using List.reverseRecOn with
  | nil => exact Or.inl fun l hl => absurd hl List.not_mem_nil
  | append_singleton lines last ih =>
      by_cases hlast : Blank last
      · cases ih with
        | inl hall =>
            refine Or.inl ?_
            rw [List.forall_mem_append, List.forall_mem_singleton]
            exact ⟨hall, hlast⟩
        | inr hsome =>
            obtain ⟨init, line, blanks, rfl, hline, hblanks⟩ := hsome
            refine Or.inr ⟨init, line, blanks ++ [last], ?_, hline, ?_⟩
            · rw [List.append_assoc, List.cons_append]
            · rw [List.forall_mem_append, List.forall_mem_singleton]
              exact ⟨hblanks, hlast⟩
      · exact Or.inr ⟨lines, last, [], rfl, hlast, fun l hl => absurd hl List.not_mem_nil⟩

/-- The check takes the carriage return from the end of a line. -/
theorem stripCr_eq_nil_iff (line : Bytes) : stripCr line = [] ↔ Blank line := by
  unfold stripCr Blank
  -- Only a carriage return at the end is dropped.
  by_cases hlast : line.getLast? = some 13
  · obtain ⟨start, rfl⟩ := List.getLast?_eq_some_iff.mp hlast
    rw [if_pos hlast, List.dropLast_concat]
    constructor
    · rintro rfl
      exact Or.inr rfl
    · rintro (hnil | hone)
      · exact absurd hnil (List.append_ne_nil_of_right_ne_nil _ (List.cons_ne_nil _ _))
      · exact @List.append_cancel_right _ start [13] [] hone
  · rw [if_neg hlast]
    constructor
    · exact Or.inl
    · rintro (hnil | rfl)
      · exact hnil
      · exact absurd rfl hlast

/-- What the check sees of a file. -/
theorem logLines_unlines_stripCr (lines : List Bytes) (hlines : ∀ line ∈ lines, 10 ∉ line) :
    logLines (unlines 10 lines) = (lines.map stripCr).filter fun line => !line.isEmpty := by
  rw [logLines, splitOn_unlines 10 lines hlines, List.map_append, List.filter_append]
  exact List.append_nil _

theorem filter_stripCr_blanks (blanks : List Bytes) (hblanks : ∀ l ∈ blanks, Blank l) :
    (blanks.map stripCr).filter (fun line => !line.isEmpty) = [] := by
  rw [List.filter_eq_nil_iff, List.forall_mem_map]
  intro l hl
  rw [(stripCr_eq_nil_iff l).mpr (hblanks l hl)]
  exact Bool.false_ne_true

/-- The last line that the check sees. -/
theorem logLines_last (init : List Bytes) (line : Bytes) (blanks : List Bytes)
    (hlines : ∀ l ∈ init ++ line :: blanks, 10 ∉ l) (hline : ¬ Blank line)
    (hblanks : ∀ l ∈ blanks, Blank l) :
    (logLines (unlines 10 (init ++ line :: blanks))).getLast? = some (stripCr line) := by
  -- The line is kept by the filter, and no blank line after it is.
  have hkept : (!(stripCr line).isEmpty) = true := by
    rw [Bool.not_eq_true', List.isEmpty_eq_false_iff]
    exact fun h => hline ((stripCr_eq_nil_iff line).mp h)
  rw [logLines_unlines_stripCr _ hlines, List.map_append, List.map_cons, List.filter_append,
    List.filter_cons, if_pos hkept, filter_stripCr_blanks blanks hblanks, List.getLast?_concat]

/-- What follows the last line ends lines. -/
theorem isLineEnd_of_blanks (blanks : List Bytes) (hblanks : ∀ l ∈ blanks, Blank l) (c : UInt8)
    (hc : c ∈ unlines 10 blanks) : isLineEnd c = true := by
  rw [unlines, List.mem_flatMap] at hc
  obtain ⟨l, hl, hc⟩ := hc
  rcases hblanks l hl with rfl | rfl
  · rw [List.nil_append, List.mem_singleton] at hc
    rw [hc]
    rfl
  · rw [List.singleton_append, List.mem_cons, List.mem_singleton] at hc
    rcases hc with rfl | rfl <;> rfl

end Lines

/-- There is only one last line that is not blank. -/
theorem last_unique (init init' : List Bytes) (line line' : Bytes) (blanks blanks' : List Bytes)
    (hsame : init ++ line :: blanks = init' ++ line' :: blanks') (hline : ¬ Blank line)
    (hline' : ¬ Blank line') (hblanks : ∀ l ∈ blanks, Blank l)
    (hblanks' : ∀ l ∈ blanks', Blank l) : line = line' ∧ blanks = blanks' := by
  -- If one split came later, its line would be among the blanks of the other.
  rcases List.append_eq_append_iff.mp hsame with ⟨more, _, hmore⟩ | ⟨more, _, hmore⟩
  · cases more with
    | nil => exact ⟨(List.cons.inj hmore).1, (List.cons.inj hmore).2⟩
    | cons first more =>
        have hin : line' ∈ blanks := by
          rw [(List.cons.inj hmore).2]
          exact List.mem_append_right _ List.mem_cons_self
        exact absurd (hblanks line' hin) hline'
  · cases more with
    | nil => exact ⟨(List.cons.inj hmore).1.symm, (List.cons.inj hmore).2.symm⟩
    | cons first more =>
        have hin : line ∈ blanks' := by
          rw [(List.cons.inj hmore).2]
          exact List.mem_append_right _ List.mem_cons_self
        exact absurd (hblanks' line hin) hline

section LastLine

variable (p : Primitives)

/-- What is hashed does not end with a carriage return. -/
theorem lastLineHash_stripped (file : Option Bytes) :
    lastLineHash p file = [] ∨
      ∃ text, lastLineHash p file = lineHash p text ∧ text.getLast? ≠ some 13 := by
  cases file with
  | none => exact Or.inl rfl
  | some content =>
      rw [lastLineHash]
      split_ifs with hnone
      · exact Or.inl rfl
      · refine Or.inr ⟨_, rfl, ?_⟩
        intro hlast
        have hblank := getLast?_rtakeWhile isLineEnd _ (tail 65536 content) 13 hlast
        exact absurd hblank.symm Bool.false_ne_true

/-- A file up to the end of its last line, and what ends lines after that. -/
theorem unlines_body (init : List Bytes) (body ends : Bytes) (blanks : List Bytes) :
    unlines 10 (init ++ (body ++ ends) :: blanks) =
      (unlines 10 init ++ body) ++ (ends ++ 10 :: unlines 10 blanks) := by
  rw [unlines_append, unlines_cons, List.append_assoc, List.append_assoc]

/-- What is hashed if the last line does not end with a carriage return: as much of
    the line as there is room for. -/
theorem lastLineHash_body (init : List Bytes) (body ends : Bytes) (blanks : List Bytes)
    (hbody : 10 ∉ body) (hne : body ≠ []) (hlast : isLineEnd (body.getLast hne) = false)
    (hends : ∀ c ∈ ends, isLineEnd c = true) (hblanks : ∀ l ∈ blanks, Blank l) :
    lastLineHash p (some (unlines 10 (init ++ (body ++ ends) :: blanks))) =
      if body.length ≤ (unlines 10 ((body ++ ends) :: blanks)).length - 65536 then []
      else lineHash p
        (body.drop ((unlines 10 ((body ++ ends) :: blanks)).length - 65536)) := by
  have hall : ∀ c ∈ ends ++ 10 :: unlines 10 blanks, isLineEnd c = true := by
    rw [List.forall_mem_append, List.forall_mem_cons]
    exact ⟨hends, rfl, isLineEnd_of_blanks blanks hblanks⟩
  -- What is hashed is looked for in the end of the text before the line ends.
  have htext := rdropWhile_tail isLineEnd 65536 (unlines 10 init ++ body)
    (ends ++ 10 :: unlines 10 blanks)
    (fun hne' => by rw [List.getLast_append_of_ne_nil hne' hne, hlast]) hall
  have hlength : (unlines 10 ((body ++ ends) :: blanks)).length =
      body.length + (ends ++ 10 :: unlines 10 blanks).length := by
    rw [unlines_cons, List.append_assoc, List.length_append]
  have hlength' := @List.length_append _ (unlines 10 init) body
  have hpos := List.length_pos_of_ne_nil hne
  rw [lastLineHash, unlines_body, htext, hlength]
  by_cases hroom : body.length ≤ body.length + (ends ++ 10 :: unlines 10 blanks).length - 65536
  · rw [if_pos hroom, if_pos]
    rw [List.isEmpty_iff, List.drop_eq_nil_iff]
    omega
  · -- The text before the line does not matter.
    have hstart : (unlines 10 init ++ body).length + (ends ++ 10 :: unlines 10 blanks).length -
        65536 - (unlines 10 init).length =
          body.length + (ends ++ 10 :: unlines 10 blanks).length - 65536 := by
      omega
    rw [if_neg hroom, if_neg, rtakeWhile_drop 10 _ body _ hbody (unlines_ends init), hstart]
    rw [List.isEmpty_iff, List.drop_eq_nil_iff]
    omega

/-- What is before the carriage return of a line, if it does not end in two. -/
theorem stripCr_body (line : Bytes) (hline : ¬ Blank line) (hnewline : 10 ∉ line)
    (htwo : ¬ [13, 13] <:+ line) :
    ∃ ends, line = stripCr line ++ ends ∧ (∀ c ∈ ends, isLineEnd c = true) ∧
      ∀ hne : stripCr line ≠ [], isLineEnd ((stripCr line).getLast hne) = false := by
  -- A byte of the line that is no carriage return ends no line.
  have hother : ∀ c ∈ line, c ≠ 13 → isLineEnd c = false := by
    intro c hc hreturn
    have hne : c ≠ 10 := fun h => hnewline (h ▸ hc)
    rw [isLineEnd, Bool.or_eq_false_iff, beq_eq_false_iff_ne, beq_eq_false_iff_ne]
    exact ⟨hne, hreturn⟩
  by_cases hlast : line.getLast? = some 13
  · obtain ⟨start, rfl⟩ := List.getLast?_eq_some_iff.mp hlast
    have hstrip : stripCr (start ++ [13]) = start := by
      rw [stripCr, if_pos hlast, List.dropLast_concat]
    refine ⟨[13], by rw [hstrip], List.forall_mem_singleton.mpr rfl, ?_⟩
    rw [hstrip]
    intro hne
    refine hother _ (List.mem_append_left _ (List.getLast_mem hne)) fun h => htwo ?_
    refine ⟨start.dropLast, ?_⟩
    rw [← List.dropLast_append_getLast hne, h, List.dropLast_concat, List.append_assoc]
    rfl
  · have hstrip : stripCr line = line := if_neg hlast
    rw [hstrip]
    refine ⟨[], (List.append_nil line).symm, fun c hc => absurd hc List.not_mem_nil, ?_⟩
    intro hne
    refine hother _ (List.getLast_mem hne) fun h => hlast ?_
    rw [List.getLast?_eq_some_getLast hne, h]

/-- The hash is that of the last line that the check sees exactly if this line does
    not end with a carriage return, and begins within the last 64 KiB. -/
theorem lastLineHash_last (hinj : Function.Injective (lineHash p))
    (hne : ∀ x, p.sha256 x ≠ []) (init : List Bytes) (line : Bytes) (blanks : List Bytes)
    (hnewline : 10 ∉ line) (hline : ¬ Blank line) (hblanks : ∀ l ∈ blanks, Blank l) :
    lastLineHash p (some (unlines 10 (init ++ line :: blanks))) = lineHash p (stripCr line) ↔
      ¬ [13, 13] <:+ line ∧ (unlines 10 (line :: blanks)).length ≤ 65536 := by
  have hsome : stripCr line ≠ [] := fun h => hline ((stripCr_eq_nil_iff line).mp h)
  by_cases htwo : [13, 13] <:+ line
  · refine iff_of_false (fun h => ?_) fun h => h.1 htwo
    -- One of the carriage returns stays in the line that the check sees.
    obtain ⟨start, rfl⟩ := htwo
    have hstrip : stripCr (start ++ [13, 13]) = start ++ [13] := by
      have hsplit : start ++ [13, 13] = (start ++ [13]) ++ [(13 : UInt8)] := by
        rw [List.append_assoc]
        rfl
      rw [stripCr, hsplit, List.getLast?_concat, if_pos rfl, List.dropLast_concat]
    rw [hstrip] at h
    rcases lastLineHash_stripped p (some (unlines 10 (init ++ (start ++ [13, 13]) :: blanks)))
      with hnil | ⟨text, htext, hlast⟩
    · exact lineHash_ne_nil p hne _ (h.symm.trans hnil)
    · rw [hinj (htext.symm.trans h), List.getLast?_concat] at hlast
      exact hlast rfl
  · obtain ⟨ends, hsplit, hends, hlast⟩ := stripCr_body line hline hnewline htwo
    have hbody : 10 ∉ stripCr line := fun h =>
      hnewline (hsplit ▸ List.mem_append_left ends h)
    have hhash := lastLineHash_body p init (stripCr line) ends blanks hbody hsome (hlast hsome)
      hends hblanks
    rw [← hsplit] at hhash
    rw [hhash, and_iff_right htwo]
    have hpos := List.length_pos_of_ne_nil hsome
    constructor
    · intro h
      split_ifs at h with hroom
      · exact absurd h.symm (lineHash_ne_nil p hne _)
      · have hlength := congrArg List.length (hinj h)
        rw [List.length_drop] at hlength
        omega
    · intro hfits
      rw [Nat.sub_eq_zero_of_le hfits, if_neg (by omega), List.drop_zero]

/-- When the hash that `LastLineHash` finds is that of the last line of the file, as
    the check of a file reads it. -/
theorem lastLineHash_iff (hinj : Function.Injective (lineHash p)) (hne : ∀ x, p.sha256 x ≠ [])
    (lines : List Bytes) (hlines : ∀ line ∈ lines, 10 ∉ line) :
    lastLineHash p (some (unlines 10 lines)) =
        ((logLines (unlines 10 lines)).getLast?.map (lineHash p)).getD [] ↔
      FindsLast lines := by
  rcases exists_last lines with hall | ⟨init, line, blanks, rfl, hline, hblanks⟩
  · refine iff_of_true ?_ ?_
    · -- All of the file ends lines.
      have hends : (tail 65536 (unlines 10 lines)).rdropWhile isLineEnd = [] := by
        rw [List.rdropWhile_eq_nil_iff]
        intro c hc
        exact isLineEnd_of_blanks lines hall c (List.mem_of_mem_drop hc)
      rw [lastLineHash, hends, logLines_unlines_stripCr lines hlines,
        filter_stripCr_blanks lines hall]
      rfl
    · rintro init line blanks rfl hline _
      exact absurd (hall line (List.mem_append_right _ List.mem_cons_self)) hline
  · rw [logLines_last init line blanks hlines hline hblanks, Option.map_some, Option.getD_some,
      lastLineHash_last p hinj hne init line blanks
        (hlines line (List.mem_append_right _ List.mem_cons_self)) hline hblanks]
    constructor
    · rintro h init' line' blanks' hsame hline' hblanks'
      -- There is only one last line that is not blank.
      obtain ⟨rfl, rfl⟩ := last_unique init init' line line' blanks blanks' hsame hline
        hline' hblanks hblanks'
      exact h
    · intro h
      exact h init line blanks rfl hline hblanks

/-- A file that ends with an empty line and a carriage return. -/
theorem lastLineHash_iff_blanks : FindsLast [firstLine, [], [13]] :=
  (lastLineHash_iff samplePrimitives lineHash_sample_injective (fun x => List.cons_ne_nil 1 x)
    [firstLine, [], [13]] (by decide +kernel)).mp (by decide +kernel)

/-- The line for a command of a controller. -/
def commandLine (command : Bytes) : Bytes :=
  ascii "\x7b\"event\":\"coordination_command\",\"detail\":\"" ++ (command ++ ascii "\"\x7d")

theorem newline_notMem_commandLine (command : Bytes) (h : 10 ∉ command) :
    10 ∉ commandLine command := by
  have hends : (10 : UInt8) ∉ ascii "\x7b\"event\":\"coordination_command\",\"detail\":\"" ∧
      (10 : UInt8) ∉ ascii "\"\x7d" := by
    decide +kernel
  rw [commandLine, List.mem_append, List.mem_append]
  rintro (hstart | hcommand | hend)
  · exact hends.1 hstart
  · exact h hcommand
  · exact hends.2 hend

theorem length_lt_commandLine (command : Bytes) :
    command.length + 1 < (commandLine command).length := by
  have hend : (ascii "\"\x7d").length = 2 := by
    decide +kernel
  rw [commandLine, List.length_append, List.length_append, hend]
  omega

/-- A command of 64 KiB is logged, and then not all of its line is read. -/
theorem lastLineHash_ne_command :
    lastLineHash samplePrimitives (some (unlines 10 [commandLine (List.replicate 65536 97)])) ≠
      ((logLines (unlines 10 [commandLine (List.replicate 65536 97)])).getLast?.map
        (lineHash samplePrimitives)).getD [] := by
  have hline : (10 : UInt8) ∉ commandLine (List.replicate 65536 97) := by
    refine newline_notMem_commandLine _ ?_
    rw [List.mem_replicate]
    rintro ⟨-, h⟩
    cases h
  -- The one line is longer than the window that is read.
  have hlong := length_lt_commandLine (List.replicate 65536 97)
  rw [List.length_replicate] at hlong
  have hsome : ¬ Blank (commandLine (List.replicate 65536 97)) := by
    rintro (h | h) <;> rw [h] at hlong <;> exact absurd hlong (by decide)
  have hnone : ∀ l ∈ ([] : List Bytes), Blank l := fun l hl => absurd hl List.not_mem_nil
  have hlast := logLines_last [] (commandLine (List.replicate 65536 97)) []
    (List.forall_mem_singleton.mpr hline) hsome hnone
  rw [List.nil_append] at hlast
  rw [hlast]
  intro h
  have hfits := (lastLineHash_last samplePrimitives lineHash_sample_injective
    (fun x => List.cons_ne_nil 1 x) [] _ [] hline hsome hnone).mp h
  have hall := hfits.2
  rw [unlines_singleton, List.length_append] at hall
  omega

end LastLine

end Logging

end ThreadHaul
