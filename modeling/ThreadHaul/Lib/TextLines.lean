import Mathlib.Data.List.DropRight
import Mathlib.Data.List.Induction

/-!
# Lines of a Text

A text as a sequence of lines, each followed by a separator, and the two ways of
getting at them: splitting the whole text, and looking for the last line from
the end.

`unlines` writes the lines. A text written that way reads back line by line if no
line has a separator in it, `splitOn_unlines`.

The last line is found in a part of the text, its tail of bounded size. That is
enough if the tail has the whole line: `lastLine_tail` says so, whatever comes
before it.

## Main definitions

* `unlines`: The text of some lines.
* `tail`: The end of a text.

## Theorems

* `splitOn_unlines`: The lines read back.
* `lastLine_tail`: The last line is found in a tail that is long enough.
* `rdropWhile_tail`, `rtakeWhile_drop`: What is found in a tail of any length.
-/

namespace TextLines

variable {α : Type*}

/-- The lines, each followed by the separator. -/
def unlines (sep : α) (lines : List (List α)) : List α := lines.flatMap (· ++ [sep])

/-- The last `n` elements. -/
def tail (n : Nat) (text : List α) : List α := text.drop (text.length - n)

section Unlines

variable (sep : α)

@[simp] theorem unlines_nil : unlines sep [] = [] := rfl

@[simp] theorem unlines_append (lines lines' : List (List α)) :
    unlines sep (lines ++ lines') = unlines sep lines ++ unlines sep lines' :=
  List.flatMap_append

theorem unlines_cons (line : List α) (lines : List (List α)) :
    unlines sep (line :: lines) = line ++ sep :: unlines sep lines := by
  rw [unlines, List.flatMap_cons, List.append_assoc]
  rfl

@[simp] theorem unlines_singleton (line : List α) : unlines sep [line] = line ++ [sep] := by
  rw [unlines, List.flatMap_singleton]

theorem unlines_flatten (chunks : List (List (List α))) :
    unlines sep chunks.flatten = (chunks.map (unlines sep)).flatten := by
  induction chunks with
  | nil => rfl
  | cons chunk chunks ih =>
      rw [List.flatten_cons, unlines_append, ih, List.map_cons, List.flatten_cons]

/-- There is no text only if there is no line. -/
theorem unlines_eq_nil_iff (lines : List (List α)) : unlines sep lines = [] ↔ lines = [] := by
  cases lines with
  | nil => exact ⟨fun _ => rfl, fun _ => rfl⟩
  | cons line lines =>
      rw [unlines_cons]
      constructor
      · intro h
        exact absurd h (List.append_ne_nil_of_right_ne_nil line (List.cons_ne_nil _ _))
      · intro h
        cases h

/-- The text of some lines ends with a separator. -/
theorem getLast?_unlines (lines : List (List α)) (hne : lines ≠ []) :
    (unlines sep lines).getLast? = some sep := by
  rcases List.eq_nil_or_concat lines with hnil | ⟨init, line, hlines⟩
  · exact absurd hnil hne
  · rw [hlines, List.concat_eq_append, unlines_append, unlines_singleton, ← List.append_assoc,
      List.getLast?_concat]

/-- The lines read back, and an empty piece after the last separator. -/
theorem splitOn_unlines [DecidableEq α] (lines : List (List α))
    (hlines : ∀ line ∈ lines, sep ∉ line) :
    (unlines sep lines).splitOn sep = lines ++ [[]] := by
  -- The last piece is empty, for every line is closed by the separator.
  induction lines with
  | nil => exact List.splitOn_nil sep
  | cons line lines ih =>
      rw [List.forall_mem_cons] at hlines
      rw [unlines_cons, List.splitOn, List.splitOnP_append_cons_of_forall_mem]
      · exact congrArg (List.cons line) (ih hlines.2)
      · intro x hx
        rw [beq_eq_false_iff_ne]
        rintro rfl
        exact hlines.1 hx
      · exact beq_self_eq_true sep

end Unlines

section Last

/-- What ends in `x` still does so without some of its first elements, or is
    empty. -/
theorem getLast?_drop (l : List α) (n : Nat) (x : α) (h : l = [] ∨ l.getLast? = some x) :
    l.drop n = [] ∨ (l.drop n).getLast? = some x := by
  rcases h with rfl | h
  · exact Or.inl List.drop_nil
  · by_cases hn : l.length ≤ n
    · exact Or.inl (List.drop_eq_nil_of_le hn)
    · rw [List.getLast?_drop, if_neg hn]
      exact Or.inr h

/-- Back to the last separator before a line. -/
theorem rtakeWhile_append [DecidableEq α] (sep : α) (line before : List α) (hsep : sep ∉ line)
    (hbefore : before = [] ∨ before.getLast? = some sep) :
    (before ++ line).rtakeWhile (fun c => c ≠ sep) = line := by
  -- From the right: each character of the line is taken, and the separator stops it.
  induction line using List.reverseRecOn with
  | nil =>
      rw [List.append_nil]
      rcases hbefore with rfl | hbefore
      · rfl
      · obtain ⟨init, rfl⟩ := List.getLast?_eq_some_iff.mp hbefore
        refine List.rtakeWhile_concat_neg _ _ _ ?_
        rw [decide_eq_true_eq]
        exact fun h => h rfl
  | append_singleton line x ih =>
      rw [List.mem_append, List.mem_singleton, not_or] at hsep
      rw [← List.append_assoc, List.rtakeWhile_concat_pos, ih hsep.1]
      exact decide_eq_true (Ne.symm hsep.2)

/-- Blanks at the end of a text go, and what does not end with one stays. -/
theorem rdropWhile_append (blank : α → Bool) (text ends : List α)
    (hlast : ∀ hne : text ≠ [], blank (text.getLast hne) = false)
    (hends : ∀ c ∈ ends, blank c = true) : (text ++ ends).rdropWhile blank = text := by
  induction ends using List.reverseRecOn with
  | nil =>
      rw [List.append_nil, List.rdropWhile_eq_self_iff]
      intro hne
      rw [hlast hne]
      exact Bool.false_ne_true
  | append_singleton ends c ih =>
      rw [List.forall_mem_append, List.forall_mem_singleton] at hends
      rw [← List.append_assoc, List.rdropWhile_concat_pos _ _ _ hends.2]
      exact ih hends.1

/-- Nor does a suffix of what stays. -/
theorem getLast?_rtakeWhile (blank q : α → Bool) (text : List α) (x : α)
    (h : ((text.rdropWhile blank).rtakeWhile q).getLast? = some x) : blank x = false := by
  obtain ⟨before, hbefore⟩ := List.rtakeWhile_suffix q (text.rdropWhile blank)
  obtain ⟨start, hstart⟩ := List.getLast?_eq_some_iff.mp h
  rw [hstart, ← List.append_assoc] at hbefore
  have hne : text.rdropWhile blank ≠ [] := by
    rw [← hbefore]
    exact List.append_ne_nil_of_right_ne_nil _ (List.cons_ne_nil x [])
  -- The last character that is left after the blanks is no blank.
  have hstays := List.rdropWhile_last_not blank text hne
  have hlast : (text.rdropWhile blank).getLast? = some x := by
    rw [← hbefore, List.getLast?_concat]
  rw [List.getLast?_eq_some_getLast hne] at hlast
  rw [Option.some.inj hlast] at hstays
  exact Bool.eq_false_iff.mpr hstays

/-- What is left of a tail without the blanks at the end of the text: the end of
    what is before them, which is nothing if there are enough of them. -/
theorem rdropWhile_tail (blank : α → Bool) (n : Nat) (text ends : List α)
    (hlast : ∀ hne : text ≠ [], blank (text.getLast hne) = false)
    (hends : ∀ c ∈ ends, blank c = true) :
    (tail n (text ++ ends)).rdropWhile blank = text.drop (text.length + ends.length - n) := by
  rw [tail, List.length_append, List.drop_append]
  apply rdropWhile_append
  · intro hne
    rw [List.getLast_drop]
    exact hlast _
  · intro c hc
    exact hends c (List.mem_of_mem_drop hc)

/-- Back to the last separator before a line, in a text from which the first
    elements are missing. -/
theorem rtakeWhile_drop [DecidableEq α] (sep : α) (before line : List α) (k : Nat)
    (hsep : sep ∉ line) (hbefore : before = [] ∨ before.getLast? = some sep) :
    ((before ++ line).drop k).rtakeWhile (fun c => c ≠ sep) = line.drop (k - before.length) := by
  rw [List.drop_append]
  apply rtakeWhile_append
  · intro hmem
    exact hsep (List.mem_of_mem_drop hmem)
  · exact getLast?_drop before k sep hbefore

/-- The last line is found in a tail that has room for it and its separator:
    characters of a set `blank` with the separator are dropped from the end, and
    the rest is read back to the separator before. -/
theorem lastLine_tail [DecidableEq α] (sep : α) (blank : α → Bool) (n : Nat) (before line : List α)
    (hbefore : before = [] ∨ before.getLast? = some sep) (hsep : sep ∉ line)
    (hblank : blank sep = true) (hne : line ≠ []) (hlast : blank (line.getLast hne) = false)
    (hroom : line.length + 1 ≤ n) :
    (tail n (before ++ (line ++ [sep]))).rdropWhile blank =
        (before.drop (before.length + (line.length + 1) - n)) ++ line ∧
      ((tail n (before ++ (line ++ [sep]))).rdropWhile blank).rtakeWhile (fun c => c ≠ sep) =
        line := by
  have htail := rdropWhile_tail blank n (before ++ line) [sep]
    (fun hne' => by rw [List.getLast_append_of_ne_nil hne' hne, hlast])
    (List.forall_mem_singleton.mpr hblank)
  have hdrop : (tail n (before ++ (line ++ [sep]))).rdropWhile blank =
      (before.drop (before.length + (line.length + 1) - n)) ++ line := by
    rw [← List.append_assoc, htail, List.length_append, List.length_singleton, Nat.add_assoc,
      List.drop_append_of_le_length (by omega)]
  refine ⟨hdrop, ?_⟩
  -- Before the line there is nothing, or a separator.
  rw [hdrop]
  exact rtakeWhile_append sep line _ hsep (getLast?_drop before _ sep hbefore)

end Last

end TextLines
