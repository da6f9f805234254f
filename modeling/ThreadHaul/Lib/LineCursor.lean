import Mathlib.Logic.Function.Iterate
import ThreadHaul.Lib.TextLines

/-!
# Line Cursors

Reading a text line by line while it grows, through slices of bounded size.

A cursor is a position in the text that is at its start or just after a
separator. From there a slice is read, and the cursor moves to the end of the last
whole line of it, `advance`. The lines before the new position are those before the
old one, followed by the whole lines of the slice, `lines_take_advance`: nothing is
read twice and nothing is left out. Text that is added at the end changes nothing
before the cursor.

The cursor does move if the next line fits into a slice, `advance_past`, and only
then, `lt_advance_iff`. A line that does not fit is never passed, so a cursor that is
moved again and again gets to the end of the last line exactly if all lines fit,
`exists_iterate_iff`.

## Main definitions

* `lines`: The whole lines of a text.
* `upTo`: The end of the last whole line.
* `Ends`, `Cursor`: A text that ends with a separator, and a position after one.
* `slice`, `advance`: What is read at a cursor, and where it moves.

## Theorems

* `getElem?_of_cursor`: What is before a cursor.
* `lines_append`: The lines of two texts, the first of which ends with a separator.
* `cursor_advance`: A cursor stays one.
* `lines_take_advance`: What it has passed.
* `advance_past`: It passes the next line.
* `advance_blocked`: It does not pass a line that is too long.
* `exists_iterate_iff`: It gets to the end if no line is.
-/

namespace LineCursor

variable {α : Type*} [DecidableEq α] (sep : α)

/-- The lines that end with a separator, without it. -/
def lines : List α → List (List α)
  | [] => []
  | c :: text =>
      if c = sep then [] :: lines text
      else
        match lines text with
        | [] => []
        | line :: rest => (c :: line) :: rest

/-- The position after the last separator. -/
def upTo (text : List α) : Nat := (text.rdropWhile fun c => c ≠ sep).length

/-- The text ends with a separator, if it is not empty. -/
def Ends (text : List α) : Prop := text = [] ∨ text.getLast? = some sep

/-- The start of the text, or a position after a separator. -/
def Cursor (text : List α) (n : Nat) : Prop := n ≤ text.length ∧ Ends sep (text.take n)

/-- What is read at a position. -/
def slice (max : Nat) (text : List α) (n : Nat) : List α := (text.drop n).take max

/-- Where the cursor moves. -/
def advance (max : Nat) (text : List α) (n : Nat) : Nat := n + upTo sep (slice max text n)

section Lines

variable {sep}

@[simp] theorem lines_nil : lines sep [] = [] := rfl

@[simp] theorem lines_cons_self (text : List α) : lines sep (sep :: text) = [] :: lines sep text :=
  if_pos rfl

/-- The first line of a text. -/
theorem lines_append_cons (line rest : List α) (h : sep ∉ line) :
    lines sep (line ++ sep :: rest) = line :: lines sep rest := by
  induction line with
  | nil => exact lines_cons_self rest
  | cons c line ih =>
      rw [List.mem_cons, not_or] at h
      rw [List.cons_append, lines, if_neg (Ne.symm h.1), ih h.2]

omit [DecidableEq α] in
/-- What has a separator has a last one. -/
theorem exists_last (text : List α) (h : sep ∈ text) :
    ∃ before rest, text = before ++ sep :: rest ∧ sep ∉ rest := by
  rcases List.eq_append_cons_of_mem (List.mem_reverse.mpr h) with ⟨rest, before, heq, hrest⟩
  refine ⟨before.reverse, rest.reverse, ?_, fun hmem => hrest (List.mem_reverse.mp hmem)⟩
  rw [← List.reverse_reverse text, heq, List.reverse_append, List.reverse_cons, List.append_assoc,
    List.singleton_append]

/-- The lines of two texts, the first of which ends with a separator. -/
theorem lines_append (text more : List α) (h : Ends sep text) :
    lines sep (text ++ more) = lines sep text ++ lines sep more := by
  -- The text without its first line still ends with a separator.
  induction hlen : text.length using Nat.strong_induction_on generalizing text with
  | _ n ih =>
      rcases h with rfl | hlast
      · rfl
      · have hmem : sep ∈ text := List.mem_of_getLast? hlast
        rcases List.eq_append_cons_of_mem hmem with ⟨line, rest, rfl, hline⟩
        have hrest : Ends sep rest := by
          cases rest with
          | nil => exact Or.inl rfl
          | cons c rest =>
              refine Or.inr ?_
              rw [List.getLast?_append_cons, List.getLast?_cons_cons] at hlast
              exact hlast
        have hshort : rest.length < n := by
          rw [List.length_append, List.length_cons] at hlen
          omega
        rw [List.append_assoc, List.cons_append, lines_append_cons _ _ hline,
          lines_append_cons _ _ hline, ih _ hshort rest hrest rfl, List.cons_append]

theorem lines_of_notMem (text : List α) (h : sep ∉ text) : lines sep text = [] := by
  induction text with
  | nil => rfl
  | cons c text ih =>
      rw [List.mem_cons, not_or] at h
      rw [lines, if_neg (Ne.symm h.1), ih h.2]

/-- Where a line is in the text. -/
theorem exists_of_mem_lines (text line : List α) (h : line ∈ lines sep text) :
    ∃ before rest, text = before ++ (line ++ sep :: rest) ∧ sep ∉ line := by
  -- The first line, or one of those after it.
  induction hlen : text.length using Nat.strong_induction_on generalizing text with
  | _ n ih =>
      by_cases hmem : sep ∈ text
      · rcases List.eq_append_cons_of_mem hmem with ⟨first, others, rfl, hfirst⟩
        rw [lines_append_cons _ _ hfirst, List.mem_cons] at h
        rcases h with hline | hrest
        · exact ⟨[], others, by rw [hline, List.nil_append], hline ▸ hfirst⟩
        · have hshort : others.length < n := by
            rw [List.length_append, List.length_cons] at hlen
            omega
          rcases ih _ hshort others hrest rfl with ⟨before, rest, hothers, hline⟩
          refine ⟨first ++ sep :: before, rest, ?_, hline⟩
          rw [hothers, List.append_assoc, List.cons_append]
      · rw [lines_of_notMem text hmem] at h
        exact absurd h List.not_mem_nil

end Lines

section UpTo

variable {sep}

theorem upTo_append_cons (before rest : List α) (h : sep ∉ rest) :
    upTo sep (before ++ sep :: rest) = before.length + 1 := by
  induction rest using List.reverseRecOn with
  | nil =>
      rw [upTo, List.rdropWhile_concat_neg, List.length_append, List.length_singleton]
      simp only [ne_eq, not_true_eq_false, decide_false, Bool.false_eq_true, not_false_eq_true]
  | append_singleton rest c ih =>
      rw [List.mem_append, not_or, List.mem_singleton] at h
      have hstep : before ++ sep :: (rest ++ [c]) = (before ++ sep :: rest) ++ [c] := by
        rw [List.append_assoc, List.cons_append]
      rw [hstep, upTo, List.rdropWhile_concat_pos]
      · exact ih h.1
      · exact decide_eq_true (Ne.symm h.2)

theorem upTo_of_not_mem (text : List α) (h : sep ∉ text) : upTo sep text = 0 := by
  rw [upTo, List.length_eq_zero_iff, List.rdropWhile_eq_nil_iff]
  intro c hc
  rw [decide_eq_true_iff]
  rintro rfl
  exact h hc

theorem upTo_le_length (text : List α) : upTo sep text ≤ text.length :=
  (List.rdropWhile_prefix _ _).length_le

/-- The last separator is not before any other. -/
theorem le_upTo (before rest : List α) : before.length + 1 ≤ upTo sep (before ++ sep :: rest) := by
  by_cases hmem : sep ∈ rest
  · rcases exists_last rest hmem with ⟨between, after, rfl, hafter⟩
    have hsplit : before ++ sep :: (between ++ sep :: after)
        = (before ++ sep :: between) ++ sep :: after := by
      rw [List.append_assoc, List.cons_append]
    rw [hsplit, upTo_append_cons _ _ hafter, List.length_append, List.length_cons]
    omega
  · rw [upTo_append_cons before rest hmem]

/-- Text without a separator changes nothing. -/
theorem upTo_append_le (text more : List α) (h : sep ∉ more) :
    upTo sep (text ++ more) ≤ text.length := by
  by_cases hmem : sep ∈ text
  · rcases exists_last text hmem with ⟨before, rest, rfl, hrest⟩
    have hrest' : sep ∉ rest ++ more := by
      rw [List.mem_append]
      exact not_or.mpr ⟨hrest, h⟩
    rw [List.append_assoc, List.cons_append, upTo_append_cons before _ hrest',
      List.length_append, List.length_cons]
    omega
  · rw [upTo_of_not_mem _ (fun h' => (List.mem_append.mp h').elim hmem h)]
    exact Nat.zero_le _

/-- The text up to there ends with a separator. -/
theorem ends_take_upTo (text : List α) : Ends sep (text.take (upTo sep text)) := by
  by_cases h : sep ∈ text
  · rcases exists_last text h with ⟨before, rest, rfl, hrest⟩
    refine Or.inr ?_
    rw [upTo_append_cons before rest hrest, List.take_length_add_append, List.take_succ_cons,
      List.take_zero, List.getLast?_concat]
  · rw [upTo_of_not_mem text h, List.take_zero]
    exact Or.inl rfl

omit [DecidableEq α] in
theorem ends_append (text more : List α) (h : Ends sep text) (hmore : Ends sep more) :
    Ends sep (text ++ more) := by
  rcases hmore with rfl | hmore
  · rwa [List.append_nil]
  · refine Or.inr ?_
    rw [List.getLast?_append, hmore]
    rfl

end UpTo

section Cursor

variable {sep} (max : Nat) (text : List α) (n : Nat)

omit [DecidableEq α] in
theorem cursor_zero : Cursor sep text 0 := ⟨Nat.zero_le _, Or.inl List.take_zero⟩

omit [DecidableEq α] in
/-- A cursor that is not at the start is just after a separator. -/
theorem getElem?_of_cursor (h : Cursor sep text n) (hpos : 0 < n) : text[n - 1]? = some sep := by
  rcases h.2 with hnil | hlast
  · have hlength := List.length_take_of_le h.1
    rw [hnil, List.length_nil] at hlength
    omega
  · rw [List.getLast?_take, if_neg hpos.ne'] at hlast
    have hin : n - 1 < text.length := by
      have := h.1
      omega
    rw [List.getElem?_eq_getElem hin] at hlast ⊢
    exact hlast

omit [DecidableEq α] in
/-- What is added at the end leaves a cursor one, and what is before it. -/
theorem cursor_append (more : List α) (h : Cursor sep text n) :
    Cursor sep (text ++ more) n ∧ (text ++ more).take n = text.take n := by
  have htake : (text ++ more).take n = text.take n := List.take_append_of_le_length h.1
  refine ⟨⟨?_, ?_⟩, htake⟩
  · rw [List.length_append]
    exact Nat.le_add_right_of_le h.1
  · rw [htake]
    exact h.2

/-- The text up to the new position is the text up to the old one, and the whole
    lines of the slice. -/
theorem take_advance :
    text.take (advance sep max text n)
      = text.take n ++ (slice max text n).take (upTo sep (slice max text n)) := by
  have hshort : upTo sep (slice max text n) ≤ max :=
    (upTo_le_length _).trans (List.length_take_le ..)
  have hinner : (slice max text n).take (upTo sep (slice max text n))
      = (text.drop n).take (upTo sep (slice max text n)) := by
    generalize upTo sep (slice max text n) = k at hshort ⊢
    rw [slice, List.take_take, min_eq_left hshort]
  rw [advance, List.take_add, hinner]

/-- A cursor stays one. -/
theorem cursor_advance (h : Cursor sep text n) : Cursor sep text (advance sep max text n) := by
  constructor
  · have hlength : (slice max text n).length ≤ text.length - n :=
      (List.length_take_le' ..).trans (List.length_drop ..).le
    have hup := @upTo_le_length _ _ sep (slice max text n)
    have hn := h.1
    rw [advance]
    omega
  · rw [take_advance]
    exact ends_append _ _ h.2 (ends_take_upTo _)

/-- The lines before the new position are those before the old one, and those that
    are read. -/
theorem lines_take_advance (h : Cursor sep text n) :
    lines sep (text.take (advance sep max text n))
      = lines sep (text.take n)
        ++ lines sep ((slice max text n).take (upTo sep (slice max text n))) := by
  rw [take_advance, lines_append _ _ h.2]

/-- The next line is passed if it fits into a slice. -/
theorem advance_past (line rest : List α) (hnext : text.drop n = line ++ sep :: rest)
    (hfits : line.length + 1 ≤ max) : n + line.length + 1 ≤ advance sep max text n := by
  -- The slice is long enough to hold the line and its separator.
  have hslice : ∃ more, slice max text n = line ++ sep :: more := by
    refine ⟨rest.take (max - (line.length + 1)), ?_⟩
    have hsplit : line ++ sep :: rest = (line ++ [sep]) ++ rest := by
      rw [List.append_assoc, List.singleton_append]
    rw [slice, hnext, hsplit, List.take_append, List.length_append, List.length_singleton,
      List.take_of_length_le, List.append_assoc, List.singleton_append]
    rw [List.length_append, List.length_singleton]
    exact hfits
  rcases hslice with ⟨more, hmore⟩
  have hlast := @le_upTo _ _ sep line more
  rw [advance, hmore]
  omega

omit [DecidableEq α] in
/-- A line after a position, in the text as a whole. -/
theorem eq_of_drop (before line rest : List α)
    (hdrop : text.drop n = before ++ (line ++ sep :: rest)) :
    text = (text.take n ++ before) ++ (line ++ sep :: rest) ∧
      (text.take n ++ before).length = n + before.length := by
  have hin : n ≤ text.length := by
    by_contra hout
    rw [List.drop_eq_nil_of_le (by omega)] at hdrop
    have hlength := congrArg List.length hdrop
    rw [List.length_nil, List.length_append, List.length_append, List.length_cons] at hlength
    omega
  constructor
  · rw [List.append_assoc, ← hdrop, List.take_append_drop]
  · rw [List.length_append, List.length_take_of_le hin]

/-- A line that does not fit into a slice is not passed. -/
theorem advance_blocked (before line rest : List α) (hline : sep ∉ line)
    (hlong : max < line.length + 1) (hn : n ≤ before.length) :
    advance sep max (before ++ (line ++ sep :: rest)) n ≤ before.length := by
  -- The slice ends before the separator of the line.
  have hslice : slice max (before ++ (line ++ sep :: rest)) n =
      (before.drop n).take max ++ line.take (max - (before.drop n).length) := by
    rw [slice, List.drop_append_of_le_length hn, List.take_append,
      List.take_append_of_le_length (by omega)]
  have hup : upTo sep (slice max (before ++ (line ++ sep :: rest)) n) ≤
      ((before.drop n).take max).length := by
    rw [hslice]
    exact upTo_append_le _ _ fun hmem => hline (List.mem_of_mem_take hmem)
  have hlength : ((before.drop n).take max).length ≤ before.length - n :=
    (List.length_take_le' ..).trans (List.length_drop ..).le
  rw [advance]
  omega

/-- The cursor moves exactly if the next line fits into a slice. -/
theorem lt_advance_iff (line rest : List α) (hnext : text.drop n = line ++ sep :: rest)
    (hline : sep ∉ line) : n < advance sep max text n ↔ line.length + 1 ≤ max := by
  constructor
  · intro h
    by_contra hlong
    rcases eq_of_drop text n [] line rest hnext with ⟨htext, hlength⟩
    have hblocked := advance_blocked max n (text.take n ++ []) line rest hline (by omega)
      hlength.ge
    rw [← htext, hlength, List.length_nil] at hblocked
    omega
  · intro hfits
    have hpast := advance_past max text n line rest hnext hfits
    omega

/-- However often it is moved. -/
theorem iterate_blocked (before line rest : List α) (hline : sep ∉ line)
    (hlong : max < line.length + 1) (hn : n ≤ before.length) (k : Nat) :
    (advance sep max (before ++ (line ++ sep :: rest)))^[k] n ≤ before.length := by
  induction k with
  | zero => exact hn
  | succ k ih =>
      rw [Function.iterate_succ_apply']
      exact advance_blocked max _ before line rest hline hlong ih

/-- With no whole line left the cursor is at the end. -/
theorem upTo_eq_of_notMem (h : Cursor sep text n) (hnone : sep ∉ text.drop n) :
    upTo sep text = n := by
  rcases Nat.eq_zero_or_pos n with rfl | hpos
  · exact upTo_of_not_mem text hnone
  · have hlast := getElem?_of_cursor text n h hpos
    rcases List.getElem?_eq_some_iff.mp hlast with ⟨hin, hsep⟩
    have hsplit : text = text.take (n - 1) ++ sep :: text.drop n := by
      have hdrop := List.drop_eq_getElem_cons hin
      rw [hsep, Nat.sub_add_cancel hpos] at hdrop
      rw [← hdrop, List.take_append_drop]
    have hlength : (text.take (n - 1)).length = n - 1 := List.length_take_of_le hin.le
    rw [hsplit, upTo_append_cons _ _ hnone, hlength]
    omega

/-- The lines after a position that is moved are lines after the old one. -/
theorem mem_lines_drop_advance (line : List α)
    (h : line ∈ lines sep (text.drop (advance sep max text n))) :
    line ∈ lines sep (text.drop n) := by
  have hshort : upTo sep (slice max text n) ≤ max :=
    (upTo_le_length _).trans (List.length_take_le ..)
  have hends : Ends sep ((text.drop n).take (upTo sep (slice max text n))) := by
    have htake := @ends_take_upTo _ _ sep (slice max text n)
    rw [slice, List.take_take, min_eq_left] at htake
    · exact htake
    · exact hshort
  rw [← List.take_append_drop (upTo sep (slice max text n)) (text.drop n), lines_append _ _ hends,
    List.drop_drop]
  exact List.mem_append_right _ h

/-- The cursor gets to the end of the last line exactly if all lines after it fit
    into a slice. -/
theorem exists_iterate_iff (h : Cursor sep text n) :
    (∃ k, (advance sep max text)^[k] n = upTo sep text) ↔
      ∀ line ∈ lines sep (text.drop n), line.length + 1 ≤ max := by
  constructor
  · rintro ⟨k, hk⟩ line hline
    by_contra hlong
    -- Behind a line that is too long the cursor never gets.
    rcases exists_of_mem_lines _ line hline with ⟨before, rest, hdrop, hsep⟩
    rcases eq_of_drop text n before line rest hdrop with ⟨htext, hlength⟩
    have hblocked := iterate_blocked max n (text.take n ++ before) line rest hsep (by omega)
      (by omega) k
    have hlast := @le_upTo _ _ sep ((text.take n ++ before) ++ line) rest
    rw [List.append_assoc (text.take n ++ before) line, ← htext, List.length_append] at hlast
    rw [← htext, hk] at hblocked
    omega
  · -- By induction on what is left, which gets less with every whole line.
    intro hfits
    induction hleft : text.length - n using Nat.strong_induction_on generalizing n with
    | _ left ih =>
        by_cases hmem : sep ∈ text.drop n
        · rcases List.eq_append_cons_of_mem hmem with ⟨line, rest, hnext, hline⟩
          have hfit : line.length + 1 ≤ max := by
            refine hfits line ?_
            rw [hnext, lines_append_cons line rest hline]
            exact List.mem_cons_self
          have hpast := (lt_advance_iff max text n line rest hnext hline).mpr hfit
          have hcursor := cursor_advance max text n h
          have hin := hcursor.1
          rcases ih _ (by omega) _ hcursor
            (fun l hl => hfits l (mem_lines_drop_advance max text n l hl)) rfl with ⟨k, hk⟩
          exact ⟨k + 1, by rw [Function.iterate_succ_apply]; exact hk⟩
        · exact ⟨0, (upTo_eq_of_notMem text n h hmem).symm⟩

end Cursor

end LineCursor
