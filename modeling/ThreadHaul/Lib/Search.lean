import Mathlib.Data.List.Infix

/-!
# Searching for a Pattern

Where a pattern occurs first in a list, and what more of the list changes about it.

A search that has found the pattern has found it for good: `find_append`. One that has
not may find it once there is more, but then the pattern ends behind what was searched
before: `find_of_append`. So a list that arrives in pieces can be searched as it
arrives, and the place does not depend on the pieces.

## Main definitions

* `find`: The first occurrence of a pattern.

## Theorems

* `find_append`: More of the list does not change what was found.
* `find_of_append`: What is found in a longer list is found where it ends.
-/

namespace Search

variable {α : Type*} [DecidableEq α]

/-- Where the pattern begins for the first time. -/
def find (p : List α) : List α → Option Nat
  | [] => if p = [] then some 0 else none
  | a :: l => if p <+: a :: l then some 0 else (find p l).map (· + 1)

variable {p : List α}

/-- The pattern ends within the list. -/
theorem le_of_find {l : List α} {i : Nat} (h : find p l = some i) : i + p.length ≤ l.length := by
  induction l generalizing i with
  | nil =>
      rw [find] at h
      split_ifs at h with hp
      cases h
      rw [hp]
      exact Nat.le_refl 0
  | cons a l ih =>
      rw [find] at h
      split_ifs at h with hp
      · -- A match at the head fits into the list, for it is a prefix of it.
        cases h
        rw [Nat.zero_add]
        exact hp.length_le
      · rcases Option.map_eq_some_iff.mp h with ⟨j, hj, rfl⟩
        have hle := ih hj
        rw [List.length_cons]
        omega

/-- More of the list does not change what was found. -/
theorem find_append {l : List α} (m : List α) {i : Nat} (h : find p l = some i) :
    find p (l ++ m) = some i := by
  induction l generalizing i with
  | nil =>
      rw [find] at h
      split_ifs at h with hp
      cases h
      rw [hp, List.nil_append]
      cases m with
      | nil => exact if_pos rfl
      | cons b m => exact if_pos List.nil_prefix
  | cons a l ih =>
      rw [find] at h
      rw [List.cons_append, find]
      split_ifs at h with hp
      · have hpre : p <+: a :: (l ++ m) := hp.trans (List.prefix_append (a :: l) m)
        rw [if_pos hpre]
        exact h
      · rcases Option.map_eq_some_iff.mp h with ⟨j, hj, rfl⟩
        -- The pattern fits before the rest, so it does not begin earlier because of it.
        have hno : ¬ p <+: a :: (l ++ m) := by
          intro hpre
          refine hp (List.prefix_of_prefix_length_le hpre (List.prefix_append (a :: l) m) ?_)
          have hle := le_of_find hj
          rw [List.length_cons]
          omega
        rw [if_neg hno, ih hj]
        rfl

/-- What is found in a longer list is found as soon as the pattern is there. -/
theorem find_of_append {l m : List α} {i : Nat} (h : find p (l ++ m) = some i)
    (hle : i + p.length ≤ l.length) : find p l = some i := by
  induction l generalizing i with
  | nil =>
      rw [List.length_nil] at hle
      have hp : p = [] := List.eq_nil_of_length_eq_zero (by omega)
      have hi : i = 0 := by omega
      rw [find, if_pos hp, hi]
  | cons a l ih =>
      rw [List.cons_append, find] at h
      rw [find]
      -- A match that ends within the first part is a match there, and no earlier one appears.
      split_ifs at h with hp
      · cases h
        rw [Nat.zero_add] at hle
        exact if_pos (List.prefix_of_prefix_length_le hp (List.prefix_append (a :: l) m) hle)
      · rcases Option.map_eq_some_iff.mp h with ⟨j, hj, rfl⟩
        have hno : ¬ p <+: a :: l := fun hpre => hp (hpre.trans (List.prefix_append (a :: l) m))
        rw [List.length_cons] at hle
        rw [if_neg hno, ih hj (by omega)]
        rfl

/-- So as long as it is not found, its end is still to come. -/
theorem lt_of_find_none {l m : List α} {i : Nat} (hnone : find p l = none)
    (h : find p (l ++ m) = some i) : l.length < i + p.length := by
  by_contra hge
  rw [find_of_append h (not_lt.mp hge)] at hnone
  cases hnone

end Search
