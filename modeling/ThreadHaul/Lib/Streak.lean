import Mathlib.Data.List.TakeWhile

/-!
# Streaks

How many of the most recent samples in a row satisfy a predicate.

A sliding counter of consecutive hits ("three high samples in a row") goes up
by one on a hit and back to zero on a miss. Over a history kept newest first,
what it counts is the length of the longest prefix of hits. `streak_cons` is
the counter's own step, and `le_streak_iff` is what a threshold test on it
means: the last `n` samples were all hits.

## Main definitions

* `streak`: The number of hits at the front of a history.

## Theorems

* `streak_cons`: One more sample, as the counter sees it.
* `streak_le_length`: A streak is no longer than its history.
* `le_streak_iff`: A streak has reached `n` when the last `n` samples are hits.
-/

namespace Streak

variable {α : Type*}

/-- The length of the longest run of most recent samples, the history being
    kept newest first, that satisfy `p`. -/
def streak (p : α → Bool) (l : List α) : Nat :=
  (l.takeWhile p).length

@[simp] theorem streak_nil (p : α → Bool) : streak p [] = 0 := rfl

theorem streak_cons (p : α → Bool) (a : α) (l : List α) :
    streak p (a :: l) = if p a then streak p l + 1 else 0 := by
  by_cases ha : p a
  · rw [streak, List.takeWhile_cons_of_pos ha, if_pos ha, List.length_cons, streak]
  · rw [streak, List.takeWhile_cons_of_neg ha, if_neg ha, List.length_nil]

theorem streak_le_length (p : α → Bool) (l : List α) : streak p l ≤ l.length :=
  (List.takeWhile_prefix p).length_le

/-- A streak has reached `n` exactly when the `n` most recent samples exist and
    are all hits. -/
theorem le_streak_iff (p : α → Bool) (n : Nat) (l : List α) :
    n ≤ streak p l ↔ n ≤ l.length ∧ ∀ a ∈ l.take n, p a = true := by
  induction l generalizing n with
  | nil => simp only [streak_nil, List.length_nil, List.take_nil, List.not_mem_nil,
      false_implies, implies_true, and_true]
  | cons a l ih =>
      cases n with
      | zero => simp only [Nat.zero_le, List.take_zero, List.not_mem_nil, false_implies,
          implies_true, and_self]
      | succ n =>
          -- The head continues the streak or ends it at once.
          by_cases ha : p a
          · rw [streak_cons, if_pos ha]
            simp only [Nat.add_le_add_iff_right, ih n, List.length_cons,
              List.take_succ_cons, List.mem_cons, forall_eq_or_imp, ha, true_and]
          · rw [streak_cons, if_neg ha]
            simp only [List.take_succ_cons, List.mem_cons, forall_eq_or_imp, ha, Nat.le_zero,
              Bool.false_eq_true, false_and, and_false, Nat.succ_ne_zero]

end Streak
