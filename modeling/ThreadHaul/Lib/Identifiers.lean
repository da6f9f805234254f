import Mathlib.Data.Option.Basic
import Mathlib.Logic.Function.Basic

/-!
# Identifiers That Are Used Again

A system that names its objects by identifiers from a fixed supply, and gives an
identifier to a new object once the old one is gone.

An object is gone when it has ended and nobody has a handle to it. Until then
its identifier leads to it, and that is all a handle is good for here: whoever
has one knows that the identifier still means the same object
(`found_of_held`). Without a handle an identifier may lead to another
object at any time after the first one has ended.

Objects are numbered in the order in which they start, so a number stands for
one object for ever. A registry carries the proof that it only knows objects
that have started, and that an object has one identifier.

## Main definitions

* `Registry`: Identifiers and the objects they were given to.
* `found`: What an identifier leads to.
* `assign`: A new object gets an identifier, if it is free.
* `finish`: Objects end.

## Theorems

* `found_eq_some_iff`: When an identifier leads to an object.
* `found_of_held`: With a handle, an object can be found.
* `named_assign_of_ne`: What an identifier leads to, it keeps leading to.
* `named_assign_cases`: What an identifier was given to after a start.
-/

namespace Identifiers

/-- Identifiers, the object each of them was given to last, and which objects
    have ended. -/
structure Registry (κ : Type*) where
  named : κ → Option Nat
  ended : Nat → Bool
  /-- How many objects have started. -/
  count : Nat
  known : ∀ k o, named k = some o → o < count
  distinct : ∀ k k' o, named k = some o → named k' = some o → k = k'

namespace Registry

variable {κ : Type*}

/-- Nothing has started. -/
def empty : Registry κ where
  named _ := none
  ended _ := false
  count := 0
  known _ _ h := nomatch h
  distinct _ _ _ h := nomatch h

/-- What an identifier leads to. An object that has ended is still there while
    a handle to it is open. -/
def found (r : Registry κ) (held : Nat → Bool) (k : κ) : Option Nat :=
  (r.named k).filter fun o => !r.ended o || held o

/-- Objects end. -/
def finish (r : Registry κ) (gone : Nat → Bool) : Registry κ :=
  { r with ended := fun o => r.ended o || gone o }

theorem found_eq_some_iff (r : Registry κ) (held : Nat → Bool) (k : κ) (o : Nat) :
    r.found held k = some o ↔ r.named k = some o ∧ (r.ended o = false ∨ held o = true) := by
  simp only [found, Option.filter_eq_some_iff, Bool.or_eq_true, Bool.not_eq_true']

/-- While a handle to it is open, an object can be found. -/
theorem found_of_held (r : Registry κ) (held : Nat → Bool) (k : κ) (o : Nat)
    (hnamed : r.named k = some o) (hheld : held o = true) : r.found held k = some o :=
  (r.found_eq_some_iff held k o).mpr ⟨hnamed, Or.inr hheld⟩

variable [DecidableEq κ]

/-- A new object gets the identifier, unless that leads to another one. -/
def assign (r : Registry κ) (held : Nat → Bool) (k : κ) : Registry κ :=
  if r.found held k = none then
    { named := Function.update r.named k (some r.count)
      ended := Function.update r.ended r.count false
      count := r.count + 1
      known := by
        intro k' o ho
        by_cases hk : k' = k
        · rw [hk, Function.update_self] at ho
          cases ho
          exact Nat.lt_succ_self _
        · rw [Function.update_of_ne hk] at ho
          exact Nat.lt_succ_of_lt (r.known k' o ho)
      distinct := by
        -- The new object is none of those that have started.
        have hnew : ∀ k', k' ≠ k → ∀ o, Function.update r.named k (some r.count) k' = some o →
            o ≠ r.count := by
          intro k' hk o ho heq
          rw [Function.update_of_ne hk] at ho
          have hlt := r.known k' o ho
          omega
        have hself : ∀ o, Function.update r.named k (some r.count) k = some o → o = r.count := by
          intro o ho
          rw [Function.update_self] at ho
          exact (Option.some.inj ho).symm
        intro k₁ k₂ o h₁ h₂
        by_cases hk₁ : k₁ = k
        · subst hk₁
          by_contra hne
          exact hnew k₂ (fun heq => hne heq.symm) o h₂ (hself o h₁)
        · by_cases hk₂ : k₂ = k
          · subst hk₂
            exact absurd (hself o h₂) (hnew k₁ hk₁ o h₁)
          · rw [Function.update_of_ne hk₁] at h₁
            rw [Function.update_of_ne hk₂] at h₂
            exact r.distinct k₁ k₂ o h₁ h₂ }
  else r

/-- After a start, an identifier was given to what it was given to before, or it
    was free and was given to the new object. -/
theorem named_assign_cases (r : Registry κ) (held : Nat → Bool) (k k' : κ) (o : Nat)
    (h : (r.assign held k).named k' = some o) :
    r.named k' = some o ∨ (k' = k ∧ r.found held k = none ∧ o = r.count) := by
  unfold assign at h
  -- A name is only given out when none is found for the key.
  by_cases hfree : r.found held k = none
  · rw [if_pos hfree] at h
    change Function.update r.named k (some r.count) k' = some o at h
    by_cases hk : k' = k
    · rw [hk, Function.update_self] at h
      exact Or.inr ⟨hk, hfree, (Option.some.inj h).symm⟩
    · rw [Function.update_of_ne hk] at h
      exact Or.inl h
  · rw [if_neg hfree] at h
    exact Or.inl h

/-- An identifier that is not given away is left as it is. -/
theorem named_assign_of_ne (r : Registry κ) (held : Nat → Bool) (k k' : κ) (o : Nat)
    (h : r.named k' = some o) (hk : k' = k → r.found held k ≠ none) :
    (r.assign held k).named k' = some o := by
  unfold assign
  by_cases hfree : r.found held k = none
  · have hne : k' ≠ k := fun heq => hk heq hfree
    rw [if_pos hfree]
    change Function.update r.named k (some r.count) k' = some o
    rw [Function.update_of_ne hne]
    exact h
  · rw [if_neg hfree]
    exact h

theorem count_le_assign (r : Registry κ) (held : Nat → Bool) (k : κ) :
    r.count ≤ (r.assign held k).count := by
  unfold assign
  split
  · exact Nat.le_succ _
  · exact Nat.le_refl _

end Registry

end Identifiers
