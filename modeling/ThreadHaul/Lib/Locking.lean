import Mathlib.Logic.Basic

/-!
# Threads and a Lock

Threads that share one lock and wait for each other's end.

What matters of a state is its `View`: who owns the lock, which threads are in the
code that holds it, which ones wait for it, and which ones wait for the end of
which. A lock does its part if its owner is the thread that is inside, `Owned`. A
step of one thread keeps that if the others stay where they are and the thread
itself takes the lock when it is free, gives it back when it has it, or does
neither.

A thread that owns the lock and waits for the end of a thread that waits for the
lock will never go on, and neither will the other one: `Deadlocked`.

## Main definitions

* `View`: What matters of a state.
* `Owned`: The owner is the thread inside.
* `Passes`: What a step of a thread does with the lock.
* `Deadlocked`: The owner joins a thread that waits for the lock.

## Theorems

* `owned_step`: A step keeps `Owned`.
* `inside_unique`: No two threads are inside.
-/

namespace Locking

variable {T : Type*}

/-- What matters of a state. The threads that are inside are in the code between
    taking and releasing the lock. -/
structure View (T : Type*) where
  owner : Option T
  inside : T → Prop
  waiting : T → Prop
  joining : T → T → Prop

/-- The thread that is inside owns the lock. -/
def Owned (v : View T) : Prop := ∀ t, v.owner = some t ↔ v.inside t

/-- The owner of the lock waits for the end of a thread that waits for the lock. -/
def Deadlocked (v : View T) : Prop := ∃ t u, v.owner = some t ∧ v.joining t u ∧ v.waiting u

/-- What a step of thread `t` does with the lock. -/
inductive Passes (v v' : View T) (t : T) : Prop
  | keeps (howner : v'.owner = v.owner) (hself : v'.inside t ↔ v.inside t)
  | takes (hfree : v.owner = none) (howner : v'.owner = some t) (hself : v'.inside t)
  | releases (hself : v.inside t) (howner : v'.owner = none) (hself' : ¬ v'.inside t)

theorem inside_unique (v : View T) (h : Owned v) (t u : T) (ht : v.inside t) (hu : v.inside u) :
    t = u :=
  Option.some.inj (((h t).mpr ht).symm.trans ((h u).mpr hu))

/-- A step keeps `Owned`, if the other threads stay where they are. -/
theorem owned_step (v v' : View T) (t : T) (h : Owned v)
    (hothers : ∀ u, u ≠ t → (v'.inside u ↔ v.inside u)) (hpasses : Passes v v' t) : Owned v' := by
  intro u
  -- It matters whether the thread in question is the one that moves.
  cases hpasses with
  | keeps howner hself =>
      rw [howner, h u]
      by_cases hu : u = t
      · rw [hu]
        exact hself.symm
      · exact (hothers u hu).symm
  | takes hfree howner hself =>
      rw [howner, Option.some_inj]
      by_cases hu : u = t
      · rw [hu]
        exact ⟨fun _ => hself, fun _ => rfl⟩
      · rw [hothers u hu, ← h u, hfree]
        exact ⟨fun hsame => absurd hsame.symm hu,
          fun hnone => absurd hnone (Option.some_ne_none u).symm⟩
  | releases hself howner hself' =>
      rw [howner]
      by_cases hu : u = t
      · rw [hu]
        exact ⟨fun hnone => absurd hnone (Option.some_ne_none t).symm, fun hin => absurd hin hself'⟩
      · rw [hothers u hu]
        exact ⟨fun hnone => absurd hnone (Option.some_ne_none u).symm,
          fun hin => absurd (inside_unique v h u t hin hself) hu⟩

end Locking
