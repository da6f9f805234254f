import Mathlib.Data.List.Forall2

/-!
# Runs of a Step Function

What a deterministic machine does over a whole list of inputs, and the three
ways of proving something about it.

A machine here is a function `step : σ → ι → σ`: a state and one input give
the next state. Everything a component does over time is a `run` of such a
function, the nondeterminism of its surroundings (which call comes next, which
system call fails) being part of the input.

An invariant is the usual argument: it holds at the start and every step keeps
it. Often it survives only the steps whose input is well behaved, and the
interesting statement is about runs all of whose steps are. `Along` says that
of a run, each step being judged in the state it is taken from, and
`Throughout` says that a property holds in every state the run passes.
`throughout_iff_along` puts the two together: where a bad step breaks the
property at once and a good one keeps the invariant, the property holds
throughout exactly when every step is good.

The last argument compares two machines fed with two related lists of inputs.

## Main definitions

* `run`: The state after a list of inputs.
* `Along`: Every step of a run satisfies a condition.
* `Throughout`: Every state of a run satisfies a property.

## Theorems

* `run_append`: Splitting a run at an intermediate state.
* `run_invariant`: What one step keeps, a run keeps.
* `run_invariant_along`: The same, for the steps that meet a condition.
* `along_iff_along_of`, `along_iff_along`: Conditions that agree under an invariant.
* `run_foldl`: A part of the state that goes its own way.
* `along_append`: The steps of a run are those of its parts.
* `along_of_forall_mem`: A condition on the inputs alone.
* `along_of_along`, `throughout_of_along`: What follows of every step and every
  state under an invariant.
* `run_simulation`: Two related machines on related inputs stay related.
* `throughout_final`: A property that holds throughout holds at the end.
* `throughout_iff_along_of`, `throughout_iff_along`: A property that every good
  step keeps and every bad step breaks holds throughout exactly the runs of good
  steps.
-/

namespace Runs

variable {σ τ ι κ : Type*}

/-- The state a machine reaches from `s` on a list of inputs. -/
def run (step : σ → ι → σ) : σ → List ι → σ
  | s, [] => s
  | s, i :: l => run step (step s i) l

/-- Every step of the run satisfies `C`, judged in the state it is taken
    from. -/
def Along (step : σ → ι → σ) (C : σ → ι → Prop) : σ → List ι → Prop
  | _, [] => True
  | s, i :: l => C s i ∧ Along step C (step s i) l

/-- Conditions that can be decided can be decided along a run. -/
instance decidableAlong (step : σ → ι → σ) (C : σ → ι → Prop) [∀ s i, Decidable (C s i)] :
    (s : σ) → (l : List ι) → Decidable (Along step C s l)
  | _, [] => inferInstanceAs (Decidable True)
  | s, i :: l =>
      have := decidableAlong step C (step s i) l
      inferInstanceAs (Decidable (C s i ∧ Along step C (step s i) l))

/-- Every state of the run satisfies `P`, the first and the last included. -/
def Throughout (step : σ → ι → σ) (P : σ → Prop) : σ → List ι → Prop
  | s, [] => P s
  | s, i :: l => P s ∧ Throughout step P (step s i) l

@[simp] theorem run_nil (step : σ → ι → σ) (s : σ) : run step s [] = s := rfl

@[simp] theorem run_cons (step : σ → ι → σ) (s : σ) (i : ι) (l : List ι) :
    run step s (i :: l) = run step (step s i) l := rfl

theorem run_append (step : σ → ι → σ) (s : σ) (l l' : List ι) :
    run step s (l ++ l') = run step (run step s l) l' := by
  induction l generalizing s with
  | nil => rfl
  | cons i l ih => exact ih (step s i)

/-- What every step keeps, a run keeps. -/
theorem run_invariant (step : σ → ι → σ) (I : σ → Prop)
    (hstep : ∀ s i, I s → I (step s i)) (l : List ι) (s : σ) (hs : I s) :
    I (run step s l) := by
  induction l generalizing s with
  | nil => exact hs
  | cons i l ih => exact ih (step s i) (hstep s i hs)

/-- What every step meeting `C` keeps, a run of such steps keeps. -/
theorem run_invariant_along (step : σ → ι → σ) (C : σ → ι → Prop) (I : σ → Prop)
    (hstep : ∀ s i, C s i → I s → I (step s i)) (l : List ι) (s : σ)
    (hl : Along step C s l) (hs : I s) : I (run step s l) := by
  induction l generalizing s with
  | nil => exact hs
  | cons i l ih => exact ih (step s i) hl.2 (hstep s i hl.1 hs)

/-- Two machines that related inputs keep related stay related over two lists
    of inputs that are related one by one. -/
theorem run_simulation (step : σ → ι → σ) (step' : τ → κ → τ) (C : ι → κ → Prop)
    (R : σ → τ → Prop) (hstep : ∀ s t i j, C i j → R s t → R (step s i) (step' t j))
    {l : List ι} {l' : List κ} (hl : List.Forall₂ C l l') (s : σ) (t : τ) (hs : R s t) :
    R (run step s l) (run step' t l') := by
  induction hl generalizing s t with
  | nil => exact hs
  | cons hij _ ih => exact ih (step s _) (step' t _) (hstep s t _ _ hij hs)

/-- What a step makes of a part of the state without the rest, a run makes of it too. -/
theorem run_foldl (step : σ → ι → σ) (part : σ → τ) (g : τ → ι → τ)
    (hstep : ∀ s i, part (step s i) = g (part s) i) (l : List ι) (s : σ) :
    part (run step s l) = l.foldl g (part s) := by
  induction l generalizing s with
  | nil => rfl
  | cons i l ih => rw [run_cons, ih (step s i), hstep, List.foldl_cons]

theorem along_append (step : σ → ι → σ) (C : σ → ι → Prop) (s : σ) (l l' : List ι) :
    Along step C s (l ++ l') ↔ Along step C s l ∧ Along step C (run step s l) l' := by
  induction l generalizing s with
  | nil => exact ⟨fun h => ⟨trivial, h⟩, fun h => h.2⟩
  | cons i l ih => simp only [List.cons_append, Along, run_cons, ih (step s i), and_assoc]

/-- Two conditions that agree under an invariant hold along the same runs, where every
    step meets what the invariant asks for. -/
theorem along_iff_along_of (step : σ → ι → σ) (L C D : σ → ι → Prop) (I : σ → Prop)
    (hstep : ∀ s i, L s i → I s → I (step s i)) (hCD : ∀ s i, L s i → I s → (C s i ↔ D s i))
    (l : List ι) (s : σ) (hL : Along step L s l) (hs : I s) :
    Along step C s l ↔ Along step D s l := by
  induction l generalizing s with
  | nil => exact Iff.rfl
  | cons i l ih =>
      rw [Along, Along, hCD s i hL.1 hs, ih (step s i) hL.2 (hstep s i hL.1 hs)]

/-- Two conditions that agree under an invariant hold along the same runs. -/
theorem along_iff_along (step : σ → ι → σ) (C D : σ → ι → Prop) (I : σ → Prop)
    (hstep : ∀ s i, I s → I (step s i)) (hCD : ∀ s i, I s → (C s i ↔ D s i)) (l : List ι) (s : σ)
    (hs : I s) : Along step C s l ↔ Along step D s l := by
  induction l generalizing s with
  | nil => exact Iff.rfl
  | cons i l ih => rw [Along, Along, hCD s i hs, ih (step s i) (hstep s i hs)]

theorem throughout_final (step : σ → ι → σ) (P : σ → Prop) (s : σ) (l : List ι)
    (h : Throughout step P s l) : P (run step s l) := by
  induction l generalizing s with
  | nil => exact h
  | cons i l ih => exact ih (step s i) h.2

theorem throughout_head (step : σ → ι → σ) (P : σ → Prop) (s : σ) (l : List ι)
    (h : Throughout step P s l) : P s := by
  cases l with
  | nil => exact h
  | cons i l => exact h.1

/-- Of the steps that meet `L`, the good ones keep an invariant that implies
    `P`, and a bad one leads from the invariant to a state without `P`. Then the
    runs on which `P` holds throughout are the runs of good steps. -/
theorem throughout_iff_along_of (step : σ → ι → σ) (L C : σ → ι → Prop) (I P : σ → Prop)
    (hIP : ∀ s, I s → P s) (hkeep : ∀ s i, L s i → C s i → I s → I (step s i))
    (hbreak : ∀ s i, I s → L s i → ¬ C s i → ¬ P (step s i)) (l : List ι) (s : σ)
    (hL : Along step L s l) (hs : I s) : Throughout step P s l ↔ Along step C s l := by
  -- By induction on the run: the first step that breaks the condition breaks the property.
  induction l generalizing s with
  | nil => exact ⟨fun _ => trivial, fun _ => hIP s hs⟩
  | cons i l ih =>
      constructor
      · intro h
        have hC : C s i := by
          by_contra hc
          exact hbreak s i hs hL.1 hc (throughout_head step P (step s i) l h.2)
        exact ⟨hC, (ih (step s i) hL.2 (hkeep s i hL.1 hC hs)).mp h.2⟩
      · intro h
        exact ⟨hIP s hs, (ih (step s i) hL.2 (hkeep s i hL.1 h.1 hs)).mpr h.2⟩

theorem along_and (step : σ → ι → σ) (C D : σ → ι → Prop) (s : σ) (l : List ι)
    (hC : Along step C s l) (hD : Along step D s l) :
    Along step (fun s i => C s i ∧ D s i) s l := by
  induction l generalizing s with
  | nil => trivial
  | cons i l ih => exact ⟨⟨hC.1, hD.1⟩, ih (step s i) hC.2 hD.2⟩

/-- What holds of every good step from a state with the invariant holds along
    every run of good steps. -/
theorem along_of_along (step : σ → ι → σ) (C D : σ → ι → Prop) (I : σ → Prop)
    (hstep : ∀ s i, C s i → I s → I (step s i)) (hD : ∀ s i, C s i → I s → D s i) (l : List ι)
    (s : σ) (hl : Along step C s l) (hs : I s) : Along step D s l := by
  induction l generalizing s with
  | nil => trivial
  | cons i l ih => exact ⟨hD s i hl.1 hs, ih (step s i) hl.2 (hstep s i hl.1 hs)⟩

/-- What every good step keeps holds throughout a run of good steps. -/
theorem throughout_of_along (step : σ → ι → σ) (C : σ → ι → Prop) (I P : σ → Prop)
    (hIP : ∀ s, I s → P s) (hstep : ∀ s i, C s i → I s → I (step s i)) (l : List ι) (s : σ)
    (hl : Along step C s l) (hs : I s) : Throughout step P s l := by
  induction l generalizing s with
  | nil => exact hIP s hs
  | cons i l ih => exact ⟨hIP s hs, ih (step s i) hl.2 (hstep s i hl.1 hs)⟩

/-- A condition on the inputs alone holds along every run on such inputs. -/
theorem along_of_forall_mem (step : σ → ι → σ) (C : ι → Prop) (s : σ) (l : List ι)
    (hl : ∀ i ∈ l, C i) : Along step (fun _ i => C i) s l := by
  induction l generalizing s with
  | nil => trivial
  | cons i l ih =>
      exact ⟨hl i (List.mem_cons_self ..),
        ih (step s i) (fun j hj => hl j (List.mem_cons_of_mem _ hj))⟩

/-- `throughout_iff_along_of`, where nothing is asked of the steps. -/
theorem throughout_iff_along (step : σ → ι → σ) (C : σ → ι → Prop) (I P : σ → Prop)
    (hIP : ∀ s, I s → P s) (hkeep : ∀ s i, C s i → I s → I (step s i))
    (hbreak : ∀ s i, I s → ¬ C s i → ¬ P (step s i)) (l : List ι) (s : σ) (hs : I s) :
    Throughout step P s l ↔ Along step C s l :=
  throughout_iff_along_of step (fun _ _ => True) C I P hIP (fun s i _ => hkeep s i)
    (fun s i h _ => hbreak s i h) l s (along_of_forall_mem step _ s l fun _ _ => trivial) hs

end Runs
