import Mathlib.Logic.Function.Basic
import Mathlib.Tactic.SplitIfs

/-!
# Numbered Slots

Slots with numbers, each empty or with a content, and what it takes to make room
in the first one.

Programs that keep a bounded number of old versions of a file do it by renaming:
the oldest is deleted, each of the others gets the next number, and the current
one gets number 1. Each of these operations may be refused. `rotate` is that
sequence of operations in its usual order, from the top down, and
`rotate_eq_shifted` says what it comes to when nothing is refused: every content
is one slot further up, whichever slots were empty.

The contents from the top down, oldest first, are a `stack`. A rotation takes its
first element away, `stack_eq_shifted`, unless something is left behind above the
slots that take part.

## Main definitions

* `move`, `rotate`: One renaming, and all of them.
* `shifted`: Every content one slot further up.
* `vacated`: The same, several times, with nothing coming up from slot 0.
* `stack`: The contents from the top down.
* `Holds`: The contents as the end of a history.

## Theorems

* `shiftUp_apply`: What the renamings of the numbered slots do.
* `rotate_zero`: What any rotation does to slot 0.
* `rotate_eq_shifted`: A rotation that is not refused shifts.
* `rotate_vacated`, `vacated_vacated`: Rotations that are refused slot 0.
* `stack_eq_shifted`: What a rotation does to the stack.
* `flatten_stack_append`: What is added to slot 0 is added at the end.
* `stack_map`, `shifted_map`: The same for other contents.
* `holds_shifted`, `holds_append`: What keeps the end of a history.
-/

namespace Slots

variable {β : Type*}

/-- The content of slot `i`, if there is one, replaces that of slot `j`. -/
def move (s : Nat → Option β) (i j : Nat) : Nat → Option β :=
  match s i with
  | none => s
  | some b => Function.update (Function.update s i none) j (some b)

/-- The slots from `n` down to 1 are moved up by one, as far as `moves`
    permits. -/
def shiftUp (moves : Nat → Bool) : Nat → (Nat → Option β) → Nat → Option β
  | 0, s => s
  | i + 1, s => shiftUp moves i (if moves (i + 1) then move s (i + 1) (i + 2) else s)

/-- A place is emptied, if that is permitted. -/
def delete (permitted : Bool) (s : Nat → Option β) (i : Nat) : Nat → Option β :=
  if permitted then Function.update s i none else s

/-- Slot `n` is cleared, the ones below are moved up, and then slot 0 is. Without
    slots above it, slot 0 itself is cleared. -/
def rotate (deletes : Bool) (moves : Nat → Bool) (n : Nat) (s : Nat → Option β) :
    Nat → Option β :=
  if n = 0 then delete deletes s 0
  else
    let s := shiftUp moves (n - 1) (delete deletes s n)
    if moves 0 then move s 0 1 else s

/-- Every content up to slot `n` is one slot further up, that of slot `n` is
    gone. -/
def shifted (n : Nat) (s : Nat → Option β) (k : Nat) : Option β :=
  if k = 0 then none else if k ≤ n then s (k - 1) else s k

theorem move_apply (s : Nat → Option β) (i j k : Nat) (hj : s j = none) :
    move s i j k = if k = j then s i else if k = i then none else s k := by
  unfold move
  cases hi : s i with
  | none =>
      dsimp only
      split_ifs with hkj hki
      · rw [hkj, hj]
      · rw [hki, hi]
      · rfl
  | some b =>
      dsimp only
      rw [Function.update_apply, Function.update_apply]

/-- The renamings go from the top down, so each finds its target empty. -/
theorem shiftUp_apply (n : Nat) (s : Nat → Option β) (k : Nat) (htop : s (n + 1) = none) :
    shiftUp (fun _ => true) n s k =
      if k = 0 ∨ n + 1 < k then s k else if k = 1 then none else s (k - 1) := by
  induction n generalizing s with
  | zero =>
      unfold shiftUp
      split_ifs with houtside hone
      · rfl
      · rw [hone, htop]
      · omega
  | succ n ih =>
      have hmove := fun k => move_apply s (n + 1) (n + 2) k htop
      have hnext : move s (n + 1) (n + 2) (n + 1) = none := by
        rw [hmove, if_neg (by omega), if_pos rfl]
      rw [shiftUp, if_pos rfl, ih _ hnext]
      -- Only the two slots of the first renaming are not as they were.
      by_cases hk : k = n + 2
      · rw [if_pos (by omega), hmove, if_pos hk, if_neg (by omega), if_neg (by omega), hk]
        rfl
      by_cases hzero : k = 0
      · rw [if_pos (Or.inl hzero), if_pos (Or.inl hzero), hmove, if_neg hk, if_neg (by omega)]
      by_cases habove : n + 1 < k
      · rw [if_pos (Or.inr habove), if_pos (by omega), hmove, if_neg hk, if_neg (by omega)]
      · have hinside : ¬ (k = 0 ∨ n + 1 < k) := by omega
        have hinside' : ¬ (k = 0 ∨ n + 1 + 1 < k) := by omega
        rw [if_neg hinside, if_neg hinside']
        split_ifs with hone
        · rfl
        · rw [hmove, if_neg (by omega), if_neg (by omega)]

/-- What is moved leaves its slot. -/
theorem move_self (s : Nat → Option β) (i j : Nat) (hij : i ≠ j) : move s i j i = none := by
  unfold move
  cases hi : s i with
  | none => exact hi
  | some b =>
      dsimp only
      rw [Function.update_of_ne hij, Function.update_self]

theorem move_of_ne (s : Nat → Option β) (i j k : Nat) (hi : k ≠ i) (hj : k ≠ j) :
    move s i j k = s k := by
  unfold move
  cases s i with
  | none => rfl
  | some b =>
      dsimp only
      rw [Function.update_of_ne hj, Function.update_of_ne hi]

/-- The renamings of the numbered slots leave slot 0 alone. -/
theorem shiftUp_zero (moves : Nat → Bool) (n : Nat) (s : Nat → Option β) :
    shiftUp moves n s 0 = s 0 := by
  induction n generalizing s with
  | zero => rfl
  | succ n ih =>
      rw [shiftUp, ih]
      split_ifs
      · exact move_of_ne s _ _ 0 (by omega) (by omega)
      · rfl

/-- A rotation empties slot 0, or leaves it as it was. -/
theorem rotate_zero (deletes : Bool) (moves : Nat → Bool) (n : Nat) (s : Nat → Option β) :
    rotate deletes moves n s 0 = none ∨ rotate deletes moves n s 0 = s 0 := by
  -- Deleting empties the slot or leaves it.
  have hdelete : ∀ i, delete deletes s i 0 = none ∨ delete deletes s i 0 = s 0 := by
    intro i
    unfold delete
    split_ifs
    · rw [Function.update_apply]
      split_ifs
      · exact Or.inl rfl
      · exact Or.inr rfl
    · exact Or.inr rfl
  unfold rotate
  split_ifs with hn hmove
  · exact hdelete 0
  · -- The last renaming takes what is in slot 0.
    exact Or.inl (move_self _ 0 1 (by omega))
  · dsimp only
    rw [shiftUp_zero]
    exact hdelete n

/-- A rotation that is not refused shifts. -/
theorem rotate_eq_shifted (n : Nat) (s : Nat → Option β) :
    rotate true (fun _ => true) n s = shifted n s := by
  funext k
  unfold rotate shifted delete
  by_cases hn : n = 0
  · rw [if_pos hn, if_pos rfl, Function.update_apply]
    split_ifs with hk hle
    · rfl
    · omega
    · rfl
  · rw [if_neg hn, if_pos rfl, if_pos rfl]
    have hcleared : Function.update s n none (n - 1 + 1) = none := by
      rw [show n - 1 + 1 = n by omega, Function.update_self]
    -- The deletion makes room for the first renaming, and the renamings do for the last.
    have hshift := fun k => shiftUp_apply (n - 1) (Function.update s n none) k hcleared
    have hone : shiftUp (fun _ => true) (n - 1) (Function.update s n none) 1 = none := by
      rw [hshift, if_neg (by omega), if_pos rfl]
    rw [move_apply _ 0 1 k hone, hshift, hshift, if_pos (Or.inl rfl)]
    by_cases hk : k = 0
    · rw [if_neg (by omega), if_pos hk, if_pos hk]
    by_cases hk1 : k = 1
    · rw [if_pos hk1, if_neg hk, if_pos (by omega), hk1, Function.update_of_ne (by omega)]
    rw [if_neg hk1, if_neg hk, if_neg hk]
    by_cases hle : k ≤ n
    · rw [if_neg (by omega), if_pos hle, if_neg hk1, Function.update_of_ne (by omega)]
    · rw [if_pos (by omega), if_neg hle, Function.update_of_ne (by omega)]

/-- Every content up to slot `n` is `count` slots further up, those that would
    come above it are gone, and nothing has come from slot 0. -/
def vacated (n count : Nat) (s : Nat → Option β) (k : Nat) : Option β :=
  if n < k then s k else if k ≤ count then none else s (k - count)

theorem shiftUp_congr (moves moves' : Nat → Bool) (n : Nat) (s : Nat → Option β)
    (h : ∀ i, 0 < i → moves i = moves' i) : shiftUp moves n s = shiftUp moves' n s := by
  induction n generalizing s with
  | zero => rfl
  | succ n ih => rw [shiftUp, shiftUp, h (n + 1) (by omega), ih]

/-- A rotation that cannot move slot 0 moves the others all the same. -/
theorem rotate_vacated (moves : Nat → Bool) (hzero : moves 0 = false)
    (hmoves : ∀ i, 0 < i → moves i = true) (n : Nat) (s : Nat → Option β) (k : Nat) (hk : 0 < k) :
    rotate true moves n s k = vacated n 1 s k := by
  unfold rotate vacated delete
  rw [hzero]
  by_cases hn : n = 0
  · rw [if_pos hn, if_pos rfl, Function.update_of_ne (by omega), if_pos (by omega)]
  · rw [if_neg hn, if_pos rfl, if_neg (by simp), shiftUp_congr moves (fun _ => true) _ _ hmoves]
    -- The oldest slot was emptied before, so the renaming into it succeeds.
    have hcleared : Function.update s n none (n - 1 + 1) = none := by
      rw [show n - 1 + 1 = n by omega, Function.update_self]
    rw [shiftUp_apply (n - 1) (Function.update s n none) k hcleared]
    by_cases habove : n < k
    · rw [if_pos (by omega), if_pos habove, Function.update_of_ne (by omega)]
    · rw [if_neg (by omega), if_neg habove]
      by_cases hone : k = 1
      · rw [if_pos hone, if_pos (by omega)]
      · rw [if_neg hone, if_neg (by omega), Function.update_of_ne (by omega)]

theorem vacated_congr (n count : Nat) (s s' : Nat → Option β) (h : ∀ k, 0 < k → s' k = s k)
    (k : Nat) (hk : 0 < k) : vacated n count s' k = vacated n count s k := by
  unfold vacated
  split_ifs with habove hempty
  · exact h k hk
  · rfl
  · exact h (k - count) (by omega)

/-- One after another they add up, whatever is in slot 0 meanwhile. -/
theorem vacated_vacated (n count : Nat) (s s' : Nat → Option β)
    (h : ∀ k, 0 < k → s' k = vacated n 1 s k) (k : Nat) (hk : 0 < k) :
    vacated n count s' k = vacated n (count + 1) s k := by
  unfold vacated at h ⊢
  by_cases habove : n < k
  · rw [if_pos habove, if_pos habove, h k hk, if_pos habove]
  · rw [if_neg habove, if_neg habove]
    by_cases hempty : k ≤ count
    · rw [if_pos hempty, if_pos (by omega)]
    · rw [if_neg hempty, h (k - count) (by omega), if_neg (by omega)]
      by_cases hnext : k = count + 1
      · rw [if_pos (by omega), if_pos (by omega)]
      · rw [if_neg (by omega), if_neg (by omega), Nat.sub_sub]

/-- The contents of the slots from `m` down to 1. -/
def older (s : Nat → Option β) : Nat → List β
  | 0 => []
  | m + 1 => (s (m + 1)).toList ++ older s m

/-- The contents of the slots from `m` down to 0. -/
def stack (m : Nat) (s : Nat → Option β) : List β := older s m ++ (s 0).toList

theorem older_congr (s s' : Nat → Option β) (m : Nat)
    (h : ∀ k, 1 ≤ k → k ≤ m → s k = s' k) : older s m = older s' m := by
  induction m with
  | zero => rfl
  | succ m ih =>
      rw [older, older, h (m + 1) (by omega) (Nat.le_refl _),
        ih fun k hk hkm => h k hk (by omega)]

/-- The slots above the first do not depend on its content. -/
@[simp] theorem older_update (s : Nat → Option β) (m : Nat) (b : Option β) :
    older (Function.update s 0 b) m = older s m :=
  older_congr _ _ m fun k hk _ => Function.update_of_ne (by omega) _ _

theorem stack_update (m : Nat) (s : Nat → Option β) (b : Option β) :
    stack m (Function.update s 0 b) = older s m ++ b.toList := by
  rw [stack, older_update, Function.update_self]

/-- What is added to the content of slot 0 is added at the end. -/
theorem flatten_stack_append {γ : Type*} (m : Nat) (s : Nat → Option (List γ)) (l : List γ) :
    (stack m (Function.update s 0 (some ((s 0).getD [] ++ l)))).flatten =
      (stack m s).flatten ++ l := by
  have hslot : (s 0).toList.flatten = (s 0).getD [] := by
    cases s 0 with
    | none => rfl
    | some b => exact List.append_nil b
  rw [stack_update, stack, List.flatten_append, List.flatten_append, hslot, List.append_assoc]
  exact congrArg (_ ++ ·) (List.append_nil _)

theorem stack_succ (m : Nat) (s : Nat → Option β) :
    stack (m + 1) s = (s (m + 1)).toList ++ stack m s := by
  rw [stack, older, stack, List.append_assoc]

/-- After a rotation slot 0 is empty. -/
theorem stack_shifted (m n : Nat) (s : Nat → Option β) :
    stack m (shifted n s) = older (shifted n s) m := by
  rw [stack, shifted, if_pos rfl, Option.toList_none, List.append_nil]

/-- A rotation takes the content of slot `n`, or of the topmost one, away. No
    other one may be above slot `n`. -/
theorem stack_eq_shifted (m n : Nat) (s : Nat → Option β)
    (habove : ∀ k, n < k → k ≤ m → s k = none) :
    stack m s = (s (min n m)).toList ++ stack m (shifted n s) := by
  -- By induction on the number of slots that are read; above `n` they are empty.
  induction m with
  | zero =>
      rw [stack_shifted, Nat.min_zero, stack, older, older, List.nil_append, List.append_nil]
  | succ m ih =>
      rw [stack_succ, stack_shifted, older, ih fun k hk hkm => habove k hk (by omega),
        ← stack_shifted m n s]
      by_cases hle : m + 1 ≤ n
      · rw [shifted, if_neg (by omega), if_pos hle, Nat.min_eq_right hle,
          Nat.min_eq_right (by omega)]
        rfl
      · rw [shifted, if_neg (by omega), if_neg hle, habove (m + 1) (by omega) (Nat.le_refl _),
          Nat.min_eq_left (by omega), Nat.min_eq_left (by omega)]
        rfl

/-- The last one of them is that of slot 1. -/
theorem exists_older_eq (s : Nat → Option β) (m : Nat) :
    ∃ l, older s (m + 1) = l ++ (s 1).toList := by
  induction m with
  | zero => exact ⟨[], List.append_nil _⟩
  | succ m ih =>
      obtain ⟨l, hl⟩ := ih
      exact ⟨(s (m + 2)).toList ++ l, by rw [older, hl, List.append_assoc]⟩

theorem mem_older_iff (s : Nat → Option β) (m : Nat) (b : β) :
    b ∈ older s m ↔ ∃ k, 1 ≤ k ∧ k ≤ m ∧ s k = some b := by
  induction m with
  | zero =>
      constructor
      · intro h
        exact absurd h List.not_mem_nil
      · rintro ⟨k, hk, hkm, _⟩
        omega
  | succ m ih =>
      -- The oldest slot comes first in the stack.
      rw [older, List.mem_append, ih, Option.mem_toList]
      constructor
      · rintro (htop | ⟨k, hk, hkm, hb⟩)
        · exact ⟨m + 1, by omega, Nat.le_refl _, htop⟩
        · exact ⟨k, hk, by omega, hb⟩
      · rintro ⟨k, hk, hkm, hb⟩
        by_cases htop : k = m + 1
        · rw [htop] at hb
          exact Or.inl hb
        · exact Or.inr ⟨k, hk, by omega, hb⟩

/-- What is on the stack is in a slot. -/
theorem mem_stack_iff (m : Nat) (s : Nat → Option β) (b : β) :
    b ∈ stack m s ↔ ∃ k, k ≤ m ∧ s k = some b := by
  rw [stack, List.mem_append, mem_older_iff, Option.mem_toList]
  constructor
  · rintro (⟨k, _, hkm, hb⟩ | hb)
    · exact ⟨k, hkm, hb⟩
    · exact ⟨0, Nat.zero_le _, hb⟩
  · rintro ⟨k, hkm, hb⟩
    by_cases hk : k = 0
    · rw [hk] at hb
      exact Or.inr hb
    · exact Or.inl ⟨k, by omega, hkm, hb⟩

theorem older_map {γ : Type*} (f : γ → β) (s : Nat → Option β) (t : Nat → Option γ)
    (h : ∀ k, s k = (t k).map f) (m : Nat) : older s m = (older t m).map f := by
  induction m with
  | zero => rfl
  | succ m ih =>
      rw [older, older, ih, List.map_append, h]
      cases t (m + 1) with
      | none => rfl
      | some c => rfl

/-- The stack of other contents. -/
theorem stack_map {γ : Type*} (f : γ → β) (s : Nat → Option β) (t : Nat → Option γ)
    (h : ∀ k, s k = (t k).map f) (m : Nat) : stack m s = (stack m t).map f := by
  rw [stack, stack, older_map f s t h, List.map_append, h]
  cases t 0 with
  | none => rfl
  | some c => rfl

/-- Shifting is the same for other contents. -/
theorem shifted_map {γ : Type*} (f : γ → β) (s : Nat → Option β) (t : Nat → Option γ)
    (h : ∀ k, s k = (t k).map f) (n k : Nat) : shifted n s k = (shifted n t k).map f := by
  unfold shifted
  split_ifs
  · rfl
  · exact h (k - 1)
  · exact h k

section Holds

variable {γ : Type*}

/-- What is in the slots, as the end of everything that was ever put into slot 0.
    Only slots up to `n` are in use, a slot is reached after as many rotations as its
    number says, and nothing is lost before one more than `n`. -/
structure Holds (n : Nat) (s : Nat → Option (List γ)) (history : List γ) (rotations : Nat) :
    Prop where
  numbered : ∀ k, n < k → s k = none
  young : ∀ k l, s k = some l → k ≤ rotations
  suffix : ∃ lost, history = lost ++ (stack n s).flatten ∧ (rotations < n + 1 → lost = [])

theorem holds_empty (n : Nat) : Holds n (fun _ => none : Nat → Option (List γ)) [] 0 where
  numbered _ _ := rfl
  young _ _ h := absurd h (Option.some_ne_none _).symm
  suffix := by
    have holder : ∀ m, older (fun _ => none : Nat → Option (List γ)) m = [] := by
      intro m
      induction m with
      | zero => rfl
      | succ m ih => rw [older, ih]; rfl
    exact ⟨[], by rw [stack, holder]; rfl, fun _ => rfl⟩

/-- A rotation loses the content of slot `n`, which is empty before there were `n`
    rotations. -/
theorem holds_shifted (n : Nat) (s : Nat → Option (List γ)) (history : List γ) (rotations : Nat)
    (h : Holds n s history rotations) : Holds n (shifted n s) history (rotations + 1) where
  numbered k hk := by
    rw [shifted, if_neg (by omega), if_neg (by omega)]
    exact h.numbered k hk
  young k l hk := by
    rw [shifted] at hk
    split_ifs at hk
    · have hyoung := h.young (k - 1) l hk
      omega
    · exact Nat.le_succ_of_le (h.young k l hk)
  suffix := by
    -- What is lost now comes after what was lost before, and is nothing while a slot is free.
    obtain ⟨lost, hlost, hcomplete⟩ := h.suffix
    refine ⟨lost ++ (s n).toList.flatten, ?_, ?_⟩
    · rw [hlost, stack_eq_shifted n n s (fun k hk hkn => absurd hkn (by omega)), Nat.min_self,
        List.flatten_append, List.append_assoc]
    · intro hfew
      rw [hcomplete (by omega)]
      cases htop : s n with
      | none => rfl
      | some l =>
          have hyoung := h.young n l htop
          omega

/-- What is put into slot 0 is the end of the history. -/
theorem holds_append (n : Nat) (s : Nat → Option (List γ)) (history : List γ) (rotations : Nat)
    (h : Holds n s history rotations) (l : List γ) :
    Holds n (Function.update s 0 (some ((s 0).getD [] ++ l))) (history ++ l) rotations where
  numbered k hk := by
    rw [Function.update_of_ne (by omega)]
    exact h.numbered k hk
  young k l' hk := by
    -- Only the newest slot grows.
    by_cases hzero : k = 0
    · rw [hzero]
      exact Nat.zero_le _
    · rw [Function.update_of_ne hzero] at hk
      exact h.young k l' hk
  suffix := by
    obtain ⟨lost, hlost, hcomplete⟩ := h.suffix
    exact ⟨lost, by rw [flatten_stack_append, hlost, List.append_assoc], hcomplete⟩

end Holds

end Slots
