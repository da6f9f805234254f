import Mathlib.Data.List.Basic
import Mathlib.Order.Defs.LinearOrder

/-!
# Ordered Maps

Maps as lists of keys and values in the order of their keys, which is the order
a walk over the map meets them in.

`assign` inserts in place or replaces, `erase` removes. What a map says about a
key is its `lookup`, and the lemmas here say how the operations change it. None
of them needs the list to be in order, so a map carries no proof of it. Where the
order of a walk matters, `Ordered` says that there is one, and the operations keep it.

## Main definitions

* `assign`: A map with a value for a key.
* `erase`: A map without a key.
* `keys`: The keys in order.
* `Ordered`: The keys are in order.

## Theorems

* `lookup_assign`, `lookup_erase`: What the operations do to a key.
* `lookup_isSome_iff`: A key is there exactly if it has a value.
* `mem_assign`: What is in a map after an assignment.
* `perm_assign`: A new key comes with one entry.
* `mem_keys_assign`, `mem_keys_erase`: The keys after an operation.
* `ordered_assign`, `ordered_filter`: The order is kept.
* `filter_eq_singleton`: One of several entries with different keys.
-/

namespace OrderedMap

variable {κ β : Type*} [DecidableEq κ] [BEq κ] [LawfulBEq κ]

/-- The map without a key. -/
def erase (m : List (κ × β)) (k : κ) : List (κ × β) := m.filter fun a => a.1 ≠ k

/-- The keys in order. -/
def keys (m : List (κ × β)) : List κ := m.map Prod.fst

section Assign

variable [LT κ] [DecidableLT κ]

/-- The map with a value for a key, which is added or changed. -/
def assign : List (κ × β) → κ → β → List (κ × β)
  | [], k, v => [(k, v)]
  | a :: m, k, v =>
      if k = a.1 then (k, v) :: m
      else if k < a.1 then (k, v) :: a :: m
      else a :: assign m k v

@[simp] theorem lookup_assign (m : List (κ × β)) (k k' : κ) (v : β) :
    (assign m k v).lookup k' = if k' = k then some v else m.lookup k' := by
  induction m with
  | nil =>
      rw [assign, List.lookup_cons, List.lookup_nil]
      by_cases hk : k' = k
      · rw [if_pos hk, beq_iff_eq.mpr hk]
      · rw [if_neg hk, beq_eq_false_iff_ne.mpr hk]
  | cons a m ih =>
      unfold assign
      -- The key itself is found where it was put; for another key the entries are as before.
      by_cases hk : k' = k
      · subst hk
        rw [if_pos rfl]
        split_ifs with heq hlt
        · rw [List.lookup_cons, BEq.rfl]
        · rw [List.lookup_cons, BEq.rfl]
        · rw [List.lookup_cons, beq_eq_false_iff_ne.mpr heq]
          exact ih.trans (if_pos rfl)
      · rw [if_neg hk] at ih ⊢
        split_ifs with heq hlt
        · -- The entry that is replaced is for another key.
          rw [List.lookup_cons, List.lookup_cons, ← heq, beq_eq_false_iff_ne.mpr hk]
        · rw [List.lookup_cons, beq_eq_false_iff_ne.mpr hk]
        · rw [List.lookup_cons, List.lookup_cons, ih]

omit [BEq κ] [LawfulBEq κ] in
theorem mem_assign (m : List (κ × β)) (k : κ) (v : β) (a : κ × β) (h : a ∈ assign m k v) :
    a = (k, v) ∨ a ∈ m := by
  induction m with
  | nil => exact Or.inl (List.mem_singleton.mp h)
  | cons b m ih =>
      unfold assign at h
      -- The pair replaces the head, comes before it, or goes further in.
      split_ifs at h with heq hlt
      · rcases List.mem_cons.mp h with h | h
        · exact Or.inl h
        · exact Or.inr (List.mem_cons_of_mem _ h)
      · rcases List.mem_cons.mp h with h | h
        · exact Or.inl h
        · exact Or.inr h
      · rcases List.mem_cons.mp h with h | h
        · exact Or.inr (by rw [h]; exact List.mem_cons_self ..)
        · rcases ih h with h | h
          · exact Or.inl h
          · exact Or.inr (List.mem_cons_of_mem _ h)

omit [BEq κ] [LawfulBEq κ] in
/-- A new key comes with one entry. -/
theorem perm_assign (m : List (κ × β)) (k : κ) (v : β) (hk : k ∉ keys m) :
    (assign m k v).Perm ((k, v) :: m) := by
  induction m with
  | nil => exact List.Perm.refl _
  | cons a m ih =>
      rw [keys, List.map_cons, List.mem_cons, not_or] at hk
      unfold assign
      rw [if_neg hk.1]
      split_ifs with hlt
      · exact List.Perm.refl _
      · exact ((ih hk.2).cons a).trans (List.Perm.swap ..)

end Assign

@[simp] theorem lookup_erase (m : List (κ × β)) (k k' : κ) :
    (erase m k).lookup k' = if k' = k then none else m.lookup k' := by
  induction m with
  | nil => exact (ite_self none).symm
  | cons a m ih =>
      by_cases ha : a.1 = k
      · -- The first entry goes.
        have hgone : erase (a :: m) k = erase m k :=
          List.filter_cons_of_neg (by rw [decide_eq_true_eq]; exact not_not.mpr ha)
        rw [hgone, ih, List.lookup_cons]
        by_cases hk : k' = k
        · rw [if_pos hk, if_pos hk]
        · rw [if_neg hk, if_neg hk, ha, beq_eq_false_iff_ne.mpr hk]
      · have hstays : erase (a :: m) k = a :: erase m k :=
          List.filter_cons_of_pos (decide_eq_true ha)
        rw [hstays, List.lookup_cons, List.lookup_cons, ih]
        -- An entry that stays is found before what follows it.
        by_cases hk : k' = a.1
        · have hne : k' ≠ k := by
            rw [hk]
            exact ha
          rw [beq_iff_eq.mpr hk]
          exact (if_neg hne).symm
        · rw [beq_eq_false_iff_ne.mpr hk]

theorem mem_of_lookup (m : List (κ × β)) (k : κ) (v : β) (h : m.lookup k = some v) :
    (k, v) ∈ m := by
  induction m with
  | nil => cases h
  | cons a m ih =>
      rw [List.lookup_cons] at h
      by_cases hk : k = a.1
      · rw [beq_iff_eq.mpr hk] at h
        cases h
        rw [hk]
        exact List.mem_cons_self ..
      · rw [beq_eq_false_iff_ne.mpr hk] at h
        exact List.mem_cons_of_mem _ (ih h)

/-- A key is there exactly if it has a value. -/
theorem lookup_isSome_iff (m : List (κ × β)) (k : κ) :
    (m.lookup k).isSome = true ↔ k ∈ keys m := by
  induction m with
  | nil => exact iff_of_false Bool.false_ne_true List.not_mem_nil
  | cons a m ih =>
      rw [List.lookup_cons, keys, List.map_cons, List.mem_cons]
      by_cases hk : k = a.1
      · rw [beq_iff_eq.mpr hk]
        exact iff_of_true rfl (Or.inl hk)
      · rw [beq_eq_false_iff_ne.mpr hk, or_iff_right hk]
        exact ih

@[simp] theorem mem_keys_erase (m : List (κ × β)) (k k' : κ) :
    k' ∈ keys (erase m k) ↔ k' ∈ keys m ∧ k' ≠ k := by
  rw [← lookup_isSome_iff, ← lookup_isSome_iff, lookup_erase]
  by_cases hk : k' = k
  · rw [if_pos hk]
    exact iff_of_false Bool.false_ne_true (fun h => h.2 hk)
  · rw [if_neg hk]
    exact ⟨fun h => ⟨h, hk⟩, fun h => h.1⟩

@[simp] theorem mem_keys_assign [LT κ] [DecidableLT κ] (m : List (κ × β)) (k k' : κ) (v : β) :
    k' ∈ keys (assign m k v) ↔ k' = k ∨ k' ∈ keys m := by
  rw [← lookup_isSome_iff, ← lookup_isSome_iff, lookup_assign]
  by_cases hk : k' = k
  · rw [if_pos hk]
    exact iff_of_true rfl (Or.inl hk)
  · rw [if_neg hk, or_iff_right hk]

/-- Of entries with different keys, the one whose key alone passes a test. -/
theorem filter_eq_singleton {α κ : Type*} {l : List α} {key : α → κ} (hl : (l.map key).Nodup)
    {p : α → Bool} {a : α} (ha : a ∈ l) (hp : p a = true)
    (hkey : ∀ b ∈ l, p b = true → key b = key a) : l.filter p = [a] := by
  induction l with
  | nil => cases ha
  | cons b l ih =>
      rw [List.map_cons, List.nodup_cons] at hl
      rcases List.mem_cons.mp ha with rfl | ha
      · -- The others have other keys.
        have hrest : l.filter p = [] := by
          rw [List.filter_eq_nil_iff]
          intro b hb hpb
          refine hl.1 ?_
          rw [← hkey b (List.mem_cons_of_mem _ hb) hpb]
          exact List.mem_map_of_mem hb
        rw [List.filter_cons_of_pos hp, hrest]
      · have hb : ¬ p b = true := by
          intro hpb
          refine hl.1 ?_
          rw [hkey b (List.mem_cons_self ..) hpb]
          exact List.mem_map_of_mem ha
        rw [List.filter_cons_of_neg hb]
        exact ih hl.2 ha fun c hc => hkey c (List.mem_cons_of_mem _ hc)

section Ordered

variable {κ β : Type*} [LT κ]

/-- The keys are in order. -/
def Ordered (m : List (κ × β)) : Prop := (keys m).Pairwise (· < ·)

theorem ordered_filter {m : List (κ × β)} (h : Ordered m) (p : κ × β → Bool) :
    Ordered (m.filter p) :=
  h.sublist (List.filter_sublist.map Prod.fst)

theorem ordered_assign [DecidableEq κ] [DecidableLT κ] [IsTrans κ (· < ·)]
    [Std.Trichotomous ((· < ·) : κ → κ → Prop)] {m : List (κ × β)} (h : Ordered m) (k : κ) (v : β) :
    Ordered (assign m k v) := by
  induction m with
  | nil => exact List.pairwise_singleton _ _
  | cons a m ih =>
      -- The order of the head against the rest is used in each of the three places.
      rw [Ordered, keys, List.map_cons, List.pairwise_cons] at h
      unfold assign
      split_ifs with heq hlt
      · rw [Ordered, keys, List.map_cons, List.pairwise_cons]
        exact ⟨fun k' hk' => heq ▸ h.1 k' hk', h.2⟩
      · -- The new key comes before all the others.
        rw [Ordered, keys, List.map_cons, List.map_cons, List.pairwise_cons, List.pairwise_cons]
        refine ⟨fun k' hk' => ?_, h⟩
        rcases List.mem_cons.mp hk' with rfl | hk'
        · exact hlt
        · exact IsTrans.trans _ _ _ hlt (h.1 k' hk')
      · rw [Ordered, keys, List.map_cons, List.pairwise_cons]
        refine ⟨fun k' hk' => ?_, ih h.2⟩
        rcases List.mem_map.mp hk' with ⟨b, hb, rfl⟩
        rcases mem_assign m k v b hb with rfl | hb
        · by_contra hge
          exact heq (Std.Trichotomous.trichotomous _ _ hlt hge)
        · exact h.1 b.1 (List.mem_map_of_mem hb)

end Ordered

end OrderedMap
