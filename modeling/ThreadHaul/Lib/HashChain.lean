import Mathlib.Data.List.Chain
import Mathlib.Data.List.Induction
import Mathlib.Logic.Function.Basic

/-!
# Hash Chains

Lists of entries in which each one carries the hash of the one before it.

`prev` reads the hash an entry carries, if it carries one, and `hash` computes
the hash of an entry. Both are parameters, and so is the type of hashes.

If the hash has no collisions, the last entry of a chain determines all that is
before it, as far back as there is anything: going back one entry at a time, the
hash an entry carries leaves one choice. A chain that starts with a hash that no
entry has cannot be prolonged at that end either. So a chain that ends like one
that goes back to such a start is the end of that one, `suffix_of_linked`.

## Main definitions

* `Linked`: Each entry carries the hash of the one before it.
* `LooselyLinked`: The same, of the entries that carry a hash.
* `Continues`: A chain can go on with an entry.

## Theorems

* `linked_append_iff`: A chain is made of two chains that fit.
* `suffix_of_linked`: A chain with the same last entry is an end.
-/

namespace HashChain

variable {α η : Type*} (prev : α → Option η) (hash : α → η)

/-- Each entry carries the hash of the one before it. -/
def Linked (l : List α) : Prop := l.IsChain fun a b => prev b = some (hash a)

/-- Each entry that carries a hash carries that of the one before it. -/
def LooselyLinked (l : List α) : Prop :=
  l.IsChain fun a b => ∀ h ∈ prev b, h = hash a

/-- The next entry may follow: it carries the hash of the last one, if there is
    one. -/
def Continues (l : List α) (b : α) : Prop := ∀ a ∈ l.getLast?, prev b = some (hash a)

theorem linked_nil : Linked prev hash [] := List.isChain_nil

theorem linked_append_iff (l l' : List α) :
    Linked prev hash (l ++ l') ↔
      Linked prev hash l ∧ Linked prev hash l' ∧ ∀ b ∈ l'.head?, Continues prev hash l b := by
  rw [Linked, List.isChain_append]
  refine and_congr_right fun _ => and_congr_right fun _ => ?_
  exact ⟨fun h b hb a ha => h a ha b hb, fun h a ha b hb => h b hb a ha⟩

/-- One more entry at the end. -/
theorem linked_concat_iff (l : List α) (b : α) :
    Linked prev hash (l ++ [b]) ↔ Linked prev hash l ∧ Continues prev hash l b := by
  rw [linked_append_iff]
  refine and_congr_right fun _ => ?_
  constructor
  · rintro ⟨_, h⟩
    exact h b rfl
  · intro h
    refine ⟨List.isChain_singleton b, ?_⟩
    intro b' hb'
    cases hb'
    exact h

theorem linked_of_suffix (l l' : List α) (h : Linked prev hash l) (hl : l' <:+ l) :
    Linked prev hash l' :=
  List.IsChain.suffix h hl

/-- Where every entry carries a hash, linked loosely is linked. -/
theorem linked_of_looselyLinked (l : List α) (h : LooselyLinked prev hash l)
    (hall : ∀ a ∈ l, ∃ x, prev a = some x) : Linked prev hash l := by
  induction l with
  | nil => exact List.isChain_nil
  | cons a l ih =>
      cases l with
      | nil => exact List.isChain_singleton a
      | cons b l =>
          obtain ⟨hab, hrest⟩ := List.isChain_cons_cons.mp h
          rw [List.forall_mem_cons] at hall
          obtain ⟨x, hx⟩ := hall.2 b (List.mem_cons_self ..)
          refine List.isChain_cons_cons.mpr ⟨?_, ih hrest hall.2⟩
          rw [hx, hab x hx]

/-- Every entry of a chain carries a hash if the first one does. -/
theorem exists_prev_of_linked (l : List α) (h : Linked prev hash l)
    (hhead : ∀ a ∈ l.head?, ∃ x, prev a = some x) : ∀ a ∈ l, ∃ x, prev a = some x := by
  -- The head has a link by assumption, and each later entry by the one before it.
  induction l with
  | nil =>
      intro a ha
      exact absurd ha List.not_mem_nil
  | cons b l ih =>
      intro a ha
      rcases List.mem_cons.mp ha with rfl | ha
      · exact hhead a rfl
      · refine ih (linked_of_suffix prev hash _ _ h (List.suffix_cons b l)) ?_ a ha
        intro c hc
        cases l with
        | nil => cases hc
        | cons d l =>
            cases hc
            exact ⟨hash b, (List.isChain_cons_cons.mp h).1⟩

/-- A chain that goes back to an entry that carries a hash nothing has, and
    something with the same last entry. -/
theorem suffix_of_linked (hinj : Function.Injective hash) (start : η)
    (hstart : ∀ a, hash a ≠ start) (l l' : List α) (hl : Linked prev hash l)
    (hl' : LooselyLinked prev hash l') (hhead : ∀ a ∈ l.head?, prev a = some start)
    (hlast : l'.getLast? = l.getLast?) : l' <:+ l := by
  induction l' using List.reverseRecOn generalizing l with
  | nil => exact List.nil_suffix
  | append_singleton l' b ih =>
      rw [List.getLast?_concat] at hlast
      obtain ⟨init, rfl⟩ := List.getLast?_eq_some_iff.mp hlast.symm
      obtain ⟨hinit, hb⟩ := (linked_concat_iff prev hash init b).mp hl
      rcases List.eq_nil_or_concat l' with rfl | ⟨init', c, hc⟩
      · exact List.suffix_append _ _
      rw [List.concat_eq_append] at hc
      -- `b` carries the hash of `c`, so it is not the first entry.
      obtain ⟨x, hx⟩ := exists_prev_of_linked prev hash _ hl
        (fun a ha => ⟨start, hhead a ha⟩) b (List.mem_append_right _ (List.mem_singleton_self b))
      obtain ⟨hinit', _, hfit⟩ := List.isChain_append.mp hl'
      have hprev : prev b = some (hash c) := by
        rw [hx, hfit c (by rw [hc, List.getLast?_concat]; rfl) b rfl x hx]
      rcases List.eq_nil_or_concat init with rfl | ⟨init₂, d, hd⟩
      · have hfirst := hhead b rfl
        rw [hprev] at hfirst
        exact absurd (Option.some.inj hfirst) (hstart c)
      rw [List.concat_eq_append] at hd
      have hsame : hash c = hash d := by
        have hprev' := hb d (by rw [hd, List.getLast?_concat]; rfl)
        rw [hprev] at hprev'
        exact Option.some.inj hprev'
      have hsuffix : l' <:+ init := by
        refine ih init hinit hinit' ?_ ?_
        · intro a ha
          refine hhead a ?_
          have hne : init ≠ [] := by
            rw [hd]
            exact List.append_ne_nil_of_right_ne_nil _ (List.cons_ne_nil d [])
          rw [List.head?_append_of_ne_nil _ hne]
          exact ha
        · rw [hc, hd, List.getLast?_concat, List.getLast?_concat, hinj hsame]
      obtain ⟨front, hfront⟩ := hsuffix
      exact ⟨front, by rw [← List.append_assoc, hfront]⟩

end HashChain
