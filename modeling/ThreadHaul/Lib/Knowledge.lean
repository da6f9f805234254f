import Mathlib.Data.Set.Basic

/-!
# What an Attacker Can Know

An attacker who reads the network, with ideal hash functions.

The messages are of any type. A hash function and a keyed one are free: they
are injective, and no value of the one is a value of the other. The values of
the two are the digests. The attacker may invent the messages of some set, read
those that were seen, and apply the two functions to what it has.

With free functions knowledge can be read backwards: a digest that was neither
invented nor seen was computed, and to compute it the attacker needed what went
into it. These inversion rules are what secrecy and authenticity are proved
with.

## Main definitions

* `Free`: The two functions are free.
* `IsDigest`: The values of the two functions.
* `Knows`: What an attacker can know.

## Theorems

* `knows_hash`, `knows_mac`: Where a known digest comes from.
* `knows_of_not_digest`: Any other message was invented or seen.
-/

namespace Knowledge

variable {M : Type*}

/-- The hash functions are injective, and never give the same value. -/
structure Free (hash : M → M) (mac : M → M → M) : Prop where
  hash_inj : ∀ m m', hash m = hash m' → m = m'
  mac_inj : ∀ key m key' m', mac key m = mac key' m' → key = key' ∧ m = m'
  hash_ne_mac : ∀ m key m', hash m ≠ mac key m'

/-- A value of one of the two functions. -/
def IsDigest (hash : M → M) (mac : M → M → M) (m : M) : Prop :=
  (∃ m', m = hash m') ∨ ∃ key m', m = mac key m'

/-- What an attacker knows who can invent the messages of `invented` and has
    seen those of `seen`. -/
inductive Knows (hash : M → M) (mac : M → M → M) (invented seen : Set M) : M → Prop
  | invent (m : M) (h : m ∈ invented) : Knows hash mac invented seen m
  | read (m : M) (h : m ∈ seen) : Knows hash mac invented seen m
  | hash (m : M) (h : Knows hash mac invented seen m) : Knows hash mac invented seen (hash m)
  /-- The message need not be known: this attacker needs the key only. -/
  | mac (key m : M) (h : Knows hash mac invented seen key) :
      Knows hash mac invented seen (mac key m)

section Rules

variable {hash : M → M} {mac : M → M → M} {invented seen : Set M}

/-- What is no digest was not computed. -/
theorem knows_of_not_digest (m : M) (hm : ¬ IsDigest hash mac m)
    (h : Knows hash mac invented seen m) : m ∈ invented ∨ m ∈ seen := by
  cases h with
  | invent _ hi => exact Or.inl hi
  | read _ hs => exact Or.inr hs
  -- What the attacker computes is a digest, whatever went into it.
  | hash m' _ => exact absurd (Or.inl ⟨m', rfl⟩) hm
  | mac key m' _ => exact absurd (Or.inr ⟨key, m', rfl⟩) hm

variable (hfree : Free hash mac) (hinvented : ∀ m ∈ invented, ¬ IsDigest hash mac m)

include hfree hinvented

/-- A digest of the hash function was seen, or what went into it is known. -/
theorem knows_hash (m : M) (h : Knows hash mac invented seen (hash m)) :
    hash m ∈ seen ∨ Knows hash mac invented seen m := by
  generalize hd : hash m = digest at h
  cases h with
  | invent _ hi => exact absurd (Or.inl ⟨m, hd.symm⟩) (hinvented digest hi)
  | read _ hs => exact Or.inl hs
  -- The hash function is injective, so this is the message that went in.
  | hash m' hm' =>
      rw [hfree.hash_inj m m' hd]
      exact Or.inr hm'
  | mac key m' _ => exact absurd hd (hfree.hash_ne_mac m key m')

/-- A digest of the keyed function was seen, or its key is known. -/
theorem knows_mac (key m : M) (h : Knows hash mac invented seen (mac key m)) :
    mac key m ∈ seen ∨ Knows hash mac invented seen key := by
  generalize hd : mac key m = digest at h
  cases h with
  | invent _ hi => exact absurd (Or.inr ⟨key, m, hd.symm⟩) (hinvented digest hi)
  | read _ hs => exact Or.inl hs
  | hash m' _ => exact absurd hd.symm (hfree.hash_ne_mac m' key m)
  -- The keyed function is injective in both, so this is the key.
  | mac key' m' hk =>
      rw [(hfree.mac_inj key m key' m' hd).1]
      exact Or.inr hk

end Rules

end Knowledge
