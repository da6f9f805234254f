import Mathlib.Data.List.TakeWhile
import Mathlib.Data.UInt

/-!
# Transcoding

Conversions from UTF-8 to UTF-16, as far as ASCII is concerned.

How a conversion treats malformed input is its own affair. But an ASCII byte is
never part of a longer sequence, so it becomes the same code unit whatever
stands around it, and the conversion of the whole is put together from what is
before it and what is after it. `Cuts` states this, and it is enough to know
which ASCII characters the result contains, and where its terminator is.

## Main definitions

* `Cuts`: A conversion that can be cut at ASCII.

## Theorems

* `mem_iff`: The result contains the ASCII characters of the text.
* `takeWhile_ne_zero`: The result up to its terminator.
-/

namespace Transcode

/-- A conversion that can be cut at ASCII. No other bytes become ASCII. -/
structure Cuts (f : List UInt8 → List UInt16) : Prop where
  nil : f [] = []
  cut : ∀ a c b, c < 128 → f (a ++ c :: b) = f a ++ c.toUInt16 :: f b
  high : ∀ s, (∀ c ∈ s, 128 ≤ c) → ∀ u ∈ f s, 128 ≤ u

/-- Making a code unit of each byte can be cut at ASCII. -/
theorem cuts_map : Cuts (List.map UInt8.toUInt16) where
  nil := rfl
  cut := by
    intro a c b _
    rw [List.map_append, List.map_cons]
  high := by
    intro s hs u hu
    obtain ⟨c, hc, rfl⟩ := List.mem_map.mp hu
    have h128 := UInt8.le_iff_toNat_le.mp (hs c hc)
    rw [UInt16.le_iff_toNat_le, UInt8.toNat_toUInt16]
    exact h128

variable {f : List UInt8 → List UInt16}

namespace Cuts

theorem mem (h : Cuts f) (c : UInt8) (hc : c < 128) (s : List UInt8) (hs : c ∈ s) :
    c.toUInt16 ∈ f s := by
  obtain ⟨a, b, rfl⟩ := List.append_of_mem hs
  rw [h.cut a c b hc]
  exact List.mem_append_right _ List.mem_cons_self

/-- An ASCII code unit comes from a byte. The induction cuts the text at one of
    its ASCII characters. -/
theorem exists_of_mem (h : Cuts f) (s : List UInt8) (u : UInt16) (hu : u ∈ f s) (hlt : u < 128) :
    ∃ c ∈ s, c.toUInt16 = u := by
  induction hn : s.length using Nat.strong_induction_on generalizing s with
  | _ n ih =>
      -- A text without a low byte is converted to high units; otherwise it is cut at such a byte.
      by_cases hhigh : ∀ c ∈ s, 128 ≤ c
      · have hge := h.high s hhigh u hu
        rw [UInt16.le_iff_toNat_le] at hge
        rw [UInt16.lt_iff_toNat_lt] at hlt
        omega
      · push Not at hhigh
        obtain ⟨c, hc, hlow⟩ := hhigh
        obtain ⟨a, b, rfl⟩ := List.append_of_mem hc
        rw [h.cut a c b (UInt8.not_le.mp hlow)] at hu
        rw [List.length_append, List.length_cons] at hn
        rcases List.mem_append.mp hu with hu | hu
        · obtain ⟨c', hc', heq⟩ := ih a.length (by omega) a hu rfl
          exact ⟨c', List.mem_append_left _ hc', heq⟩
        · rcases List.mem_cons.mp hu with rfl | hu
          · exact ⟨c, hc, rfl⟩
          · obtain ⟨c', hc', heq⟩ := ih b.length (by omega) b hu rfl
            exact ⟨c', List.mem_append_right _ (List.mem_cons_of_mem _ hc'), heq⟩

/-- The result contains the ASCII characters of the text. -/
theorem mem_iff (h : Cuts f) (c : UInt8) (hc : c < 128) (s : List UInt8) :
    c.toUInt16 ∈ f s ↔ c ∈ s := by
  constructor
  · intro hu
    have hlt : c.toUInt16 < 128 := by
      rw [UInt8.lt_iff_toNat_lt] at hc
      rw [UInt16.lt_iff_toNat_lt, UInt8.toNat_toUInt16]
      exact hc
    obtain ⟨c', hc', heq⟩ := h.exists_of_mem s _ hu hlt
    rw [← UInt8.toUInt16_inj.mp heq]
    exact hc'
  · exact h.mem c hc s

/-- The result up to its terminator is the result of the text up to its own. -/
theorem takeWhile_ne_zero (h : Cuts f) (s : List UInt8) :
    (f s).takeWhile (· ≠ 0) = f (s.takeWhile (· ≠ 0)) := by
  -- The conversion makes a zero of a zero only.
  have hzero : ∀ a : List UInt8, 0 ∉ a →
      (∀ c ∈ a, decide (c ≠ 0) = true) ∧ ∀ u ∈ f a, decide (u ≠ 0) = true := by
    intro a ha
    constructor
    · intro c hc
      exact decide_eq_true (ne_of_mem_of_not_mem hc ha)
    · intro u hu
      refine decide_eq_true (ne_of_mem_of_not_mem hu ?_)
      exact fun hmem => ha ((h.mem_iff 0 (by decide) a).mp hmem)
  -- The text is cut at its first zero, and the conversion is cut with it.
  by_cases hs : 0 ∈ s
  · obtain ⟨a, b, rfl, ha⟩ := List.eq_append_cons_of_mem hs
    rw [h.cut a 0 b (by decide), List.takeWhile_append_of_pos (hzero a ha).1,
      List.takeWhile_append_of_pos (hzero a ha).2]
    have htake : (0 :: b).takeWhile (fun c : UInt8 => decide (c ≠ 0)) = [] := rfl
    have htake' : (UInt8.toUInt16 0 :: f b).takeWhile (fun u => decide (u ≠ 0)) = [] := rfl
    rw [htake, htake', List.append_nil, List.append_nil]
  · rw [List.takeWhile_eq_self_iff.mpr (hzero s hs).1,
      List.takeWhile_eq_self_iff.mpr (hzero s hs).2]

end Cuts

end Transcode
