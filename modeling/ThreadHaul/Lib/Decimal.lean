import Mathlib.Data.Nat.Digits.Lemmas
import Mathlib.Data.UInt

/-!
# Decimal Numbers

Numbers as text: what `std::to_string` writes and what `strtoul` reads.

A number has many decimal texts, since leading zeros do not change the value,
and one of them is the text that is written. So comparing texts and comparing
values are different things, and `decimal_value_iff` says where they agree: on
the texts without superfluous leading zeros.

## Main definitions

* `isDigits`: The text has digits only.
* `value`: The number a text of digits stands for.
* `decimal`: The text of a number.

## Theorems

* `value_decimal`: The text of a number reads back.
* `decimal_value_iff`: Which texts are the text of their value.
-/

namespace Decimal

/-- A decimal digit. -/
def isDigit (c : UInt8) : Bool := 48 ≤ c && c ≤ 57

/-- There is nothing but digits. -/
def isDigits (s : List UInt8) : Bool := s.all isDigit

/-- The value of the digits read from the left. -/
def value (s : List UInt8) : Nat := s.foldl (fun n c => 10 * n + (c.toNat - 48)) 0

/-- The digits of a number from the left, 0 being the digit `0`. -/
def decimal (n : Nat) : List UInt8 :=
  if n = 0 then [48] else ((Nat.digits 10 n).map fun d => UInt8.ofNat (48 + d)).reverse

theorem value_append (s : List UInt8) (c : UInt8) :
    value (s ++ [c]) = 10 * value s + (c.toNat - 48) := by
  rw [value, List.foldl_append]
  rfl

/-- The digits from the right are the digits to the base 10. -/
theorem value_reverse (s : List UInt8) :
    value s.reverse = Nat.ofDigits 10 (s.map fun c => c.toNat - 48) := by
  induction s with
  | nil => rfl
  | cons c s ih =>
      rw [List.reverse_cons, value_append, ih, List.map_cons, Nat.ofDigits_cons]
      omega

theorem toNat_ofNat_digit (d : Nat) (h : d < 10) : (UInt8.ofNat (48 + d)).toNat - 48 = d := by
  rw [UInt8.toNat_ofNat']
  omega

theorem toNat_of_isDigit (c : UInt8) (h : isDigit c = true) : 48 ≤ c.toNat ∧ c.toNat ≤ 57 := by
  simp only [isDigit, Bool.and_eq_true, decide_eq_true_eq, UInt8.le_iff_toNat_le] at h
  exact h

theorem ofNat_digit (c : UInt8) (h : isDigit c = true) : UInt8.ofNat (48 + (c.toNat - 48)) = c := by
  have hbounds := toNat_of_isDigit c h
  refine UInt8.toNat_inj.mp ?_
  rw [UInt8.toNat_ofNat']
  omega

/-- The text of a number reads back. -/
theorem value_decimal (n : Nat) : value (decimal n) = n := by
  unfold decimal
  by_cases hn : n = 0
  · rw [if_pos hn, hn]
    rfl
  · rw [if_neg hn, value_reverse, List.map_map]
    have hdigits : (Nat.digits 10 n).map ((fun c : UInt8 => c.toNat - 48) ∘
        fun d => UInt8.ofNat (48 + d)) = Nat.digits 10 n := by
      refine (List.map_congr_left ?_).trans (List.map_id _)
      intro d hd
      exact toNat_ofNat_digit d (Nat.digits_lt_base (by omega) hd)
    rw [hdigits, Nat.ofDigits_digits]

/-- The text of a positive number does not start with a zero. -/
theorem head?_decimal (n : Nat) (hn : n ≠ 0) : (decimal n).head? ≠ some 48 := by
  have hne : Nat.digits 10 n ≠ [] := Nat.digits_ne_nil_iff_ne_zero.mpr hn
  have hlast := Nat.getLast_digit_ne_zero 10 hn
  have hlt := Nat.digits_lt_base (by omega : 1 < 10) (List.getLast_mem hne)
  rw [decimal, if_neg hn, List.head?_reverse, List.getLast?_map, List.getLast?_eq_some_getLast hne,
    Option.map_some]
  intro h
  have hzero := toNat_ofNat_digit _ hlt
  rw [Option.some.inj h] at hzero
  exact hlast hzero.symm

/-- Without superfluous zeros the digits are those of the value. -/
theorem decimal_value (s : List UInt8) (hs : isDigits s = true) (hne : s ≠ [])
    (hhead : s.head? ≠ some 48) : decimal (value s) = s := by
  have hdigit : ∀ c ∈ s.reverse, isDigit c = true := by
    intro c hc
    exact List.all_eq_true.mp hs c (List.mem_reverse.mp hc)
  have hvalue := value_reverse s.reverse
  rw [List.reverse_reverse] at hvalue
  -- The digits of a value are unique once the leading one is not zero.
  have hdigits : Nat.digits 10 (value s) = s.reverse.map fun c => c.toNat - 48 := by
    rw [hvalue]
    refine Nat.digits_ofDigits 10 (by omega) _ ?_ ?_
    · intro d hd
      rcases List.mem_map.mp hd with ⟨c, hc, rfl⟩
      have hbounds := toNat_of_isDigit c (hdigit c hc)
      omega
    · -- The last digit is the head of the text.
      intro hnil hzero
      rw [List.getLast_map, List.getLast_reverse] at hzero
      have hbounds := toNat_of_isDigit _ (hdigit _ (List.mem_reverse.mpr (List.head_mem hne)))
      have h48 : s.head hne = 48 := by
        refine UInt8.toNat_inj.mp ?_
        have : (48 : UInt8).toNat = 48 := rfl
        omega
      exact hhead (by rw [List.head?_eq_some_head hne, h48])
  have hpos : value s ≠ 0 := by
    intro hzero
    rw [hzero, Nat.digits_zero] at hdigits
    exact hne (List.reverse_eq_nil_iff.mp (List.map_eq_nil_iff.mp hdigits.symm))
  rw [decimal, if_neg hpos, hdigits, List.map_map]
  have hback : s.reverse.map ((fun d => UInt8.ofNat (48 + d)) ∘ fun c : UInt8 => c.toNat - 48)
      = s.reverse := by
    refine (List.map_congr_left ?_).trans (List.map_id _)
    intro c hc
    exact ofNat_digit c (hdigit c hc)
  rw [hback, List.reverse_reverse]

/-- A text is the text of its value exactly if it has no superfluous zeros. -/
theorem decimal_value_iff (s : List UInt8) (hs : isDigits s = true) (hne : s ≠ []) :
    decimal (value s) = s ↔ (s.head? = some 48 → s = [48]) := by
  constructor
  · intro h hhead
    -- Zero is the one value whose numeral begins with a zero.
    by_cases hzero : value s = 0
    · rw [← h, hzero]
      rfl
    · rw [← h] at hhead
      exact absurd hhead (head?_decimal (value s) hzero)
  · intro h
    by_cases hhead : s.head? = some 48
    · rw [h hhead]
      rfl
    · exact decimal_value s hs hne hhead

end Decimal
