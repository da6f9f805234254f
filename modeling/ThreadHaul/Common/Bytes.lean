import Mathlib.Data.UInt

/-!
# Byte Strings

`std::string` as a sequence of bytes, and the helpers of the secure channel that
work on such strings: hexadecimal text, and a comparison whose running time does
not depend on where two strings differ.

## Main definitions

* `Bytes`, `ascii`: Byte strings and their literals.
* `stripCr`: A line without its carriage return.
* `toHex`, `fromHex`: Hexadecimal text.
* `constantTimeEqual`: The comparison.

## Theorems

* `fromHex_toHex`: Hexadecimal text reads back.
* `toHex_lt`: Hexadecimal text is ASCII.
* `constantTimeEqual_iff`: The comparison is equality.
-/

namespace ThreadHaul

/-- `std::string`, as the bytes it holds. -/
abbrev Bytes := List UInt8

/-- A string literal. -/
def ascii (s : String) : Bytes := s.toList.map fun c => c.toNat.toUInt8

/-- A line without the carriage return it may end with. -/
def stripCr (line : Bytes) : Bytes := if line.getLast? = some 13 then line.dropLast else line

/-- A hexadecimal digit, as `ToHex` writes it. -/
def hexDigit (n : UInt8) : UInt8 := if n < 10 then 48 + n else 87 + n

/-- `ToHex`. -/
def toHex (bytes : Bytes) : Bytes :=
  bytes.flatMap fun (c : UInt8) => [hexDigit (c >>> 4), hexDigit (c &&& 15)]

/-- The value of a hexadecimal digit in either case. -/
def hexValue (c : UInt8) : Option UInt8 :=
  if 48 ≤ c ∧ c ≤ 57 then some (c - 48)
  else if 97 ≤ c ∧ c ≤ 102 then some (c - 97 + 10)
  else if 65 ≤ c ∧ c ≤ 70 then some (c - 65 + 10)
  else none

/-- The digits two by two. Without `some` the text is no hexadecimal text. -/
def fromHexPairs : Bytes → Option Bytes
  | [] => some []
  | [_] => none
  | hi :: lo :: rest => do
      let h ← hexValue hi
      let l ← hexValue lo
      let tail ← fromHexPairs rest
      return (h * 16 + l) :: tail

/-- `FromHex`: anything that is no hexadecimal text gives the empty string. -/
def fromHex (hex : Bytes) : Bytes := (fromHexPairs hex).getD []

/-- What holds of every one of the 256 bytes. -/
theorem forall_byte (P : UInt8 → Prop) (h : ∀ i : Fin 256, P (UInt8.ofFin i)) : ∀ c, P c := by
  intro c
  rw [← UInt8.ofFin_toFin c]
  exact h c.toFin

/-- The two halves of a byte are written as digits that read back. -/
theorem hexValue_hexDigit (c : UInt8) :
    hexValue (hexDigit (c >>> 4)) = some (c >>> 4) ∧
      hexValue (hexDigit (c &&& 15)) = some (c &&& 15) ∧ (c >>> 4) * 16 + (c &&& 15) = c := by
  revert c
  refine forall_byte _ ?_
  decide +kernel

theorem fromHexPairs_toHex (bytes : Bytes) : fromHexPairs (toHex bytes) = some bytes := by
  induction bytes with
  | nil => rfl
  | cons c bytes ih =>
      rcases hexValue_hexDigit c with ⟨hhi, hlo, hsum⟩
      rw [toHex, List.flatMap_cons]
      simp only [List.cons_append, List.nil_append, fromHexPairs, hhi, hlo, Option.bind_eq_bind,
        Option.bind_some]
      rw [← toHex, ih, Option.bind_some, hsum]
      rfl

/-- Hexadecimal text reads back. -/
theorem fromHex_toHex (bytes : Bytes) : fromHex (toHex bytes) = bytes := by
  rw [fromHex, fromHexPairs_toHex, Option.getD_some]

/-- Hexadecimal text is ASCII. -/
theorem toHex_lt (bytes : Bytes) : ∀ c ∈ toHex bytes, c < 128 := by
  have hdigit : ∀ c : UInt8, hexDigit (c >>> 4) < 128 ∧ hexDigit (c &&& 15) < 128 := by
    refine forall_byte _ ?_
    decide +kernel
  intro c hc
  rcases List.mem_flatMap.mp hc with ⟨b, _, hb⟩
  rcases List.mem_cons.mp hb with rfl | hb
  · exact (hdigit b).1
  · rw [List.mem_singleton.mp hb]
    exact (hdigit b).2

/-- `ConstantTimeEqual`: the differences of all bytes are collected. -/
def constantTimeEqual (a b : Bytes) : Bool :=
  a.length == b.length && (List.zipWith (· ^^^ ·) a b).foldl (· ||| ·) 0 == 0

theorem foldl_or_eq_zero (l : Bytes) (diff : UInt8) :
    l.foldl (· ||| ·) diff = 0 ↔ diff = 0 ∧ ∀ c ∈ l, c = 0 := by
  induction l generalizing diff with
  | nil => simp only [List.foldl_nil, List.not_mem_nil, false_implies, implies_true, and_true]
  | cons c l ih =>
      have hor : ∀ x y : UInt8, x ||| y = 0 ↔ x = 0 ∧ y = 0 := by
        intro x y
        exact UInt8.or_eq_zero_iff
      rw [List.foldl_cons, ih, hor, List.forall_mem_cons, and_assoc]

/-- The comparison is equality. -/
theorem constantTimeEqual_iff (a b : Bytes) : constantTimeEqual a b = true ↔ a = b := by
  rw [constantTimeEqual, Bool.and_eq_true, beq_iff_eq, beq_iff_eq, foldl_or_eq_zero]
  induction a generalizing b with
  | nil =>
      cases b with
      | nil =>
          simp only [List.zipWith_nil_left, List.not_mem_nil, false_implies, implies_true, and_self]
      | cons y b =>
          simp only [List.length_nil, List.length_cons, Nat.zero_ne_add_one, false_and,
            reduceCtorEq]
  | cons x a ih =>
      cases b with
      | nil =>
          simp only [List.length_nil, List.length_cons, Nat.add_one_ne_zero, false_and,
            reduceCtorEq]
      | cons y b =>
          -- The accumulated difference is zero if each byte agrees.
          have hih := ih b
          simp only [true_and] at hih
          simp only [List.length_cons, List.zipWith_cons_cons, List.forall_mem_cons, true_and,
            Nat.add_right_cancel_iff, List.cons.injEq, UInt8.xor_eq_zero_iff]
          rw [← hih]
          constructor
          · rintro ⟨hlen, hxy, hrest⟩
            exact ⟨hxy, hlen, hrest⟩
          · rintro ⟨hxy, hlen, hrest⟩
            exact ⟨hlen, hxy, hrest⟩

end ThreadHaul
