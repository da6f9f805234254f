import Mathlib.Data.List.Basic

/-!
# UTF-8

Which byte strings are text. A byte string is valid if it is the encoding of
some characters, a character being a Unicode scalar value: neither a surrogate
nor an overlong form is the encoding of anything.

## Main definitions

* `encode`: The bytes of a list of characters.
* `Valid`: A byte string is the encoding of some characters.

## Theorems

* `valid_append`: Text followed by text is text.
* `valid_of_ascii`: Bytes below 128 are text.
* `valid_append_cons`: Text can be cut at a byte below 128.
* `valid_between`: What stands between ASCII is text if the whole is.
-/

namespace Utf8

/-- Characters as bytes. -/
def encode (cs : List Char) : List UInt8 := cs.flatMap String.utf8EncodeChar

/-- The bytes are those of some characters. -/
def Valid (b : List UInt8) : Prop := ∃ cs, encode cs = b

/-- Decided by the decoder of the standard library. -/
instance (b : List UInt8) : Decidable (Valid b) :=
  decidable_of_iff (ByteArray.IsValidUTF8 ⟨b.toArray⟩) (by
    constructor
    · rintro ⟨cs, hcs⟩
      refine ⟨cs, ?_⟩
      have hdata := congrArg (fun x => x.data.toList) hcs
      simpa only [List.utf8Encode, List.data_toByteArray, encode] using hdata.symm
    · rintro ⟨cs, rfl⟩
      refine ⟨cs, ByteArray.ext ?_⟩
      simp only [List.utf8Encode, List.data_toByteArray, encode])

theorem valid_encode (cs : List Char) : Valid (encode cs) := ⟨cs, rfl⟩

theorem valid_nil : Valid [] := ⟨[], rfl⟩

/-- Text followed by text is text. -/
theorem valid_append (a b : List UInt8) (ha : Valid a) (hb : Valid b) : Valid (a ++ b) := by
  rcases ha with ⟨cs, rfl⟩
  rcases hb with ⟨ds, rfl⟩
  exact ⟨cs ++ ds, List.flatMap_append⟩

theorem encode_singleton_of_lt (c : UInt8) (h : c < 128) :
    encode [Char.ofNat c.toNat] = [c] := by
  have hall : ∀ i : Fin 256, UInt8.ofFin i < 128 →
      encode [Char.ofNat (UInt8.ofFin i).toNat] = [UInt8.ofFin i] := by decide +kernel
  rw [← UInt8.ofFin_toFin c] at h ⊢
  exact hall c.toFin h

/-- Bytes below 128 are text. -/
theorem valid_of_ascii (b : List UInt8) (h : ∀ c ∈ b, c < 128) : Valid b := by
  induction b with
  | nil => exact valid_nil
  | cons c b ih =>
      have hc : Valid [c] :=
        ⟨[Char.ofNat c.toNat], encode_singleton_of_lt c (h c (List.mem_cons_self ..))⟩
      exact valid_append [c] b hc (ih fun d hd => h d (List.mem_cons_of_mem _ hd))

theorem lt_of_all (b : List UInt8) (h : b.all (· < 128) = true) : ∀ c ∈ b, c < 128 := by
  intro c hc
  exact of_decide_eq_true (List.all_eq_true.mp h c hc)

/-- The same, for literals. -/
theorem valid_of_all (b : List UInt8) (h : b.all (· < 128) = true) : Valid b :=
  valid_of_ascii b (lt_of_all b h)

/-- A character is one byte below 128, or bytes that are all above. -/
theorem utf8EncodeChar_cases (c : Char) :
    (∃ b, String.utf8EncodeChar c = [b]) ∨ ∀ b ∈ String.utf8EncodeChar c, ¬ b < 128 := by
  have hhigh : ∀ n, 128 ≤ n → n < 256 → ¬ UInt8.ofNat n < 128 := by
    intro n hlo hhi h
    have hlt := UInt8.lt_iff_toNat_lt.mp h
    rw [UInt8.toNat_ofNat_of_lt' hhi] at hlt
    have h128 : (128 : UInt8).toNat = 128 := rfl
    omega
  unfold String.utf8EncodeChar
  dsimp only
  -- One byte for a low character, and two to four for the others.
  split
  · exact Or.inl ⟨_, rfl⟩
  · -- Every byte of a longer encoding carries a mark above 127.
    refine Or.inr ?_
    split
    · simp only [List.forall_mem_cons, List.not_mem_nil, false_implies, implies_true, and_true]
      exact ⟨hhigh _ (by omega) (by omega), hhigh _ (by omega) (by omega)⟩
    · split
      · simp only [List.forall_mem_cons, List.not_mem_nil, false_implies, implies_true, and_true]
        exact ⟨hhigh _ (by omega) (by omega), hhigh _ (by omega) (by omega),
          hhigh _ (by omega) (by omega)⟩
      · simp only [List.forall_mem_cons, List.not_mem_nil, false_implies, implies_true, and_true]
        exact ⟨hhigh _ (by omega) (by omega), hhigh _ (by omega) (by omega),
          hhigh _ (by omega) (by omega), hhigh _ (by omega) (by omega)⟩

/-- Text can be cut at a byte below 128. -/
theorem valid_parts (cs : List Char) (a : List UInt8) (c : UInt8) (b : List UInt8) (hc : c < 128)
    (h : encode cs = a ++ c :: b) : Valid a ∧ Valid b := by
  induction cs generalizing a with
  | nil => exact absurd h.symm (List.append_ne_nil_of_right_ne_nil a (List.cons_ne_nil c b))
  | cons d cs ih =>
      have hd : Valid (String.utf8EncodeChar d) := ⟨[d], List.flatMap_singleton ..⟩
      rw [encode, List.flatMap_cons, ← encode, List.append_eq_append_iff] at h
      rcases h with ⟨a', rfl, hrest⟩ | ⟨c', hchar, hrest⟩
      · rcases ih a' hrest with ⟨ha', hb⟩
        exact ⟨valid_append _ _ hd ha', hb⟩
      · cases c' with
        | nil =>
            rw [List.append_nil] at hchar
            rw [← hchar]
            exact ⟨hd, (ih [] hrest.symm).2⟩
        | cons x c' =>
            -- The byte is the whole character.
            rcases List.cons.inj hrest with ⟨rfl, hb⟩
            rcases utf8EncodeChar_cases d with ⟨y, hy⟩ | hhigh
            · rw [hy] at hchar
              have hlen := congrArg List.length hchar
              simp only [List.length_append, List.length_cons, List.length_nil] at hlen
              have ha : a = [] := List.eq_nil_of_length_eq_zero (by omega)
              have hc' : c' = [] := List.eq_nil_of_length_eq_zero (by omega)
              rw [hb, hc', ha]
              exact ⟨valid_nil, valid_encode cs⟩
            · refine absurd hc (hhigh c ?_)
              rw [hchar]
              exact List.mem_append_right _ List.mem_cons_self

theorem valid_append_cons (a : List UInt8) (c : UInt8) (b : List UInt8) (hc : c < 128) :
    Valid (a ++ c :: b) ↔ Valid a ∧ Valid b := by
  constructor
  · rintro ⟨cs, h⟩
    exact valid_parts cs a c b hc h
  · intro h
    have hone : Valid [c] := valid_of_ascii [c] (List.forall_mem_singleton.mpr hc)
    exact valid_append a (c :: b) h.1 (valid_append [c] b hone h.2)

/-- Between ASCII, a string is text exactly if the whole is. -/
theorem valid_between (p s q : List UInt8) (hallp : p.all (· < 128) = true)
    (hallq : q.all (· < 128) = true) : Valid (p ++ s ++ q) ↔ Valid s := by
  have hp := lt_of_all p hallp
  have hq := lt_of_all q hallq
  clear hallp hallq
  constructor
  · intro h
    have hps : Valid (p ++ s) := by
      cases q with
      | nil => rwa [List.append_nil] at h
      | cons c q => exact ((valid_append_cons _ c q (hq c List.mem_cons_self)).mp h).1
    -- Low bytes are whole characters, so they can be taken off one by one.
    induction p with
    | nil => exact hps
    | cons c p ih =>
        refine ih (fun d hd => hp d (List.mem_cons_of_mem _ hd)) ?_ ?_
        · exact ((valid_append_cons [] c (p ++ s ++ q) (hp c List.mem_cons_self)).mp h).2
        · exact ((valid_append_cons [] c (p ++ s) (hp c List.mem_cons_self)).mp hps).2
  · intro h
    exact valid_append _ _ (valid_append _ _ (valid_of_ascii p hp) h) (valid_of_ascii q hq)

end Utf8
