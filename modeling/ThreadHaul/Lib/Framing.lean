import Mathlib.Data.List.Basic

/-!
# Framed Streams

Messages written one after the other into a stream, and a reader that takes
them out of a buffer again.

A `Code` is what such a pair has to offer: a message followed by anything
decodes to that message and what followed, and nothing can be decoded from a
buffer that ends inside a message. Both are conditions on a single message;
what they say about a stream is what this file is for. The reader's buffer `p`
and the symbols `q` that have not arrived yet are together the stream of the
messages still to come, and `decode_eq_message` and `decode_eq_incomplete` say what
decoding the buffer does, by whether the first of them has arrived in full.

A reader that does not want its buffer to grow without bound has to look at how
far the arrived symbols reach beyond the start of the message it is in.
`Within` is that measure in terms of the stream alone.

## Main definitions

* `Code`: Messages that can be told apart in a stream.
* `stream`: Messages one after the other.
* `Within`: A limit on the symbols from the start of a message in progress.

## Theorems

* `decode_eq_message`, `decode_eq_incomplete`: Reading from a part of a stream.
* `within_cons_of_lt`: The first message is in progress.
* `within_cons_of_le`: The first message lies behind.
-/

namespace Framing

/-- What a reader finds at the start of its buffer. -/
inductive Reading (α β : Type*)
  | message (b : β) (rest : List α)
  | incomplete
  | malformed

/-- Messages `β` written in symbols `α`. -/
structure Code (α β : Type*) where
  encode : β → List α
  decode : List α → Reading α β
  decode_nil : decode [] = .incomplete
  decode_encode : ∀ b rest, decode (encode b ++ rest) = .message b rest
  decode_part : ∀ b p q, q ≠ [] → p ++ q = encode b → decode p = .incomplete

variable {α β : Type*}

namespace Code

variable (C : Code α β)

/-- Messages one after the other. -/
def stream (l : List β) : List α := l.flatMap C.encode

@[simp] theorem stream_nil : C.stream [] = [] := rfl

@[simp] theorem stream_cons (b : β) (l : List β) : C.stream (b :: l) = C.encode b ++ C.stream l :=
  List.flatMap_cons

/-- The first message has arrived in full. -/
theorem decode_eq_message (b : β) (l : List β) (p q : List α) (h : p ++ q = C.stream (b :: l))
    (hle : (C.encode b).length ≤ p.length) :
    ∃ p', C.decode p = .message b p' ∧ p = C.encode b ++ p' ∧ p' ++ q = C.stream l := by
  rw [stream_cons] at h
  -- The buffer and the message are both a beginning of the stream.
  have hs : C.encode b <+: p ++ q := ⟨C.stream l, h.symm⟩
  have hp : C.encode b <+: p := List.prefix_of_prefix_length_le hs (List.prefix_append p q) hle
  rcases hp with ⟨p', rfl⟩
  rw [List.append_assoc] at h
  exact ⟨p', C.decode_encode b p', rfl, List.append_cancel_left h⟩

/-- No message has arrived in full. -/
theorem decode_eq_incomplete (l : List β) (p q : List α) (h : p ++ q = C.stream l)
    (hlt : ∀ b l', l = b :: l' → p.length < (C.encode b).length) : C.decode p = .incomplete := by
  -- What was read is a proper prefix of the first encoding, or nothing at all.
  cases l with
  | nil =>
      rw [(List.append_eq_nil_iff.mp h).1]
      exact C.decode_nil
  | cons b l =>
      have hp := hlt b l rfl
      rw [stream_cons] at h
      have hs : C.encode b <+: p ++ q := ⟨C.stream l, h.symm⟩
      rcases List.prefix_of_prefix_length_le (List.prefix_append p q) hs (Nat.le_of_lt hp) with
        ⟨r, hr⟩
      refine C.decode_part b p r ?_ hr
      intro hnil
      rw [hnil, List.append_nil] at hr
      rw [hr] at hp
      exact Nat.lt_irrefl _ hp

/-- Of the message that is in progress at offset `before`, and what follows it,
    at most `limit` symbols lie before offset `after`. -/
def Within (limit : Nat) (l : List β) (before after : Nat) : Prop :=
  ∀ l₁ b l₂, l = l₁ ++ b :: l₂ → (C.stream l₁).length ≤ before →
    before < (C.stream (l₁ ++ [b])).length → after ≤ (C.stream l₁).length + limit

/-- The first message, if there is one, is in progress. -/
theorem within_cons_of_lt (limit : Nat) (b : β) (l : List β) (before after : Nat)
    (hlt : before < (C.encode b).length) :
    C.Within limit (b :: l) before after ↔ after ≤ limit := by
  constructor
  · intro h
    have hb := h [] b l rfl (Nat.zero_le _)
      (by simpa only [List.nil_append, stream_cons, stream_nil, List.append_nil] using hlt)
    simpa only [stream_nil, List.length_nil, Nat.zero_add] using hb
  · intro h l₁ b' l₂ heq hle _
    cases l₁ with
    | nil => simpa only [stream_nil, List.length_nil, Nat.zero_add] using h
    | cons a l₁ =>
        -- Another message in progress would start behind the first one.
        have hab : a = b := (List.cons.inj heq).1.symm
        rw [stream_cons, List.length_append, hab] at hle
        omega

/-- The first message lies behind. -/
theorem within_cons_of_le (limit : Nat) (b : β) (l : List β) (before after : Nat) :
    C.Within limit (b :: l) ((C.encode b).length + before) ((C.encode b).length + after) ↔
      C.Within limit l before after := by
  constructor
  · intro h l₁ b' l₂ heq hle hlt
    have hb := h (b :: l₁) b' l₂ (by rw [heq, List.cons_append])
      (by rw [stream_cons, List.length_append]; omega)
      (by rw [List.cons_append, stream_cons, List.length_append]; omega)
    rw [stream_cons, List.length_append] at hb
    omega
  · intro h l₁ b' l₂ heq hle hlt
    cases l₁ with
    -- The first message ends before the window begins.
    | nil =>
        have hbb : b' = b := (List.cons.inj heq).1.symm
        rw [List.nil_append, stream_cons, stream_nil, List.append_nil, hbb] at hlt
        omega
    | cons a l₁ =>
        rcases List.cons.inj heq with ⟨rfl, htail⟩
        rw [stream_cons, List.length_append] at hle ⊢
        rw [List.cons_append, stream_cons, List.length_append] at hlt
        have hb := h l₁ b' l₂ htail (by omega) (by omega)
        omega

end Code

end Framing
