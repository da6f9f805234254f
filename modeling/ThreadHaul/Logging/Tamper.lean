import ThreadHaul.Logging.Chain

/-!
# Tamper Evidence

What can be done to a log without being reported.

Within a file the links leave no freedom. If a log goes back to the hash that
starts every chain, then a file that is accepted and ends in the same line has
lines of that log only, and leaves out none but the oldest ones.

From one file to the next it is different. That no unchained line comes after a
chained one is checked with a variable of one call of `VerifyChain`, and
`verify-log` calls it for each file anew. So a file may start with unchained
lines, whatever is in the files before it. `unchainedFirst_iff` says that this is
the only way for unchained lines to come late.

## Main definitions

* `UnchainedFirst`: No unchained line comes after a chained one.
* `EndsChained`, `StartsChained`: The ends of a file.

## Theorems

* `looselyLinked_of_accepts`: A file that is accepted is linked.
* `suffix_of_accepted`: What is accepted with the last line of a log.
* `unchainedFirst_iff`: When a log that is reported intact has its unchained
  lines first.
-/

namespace ThreadHaul

namespace Logging

open Channel HashChain

variable (p : Primitives)

/-- The line carries the hash of a line before it. -/
def Chained (line : Bytes) : Prop := ∃ prev, carried p line = some prev

section Within

theorem carried_of_linkOf (line prev : Bytes) (h : linkOf p line = .chained prev) :
    carried p line = some prev := by
  rw [carried, h]

/-- What is accepted after a line is linked, and the first of it to that line. -/
theorem looselyLinked_of_accepts (hne : ∀ x, p.sha256 x ≠ []) (expected : Bytes)
    (previous : Option Bytes) (seen : Bool) (lines : List Bytes)
    (h : Accepts p expected previous seen lines) :
    LooselyLinked (carried p) (lineHash p) (previous.toList ++ lines) := by
  induction lines generalizing previous seen with
  | nil =>
      rw [List.append_nil]
      cases previous with
      | none => exact List.isChain_nil
      | some line => exact List.isChain_singleton line
  | cons line lines ih =>
      unfold Accepts at h
      -- An unchained line is linked to nothing.
      have hrest : LooselyLinked (carried p) (lineHash p) (line :: lines) := by
        cases hlink : linkOf p line with
        | notObject =>
            rw [hlink] at h
            exact h.elim
        | unchained =>
            rw [hlink] at h
            exact ih (some line) seen h.2
        | chained prev =>
            rw [hlink] at h
            exact ih (some line) true h.2
      cases previous with
      | none => exact hrest
      | some before =>
          refine List.isChain_cons_cons.mpr ⟨?_, hrest⟩
          intro hash hhash
          rw [linkOf_of_carried p line hash hhash] at h
          rcases h.1 with hnone | hsame
          · exact absurd hnone (lineHash_ne_nil p hne before)
          · exact hsame

/-- A text that is accepted and ends in the last line of a log has lines of that
    log only, and all from some line on: nothing is edited, inserted, deleted or
    reordered, except that the oldest lines may be missing. The log is chained
    throughout, and goes back to the start of all chains. -/
theorem suffix_of_accepted (hinj : Function.Injective (lineHash p))
    (hgenesis : ∀ line, lineHash p line ≠ kGenesisHash) (hne : ∀ x, p.sha256 x ≠ [])
    (log text expected : Bytes) (hchained : ∀ line ∈ logLines log, Chained p line)
    (hfirst : ∀ line ∈ (logLines log).head?, carried p line = some kGenesisHash)
    (hlog : (verifyChain p log expected).ok = true) (htext : (verifyChain p text []).ok = true)
    (hlast : (logLines text).getLast? = (logLines log).getLast?) :
    logLines text <:+ logLines log := by
  rw [verifyChain_ok_iff] at hlog htext
  have hlinked := linked_of_looselyLinked _ _ _
    (looselyLinked_of_accepts p hne expected none false _ hlog) hchained
  exact suffix_of_linked (carried p) (lineHash p) hinj kGenesisHash hgenesis _ _ hlinked
    (looselyLinked_of_accepts p hne [] none false _ htext) hfirst hlast

/-- A line with nothing but the hash before it. -/
def bareLine (prev : Bytes) : Bytes := ascii "\x7b\"prev_hash\":\"" ++ prev ++ ascii "\"\x7d"

/-- A hash without collisions, which starts with a one, and a parser for the
    lines of the samples. -/
def samplePrimitives : Primitives where
  sha256 data := 1 :: data
  hmacSha256 _ data := data
  parse text :=
    if (bareLine []).take 14 = text.take 14 then
      .object [(ascii "prev_hash", .string (text.drop 14).dropLast.dropLast)]
    else .object [(ascii "a", .integer 1)]

theorem lineHash_sample_injective : Function.Injective (lineHash samplePrimitives) := by
  intro a b h
  have hbytes := congrArg fromHex h
  rw [lineHash, lineHash, fromHex_toHex, fromHex_toHex] at hbytes
  exact List.cons.inj hbytes |>.2

/-- A line that follows on nothing. -/
def firstLine : Bytes := bareLine kGenesisHash

/-- The line after it. -/
def secondLine : Bytes := bareLine (lineHash samplePrimitives firstLine)

/-- The second of two lines, with a carriage return. -/
theorem suffix_of_accepted_second :
    logLines (secondLine ++ [13, 10]) <:+ logLines (firstLine ++ 10 :: (secondLine ++ [10])) := by
  have hlines : logLines (firstLine ++ 10 :: (secondLine ++ [10])) = [firstLine, secondLine] := by
    decide +kernel
  have htext : logLines (secondLine ++ [13, 10]) = [secondLine] := by
    decide +kernel
  have hcarried : carried samplePrimitives firstLine = some kGenesisHash ∧
      carried samplePrimitives secondLine = some (lineHash samplePrimitives firstLine) := by
    decide +kernel
  -- The text keeps the last of two lines, with another line end.
  refine suffix_of_accepted samplePrimitives lineHash_sample_injective ?_
    (fun x => List.cons_ne_nil 1 x) _ _ [] ?_ ?_ (by decide +kernel) (by decide +kernel)
    (by rw [hlines, htext]; rfl)
  · intro line h
    have hsecond : (some 49 : Option UInt8) = some 48 := congrArg (fun hash => hash[1]?) h
    exact absurd hsecond (by decide)
  · rw [hlines, List.forall_mem_cons, List.forall_mem_singleton]
    exact ⟨⟨_, hcarried.1⟩, _, hcarried.2⟩
  · rw [hlines]
    intro line hline
    cases hline
    exact hcarried.1

end Within

section Across

/-- No unchained line comes after a chained one. -/
def UnchainedFirst (lines : List Bytes) : Prop :=
  lines.Pairwise fun a b => Chained p a → Chained p b

/-- The last line of the file is chained. -/
def EndsChained (file : Bytes) : Prop := ∃ line ∈ (logLines file).getLast?, Chained p line

/-- The first line of the file is chained, if there is one. -/
def StartsChained (file : Bytes) : Prop := ∀ line ∈ (logLines file).head?, Chained p line

/-- Within a file this is checked. -/
theorem unchainedFirst_of_accepts (expected : Bytes) (previous : Option Bytes) (seen : Bool)
    (lines : List Bytes) (h : Accepts p expected previous seen lines) :
    UnchainedFirst p lines ∧ (seen = true → ∀ line ∈ lines, Chained p line) := by
  -- Once a line was chained, the verifier refuses one that is not.
  induction lines generalizing previous seen with
  | nil => exact ⟨List.Pairwise.nil, fun _ line hline => absurd hline List.not_mem_nil⟩
  | cons line lines ih =>
      unfold Accepts at h
      cases hlink : linkOf p line with
      | notObject =>
          rw [hlink] at h
          exact h.elim
      | unchained =>
          rw [hlink] at h
          refine ⟨List.pairwise_cons.mpr ⟨?_, (ih _ _ h.2).1⟩, fun hseen => ?_⟩
          · rintro _ _ ⟨prev, hprev⟩
            rw [linkOf_of_carried p line prev hprev] at hlink
            cases hlink
          · rw [h.1] at hseen
            exact absurd hseen Bool.false_ne_true
      | chained prev =>
          rw [hlink] at h
          obtain ⟨hpairs, hall⟩ := ih _ _ h.2
          refine ⟨List.pairwise_cons.mpr ⟨fun b hb _ => hall rfl b hb, hpairs⟩, fun _ => ?_⟩
          exact List.forall_mem_cons.mpr ⟨⟨prev, carried_of_linkOf p line prev hlink⟩, hall rfl⟩

/-- Each file has a report of its own. -/
theorem verifyChain_mem (files : List Bytes) (expected file : Bytes) (h : file ∈ files) :
    ∃ e, verifyChain p file e ∈ verifyFiles p expected files := by
  induction files generalizing expected with
  | nil => exact absurd h List.not_mem_nil
  | cons f files ih =>
      rcases List.mem_cons.mp h with rfl | h
      · exact ⟨expected, List.mem_cons_self ..⟩
      · obtain ⟨e, he⟩ := ih (lastLineHash p (some f)) h
        exact ⟨e, List.mem_cons_of_mem _ he⟩

theorem unchainedFirst_of_intact (disk : Nat → Option Bytes) (h : Intact p disk) (file : Bytes)
    (hfile : file ∈ logFiles disk) : UnchainedFirst p (logLines file) := by
  obtain ⟨e, he⟩ := verifyChain_mem p (logFiles disk) [] file hfile
  exact (unchainedFirst_of_accepts p e none false _
    ((verifyChain_ok_iff p file e).mp (h _ he))).1

/-- If anything in a file is chained, its last line is. -/
theorem endsChained_of_chained (file line : Bytes) (h : UnchainedFirst p (logLines file))
    (hline : line ∈ logLines file) (hchained : Chained p line) : EndsChained p file := by
  rcases List.eq_nil_or_concat (logLines file) with hnil | ⟨init, last, hlines⟩
  · rw [hnil] at hline
    exact absurd hline List.not_mem_nil
  rw [List.concat_eq_append] at hlines
  refine ⟨last, by rw [hlines, List.getLast?_concat]; rfl, ?_⟩
  unfold UnchainedFirst at h
  rw [hlines] at h hline
  rcases List.mem_append.mp hline with hinit | heq
  · exact (List.pairwise_append.mp h).2.2 line hinit last (List.mem_singleton_self last) hchained
  · rw [← List.mem_singleton.mp heq]
    exact hchained

/-- If its first line is chained, everything in a file is. -/
theorem chained_of_startsChained (file line : Bytes) (h : UnchainedFirst p (logLines file))
    (hstart : StartsChained p file) (hline : line ∈ logLines file) : Chained p line := by
  unfold UnchainedFirst at h
  unfold StartsChained at hstart
  cases hlines : logLines file with
  | nil =>
      rw [hlines] at hline
      exact absurd hline List.not_mem_nil
  | cons first rest =>
      rw [hlines] at h hstart hline
      have hfirst := hstart first rfl
      -- All lines after a chained one are chained.
      rcases List.mem_cons.mp hline with rfl | hline
      · exact hfirst
      · exact (List.pairwise_cons.mp h).1 line hline hfirst

/-- For any files that are reported intact, the unchained lines are the first ones
    of the whole log if and only if no file that starts with an unchained line
    comes after one that ends with a chained line. -/
theorem unchainedFirst_iff (disk : Nat → Option Bytes) (h : Intact p disk) :
    UnchainedFirst p ((logFiles disk).flatMap logLines) ↔
      (logFiles disk).Pairwise fun older newer => EndsChained p older → StartsChained p newer := by
  have hwithin := unchainedFirst_of_intact p disk h
  -- Within a file the verifier checks the order; across files it is the condition.
  rw [UnchainedFirst, List.pairwise_flatMap]
  constructor
  · rintro ⟨_, hpairs⟩
    refine hpairs.imp ?_
    rintro older newer hboth ⟨last, hlast, hchained⟩ first hfirst
    exact hboth last (List.mem_of_getLast? hlast) first (List.mem_of_head? hfirst) hchained
  · intro hpairs
    refine ⟨hwithin, hpairs.imp_of_mem ?_⟩
    intro older newer holder hnewer hboth a ha b hb hchained
    exact chained_of_startsChained p newer b (hwithin newer hnewer)
      (hboth (endsChained_of_chained p older a (hwithin older holder) ha hchained)) hb

end Across

/-- The rotated file has a chained line, and in the place of the live one there is
    a line without a link. -/
def forgedDisk : Nat → Option Bytes
  | 0 => some (ascii "\x7b\"a\":1\x7d\n")
  | 1 => some (firstLine ++ [10])
  | _ => none

theorem intact_forgedDisk : Intact samplePrimitives forgedDisk := by
  unfold Intact
  decide +kernel

/-- Both files are reported intact, and the unchained line comes last. -/
theorem not_unchainedFirst_forgedDisk :
    Intact samplePrimitives forgedDisk ∧
      ¬ UnchainedFirst samplePrimitives ((logFiles forgedDisk).flatMap logLines) := by
  refine ⟨intact_forgedDisk, ?_⟩
  have hlines : (logFiles forgedDisk).flatMap logLines =
      [firstLine, ascii "\x7b\"a\":1\x7d"] := by
    decide +kernel
  -- The first line is chained, and the second, in a file of its own, is not.
  have hcarried : carried samplePrimitives firstLine = some kGenesisHash ∧
      carried samplePrimitives (ascii "\x7b\"a\":1\x7d") = none := by
    decide +kernel
  rw [hlines]
  intro h
  obtain ⟨prev, hprev⟩ := (List.pairwise_cons.mp h).1 _ (List.mem_singleton_self _)
    ⟨_, hcarried.1⟩
  rw [hcarried.2] at hprev
  cases hprev

theorem unchainedFirst_iff_forgedDisk :
    UnchainedFirst samplePrimitives ((logFiles forgedDisk).flatMap logLines) ↔
      (logFiles forgedDisk).Pairwise fun older newer =>
        EndsChained samplePrimitives older → StartsChained samplePrimitives newer :=
  unchainedFirst_iff samplePrimitives forgedDisk intact_forgedDisk

end Logging

end ThreadHaul
