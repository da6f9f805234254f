import ThreadHaul.Logging.Rotation

/-!
# Writer and Verifier

The logger and `verify-log` compute the same link in different ways. The logger
remembers the hash of the line it wrote last, also while it rotates the files, and
after a restart it rebuilds that hash from the end of the live file. The verifier
goes through the files from the oldest to the live one, and asks of each that it
goes on from the end of the file before.

Both are right as long as what the verifier sees is one chain which ends in the
live file. A rotation takes a file away from the front of it, provided that the
file which is deleted is the oldest one the verifier sees: no file may be left
behind above the number that the rotation deletes. While the settings stay as they
are there is none.

## Main definitions

* `IsHash`, `Entry`: The hashes a line can carry, and the lines that are logged.
* `Log.visible`: The lines the verifier sees.
* `Chains`: The invariant.

## Theorems

* `chains_write`, `chains_reload`: What keeps the invariant.
* `intact_of_chains`: The verifier accepts what the invariant says.
* `intact_throughout`: It accepts what the logger writes.
-/

namespace ThreadHaul

namespace Logging

open Channel TextLines HashChain

variable (p : Primitives)

/-- The hashes that the logger puts into its lines. -/
def IsHash (hash : Bytes) : Prop := hash = kGenesisHash ∨ ∃ line, hash = lineHash p line

/-- An entry of the log: the text of an object on one line, of which the parser
    reads back the member that `ChainLine` appends. -/
structure Entry (line : Bytes) : Prop where
  noNewline : 10 ∉ line
  length : 2 ≤ line.length
  closes : line.getLast? = some 125
  reads : ∀ prev, IsHash p prev → carried p (chainLine line prev) = some prev

/-- No call of a write fails, and a chained line fits into the part of a file that
    is read for its last line. -/
def Entries (log : Log) : LogEvent → Prop
  | .write line calls =>
      calls = {} ∧ Entry p line ∧ (log.store.chained p line).length < 65536
  | _ => True

/-- The settings stay as they are. -/
def LogEvent.Keeps : LogEvent → Prop
  | .reload _ _ => False
  | _ => True

/-- The lines in the files that the verifier sees. -/
def Log.visible (log : Log) : List Bytes := (Slots.stack 99 log.chunks).flatten

/-- What the verifier sees is a chain. The live file has the end of it, if there is
    anything, and the next line will carry the hash of that end. -/
structure Chains (log : Log) : Prop where
  sized : log.store.Sized
  reflects : log.Reflects
  wellFormed : ∀ k chunk, log.chunks k = some chunk → ∀ line ∈ chunk, WellFormed p line
  linked : Linked (carried p) (lineHash p) log.visible
  live : log.visible = [] ∨ ∃ chunk, log.chunks 0 = some chunk ∧ chunk ≠ []
  hash : IsHash p (log.store.nextHash p)
  next : ∀ line ∈ log.visible.getLast?, log.store.nextHash p = lineHash p line

/-! ### Chained lines -/

/-- A character that no hexadecimal digit is. -/
theorem not_mem_toHex (x : UInt8)
    (hx : ∀ c : UInt8, hexDigit (c >>> 4) ≠ x ∧ hexDigit (c &&& 15) ≠ x) (bytes : Bytes) :
    x ∉ toHex bytes := by
  intro h
  obtain ⟨c, _, hc⟩ := List.mem_flatMap.mp h
  rcases List.mem_cons.mp hc with hc | hc
  · exact (hx c).1 hc.symm
  · exact (hx c).2 (List.mem_singleton.mp hc).symm

theorem IsHash.noNewline (hash : Bytes) (h : IsHash p hash) : 10 ∉ hash := by
  rcases h with rfl | ⟨line, rfl⟩
  · decide +kernel
  · exact not_mem_toHex 10 (forall_byte _ (by decide +kernel)) _

theorem Entry.readable (line : Bytes) (h : Entry p line) (prev : Bytes) (hprev : IsHash p prev) :
    Readable (chainLine line prev) := by
  have hchain := chainLine_of_closes line prev h.length h.closes
  constructor
  · rw [hchain]
    intro hmem
    -- The chained line is the entry, the name of the member, the hash and the brace.
    rcases List.mem_append.mp hmem with hline | hmem
    · exact h.noNewline (List.mem_of_mem_dropLast hline)
    rcases List.mem_append.mp hmem with hmem | hclose
    · rcases List.mem_append.mp hmem with hopen | hhash
      · exact absurd hopen (by decide +kernel)
      · exact IsHash.noNewline p prev hprev hhash
    · exact absurd hclose (by decide +kernel)
  · rw [hchain, ← List.append_assoc]
    exact List.getLast?_append_of_ne_nil _ (List.cons_ne_nil _ _)

/-- A line as it is written can be read by the verifier. -/
theorem Entry.wellFormed (line : Bytes) (h : Entry p line) (prev : Bytes) (hprev : IsHash p prev)
    (hshort : (chainLine line prev).length < 65536) : WellFormed p (chainLine line prev) :=
  ⟨h.readable p line prev hprev, hshort, prev, h.reads prev hprev⟩

/-! ### The end of the chain -/

theorem mem_getLast?_of_suffix {α : Type*} (l l' : List α) (h : l' <:+ l) (a : α)
    (ha : a ∈ l'.getLast?) : a ∈ l.getLast? := by
  obtain ⟨front, rfl⟩ := h
  rw [List.getLast?_append, Option.mem_def.mp ha]
  rfl

/-- The end of the chain is the end of the live file. -/
theorem getLast?_visible (log : Log) (chunk : List Bytes) (h : log.chunks 0 = some chunk)
    (hne : chunk ≠ []) : log.visible.getLast? = chunk.getLast? := by
  have hvisible : log.visible = (Slots.older log.chunks 99).flatten ++ chunk := by
    rw [Log.visible, Slots.stack, List.flatten_append, h]
    exact congrArg (_ ++ ·) (List.append_nil chunk)
  rw [hvisible, List.getLast?_append_of_ne_nil _ hne]

/-- A logger that is created finds the hash of the last line of the live file. -/
theorem lastLineHash_live (log : Log) (hreflects : log.Reflects)
    (hgood : ∀ chunk, log.chunks 0 = some chunk → ∀ line ∈ chunk, WellFormed p line) :
    lastLineHash p (log.store.disk 0) =
      (((log.chunks 0).getD []).getLast?.map (lineHash p)).getD [] := by
  rw [hreflects 0]
  cases hlive : log.chunks 0 with
  | none => rfl
  | some chunk => exact lastLineHash_unlines p chunk (hgood chunk hlive)

/-! ### The invariant -/

theorem chains_new (maxFileBytes n : Nat) : Chains p (Log.new maxFileBytes n) := by
  have hvisible : (Log.new maxFileBytes n).visible = [] := by
    rw [Log.visible, Log.new]
    rfl
  -- A new log has no lines, so there is nothing to link.
  exact
    { sized := (filling_new maxFileBytes n).sized
      reflects := (filling_new maxFileBytes n).reflects
      wellFormed := fun k chunk h => absurd h (Option.some_ne_none _).symm
      linked := hvisible ▸ linked_nil _ _
      live := Or.inl hvisible
      hash := Or.inl rfl
      next := by
        rw [hvisible]
        exact fun line h => absurd h (Option.not_mem_none _) }

theorem lastLineHash_spec (file : Option Bytes) :
    lastLineHash p file = [] ∨ ∃ line, lastLineHash p file = lineHash p line := by
  cases file with
  | none => exact Or.inl rfl
  | some content =>
      unfold lastLineHash
      dsimp only
      split_ifs
      · exact Or.inl rfl
      · exact Or.inr ⟨_, rfl⟩

/-- A hash that is rebuilt is the hash of some line, or the one of the beginning. -/
theorem isHash_reload (log : Log) (maxFileBytes n : Nat) :
    IsHash p ((log.reload maxFileBytes n).store.nextHash p) := by
  change IsHash p (if lastLineHash p (log.store.disk 0) = [] then kGenesisHash
    else lastLineHash p (log.store.disk 0))
  split_ifs with hnone
  · exact Or.inl rfl
  · exact Or.inr ((lastLineHash_spec p (log.store.disk 0)).resolve_left hnone)

/-- The hash is rebuilt from the live file. -/
theorem chains_reload (hne : ∀ x, p.sha256 x ≠ []) (log : Log) (h : Chains p log)
    (maxFileBytes n : Nat) : Chains p (log.reload maxFileBytes n) := by
  have hlast := lastLineHash_live p log h.reflects (h.wellFormed 0)
  have hhash : (log.reload maxFileBytes n).store.nextHash p =
      if lastLineHash p (log.store.disk 0) = [] then kGenesisHash
      else lastLineHash p (log.store.disk 0) := rfl
  rw [hlast] at hhash
  -- The end of the chain is in the live file, where it is looked for.
  have hnext : ∀ line ∈ log.visible.getLast?,
      (log.reload maxFileBytes n).store.nextHash p = lineHash p line := by
    rcases h.live with hnone | ⟨chunk, hchunk, hchunkne⟩
    · rw [hnone]
      exact fun line hline => absurd hline (Option.not_mem_none _)
    · rw [getLast?_visible log chunk hchunk hchunkne]
      rw [hchunk, Option.getD_some, List.getLast?_eq_some_getLast hchunkne, Option.map_some,
        Option.getD_some, if_neg (lineHash_ne_nil p hne _)] at hhash
      rw [hhash, List.getLast?_eq_some_getLast hchunkne]
      intro line hline
      rw [Option.some.inj hline]
  exact
    { sized := fun hopen => absurd hopen Bool.false_ne_true
      reflects := h.reflects
      wellFormed := h.wellFormed
      linked := h.linked
      live := h.live
      hash := isHash_reload p log maxFileBytes n
      next := hnext }

/-- If nothing is left behind above the file that a rotation deletes, the verifier
    sees the end of what it saw before. -/
theorem suffix_room (log : Log) (line : Bytes)
    (habove : log.store.Rotates p line →
      ∀ k, log.store.logger.maxRotatedFiles < k → k ≤ 99 → log.chunks k = none) :
    (Slots.stack 99 (log.room p line)).flatten <:+ log.visible := by
  rw [Log.room]
  split_ifs with hrotates
  · rw [Log.visible, Slots.stack_eq_shifted 99 _ log.chunks (habove hrotates),
      List.flatten_append]
    exact List.suffix_append _ _
  · exact List.suffix_rfl

/-- The lines of a file after the rotation are those of one before it. -/
theorem lines_room (log : Log) (line : Bytes) (Q : Bytes → Prop)
    (h : ∀ k chunk, log.chunks k = some chunk → ∀ l ∈ chunk, Q l) (k : Nat) (chunk : List Bytes)
    (hk : log.room p line k = some chunk) : ∀ l ∈ chunk, Q l := by
  rw [Log.room] at hk
  split_ifs at hk
  · rw [Slots.shifted] at hk
    split_ifs at hk
    · exact h _ chunk hk
    · exact h _ chunk hk
  · exact h _ chunk hk

theorem lines_live (chunks : Nat → Option (List Bytes)) (Q : Bytes → Prop)
    (h : ∀ k chunk, chunks k = some chunk → ∀ l ∈ chunk, Q l) : ∀ l ∈ (chunks 0).getD [], Q l := by
  cases hlive : chunks 0 with
  | none => exact fun l hl => absurd hl List.not_mem_nil
  | some live => exact h 0 live hlive

/-- The lines in the files after some were added to the live one. -/
theorem lines_append (chunks : Nat → Option (List Bytes)) (Q : Bytes → Prop)
    (h : ∀ k chunk, chunks k = some chunk → ∀ l ∈ chunk, Q l) (lines : List Bytes)
    (hlines : ∀ l ∈ lines, Q l) (k : Nat) (chunk : List Bytes)
    (hk : Function.update chunks 0 (some ((chunks 0).getD [] ++ lines)) k = some chunk) :
    ∀ l ∈ chunk, Q l := by
  rw [Function.update_apply] at hk
  split_ifs at hk
  · rw [← Option.some.inj hk, List.forall_mem_append]
    exact ⟨lines_live chunks Q h, hlines⟩
  · exact h k chunk hk

/-- A write adds a line to the chain. -/
theorem chains_write (log : Log) (h : Chains p log) (line : Bytes) (hentry : Entry p line)
    (hshort : (log.store.chained p line).length < 65536)
    (habove : log.store.Rotates p line →
      ∀ k, log.store.logger.maxRotatedFiles < k → k ≤ 99 → log.chunks k = none) :
    Chains p (log.write p line {}) := by
  have hlength : (log.store.chained p line).length + 1 < 2 ^ 32 := by omega
  have hwhole : Whole (Calls.write {}) (log.store.chained p line ++ [10]) :=
    whole_completes _ (by rwa [List.length_append])
  obtain ⟨_, hfiled⟩ := write_filed p log h.sized line hlength
  have hsuffix := suffix_room p log line habove
  have hgood := hentry.wellFormed p line (log.store.nextHash p) h.hash hshort
  -- What is visible is what the rotation leaves, and the line.
  have hvisible : (log.write p line {}).visible =
      (Slots.stack 99 (log.room p line)).flatten ++ [log.store.chained p line] := by
    rw [Log.visible, hfiled.chunks, Slots.flatten_stack_append]
  have hnext : (log.write p line {}).store.nextHash p = lineHash p (log.store.chained p line) := by
    rw [Store.nextHash, hfiled.isOpen, if_pos rfl, hfiled.lastHash]
  have hroom := lines_room p log line (WellFormed p) h.wellFormed
  exact
    { sized := sized_writes p log.store line {} _ h.sized
        (writeLine_writes p {} rfl rfl log.store h.sized line)
      reflects := reflects_write p log h.reflects h.sized line {} rfl rfl hwhole
      wellFormed := by
        intro k chunk hk
        rw [hfiled.chunks] at hk
        refine lines_append _ _ hroom _ (fun l hl => ?_) k chunk hk
        rw [List.mem_singleton.mp hl]
        exact hgood
      linked := by
        rw [hvisible, linked_concat_iff]
        refine ⟨linked_of_suffix _ _ _ _ h.linked hsuffix, ?_⟩
        intro last hlast
        -- The hash the logger holds is that of the last line.
        rw [← h.next last (mem_getLast?_of_suffix _ _ hsuffix last hlast)]
        exact hentry.reads _ h.hash
      live := by
        rw [hfiled.chunks, Function.update_self]
        exact Or.inr ⟨_, rfl, List.append_ne_nil_of_right_ne_nil _ (List.cons_ne_nil _ [])⟩
      hash := Or.inr ⟨_, hnext⟩
      next := by
        rw [hvisible, List.getLast?_concat]
        intro last hlast
        rw [hnext, Option.some.inj hlast] }

/-- The verifier accepts a chain. -/
theorem intact_of_chains (log : Log) (h : Chains p log) : Intact p log.store.disk :=
  intact_of_linked p log.store.disk log.chunks h.reflects (fun k _ => h.wellFormed k) h.linked

/-- With the settings as they are, the verifier accepts what the logger writes. -/
theorem intact_throughout (hne : ∀ x, p.sha256 x ≠ []) (maxFileBytes n : Nat)
    (events : List LogEvent)
    (h : Runs.Along (Log.step p) (fun log event => Entries p log event ∧ event.Keeps)
      (Log.new maxFileBytes n) events) :
    Runs.Throughout (Log.step p) (fun log => Intact p log.store.disk) (Log.new maxFileBytes n)
      events := by
  -- The counts of bytes and the links are one invariant; a write needs both.
  refine Runs.throughout_of_along (Log.step p) _
    (fun log => Filling maxFileBytes n log ∧ Chains p log) _
    (fun log hlog => intact_of_chains p log hlog.2) ?_ events _ h
    ⟨filling_new maxFileBytes n, chains_new p maxFileBytes n⟩
  rintro log event ⟨hentries, hkeeps⟩ ⟨hfilling, hchains⟩
  cases event with
  | write line calls =>
      obtain ⟨rfl, hentry, hshort⟩ := hentries
      refine ⟨filling_write p maxFileBytes n log hfilling line (by omega),
        chains_write p log hchains line hentry hshort ?_⟩
      intro _ k hk _
      exact hfilling.holds.numbered k (hfilling.maxRotatedFiles ▸ hk)
  | restart =>
      refine ⟨?_, chains_reload p hne log hchains _ _⟩
      exact filling_step p maxFileBytes n log .restart trivial hfilling
  | reload _ _ => exact hkeeps.elim

/-! ### Sample lines -/

theorem length_toHex (bytes : Bytes) : (toHex bytes).length = 2 * bytes.length := by
  induction bytes with
  | nil => rfl
  | cons c bytes ih =>
      have hcons : toHex (c :: bytes) =
          [hexDigit (c >>> 4), hexDigit (c &&& 15)] ++ toHex bytes := rfl
      simp only [hcons, List.length_append, ih, List.length_cons, List.length_nil]
      omega

/-- A hash of the sample primitives has the length of a real one. -/
theorem IsHash.length_sample (hash : Bytes) (h : IsHash lengthPrimitives hash) :
    hash.length = 64 ∧ 123 ∉ hash := by
  rcases h with rfl | ⟨line, rfl⟩
  · decide +kernel
  · refine ⟨?_, not_mem_toHex 123 (forall_byte _ (by decide +kernel)) _⟩
    rw [lineHash, length_toHex, lengthPrimitives, List.length_append, List.length_replicate]
    rfl

/-- The sample primitives read the hash back from a line with one pair of braces. -/
theorem entry_sample (line : Bytes) (hnewline : 10 ∉ line) (hlength : 2 ≤ line.length)
    (hopens : line.head? = some 123) (hcount : line.count 123 = 1)
    (hcloses : line.getLast? = some 125) : Entry lengthPrimitives line := by
  refine ⟨hnewline, hlength, hcloses, fun prev hprev => ?_⟩
  obtain ⟨hprevLength, hprevBrace⟩ := IsHash.length_sample prev hprev
  have hline : line.dropLast ++ [125] = line := by
    obtain ⟨init, rfl⟩ := List.getLast?_eq_some_iff.mp hcloses
    rw [List.dropLast_concat]
  -- The brace that opens the line is the only one, also without the one that closes it.
  have hinit : line.dropLast.head? = some 123 ∧ line.dropLast.count 123 = 1 := by
    rw [← hline, List.count_append] at hcount
    refine ⟨?_, hcount⟩
    cases hinit : line.dropLast with
    | nil =>
        rw [← hline, hinit] at hlength
        exact absurd hlength (by decide)
    | cons c rest =>
        rw [← hline, hinit] at hopens
        exact hopens
  rw [chainLine_of_closes line prev hlength hcloses, ← List.append_assoc, ← List.append_assoc]
  generalize hfront : line.dropLast ++ ascii ",\"prev_hash\":\"" = front
  have hbraces : front.head? = some 123 ∧ front.count 123 = 1 := by
    rw [← hfront, List.head?_append, hinit.1, List.count_append, hinit.2]
    exact ⟨rfl, by decide +kernel⟩
  -- The hash is found from the end, since its length is known.
  have hread : ((front ++ prev ++ ascii "\"\x7d").drop
      ((front ++ prev ++ ascii "\"\x7d").length - 66)).take 64 = prev := by
    have hstart : (front ++ prev ++ ascii "\"\x7d").length - 66 = front.length := by
      rw [List.length_append, List.length_append, hprevLength,
        show (ascii "\"\x7d").length = 2 by decide +kernel, Nat.add_assoc, Nat.add_sub_cancel]
    rw [hstart, List.append_assoc, List.drop_left, ← hprevLength, List.take_left]
  have hparse : lengthPrimitives.parse (front ++ prev ++ ascii "\"\x7d") =
      .object [(ascii "prev_hash", .string prev)] := by
    unfold lengthPrimitives
    dsimp only
    rw [hread]
    refine if_pos ⟨?_, ?_, ?_⟩
    · rw [List.head?_append, List.head?_append, hbraces.1]
      rfl
    · rw [List.count_append, List.count_append, hbraces.2, List.count_eq_zero.mpr hprevBrace]
      decide +kernel
    · exact List.getLast?_append_of_ne_nil _ (List.cons_ne_nil _ _)
  rw [carried, linkOf, hparse]
  rfl

/-- An entry as it is given to the logger. -/
def sampleEntry : Bytes := ascii "\x7b\"a\":1\x7d"

theorem entry_sampleEntry : Entry lengthPrimitives sampleEntry :=
  entry_sample _ (by decide +kernel) (by decide +kernel) (by decide +kernel) (by decide +kernel)
    (by decide +kernel)

theorem sha256_sample (x : Bytes) : lengthPrimitives.sha256 x ≠ [] :=
  List.append_ne_nil_of_right_ne_nil _ (List.cons_ne_nil _ _)

/-- A file for each line, with a restart after the first one. -/
theorem intact_throughout_sample :
    Runs.Throughout (Log.step lengthPrimitives)
      (fun log => Intact lengthPrimitives log.store.disk) (Log.new 100 1)
      [.write sampleEntry {}, .restart, .write sampleEntry {}, .write sampleEntry {}] :=
  intact_throughout lengthPrimitives sha256_sample 100 1 _
    ⟨⟨⟨rfl, entry_sampleEntry, by decide +kernel⟩, trivial⟩, ⟨trivial, trivial⟩,
      ⟨⟨rfl, entry_sampleEntry, by decide +kernel⟩, trivial⟩,
      ⟨⟨rfl, entry_sampleEntry, by decide +kernel⟩, trivial⟩, trivial⟩

end Logging

end ThreadHaul
