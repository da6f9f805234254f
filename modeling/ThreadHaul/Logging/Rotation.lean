import ThreadHaul.Logging.Logger

/-!
# What Rotation Loses

The files of a log whose settings stay as they are, when no call fails.

A rotation deletes file `n`, renames the others from the top down and makes room
for a new live file. What is lost that way are whole lines, the oldest ones, and
none of them before there are `n` rotated files. The number of rotations bounds
the numbers of the files, so the first ones find no file `n` to delete.

A file is filled up to its limit. A line that is longer than the limit gets a file
of its own.

`WriteFile` takes a size of 32 bits. A line that with its newline is not shorter
than 4 GiB is cut there, and the write fails after a part of it has been stored;
for one of `2 ^ 32` bytes that part is empty.

## Main definitions

* `Smooth`: The settings stay, no call fails, and no line is too long.
* `OnlyOldestLost`: What the files hold of all that was written.
* `Filling`: The invariant, in terms of the lines in the files.

## Theorems

* `filling_write`: A write keeps the invariant.
* `onlyOldestLost_throughout`: Rotation loses only the oldest files.
-/

namespace ThreadHaul

namespace Logging

open Channel TextLines

variable (p : Primitives)

/-- The settings stay as they are, no call fails, and with its hash and the newline
    a line is shorter than 4 GiB. The service may be restarted. -/
def Smooth (log : Log) : LogEvent → Prop
  | .write line calls => calls = {} ∧ (log.store.chained p line).length + 1 < 2 ^ 32
  | .restart => True
  | .reload _ _ => False

/-- The files with the numbers `n` to 1 and the live file, in this order, are the
    end of what was written. There are no other files, none of them is empty, and
    one with more than a line in it is not too large. Nothing is missing before the
    rotation with number `n + 1`. -/
structure OnlyOldestLost (limit n : Nat) (log : Log) : Prop where
  suffix : ∃ lost kept, log.written = lost ++ kept ∧
    (Slots.stack n log.store.disk).flatten = unlines 10 kept
  numbered : ∀ k, n < k → log.store.disk k = none
  filled : ∀ k file, log.store.disk k = some file →
    file ≠ [] ∧ (file.length ≤ limit ∨ ∃ line ∈ log.written, file = line ++ [10])
  complete : log.rotations < n + 1 →
    (Slots.stack n log.store.disk).flatten = unlines 10 log.written

/-- What the lines in the files are like. -/
structure Filling (limit n : Nat) (log : Log) : Prop where
  maxFileBytes : log.store.logger.maxFileBytes = limit
  maxRotatedFiles : log.store.logger.maxRotatedFiles = n
  sized : log.store.Sized
  exact : log.store.Exact
  reflects : log.Reflects
  holds : Slots.Holds n log.chunks log.written log.rotations
  filled : ∀ k chunk, log.chunks k = some chunk →
    chunk ≠ [] ∧ ((unlines 10 chunk).length ≤ limit ∨ ∃ line, chunk = [line])

theorem filling_new (limit n : Nat) : Filling limit n (Log.new limit n) where
  maxFileBytes := rfl
  maxRotatedFiles := rfl
  sized h := absurd h Bool.false_ne_true
  exact := rfl
  reflects _ := rfl
  holds := Slots.holds_empty n
  filled _ _ h := absurd h (Option.some_ne_none _).symm

theorem filling_room (limit n : Nat) (log : Log) (h : Filling limit n log)
    (line : Bytes) (hrotates : log.store.Rotates p line) :
    log.room p line = Slots.shifted n log.chunks := by
  rw [Log.room, if_pos hrotates, h.maxRotatedFiles]

/-- The size of the live file is that of its lines. -/
theorem rotates_iff_of_filling (limit n : Nat) (log : Log) (h : Filling limit n log)
    (line : Bytes) :
    log.store.Rotates p line ↔
      0 < (unlines 10 ((log.chunks 0).getD [])).length ∧
        limit < (unlines 10 ((log.chunks 0).getD [])).length +
          (log.store.chained p line).length + 1 := by
  rw [Store.Rotates, h.exact, h.reflects.content, h.maxFileBytes]

/-- A line that is added to the live file does not make it too large, unless it is
    the only one. -/
theorem filled_room (limit n : Nat) (log : Log) (h : Filling limit n log)
    (line : Bytes) :
    (unlines 10 ((log.room p line 0).getD [] ++ [log.store.chained p line])).length ≤ limit ∨
      ∃ line', (log.room p line 0).getD [] ++ [log.store.chained p line] = [line'] := by
  -- After a rotation the line stands alone; without one there was room for it, or no other line.
  by_cases hrotates : log.store.Rotates p line
  · rw [filling_room p limit n log h line hrotates]
    exact Or.inr ⟨log.store.chained p line, rfl⟩
  · rw [Log.room, if_neg hrotates]
    rw [rotates_iff_of_filling p limit n log h line, not_and_or] at hrotates
    rcases hrotates with hempty | hfits
    · have hnil : (log.chunks 0).getD [] = [] := by
        rw [← unlines_eq_nil_iff 10, ← List.length_eq_zero_iff]
        exact Nat.eq_zero_of_not_pos hempty
      exact Or.inr ⟨log.store.chained p line, by rw [hnil, List.nil_append]⟩
    · rw [unlines_append, unlines_singleton, List.length_append, List.length_append,
        List.length_singleton]
      exact Or.inl (by omega)

/-- A write keeps the invariant. -/
theorem filling_write (limit n : Nat) (log : Log) (h : Filling limit n log) (line : Bytes)
    (hlength : (log.store.chained p line).length + 1 < 2 ^ 32) :
    Filling limit n (log.write p line {}) := by
  obtain ⟨_, hfiled⟩ := write_filed p log h.sized line hlength
  have hwrites := writeLine_writes p {} rfl rfl log.store h.sized line
  have hwhole : Whole (Calls.write {}) (log.store.chained p line ++ [10]) :=
    whole_completes _ (by rwa [List.length_append])
  -- The live file has a new line; the files above it are where the rotation put them.
  have hchunk : ∀ k chunk, (log.write p line {}).chunks k = some chunk →
      (k = 0 ∧ chunk = (log.room p line 0).getD [] ++ [log.store.chained p line]) ∨
        (0 < k ∧ log.room p line k = some chunk) := by
    intro k chunk hk
    rw [hfiled.chunks, Function.update_apply] at hk
    split_ifs at hk with hzero
    · exact Or.inl ⟨hzero, (Option.some.inj hk).symm⟩
    · exact Or.inr ⟨Nat.pos_of_ne_zero hzero, hk⟩
  -- A file above the live one is an old one.
  have hold : ∀ k chunk, 0 < k → log.room p line k = some chunk →
      ∃ j, log.chunks j = some chunk := by
    intro k chunk hpos hk
    rw [Log.room] at hk
    split_ifs at hk
    · rw [Slots.shifted, if_neg (Nat.pos_iff_ne_zero.mp hpos)] at hk
      split_ifs at hk
      · exact ⟨k - 1, hk⟩
      · exact ⟨k, hk⟩
    · exact ⟨k, hk⟩
  exact
    { maxFileBytes := hfiled.maxFileBytes.trans h.maxFileBytes
      maxRotatedFiles := hfiled.maxRotatedFiles.trans h.maxRotatedFiles
      sized := sized_writes p log.store line {} _ h.sized hwrites
      exact := exact_writes p log.store line {} _ h.exact hwhole hwrites
      reflects := reflects_write p log h.reflects h.sized line {} rfl rfl hwhole
      holds := by
        rw [hfiled.chunks, hfiled.written, hfiled.rotations]
        refine Slots.holds_append n _ _ _ ?_ _
        by_cases hrotates : log.store.Rotates p line
        · rw [filling_room p limit n log h line hrotates, if_pos hrotates]
          exact Slots.holds_shifted n _ _ _ h.holds
        · rw [Log.room, if_neg hrotates, if_neg hrotates]
          exact h.holds
      filled := by
        intro k chunk hk
        rcases hchunk k chunk hk with ⟨_, rfl⟩ | ⟨hpos, hroom⟩
        · exact ⟨List.append_ne_nil_of_right_ne_nil _ (List.cons_ne_nil _ _),
            filled_room p limit n log h line⟩
        · obtain ⟨j, hj⟩ := hold k chunk hpos hroom
          exact h.filled j chunk hj }

theorem filling_reload (limit n : Nat) (log : Log) (h : Filling limit n log) :
    Filling limit n (log.reload limit n) where
  maxFileBytes := rfl
  maxRotatedFiles := rfl
  sized hopen := absurd hopen Bool.false_ne_true
  exact := rfl
  reflects := h.reflects
  holds := h.holds
  filled := h.filled

theorem filling_step (limit n : Nat) (log : Log) (event : LogEvent)
    (hsmooth : Smooth p log event) (h : Filling limit n log) :
    Filling limit n (log.step p event) := by
  cases event with
  | write line calls =>
      obtain ⟨rfl, hlength⟩ := hsmooth
      exact filling_write p limit n log h line hlength
  | restart =>
      simp only [Log.step]
      rw [h.maxFileBytes, h.maxRotatedFiles]
      exact filling_reload limit n log h
  | reload maxFileBytes maxRotatedFiles => exact hsmooth.elim

/-- The files have what the lines in them say. -/
theorem onlyOldestLost_of_filling (limit n : Nat) (log : Log)
    (h : Filling limit n log) : OnlyOldestLost limit n log := by
  have hstack : (Slots.stack n log.store.disk).flatten =
      unlines 10 (Slots.stack n log.chunks).flatten := by
    rw [unlines_flatten, Slots.stack_map (unlines 10) log.store.disk log.chunks h.reflects]
  obtain ⟨lost, hlost, hcomplete⟩ := h.holds.suffix
  have hfile : ∀ k file, log.store.disk k = some file →
      ∃ chunk, log.chunks k = some chunk ∧ file = unlines 10 chunk := by
    intro k file hk
    rw [h.reflects k, Option.map_eq_some_iff] at hk
    obtain ⟨chunk, hchunk, hlines⟩ := hk
    exact ⟨chunk, hchunk, hlines.symm⟩
  exact
    { suffix := ⟨lost, _, hlost, hstack⟩
      numbered := by
        intro k hk
        rw [h.reflects k, h.holds.numbered k hk]
        rfl
      filled := by
        intro k file hk
        obtain ⟨chunk, hchunk, rfl⟩ := hfile k file hk
        obtain ⟨hne, hsize⟩ := h.filled k chunk hchunk
        refine ⟨mt (unlines_eq_nil_iff 10 chunk).mp hne, hsize.imp id ?_⟩
        rintro ⟨line, rfl⟩
        refine ⟨line, ?_, unlines_singleton 10 line⟩
        -- What is in a file has been written.
        have hmem : [line] ∈ Slots.stack n log.chunks := by
          refine (Slots.mem_stack_iff n log.chunks [line]).mpr ⟨k, ?_, hchunk⟩
          by_contra hk
          rw [h.holds.numbered k (Nat.lt_of_not_le hk)] at hchunk
          cases hchunk
        rw [hlost]
        exact List.mem_append_right _ (List.mem_flatten_of_mem hmem (List.mem_singleton_self line))
      complete := by
        intro hfew
        rw [hstack, hlost, hcomplete hfew, List.nil_append] }

/-- Rotation loses only the oldest files. Every line is reported to be written. -/
theorem onlyOldestLost_throughout (limit n : Nat) (events : List LogEvent)
    (h : Runs.Along (Log.step p) (Smooth p) (Log.new limit n) events) :
    Runs.Throughout (Log.step p) (OnlyOldestLost limit n) (Log.new limit n)
        events ∧
      Runs.Along (Log.step p)
        (fun log event => ∀ line calls, event = .write line calls →
          (writeLine p calls log.store line).result = true)
        (Log.new limit n) events := by
  -- Both parts follow from `Filling`, which holds before every event.
  constructor
  · exact Runs.throughout_of_along (Log.step p) (Smooth p) (Filling limit n) _
      (onlyOldestLost_of_filling limit n) (filling_step p limit n) events _ h
      (filling_new limit n)
  · refine Runs.along_of_along (Log.step p) (Smooth p) _ (Filling limit n)
      (filling_step p limit n) ?_ events _ h (filling_new limit n)
    rintro log event hsmooth hfilling line calls rfl
    obtain ⟨rfl, hlength⟩ := hsmooth
    exact (write_filed p log hfilling.sized line hlength).1

/-- A short line, a second one that goes into a new file after a restart, and a
    third one that makes the logger delete the first. -/
theorem onlyOldestLost_throughout_sample :
    Runs.Throughout (Log.step lengthPrimitives) (OnlyOldestLost 100 1) (Log.new 100 1)
        [.write (ascii "\x7b\x7d") {}, .restart, .write (ascii "\x7b\x7d") {},
          .write (ascii "\x7b\x7d") {}] ∧
      Runs.Along (Log.step lengthPrimitives)
        (fun log event => ∀ line calls, event = .write line calls →
          (writeLine lengthPrimitives calls log.store line).result = true)
        (Log.new 100 1)
        [.write (ascii "\x7b\x7d") {}, .restart, .write (ascii "\x7b\x7d") {},
          .write (ascii "\x7b\x7d") {}] :=
  onlyOldestLost_throughout lengthPrimitives 100 1 _
    ⟨⟨rfl, by decide +kernel⟩, trivial, ⟨rfl, by decide +kernel⟩, ⟨rfl, by decide +kernel⟩,
      trivial⟩

/-- Of `2 ^ 32` bytes nothing is stored. -/
theorem stored_of_length (data : Bytes) (h : data.length = 2 ^ 32) :
    stored .completes data = ([], false) := by
  rw [stored, h]
  rfl

/-- If the first line has `2 ^ 32` bytes as it is written, there is an empty file
    then. -/
theorem live_of_length (limit n : Nat) (line : Bytes)
    (hlength : ((Log.new limit n).store.chained p line).length + 1 = 2 ^ 32) :
    ((Log.new limit n).write p line {}).store.disk 0 = some [] := by
  -- The length does not fit into the count of `WriteFile`, which becomes zero.
  have hstored : stored (Calls.write {})
      ((Log.new limit n).store.chained p line ++ [10]) = ([], false) :=
    stored_of_length _ (by rwa [List.length_append])
  have hwrites := writeLine_writes p {} rfl rfl (Log.new limit n).store
    (filling_new limit n).sized line
  unfold Log.write
  dsimp only
  generalize writeLine p {} (Log.new limit n).store line = w at hwrites ⊢
  cases hwrites with
  | closed hclosed hopens => exact absurd hopens (Bool.false_ne_true ∘ Eq.symm)
  | lost hrotates hreopens hopens => exact absurd hreopens (Bool.false_ne_true ∘ Eq.symm)
  | rotated hrotates hreopens hopens => exact absurd hrotates.1 (Nat.lt_irrefl 0)
  | appended hfits hopens =>
      rw [hstored]
      rfl

/-- An entry that is shorter than 4 GiB by the 79 bytes that `ChainLine` adds and the
    newline. -/
def largeEntry : Bytes := longEntry (2 ^ 32 - 88)

/-- The line is shorter than 4 GiB and no call fails, but there is an empty file
    then. -/
theorem not_onlyOldestLost_largeEntry :
    largeEntry.length < 2 ^ 32 ∧
      ¬ Runs.Throughout (Log.step lengthPrimitives) (OnlyOldestLost 1 1) (Log.new 1 1)
        [.write largeEntry {}] := by
  have hlength : largeEntry.length = 2 ^ 32 - 80 := length_longEntry _
  have hcloses : largeEntry.getLast? = some 125 := closes_longEntry _
  -- The entry is chosen so that the chained line has exactly 2^32 bytes.
  have hchained : ((Log.new 1 1).store.chained lengthPrimitives largeEntry).length + 1 =
      2 ^ 32 := by
    rw [Store.chained, length_chainLine _ _ (by omega) hcloses, hlength]
    decide +kernel
  refine ⟨by omega, fun h => ?_⟩
  have hlive := live_of_length lengthPrimitives 1 1 largeEntry hchained
  have hfinal := Runs.throughout_final _ _ _ _ h
  rw [Runs.run_cons, Runs.run_nil, Log.step] at hfinal
  exact (hfinal.filled 0 [] hlive).1 rfl

end Logging

end ThreadHaul
