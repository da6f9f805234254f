import ThreadHaul.Logging.Intact

/-!
# Changes of the Settings

What `verify-log` says after a new configuration has replaced the logger.

A logger knows the rotated files up to its own limit. The verifier links all of
them. As long as a rotation deletes the oldest file there is, the chain loses its
beginning and is intact. But if the limit was lowered, files above it are left
behind, and the next rotation deletes one from the middle of the chain. Then the
file after it no longer goes on from the one before, and the log is reported to be
broken though nobody touched it.

So the log is intact as long as no rotation finds a file above its limit,
`intact_of_covers`. The last theorem is a run with the smallest limit of the
configuration, where the number of rotated files is lowered from one to none.

## Main definitions

* `Covers`: A rotation finds no file above its limit.
* `leftoverRun`: A run that leaves a file behind.

## Theorems

* `intact_of_covers`: The log is reported intact.
* `loaded_fits`, `loaded_rotates`, `loaded_fill`: What the sample run does.
-/

namespace ThreadHaul

namespace Logging

open Channel TextLines HashChain

/-- If a write rotates the files, then none that the verifier sees has a number
    above the one that is deleted. -/
def Covers (p : Primitives) (log : Log) : LogEvent → Prop
  | .write line _ =>
      log.store.Rotates p line →
        ∀ k, log.store.logger.maxRotatedFiles < k → k ≤ 99 → log.store.disk k = none
  | _ => True

/-- The log is intact whatever the settings are changed to, if no rotation finds a
    file above its limit. -/
theorem intact_of_covers (p : Primitives) (hne : ∀ x, p.sha256 x ≠ []) (maxFileBytes n : Nat)
    (events : List LogEvent)
    (h : Runs.Along (Log.step p) (fun log event => Entries p log event ∧ Covers p log event)
      (Log.new maxFileBytes n) events) :
    Runs.Throughout (Log.step p) (fun log => Intact p log.store.disk) (Log.new maxFileBytes n)
      events := by
  refine Runs.throughout_of_along (Log.step p) _ (Chains p) _ (intact_of_chains p) ?_ events _ h
    (chains_new p maxFileBytes n)
  rintro log event ⟨hentries, hcovers⟩ hchains
  -- Only a rotation can bring an old file back into the range, and `Covers` excludes it.
  cases event with
  | write line calls =>
      obtain ⟨rfl, hentry, hshort⟩ := hentries
      refine chains_write p log hchains line hentry hshort fun hrotates k hk hle => ?_
      exact Option.map_eq_none_iff.mp ((hchains.reflects k).symm.trans (hcovers hrotates k hk hle))
  | restart => exact chains_reload p hne log hchains _ _
  | reload maxFileBytes n => exact chains_reload p hne log hchains maxFileBytes n

/-- The limit is lowered while there is only the live file. -/
theorem intact_of_covers_sample :
    Runs.Throughout (Log.step lengthPrimitives)
      (fun log => Intact lengthPrimitives log.store.disk) (Log.new (2 ^ 20) 1)
      [.write sampleEntry {}, .reload (2 ^ 20) 0, .write sampleEntry {}] :=
  intact_of_covers lengthPrimitives sha256_sample (2 ^ 20) 1 _
    ⟨⟨⟨rfl, entry_sampleEntry, by decide +kernel⟩, fun h => absurd h (by decide +kernel)⟩,
      ⟨trivial, trivial⟩,
      ⟨⟨rfl, entry_sampleEntry, by decide +kernel⟩, fun h => absurd h (by decide +kernel)⟩,
      trivial⟩

/-! ### A file that is left behind -/

section Leftover

theorem entry_longEntry (n : Nat) : Entry lengthPrimitives (longEntry n) := by
  refine entry_sample _ ?_ ?_ rfl ?_ (closes_longEntry n)
  · rw [longEntry, List.mem_append, List.mem_append, List.mem_replicate]
    rintro (hopen | ⟨_, hfill⟩ | hclose)
    · exact absurd hopen (by decide +kernel)
    · exact absurd hfill (by decide)
    · exact absurd hclose (by decide +kernel)
  · rw [length_longEntry]
    omega
  · rw [longEntry, List.count_append, List.count_append, List.count_replicate, if_neg (by decide)]
    decide +kernel

/-- `ChainLine` adds 79 bytes. -/
theorem length_chained (log : Log)
    (hhash : IsHash lengthPrimitives (log.store.nextHash lengthPrimitives)) (n : Nat) :
    (log.store.chained lengthPrimitives (longEntry n)).length = n + 87 := by
  have hentry := entry_longEntry n
  rw [Store.chained, length_chainLine _ _ hentry.length hentry.closes, length_longEntry,
    (IsHash.length_sample _ hhash).1]

/-- The length of the last line of a file. -/
def lastLength (file : Option (List Bytes)) : Option Nat :=
  (file.getD []).getLast?.map List.length

/-- A log with a limit of 1 MiB for each of two files: the size of the live file,
    and the lengths of the last lines of both. -/
structure Loaded (size : Nat) (live older : Option Nat) (log : Log) : Prop where
  filling : Filling (2 ^ 20) 1 log
  chains : Chains lengthPrimitives log
  size : (unlines 10 ((log.chunks 0).getD [])).length = size
  live : lastLength (log.chunks 0) = live
  older : lastLength (log.chunks 1) = older

theorem loaded_new : Loaded 0 none none (Log.new (2 ^ 20) 1) where
  filling := filling_new (2 ^ 20) 1
  chains := chains_new lengthPrimitives (2 ^ 20) 1
  size := rfl
  live := rfl
  older := rfl

/-- What a write does to the two files. -/
theorem loaded_write (size : Nat) (live older : Option Nat) (log : Log)
    (h : Loaded size live older log) (n : Nat) (hn : n + 87 < 65536) :
    (log.store.Rotates lengthPrimitives (longEntry n) ↔ 0 < size ∧ 2 ^ 20 < size + (n + 88)) ∧
      Loaded
        ((unlines 10 ((log.room lengthPrimitives (longEntry n) 0).getD [])).length + (n + 88))
        (some (n + 87)) (lastLength (log.room lengthPrimitives (longEntry n) 1))
        (log.write lengthPrimitives (longEntry n) {}) := by
  have hlength := length_chained log h.chains.hash n
  have hrotates := rotates_iff_of_filling lengthPrimitives (2 ^ 20) 1 log h.filling (longEntry n)
  rw [h.size, hlength] at hrotates
  refine ⟨hrotates, ?_⟩
  obtain ⟨_, hfiled⟩ := write_filed lengthPrimitives log h.filling.sized (longEntry n) (by omega)
  -- The line goes to the end of what the rotation leaves as the live file.
  have hsplit : ∀ chunk : List Bytes,
      (unlines 10 (chunk ++ [log.store.chained lengthPrimitives (longEntry n)])).length =
        (unlines 10 chunk).length + (n + 88) := by
    intro chunk
    rw [unlines_append, unlines_singleton, List.length_append, List.length_append, hlength]
    rfl
  exact
    { filling := filling_write lengthPrimitives (2 ^ 20) 1 log h.filling (longEntry n) (by omega)
      chains := chains_write lengthPrimitives log h.chains (longEntry n) (entry_longEntry n)
        (by omega) (fun _ k hk _ => h.filling.holds.numbered k (h.filling.maxRotatedFiles ▸ hk))
      size := by
        rw [hfiled.chunks, Function.update_self]
        exact hsplit _
      live := by
        rw [hfiled.chunks, Function.update_self, lastLength, Option.getD_some, List.getLast?_concat,
          Option.map_some, hlength]
      older := by
        rw [hfiled.chunks, Function.update_of_ne Nat.one_ne_zero] }

/-- The line fits into the live file. -/
theorem loaded_fits (size : Nat) (live older : Option Nat) (log : Log)
    (h : Loaded size live older log) (n : Nat) (hn : n + 87 < 65536)
    (hfits : size + (n + 88) ≤ 2 ^ 20) :
    Loaded (size + (n + 88)) (some (n + 87)) older
      (log.write lengthPrimitives (longEntry n) {}) := by
  obtain ⟨hrotates, hwrite⟩ := loaded_write size live older log h n hn
  rw [Log.room, if_neg (by rw [hrotates]; omega), h.size, h.older] at hwrite
  exact hwrite

/-- The line does not fit, and the live file becomes the older one. -/
theorem loaded_rotates (size : Nat) (live older : Option Nat) (log : Log)
    (h : Loaded size live older log) (n : Nat) (hn : n + 87 < 65536) (hpos : 0 < size)
    (hover : 2 ^ 20 < size + (n + 88)) :
    Loaded (n + 88) (some (n + 87)) live (log.write lengthPrimitives (longEntry n) {}) := by
  obtain ⟨hrotates, hwrite⟩ := loaded_write size live older log h n hn
  have hzero : Slots.shifted 1 log.chunks 0 = none := rfl
  have hone : Slots.shifted 1 log.chunks 1 = log.chunks 0 := rfl
  rw [Log.room, if_pos (hrotates.mpr ⟨hpos, hover⟩), h.filling.maxRotatedFiles, hzero, hone,
    h.live] at hwrite
  rw [← Nat.zero_add (n + 88)]
  exact hwrite

/-- Lines of 64 KiB, as long as they fit. -/
theorem loaded_fill (k size : Nat) (older : Option Nat) (log : Log)
    (h : Loaded size (some 65535) older log) (hfits : size + k * 65536 ≤ 2 ^ 20) :
    Loaded (size + k * 65536) (some 65535) older
      (Runs.run (Log.step lengthPrimitives) log
        (List.replicate k (.write (longEntry 65448) {}))) := by
  -- Each entry takes 65536 bytes of the live file.
  induction k generalizing size log with
  | zero =>
      rw [Nat.zero_mul]
      exact h
  | succ k ih =>
      have hwrite := loaded_fits size _ older log h 65448 (by omega) (by omega)
      have hrest := ih (size + 65536) _ hwrite (by omega)
      rw [List.replicate_succ, Runs.run_cons, Log.step,
        show size + (k + 1) * 65536 = size + 65536 + k * 65536 by omega]
      exact hrest

/-- Two files are filled, the last line of the second being one byte shorter. Then
    the number of rotated files is lowered to none, and one more line is written. -/
def leftoverRun : List LogEvent :=
  List.replicate 31 (.write (longEntry 65448) {}) ++
    [.write (longEntry 65447) {}, .reload (2 ^ 20) 0, .write (longEntry 65448) {}]

/-- The state before the last event of the run. -/
def leftover : Log :=
  Runs.run (Log.step lengthPrimitives) (Log.new (2 ^ 20) 1)
    (List.replicate 31 (.write (longEntry 65448) {}) ++ [.write (longEntry 65447) {}])

theorem loaded_leftover : Loaded (2 ^ 20 - 1) (some 65534) (some 65535) leftover := by
  -- A first line and fifteen more fill a file, and the next line rotates.
  have hfirst := loaded_fits 0 none none _ loaded_new 65448 (by omega) (by omega)
  have hfull := loaded_fill 15 _ none _ hfirst (by omega)
  have hnext := loaded_rotates _ _ none _ hfull 65448 (by omega) (by omega) (by omega)
  have halmost := loaded_fill 14 _ _ _ hnext (by omega)
  have hlast := loaded_fits _ _ _ _ halmost 65447 (by omega) (by omega)
  have hsplit : ∀ event : LogEvent,
      List.replicate 31 event =
        event :: (List.replicate 15 event ++ event :: List.replicate 14 event) :=
    fun event => rfl
  rw [leftover, hsplit, List.cons_append, List.append_assoc, List.cons_append, Runs.run_cons,
    Runs.run_append, Runs.run_cons, Runs.run_append, Runs.run_cons, Runs.run_nil]
  exact hlast

/-- A file that is reported intact goes on from the end of the one before. -/
theorem link_of_intact (p : Primitives) (hne : ∀ x, p.sha256 x ≠ []) (disk : Nat → Option Bytes)
    (older : List Bytes) (file : Bytes) (last line prev : Bytes) (h : Intact p disk)
    (hfiles : logFiles disk = older ++ [file, line ++ [10]])
    (hlast : lastLineHash p (some file) = lineHash p last) (hline : WellFormed p line)
    (hprev : carried p line = some prev) : prev = lineHash p last := by
  have hend : endHash p [] (older ++ [file]) = lastLineHash p (some file) := by
    rw [endHash, List.getLast?_concat]
  unfold Intact verifyLog at h
  rw [hfiles, ← List.singleton_append, ← List.append_assoc, verifyFiles_concat,
    List.forall_mem_append, List.forall_mem_singleton, hend] at h
  have hlines : logLines (line ++ [10]) = [line] := by
    rw [← unlines_singleton]
    exact logLines_unlines [line] (List.forall_mem_singleton.mpr hline.readable)
  -- The last file was verified against the hash that ended the one before.
  have haccepts := (verifyChain_ok_iff p _ _).mp h.2
  rw [hlines, Accepts, linkOf_of_carried p line prev hprev, hlast] at haccepts
  rcases haccepts.1 with hnone | hsame
  · exact absurd hnone (lineHash_ne_nil p hne last)
  · exact hsame

theorem exists_of_lastLength (file : Option (List Bytes)) (n : Nat)
    (h : lastLength file = some n) :
    ∃ chunk line, file = some chunk ∧ chunk.getLast? = some line ∧ line.length = n := by
  cases file with
  | none => cases h
  | some chunk =>
      obtain ⟨line, hline, hlength⟩ := Option.map_eq_some_iff.mp h
      exact ⟨chunk, line, rfl, hline, hlength⟩

/-- With no rotated files allowed, the live file is deleted and the other one is
    left. The new line carries the hash of the deleted one. -/
theorem not_intact_of_loaded (log : Log)
    (h : Loaded (2 ^ 20 - 1) (some 65534) (some 65535) log) (n : Nat) (hn : n + 87 < 65536) :
    ¬ Intact lengthPrimitives
      ((log.reload (2 ^ 20) 0).write lengthPrimitives (longEntry n) {}).store.disk := by
  have hchains := chains_reload lengthPrimitives sha256_sample log h.chains (2 ^ 20) 0
  have hlength := length_chained (log.reload (2 ^ 20) 0) hchains.hash n
  obtain ⟨live, last, hlive, hlast, hlastLength⟩ := exists_of_lastLength _ _ h.live
  obtain ⟨older, old, holder, hold, holdLength⟩ := exists_of_lastLength _ _ h.older
  have hnext : (log.reload (2 ^ 20) 0).store.nextHash lengthPrimitives =
      lineHash lengthPrimitives last := by
    refine hchains.next last ?_
    rw [getLast?_visible (log.reload (2 ^ 20) 0) live hlive (by rintro rfl; cases hlast)]
    exact hlast
  -- The rotation deletes the live file, and nothing else moves.
  have hrotates : (log.reload (2 ^ 20) 0).store.Rotates lengthPrimitives (longEntry n) := by
    have hsize : (log.reload (2 ^ 20) 0).store.size = 2 ^ 20 - 1 := by
      rw [← h.size, ← h.chains.reflects.content]
      rfl
    have hlimit : (log.reload (2 ^ 20) 0).store.logger.maxFileBytes = 2 ^ 20 := rfl
    rw [Store.Rotates, hsize, hlength, hlimit]
    omega
  obtain ⟨_, hfiled⟩ := write_filed lengthPrimitives _ hchains.sized (longEntry n) (by omega)
  have hwhole : Whole (Calls.write {})
      ((log.reload (2 ^ 20) 0).store.chained lengthPrimitives (longEntry n) ++ [10]) := by
    refine whole_completes _ ?_
    rw [List.length_append, hlength, List.length_singleton]
    omega
  have hreflects := reflects_write lengthPrimitives _ hchains.reflects hchains.sized
    (longEntry n) {} rfl rfl hwhole
  have hgood := (entry_longEntry n).wellFormed lengthPrimitives _ _ hchains.hash
    (Nat.lt_of_le_of_lt (Nat.le_of_eq hlength) hn)
  have hprev := (entry_longEntry n).reads _ hchains.hash
  have hchunks := hfiled.chunks
  rw [Log.room, if_pos hrotates] at hchunks
  intro hintact
  obtain ⟨front, hfront⟩ := Slots.exists_older_eq log.chunks 98
  have hfiles : logFiles
      ((log.reload (2 ^ 20) 0).write lengthPrimitives (longEntry n) {}).store.disk =
      front.map (unlines 10) ++ [unlines 10 older,
        (log.reload (2 ^ 20) 0).store.chained lengthPrimitives (longEntry n) ++ [10]] := by
    have hkept : Slots.older (Slots.shifted 0 log.chunks) 99 = Slots.older log.chunks 99 := by
      refine Slots.older_congr _ _ 99 fun k hk _ => ?_
      rw [Slots.shifted, if_neg (by omega), if_neg (by omega)]
    rw [logFiles, Slots.stack_map (unlines 10) _ _ hreflects, hchunks, Slots.stack_update]
    change (Slots.older (Slots.shifted 0 log.chunks) 99 ++ _).map _ = _
    rw [hkept, hfront, holder, List.map_append, List.map_append, List.append_assoc,
      ← unlines_singleton 10 ((log.reload (2 ^ 20) 0).store.chained lengthPrimitives (longEntry n))]
    rfl
  have hend : lastLineHash lengthPrimitives (some (unlines 10 older)) =
      lineHash lengthPrimitives old := by
    rw [lastLineHash_unlines lengthPrimitives older (h.chains.wellFormed 1 older holder), hold]
    rfl
  have hlink := link_of_intact lengthPrimitives sha256_sample _ _ _ old _ _ hintact hfiles hend
    hgood hprev
  rw [hnext] at hlink
  -- The two hashes tell the lengths of two different lines.
  have hsha256 : ∀ data, lengthPrimitives.sha256 data =
      List.replicate 31 0 ++ [UInt8.ofNat data.length] := fun data => rfl
  have hdigest := congrArg fromHex hlink
  rw [lineHash, lineHash, fromHex_toHex, fromHex_toHex, hsha256, hsha256, hlastLength,
    holdLength] at hdigest
  exact absurd hdigest (by decide +kernel)

/-- Each event of the run is a line that is short enough, or a change of the
    settings. -/
theorem entries_leftoverRun :
    Runs.Along (Log.step lengthPrimitives) (Entries lengthPrimitives) (Log.new (2 ^ 20) 1)
      leftoverRun := by
  -- Lines of three lengths, and one change of the settings.
  have hevents : ∀ event ∈ leftoverRun,
      (∃ n, event = .write (longEntry n) {} ∧ n + 87 < 65536) ∨ event = .reload (2 ^ 20) 0 := by
    intro event hevent
    rw [leftoverRun, List.mem_append, List.mem_replicate] at hevent
    rcases hevent with ⟨_, rfl⟩ | hevent
    · exact Or.inl ⟨65448, rfl, by omega⟩
    rcases List.mem_cons.mp hevent with rfl | hevent
    · exact Or.inl ⟨65447, rfl, by omega⟩
    rcases List.mem_cons.mp hevent with rfl | hevent
    · exact Or.inr rfl
    · rw [List.mem_singleton.mp hevent]
      exact Or.inl ⟨65448, rfl, by omega⟩
  have hlong := Runs.along_of_forall_mem (Log.step lengthPrimitives) _ (Log.new (2 ^ 20) 1) _
    hevents
  -- How long a stored line is depends on the hash in it, which is one at every step.
  refine Runs.along_of_along (Log.step lengthPrimitives) _ _
    (fun log => log.store.Sized ∧ IsHash lengthPrimitives (log.store.nextHash lengthPrimitives))
    ?_ ?_ leftoverRun _ hlong
    ⟨(filling_new (2 ^ 20) 1).sized, (chains_new lengthPrimitives (2 ^ 20) 1).hash⟩
  · rintro log event (⟨n, rfl, hn⟩ | rfl) ⟨hsized, hhash⟩
    · have hlength := length_chained log hhash n
      obtain ⟨_, hfiled⟩ := write_filed lengthPrimitives log hsized (longEntry n) (by omega)
      refine ⟨sized_writes lengthPrimitives log.store (longEntry n) {} _ hsized
        (writeLine_writes lengthPrimitives {} rfl rfl log.store hsized (longEntry n)), Or.inr ?_⟩
      rw [Log.step, Store.nextHash, hfiled.isOpen, if_pos rfl, hfiled.lastHash]
      exact ⟨_, rfl⟩
    · exact ⟨fun hopen => absurd hopen Bool.false_ne_true,
        isHash_reload lengthPrimitives log (2 ^ 20) 0⟩
  · rintro log event (⟨n, rfl, hn⟩ | rfl) ⟨_, hhash⟩
    · exact ⟨rfl, entry_longEntry n, by rw [length_chained log hhash n]; exact hn⟩
    · trivial

/-- The log is reported to be broken at the end of the run. -/
theorem not_intact_leftoverRun :
    Runs.Along (Log.step lengthPrimitives) (Entries lengthPrimitives) (Log.new (2 ^ 20) 1)
        leftoverRun ∧
      ¬ Runs.Throughout (Log.step lengthPrimitives)
        (fun log => Intact lengthPrimitives log.store.disk) (Log.new (2 ^ 20) 1) leftoverRun := by
  refine ⟨entries_leftoverRun, fun h => ?_⟩
  have hfinal := Runs.throughout_final _ _ _ _ h
  have hsplit : leftoverRun =
      (List.replicate 31 (.write (longEntry 65448) {}) ++ [.write (longEntry 65447) {}]) ++
        [.reload (2 ^ 20) 0, .write (longEntry 65448) {}] := rfl
  rw [hsplit, Runs.run_append, ← leftover, Runs.run_cons, Runs.run_cons, Runs.run_nil, Log.step,
    Log.step] at hfinal
  exact not_intact_of_loaded leftover loaded_leftover 65448 (by omega) hfinal

end Leftover

end Logging

end ThreadHaul
