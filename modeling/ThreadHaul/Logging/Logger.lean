import ThreadHaul.Lib.Runs
import ThreadHaul.Logging.Chain

/-!
# The Logger

`JsonLinesLogger`: how a line gets into a file, and what is done when the file is
full.

What the system answers to the calls of a `WriteLine` is part of its input. A
rotation is `Slots.rotate` on the files, and any call of it may be refused. The
configuration allows no negative number of rotated files. A file is shorter than
`2 ^ 63` bytes, so the size of a file and of a line do not overflow in 64 bits;
the size passed to `WriteFile` is cast to 32 bits.

A `Log` is a logger with its files in the course of writes, restarts and changes
of the settings. Beside the files it keeps what was written, line by line: what
of it is in which file, `chunks`, and all of it, `written`. The source has no such
record.

## Main definitions

* `Logger`, `Store`: The state of a logger, and the files it writes.
* `Calls`: The answers of the system.
* `ensureOpen`, `rotate`, `append`, `writeLine`: `EnsureOpen`, `Rotate`, the end
  of `WriteLine`, and `WriteLine`.
* `Log`, `Log.step`: The logger in the course of events.
* `Writes`: What a write can do to a store.
* `Filed`: What a write that does not fail comes to.

## Theorems

* `writeLine_writes`: A write does one of the things in `Writes`.
* `sized_writes`, `exact_writes`: What the logger knows of the size of the file.
* `reflects_write`: The files hold the lines that were written.
* `write_filed`: What a write that does not fail comes to.
-/

namespace ThreadHaul

namespace Logging

open Channel TextLines

/-- A content for each number that a file of the log can have. -/
abbrev Disk := Nat → Option Bytes

/-- `JsonLinesLogger`. The path is that of file 0, and `isOpen` says that `file_`
    is a handle. -/
structure Logger where
  maxFileBytes : Nat
  maxRotatedFiles : Nat
  isOpen : Bool := false
  currentSize : Nat := 0
  lastHash : Bytes := []

/-- The files, and what the logger keeps in memory. -/
structure Store where
  disk : Disk
  logger : Logger

/-- What `WriteFile` does: it writes everything, or some bytes at the start, or it
    fails. -/
inductive WriteFile
  | completes
  | partly (n : Nat)
  | fails

/-- The answers of the system to the calls of a `WriteLine`: the first
    `CreateFile`, the `DeleteFile` and the renamings of a rotation, the
    `CreateFile` after it, and `WriteFile`. -/
structure Calls where
  opens : Bool := true
  deletes : Bool := true
  moves : Nat → Bool := fun _ => true
  reopens : Bool := true
  write : WriteFile := .completes

/-- What `WriteFile` stores of some data, and whether it reports to have stored
    all of it. It is asked for as many bytes as 32 bits of the size say. -/
def stored (w : WriteFile) (data : Bytes) : Bytes × Bool :=
  let requested := data.take (data.length % 2 ^ 32)
  match w with
  | .completes => (requested, requested.length == data.length)
  | .partly n => (requested.take n, (requested.take n).length == data.length)
  | .fails => ([], false)

/-- The content of the live file. -/
def Store.content (s : Store) : Bytes := (s.disk 0).getD []

section WriteLine

variable (p : Primitives)

/-- The hash remembered, or the one rebuilt from the live file. -/
def Store.headHash (s : Store) : Bytes :=
  if s.logger.lastHash = [] then
    if lastLineHash p (s.disk 0) = [] then kGenesisHash else lastLineHash p (s.disk 0)
  else s.logger.lastHash

/-- `EnsureOpen`. The file is created if it does not exist. -/
def ensureOpen (opens : Bool) (s : Store) : Store × Bool :=
  if s.logger.isOpen then (s, true)
  else
    let logger := { s.logger with lastHash := s.headHash p }
    if opens then
      ({ disk := Function.update s.disk 0 (some s.content)
         logger := { logger with isOpen := true, currentSize := s.content.length } }, true)
    else ({ s with logger := logger }, false)

/-- `Rotate`. -/
def rotate (calls : Calls) (s : Store) : Store where
  disk := Slots.rotate calls.deletes calls.moves s.logger.maxRotatedFiles s.disk
  logger := { s.logger with isOpen := false, currentSize := 0 }

/-- The end of `WriteLine`: the data are appended, and remembered if all of them
    were stored. -/
def append (w : WriteFile) (s : Store) (chained : Bytes) : Store × Bool :=
  let r := stored w (chained ++ [10])
  let disk := Function.update s.disk 0 (some (s.content ++ r.1))
  if r.2 then
    ({ disk := disk
       logger := { s.logger with
         currentSize := s.logger.currentSize + r.1.length
         lastHash := lineHash p chained } }, true)
  else ({ s with disk := disk }, false)

/-- The data do not fit into the file any more. -/
def needsRotation (logger : Logger) (size : Nat) : Bool :=
  decide (logger.currentSize > 0 ∧ logger.currentSize + size > logger.maxFileBytes)

/-- The store after a `WriteLine`, whether there was a rotation, and what is
    returned. -/
structure Written where
  store : Store
  rotated : Bool
  result : Bool

/-- `WriteLine`. -/
def writeLine (calls : Calls) (s : Store) (line : Bytes) : Written :=
  let opened := ensureOpen p calls.opens s
  if !opened.2 then ⟨opened.1, false, false⟩
  else
    let chained := chainLine line opened.1.logger.lastHash
    if needsRotation opened.1.logger (chained ++ [10]).length then
      let reopened := ensureOpen p calls.reopens (rotate calls opened.1)
      if !reopened.2 then ⟨reopened.1, true, false⟩
      else
        let r := append p calls.write reopened.1 chained
        ⟨r.1, true, r.2⟩
    else
      let r := append p calls.write opened.1 chained
      ⟨r.1, false, r.2⟩

/-- The hash that a call of `WriteLine` puts into its line. -/
def Store.nextHash (s : Store) : Bytes :=
  if s.logger.isOpen then s.logger.lastHash else s.headHash p

/-- The line as it is written. -/
def Store.chained (s : Store) (line : Bytes) : Bytes := chainLine line (s.nextHash p)

/-- A line is logged, the service is restarted, or a new configuration replaces
    the logger. -/
inductive LogEvent
  | write (line : Bytes) (calls : Calls)
  | restart
  | reload (maxFileBytes maxRotatedFiles : Nat)

/-- A store, the lines in its files, all lines whose write returned true, and the
    number of rotations. -/
structure Log where
  store : Store
  chunks : Nat → Option (List Bytes) := fun _ => none
  written : List Bytes := []
  rotations : Nat := 0

/-- There are no files yet. -/
def Log.new (maxFileBytes maxRotatedFiles : Nat) : Log where
  store := { disk := fun _ => none, logger := { maxFileBytes, maxRotatedFiles } }

/-- The lines in the files after a write. They move with the files, and a file is
    created when it is opened. -/
def Log.chunksAfter (log : Log) (calls : Calls) (chained : Bytes) (w : Written) :
    Nat → Option (List Bytes) :=
  let chunks :=
    if w.rotated then
      Slots.rotate calls.deletes calls.moves log.store.logger.maxRotatedFiles log.chunks
    else log.chunks
  if w.store.logger.isOpen then
    Function.update chunks 0
      (some ((chunks 0).getD [] ++ if w.result then [chained] else []))
  else chunks

/-- `WriteLine`, with its part in the record. -/
def Log.write (log : Log) (line : Bytes) (calls : Calls) : Log :=
  let w := writeLine p calls log.store line
  { store := w.store
    chunks := log.chunksAfter calls (log.store.chained p line) w
    written := log.written ++ if w.result then [log.store.chained p line] else []
    rotations := log.rotations + if w.rotated then 1 else 0 }

/-- A new logger for the same files. -/
def Log.reload (log : Log) (maxFileBytes maxRotatedFiles : Nat) : Log :=
  { log with
    store := { disk := log.store.disk, logger := { maxFileBytes, maxRotatedFiles } } }

/-- A line is written, the service starts anew, or its settings change. -/
def Log.step (log : Log) : LogEvent → Log
  | .write line calls => log.write p line calls
  | .restart =>
      log.reload log.store.logger.maxFileBytes log.store.logger.maxRotatedFiles
  | .reload maxFileBytes maxRotatedFiles => log.reload maxFileBytes maxRotatedFiles

/-! ### What a write does -/

/-- The size the logger takes the live file to have. -/
def Store.size (s : Store) : Nat :=
  if s.logger.isOpen then s.logger.currentSize else s.content.length

/-- An open file exists, and is not smaller than the logger takes it to be. It is
    larger if a write stored a part of its data. -/
def Store.Sized (s : Store) : Prop :=
  s.logger.isOpen = true → (s.disk 0).isSome = true ∧ s.logger.currentSize ≤ s.content.length

/-- The line does not fit into the live file. -/
def Store.Rotates (s : Store) (line : Bytes) : Prop :=
  0 < s.size ∧ s.logger.maxFileBytes < s.size + (s.chained p line).length + 1

/-- Whether a line makes the log rotate can be decided. -/
instance (s : Store) (line : Bytes) : Decidable (s.Rotates p line) :=
  inferInstanceAs (Decidable (_ ∧ _))

/-- The hash that is remembered after a rotation. There is no live file then to
    rebuild it from. -/
def Store.keptHash (s : Store) : Bytes :=
  if s.nextHash p = [] then kGenesisHash else s.nextHash p

/-- The logger after data were stored behind `size` bytes, or a part of them. -/
def Logger.append (logger : Logger) (size : Nat) (hash : Bytes) (chained : Bytes)
    (r : Bytes × Bool) : Logger :=
  { logger with
    isOpen := true
    currentSize := if r.2 then size + r.1.length else size
    lastHash := if r.2 then lineHash p chained else hash }

/-- What a write can do, if no file is refused to be deleted or renamed: the file
    cannot be opened, it cannot be opened again after a rotation, or some data are
    stored, after a rotation or without one. -/
inductive Writes (s : Store) (line : Bytes) (calls : Calls) : Written → Prop
  | closed (hclosed : s.logger.isOpen = false) (hopens : calls.opens = false) :
      Writes s line calls
        ⟨{ s with logger := { s.logger with lastHash := s.nextHash p } }, false, false⟩
  | lost (hrotates : s.Rotates p line) (hreopens : calls.reopens = false)
      (hopens : s.logger.isOpen = true ∨ calls.opens = true) :
      Writes s line calls
        ⟨{ disk := Slots.shifted s.logger.maxRotatedFiles s.disk
           logger := { s.logger with
             isOpen := false, currentSize := 0, lastHash := s.keptHash p } }, true, false⟩
  | rotated (hrotates : s.Rotates p line) (hreopens : calls.reopens = true)
      (hopens : s.logger.isOpen = true ∨ calls.opens = true) :
      Writes s line calls
        ⟨{ disk := Function.update (Slots.shifted s.logger.maxRotatedFiles s.disk) 0
             (some (stored calls.write (s.chained p line ++ [10])).1)
           logger := s.logger.append p 0 (s.keptHash p) (s.chained p line)
             (stored calls.write (s.chained p line ++ [10])) },
          true, (stored calls.write (s.chained p line ++ [10])).2⟩
  | appended (hfits : ¬ s.Rotates p line)
      (hopens : s.logger.isOpen = true ∨ calls.opens = true) :
      Writes s line calls
        ⟨{ disk := Function.update s.disk 0
             (some (s.content ++ (stored calls.write (s.chained p line ++ [10])).1))
           logger := s.logger.append p s.size (s.nextHash p) (s.chained p line)
             (stored calls.write (s.chained p line ++ [10])) },
          false, (stored calls.write (s.chained p line ++ [10])).2⟩

/-- A store whose live file is open. -/
def opened (disk : Disk) (logger : Logger) (content : Bytes) (size : Nat) (hash : Bytes) :
    Store where
  disk := Function.update disk 0 (some content)
  logger := { logger with isOpen := true, currentSize := size, lastHash := hash }

@[simp] theorem content_opened (disk : Disk) (logger : Logger) (content : Bytes) (size : Nat)
    (hash : Bytes) : (opened disk logger content size hash).content = content := by
  dsimp only [Store.content, opened]
  rw [Function.update_self, Option.getD_some]

/-- The first `EnsureOpen` of a write. -/
theorem ensureOpen_of_opened (opens : Bool) (s : Store) (hs : s.Sized)
    (h : s.logger.isOpen = true ∨ opens = true) :
    ensureOpen p opens s =
      (opened s.disk s.logger s.content s.size (s.nextHash p), true) := by
  unfold ensureOpen Store.nextHash Store.size
  -- An open file keeps its size and hash, and one that is opened has them computed.
  cases hopen : s.logger.isOpen with
  | true =>
      obtain ⟨hsome, _⟩ := hs hopen
      obtain ⟨content, hcontent⟩ := Option.isSome_iff_exists.mp hsome
      have hdisk : Function.update s.disk 0 (some s.content) = s.disk := by
        rw [Store.content, hcontent]
        exact (Function.update_eq_self_iff (f := s.disk)).mpr hcontent.symm
      rw [if_pos rfl, if_pos rfl, if_pos rfl, opened, hdisk, ← hopen]
  | false =>
      rw [hopen] at h
      rcases h with hfalse | hopens
      · exact absurd hfalse Bool.false_ne_true
      · rw [if_neg Bool.false_ne_true, if_neg Bool.false_ne_true, if_neg Bool.false_ne_true,
          if_pos hopens]
        rfl

theorem ensureOpen_of_closed (s : Store) (h : s.logger.isOpen = false) :
    ensureOpen p false s =
      ({ s with logger := { s.logger with lastHash := s.nextHash p } }, false) := by
  unfold ensureOpen Store.nextHash
  rw [h]
  rfl

/-- What is appended to a store whose live file is open. -/
theorem append_opened (w : WriteFile) (disk : Disk) (logger : Logger) (content : Bytes)
    (size : Nat) (hash chained : Bytes) :
    append p w (opened disk logger content size hash) chained =
      ({ disk := Function.update disk 0 (some (content ++ (stored w (chained ++ [10])).1))
         logger := logger.append p size hash chained (stored w (chained ++ [10])) },
        (stored w (chained ++ [10])).2) := by
  unfold append Logger.append
  rw [content_opened]
  dsimp only [opened]
  rw [Function.update_idem]
  cases (stored w (chained ++ [10])).2 with
  | true => rfl
  | false => rfl

/-- A file with a size has a content. -/
theorem content_ne_nil (s : Store) (hs : s.Sized) (h : 0 < s.size) : s.content ≠ [] := by
  rw [← List.length_pos_iff]
  unfold Store.size at h
  by_cases hopen : s.logger.isOpen = true
  · rw [if_pos hopen] at h
    exact Nat.lt_of_lt_of_le h (hs hopen).2
  · rw [if_neg hopen] at h
    exact h

/-- What a rotation leaves: the live file is gone. -/
theorem rotate_opened (calls : Calls) (hd : calls.deletes = true)
    (hm : calls.moves = fun _ => true) (s : Store) (hne : s.content ≠ []) (size : Nat)
    (hash : Bytes) :
    rotate calls (opened s.disk s.logger s.content size hash) =
      { disk := Slots.shifted s.logger.maxRotatedFiles s.disk
        logger := { s.logger with isOpen := false, currentSize := 0, lastHash := hash } } := by
  -- Opening creates no file here, for there was one.
  have hdisk : Function.update s.disk 0 (some s.content) = s.disk := by
    rw [Function.update_eq_self_iff]
    unfold Store.content at hne ⊢
    cases hlive : s.disk 0 with
    | none =>
        rw [hlive] at hne
        exact absurd rfl hne
    | some content => rfl
  rw [rotate, hd, hm, Slots.rotate_eq_shifted, opened, hdisk]

/-- The second `EnsureOpen` of a write finds no live file. -/
theorem ensureOpen_shifted (opens : Bool) (n : Nat) (disk : Disk) (logger : Logger)
    (hash : Bytes) :
    ensureOpen p opens
        { disk := Slots.shifted n disk
          logger := { logger with isOpen := false, currentSize := 0, lastHash := hash } } =
      if opens then
        (opened (Slots.shifted n disk) logger [] 0 (if hash = [] then kGenesisHash else hash),
          true)
      else
        ({ disk := Slots.shifted n disk
           logger := { logger with
             isOpen := false
             currentSize := 0
             lastHash := if hash = [] then kGenesisHash else hash } }, false) :=
  rfl

/-- A write does one of the things in `Writes`. -/
theorem writeLine_writes (calls : Calls) (hd : calls.deletes = true)
    (hm : calls.moves = fun _ => true) (s : Store) (hs : s.Sized) (line : Bytes) :
    Writes p s line calls (writeLine p calls s line) := by
  unfold writeLine
  by_cases hopens : s.logger.isOpen = true ∨ calls.opens = true
  · rw [ensureOpen_of_opened p calls.opens s hs hopens]
    have hneeds : needsRotation (opened s.disk s.logger s.content s.size (s.nextHash p)).logger
        (s.chained p line ++ [10]).length = decide (s.Rotates p line) := by
      rw [needsRotation, List.length_append, List.length_singleton, ← Nat.add_assoc]
      rfl
    change Writes p s line calls
      (if needsRotation _ (s.chained p line ++ [10]).length then _ else _)
    rw [hneeds]
    -- A rotation closes the file, and it is opened again.
    by_cases hrotates : s.Rotates p line
    · have hne := content_ne_nil s hs hrotates.1
      rw [decide_eq_true hrotates, if_pos rfl, rotate_opened calls hd hm s hne, ensureOpen_shifted]
      cases hreopens : calls.reopens with
      | false => exact .lost hrotates hreopens hopens
      | true =>
          rw [if_pos rfl, append_opened]
          exact .rotated hrotates hreopens hopens
    · rw [decide_eq_false hrotates, if_neg Bool.false_ne_true, append_opened]
      exact .appended hrotates hopens
  · obtain ⟨hclosed, hrefused⟩ := not_or.mp hopens
    rw [Bool.not_eq_true] at hclosed hrefused
    rw [hrefused, ensureOpen_of_closed p s hclosed]
    exact .closed hclosed hrefused

/-! ### What is stored -/

theorem stored_completes (data : Bytes) (h : data.length < 2 ^ 32) :
    stored .completes data = (data, true) := by
  rw [stored, Nat.mod_eq_of_lt h, List.take_length]
  exact congrArg (Prod.mk data) (beq_self_eq_true _)

/-- A write keeps what is known of the size of the live file. -/
theorem sized_writes (s : Store) (line : Bytes) (calls : Calls) (w : Written) (hs : s.Sized)
    (h : Writes p s line calls w) : w.store.Sized := by
  cases h with
  | closed hclosed hopens =>
      intro hopen
      change s.logger.isOpen = true at hopen
      rw [hclosed] at hopen
      exact absurd hopen Bool.false_ne_true
  | lost hrotates hreopens hopens =>
      intro hopen
      exact absurd hopen Bool.false_ne_true
  | rotated hrotates hreopens hopens =>
      intro _
      dsimp only [Store.content, Logger.append]
      rw [Function.update_self]
      refine ⟨rfl, ?_⟩
      split_ifs with hall
      · exact Nat.le_of_eq (Nat.zero_add _)
      · exact Nat.zero_le _
  | appended hfits hopens =>
      intro _
      dsimp only [Store.content, Logger.append]
      rw [Function.update_self, Option.getD_some, List.length_append]
      refine ⟨rfl, ?_⟩
      -- A part of a line that is stored does not count for the logger.
      have hsize : s.size ≤ s.content.length := by
        unfold Store.size
        split_ifs with hopen
        · exact (hs hopen).2
        · exact Nat.le_refl _
      change _ ≤ s.content.length + _
      split_ifs with hall
      · exact Nat.add_le_add_right hsize _
      · exact Nat.le_add_right_of_le hsize

/-- All of the data are stored, or nothing. -/
def Whole (w : WriteFile) (data : Bytes) : Prop :=
  (stored w data).1 = if (stored w data).2 then data else []

theorem whole_completes (data : Bytes) (h : data.length < 2 ^ 32) : Whole .completes data := by
  rw [Whole, stored_completes data h]
  rfl

/-- The logger knows the size of the live file. -/
def Store.Exact (s : Store) : Prop := s.size = s.content.length

/-- Without a part of a line in the file its size stays known. -/
theorem exact_writes (s : Store) (line : Bytes) (calls : Calls) (w : Written) (hs : s.Exact)
    (hwhole : Whole calls.write (s.chained p line ++ [10])) (h : Writes p s line calls w) :
    w.store.Exact := by
  -- What the logger adds to the size is what was stored.
  have hlength : ∀ size : Nat, (if (stored calls.write (s.chained p line ++ [10])).2 then
      size + (stored calls.write (s.chained p line ++ [10])).1.length else size) =
        size + (stored calls.write (s.chained p line ++ [10])).1.length := by
    intro size
    rw [hwhole]
    split_ifs
    · rfl
    · rfl
  cases h with
  | closed hclosed hopens =>
      unfold Store.Exact Store.size at hs ⊢
      rw [hclosed] at hs ⊢
      exact hs
  | lost hrotates hreopens hopens => rfl
  | rotated hrotates hreopens hopens =>
      dsimp only [Store.Exact, Store.size, Store.content, Logger.append]
      rw [Function.update_self, if_pos rfl]
      exact (hlength 0).trans (Nat.zero_add _)
  | appended hfits hopens =>
      unfold Store.Exact
      change (if (stored calls.write (s.chained p line ++ [10])).2 then
        s.size + (stored calls.write (s.chained p line ++ [10])).1.length else s.size) = _
      rw [hlength, hs]
      dsimp only [Store.content]
      rw [Function.update_self, Option.getD_some, List.length_append]

/-! ### What the files hold -/

/-- Each file holds its lines, each followed by a newline. -/
def Log.Reflects (log : Log) : Prop := ∀ k, log.store.disk k = (log.chunks k).map (unlines 10)

theorem Log.Reflects.content (log : Log) (h : log.Reflects) :
    log.store.content = unlines 10 ((log.chunks 0).getD []) := by
  rw [Store.content, h 0]
  cases log.chunks 0 with
  | none => rfl
  | some chunk => rfl

/-- The lines in the files after a write, if no file is refused to be deleted or
    renamed. -/
theorem chunksAfter_eq (log : Log) (calls : Calls) (hd : calls.deletes = true)
    (hm : calls.moves = fun _ => true) (chained : Bytes) (w : Written) :
    log.chunksAfter calls chained w =
      if w.store.logger.isOpen then
        Function.update
          (if w.rotated then Slots.shifted log.store.logger.maxRotatedFiles log.chunks
            else log.chunks) 0
          (some (((if w.rotated then Slots.shifted log.store.logger.maxRotatedFiles log.chunks
            else log.chunks) 0).getD [] ++ if w.result then [chained] else []))
      else if w.rotated then Slots.shifted log.store.logger.maxRotatedFiles log.chunks
      else log.chunks := by
  rw [Log.chunksAfter, hd, hm, Slots.rotate_eq_shifted]

/-- What is added to the live file are the lines that are added to its chunk. -/
theorem map_update (chunks : Nat → Option (List Bytes)) (disk : Disk)
    (h : ∀ k, disk k = (chunks k).map (unlines 10)) (chunk : List Bytes) (content : Bytes)
    (hcontent : content = unlines 10 chunk) (k : Nat) :
    Function.update disk 0 (some content) k =
      (Function.update chunks 0 (some chunk) k).map (unlines 10) := by
  rw [Function.update_apply, Function.update_apply]
  split_ifs
  · rw [hcontent]
    rfl
  · exact h k

theorem reflects_write (log : Log) (h : log.Reflects) (hsized : log.store.Sized) (line : Bytes)
    (calls : Calls) (hd : calls.deletes = true) (hm : calls.moves = fun _ => true)
    (hwhole : Whole calls.write (log.store.chained p line ++ [10])) :
    (log.write p line calls).Reflects := by
  have hw := writeLine_writes p calls hd hm log.store hsized line
  unfold Log.write Log.Reflects
  generalize writeLine p calls log.store line = w at hw ⊢
  dsimp only
  rw [chunksAfter_eq log calls hd hm]
  -- All of the line is stored and it counts, or nothing is and it does not.
  have hpart : (stored calls.write (log.store.chained p line ++ [10])).1 =
      unlines 10 (if (stored calls.write (log.store.chained p line ++ [10])).2 then
        [log.store.chained p line] else []) := by
    rw [hwhole]
    split_ifs
    · rw [unlines_singleton]
    · rfl
  cases hw with
  | closed hclosed hopens =>
      dsimp only
      rw [hclosed]
      exact h
  | lost hrotates hreopens hopens => exact fun k => Slots.shifted_map (unlines 10) _ _ h _ k
  | rotated hrotates hreopens hopens =>
      refine map_update _ _ (fun k => Slots.shifted_map (unlines 10) _ _ h _ k) _ _ ?_
      rw [hpart]
      rfl
  | appended hfits hopens =>
      refine map_update _ _ h _ _ ?_
      rw [hpart, h.content, ← unlines_append]
      rfl

/-! ### Writes that do not fail -/

/-- The lines in the files before the new one is added. A rotation has made room
    for it. -/
def Log.room (log : Log) (line : Bytes) : Nat → Option (List Bytes) :=
  if log.store.Rotates p line then Slots.shifted log.store.logger.maxRotatedFiles log.chunks
  else log.chunks

/-- What a write that does not fail comes to. -/
structure Filed (log : Log) (line : Bytes) (log' : Log) : Prop where
  chunks : log'.chunks = Function.update (log.room p line) 0
    (some ((log.room p line 0).getD [] ++ [log.store.chained p line]))
  written : log'.written = log.written ++ [log.store.chained p line]
  rotations : log'.rotations = log.rotations + if log.store.Rotates p line then 1 else 0
  maxFileBytes : log'.store.logger.maxFileBytes = log.store.logger.maxFileBytes
  maxRotatedFiles : log'.store.logger.maxRotatedFiles = log.store.logger.maxRotatedFiles
  isOpen : log'.store.logger.isOpen = true
  lastHash : log'.store.logger.lastHash = lineHash p (log.store.chained p line)

/-- A write of which no call fails returns true. The line with a newline has to be
    shorter than 4 GiB. -/
theorem write_filed (log : Log) (hsized : log.store.Sized) (line : Bytes)
    (hlength : (log.store.chained p line).length + 1 < 2 ^ 32) :
    (writeLine p {} log.store line).result = true ∧ Filed p log line (log.write p line {}) := by
  have hw := writeLine_writes p {} rfl rfl log.store hsized line
  have hstored : stored (Calls.write {}) (log.store.chained p line ++ [10]) =
      (log.store.chained p line ++ [10], true) := stored_completes _ (by rwa [List.length_append])
  unfold Log.write
  dsimp only
  rw [chunksAfter_eq log {} rfl rfl]
  generalize writeLine p {} log.store line = w at hw ⊢
  -- Every call succeeds, so the line is appended, after a rotation or without one.
  cases hw with
  | closed hclosed hopens => exact absurd hopens (Bool.false_ne_true ∘ Eq.symm)
  | lost hrotates hreopens hopens => exact absurd hreopens (Bool.false_ne_true ∘ Eq.symm)
  | rotated hrotates hreopens hopens =>
      have hroom : log.room p line =
          Slots.shifted log.store.logger.maxRotatedFiles log.chunks := if_pos hrotates
      rw [hstored]
      exact ⟨rfl, by rw [hroom]; rfl, rfl, by rw [if_pos hrotates]; rfl, rfl, rfl, rfl, rfl⟩
  | appended hfits hopens =>
      have hroom : log.room p line = log.chunks := if_neg hfits
      rw [hstored]
      exact ⟨rfl, by rw [hroom]; rfl, rfl, by rw [if_neg hfits]; rfl, rfl, rfl, rfl, rfl⟩

end WriteLine

/-- Primitives to run a log with: a digest that tells the length of the data, and a
    parser that takes a line in one pair of braces for an object which ends with a
    hash. -/
def lengthPrimitives : Primitives where
  sha256 data := List.replicate 31 0 ++ [UInt8.ofNat data.length]
  hmacSha256 _ data := data
  parse text :=
    if text.head? = some 123 ∧ text.count 123 = 1 ∧ text.getLast? = some 125 then
      .object [(ascii "prev_hash", .string ((text.drop (text.length - 66)).take 64))]
    else .discarded

/-- An entry of `n + 8` bytes. -/
def longEntry (n : Nat) : Bytes :=
  ascii "\x7b\"a\":\"" ++ (List.replicate n 120 ++ ascii "\"\x7d")

theorem length_longEntry (n : Nat) : (longEntry n).length = n + 8 := by
  have hends : (ascii "\x7b\"a\":\"").length = 6 ∧ (ascii "\"\x7d").length = 2 := by
    decide +kernel
  rw [longEntry, List.length_append, List.length_append, List.length_replicate, hends.1, hends.2]
  omega

theorem closes_longEntry (n : Nat) : (longEntry n).getLast? = some 125 := by
  rw [longEntry, ← List.append_assoc]
  exact List.getLast?_append_of_ne_nil _ (List.cons_ne_nil _ _)

end Logging

end ThreadHaul
