import Mathlib.Data.Set.Basic
import ThreadHaul.Logging.Logger

/-!
# Rotations That Cannot Move the Live File

The live file cannot be renamed while another program holds it open and does not
share the right to delete it. A rotation finds that out last. By then the oldest
file is deleted and the others are renamed, and the live file is as full as it
was, so the next line does it all again.

After `count` such lines the files `1` to `count` are gone from their places, and
the lines of the last `count` files are lost: `mem_rotatedLines_run`. So nothing is
lost exactly if those files have no lines of their own, `rotatedLines_eq_iff`.

## Main definitions

* `heldOpen`: The answers of the system while the live file is held open.
* `rotatedLines`: The lines in the rotated files.
* `Expendable`: The last files have no lines of their own.

## Theorems

* `writeLine_heldOpen`: One line.
* `disk_run`: The files after a number of lines.
* `rotatedLines_eq_iff`: When no line is lost.
-/

namespace ThreadHaul

namespace Logging

open Channel Runs

/-- The live file cannot be renamed, and no other call fails. -/
def heldOpen : Calls := { moves := fun i => i != 0 }

/-- The lines in the rotated files. -/
def rotatedLines (disk : Disk) : Set Bytes :=
  {line | ∃ k, 0 < k ∧ line ∈ logLines ((disk k).getD [])}

/-- Every line of the last `count` files is in one of the others, too. -/
def Expendable (n count : Nat) (disk : Disk) : Prop :=
  ∀ k, 0 < k → k ≤ n → n < k + count → ∀ line ∈ logLines ((disk k).getD []),
    ∃ j, 0 < j ∧ (j + count ≤ n ∨ n < j) ∧ line ∈ logLines ((disk j).getD [])

section Writes

variable (p : Primitives)

/-- One line while the live file is held open. -/
def heldStep (s : Store) (line : Bytes) : Store := (writeLine p heldOpen s line).store

/-- The line makes the logger rotate. -/
def AttemptsRotation (s : Store) (line : Bytes) : Prop :=
  (writeLine p heldOpen s line).rotated = true

variable {p}

/-- Opening the live file and writing to it leave the others. -/
theorem ensureOpen_others (opens : Bool) (s : Store) :
    (∀ k, 0 < k → (ensureOpen p opens s).1.disk k = s.disk k) ∧
      (ensureOpen p opens s).1.logger.maxRotatedFiles = s.logger.maxRotatedFiles := by
  unfold ensureOpen
  dsimp only
  split_ifs
  · exact ⟨fun _ _ => rfl, rfl⟩
  · exact ⟨fun k hk => Function.update_of_ne (Nat.pos_iff_ne_zero.mp hk) _ _, rfl⟩
  · exact ⟨fun _ _ => rfl, rfl⟩

theorem append_others (w : WriteFile) (s : Store) (chained : Bytes) :
    (∀ k, 0 < k → (append p w s chained).1.disk k = s.disk k) ∧
      (append p w s chained).1.logger.maxRotatedFiles = s.logger.maxRotatedFiles := by
  unfold append
  dsimp only
  split_ifs
  · exact ⟨fun k hk => Function.update_of_ne (Nat.pos_iff_ne_zero.mp hk) _ _, rfl⟩
  · exact ⟨fun k hk => Function.update_of_ne (Nat.pos_iff_ne_zero.mp hk) _ _, rfl⟩

/-- A line that makes the logger rotate moves the rotated files, though the live
    one stays. -/
theorem writeLine_heldOpen (s : Store) (line : Bytes) (h : AttemptsRotation p s line) :
    (∀ k, 0 < k →
      (heldStep p s line).disk k = Slots.vacated s.logger.maxRotatedFiles 1 s.disk k) ∧
      (heldStep p s line).logger.maxRotatedFiles = s.logger.maxRotatedFiles := by
  let opened := ensureOpen p true s
  let reopened := ensureOpen p true (rotate heldOpen opened.1)
  have hopened := ensureOpen_others (p := p) true s
  have hreopened := ensureOpen_others (p := p) true (rotate heldOpen opened.1)
  -- The rotation is the only step that touches the rotated files.
  have hrotate : ∀ k, 0 < k →
      reopened.1.disk k = Slots.vacated s.logger.maxRotatedFiles 1 s.disk k := by
    intro k hk
    rw [hreopened.1 k hk]
    refine (Slots.rotate_vacated heldOpen.moves rfl ?_ _ _ k hk).trans ?_
    · exact fun i hi => bne_iff_ne.mpr (Nat.pos_iff_ne_zero.mp hi)
    · rw [hopened.2]
      exact Slots.vacated_congr _ _ _ _ hopened.1 k hk
  have hkept : reopened.1.logger.maxRotatedFiles = s.logger.maxRotatedFiles :=
    hreopened.2.trans hopened.2
  have hwrite : writeLine p heldOpen s line =
      if !opened.2 then ⟨opened.1, false, false⟩
      else
        if needsRotation opened.1.logger (chainLine line opened.1.logger.lastHash ++ [10]).length
        then
          if !reopened.2 then ⟨reopened.1, true, false⟩
          else
            ⟨(append p .completes reopened.1 (chainLine line opened.1.logger.lastHash)).1, true,
              (append p .completes reopened.1 (chainLine line opened.1.logger.lastHash)).2⟩
        else
          ⟨(append p .completes opened.1 (chainLine line opened.1.logger.lastHash)).1, false,
            (append p .completes opened.1 (chainLine line opened.1.logger.lastHash)).2⟩ := rfl
  -- The line rotates, so only two of the ends of `WriteLine` are left.
  unfold AttemptsRotation at h
  unfold heldStep
  rw [hwrite] at h ⊢
  split_ifs at h ⊢ with hclosed hneeds hlost
  · exact ⟨hrotate, hkept⟩
  · have happend := append_others (p := p) .completes reopened.1
      (chainLine line opened.1.logger.lastHash)
    exact ⟨fun k hk => (happend.1 k hk).trans (hrotate k hk), happend.2.trans hkept⟩

/-- The files after a number of lines that make the logger rotate. -/
theorem disk_run (s : Store) (lines : List Bytes)
    (h : Along (heldStep p) (AttemptsRotation p) s lines) (k : Nat) (hk : 0 < k) :
    (run (heldStep p) s lines).disk k
      = Slots.vacated s.logger.maxRotatedFiles lines.length s.disk k := by
  induction lines generalizing s with
  | nil =>
      unfold Slots.vacated
      simp [Nat.pos_iff_ne_zero.mp hk]
  | cons line lines ih =>
      have hone := writeLine_heldOpen s line h.1
      rw [run_cons, ih (heldStep p s line) h.2, hone.2, List.length_cons]
      exact Slots.vacated_vacated _ _ _ _ hone.1 k hk

/-- The lines that are left are those of the files that are not among the last. -/
theorem mem_rotatedLines_run (s : Store) (lines : List Bytes)
    (h : Along (heldStep p) (AttemptsRotation p) s lines) (line : Bytes) :
    line ∈ rotatedLines (run (heldStep p) s lines).disk ↔
      ∃ j, 0 < j ∧ (j + lines.length ≤ s.logger.maxRotatedFiles ∨ s.logger.maxRotatedFiles < j) ∧
        line ∈ logLines ((s.disk j).getD []) := by
  constructor
  · rintro ⟨k, hk, hline⟩
    rw [disk_run s lines h k hk, Slots.vacated] at hline
    split_ifs at hline with habove hempty
    · exact ⟨k, hk, Or.inr habove, hline⟩
    · -- An empty place has no lines.
      rw [Option.getD_none, logLines_nil] at hline
      exact absurd hline List.not_mem_nil
    · exact ⟨k - lines.length, by omega, Or.inl (by omega), hline⟩
  · rintro ⟨j, hj, hplace, hline⟩
    -- A file at or below the limit has moved on by one place for each write; one above it stays.
    rcases hplace with hbelow | habove
    · refine ⟨j + lines.length, by omega, ?_⟩
      rw [disk_run s lines h _ (by omega), Slots.vacated, if_neg (by omega), if_neg (by omega),
        Nat.add_sub_cancel]
      exact hline
    · refine ⟨j, hj, ?_⟩
      rw [disk_run s lines h j hj, Slots.vacated, if_pos habove]
      exact hline

/-- The rotated files keep their lines exactly if the last of them, as many as
    there are lines that make the logger rotate, have no lines of their own. -/
theorem rotatedLines_eq_iff (s : Store) (lines : List Bytes)
    (h : Along (heldStep p) (AttemptsRotation p) s lines) :
    rotatedLines (run (heldStep p) s lines).disk = rotatedLines s.disk ↔
      Expendable s.logger.maxRotatedFiles lines.length s.disk := by
  constructor
  · intro heq k hk hkn hlast line hline
    have hkept : line ∈ rotatedLines (run (heldStep p) s lines).disk := by
      rw [heq]
      exact ⟨k, hk, hline⟩
    exact (mem_rotatedLines_run s lines h line).mp hkept
  · intro hexpendable
    ext line
    rw [mem_rotatedLines_run s lines h line]
    constructor
    · rintro ⟨j, hj, _, hline⟩
      exact ⟨j, hj, hline⟩
    · rintro ⟨k, hk, hline⟩
      -- The lines of a file that leaves are in another one by assumption.
      by_cases hplace : k + lines.length ≤ s.logger.maxRotatedFiles ∨ s.logger.maxRotatedFiles < k
      · exact ⟨k, hk, hplace, hline⟩
      · exact hexpendable k hk (by omega) (by omega) line hline

end Writes

section Lost

/-- A file with one line is rotated, and the live one is full. -/
def fullStore : Store where
  disk k :=
    if k = 0 then some (longEntry 1048567 ++ [10])
    else if k = 1 then some (chainLine (ascii "\x7b\x7d") kGenesisHash ++ [10])
    else none
  logger := { maxFileBytes := 1048576, maxRotatedFiles := 1, isOpen := true,
              currentSize := 1048576, lastHash := kGenesisHash }

theorem attempts_fullStore :
    Along (heldStep lengthPrimitives) (AttemptsRotation lengthPrimitives) fullStore
      [ascii "\x7b\x7d"] := by
  refine ⟨?_, trivial⟩
  unfold AttemptsRotation
  decide +kernel

/-- One more line, and the rotated one is lost. -/
theorem rotatedLines_lost :
    Along (heldStep lengthPrimitives) (AttemptsRotation lengthPrimitives) fullStore
        [ascii "\x7b\x7d"] ∧
      rotatedLines (run (heldStep lengthPrimitives) fullStore [ascii "\x7b\x7d"]).disk
        ≠ rotatedLines fullStore.disk := by
  refine ⟨attempts_fullStore, fun heq => ?_⟩
  have hbefore : chainLine (ascii "\x7b\x7d") kGenesisHash ∈ rotatedLines fullStore.disk :=
    ⟨1, by decide, by decide +kernel⟩
  rw [← heq, mem_rotatedLines_run _ _ attempts_fullStore] at hbefore
  obtain ⟨j, hj, hplace, hline⟩ := hbefore
  -- No place that is left holds the line.
  rcases hplace with hbelow | habove
  · exact absurd hbelow (by simp [fullStore]; omega)
  · have hnone : fullStore.disk j = none := by
      have htwo : 1 < j := habove
      simp [fullStore, Nat.ne_of_gt htwo, Nat.ne_of_gt hj]
    rw [hnone] at hline
    exact absurd hline (by decide)

/-- The same line with room for another rotated file. -/
def roomyStore : Store :=
  { fullStore with logger := { fullStore.logger with maxRotatedFiles := 2 } }

theorem rotatedLines_roomyStore :
    rotatedLines (run (heldStep lengthPrimitives) roomyStore [ascii "\x7b\x7d"]).disk
      = rotatedLines roomyStore.disk := by
  have hattempts : AttemptsRotation lengthPrimitives roomyStore (ascii "\x7b\x7d") := by
    unfold AttemptsRotation
    decide +kernel
  refine (rotatedLines_eq_iff (p := lengthPrimitives) roomyStore [ascii "\x7b\x7d"]
    ⟨hattempts, trivial⟩).mpr ?_
  -- Only file 2 is deleted, and there is none.
  intro k hk hkn hlast line hline
  have htwo : k = 2 := le_antisymm hkn (by simp [roomyStore] at hlast; omega)
  rw [htwo] at hline
  exact absurd hline (by simp [roomyStore, fullStore])

end Lost

end Logging

end ThreadHaul
