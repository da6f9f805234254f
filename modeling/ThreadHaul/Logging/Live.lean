import ThreadHaul.Logging.Logger

/-!
# The Live File as Others See It

What a `WriteLine` does to the live file, one call of the system after the other.

The logger holds its own lock while it writes, but nobody else does. A program that
reads the live file may do so between any two calls of the logger: while the file
is full, after it was renamed, when it exists again and is empty.

`liveEvents` are these calls, and `live_writeLine` says that they lead to the file
that `writeLine` leaves.

## Main definitions

* `LiveEvent`, `liveStep`: What can happen to the live file.
* `liveEvents`: What a `WriteLine` does to it.

## Theorems

* `live_writeLine`: The file after a `WriteLine`.
-/

namespace ThreadHaul

namespace Logging

open Channel TextLines

/-- A call of the logger that changes the live file. -/
inductive LiveEvent
  /-- The file is created, if it does not exist. -/
  | opened
  | appended (data : Bytes)
  /-- The file is renamed or deleted. -/
  | removed
  deriving DecidableEq

/-- The live file is opened, grows or goes. -/
def liveStep (live : Option Bytes) : LiveEvent → Option Bytes
  | .opened => some (live.getD [])
  | .appended data => some (live.getD [] ++ data)
  | .removed => none

variable (p : Primitives)

/-- The calls of an `EnsureOpen`. -/
def openEvents (opens : Bool) (logger : Logger) : List LiveEvent :=
  if !logger.isOpen && opens then [.opened] else []

/-- A rotation that leaves no live file has removed it. -/
def removedEvents (live : Option Bytes) : List LiveEvent :=
  if live.isNone then [.removed] else []

/-- The calls of a `WriteLine`, in their order. -/
def liveEvents (calls : Calls) (s : Store) (line : Bytes) : List LiveEvent :=
  let opened := ensureOpen p calls.opens s
  openEvents calls.opens s.logger ++
    if !opened.2 then []
    else
      let chained := chainLine line opened.1.logger.lastHash
      let data := (stored calls.write (chained ++ [10])).1
      if needsRotation opened.1.logger (chained ++ [10]).length then
        let rotated := rotate calls opened.1
        let reopened := ensureOpen p calls.reopens rotated
        removedEvents (rotated.disk 0) ++ openEvents calls.reopens rotated.logger ++
          if !reopened.2 then [] else [.appended data]
      else [.appended data]

theorem live_ensureOpen (opens : Bool) (s : Store) :
    (ensureOpen p opens s).1.disk 0 = (openEvents opens s.logger).foldl liveStep (s.disk 0) := by
  unfold ensureOpen openEvents
  cases s.logger.isOpen with
  | true => rfl
  | false =>
      cases opens with
      | true => rfl
      | false => rfl

theorem live_append (w : WriteFile) (s : Store) (chained : Bytes) :
    (append p w s chained).1.disk 0
      = liveStep (s.disk 0) (.appended (stored w (chained ++ [10])).1) := by
  unfold append
  dsimp only
  split_ifs
  · rfl
  · rfl

theorem live_rotate (calls : Calls) (s : Store) :
    (rotate calls s).disk 0
      = (removedEvents ((rotate calls s).disk 0)).foldl liveStep (s.disk 0) := by
  rcases Slots.rotate_zero calls.deletes calls.moves s.logger.maxRotatedFiles s.disk with
    hnone | hsame
  · change (rotate calls s).disk 0 = none at hnone
    rw [hnone]
    rfl
  · change (rotate calls s).disk 0 = s.disk 0 at hsame
    rw [hsame]
    cases s.disk 0 with
    | none => rfl
    | some content => rfl

variable {p}

/-- The calls of a `WriteLine` lead to the file that it leaves. -/
theorem live_writeLine (calls : Calls) (s : Store) (line : Bytes) :
    (writeLine p calls s line).store.disk 0
      = (liveEvents p calls s line).foldl liveStep (s.disk 0) := by
  unfold writeLine liveEvents
  dsimp only
  rw [List.foldl_append, ← live_ensureOpen p]
  -- A write opens the file, rotates when it is full and opens the next, and appends.
  by_cases hopened : (ensureOpen p calls.opens s).2 = true
  · rw [hopened]
    simp only [Bool.not_true, Bool.false_eq_true, if_false]
    split_ifs with hfull hreopened
    · rw [List.foldl_append, List.foldl_append, ← live_rotate, ← live_ensureOpen p]
      rfl
    · rw [List.foldl_append, List.foldl_append, ← live_rotate, ← live_ensureOpen p]
      exact live_append p _ _ _
    · exact live_append p _ _ _
  · rw [Bool.eq_false_iff.mpr hopened]
    rfl

end Logging

end ThreadHaul
