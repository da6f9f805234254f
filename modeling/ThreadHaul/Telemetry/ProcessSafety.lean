import ThreadHaul.Actuator.Manager
import ThreadHaul.Common.Bytes

/-!
# Process Safety

`ClassifyProcess`: how risky it is to slow down or suspend a process.

The levels are ordered, and the tests are made in turn. What a process is
essential for is decided before anything is asked about it: by its process id,
or by its name. Only then the operating system is asked where its image is and
which account it runs under, and `level_eq_essential_iff` says that the answers
never make a process essential, nor keep one from being so.

## Main definitions

* `ProcessSafety`, `SafetyInfo`: The levels, and what is said about a process.
* `SystemFacts`: What the operating system says about processes.
* `classifyProcess`: `ClassifyProcess`.

## Theorems

* `level_eq_essential_iff`: Which processes are essential.
-/

namespace ThreadHaul

namespace Telemetry

open Actuator

/-- `ProcessSafety`. -/
inductive ProcessSafety
  | normal
  | service
  | system
  | essential
  deriving DecidableEq, Repr

/-- The order of the levels, as `static_cast<int>` gives it. -/
def ProcessSafety.rank : ProcessSafety → Nat
  | .normal => 0
  | .service => 1
  | .system => 2
  | .essential => 3

/-- `SafetyName`. -/
def ProcessSafety.name : ProcessSafety → Bytes
  | .normal => ascii "normal"
  | .service => ascii "service"
  | .system => ascii "system"
  | .essential => ascii "essential"

/-- `SafetyInfo`. -/
structure SafetyInfo where
  level : ProcessSafety := .normal
  reason : WString := []
  imagePath : WString := []

/-- `ProcessEntry`. -/
structure ProcessEntry where
  name : WString
  pid : DWORD
  deriving DecidableEq

/-- What the operating system says about one process. -/
structure ProcessFacts where
  /-- `OpenProcess` succeeds. -/
  opened : Bool
  /-- The path of the image, empty if it cannot be read. -/
  imagePath : WString
  /-- `ServiceAccount`: empty for an ordinary account. -/
  account : WString
  session : Option DWORD

/-- What the classification asks of the system. -/
structure SystemFacts where
  windowsDirectory : WString
  process : DWORD → ProcessFacts

/-- `PathIsUnder`. -/
def pathIsUnder (host : Host) (path dir : WString) : Bool :=
  if dir.isEmpty || path.length ≤ dir.length then false
  else
    let base := if dir.getLast? != some 92 && dir.getLast? != some 47 then dir ++ [92] else dir
    if path.length < base.length then false
    else namesEqualIgnoreCase host (path.take base.length) base

/-- `ClassifyProcess`. -/
def classifyProcess (host : Host) (system : SystemFacts) (pid : DWORD) (name : WString)
    (essentialNames : List WString) : SafetyInfo :=
  if pid ≤ 4 then
    { level := .essential, reason := wide "Windows kernel process." }
  else if pid = host.currentProcessId then
    { level := .essential, reason := wide "This is the ThreadHaul service itself." }
  else if essentialNames.any (namesEqualIgnoreCase host name) then
    { level := .essential
      reason := wide
        "Essential to Windows: pausing or slowing it can freeze or crash the system." }
  else
    let facts := system.process pid
    if !facts.opened then
      { level := .system
        reason := wide
          ("Windows restricts access to this process; it is usually a protected system or " ++
            "security component.") }
    else if !facts.imagePath.isEmpty &&
        pathIsUnder host facts.imagePath system.windowsDirectory then
      { level := .system
        reason := wide "Part of Windows (" ++ facts.imagePath ++
          wide "). Slowing or pausing it can make the desktop or other programs unstable."
        imagePath := facts.imagePath }
    else if !facts.account.isEmpty then
      { level := .service
        reason := wide "Background service running as " ++ facts.account ++
          wide ". Other programs or Windows features may depend on it."
        imagePath := facts.imagePath }
    else if facts.session = some 0 then
      { level := .service
        reason := wide "Runs in the Windows services session. Other programs may depend on it."
        imagePath := facts.imagePath }
    else { imagePath := facts.imagePath }

/-- The level of a process is one of the two that call for a confirmation. -/
def ProcessSafety.Risky (level : ProcessSafety) : Prop := level = .system ∨ level = .service

/-- Whether a level is risky can be decided. -/
instance (level : ProcessSafety) : Decidable level.Risky :=
  inferInstanceAs (Decidable (level = .system ∨ level = .service))

/-- The process id and the name decide who is essential. -/
theorem level_eq_essential_iff (host : Host) (system : SystemFacts) (pid : DWORD) (name : WString)
    (essentialNames : List WString) :
    (classifyProcess host system pid name essentialNames).level = .essential ↔
      pid ≤ 4 ∨ pid = host.currentProcessId ∨
        essentialNames.any (namesEqualIgnoreCase host name) = true := by
  unfold classifyProcess
  -- The three tests come first, so no later one can take the level away.
  by_cases hkernel : pid ≤ 4
  · rw [if_pos hkernel]
    exact ⟨fun _ => Or.inl hkernel, fun _ => rfl⟩
  rw [if_neg hkernel]
  by_cases hself : pid = host.currentProcessId
  · rw [if_pos hself]
    exact ⟨fun _ => Or.inr (Or.inl hself), fun _ => rfl⟩
  rw [if_neg hself]
  by_cases hname : essentialNames.any (namesEqualIgnoreCase host name) = true
  · rw [if_pos hname]
    exact ⟨fun _ => Or.inr (Or.inr hname), fun _ => rfl⟩
  rw [if_neg hname]
  constructor
  · -- Every level that is left is another one.
    dsimp only
    repeat' split
    all_goals exact fun h => ProcessSafety.noConfusion h
  · intro h
    rcases h with h | h | h
    · exact absurd h hkernel
    · exact absurd h hself
    · exact absurd h hname

end Telemetry

end ThreadHaul
