import Mathlib.Logic.Basic
import ThreadHaul.Common.Bytes
import ThreadHaul.Lib.Runs

/-!
# Reloading the Configuration

When an edit of the configuration file reaches the running configuration.

`CheckConfigReload` looks at the time and the size of the file, and loads the
file when they are not the ones it has seen. Looking, loading and checking who
may write the file are separate calls, and the file may be edited, locked and
unlocked, and have its access rights changed between any two of them. `step`
takes them one at a time.

The daemon is in step with the file as long as this holds: if it has seen the
time and the size the file has now, then it runs what is in the file. Three
things break this. `Initialize` loads before it looks, so an edit in between is
taken for what was loaded. `CheckConfigReload` looks before it loads, and what
cannot be loaded for a reason that is not in the file counts as seen. And an
edit may bring back a time and a size that were seen before. `Careful` excludes
the three, and `run_current` says that nothing else goes wrong.

What a text of a configuration means is a parameter.

## Main definitions

* `Disk`: The file.
* `Phase`, `System`: Where the daemon is, and what it has.
* `Event`, `step`: One call of the daemon, or something that happens to the file.
* `check`: `CheckConfigReload`, while nothing else happens.
* `Careful`: A step that keeps the daemon in step with the file.

## Theorems

* `inStep_step`: One step.
* `run_current`: Every run of careful steps.
-/

namespace ThreadHaul

namespace Service

namespace Reload

open Runs

/-- What `GetFileAttributesExW` tells, as far as it is looked at. -/
structure FileAttributes where
  lastWriteTime : UInt64
  size : UInt64
  deriving DecidableEq

/-- The configuration file. -/
structure Disk where
  attributes : FileAttributes
  content : Bytes
  /-- `GetFileAttributesExW` succeeds. -/
  attributesReadable : Bool
  /-- The file can be opened for reading. -/
  contentReadable : Bool
  /-- `IsWritableByNonAdmins`. -/
  writable : Bool

/-- The call the daemon makes next. -/
inductive Phase (γ : Type*)
  /-- `Initialize` loads the file. -/
  | load
  /-- `Initialize` has loaded the file and checks who may write it. -/
  | verify (cfg : γ)
  /-- `Initialize` reads the attributes, then it starts with the configuration. -/
  | attributes (cfg : γ)
  /-- `Initialize` has failed. -/
  | refused
  /-- The next call of `CheckConfigReload` begins. -/
  | idle
  /-- `CheckConfigReload` has seen new attributes and loads the file. -/
  | reload
  /-- `CheckConfigReload` has loaded the file and checks who may write it. -/
  | reverify (cfg : γ)

/-- The file and the daemon. Before `Initialize` reads the attributes, the time
    and the size are zero. -/
structure System (γ : Type*) where
  disk : Disk
  phase : Phase γ := .load
  recorded : FileAttributes := ⟨0, 0⟩
  /-- `cfg_`, once there is one. -/
  cfg : Option γ := none

/-- What happens to the file, and what the daemon does about it. -/
inductive Event
  /-- An edit, with the time and the size the file has afterwards. -/
  | edit (attributes : FileAttributes) (content : Bytes)
  /-- The file is locked or unlocked, or its access rights change. -/
  | access (attributesReadable contentReadable writable : Bool)
  /-- The daemon makes its next call. -/
  | call

section Steps

variable {γ : Type*} (parse : Bytes → Option γ) (requireProtectedConfig : γ → Bool)

/-- `LoadConfigFile`: nothing if the file cannot be opened or is rejected. -/
def Disk.load (d : Disk) : Option γ := if d.contentReadable then parse d.content else none

/-- The rest of `LoadAndVerify`: others must not be able to write the file if
    the configuration says so. -/
def Disk.accepts (d : Disk) (cfg : γ) : Bool := !(d.writable && requireProtectedConfig cfg)

/-- The next call of the daemon. -/
def call (s : System γ) : System γ :=
  match s.phase with
  | .load =>
      match s.disk.load parse with
      | some cfg => { s with phase := .verify cfg }
      | none => { s with phase := .refused }
  | .verify cfg =>
      if s.disk.accepts requireProtectedConfig cfg then { s with phase := .attributes cfg }
      else { s with phase := .refused }
  | .attributes cfg =>
      { s with
        phase := .idle
        recorded := if s.disk.attributesReadable then s.disk.attributes else s.recorded
        cfg := some cfg }
  | .refused => s
  | .idle =>
      if !s.disk.attributesReadable then s
      else if s.disk.attributes = s.recorded then s
      else { s with phase := .reload, recorded := s.disk.attributes }
  | .reload =>
      match s.disk.load parse with
      | some cfg => { s with phase := .reverify cfg }
      | none => { s with phase := .idle }
  | .reverify cfg =>
      if s.disk.accepts requireProtectedConfig cfg then { s with phase := .idle, cfg := some cfg }
      else { s with phase := .idle }

/-- One call of the daemon, or something that happens to the file. -/
def step (s : System γ) : Event → System γ
  | .edit attributes content =>
      { s with disk := { s.disk with attributes := attributes, content := content } }
  | .access attributesReadable contentReadable writable =>
      { s with
        disk :=
          { s.disk with
            attributesReadable := attributesReadable
            contentReadable := contentReadable
            writable := writable } }
  | .call => call parse requireProtectedConfig s

/-- The daemon is between two calls of `CheckConfigReload`. -/
def System.isIdle (s : System γ) : Bool :=
  match s.phase with
  | .idle => true
  | _ => false

/-- A whole call of `CheckConfigReload`, while nothing happens to the file. -/
def check (s : System γ) : System γ :=
  let looked := call parse requireProtectedConfig s
  if looked.isIdle then looked
  else
    let loaded := call parse requireProtectedConfig looked
    if loaded.isIdle then loaded else call parse requireProtectedConfig loaded

/-- A call of `CheckConfigReload` brings what is in the file, if the file can be
    read and what is in it is accepted. -/
def Current (s : System γ) : Prop :=
  s.isIdle = true → s.disk.attributesReadable = true → ∀ cfg, s.disk.load parse = some cfg →
    s.disk.accepts requireProtectedConfig cfg = true →
      (check parse requireProtectedConfig s).cfg = some cfg

/-- No edit comes between the two calls of `Initialize` or brings back the time
    and the size that were seen last, and after `CheckConfigReload` has seen new
    attributes, nothing but what is in the file keeps it from being loaded. -/
def Careful (s : System γ) : Event → Prop
  | .edit attributes _ =>
      match s.phase with
      | .load | .refused => True
      | .verify _ | .attributes _ => False
      | .idle | .reload | .reverify _ => attributes ≠ s.recorded
  | .access _ _ _ => True
  | .call =>
      match s.phase with
      | .reload => s.disk.contentReadable = true
      | .reverify cfg => s.disk.accepts requireProtectedConfig cfg = true
      | _ => True

/-- What is in the file, if it is accepted, is the configuration. -/
def Disk.Holds (d : Disk) (cfg : Option γ) : Prop := ∀ c, parse d.content = some c → cfg = some c

/-- The daemon is in step with the file: if it has seen the time and the size
    of the file, then it has what is in the file or is about to load it. -/
def InStep (s : System γ) : Prop :=
  match s.phase with
  | .load | .refused => True
  | .verify cfg | .attributes cfg => s.disk.Holds parse (some cfg)
  | .idle => s.disk.attributes = s.recorded → s.disk.Holds parse s.cfg
  | .reload => True
  | .reverify cfg => s.disk.attributes = s.recorded → s.disk.Holds parse (some cfg)

variable {parse requireProtectedConfig}

theorem load_eq_some (d : Disk) (cfg : γ) (h : d.load parse = some cfg) :
    parse d.content = some cfg := by
  unfold Disk.load at h
  split_ifs at h with hreadable
  exact h

theorem holds_of_load (d : Disk) (cfg : γ) (h : d.load parse = some cfg) :
    d.Holds parse (some cfg) := by
  intro c hc
  rw [← hc, load_eq_some d cfg h]

/-- A call keeps the daemon in step. -/
theorem inStep_call (s : System γ) (hc : Careful requireProtectedConfig s .call)
    (h : InStep parse s) : InStep parse (call parse requireProtectedConfig s) := by
  rcases s with ⟨disk, phase, recorded, cfg⟩
  cases phase with
  | load =>
      simp only [call]
      rcases hload : disk.load parse with _ | c
      · trivial
      · exact holds_of_load disk c hload
  | verify c =>
      simp only [call]
      split_ifs with haccepts
      · exact h
      · trivial
  | attributes c => exact fun _ => h
  | refused => trivial
  | idle =>
      simp only [call]
      split_ifs with hunread hseen
      · exact h
      · exact h
      · trivial
  | reload =>
      -- The file can be opened, so only what is in it can be wrong.
      have hreadable : disk.contentReadable = true := hc
      simp only [call]
      rcases hload : disk.load parse with _ | c
      · intro _ c hparse
        rw [Disk.load, if_pos hreadable, hparse] at hload
        cases hload
      · exact fun _ => holds_of_load disk c hload
  | reverify c =>
      have haccepts : disk.accepts requireProtectedConfig c = true := hc
      simp only [call, haccepts, if_true]
      exact h

/-- So does everything else that is careful. -/
theorem inStep_step (s : System γ) (i : Event) (hc : Careful requireProtectedConfig s i)
    (h : InStep parse s) : InStep parse (step parse requireProtectedConfig s i) := by
  cases i with
  | call => exact inStep_call s hc h
  | access attributesReadable contentReadable writable =>
      rcases s with ⟨disk, phase, recorded, cfg⟩
      cases phase <;> exact h
  -- An edit shows in the attributes, and does not come between their reading and the content's.
  | edit attributes content =>
      rcases s with ⟨disk, phase, recorded, cfg⟩
      cases phase with
      | load => trivial
      | refused => trivial
      | verify c => exact absurd hc id
      | attributes c => exact absurd hc id
      | idle => exact fun heq => absurd heq hc
      | reload => trivial
      | reverify c => exact fun heq => absurd heq hc

/-- A daemon in step runs what is in the file after a check. -/
theorem current_of_inStep (s : System γ) (h : InStep parse s) :
    Current parse requireProtectedConfig s := by
  rcases s with ⟨disk, phase, recorded, cfg⟩
  intro hidle hreadable c hload haccepts
  cases phase with
  | idle =>
      -- The attributes can be read, so the check compares them.
      have hread : ¬ (!disk.attributesReadable) = true := by
        rw [hreadable]
        exact Bool.false_ne_true
      by_cases hseen : disk.attributes = recorded
      · -- Nothing new, and what was seen is what is there.
        simp only [check, call, if_neg hread, hseen, if_true, System.isIdle]
        exact h hseen c (load_eq_some disk c hload)
      · simp only [check, call, if_neg hread, hseen, if_false, System.isIdle, hload, haccepts,
          Bool.false_eq_true, if_true]
  | load => exact absurd hidle Bool.false_ne_true
  | verify c' => exact absurd hidle Bool.false_ne_true
  | attributes c' => exact absurd hidle Bool.false_ne_true
  | refused => exact absurd hidle Bool.false_ne_true
  | reload => exact absurd hidle Bool.false_ne_true
  | reverify c' => exact absurd hidle Bool.false_ne_true

/-- In every run of careful steps, from the start of `Initialize` on, a check
    brings what is in the file. -/
theorem run_current (disk : Disk) (l : List Event)
    (hl : Along (step parse requireProtectedConfig) (Careful requireProtectedConfig)
      { disk := disk } l) :
    Current parse requireProtectedConfig
      (run (step parse requireProtectedConfig) { disk := disk } l) := by
  refine current_of_inStep _ ?_
  exact run_invariant_along (step parse requireProtectedConfig) (Careful requireProtectedConfig)
    (InStep parse) inStep_step l { disk := disk } hl trivial

end Steps

/-- An edit changes the time or the size of the file. -/
def Changes {γ : Type*} (s : System γ) : Event → Prop
  | .edit attributes _ => attributes ≠ s.disk.attributes
  | .access _ _ _ | .call => True

/-- A file of one byte, which anyone may read. -/
def oneByte : Disk where
  attributes := ⟨1, 1⟩
  content := [1]
  attributesReadable := true
  contentReadable := true
  writable := false

/-- The file is edited and locked, seen, unlocked, and edited again. -/
theorem run_current_edited :
    Current some (fun _ => false)
      (run (step some fun _ => false) ({ disk := oneByte } : System Bytes)
        [.call, .call, .call, .edit ⟨2, 1⟩ [2], .call, .call, .call, .access true false false,
          .edit ⟨3, 1⟩ [3], .access true true false]) := by
  refine run_current oneByte _ ⟨trivial, trivial, trivial, ?_, trivial, rfl, rfl, trivial, ?_,
    trivial, trivial⟩
  · exact show (⟨2, 1⟩ : FileAttributes) ≠ ⟨1, 1⟩ by decide
  · exact show (⟨3, 1⟩ : FileAttributes) ≠ ⟨2, 1⟩ by decide

/-- The file is edited, and it is locked while `CheckConfigReload` runs. The
    edit counts as seen, and it is never loaded. -/
theorem not_current_locked :
    Along (step some fun _ => false) Changes ({ disk := oneByte } : System Bytes)
        [.call, .call, .call, .edit ⟨2, 1⟩ [2], .access true false false, .call, .call,
          .access true true false] ∧
      ¬ Current some (fun _ => false)
        (run (step some fun _ => false) ({ disk := oneByte } : System Bytes)
          [.call, .call, .call, .edit ⟨2, 1⟩ [2], .access true false false, .call, .call,
            .access true true false]) := by
  refine ⟨⟨trivial, trivial, trivial, ?_, trivial, trivial, trivial, trivial, trivial⟩, ?_⟩
  · exact show (⟨2, 1⟩ : FileAttributes) ≠ ⟨1, 1⟩ by decide
  · intro h
    have hcfg := h rfl rfl [2] rfl rfl
    exact absurd hcfg (by decide)

/-- The file is edited after `Initialize` has loaded it and before it looks at
    it. -/
theorem not_current_initialize :
    Along (step some fun _ => false) Changes ({ disk := oneByte } : System Bytes)
        [.call, .call, .edit ⟨2, 1⟩ [2], .call] ∧
      ¬ Current some (fun _ => false)
        (run (step some fun _ => false) ({ disk := oneByte } : System Bytes)
          [.call, .call, .edit ⟨2, 1⟩ [2], .call]) := by
  refine ⟨⟨trivial, trivial, ?_, trivial, trivial⟩, ?_⟩
  · exact show (⟨2, 1⟩ : FileAttributes) ≠ ⟨1, 1⟩ by decide
  · intro h
    have hcfg := h rfl rfl [2] rfl rfl
    exact absurd hcfg (by decide)

end Reload

end Service

end ThreadHaul
