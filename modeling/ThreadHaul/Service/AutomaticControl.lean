import ThreadHaul.Service.CriticalProcesses

/-!
# What Is Controlled Automatically

`UpdateAll` moves every machine that is not held by hand, whatever its name. So
automatic control is confined to batch processes as long as every machine whose
process has no batch name is held.

A machine that is managed on request is held until it is released, and a release
drops it. But it drops it only if the machine is normal; a machine that is
released while it is throttled or suspended is left, and from then on it is
under automatic control. A reload leaves a machine that was managed on request
even if it is not held and its name is no longer a batch name. And a process may
start under the process id of a machine that could not open its own process.

`Orderly` excludes these three, and `run_authorised_iff` says that nothing else
goes wrong.

## Main definitions

* `Authorised`: What is not held has a batch name.
* `Automatic`: The transitions of a poll restrain batch processes only.
* `Orderly`: A step that leaves nothing else to automatic control.

## Theorems

* `find_act_release`: The machines after a release.
* `authorised_step`: Orderly steps.
* `automatic_poll`: What a poll restrains.
* `run_authorised_iff`: Every run.
-/

namespace ThreadHaul

namespace Service

open Actuator Telemetry Config Runs

section Release

variable {env : Env} {e : ProcessEntry} {d : Daemon} {w : World}

/-- The machine of a process is normal. -/
def isNormal (d : Daemon) (p : DWORD) : Bool :=
  (d.actuator.find p).any fun m => m.state == .normal

/-- A release drops the machine if it was managed on request and is normal. -/
theorem releaseHold_eq :
    (releaseHold env e d w).1.daemon =
      if e.pid ∈ d.adhoc ∧ isNormal d e.pid = true then
        { d with
          actuator := (d.actuator.releaseManualHold (env.os e.pid) e.pid
            w).manager.removeBatchProcess e.pid
          adhoc := d.adhoc.filter fun pid => pid != e.pid }
      else
        { d with actuator := (d.actuator.releaseManualHold (env.os e.pid) e.pid w).manager } := by
  -- Letting go of the hold does not move the machine.
  have hnormal : ((d.actuator.releaseManualHold (env.os e.pid) e.pid w).manager.find e.pid).any
      (fun m => m.state == .normal) = isNormal d e.pid := by
    rw [find_releaseManualHold, if_pos rfl, isNormal]
    rcases d.actuator.find e.pid with _ | m
    · rfl
    · rfl
  unfold releaseHold
  dsimp only
  rw [hnormal]
  by_cases hgone : e.pid ∈ d.adhoc ∧ isNormal d e.pid = true
  · rw [if_pos hgone, if_pos]
    rw [Bool.and_eq_true, decide_eq_true_eq]
    exact hgone
  · rw [if_neg hgone, if_neg]
    rw [Bool.and_eq_true, decide_eq_true_eq]
    exact hgone

theorem find_releaseHold (p : DWORD) :
    (releaseHold env e d w).1.daemon.actuator.find p =
      if p = e.pid then
        if e.pid ∈ d.adhoc ∧ isNormal d e.pid = true then none
        else (d.actuator.find p).map fun m => m.next .releaseManualHold
      else d.actuator.find p := by
  have hreleased := find_releaseManualHold (env.os e.pid) d.actuator e.pid w
  rw [releaseHold_eq]
  -- An ad-hoc machine in state Normal is removed; any other one keeps its state.
  by_cases hgone : e.pid ∈ d.adhoc ∧ isNormal d e.pid = true
  · rw [if_pos hgone, if_pos hgone]
    refine (ActuatorManager.find_removeBatchProcess _ e.pid p).trans ?_
    by_cases hp : p = e.pid
    · rw [if_pos hp, if_pos hp]
    · rw [if_neg hp, if_neg hp, hreleased, if_neg hp]
  · rw [if_neg hgone, if_neg hgone]
    exact hreleased p

theorem adhoc_releaseHold (p : DWORD) :
    p ∈ (releaseHold env e d w).1.daemon.adhoc ↔
      p ∈ d.adhoc ∧ ¬ (p = e.pid ∧ isNormal d e.pid = true) := by
  rw [releaseHold_eq]
  by_cases hgone : e.pid ∈ d.adhoc ∧ isNormal d e.pid = true
  · rw [if_pos hgone]
    change p ∈ d.adhoc.filter _ ↔ _
    rw [List.mem_filter, bne_iff_ne, hgone.2, and_iff_left rfl]
  · rw [if_neg hgone]
    refine ⟨fun hp => ⟨hp, ?_⟩, fun h => h.1⟩
    rintro ⟨rfl, hn⟩
    exact hgone ⟨hp, hn⟩

/-- The machine of a process after a release of a target. -/
theorem find_act_release (p : DWORD) :
    (act env e d w .release).1.daemon.actuator.find p =
      if p = e.pid ∧ contains env.host d.criticalProcesses e.name = false then
        if e.pid ∈ d.adhoc ∧ isNormal d e.pid = true then none
        else (d.actuator.find p).map fun m => m.next .releaseManualHold
      else d.actuator.find p := by
  unfold act
  -- A critical process is refused, and nothing is released.
  by_cases hcritical : contains env.host d.criticalProcesses e.name = true
  · rw [if_pos hcritical, if_neg]
    rw [hcritical]
    exact fun h => Bool.false_ne_true h.2.symm
  · rw [if_neg hcritical]
    have hnot := Bool.eq_false_iff.mpr hcritical
    simp only [hnot, and_true]
    rcases hfind : d.actuator.find e.pid with _ | m
    · -- Without a machine there is nothing to release.
      by_cases hp : p = e.pid
      · rw [if_pos hp, hp, isNormal, hfind]
        simp only [Option.any_none, Bool.false_eq_true, and_false, if_false, Option.map_none]
      · rw [if_neg hp]
    · exact find_releaseHold p

theorem adhoc_act_release (p : DWORD) :
    p ∈ (act env e d w .release).1.daemon.adhoc ↔
      p ∈ d.adhoc ∧ ¬ (p = e.pid ∧ contains env.host d.criticalProcesses e.name = false ∧
        isNormal d e.pid = true) := by
  unfold act
  -- The mark of an ad-hoc process goes with its machine.
  by_cases hcritical : contains env.host d.criticalProcesses e.name = true
  · rw [if_pos hcritical, hcritical]
    simp only [Bool.true_eq_false, false_and, and_false, not_false_eq_true, and_true]
  · rw [if_neg hcritical]
    have hnot := Bool.eq_false_iff.mpr hcritical
    simp only [hnot, true_and]
    rcases hfind : d.actuator.find e.pid with _ | m
    · simp only [isNormal, hfind, Option.any_none, Bool.false_eq_true, and_false,
        not_false_eq_true, and_true]
    · exact adhoc_releaseHold p

end Release

section Authorised

variable (os : Platform) (instances : DWORD → UInt64 → Instance)

/-- The process that runs under a process id has a batch name. -/
def IsBatch (cfg : DaemonConfig) (p : DWORD) (start : UInt64) : Prop :=
  contains os.host cfg.batchProcesses (instances p start).name = true

/-- What is not held by hand has a batch name. -/
def Authorised (s : System) : Prop :=
  ∀ h ∈ s.daemon.actuator.holdings, ∀ start, s.running h.batchProcessId = some start →
    IsBatch os instances s.daemon.cfg h.batchProcessId start ∨ h.manualHold = true

/-- A poll throttles and suspends only what has a batch name. -/
def Automatic (s : System) : Event → Prop
  | .poll r =>
      ∀ t ∈ (poll os.host r s.daemon s.world).fired, t.newState ≠ .normal →
        ∀ start, s.running t.batchProcessId = some start →
          IsBatch os instances s.daemon.cfg t.batchProcessId start
  | .reload _ _ _ | .command _ _ | .elsewhere _ _ => True

/-- A reload that leaves a machine makes its name a batch name or finds it held;
    what is released has a batch name or was managed on request and is normal;
    and what starts under the process id of a machine that is not held has a
    batch name. -/
def Orderly (s : System) : Event → Prop
  | .poll _ => True
  | .reload text writable _ =>
      ∀ cfg, parseConfig os text = .ok cfg → (writable && cfg.requireProtectedConfig) = false →
        ∀ h ∈ s.daemon.actuator.holdings, ∀ start, s.running h.batchProcessId = some start →
          stays os.host cfg s.daemon.adhoc h = true →
            IsBatch os instances cfg h.batchProcessId start ∨ h.manualHold = true
  | .command line r =>
      ∀ targets, commandTargets (r.env os.host) line = some (.release, targets) →
        ∀ e ∈ targets, ∀ start, s.running e.pid = some start →
          s.daemon.actuator.find e.pid ≠ none →
            contains os.host s.daemon.cfg.criticalProcesses e.name = false →
              IsBatch os instances s.daemon.cfg e.pid start ∨
                (e.pid ∈ s.daemon.adhoc ∧ isNormal (s.daemon.seen r.connected) e.pid = true)
  | .elsewhere _ running =>
      ∀ h ∈ s.daemon.actuator.holdings, ∀ start, running h.batchProcessId = some start →
        s.running h.batchProcessId ≠ some start →
          IsBatch os instances s.daemon.cfg h.batchProcessId start ∨ h.manualHold = true

variable {os instances}

/-- What a poll works with is authorised: what it found and what it picks up. -/
theorem authorised_found (s : System) (r : PollReadings) (hlaw : Lawful instances s (.poll r))
    (h : Authorised os instances s) (a : Holding Rat)
    (ha : a ∈ s.daemon.actuator.holdings ∨
      Found os.host (admitted os.host r s.daemon) s.daemon.cfg.batchProcesses s.daemon.actuator a)
    (start : UInt64) (hstart : s.running a.batchProcessId = some start) :
    IsBatch os instances s.daemon.cfg a.batchProcessId start ∨ a.manualHold = true := by
  rcases ha with hheld | hfound
  · exact h a hheld start hstart
  · -- The entry it was found by shows the name of the process that runs.
    rcases hfound.listed with ⟨e, he, hpid, hsame⟩
    rcases hlaw.1 e (mem_snapshot_of_admitted os.host r s.daemon e he) with
      ⟨start', hrunning, hname⟩
    rw [← hpid, hrunning] at hstart
    cases hstart
    left
    rw [IsBatch, ← hpid, hname, contains_iff]
    exact ⟨a.batchProcessName, hfound.batch, (namesEqual_iff _ _).mpr
      ((namesEqual_iff _ _).mp hsame).symm⟩

theorem authorised_poll (s : System) (r : PollReadings) (hlaw : Lawful instances s (.poll r))
    (h : Authorised os instances s) : Authorised os instances (step os s (.poll r)) := by
  intro h' hh' start hstart
  change h' ∈ (poll os.host r s.daemon s.world).daemon.actuator.holdings at hh'
  change s.running h'.batchProcessId = some start at hstart
  change IsBatch os instances (poll os.host r s.daemon s.world).daemon.cfg _ _ ∨ _
  rw [cfg_poll]
  rcases (poll_spec os.host r s.daemon s.world).1 h' hh' with ⟨a, hlike, ha⟩
  rw [hlike.batchProcessId] at hstart ⊢
  rw [hlike.manualHold]
  exact authorised_found s r hlaw h a ha start hstart

/-- A poll restrains batch processes only. -/
theorem automatic_poll (s : System) (r : PollReadings) (hlaw : Lawful instances s (.poll r))
    (h : Authorised os instances s) : Automatic os instances s (.poll r) := by
  intro t ht _ start hstart
  rcases (poll_spec os.host r s.daemon s.world).2 t ht with ⟨a, hpid, hfree, ha⟩
  rw [← hpid] at hstart ⊢
  rcases authorised_found s r hlaw h a ha start hstart with hbatch | hheld
  · exact hbatch
  · -- What is held makes no transition in an update.
    exact absurd (hfree.symm.trans hheld) Bool.false_ne_true

/-- What is held after a command, where the targets of a release may be
    released. -/
structure Releasable (s : System) (line : Bytes) (r : CommandReadings) (d : Daemon) : Prop where
  criticalProcesses : d.criticalProcesses = s.daemon.cfg.criticalProcesses
  holdings : ∀ a ∈ d.actuator.holdings, ∀ start, s.running a.batchProcessId = some start →
    IsBatch os instances s.daemon.cfg a.batchProcessId start ∨ a.manualHold = true
  targets : ∀ targets, commandTargets (r.env os.host) line = some (.release, targets) →
    ∀ e ∈ targets, ∀ start, s.running e.pid = some start → d.actuator.find e.pid ≠ none →
      contains os.host s.daemon.cfg.criticalProcesses e.name = false →
        IsBatch os instances s.daemon.cfg e.pid start ∨
          (e.pid ∈ d.adhoc ∧ isNormal d e.pid = true)

/-- Coming to a target keeps what is held authorised, and the other targets may
    be released as before. -/
theorem releasable_act (s : System) (line : Bytes) (r : CommandReadings) (verb : Manage)
    (targets : List ProcessEntry)
    (htargets : commandTargets (r.env os.host) line = some (verb, targets))
    (e : ProcessEntry) (he : e ∈ targets) (d : Daemon) (w : World)
    (h : @Releasable os instances s line r d) :
    @Releasable os instances s line r
      (act (r.env os.host) e d w verb).1.daemon := by
  rcases acted_act (r.env os.host) e d w verb with
    ⟨hacted, hframed⟩
  refine ⟨hframed.criticalProcesses.trans h.criticalProcesses, ?_, ?_⟩
  · intro a ha start hstart
    cases hacted a ha with
    | kept _ hh => exact h.holdings a hh start hstart
    | held b hh hpid hcritical => exact Or.inr rfl
    | added hcritical hverb hfree hallowed => exact Or.inr rfl
    | freed m hm hcritical hverb hkept =>
        -- The command is a release, so the target is of those that may be released.
        have hid := (holding_mem_of_find d.actuator e.pid m hm).2
        change s.running m.batchProcessId = some start at hstart
        rw [hverb] at htargets
        change IsBatch os instances s.daemon.cfg m.batchProcessId start ∨ _
        rw [hid] at hstart ⊢
        rcases h.targets targets htargets e he start hstart
          (by rw [hm]; exact Option.some_ne_none m)
          (by rw [← h.criticalProcesses]; exact hcritical) with hbatch | ⟨hadhoc, hnormal⟩
        · exact Or.inl hbatch
        · rw [isNormal, hm] at hnormal
          exact absurd ⟨hadhoc, beq_iff_eq.mp hnormal⟩ hkept
  · intro targets' htargets' e' he' start hstart hfound hcritical
    rw [htargets] at htargets'
    cases htargets'
    have hbefore := h.targets targets htargets e' he' start hstart
    rw [find_act_release] at hfound
    by_cases hsame : e'.pid = e.pid ∧
        contains (r.env os.host).host d.criticalProcesses e.name = false
    · -- The same process was a target just now, and its machine was left.
      rw [if_pos hsame] at hfound
      split_ifs at hfound with hgone
      · exact absurd rfl hfound
      · have hfound' : d.actuator.find e'.pid ≠ none := by
          intro hnone
          rw [hnone] at hfound
          exact hfound rfl
        rcases hbefore hfound' hcritical with hbatch | hdrop
        · exact Or.inl hbatch
        · rw [hsame.1] at hdrop
          exact absurd hdrop hgone
    · -- Its own turn is still to come.
      rw [if_neg hsame] at hfound
      rcases hbefore hfound hcritical with hbatch | ⟨hadhoc, hnormal⟩
      · exact Or.inl hbatch
      · refine Or.inr ⟨(adhoc_act_release e'.pid).mpr ⟨hadhoc, ?_⟩, ?_⟩
        · exact fun hc => hsame ⟨hc.1, hc.2.1⟩
        · rw [isNormal, find_act_release, if_neg hsame]
          exact hnormal

theorem authorised_command (s : System) (line : Bytes) (r : CommandReadings)
    (hgood : Orderly os instances s (.command line r)) (h : Authorised os instances s) :
    Authorised os instances (step os s (.command line r)) := by
  -- By induction on the targets: each release that is orderly keeps the invariant.
  have hafter := commandEffect_invariant (@Releasable os instances s line r)
    line (fun verb targets htargets e he _ d w =>
      releasable_act s line r verb targets htargets e he d w)
    (s.daemon.seen r.connected) s.world ⟨rfl, h, hgood⟩
  have hmachines := (command_eq os.host line r s.daemon s.world).1
  intro a ha start hstart
  change a ∈ (command os.host line r s.daemon s.world).daemon.actuator.holdings at ha
  change IsBatch os instances (command os.host line r s.daemon s.world).daemon.cfg _ _ ∨ _
  rw [cfg_command]
  rw [hmachines] at ha
  exact hafter.holdings a ha start hstart

/-- A reload leaves what is authorised under the new configuration, if it leaves
    nothing else. -/
theorem authorised_applyConfig_iff (s : System) (cfg : DaemonConfig) (r : ReloadReadings) :
    Authorised os instances
        { s with daemon := (applyConfig os.host r cfg s.daemon s.world).daemon } ↔
      ∀ h ∈ s.daemon.actuator.holdings, ∀ start, s.running h.batchProcessId = some start →
        stays os.host cfg s.daemon.adhoc h = true →
          IsBatch os instances cfg h.batchProcessId start ∨ h.manualHold = true := by
  let effective := (s.daemon.adaptive.setSettings (toAdaptive cfg)).adjust
    (toStateMachineConfig cfg) (s.daemon.bias r.externalBias)
  have hholdings : (applyConfig os.host r cfg s.daemon s.world).daemon.actuator.holdings = _ :=
    (reconfigure_spec os.host r.os cfg effective s.daemon.adhoc s.daemon.actuator s.world).1
  constructor
  · -- What stays is what is held afterwards, but for its thresholds.
    intro h a ha start hstart hstays
    have hleft : ({ a with config := effective } : Holding Rat) ∈
        (applyConfig os.host r cfg s.daemon s.world).daemon.actuator.holdings := by
      rw [hholdings]
      exact List.mem_filter.mpr ⟨List.mem_map_of_mem ha, hstays⟩
    exact h _ hleft start hstart
  · intro h a' ha' start hstart
    change a' ∈ (applyConfig os.host r cfg s.daemon s.world).daemon.actuator.holdings at ha'
    rw [hholdings] at ha'
    rcases List.mem_filter.mp ha' with ⟨hmem, hstays⟩
    rcases List.mem_map.mp hmem with ⟨a, ha, rfl⟩
    exact h a ha start hstart hstays

/-- An orderly step keeps what is held authorised. -/
theorem authorised_step (s : System) (i : Event) (hlaw : Lawful instances s i)
    (hgood : Orderly os instances s i) (h : Authorised os instances s) :
    Authorised os instances (step os s i) := by
  cases i with
  | poll r => exact authorised_poll s r hlaw h
  | reload text writable r =>
      simp only [step, progress]
      rcases reload_cases text writable r s.daemon s.world with
        heq | ⟨cfg, hparse, haccepts, heq⟩
      · rw [heq]
        exact h
      · rw [heq]
        exact (authorised_applyConfig_iff s cfg r).mpr (hgood cfg hparse haccepts)
  | command line r => exact authorised_command s line r hgood h
  | elsewhere world running =>
      intro a ha start hstart
      -- The process was there before, or it has just started.
      by_cases hold : s.running a.batchProcessId = some start
      · exact h a ha start hold
      · exact hgood a ha start hstart hold

section Loose

variable {env : Env} {e : ProcessEntry} {d : Daemon} {w : World} {p : DWORD}

/-- The process has a machine that a release does not drop. -/
def Loose (d : Daemon) (p : DWORD) : Prop :=
  d.actuator.find p ≠ none ∧ ¬ (p ∈ d.adhoc ∧ isNormal d p = true)

/-- The machine of the process is not held by hand. -/
def Unheld (d : Daemon) (p : DWORD) : Prop :=
  ∃ m, d.actuator.find p = some m ∧ m.manualHold = false

/-- A release of a target leaves such a machine as it is, or not held. -/
theorem find_act_of_loose (h : Loose d p) :
    (act env e d w .release).1.daemon.actuator.find p =
      if p = e.pid ∧ contains env.host d.criticalProcesses e.name = false then
        (d.actuator.find p).map fun m => m.next .releaseManualHold
      else d.actuator.find p := by
  rw [find_act_release]
  by_cases hsame : p = e.pid ∧ contains env.host d.criticalProcesses e.name = false
  · rw [if_pos hsame, if_pos hsame, if_neg]
    rw [← hsame.1]
    exact h.2
  · rw [if_neg hsame, if_neg hsame]

theorem loose_act (h : Loose d p) : Loose (act env e d w .release).1.daemon p := by
  have hfind := @find_act_of_loose env e d w p h
  have hnormal : isNormal (act env e d w .release).1.daemon p = isNormal d p := by
    rw [isNormal, isNormal, hfind]
    split_ifs
    · rcases d.actuator.find p with _ | m
      · rfl
      · rfl
    · rfl
  -- The release can neither add the machine back nor put it into state Normal.
  refine ⟨?_, ?_⟩
  · rw [hfind]
    split_ifs
    · exact fun hnone => h.1 (Option.map_eq_none_iff.mp hnone)
    · exact h.1
  · rw [hnormal]
    exact fun hc => h.2 ⟨((adhoc_act_release p).mp hc.1).1, hc.2⟩

theorem unheld_act (h : Loose d p) (hunheld : Unheld d p) :
    Unheld (act env e d w .release).1.daemon p := by
  rcases hunheld with ⟨m, hm, hfree⟩
  rw [Unheld, find_act_of_loose h, hm]
  split_ifs
  · exact ⟨m.next .releaseManualHold, rfl, rfl⟩
  · exact ⟨m, rfl, hfree⟩

/-- A release of several targets leaves the machine of each, if it does not drop
    it, and the machine is not held. -/
theorem unheld_actAll (targets : List ProcessEntry) (he : e ∈ targets)
    (hcritical : contains env.host d.criticalProcesses e.name = false) (h : Loose d e.pid) :
    Unheld (actAll env .release targets d w).1.daemon e.pid := by
  induction targets generalizing d w with
  | nil => exact absurd he List.not_mem_nil
  | cons a targets ih =>
      have hnext := @loose_act env a d w e.pid h
      rcases List.mem_cons.mp he with rfl | hrest
      · have hfirst : Unheld (act env e d w .release).1.daemon e.pid := by
          rcases hfind : d.actuator.find e.pid with _ | m
          · exact absurd hfind h.1
          · refine ⟨m.next .releaseManualHold, ?_, rfl⟩
            rw [find_act_of_loose h, if_pos ⟨rfl, hcritical⟩, hfind]
            rfl
        -- The targets after it change nothing about that.
        exact (actAll_invariant (fun d => Loose d e.pid ∧ Unheld d e.pid) targets
          (fun e' _ d w hd => ⟨loose_act hd.1, unheld_act hd.1 hd.2⟩) _ _ ⟨hnext, hfirst⟩).2
      · have hframed := (acted_act env a d w .release).2
        have hcritical' : contains env.host (act env a d w .release).1.daemon.criticalProcesses
            e.name = false := by
          rw [hframed.criticalProcesses]
          exact hcritical
        exact ih hrest hcritical' hnext

end Loose

/-- Any other step leaves something else to automatic control. -/
theorem not_authorised_step (s : System) (i : Event) (hbad : ¬ Orderly os instances s i) :
    ¬ Authorised os instances (step os s i) := by
  intro hauthorised
  refine hbad ?_
  cases i with
  | poll r => trivial
  | reload text writable r =>
      intro cfg hparse haccepts
      refine (@authorised_applyConfig_iff os instances s cfg r).mp ?_
      simp only [step, progress, reload_of_accepts text writable r _ _ cfg hparse haccepts]
        at hauthorised
      exact hauthorised
  | command line r =>
      intro targets htargets e he start hstart hfound hcritical
      by_contra hneither
      rw [not_or] at hneither
      -- The target keeps its machine, which nothing holds any more.
      rcases @unheld_actAll (r.env os.host) e (s.daemon.seen r.connected) s.world
        targets he hcritical ⟨hfound, hneither.2⟩ with ⟨m, hm, hfree⟩
      have hmachines := (command_eq os.host line r s.daemon s.world).1
      rw [commandEffect, htargets] at hmachines
      have hheld := holding_mem_of_find _ e.pid m hm
      rw [← hmachines] at hheld
      have hafter := hauthorised m.holding hheld.1 start
        (show s.running m.batchProcessId = some start by rw [hheld.2]; exact hstart)
      change IsBatch os instances (command os.host line r s.daemon s.world).daemon.cfg
        m.batchProcessId start ∨ m.manualHold = true at hafter
      rw [cfg_command, hheld.2] at hafter
      rcases hafter with hbatch | hhold
      · exact hneither.1 hbatch
      · exact Bool.false_ne_true (hfree.symm.trans hhold)
  | elsewhere world running =>
      intro a ha start hstart _
      exact hauthorised a ha start hstart

/-- In a run from `Initialize` on, what is not held has a batch name throughout
    exactly if every step is orderly, and then polls throttle and suspend batch
    processes only. -/
theorem run_authorised_iff (cfg : { cfg : DaemonConfig // Accepted os cfg }) (r : ReloadReadings)
    (cores : Nat) (remoteStopEvent : Bool) (w : World) (running : DWORD → Option UInt64)
    (l : List Event)
    (hl : Along (step os) (Lawful instances) (start os cfg r cores remoteStopEvent w running) l) :
    (Throughout (step os) (Authorised os instances)
        (start os cfg r cores remoteStopEvent w running) l ↔
      Along (step os) (Orderly os instances)
        (start os cfg r cores remoteStopEvent w running) l) ∧
    (Along (step os) (Orderly os instances) (start os cfg r cores remoteStopEvent w running) l →
      Along (step os) (Automatic os instances)
        (start os cfg r cores remoteStopEvent w running) l) := by
  have hstart : Authorised os instances (start os cfg r cores remoteStopEvent w running) := by
    -- There are no machines yet.
    intro h hh
    rw [holdings_start] at hh
    exact absurd hh List.not_mem_nil
  refine ⟨throughout_iff_along_of (step os) (Lawful instances) (Orderly os instances)
    (Authorised os instances) (Authorised os instances) (fun s h => h) authorised_step
    (fun s i _ _ => not_authorised_step s i) l _ hl hstart, ?_⟩
  intro hgood
  refine along_of_along (step os) (fun s i => Lawful instances s i ∧ Orderly os instances s i)
    (Automatic os instances) (Authorised os instances)
    (fun s i hi h => authorised_step s i hi.1 hi.2 h) ?_ l _ (along_and (step os) _ _ _ l hl hgood)
    hstart
  intro s i hi h
  cases i with
  | poll r => exact automatic_poll s r hi.1 h
  | reload text writable r => trivial
  | command line r => trivial
  | elsewhere world running => trivial

end Authorised

section Released

/-- `c.exe` is critical, and there are no batch names. -/
def releasedPlatform : Platform :=
  samplePlatform (sampleDocument ["c.exe"] [] []) (sampleDocument ["c.exe"] [] [])

/-- `a.exe` and `c.exe` run. -/
def releasedInstances : DWORD → UInt64 → Instance := fun p _ =>
  if p = 4821 then ⟨wide "a.exe", wide "C:\\a.exe", []⟩ else ⟨wide "c.exe", wide "C:\\c.exe", []⟩

/-- The two of them in a snapshot. -/
def releasedSnapshot : List ProcessEntry := [⟨wide "a.exe", 4821⟩, ⟨wide "c.exe", 7000⟩]

/-- The daemon after `Initialize`. -/
def releasedStart : System :=
  start releasedPlatform ⟨sampleConfig ["c.exe"] [] [], [], rfl⟩ (sampleReload []) 1 true
    sampleWorld (sampleRunning releasedSnapshot)

/-- A command. -/
def releasedCommand (line : String) : Event :=
  .command (ascii line) (sampleCommand releasedSnapshot)

/-- A poll, after so much processor time of `c.exe`. -/
def releasedPoll (ticks : UInt64) : Event :=
  .poll
    (samplePoll releasedSnapshot (fun p => (releasedInstances p 1).path) (sampleAuto 0 []) ticks)

theorem lists_released (s : System) (h : s.running = sampleRunning releasedSnapshot) :
    s.Lists releasedInstances releasedSnapshot := by
  intro e he
  rw [h]
  simp only [releasedSnapshot, List.mem_cons, List.not_mem_nil, or_false] at he
  rcases he with rfl | rfl
  · exact ⟨1, rfl, rfl⟩
  · exact ⟨1, rfl, rfl⟩

theorem lawful_releasedPoll (s : System) (h : s.running = sampleRunning releasedSnapshot)
    (ticks : UInt64) : Lawful releasedInstances s (releasedPoll ticks) :=
  ⟨lists_released s h, fun _ _ he => absurd he List.not_mem_nil⟩

/-- `a.exe` is throttled, resumed and released, and then the daemon polls. -/
def resumedRun : List Event :=
  [releasedCommand "throttle a.exe", releasedCommand "resume a.exe",
    releasedCommand "release a.exe", releasedPoll 10000000]

theorem run_authorised_iff_resumed :
    (Throughout (step releasedPlatform) (Authorised releasedPlatform releasedInstances)
        releasedStart resumedRun ↔
      Along (step releasedPlatform) (Orderly releasedPlatform releasedInstances) releasedStart
        resumedRun) ∧
    (Along (step releasedPlatform) (Orderly releasedPlatform releasedInstances) releasedStart
        resumedRun →
      Along (step releasedPlatform) (Automatic releasedPlatform releasedInstances) releasedStart
        resumedRun) :=
  run_authorised_iff _ _ _ _ _ _ _
    ⟨lists_released _ rfl, lists_released _ rfl, lists_released _ rfl,
      lawful_releasedPoll _ rfl _, trivial⟩

/-- `a.exe` is throttled and released. Then `c.exe` is under pressure, and
    `a.exe` is suspended. -/
theorem not_automatic_released :
    Along (step releasedPlatform) (Lawful releasedInstances) releasedStart
        [releasedCommand "throttle a.exe", releasedCommand "release a.exe", releasedPoll 10000000,
          releasedPoll 20000000] ∧
      ¬ Along (step releasedPlatform) (Automatic releasedPlatform releasedInstances) releasedStart
        [releasedCommand "throttle a.exe", releasedCommand "release a.exe", releasedPoll 10000000,
          releasedPoll 20000000] := by
  refine ⟨⟨lists_released _ rfl, lists_released _ rfl, lawful_releasedPoll _ rfl _,
    lawful_releasedPoll _ rfl _, trivial⟩, ?_⟩
  intro h
  have hlast := h.2.2.2.1
  -- The second poll suspends the process, which is in no list.
  have hfired : ∃ t ∈ (progress releasedPlatform (run (step releasedPlatform) releasedStart
      [releasedCommand "throttle a.exe", releasedCommand "release a.exe", releasedPoll 10000000])
      (releasedPoll 20000000)).fired, t.newState = .suspended ∧ t.batchProcessId = 4821 := by
    decide +kernel
  rcases hfired with ⟨t, ht, hstate, hpid⟩
  have hbatch := hlast t ht (by rw [hstate]; decide) 1 (by rw [hpid]; rfl)
  rw [hpid] at hbatch
  unfold IsBatch at hbatch
  exact absurd hbatch (by decide +kernel)

end Released

end Service

end ThreadHaul
