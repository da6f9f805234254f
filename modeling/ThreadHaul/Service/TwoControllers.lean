import ThreadHaul.Service.CriticalProcesses

/-!
# Two Controllers

The machines and `AutoProtector` set the priority class of a process, each
without knowing what the other has set. They are kept apart by three tests.
A tick does not lower what has a role or a machine. A poll gives a machine to
what has a batch name, and a reload exempts what has got a role. And a command
gives a machine to anything.

So a command can give a machine to a process that is lowered. And the reload
exempts what it sees: a process that its snapshot does not show stays lowered,
and gets a machine at the next poll. `Exclusive` excludes the two, and
`run_apart` says that nothing else goes wrong: no process is under both
controllers, and `AutoProtector` touches no process that has a machine.

## Main definitions

* `Apart`: No process is under both controllers.
* `Undisturbed`: `AutoProtector` touches no process with a machine.
* `Separate`: The invariant: what is lowered will not get a machine by itself.
* `Exclusive`: A step that puts no process under both controllers.
* `Unmanaged`: What is kept from target to target of a command.

## Theorems

* `exempted_of_mem`: What a reload leaves lowered.
* `within_poll`: What a poll lowers and touches.
* `separate_step`: One step.
* `run_apart`: Every run.
-/

namespace ThreadHaul

namespace Service

open Actuator Telemetry OrderedMap Config Runs

section Exempting

variable {host : Host} {r : AutoReadings} {cfg : DaemonConfig} {P : DWORD → Prop}

theorem within_exemptTarget (acc : AutoResult) (e : ProcessEntry) (h : Within P acc) :
    Within P (exemptTarget r acc e) := by
  have hexempt := within_exempt (r := r) acc.auto e.pid h.throttled
  refine ⟨hexempt.throttled, fun c hc => ?_⟩
  rcases List.mem_append.mp hc with hc | hc
  · exact h.sets c hc
  · exact hexempt.sets c hc

theorem within_exemptEntry (pid : DWORD) (acc : AutoResult) (e : ProcessEntry)
    (h : Within P acc) : Within P (exemptEntry host r cfg pid acc e) := by
  unfold exemptEntry
  split_ifs
  · have hexempt := within_exempt (r := r) acc.auto pid h.throttled
    refine ⟨hexempt.throttled, fun c hc => ?_⟩
    rcases List.mem_append.mp hc with hc | hc
    · exact h.sets c hc
    · exact hexempt.sets c hc
  · exact h

/-- What is still lowered after a snapshot is not shown in it with a role. -/
theorem keys_foldl_exemptEntry (pid : DWORD) (snapshot : List ProcessEntry) (acc : AutoResult)
    (p : DWORD)
    (hp : p ∈ keys (snapshot.foldl (exemptEntry host r cfg pid) acc).auto.throttled) :
    p ∈ keys acc.auto.throttled ∧
      (p = pid → ∀ e ∈ snapshot, e.pid = pid → isConfigured host cfg e.name = false) := by
  -- By induction on the snapshot: one entry with a configured name is enough.
  induction snapshot generalizing acc with
  | nil => exact ⟨hp, fun _ e he => absurd he List.not_mem_nil⟩
  | cons a snapshot ih =>
      rw [List.foldl_cons] at hp
      rcases ih _ hp with ⟨hkeys, hrest⟩
      unfold exemptEntry at hkeys
      by_cases hrole : a.pid = pid ∧ isConfigured host cfg a.name = true
      · -- The process is exempted here.
        rw [if_pos hrole] at hkeys
        have hexempt := (keys_exempt (r := r) acc.auto pid p).mp hkeys
        exact ⟨hexempt.1, fun heq => absurd heq hexempt.2⟩
      · rw [if_neg hrole] at hkeys
        refine ⟨hkeys, fun heq e he hpid => ?_⟩
        rcases List.mem_cons.mp he with rfl | he
        · exact Bool.eq_false_iff.mpr fun hconfigured => hrole ⟨hpid, hconfigured⟩
        · exact hrest heq e he hpid

theorem keys_foldl_exemptAll (snapshot : DWORD → List ProcessEntry) (pids : List DWORD)
    (acc : AutoResult) (p : DWORD)
    (hp : p ∈ keys (pids.foldl (fun acc pid =>
      (snapshot pid).foldl (exemptEntry host r cfg pid) acc) acc).auto.throttled) :
    p ∈ keys acc.auto.throttled ∧
      (p ∈ pids → ∀ e ∈ snapshot p, e.pid = p → isConfigured host cfg e.name = false) := by
  -- Each process is exempted in its own turn, and no turn lowers one.
  induction pids generalizing acc with
  | nil => exact ⟨hp, fun hmem => absurd hmem List.not_mem_nil⟩
  | cons pid pids ih =>
      rw [List.foldl_cons] at hp
      rcases ih _ hp with ⟨hkeys, hrest⟩
      rcases keys_foldl_exemptEntry pid (snapshot pid) acc p hkeys with ⟨hbefore, hfirst⟩
      refine ⟨hbefore, fun hmem => ?_⟩
      rcases List.mem_cons.mp hmem with rfl | hmem
      · exact hfirst rfl
      · exact hrest hmem

/-- What a reload leaves lowered was lowered before, and the snapshot that is
    taken for it does not show it with a role. -/
theorem exempted_of_mem (reading : ReloadReadings) (auto : AutoProtector) (p : DWORD)
    (hp : p ∈ keys (reprotect host reading cfg auto).auto.throttled) :
    cfg.autoEnabled = true ∧ p ∈ keys auto.throttled ∧
      ∀ e ∈ reading.snapshot p, e.pid = p → isConfigured host cfg e.name = false := by
  rcases keys_foldl_exemptAll reading.snapshot _ _ p hp with ⟨hkeys, hshown⟩
  rcases keys_configure _ _ _ p hkeys with ⟨henabled, hbefore⟩
  exact ⟨henabled, hbefore, hshown hkeys⟩

/-- A reload touches only what was lowered before. -/
theorem within_reprotect (reading : ReloadReadings) (auto : AutoProtector)
    (h : ∀ p ∈ keys auto.throttled, P p) : Within P (reprotect host reading cfg auto) := by
  refine List.foldlRecOn _ _ (within_configure auto _ _ h) ?_
  intro acc hacc pid _
  exact List.foldlRecOn (reading.snapshot pid) _ hacc fun acc' hacc' e _ =>
    within_exemptEntry pid acc' e hacc'

end Exempting

section Ticks

variable {P : DWORD → Prop} (host : Host) (r : PollReadings) (d : DaemonState) (w : World)

/-- What the second half of a poll lowers or touches was lowered before, or it is
    in the process table without a role and without a machine. -/
theorem within_respond (c : Combined) (hthrottled : ∀ p ∈ keys d.autoProtect.throttled, P p)
    (hrows : ∀ row ∈ r.auto.rows d.autoProtect.essential,
      isConfigured host d.cfg row.name = false →
        (respond host r c d w).daemon.actuator.find row.pid = none → P row.pid) :
    (∀ p ∈ keys (respond host r c d w).daemon.autoProtect.throttled, P p) ∧
      ∀ a ∈ (respond host r c d w).sets, P a.1 := by
  let sampled : DaemonState :=
    { d with
      pressure := c.pressure.percent
      pressureSignal := c.pressure.signal
      criticalPid := c.pid }
  have hauto : (adapt r.externalBias c.pressure.percent sampled).autoProtect = d.autoProtect := by
    simp only [adapt]
    split <;> rfl
  have hcfg : (adapt r.externalBias c.pressure.percent sampled).cfg = d.cfg := by
    simp only [adapt]
    split <;> rfl
  -- The state that the ticks of `AutoProtector` see.
  let adapted := adapt r.externalBias c.pressure.percent sampled
  let updated := adapted.actuator.updateAll r.os c.pressure.percent w
  let settled : DaemonState :=
    { adapted with
      actuator := updated.manager
      tracker := if updated.returned then {} else
        (adapted.tracker.add c.pressure.percent adapted.effective).1
      adhoc := adapted.adhoc.filter fun pid => (updated.manager.find pid).isSome }
  have htick : Within P (tick r.auto (excluded host settled) adapted.autoProtect) := by
    refine within_tick _ _ (by rw [hauto]; exact hthrottled) ?_
    intro row hrow hincluded
    rw [hauto] at hrow
    rw [excluded, Bool.or_eq_false_iff] at hincluded
    have hrole : isConfigured host d.cfg row.name = false := by
      rw [← hcfg]
      exact hincluded.1
    exact hrows row hrow hrole (Option.not_isSome_iff_eq_none.mp (Bool.eq_false_iff.mp hincluded.2))
  exact ⟨htick.throttled, htick.sets⟩

theorem within_poll (hthrottled : ∀ p ∈ keys d.autoProtect.throttled, P p)
    (hrows : ∀ row ∈ r.auto.rows d.autoProtect.essential,
      isConfigured host d.cfg row.name = false →
        (poll host r d w).daemon.actuator.find row.pid = none → P row.pid) :
    (∀ p ∈ keys (poll host r d w).daemon.autoProtect.throttled, P p) ∧
      ∀ a ∈ (poll host r d w).sets, P a.1 := by
  rcases poll_cases host r d w with ⟨_, heq⟩ | ⟨c, _, heq⟩
  · rw [heq]
    exact ⟨hthrottled, fun _ ha => absurd ha List.not_mem_nil⟩
  · rw [heq] at hrows ⊢
    exact within_respond host r (sense host r d).1 w c hthrottled hrows

end Ticks

section Apart

variable (os : Platform) (instances : DWORD → UInt64 → Instance)

/-- No running process is under both controllers. -/
def Apart (s : System) : Prop :=
  ∀ p ∈ keys s.daemon.autoProtect.throttled, ∀ start, s.running p = some start →
    s.daemon.actuator.find p = none

/-- `AutoProtector` sets the priority class of no running process that has a
    machine. -/
def Undisturbed (s : System) (i : Event) : Prop :=
  ∀ c ∈ (progress os s i).sets, ∀ start, s.running c.1 = some start →
    (step os s i).daemon.actuator.find c.1 = none

/-- A command does not throttle or suspend what is lowered, unless it refuses to;
    and the snapshots of a reload show what is lowered and gets a batch name. -/
def Exclusive (s : System) : Event → Prop
  | .poll _ | .elsewhere _ _ => True
  | .command line r =>
      ∀ verb targets, commandTargets (r.env os.host) line = some (verb, targets) →
        verb = .throttle ∨ verb = .suspend →
          ∀ e ∈ targets, e.pid ∈ keys s.daemon.autoProtect.throttled →
            contains os.host s.daemon.cfg.criticalProcesses e.name = true ∨
              protects os.host s.daemon.cfg.protectedProcesses e.name e.pid = true
  | .reload text writable r =>
      ∀ cfg, parseConfig os text = .ok cfg → (writable && cfg.requireProtectedConfig) = false →
        cfg.autoEnabled = true →
          ∀ p ∈ keys s.daemon.autoProtect.throttled, ∀ start, s.running p = some start →
            contains os.host cfg.batchProcesses (instances p start).name = true →
              contains os.host cfg.protectedProcesses (instances p start).name = false →
                ∃ e ∈ r.snapshot p, e.pid = p

/-- What is lowered has no machine, and no poll will give it one. -/
structure Separate (s : System) : Prop where
  protectedNames : s.daemon.actuator.protectedNames = s.daemon.cfg.protectedProcesses
  unmanaged : Apart s
  roleless : ∀ p ∈ keys s.daemon.autoProtect.throttled, ∀ start, s.running p = some start →
    contains os.host s.daemon.cfg.batchProcesses (instances p start).name = true →
      contains os.host s.daemon.cfg.protectedProcesses (instances p start).name = true

variable {os instances}

/-- A protected name protects under every spelling. -/
theorem protects_of_contains (host : Host) (names : List WString) (name b : WString) (pid : DWORD)
    (hname : contains host names name = true) (hsame : namesEqualIgnoreCase host name b = true) :
    protects host names b pid = true := by
  rcases (contains_iff _ _).mp hname with ⟨n, hn, heq⟩
  rw [namesEqual_iff] at heq hsame
  have hany : names.any (namesEqualIgnoreCase host b) = true :=
    List.any_eq_true.mpr ⟨n, hn, (namesEqual_iff _ _).mpr (heq.trans hsame).symm⟩
  rw [protects, hany, Bool.or_true]

/-- What a poll finds under a batch name is not lowered. -/
theorem not_found_of_lowered (s : System) (r : PollReadings) (hlaw : Lawful instances s (.poll r))
    (h : Separate os instances s) (p : DWORD) (hp : p ∈ keys s.daemon.autoProtect.throttled)
    (start : UInt64) (hstart : s.running p = some start) (a : Holding Rat)
    (hpid : a.batchProcessId = p) :
    ¬ Found os.host (admitted os.host r s.daemon) s.daemon.cfg.batchProcesses
      s.daemon.actuator a := by
  intro hfound
  rcases hfound.listed with ⟨e, he, hid, hsame⟩
  rcases hlaw.1 e (mem_snapshot_of_admitted os.host r s.daemon e he) with
    ⟨start', hrunning, hname⟩
  rw [hid, hpid, hstart] at hrunning
  cases hrunning
  rw [hid, hpid] at hname
  -- The name is a batch name, so it is protected, and then nothing is added.
  have hbatch : contains os.host s.daemon.cfg.batchProcesses (instances p start).name = true := by
    rw [hname, contains_iff]
    exact ⟨a.batchProcessName, hfound.batch,
      (namesEqual_iff _ _).mpr ((namesEqual_iff _ _).mp hsame).symm⟩
  have hprotected := h.roleless p hp start hstart hbatch
  rw [hname, ← h.protectedNames] at hprotected
  have hrefused := protects_of_contains os.host _ e.name a.batchProcessName a.batchProcessId
    hprotected hsame
  exact Bool.false_ne_true (hfound.allowed.symm.trans hrefused)

theorem separate_poll (s : System) (r : PollReadings) (hlaw : Lawful instances s (.poll r))
    (h : Separate os instances s) :
    Separate os instances (step os s (.poll r)) ∧ Undisturbed os s (.poll r) := by
  let after := (poll os.host r s.daemon s.world).daemon
  -- No machine is made for what was lowered before.
  have hfree : ∀ p ∈ keys s.daemon.autoProtect.throttled, ∀ start, s.running p = some start →
      after.actuator.find p = none := by
    intro p hp start hstart
    rw [find_eq_none_iff]
    intro h' hh' hpid
    rcases (poll_spec os.host r s.daemon s.world).1 h' hh' with ⟨a, hlike, hheld | hfound⟩
    · have hnone := (find_eq_none_iff _ _).mp (h.unmanaged p hp start hstart) a hheld
      exact hnone (hlike.batchProcessId.symm.trans hpid)
    · exact not_found_of_lowered s r hlaw h p hp start hstart a
        (hlike.batchProcessId.symm.trans hpid) hfound
  have hwithin := within_poll (P := fun p => ∀ start, s.running p = some start →
      after.actuator.find p = none ∧
        (contains os.host s.daemon.cfg.batchProcesses (instances p start).name = true →
          contains os.host s.daemon.cfg.protectedProcesses (instances p start).name = true))
    os.host r s.daemon s.world
    (fun p hp start hstart => ⟨hfree p hp start hstart, h.roleless p hp start hstart⟩)
    (by
      -- What is lowered now has no role, so its name is no batch name.
      intro row hrow hrole hnone start hstart
      rcases hlaw.2 _ ⟨row.name, row.pid⟩ (List.mem_map_of_mem hrow) with ⟨start', hrunning, hname⟩
      rw [hrunning] at hstart
      cases hstart
      refine ⟨hnone, fun hbatch => ?_⟩
      rw [isConfigured, Bool.or_eq_false_iff, Bool.or_eq_false_iff] at hrole
      rw [hname] at hbatch
      exact absurd (hrole.1.2.symm.trans hbatch) Bool.false_ne_true)
  have hcfg := cfg_poll os.host r s.daemon s.world
  refine ⟨⟨?_, fun p hp start hstart => (hwithin.1 p hp start hstart).1, ?_⟩,
    fun c hc start hstart => (hwithin.2 c hc start hstart).1⟩
  · change after.actuator.protectedNames = after.cfg.protectedProcesses
    rw [hcfg]
    exact (protectedNames_poll os.host r s.daemon s.world).trans h.protectedNames
  · intro p hp start hstart
    change contains os.host after.cfg.batchProcesses _ = true →
      contains os.host after.cfg.protectedProcesses _ = true
    rw [hcfg]
    exact (hwithin.1 p hp start hstart).2

/-- A command lowers nothing, and it touches what is lowered only to restore it. -/
theorem within_command {P : DWORD → Prop} (host : Host) (line : Bytes) (r : CommandReadings)
    (d : DaemonState) (w : World) (h : ∀ p ∈ keys d.autoProtect.throttled, P p) :
    (∀ p ∈ keys (command host line r d w).daemon.autoProtect.throttled, P p) ∧
      ∀ c ∈ (command host line r d w).sets, P c.1 := by
  unfold command
  rcases handleCommand (r.env host) (d.seen r.connected) w line with e | out
  · exact ⟨h, fun _ hc => absurd hc List.not_mem_nil⟩
  · have hwithin : Within P (out.exempted.foldl (exemptTarget r.auto) { auto := d.autoProtect }) :=
      List.foldlRecOn out.exempted (exemptTarget r.auto)
        ⟨h, fun _ hc => absurd hc List.not_mem_nil⟩
        fun acc hacc e _ => within_exemptTarget acc e hacc
    exact ⟨hwithin.throttled, hwithin.sets⟩

/-- The lists of names are those of `s`, and nothing that `s` has lowered has a
    machine. -/
structure Unmanaged (s : System) (d : Daemon) : Prop where
  criticalProcesses : d.criticalProcesses = s.daemon.cfg.criticalProcesses
  protectedNames : d.actuator.protectedNames = s.daemon.cfg.protectedProcesses
  lowered : ∀ p ∈ keys s.daemon.autoProtect.throttled, ∀ start, s.running p = some start →
    d.actuator.find p = none

/-- No target that is lowered gets a machine. -/
theorem unmanaged_act (s : System) (line : Bytes) (r : CommandReadings)
    (hgood : Exclusive os instances s (.command line r)) (verb : Manage)
    (targets : List ProcessEntry)
    (htargets : commandTargets (r.env os.host) line = some (verb, targets))
    (e : ProcessEntry) (he : e ∈ targets) (d : Daemon) (w : World) (h : Unmanaged s d) :
    Unmanaged s (act (r.env os.host) e d w verb).1.daemon := by
  rcases acted_act (r.env os.host) e d w verb with ⟨hacted, hframed⟩
  refine ⟨hframed.criticalProcesses.trans h.criticalProcesses,
    hframed.protectedNames.trans h.protectedNames, ?_⟩
  intro p hp start hstart
  have hold := (find_eq_none_iff _ _).mp (h.lowered p hp start hstart)
  rw [find_eq_none_iff]
  intro a ha hpid
  cases hacted a ha with
  | kept _ hh => exact hold a hh hpid
  | held b hh _ _ => exact hold b hh hpid
  | freed m hm _ _ _ =>
      exact hold m.holding (holding_mem_of_find d.actuator e.pid m hm).1 hpid
  | added hcritical hverb hfree hallowed =>
      -- A new machine is for a target that is not refused, so it is not lowered.
      change e.pid = p at hpid
      rcases hgood verb targets htargets hverb e he (by rw [hpid]; exact hp) with hc | hc
      · rw [← h.criticalProcesses] at hc
        exact Bool.false_ne_true (hcritical.symm.trans hc)
      · rw [← h.protectedNames] at hc
        exact Bool.false_ne_true (hallowed.symm.trans hc)

theorem separate_command (s : System) (line : Bytes) (r : CommandReadings)
    (hgood : Exclusive os instances s (.command line r)) (h : Separate os instances s) :
    Separate os instances (step os s (.command line r)) ∧
      Undisturbed os s (.command line r) := by
  have hmachines := commandEffect_invariant (Unmanaged s) line
    (fun verb targets htargets e he _ d w =>
      unmanaged_act s line r hgood verb targets htargets e he d w)
    (s.daemon.seen r.connected) s.world ⟨rfl, h.protectedNames, h.unmanaged⟩
  have hactuator := (command_eq os.host line r s.daemon s.world).1
  have hwithin := within_command (P := fun p => p ∈ keys s.daemon.autoProtect.throttled) os.host
    line r s.daemon s.world fun p hp => hp
  have hcfg := cfg_command os.host line r s.daemon s.world
  -- What is lowered afterwards was lowered before, so it has no machine.
  have hlowered := hmachines.lowered
  have hnames := hmachines.protectedNames
  rw [← hactuator] at hlowered hnames
  refine ⟨⟨?_, fun p hp => hlowered p (hwithin.1 p hp), ?_⟩,
    fun c hc => hlowered c.1 (hwithin.2 c hc)⟩
  · change _ = (command os.host line r s.daemon s.world).daemon.cfg.protectedProcesses
    rw [hcfg]
    exact hnames
  · intro p hp start hstart
    change contains os.host (command os.host line r s.daemon s.world).daemon.cfg.batchProcesses _
        = true →
      contains os.host (command os.host line r s.daemon s.world).daemon.cfg.protectedProcesses _
        = true
    rw [hcfg]
    exact h.roleless p (hwithin.1 p hp) start hstart

/-- A reload drops machines, and what is lowered afterwards has no role that the
    snapshots show. -/
theorem separate_applyConfig (s : System) (cfg : DaemonConfig) (r : ReloadReadings)
    (hlaw : ∀ p, s.Lists instances (r.snapshot p)) (h : Separate os instances s)
    (hshown : cfg.autoEnabled = true →
      ∀ p ∈ keys s.daemon.autoProtect.throttled, ∀ start, s.running p = some start →
        contains os.host cfg.batchProcesses (instances p start).name = true →
          contains os.host cfg.protectedProcesses (instances p start).name = false →
            ∃ e ∈ r.snapshot p, e.pid = p) :
    Separate os instances
        { s with daemon := (applyConfig os.host r cfg s.daemon s.world).daemon } ∧
      ∀ c ∈ (applyConfig os.host r cfg s.daemon s.world).sets, ∀ start,
        s.running c.1 = some start →
          (applyConfig os.host r cfg s.daemon s.world).daemon.actuator.find c.1 = none := by
  let effective := (s.daemon.adaptive.setSettings (toAdaptive cfg)).adjust
    (toStateMachineConfig cfg) (s.daemon.bias r.externalBias)
  rcases reconfigure_spec os.host r.os cfg effective s.daemon.adhoc s.daemon.actuator s.world with
    ⟨hholdings, _, hnames⟩
  have hfree : ∀ p ∈ keys s.daemon.autoProtect.throttled, ∀ start, s.running p = some start →
      (applyConfig os.host r cfg s.daemon s.world).daemon.actuator.find p = none := by
    intro p hp start hstart
    rw [find_eq_none_iff]
    intro a ha
    change a ∈ (reconfigure os.host r.os cfg effective s.daemon.adhoc s.daemon.actuator
      s.world).manager.holdings at ha
    rw [hholdings] at ha
    rcases List.mem_map.mp (List.mem_of_mem_filter ha) with ⟨b, hb, rfl⟩
    exact (find_eq_none_iff _ _).mp (h.unmanaged p hp start hstart) b hb
  have hwithin := @within_reprotect os.host cfg
    (fun p => p ∈ keys s.daemon.autoProtect.throttled) r s.daemon.autoProtect fun p hp => hp
  refine ⟨⟨hnames, fun p hp => hfree p (hwithin.throttled p hp), ?_⟩,
    fun c hc => hfree c.1 (hwithin.sets c hc)⟩
  intro p hp start hstart hbatch
  by_contra hprotected
  rcases exempted_of_mem r s.daemon.autoProtect p hp with ⟨henabled, hbefore, hroleless⟩
  -- The snapshot shows the process, so it was exempted.
  rcases hshown henabled p hbefore start hstart hbatch (Bool.eq_false_iff.mpr hprotected) with
    ⟨e, he, hpid⟩
  rcases hlaw p e he with ⟨start', hrunning, hname⟩
  rw [hpid, hstart] at hrunning
  cases hrunning
  have hrole := hroleless e he hpid
  rw [isConfigured, Bool.or_eq_false_iff, Bool.or_eq_false_iff] at hrole
  rw [hpid] at hname
  rw [hname] at hbatch
  exact Bool.false_ne_true (hrole.1.2.symm.trans hbatch)

/-- An exclusive step keeps the controllers apart, and `AutoProtector` touches
    nothing that has a machine. -/
theorem separate_step (s : System) (i : Event) (hlaw : Lawful instances s i)
    (hgood : Exclusive os instances s i) (h : Separate os instances s) :
    Separate os instances (step os s i) ∧ Undisturbed os s i := by
  cases i with
  | poll r => exact separate_poll s r hlaw h
  | command line r => exact separate_command s line r hgood h
  | reload text writable r =>
      have hnothing : Separate os instances s ∧ ∀ c ∈ ([] : List (DWORD × PriorityClass)),
          ∀ start, s.running c.1 = some start → s.daemon.actuator.find c.1 = none :=
        ⟨h, fun _ hc => absurd hc List.not_mem_nil⟩
      simp only [step, progress, Undisturbed]
      rcases reload_cases text writable r s.daemon s.world with
        heq | ⟨cfg, hparse, haccepts, heq⟩
      · rw [heq]
        exact hnothing
      · rw [heq]
        have happly := separate_applyConfig s cfg r hlaw h (hgood cfg hparse haccepts)
        exact ⟨⟨happly.1.protectedNames, happly.1.unmanaged, happly.1.roleless⟩, happly.2⟩
  | elsewhere world running =>
      refine ⟨⟨h.protectedNames, ?_, ?_⟩, fun _ hc => absurd hc List.not_mem_nil⟩
      -- The process ids of what is lowered are not handed out.
      · intro p hp start hstart
        exact h.unmanaged p hp start (hlaw p start (Or.inr (Or.inl hp)) hstart)
      · intro p hp start hstart
        exact h.roleless p hp start (hlaw p start (Or.inr (Or.inl hp)) hstart)

/-- In a run of exclusive steps from `Initialize` on, no process is ever under
    both controllers, and `AutoProtector` never touches one that has a machine. -/
theorem run_apart (cfg : { cfg : DaemonConfig // Accepted os cfg }) (r : ReloadReadings)
    (cores : Nat) (remoteStopEvent : Bool) (w : World) (running : DWORD → Option UInt64)
    (l : List Event)
    (hl : Along (step os) (Lawful instances) (start os cfg r cores remoteStopEvent w running) l)
    (hgood : Along (step os) (Exclusive os instances)
      (start os cfg r cores remoteStopEvent w running) l) :
    Throughout (step os) Apart (start os cfg r cores remoteStopEvent w running) l ∧
      Along (step os) (Undisturbed os) (start os cfg r cores remoteStopEvent w running) l := by
  have hstart : Separate os instances (start os cfg r cores remoteStopEvent w running) := by
    let d : DaemonState := { cores := cores, remoteStopEvent := remoteStopEvent }
    let effective := (d.adaptive.setSettings (toAdaptive cfg.1)).adjust
      (toStateMachineConfig cfg.1) (d.bias r.externalBias)
    -- Nothing is lowered yet.
    have hnothing : ∀ p,
        p ∉ keys (start os cfg r cores remoteStopEvent w running).daemon.autoProtect.throttled :=
      fun p hp => absurd (exempted_of_mem r d.autoProtect p hp).2.1 List.not_mem_nil
    exact ⟨(reconfigure_spec os.host r.os cfg.1 effective d.adhoc d.actuator w).2.2,
      fun p hp => absurd hp (hnothing p), fun p hp => absurd hp (hnothing p)⟩
  have hboth := along_and (step os) _ _ _ l hl hgood
  refine ⟨throughout_of_along (step os)
    (fun s i => Lawful instances s i ∧ Exclusive os instances s i) (Separate os instances) Apart
    (fun s h => h.unmanaged) (fun s i hi h => (separate_step s i hi.1 hi.2 h).1) l _ hboth hstart,
    ?_⟩
  exact along_of_along (step os)
    (fun s i => Lawful instances s i ∧ Exclusive os instances s i) (Undisturbed os)
    (Separate os instances) (fun s i hi h => (separate_step s i hi.1 hi.2 h).1)
    (fun s i hi h => (separate_step s i hi.1 hi.2 h).2) l _ hboth hstart

end Apart

section Lowered

/-- Nothing is configured. -/
def loweredPlatform : Platform :=
  samplePlatform (sampleDocument [] [] []) (sampleDocument [] [] [])

/-- `a.exe` runs. -/
def loweredInstances : DWORD → UInt64 → Instance :=
  fun _ _ => ⟨wide "a.exe", wide "C:\\a.exe", []⟩

/-- `a.exe` runs. -/
def loweredSnapshot : List ProcessEntry := [⟨wide "a.exe", 4821⟩]

/-- The daemon after `Initialize`. -/
def loweredStart : System :=
  start loweredPlatform ⟨sampleConfig [] [] [], [], rfl⟩ (sampleReload []) 1 true sampleWorld
    (sampleRunning loweredSnapshot)

/-- The machine is overloaded, and `a.exe` uses most of it. -/
def loweredPoll : Event :=
  .poll (samplePoll loweredSnapshot (fun _ => wide "C:\\a.exe")
    (sampleAuto 95 [⟨4821, wide "a.exe", 80, true, .normal⟩]) 10000000)

/-- A command. -/
def loweredCommand (line : String) : Event := .command (ascii line) (sampleCommand loweredSnapshot)

theorem lists_lowered (s : System) (h : s.running = sampleRunning loweredSnapshot) :
    s.Lists loweredInstances loweredSnapshot := by
  intro e he
  rw [List.mem_singleton.mp he, h]
  exact ⟨1, rfl, rfl⟩

theorem lawful_loweredPoll (s : System) (h : s.running = sampleRunning loweredSnapshot) :
    Lawful loweredInstances s loweredPoll :=
  ⟨lists_lowered s h, fun _ => lists_lowered s h⟩

/-- `a.exe` is lowered, and a command resumes it. -/
theorem run_apart_resumed :
    Throughout (step loweredPlatform) Apart loweredStart
        [loweredPoll, loweredCommand "resume a.exe"] ∧
      Along (step loweredPlatform) (Undisturbed loweredPlatform) loweredStart
        [loweredPoll, loweredCommand "resume a.exe"] := by
  refine @run_apart _ loweredInstances _ _ _ _ _ _ _
    ⟨lawful_loweredPoll _ rfl, lists_lowered _ rfl, trivial⟩ ⟨trivial, ?_, trivial⟩
  -- The command is `resume`, which picks up nothing.
  intro verb targets htargets hverb
  have hresume : commandTargets ((sampleCommand loweredSnapshot).env loweredPlatform.host)
      (ascii "resume a.exe") = some (.resume, loweredSnapshot) := rfl
  rw [hresume] at htargets
  cases htargets
  rcases hverb with h | h
  · cases h
  · cases h

/-- `a.exe` is lowered, and a command throttles it. -/
theorem not_apart_throttled :
    Along (step loweredPlatform) (Lawful loweredInstances) loweredStart
        [loweredPoll, loweredCommand "throttle a.exe"] ∧
      ¬ Throughout (step loweredPlatform) Apart loweredStart
        [loweredPoll, loweredCommand "throttle a.exe"] := by
  refine ⟨⟨lawful_loweredPoll _ rfl, lists_lowered _ rfl, trivial⟩, ?_⟩
  intro h
  -- After the command the process is in the list and has a machine.
  have hlowered : 4821 ∈ keys (run (step loweredPlatform) loweredStart
      [loweredPoll, loweredCommand "throttle a.exe"]).daemon.autoProtect.throttled := by
    decide +kernel
  have hmanaged : ((run (step loweredPlatform) loweredStart
      [loweredPoll, loweredCommand "throttle a.exe"]).daemon.actuator.find 4821).isSome = true := by
    decide +kernel
  rw [throughout_final _ _ _ _ h 4821 hlowered 1 rfl] at hmanaged
  cases hmanaged

end Lowered

end Service

end ThreadHaul
