import ThreadHaul.Service.System
import Mathlib.Tactic.Linarith

/-!
# The Thresholds in Force

The configured thresholds and the ones that are in force are not the same: the
throttle and the escalate threshold are lowered by what the forecast and the
controller ask for, under two caps, and machines that were there before a change
have to hear of it as well as machines that come after it.

`InForce` says how the two are related, whatever happens. The daemon, the
manager and all machines have one configuration, it is the configured one with
two thresholds lowered by one amount, and the band between recovery and throttle
never closes.

The amount is computed from what the daemon keeps of its configuration, so the
invariant `Following` is about that, and about what the machines hold.

## Main definitions

* `Lowered`: A configuration with two thresholds lowered by one amount.
* `Following`: The daemon follows its configuration.
* `InForce`: What is in force.
* `Configured`: What is kept from target to target of a command.
* `Event.configures`: The configuration after an event.

## Theorems

* `lowered_adjust`: What `Adjust` does to an accepted configuration.
* `following_step`: Every step.
* `run_inForce`: Every run from `Initialize` on.
-/

namespace ThreadHaul

namespace Service

open Actuator Telemetry Config Runs

/-- The thresholds of a configuration, with two of them lowered by one amount. -/
structure Lowered (cfg : DaemonConfig) (eff : StateMachineConfig Rat) (amount : Rat) : Prop where
  nonneg : 0 ≤ amount
  le_maxAdjust : amount ≤ cfg.adaptiveMaxAdjustPercent
  throttle : eff.throttleThresholdPercent = cfg.high.percent - amount
  escalate : eff.escalateThresholdPercent = cfg.critical.percent - amount
  recover : eff.recoverThresholdPercent = cfg.low.percent
  throttleSamples : eff.throttleConsecutiveSamples.toInt = cfg.high.consecutiveSamples
  escalateSamples : eff.escalateConsecutiveSamples.toInt = cfg.critical.consecutiveSamples
  recoverSamples : eff.recoverConsecutiveSamples.toInt = cfg.low.consecutiveSamples
  band : min cfg.high.percent (cfg.low.percent + 1) ≤ eff.throttleThresholdPercent

/-- The daemon, the manager and every machine have one configuration, and it is
    the configured one, lowered and sound. -/
structure InForce (d : DaemonState) : Prop where
  manager : d.actuator.config = d.effective
  machines : ∀ m ∈ d.actuator.machines, m.config = d.effective
  lowered : ∃ amount, Lowered d.cfg d.effective amount
  sound : d.effective.Sound

/-- The daemon follows its configuration. -/
structure Following (os : Platform) (d : DaemonState) : Prop where
  accepted : Accepted os d.cfg
  base : d.base = toStateMachineConfig d.cfg
  settings : d.adaptive.settings = toAdaptive d.cfg
  effective : ∃ a : AdaptiveThresholds, a.settings = toAdaptive d.cfg ∧
    ∃ bias, d.effective = a.adjust d.base bias
  manager : d.actuator.config = d.effective
  holdings : ∀ h ∈ d.actuator.holdings, h.config = d.effective

section Amount

variable {os : Platform}

/-- A count that is accepted is the same as an `int`. -/
theorem toInt_ofInt_samples (n : Int) (h : 1 ≤ n ∧ n ≤ 100) : (Int32.ofInt n).toInt = n := by
  refine Int32.toInt_ofInt_of_le ?_ ?_
  · omega
  · omega

/-- `Adjust` lowers two thresholds by one amount under both caps. -/
theorem lowered_adjust (cfg : DaemonConfig) (hcfg : Accepted os cfg) (a : AdaptiveThresholds)
    (ha : a.settings = toAdaptive cfg) (bias : Rat) :
    Lowered cfg (a.adjust (toStateMachineConfig cfg) bias)
      (a.offset (toStateMachineConfig cfg) bias) := by
  rcases hcfg with ⟨text, hparse⟩
  have hmax : a.settings.maxAdjustPercent = cfg.adaptiveMaxAdjustPercent := by
    rw [ha]
    rfl
  -- The two bounds on the offset: the setting, and the room above recovery.
  have hcap := a.offset_le_maxAdjust (toStateMachineConfig cfg) bias
    (by rw [hmax]; exact (adaptive_range text cfg hparse).1)
  have hroom := a.offset_le_room (toStateMachineConfig cfg) bias
  have hsamples := samples_range text cfg hparse
  refine
    { nonneg := a.offset_nonneg _ bias
      le_maxAdjust := by rw [← hmax]; exact hcap
      throttle := rfl
      escalate := rfl
      recover := rfl
      throttleSamples := toInt_ofInt_samples _ (hsamples _ (by simp))
      escalateSamples := toInt_ofInt_samples _ (hsamples _ (by simp))
      recoverSamples := toInt_ofInt_samples _ (hsamples _ (by simp))
      band := ?_ }
  change min cfg.high.percent (cfg.low.percent + 1)
    ≤ cfg.high.percent - a.offset (toStateMachineConfig cfg) bias
  change a.offset (toStateMachineConfig cfg) bias
    ≤ max 0 (cfg.high.percent - cfg.low.percent - 1) at hroom
  rcases le_total 0 (cfg.high.percent - cfg.low.percent - 1) with hpos | hneg
  · -- The room ends one point above recovery.
    rw [max_eq_right hpos] at hroom
    refine le_trans (min_le_right _ _) ?_
    linarith
  · -- There is no room, and nothing is lowered.
    rw [max_eq_left hneg] at hroom
    refine le_trans (min_le_left _ _) ?_
    linarith

/-- A daemon that follows its configuration has sound thresholds in force. -/
theorem inForce_of_following (d : DaemonState) (h : Following os d) : InForce d := by
  rcases h.effective with ⟨a, ha, bias, heffective⟩
  rw [h.base] at heffective
  refine ⟨h.manager, ?_, ?_, ?_⟩
  · intro m hm
    exact h.holdings m.holding (List.mem_map_of_mem hm)
  · rw [heffective]
    exact ⟨_, lowered_adjust d.cfg h.accepted a ha bias⟩
  · rcases h.accepted with ⟨text, hparse⟩
    have hthresholds := thresholds_sound text d.cfg hparse
    rw [heffective]
    exact a.sound_adjust _ bias ⟨hthresholds.1, hthresholds.2⟩

end Amount

section Steps

variable {os : Platform}

/-- A configuration that is applied is followed. -/
theorem following_applyConfig (r : ReloadReadings) (cfg : DaemonConfig) (hcfg : Accepted os cfg)
    (d : DaemonState) (w : World) : Following os (applyConfig os.host r cfg d w).daemon := by
  let effective := (d.adaptive.setSettings (toAdaptive cfg)).adjust (toStateMachineConfig cfg)
    (d.bias r.externalBias)
  rcases reconfigure_spec os.host r.os cfg effective d.adhoc d.actuator w with
    ⟨hholdings, hconfig, _⟩
  refine ⟨hcfg, rfl, rfl, ⟨_, rfl, _, rfl⟩, hconfig, ?_⟩
  intro h hh
  change h ∈ (reconfigure os.host r.os cfg effective d.adhoc d.actuator w).manager.holdings at hh
  rw [hholdings] at hh
  rcases List.mem_map.mp (List.mem_of_mem_filter hh) with ⟨h', _, rfl⟩
  rfl

/-- What is found gets the configuration of the manager. -/
theorem following_sense (r : PollReadings) (d : DaemonState) (h : Following os d) :
    Following os (sense os.host r d).1 := by
  have hdiscovered := discovered_sense os.host r d
  refine ⟨h.accepted, h.base, h.settings, h.effective, hdiscovered.config.trans h.manager, ?_⟩
  intro a ha
  rcases hdiscovered.holdings a ha with hold | hfound
  · exact h.holdings a hold
  · exact hfound.config.trans h.manager

/-- An adjustment reaches the manager and every machine. -/
theorem following_adapt (externalBias pressure : Rat) (d : DaemonState) (h : Following os d) :
    Following os (adapt externalBias pressure d) := by
  unfold adapt
  dsimp only
  split_ifs with hmoved
  · refine ⟨h.accepted, h.base, h.settings,
      ⟨d.adaptive.addSample pressure, h.settings, d.bias externalBias, rfl⟩, rfl, ?_⟩
    intro a ha
    rw [holdings_setConfig] at ha
    rcases List.mem_map.mp ha with ⟨a', _, rfl⟩
    rfl
  · exact ⟨h.accepted, h.base, h.settings, h.effective, h.manager, h.holdings⟩

theorem following_respond (r : PollReadings) (c : Combined) (d : DaemonState) (w : World)
    (h : Following os d) : Following os (respond os.host r c d w).daemon := by
  let sampled : DaemonState :=
    { d with
      pressure := c.pressure.percent
      pressureSignal := c.pressure.signal
      criticalPid := c.pid }
  have hsampled : Following os sampled :=
    ⟨h.accepted, h.base, h.settings, h.effective, h.manager, h.holdings⟩
  -- That the pressure is recorded changes nothing that is followed.
  have hadapted := following_adapt r.externalBias c.pressure.percent sampled hsampled
  refine ⟨hadapted.accepted, hadapted.base, hadapted.settings, hadapted.effective,
    hadapted.manager, ?_⟩
  intro a ha
  exact hadapted.holdings a ((holdings_updateAll r.os _ c.pressure.percent w).subset ha)

theorem following_poll (r : PollReadings) (d : DaemonState) (w : World) (h : Following os d) :
    Following os (poll os.host r d w).daemon := by
  have hsense := following_sense r d h
  rcases poll_cases os.host r d w with ⟨_, heq⟩ | ⟨c, _, heq⟩
  · rw [heq]
    exact hsense
  · rw [heq]
    exact following_respond r c _ w hsense

/-- The manager and its machines have the effective configuration. -/
structure Configured (effective : StateMachineConfig Rat) (d : Daemon) : Prop where
  manager : d.actuator.config = effective
  holdings : ∀ a ∈ d.actuator.holdings, a.config = effective

/-- A machine that a command adds gets the configuration of the manager. -/
theorem configured_act (env : Env) (e : ProcessEntry) (effective : StateMachineConfig Rat)
    (d : Daemon) (w : World) (verb : Manage) (h : Configured effective d) :
    Configured effective (act env e d w verb).1.daemon := by
  rcases acted_act env e d w verb with ⟨hacted, hframed⟩
  refine ⟨hframed.config.trans h.manager, ?_⟩
  intro a ha
  cases hacted a ha with
  | kept _ hh => exact h.holdings a hh
  | held b hh hpid hcritical => exact h.holdings b hh
  | freed m hm hcritical hverb hkept =>
      exact h.holdings m.holding (holding_mem_of_find d.actuator e.pid m hm).1
  | added hcritical hverb hfree hallowed => exact h.manager

theorem following_command (line : Bytes) (r : CommandReadings) (d : DaemonState) (w : World)
    (h : Following os d) : Following os (command os.host line r d w).daemon := by
  -- A machine that the command adds gets the thresholds in force.
  have heffect := @commandEffect_invariant (r.env os.host) (Configured d.effective) line
    (fun verb _ _ e _ _ d' w' => configured_act _ e d.effective d' w' verb)
    (d.seen r.connected) w ⟨h.manager, h.holdings⟩
  have hmachines := (command_eq os.host line r d w).1
  unfold command at hmachines ⊢
  rcases hout : handleCommand (r.env os.host) (d.seen r.connected) w line with e | out
  · exact h
  · rw [hout] at hmachines
    refine ⟨h.accepted, h.base, h.settings, h.effective, ?_, ?_⟩
    · exact (congrArg _ hmachines).trans heffect.manager
    · intro a ha
      exact heffect.holdings a (hmachines ▸ ha)

theorem following_step (s : System) (i : Event) (h : Following os s.daemon) :
    Following os (step os s i).daemon := by
  cases i with
  | poll r => exact following_poll r s.daemon s.world h
  | reload text writable r =>
      simp only [step, progress]
      rcases reload_cases text writable r s.daemon s.world with heq | ⟨cfg, hparse, _, heq⟩
      · rw [heq]
        exact h
      · rw [heq]
        exact following_applyConfig r cfg ⟨text, hparse⟩ s.daemon s.world
  | command line r => exact following_command line r s.daemon s.world h
  | elsewhere world running => exact h

/-- The configuration after an event: what a file says that is accepted, and that only
    administrators can write if it asks for that. -/
def Event.configures (os : Platform) (cfg : DaemonConfig) : Event → DaemonConfig
  | .reload text writable _ =>
      match parseConfig os text with
      | .error _ => cfg
      | .ok cfg' => if writable && cfg'.requireProtectedConfig then cfg else cfg'
  | .poll _ | .command _ _ | .elsewhere _ _ => cfg

/-- The daemon goes by the configuration of the last reload that was accepted. -/
theorem cfg_step (s : System) (i : Event) :
    (step os s i).daemon.cfg = i.configures os s.daemon.cfg := by
  -- Only a reload that is accepted changes the configuration.
  cases i with
  | poll r => exact cfg_poll os.host r s.daemon s.world
  | reload text writable r =>
      change (reload os text writable r s.daemon s.world).daemon.cfg = _
      unfold reload Event.configures
      dsimp only
      cases parseConfig os text with
      | error e => rfl
      | ok cfg =>
          dsimp only
          split_ifs
          · rfl
          · rfl
  | command line r => exact cfg_command os.host line r s.daemon s.world
  | elsewhere world running => rfl

end Steps

/-- After any run from `Initialize` on, the configuration is that of the last reload that
    was accepted, and what is in force is sound and follows it. -/
theorem run_inForce (os : Platform) (cfg : { cfg : DaemonConfig // Accepted os cfg })
    (r : ReloadReadings) (cores : Nat) (remoteStopEvent : Bool) (w : World)
    (running : DWORD → Option UInt64) (l : List Event) :
    (run (step os) (start os cfg r cores remoteStopEvent w running) l).daemon.cfg =
        l.foldl (Event.configures os) cfg.1 ∧
      InForce (run (step os) (start os cfg r cores remoteStopEvent w running) l).daemon := by
  refine ⟨run_foldl (step os) (fun s => s.daemon.cfg) (Event.configures os) cfg_step l _, ?_⟩
  refine @inForce_of_following os _ ?_
  refine run_invariant (step os) (fun s => Following os s.daemon) following_step l _ ?_
  exact following_applyConfig r cfg.1 cfg.2 _ w

end Service

end ThreadHaul
