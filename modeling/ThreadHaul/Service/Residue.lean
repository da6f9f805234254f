import ThreadHaul.Service.Thresholds

/-!
# What Adaptation Leaves

The thresholds in force are the configured ones, lowered by some amount, and the
amount follows what `Offset` asks for only when the two are half a point apart. So
after a rise the amount goes back to nothing if it was half a point or more, and
a smaller one stays for as long as nothing more is asked for.

`residue_poll` is the whole of it: one number, the amount, and one step of it,
`settle`. `along_settled_iff` then says which runs leave something behind.

## Main definitions

* `lowerBy`: Thresholds lowered by an amount.
* `residue`: The amount in force.
* `settle`: One step of the amount.
* `asked`: What `Offset` says in a poll.
* `Settled`: A poll in which nothing is asked for ends with the configured
  thresholds.
* `NearlySettled`: A poll ends with less than half a point to go.
* `LeavesNothing`: A poll in which nothing is asked for starts with an amount that
  goes away.

## Theorems

* `abs_settle_sub`: The amount is less than half a point off.
* `residue_poll`: A poll is one step of the amount.
* `along_settled_iff`: Every run.
-/

namespace ThreadHaul

namespace Service

open Actuator Telemetry Config Runs

section Amounts

/-- A configuration with the throttle and the escalate threshold lowered. -/
def lowerBy (base : StateMachineConfig Rat) (amount : Rat) : StateMachineConfig Rat :=
  { base with
    throttleThresholdPercent := base.throttleThresholdPercent - amount
    escalateThresholdPercent := base.escalateThresholdPercent - amount }

/-- The amount by which the throttle threshold in force is lowered. -/
def residue (d : DaemonState) : Rat :=
  d.base.throttleThresholdPercent - d.effective.throttleThresholdPercent

/-- The amount follows what is wanted once it is half a point off. -/
def settle (amount wanted : Rat) : Rat :=
  if 1 / 2 ≤ |amount - wanted| then wanted else amount

theorem lowerBy_eq_base_iff (base : StateMachineConfig Rat) (amount : Rat) :
    lowerBy base amount = base ↔ amount = 0 := by
  constructor
  · intro h
    have hthrottle := congrArg StateMachineConfig.throttleThresholdPercent h
    change base.throttleThresholdPercent - amount = base.throttleThresholdPercent at hthrottle
    linarith
  · rintro rfl
    simp only [lowerBy, sub_zero]

/-- What settles is less than half a point off. -/
theorem abs_settle_sub (amount wanted : Rat) : |settle amount wanted - wanted| < 1 / 2 := by
  unfold settle
  split_ifs with hmoves
  · rw [sub_self, abs_zero]
    norm_num
  · exact not_le.mp hmoves

/-- Nothing is left exactly if there was nothing, or if it was enough to move. -/
theorem settle_zero_eq_zero_iff (amount : Rat) :
    settle amount 0 = 0 ↔ amount = 0 ∨ 1 / 2 ≤ |amount| := by
  rw [settle, sub_zero]
  split_ifs with hmoves
  · exact iff_of_true rfl (Or.inr hmoves)
  · rw [or_iff_left hmoves]

end Amounts

section Polls

variable {os : Platform}

/-- What `Offset` says in a poll with this pressure. -/
def asked (r : PollReadings) (c : Combined) (d : DaemonState) : Rat :=
  (d.adaptive.addSample c.pressure.percent).offset d.base (d.bias r.externalBias)

/-- The thresholds in force are the configured ones, lowered by one amount. -/
theorem effective_of_following (d : DaemonState) (h : Following os d) :
    d.effective = lowerBy d.base (residue d) := by
  rcases h.effective with ⟨a, _, bias, heffective⟩
  have hamount : residue d = a.offset d.base bias := by
    rw [residue, heffective]
    exact sub_sub_cancel ..
  rw [hamount]
  exact heffective

/-- The thresholds in force are the configured ones when nothing is lowered. -/
theorem effective_eq_base_iff (d : DaemonState) (h : Following os d) :
    d.effective = d.base ↔ residue d = 0 := by
  rw [effective_of_following d h]
  exact lowerBy_eq_base_iff d.base (residue d)

theorem residue_adapt (externalBias pressure : Rat) (d : DaemonState) :
    residue (adapt externalBias pressure d)
      = settle (residue d)
          ((d.adaptive.addSample pressure).offset d.base (d.bias externalBias)) := by
  -- Both thresholds are the configured one less an amount.
  have hdistance : ((d.adaptive.addSample pressure).adjust d.base
        (d.bias externalBias)).throttleThresholdPercent - d.effective.throttleThresholdPercent
      = residue d - (d.adaptive.addSample pressure).offset d.base (d.bias externalBias) := by
    simp only [AdaptiveThresholds.adjust, residue]
    ring
  unfold adapt settle
  dsimp only
  rw [hdistance]
  split_ifs with hmoves
  · simp only [residue, AdaptiveThresholds.adjust]
    exact sub_sub_cancel ..
  · rfl

/-- A completed poll is one step of the amount. -/
theorem residue_poll (host : Host) (r : PollReadings) (d : DaemonState) (w : World)
    (c : Combined) (hc : (sense host r d).2 = some c) :
    residue (poll host r d w).daemon = settle (residue d) (asked r c d) := by
  rcases poll_cases host r d w with ⟨hnone, _⟩ | ⟨c', hc', heq⟩
  · rw [hc] at hnone
    cases hnone
  · rw [hc] at hc'
    cases hc'
    -- The residue looks at the thresholds alone, which `adapt` settles.
    rw [heq]
    exact residue_adapt r.externalBias c.pressure.percent
      { (sense host r d).1 with
        pressure := c.pressure.percent
        pressureSignal := c.pressure.signal
        criticalPid := c.pid }

/-- Where nothing is tracked, a poll measures no pressure. -/
theorem sense_of_nil (host : Host) (r : PollReadings) (d : DaemonState) (h : d.critical = []) :
    (sense host r d).2 = some {} := by
  simp only [sense, h, List.map_nil, List.flatMap_nil, List.foldl_nil, List.isEmpty_nil,
    Bool.not_true, Bool.false_and, Bool.false_eq_true, if_false]

end Polls

section Runs

variable (os : Platform)

/-- A completed poll in which nothing is asked for ends with the configured
    thresholds. -/
def Settled (s : System) : Event → Prop
  | .poll r => ∀ c, (sense os.host r s.daemon).2 = some c → asked r c s.daemon = 0 →
      (step os s (.poll r)).daemon.effective = (step os s (.poll r)).daemon.base
  | .reload _ _ _ | .command _ _ | .elsewhere _ _ => True

/-- Where nothing is asked for, the thresholds are the configured ones before, or at
    least half a point off. -/
def LeavesNothing (s : System) : Event → Prop
  | .poll r => ∀ c, (sense os.host r s.daemon).2 = some c → asked r c s.daemon = 0 →
      s.daemon.effective = s.daemon.base ∨
        1 / 2 ≤ |s.daemon.base.throttleThresholdPercent
          - s.daemon.effective.throttleThresholdPercent|
  | .reload _ _ _ | .command _ _ | .elsewhere _ _ => True

/-- A completed poll ends with less than half a point between what is asked for and the
    amount. -/
def NearlySettled (s : System) : Event → Prop
  | .poll r => ∀ c, (sense os.host r s.daemon).2 = some c →
      |residue (step os s (.poll r)).daemon - asked r c s.daemon| < 1 / 2
  | .reload _ _ _ | .command _ _ | .elsewhere _ _ => True

variable {os}

theorem nearlySettled (s : System) (i : Event) : NearlySettled os s i := by
  cases i with
  | poll r =>
      intro c hc
      change |residue (poll os.host r s.daemon s.world).daemon - _| < _
      rw [residue_poll os.host r s.daemon s.world c hc]
      exact abs_settle_sub _ _
  | reload text writable r => trivial
  | command line r => trivial
  | elsewhere world running => trivial

/-- The amount is the difference that the condition is about. -/
theorem settled_iff (s : System) (i : Event) (h : Following os s.daemon) :
    Settled os s i ↔ LeavesNothing os s i := by
  cases i with
  | poll r =>
      refine forall_congr' fun c => forall_congr' fun hc => forall_congr' fun hasked => ?_
      rw [effective_eq_base_iff _ (following_step s (.poll r) h), effective_eq_base_iff _ h]
      change residue (poll os.host r s.daemon s.world).daemon = 0 ↔ _
      rw [residue_poll os.host r s.daemon s.world c hc, hasked]
      exact settle_zero_eq_zero_iff (residue s.daemon)
  | reload text writable r => exact Iff.rfl
  | command line r => exact Iff.rfl
  | elsewhere world running => exact Iff.rfl

/-- In a run from `Initialize` on, the polls in which nothing is asked for all end
    with the configured thresholds exactly if none of them starts with less than
    half a point left. No poll ends with half a point between what is asked for and what
    is in force. -/
theorem along_settled_iff (cfg : { cfg : DaemonConfig // Accepted os cfg }) (r : ReloadReadings)
    (cores : Nat) (remoteStopEvent : Bool) (w : World) (running : DWORD → Option UInt64)
    (l : List Event) :
    (Along (step os) (Settled os) (start os cfg r cores remoteStopEvent w running) l ↔
      Along (step os) (LeavesNothing os) (start os cfg r cores remoteStopEvent w running) l) ∧
    Along (step os) (NearlySettled os) (start os cfg r cores remoteStopEvent w running) l := by
  constructor
  · exact along_iff_along (step os) (Settled os) (LeavesNothing os)
      (fun s => Following os s.daemon) following_step settled_iff l _
      (following_applyConfig r cfg.1 cfg.2 _ w)
  · exact along_of_along (step os) (fun _ _ => True) (NearlySettled os) (fun _ => True)
      (fun _ _ _ _ => trivial) (fun s i _ _ => nearlySettled s i) l _
      (along_of_forall_mem (step os) _ _ l fun _ _ => trivial) trivial

end Runs

section Left

/-- A document for a daemon that has a controller. -/
def biasedDocument : Json :=
  match sampleDocument [] [] [] with
  | .object members => .object (members ++
      [(ascii "coordination", .object
        [(ascii "enabled", .boolean true),
          (ascii "shared_token", .string (ascii "0123456789abcdef"))])])
  | other => other

/-- What is parsed from it. -/
def biasedConfig : DaemonConfig :=
  { sampleConfig [] [] [] with
    coordinationEnabled := true
    sharedToken := ascii "0123456789abcdef" }

/-- A platform with that document. -/
def biasedPlatform : Platform := samplePlatform biasedDocument biasedDocument

/-- The daemon after `Initialize`. -/
def biasedStart : System :=
  start biasedPlatform ⟨biasedConfig, [], rfl⟩ (sampleReload []) 1 true sampleWorld
    (sampleRunning [])

/-- Nothing runs, and the controller asks for a bias. -/
def biasedPoll (bias : Rat) : Event :=
  .poll { samplePoll [] (fun _ => []) (sampleAuto 0 []) 0 with externalBias := bias }

/-- The controller asks for one point, then for two fifths, then for nothing, and
    the two fifths stay. -/
theorem not_settled_biased :
    ¬ Along (step biasedPlatform) (Settled biasedPlatform) biasedStart
        [biasedPoll 1, biasedPoll (2 / 5), biasedPoll 0] := by
  intro h
  have hcritical : (run (step biasedPlatform) biasedStart
      [biasedPoll 1, biasedPoll (2 / 5)]).daemon.critical = [] :=
    List.isEmpty_iff.mp (by decide +kernel)
  have hlast := h.2.2.1 {} (sense_of_nil _ _ _ hcritical) (by decide +kernel)
  have hthrottle := congrArg StateMachineConfig.throttleThresholdPercent hlast
  revert hthrottle
  decide +kernel

end Left

end Service

end ThreadHaul
