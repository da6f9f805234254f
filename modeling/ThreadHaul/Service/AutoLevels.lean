import ThreadHaul.Lib.Streak
import ThreadHaul.Service.AutoLimits

/-!
# The Levels of Auto-Protect over a History

When `AutoProtectState` changes its level, read off the whole history of the
samples.

The three counters are never reset by a change of level, so each of them is the
streak of its kind of samples over all samples so far, every sample judged by
the settings it came with. They are `int`s, and only one of them can be counted
past their range: a streak of high samples at level `Normal` ends in `Throttle`
and a streak of low ones at a raised level in `Normal`, but without `useIdle` the
streak of extreme samples has no end. `Tallied` is the invariant, and what a
sample does follows from it.

The order of the limits is what keeps the level from flapping. A sample that
returns the level to `Normal` is below the recovery limit, and so below the
other two, and the streaks of high and extreme samples start again after it.

## Main definitions

* `Judged`: A sample and the settings in force when it was taken.
* `LatestAll`: The latest samples are all of a kind.
* `Follows`: What is promised of one sample.
* `Tallied`: What the counters count.

## Theorems

* `tallied_step`: Every sample keeps `Tallied`.
* `follows_of_tallied`: What a sample does.
* `levels_follow`: The promise, over runs.
-/

namespace ThreadHaul

namespace Service

open Telemetry Streak Runs

/-- A sample of the system's load, and the settings in force when it was
    taken. -/
abbrev Judged := Rat × AutoProtectSettings

/-- The reading is at or above the limit for throttling. -/
def Judged.high (x : Judged) : Bool := x.2.throttlePercent ≤ x.1

/-- The reading is at or above the limit for the idle class. -/
def Judged.extreme (x : Judged) : Bool := x.2.idlePercent ≤ x.1

/-- The reading is below the limit for recovery. -/
def Judged.low (x : Judged) : Bool := x.1 < x.2.recoverPercent

/-- One reading, with its settings. -/
def levelStep (a : AutoProtectState) (x : Judged) : AutoProtectState := a.update x.1 x.2

/-- There are `n` samples, and the latest `n` are all of a kind. The history is
    kept newest first. -/
def LatestAll (kind : Judged → Bool) (n : Int32) (history : List Judged) : Prop :=
  n.toInt ≤ history.length ∧ ∀ x ∈ history.take n.toInt.toNat, kind x = true

/-- What the newest sample of a history does to the level. The counter of the
    extreme samples is an `int`. -/
structure Follows (s : AutoProtectSettings) (history : List Judged) (before after : AutoLevel) :
    Prop where
  normal : before = .normal →
    (after = .throttle ↔ LatestAll Judged.high s.throttleSamples history) ∧ after ≠ .idle
  escalates : before = .throttle → after = .idle →
    s.useIdle = true ∧ LatestAll Judged.extreme s.idleSamples history
  extreme : before = .throttle → streak Judged.extreme history < 2 ^ 31 → s.useIdle = true →
    LatestAll Judged.extreme s.idleSamples history → after = .idle
  recovers : before ≠ .normal →
    (after = .normal ↔ LatestAll Judged.low s.recoverSamples history)
  idle : before = .idle → after ≠ .throttle

/-- The counters are the streaks, and the ones that matter at a level are
    short. -/
structure Tallied (a : AutoProtectState) (history : List Judged) : Prop where
  high : a.high = Int32.ofNat (streak Judged.high history)
  extreme : a.extreme = Int32.ofNat (streak Judged.extreme history)
  low : a.low = Int32.ofNat (streak Judged.low history)
  normal : a.level = .normal → streak Judged.high history < 600
  raised : a.level ≠ .normal → streak Judged.low history < 600

/-! ### Streaks and counters -/

theorem latestAll_iff (kind : Judged → Bool) (n : Int32) (history : List Judged)
    (hn : 1 ≤ n.toInt) : LatestAll kind n history ↔ n.toInt ≤ streak kind history := by
  have hiff := le_streak_iff kind n.toInt.toNat history
  unfold LatestAll
  constructor
  · rintro ⟨hlength, hall⟩
    have hle := hiff.mpr ⟨by omega, hall⟩
    omega
  · intro hle
    have hboth := hiff.mp (by omega)
    exact ⟨by omega, hboth.2⟩

/-- A counter goes up as its streak does. -/
theorem counted_cons (kind : Judged → Bool) (c : Int32) (x : Judged) (history : List Judged)
    (hc : c = Int32.ofNat (streak kind history)) (P : Prop) [Decidable P]
    (hP : P ↔ kind x = true) :
    (if P then c + 1 else 0) = Int32.ofNat (streak kind (x :: history)) := by
  rw [streak_cons]
  by_cases h : P
  · rw [if_pos h, if_pos (hP.mp h), hc, Int32.ofNat_add]
    rfl
  · rw [if_neg h, if_neg fun hx => h (hP.mpr hx)]
    rfl

/-- A streak that is not zero ends with a sample of its kind. -/
theorem kind_of_streak_pos (kind : Judged → Bool) (x : Judged) (history : List Judged)
    (h : 0 < streak kind (x :: history)) : kind x = true := by
  by_contra hx
  rw [streak_cons, if_neg hx] at h
  exact absurd h (Nat.lt_irrefl 0)

theorem streak_of_not (kind : Judged → Bool) (x : Judged) (history : List Judged)
    (h : ¬ kind x = true) : streak kind (x :: history) = 0 := by
  rw [streak_cons, if_neg h]

/-- A count in the range of an `int`, compared with a number of samples. -/
theorem le_ofNat_iff (n : Int32) (k : Nat) (hk : k < 2 ^ 31) :
    n ≤ Int32.ofNat k ↔ n.toInt ≤ k := by
  rw [Int32.le_iff_toInt_le, Int32.toInt_ofNat_of_lt hk]

/-- A count is never too high, whatever its range. -/
theorem le_of_le_ofNat (n : Int32) (k : Nat) (hn : 1 ≤ n.toInt) (h : n ≤ Int32.ofNat k) :
    n.toInt ≤ k := by
  by_cases hk : k < 2 ^ 31
  · exact (le_ofNat_iff n k hk).mp h
  · have hlt := Int32.toInt_lt n
    omega

section Step

variable {a : AutoProtectState} {history : List Judged}

/-- A sample that is high is not low. -/
theorem not_low_of_high (x : Judged) (hx : Ordered x.2) (h : x.high = true) :
    ¬ x.low = true := by
  simp only [Judged.high, Judged.low, decide_eq_true_eq] at h ⊢
  exact not_lt.mpr (hx.below.le.trans h)

theorem not_high_of_low (x : Judged) (hx : Ordered x.2) (h : x.low = true) :
    ¬ x.high = true := fun hhigh => not_low_of_high x hx hhigh h

/-- With `useIdle`, nor is one that is extreme. -/
theorem not_low_of_extreme (x : Judged) (hx : Ordered x.2) (huse : x.2.useIdle = true)
    (h : x.extreme = true) : ¬ x.low = true := by
  simp only [Judged.extreme, Judged.low, decide_eq_true_eq] at h ⊢
  exact not_lt.mpr (hx.below.le.trans ((hx.above huse).trans h))

/-- The counters after one more sample, before the level is changed. -/
theorem count_eq (x : Judged) (h : Tallied a history) :
    (a.count x.1 x.2).high = Int32.ofNat (streak Judged.high (x :: history)) ∧
      (a.count x.1 x.2).extreme = Int32.ofNat (streak Judged.extreme (x :: history)) ∧
      (a.count x.1 x.2).low = Int32.ofNat (streak Judged.low (x :: history)) :=
  ⟨counted_cons Judged.high _ x history h.high _ (by simp [Judged.high]),
    counted_cons Judged.extreme _ x history h.extreme _ (by simp [Judged.extreme]),
    counted_cons Judged.low _ x history h.low _ (by simp [Judged.low])⟩

/-- What a sample can do to the level. -/
inductive Moves (a : AutoProtectState) (x : Judged) (history : List Judged) : AutoLevel → Prop
  | throttles (hlevel : a.level = .normal)
      (hhigh : LatestAll Judged.high x.2.throttleSamples (x :: history)) :
      Moves a x history .throttle
  | calm (hlevel : a.level = .normal)
      (hhigh : ¬ LatestAll Judged.high x.2.throttleSamples (x :: history)) :
      Moves a x history .normal
  | escalates (hlevel : a.level = .throttle) (huse : x.2.useIdle = true)
      (hextreme : LatestAll Judged.extreme x.2.idleSamples (x :: history)) : Moves a x history .idle
  | recovers (hlevel : a.level ≠ .normal)
      (hlow : LatestAll Judged.low x.2.recoverSamples (x :: history)) : Moves a x history .normal
  | stays (hlevel : a.level ≠ .normal)
      (hextreme : a.level = .throttle → streak Judged.extreme (x :: history) < 2 ^ 31 →
        ¬ (x.2.useIdle = true ∧ LatestAll Judged.extreme x.2.idleSamples (x :: history)))
      (hlow : ¬ LatestAll Judged.low x.2.recoverSamples (x :: history)) : Moves a x history a.level

theorem streak_cons_le (kind : Judged → Bool) (x : Judged) (history : List Judged) :
    streak kind (x :: history) ≤ streak kind history + 1 := by
  rw [streak_cons]
  split_ifs <;> omega

/-- The conditions of the code are those of the history. -/
theorem moves_update (x : Judged) (hx : Ordered x.2) (h : Tallied a history) :
    Moves a x history (levelStep a x).level := by
  have hlevel : (a.count x.1 x.2).level = a.level := rfl
  rcases count_eq x h with ⟨hhigh, hextreme, hlow⟩
  have hthrottle := hx.throttleSamples
  have hidle := hx.idleSamples
  have hrecover := hx.recoverSamples
  have hhighle := streak_cons_le Judged.high x history
  have hlowle := streak_cons_le Judged.low x history
  simp only [levelStep, AutoProtectState.update, hlevel, hhigh, hextreme, hlow]
  -- The three conditions in the order of the source, and then none of them.
  split_ifs with h1 h2 h3
  · have hshort := h.normal h1.1
    refine .throttles h1.1 ((latestAll_iff _ _ _ hthrottle.1).mpr ?_)
    exact le_of_le_ofNat _ _ hthrottle.1 h1.2
  · refine .escalates h2.1 h2.2.1 ((latestAll_iff _ _ _ hidle.1).mpr ?_)
    exact le_of_le_ofNat _ _ hidle.1 h2.2.2
  · refine .recovers h3.1 ((latestAll_iff _ _ _ hrecover.1).mpr ?_)
    exact le_of_le_ofNat _ _ hrecover.1 h3.2
  · by_cases hnormal : a.level = .normal
    · have hshort := h.normal hnormal
      rw [hlevel, hnormal]
      refine .calm hnormal fun hall => h1 ⟨hnormal, ?_⟩
      rw [le_ofNat_iff _ _ (by omega)]
      exact (latestAll_iff _ _ _ hthrottle.1).mp hall
    · have hshort := h.raised hnormal
      refine .stays hnormal (fun hthr hrange hall => h2 ⟨hthr, hall.1, ?_⟩)
        fun hall => h3 ⟨hnormal, ?_⟩
      · rw [le_ofNat_iff _ _ hrange]
        exact (latestAll_iff _ _ _ hidle.1).mp hall.2
      · rw [le_ofNat_iff _ _ (by omega)]
        exact (latestAll_iff _ _ _ hrecover.1).mp hall

/-- The latest sample is one of the latest. -/
theorem kind_of_latestAll (kind : Judged → Bool) (n : Int32) (x : Judged) (hn : 1 ≤ n.toInt)
    (h : LatestAll kind n (x :: history)) : kind x = true := by
  have hle := (latestAll_iff kind n (x :: history) hn).mp h
  exact kind_of_streak_pos kind x history (by omega)

/-- Every sample keeps the counters and the streaks together. -/
theorem tallied_step (x : Judged) (hx : Ordered x.2) (h : Tallied a history) :
    Tallied (levelStep a x) (x :: history) := by
  have hcounters : (levelStep a x).high = (a.count x.1 x.2).high ∧
      (levelStep a x).extreme = (a.count x.1 x.2).extreme ∧
      (levelStep a x).low = (a.count x.1 x.2).low := by
    simp only [levelStep, AutoProtectState.update]
    split_ifs <;> exact ⟨rfl, rfl, rfl⟩
  rcases count_eq x h with ⟨hhigh, hextreme, hlow⟩
  refine ⟨hcounters.1.trans hhigh, hcounters.2.1.trans hextreme, hcounters.2.2.trans hlow, ?_, ?_⟩
  · intro hnormal
    have hthrottle := hx.throttleSamples
    have hmoves := moves_update x hx h
    rw [hnormal] at hmoves
    generalize hafter : AutoLevel.normal = after at hmoves
    cases hmoves with
    | throttles => cases hafter
    | escalates => cases hafter
    | stays hlevel => exact absurd hafter.symm hlevel
    | calm hlevel hcalm =>
        rw [latestAll_iff _ _ _ hthrottle.1] at hcalm
        omega
    | recovers hlevel hall =>
        -- The level came back with a low sample, so no streak of high ones goes on.
        have hkind := kind_of_latestAll _ _ _ hx.recoverSamples.1 hall
        rw [streak_of_not _ _ _ (not_high_of_low x hx hkind)]
        decide
  · intro hraised
    have hrecover := hx.recoverSamples
    have hmoves := moves_update x hx h
    generalize (levelStep a x).level = after at hmoves hraised
    cases hmoves with
    | throttles hlevel hall =>
        -- Likewise, the streak of low samples starts anew.
        have hkind := kind_of_latestAll _ _ _ hx.throttleSamples.1 hall
        rw [streak_of_not _ _ _ (not_low_of_high x hx hkind)]
        decide
    | escalates hlevel huse hall =>
        have hkind := kind_of_latestAll _ _ _ hx.idleSamples.1 hall
        rw [streak_of_not _ _ _ (not_low_of_extreme x hx huse hkind)]
        decide
    | stays hlevel hextreme' hstay =>
        rw [latestAll_iff _ _ _ hrecover.1] at hstay
        omega
    | calm => exact absurd rfl hraised
    | recovers => exact absurd rfl hraised

/-- What one sample does. -/
theorem follows_of_tallied (x : Judged) (hx : Ordered x.2) (h : Tallied a history) :
    Follows x.2 (x :: history) a.level (levelStep a x).level := by
  have hmoves := moves_update x hx h
  generalize (levelStep a x).level = after at hmoves
  -- A sample cannot call for an escalation and for a recovery.
  have hnotboth : x.2.useIdle = true → LatestAll Judged.extreme x.2.idleSamples (x :: history) →
      ¬ LatestAll Judged.low x.2.recoverSamples (x :: history) := by
    intro huse hextreme hlow
    exact not_low_of_extreme x hx huse (kind_of_latestAll _ _ _ hx.idleSamples.1 hextreme)
      (kind_of_latestAll _ _ _ hx.recoverSamples.1 hlow)
  cases hmoves with
  | throttles hlevel hhigh =>
      rw [hlevel]
      exact ⟨fun _ => ⟨iff_of_true rfl hhigh, by simp⟩, by simp, by simp, by simp, by simp⟩
  | calm hlevel hhigh =>
      rw [hlevel]
      exact ⟨fun _ => ⟨iff_of_false (by simp) hhigh, by simp⟩, by simp, by simp, by simp, by simp⟩
  | escalates hlevel huse hextreme =>
      rw [hlevel]
      exact ⟨by simp, fun _ _ => ⟨huse, hextreme⟩, fun _ _ _ _ => rfl,
        fun _ => iff_of_false (by simp) (hnotboth huse hextreme), by simp⟩
  | recovers hlevel hlow =>
      refine ⟨fun hnormal => absurd hnormal hlevel, by simp, ?_, fun _ => iff_of_true rfl hlow,
        by simp⟩
      exact fun _ _ huse hextreme => absurd hlow (hnotboth huse hextreme)
  | stays hlevel hextreme hlow =>
      refine ⟨fun hnormal => absurd hnormal hlevel, ?_, ?_, fun _ => iff_of_false hlevel hlow, ?_⟩
      · intro hthrottle hidle
        rw [hthrottle] at hidle
        cases hidle
      · exact fun hthrottle hrange huse hall => absurd ⟨huse, hall⟩ (hextreme hthrottle hrange)
      · intro hidle hthrottle
        rw [hidle] at hthrottle
        cases hthrottle

end Step

/-! ### Runs -/

theorem tallied_run (samples : List Judged) (h : ∀ x ∈ samples, Ordered x.2) :
    Tallied (run levelStep {} samples) samples.reverse := by
  induction samples using List.reverseRecOn with
  | nil => exact ⟨rfl, rfl, rfl, fun _ => by decide, fun hraised => absurd rfl hraised⟩
  | append_singleton samples x ih =>
      rw [run_append, List.reverse_append]
      refine tallied_step x (h x (by simp)) (ih fun y hy => h y ?_)
      exact List.mem_append_left _ hy

/-- After a return to `Normal`, a throttle needs its samples anew. -/
theorem no_flapping (before between : List Judged) (x y : Judged)
    (h : ∀ z ∈ before ++ x :: between ++ [y], Ordered z.2)
    (hraised : (run levelStep {} before).level ≠ .normal)
    (hreturn : (run levelStep {} (before ++ [x])).level = .normal)
    (hnormal : (run levelStep {} (before ++ x :: between)).level = .normal)
    (hthrottle : (run levelStep {} (before ++ x :: between ++ [y])).level = .throttle) :
    y.2.throttleSamples.toInt ≤ between.length + 1 := by
  have hx : Ordered x.2 := h x (by simp)
  have hy : Ordered y.2 := h y (by simp)
  -- The sample that returns the level is low, so it is not high.
  have hbefore := tallied_run before fun z hz => h z (by simp [hz])
  have hfollows := follows_of_tallied x hx hbefore
  rw [run_append] at hreturn
  have hlow := kind_of_latestAll _ _ _ hx.recoverSamples.1
    ((hfollows.recovers hraised).mp hreturn)
  have hnothigh := not_high_of_low x hx hlow
  -- The throttle needs the latest samples to be high.
  have hall := tallied_run (before ++ x :: between) fun z hz => h z (List.mem_append_left _ hz)
  have hfollows' := follows_of_tallied y hy hall
  rw [run_append] at hthrottle
  have hhigh := ((hfollows'.normal hnormal).1.mp hthrottle).2
  by_contra hshort
  refine hnothigh (hhigh x ?_)
  have hsplit : y :: (before ++ x :: between).reverse
      = y :: between.reverse ++ x :: before.reverse := by simp
  rw [hsplit, List.take_append]
  refine List.mem_append_right _ ?_
  have hlength : (y :: between.reverse).length = between.length + 1 := by simp
  rw [hlength]
  obtain ⟨k, hk⟩ : ∃ k, y.2.throttleSamples.toInt.toNat - (between.length + 1) = k + 1 :=
    ⟨y.2.throttleSamples.toInt.toNat - (between.length + 1) - 1, by omega⟩
  rw [hk, List.take_succ_cons]
  exact List.mem_cons_self

/-- Over every sequence of samples with accepted settings, the level changes
    exactly when the history calls for it, except that an escalation is not
    promised once a streak of extreme samples is too long for its counter; and
    after every return to `Normal` a throttle takes its samples anew. -/
theorem levels_follow (samples : List Judged) (h : ∀ x ∈ samples, AcceptedSettings x.2) :
    (∀ before x after, samples = before ++ x :: after →
      Follows x.2 (x :: before.reverse) (run levelStep {} before).level
        (run levelStep {} (before ++ [x])).level) ∧
      ∀ before x between y after, samples = before ++ x :: between ++ y :: after →
        (run levelStep {} before).level ≠ .normal →
          (run levelStep {} (before ++ [x])).level = .normal →
            (run levelStep {} (before ++ x :: between)).level = .normal →
              (run levelStep {} (before ++ x :: between ++ [y])).level = .throttle →
                y.2.throttleSamples.toInt ≤ (between.length + 1 : Int) := by
  have hordered : ∀ x ∈ samples, Ordered x.2 := fun x hx => ordered_of_accepted x.2 (h x hx)
  -- The first part is about each step, the second about a return and the next raise.
  constructor
  · rintro before x after rfl
    rw [run_append]
    refine follows_of_tallied x (hordered x (by simp)) (tallied_run before fun y hy => ?_)
    exact hordered y (by simp [hy])
  · rintro before x between y after rfl hraised hreturn hnormal hthrottle
    refine no_flapping before between x y (fun z hz => hordered z ?_) hraised hreturn hnormal
      hthrottle
    simp only [List.mem_append, List.mem_cons, List.not_mem_nil, or_false] at hz ⊢
    rcases hz with hz | rfl
    · exact Or.inl hz
    · exact Or.inr (Or.inl rfl)

section Overflow

/-- The configurations of two documents, without and with `use_idle`. -/
def withoutIdle : Config.DaemonConfig :=
  { sampleConfig [] [] [] with autoThrottleSamples := 5, autoUseIdle := false }

/-- A configuration that throttles after five readings and uses the idle class. -/
def withIdle : Config.DaemonConfig := { sampleConfig [] [] [] with autoThrottleSamples := 5 }

theorem accepted_withoutIdle : AcceptedSettings (toAutoProtect withoutIdle) :=
  accepted_autoDocument [(ascii "use_idle", .boolean false)]
    (List.forall_mem_singleton.mpr (stored_boolean false)) withoutIdle rfl

theorem accepted_withIdle : AcceptedSettings (toAutoProtect withIdle) :=
  accepted_autoDocument [] (fun _ hm => absurd hm List.not_mem_nil) withIdle rfl

/-- The machine is fully loaded, without and with `use_idle`. -/
def fullLoad : Judged := (100, toAutoProtect withoutIdle)

/-- Full load under these settings. -/
def fullLoadIdle : Judged := (100, toAutoProtect withIdle)

theorem streak_replicate (kind : Judged → Bool) (x : Judged) (hx : kind x = true) (n : Nat) :
    streak kind (List.replicate n x) = n := by
  rw [streak, List.takeWhile_replicate, if_pos hx, List.length_replicate]

/-- Without `use_idle` a full load keeps the level at `Throttle`. -/
theorem level_fullLoad (n : Nat) :
    (run levelStep {} (List.replicate (n + 5) fullLoad)).level = .throttle := by
  have hordered := ordered_of_accepted _ accepted_withoutIdle
  -- Full load neither recovers nor, without `use_idle`, escalates.
  induction n with
  | zero => decide +kernel
  | succ n ih =>
      have hsplit : List.replicate (n + 1 + 5) fullLoad
          = List.replicate (n + 5) fullLoad ++ [fullLoad] := List.replicate_succ'
      rw [hsplit, run_append]
      have hfull := level_update_full (run levelStep {} (List.replicate (n + 5) fullLoad))
        (toAutoProtect withoutIdle) hordered (by rw [ih]; decide)
      rcases hcase : (levelStep (run levelStep {} (List.replicate (n + 5) fullLoad)) fullLoad).level
        with _ | _ | _
      · exact absurd hcase hfull.1
      · exact hcase
      · rcases level_update_idle _ _ _ hcase with hidle | huse
        · rw [ih] at hidle
          cases hidle
        · cases huse

/-- A counter past its range is negative, and does not escalate. -/
theorem level_of_negative {a : AutoProtectState} {history : List Judged} (x : Judged)
    (h : Tallied a history) (hlevel : a.level = .throttle)
    (hextreme : ¬ x.2.idleSamples ≤ Int32.ofNat (streak Judged.extreme (x :: history))) :
    (levelStep a x).level ≠ .idle := by
  have hcount := (count_eq x h).2.1
  have hlevel' : (a.count x.1 x.2).level = .throttle := hlevel
  intro hidle
  simp only [levelStep, AutoProtectState.update] at hidle
  split_ifs at hidle with h1 h2 h3
  · rw [hcount] at h2
    exact hextreme h2.2.2
  · rw [hlevel'] at hidle
    cases hidle

/-- After 2^31 samples at full load the counter is negative, and a sample with
    `use_idle` does not escalate. -/
theorem escalation_missed :
    ∃ samples : List Judged, ∃ x : Judged, (∀ y ∈ samples ++ [x], AcceptedSettings y.2) ∧
      (run levelStep {} samples).level = .throttle ∧ x.2.useIdle = true ∧
      LatestAll Judged.extreme x.2.idleSamples (x :: samples.reverse) ∧
      (run levelStep {} (samples ++ [x])).level ≠ .idle := by
  obtain ⟨n, hn⟩ : ∃ n : Nat, n + 5 = 2 ^ 31 := ⟨2 ^ 31 - 5, rfl⟩
  have haccepted : ∀ y ∈ List.replicate (n + 5) fullLoad, AcceptedSettings y.2 := by
    intro y hy
    rw [List.eq_of_mem_replicate hy]
    exact accepted_withoutIdle
  have hordered : Ordered fullLoadIdle.2 := ordered_of_accepted _ accepted_withIdle
  -- The streak is longer than a counter of 32 bits goes.
  have hstreak : streak Judged.extreme (fullLoadIdle :: List.replicate (n + 5) fullLoad)
      = 2 ^ 31 + 1 := by
    rw [streak_cons, if_pos (by decide +kernel), streak_replicate _ _ (by decide +kernel), hn]
  refine ⟨List.replicate (n + 5) fullLoad, fullLoadIdle, ?_, level_fullLoad n, rfl, ?_, ?_⟩
  · intro y hy
    rcases List.mem_append.mp hy with hy | hy
    · exact haccepted y hy
    · rw [List.mem_singleton.mp hy]
      exact accepted_withIdle
  · rw [List.reverse_replicate, latestAll_iff _ _ _ hordered.idleSamples.1, hstreak]
    have hle := hordered.idleSamples.2
    omega
  · have htallied := tallied_run (List.replicate (n + 5) fullLoad)
      fun y hy => ordered_of_accepted _ (haccepted y hy)
    rw [List.reverse_replicate] at htallied
    rw [run_append]
    refine level_of_negative fullLoadIdle htallied (level_fullLoad n) ?_
    rw [hstreak]
    decide +kernel

end Overflow

/-- Five samples at full load, the last of which throttles. -/
theorem levels_follow_five :
    Follows fullLoad.2 (fullLoad :: (List.replicate 4 fullLoad).reverse)
      (run levelStep {} (List.replicate 4 fullLoad)).level
      (run levelStep {} (List.replicate 4 fullLoad ++ [fullLoad])).level :=
  (levels_follow (List.replicate 5 fullLoad) (fun x hx => by
    rw [List.eq_of_mem_replicate hx]
    exact accepted_withoutIdle)).1 (List.replicate 4 fullLoad) fullLoad [] rfl

end Service

end ThreadHaul
