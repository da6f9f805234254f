import ThreadHaul.Service.CriticalProcesses

/-!
# Trackers

How many `TrackedProcess`es there are for a critical name.

`ApplyConfig` lets go of the tracked names that are not in the critical list any
more, and it adds the ones that are not tracked yet. A name goes if `Contains` does
not find it, which ignores the case of letters; a name is added if the map does not
have it, letter by letter. So a name that comes back in another spelling stays and
is added, and its instances are then measured and logged twice.

`SpelledAlike` is what keeps this from happening, and `oneTracker_retrack_iff` says
that nothing else does. The list alone does not decide it: the spellings that are
tracked already matter too.

## Main definitions

* `trackersOf`: What tracks the processes of a name.
* `OneTracker`: One for each critical name, whatever its case, and none for others.
* `PickedUpOnce`: Every critical process is picked up once.
* `SpelledAlike`, `KeepsSpelling`: Equal names are spelled alike.
* `Keyed`: The map is one, and its keys are the tracked names.

## Theorems

* `pickedUp_of_oneTracker`: What one tracker is good for.
* `retrack_keys`: The names that are tracked afterwards.
* `oneTracker_retrack_iff`: One configuration.
* `throughout_oneTracker_iff`: Every run.
-/

namespace ThreadHaul

namespace Service

open Actuator Telemetry OrderedMap Config Runs

section Trackers

variable (host : Host)

/-- What tracks the processes of a name. -/
def trackersOf (critical : List (WString × TrackedProcess)) (name : WString) :
    List (WString × TrackedProcess) :=
  critical.filter fun t => namesEqualIgnoreCase host name t.2.name

/-- A name has one tracker if it is critical, and none otherwise. -/
def OneTracker (d : DaemonState) : Prop :=
  ∀ name, (trackersOf host d.critical name).length
    = if contains host d.cfg.criticalProcesses name = true then 1 else 0

/-- Every process of a snapshot is picked up once if its name is critical, and not at
    all otherwise. -/
def PickedUpOnce (d : DaemonState) : Prop :=
  ∀ snapshot : List ProcessEntry, (snapshot.map ProcessEntry.pid).Nodup → ∀ e ∈ snapshot,
    (d.critical.filter fun t => decide (e.pid ∈ findByName host snapshot t.2.name)).length
      = if contains host d.cfg.criticalProcesses e.name = true then 1 else 0

/-- No name of the list is spelled in another way in the list or among the tracked
    names. -/
def SpelledAlike (tracked names : List WString) : Prop :=
  ∀ name ∈ names, ∀ other ∈ tracked ++ names,
    namesEqualIgnoreCase host name other = true → other = name

/-- The map has a key only once, and a key is the name that is tracked. -/
structure Keyed (critical : List (WString × TrackedProcess)) : Prop where
  nodup : (keys critical).Nodup
  named : ∀ t ∈ critical, t.2.name = t.1

variable {host} {critical : List (WString × TrackedProcess)}

theorem namesEqual_comm (a b : WString) :
    namesEqualIgnoreCase host a b = namesEqualIgnoreCase host b a := by
  rw [Bool.eq_iff_iff, namesEqual_iff, namesEqual_iff]
  exact eq_comm

theorem namesEqual_refl (a : WString) : namesEqualIgnoreCase host a a = true :=
  (namesEqual_iff a a).mpr rfl

theorem contains_of_mem {names : List WString} {name : WString} (h : name ∈ names) :
    contains host names name = true :=
  (contains_iff names name).mpr ⟨name, h, namesEqual_refl name⟩

theorem mem_trackersOf_iff (hkeyed : Keyed critical) (name : WString)
    (t : WString × TrackedProcess) :
    t ∈ trackersOf host critical name ↔
      t ∈ critical ∧ namesEqualIgnoreCase host name t.1 = true := by
  rw [trackersOf, List.mem_filter]
  refine and_congr_right fun ht => ?_
  rw [hkeyed.named t ht]

/-- Two keys for one name, whatever its case, are two trackers. -/
theorem eq_of_length_trackersOf (hkeyed : Keyed critical) {name a b : WString}
    (hone : (trackersOf host critical name).length = 1) (ha : a ∈ keys critical)
    (hb : b ∈ keys critical) (hna : namesEqualIgnoreCase host name a = true)
    (hnb : namesEqualIgnoreCase host name b = true) : a = b := by
  rcases List.mem_map.mp ha with ⟨t, ht, rfl⟩
  rcases List.mem_map.mp hb with ⟨u, hu, rfl⟩
  rcases List.length_eq_one_iff.mp hone with ⟨only, honly⟩
  have htracks := (mem_trackersOf_iff hkeyed name t).mpr ⟨ht, hna⟩
  have hutracks := (mem_trackersOf_iff hkeyed name u).mpr ⟨hu, hnb⟩
  rw [honly, List.mem_singleton] at htracks hutracks
  rw [htracks, hutracks]

/-- One key for a name, whatever its case, is one tracker. -/
theorem length_trackersOf (hkeyed : Keyed critical) {name key : WString}
    (hkey : key ∈ keys critical) (hsame : namesEqualIgnoreCase host name key = true)
    (honly : ∀ other ∈ keys critical, namesEqualIgnoreCase host name other = true → other = key) :
    (trackersOf host critical name).length = 1 := by
  rcases List.mem_map.mp hkey with ⟨t, ht, rfl⟩
  -- The trackers of a name are distinct, and all have the one key.
  have hnodup : (trackersOf host critical name).Nodup :=
    List.Nodup.filter _ (List.Nodup.of_map _ hkeyed.nodup)
  refine List.Perm.length_eq ((List.perm_ext_iff_of_nodup hnodup (List.nodup_singleton t)).mpr ?_)
  intro u
  rw [mem_trackersOf_iff hkeyed, List.mem_singleton]
  constructor
  · intro hu
    exact List.inj_on_of_nodup_map hkeyed.nodup hu.1 ht (honly u.1 (List.mem_map_of_mem hu.1) hu.2)
  · rintro rfl
    exact ⟨ht, hsame⟩

/-- That is what one tracker for each name is good for. -/
theorem pickedUp_of_oneTracker (d : DaemonState) (h : OneTracker host d) :
    PickedUpOnce host d := by
  intro snapshot hdistinct e he
  rw [← h e.name, trackersOf]
  refine congrArg List.length (List.filter_congr fun t _ => ?_)
  rw [Bool.eq_iff_iff, decide_eq_true_iff, mem_findByName]
  constructor
  · rintro ⟨e', he', hsame, hpid⟩
    rw [← List.inj_on_of_nodup_map hdistinct he' he hpid]
    exact hsame
  · intro hsame
    exact ⟨e, he, hsame, rfl⟩

end Trackers

section Retrack

variable {host : Host} {critical : List (WString × TrackedProcess)} (cfg : DaemonConfig)
  (cores : Nat)

theorem mem_keys_track (m : List (WString × TrackedProcess)) (name k : WString) :
    k ∈ keys (track cfg cores m name) ↔ k ∈ keys m ∨ k = name := by
  unfold track
  split_ifs with hname
  · refine ⟨Or.inl, fun h => ?_⟩
    rcases h with h | rfl
    · exact h
    · exact hname
  · rw [mem_keys_assign, or_comm]

theorem keyed_track (m : List (WString × TrackedProcess)) (name : WString) (hkeyed : Keyed m) :
    Keyed (track cfg cores m name) := by
  unfold track
  split_ifs with hname
  · exact hkeyed
  · let fresh : TrackedProcess :=
      { name := name, normalization := toNormalization cfg, cores := cores }
    -- The new tracker is under a key that was free.
    have hperm := perm_assign m name fresh hname
    constructor
    · rw [keys, (hperm.map Prod.fst).nodup_iff]
      exact List.nodup_cons.mpr ⟨hname, hkeyed.nodup⟩
    · intro t ht
      rcases mem_assign m name fresh t ht with rfl | ht
      · rfl
      · exact hkeyed.named t ht

theorem foldl_track (names : List WString) (m : List (WString × TrackedProcess))
    (hkeyed : Keyed m) :
    Keyed (names.foldl (track cfg cores) m) ∧
      ∀ k, k ∈ keys (names.foldl (track cfg cores) m) ↔ k ∈ keys m ∨ k ∈ names := by
  induction names generalizing m with
  | nil =>
      refine ⟨hkeyed, fun k => ?_⟩
      rw [List.foldl_nil, or_iff_left List.not_mem_nil]
  | cons name names ih =>
      rcases ih _ (keyed_track cfg cores m name hkeyed) with ⟨hall, hkeys⟩
      refine ⟨hall, fun k => ?_⟩
      rw [List.foldl_cons, hkeys k, mem_keys_track, List.mem_cons, or_assoc]

/-- The tracked names after a configuration: those that are still critical, and
    the critical names as they are spelled. -/
theorem retrack_keys (hkeyed : Keyed critical) :
    Keyed (retrack host cfg cores critical) ∧
      ∀ k, k ∈ keys (retrack host cfg cores critical) ↔
        (k ∈ keys critical ∧ contains host cfg.criticalProcesses k = true) ∨
          k ∈ cfg.criticalProcesses := by
  let kept := (critical.filter fun t => contains host cfg.criticalProcesses t.1).map fun t =>
    (t.1, { t.2 with normalization := toNormalization cfg })
  have hkeys : keys kept
      = keys (critical.filter fun t => contains host cfg.criticalProcesses t.1) := List.map_map ..
  have hkept : Keyed kept := by
    constructor
    · rw [hkeys]
      exact hkeyed.nodup.sublist (List.filter_sublist.map _)
    · intro t ht
      rcases List.mem_map.mp ht with ⟨old, hold, rfl⟩
      exact hkeyed.named old (List.mem_filter.mp hold).1
  have hmem : ∀ k, k ∈ keys kept ↔
      k ∈ keys critical ∧ contains host cfg.criticalProcesses k = true := by
    intro k
    rw [hkeys, keys, keys, List.mem_map, List.mem_map]
    constructor
    · rintro ⟨t, ht, rfl⟩
      exact ⟨⟨t, (List.mem_filter.mp ht).1, rfl⟩, (List.mem_filter.mp ht).2⟩
    · rintro ⟨⟨t, ht, rfl⟩, hcontains⟩
      exact ⟨t, List.mem_filter.mpr ⟨ht, hcontains⟩, rfl⟩
  -- The names of the configuration are added to those that are kept.
  rcases foldl_track cfg cores cfg.criticalProcesses kept hkept with ⟨hall, hallkeys⟩
  refine ⟨hall, fun k => ?_⟩
  rw [← hmem k]
  exact hallkeys k

/-- A configuration leaves one tracker for each critical name exactly if equal names
    are spelled alike. -/
theorem oneTracker_retrack_iff (hkeyed : Keyed critical) :
    (∀ name, (trackersOf host (retrack host cfg cores critical) name).length
        = if contains host cfg.criticalProcesses name = true then 1 else 0) ↔
      SpelledAlike host (keys critical) cfg.criticalProcesses := by
  rcases @retrack_keys host critical cfg cores hkeyed with ⟨hkeyed', hkeys⟩
  constructor
  · intro hone name hname other hother hsame
    -- Both spellings are tracked afterwards.
    have hin : name ∈ keys (retrack host cfg cores critical) := (hkeys name).mpr (Or.inr hname)
    have hotherin : other ∈ keys (retrack host cfg cores critical) := by
      rw [hkeys other]
      rcases List.mem_append.mp hother with htracked | hlisted
      · exact Or.inl ⟨htracked, (contains_iff _ _).mpr ⟨name, hname, hsame⟩⟩
      · exact Or.inr hlisted
    have hcount := hone name
    rw [if_pos (contains_of_mem hname)] at hcount
    exact eq_of_length_trackersOf hkeyed' hcount hotherin hin hsame (namesEqual_refl name)
  · intro halike name
    by_cases hcontains : contains host cfg.criticalProcesses name = true
    · rw [if_pos hcontains]
      rcases (contains_iff _ _).mp hcontains with ⟨n, hn, hsame⟩
      rw [namesEqual_comm] at hsame
      refine length_trackersOf hkeyed' ((hkeys n).mpr (Or.inr hn)) hsame ?_
      intro other hother hothersame
      refine halike n hn other ?_ (namesEqual_trans ?_ hothersame)
      · rw [List.mem_append]
        exact ((hkeys other).mp hother).imp_left And.left
      · rw [namesEqual_comm]
        exact hsame
    · rw [if_neg hcontains, List.length_eq_zero_iff, List.eq_nil_iff_forall_not_mem]
      intro t ht
      rcases (mem_trackersOf_iff hkeyed' name t).mp ht with ⟨htracked, hsame⟩
      -- A name that is tracked is critical, and so is one like it.
      have hcritical : contains host cfg.criticalProcesses t.1 = true := by
        rcases (hkeys t.1).mp (List.mem_map_of_mem htracked) with hold | hlisted
        · exact hold.2
        · exact contains_of_mem hlisted
      rcases (contains_iff _ _).mp hcritical with ⟨n, hn, hlike⟩
      rw [namesEqual_comm] at hsame
      exact hcontains ((contains_iff _ _).mpr ⟨n, hn, namesEqual_trans hlike hsame⟩)

end Retrack

section Runs

variable (os : Platform)

/-- A reload that is applied spells equal names alike, and as they are tracked. -/
def KeepsSpelling (s : System) : Event → Prop
  | .reload text writable _ =>
      ∀ cfg, parseConfig os text = .ok cfg → (writable && cfg.requireProtectedConfig) = false →
        SpelledAlike os.host (keys s.daemon.critical) cfg.criticalProcesses
  | .poll _ | .command _ _ | .elsewhere _ _ => True

variable {os}

/-- A poll tracks the same names. -/
theorem trackersOf_poll (host : Host) (r : PollReadings) (d : DaemonState) (w : World) :
    (Keyed d.critical → Keyed (poll host r d w).daemon.critical) ∧
      ∀ name, (trackersOf host (poll host r d w).daemon.critical name).length
        = (trackersOf host d.critical name).length := by
  -- A poll changes what a tracker holds, and not its name.
  have hname : ∀ t : WString × TrackedProcess,
      (t.2.poll r.measurements host (admitted host r d)).1.name = t.2.name :=
    fun t => (mem_poll host (admitted host r d) t.2 0).2
  rw [(critical_poll host r d w).1]
  constructor
  · intro hkeyed
    constructor
    · rw [keys, List.map_map]
      exact hkeyed.nodup
    · intro t ht
      rcases List.mem_map.mp ht with ⟨old, hold, rfl⟩
      exact (hname old).trans (hkeyed.named old hold)
  · intro name
    rw [trackersOf, List.filter_map, List.length_map, trackersOf]
    refine congrArg List.length (List.filter_congr fun t _ => ?_)
    simp only [Function.comp_apply, hname]

theorem critical_command (host : Host) (line : Bytes) (r : CommandReadings) (d : DaemonState)
    (w : World) : (command host line r d w).daemon.critical = d.critical := by
  unfold command
  split <;> rfl

/-- The map stays one, whatever happens. -/
theorem keyed_step (s : System) (i : Event) (h : Keyed s.daemon.critical) :
    Keyed (step os s i).daemon.critical := by
  -- Only a reload adds and removes trackers.
  cases i with
  | poll r => exact (trackersOf_poll os.host r s.daemon s.world).1 h
  | reload text writable r =>
      simp only [step, progress]
      rcases reload_cases text writable r s.daemon s.world with heq | ⟨cfg, _, _, heq⟩
      · rwa [heq]
      · rw [heq]
        exact (retrack_keys cfg s.daemon.cores h).1
  | command line r =>
      change Keyed (command os.host line r s.daemon s.world).daemon.critical
      rwa [critical_command]
  | elsewhere world running => exact h

/-- Only a reload can make a second tracker for a name. -/
theorem oneTracker_step_iff (s : System) (i : Event) (hkeyed : Keyed s.daemon.critical)
    (h : OneTracker os.host s.daemon) :
    OneTracker os.host (step os s i).daemon ↔ KeepsSpelling os s i := by
  -- Names and keys only change with a reload, so the condition is about that.
  cases i with
  | poll r =>
      refine iff_of_true ?_ trivial
      intro name
      change (trackersOf os.host (poll os.host r s.daemon s.world).daemon.critical name).length
        = if contains os.host (poll os.host r s.daemon s.world).daemon.cfg.criticalProcesses name
            = true then 1 else 0
      rw [(trackersOf_poll os.host r s.daemon s.world).2, cfg_poll]
      exact h name
  | reload text writable r =>
      rcases rejected_or_accepted os text writable with hrejected | ⟨cfg, hparse, haccepts⟩
      · -- A file that is rejected changes nothing, and spells nothing.
        simp only [step, progress, reload_of_rejected text writable r _ _ hrejected]
        refine iff_of_true h fun cfg hparse haccepts => ?_
        rw [hrejected cfg hparse] at haccepts
        cases haccepts
      · simp only [step, progress, reload_of_accepts text writable r _ _ cfg hparse haccepts]
        refine (oneTracker_retrack_iff cfg s.daemon.cores hkeyed).trans ⟨?_, ?_⟩
        · intro halike cfg' hparse' _
          rw [hparse] at hparse'
          cases hparse'
          exact halike
        · intro hkeeps
          exact hkeeps cfg hparse haccepts
  | command line r =>
      refine iff_of_true ?_ trivial
      intro name
      change (trackersOf os.host (command os.host line r s.daemon s.world).daemon.critical
        name).length = if contains os.host
          (command os.host line r s.daemon s.world).daemon.cfg.criticalProcesses name = true
          then 1 else 0
      rw [critical_command, cfg_command]
      exact h name
  | elsewhere world running => exact iff_of_true h trivial

/-- In a run from `Initialize` on, every critical name always has exactly one tracker
    exactly if no configuration spells a name in another way than itself or than the
    tracked names do. Then every critical process is always picked up once. -/
theorem throughout_oneTracker_iff (cfg : { cfg : DaemonConfig // Accepted os cfg })
    (r : ReloadReadings) (cores : Nat) (remoteStopEvent : Bool) (w : World)
    (running : DWORD → Option UInt64) (l : List Event) :
    (Throughout (step os) (fun s => OneTracker os.host s.daemon)
        (start os cfg r cores remoteStopEvent w running) l ↔
      SpelledAlike os.host [] cfg.1.criticalProcesses ∧
        Along (step os) (KeepsSpelling os) (start os cfg r cores remoteStopEvent w running) l) ∧
    (SpelledAlike os.host [] cfg.1.criticalProcesses ∧
        Along (step os) (KeepsSpelling os) (start os cfg r cores remoteStopEvent w running) l →
      Throughout (step os) (fun s => PickedUpOnce os.host s.daemon)
        (start os cfg r cores remoteStopEvent w running) l) := by
  have hempty : Keyed [] := ⟨List.nodup_nil, fun t ht => absurd ht List.not_mem_nil⟩
  have hkeyed : Keyed (start os cfg r cores remoteStopEvent w running).daemon.critical :=
    (retrack_keys cfg.1 cores hempty).1
  -- The first configuration is a step of its own, from a map with nothing in it.
  have hfirst : OneTracker os.host (start os cfg r cores remoteStopEvent w running).daemon ↔
      SpelledAlike os.host [] cfg.1.criticalProcesses :=
    oneTracker_retrack_iff cfg.1 cores hempty
  have hrun : OneTracker os.host (start os cfg r cores remoteStopEvent w running).daemon →
      (Throughout (step os) (fun s => OneTracker os.host s.daemon)
          (start os cfg r cores remoteStopEvent w running) l ↔
        Along (step os) (KeepsSpelling os) (start os cfg r cores remoteStopEvent w running) l) := by
    intro hone
    refine throughout_iff_along (step os) (KeepsSpelling os)
      (fun s => OneTracker os.host s.daemon ∧ Keyed s.daemon.critical) _ (fun s h => h.1)
      ?_ ?_ l _ ⟨hone, hkeyed⟩
    · intro s i hkeeps h
      exact ⟨(oneTracker_step_iff s i h.2 h.1).mpr hkeeps, keyed_step s i h.2⟩
    · intro s i h hbad hone'
      exact hbad ((oneTracker_step_iff s i h.2 h.1).mp hone')
  refine ⟨⟨?_, ?_⟩, ?_⟩
  · intro h
    have hone := throughout_head _ _ _ _ h
    exact ⟨hfirst.mp hone, (hrun hone).mp h⟩
  · intro h
    exact (hrun (hfirst.mpr h.1)).mpr h.2
  · rintro ⟨halike, hkeeps⟩
    exact throughout_of_along (step os) (KeepsSpelling os)
      (fun s => OneTracker os.host s.daemon ∧ Keyed s.daemon.critical) _
      (fun s h => pickedUp_of_oneTracker s.daemon h.1)
      (fun s i hi h => ⟨(oneTracker_step_iff s i h.2 h.1).mpr hi, keyed_step s i h.2⟩) l _ hkeeps
      ⟨hfirst.mpr halike, hkeyed⟩

end Runs

section Respelled

/-- `a.exe` is critical, then `A.exe` is, and letters have two cases. -/
def respelledPlatform : Platform :=
  { samplePlatform (sampleDocument ["a.exe"] [] []) (sampleDocument ["A.exe"] [] []) with
    host := ⟨1000, fun c => if 97 ≤ c ∧ c ≤ 122 then c - 32 else c⟩ }

/-- The daemon after `Initialize`. -/
def respelledStart : System :=
  start respelledPlatform ⟨sampleConfig ["a.exe"] [] [], [], rfl⟩ (sampleReload []) 1 true
    sampleWorld (sampleRunning [])

/-- The reload with the new spelling makes a second tracker for the name. -/
theorem not_oneTracker_respelled :
    ¬ Throughout (step respelledPlatform) (fun s => OneTracker respelledPlatform.host s.daemon)
        respelledStart [.reload [1] false (sampleReload [])] := by
  intro h
  have hone := throughout_final _ _ _ _ h (wide "a.exe")
  have htwo : (trackersOf respelledPlatform.host
      (run (step respelledPlatform) respelledStart
        [.reload [1] false (sampleReload [])]).daemon.critical (wide "a.exe")).length = 2 := rfl
  rw [htwo] at hone
  split_ifs at hone
  cases hone

end Respelled

end Service

end ThreadHaul
