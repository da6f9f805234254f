import ThreadHaul.Service.Priorities

/-!
# Exemptions

How long `Exempt` keeps auto-protect from a process.

An exemption is a PID. It is dropped by a tick at a raised level that does not
find the PID in the process table, and only there. So it can be dropped too
early, for a table that could not be made is empty, and too late, for a process
can exit and its PID be given to another one before such a tick comes.

As long as neither happens, the PIDs in `exempt_` that belong to a process are
those of the exempted processes: `exemptForLife_of_reliable`.

## Main definitions

* `ExemptForLife`: What is promised.
* `Reliable`: The steps that keep it.
* `Exempting`: The exemptions belong to the exempted processes.

## Theorems

* `keys_tick`: What a tick lowers is not exempted.
* `exempting_step`: Reliable steps keep `Exempting`.
* `exemptForLife_of_reliable`: The promise, over runs.
-/

namespace ThreadHaul

namespace Service

open Actuator Telemetry OrderedMap Runs

/-- An exempted process is not lowered as long as it runs, and no other process
    is treated as exempt. -/
structure ExemptForLife (m : Machine) : Prop where
  kept : ∀ pid t, m.live pid = some t → t.exempted = true →
    pid ∉ keys m.auto.throttled ∧ t.current = t.ordinary
  other : ∀ pid t, m.live pid = some t → t.exempted = false → pid ∉ m.auto.exempted

/-- The table has a row for every exempted process that runs. -/
def Listed (live : Tasks) (rows : List Row) : Prop :=
  ∀ pid t, live pid = some t → t.exempted = true → ∃ row ∈ rows, row.pid = pid

/-- No process starts under a PID that is exempt, and a tick at a raised level
    finds the exempted processes in its table. -/
def Reliable (m : Machine) : MachineEvent → Prop
  | .start pid _ => pid ∉ m.auto.exempted
  | .exit _ => True
  | .call (.tick r _) =>
      m.auto.settings.enabled = true →
        (m.auto.state.update r.systemCpu m.auto.settings).level ≠ .normal →
          Listed m.live (r.rows m.auto.essential)
  | .call _ => True

/-! ### What the calls do to exemptions -/

section Calls

variable (r : AutoReadings)

theorem keys_lowerRow (target : PriorityClass) (acc : AutoResult) (row : Row) (p : DWORD)
    (hp : p ∈ keys (lowerRow r target acc row).auto.throttled) :
    p ∈ keys acc.auto.throttled ∨ p = row.pid := by
  rcases lowerRow_cases r target acc row with
    heq | ⟨original, _, _, ⟨heq, _⟩ | ⟨_, e, _, _, heq⟩⟩
  · rw [heq] at hp
    exact Or.inl hp
  · rw [heq] at hp
    exact Or.inl hp
  · rw [heq] at hp
    exact ((mem_keys_assign _ _ _ _).mp hp).symm

/-- What is chosen to be lowered is not exempted. -/
theorem keys_lowerChosen (target : PriorityClass) (exclude : WString → DWORD → Bool)
    (rows : List Row) (acc : AutoResult) (p : DWORD)
    (hp : p ∈ keys (lowerChosen r target exclude rows acc).auto.throttled) :
    p ∈ keys acc.auto.throttled ∨ p ∉ acc.auto.exempted := by
  unfold lowerChosen at hp
  split_ifs at hp with hroom
  · revert hp
    refine List.foldlRecOn (motive := fun out => p ∈ keys out.auto.throttled →
      p ∈ keys acc.auto.throttled ∨ p ∉ acc.auto.exempted) _ (lowerRow r target) Or.inl ?_
    intro out hout row hrow hp
    -- Each row adds its own process at most, and what is chosen is not exempt.
    rcases keys_lowerRow r target out row p hp with hp | rfl
    · exact hout hp
    · rcases mem_chosenRows acc.auto exclude rows row hrow with ⟨row', _, hpid, heligible⟩
      simp only [isEligible, Bool.and_eq_true, Bool.not_eq_true', decide_eq_false_iff_not]
        at heligible
      exact Or.inr (hpid ▸ heligible.1.2)
  · exact Or.inl hp

/-- The exemptions that a tick at a raised level leaves. -/
def stillListed (auto : AutoProtector) : List DWORD :=
  auto.exempted.filter fun pid => (r.rows auto.essential).any fun row => row.pid == pid

/-- A tick drops exemptions at a raised level only, and lowers nothing that is
    exempted then. -/
theorem keys_tick (exclude : WString → DWORD → Bool) (auto : AutoProtector) :
    ((tick r exclude auto).auto.exempted = auto.exempted ∧
        ∀ p ∈ keys (tick r exclude auto).auto.throttled, p ∈ keys auto.throttled) ∨
      (auto.settings.enabled = true ∧
        (auto.state.update r.systemCpu auto.settings).level ≠ .normal ∧
        (tick r exclude auto).auto.exempted = stillListed r auto ∧
        ∀ p ∈ keys (tick r exclude auto).auto.throttled,
          p ∈ keys auto.throttled ∨ p ∉ stillListed r auto) := by
  unfold tick
  by_cases henabled : auto.settings.enabled = true
  · simp only [henabled, Bool.not_true, Bool.false_eq_true, if_false]
    -- At the level Normal everything is given back, and the exemptions are not pruned.
    split_ifs with hlevel
    · refine Or.inl ⟨(settings_restoreAll r _).2.2, ?_⟩
      intro p hp
      exact absurd hp (keys_restoreAll _ p)
    · refine Or.inr ⟨trivial, hlevel, (settings_lowerChosen r _ exclude _ _).2.2, ?_⟩
      intro p hp
      rcases keys_lowerChosen r _ exclude _ _ p hp with hp | hp
      · rw [keys_escalate] at hp
        rcases List.mem_map.mp hp with ⟨e, he, rfl⟩
        exact Or.inl (List.mem_map_of_mem (List.mem_of_mem_filter he))
      · exact Or.inr hp
  · rw [if_pos (by simp [henabled])]
    exact Or.inl ⟨rfl, fun p hp => hp⟩

end Calls

/-! ### Runs -/

/-- The exemptions of processes that run are those of the exempted ones, and
    these are not lowered. -/
structure Exempting (m : Machine) : Prop where
  sound : m.Sound
  exempted : ∀ pid t, m.live pid = some t → t.exempted = true →
    pid ∈ m.auto.exempted ∧ pid ∉ keys m.auto.throttled
  other : ∀ pid t, m.live pid = some t → t.exempted = false → pid ∉ m.auto.exempted

section Step

variable {m : Machine}

/-- A call changes no process but for its class, and the one that it exempts. -/
theorem exempted_call (c : AutoCall) (pid : DWORD) (t : Task)
    (ht : (m.step (.call c)).live pid = some t) :
    ∃ t', m.live pid = some t' ∧
      (t.exempted = t'.exempted ∨ t.exempted = true ∧ ∃ r, c = .exempt r pid) := by
  let sets := ((c.observed m.live).perform m.auto).sets
  change c.mark (setClasses m.live sets) pid = some t at ht
  have hplain : setClasses m.live sets pid = some t → ∃ t', m.live pid = some t' ∧
      (t.exempted = t'.exempted ∨ t.exempted = true ∧ ∃ r, c = .exempt r pid) := by
    intro ht
    rcases ordinary_setClasses m.live sets pid t ht with ⟨t', ht', _, hexempted⟩
    exact ⟨t', ht', Or.inl hexempted.symm⟩
  -- Only `Exempt` marks a process, and only its own.
  cases c with
  | exempt r p =>
      by_cases hp : pid = p
      · subst hp
        simp only [AutoCall.mark, Function.update_self] at ht
        rcases Option.map_eq_some_iff.mp ht with ⟨t'', ht'', rfl⟩
        rcases ordinary_setClasses m.live sets pid t'' ht'' with ⟨t', ht', _, _⟩
        exact ⟨t', ht', Or.inr ⟨rfl, r, rfl⟩⟩
      · simp only [AutoCall.mark, Function.update_of_ne hp] at ht
        exact hplain ht
  | tick r exclude => exact hplain ht
  | configure r settings essential => exact hplain ht
  | restoreAll r => exact hplain ht

/-- Calls that drop no exemption and lower nothing new. -/
theorem exempting_of_perform (c : AutoCall) (h : Exempting m)
    (hexempted : ∀ p, p ∈ ((c.observed m.live).perform m.auto).auto.exempted ↔
      p ∈ m.auto.exempted ∨ ∃ r, c = .exempt r p)
    (hthrottled : ∀ p ∈ keys ((c.observed m.live).perform m.auto).auto.throttled,
      p ∈ keys m.auto.throttled ∧ ∀ r, c ≠ .exempt r p) : Exempting (m.step (.call c)) := by
  refine ⟨sound_step m (.call c) h.sound, ?_, ?_⟩
  · -- An exempt process was exempt before, or is so by this call.
    intro pid t ht hexempt
    rcases exempted_call c pid t ht with ⟨t', ht', hsame | ⟨_, r, hcall⟩⟩
    · have hold := h.exempted pid t' ht' (hsame ▸ hexempt)
      exact ⟨(hexempted pid).mpr (Or.inl hold.1), fun hp => hold.2 (hthrottled pid hp).1⟩
    · exact ⟨(hexempted pid).mpr (Or.inr ⟨r, hcall⟩), fun hp => (hthrottled pid hp).2 r hcall⟩
  · intro pid t ht hother hp
    rcases exempted_call c pid t ht with ⟨t', ht', hsame | ⟨htrue, _⟩⟩
    · rcases (hexempted pid).mp hp with hp | ⟨r, rfl⟩
      · exact h.other pid t' ht' (hsame ▸ hother) hp
      · -- The call would have marked the process.
        simp only [Machine.step, AutoCall.mark, Function.update_self] at ht
        rcases Option.map_eq_some_iff.mp ht with ⟨t'', _, rfl⟩
        cases hother
    · rw [htrue] at hother
      cases hother

theorem exempting_tick (r : AutoReadings) (exclude : WString → DWORD → Bool) (h : Exempting m)
    (hreliable : Reliable m (.call (.tick r exclude))) :
    Exempting (m.step (.call (.tick r exclude))) := by
  rcases keys_tick (r.observe m.live) exclude m.auto with
    ⟨hexempted, hthrottled⟩ | ⟨henabled, hlevel, hexempted, hthrottled⟩
  · refine exempting_of_perform (.tick r exclude) h ?_ ?_
    · intro p
      simp only [AutoCall.observed, AutoCall.perform, hexempted]
      simp
    · exact fun p hp => ⟨hthrottled p hp, by simp⟩
  · have hlisted := hreliable henabled hlevel
    refine ⟨sound_step m _ h.sound, ?_, ?_⟩
    · intro pid t ht hexempt
      rcases exempted_call (.tick r exclude) pid t ht with ⟨t', ht', hsame | ⟨_, r', hcall⟩⟩
      · have hold := h.exempted pid t' ht' (hsame ▸ hexempt)
        -- The table lists the process, so its exemption stays.
        rcases hlisted pid t' ht' (hsame ▸ hexempt) with ⟨row, hrow, hpid⟩
        have hstill : pid ∈ stillListed (r.observe m.live) m.auto :=
          List.mem_filter.mpr ⟨hold.1, List.any_eq_true.mpr ⟨row, hrow, beq_iff_eq.mpr hpid⟩⟩
        refine ⟨hexempted ▸ hstill, fun hp => ?_⟩
        rcases hthrottled pid hp with hp | hp
        · exact hold.2 hp
        · exact hp hstill
      · cases hcall
    · intro pid t ht hother hp
      rcases exempted_call (.tick r exclude) pid t ht with ⟨t', ht', hsame | ⟨htrue, _⟩⟩
      · have hmem : pid ∈ stillListed (r.observe m.live) m.auto := hexempted ▸ hp
        exact h.other pid t' ht' (hsame ▸ hother) (List.mem_of_mem_filter hmem)
      · rw [htrue] at hother
        cases hother

theorem exempting_call (c : AutoCall) (h : Exempting m) (hreliable : Reliable m (.call c)) :
    Exempting (m.step (.call c)) := by
  cases c with
  | tick r exclude => exact exempting_tick r exclude h hreliable
  | configure r settings essential =>
      refine exempting_of_perform _ h ?_ ?_
      · intro p
        simp only [AutoCall.observed, AutoCall.perform, configure]
        split_ifs
        · simp
        · simp [(settings_restoreAll _ _).2.2]
      · intro p hp
        exact ⟨(keys_configure m.auto settings essential p hp).2, by simp⟩
  -- The one call that adds an id. What is restored with it exempts nothing.
  | exempt r pid =>
      refine exempting_of_perform _ h ?_ ?_
      · intro p
        simp only [AutoCall.observed, AutoCall.perform, exempt, List.mem_insert_iff]
        have hsame : (restore (r.observe m.live) { auto := m.auto } pid).auto.exempted
            = m.auto.exempted := by
          unfold restore
          split <;> rfl
        rw [hsame]
        constructor
        · rintro (rfl | hp)
          · exact Or.inr ⟨r, rfl⟩
          · exact Or.inl hp
        · rintro (hp | ⟨r', hcall⟩)
          · exact Or.inr hp
          · cases hcall
            exact Or.inl rfl
      · intro p hp
        have hkeys := (keys_exempt m.auto pid p).mp hp
        refine ⟨hkeys.1, ?_⟩
        rintro r' hcall
        cases hcall
        exact hkeys.2 rfl
  | restoreAll r =>
      refine exempting_of_perform _ h ?_ ?_
      · intro p
        simp only [AutoCall.observed, AutoCall.perform, (settings_restoreAll _ _).2.2]
        simp
      · exact fun p hp => absurd hp (keys_restoreAll _ p)

/-- Reliable steps keep the exemptions with their processes. -/
theorem exempting_step (e : MachineEvent) (hreliable : Reliable m e) (h : Exempting m) :
    Exempting (m.step e) := by
  cases e with
  | call c => exact exempting_call c h hreliable
  | exit pid =>
      -- An exit takes its own process away and leaves the others as they were.
      have hlive : ∀ p t, (m.step (.exit pid)).live p = some t → m.live p = some t := by
        intro p t ht
        by_cases hp : p = pid
        · subst hp
          simp [Machine.step] at ht
        · simpa [Machine.step, hp] using ht
      exact ⟨sound_step m _ h.sound, fun p t ht => h.exempted p t (hlive p t ht),
        fun p t ht => h.other p t (hlive p t ht)⟩
  | start pid priority =>
      have hsound := sound_step m (.start pid priority) h.sound
      simp only [Machine.step] at hsound ⊢
      split_ifs at hsound ⊢ with hfree
      · refine ⟨hsound, ?_, ?_⟩
        · intro p t ht hexempt
          by_cases hp : p = pid
          · subst hp
            simp only [Function.update_self, Option.some.injEq] at ht
            rw [← ht] at hexempt
            cases hexempt
          · exact h.exempted p t (by simpa [hp] using ht) hexempt
        · intro p t ht hother
          by_cases hp : p = pid
          · -- The PID was free, and it is not given again while it is exempt.
            subst hp
            exact hreliable
          · exact h.other p t (by simpa [hp] using ht) hother
      · exact h

end Step

theorem exemptForLife_of_exempting (m : Machine) (h : Exempting m) : ExemptForLife m := by
  refine ⟨fun pid t ht hexempt => ?_, h.other⟩
  have hnot := (h.exempted pid t ht hexempt).2
  exact ⟨hnot, h.sound.exactly.untouched pid t ht hnot⟩

/-- An exemption is for one process and for all of its life, in every run in
    which no PID is given again while it is exempt and the tables of ticks at a
    raised level list the exempted processes. -/
theorem exemptForLife_of_reliable (events : List MachineEvent)
    (h : Along Machine.step Reliable {} events) :
    Throughout Machine.step ExemptForLife {} events := by
  refine throughout_of_along Machine.step Reliable Exempting ExemptForLife
    exemptForLife_of_exempting (fun m e hreliable hm => exempting_step e hreliable hm) events {} h
      ?_
  exact ⟨⟨⟨fun _ _ he => absurd he List.not_mem_nil, fun _ _ ht => nomatch ht⟩, fun _ => rfl⟩,
    fun _ _ ht => (nomatch ht), fun _ _ ht => (nomatch ht)⟩

section Lost

/-- The machine is busy. What else is asked of the system is answered for the
    processes that run. -/
def busy (rows : List Row) : AutoReadings where
  systemCpu := 100
  rows _ := rows
  exited _ := true
  opened _ := true
  getPriorityClass _ := none
  setPriorityClass _ := false
  tickCount := 0

/-- A process that uses a whole core. -/
def heavyRow : Row := ⟨4, [], 100, true, .normal⟩

/-- A tick under full load. -/
def busyTick (rows : List Row) : MachineEvent := .call (.tick (busy rows) fun _ _ => false)

/-- A process is exempted, the machine gets busy, and the first table that is
    asked for cannot be made. -/
def lostSnapshot : List MachineEvent :=
  [.start 4 .normal, .call (.exempt (busy []) 4)] ++ List.replicate 5 (busyTick []) ++
    [busyTick [heavyRow]]

/-- The exempted process is lowered. -/
theorem exemption_lost : ¬ Throughout Machine.step ExemptForLife {} lostSnapshot := by
  intro h
  have hfinal := throughout_final _ _ _ _ h
  have hlive : (run Machine.step {} lostSnapshot).live 4 = some ⟨.normal, .belowNormal, true⟩ := by
    decide +kernel
  exact absurd (hfinal.kept 4 _ hlive rfl).2 (by decide)

/-- With tables that list it, it is not. -/
theorem exempt_while_listed :
    Throughout Machine.step ExemptForLife {}
      [.start 4 .normal, .call (.exempt (busy []) 4),
        .call (.configure (busy []) { throttleSamples := 1 } []), busyTick [heavyRow]] := by
  refine exemptForLife_of_reliable _ ⟨List.not_mem_nil, trivial, trivial, ?_, trivial⟩
  intro _ _ pid t ht _
  refine ⟨heavyRow, List.mem_singleton_self _, ?_⟩
  -- No other process was started.
  rcases exempted_call _ pid t ht with ⟨t', ht', _⟩
  rcases exempted_call _ pid t' ht' with ⟨t'', ht'', _⟩
  by_contra hp
  have hp' : pid ≠ 4 := fun heq => hp heq.symm
  simp [Machine.step, keys, hp'] at ht''

end Lost

end Service

end ThreadHaul
