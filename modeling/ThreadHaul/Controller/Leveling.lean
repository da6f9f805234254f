import ThreadHaul.Controller.Rebalance

/-!
# What Rebalancing Comes To

Whether `Rebalance` leaves every agent with the bias it should have.

What a call sends at its end is the bias for the agents as they were read,
whatever has become of them since. As long as nothing changes the bias that the
table calls for, what a call has counted so far and the heartbeats it has still to
read lead to that bias, and the agents it is done with have it: `Place.Agrees`.
Two calls may well overlap then, since they write the same bias. Otherwise the one
that is overtaken has the last word: `not_rebalances`.

## Main definitions

* `Place.Agrees`: What a call has found out and done agrees with the table.
* `Agreeing`: That holds of every session.

## Theorems

* `agrees_mono`: What may change under a call.
* `agreeing_step`: A step that disturbs nothing keeps the agreement.
* `along_rebalances`: When `Rebalance` does what it should, over runs.
-/

namespace ThreadHaul

namespace Controller

open Runs Json

variable (c : Settings)

section Agreement

/-- Sessions that are not opened yet are at no place, and in the table and among the
    agents that are counted there are none of them. -/
structure Placed (w : World) : Prop where
  closed : ∀ k, w.opened ≤ k → w.places k = .closed
  table : ∀ entry ∈ w.table, entry.2 < w.opened
  counted : ∀ k, ∀ a ∈ (w.places k).counted, a < w.opened

/-- What a call of `Rebalance` has found out and done agrees with the table: the count
    so far and the agents still to be read give the bias called for, the bias to be sent
    is that one, and an agent of the table that is not to be looked at any more has it. -/
def Place.Agrees (w : World) : Place → Prop
  | .closed | .serving | .due _ => True
  | .counting _ agents rest hot =>
      rest ⊆ agents ∧
        hot + rest.countP (fun a => (w.agents a).isHot c) =
          agents.countP (fun a => (w.agents a).isHot c) ∧
        biasFor c (agents.countP fun a => (w.agents a).isHot c) agents.length = w.calledFor c ∧
        ∀ entry ∈ w.table, entry.2 ∈ agents ∨ (w.agents entry.2).biasSent = w.calledFor c
  | .leveling _ bias rest | .posting _ bias rest _ =>
      bias = w.calledFor c ∧
        ∀ entry ∈ w.table, entry.2 ∈ rest ∨ (w.agents entry.2).biasSent = w.calledFor c

/-- This holds of every session. -/
structure Agreeing (w : World) : Prop where
  placed : Placed w
  calls : ∀ k, (w.places k).Agrees c w

theorem calledFor_congr {w w' : World} (htable : w'.table = w.table)
    (hhot : ∀ entry ∈ w.table,
      (w'.agents entry.2).isHot c = (w.agents entry.2).isHot c) :
    w'.calledFor c = w.calledFor c := by
  unfold World.calledFor World.connected
  rw [htable, List.countP_map, List.countP_map, List.length_map, List.length_map]
  congr 1
  refine List.countP_congr fun entry hentry => ?_
  rw [Function.comp_apply, Function.comp_apply, hhot entry hentry]

theorem calledFor_eq (w : World) :
    w.calledFor c = biasFor c ((w.table.map Prod.snd).countP fun a => (w.agents a).isHot c)
      (w.table.map Prod.snd).length := by
  unfold World.calledFor World.connected
  rw [List.countP_map, List.countP_map, List.length_map, List.length_map]
  rfl

theorem agrees_of_not_underWay (w : World) (p : Place) (h : p.underWay = false) :
    p.Agrees c w := by
  cases p with
  | closed => trivial
  | serving => trivial
  | due leaving => trivial
  | _ => cases h

/-- A call goes on agreeing with the table if nothing changes that it depends on: the bias
    called for, the heartbeats it counts, and the biases of the agents, unless they become
    the one called for. -/
theorem agrees_mono {w w' : World} (p : Place) (h : p.Agrees c w)
    (hcalled : w'.calledFor c = w.calledFor c)
    (hhot : ∀ a ∈ p.counted, (w'.agents a).isHot c = (w.agents a).isHot c)
    (htable : ∀ entry ∈ w'.table, (w'.agents entry.2).biasSent = w.calledFor c ∨
      entry ∈ w.table ∧ (w'.agents entry.2).biasSent = (w.agents entry.2).biasSent) :
    p.Agrees c w' := by
  have hentries : ∀ agents : List Nat,
      (∀ entry ∈ w.table, entry.2 ∈ agents ∨ (w.agents entry.2).biasSent = w.calledFor c) →
      ∀ entry ∈ w'.table, entry.2 ∈ agents ∨ (w'.agents entry.2).biasSent = w'.calledFor c := by
    intro agents hold entry hentry
    rw [hcalled]
    rcases htable entry hentry with hnew | ⟨hmem, hsame⟩
    · exact Or.inr hnew
    · rw [hsame]
      exact hold entry hmem
  -- Only a call that has begun to count compares anything.
  cases p with
  | closed => trivial
  | serving => trivial
  | due leaving => trivial
  | counting leaving agents rest hot =>
      obtain ⟨hsub, hcount, hbias, hold⟩ := h
      have hsame : ∀ l : List Nat, l ⊆ agents →
          (l.countP fun a => (w'.agents a).isHot c) = l.countP fun a => (w.agents a).isHot c := by
        intro l hl
        refine List.countP_congr fun a ha => ?_
        rw [hhot a (hl ha)]
      refine ⟨hsub, ?_, ?_, hentries agents hold⟩
      · rw [hsame rest hsub, hsame agents fun _ ha => ha]
        exact hcount
      · rw [hsame agents fun _ ha => ha, hcalled]
        exact hbias
  | leveling leaving bias rest => exact ⟨h.1.trans hcalled.symm, hentries rest h.2⟩
  | posting leaving bias rest a => exact ⟨h.1.trans hcalled.symm, hentries rest h.2⟩

/-- A session that goes on in a world where all the others agree with the table. -/
theorem agrees_update {w w' : World} (i : Nat) (p : Place)
    (hplaces : w'.places = Function.update w.places i p)
    (hothers : ∀ k, k ≠ i → (w.places k).Agrees c w') (hp : p.Agrees c w') (k : Nat) :
    (w'.places k).Agrees c w' := by
  rw [hplaces]
  by_cases hk : k = i
  · rw [hk, Function.update_self]
    exact hp
  · rw [Function.update_of_ne hk]
    exact hothers k hk

/-- Nothing but the place of one session is another one. -/
theorem agrees_goto {w : World} (h : ∀ k, (w.places k).Agrees c w) (i : Nat) (p : Place)
    (hp : p.Agrees c (w.goto i p)) (k : Nat) : ((w.goto i p).places k).Agrees c (w.goto i p) :=
  @agrees_update c w (w.goto i p) i p rfl
    (fun k _ => agrees_mono c _ (h k) rfl (fun _ _ => rfl) fun _ hentry => Or.inr ⟨hentry, rfl⟩)
    hp k

theorem placed_goto {w : World} (h : Placed w) (i : Nat) (p : Place)
    (hi : w.places i ≠ .closed) (hp : ∀ a ∈ p.counted, a < w.opened) : Placed (w.goto i p) where
  closed k hk := by
    have hne : k ≠ i := by
      rintro rfl
      exact hi (h.closed k hk)
    exact (goto_places_of_ne w p hne).trans (h.closed k hk)
  table := h.table
  counted k a ha := by
    -- The other threads are where they were.
    by_cases hk : k = i
    · rw [hk, goto_places_self] at ha
      exact hp a ha
    · rw [goto_places_of_ne w p hk] at ha
      exact h.counted k a ha

theorem counted_after (leaving : Bool) : (Place.after leaving).counted = [] := by
  cases leaving <;> rfl

theorem after_underWay (leaving : Bool) : (Place.after leaving).underWay = false := by
  cases leaving <;> rfl

theorem isHot_of_value (a : Agent) (pressure : Rat)
    (h : a.lastHeartbeat.value getDouble (ascii "pressure_percent") 0 = .ok pressure) :
    a.isHot c = decide (c.pressureThreshold ≤ pressure) := by
  rw [Agent.isHot, h]

/-- Every agent has its bias when no agent is left to be looked at. -/
theorem leveled_of_agrees {w : World}
    (h : ∀ entry ∈ w.table, entry.2 ∈ ([] : List Nat) ∨
      (w.agents entry.2).biasSent = w.calledFor c) : Leveled c w := by
  intro a ha
  obtain ⟨entry, hentry, rfl⟩ := List.mem_map.mp ha
  exact (h entry hentry).resolve_left List.not_mem_nil

/-- The copy of the table, and what follows if it is empty. -/
theorem agreeing_copy {w : World} {i : Nat} {leaving : Bool} (hplace : w.places i = .due leaving)
    (h : Agreeing c w) :
    Agreeing c (w.goto i
      (.counting leaving (w.table.map Prod.snd) (w.table.map Prod.snd) 0)) := by
  have hopen : w.places i ≠ .closed := by
    rw [hplace]
    exact nofun
  refine ⟨placed_goto h.placed i _ hopen ?_, agrees_goto c h.calls i _ ?_⟩
  · intro a hmem
    obtain ⟨entry, hentry, rfl⟩ := List.mem_map.mp hmem
    exact h.placed.table entry hentry
  · refine ⟨fun _ h => h, Nat.zero_add _, (calledFor_eq c w).symm, fun entry hentry => ?_⟩
    exact Or.inl (List.mem_map_of_mem hentry)

/-- A heartbeat is read. -/
theorem agreeing_read {w : World} {i : Nat} {leaving : Bool} {agents rest : List Nat}
    {a hot : Nat} {pressure : Rat} (hplace : w.places i = .counting leaving agents (a :: rest) hot)
    (hread : (w.agents a).lastHeartbeat.value getDouble (ascii "pressure_percent") 0 = .ok pressure)
    (h : Agreeing c w) :
    Agreeing c (w.goto i (.counting leaving agents rest
      (if c.pressureThreshold ≤ pressure then hot + 1 else hot))) := by
  have hopen : w.places i ≠ .closed := by
    rw [hplace]
    exact nofun
  have hagrees := h.calls i
  have hcounted := h.placed.counted i
  rw [hplace] at hagrees hcounted
  obtain ⟨hsub, hcount, hbias, hentries⟩ := hagrees
  refine ⟨placed_goto h.placed i _ hopen hcounted, agrees_goto c h.calls i _ ?_⟩
  refine ⟨fun b hb => hsub (List.mem_cons_of_mem a hb), ?_, hbias, hentries⟩
  -- The agent moves from those to be read to those that are counted.
  rw [List.countP_cons, isHot_of_value c _ pressure hread] at hcount
  refine Eq.trans ?_ hcount
  by_cases hle : c.pressureThreshold ≤ pressure
  · rw [if_pos hle, if_pos (decide_eq_true hle), Nat.add_right_comm]
    rfl
  · rw [if_neg hle, if_neg (by rw [decide_eq_false hle]; exact Bool.false_ne_true)]
    rfl

/-- All the heartbeats are read. -/
theorem agreeing_decide {w : World} {i : Nat} {leaving : Bool} {agents : List Nat} {hot : Nat}
    (hplace : w.places i = .counting leaving agents [] hot)
    (h : Agreeing c w) :
    Agreeing c (w.goto i (.leveling leaving (biasFor c hot agents.length) agents)) := by
  have hopen : w.places i ≠ .closed := by
    rw [hplace]
    exact nofun
  have hagrees := h.calls i
  rw [hplace] at hagrees
  obtain ⟨-, hcount, hbias, hentries⟩ := hagrees
  -- Nobody is left to be read, so the count is that of all agents.
  rw [List.countP_nil, Nat.add_zero] at hcount
  refine ⟨placed_goto h.placed i _ hopen fun _ h => absurd h List.not_mem_nil,
    agrees_goto c h.calls i _ ⟨?_, hentries⟩⟩
  rw [hcount]
  exact hbias

/-- The bias of an agent is written, or it is the same already. -/
theorem agreeing_setBias {w : World} {i : Nat} {leaving : Bool} {bias : Rat} {rest : List Nat}
    {a : Nat} (p : Place) (hpcounted : p.counted = [])
    (hpagrees : ∀ w', Place.Agrees c w' (.leveling leaving bias rest) → p.Agrees c w')
    (hplace : w.places i = .leveling leaving bias (a :: rest))
    (h : Agreeing c w) :
    Agreeing c ((w.setBias a bias).goto i p) := by
  have hopen : w.places i ≠ .closed := by
    rw [hplace]
    exact nofun
  have hagrees := h.calls i
  rw [hplace] at hagrees
  obtain ⟨hbias, hentries⟩ := hagrees
  have hself : ((w.setBias a bias).agents a).biasSent = bias := by
    rw [setBias_agents_self]
  have hother : ∀ b, b ≠ a → (w.setBias a bias).agents b = w.agents b :=
    fun b hne => setBias_agents_of_ne w bias hne
  -- The heartbeats are not touched, so the same bias is called for.
  have hhot : ∀ b, ((w.setBias a bias).agents b).isHot c = (w.agents b).isHot c := by
    intro b
    by_cases hb : b = a
    · rw [hb, setBias_agents_self]
      rfl
    · rw [hother b hb]
  have hcalled : (w.setBias a bias).calledFor c = w.calledFor c :=
    calledFor_congr c rfl fun entry _ => hhot entry.2
  have hplaced : Placed (w.setBias a bias) :=
    ⟨h.placed.closed, h.placed.table, h.placed.counted⟩
  refine ⟨placed_goto hplaced i p hopen ?_, agrees_goto c ?_ i p ?_⟩
  · rw [hpcounted]
    exact fun _ h => absurd h List.not_mem_nil
  · intro k
    refine agrees_mono c _ (h.calls k) hcalled (fun b _ => hhot b) fun entry hentry => ?_
    by_cases hb : entry.2 = a
    · rw [hb, hself]
      exact Or.inl hbias
    · rw [hother _ hb]
      exact Or.inr ⟨hentry, rfl⟩
  · refine hpagrees _ ⟨hbias.trans hcalled.symm, fun entry hentry => ?_⟩
    change entry.2 ∈ rest ∨ ((w.setBias a bias).agents entry.2).biasSent =
      (w.setBias a bias).calledFor c
    by_cases hb : entry.2 = a
    · rw [hb, hself, hcalled]
      exact Or.inr hbias
    · rw [hother _ hb, hcalled]
      exact (hentries entry hentry).imp_left fun hmem => (List.mem_cons.mp hmem).resolve_left hb

/-- A step of `Rebalance` keeps the agreement, and with the last one every agent has its
    bias. -/
theorem agreeing_proceed {w w' : World} (i : Nat) (hstep : w.proceed c i = some w')
    (h : Agreeing c w) :
    Agreeing c w' ∧ ((w.places i).inCall = true → (w'.places i).inCall = false → Leveled c w') := by
  have hreturn : ∀ leaving, w.places i ≠ .closed → Agreeing c (w.goto i (.after leaving)) := by
    intro leaving hopen
    refine ⟨placed_goto h.placed i _ hopen ?_, agrees_goto c h.calls i _ ?_⟩
    · rw [counted_after]
      exact fun _ ha => absurd ha List.not_mem_nil
    · exact agrees_of_not_underWay c _ _ (after_underWay leaving)
  have hinside : ∀ p : Place, p.inCall = true → ∀ v : World,
      ((v.goto i p).places i).inCall = false → Leveled c (v.goto i p) := by
    intro p hp v hout
    rw [goto_places_self, hp] at hout
    cases hout
  unfold World.proceed at hstep
  cases hplace : w.places i with
  | closed =>
      rw [hplace] at hstep
      cases hstep
      exact ⟨h, fun hcall => absurd hcall Bool.false_ne_true⟩
  | serving =>
      rw [hplace] at hstep
      cases hstep
      exact ⟨h, fun hcall => absurd hcall Bool.false_ne_true⟩
  | due leaving =>
      rw [hplace] at hstep
      dsimp only at hstep
      split_ifs at hstep with hempty
      · cases hstep
        refine ⟨hreturn leaving (by rw [hplace]; exact nofun), fun _ _ a ha => ?_⟩
        -- Without agents there is nothing to level.
        have hnil : (w.goto i (.after leaving)).connected = [] :=
          congrArg (List.map _) (List.isEmpty_iff.mp hempty)
        rw [hnil] at ha
        exact absurd ha List.not_mem_nil
      · cases hstep
        exact ⟨agreeing_copy c hplace h, fun _ => hinside _ rfl w⟩
  | counting leaving agents rest hot =>
      rw [hplace] at hstep
      cases rest with
      | nil =>
          cases hstep
          exact ⟨agreeing_decide c hplace h, fun _ => hinside _ rfl w⟩
      | cons a rest =>
          dsimp only at hstep
          cases hread : (w.agents a).lastHeartbeat.value getDouble (ascii "pressure_percent") 0 with
          | error e =>
              rw [hread] at hstep
              cases hstep
          | ok pressure =>
              rw [hread] at hstep
              cases hstep
              exact ⟨agreeing_read c hplace hread h, fun _ => hinside _ rfl w⟩
  | leveling leaving bias rest =>
      rw [hplace] at hstep
      cases rest with
      | nil =>
          cases hstep
          have hagrees := h.calls i
          rw [hplace] at hagrees
          exact ⟨hreturn leaving (by rw [hplace]; exact nofun),
            fun _ _ => leveled_of_agrees c hagrees.2⟩
      | cons a rest =>
          dsimp only at hstep
          split_ifs at hstep with hne
          · cases hstep
            exact ⟨agreeing_setBias c (.posting leaving bias rest a) rfl (fun _ ha => ha) hplace h,
              fun _ => hinside _ rfl _⟩
          · cases hstep
            -- The agent has the bias, so it is as if it were written again.
            have hsame : w.setBias a bias = w := by
              have heq : (w.agents a).biasSent = bias := by
                simpa only [bne_iff_ne, ne_eq, not_not] using hne
              unfold World.setBias
              rw [← heq, Function.update_eq_self]
            have hset := agreeing_setBias c (.leveling leaving bias rest) rfl (fun _ ha => ha)
              hplace h
            rw [hsame] at hset
            exact ⟨hset, fun _ => hinside _ rfl w⟩
  | posting leaving bias rest a =>
      rw [hplace] at hstep
      cases hstep
      have hagrees := h.calls i
      rw [hplace] at hagrees
      have hopen : w.places i ≠ .closed := by
        rw [hplace]
        exact nofun
      have hplaced : Placed (w.post a bias) := ⟨h.placed.closed, h.placed.table, h.placed.counted⟩
      have hcalls : ∀ k, ((w.post a bias).places k).Agrees c (w.post a bias) := fun k =>
        agrees_mono c _ (h.calls k) rfl (fun _ _ => rfl) fun _ hentry => Or.inr ⟨hentry, rfl⟩
      refine ⟨⟨placed_goto hplaced i (.leveling leaving bias rest) hopen fun _ ha => ?_,
        agrees_goto c hcalls i _ hagrees⟩, fun _ => hinside _ rfl _⟩
      exact absurd ha List.not_mem_nil

/-- A session that is not under way agrees with any table. -/
theorem agrees_of_underWay (w : World) (p : Place) (h : p.underWay = true → p.Agrees c w) :
    p.Agrees c w := by
  cases hp : p.underWay with
  | false => exact agrees_of_not_underWay c w p hp
  | true => exact h hp

theorem mem_insertAgent (host : Bytes) (i : Nat) (table : List (Bytes × Nat)) :
    ∀ entry ∈ insertAgent host i table, entry = (host, i) ∨ entry ∈ table := by
  induction table with
  | nil =>
      intro entry h
      exact .inl (List.mem_singleton.mp h)
  | cons x table ih =>
      intro entry h
      unfold insertAgent at h
      -- The table is ordered by host: the entry replaces one, comes before the rest, or goes
      -- further.
      split_ifs at h
      · exact (List.mem_cons.mp h).imp_right (List.mem_cons_of_mem _)
      · exact List.mem_cons.mp h
      · rcases List.mem_cons.mp h with h | h
        · exact .inr (h ▸ List.mem_cons_self)
        · exact (ih entry h).imp_right (List.mem_cons_of_mem _)

theorem agreeing_connect {w : World} (host : Bytes)
    (hquiet : Undisturbed c (some w) (.connect host)) (h : Agreeing c w) :
    Agreeing c (w.connect host) := by
  have hold : ∀ a, a < w.opened → (w.connect host).agents a = w.agents a :=
    fun a ha => Function.update_of_ne ha.ne _ _
  have hnew : (w.connect host).agents w.opened = ⟨host, .null, 0⟩ := Function.update_self ..
  -- The new thread is the next in number, and no call knows of it.
  refine ⟨⟨fun k hk => ?_, fun entry hentry => ?_, fun k a ha => ?_⟩, ?_⟩
  · have hlt : w.opened < k := hk
    exact (Function.update_of_ne hlt.ne' _ _).trans (h.placed.closed k hlt.le)
  · rcases mem_insertAgent host w.opened w.table entry hentry with rfl | hmem
    · exact Nat.lt_succ_self _
    · exact Nat.lt_succ_of_lt (h.placed.table entry hmem)
  · by_cases hk : k = w.opened
    · rw [hk] at ha
      have hserving : (w.connect host).places w.opened = .serving := Function.update_self ..
      rw [hserving] at ha
      exact absurd ha List.not_mem_nil
    · have hsame : (w.connect host).places k = w.places k := Function.update_of_ne hk _ _
      rw [hsame] at ha
      exact Nat.lt_succ_of_lt (h.placed.counted k a ha)
  · refine agrees_update c w.opened .serving rfl (fun k _ => ?_) trivial
    refine agrees_of_underWay c _ _ fun hunder => ?_
    obtain ⟨hzero, hcalled⟩ := hquiet w k rfl hunder
    refine agrees_mono c _ (h.calls k) hcalled ?_ fun entry hentry => ?_
    · intro a ha
      rw [hold a (h.placed.counted k a ha)]
    · -- The new agent has no bias, which is the one called for.
      rcases mem_insertAgent host w.opened w.table entry hentry with rfl | hmem
      · rw [hnew]
        exact Or.inl hzero.symm
      · rw [hold _ (h.placed.table entry hmem)]
        exact Or.inr ⟨hmem, rfl⟩

theorem agreeing_heartbeat {w : World} (i : Nat) (hb : Heartbeat)
    (hquiet : Undisturbed c (some w) (.heartbeat i hb)) (h : Agreeing c w) :
    Agreeing c (w.heartbeat i hb) := by
  cases hplace : w.places i with
  | serving =>
      have heq : w.heartbeat i hb =
          { w with
            agents := Function.update w.agents i { w.agents i with lastHeartbeat := hb.json }
            places := Function.update w.places i (.due false) } := by
        rw [World.heartbeat, hplace]
      have hother : ∀ a, a ≠ i → (w.heartbeat i hb).agents a = w.agents a := by
        intro a ha
        rw [heq]
        exact Function.update_of_ne ha _ _
      have hself : (w.heartbeat i hb).agents i = { w.agents i with lastHeartbeat := hb.json } := by
        rw [heq]
        exact Function.update_self ..
      have hbias : ∀ a, ((w.heartbeat i hb).agents a).biasSent = (w.agents a).biasSent := by
        intro a
        by_cases ha : a = i
        · rw [ha, hself]
        · rw [hother a ha]
      have htable : (w.heartbeat i hb).table = w.table := by rw [heq]
      have hplaces : (w.heartbeat i hb).places = Function.update w.places i (.due false) := by
        rw [heq]
      have hplaced : Placed (w.heartbeat i hb) := by
        have hgoto := placed_goto h.placed i (.due false) (by rw [hplace]; exact nofun)
          fun _ ha => absurd ha List.not_mem_nil
        rw [heq]
        exact ⟨hgoto.closed, hgoto.table, hgoto.counted⟩
      refine ⟨hplaced, agrees_update c i (.due false) hplaces (fun k _ => ?_) trivial⟩
      -- A call under way was promised that neither the count nor the bias called for changes.
      refine agrees_of_underWay c _ _ fun hunder => ?_
      obtain ⟨hcalled, hcounted⟩ := hquiet w k rfl hunder
      refine agrees_mono c _ (h.calls k) hcalled (fun a ha => ?_) fun entry hentry => ?_
      · by_cases hai : a = i
        · rw [hai] at ha ⊢
          exact hcounted ha
        · rw [hother a hai]
      · rw [htable] at hentry
        exact Or.inr ⟨hentry, hbias _⟩
  | _ =>
      have heq : w.heartbeat i hb = w := by rw [World.heartbeat, hplace]
      rw [heq]
      exact h

theorem agreeing_disconnect {w : World} (i : Nat)
    (hquiet : Undisturbed c (some w) (.disconnect i)) (h : Agreeing c w) :
    Agreeing c (w.disconnect i) := by
  cases hplace : w.places i with
  | serving =>
      have heq : w.disconnect i =
          { w with
            table := w.table.filter fun entry => entry != ((w.agents i).host, i)
            places := Function.update w.places i (.due true) } := by
        rw [World.disconnect, hplace]
      have hplaces : (w.disconnect i).places = Function.update w.places i (.due true) := by
        rw [heq]
      have hagents : (w.disconnect i).agents = w.agents := by rw [heq]
      have hsub : ∀ entry ∈ (w.disconnect i).table, entry ∈ w.table := by
        rw [heq]
        exact fun entry hentry => List.mem_of_mem_filter hentry
      have hplaced : Placed (w.disconnect i) := by
        have hgoto := placed_goto h.placed i (.due true) (by rw [hplace]; exact nofun)
          fun _ ha => absurd ha List.not_mem_nil
        rw [heq] at hsub ⊢
        exact ⟨hgoto.closed, fun entry hentry => hgoto.table entry (hsub entry hentry),
          hgoto.counted⟩
      refine ⟨hplaced, agrees_update c i (.due true) hplaces (fun k _ => ?_) trivial⟩
      -- The table only loses an entry, so a call under way has no more to reach.
      refine agrees_of_underWay c _ _ fun hunder => ?_
      refine agrees_mono c _ (h.calls k) (hquiet w k rfl hunder) (fun a _ => ?_)
        fun entry hentry => ?_
      · rw [hagents]
      · rw [hagents]
        exact Or.inr ⟨hsub entry hentry, rfl⟩
  | _ =>
      have heq : w.disconnect i = w := by rw [World.disconnect, hplace]
      rw [heq]
      exact h

/-- Whatever a session does next, what the calls have found out and done goes on agreeing
    with the table. -/
theorem agreeing_step {w w' : World} (e : Event) (hquiet : Undisturbed c (some w) e)
    (hstep : step c (some w) e = some w') (h : Agreeing c w) : Agreeing c w' := by
  cases e with
  | connect host =>
      cases hstep
      exact agreeing_connect c host hquiet h
  | heartbeat i hb =>
      cases hstep
      exact agreeing_heartbeat c i hb hquiet h
  | disconnect i =>
      cases hstep
      exact agreeing_disconnect c i hquiet h
  | proceed i => exact (agreeing_proceed c i hstep h).1

/-- With what the calls have found out and done agreeing with the table, a call that
    completes leaves every agent with its bias. -/
theorem rebalances_iff_completes (s : Option World) (e : Event)
    (hs : ∀ w, s = some w → Agreeing c w) : Rebalances c s e ↔ Completes c s e := by
  constructor
  · intro h w i hw he hcall
    obtain ⟨w', hw', hleft, -⟩ := h w i hw he hcall
    exact ⟨w', hw', hleft⟩
  · rintro h w i rfl rfl hcall
    obtain ⟨w', hw', hleft⟩ := h w i rfl rfl hcall
    exact ⟨w', hw', hleft, (agreeing_proceed c i hw' (hs w rfl)).2 hcall⟩

theorem agreeing_empty : Agreeing c .empty where
  placed := ⟨fun _ _ => rfl, fun _ h => absurd h List.not_mem_nil,
    fun _ _ h => absurd h List.not_mem_nil⟩
  calls _ := trivial

/-- In every order of the steps: each call of `Rebalance` completes exactly if none of
    them reads a heartbeat that has not come yet. If nothing disturbs them while they are
    under way, then that is also exactly when each leaves every agent with its bias. -/
theorem along_rebalances (l : List Event) :
    (Along (step c) (Completes c) (some .empty) l ↔ Along (step c) Reported (some .empty) l) ∧
      (Along (step c) (Undisturbed c) (some .empty) l →
        (Along (step c) (Rebalances c) (some .empty) l ↔
          Along (step c) Reported (some .empty) l)) := by
  -- That a call returns depends on the reports alone, which the invariant `Readable` follows.
  have hreadable : Readable (some .empty) := by
    rintro w hw i
    cases hw
    exact Or.inl rfl
  have hcompletes : Along (step c) (Completes c) (some .empty) l ↔
      Along (step c) Reported (some .empty) l :=
    along_iff_along (step c) (Completes c) Reported Readable (readable_step c)
      (completes_iff_reported c) l (some .empty) hreadable
  refine ⟨hcompletes, fun hquiet => Iff.trans ?_ hcompletes⟩
  -- That it levels the agents needs the invariant `Agreeing`, and so the undisturbed run.
  refine along_iff_along_of (step c) (Undisturbed c) (Rebalances c) (Completes c)
    (fun s => ∀ w, s = some w → Agreeing c w) ?_ (fun s e _ hs => rebalances_iff_completes c s e hs)
    l (some .empty) hquiet ?_
  · intro s e hs hagreeing w' hw'
    cases s with
    | none => cases hw'
    | some w => exact agreeing_step c e hs hw' (hagreeing w rfl)
  · intro w hw
    cases hw
    exact agreeing_empty c

end Agreement

section Idle

/-- No call is under way. -/
def World.Idle (w : World) : Prop := ∀ k, (w.places k).underWay = false

theorem idle_update {w w' : World} (h : w.Idle) (i : Nat) (p : Place) (hp : p.underWay = false)
    (hplaces : w'.places = Function.update w.places i p) : w'.Idle := by
  intro k
  rw [hplaces]
  by_cases hk : k = i
  · rw [hk, Function.update_self]
    exact hp
  · rw [Function.update_of_ne hk]
    exact h k

theorem idle_connect {w : World} (h : w.Idle) (host : Bytes) : (w.connect host).Idle :=
  idle_update h w.opened .serving rfl rfl

theorem idle_heartbeat {w : World} (h : w.Idle) (i : Nat) (hb : Heartbeat) :
    (w.heartbeat i hb).Idle := by
  unfold World.heartbeat
  split
  · exact idle_update h i (.due false) rfl rfl
  · exact h

/-- Nothing is disturbed before a call is under way. -/
theorem undisturbed_of_idle {w : World} (h : w.Idle) (e : Event) :
    Undisturbed c (some w) e := by
  intro w' k hw' hunder
  cases hw'
  rw [h k] at hunder
  cases hunder

/-- Nor by the calls themselves. -/
theorem undisturbed_proceed (s : Option World) (l : List Event)
    (hl : ∀ e ∈ l, ∃ i, e = .proceed i) : Along (step c) (Undisturbed c) s l := by
  refine along_of_along (step c) (fun _ e => ∃ i, e = .proceed i) (Undisturbed c) (fun _ => True)
    (fun _ _ _ _ => trivial) ?_ l s (along_of_forall_mem (step c) _ s l hl) trivial
  rintro s e ⟨i, rfl⟩ - w k - -
  trivial

end Idle

section Examples

/-- The settings without options. -/
def defaults : Settings := ⟨85, 50, 5, id⟩

/-- A heartbeat with a pressure of 40 percent. -/
def labHeartbeat : Heartbeat where
  members := [(ascii "type", .string (ascii "heartbeat")), (ascii "pressure_percent", .integer 40)]
  type := rfl
  pressure := ⟨.integer 40, rfl, rfl⟩

/-- A heartbeat with a pressure of 90 percent. -/
def hotHeartbeat : Heartbeat where
  members := [(ascii "type", .string (ascii "heartbeat")), (ascii "pressure_percent", .integer 90)]
  type := rfl
  pressure := ⟨.integer 90, rfl, rfl⟩

/-- A session takes so many steps. -/
def steps (n i : Nat) : List Event := List.replicate n (.proceed i)

/-- Two agents connect, and the first one sends its heartbeat first. -/
def silentSecond : List Event :=
  [.connect (ascii "lab-1"), .connect (ascii "lab-2"), .heartbeat 0 labHeartbeat] ++ steps 2 0

/-- The first session has counted no hot agent of two. Before it goes on, the second one
    rebalances, receives a heartbeat over the threshold, and rebalances again. -/
def overtaken : List Event :=
  [.connect (ascii "lab-1"), .connect (ascii "lab-2"), .heartbeat 0 labHeartbeat,
    .heartbeat 1 labHeartbeat] ++ steps 3 0 ++ steps 7 1 ++ [.heartbeat 1 hotHeartbeat] ++
    steps 9 1 ++ steps 5 0

/-- In the first run the next step throws, and in the second one it leaves both agents
    without the bias that the table calls for. -/
theorem not_rebalances :
    ¬ Along (step defaults) (Rebalances defaults) (some .empty) (silentSecond ++ [.proceed 0]) ∧
      ¬ Along (step defaults) (Rebalances defaults) (some .empty) (overtaken ++ [.proceed 0]) := by
  constructor
  · intro h
    have hlast := ((along_append _ _ _ _ _).mp h).2.1
    -- The second agent has sent no heartbeat yet, and reading it throws.
    have hcall : (run (step defaults) (some .empty) silentSecond).any
        (fun w => (w.places 0).inCall) = true := by decide +kernel
    have hnone : (step defaults (run (step defaults) (some .empty) silentSecond)
        (.proceed 0)).isNone = true := by decide +kernel
    obtain ⟨w, hw, hw0⟩ := Option.any_eq_true .. |>.mp hcall
    obtain ⟨w', hw', -⟩ := hlast w 0 hw rfl hw0
    rw [hw'] at hnone
    cases hnone
  · intro h
    have hlast := ((along_append _ _ _ _ _).mp h).2.1
    have hcall : (run (step defaults) (some .empty) overtaken).any
        (fun w => (w.places 0).inCall) = true := by decide +kernel
    -- The call that was overtaken returns, and an agent has the bias of the other call.
    have hbad : (step defaults (run (step defaults) (some .empty) overtaken) (.proceed 0)).any
        (fun w => !(w.places 0).inCall &&
          w.connected.any fun a => a.biasSent != w.calledFor defaults) = true := by decide +kernel
    obtain ⟨w, hw, hw0⟩ := Option.any_eq_true .. |>.mp hcall
    obtain ⟨w', hw', -, hleveled⟩ := hlast w 0 hw rfl hw0
    rw [hw', Option.any_some, Bool.and_eq_true, Bool.not_eq_true', List.any_eq_true] at hbad
    obtain ⟨hreturned, a, ha, hne⟩ := hbad
    exact bne_iff_ne.mp hne (hleveled hreturned a ha)

/-- Both sessions rebalance at once, and neither is disturbed. -/
def together : List Event :=
  steps 3 0 ++ steps 9 1 ++ steps 4 0

theorem along_rebalances_together :
    Along (step defaults) (Rebalances defaults) (some .empty)
      ([.connect (ascii "lab-1"), .connect (ascii "lab-2"), .heartbeat 0 hotHeartbeat,
        .heartbeat 1 labHeartbeat] ++ together) := by
  refine ((along_rebalances defaults _).2 ?_).mpr (by decide +kernel)
  -- Before the two calls nothing is under way, so no event can disturb one.
  have hempty : World.empty.Idle := fun _ => rfl
  have hfirst := idle_connect hempty (ascii "lab-1")
  have hsecond := idle_connect hfirst (ascii "lab-2")
  have hthird := idle_heartbeat hsecond 0 hotHeartbeat
  refine (along_append _ _ _ _ _).mpr ⟨⟨undisturbed_of_idle defaults hempty _,
    undisturbed_of_idle defaults hfirst _, undisturbed_of_idle defaults hsecond _,
    undisturbed_of_idle defaults hthird _, trivial⟩, undisturbed_proceed defaults _ together ?_⟩
  intro e he
  simp only [together, steps, List.mem_append, List.mem_replicate] at he
  rcases he with (⟨-, rfl⟩ | ⟨-, rfl⟩) | ⟨-, rfl⟩
  · exact ⟨0, rfl⟩
  · exact ⟨1, rfl⟩
  · exact ⟨0, rfl⟩

end Examples

end Controller

end ThreadHaul
