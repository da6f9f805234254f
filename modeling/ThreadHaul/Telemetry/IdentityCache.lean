import ThreadHaul.Telemetry.ProcessIdentity

/-!
# The Cache of the Identity Filter

What a sequence of `SetExpected` and `Filter` calls shows to its caller.

`SetExpected` starts over, so only the calls since the latest one matter: `Since`
collects them, and `run_call` says that the filter is the one they lead to. What
passes is then decided by the pins alone.

What is reported does depend on the calls before, but only on the last one. After a
call the cache holds the processes of its snapshot whose name is pinned, each with
its start time, and nothing else: `lookup_cache`. A process is reported unless it is
among them, so a process is reported by the first call that sees it, and not again
as long as each call sees it.

## Main definitions

* `IdentityCall`, `IdentityFilter.call`: The two calls.
* `Since`: What the calls since the latest `SetExpected` are.
* `rejection`: What one turn of the loop reports.
* `Sees`: A call finds a process instance in its snapshot.

## Theorems

* `run_call`: Only the calls since the latest `SetExpected` matter.
* `rejected_foldl`: What the loop reports.
* `lookup_cache`: What is kept after a call.
* `identity_cache_invisible`: What passes, and what is reported.
-/

namespace ThreadHaul

namespace Telemetry

open Actuator Service OrderedMap Runs

/-- A call of the filter. -/
inductive IdentityCall
  | setExpected (pins : List (WString × ExpectedIdentity))
  | filter (r : Readings) (snapshot : List ProcessEntry)

/-- The filter after a call. -/
def IdentityFilter.call (host : Host) (f : IdentityFilter) : IdentityCall → IdentityFilter
  | .setExpected pins => setExpected pins
  | .filter r snapshot => filterNext host f (r, snapshot)

/-- Every pin asks for something, processes keep their names and images, and no two
    processes of a snapshot have one id. -/
def IdentityCall.Ok (instances : DWORD → UInt64 → Instance) : IdentityCall → Prop
  | .setExpected pins => Asks pins
  | .filter r snapshot =>
      Instances instances r snapshot ∧ (snapshot.map ProcessEntry.pid).Nodup

/-- The pins of the latest `SetExpected`, and the `Filter` calls since. -/
structure Since where
  pins : List (WString × ExpectedIdentity) := []
  polls : List (Readings × List ProcessEntry) := []

/-- One call, with what was seen since the last `SetExpected`. -/
def Since.call (s : Since) : IdentityCall → Since
  | .setExpected pins => { pins := pins, polls := [] }
  | .filter r snapshot => { s with polls := s.polls ++ [(r, snapshot)] }

/-- The calls since the latest `SetExpected`. -/
def since (calls : List IdentityCall) : Since := run Since.call {} calls

/-- The filter after the calls. -/
def filterAfter (host : Host) (calls : List IdentityCall) : IdentityFilter :=
  run (IdentityFilter.call host) {} calls

section Calls

variable (host : Host) (instances : DWORD → UInt64 → Instance)

/-- What the calls before the latest `SetExpected` did is forgotten. -/
structure Follows (f : IdentityFilter) (s : Since) : Prop where
  filter : f = run (filterNext host) (setExpected s.pins) s.polls
  asks : Asks s.pins
  polls : ∀ poll ∈ s.polls, Instances instances poll.1 poll.2

theorem follows_call (f : IdentityFilter) (s : Since) (c : IdentityCall) (hc : c.Ok instances)
    (h : Follows host instances f s) : Follows host instances (f.call host c) (s.call c) := by
  cases c with
  | setExpected pins => exact ⟨rfl, hc, fun poll hpoll => absurd hpoll List.not_mem_nil⟩
  | filter r snapshot =>
      refine ⟨?_, h.asks, ?_⟩
      · rw [Since.call, run_append, ← h.filter]
        rfl
      · intro poll hpoll
        rcases List.mem_append.mp hpoll with hpoll | hpoll
        · exact h.polls poll hpoll
        · rw [List.mem_singleton.mp hpoll]
          exact hc.1

/-- Only the calls since the latest `SetExpected` matter. -/
theorem run_call (calls : List IdentityCall) (hcalls : ∀ c ∈ calls, c.Ok instances) :
    Follows host instances (filterAfter host calls) (since calls) := by
  have hsame : List.Forall₂ (fun c c' : IdentityCall => c = c' ∧ c.Ok instances) calls calls :=
    List.forall₂_same.mpr fun c hc => ⟨rfl, hcalls c hc⟩
  refine run_simulation (IdentityFilter.call host) Since.call _ (Follows host instances) ?_ hsame
    {} {} ⟨rfl, fun p hp => absurd hp List.not_mem_nil, fun p hp => absurd hp List.not_mem_nil⟩
  intro f s c c' hcc h
  rw [← hcc.1]
  exact follows_call host instances f s c hcc.2 h

end Calls

section Loop

variable (host : Host) (r : Readings) (expected : List (WString × ExpectedIdentity))

/-- What one turn of the loop reports. -/
def rejection (cache : List (DWORD × Cached)) (e : ProcessEntry) : Option Rejection :=
  match expected.lookup (lower e.name) with
  | none => none
  | some want => (inspect host r cache want e).2

variable {host r expected}

/-- A process is looked up by its id alone. -/
theorem rejection_congr {cache cache' : List (DWORD × Cached)} {e : ProcessEntry}
    (h : cache.lookup e.pid = cache'.lookup e.pid) :
    rejection host r expected cache e = rejection host r expected cache' e := by
  rw [rejection, rejection]
  unfold inspect
  rw [h]

theorem entry_of_rejection {cache : List (DWORD × Cached)} {e : ProcessEntry} {x : Rejection}
    (h : rejection host r expected cache e = some x) : x.entry = e := by
  unfold rejection at h
  rcases hwant : expected.lookup (lower e.name) with _ | want
  · rw [hwant] at h
    cases h
  · rw [hwant] at h
    dsimp only at h
    unfold inspect at h
    -- What is reported is made from the process, whatever the cache holds.
    rcases hc : cache.lookup e.pid with _ | c
    · rw [hc] at h
      dsimp only at h
      split_ifs at h
      exact congrArg Rejection.entry (Option.some.inj h).symm
    · rw [hc] at h
      dsimp only at h
      split_ifs at h
      exact congrArg Rejection.entry (Option.some.inj h).symm

theorem startTime_inspect (cache : List (DWORD × Cached)) (want : ExpectedIdentity)
    (e : ProcessEntry) : (inspect host r cache want e).1.startTime = r.startTime e.pid := by
  unfold inspect
  rcases cache.lookup e.pid with _ | c
  · rfl
  · by_cases hstart : c.startTime = r.startTime e.pid
    · simp only [hstart, ne_eq, not_true, if_false]
    · simp only [hstart, ne_eq, not_false_eq_true, if_true]

/-- A turn reports its own process, and other processes are kept as before. -/
theorem next_rejected (acc : Filtering) (e : ProcessEntry) :
    (acc.next host r expected e).rejected
        = acc.rejected ++ (rejection host r expected acc.cache e).toList ∧
      ∀ pid, pid ≠ e.pid → (acc.next host r expected e).cache.lookup pid
        = acc.cache.lookup pid := by
  unfold Filtering.next rejection
  rcases expected.lookup (lower e.name) with _ | want
  · exact ⟨(List.append_nil _).symm, fun pid _ => rfl⟩
  · refine ⟨rfl, fun pid hpid => ?_⟩
    exact (lookup_assign _ _ _ _).trans (if_neg hpid)

/-- In a snapshot without two processes of one id, the loop reports what every turn
    reports on its own. -/
theorem rejected_foldl (snapshot : List ProcessEntry)
    (hpids : (snapshot.map ProcessEntry.pid).Nodup) (acc : Filtering) :
    (snapshot.foldl (Filtering.next host r expected) acc).rejected
      = acc.rejected ++ snapshot.filterMap (rejection host r expected acc.cache) := by
  induction snapshot generalizing acc with
  | nil => exact (List.append_nil _).symm
  | cons e snapshot ih =>
      rw [List.map_cons, List.nodup_cons] at hpids
      have hnext := @next_rejected host r expected acc e
      -- The rest of the loop finds its processes as if this turn had not been.
      have hrest : snapshot.filterMap (rejection host r expected (acc.next host r expected e).cache)
          = snapshot.filterMap (rejection host r expected acc.cache) := by
        refine List.filterMap_congr fun e' he' => rejection_congr (hnext.2 e'.pid ?_)
        exact fun heq => hpids.1 (heq ▸ List.mem_map_of_mem he')
      rw [List.foldl_cons, ih hpids.2, hnext.1, hrest, List.append_assoc]
      congr 1
      rcases hx : rejection host r expected acc.cache e with _ | x
      · rw [List.filterMap_cons_none hx]
        rfl
      · rw [List.filterMap_cons_some hx]
        rfl

/-- So the reports about one process are those of its turn. -/
theorem rejected_of_pid (snapshot : List ProcessEntry)
    (hpids : (snapshot.map ProcessEntry.pid).Nodup) (cache : List (DWORD × Cached))
    (e : ProcessEntry) (he : e ∈ snapshot) :
    (snapshot.filterMap (rejection host r expected cache)).filter
        (fun x => decide (x.entry.pid = e.pid))
      = (rejection host r expected cache e).toList := by
  rcases List.append_of_mem he with ⟨before, after, rfl⟩
  rw [List.map_append, List.map_cons, List.nodup_append, List.nodup_cons] at hpids
  -- Whatever another process is reported for has another id.
  have hother : ∀ l : List ProcessEntry, (∀ e' ∈ l, e'.pid ≠ e.pid) →
      (l.filterMap (rejection host r expected cache)).filter
        (fun x => decide (x.entry.pid = e.pid)) = [] := by
    intro l hl
    rw [List.filter_eq_nil_iff]
    intro x hx
    rcases List.mem_filterMap.mp hx with ⟨e', he', hrej⟩
    rw [decide_eq_true_iff, entry_of_rejection hrej]
    exact hl e' he'
  have hbefore := hother before fun e' he' =>
    hpids.2.2 e'.pid (List.mem_map_of_mem he') e.pid (List.mem_cons_self ..)
  have hafter := hother after fun e' he' heq =>
    hpids.2.1.1 (heq ▸ List.mem_map_of_mem he')
  rw [List.filterMap_append, List.filter_append, hbefore, List.nil_append]
  rcases hx : rejection host r expected cache e with _ | x
  · rw [List.filterMap_cons_none hx, hafter]
    rfl
  · have hpid : decide (x.entry.pid = e.pid) = true :=
      decide_eq_true (congrArg ProcessEntry.pid (entry_of_rejection hx))
    rw [List.filterMap_cons_some hx, List.filter_cons, if_pos hpid, hafter]
    rfl

/-- What the loop has seen: the processes with a pinned name, with their start times. -/
theorem lookup_seen (snapshot : List ProcessEntry) (acc : Filtering) (pid : DWORD) :
    ((snapshot.foldl (Filtering.next host r expected) acc).seen.lookup pid).map Cached.startTime
      = if ∃ e ∈ snapshot, e.pid = pid ∧ (expected.lookup (lower e.name)).isSome = true then
          some (r.startTime pid)
        else (acc.seen.lookup pid).map Cached.startTime := by
  -- By induction on the snapshot: a later entry with the same id overwrites the earlier one.
  induction snapshot generalizing acc with
  | nil =>
      rw [if_neg (fun h => absurd h.choose_spec.1 List.not_mem_nil)]
      rfl
  | cons e snapshot ih =>
      rw [List.foldl_cons, ih]
      have hcons : (∃ e' ∈ e :: snapshot, e'.pid = pid ∧
            (expected.lookup (lower e'.name)).isSome = true) ↔
          (e.pid = pid ∧ (expected.lookup (lower e.name)).isSome = true) ∨
            ∃ e' ∈ snapshot, e'.pid = pid ∧ (expected.lookup (lower e'.name)).isSome = true :=
        List.exists_mem_cons_iff _ _ _
      by_cases hrest : ∃ e' ∈ snapshot, e'.pid = pid ∧
          (expected.lookup (lower e'.name)).isSome = true
      · rw [if_pos hrest, if_pos (hcons.mpr (Or.inr hrest))]
      · -- Only this turn can have seen it.
        rw [if_neg hrest]
        rcases hwant : expected.lookup (lower e.name) with _ | want
        · have hno : ¬ ∃ e' ∈ e :: snapshot, e'.pid = pid ∧
              (expected.lookup (lower e'.name)).isSome = true := by
            rw [hcons, hwant]
            exact fun h => h.elim (fun h => Bool.false_ne_true h.2) hrest
          rw [if_neg hno, Filtering.next, hwant]
        · have hseen : (acc.next host r expected e).seen
              = assign acc.seen e.pid (inspect host r acc.cache want e).1 := by
            rw [Filtering.next, hwant]
          rw [hseen, lookup_assign]
          by_cases hpid : pid = e.pid
          · have hyes : ∃ e' ∈ e :: snapshot, e'.pid = pid ∧
                (expected.lookup (lower e'.name)).isSome = true := by
              rw [hcons, hwant]
              exact Or.inl ⟨hpid.symm, rfl⟩
            rw [if_pos hpid, if_pos hyes, Option.map_some, startTime_inspect, hpid]
          · have hno : ¬ ∃ e' ∈ e :: snapshot, e'.pid = pid ∧
                (expected.lookup (lower e'.name)).isSome = true := by
              rw [hcons]
              exact fun h => h.elim (fun h => hpid h.1.symm) hrest
            rw [if_neg hpid, if_neg hno]

/-- A process is reported if it does not match and is not the one that is kept. -/
theorem rejection_eq (cache : List (DWORD × Cached)) (e : ProcessEntry) (want : ExpectedIdentity)
    (hwant : expected.lookup (lower e.name) = some want)
    (hno : ¬ Matches host want (r.observe want e.pid)) :
    rejection host r expected cache e
      = if (cache.lookup e.pid).map Cached.startTime = some (r.startTime e.pid) then none
        else some { entry := e, observed := r.observe want e.pid,
                    reason := identityMismatch host want (r.observe want e.pid) } := by
  have hreason : (identityMismatch host want (r.observe want e.pid)).isEmpty = false :=
    Bool.eq_false_iff.mpr fun h => hno ((isEmpty_mismatch_iff want _).mp h)
  rw [rejection, hwant]
  unfold inspect
  -- Without an entry the process is new; with one the start time tells.
  rcases cache.lookup e.pid with _ | c
  · simp only [hreason, Option.map_none, reduceCtorEq, if_false, Bool.false_eq_true]
  · by_cases hstart : c.startTime = r.startTime e.pid
    · simp only [hstart, ne_eq, not_true, if_false, Option.map_some, if_true]
    · simp only [hstart, ne_eq, not_false_eq_true, if_true, hreason, Bool.false_eq_true, if_false,
        Option.map_some, Option.some.injEq]

end Loop

/-- A call finds a process instance in its snapshot. -/
def Sees (poll : Readings × List ProcessEntry) (pid : DWORD) (start : UInt64) : Prop :=
  ∃ e ∈ poll.2, e.pid = pid ∧ poll.1.startTime pid = start

section Invisible

variable {host : Host} {instances : DWORD → UInt64 → Instance}

theorem expected_run (pins : List (WString × ExpectedIdentity))
    (polls : List (Readings × List ProcessEntry)) :
    (run (filterNext host) (setExpected pins) polls).expected = inForce pins := by
  refine run_invariant (filterNext host) (fun f => f.expected = inForce pins) ?_ polls _ rfl
  intro f poll hf
  rw [filterNext, IdentityFilter.filter]
  by_cases hempty : f.expected.isEmpty = true
  · rw [if_pos hempty]
    exact hf
  · rw [if_neg hempty]
    exact hf

/-- What is kept of a process after some calls: the start time the last one saw, if
    that one saw it under a pinned name. -/
theorem lookup_cache (pins : List (WString × ExpectedIdentity)) (hpins : inForce pins ≠ [])
    (polls : List (Readings × List ProcessEntry)) (pid : DWORD) (start : UInt64) :
    ((run (filterNext host) (setExpected pins) polls).cache.lookup pid).map Cached.startTime
        = some start ↔
      ∃ last ∈ polls.getLast?, ∃ e ∈ last.2, e.pid = pid ∧ last.1.startTime pid = start ∧
        ((inForce pins).lookup (lower e.name)).isSome = true := by
  rcases List.eq_nil_or_concat polls with rfl | ⟨earlier, last, rfl⟩
  · -- `SetExpected` forgets everything.
    refine iff_of_false (fun h => by cases h) ?_
    rintro ⟨last, hlast, _⟩
    cases hlast
  · have hexpected := @expected_run host pins earlier
    have hempty : ¬ (run (filterNext host) (setExpected pins) earlier).expected.isEmpty = true := by
      rw [hexpected, List.isEmpty_iff]
      exact hpins
    -- The cache is what the last poll has seen, whatever the earlier ones have.
    rw [List.concat_eq_append, run_append, run_cons, run_nil, filterNext, IdentityFilter.filter,
      if_neg hempty]
    rw [lookup_seen, hexpected, List.getLast?_append_of_ne_nil _ (List.cons_ne_nil _ _),
      List.getLast?_singleton]
    simp only [Option.mem_def, Option.some.injEq, exists_eq_left']
    constructor
    · intro h
      split_ifs at h with hseen
      · rcases hseen with ⟨e, he, hpid, hpinned⟩
        exact ⟨e, he, hpid, Option.some.inj h, hpinned⟩
      · cases h
    · rintro ⟨e, he, hpid, hstart, hpinned⟩
      rw [if_pos ⟨e, he, hpid, hpinned⟩, hstart]

/-- A process that can be opened is the one that is kept if the last call saw it: it
    had its name then. -/
theorem kept_iff_sees {s : Since} (hs : ∀ poll ∈ s.polls, Instances instances poll.1 poll.2)
    {r : Readings} {e : ProcessEntry} (he : Instances instances r [e])
    (hopen : r.startTime e.pid ≠ 0) {want : ExpectedIdentity}
    (hwant : (inForce s.pins).lookup (lower e.name) = some want) :
    ((run (filterNext host) (setExpected s.pins) s.polls).cache.lookup e.pid).map Cached.startTime
        = some (r.startTime e.pid) ↔
      ∃ last ∈ s.polls.getLast?, Sees last e.pid (r.startTime e.pid) := by
  have hpins : inForce s.pins ≠ [] := by
    intro hnil
    rw [hnil] at hwant
    cases hwant
  rw [lookup_cache s.pins hpins]
  refine exists_congr fun last => and_congr_right fun hlast => ?_
  constructor
  · rintro ⟨e', he', hpid, hstart, -⟩
    exact ⟨e', he', hpid, hstart⟩
  · rintro ⟨e', he', hpid, hstart⟩
    refine ⟨e', he', hpid, hstart, ?_⟩
    -- The process had the same name then, since it is the same instance.
    have hnow := ((he e (List.mem_singleton.mpr rfl)).2 hopen).1
    have hthen := ((hs last (List.mem_of_getLast? hlast) e' he').2
      (by rw [hpid, hstart]; exact hopen)).1
    rw [hthen, hpid, hstart, ← hnow, hwant]
    rfl

end Invisible

/-- The reports of a call about one process are those of its own turn, which asks the
    cache. -/
theorem rejected_filter {host : Host} {r : Readings} {snapshot : List ProcessEntry}
    (hpids : (snapshot.map ProcessEntry.pid).Nodup) (f : IdentityFilter)
    {expected : List (WString × ExpectedIdentity)} (hexpected : f.expected = expected)
    {e : ProcessEntry} (he : e ∈ snapshot) {want : ExpectedIdentity}
    (hwant : expected.lookup (lower e.name) = some want) :
    (f.filter host r snapshot).rejected.filter (fun x => decide (x.entry.pid = e.pid))
      = (rejection host r expected f.cache e).toList := by
  have hempty : ¬ f.expected.isEmpty = true := by
    rw [hexpected, List.isEmpty_iff]
    rintro rfl
    cases hwant
  rw [IdentityFilter.filter, if_neg hempty]
  dsimp only
  -- Each entry is reported by its own turn, and no other has its id.
  rw [hexpected, rejected_foldl snapshot hpids, List.nil_append]
  exact rejected_of_pid snapshot hpids _ e he

/-- The cache does not show. After any calls, `Filter` passes what matches the pins of the
    latest `SetExpected`, in order; and of a process that can be opened and does not match
    there is one report, unless the call before saw it, and none if it did. -/
theorem identity_cache_invisible (host : Host) (instances : DWORD → UInt64 → Instance)
    (calls : List IdentityCall) (hcalls : ∀ c ∈ calls, c.Ok instances) (r : Readings)
    (snapshot : List ProcessEntry) (hcall : (IdentityCall.filter r snapshot).Ok instances) :
    ((filterAfter host calls).filter host r snapshot).passed
        = snapshot.filter (passes host r (inForce (since calls).pins)) ∧
      (∀ e, e ∈ ((filterAfter host calls).filter host r snapshot).passed ↔ e ∈ snapshot ∧
        ∀ want, (inForce (since calls).pins).lookup (lower e.name) = some want →
          Matches host want (r.observe want e.pid)) ∧
      ∀ e ∈ snapshot, r.startTime e.pid ≠ 0 →
        ∀ want, (inForce (since calls).pins).lookup (lower e.name) = some want →
          ¬ Matches host want (r.observe want e.pid) →
          ((∀ last ∈ (since calls).polls.getLast?, ¬ Sees last e.pid (r.startTime e.pid)) →
            ((filterAfter host calls).filter host r snapshot).rejected.filter
                (fun x => decide (x.entry.pid = e.pid))
              = [{ entry := e, observed := r.observe want e.pid,
                   reason := identityMismatch host want (r.observe want e.pid) }]) ∧
          ((∃ last ∈ (since calls).polls.getLast?, Sees last e.pid (r.startTime e.pid)) →
            ∀ x ∈ ((filterAfter host calls).filter host r snapshot).rejected,
              x.entry.pid ≠ e.pid) := by
  -- The filter after the calls is that after the polls since the pins were last set.
  have hfollows := run_call host instances calls hcalls
  have hpassed : ((filterAfter host calls).filter host r snapshot).passed
      = snapshot.filter (passes host r (inForce (since calls).pins)) := by
    rw [hfollows.filter]
    exact passed_filter host instances _ hfollows.asks _ hfollows.polls r snapshot hcall.1
  refine ⟨hpassed, ?_, ?_⟩
  · intro e
    rw [hpassed, List.mem_filter, passes]
    refine and_congr_right fun _ => ?_
    rcases (inForce (since calls).pins).lookup (lower e.name) with _ | want
    · exact iff_of_true rfl fun want hwant => by cases hwant
    · simp only [Option.some.injEq, forall_eq', isEmpty_mismatch_iff]
  · intro e he hopen want hwant hno
    have hthis : Instances instances r [e] := by
      intro e' he'
      rw [List.mem_singleton.mp he']
      exact hcall.1 e he
    -- The cache keeps the process just when the last poll has seen it.
    have hkept := @kept_iff_sees host _ _ hfollows.polls _ _ hthis hopen _ hwant
    rw [← hfollows.filter] at hkept
    have hexpected : (filterAfter host calls).expected = inForce (since calls).pins := by
      rw [hfollows.filter]
      exact expected_run _ _
    have hreports := @rejected_filter host r snapshot hcall.2 _ _ hexpected _ he _ hwant
    rw [rejection_eq _ e want hwant hno] at hreports
    constructor
    · intro hnew
      have hunkept := fun h => (hkept.mp h).elim fun last hlast => hnew last hlast.1 hlast.2
      rw [hreports, if_neg hunkept]
      rfl
    · intro hold x hx hpid
      rw [if_pos (hkept.mpr hold)] at hreports
      exact List.filter_eq_nil_iff.mp hreports x hx (decide_eq_true hpid)

section Impostor

/-- A process with a pinned name and another image. -/
def impostor : ProcessEntry := ⟨wide "ä.exe", 4821⟩

theorem ok_impostor :
    (IdentityCall.filter (oneImage (wide "D:\\b.exe")) [impostor]).Ok
      (fun _ _ => ⟨wide "ä.exe", wide "D:\\b.exe", []⟩) := by
  refine ⟨fun e he => ?_, by decide⟩
  rw [List.mem_singleton.mp he]
  exact ⟨fun h => absurd h (by decide), fun _ => ⟨rfl, rfl, rfl⟩⟩

/-- It is kept out again by the second call, and not reported again. -/
theorem identity_cache_invisible_impostor :
    impostor ∉ ((filterAfter foldingHost [.setExpected pinnedSmall,
        .filter (oneImage (wide "D:\\b.exe")) [impostor]]).filter foldingHost
          (oneImage (wide "D:\\b.exe")) [impostor]).passed ∧
      ∀ x ∈ ((filterAfter foldingHost [.setExpected pinnedSmall,
        .filter (oneImage (wide "D:\\b.exe")) [impostor]]).filter foldingHost
          (oneImage (wide "D:\\b.exe")) [impostor]).rejected, x.entry.pid ≠ impostor.pid := by
  -- The pinned path is another one, and the same process was seen by the poll before.
  have hinvisible := identity_cache_invisible foldingHost
    (fun _ _ => ⟨wide "ä.exe", wide "D:\\b.exe", []⟩)
    [.setExpected pinnedSmall, .filter (oneImage (wide "D:\\b.exe")) [impostor]]
    (by
      intro c hc
      rcases List.mem_cons.mp hc with rfl | hc
      · exact asks_pinnedSmall
      · rw [List.mem_singleton.mp hc]
        exact ok_impostor)
    (oneImage (wide "D:\\b.exe")) [impostor] ok_impostor
  have hpin : (inForce pinnedSmall).lookup (lower impostor.name)
      = some ⟨wide "C:\\a.exe", []⟩ := by decide
  have hmismatch : ¬ Matches foldingHost ⟨wide "C:\\a.exe", []⟩
      ((oneImage (wide "D:\\b.exe")).observe ⟨wide "C:\\a.exe", []⟩ impostor.pid) := by decide
  have hthis : impostor ∈ [impostor] := List.mem_singleton.mpr rfl
  refine ⟨fun h => hmismatch (((hinvisible.2.1 impostor).mp h).2 _ hpin), ?_⟩
  exact (hinvisible.2.2 impostor hthis (by decide) _ hpin hmismatch).2
    ⟨_, rfl, impostor, hthis, rfl, rfl⟩

end Impostor

end Telemetry

end ThreadHaul
