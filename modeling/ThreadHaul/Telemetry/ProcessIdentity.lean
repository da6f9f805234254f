import Mathlib.Algebra.Order.Field.Rat
import Mathlib.Data.List.Lex
import ThreadHaul.Lib.OrderedMap
import ThreadHaul.Lib.Runs
import ThreadHaul.Service.Daemon

/-!
# Process Identity

A name can be pinned to the path and the publisher of its image, and
`IdentityFilter` takes the processes out of a snapshot that have a pinned name
and are something else.

What was found about a process is kept, by its process id and its start time,
so each process is looked at once. The cache changes nothing about the answer,
as long as a process keeps its name and its image: `passed_filter` says that
every snapshot is filtered by `passes`, which knows of no cache.

Pins are found by the name with its ASCII letters made small, which is not how
names are compared anywhere else. `barred_iff` says what comes of it.

## Main definitions

* `ExpectedIdentity`, `ObservedIdentity`, `identityMismatch`: A pin, a process,
  and what is wrong with the process.
* `Readings`: What the system says about processes during one call.
* `IdentityFilter`, `setExpected`, `filter`: The filter.
* `passes`: The verdict on one process.
* `Instances`: Processes keep their names and images.
* `Right`, `Settled`: What is kept from call to call.

## Theorems

* `identityMismatch_eq_nil_iff`: When nothing is wrong with a process.
* `passed_filter`: The cache changes nothing.
* `barred_iff`: When a pin keeps a process out.
-/

namespace ThreadHaul

namespace Telemetry

open Actuator Service OrderedMap Runs

/-- What a name is pinned to. An empty text is not compared. -/
structure ExpectedIdentity where
  path : WString
  publisher : WString
  deriving DecidableEq

/-- What a process turned out to be. A text is empty if it could not be read. -/
structure ObservedIdentity where
  path : WString
  publisher : WString
  deriving DecidableEq

/-- `SameText`. -/
def sameText (host : Host) (a b : WString) : Bool := namesEqualIgnoreCase host a b

/-- `towlower` in the C locale. -/
def lowerUnit (c : UInt16) : UInt16 := if 65 ≤ c ∧ c ≤ 90 then c + 32 else c

/-- `Lower`. -/
def lower (s : WString) : WString := s.map lowerUnit

/-- `IdentityMismatch`: what is wrong, or nothing. -/
def identityMismatch (host : Host) (want : ExpectedIdentity) (got : ObservedIdentity) : Bytes :=
  if want.path ≠ [] ∧ got.path = [] then ascii "image path could not be read"
  else if want.path ≠ [] ∧ sameText host want.path got.path = false then
    ascii "runs from " ++ narrow got.path ++ ascii ", expected " ++ narrow want.path
  else if want.publisher ≠ [] ∧ got.publisher = [] then
    ascii "not signed by a trusted publisher"
  else if want.publisher ≠ [] ∧ sameText host want.publisher got.publisher = false then
    ascii "signed by " ++ narrow got.publisher ++ ascii ", expected " ++ narrow want.publisher
  else []

/-- What the system says about processes during one call. -/
structure Readings where
  /-- `StartTime`: zero if the process cannot be opened. -/
  startTime : DWORD → UInt64
  /-- `ProcessImagePath`: empty if the process cannot be opened. -/
  imagePath : DWORD → WString
  /-- The signer of a file, empty if there is none. -/
  signer : WString → WString

/-- `FilePublisher`. -/
def Readings.filePublisher (r : Readings) (path : WString) : WString :=
  if path = [] then [] else r.signer path

/-- What the filter finds out about a process under a pin. -/
def Readings.observe (r : Readings) (want : ExpectedIdentity) (pid : DWORD) : ObservedIdentity where
  path := r.imagePath pid
  publisher := if want.publisher = [] then [] else r.filePublisher (r.imagePath pid)

/-- A verdict, with the start time of the process it is about. -/
structure Cached where
  startTime : UInt64
  ok : Bool

/-- A process that was not what it should be. -/
structure Rejection where
  entry : ProcessEntry
  observed : ObservedIdentity
  reason : Bytes

/-- `IdentityFilter`. -/
structure IdentityFilter where
  expected : List (WString × ExpectedIdentity) := []
  cache : List (DWORD × Cached) := []

/-- `SetExpected`. The names come in order. -/
def setExpected (expected : List (WString × ExpectedIdentity)) : IdentityFilter where
  expected := expected.foldl (fun m p => assign m (lower p.1) p.2) []
  cache := []

/-- What is kept and what is reported of a process that has a pin. -/
def inspect (host : Host) (r : Readings) (cache : List (DWORD × Cached)) (want : ExpectedIdentity)
    (e : ProcessEntry) : Cached × Option Rejection :=
  let start := r.startTime e.pid
  let fresh : Cached × Option Rejection :=
    let got := r.observe want e.pid
    let reason := identityMismatch host want got
    let c : Cached := { startTime := start, ok := reason.isEmpty }
    (c, if c.ok then none else some { entry := e, observed := got, reason := reason })
  match cache.lookup e.pid with
  | none => fresh
  | some c => if c.startTime ≠ start then fresh else (c, none)

/-- What a call of `Filter` has so far. -/
structure Filtering where
  cache : List (DWORD × Cached)
  seen : List (DWORD × Cached)
  passed : List ProcessEntry
  rejected : List Rejection

/-- One turn of the loop in `Filter`. -/
def Filtering.next (host : Host) (r : Readings) (expected : List (WString × ExpectedIdentity))
    (acc : Filtering) (e : ProcessEntry) : Filtering :=
  match expected.lookup (lower e.name) with
  | none => { acc with passed := acc.passed ++ [e] }
  | some want =>
      let (c, rejection) := inspect host r acc.cache want e
      { cache := assign acc.cache e.pid c
        seen := assign acc.seen e.pid c
        passed := if c.ok then acc.passed ++ [e] else acc.passed
        rejected := acc.rejected ++ rejection.toList }

/-- The filter after a call, what passed, and what was rejected for the first
    time. -/
structure Filtered where
  filter : IdentityFilter
  passed : List ProcessEntry
  rejected : List Rejection

/-- `Filter`. -/
def IdentityFilter.filter (host : Host) (r : Readings) (f : IdentityFilter)
    (snapshot : List ProcessEntry) : Filtered :=
  if f.expected.isEmpty then { filter := f, passed := snapshot, rejected := [] }
  else
    let out := snapshot.foldl (Filtering.next host r f.expected) ⟨f.cache, [], [], []⟩
    { filter := { f with cache := out.seen }, passed := out.passed, rejected := out.rejected }

/-- What passes comes from the snapshot. -/
theorem passed_subset (host : Host) (r : Readings) (f : IdentityFilter)
    (snapshot : List ProcessEntry) : ∀ e ∈ (f.filter host r snapshot).passed, e ∈ snapshot := by
  unfold IdentityFilter.filter
  by_cases hempty : f.expected.isEmpty = true
  · rw [if_pos hempty]
    exact fun e he => he
  · rw [if_neg hempty]
    refine List.foldlRecOn (motive := fun acc : Filtering => ∀ e ∈ acc.passed, e ∈ snapshot)
      snapshot (Filtering.next host r f.expected) (fun e he => absurd he List.not_mem_nil) ?_
    intro acc hacc a ha e he
    -- A turn adds its own entry or nothing.
    have hcases : e ∈ acc.passed ∨ e = a := by
      unfold Filtering.next at he
      rcases hwant : f.expected.lookup (lower a.name) with _ | want
      · rw [hwant] at he
        exact (List.mem_append.mp he).imp_right List.mem_singleton.mp
      · rw [hwant] at he
        dsimp only at he
        split_ifs at he
        · exact (List.mem_append.mp he).imp_right List.mem_singleton.mp
        · exact Or.inl he
    rcases hcases with he | rfl
    · exact hacc e he
    · exact ha

/-- The process is what the name is pinned to. -/
structure Matches (host : Host) (want : ExpectedIdentity) (got : ObservedIdentity) : Prop where
  path : want.path ≠ [] → got.path ≠ [] ∧ sameText host want.path got.path = true
  publisher : want.publisher ≠ [] →
    got.publisher ≠ [] ∧ sameText host want.publisher got.publisher = true

theorem ascii_append_ne_nil (s : String) (hs : ascii s ≠ []) (t : Bytes) : ascii s ++ t ≠ [] :=
  fun h => hs (List.append_eq_nil_iff.mp h).1

/-- Nothing is wrong with a process exactly if it matches. -/
theorem identityMismatch_eq_nil_iff (host : Host) (want : ExpectedIdentity)
    (got : ObservedIdentity) :
    identityMismatch host want got = [] ↔ Matches host want got := by
  unfold identityMismatch
  -- The four objections, in the order of the source.
  split_ifs with hread hpath hsigned hpublisher
  · exact iff_of_false (by decide) (fun h => (h.path hread.1).1 hread.2)
  · refine iff_of_false ?_ (fun h => ?_)
    · rw [List.append_assoc, List.append_assoc]
      exact ascii_append_ne_nil "runs from " (by decide) _
    · exact Bool.false_ne_true (hpath.2.symm.trans (h.path hpath.1).2)
  · exact iff_of_false (by decide) (fun h => (h.publisher hsigned.1).1 hsigned.2)
  · refine iff_of_false ?_ (fun h => ?_)
    · rw [List.append_assoc, List.append_assoc]
      exact ascii_append_ne_nil "signed by " (by decide) _
    · exact Bool.false_ne_true (hpublisher.2.symm.trans (h.publisher hpublisher.1).2)
  · -- None of the four objections holds.
    refine iff_of_true rfl ⟨?_, ?_⟩
    · intro hwant
      exact ⟨fun h => hread ⟨hwant, h⟩, Bool.not_eq_false _ ▸ fun h => hpath ⟨hwant, h⟩⟩
    · intro hwant
      exact ⟨fun h => hsigned ⟨hwant, h⟩, Bool.not_eq_false _ ▸ fun h => hpublisher ⟨hwant, h⟩⟩

/-- Whether a program is the expected one can be decided. -/
instance (host : Host) (want : ExpectedIdentity) (got : ObservedIdentity) :
    Decidable (Matches host want got) :=
  decidable_of_iff _ (identityMismatch_eq_nil_iff host want got)

/-- The verdict on a process, without a cache. -/
def passes (host : Host) (r : Readings) (expected : List (WString × ExpectedIdentity))
    (e : ProcessEntry) : Bool :=
  match expected.lookup (lower e.name) with
  | none => true
  | some want => (identityMismatch host want (r.observe want e.pid)).isEmpty

/-- A running process: what is the same about it whenever it is looked at. -/
structure Instance where
  name : WString
  path : WString
  signer : WString

/-- What the filter finds out about an instance under a pin. -/
def Instance.observe (i : Instance) (want : ExpectedIdentity) : ObservedIdentity where
  path := i.path
  publisher := if want.publisher = [] then [] else if i.path = [] then [] else i.signer

/-- Processes keep their names and images: a process that can be opened is the
    instance with its process id and start time, and one that cannot shows no
    image. -/
def Instances (instances : DWORD → UInt64 → Instance) (r : Readings)
    (snapshot : List ProcessEntry) : Prop :=
  ∀ e ∈ snapshot, (r.startTime e.pid = 0 → r.imagePath e.pid = []) ∧
    (r.startTime e.pid ≠ 0 →
      e.name = (instances e.pid (r.startTime e.pid)).name ∧
      r.imagePath e.pid = (instances e.pid (r.startTime e.pid)).path ∧
      r.signer (r.imagePath e.pid) = (instances e.pid (r.startTime e.pid)).signer)

/-- Every pin asks for something. -/
def Asks (expected : List (WString × ExpectedIdentity)) : Prop :=
  ∀ p ∈ expected, p.2.path ≠ [] ∨ p.2.publisher ≠ []

section Cache

variable (host : Host) (instances : DWORD → UInt64 → Instance)

/-- What is kept about a process is the verdict on it. -/
def Right (expected : List (WString × ExpectedIdentity)) (cache : List (DWORD × Cached)) : Prop :=
  ∀ pid c, cache.lookup pid = some c → (c.startTime = 0 → c.ok = false) ∧
    (c.startTime ≠ 0 → ∃ want,
      expected.lookup (lower (instances pid c.startTime).name) = some want ∧
      c.ok = (identityMismatch host want ((instances pid c.startTime).observe want)).isEmpty)

variable {host instances}

/-- A process without an image does not match. -/
theorem not_matches_unread (r : Readings) (want : ExpectedIdentity) (pid : DWORD)
    (hwant : want.path ≠ [] ∨ want.publisher ≠ []) (hpath : r.imagePath pid = []) :
    ¬ Matches host want (r.observe want pid) := by
  intro h
  rcases hwant with hwant | hwant
  · exact (h.path hwant).1 hpath
  · have hpublisher := (h.publisher hwant).1
    simp only [Readings.observe, hpath, Readings.filePublisher, if_true, ite_self, ne_eq,
      not_true] at hpublisher

theorem isEmpty_mismatch_iff (want : ExpectedIdentity) (got : ObservedIdentity) :
    (identityMismatch host want got).isEmpty = true ↔ Matches host want got := by
  rw [List.isEmpty_iff]
  exact identityMismatch_eq_nil_iff host want got

/-- An instance is seen the same way whenever it is looked at. -/
theorem observe_eq (r : Readings) (want : ExpectedIdentity) (pid : DWORD) (i : Instance)
    (hpath : r.imagePath pid = i.path) (hsigner : r.signer (r.imagePath pid) = i.signer) :
    r.observe want pid = i.observe want := by
  simp only [Readings.observe, Instance.observe, Readings.filePublisher, hsigner]
  simp only [hpath]

/-- What a call keeps about a process is the verdict on it. -/
theorem inspect_right (r : Readings) (expected : List (WString × ExpectedIdentity))
    (cache : List (DWORD × Cached)) (hcache : Right host instances expected cache)
    (want : ExpectedIdentity) (e : ProcessEntry) (hasks : want.path ≠ [] ∨ want.publisher ≠ [])
    (hinst : Instances instances r [e]) (hwant : expected.lookup (lower e.name) = some want) :
    (inspect host r cache want e).1.startTime = r.startTime e.pid ∧
      (inspect host r cache want e).1.ok
        = (identityMismatch host want (r.observe want e.pid)).isEmpty := by
  have he := hinst e (List.mem_singleton.mpr rfl)
  unfold inspect
  -- A process that is not in the cache is measured now.
  rcases hc : cache.lookup e.pid with _ | c
  · exact ⟨rfl, rfl⟩
  · by_cases hstart : c.startTime = r.startTime e.pid
    · -- The process is known.
      simp only [hstart, ne_eq, not_true, if_false, true_and]
      have hright := hcache e.pid c hc
      by_cases hzero : r.startTime e.pid = 0
      · have hno := @not_matches_unread host r want e.pid hasks (he.1 hzero)
        rw [hright.1 (hstart.trans hzero), eq_comm, Bool.eq_false_iff]
        exact fun h => hno ((isEmpty_mismatch_iff want _).mp h)
      · rcases he.2 hzero with ⟨hname, hpath, hsigner⟩
        rcases hright.2 (by rw [hstart]; exact hzero) with ⟨want', hwant', hok⟩
        rw [hstart, ← hname, hwant] at hwant'
        cases hwant'
        rw [hok, hstart, observe_eq r want e.pid _ hpath hsigner]
    · simp only [ne_eq, hstart, not_false_eq_true, if_true, and_self]

/-- What is kept after a verdict is still right. -/
theorem right_assign (r : Readings) (expected : List (WString × ExpectedIdentity))
    (cache : List (DWORD × Cached)) (hcache : Right host instances expected cache)
    (want : ExpectedIdentity) (e : ProcessEntry) (hasks : want.path ≠ [] ∨ want.publisher ≠ [])
    (hinst : Instances instances r [e]) (hwant : expected.lookup (lower e.name) = some want)
    (c : Cached) (hstart : c.startTime = r.startTime e.pid)
    (hok : c.ok = (identityMismatch host want (r.observe want e.pid)).isEmpty) :
    Right host instances expected (assign cache e.pid c) := by
  have he := hinst e (List.mem_singleton.mpr rfl)
  intro pid c' hc'
  rw [lookup_assign] at hc'
  -- The other entries are as right as they were.
  by_cases hpid : pid = e.pid
  · rw [if_pos hpid] at hc'
    cases hc'
    subst hpid
    refine ⟨?_, ?_⟩
    · -- Unread, it has no image, and every pin asks for one.
      intro hzero
      have hno := @not_matches_unread host r want e.pid hasks
        (he.1 (hstart.symm.trans hzero))
      rw [hok, Bool.eq_false_iff]
      exact fun h => hno ((isEmpty_mismatch_iff want _).mp h)
    · intro hzero
      rw [hstart] at hzero
      rcases he.2 hzero with ⟨hname, hpath, hsigner⟩
      refine ⟨want, by rw [hstart, ← hname]; exact hwant, ?_⟩
      rw [hok, hstart, observe_eq r want e.pid _ hpath hsigner]
  · rw [if_neg hpid] at hc'
    exact hcache pid c' hc'

/-- One turn of the loop passes the process if the verdict does, and what is kept
    stays right. -/
theorem next_right (r : Readings) (expected : List (WString × ExpectedIdentity))
    (hasks : Asks expected) (e : ProcessEntry) (hinst : Instances instances r [e])
    (acc : Filtering) (hcache : Right host instances expected acc.cache)
    (hseen : Right host instances expected acc.seen) :
    (Filtering.next host r expected acc e).passed
        = acc.passed ++ [e].filter (passes host r expected) ∧
      Right host instances expected (Filtering.next host r expected acc e).cache ∧
      Right host instances expected (Filtering.next host r expected acc e).seen := by
  rcases hwant : expected.lookup (lower e.name) with _ | want
  · -- The name is not pinned.
    have hpass : passes host r expected e = true := by
      rw [passes, hwant]
    have hnext : Filtering.next host r expected acc e
        = { acc with passed := acc.passed ++ [e] } := by
      rw [Filtering.next, hwant]
    rw [hnext, List.filter_cons_of_pos hpass]
    exact ⟨rfl, hcache, hseen⟩
  · have hask := hasks _ (mem_of_lookup expected _ want hwant)
    have hright := inspect_right r expected acc.cache hcache want e hask hinst hwant
    have hpass : passes host r expected e = (inspect host r acc.cache want e).1.ok := by
      rw [passes, hwant, hright.2]
    have hnext : Filtering.next host r expected acc e
        = { cache := assign acc.cache e.pid (inspect host r acc.cache want e).1
            seen := assign acc.seen e.pid (inspect host r acc.cache want e).1
            passed := if (inspect host r acc.cache want e).1.ok then acc.passed ++ [e]
              else acc.passed
            rejected := acc.rejected ++ (inspect host r acc.cache want e).2.toList } := by
      rw [Filtering.next, hwant]
    -- Both caches get the same verdict.
    have hkeeps := fun cache hc => right_assign r expected cache hc want e hask hinst hwant _
      hright.1 hright.2
    rw [hnext]
    refine ⟨?_, hkeeps acc.cache hcache, hkeeps acc.seen hseen⟩
    by_cases hok : (inspect host r acc.cache want e).1.ok = true
    · rw [List.filter_cons_of_pos (hpass.trans hok)]
      exact if_pos hok
    · rw [List.filter_cons_of_neg (by rw [hpass]; exact hok), List.filter_nil, List.append_nil]
      exact if_neg hok

/-- The loop of a call passes what the verdict passes. -/
theorem foldl_next (r : Readings) (expected : List (WString × ExpectedIdentity))
    (hasks : Asks expected) (snapshot : List ProcessEntry) (hinst : Instances instances r snapshot)
    (acc : Filtering) (hcache : Right host instances expected acc.cache)
    (hseen : Right host instances expected acc.seen) :
    (snapshot.foldl (Filtering.next host r expected) acc).passed
        = acc.passed ++ snapshot.filter (passes host r expected) ∧
      Right host instances expected
        (snapshot.foldl (Filtering.next host r expected) acc).seen := by
  -- The cache is read throughout and replaced by what was seen at the end.
  induction snapshot generalizing acc with
  | nil => exact ⟨(List.append_nil _).symm, hseen⟩
  | cons e snapshot ih =>
      have hthis : Instances instances r [e] := by
        intro e' he'
        rw [List.mem_singleton.mp he']
        exact hinst e (List.mem_cons_self ..)
      have hrest : Instances instances r snapshot :=
        fun e' he' => hinst e' (List.mem_cons_of_mem _ he')
      rcases next_right r expected hasks e hthis acc hcache hseen with ⟨hpassed, hcache', hseen'⟩
      rcases ih hrest (Filtering.next host r expected acc e) hcache' hseen' with ⟨hdone, hright⟩
      rw [List.foldl_cons]
      refine ⟨?_, hright⟩
      rw [hdone, hpassed, List.append_assoc, ← List.filter_append, List.singleton_append]

end Cache

/-- The pins that are in force after `SetExpected`. -/
def inForce (pins : List (WString × ExpectedIdentity)) : List (WString × ExpectedIdentity) :=
  (setExpected pins).expected

theorem asks_inForce (pins : List (WString × ExpectedIdentity)) (h : Asks pins) :
    Asks (inForce pins) := by
  refine List.foldlRecOn (motive := Asks) pins _ (fun q hq => absurd hq List.not_mem_nil) ?_
  intro m hm p hp q hq
  rcases mem_assign m _ _ q hq with rfl | hq
  · exact h p hp
  · exact hm q hq

/-- One call of `Filter`. -/
def filterNext (host : Host) (f : IdentityFilter) (call : Readings × List ProcessEntry) :
    IdentityFilter :=
  (f.filter host call.1 call.2).filter

/-- A call keeps the pins, and what it keeps about processes is right. -/
theorem filter_right (host : Host) (instances : DWORD → UInt64 → Instance) (f : IdentityFilter)
    (hasks : Asks f.expected) (hright : Right host instances f.expected f.cache) (r : Readings)
    (snapshot : List ProcessEntry) (hinst : Instances instances r snapshot) :
    (f.filter host r snapshot).passed = snapshot.filter (passes host r f.expected) ∧
      (f.filter host r snapshot).filter.expected = f.expected ∧
      Right host instances f.expected (f.filter host r snapshot).filter.cache := by
  unfold IdentityFilter.filter
  -- Without pins the filter passes everything and touches nothing.
  by_cases hempty : f.expected.isEmpty = true
  · rw [if_pos hempty]
    refine ⟨?_, rfl, hright⟩
    have hall : ∀ e, passes host r f.expected e = true := by
      intro e
      rw [passes, List.isEmpty_iff.mp hempty, List.lookup_nil]
    exact (List.filter_eq_self.mpr (fun e _ => hall e)).symm
  · rw [if_neg hempty]
    have hdone := foldl_next r f.expected hasks snapshot hinst ⟨f.cache, [], [], []⟩ hright
      (fun pid c hc => by cases hc)
    rw [List.nil_append] at hdone
    exact ⟨hdone.1, rfl, hdone.2⟩

/-- The filter has the pins, and the verdicts it keeps are right. -/
structure Settled (host : Host) (instances : DWORD → UInt64 → Instance)
    (pins : List (WString × ExpectedIdentity)) (f : IdentityFilter) : Prop where
  expected : f.expected = inForce pins
  right : Right host instances f.expected f.cache

theorem settled_filterNext (host : Host) (instances : DWORD → UInt64 → Instance)
    (pins : List (WString × ExpectedIdentity)) (hasks : Asks pins) (f : IdentityFilter)
    (call : Readings × List ProcessEntry) (hcall : Instances instances call.1 call.2)
    (h : Settled host instances pins f) : Settled host instances pins (filterNext host f call) := by
  have hnext := filter_right host instances f (by rw [h.expected]; exact asks_inForce pins hasks)
    h.right call.1 call.2 hcall
  refine ⟨hnext.2.1.trans h.expected, ?_⟩
  rw [filterNext, hnext.2.1]
  exact hnext.2.2

/-- After any calls, a call passes what the verdict passes. -/
theorem passed_filter (host : Host) (instances : DWORD → UInt64 → Instance)
    (pins : List (WString × ExpectedIdentity)) (hasks : Asks pins)
    (calls : List (Readings × List ProcessEntry))
    (hcalls : ∀ call ∈ calls, Instances instances call.1 call.2) (r : Readings)
    (snapshot : List ProcessEntry) (hinst : Instances instances r snapshot) :
    ((run (filterNext host) (setExpected pins) calls).filter host r snapshot).passed
      = snapshot.filter (passes host r (inForce pins)) := by
  -- The calls before leave the filter settled, and then the cache does not show.
  have hsettled : Settled host instances pins (run (filterNext host) (setExpected pins) calls) :=
    run_invariant_along (filterNext host) (fun _ call => Instances instances call.1 call.2)
      (Settled host instances pins)
      (fun f call => settled_filterNext host instances pins hasks f call)
      calls _ (along_of_forall_mem _ (fun call => Instances instances call.1 call.2) _ calls hcalls)
      ⟨rfl, fun pid c hc => by cases hc⟩
  have hdone := filter_right host instances _
    (by rw [hsettled.expected]; exact asks_inForce pins hasks) hsettled.right r snapshot hinst
  rw [hsettled.expected] at hdone
  exact hdone.1

/-- A process that a pin of its name objects to is kept out exactly if a pin in
    force for its name with small ASCII letters objects to it as well. -/
theorem barred_iff (host : Host) (instances : DWORD → UInt64 → Instance)
    (pins : List (WString × ExpectedIdentity)) (hasks : Asks pins)
    (calls : List (Readings × List ProcessEntry))
    (hcalls : ∀ call ∈ calls, Instances instances call.1 call.2) (r : Readings)
    (snapshot : List ProcessEntry) (hinst : Instances instances r snapshot) :
    (∀ e ∈ snapshot, ∀ p ∈ pins, sameName host e.name p.1 = true →
        ¬ Matches host p.2 (r.observe p.2 e.pid) →
        e ∉ ((run (filterNext host) (setExpected pins) calls).filter host r snapshot).passed) ↔
      ∀ e ∈ snapshot, ∀ p ∈ pins, sameName host e.name p.1 = true →
        ¬ Matches host p.2 (r.observe p.2 e.pid) →
        ∃ want, (inForce pins).lookup (lower e.name) = some want ∧
          ¬ Matches host want (r.observe want e.pid) := by
  rw [passed_filter host instances pins hasks calls hcalls r snapshot hinst]
  -- To be kept out is to be rejected by the pin in force.
  have hverdict : ∀ e ∈ snapshot, e ∉ snapshot.filter (passes host r (inForce pins)) ↔
      ∃ want, (inForce pins).lookup (lower e.name) = some want ∧
        ¬ Matches host want (r.observe want e.pid) := by
    intro e he
    rw [List.mem_filter, not_and, passes]
    rcases hwant : (inForce pins).lookup (lower e.name) with _ | want
    · refine iff_of_false (fun h => h he rfl) ?_
      rintro ⟨want, hsome, _⟩
      cases hsome
    · simp only [Option.some.injEq, exists_eq_left', isEmpty_mismatch_iff]
      exact ⟨fun h => h he, fun h _ => h⟩
  constructor
  · intro h e he p hp hsame hno
    exact (hverdict e he).mp (h e he p hp hsame hno)
  · intro h e he p hp hsame hno
    exact (hverdict e he).mpr (h e he p hp hsame hno)

section Umlaut

/-- The system folds small letters, among them `ä`. -/
def foldingHost : Host where
  currentProcessId := 1
  upcase c := if (97 ≤ c ∧ c ≤ 122) ∨ c = 228 then c - 32 else c

/-- Every process was started at 1 from one file, which is not signed. -/
def oneImage (path : WString) : Readings where
  startTime _ := 1
  imagePath _ := path
  signer _ := []

/-- `ä.exe` is pinned. -/
def pinnedSmall : List (WString × ExpectedIdentity) :=
  [(wide "ä.exe", { path := wide "C:\\a.exe", publisher := [] })]

theorem asks_pinnedSmall : Asks pinnedSmall := by
  intro p hp
  rw [List.mem_singleton.mp hp]
  exact Or.inl (by decide)

/-- What `barred_iff` says of `Ä.exe` from another place. -/
theorem barred_iff_umlaut :
    (∀ e ∈ [(⟨wide "Ä.exe", 4821⟩ : ProcessEntry)], ∀ p ∈ pinnedSmall,
        sameName foldingHost e.name p.1 = true →
        ¬ Matches foldingHost p.2 ((oneImage (wide "D:\\b.exe")).observe p.2 e.pid) →
        e ∉ ((run (filterNext foldingHost) (setExpected pinnedSmall) []).filter foldingHost
          (oneImage (wide "D:\\b.exe")) [⟨wide "Ä.exe", 4821⟩]).passed) ↔
      ∀ e ∈ [(⟨wide "Ä.exe", 4821⟩ : ProcessEntry)], ∀ p ∈ pinnedSmall,
        sameName foldingHost e.name p.1 = true →
        ¬ Matches foldingHost p.2 ((oneImage (wide "D:\\b.exe")).observe p.2 e.pid) →
        ∃ want, (inForce pinnedSmall).lookup (lower e.name) = some want ∧
          ¬ Matches foldingHost want ((oneImage (wide "D:\\b.exe")).observe want e.pid) := by
  -- The two names differ in a letter that only the comparison of Windows folds.
  refine barred_iff foldingHost (fun _ _ => ⟨wide "Ä.exe", wide "D:\\b.exe", []⟩) pinnedSmall
    asks_pinnedSmall [] (fun call hcall => absurd hcall List.not_mem_nil) _ _ ?_
  intro e he
  rw [List.mem_singleton.mp he]
  exact ⟨fun h => absurd h (by decide), fun _ => ⟨rfl, rfl, rfl⟩⟩

/-- `ä.exe` is pinned, and `Ä.exe` from another place passes. -/
theorem not_barred_umlaut :
    ¬ ∀ e ∈ [(⟨wide "Ä.exe", 4821⟩ : ProcessEntry)], ∀ p ∈ pinnedSmall,
        sameName foldingHost e.name p.1 = true →
        ¬ Matches foldingHost p.2 ((oneImage (wide "D:\\b.exe")).observe p.2 e.pid) →
        e ∉ ((setExpected pinnedSmall).filter foldingHost (oneImage (wide "D:\\b.exe"))
          [⟨wide "Ä.exe", 4821⟩]).passed := by
  intro h
  exact h ⟨wide "Ä.exe", 4821⟩ (by decide) (wide "ä.exe", ⟨wide "C:\\a.exe", []⟩) (by decide)
    (by decide) (by decide) (by decide)

end Umlaut

end Telemetry

end ThreadHaul
