import Mathlib.Data.List.Nodup
import Mathlib.Data.List.Range
import Mathlib.Data.List.TakeWhile
import ThreadHaul.Service.SessionGuard

/-!
# The Access Key

Which key a session guard accepts, in terms of its history.

A key is good for as long as it is the last one issued, nothing has ended it
since, it is not too old and it has been used lately. The guard keeps no
history: it keeps a key, the time it was issued and the time it was last used,
and clears the key when it ends. `Holds` relates the two, and with it `Check`
answers `Ok` exactly for a key that is `Acceptable`.

A key that ended is gone for good, because no key is issued twice.

## Main definitions

* `lastIssue`, `sinceIssue`: The last key issued and what happened since.
* `Acceptable`: What makes a key good.
* `Dead`: A key was refused as expired, or it was signed out.
* `held`, `Holds`: What the guard knows of its history.

## Theorems

* `holds_step`: Every call keeps `Holds`.
* `check_ok_iff`: A check is answered `Ok` for the acceptable key.
* `not_acceptable_of_dead`: A dead key is never acceptable again.
-/

namespace ThreadHaul

namespace Service

/-! ### What makes a key good -/

/-- A key was issued. -/
def Record.isIssue : Record → Bool
  | .issued .. => true
  | _ => false

/-- A check that was answered `Ok`. -/
def Record.accepts : Record → Bool
  | .checked _ _ result _ _ => result == .ok
  | _ => false

/-- A check that found the current key expired. -/
def Record.expires : Record → Bool
  | .checked _ _ result _ _ => result == .expired
  | _ => false

/-- The current key ended: it was signed out or found expired. -/
def Record.ends : Record → Bool
  | .revoked _ => true
  | r => r.expires

/-- The last key issued, and when. -/
def lastIssue : List Record → Option (Bytes × Int)
  | [] => none
  | .issued t key :: _ => some (key, t)
  | _ :: history => lastIssue history

/-- What happened since. -/
def sinceIssue (history : List Record) : List Record := history.takeWhile fun r => !r.isIssue

/-- The key was the last one issued, it has not ended since, it was issued at
    most `absolute` ago, it was issued or accepted at most `idle` ago, and there
    is no lockout. -/
structure Acceptable (limits : Limits) (history : List Record) (now : Int) (presented : Bytes)
    (issuedAt : Int) : Prop where
  latest : lastIssue history = some (presented, issuedAt)
  unended : ∀ r ∈ sinceIssue history, r.ends = false
  young : now - issuedAt ≤ limits.absolute
  inUse : now - issuedAt ≤ limits.idle ∨
    ∃ r ∈ sinceIssue history, r.accepts = true ∧ now - r.time ≤ limits.idle
  unlocked : ∀ r ∈ history, r.starts = true → r.time + limits.lockout ≤ now

/-- The key was refused as expired, or it was the last one issued when there was
    a sign-out. -/
def Dead (history : List Record) (key : Bytes) : Prop :=
  (∃ t wrong starts, .checked t key .expired wrong starts ∈ history) ∨
    ∃ newer t older, history = newer ++ .revoked t :: older ∧
      ∃ issuedAt, lastIssue older = some (key, issuedAt)

/-! ### What the guard knows -/

/-- A key with its time of issue and of last use. -/
structure Held where
  key : Bytes
  issued : Int
  lastUse : Int

/-- The key in force after a history. -/
def held : List Record → Option Held
  | [] => none
  | .issued t key :: _ => some ⟨key, t, t⟩
  | .revoked _ :: _ => none
  | .checked t _ result _ _ :: history =>
      match result with
      | .ok => (held history).map fun h => { h with lastUse := t }
      | .expired => none
      | .invalid => held history
      | .locked => held history

/-- The keys issued, the last one first. -/
def issuedKeys : List Record → List Bytes
  | [] => []
  | .issued _ key :: history => key :: issuedKeys history
  | _ :: history => issuedKeys history

/-- The guard and its history. -/
structure Holds (limits : Limits) (newKey : Nat → Bytes) (s : Session) : Prop
    extends Clocked limits s where
  held_eq : held s.history = if s.guard.key = [] then none
    else some ⟨s.guard.key, s.guard.issued, s.guard.lastUse⟩
  generated : issuedKeys s.history = ((List.range s.generated).map newKey).reverse
  expired : ∀ newer r older, s.history = newer ++ r :: older →
    ∀ t key wrong starts, r = .checked t key .expired wrong starts → key ∈ issuedKeys older

section History

/-- The last issue is where the records since then stop. -/
theorem split_lastIssue (history : List Record) (key : Bytes) (issuedAt : Int)
    (h : lastIssue history = some (key, issuedAt)) :
    ∃ older, history = sinceIssue history ++ .issued issuedAt key :: older := by
  -- The newest record comes first, so the last issue is the first one met.
  induction history with
  | nil => cases h
  | cons r history ih =>
      cases r with
      | issued t key' =>
          cases h
          exact ⟨history, rfl⟩
      | revoked t =>
          rcases ih h with ⟨older, hsplit⟩
          exact ⟨older, congrArg (List.cons _) hsplit⟩
      | checked t presented result wrong starts =>
          rcases ih h with ⟨older, hsplit⟩
          exact ⟨older, congrArg (List.cons _) hsplit⟩

/-- What is no issue comes after the last issue. -/
theorem forall_since_cons (P : Record → Prop) (r : Record) (history : List Record)
    (hr : r.isIssue = false) :
    (∀ r' ∈ sinceIssue (r :: history), P r') ↔ P r ∧ ∀ r' ∈ sinceIssue history, P r' := by
  have hcons : sinceIssue (r :: history) = r :: sinceIssue history :=
    List.takeWhile_cons_of_pos (by rw [hr]; rfl)
  rw [hcons, List.forall_mem_cons]

/-- A key is in force if it was the last one issued and has not ended since. -/
theorem held_isSome_iff (history : List Record) (key : Bytes) (issuedAt : Int) :
    (∃ lastUse, held history = some ⟨key, issuedAt, lastUse⟩) ↔
      lastIssue history = some (key, issuedAt) ∧ ∀ r ∈ sinceIssue history, r.ends = false := by
  -- A record that ends a key leaves none in force.
  have hended : ∀ (r : Record) (history : List Record), r.isIssue = false → r.ends = true →
      held (r :: history) = none → ((∃ lastUse, held (r :: history) =
        some ⟨key, issuedAt, lastUse⟩) ↔ lastIssue (r :: history) = some (key, issuedAt) ∧
          ∀ r' ∈ sinceIssue (r :: history), r'.ends = false) := by
    intro r history hissue hends hnone
    rw [hnone, forall_since_cons _ r history hissue, hends]
    constructor
    · rintro ⟨_, h⟩
      cases h
    · rintro ⟨_, h, _⟩
      cases h
  induction history with
  | nil =>
      constructor
      · rintro ⟨_, h⟩
        cases h
      · rintro ⟨h, _⟩
        cases h
  | cons r history ih =>
      cases r with
      | issued t key' =>
          constructor
          · rintro ⟨_, h⟩
            cases h
            exact ⟨rfl, fun r hr => absurd hr List.not_mem_nil⟩
          · rintro ⟨h, _⟩
            cases h
            exact ⟨issuedAt, rfl⟩
      | revoked t => exact hended (.revoked t) history rfl rfl rfl
      | checked t presented result wrong starts =>
          -- Any other answer than `Expired` leaves the key in force as it was.
          have hkept : result ≠ .expired →
              ((∃ lastUse, held history = some ⟨key, issuedAt, lastUse⟩) ↔
                lastIssue (.checked t presented result wrong starts :: history) =
                    some (key, issuedAt) ∧
                  ∀ r ∈ sinceIssue (.checked t presented result wrong starts :: history),
                    r.ends = false) := by
            intro hresult
            refine ih.trans ?_
            rw [forall_since_cons _ _ history rfl]
            have hends : (Record.checked t presented result wrong starts).ends = false :=
              beq_eq_false_iff_ne.mpr hresult
            exact and_congr_right fun _ => ⟨fun h => ⟨hends, h⟩, fun h => h.2⟩
          cases result with
          | ok =>
              rw [← hkept (by decide)]
              simp only [held, Option.map_eq_some_iff]
              constructor
              · rintro ⟨_, ⟨key', issued, lastUse⟩, h, heq⟩
                cases heq
                exact ⟨lastUse, h⟩
              · rintro ⟨lastUse, h⟩
                exact ⟨t, _, h, rfl⟩
          | invalid => exact hkept (by decide)
          | expired => exact hended _ history rfl rfl rfl
          | locked => exact hkept (by decide)

/-- The time of last use is that of the issue or of the last acceptance. -/
structure LastUsed (history : List Record) (issuedAt lastUse : Int) : Prop where
  source : lastUse = issuedAt ∨ ∃ r ∈ sinceIssue history, r.accepts = true ∧ r.time = lastUse
  issue_le : issuedAt ≤ lastUse
  accepted_le : ∀ r ∈ sinceIssue history, r.accepts = true → r.time ≤ lastUse

/-- A check that is not answered `Ok` is no use. -/
theorem lastUsed_cons (history : List Record) (issuedAt lastUse : Int)
    (h : LastUsed history issuedAt lastUse) (r : Record) (hissue : r.isIssue = false)
    (haccepts : r.accepts = false) : LastUsed (r :: history) issuedAt lastUse where
  source := by
    refine h.source.imp id ?_
    rintro ⟨r', hr', h'⟩
    have hcons : sinceIssue (r :: history) = r :: sinceIssue history :=
      List.takeWhile_cons_of_pos (by rw [hissue]; rfl)
    rw [hcons]
    exact ⟨r', List.mem_cons_of_mem _ hr', h'⟩
  issue_le := h.issue_le
  -- The new record accepts nothing, so the uses are the same.
  accepted_le := by
    rw [forall_since_cons _ r history hissue, haccepts]
    exact ⟨fun hfalse => absurd hfalse Bool.false_ne_true, h.accepted_le⟩

theorem lastUsed_of_held (history : List Record)
    (hordered : history.Pairwise fun r r' => r'.time ≤ r.time) (key : Bytes)
    (issuedAt lastUse : Int) (h : held history = some ⟨key, issuedAt, lastUse⟩) :
    LastUsed history issuedAt lastUse := by
  induction history generalizing lastUse with
  | nil => cases h
  | cons r history ih =>
      cases r with
      | issued t key' =>
          cases h
          exact ⟨Or.inl rfl, le_refl _, fun r hr => absurd hr List.not_mem_nil⟩
      | revoked t => cases h
      | checked t presented result wrong starts =>
          rw [List.pairwise_cons] at hordered
          cases result with
          | ok =>
              obtain ⟨⟨key', issued', lastUse'⟩, hheld, heq⟩ := Option.map_eq_some_iff.mp h
              simp only [Held.mk.injEq] at heq
              obtain ⟨hkey, hissued, huse⟩ := heq
              rw [hkey, hissued] at hheld
              subst huse
              -- The issue is in the history, so it is not younger than this check.
              have hissue : issuedAt ≤ t := by
                obtain ⟨older, hsplit⟩ := split_lastIssue history key issuedAt
                  ((held_isSome_iff history key issuedAt).mp ⟨_, hheld⟩).1
                refine hordered.1 (.issued issuedAt key) ?_
                rw [hsplit]
                exact List.mem_append_right _ (List.mem_cons_self ..)
              refine ⟨Or.inr ⟨_, List.mem_cons_self .., rfl, rfl⟩, hissue, ?_⟩
              refine (forall_since_cons _ _ history rfl).mpr ⟨fun _ => le_refl t, ?_⟩
              intro r hr _
              exact hordered.1 r ((List.takeWhile_sublist _).subset hr)
          | invalid =>
              exact lastUsed_cons history issuedAt lastUse (ih hordered.2 lastUse h) _ rfl rfl
          | expired => cases h
          | locked =>
              exact lastUsed_cons history issuedAt lastUse (ih hordered.2 lastUse h) _ rfl rfl

end History

section Session

variable (limits : Limits) (newKey : Nat → Bytes) (s : Session)

/-- A check is answered `Ok` outside a lockout for the key in force, if that key
    has not expired. -/
theorem check_ok_iff_guard (presented : Bytes) :
    (check limits s.guard s.now presented).2 = .ok ↔
      ¬ s.now < s.guard.lockedUntil ∧ s.guard.matches presented = true ∧
        s.guard.expiredLocked limits s.now = false := by
  constructor
  · intro h
    -- The lock, the key and the expiry are asked for in this order.
    by_cases hlocked : s.now < s.guard.lockedUntil
    · rw [check_of_locked _ _ _ _ hlocked] at h
      cases h
    cases hmatches : s.guard.matches presented with
    | false =>
        rw [check_of_wrong _ _ _ _ hlocked hmatches] at h
        split_ifs at h
    | true =>
        cases hexpired : s.guard.expiredLocked limits s.now with
        | true =>
            rw [check_of_expired _ _ _ _ hlocked hmatches hexpired] at h
            cases h
        | false => exact ⟨hlocked, rfl, rfl⟩
  · rintro ⟨hlocked, hmatches, hlive⟩
    rw [check_of_accepted _ _ _ _ hlocked hmatches hlive]

/-- The key in force is not empty, since no key is. -/
theorem held_eq_some_iff (h : Holds limits newKey s) (key : Bytes) (issuedAt lastUse : Int) :
    held s.history = some ⟨key, issuedAt, lastUse⟩ ↔
      s.guard.key ≠ [] ∧ key = s.guard.key ∧ issuedAt = s.guard.issued ∧
        lastUse = s.guard.lastUse := by
  rw [h.held_eq]
  -- An empty key in the guard means that no key is held.
  split_ifs with hempty
  · constructor
    · intro hnone
      cases hnone
    · rintro ⟨hne, _⟩
      exact absurd hempty hne
  · simp only [Option.some.injEq, Held.mk.injEq]
    constructor
    · rintro ⟨hkey, hissued, huse⟩
      exact ⟨hempty, hkey.symm, hissued.symm, huse.symm⟩
    · rintro ⟨_, hkey, hissued, huse⟩
      exact ⟨hkey.symm, hissued.symm, huse.symm⟩

/-- A check is answered `Ok` for the acceptable key. -/
theorem check_ok_iff (h : Holds limits newKey s) (presented : Bytes) :
    (check limits s.guard s.now presented).2 = .ok ↔
      ∃ issuedAt, Acceptable limits s.history s.now presented issuedAt := by
  rw [check_ok_iff_guard, lt_lockedUntil_iff limits s h.toClocked, Guard.matches_iff,
    Guard.expiredLocked_eq_false_iff]
  constructor
  · rintro ⟨hunlocked, ⟨hne, hkey⟩, hidle, habsolute⟩
    have hheld := (held_eq_some_iff limits newKey s h presented s.guard.issued
      s.guard.lastUse).mpr ⟨hne, hkey, rfl, rfl⟩
    obtain ⟨hlatest, hunended⟩ := (held_isSome_iff s.history presented _).mp ⟨_, hheld⟩
    refine ⟨s.guard.issued, hlatest, hunended, habsolute, ?_, ?_⟩
    · -- The last use is the issue itself, or a check that was answered `Ok`.
      rcases (lastUsed_of_held s.history h.ordered presented _ _ hheld).source with heq | heq
      · rw [← heq]
        exact Or.inl hidle
      · obtain ⟨r, hr, haccepts, htime⟩ := heq
        rw [← htime] at hidle
        exact Or.inr ⟨r, hr, haccepts, hidle⟩
    · intro r hr hstarts
      by_contra hlt
      exact hunlocked ⟨r, hr, hstarts, not_le.mp hlt⟩
  · rintro ⟨issuedAt, hgood⟩
    obtain ⟨lastUse, hheld⟩ := (held_isSome_iff s.history presented issuedAt).mpr
      ⟨hgood.latest, hgood.unended⟩
    have huse := lastUsed_of_held s.history h.ordered presented issuedAt lastUse hheld
    obtain ⟨hne, hkey, hissued, hlast⟩ :=
      (held_eq_some_iff limits newKey s h presented issuedAt lastUse).mp hheld
    refine ⟨?_, ⟨hne, hkey⟩, ?_, ?_⟩
    · rintro ⟨r, hr, hstarts, hlt⟩
      exact absurd hlt (not_lt.mpr (hgood.unlocked r hr hstarts))
    · -- The guard remembers the latest of all uses.
      rw [← hlast]
      have hissue := huse.issue_le
      rcases hgood.inUse with hidle | ⟨r, hr, haccepts, hidle⟩
      · omega
      · have hle := huse.accepted_le r hr haccepts
        omega
    · rw [← hissued]
      exact hgood.young

/-! ### Every call keeps it -/

theorem holds_initial : Holds limits newKey {} where
  toClocked := clocked_initial limits
  held_eq := rfl
  generated := rfl
  expired newer r older h := absurd h.symm (List.append_ne_nil_of_right_ne_nil newer
    (List.cons_ne_nil r older))

theorem holds_tick (h : Holds limits newKey s) (d : Nat) :
    Holds limits newKey { s with now := s.now + d } where
  toClocked := clocked_tick limits s h.toClocked d
  held_eq := h.held_eq
  generated := h.generated
  expired := h.expired

/-- A new key is issued. -/
theorem holds_issue (hne : ∀ n, newKey n ≠ []) (h : Holds limits newKey s)
    (hneeds : s.guard.needsKey limits s.now = true) :
    Holds limits newKey
      { s with
        guard := currentOrNewKey limits s.guard s.now (newKey s.generated)
        generated := s.generated + 1
        history := .issued s.now (newKey s.generated) :: s.history } := by
  rw [currentOrNewKey, if_pos hneeds]
  -- The new key is held from now on, and joins the keys issued.
  refine ⟨clocked_cons limits s h.toClocked (.issued s.now _) rfl
    { s.guard with key := newKey s.generated, issued := s.now, lastUse := s.now } rfl _, ?_, ?_, ?_⟩
  · exact (if_neg (hne s.generated)).symm
  · rw [issuedKeys, h.generated, List.range_succ, List.map_append, List.reverse_append]
    rfl
  · refine (forall_split_cons _ _ s.history).mpr ⟨?_, h.expired⟩
    intro _ _ _ _ hr
    cases hr

/-- The key ends, and nothing is issued. -/
theorem holds_ended (h : Holds limits newKey s) (r : Record) (hclocked : Clocked limits
      { s with guard := { s.guard with key := [] }, history := r :: s.history })
    (hheld : held (r :: s.history) = none)
    (hissued : issuedKeys (r :: s.history) = issuedKeys s.history)
    (hexpired : ∀ t key wrong starts, r = .checked t key .expired wrong starts →
      key ∈ issuedKeys s.history) :
    Holds limits newKey
      { s with guard := { s.guard with key := [] }, history := r :: s.history } where
  toClocked := hclocked
  held_eq := hheld.trans (if_pos rfl).symm
  generated := hissued.trans h.generated
  expired := (forall_split_cons _ r s.history).mpr ⟨hexpired, h.expired⟩

/-- A check that leaves the key in force as it was. -/
theorem holds_kept (h : Holds limits newKey s) (r : Record) (g : Guard) (hclocked : Clocked limits
      { s with guard := g, history := r :: s.history })
    (hheld : held (r :: s.history) = held s.history)
    (hissued : issuedKeys (r :: s.history) = issuedKeys s.history)
    (hexpires : r.expires = false) (hkey : g.key = s.guard.key)
    (hissue : g.issued = s.guard.issued) (huse : g.lastUse = s.guard.lastUse) :
    Holds limits newKey { s with guard := g, history := r :: s.history } where
  toClocked := hclocked
  held_eq := by
    rw [hkey, hissue, huse]
    exact hheld.trans h.held_eq
  generated := hissued.trans h.generated
  expired := by
    refine (forall_split_cons _ r s.history).mpr ⟨?_, h.expired⟩
    -- The new record is no refusal.
    rintro t key wrong starts rfl
    cases hexpires

theorem mem_issuedKeys_of_lastIssue (history : List Record) (key : Bytes) (issuedAt : Int)
    (h : lastIssue history = some (key, issuedAt)) : key ∈ issuedKeys history := by
  induction history with
  | nil => cases h
  | cons r history ih =>
      cases r with
      | issued t key' =>
          cases h
          exact List.mem_cons_self ..
      | revoked t => exact ih h
      | checked t presented result wrong starts => exact ih h

theorem holds_check (h : Holds limits newKey s) (presented : Bytes) (s' : Session)
    (hs : Session.Checks limits s presented s') : Holds limits newKey s' := by
  have hclocked := clocked_check limits s h.toClocked presented s' hs
  cases hs with
  | locked hlocked =>
      exact holds_kept limits newKey s h _ s.guard hclocked rfl rfl rfl rfl rfl rfl
  | started hunlocked hwrong hfull =>
      exact holds_kept limits newKey s h _ _ hclocked rfl rfl rfl rfl rfl rfl
  | invalid hunlocked hwrong hroom =>
      exact holds_kept limits newKey s h _ _ hclocked rfl rfl rfl rfl rfl rfl
  | expired hunlocked hmatches hexpired =>
      refine holds_ended limits newKey s h _ hclocked rfl rfl ?_
      intro t key wrong starts hr
      cases hr
      -- The key that is found expired is the one in force.
      have hkey := (Guard.matches_iff s.guard presented).mp hmatches
      have hheld := (held_eq_some_iff limits newKey s h presented s.guard.issued
        s.guard.lastUse).mpr ⟨hkey.1, hkey.2, rfl, rfl⟩
      exact mem_issuedKeys_of_lastIssue s.history presented _
        ((held_isSome_iff s.history presented _).mp ⟨_, hheld⟩).1
  | accepted hunlocked hmatches hlive =>
      refine ⟨hclocked, ?_, h.generated, ?_⟩
      · have hkey := (Guard.matches_iff s.guard presented).mp hmatches
        change (held s.history).map _ = if s.guard.key = [] then none else _
        rw [h.held_eq, if_neg hkey.1, if_neg hkey.1]
        rfl
      · refine (forall_split_cons _ _ s.history).mpr ⟨?_, h.expired⟩
        intro _ _ _ _ hr
        cases hr

/-- Every call keeps `Holds`. -/
theorem holds_step (hne : ∀ n, newKey n ≠ []) (h : Holds limits newKey s) (op : Operation) :
    Holds limits newKey (s.step limits newKey op) := by
  -- A link may issue a key, a check may use or refuse one, and a sign-out ends it.
  cases op with
  | tick d => exact holds_tick limits newKey s h d
  | link =>
      unfold Session.step Session.link
      split_ifs with hneeds
      · exact holds_issue limits newKey s hne h hneeds
      · exact h
  | check presented =>
      exact holds_check limits newKey s h presented _ (s.check_checks limits presented)
  | revoke =>
      refine holds_ended limits newKey s h (.revoked s.now) ?_ rfl rfl ?_
      · exact clocked_cons limits s h.toClocked (.revoked s.now) rfl (revoke s.guard) rfl _
      · intro _ _ _ _ hr
        cases hr

/-! ### A dead key stays dead -/

theorem issuedKeys_append (newer older : List Record) :
    issuedKeys (newer ++ older) = issuedKeys newer ++ issuedKeys older := by
  induction newer with
  | nil => rfl
  | cons r newer ih =>
      cases r with
      | issued t key => exact congrArg (List.cons key) ih
      | revoked t => exact ih
      | checked t presented result wrong starts => exact ih

/-- No key is issued twice. -/
theorem nodup_issuedKeys (hinj : Function.Injective newKey) (h : Holds limits newKey s) :
    (issuedKeys s.history).Nodup := by
  rw [h.generated, List.nodup_reverse]
  exact List.Nodup.map hinj List.nodup_range

/-- What was issued before the last issue is another key. -/
theorem not_mem_issuedKeys_before (hinj : Function.Injective newKey)
    (h : Holds limits newKey s) (newer older : List Record) (issuedAt : Int) (key : Bytes)
    (hsplit : s.history = newer ++ .issued issuedAt key :: older) : key ∉ issuedKeys older := by
  have hnodup := nodup_issuedKeys limits newKey s hinj h
  rw [hsplit, issuedKeys_append] at hnodup
  exact (List.nodup_cons.mp (List.nodup_append.mp hnodup).2.1).1

/-- A dead key is never acceptable again. -/
theorem not_acceptable_of_dead (hinj : Function.Injective newKey) (h : Holds limits newKey s)
    (key : Bytes) (hdead : Dead s.history key) (now issuedAt : Int) :
    ¬ Acceptable limits s.history now key issuedAt := by
  intro hgood
  -- An acceptable key was issued last, and no key is issued twice.
  obtain ⟨older, hsplit⟩ := split_lastIssue s.history key issuedAt hgood.latest
  have hbefore := not_mem_issuedKeys_before limits newKey s hinj h _ older issuedAt key hsplit
  rcases hdead with ⟨t, wrong, starts, hmem⟩ | ⟨newer, t, older', hrevoked, issuedAt', hlast⟩
  · -- The refusal came after the last issue, or the key was issued twice.
    rw [hsplit] at hmem
    rcases List.mem_append.mp hmem with hmem | hmem
    · cases hgood.unended _ hmem
    · rcases List.mem_cons.mp hmem with heq | hmem
      · cases heq
      · obtain ⟨a, b, hab⟩ := List.append_of_mem hmem
        refine hbefore ?_
        rw [hab, issuedKeys_append]
        refine List.mem_append_right _ ?_
        exact h.expired (sinceIssue s.history ++ .issued issuedAt key :: a) _ b
          (by rw [List.append_assoc, List.cons_append, ← hab]; exact hsplit) t key wrong starts rfl
  · -- So did the sign-out.
    have hkey := mem_issuedKeys_of_lastIssue older' key issuedAt' hlast
    rw [hrevoked] at hsplit
    rcases List.append_eq_append_iff.mp hsplit with ⟨c, hsince, hc⟩ | ⟨c, hsince, hc⟩
    · cases c with
      | nil => cases hc
      | cons r c =>
          injection hc with hr hc
          have hmem : Record.revoked t ∈ sinceIssue s.history := by
            rw [hrevoked, hsince, ← hr]
            exact List.mem_append_right _ (List.mem_cons_self ..)
          cases hgood.unended _ hmem
    · cases c with
      | nil => cases hc
      | cons r c =>
          injection hc with hr hc
          refine hbefore ?_
          change older = c ++ .revoked t :: older' at hc
          rw [hc, issuedKeys_append]
          exact List.mem_append_right _ hkey

end Session

end Service

end ThreadHaul
